/-
# Asynchronous generators

A coroutine awaits operations and yields items until it returns.  It goes on when the
awaited operation answers or the consumer asks for the next item; instead of an answer
something may be raised there: a cancellation while it awaits, a `GeneratorExit` where
it yields.  A `Frame` is the body of one function: a coroutine with local variables,
which keep their values when something is raised, so that `ensure` (a `finally` block)
sees them.  `forEach` runs a body for each item of a generator object kept in the
frame, and `aclose` closes that object.

`Coroutine.serve` is one consumer of a generator: it asks for items, until it closes
the generator or a cancellation arrives while an operation is awaited.
-/

import Mathlib

/-- What is raised in a coroutine: an error of the program (`Exception`), or what the
event loop and the consumer raise in it.  `ignoredExit` is the `RuntimeError` of a
generator that yields when it is closed. -/
inductive Thrown (ε : Type) where
  | exception (error : ε)
  | ignoredExit
  | cancelled
  | generatorExit
deriving DecidableEq, Repr

/-- `isinstance(error, Exception)`. -/
def Thrown.isException {ε : Type} : Thrown ε → Bool
  | .exception _ | .ignoredExit => true
  | .cancelled | .generatorExit => false

/-- A coroutine that awaits operations `ι`, yields items `o` and returns an `α`. -/
inductive Coroutine (ι ε o α : Type) where
  | ret (value : α)
  | yield (item : o) (resume : Except (Thrown ε) Unit → Coroutine ι ε o α)
  | await (op : ι) (resume : Except (Thrown ε) Unit → Coroutine ι ε o α)

namespace Coroutine

variable {ι ε o o' α β σ : Type}

/-- One coroutine after the other. -/
def bind : Coroutine ι ε o α → (α → Coroutine ι ε o β) → Coroutine ι ε o β
  | .ret value, f => f value
  | .yield item resume, f => .yield item fun answer => (resume answer).bind f
  | .await op resume, f => .await op fun answer => (resume answer).bind f

instance : Monad (Coroutine ι ε o) where
  pure := .ret
  bind := bind

/-- A coroutine after `GeneratorExit` was raised in it: it may await, but not yield. -/
def closing : Coroutine ι ε o (Except (Thrown ε) Unit) → Coroutine ι ε o' (Except (Thrown ε) Unit)
  | .ret (.error .generatorExit) => .ret (.ok ())
  | .ret outcome => .ret outcome
  | .yield _ _ => .ret (.error .ignoredExit)
  | .await op resume => .await op fun answer => (resume answer).closing

end Coroutine

/-- A generator object: not started, waiting at a `yield`, or finished. -/
inductive Generator (ι ε o : Type) where
  | fresh (body : Coroutine ι ε o (Except (Thrown ε) Unit))
  | suspended (resume : Except (Thrown ε) Unit → Coroutine ι ε o (Except (Thrown ε) Unit))
  | finished

/-- The body of a function: a coroutine with local variables `σ` that may raise. -/
abbrev Frame (ι ε o σ α : Type) := ExceptT (Thrown ε) (StateT σ (Coroutine ι ε o)) α

namespace Frame

variable {ι ε o o' α β σ : Type}

/-- A frame from the values of its variables on. -/
def exec (x : Frame ι ε o σ α) (s : σ) : Coroutine ι ε o (Except (Thrown ε) α × σ) := x.run s

/-- `yield item`. -/
def emit (item : o) : Frame ι ε o σ Unit := fun s => .yield item fun answer => .ret (answer, s)

/-- `await op`. -/
def call (op : ι) : Frame ι ε o σ Unit := fun s => .await op fun answer => .ret (answer, s)

/-- `try: x finally: last`; what `last` raises replaces what `x` raised. -/
def ensure (x last : Frame ι ε o σ Unit) : Frame ι ε o σ Unit := fun s =>
  (x.exec s).bind fun (outcome, s) => (last.exec s).bind fun
    | (.ok (), s) => .ret (outcome, s)
    | (.error error, s) => .ret (.error error, s)

/-- `with suppress(...)`: what `x` raises is dropped when it is of the given classes. -/
def suppress (dropped : Thrown ε → Bool) (x : Frame ι ε o σ Unit) : Frame ι ε o σ Unit := fun s =>
  (x.exec s).bind fun
    | (.error error, s) => .ret (if dropped error then .ok () else .error error, s)
    | (.ok (), s) => .ret (.ok (), s)

/-- The items of a running generator, one after the other, through the body. -/
def loop (body : o → Frame ι ε o' σ Unit) :
    Coroutine ι ε o (Except (Thrown ε) Unit) →
      σ → Coroutine ι ε o' (Except (Thrown ε) Unit × (Generator ι ε o × σ))
  | .ret outcome, s => .ret (outcome, .finished, s)
  | .await op resume, s => .await op fun answer => loop body (resume answer) s
  | .yield item resume, s => ((body item).exec s).bind fun
      | (.ok (), s) => loop body (resume (.ok ())) s
      | (.error error, s) => .ret (.error error, .suspended resume, s)

/-- A body that yields once: the loop yields there, and goes on or ends in that item. -/
theorem loop_yield {body : o → Frame ι ε o' σ Unit} {item : o} {item' : o'} {s s' : σ}
    {resume : Except (Thrown ε) Unit → Coroutine ι ε o (Except (Thrown ε) Unit)}
    (h : (body item).exec s = .yield item' fun answer => .ret (answer, s')) :
    loop body (.yield item resume) s = .yield item' fun
      | .ok () => loop body (resume (.ok ())) s'
      | .error error => .ret (.error error, .suspended resume, s') := by
  rw [loop, h, Coroutine.bind]
  congr 1
  funext answer
  rcases answer with error | ⟨⟩ <;> rfl

/-- A body that does nothing: the loop goes on with the next item. -/
theorem loop_skip {body : o → Frame ι ε o' σ Unit} {item : o} {s : σ}
    {resume : Except (Thrown ε) Unit → Coroutine ι ε o (Except (Thrown ε) Unit)}
    (h : (body item).exec s = .ret (.ok (), s)) :
    loop body (.yield item resume) s = loop body (resume (.ok ())) s := by
  rw [loop, h, Coroutine.bind]

/-- `async for item in generator: body`, the generator being a variable of the frame. -/
def forEach (body : o → Frame ι ε o' σ Unit) : Frame ι ε o' (Generator ι ε o × σ) Unit
  | (.fresh start, s) => loop body start s
  | (.suspended resume, s) => loop body (resume (.ok ())) s
  | (.finished, s) => .ret (.ok (), .finished, s)

/-- `await generator.aclose()`. -/
def aclose : Frame ι ε o' (Generator ι ε o × σ) Unit
  | (.suspended resume, s) => (resume (.error .generatorExit)).closing.bind fun outcome =>
      .ret (outcome, .finished, s)
  | (_, s) => .ret (.ok (), .finished, s)

/-- The generator object of a function, before its first step. -/
def generator (x : Frame ι ε o σ Unit) (s : σ) : Generator ι ε o :=
  .fresh ((x.exec s).bind fun (outcome, _) => .ret outcome)

end Frame

/-! ### A consumer -/

/-- What is seen of a coroutine from outside. -/
inductive Event (ι ε o : Type) where
  | item (value : o)
  | awaited (op : ι) (answer : Except (Thrown ε) Unit)
  | closed

/-- When the consumer stops early: it closes the generator after it took `n` items, or
the `n`-th waiting is cancelled, counted from zero. -/
inductive Stop where
  | never
  | close (n : Nat)
  | cancel (n : Nat)

namespace Coroutine

variable {ι ε o α : Type} (reply : ι → Except (Thrown ε) Unit) (waits : ι → Bool)

/-- The events of a coroutine that does not yield. -/
def drain : Coroutine ι ε Empty α → List (Event ι ε o)
  | .ret _ => []
  | .yield item _ => nomatch item
  | .await op resume => .awaited op (reply op) :: drain (resume (reply op))

/-- The events of a started generator: operations answer as `reply` says, items are
taken one after the other, and the consumer stops early as `stop` says. -/
def run : Stop → Coroutine ι ε o (Except (Thrown ε) Unit) → List (Event ι ε o)
  | _, .ret _ => []
  | stop, .yield item resume =>
      .item item :: match stop with
        | .close 0 => .closed :: drain reply (resume (.error .generatorExit)).closing
        | .close (n + 1) => run (.close n) (resume (.ok ()))
        | stop => run stop (resume (.ok ()))
  | stop, .await op resume =>
      match waits op, stop with
      | true, .cancel 0 =>
          .awaited op (.error .cancelled) :: run .never (resume (.error .cancelled))
      | true, .cancel (n + 1) => .awaited op (reply op) :: run (.cancel n) (resume (reply op))
      | _, stop => .awaited op (reply op) :: run stop (resume (reply op))

section Run

variable {reply waits} {op : ι} {resume : Except (Thrown ε) Unit → Coroutine ι ε o (Except (Thrown ε) Unit)}

/-- An operation that is not cancelled answers, whatever comes later. -/
theorem run_await_steady (h : waits op = false) (stop : Stop) :
    run reply waits stop (.await op resume) =
      .awaited op (reply op) :: run reply waits stop (resume (reply op)) := by
  rw [run.eq_def]
  simp [h]

theorem run_await_never :
    run reply waits .never (.await op resume) =
      .awaited op (reply op) :: run reply waits .never (resume (reply op)) := by
  rw [run.eq_def]
  simp

theorem run_await_close (n : Nat) :
    run reply waits (.close n) (.await op resume) =
      .awaited op (reply op) :: run reply waits (.close n) (resume (reply op)) := by
  rw [run.eq_def]
  simp

theorem run_await_cancelled (h : waits op = true) :
    run reply waits (.cancel 0) (.await op resume) =
      .awaited op (.error .cancelled) :: run reply waits .never (resume (.error .cancelled)) := by
  rw [run.eq_def]
  simp [h]

theorem run_await_later (h : waits op = true) (n : Nat) :
    run reply waits (.cancel (n + 1)) (.await op resume) =
      .awaited op (reply op) :: run reply waits (.cancel n) (resume (reply op)) := by
  rw [run.eq_def]
  simp [h]

theorem run_yield_closed (item : o) :
    run reply waits (.close 0) (.yield item resume) =
      .item item :: .closed :: drain reply (resume (.error .generatorExit)).closing := rfl

theorem run_yield_later (item : o) (n : Nat) :
    run reply waits (.close (n + 1)) (.yield item resume) =
      .item item :: run reply waits (.close n) (resume (.ok ())) := rfl

theorem run_yield_never (item : o) :
    run reply waits .never (.yield item resume) =
      .item item :: run reply waits .never (resume (.ok ())) := rfl

theorem run_yield_cancel (item : o) (n : Nat) :
    run reply waits (.cancel n) (.yield item resume) =
      .item item :: run reply waits (.cancel n) (resume (.ok ())) := rfl

end Run

end Coroutine

/-- The events of a new generator; to close it before its first item starts nothing. -/
def Generator.serve {ι ε o : Type} (reply : ι → Except (Thrown ε) Unit) (waits : ι → Bool) :
    Stop → Generator ι ε o → List (Event ι ε o)
  | .close 0, _ => [.closed]
  | .close (n + 1), .fresh body => body.run reply waits (.close n)
  | stop, .fresh body => body.run reply waits stop
  | _, _ => []
