/-
# Computations that write and may raise

A method of a stateful object reads and writes its fields and may raise; what it
wrote before it raised stays.  `Raising σ ε α` is such a computation on a state `σ`.
A run has an outcome, a value or an exception, and a state.  `Meets x s Q` says that
the run of `x` from `s` ends in an outcome and a state that satisfy `Q`; there is one
rule for each way to build a computation, so a run is followed step by step.
-/

import Mathlib

/-- A computation on a state that may raise; a raise keeps the state reached. -/
abbrev Raising (σ ε : Type) (α : Type) := ExceptT ε (StateM σ) α

namespace Raising

variable {σ ε α β : Type}

/-- The outcome of a computation and the state it leaves. -/
def outcome (x : Raising σ ε α) (s : σ) : Except ε α × σ := x.run s

/-- The run from `s` ends in an outcome and a state that satisfy `Q`. -/
def Meets (x : Raising σ ε α) (s : σ) (Q : Except ε α → σ → Prop) : Prop :=
  Q (x.outcome s).1 (x.outcome s).2

variable {s : σ} {Q R : Except ε α → σ → Prop}

@[simp] theorem meets_pure {a : α} : Meets (pure a) s Q ↔ Q (.ok a) s := Iff.rfl

@[simp] theorem meets_throw {e : ε} : Meets (throw e) s Q ↔ Q (.error e) s := Iff.rfl

/-- A computation without a state of its own. -/
@[simp] theorem meets_lift {x : Except ε α} :
    Meets (liftM x) s Q ↔ Q x s := Iff.rfl

@[simp] theorem meets_get {Q : Except ε σ → σ → Prop} : Meets get s Q ↔ Q (.ok s) s := Iff.rfl

@[simp] theorem meets_modify {f : σ → σ} {Q : Except ε PUnit → σ → Prop} :
    Meets (modify f) s Q ↔ Q (.ok ⟨⟩) (f s) := Iff.rfl

theorem outcome_bind {x : Raising σ ε α} {f : α → Raising σ ε β} :
    (x >>= f).outcome s = match x.outcome s with
      | (.ok a, s') => (f a).outcome s'
      | (.error e, s') => (.error e, s') := by
  change ExceptT.bindCont f (x.outcome s).1 (x.outcome s).2 = _
  rcases x.outcome s with ⟨_ | _, s'⟩ <;> rfl

/-- What follows runs only when nothing was raised. -/
theorem meets_bind {x : Raising σ ε α} {f : α → Raising σ ε β} {Q : Except ε β → σ → Prop} :
    Meets (x >>= f) s Q ↔ Meets x s fun
      | .ok a, s' => Meets (f a) s' Q
      | .error e, s' => Q (.error e) s' := by
  rw [Meets, outcome_bind, Meets]
  rcases x.outcome s with ⟨_ | _, s'⟩ <;> rfl

@[simp] theorem meets_map {x : Raising σ ε α} {f : α → β} {Q : Except ε β → σ → Prop} :
    Meets (f <$> x) s Q ↔ Meets x s fun outcome s' => Q (outcome.map f) s' := by
  rw [← bind_pure_comp, meets_bind, Meets, Meets]
  rcases x.outcome s with ⟨_ | _, s'⟩ <;> rfl

/-- A computation on a part of a larger state. -/
def zoom {τ : Type} (part : τ → σ) (put : σ → τ → τ) (x : Raising σ ε α) : Raising τ ε α :=
  fun t => ((x.outcome (part t)).1, put (x.outcome (part t)).2 t)

@[simp] theorem meets_zoom {τ : Type} {part : τ → σ} {put : σ → τ → τ} {x : Raising σ ε α} {t : τ}
    {Q : Except ε α → τ → Prop} :
    Meets (zoom part put x) t Q ↔ Meets x (part t) fun outcome s => Q outcome (put s t) :=
  Iff.rfl

/-- Replace the exception of a computation, `except E as error: raise …`. -/
def mapError (f : ε → ε) (x : Raising σ ε α) : Raising σ ε α :=
  fun s => ((x.outcome s).1.mapError f, (x.outcome s).2)

@[simp] theorem meets_mapError {f : ε → ε} {x : Raising σ ε α} :
    Meets (mapError f x) s Q ↔ Meets x s fun outcome s' => Q (outcome.mapError f) s' :=
  Iff.rfl

/-- Undo what a computation wrote before it raised, `except BaseException: undo; raise`. -/
def undoing (x : Raising σ ε α) (undo : Raising σ ε Unit) : Raising σ ε α :=
  fun s => match x.outcome s with
    | (.ok a, s') => (.ok a, s')
    | (.error e, s') => ((undo.outcome s').1.bind fun _ => .error e, (undo.outcome s').2)

/-- A write that takes place whatever the outcome, `finally`. -/
def ensuring (x : Raising σ ε α) (f : σ → σ) : Raising σ ε α :=
  fun s => ((x.outcome s).1, f (x.outcome s).2)

theorem Meets.imp {x : Raising σ ε α} (h : Meets x s Q) (hQ : ∀ outcome s', Q outcome s' → R outcome s') :
    Meets x s R :=
  hQ _ _ h

end Raising
