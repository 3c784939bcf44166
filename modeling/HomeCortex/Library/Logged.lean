/-
# Computations that leave a log

A `Logged ω ε α` is a computation that may raise and that leaves a log of what happened on
the way; what was logged before it raised stays.  A bind logs what its parts log, so a fact
about every entry of a log is proved part by part.
-/

import Mathlib

/-- The log of a computation and its outcome. -/
structure Logged (ω ε α : Type) where
  log : List ω
  outcome : Except ε α

namespace Logged

variable {ω ε α β : Type}

/-- What follows runs only when nothing was raised. -/
def bind (x : Logged ω ε α) (f : α → Logged ω ε β) : Logged ω ε β :=
  match x.outcome with
  | .ok a => ⟨x.log ++ (f a).log, (f a).outcome⟩
  | .error e => ⟨x.log, .error e⟩

instance : Monad (Logged ω ε) where
  pure a := ⟨[], .ok a⟩
  bind := bind

/-- `raise`. -/
def raise (e : ε) : Logged ω ε α := ⟨[], .error e⟩

/-- A computation without a log. -/
def lift (x : Except ε α) : Logged ω ε α := ⟨[], x⟩

/-- One entry of the log. -/
def tell (entry : ω) : Logged ω ε Unit := ⟨[entry], .ok ()⟩

/-- Replace the exception of a computation, `except E as error: raise …`. -/
def mapError (f : ε → ε) (x : Logged ω ε α) : Logged ω ε α := ⟨x.log, x.outcome.mapError f⟩

@[simp] theorem log_pure (a : α) : (pure a : Logged ω ε α).log = [] := rfl

@[simp] theorem outcome_pure (a : α) : (pure a : Logged ω ε α).outcome = .ok a := rfl

@[simp] theorem log_raise (e : ε) : (raise e : Logged ω ε α).log = [] := rfl

@[simp] theorem outcome_raise (e : ε) : (raise e : Logged ω ε α).outcome = .error e := rfl

@[simp] theorem log_lift (x : Except ε α) : (lift x : Logged ω ε α).log = [] := rfl

@[simp] theorem outcome_lift (x : Except ε α) : (lift x : Logged ω ε α).outcome = x := rfl

@[simp] theorem log_tell (entry : ω) : (tell entry : Logged ω ε Unit).log = [entry] := rfl

@[simp] theorem outcome_tell (entry : ω) : (tell entry : Logged ω ε Unit).outcome = .ok () := rfl

@[simp] theorem log_mapError (f : ε → ε) (x : Logged ω ε α) : (x.mapError f).log = x.log := rfl

variable {x : Logged ω ε α} {f : α → Logged ω ε β}

/-- An entry of a bind is one of its parts. -/
theorem mem_log_bind {entry : ω} :
    entry ∈ (x >>= f).log ↔ entry ∈ x.log ∨ ∃ a, x.outcome = .ok a ∧ entry ∈ (f a).log := by
  change entry ∈ (bind x f).log ↔ _
  rw [bind]
  cases x.outcome <;> simp

theorem outcome_bind_eq_ok {b : β} :
    (x >>= f).outcome = .ok b ↔ ∃ a, x.outcome = .ok a ∧ (f a).outcome = .ok b := by
  change (bind x f).outcome = _ ↔ _
  rw [bind]
  cases x.outcome <;> simp

theorem outcome_bind_eq_error {e : ε} : (x >>= f).outcome = .error e ↔
    x.outcome = .error e ∨ ∃ a, x.outcome = .ok a ∧ (f a).outcome = .error e := by
  change (bind x f).outcome = _ ↔ _
  rw [bind]
  cases x.outcome <;> simp

theorem outcome_mapError_eq_ok {g : ε → ε} {a : α} :
    (x.mapError g).outcome = .ok a ↔ x.outcome = .ok a := by
  rw [mapError]
  cases x.outcome <;> simp [Except.mapError]

theorem outcome_mapError_eq_error {g : ε → ε} {e : ε} :
    (x.mapError g).outcome = .error e ↔ ∃ e', x.outcome = .error e' ∧ g e' = e := by
  rw [mapError]
  cases x.outcome <;> simp [Except.mapError]

/-- Every entry of the log, every result and every exception is of a kind. -/
structure Within (entry : ω → Prop) (result : α → Prop) (failure : ε → Prop)
    (x : Logged ω ε α) : Prop where
  log : ∀ e ∈ x.log, entry e
  ok : ∀ a, x.outcome = .ok a → result a
  error : ∀ e, x.outcome = .error e → failure e

section Within

variable {entry : ω → Prop} {result : α → Prop} {result' : β → Prop} {failure failure' : ε → Prop}

theorem within_pure {a : α} (h : result a) :
    Within entry result failure (pure a : Logged ω ε α) where
  log := nofun
  ok b hb := by
    obtain rfl : a = b := by simpa using hb
    exact h
  error := nofun

theorem within_raise {e : ε} (h : failure e) :
    Within entry result failure (raise e : Logged ω ε α) where
  log := nofun
  ok := nofun
  error e' he := by
    obtain rfl : e = e' := by simpa using he
    exact h

theorem within_lift {x : Except ε α} (hok : ∀ a, x = .ok a → result a)
    (herror : ∀ e, x = .error e → failure e) :
    Within entry result failure (lift x : Logged ω ε α) :=
  ⟨nofun, hok, herror⟩

theorem within_tell {e : ω} (h : entry e) :
    Within entry (fun _ => True) failure (tell e : Logged ω ε Unit) where
  log e' he := by
    obtain rfl : e' = e := by simpa using he
    exact h
  ok _ _ := trivial
  error := nofun

/-- The parts of a bind. -/
theorem Within.bind (hx : Within entry result failure x)
    (hf : ∀ a, x.outcome = .ok a → result a → Within entry result' failure (f a)) :
    Within entry result' failure (x >>= f) where
  log e he := by
    rcases mem_log_bind.mp he with he | ⟨a, ha, he⟩
    · exact hx.log e he
    · exact (hf a ha (hx.ok a ha)).log e he
  ok b hb := by
    obtain ⟨a, ha, hb⟩ := outcome_bind_eq_ok.mp hb
    exact (hf a ha (hx.ok a ha)).ok b hb
  error e he := by
    rcases outcome_bind_eq_error.mp he with he | ⟨a, ha, he⟩
    · exact hx.error e he
    · exact (hf a ha (hx.ok a ha)).error e he

theorem Within.mapError {g : ε → ε} (hx : Within entry result failure x)
    (hg : ∀ e, failure e → failure' (g e)) : Within entry result failure' (x.mapError g) where
  log := hx.log
  ok a ha := hx.ok a (outcome_mapError_eq_ok.mp ha)
  error e he := by
    obtain ⟨e', he', rfl⟩ := outcome_mapError_eq_error.mp he
    exact hg e' (hx.error e' he')

theorem Within.imp {entry' : ω → Prop} {result' : α → Prop} (hx : Within entry result failure x)
    (hentry : ∀ e, entry e → entry' e) (hresult : ∀ a, result a → result' a)
    (hfailure : ∀ e, failure e → failure' e) : Within entry' result' failure' x :=
  ⟨fun e he => hentry e (hx.log e he), fun a ha => hresult a (hx.ok a ha),
    fun e he => hfailure e (hx.error e he)⟩

end Within

end Logged
