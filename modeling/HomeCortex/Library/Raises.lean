/-
# What a computation may raise

`RaisesOnly P x` says that every error of `x` is one of `P`.  A sequence raises only such
errors exactly when its first part does, and the rest does after each value of the first
(`raisesOnly_bind`): the parts behind one that fails do not count.  `InOrder` writes this
down for a list of parts, each with its own condition.
-/

import HomeCortex.Library.Checked

namespace Except

variable {ε α β : Type} {P : ε → Prop} {x : Except ε α}

/-- Every error is one of `P`. -/
def RaisesOnly (P : ε → Prop) (x : Except ε α) : Prop := ∀ e, x = .error e → P e

/-- A value is returned. -/
def Accepted (x : Except ε α) : Prop := ∃ a, x = .ok a

@[simp] theorem raisesOnly_ok {a : α} : RaisesOnly P (.ok a : Except ε α) ↔ True :=
  ⟨fun _ => trivial, fun _ _ h => by cases h⟩

@[simp] theorem raisesOnly_pure {a : α} : RaisesOnly P (pure a : Except ε α) ↔ True :=
  raisesOnly_ok

@[simp] theorem raisesOnly_error {e : ε} : RaisesOnly P (.error e : Except ε α) ↔ P e :=
  ⟨fun h => h e rfl, fun h _ he => Except.error.inj he ▸ h⟩

@[simp] theorem raisesOnly_throw {e : ε} : RaisesOnly P (throw e : Except ε α) ↔ P e :=
  raisesOnly_error

/-- **The rule of sequences.** -/
theorem raisesOnly_bind {f : α → Except ε β} :
    RaisesOnly P (x >>= f) ↔ RaisesOnly P x ∧ ∀ a, x = .ok a → RaisesOnly P (f a) := by
  cases x with
  | error e =>
      have hsame : ∀ d, (.error e : Except ε α) = .error d ↔ (.error e : Except ε β) = .error d :=
        fun d => by simp
      exact ⟨fun h => ⟨fun d hd => h d ((hsame d).mp hd), fun _ ha => (by cases ha)⟩,
        fun h d hd => h.1 d ((hsame d).mpr hd)⟩
  | ok a =>
      exact ⟨fun h => ⟨fun _ hd => (by cases hd), fun b hb => Except.ok.inj hb ▸ h⟩,
        fun h => h.2 a rfl⟩

/-- What follows does not look at the value. -/
theorem raisesOnly_bind_const {f : α → Except ε β} {q : Prop}
    (h : ∀ a, x = .ok a → (RaisesOnly P (f a) ↔ q)) :
    RaisesOnly P (x >>= f) ↔ RaisesOnly P x ∧ (Accepted x → q) := by
  rw [raisesOnly_bind]
  refine and_congr_right fun _ => ⟨?_, fun hq a ha => (h a ha).mpr (hq ⟨a, ha⟩)⟩
  rintro hall ⟨a, ha⟩
  exact (h a ha).mp (hall a ha)

/-- What follows is read with the value. -/
theorem raisesOnly_read {f : α → Except ε β} {q : α → Prop} (hx : RaisesOnly P x)
    (hf : ∀ a, x = .ok a → (RaisesOnly P (f a) ↔ q a)) :
    RaisesOnly P (x >>= f) ↔ ∀ a, x = .ok a → q a := by
  rw [raisesOnly_bind, and_iff_right hx]
  exact forall₂_congr hf

@[simp] theorem raisesOnly_map {f : α → β} : RaisesOnly P (x.map f) ↔ RaisesOnly P x := by
  cases x <;> simp [Except.map]

@[simp] theorem accepted_map {f : α → β} : Accepted (x.map f) ↔ Accepted x := by
  cases x <;> simp [Except.map, Accepted]

@[simp] theorem accepted_ok {a : α} : Accepted (.ok a : Except ε α) ↔ True :=
  ⟨fun _ => trivial, fun _ => ⟨a, rfl⟩⟩

theorem RaisesOnly.mono {Q : ε → Prop} (h : RaisesOnly P x) (hPQ : ∀ e, P e → Q e) :
    RaisesOnly Q x := fun e he => hPQ e (h e he)

/-- **The rule of mappings**: an element counts when those before it are accepted. -/
theorem raisesOnly_mapM {f : α → Except ε β} {xs : List α} :
    RaisesOnly P (xs.mapM f) ↔
      ∀ before a after, xs = before ++ a :: after → (∀ b ∈ before, Accepted (f b)) →
        RaisesOnly P (f a) := by
  induction xs with
  | nil => simp [Accepted]
  | cons x xs ih =>
      have hstep : (x :: xs).mapM f = f x >>= fun y => xs.mapM f >>= fun ys => pure (y :: ys) :=
        List.mapM_cons
      have hrest : ∀ y : β, RaisesOnly P (xs.mapM f >>= fun ys => pure (y :: ys)) ↔
          RaisesOnly P (xs.mapM f) := fun y => by
        rw [raisesOnly_bind]
        exact and_iff_left fun ys _ => raisesOnly_pure.mpr trivial
      rw [hstep, raisesOnly_bind_const (fun y _ => hrest y), ih]
      constructor
      · rintro ⟨hx, hxs⟩ before a after hsplit hbefore
        cases before with
        | nil =>
            obtain ⟨rfl, -⟩ := List.cons.inj hsplit
            exact hx
        | cons b before =>
            obtain ⟨rfl, htail⟩ := List.cons.inj (hsplit.trans List.cons_append)
            exact hxs (hbefore x List.mem_cons_self) before a after htail
              fun c hc => hbefore c (List.mem_cons_of_mem x hc)
      · intro h
        refine ⟨h [] x xs rfl (fun _ hb => absurd hb List.not_mem_nil), ?_⟩
        intro hx before a after hsplit hbefore
        refine h (x :: before) a after (by rw [hsplit, List.cons_append]) ?_
        rintro b (_ | ⟨_, hb⟩)
        · exact hx
        · exact hbefore b hb

/-- An optional part. -/
@[simp] theorem raisesOnly_optionMapM {f : α → Except ε β} {part : Option α} :
    RaisesOnly P (part.mapM f) ↔ ∀ a, part = some a → RaisesOnly P (f a) := by
  cases part with
  | none => simp [RaisesOnly, pure, Except.pure]
  | some a =>
      have hpart : (some a).mapM f = (f a).map some := rfl
      rw [hpart, raisesOnly_map]
      exact ⟨fun h b hb => Option.some.inj hb ▸ h, fun h => h a rfl⟩

/-- The conditions of parts read one after the other, each with what it is to be accepted. -/
def InOrder : List (Prop × Prop) → Prop
  | [] => True
  | (fits, accepted) :: rest => fits ∧ (accepted → InOrder rest)

/-- A part that is read under a condition. -/
def part (fits : Prop) (x : Except ε α) : Prop × Prop := (fits, Accepted x)

/-- What is left, with its condition. -/
def whole (fits : Prop) : Prop × Prop := (fits, True)

/-- What is left is one part. -/
theorem raisesOnly_whole {fits : Prop} (hx : RaisesOnly P x ↔ fits) :
    RaisesOnly P x ↔ InOrder [whole fits] :=
  hx.trans (and_iff_left fun _ => trivial).symm

/-- A part with its condition, in front of the others. -/
theorem raisesOnly_part {f : α → Except ε β} {fits : Prop} {rest : List (Prop × Prop)}
    (hx : RaisesOnly P x ↔ fits) (hf : ∀ a, x = .ok a → (RaisesOnly P (f a) ↔ InOrder rest)) :
    RaisesOnly P (x >>= f) ↔ InOrder (part fits x :: rest) := by
  rw [raisesOnly_bind_const hf, hx]
  rfl

/-- Nothing follows that could raise. -/
theorem raisesOnly_done (hx : RaisesOnly P x) : RaisesOnly P x ↔ InOrder [] :=
  iff_of_true hx trivial

/-- A part in front of nothing that could raise. -/
theorem raisesOnly_last {f : α → Except ε β} {fits : Prop} (hx : RaisesOnly P x ↔ fits)
    (hf : ∀ a, RaisesOnly P (f a)) : RaisesOnly P (x >>= f) ↔ InOrder [part fits x] :=
  raisesOnly_part hx fun a _ => raisesOnly_done (hf a)

end Except
