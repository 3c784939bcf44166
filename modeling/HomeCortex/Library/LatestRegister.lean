/-
# A register that keeps the latest value

Every value written carries a time.  A newer value replaces the one that is kept; an
older one, or one of the same time, does not.  After any writes the register holds the
first of the values with the greatest time (`writeAll_firstLatest`), so its time never
goes back (`time_le_writeAll`), and registers that saw the same values, in whatever
order and however often, hold values of the same time (`writeAll_converges`).
-/

import Mathlib

namespace LatestRegister

variable {α κ : Type} [LinearOrder κ] (time : α → κ)

/-- A value is written. -/
def write : Option α → α → Option α
  | none, x => some x
  | some kept, x => if time kept < time x then some x else some kept

/-- Values are written one after another. -/
def writeAll (kept : Option α) (xs : List α) : Option α := xs.foldl (write time) kept

/-- The first of the values with the greatest time. -/
def FirstLatest (xs : List α) (x : α) : Prop :=
  ∃ before after, xs = before ++ x :: after ∧ (∀ y ∈ before, time y < time x) ∧
    ∀ y ∈ after, time y ≤ time x

variable {time} {xs ys : List α} {x y : α}

theorem FirstLatest.mem (h : FirstLatest time xs x) : x ∈ xs := by
  obtain ⟨before, after, rfl, -, -⟩ := h
  exact List.mem_append_right _ List.mem_cons_self

theorem FirstLatest.le (h : FirstLatest time xs x) (hy : y ∈ xs) : time y ≤ time x := by
  obtain ⟨before, after, rfl, hbefore, hafter⟩ := h
  rcases List.mem_append.1 hy with hy | hy
  · exact (hbefore y hy).le
  · rcases List.mem_cons.1 hy with rfl | hy
    · exact le_rfl
    · exact hafter y hy

/-- One more write, after any others. -/
theorem FirstLatest.write (h : FirstLatest time xs x) (y : α) :
    ∃ z, LatestRegister.write time (some x) y = some z ∧ FirstLatest time (xs ++ [y]) z := by
  unfold LatestRegister.write
  by_cases hlt : time x < time y
  · refine ⟨y, if_pos hlt, xs, [], rfl, fun z hz => (h.le hz).trans_lt hlt, ?_⟩
    exact fun z hz => absurd hz List.not_mem_nil
  · obtain ⟨before, after, rfl, hbefore, hafter⟩ := h
    refine ⟨x, if_neg hlt, before, after ++ [y], by simp, hbefore, fun z hz => ?_⟩
    rcases List.mem_append.1 hz with hz | hz
    · exact hafter z hz
    · rw [List.mem_singleton.1 hz]
      exact le_of_not_gt hlt

theorem writeAll_concat (kept : Option α) :
    writeAll time kept (xs ++ [x]) = write time (writeAll time kept xs) x := by
  unfold writeAll
  rw [List.foldl_append]
  rfl

/-- **A register holds the first of the latest values written to it.** -/
theorem writeAll_firstLatest (xs : List α) :
    (xs = [] ∧ writeAll time none xs = none) ∨
      ∃ x, writeAll time none xs = some x ∧ FirstLatest time xs x := by
  induction xs using List.reverseRecOn with
  | nil => exact .inl ⟨rfl, rfl⟩
  | append_singleton xs y ih =>
      rw [writeAll_concat]
      rcases ih with ⟨rfl, hnone⟩ | ⟨x, hx, hlatest⟩
      · rw [hnone]
        refine .inr ⟨y, rfl, [], [], rfl, ?_, ?_⟩ <;>
          exact fun z hz => absurd hz List.not_mem_nil
      · rw [hx]
        exact .inr (hlatest.write y)

/-- **The time of a register never goes back.** -/
theorem time_le_writeAll (xs : List α) :
    ∀ x, ∃ y, writeAll time (some x) xs = some y ∧ time x ≤ time y := by
  induction xs with
  | nil => exact fun x => ⟨x, rfl, le_rfl⟩
  | cons y xs ih =>
      intro x
      change ∃ z, writeAll time (if time x < time y then some y else some x) xs = some z ∧ _
      by_cases hlt : time x < time y
      · rw [if_pos hlt]
        obtain ⟨z, hz, hle⟩ := ih y
        exact ⟨z, hz, hlt.le.trans hle⟩
      · rw [if_neg hlt]
        exact ih x

/-- **Registers that saw the same values converge**: they hold values of one time, the
greatest. -/
theorem writeAll_converges (h : ∀ x, x ∈ xs ↔ x ∈ ys) (hx : writeAll time none xs = some x) :
    ∃ y, writeAll time none ys = some y ∧ y ∈ xs ∧ time y = time x := by
  obtain ⟨rfl, hnone⟩ | ⟨x', hx', hlatest⟩ := @writeAll_firstLatest α κ _ time xs
  · rw [hnone] at hx
    cases hx
  · obtain rfl := Option.some.inj (hx'.symm.trans hx)
    obtain ⟨rfl, -⟩ | ⟨y, hy, hlatest'⟩ := @writeAll_firstLatest α κ _ time ys
    · exact absurd ((h x').1 hlatest.mem) List.not_mem_nil
    · exact ⟨y, hy, (h y).2 hlatest'.mem,
        le_antisymm (hlatest.le ((h y).2 hlatest'.mem)) (hlatest'.le ((h x').1 hlatest.mem))⟩

end LatestRegister
