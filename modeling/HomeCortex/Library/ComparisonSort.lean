/-
# Sorting by comparisons that may raise

`sort` inserts the items one after another, each behind those that are not greater, with a
comparison `lt` that may raise; an exception leaves the sort.  What a sort returns holds the
same items (`sort_perm`).  Where `lt` is the order of a key, nothing is raised and the keys
stand in order (`sort_by_key`).
-/

import Mathlib

namespace ComparisonSort

variable {α ε : Type} (lt : α → α → Except ε Bool)

/-- Insert `x` behind every item that is not greater. -/
def insert (x : α) : List α → Except ε (List α)
  | [] => .ok [x]
  | y :: ys => do
      if ← lt x y then return x :: y :: ys
      else return y :: (← insert x ys)

/-- The items in order. -/
def sort (xs : List α) : Except ε (List α) :=
  xs.foldlM (fun sorted x => insert lt x sorted) []

variable {lt}

theorem insert_cons (x y : α) (ys : List α) : insert lt x (y :: ys) =
    (lt x y).bind fun less =>
      if less then .ok (x :: y :: ys) else (insert lt x ys).bind fun zs => .ok (y :: zs) := by
  rw [insert]
  cases lt x y with
  | error _ => rfl
  | ok less => cases less <;> rfl

theorem insert_perm {x : α} {ys zs : List α} (h : insert lt x ys = .ok zs) :
    zs.Perm (x :: ys) := by
  induction ys generalizing zs with
  | nil => exact (Except.ok.inj h) ▸ List.Perm.refl _
  | cons y ys ih =>
      rw [insert_cons] at h
      cases hless : lt x y with
      | error e => rw [hless] at h; cases h
      | ok less =>
          rw [hless] at h
          cases less with
          | true => exact (Except.ok.inj h) ▸ List.Perm.refl _
          | false =>
              cases hrest : insert lt x ys with
              | error e => simp [Except.bind, hrest] at h
              | ok rest =>
                  have hzs : y :: rest = zs := by simpa [Except.bind, hrest] using h
                  exact hzs ▸ ((ih hrest).cons y).trans (.swap x y ys)

theorem foldlM_insert_perm {xs sorted zs : List α}
    (h : xs.foldlM (fun sorted x => insert lt x sorted) sorted = .ok zs) :
    zs.Perm (xs ++ sorted) := by
  induction xs generalizing sorted with
  | nil => exact (Except.ok.inj h) ▸ List.Perm.refl _
  | cons x xs ih =>
      rw [List.foldlM_cons] at h
      cases hx : insert lt x sorted with
      | error e => rw [hx] at h; cases h
      | ok next =>
          rw [hx] at h
          exact (ih h).trans (((insert_perm hx).append_left xs).trans List.perm_middle)

/-- **A sort keeps the items.** -/
theorem sort_perm {xs zs : List α} (h : sort lt xs = .ok zs) : zs.Perm xs := by
  simpa using foldlM_insert_perm h

section Keys

variable {κ : Type} [LinearOrder κ] {key : α → κ}

theorem insert_by_key {x : α} {xs : List α}
    (hlt : ∀ y ∈ xs, lt x y = .ok (decide (key x < key y)))
    (hsorted : xs.Pairwise fun a b => key a ≤ key b) :
    ∃ ys, insert lt x xs = .ok ys ∧ ys.Pairwise fun a b => key a ≤ key b := by
  induction xs with
  | nil => exact ⟨[x], rfl, List.pairwise_singleton _ _⟩
  | cons y xs ih =>
      obtain ⟨hle, hrest⟩ := List.pairwise_cons.1 hsorted
      obtain ⟨ys, hys, hpairwise⟩ := ih (fun z hz => hlt z (List.mem_cons_of_mem _ hz)) hrest
      rw [insert_cons, hlt y List.mem_cons_self]
      by_cases hless : key x < key y
      · refine ⟨x :: y :: xs, by simp [Except.bind, hless], List.pairwise_cons.2 ⟨?_, hsorted⟩⟩
        intro z hz
        rcases List.mem_cons.1 hz with rfl | hz
        · exact hless.le
        · exact hless.le.trans (hle z hz)
      · refine ⟨y :: ys, by simp [Except.bind, hless, hys], List.pairwise_cons.2 ⟨?_, hpairwise⟩⟩
        intro z hz
        rcases List.mem_cons.1 ((insert_perm hys).mem_iff.1 hz) with rfl | hz
        · exact not_lt.1 hless
        · exact hle z hz

/-- **A sort by a key** raises nothing and puts the keys in order. -/
theorem sort_by_key {xs : List α}
    (hlt : ∀ x ∈ xs, ∀ y ∈ xs, lt x y = .ok (decide (key x < key y))) :
    ∃ ys, sort lt xs = .ok ys ∧ ys.Pairwise fun a b => key a ≤ key b := by
  suffices h : ∀ (rest sorted : List α), (∀ x ∈ rest, x ∈ xs) → (∀ x ∈ sorted, x ∈ xs) →
      (sorted.Pairwise fun a b => key a ≤ key b) →
      ∃ ys, rest.foldlM (fun sorted x => insert lt x sorted) sorted = .ok ys ∧
        ys.Pairwise fun a b => key a ≤ key b from
    h xs [] (fun _ hx => hx) (fun _ hx => by cases hx) List.Pairwise.nil
  intro rest
  induction rest with
  | nil => exact fun sorted _ _ hpairwise => ⟨sorted, rfl, hpairwise⟩
  | cons x rest ih =>
      intro sorted hrest hsorted hpairwise
      obtain ⟨next, hnext, hpairwise⟩ := insert_by_key
        (fun y hy => hlt x (hrest x List.mem_cons_self) y (hsorted y hy)) hpairwise
      have hmem : ∀ y ∈ next, y ∈ xs := by
        intro y hy
        rcases List.mem_cons.1 ((insert_perm hnext).mem_iff.1 hy) with rfl | hy
        · exact hrest _ List.mem_cons_self
        · exact hsorted y hy
      obtain ⟨ys, hys, hpairwise⟩ :=
        ih next (fun y hy => hrest y (List.mem_cons_of_mem _ hy)) hmem hpairwise
      refine ⟨ys, ?_, hpairwise⟩
      rw [List.foldlM_cons, hnext]
      exact hys

end Keys

end ComparisonSort
