/-
# The extreme value of a list

A fold of an operation that picks one of its two arguments, such as `min` and `max`.  It ends
with a value of the list (`foldl_mem`) that is in relation to all the others (`foldl_extreme`),
and where the relation is an order, it does not depend on the order of the list
(`foldl_eq_of_perm`).
-/

import Mathlib

namespace Extremes

/-- An operation picks an argument that is in relation to both. -/
structure Picks {α : Type} (op : α → α → α) (r : α → α → Prop) : Prop where
  pick : ∀ a b, op a b = a ∨ op a b = b
  left : ∀ a b, r (op a b) a
  right : ∀ a b, r (op a b) b
  refl : ∀ a, r a a
  trans : ∀ a b c, r a b → r b c → r a c

variable {α : Type}

theorem picks_min [LinearOrder α] : Picks (min : α → α → α) (· ≤ ·) where
  pick := min_choice
  left := min_le_left
  right := min_le_right
  refl := le_refl
  trans _ _ _ := le_trans

theorem picks_max [LinearOrder α] : Picks (max : α → α → α) (· ≥ ·) where
  pick := max_choice
  left := le_max_left
  right := le_max_right
  refl := le_refl
  trans _ _ _ := ge_trans

variable {op : α → α → α} {r : α → α → Prop} (h : Picks op r)

include h

/-- The result is one of the values. -/
theorem Picks.foldl_mem (xs : List α) (a : α) : xs.foldl op a ∈ a :: xs := by
  induction xs generalizing a with
  | nil => exact List.mem_cons_self
  | cons x xs ih =>
      rw [List.foldl_cons]
      rcases h.pick a x with hpick | hpick
      · rw [hpick]
        rcases List.mem_cons.mp (ih a) with hmem | hmem
        · rw [hmem]
          exact List.mem_cons_self
        · exact List.mem_cons_of_mem _ (List.mem_cons_of_mem _ hmem)
      · rw [hpick]
        exact List.mem_cons_of_mem _ (ih x)

/-- **The result is extreme.** -/
theorem Picks.foldl_extreme (xs : List α) (a : α) : ∀ x ∈ a :: xs, r (xs.foldl op a) x := by
  induction xs generalizing a with
  | nil =>
      intro x hx
      rw [List.mem_singleton.mp hx]
      exact h.refl a
  | cons y xs ih =>
      have hfirst := ih (op a y) (op a y) List.mem_cons_self
      intro x hx
      rw [List.foldl_cons]
      rcases List.mem_cons.mp hx with rfl | hx
      · exact h.trans _ _ _ hfirst (h.left _ y)
      · rcases List.mem_cons.mp hx with rfl | hx
        · exact h.trans _ _ _ hfirst (h.right a _)
        · exact ih (op a y) x (List.mem_cons_of_mem _ hx)

/-- The order of the list does not matter. -/
theorem Picks.foldl_eq_of_perm (hanti : ∀ a b, r a b → r b a → a = b) {xs ys : List α} {a b : α}
    (hperm : (a :: xs).Perm (b :: ys)) : xs.foldl op a = ys.foldl op b :=
  hanti _ _ (h.foldl_extreme xs a _ (hperm.mem_iff.mpr (h.foldl_mem ys b)))
    (h.foldl_extreme ys b _ (hperm.mem_iff.mp (h.foldl_mem xs a)))

end Extremes
