/-
# Walks of bounded length

A search for a goal through a relation may bound its depth and avoid the nodes of its
own path.  Avoiding them loses nothing: a shortest walk is simple
(`Within.avoiding`), so the search finds the goal within its bound exactly when a
walk of this length exists.
-/

import Mathlib

namespace BoundedWalk

variable {α : Type} (next : α → α → Prop)

/-- A walk of at most `n` steps. -/
def Within : Nat → α → α → Prop
  | 0, a, b => a = b
  | n + 1, a, b => a = b ∨ ∃ c, next a c ∧ Within n c b

/-- A walk of at most `n` steps that visits no node twice and none of `visited` before
its end. -/
def Avoiding : Nat → List α → α → α → Prop
  | 0, _, a, b => a = b
  | n + 1, visited, a, b => a = b ∨ a ∉ visited ∧ ∃ c, next a c ∧ Avoiding n (a :: visited) c b

variable {next} {n m : Nat} {a b : α} {visited : List α}

theorem Within.refl : ∀ n, Within next n a a
  | 0 => rfl
  | _ + 1 => .inl rfl

theorem Within.mono (h : Within next n a b) (hle : n ≤ m) : Within next m a b := by
  induction n generalizing a m with
  | zero =>
      obtain rfl : a = b := h
      exact Within.refl m
  | succ n ih =>
      obtain ⟨m, rfl⟩ : ∃ k, m = k + 1 := ⟨m - 1, by omega⟩
      rcases h with rfl | ⟨c, hc, h⟩
      · exact .inl rfl
      · exact .inr ⟨c, hc, ih h (by omega)⟩

theorem Within.reflTransGen (h : Within next n a b) : Relation.ReflTransGen next a b := by
  induction n generalizing a with
  | zero =>
      obtain rfl : a = b := h
      exact .refl
  | succ n ih =>
      rcases h with rfl | ⟨c, hc, h⟩
      · exact .refl
      · exact .head hc (ih h)

theorem Avoiding.within (h : Avoiding next n visited a b) : Within next n a b := by
  induction n generalizing a visited with
  | zero => exact h
  | succ n ih =>
      rcases h with rfl | ⟨-, c, hc, h⟩
      · exact .inl rfl
      · exact .inr ⟨c, hc, ih h⟩

theorem Avoiding.mono (h : Avoiding next n visited a b) (hle : n ≤ m) :
    Avoiding next m visited a b := by
  induction n generalizing a m visited with
  | zero =>
      obtain rfl : a = b := h
      cases m with
      | zero => rfl
      | succ m => exact .inl rfl
  | succ n ih =>
      obtain ⟨m, rfl⟩ : ∃ k, m = k + 1 := ⟨m - 1, by omega⟩
      rcases h with rfl | ⟨hfresh, c, hc, h⟩
      · exact .inl rfl
      · exact .inr ⟨hfresh, c, hc, ih h (by omega)⟩

/-- A shortest walk avoids every node that is further from its end. -/
theorem Within.avoiding_of_shortest (h : Within next n a b)
    (hshortest : ∀ m < n, ¬Within next m a b) (hvisited : ∀ v ∈ visited, ¬Within next n v b) :
    Avoiding next n visited a b := by
  induction n generalizing a visited with
  | zero => exact h
  | succ n ih =>
      rcases h with rfl | ⟨c, hc, h⟩
      · exact .inl rfl
      · refine .inr ⟨fun hmem => hvisited a hmem (.inr ⟨c, hc, h⟩), c, hc, ih h ?_ ?_⟩
        · exact fun m hm hwalk => hshortest (m + 1) (by omega) (.inr ⟨c, hc, hwalk⟩)
        · intro v hv hwalk
          rcases List.mem_cons.1 hv with rfl | hv
          · exact hshortest n (by omega) hwalk
          · exact hvisited v hv (hwalk.mono (by omega))

/-- **Avoiding the nodes of the path loses no goal.** -/
theorem Within.avoiding (h : Within next n a b) : Avoiding next n [] a b := by
  classical
  have hex : ∃ m, Within next m a b := ⟨n, h⟩
  have hle : Nat.find hex ≤ n := Nat.find_min' hex h
  refine Avoiding.mono (Within.avoiding_of_shortest (Nat.find_spec hex)
    (fun m hm => Nat.find_min hex hm) fun v hv => ?_) hle
  cases hv

end BoundedWalk
