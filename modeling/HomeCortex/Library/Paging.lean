/-
# Pages of a listing

A reader of a listing asks for the page at an offset and is told where the next page starts, or
that there is none.  `pageOf` cuts a list into such pages and `follow` is the reader, with a
bound on the pages it asks for.  With pages of at least one item the reader is done after as
many pages as there are items, and has read the list (`follow_pageOf`).
-/

import Mathlib

namespace Paging

variable {α : Type}

/-- At most `limit` items from `offset` on, and the offset of the next page. -/
def pageOf (xs : List α) (limit offset : Nat) : List α × Option Nat :=
  let items := (xs.drop offset).take limit
  (items, if offset + items.length < xs.length then some (offset + items.length) else none)

/-- Ask for the page at `offset` and for those after it, `fuel` pages at most. -/
def follow (fetch : Nat → List α × Option Nat) : Nat → Nat → Option (List α)
  | 0, _ => none
  | fuel + 1, offset =>
      match (fetch offset).2 with
      | none => some (fetch offset).1
      | some next => (follow fetch fuel next).map ((fetch offset).1 ++ ·)

/-- **The pages are the list.** -/
theorem follow_pageOf {xs : List α} {limit : Nat} (hlimit : 1 ≤ limit) {fuel offset : Nat}
    (hfuel : xs.length < fuel + offset) (hoffset : offset ≤ xs.length) :
    follow (pageOf xs limit) fuel offset = some (xs.drop offset) := by
  induction fuel generalizing offset with
  | zero => omega
  | succ fuel ih =>
      have hlength : ((xs.drop offset).take limit).length = min limit (xs.length - offset) := by
        rw [List.length_take, List.length_drop]
      by_cases hmore : offset + ((xs.drop offset).take limit).length < xs.length
      · have hnext : (pageOf xs limit offset).2
            = some (offset + ((xs.drop offset).take limit).length) := if_pos hmore
        have hdrop : xs.drop (offset + ((xs.drop offset).take limit).length)
            = (xs.drop offset).drop limit := by
          rw [List.drop_drop, hlength, show min limit (xs.length - offset) = limit by omega]
        rw [follow, hnext]
        dsimp only
        rw [ih (by omega) hmore.le, hdrop, Option.map_some]
        exact congrArg some (List.take_append_drop limit _)
      · have hnext : (pageOf xs limit offset).2 = none := if_neg hmore
        rw [follow, hnext]
        refine congrArg some (List.take_of_length_le ?_)
        rw [List.length_drop]
        omega

end Paging
