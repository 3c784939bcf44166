/-
# Lines of a text

`str.splitlines` ends a line at more characters than the line feed: three separators of
Unicode among them, which JSON texts carry unescaped.
-/

import Mathlib

namespace HomeCortex

/-- A character at which `str.splitlines` ends a line. -/
def isLineBreak (c : Char) : Bool :=
  ['\n', '\x0b', '\x0c', '\r', '\x1c', '\x1d', '\x1e', '\u0085', '\u2028', '\u2029'].contains c

/-- `str.splitlines`, after some characters of a line. -/
def splitLines (line : List Char) : List Char → List (List Char)
  | [] => if line = [] then [] else [line]
  | '\r' :: '\n' :: rest => line :: splitLines [] rest
  | c :: rest => if isLineBreak c then line :: splitLines [] rest else splitLines (line ++ [c]) rest

/-- One character of a line that is no carriage return. -/
theorem splitLines_step {c : Char} (hc : c ≠ '\r') (line rest : List Char) :
    splitLines line (c :: rest) = if isLineBreak c then line :: splitLines [] rest
      else splitLines (line ++ [c]) rest := by
  rw [splitLines]
  exact fun _ hreturn => absurd hreturn hc

/-- The first line of a text that has no line break up to there. -/
theorem splitLines_prefix {before rest : List Char} {c : Char}
    (hbefore : ∀ d ∈ before, isLineBreak d = false) (hreturn : c ≠ '\r')
    (hc : isLineBreak c = true) (line : List Char) :
    splitLines line (before ++ c :: rest) = (line ++ before) :: splitLines [] rest := by
  induction before generalizing line with
  | nil => rw [List.nil_append, splitLines_step hreturn, if_pos hc, List.append_nil]
  | cons d before ih =>
      obtain ⟨hd, hbefore⟩ := List.forall_mem_cons.mp hbefore
      have hne : d ≠ '\r' := by
        rintro rfl
        exact absurd hd (by decide)
      rw [List.cons_append, splitLines_step hne, if_neg (by simp [hd]), ih hbefore,
        List.append_assoc]
      rfl

theorem splitLines_line {text : List Char} (h : ∀ c ∈ text, isLineBreak c = false)
    (line rest : List Char) :
    splitLines line (text ++ '\n' :: rest) = (line ++ text) :: splitLines [] rest :=
  splitLines_prefix h (by decide) (by decide) line

/-- The lines of a text up to a line feed, and those after it. -/
theorem splitLines_append {text : List Char} (h : '\r' ∉ text) (line rest : List Char) :
    splitLines line (text ++ '\n' :: rest) =
      splitLines line (text ++ ['\n']) ++ splitLines [] rest := by
  induction text generalizing line with
  | nil =>
      rw [List.nil_append, List.nil_append, splitLines_step (by decide),
        splitLines_step (by decide), if_pos (by decide), if_pos (by decide)]
      rfl
  | cons c text ih =>
      obtain ⟨hc, htext⟩ := not_or.mp fun hmem => h (List.mem_cons.mpr hmem)
      rw [List.cons_append, List.cons_append, splitLines_step (Ne.symm hc),
        splitLines_step (Ne.symm hc), ih htext, ih htext]
      split <;> rfl

theorem splitLines_join {texts : List String}
    (h : ∀ text ∈ texts, ∀ c ∈ text.toList, isLineBreak c = false) :
    splitLines [] (String.join (texts.map (· ++ "\n"))).toList = texts.map String.toList := by
  rw [String.toList_join]
  induction texts with
  | nil => rfl
  | cons text texts ih =>
      obtain ⟨htext, htexts⟩ := List.forall_mem_cons.mp h
      rw [List.map_cons, List.flatMap_cons, String.toList_append, List.append_assoc]
      exact (splitLines_line htext [] _).trans (congrArg _ (ih htexts))

end HomeCortex
