/-
# Texts of floats

A `FloatFormat` that can be run: `float.__repr__` for some floats, and the bits for all
others.
-/

import HomeCortex.Common.CanonicalJson
import HomeCortex.Library.Binary64

namespace HomeCortex

/-- The texts of some floats. -/
def plainTexts : List (List Char × FiniteFloat) := [
  (['0', '.', '0'], ⟨0.0, rfl⟩), (['-', '0', '.', '0'], ⟨-0.0, rfl⟩),
  (['0', '.', '2', '5'], ⟨0.25, rfl⟩), (['0', '.', '5'], ⟨0.5, rfl⟩), (['1', '.', '0'], ⟨1.0, rfl⟩)]

/-- The float with some bits, before an `e`. -/
def readBits (token : List Char) : Option FiniteFloat :=
  let x := Float.ofBits (UInt64.ofNat (Nat.ofDigitChars 10 (token.takeWhile Char.isDigit) 0))
  if h : x.isFinite = true then some ⟨x, h⟩ else none

theorem readBits_text (x : FiniteFloat) :
    readBits (Nat.toDigits 10 x.1.toBits.toNat ++ ['e']) = some x := by
  have hdigits : ∀ c ∈ Nat.toDigits 10 x.1.toBits.toNat, c.isDigit = true := fun c hc =>
    Nat.isDigit_of_mem_toDigits (by decide) (by decide) hc
  have htake : (Nat.toDigits 10 x.1.toBits.toNat ++ ['e']).takeWhile Char.isDigit =
      Nat.toDigits 10 x.1.toBits.toNat := by
    rw [List.takeWhile_append_of_pos hdigits]
    exact List.append_nil _
  have hbits : Float.ofBits x.1.toBits = x.1 := by
    obtain ⟨⟨model⟩, hx⟩ := x
    exact congrArg Float.ofModel (Binary64.model_pack_unpack model)
  rw [readBits]
  simp only [htake, Nat.ofDigitChars_ten_toDigits, UInt64.ofNat_toNat, hbits]
  exact dif_pos x.2

/-- Texts of floats: as `float.__repr__` for some, and the bits for all others. -/
def plainText (x : FiniteFloat) : List Char :=
  match plainTexts.find? fun entry => entry.2 = x with
  | some entry => entry.1
  | none => Nat.toDigits 10 x.1.toBits.toNat ++ ['e']

/-- The two kinds of texts. -/
theorem plainText_cases (x : FiniteFloat) : (plainText x, x) ∈ plainTexts ∨
    plainText x = Nat.toDigits 10 x.1.toBits.toNat ++ ['e'] := by
  rw [plainText]
  split
  case h_1 entry hfind =>
    have hx : entry.2 = x := by simpa using List.find?_some hfind
    exact .inl (hx ▸ List.mem_of_find?_eq_some hfind)
  case h_2 => exact .inr rfl

theorem plainText_chars (x : FiniteFloat) : ∀ c ∈ plainText x, JsonText.isNumberChar c = true := by
  rcases plainText_cases x with hmem | htext
  · have hall : (plainTexts.all fun entry => entry.1.all JsonText.isNumberChar) = true := by decide
    exact List.all_eq_true.mp (List.all_eq_true.mp hall _ hmem)
  · rw [htext]
    intro c hc
    rcases List.mem_append.mp hc with hc | hc
    · simp [JsonText.isNumberChar, Nat.isDigit_of_mem_toDigits (by decide) (by decide) hc]
    · rw [List.mem_singleton.mp hc]
      decide

/-- Texts of floats and how they are read. -/
def plainFloats : FloatFormat where
  text := plainText
  read cs :=
    let token := cs.takeWhile JsonText.isNumberChar
    let rest := cs.dropWhile JsonText.isNumberChar
    match plainTexts.find? fun entry => entry.1 = token with
    | some entry => some (entry.2, rest)
    | none => (readBits token).map fun x => (x, rest)
  text_head x := by
    rcases plainText_cases x with hmem | htext
    · have hall : ∀ entry ∈ plainTexts, ∃ c cs, entry.1 = c :: cs ∧ (c = '-' ∨ c.isDigit = true) := by
        simp [plainTexts]
      exact hall _ hmem
    · obtain ⟨c, cs, h, hc⟩ := JsonText.toDigits_cons x.1.toBits.toNat
      exact ⟨c, cs ++ ['e'], by rw [htext, h, List.cons_append], .inr hc⟩
  text_chars := plainText_chars
  read_text x rest hrest := by
    have htake := PyNumber.takeWhile_delimited (plainText_chars x) hrest
    have hdrop : (plainText x ++ rest).dropWhile JsonText.isNumberChar = rest := by
      have := List.takeWhile_append_dropWhile (p := JsonText.isNumberChar) (l := plainText x ++ rest)
      rw [htake] at this
      exact List.append_cancel_left this
    simp only [htake, hdrop]
    rcases plainText_cases x with hmem | htext
    · have hall : ∀ entry ∈ plainTexts,
          plainTexts.find? (fun other => other.1 = entry.1) = some entry := by
        simp [plainTexts]
      rw [hall _ hmem]
    · have hlast : ∀ entry ∈ plainTexts, entry.1.getLast? ≠ some 'e' := by
        simp [plainTexts]
      have hnone : plainTexts.find? (fun other => other.1 = plainText x) = none := by
        rw [List.find?_eq_none]
        intro entry hentry
        rw [decide_eq_true_eq]
        intro heq
        exact hlast entry hentry (by rw [heq, htext]; simp)
      rw [hnone, htext, readBits_text]
      rfl
  text_point x := by
    rcases plainText_cases x with hmem | htext
    · have hall : ∀ entry ∈ plainTexts, entry.1.any isPoint = true := by
        simp [plainTexts, isPoint]
      exact hall _ hmem
    · rw [htext]
      simp [isPoint]

end HomeCortex
