/-
# Base64

The encoding of bytes by the URL-safe alphabet, with padding, and the lenient decoder
that reads it: characters outside the alphabet are skipped, and padding that completes a
group of four ends the input.  Decoding an encoding gives the bytes back
(`decode_encode`), also when the padding was dropped on the way (`dropPadding`).
-/

import Mathlib

namespace Base64

/-- The letter of six bits. -/
def letter (n : Nat) : Char :=
  "ABCDEFGHIJKLMNOPQRSTUVWXYZabcdefghijklmnopqrstuvwxyz0123456789-_".toList.getD n 'A'

/-- The six bits of a letter, of either alphabet. -/
def sextet? (c : Char) : Option Nat :=
  if 'A' ≤ c ∧ c ≤ 'Z' then some (c.toNat - 65)
  else if 'a' ≤ c ∧ c ≤ 'z' then some (c.toNat - 71)
  else if '0' ≤ c ∧ c ≤ '9' then some (c.toNat + 4)
  else if c = '+' ∨ c = '-' then some 62
  else if c = '/' ∨ c = '_' then some 63
  else none

/-- The letters of bytes, without padding. -/
def letters : List UInt8 → List Char
  | [] => []
  | [a] => [letter (a.toNat / 4), letter (a.toNat % 4 * 16)]
  | [a, b] => [letter (a.toNat / 4), letter (a.toNat % 4 * 16 + b.toNat / 16),
      letter (b.toNat % 16 * 4)]
  | a :: b :: c :: rest =>
      letter (a.toNat / 4) :: letter (a.toNat % 4 * 16 + b.toNat / 16) ::
        letter (b.toNat % 16 * 4 + c.toNat / 64) :: letter (c.toNat % 64) :: letters rest

/-- How much padding a text of this many letters needs. -/
def padding (length : Nat) : Nat := (4 - length % 4) % 4

/-- The letters of bytes, padded to groups of four. -/
def encode (bytes : List UInt8) : List Char :=
  letters bytes ++ List.replicate (padding (letters bytes).length) '='

/-- The decoder: `quad` letters of a group are read, `carry` is what they left, and `pads`
signs of padding followed them.  The input may end between groups only. -/
def decodeFrom (quad carry pads : Nat) : List Char → Option (List UInt8)
  | [] => if quad = 0 then some [] else none
  | c :: cs =>
      if c = '=' then
        if quad < 2 then decodeFrom quad carry pads cs
        else if 4 ≤ quad + (pads + 1) then some []
        else decodeFrom quad carry (pads + 1) cs
      else match sextet? c with
        | none => decodeFrom quad carry pads cs
        | some n =>
            match quad with
            | 0 => decodeFrom 1 n 0 cs
            | 1 => (decodeFrom 2 (n % 16) 0 cs).map (UInt8.ofNat (carry * 4 + n / 16) :: ·)
            | 2 => (decodeFrom 3 (n % 4) 0 cs).map (UInt8.ofNat (carry * 16 + n / 4) :: ·)
            | _ => (decodeFrom 0 0 0 cs).map (UInt8.ofNat (carry * 64 + n) :: ·)

/-- The bytes of a text. -/
def decode (cs : List Char) : Option (List UInt8) := decodeFrom 0 0 0 cs

/-! ### Letters -/

theorem sextet?_letter {n : Nat} (h : n < 64) : sextet? (letter n) = some n := by
  revert n
  decide +kernel

theorem letter_ne {n : Nat} : letter n ≠ '=' ∧ letter n ≠ '.' ∧ (letter n).toNat < 128 := by
  by_cases h : n < 64
  · revert n
    decide +kernel
  · have hdefault : letter n = 'A' := by
      unfold letter
      rw [List.getD_eq_default _ _ (by simpa using h)]
    rw [hdefault]
    decide

theorem mem_letters {bytes : List UInt8} {c : Char} (h : c ∈ letters bytes) :
    c ≠ '=' ∧ c ≠ '.' ∧ c.toNat < 128 := by
  fun_induction letters bytes with
  | case1 => cases h
  | case2 a =>
      simp only [List.mem_cons, List.not_mem_nil, or_false] at h
      rcases h with rfl | rfl <;> exact letter_ne
  | case3 a b =>
      simp only [List.mem_cons, List.not_mem_nil, or_false] at h
      rcases h with rfl | rfl | rfl <;> exact letter_ne
  | case4 a b c rest ih =>
      simp only [List.mem_cons] at h
      rcases h with rfl | rfl | rfl | rfl | h
      · exact letter_ne
      · exact letter_ne
      · exact letter_ne
      · exact letter_ne
      · exact ih h

/-! ### Decoding an encoding -/

section Groups

variable {carry pads n : Nat} (h : n < 64) (cs : List Char)
include h

theorem decodeFrom_first : decodeFrom 0 carry pads (letter n :: cs) = decodeFrom 1 n 0 cs := by
  rw [decodeFrom, if_neg letter_ne.1, sextet?_letter h]
  rfl

theorem decodeFrom_second : decodeFrom 1 carry pads (letter n :: cs)
    = (decodeFrom 2 (n % 16) 0 cs).map (UInt8.ofNat (carry * 4 + n / 16) :: ·) := by
  rw [decodeFrom, if_neg letter_ne.1, sextet?_letter h]
  rfl

theorem decodeFrom_third : decodeFrom 2 carry pads (letter n :: cs)
    = (decodeFrom 3 (n % 4) 0 cs).map (UInt8.ofNat (carry * 16 + n / 4) :: ·) := by
  rw [decodeFrom, if_neg letter_ne.1, sextet?_letter h]
  rfl

theorem decodeFrom_fourth : decodeFrom 3 carry pads (letter n :: cs)
    = (decodeFrom 0 0 0 cs).map (UInt8.ofNat (carry * 64 + n) :: ·) := by
  rw [decodeFrom, if_neg letter_ne.1, sextet?_letter h]
  rfl

end Groups

theorem padding_add_four (length : Nat) : padding (length + 4) = padding length := by
  unfold padding
  rw [Nat.add_mod_right]

/-- **Decoding an encoding gives the bytes back.** -/
theorem decode_encode (bytes : List UInt8) : decode (encode bytes) = some bytes := by
  unfold decode encode
  fun_induction letters bytes with
  | case1 => rfl
  | case2 a =>
      have ha := a.toNat_lt
      have hpad : List.replicate (padding 2) '=' = ['=', '='] := rfl
      have hfirst : a.toNat / 4 * 4 + a.toNat % 4 * 16 / 16 = a.toNat := by omega
      simp only [List.length_cons, List.length_nil, Nat.zero_add, Nat.reduceAdd, hpad,
        List.cons_append, List.nil_append]
      rw [decodeFrom_first (by omega), decodeFrom_second (by omega), hfirst, UInt8.ofNat_toNat]
      simp [decodeFrom]
  | case3 a b =>
      have ha := a.toNat_lt
      have hb := b.toNat_lt
      have hpad : List.replicate (padding 3) '=' = ['='] := rfl
      have hfirst : a.toNat / 4 * 4 + (a.toNat % 4 * 16 + b.toNat / 16) / 16 = a.toNat := by omega
      have hsecond : (a.toNat % 4 * 16 + b.toNat / 16) % 16 * 16 + b.toNat % 16 * 4 / 4
          = b.toNat := by omega
      simp only [List.length_cons, List.length_nil, Nat.zero_add, Nat.reduceAdd, hpad,
        List.cons_append, List.nil_append]
      rw [decodeFrom_first (by omega), decodeFrom_second (by omega), decodeFrom_third (by omega),
        hfirst, hsecond, UInt8.ofNat_toNat, UInt8.ofNat_toNat]
      simp [decodeFrom]
  | case4 a b c rest ih =>
      have ha := a.toNat_lt
      have hb := b.toNat_lt
      have hc := c.toNat_lt
      have hfirst : a.toNat / 4 * 4 + (a.toNat % 4 * 16 + b.toNat / 16) / 16 = a.toNat := by omega
      have hsecond : (a.toNat % 4 * 16 + b.toNat / 16) % 16 * 16
          + (b.toNat % 16 * 4 + c.toNat / 64) / 4 = b.toNat := by omega
      have hthird : (b.toNat % 16 * 4 + c.toNat / 64) % 4 * 64 + c.toNat % 64 = c.toNat := by omega
      simp only [List.length_cons, padding_add_four, List.cons_append]
      rw [decodeFrom_first (by omega), decodeFrom_second (by omega), decodeFrom_third (by omega),
        decodeFrom_fourth (by omega), ih, hfirst, hsecond, hthird, UInt8.ofNat_toNat,
        UInt8.ofNat_toNat, UInt8.ofNat_toNat]
      rfl

/-! ### Texts without padding -/

/-- `rstrip("=")` of an encoding leaves its letters. -/
theorem dropPadding (bytes : List UInt8) :
    ((encode bytes).reverse.dropWhile (· == '=')).reverse = letters bytes := by
  unfold encode
  rw [List.reverse_append, List.reverse_replicate, List.dropWhile_append_of_pos (by
    intro c hc
    rw [List.eq_of_mem_replicate hc]
    rfl)]
  cases hletters : (letters bytes).reverse with
  | nil => rw [List.reverse_eq_nil_iff.1 hletters]; rfl
  | cons c cs =>
      have hc : c ∈ letters bytes := List.mem_reverse.1 (hletters ▸ List.mem_cons_self)
      rw [List.dropWhile_cons_of_neg (by simpa using (mem_letters hc).1), ← hletters,
        List.reverse_reverse]

end Base64
