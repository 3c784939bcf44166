/-
# Streaming text decoders

A `TextDecoder` turns UTF-8 that arrives in pieces into text.  What it is relied on for
is a field: over any pieces, the texts it gives out, the last one when it is flushed,
are together the text whose encoding the pieces are.  A byte order mark at the front is
left out of this, since decoders drop it.

`incremental` is such a decoder: it gives out each character with its last byte.
-/

import Mathlib

/-- The UTF-8 bytes of a text. -/
def utf8Bytes (text : List Char) : List UInt8 := text.flatMap String.utf8EncodeChar

/-- The texts given out for pieces of bytes, and at the end for none. -/
def decodedTexts {σ : Type} (decode : σ → List UInt8 → Bool → List Char × σ) :
    σ → List (List UInt8) → List (List Char)
  | state, [] => [(decode state [] false).1]
  | state, bytes :: rest =>
      (decode state bytes true).1 :: decodedTexts decode (decode state bytes true).2 rest

/-- A decoder object: `decode` takes bytes and whether more will follow. -/
structure TextDecoder where
  State : Type
  start : State
  decode : State → List UInt8 → Bool → List Char × State
  streaming : ∀ (pieces : List (List UInt8)) (text : List Char), text.head? ≠ some '\uFEFF' →
    pieces.flatten = utf8Bytes text → (decodedTexts decode start pieces).flatten = text

namespace TextDecoder

/-- One more byte after the bytes of an unfinished character. -/
def nextByte (pending : List UInt8) (byte : UInt8) : List Char × List UInt8 :=
  match (pending ++ [byte]).toByteArray.utf8DecodeChar? 0 with
  | some c => ([c], [])
  | none => ([], pending ++ [byte])

/-- The characters that end in these bytes, and the bytes of an unfinished one. -/
def nextBytes : List UInt8 → List UInt8 → List Char × List UInt8
  | pending, [] => ([], pending)
  | pending, byte :: bytes =>
      let (text, pending) := nextByte pending byte
      let (rest, pending) := nextBytes pending bytes
      (text ++ rest, pending)

theorem nextBytes_append (pending bytes more : List UInt8) :
    nextBytes pending (bytes ++ more) =
      ((nextBytes pending bytes).1 ++ (nextBytes (nextBytes pending bytes).2 more).1,
        (nextBytes (nextBytes pending bytes).2 more).2) := by
  induction bytes generalizing pending with
  | nil => rfl
  | cons byte bytes ih => simp only [List.cons_append, nextBytes, ih, List.append_assoc]

/-- A proper prefix of a character's encoding decodes to nothing. -/
theorem utf8DecodeChar?_start {c : Char} {bytes rest : List UInt8}
    (h : String.utf8EncodeChar c = bytes ++ rest) (hrest : rest ≠ []) :
    bytes.toByteArray.utf8DecodeChar? 0 = none := by
  rw [← Option.not_isSome_iff_eq_none]
  intro hsome
  obtain ⟨d, hd⟩ := Option.isSome_iff_exists.mp hsome
  have hsize := ByteArray.le_size_of_utf8DecodeChar?_eq_some hd
  have hd' := ByteArray.utf8DecodeChar?_append_eq_some hd rest.toByteArray
  have hc := @ByteArray.utf8DecodeChar?_utf8EncodeChar_append ByteArray.empty c
  rw [ByteArray.append_empty, h, List.toByteArray_append] at hc
  obtain rfl : c = d := Option.some.inj (hc.symm.trans hd')
  have hlength := congrArg List.length h
  rw [String.length_utf8EncodeChar, List.length_append] at hlength
  have := List.length_pos_iff.mpr hrest
  rw [List.size_toByteArray] at hsize
  omega

/-- The bytes of one character, from any of its bytes on, give out the character. -/
theorem nextBytes_char {c : Char} {pending bytes : List UInt8} (hbytes : bytes ≠ [])
    (h : String.utf8EncodeChar c = pending ++ bytes) : nextBytes pending bytes = ([c], []) := by
  induction bytes generalizing pending with
  | nil => exact absurd rfl hbytes
  | cons byte bytes ih =>
      have hwhole : String.utf8EncodeChar c = (pending ++ [byte]) ++ bytes := by
        rw [h, List.append_assoc]
        rfl
      rw [nextBytes, nextByte]
      cases bytes with
      | nil =>
          have hc := @ByteArray.utf8DecodeChar?_utf8EncodeChar_append ByteArray.empty c
          rw [ByteArray.append_empty, h] at hc
          rw [hc]
          rfl
      | cons next bytes =>
          rw [utf8DecodeChar?_start hwhole (List.cons_ne_nil _ _)]
          dsimp only
          rw [ih (List.cons_ne_nil _ _) hwhole]
          rfl

theorem nextBytes_utf8 (text : List Char) : nextBytes [] (utf8Bytes text) = (text, []) := by
  induction text with
  | nil => rfl
  | cons c text ih =>
      have hc : String.utf8EncodeChar c ≠ [] := by
        rw [← List.length_pos_iff, String.length_utf8EncodeChar]
        exact c.utf8Size_pos
      rw [utf8Bytes, List.flatMap_cons, nextBytes_append, nextBytes_char hc (List.nil_append _).symm]
      rw [utf8Bytes] at ih
      rw [ih]
      rfl

theorem decodedTexts_nextBytes (pending : List UInt8) (pieces : List (List UInt8)) :
    (decodedTexts (fun pending bytes _ => nextBytes pending bytes) pending pieces).flatten =
      (nextBytes pending pieces.flatten).1 := by
  induction pieces generalizing pending with
  | nil => rfl
  | cons bytes pieces ih =>
      rw [decodedTexts, List.flatten_cons, ih, List.flatten_cons, nextBytes_append]

/-- The decoder that gives out each character with its last byte. -/
def incremental : TextDecoder where
  State := List UInt8
  start := []
  decode pending bytes _ := nextBytes pending bytes
  streaming pieces text _ h := by
    rw [decodedTexts_nextBytes, h, nextBytes_utf8]

end TextDecoder
