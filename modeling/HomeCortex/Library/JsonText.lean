/-
# JSON text

A JSON document over a type of numbers, its text, and a reader of that text.  The
text has the separators of the writer (`Layout`), escapes in strings only what JSON
demands, and leaves every other character as it is.  The reader accepts blanks
between tokens and the escapes of the grammar.  `read_render` is the round trip,
`render_injective` what follows from it: two documents with one text are equal.

Numbers come with their own texts and reader (`NumberFormat`); `integers` is the
decimal one.
-/

import Mathlib

/-- A JSON document; an object is its list of members. -/
inductive JsonDoc (ν : Type) where
  | null
  | bool (value : Bool)
  | num (value : ν)
  | str (value : String)
  | arr (items : List (JsonDoc ν))
  | obj (fields : List (String × JsonDoc ν))

namespace JsonText

/-- The white space of the grammar. -/
def isBlank (c : Char) : Bool := c == ' ' || c == '\t' || c == '\n' || c == '\r'

/-- The characters that a number is made of. -/
def isNumberChar (c : Char) : Bool :=
  c.isDigit || c == '-' || c == '+' || c == '.' || c == 'e' || c == 'E'

/-- A text that does not go on with a number. -/
def Delimited (rest : List Char) : Prop := ∀ c ∈ rest.head?, isNumberChar c = false

/-- Numbers with their texts, which start like a JSON number and can be read back. -/
structure NumberFormat (ν : Type) where
  text : ν → List Char
  read : List Char → Option (ν × List Char)
  text_head : ∀ n, ∃ c cs, text n = c :: cs ∧ (c = '-' ∨ c.isDigit = true)
  text_chars : ∀ n, ∀ c ∈ text n, isNumberChar c = true
  read_text : ∀ n rest, Delimited rest → read (text n ++ rest) = some (n, rest)

/-- How many spaces a writer puts after a comma and after a colon. -/
structure Layout where
  afterComma : Nat
  afterColon : Nat

/-! ### Strings -/

/-- A hexadecimal digit. -/
def hexDigit (n : Nat) : Char := if n < 10 then Char.ofNat (48 + n) else Char.ofNat (87 + n)

/-- The value of a hexadecimal digit. -/
def hexValue (c : Char) : Option Nat :=
  if c.isDigit then some (c.toNat - 48)
  else if 'a' ≤ c ∧ c ≤ 'f' then some (c.toNat - 87)
  else if 'A' ≤ c ∧ c ≤ 'F' then some (c.toNat - 55)
  else none

/-- The two-character escapes. -/
def shortEscape (c : Char) : Option Char :=
  if c = '"' then some '"'
  else if c = '\\' then some '\\'
  else if c = '\n' then some 'n'
  else if c = '\r' then some 'r'
  else if c = '\t' then some 't'
  else if c = '\x08' then some 'b'
  else if c = '\x0c' then some 'f'
  else none

/-- A character of a string as it is written. -/
def escape (c : Char) : List Char :=
  match shortEscape c with
  | some e => ['\\', e]
  | none =>
      if c.toNat < 32 then ['\\', 'u', '0', '0', hexDigit (c.toNat / 16), hexDigit (c.toNat % 16)]
      else [c]

/-- A string with its quotes. -/
def quote (text : String) : List Char := '"' :: text.toList.flatMap escape ++ ['"']

/-- What a two-character escape stands for. -/
def unescape (c : Char) : Option Char :=
  if c = '"' then some '"'
  else if c = '\\' then some '\\'
  else if c = '/' then some '/'
  else if c = 'n' then some '\n'
  else if c = 'r' then some '\r'
  else if c = 't' then some '\t'
  else if c = 'b' then some '\x08'
  else if c = 'f' then some '\x0c'
  else none

/-- The number of four hexadecimal digits. -/
def readHex (a b c d : Char) : Option Nat := do
  return (((← hexValue a) * 16 + (← hexValue b)) * 16 + (← hexValue c)) * 16 + (← hexValue d)

/-- The character of two surrogates. -/
def joinSurrogates (high low : Nat) : Option Char :=
  if high < 0xDC00 ∧ 0xDC00 ≤ low ∧ low < 0xE000 then
    some (Char.ofNat (0x10000 + (high - 0xD800) * 0x400 + (low - 0xDC00)))
  else none

/-- The rest of a string after its opening quote: the characters, and what follows the
closing quote.  A `\u` escape is one character, or two are a pair of surrogates; a
surrogate alone is refused. -/
def readString : List Char → Option (List Char × List Char)
  | [] => none
  | c :: rest =>
      if c = '"' then some ([], rest)
      else if c = '\\' then
        match rest with
        | [] => none
        | 'u' :: a :: b :: c :: d :: rest =>
            match readHex a b c d with
            | some n =>
                if n < 0xD800 ∨ 0xE000 ≤ n then
                  (readString rest).map fun (cs, rest) => (Char.ofNat n :: cs, rest)
                else
                  match rest with
                  | '\\' :: 'u' :: e :: f :: g :: h :: rest =>
                      match (readHex e f g h).bind (joinSurrogates n) with
                      | some c => (readString rest).map fun (cs, rest) => (c :: cs, rest)
                      | none => none
                  | _ => none
            | none => none
        | e :: rest =>
            match unescape e with
            | some c => (readString rest).map fun (cs, rest) => (c :: cs, rest)
            | none => none
      else if c.toNat < 32 then none
      else (readString rest).map fun (cs, rest) => (c :: cs, rest)

/-- A short escape is undone, and none is written `\u`. -/
theorem unescape_shortEscape {c e : Char} (h : shortEscape c = some e) :
    unescape e = some c ∧ e ≠ 'u' := by
  unfold shortEscape at h
  repeat' split at h
  all_goals cases h
  all_goals subst_vars; decide

theorem hexValue_hexDigit : ∀ n < 16, hexValue (hexDigit n) = some n := by decide

/-- Reading an escaped character gives the character. -/
theorem readString_escape (c : Char) (rest : List Char) :
    readString (escape c ++ rest) = (readString rest).map fun (cs, rest) => (c :: cs, rest) := by
  rw [escape]
  split
  case h_1 e h =>
    obtain ⟨hc, hu⟩ := unescape_shortEscape h
    change readString ('\\' :: e :: rest) = _
    rw [readString.eq_def]
    simp [hc, hu]
  case h_2 h =>
    split
    case isTrue hlt =>
      change readString ('\\' :: 'u' :: '0' :: '0' :: hexDigit (c.toNat / 16) ::
        hexDigit (c.toNat % 16) :: rest) = _
      have hn : readHex '0' '0' (hexDigit (c.toNat / 16)) (hexDigit (c.toNat % 16)) =
          some c.toNat := by
        simp only [readHex, hexValue_hexDigit _ (show c.toNat / 16 < 16 by omega),
          hexValue_hexDigit _ (show c.toNat % 16 < 16 by omega), show hexValue '0' = some 0 from rfl,
          Option.bind_eq_bind, Option.bind_some, Option.pure_def, Option.some.injEq]
        omega
      rw [readString.eq_def]
      simp only [Char.reduceEq, if_false, if_true, hn, show c.toNat < 0xD800 ∨ 0xE000 ≤ c.toNat from .inl (by omega), if_true,
        Char.ofNat_toNat]
    case isFalse hge =>
      have hquote : c ≠ '"' := by
        rintro rfl
        exact absurd h (by decide)
      have hback : c ≠ '\\' := by
        rintro rfl
        exact absurd h (by decide)
      change readString (c :: rest) = _
      rw [readString.eq_def]
      simp only [if_neg hquote, if_neg hback, if_neg hge]

/-- Reading a quoted string gives the string. -/
theorem readString_quote (cs rest : List Char) :
    readString (cs.flatMap escape ++ '"' :: rest) = some (cs, rest) := by
  induction cs with
  | nil => simp [readString.eq_def]
  | cons c cs ih =>
      rw [List.flatMap_cons, List.append_assoc, readString_escape, ih]
      rfl

/-! ### Documents -/

section Documents

variable {ν : Type} (layout : Layout) (format : NumberFormat ν)

/-- A comma and the blanks after it. -/
def comma : List Char := ',' :: List.replicate layout.afterComma ' '

/-- A colon and the blanks after it. -/
def colon : List Char := ':' :: List.replicate layout.afterColon ' '

mutual

/-- The text of a document. -/
def render : JsonDoc ν → List Char
  | .null => ['n', 'u', 'l', 'l']
  | .bool true => ['t', 'r', 'u', 'e']
  | .bool false => ['f', 'a', 'l', 's', 'e']
  | .num n => format.text n
  | .str text => quote text
  | .arr [] => ['[', ']']
  | .arr (x :: xs) => '[' :: (render x ++ renderItems xs)
  | .obj [] => ['{', '}']
  | .obj ((key, x) :: fields) =>
      '{' :: (quote key ++ (colon layout ++ (render x ++ renderFields fields)))

/-- The further items of an array and its end. -/
def renderItems : List (JsonDoc ν) → List Char
  | [] => [']']
  | x :: xs => comma layout ++ (render x ++ renderItems xs)

/-- The further members of an object and its end. -/
def renderFields : List (String × JsonDoc ν) → List Char
  | [] => ['}']
  | (key, x) :: fields =>
      comma layout ++ (quote key ++ (colon layout ++ (render x ++ renderFields fields)))

end

mutual

/-- A document at the front of a text; the fuel bounds the depth and the members. -/
def read : Nat → List Char → Option (JsonDoc ν × List Char)
  | 0, _ => none
  | fuel + 1, text =>
      match text.dropWhile isBlank with
      | 'n' :: 'u' :: 'l' :: 'l' :: rest => some (.null, rest)
      | 't' :: 'r' :: 'u' :: 'e' :: rest => some (.bool true, rest)
      | 'f' :: 'a' :: 'l' :: 's' :: 'e' :: rest => some (.bool false, rest)
      | '"' :: rest => (readString rest).map fun (cs, rest) => (.str (String.ofList cs), rest)
      | '[' :: rest =>
          match rest.dropWhile isBlank with
          | ']' :: rest => some (.arr [], rest)
          | rest => do
              let (x, rest) ← read fuel rest
              let (xs, rest) ← readItems fuel rest
              return (.arr (x :: xs), rest)
      | '{' :: rest =>
          match rest.dropWhile isBlank with
          | '}' :: rest => some (.obj [], rest)
          | rest => do
              let (field, rest) ← readField fuel rest
              let (fields, rest) ← readFields fuel rest
              return (.obj (field :: fields), rest)
      | rest => (format.read rest).map fun (n, rest) => (.num n, rest)

/-- Further items and the end of an array. -/
def readItems : Nat → List Char → Option (List (JsonDoc ν) × List Char)
  | 0, _ => none
  | fuel + 1, text =>
      match text.dropWhile isBlank with
      | ']' :: rest => some ([], rest)
      | ',' :: rest => do
          let (x, rest) ← read fuel rest
          let (xs, rest) ← readItems fuel rest
          return (x :: xs, rest)
      | _ => none

/-- A member of an object: a string, a colon and a document. -/
def readField : Nat → List Char → Option ((String × JsonDoc ν) × List Char)
  | 0, _ => none
  | fuel + 1, text =>
      match text.dropWhile isBlank with
      | '"' :: rest => do
          let (key, rest) ← readString rest
          match rest.dropWhile isBlank with
          | ':' :: rest => do
              let (x, rest) ← read fuel rest
              return ((String.ofList key, x), rest)
          | _ => none
      | _ => none

/-- Further members and the end of an object. -/
def readFields : Nat → List Char → Option (List (String × JsonDoc ν) × List Char)
  | 0, _ => none
  | fuel + 1, text =>
      match text.dropWhile isBlank with
      | '}' :: rest => some ([], rest)
      | ',' :: rest => do
          let (field, rest) ← readField fuel rest
          let (fields, rest) ← readFields fuel rest
          return (field :: fields, rest)
      | _ => none

end

variable {layout format}

/-- A document does not start with a blank or a closing bracket. -/
theorem render_head (d : JsonDoc ν) :
    ∃ c cs, render layout format d = c :: cs ∧ isBlank c = false ∧ c ≠ ']' ∧ c ≠ '}' := by
  cases d with
  | null => exact ⟨'n', _, rfl, by decide⟩
  | bool b => cases b <;> exact ⟨_, _, rfl, by decide⟩
  | num n =>
      obtain ⟨c, cs, htext, hc⟩ := format.text_head n
      refine ⟨c, cs, htext, ?_⟩
      rcases hc with rfl | hdigit
      · decide
      · refine ⟨?_, ?_, ?_⟩
        · by_contra hblank
          simp only [isBlank, Bool.not_eq_false, Bool.or_eq_true, beq_iff_eq] at hblank
          rcases hblank with ((rfl | rfl) | rfl) | rfl <;> exact absurd hdigit (by decide)
        all_goals rintro rfl; exact absurd hdigit (by decide)
  | str text => exact ⟨'"', _, rfl, by decide⟩
  | arr items => cases items <;> exact ⟨'[', _, rfl, by decide⟩
  | obj fields => rcases fields with _ | ⟨⟨_, _⟩, _⟩ <;> exact ⟨'{', _, rfl, by decide⟩

theorem dropWhile_render (d : JsonDoc ν) (rest : List Char) :
    (render layout format d ++ rest).dropWhile isBlank = render layout format d ++ rest := by
  obtain ⟨c, cs, hd, hc, -⟩ := @render_head ν layout format d
  simp [hd, hc]

theorem dropWhile_blanks (n : Nat) (rest : List Char) :
    (List.replicate n ' ' ++ rest).dropWhile isBlank = rest.dropWhile isBlank := by
  induction n with
  | zero => rfl
  | succ n ih => simpa [List.replicate_succ, isBlank] using ih

theorem read_blanks (fuel n : Nat) (rest : List Char) :
    read format fuel (List.replicate n ' ' ++ rest) = read format fuel rest := by
  cases fuel with
  | zero => rfl
  | succ fuel => rw [read, read, dropWhile_blanks]

theorem delimited_cons {c : Char} (h : isNumberChar c = false) (rest : List Char) :
    Delimited (c :: rest) := by
  intro d hd
  cases hd
  exact h

theorem delimited_renderItems (xs : List (JsonDoc ν)) (rest : List Char) :
    Delimited (renderItems layout format xs ++ rest) := by
  cases xs <;> exact delimited_cons (by decide) _

theorem delimited_renderFields (fields : List (String × JsonDoc ν)) (rest : List Char) :
    Delimited (renderFields layout format fields ++ rest) := by
  rcases fields with _ | ⟨⟨_, _⟩, _⟩ <;> exact delimited_cons (by decide) _

/-- One member is read back when its document is. -/
theorem readField_render {fuel n : Nat} {key : String} {x : JsonDoc ν} {rest : List Char}
    (hread : read format fuel (render layout format x ++ rest) = some (x, rest)) :
    readField format (fuel + 1) (List.replicate n ' ' ++
      (quote key ++ (colon layout ++ (render layout format x ++ rest)))) =
        some ((key, x), rest) := by
  rw [readField, dropWhile_blanks]
  simp only [quote, List.cons_append, List.append_assoc, List.nil_append]
  rw [List.dropWhile_cons_of_neg (by decide)]
  simp only [readString_quote, Option.bind_eq_bind, Option.bind_some, colon, List.cons_append]
  rw [List.dropWhile_cons_of_neg (by decide)]
  simp only [read_blanks, hread, Option.bind_some, Option.pure_def, String.ofList_toList]

mutual

/-- **Round trip.**  A document's text is read back as the document. -/
theorem read_render : ∀ (d : JsonDoc ν) (fuel : Nat) (rest : List Char),
    (render layout format d ++ rest).length < fuel → Delimited rest →
      read format fuel (render layout format d ++ rest) = some (d, rest)
  | _, 0, _, hfuel, _ => absurd hfuel (Nat.not_lt_zero _)
  | .null, fuel + 1, rest, _, _ => by simp [render, read, isBlank]
  | .bool true, fuel + 1, rest, _, _ => by simp [render, read, isBlank]
  | .bool false, fuel + 1, rest, _, _ => by simp [render, read, isBlank]
  | .num n, fuel + 1, rest, _, hrest => by
      rw [read, dropWhile_render, render]
      have hread := format.read_text n rest hrest
      obtain ⟨c, cs, htext, hc⟩ := format.text_head n
      rw [htext, List.cons_append] at hread ⊢
      split
      case h_7 => rw [hread]; rfl
      all_goals
        rename_i heq
        obtain ⟨rfl, -⟩ := List.cons.inj heq
        exact absurd hc (by decide)
  | .str text, fuel + 1, rest, _, _ => by
      rw [read, dropWhile_render]
      simp only [render, quote, List.cons_append, List.append_assoc, List.nil_append,
        readString_quote, Option.map_some, String.ofList_toList]
  | .arr [], fuel + 1, rest, _, _ => by simp [render, read, isBlank]
  | .arr (x :: xs), fuel + 1, rest, hfuel, _ => by
      have hx := read_render x fuel (renderItems layout format xs ++ rest)
        (by simp only [render, List.cons_append, List.length_cons, List.length_append] at hfuel ⊢; omega)
        (delimited_renderItems xs rest)
      have hxs := readItems_render xs fuel rest
        (by simp only [render, List.cons_append, List.length_cons, List.length_append] at hfuel ⊢; omega)
      rw [read, dropWhile_render]
      simp only [render, List.cons_append, List.append_assoc, dropWhile_render]
      obtain ⟨c, cs, hd, -, hc, -⟩ := @render_head ν layout format x
      rw [hd, List.cons_append] at hx ⊢
      split
      case h_1 heq => exact absurd (List.cons.inj heq).1 hc
      case h_2 => simp only [hx, hxs, Option.bind_eq_bind, Option.bind_some, Option.pure_def]
  | .obj [], fuel + 1, rest, _, _ => by simp [render, read, isBlank]
  | .obj ((key, x) :: fields), fuel + 1, rest, hfuel, _ => by
      simp only [render, quote, List.cons_append, List.append_assoc, List.nil_append,
        List.length_cons, List.length_append, colon] at hfuel
      obtain ⟨fuel, rfl⟩ : ∃ m, fuel = m + 1 := ⟨fuel - 1, by omega⟩
      have hx := read_render x fuel (renderFields layout format fields ++ rest)
        (by simp only [List.length_append]; omega) (delimited_renderFields fields rest)
      have hfield := @readField_render ν layout format fuel 0 key x _ hx
      have hfields := readFields_render fields (fuel + 1) rest
        (by simp only [List.length_append]; omega)
      rw [read, dropWhile_render]
      simp only [List.replicate_zero, List.nil_append] at hfield
      simp only [render, List.cons_append, List.append_assoc]
      rw [show quote key = '"' :: (key.toList.flatMap escape ++ ['"']) from rfl] at hfield ⊢
      rw [List.cons_append, List.dropWhile_cons_of_neg (by decide)]
      split
      case h_1 heq => exact absurd (List.cons.inj heq).1 (by decide)
      case h_2 =>
        rw [List.cons_append] at hfield
        simp only [hfield, hfields, Option.bind_eq_bind, Option.bind_some, Option.pure_def]

theorem readItems_render : ∀ (xs : List (JsonDoc ν)) (fuel : Nat) (rest : List Char),
    (renderItems layout format xs ++ rest).length < fuel →
      readItems format fuel (renderItems layout format xs ++ rest) = some (xs, rest)
  | _, 0, _, hfuel => absurd hfuel (Nat.not_lt_zero _)
  | [], fuel + 1, rest, _ => by simp [renderItems, readItems, isBlank]
  | x :: xs, fuel + 1, rest, hfuel => by
      have hx := read_render x fuel (renderItems layout format xs ++ rest)
        (by simp only [renderItems, comma, List.cons_append, List.length_cons, List.length_append] at hfuel ⊢; omega)
        (delimited_renderItems xs rest)
      have hxs := readItems_render xs fuel rest
        (by simp only [renderItems, comma, List.cons_append, List.length_cons, List.length_append] at hfuel ⊢; omega)
      simp only [renderItems, comma, List.cons_append, List.append_assoc]
      rw [readItems, List.dropWhile_cons_of_neg (by decide)]
      simp only [read_blanks, hx, hxs, Option.bind_eq_bind, Option.bind_some, Option.pure_def]

theorem readFields_render : ∀ (fields : List (String × JsonDoc ν)) (fuel : Nat) (rest : List Char),
    (renderFields layout format fields ++ rest).length < fuel →
      readFields format fuel (renderFields layout format fields ++ rest) = some (fields, rest)
  | _, 0, _, hfuel => absurd hfuel (Nat.not_lt_zero _)
  | [], fuel + 1, rest, _ => by simp [renderFields, readFields, isBlank]
  | (key, x) :: fields, fuel + 1, rest, hfuel => by
      simp only [renderFields, comma, colon, quote, List.cons_append, List.append_assoc,
        List.nil_append, List.length_cons, List.length_append] at hfuel
      obtain ⟨fuel, rfl⟩ : ∃ m, fuel = m + 1 := ⟨fuel - 1, by omega⟩
      have hx := read_render x fuel (renderFields layout format fields ++ rest)
        (by simp only [List.length_append]; omega) (delimited_renderFields fields rest)
      have hfields := readFields_render fields (fuel + 1) rest
        (by simp only [List.length_append]; omega)
      simp only [renderFields, comma, List.cons_append, List.append_assoc]
      rw [readFields, List.dropWhile_cons_of_neg (by decide)]
      simp only [readField_render hx, hfields, Option.bind_eq_bind, Option.bind_some,
        Option.pure_def]

end

variable (format) in
/-- The document of a whole text, with nothing but blanks after it. -/
def parse (text : List Char) : Option (JsonDoc ν) := do
  let (d, rest) ← read format (text.length + 1) text
  if rest.all isBlank then some d else none

/-- **Round trip for whole texts.** -/
theorem parse_render (d : JsonDoc ν) : parse format (render layout format d) = some d := by
  have hlength : (render layout format d ++ []).length < (render layout format d).length + 1 := by
    rw [List.append_nil]
    exact Nat.lt_succ_self _
  have h := read_render d _ [] hlength nofun
  rw [List.append_nil] at h
  rw [parse, h]
  rfl

/-- **Texts are canonical.**  Two documents with one text are equal. -/
theorem render_injective : Function.Injective (render layout format) := by
  intro a b h
  have ha := @parse_render ν layout format a
  rw [h, parse_render] at ha
  exact (Option.some.inj ha).symm

/-- The text of an object is between braces. -/
theorem render_obj (fields : List (String × JsonDoc ν)) :
    ∃ inner, render layout format (.obj fields) = '{' :: (inner ++ ['}']) := by
  have hlast : ∀ fields : List (String × JsonDoc ν),
      ∃ inner, renderFields layout format fields = inner ++ ['}'] := by
    intro fields
    induction fields with
    | nil => exact ⟨[], rfl⟩
    | cons field fields ih =>
        obtain ⟨inner, h⟩ := ih
        exact ⟨comma layout ++ (quote field.1 ++ (colon layout ++ (render layout format field.2 ++ inner))),
          by simp only [renderFields, h, List.append_assoc]⟩
  rcases fields with _ | ⟨⟨key, x⟩, fields⟩
  · exact ⟨[], rfl⟩
  · obtain ⟨inner, h⟩ := hlast fields
    exact ⟨quote key ++ (colon layout ++ (render layout format x ++ inner)),
      by simp only [render, h, List.append_assoc]⟩

/-! A text is one line: control characters are escaped. -/

theorem isNumberChar_printable {c : Char} (h : isNumberChar c = true) : 32 ≤ c.toNat := by
  by_contra hlt
  simp only [isNumberChar, Char.isDigit, Bool.or_eq_true, Bool.and_eq_true, decide_eq_true_eq,
    beq_iff_eq] at h
  rcases h with ((((h | rfl) | rfl) | rfl) | rfl) | rfl
  · have hle : '0'.toNat ≤ c.toNat := h.1
    exact hlt (Nat.le_trans (by decide) hle)
  all_goals exact hlt (by decide)

/-- A given text without control characters. -/
theorem printable_of_all {text : List Char} (h : (text.all fun c => 32 ≤ c.toNat) = true) :
    ∀ c ∈ text, 32 ≤ c.toNat := by
  simpa using h

theorem hexDigit_printable : ∀ n < 16, 32 ≤ (hexDigit n).toNat := by decide

theorem escape_printable {c d : Char} (h : d ∈ escape c) : 32 ≤ d.toNat := by
  unfold escape at h
  split at h
  case h_1 e he =>
    unfold shortEscape at he
    rcases List.mem_cons.mp h with rfl | h
    · decide
    · rw [List.mem_singleton] at h
      subst h
      repeat' split at he
      all_goals cases he
      all_goals decide
  case h_2 =>
    split at h
    case isTrue =>
      simp only [List.mem_cons, List.not_mem_nil, or_false] at h
      rcases h with rfl | rfl | rfl | rfl | rfl | rfl
      all_goals first | decide | exact hexDigit_printable _ (by omega)
    case isFalse hge =>
      rw [List.mem_singleton] at h
      subst h
      omega

theorem quote_printable {text : String} {c : Char} (h : c ∈ quote text) : 32 ≤ c.toNat := by
  simp only [quote, List.mem_append, List.mem_cons, List.mem_flatMap, List.not_mem_nil,
    or_false] at h
  rcases h with (rfl | ⟨d, -, h⟩) | rfl
  · decide
  · exact escape_printable h
  · decide

theorem comma_printable {c : Char} (h : c ∈ comma layout) : 32 ≤ c.toNat := by
  simp only [comma, List.mem_cons, List.mem_replicate] at h
  rcases h with rfl | ⟨-, rfl⟩ <;> decide

theorem colon_printable {c : Char} (h : c ∈ colon layout) : 32 ≤ c.toNat := by
  simp only [colon, List.mem_cons, List.mem_replicate] at h
  rcases h with rfl | ⟨-, rfl⟩ <;> decide

mutual

/-- **One line.**  A document's text has no control character, so no line break. -/
theorem render_printable : ∀ (d : JsonDoc ν), ∀ c ∈ render layout format d, 32 ≤ c.toNat
  | .null => printable_of_all rfl
  | .bool true => printable_of_all rfl
  | .bool false => printable_of_all rfl
  | .num n => fun c hc => isNumberChar_printable (format.text_chars n c hc)
  | .str _ => fun _ hc => quote_printable hc
  | .arr [] => printable_of_all rfl
  | .arr (x :: xs) => by
      intro c hc
      simp only [render, List.mem_cons, List.mem_append] at hc
      rcases hc with rfl | hc | hc
      · decide
      · exact render_printable x c hc
      · exact renderItems_printable xs c hc
  | .obj [] => printable_of_all rfl
  | .obj ((_, x) :: fields) => by
      intro c hc
      simp only [render, List.mem_cons, List.mem_append] at hc
      rcases hc with rfl | hc | hc | hc | hc
      · decide
      · exact quote_printable hc
      · exact colon_printable hc
      · exact render_printable x c hc
      · exact renderFields_printable fields c hc

theorem renderItems_printable : ∀ (xs : List (JsonDoc ν)), ∀ c ∈ renderItems layout format xs,
    32 ≤ c.toNat
  | [] => printable_of_all rfl
  | x :: xs => by
      intro c hc
      simp only [renderItems, List.mem_append] at hc
      rcases hc with hc | hc | hc
      · exact comma_printable hc
      · exact render_printable x c hc
      · exact renderItems_printable xs c hc

theorem renderFields_printable : ∀ (fields : List (String × JsonDoc ν)),
    ∀ c ∈ renderFields layout format fields, 32 ≤ c.toNat
  | [] => printable_of_all rfl
  | (_, x) :: fields => by
      intro c hc
      simp only [renderFields, List.mem_append] at hc
      rcases hc with hc | hc | hc | hc | hc
      · exact comma_printable hc
      · exact quote_printable hc
      · exact colon_printable hc
      · exact render_printable x c hc
      · exact renderFields_printable fields c hc

end

end Documents

/-! ### Integers -/

/-- The decimal text of an integer. -/
def integerText : Int → List Char
  | .ofNat n => Nat.toDigits 10 n
  | .negSucc n => '-' :: Nat.toDigits 10 (n + 1)

/-- Digits at the front of a text; a zero in front is alone. -/
def readDigits (text : List Char) : Option (Nat × List Char) :=
  match text.takeWhile Char.isDigit with
  | [] | '0' :: _ :: _ => none
  | digits => some (Nat.ofDigitChars 10 digits 0, text.dropWhile Char.isDigit)

/-- An integer at the front of a text. -/
def readInteger : List Char → Option (Int × List Char)
  | '-' :: text => (readDigits text).map fun (n, rest) => (-n, rest)
  | text => (readDigits text).map fun (n, rest) => (n, rest)

/-- The decimal text of a positive number does not start with a zero. -/
theorem toDigits_head {n : Nat} (hn : 0 < n) : (Nat.toDigits 10 n).head? ≠ some '0' := by
  induction n using Nat.strong_induction_on with
  | _ n ih =>
      rcases Nat.lt_or_ge n 10 with hlt | hge
      · rw [Nat.toDigits_of_lt_base hlt]
        interval_cases n <;> decide
      · rw [Nat.toDigits_of_base_le (by decide) hge,
          List.head?_append_of_ne_nil _ Nat.toDigits_ne_nil]
        exact ih (n / 10) (by omega) (by omega)

theorem readDigits_text (n : Nat) {rest : List Char} (h : Delimited rest) :
    readDigits (Nat.toDigits 10 n ++ rest) = some (n, rest) := by
  have hdigits : ∀ c ∈ Nat.toDigits 10 n, c.isDigit = true := fun c hc =>
    Nat.isDigit_of_mem_toDigits (by decide) (by decide) hc
  have hhead : rest.takeWhile Char.isDigit = [] ∧ rest.dropWhile Char.isDigit = rest := by
    cases rest with
    | nil => exact ⟨rfl, rfl⟩
    | cons c rest =>
        have hc : c.isDigit = false := by
          have hnumber := h c rfl
          simp only [isNumberChar, Bool.or_eq_false_iff] at hnumber
          exact hnumber.1.1.1.1.1
        simp [hc]
  rw [readDigits, List.takeWhile_append_of_pos hdigits, List.dropWhile_append_of_pos hdigits,
    hhead.1, hhead.2, List.append_nil]
  split
  case h_1 heq => exact absurd heq Nat.toDigits_ne_nil
  case h_2 d ds heq =>
    rcases Nat.eq_zero_or_pos n with rfl | hn
    · cases heq
    · exact absurd (by rw [heq]; rfl) (toDigits_head hn)
  case h_3 => rw [Nat.ofDigitChars_ten_toDigits]

theorem toDigits_cons (n : Nat) :
    ∃ c cs, Nat.toDigits 10 n = c :: cs ∧ c.isDigit = true := by
  obtain ⟨c, cs, h⟩ := List.exists_cons_of_ne_nil (@Nat.toDigits_ne_nil n 10)
  exact ⟨c, cs, h, Nat.isDigit_of_mem_toDigits (by decide) (by decide) (h ▸ List.mem_cons_self)⟩

/-- Decimal integers. -/
def integers : NumberFormat Int where
  text := integerText
  read := readInteger
  text_head
    | .ofNat n => by
        obtain ⟨c, cs, h, hc⟩ := toDigits_cons n
        exact ⟨c, cs, h, .inr hc⟩
    | .negSucc n => ⟨_, _, rfl, .inl rfl⟩
  text_chars := by
    have hdigits : ∀ (n : Nat), ∀ c ∈ Nat.toDigits 10 n, isNumberChar c = true := by
      intro n c hc
      simp [isNumberChar, Nat.isDigit_of_mem_toDigits (by decide) (by decide) hc]
    rintro (n | n) c hc
    · exact hdigits n c hc
    · rcases List.mem_cons.mp hc with rfl | hc
      · decide
      · exact hdigits _ c hc
  read_text := by
    rintro (n | n) rest hrest
    · obtain ⟨c, cs, h, hc⟩ := toDigits_cons n
      have hread := readDigits_text n hrest
      rw [integerText]
      rw [h, List.cons_append] at hread ⊢
      rw [readInteger.eq_def]
      split
      case h_1 heq =>
        rw [(List.cons.inj heq).1] at hc
        exact absurd hc (by decide)
      case h_2 => rw [hread]; rfl
    · rw [integerText, List.cons_append, readInteger, readDigits_text _ hrest]
      rfl

end JsonText
