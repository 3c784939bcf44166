/-
# Quotes in a JSON text

A lexer that knows only quotes and escapes: outside a string stand white space, punctuation,
the letters of the three literals and the characters of numbers, and inside everything.  What
the reader accepts is lexed from outside to outside (`lex_parse`).  Where the same characters
can be lexed from outside and from inside, the two lexers are always on opposite sides of the
quotes, so there is no escape among them, and a string for one of them is punctuation for the
other (`chars_of_mem_keys`).
-/

import HomeCortex.Library.JsonText

namespace JsonText

/-- A character that stands outside strings; the constants `NaN` and `Infinity` count. -/
def isSyntax (c : Char) : Bool :=
  isBlank c || isNumberChar c || "[]{},:nultrefasNIiy".toList.contains c

/-- Where a lexer is. -/
inductive Mode where
  | outside
  | inside
  | escaped
deriving DecidableEq

/-- The lexer after one more character. -/
def Mode.next : Mode → Char → Option Mode
  | .outside, c => if c = '"' then some .inside else if isSyntax c then some .outside else none
  | .inside, c => some (if c = '"' then .outside else if c = '\\' then .escaped else .inside)
  | .escaped, _ => some .inside

/-- The lexer after a text. -/
def lex (mode : Mode) (text : List Char) : Option Mode := text.foldlM Mode.next mode

@[simp] theorem lex_nil (mode : Mode) : lex mode [] = some mode := rfl

@[simp] theorem lex_cons (mode : Mode) (c : Char) (text : List Char) :
    lex mode (c :: text) = (mode.next c).bind fun mode => lex mode text := List.foldlM_cons

theorem lex_append (mode : Mode) (text more : List Char) :
    lex mode (text ++ more) = (lex mode text).bind fun mode => lex mode more :=
  List.foldlM_append

/-- A text that is lexed has its parts lexed. -/
theorem lex_append_eq_some {mode final : Mode} {text more : List Char} :
    lex mode (text ++ more) = some final ↔
      ∃ middle, lex mode text = some middle ∧ lex middle more = some final := by
  rw [lex_append, Option.bind_eq_some_iff]

/-- Syntax outside strings. -/
theorem lex_syntax {text : List Char} (h : ∀ c ∈ text, isSyntax c = true) :
    lex .outside text = some .outside := by
  induction text with
  | nil => rfl
  | cons c text ih =>
      have hc := h c List.mem_cons_self
      have hquote : c ≠ '"' := by
        rintro rfl
        exact absurd hc (by decide)
      rw [lex_cons, Mode.next, if_neg hquote, if_pos hc, Option.bind_some]
      exact ih fun d hd => h d (List.mem_cons_of_mem c hd)

/-- Outside strings and without a quote, every character is syntax. -/
theorem syntax_of_lex {text : List Char} {final : Mode} (hquote : '"' ∉ text)
    (h : lex .outside text = some final) : ∀ c ∈ text, isSyntax c = true := by
  induction text with
  | nil => exact fun _ hc => absurd hc List.not_mem_nil
  | cons c text ih =>
      obtain ⟨hc, htext⟩ := not_or.mp fun hmem => hquote (List.mem_cons.mpr hmem)
      rw [lex_cons, Mode.next, if_neg (Ne.symm hc)] at h
      split at h
      case isTrue hsyntax =>
        rintro d (_ | ⟨_, hd⟩)
        · exact hsyntax
        · exact ih htext h d hd
      case isFalse => cases h

/-- Characters inside a string that are neither quote nor backslash. -/
theorem lex_plain {text : List Char} (h : ∀ c ∈ text, c ≠ '"' ∧ c ≠ '\\') :
    lex .inside text = some .inside := by
  induction text with
  | nil => rfl
  | cons c text ih =>
      obtain ⟨hquote, hback⟩ := h c List.mem_cons_self
      rw [lex_cons, Mode.next, if_neg hquote, if_neg hback, Option.bind_some]
      exact ih fun d hd => h d (List.mem_cons_of_mem c hd)

theorem isSyntax_of_isBlank {c : Char} (h : isBlank c = true) : isSyntax c = true := by
  simp [isSyntax, h]

theorem lex_blanks (text : List Char) :
    lex .outside (text.takeWhile isBlank) = some .outside :=
  lex_syntax fun _ hc => isSyntax_of_isBlank (List.mem_takeWhile_imp hc)

/-! ### Strings -/

/-- A text is the body of a string, its closing quote and a rest: without a backslash the
body is what the string says. -/
structure StringBody (text cs rest body : List Char) : Prop where
  text_eq : text = body ++ '"' :: rest
  lexed : lex .inside body = some .inside
  plain : '\\' ∉ body → cs = body ∧ '"' ∉ body

theorem lex_escape (e : Char) (text : List Char) :
    lex .inside ('\\' :: e :: text) = lex .inside text := rfl

/-- An escape in front of a string. -/
theorem StringBody.escape {text cs cs' rest body digits : List Char} {e : Char}
    (h : StringBody text cs rest body) (hdigits : lex .inside digits = some .inside) :
    StringBody ('\\' :: e :: (digits ++ text)) cs' rest ('\\' :: e :: (digits ++ body)) where
  text_eq := by rw [h.text_eq, List.cons_append, List.cons_append, List.append_assoc]
  lexed := by rw [lex_escape, lex_append, hdigits, Option.bind_some, h.lexed]
  plain hback := absurd List.mem_cons_self hback

/-- A character in front of a string. -/
theorem StringBody.cons {text cs rest body : List Char} {c : Char}
    (h : StringBody text cs rest body) (hquote : c ≠ '"') (hback : c ≠ '\\') :
    StringBody (c :: text) (c :: cs) rest (c :: body) where
  text_eq := by rw [h.text_eq, List.cons_append]
  lexed := by rw [lex_cons, Mode.next, if_neg hquote, if_neg hback, Option.bind_some, h.lexed]
  plain hplain := by
    obtain ⟨rfl, hbody⟩ := h.plain fun hmem => hplain (List.mem_cons_of_mem c hmem)
    exact ⟨rfl, fun hmem => (List.mem_cons.mp hmem).elim (fun hc => hquote hc.symm) hbody⟩

theorem hexValue_plain {c : Char} {n : Nat} (h : hexValue c = some n) : c ≠ '"' ∧ c ≠ '\\' := by
  constructor
  · rintro rfl
    cases h
  · rintro rfl
    cases h

theorem readHex_plain {a b c d : Char} {n : Nat} (h : readHex a b c d = some n) :
    lex .inside [a, b, c, d] = some .inside := by
  simp only [readHex, Option.bind_eq_bind, Option.bind_eq_some_iff, Option.pure_def] at h
  obtain ⟨_, ha, _, hb, _, hc, _, hd, -⟩ := h
  refine lex_plain fun e he => ?_
  simp only [List.mem_cons, List.not_mem_nil, or_false] at he
  rcases he with rfl | rfl | rfl | rfl
  · exact hexValue_plain ha
  · exact hexValue_plain hb
  · exact hexValue_plain hc
  · exact hexValue_plain hd

/-- A string goes on after its first characters. -/
theorem readString_map {text cs rest : List Char} {c : Char}
    (h : ((readString text).map fun read => (c :: read.1, read.2)) = some (cs, rest)) :
    ∃ tail, cs = c :: tail ∧ readString text = some (tail, rest) := by
  obtain ⟨⟨tail, after⟩, hread, heq⟩ := Option.map_eq_some_iff.mp h
  obtain ⟨rfl, rfl⟩ := Prod.mk.inj heq
  exact ⟨tail, rfl, hread⟩

/-- **What is read of a string** is its body. -/
theorem readString_body {text cs rest : List Char} (h : readString text = some (cs, rest)) :
    ∃ body, StringBody text cs rest body := by
  fun_induction readString text generalizing cs
  case case2 after =>
    obtain ⟨rfl, rfl⟩ := Prod.mk.inj (Option.some.inj h)
    exact ⟨[], rfl, rfl, fun _ => ⟨rfl, List.not_mem_nil⟩⟩
  case case4 a b c d after n hhex _ _ ih =>
    obtain ⟨tail, -, htail⟩ := readString_map h
    obtain ⟨body, hbody⟩ := ih htail
    exact ⟨_, hbody.escape (readHex_plain hhex)⟩
  case case5 a b c d n hhex _ e f g i after _ hpair _ ih =>
    obtain ⟨tail, -, htail⟩ := readString_map h
    obtain ⟨body, hbody⟩ := ih htail
    obtain ⟨m, hm, -⟩ := Option.bind_eq_some_iff.mp hpair
    have hlow : StringBody _ tail rest _ := hbody.escape (e := 'u') (readHex_plain hm)
    exact ⟨_, hlow.escape (readHex_plain hhex)⟩
  case case9 e after _ c hc _ ih =>
    obtain ⟨tail, -, htail⟩ := readString_map h
    obtain ⟨body, hbody⟩ := ih htail
    exact ⟨_, hbody.escape (show lex .inside [] = some .inside from rfl)⟩
  case case12 c after hquote hback _ ih =>
    obtain ⟨tail, rfl, htail⟩ := readString_map h
    obtain ⟨body, hbody⟩ := ih htail
    exact ⟨_, hbody.cons hquote hback⟩
  all_goals cases h

/-! ### Documents -/

/-- What was read in front of a rest is lexed from outside to outside. -/
def Lexed (text rest : List Char) : Prop :=
  ∃ token, text = token ++ rest ∧ lex .outside token = some .outside

theorem Lexed.trans {text middle rest : List Char} (h : Lexed text middle)
    (h' : Lexed middle rest) : Lexed text rest := by
  obtain ⟨token, rfl, htoken⟩ := h
  obtain ⟨more, rfl, hmore⟩ := h'
  exact ⟨token ++ more, (List.append_assoc _ _ _).symm,
    lex_append_eq_some.mpr ⟨.outside, htoken, hmore⟩⟩

/-- Syntax in front of a rest. -/
theorem lexed_syntax {token rest : List Char} (h : ∀ c ∈ token, isSyntax c = true) :
    Lexed (token ++ rest) rest :=
  ⟨token, rfl, lex_syntax h⟩

/-- A punctuation mark in front of a rest. -/
theorem lexed_punctuation {c : Char} {rest : List Char} (h : isSyntax c = true) :
    Lexed (c :: rest) rest :=
  ⟨[c], rfl, lex_syntax fun _ hd => List.mem_singleton.mp hd ▸ h⟩

theorem lexed_blanks (text : List Char) : Lexed text (text.dropWhile isBlank) :=
  ⟨text.takeWhile isBlank, List.takeWhile_append_dropWhile.symm, lex_blanks text⟩

/-- A quoted string in front of a rest. -/
theorem lexed_string {text cs rest : List Char} (h : readString text = some (cs, rest)) :
    Lexed ('"' :: text) rest := by
  obtain ⟨body, hbody⟩ := readString_body h
  refine ⟨'"' :: (body ++ ['"']), by rw [hbody.text_eq]; simp, ?_⟩
  rw [lex_cons, Mode.next, if_pos rfl, Option.bind_some, lex_append, hbody.lexed]
  rfl

/-- A reader of numbers takes only characters of numbers and constants. -/
def NumberFormat.Lexical {ν : Type} (format : NumberFormat ν) : Prop :=
  ∀ cs n rest, format.read cs = some (n, rest) →
    ∃ token, cs = token ++ rest ∧ ∀ c ∈ token, isSyntax c = true

/-- Decimal integers are made of digits and a sign. -/
theorem readDigits_lexical {cs rest : List Char} {n : Nat}
    (h : readDigits cs = some (n, rest)) :
    ∃ token, cs = token ++ rest ∧ ∀ c ∈ token, isSyntax c = true := by
  refine ⟨cs.takeWhile Char.isDigit, ?_, fun c hc => ?_⟩
  · unfold readDigits at h
    split at h
    case h_1 => cases h
    case h_2 => cases h
    case h_3 =>
      obtain ⟨-, rfl⟩ := Prod.mk.inj (Option.some.inj h)
      exact List.takeWhile_append_dropWhile.symm
  · simp [isSyntax, isNumberChar, List.mem_takeWhile_imp hc]

theorem integers_lexical : integers.Lexical := by
  intro cs n rest h
  change readInteger cs = some (n, rest) at h
  unfold readInteger at h
  split at h
  case h_1 text =>
    obtain ⟨⟨digits, after⟩, hdigits, h⟩ := Option.map_eq_some_iff.mp h
    obtain ⟨-, rfl⟩ := Prod.mk.inj h
    obtain ⟨token, rfl, htoken⟩ := readDigits_lexical hdigits
    exact ⟨'-' :: token, rfl, List.forall_mem_cons.mpr ⟨rfl, htoken⟩⟩
  case h_2 =>
    obtain ⟨⟨digits, after⟩, hdigits, h⟩ := Option.map_eq_some_iff.mp h
    obtain ⟨-, rfl⟩ := Prod.mk.inj h
    exact readDigits_lexical hdigits

section Documents

variable {ν : Type} {format : NumberFormat ν} (hformat : format.Lexical)

include hformat

section Readers

variable {fuel : Nat}
  (hread : ∀ text d rest, read format fuel text = some (d, rest) → Lexed text rest)
  (hitems : ∀ text xs rest, readItems format fuel text = some (xs, rest) → Lexed text rest)
  (hmember : ∀ text field rest, readField format fuel text = some (field, rest) → Lexed text rest)
  (hmembers : ∀ text fields rest,
    readFields format fuel text = some (fields, rest) → Lexed text rest)

include hread hitems hmember hmembers in
theorem lexed_document {text rest : List Char} {d : JsonDoc ν}
    (h : read format (fuel + 1) text = some (d, rest)) : Lexed text rest := by
  refine (lexed_blanks text).trans ?_
  unfold read at h
  split at h
  case h_1 heq =>
    obtain ⟨-, rfl⟩ := Prod.mk.inj (Option.some.inj h)
    rw [heq]
    exact ⟨['n', 'u', 'l', 'l'], rfl, rfl⟩
  case h_2 heq =>
    obtain ⟨-, rfl⟩ := Prod.mk.inj (Option.some.inj h)
    rw [heq]
    exact ⟨['t', 'r', 'u', 'e'], rfl, rfl⟩
  case h_3 heq =>
    obtain ⟨-, rfl⟩ := Prod.mk.inj (Option.some.inj h)
    rw [heq]
    exact ⟨['f', 'a', 'l', 's', 'e'], rfl, rfl⟩
  case h_4 heq =>
    obtain ⟨⟨cs, after⟩, hcs, h⟩ := Option.map_eq_some_iff.mp h
    obtain ⟨-, rfl⟩ := Prod.mk.inj h
    rw [heq]
    exact lexed_string hcs
  case h_5 inner heq =>
    rw [heq]
    refine (lexed_punctuation rfl).trans ((lexed_blanks inner).trans ?_)
    split at h
    case h_1 hend =>
      obtain ⟨-, rfl⟩ := Prod.mk.inj (Option.some.inj h)
      rw [hend]
      exact lexed_punctuation rfl
    case h_2 =>
      simp only [Option.bind_eq_bind, Option.bind_eq_some_iff, Option.pure_def] at h
      obtain ⟨⟨x, middle⟩, hx, ⟨xs, after⟩, hxs, h⟩ := h
      obtain ⟨-, rfl⟩ := Prod.mk.inj (Option.some.inj h)
      exact (hread _ _ _ hx).trans (hitems _ _ _ hxs)
  case h_6 inner heq =>
    rw [heq]
    refine (lexed_punctuation rfl).trans ((lexed_blanks inner).trans ?_)
    split at h
    case h_1 hend =>
      obtain ⟨-, rfl⟩ := Prod.mk.inj (Option.some.inj h)
      rw [hend]
      exact lexed_punctuation rfl
    case h_2 =>
      simp only [Option.bind_eq_bind, Option.bind_eq_some_iff, Option.pure_def] at h
      obtain ⟨⟨field, middle⟩, hfield, ⟨fields, after⟩, hfields, h⟩ := h
      obtain ⟨-, rfl⟩ := Prod.mk.inj (Option.some.inj h)
      exact (hmember _ _ _ hfield).trans (hmembers _ _ _ hfields)
  case h_7 =>
    obtain ⟨⟨n, after⟩, hn, h⟩ := Option.map_eq_some_iff.mp h
    obtain ⟨-, rfl⟩ := Prod.mk.inj h
    obtain ⟨token, htext, htoken⟩ := hformat _ _ _ hn
    rw [htext]
    exact lexed_syntax htoken

omit hformat
include hread

include hitems in
theorem lexed_items {text rest : List Char} {xs : List (JsonDoc ν)}
    (h : readItems format (fuel + 1) text = some (xs, rest)) : Lexed text rest := by
  refine (lexed_blanks text).trans ?_
  unfold readItems at h
  split at h
  case h_1 heq =>
    obtain ⟨-, rfl⟩ := Prod.mk.inj (Option.some.inj h)
    rw [heq]
    exact lexed_punctuation rfl
  case h_2 heq =>
    rw [heq]
    simp only [Option.bind_eq_bind, Option.bind_eq_some_iff, Option.pure_def] at h
    obtain ⟨⟨x, middle⟩, hx, ⟨xs', after⟩, hxs, h⟩ := h
    obtain ⟨-, rfl⟩ := Prod.mk.inj (Option.some.inj h)
    exact (lexed_punctuation rfl).trans ((hread _ _ _ hx).trans (hitems _ _ _ hxs))
  case h_3 => cases h

theorem lexed_member {text rest : List Char} {field : String × JsonDoc ν}
    (h : readField format (fuel + 1) text = some (field, rest)) : Lexed text rest := by
  refine (lexed_blanks text).trans ?_
  unfold readField at h
  split at h
  case h_1 heq =>
    rw [heq]
    simp only [Option.bind_eq_bind, Option.bind_eq_some_iff] at h
    obtain ⟨⟨key, middle⟩, hkey, h⟩ := h
    refine (lexed_string hkey).trans ((lexed_blanks middle).trans ?_)
    split at h
    case h_1 hcolon =>
      simp only [Option.bind_eq_some_iff, Option.pure_def] at h
      obtain ⟨⟨x, after⟩, hx, h⟩ := h
      obtain ⟨-, rfl⟩ := Prod.mk.inj (Option.some.inj h)
      rw [hcolon]
      exact (lexed_punctuation rfl).trans (hread _ _ _ hx)
    case h_2 => cases h
  case h_2 => cases h

omit hread
include hmember hmembers in
theorem lexed_members {text rest : List Char} {fields : List (String × JsonDoc ν)}
    (h : readFields format (fuel + 1) text = some (fields, rest)) : Lexed text rest := by
  refine (lexed_blanks text).trans ?_
  unfold readFields at h
  split at h
  case h_1 heq =>
    obtain ⟨-, rfl⟩ := Prod.mk.inj (Option.some.inj h)
    rw [heq]
    exact lexed_punctuation rfl
  case h_2 heq =>
    rw [heq]
    simp only [Option.bind_eq_bind, Option.bind_eq_some_iff, Option.pure_def] at h
    obtain ⟨⟨field, middle⟩, hfield, ⟨fields', after⟩, hfields, h⟩ := h
    obtain ⟨-, rfl⟩ := Prod.mk.inj (Option.some.inj h)
    exact (lexed_punctuation rfl).trans
      ((hmember _ _ _ hfield).trans (hmembers _ _ _ hfields))
  case h_3 => cases h

end Readers

/-- **What is read is lexed**, for each of the four readers. -/
theorem lexed_readers (fuel : Nat) :
    (∀ text d rest, read format fuel text = some (d, rest) → Lexed text rest) ∧
    (∀ text xs rest, readItems format fuel text = some (xs, rest) → Lexed text rest) ∧
    (∀ text field rest, readField format fuel text = some (field, rest) → Lexed text rest) ∧
    (∀ text fields rest, readFields format fuel text = some (fields, rest) → Lexed text rest) := by
  induction fuel with
  | zero =>
      refine ⟨fun _ _ _ h => ?_, fun _ _ _ h => ?_, fun _ _ _ h => ?_, fun _ _ _ h => ?_⟩ <;>
        cases h
  | succ fuel ih =>
      obtain ⟨hread, hitems, hmember, hmembers⟩ := ih
      exact ⟨fun _ _ _ => lexed_document hformat hread hitems hmember hmembers,
        fun _ _ _ => lexed_items hread hitems, fun _ _ _ => lexed_member hread,
        fun _ _ _ => lexed_members hmember hmembers⟩

/-- A whole text. -/
theorem lex_parse {text : List Char} {d : JsonDoc ν} (h : parse format text = some d) :
    lex .outside text = some .outside := by
  rw [parse, Option.bind_eq_bind, Option.bind_eq_some_iff] at h
  obtain ⟨⟨d', rest⟩, hread, h⟩ := h
  dsimp only at h
  split at h
  case isTrue hblank =>
    obtain ⟨token, rfl, htoken⟩ := (lexed_readers hformat _).1 _ _ _ hread
    refine lex_append_eq_some.mpr ⟨.outside, htoken, lex_syntax fun c hc => ?_⟩
    exact isSyntax_of_isBlank (List.all_eq_true.mp hblank c hc)
  case isFalse => cases h

/-! ### Keys -/

omit hformat in
/-- A string of the text, outside of which the text is lexed, says `key`. -/
def KeyAt (text : List Char) (key : String) : Prop :=
  ∃ before body after, text = before ++ '"' :: (body ++ '"' :: after) ∧
    lex .outside before = some .outside ∧
    StringBody (body ++ '"' :: after) key.toList after body

omit hformat in
theorem KeyAt.behind {text rest : List Char} {key : String} (hkey : KeyAt rest key)
    (h : Lexed text rest) : KeyAt text key := by
  obtain ⟨token, rfl, htoken⟩ := h
  obtain ⟨before, body, after, rfl, hbefore, hbody⟩ := hkey
  exact ⟨token ++ before, body, after, (List.append_assoc _ _ _).symm,
    lex_append_eq_some.mpr ⟨.outside, htoken, hbefore⟩, hbody⟩

omit hformat in
theorem keyAt_readField {fuel : Nat} {text rest : List Char} {field : String × JsonDoc ν}
    (h : readField format fuel text = some (field, rest)) : KeyAt text field.1 := by
  cases fuel with
  | zero => cases h
  | succ fuel =>
      refine KeyAt.behind ?_ (lexed_blanks text)
      unfold readField at h
      split at h
      case h_1 inner heq =>
        rw [heq]
        simp only [Option.bind_eq_bind, Option.bind_eq_some_iff] at h
        obtain ⟨⟨key, middle⟩, hkey, h⟩ := h
        obtain ⟨body, hbody⟩ := readString_body hkey
        obtain rfl := hbody.text_eq
        split at h
        case h_1 =>
          simp only [Option.bind_eq_some_iff, Option.pure_def] at h
          obtain ⟨_, -, h⟩ := h
          obtain ⟨rfl, -⟩ := Prod.mk.inj (Option.some.inj h)
          exact ⟨[], body, middle, rfl, rfl, by rwa [String.toList_ofList]⟩
        case h_2 => cases h
      case h_2 => cases h

theorem keyAt_readFields {fuel : Nat} {text rest : List Char} {fields : List (String × JsonDoc ν)}
    (h : readFields format fuel text = some (fields, rest)) :
    ∀ field ∈ fields, KeyAt text field.1 := by
  induction fuel generalizing text rest fields with
  | zero => cases h
  | succ fuel ih =>
      intro field hmem
      refine KeyAt.behind ?_ (lexed_blanks text)
      unfold readFields at h
      split at h
      case h_1 =>
        obtain ⟨rfl, -⟩ := Prod.mk.inj (Option.some.inj h)
        cases hmem
      case h_2 inner heq =>
        rw [heq]
        simp only [Option.bind_eq_bind, Option.bind_eq_some_iff, Option.pure_def] at h
        obtain ⟨⟨first, middle⟩, hfirst, ⟨others, after⟩, hothers, h⟩ := h
        obtain ⟨rfl, -⟩ := Prod.mk.inj (Option.some.inj h)
        refine KeyAt.behind ?_ (lexed_punctuation rfl)
        rcases List.mem_cons.mp hmem with rfl | hmem
        · exact keyAt_readField hfirst
        · exact (ih hothers field hmem).behind ((lexed_readers hformat _).2.2.1 _ _ _ hfirst)
      case h_3 => cases h

theorem keyAt_read {fuel : Nat} {text rest : List Char} {fields : List (String × JsonDoc ν)}
    (h : read format fuel text = some (.obj fields, rest)) :
    ∀ field ∈ fields, KeyAt text field.1 := by
  cases fuel with
  | zero => cases h
  | succ fuel =>
      intro field hmem
      refine KeyAt.behind ?_ (lexed_blanks text)
      unfold read at h
      split at h
      case h_6 inner heq =>
        rw [heq]
        refine KeyAt.behind ?_ ((lexed_punctuation rfl).trans (lexed_blanks inner))
        split at h
        case h_1 =>
          obtain ⟨hfields, -⟩ := Prod.mk.inj (Option.some.inj h)
          obtain rfl := JsonDoc.obj.inj hfields
          cases hmem
        case h_2 =>
          simp only [Option.bind_eq_bind, Option.bind_eq_some_iff, Option.pure_def] at h
          obtain ⟨⟨first, middle⟩, hfirst, ⟨others, after⟩, hothers, h⟩ := h
          obtain ⟨hfields, -⟩ := Prod.mk.inj (Option.some.inj h)
          obtain rfl := JsonDoc.obj.inj hfields
          rcases List.mem_cons.mp hmem with rfl | hmem
          · exact keyAt_readField hfirst
          · exact (keyAt_readFields hformat hothers field hmem).behind
              ((lexed_readers hformat _).2.2.1 _ _ _ hfirst)
      case h_1 => cases h
      case h_2 => cases h
      case h_3 => cases h
      case h_4 =>
        obtain ⟨_, -, h⟩ := Option.map_eq_some_iff.mp h
        cases h
      case h_5 =>
        split at h
        case h_1 => cases h
        case h_2 =>
          simp only [Option.bind_eq_bind, Option.bind_eq_some_iff, Option.pure_def] at h
          obtain ⟨_, -, _, -, h⟩ := h
          cases h
      case h_7 =>
        obtain ⟨_, -, h⟩ := Option.map_eq_some_iff.mp h
        cases h

/-! ### From outside and from inside -/

omit hformat in
/-- One of two lexers is outside and the other inside. -/
def Opposite (a b : Mode) : Prop :=
  (a = .outside ∧ b = .inside) ∨ (a = .inside ∧ b = .outside)

omit hformat in
theorem Opposite.symm {a b : Mode} (h : Opposite a b) : Opposite b a :=
  (Or.symm h).imp And.symm And.symm

omit hformat in
/-- **The two stay on opposite sides**, and meet no backslash. -/
theorem Opposite.lex {text : List Char} {a b a' b' : Mode} (h : Opposite a b)
    (ha : lex a text = some a') (hb : lex b text = some b') :
    Opposite a' b' ∧ '\\' ∉ text := by
  induction text generalizing a b with
  | nil =>
      obtain rfl := Option.some.inj ha
      obtain rfl := Option.some.inj hb
      exact ⟨h, List.not_mem_nil⟩
  | cons c text ih =>
      rw [lex_cons, Option.bind_eq_some_iff] at ha hb
      obtain ⟨a₁, ha₁, ha⟩ := ha
      obtain ⟨b₁, hb₁, hb⟩ := hb
      have hstep : ∀ {x y : Mode}, Mode.next .outside c = some x → Mode.next .inside c = some y →
          Opposite x y ∧ c ≠ '\\' := by
        intro x y hx hy
        by_cases hquote : c = '"'
        · subst hquote
          cases hx
          cases hy
          exact ⟨.inr ⟨rfl, rfl⟩, by decide⟩
        · have hback : c ≠ '\\' := by
            rintro rfl
            cases hx
          rw [Mode.next, if_neg hquote] at hx
          rw [Mode.next, if_neg hquote, if_neg hback] at hy
          split at hx
          case isTrue =>
            cases hx
            cases hy
            exact ⟨.inl ⟨rfl, rfl⟩, hback⟩
          case isFalse => cases hx
      have hnext : Opposite a₁ b₁ ∧ c ≠ '\\' := by
        rcases h with ⟨rfl, rfl⟩ | ⟨rfl, rfl⟩
        · exact hstep ha₁ hb₁
        · obtain ⟨hopposite, hback⟩ := hstep hb₁ ha₁
          exact ⟨hopposite.symm, hback⟩
      obtain ⟨hfinal, htext⟩ := ih hnext.1 ha hb
      exact ⟨hfinal, fun hmem => (List.mem_cons.mp hmem).elim (fun hc => hnext.2 hc.symm) htext⟩

omit hformat in
/-- A text that can be lexed from inside too has only syntax in its strings. -/
theorem KeyAt.chars {text : List Char} {key : String} {final : Mode} (h : KeyAt text key)
    (hinside : lex .inside text = some final) : ∀ c ∈ key.toList, isSyntax c = true := by
  obtain ⟨before, body, after, rfl, hbefore, hbody⟩ := h
  obtain ⟨middle, hmiddle, hrest⟩ := lex_append_eq_some.mp hinside
  obtain ⟨hopposite, -⟩ := Opposite.lex (.inl ⟨rfl, rfl⟩) hbefore hmiddle
  obtain rfl : middle = .inside := by
    rcases hopposite with ⟨-, h⟩ | ⟨h, -⟩
    · exact h
    · cases h
  rw [lex_cons, Mode.next, if_pos rfl, Option.bind_some] at hrest
  obtain ⟨final', hfinal', -⟩ := lex_append_eq_some.mp hrest
  obtain ⟨-, hback⟩ := Opposite.lex (.inl ⟨rfl, rfl⟩) hfinal' hbody.lexed
  obtain ⟨hkey, hquote⟩ := hbody.plain hback
  rw [hkey]
  exact syntax_of_lex hquote hfinal'

end Documents

end JsonText
