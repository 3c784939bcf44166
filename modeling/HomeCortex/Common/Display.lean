/-
# Display names

`common/display.py`.  A resolver indexes entity metadata by record id, at any depth of
the values it is given, and replaces the record ids in a text by display names, or by
the form of address for persons.  `DisplayTextStream` does the same while the text
arrives: it holds back a trailing run of id characters, since an id may go on.

`str.casefold` is a parameter: it folds each character for itself and leaves
punctuation alone.
-/

import HomeCortex.Persistence.RecordIds

namespace HomeCortex
namespace Display

/-- `str.casefold` by characters. -/
structure CaseFolding where
  fold : Char → List Char
  punctuation : ∀ c ∈ ['，', ',', '：', ':'], fold c = [c]

/-- `text.casefold()`. -/
def CaseFolding.casefold (folding : CaseFolding) (text : List Char) : List Char :=
  text.flatMap folding.fold

/-- `text.strip()`. -/
def strip (text : String) : String :=
  String.ofList ((text.toList.dropWhile isSpace).reverse.dropWhile isSpace).reverse

/-- `isinstance(value, str) and value.strip()`. -/
def nonBlank? : Json → Option String
  | .str text => if isBlank text then none else some text
  | _ => none

/-- `_CHINESE_PATTERN.search`. -/
def isChinese (text : String) : Bool :=
  text.toList.any fun c => ('\u3400' ≤ c && c ≤ '\u4dbf') || ('\u4e00' ≤ c && c ≤ '\u9fff')

/-! ### Names of one entity -/

section Names

variable (folding : CaseFolding)

/-- `normalize_language_code`: the primary subtag, case folded. -/
def normalizeLanguageCode (language : String) : String :=
  String.ofList ((folding.casefold language.toList).takeWhile (· ≠ '-'))

/-- `_localized_value`, the language being normalized. -/
def localizedValue (value : Json) (language : String) : Option String :=
  match value with
  | .obj fields => fields.findSome? fun field =>
      if normalizeLanguageCode folding field.1 = language then (nonBlank? field.2).map strip
      else none
  | .arr items => items.findSome? fun item =>
      match nonBlank? item with
      | some text =>
          if (language = "zh" ∧ isChinese text) ∨ (language ≠ "zh" ∧ ¬ isChinese text) then
            some (strip text)
          else none
      | none => none
  | _ => none

/-- The first item that is a non-blank string. -/
def firstNonBlank (items : List Json) : Json :=
  ((items.findSome? nonBlank?).map .str).getD .null

/-- `_default_value`. -/
def defaultValue : Json → Json
  | .str text => .str text
  | .obj fields =>
      match Fields.get? fields "default" with
      | some (.str text) => .str text
      | _ => firstNonBlank (fields.map (·.2))
  | .arr items => firstNonBlank items
  | _ => .null

/-- `_explicit_default_value`. -/
def explicitDefaultValue : Json → Json
  | .str text => .str text
  | .obj fields =>
      match Fields.get? fields "default" with
      | some (.str text) => .str text
      | _ => .null
  | _ => .null

/-- `_another_value`. -/
def anotherValue : Json → Json
  | .obj fields => firstNonBlank ((fields.filter fun field =>
      folding.casefold field.1.toList ≠ "default".toList).map (·.2))
  | .arr items => firstNonBlank items
  | _ => .null

/-- The first of some fallbacks that is a non-blank string, stripped. -/
def firstFallback (fallbacks : List Json) : Option String :=
  (fallbacks.findSome? nonBlank?).map strip

/-- `_select_display_name`. -/
def selectDisplayName (entity : Fields) (language : String) : Option String :=
  let language := normalizeLanguageCode folding language
  let name := entity.getD "name"
  let display_name := entity.getD "display_name"
  ((localizedValue folding name language).orElse fun _ =>
    localizedValue folding display_name language).orElse fun _ =>
      firstFallback [entity.getD "default_display_name", defaultValue display_name,
        defaultValue name]

/-- `_select_address_as`. -/
def selectAddressAs (entity : Fields) (language : String) : Option String :=
  let language := normalizeLanguageCode folding language
  let address_as := entity.getD "address_as"
  (localizedValue folding address_as language).orElse fun _ =>
    firstFallback [entity.getD "default_address_as", explicitDefaultValue address_as,
      anotherValue folding address_as]

end Names

/-! ### Record ids in a text -/

/-- `[A-Za-z0-9_-]+` and further `:` segments, as far as they go. -/
def idSegments : List Char → List Char
  | [] => []
  | c :: rest =>
      if isKeyChar c then c :: idSegments rest
      else if c = ':' ∧ (rest.head?.map isKeyChar).getD false then c :: idSegments rest
      else []

/-- `INTERNAL_ID_PATTERN` at the front of a text, without its lookbehind: a table name,
then one or more `:` segments. -/
def matchId : List Char → Option (List Char)
  | [] => none
  | c :: rest =>
      let after := rest.dropWhile isNameChar
      if isNameStart c ∧ after.head? = some ':' ∧ idSegments after ≠ [] then
        some (c :: rest.takeWhile isNameChar ++ idSegments after)
      else none

/-- `INTERNAL_ID_PATTERN.fullmatch`. -/
def isInternalId (text : String) : Bool := matchId text.toList = some text.toList

/-- A record id in a text, or a character outside of ids. -/
inductive Token where
  | id (record_id : List Char)
  | char (c : Char)

/-- What `INTERNAL_ID_PATTERN` finds in a text: `previous` is the character before the
text, for the lookbehind, and `skip` counts what is left of the last match. -/
def scanIds : Option Char → Nat → List Char → List Token
  | _, _, [] => []
  | _, skip + 1, c :: rest => scanIds (some c) skip rest
  | previous, 0, c :: rest =>
      match if (previous.map isNameChar).getD false then none else matchId (c :: rest) with
      | some id => .id id :: scanIds (some c) (id.length - 1) rest
      | none => .char c :: scanIds (some c) 0 rest

/-- The ids and the other characters of a whole text. -/
def tokens (text : List Char) : List Token := scanIds none 0 text

/-- `INTERNAL_ID_PATTERN.sub`. -/
def subIds (replace : List Char → List Char) (text : List Char) : List Char :=
  (tokens text).flatMap fun
    | .id record_id => replace record_id
    | .char c => [c]

/-- `_TRAILING_ID_CHARACTERS`. -/
def isIdChar (c : Char) : Bool := isKeyChar c || c = ':'

/-! A character that occurs in no id separates a text: what is before it and what is
after it are searched for ids on their own. -/

section Separator

variable {x : Char}

theorem not_isKeyChar (h : isIdChar x = false) : isKeyChar x = false ∧ x ≠ ':' := by
  simpa [isIdChar] using h

theorem not_isNameChar (h : isIdChar x = false) : isNameChar x = false := by
  have hkey := (not_isKeyChar h).1
  simp only [isKeyChar, Bool.or_eq_false_iff] at hkey
  simp only [isNameChar, Bool.or_eq_false_iff]
  exact hkey.1

theorem not_isNameStart (h : isIdChar x = false) : isNameStart x = false := by
  have hname := not_isNameChar h
  simp only [isNameChar, Bool.or_eq_false_iff, Char.isAlphanum] at hname
  simp only [isNameStart, Bool.or_eq_false_iff]
  exact ⟨hname.1.1, hname.2⟩

theorem idSegments_append (h : isIdChar x = false) (cs rest : List Char) :
    idSegments (cs ++ x :: rest) = idSegments cs := by
  obtain ⟨hkey, hcolon⟩ := not_isKeyChar h
  induction cs with
  | nil => simp [idSegments, hkey, hcolon]
  | cons c cs ih =>
      rw [List.cons_append, idSegments, idSegments, ih]
      cases cs with
      | nil => simp [hkey]
      | cons d cs => rfl

theorem matchId_append (h : isIdChar x = false) (cs rest : List Char) :
    matchId (cs ++ x :: rest) = matchId cs := by
  have hname := not_isNameChar h
  have hcolon := (not_isKeyChar h).2
  cases cs with
  | nil => simp [matchId, not_isNameStart h]
  | cons c cs =>
      have htake : (cs ++ x :: rest).takeWhile isNameChar = cs.takeWhile isNameChar := by
        induction cs with
        | nil => simp [hname]
        | cons d cs ih => simp [List.takeWhile_cons, ih]
      have hdrop : (cs ++ x :: rest).dropWhile isNameChar =
          cs.dropWhile isNameChar ++ x :: rest := by
        induction cs with
        | nil => simp [hname]
        | cons d cs ih =>
            rw [List.cons_append, List.dropWhile_cons, List.dropWhile_cons]
            split
            · exact ih (by simpa [List.takeWhile_cons, *] using htake)
            · rfl
      rw [List.cons_append, matchId, matchId, htake, hdrop, idSegments_append h]
      cases hafter : cs.dropWhile isNameChar with
      | nil => simp [hcolon, idSegments]
      | cons d after => rfl

theorem idSegments_length (cs : List Char) : (idSegments cs).length ≤ cs.length := by
  induction cs with
  | nil => exact Nat.le_refl _
  | cons c cs ih =>
      rw [idSegments]
      split
      · exact Nat.succ_le_succ ih
      split
      · exact Nat.succ_le_succ ih
      · exact Nat.zero_le _

theorem matchId_length {cs id : List Char} (h : matchId cs = some id) :
    0 < id.length ∧ id.length ≤ cs.length := by
  cases cs with
  | nil => cases h
  | cons c cs =>
      rw [matchId] at h
      split at h
      · obtain rfl := Option.some.inj h
        have hsegments := idSegments_length (cs.dropWhile isNameChar)
        have hwhole := congrArg List.length (@List.takeWhile_append_dropWhile _ isNameChar cs)
        simp only [List.length_append, List.length_cons] at hwhole ⊢
        omega
      · cases h

theorem scanIds_separator (h : isIdChar x = false) (cs rest : List Char) (previous : Option Char)
    (skip : Nat) (hskip : skip ≤ cs.length) :
    scanIds previous skip (cs ++ x :: rest) =
      scanIds previous skip cs ++ .char x :: scanIds (some x) 0 rest := by
  induction cs generalizing previous skip with
  | nil =>
      obtain rfl := Nat.le_zero.mp hskip
      simp [scanIds, matchId, not_isNameStart h]
  | cons c cs ih =>
      cases skip with
      | succ skip =>
          rw [List.cons_append, scanIds, scanIds, ih _ _ (Nat.le_of_succ_le_succ hskip)]
      | zero =>
          rw [List.cons_append, scanIds, scanIds, ← List.cons_append, matchId_append h]
          split
          case h_1 id hid =>
            have hlength : id.length ≤ cs.length + 1 := by
              split at hid
              · cases hid
              · exact (matchId_length hid).2
            rw [ih _ _ (by omega), List.cons_append]
          case h_2 => rw [ih _ _ (Nat.zero_le _), List.cons_append]

/-- After a separator a text is searched as from its start. -/
theorem tokens_separator (h : isIdChar x = false) (cs rest : List Char) :
    tokens (cs ++ x :: rest) = tokens cs ++ .char x :: tokens rest := by
  have hfresh : scanIds (some x) 0 rest = scanIds none 0 rest := by
    cases rest with
    | nil => rfl
    | cons c rest => simp [scanIds, not_isNameChar h]
  rw [tokens, scanIds_separator h _ _ _ _ (Nat.zero_le _), hfresh]
  rfl

/-- A text that ends where no id can go on. -/
def Closed (text : List Char) : Prop := ∀ c ∈ text.getLast?, isIdChar c = false

/-- **Cutting at a separator.**  No id lies across the end of a closed text. -/
theorem tokens_append {text : List Char} (h : Closed text) (rest : List Char) :
    tokens (text ++ rest) = tokens text ++ tokens rest := by
  rcases List.eq_nil_or_concat text with rfl | ⟨cs, c, rfl⟩
  · rfl
  · have hc : isIdChar c = false := h c (by simp)
    have hend := tokens_separator hc cs []
    rw [List.concat_eq_append, List.append_assoc, List.singleton_append, tokens_separator hc, hend,
      List.append_assoc]
    rfl

end Separator

/-! ### The resolver -/

/-- `ReferenceMode` of a name in a text. -/
inductive ReferenceMode where
  | address
  | name
deriving DecidableEq, Repr

/-- `DisplayNameResolver`: the entities by record id, in the order they were indexed. -/
structure Resolver where
  entities : List (String × Fields)

namespace Resolver

/-- `self._entities[record_id] = …`. -/
def setEntity (resolver : Resolver) (record_id : String) (value : Fields) : Resolver :=
  match resolver.entities.lookup record_id with
  | some existing => ⟨resolver.entities.map fun entry =>
      if entry.1 = record_id then (record_id, value.merge existing) else entry⟩
  | none => ⟨resolver.entities ++ [(record_id, value)]⟩

mutual

/-- `register`. -/
def register (resolver : Resolver) : Json → Resolver
  | .obj fields =>
      registerFields (match Fields.get? fields "id" with
        | some (.str record_id) =>
            if isInternalId record_id then resolver.setEntity record_id fields else resolver
        | _ => resolver) fields
  | .arr items => registerItems resolver items
  | _ => resolver

def registerItems (resolver : Resolver) : List Json → Resolver
  | [] => resolver
  | item :: items => registerItems (register resolver item) items

def registerFields (resolver : Resolver) : List (String × Json) → Resolver
  | [] => resolver
  | (_, item) :: fields => registerFields (register resolver item) fields

end

/-- `DisplayNameResolver.from_messages`; `loads` is `json.loads`, `none` where it raises. -/
def fromMessages (loads : String → Option Json) (messages : List Fields) (values : List Json) :
    Resolver :=
  messages.foldl (fun resolver message =>
      match message.get? "role", message.get? "content" with
      | some (.str "tool"), some (.str content) =>
          match loads content with
          | some value => resolver.register value
          | none => resolver
      | _, _ => resolver)
    (values.foldl register ⟨[]⟩)

variable (folding : CaseFolding)

/-- `resolve` of an entity, or of an id without one. -/
def resolveEntity (entity : Option Fields) (record_id language : String)
    (mode : ReferenceMode) : String :=
  match entity with
  | none => record_id
  | some entity =>
      let address := if mode = .address ∧ record_id.startsWith "person:" then
        selectAddressAs folding entity language else none
      (address.orElse fun _ => selectDisplayName folding entity language).getD record_id

/-- `resolve` of a record id. -/
def resolve (resolver : Resolver) (record_id language : String) (mode : ReferenceMode) : String :=
  resolveEntity folding (resolver.entities.lookup record_id) record_id language mode

/-- `replace` of `render`: persons in the given mode, all else by name. -/
def replace (resolver : Resolver) (language : String) (person_mode : ReferenceMode)
    (id : List Char) : List Char :=
  let record_id := String.ofList id
  let mode := if record_id.startsWith "person:" then person_mode else .name
  (resolver.resolve folding record_id language mode).toList

/-- `render`. -/
def render (resolver : Resolver) (text : List Char) (language : String)
    (expose_internal_ids : Bool) (person_mode : ReferenceMode) : List Char :=
  if expose_internal_ids then text
  else subIds (resolver.replace folding language person_mode) text

end Resolver

/-! ### The stream -/

/-- `DisplayTextStream`. -/
structure TextStream where
  resolver : Resolver
  language : String
  expose_internal_ids : Bool
  person_mode : ReferenceMode
  pending : List Char

namespace TextStream

/-- A text without its trailing id characters, and these: what `feed` finds by moving
its boundary back. -/
def splitTrailing (text : List Char) : List Char × List Char :=
  ((text.reverse.dropWhile isIdChar).reverse, (text.reverse.takeWhile isIdChar).reverse)

variable (folding : CaseFolding)

/-- `feed`. -/
def feed (stream : TextStream) (text : List Char) : List Char × TextStream :=
  if stream.expose_internal_ids then (text, stream)
  else
    let (ready, pending) := splitTrailing (stream.pending ++ text)
    (stream.resolver.render folding ready stream.language false stream.person_mode,
      { stream with pending })

/-- `finish`. -/
def finish (stream : TextStream) : List Char × TextStream :=
  (stream.resolver.render folding stream.pending stream.language false stream.person_mode,
    { stream with pending := [] })

variable {folding : CaseFolding}

theorem splitTrailing_append (text : List Char) :
    (splitTrailing text).1 ++ (splitTrailing text).2 = text := by
  rw [splitTrailing, ← List.reverse_append, List.takeWhile_append_dropWhile, List.reverse_reverse]

theorem splitTrailing_closed (text : List Char) : Closed (splitTrailing text).1 := by
  intro c hc
  rw [splitTrailing, List.getLast?_reverse] at hc
  have hhead := List.head?_dropWhile_not isIdChar text.reverse
  rw [Option.mem_def.mp hc] at hhead
  simpa using hhead

theorem splitTrailing_idChars (text : List Char) :
    ∀ c ∈ (splitTrailing text).2, isIdChar c = true := fun c hc => by
  rw [splitTrailing, List.mem_reverse] at hc
  exact List.all_eq_true.mp List.all_takeWhile c hc

/-- The two parts are the only ones: a closed text, then id characters. -/
theorem splitTrailing_eq {closed trailing : List Char} (hclosed : Closed closed)
    (htrailing : ∀ c ∈ trailing, isIdChar c = true) :
    splitTrailing (closed ++ trailing) = (closed, trailing) := by
  have hreverse : ∀ c ∈ trailing.reverse, isIdChar c = true := fun c hc =>
    htrailing c (List.mem_reverse.mp hc)
  rw [splitTrailing, List.reverse_append, List.dropWhile_append_of_pos hreverse,
    List.takeWhile_append_of_pos hreverse]
  rcases List.eq_nil_or_concat closed with rfl | ⟨cs, c, rfl⟩
  · simp
  · have hc : isIdChar c = false := hclosed c (by simp)
    simp [hc]

/-- After a closed text only the rest is split. -/
theorem splitTrailing_append_closed {closed : List Char} (h : Closed closed) (rest : List Char) :
    splitTrailing (closed ++ rest) =
      (closed ++ (splitTrailing rest).1, (splitTrailing rest).2) := by
  have hboth : Closed (closed ++ (splitTrailing rest).1) := by
    intro c hc
    rw [List.getLast?_append, Option.mem_def, Option.or_eq_some_iff] at hc
    rcases hc with hc | ⟨-, hc⟩
    · exact splitTrailing_closed rest c hc
    · exact h c hc
  calc splitTrailing (closed ++ rest)
      = splitTrailing (closed ++ (splitTrailing rest).1 ++ (splitTrailing rest).2) := by
        rw [List.append_assoc, splitTrailing_append]
    _ = _ := splitTrailing_eq hboth (splitTrailing_idChars rest)

end TextStream

/-- Rendering is compatible with cutting at the end of a closed text. -/
theorem Resolver.render_append {folding : CaseFolding} (resolver : Resolver) {text : List Char}
    (h : Closed text) (rest : List Char) (language : String) (person_mode : ReferenceMode) :
    resolver.render folding (text ++ rest) language false person_mode =
      resolver.render folding text language false person_mode ++
        resolver.render folding rest language false person_mode := by
  simp only [render, Bool.false_eq_true, if_false, subIds, tokens_append h, List.flatMap_append]

end Display
end HomeCortex
