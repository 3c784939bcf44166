/-
# Canonical JSON

`json.dumps(…, ensure_ascii=False, separators=(",", ":"), sort_keys=True)` and
`json.loads`.  A value to be written is a `JsonDoc` over Python's integers and finite
floats.  `float.__repr__` is a parameter: a text with a point or an exponent that
`float` reads back.  `loads_dumps` says what reading gives: the value with the keys of
every object sorted, and a dict with the same items.
-/

import HomeCortex.Library.JsonText
import HomeCortex.Library.Table
import HomeCortex.Common.Json

namespace HomeCortex

open JsonText

/-- A `float` that `math.isfinite` accepts. -/
abbrev FiniteFloat := {x : Float // x.isFinite = true}

/-- A number of a JSON value to be written. -/
inductive PyNumber where
  | int (n : Int)
  | float (x : FiniteFloat)
deriving DecidableEq

/-- A character that no integer has. -/
def isPoint (c : Char) : Bool := c == '.' || c == 'e' || c == 'E'

/-- `float.__repr__` of finite floats, and `float` of such texts. -/
structure FloatFormat extends NumberFormat FiniteFloat where
  text_point : ∀ x, (text x).any isPoint = true

namespace PyNumber

variable (floats : FloatFormat)

/-- `int.__repr__` and `float.__repr__`. -/
def text : PyNumber → List Char
  | .int n => integers.text n
  | .float x => floats.text x

/-- A number at the front of a text: a float where it has a point or an exponent. -/
def read (text : List Char) : Option (PyNumber × List Char) :=
  if (text.takeWhile isNumberChar).any isPoint then
    (floats.read text).map fun (x, rest) => (.float x, rest)
  else (integers.read text).map fun (n, rest) => (.int n, rest)

theorem takeWhile_delimited {token rest : List Char} (h : ∀ c ∈ token, isNumberChar c = true)
    (hrest : Delimited rest) : (token ++ rest).takeWhile isNumberChar = token := by
  rw [List.takeWhile_append_of_pos h]
  cases rest with
  | nil => simp
  | cons c rest => simp [hrest c rfl]

theorem integerText_no_point (n : Int) : (integers.text n).any isPoint = false := by
  have hdigits : ∀ (n : Nat), ∀ c ∈ Nat.toDigits 10 n, isPoint c = false := by
    intro n c hc
    have hdigit : c.isDigit = true := Nat.isDigit_of_mem_toDigits (by decide) (by decide) hc
    have hne : ∀ d : Char, d.isDigit = false → (c == d) = false := by
      intro d hd
      rw [beq_eq_false_iff_ne]
      rintro rfl
      rw [hdigit] at hd
      cases hd
    simp [isPoint, hne '.' (by decide), hne 'e' (by decide), hne 'E' (by decide)]
  rw [List.any_eq_false]
  intro c hc
  rw [Bool.not_eq_true]
  rcases n with n | n
  · exact hdigits n c hc
  · rcases List.mem_cons.mp hc with rfl | hc
    · decide
    · exact hdigits _ c hc

/-- The number format of `json`. -/
def format : NumberFormat PyNumber where
  text := text floats
  read := read floats
  text_head
    | .int n => integers.text_head n
    | .float x => floats.text_head x
  text_chars
    | .int n => integers.text_chars n
    | .float x => floats.text_chars x
  read_text
    | .int n, rest, hrest => by
        rw [read, text, takeWhile_delimited (integers.text_chars n) hrest, integerText_no_point,
          integers.read_text n rest hrest]
        rfl
    | .float x, rest, hrest => by
        rw [read, text, takeWhile_delimited (floats.text_chars x) hrest, if_pos (floats.text_point x),
          floats.read_text x rest hrest]
        rfl

end PyNumber

/-! ### Writing and reading -/

mutual

/-- `sort_keys=True`. -/
def sortKeys : JsonDoc PyNumber → JsonDoc PyNumber
  | .arr items => .arr (sortItems items)
  | .obj fields => .obj ((sortFields fields).insertionSort fun a b => a.1 ≤ b.1)
  | document => document

def sortItems : List (JsonDoc PyNumber) → List (JsonDoc PyNumber)
  | [] => []
  | item :: items => sortKeys item :: sortItems items

def sortFields : List (String × JsonDoc PyNumber) → List (String × JsonDoc PyNumber)
  | [] => []
  | (key, item) :: fields => (key, sortKeys item) :: sortFields fields

end

mutual

/-- The Python value of a JSON document: a later field of a key replaces an earlier one. -/
def toJson : JsonDoc PyNumber → Json
  | .null => .null
  | .bool value => .bool value
  | .num (.int n) => .int n
  | .num (.float x) => .float x
  | .str text => .str text
  | .arr items => .arr (toJsonItems items)
  | .obj fields => .obj (Fields.merge [] (toJsonFields fields))

def toJsonItems : List (JsonDoc PyNumber) → List Json
  | [] => []
  | item :: items => toJson item :: toJsonItems items

def toJsonFields : List (String × JsonDoc PyNumber) → List (String × Json)
  | [] => []
  | (key, item) :: fields => (key, toJson item) :: toJsonFields fields

end

variable (floats : FloatFormat)

/-- `json.dumps(…, ensure_ascii=False, separators=(",", ":"), sort_keys=True)`. -/
def dumps (document : JsonDoc PyNumber) : String :=
  String.ofList (render ⟨0, 0⟩ (PyNumber.format floats) (sortKeys document))

/-- `json.loads`; `JSONDecodeError` is a `ValueError`. -/
def loads (text : String) : Except PyError Json :=
  match parse (PyNumber.format floats) text.toList with
  | some document => .ok (toJson document)
  | none => .error (.value "invalid JSON")

/-- What `json.loads` gives back of a written value. -/
def reread (document : JsonDoc PyNumber) : Json := toJson (sortKeys document)

/-- **Round trip.** -/
theorem loads_dumps (document : JsonDoc PyNumber) :
    loads floats (dumps floats document) = .ok (reread document) := by
  rw [loads, dumps, String.toList_ofList, parse_render]
  rfl

/-! ### What is read back -/

@[simp] theorem reread_null : reread .null = .null := rfl

@[simp] theorem reread_str (text : String) : reread (.str text) = .str text := rfl

@[simp] theorem reread_int (n : Int) : reread (.num (.int n)) = .int n := rfl

@[simp] theorem reread_float (x : FiniteFloat) : reread (.num (.float x)) = .float x := rfl

@[simp] theorem reread_arr (items : List (JsonDoc PyNumber)) :
    reread (.arr items) = .arr (items.map reread) := by
  rw [reread, sortKeys, toJson, Json.arr.injEq]
  induction items with
  | nil => rfl
  | cons item items ih => rw [sortItems, toJsonItems, ih]; rfl

theorem toJsonFields_eq (fields : List (String × JsonDoc PyNumber)) :
    toJsonFields fields = fields.map fun field => (field.1, toJson field.2) := by
  induction fields with
  | nil => rfl
  | cons field fields ih => rw [toJsonFields, ih]; rfl

theorem toJsonFields_sort (fields : List (String × JsonDoc PyNumber)) :
    toJsonFields ((sortFields fields).insertionSort fun a b => a.1 ≤ b.1) =
      ((fields.map fun field => (field.1, sortKeys field.2)).insertionSort
        fun a b => a.1 ≤ b.1).map fun field => (field.1, toJson field.2) := by
  have hsort : sortFields fields = fields.map fun field => (field.1, sortKeys field.2) := by
    induction fields with
    | nil => rfl
    | cons field fields ih => rw [sortFields, ih]; rfl
  rw [hsort, toJsonFields_eq]

/-- Writing fields of different keys into a dict. -/
theorem get?_merge {changes : Fields} (hnodup : (changes.map Prod.fst).Nodup) (record : Fields)
    (key : String) :
    (record.merge changes).get? key = (changes.lookup key).or (record.get? key) := by
  induction changes generalizing record with
  | nil => rfl
  | cons change changes ih =>
      obtain ⟨k, v⟩ := change
      rw [List.map_cons, List.nodup_cons] at hnodup
      change (Fields.merge (record.set k v) changes).get? key = _
      rw [ih hnodup.2, Fields.get?_set, List.lookup_cons]
      by_cases hk : k = key
      · subst hk
        simp [AList.lookup_eq_none_of_not_mem hnodup.1]
      · simp [hk, beq_eq_false_iff_ne.mpr (Ne.symm hk)]

/-- Two orders of the same fields give the same values. -/
theorem lookup_eq_of_perm {α : Type} {fields sorted : List (String × α)} (hperm : sorted.Perm fields)
    (hnodup : (fields.map Prod.fst).Nodup) (key : String) :
    sorted.lookup key = fields.lookup key := by
  have hsorted : (sorted.map Prod.fst).Nodup := (hperm.map _).nodup_iff.mpr hnodup
  apply Option.ext
  intro value
  constructor
  · exact fun h => AList.lookup_eq_some_of_mem hnodup (hperm.mem_iff.mp (AList.mem_of_lookup_eq_some h))
  · exact fun h => AList.lookup_eq_some_of_mem hsorted (hperm.mem_iff.mpr (AList.mem_of_lookup_eq_some h))

theorem lookup_map {α β : Type} (f : α → β) (fields : List (String × α)) (key : String) :
    (fields.map fun field => (field.1, f field.2)).lookup key = (fields.lookup key).map f := by
  induction fields with
  | nil => rfl
  | cons field fields ih =>
      rw [List.map_cons, List.lookup_cons, List.lookup_cons, ih]
      cases key == field.1 <;> rfl

/-- The keys beyond some allowed ones, when all are allowed. -/
theorem extra_eq_nil {record : Fields} {allowed : List String}
    (h : ∀ key, (record.get? key).isSome → key ∈ allowed) : record.extra allowed = [] := by
  rw [Fields.extra, List.filter_eq_nil_iff.mpr, List.insertionSort_nil]
  intro key hkey
  obtain ⟨field, hfield, rfl⟩ := List.mem_map.mp hkey
  have hsome : (record.get? field.1).isSome = true := by
    by_contra hnone
    rw [Bool.not_eq_true, Option.isSome_eq_false_iff, Option.isNone_iff_eq_none] at hnone
    have hne := List.lookup_eq_none_iff.mp hnone field hfield
    simp at hne
  simp [h _ hsome]

/-- **A mapping as it is** has its fields. -/
theorem toJson_obj {fields : List (String × JsonDoc PyNumber)} {allowed : List String}
    (hnodup : (fields.map Prod.fst).Nodup) (hallowed : fields.map Prod.fst ⊆ allowed) :
    ∃ record : Fields, toJson (.obj fields) = .obj record ∧ record.extra allowed = [] ∧
      ∀ key, record.get? key = (fields.lookup key).map toJson := by
  have hget : ∀ key, (Fields.merge [] (toJsonFields fields)).get? key =
      (fields.lookup key).map toJson := by
    intro key
    rw [toJsonFields_eq, get?_merge, Fields.get?_nil, Option.or_none, lookup_map]
    rw [List.map_map]
    exact hnodup
  refine ⟨_, rfl, extra_eq_nil fun key hkey => hallowed ?_, hget⟩
  rw [hget, Option.isSome_map] at hkey
  obtain ⟨document, hdocument⟩ := Option.isSome_iff_exists.mp hkey
  exact List.mem_map.mpr ⟨_, AList.mem_of_lookup_eq_some hdocument, rfl⟩

/-- **A mapping read back** has the fields that were written. -/
theorem reread_obj {fields : List (String × JsonDoc PyNumber)} {allowed : List String}
    (hnodup : (fields.map Prod.fst).Nodup) (hallowed : fields.map Prod.fst ⊆ allowed) :
    ∃ record : Fields, reread (.obj fields) = .obj record ∧ record.extra allowed = [] ∧
      ∀ key, record.get? key = (fields.lookup key).map reread := by
  have hperm := List.perm_insertionSort (fun a b : String × JsonDoc PyNumber => a.1 ≤ b.1)
    (fields.map fun field => (field.1, sortKeys field.2))
  have hkeys : ((fields.map fun field => (field.1, sortKeys field.2)).map Prod.fst) =
      fields.map Prod.fst := by
    rw [List.map_map]
    rfl
  have hsorted := ((hperm.map Prod.fst).nodup_iff).mpr (hkeys ▸ hnodup)
  have hget : ∀ key, (Fields.merge [] (toJsonFields ((sortFields fields).insertionSort
      fun a b => a.1 ≤ b.1))).get? key = (fields.lookup key).map reread := by
    intro key
    rw [toJsonFields_sort, get?_merge, Fields.get?_nil, Option.or_none, lookup_map,
      lookup_eq_of_perm hperm (hkeys ▸ hnodup), lookup_map, Option.map_map]
    · rfl
    · rw [List.map_map]
      exact hsorted
  refine ⟨_, rfl, extra_eq_nil fun key hkey => hallowed ?_, hget⟩
  rw [hget, Option.isSome_map] at hkey
  obtain ⟨document, hdocument⟩ := Option.isSome_iff_exists.mp hkey
  exact List.mem_map.mpr ⟨_, AList.mem_of_lookup_eq_some hdocument, rfl⟩

end HomeCortex
