/-
# JSON values as the repository's Python sees them

`json.load` gives Python `dict`, `list`, `str`, `int`, `float`, `bool` and
`None`, and code raises exceptions (`PyError`).  `Json` has one constructor for each: an `int` is unbounded, a `float` is
an IEEE binary64, and an object is its list of fields in insertion order.  The
file also has the few Python operations on them that the modules share: `dict`
reading (`get?`, `has`), `dict` writing (`set`, `without`), `str.strip` as far as
it decides blankness, and membership without repetition (`len(set(xs))`).
-/

import Mathlib

namespace HomeCortex

/-- A raised Python exception: its class and its message.  The `spatial…` classes
and `OperatorValidationError` are the repository's own subclasses of `ValueError`,
`OperatorExecutionError` one of `RuntimeError`, and the last two are subclasses of
`SpatialContractError` with a code. -/
inductive PyError where
  | value (message : String)
  | spatialContract (message : String)
  | spatialUnit (message : String)
  | spatialTransform (message : String)
  | visionContract (message : String)
  | unknownEdgeSchema (message : String)
  | overflow (message : String)
  | type (message : String)
  | runtime (message : String)
  | operatorValidation (message : String)
  | operatorExecution (message : String)
  | key (name : String)
  | assertion
  | sessionProtocol (code message : String)
  | telemetryAdmission (code message : String)
deriving DecidableEq, Repr

/-- `if c: raise error`. -/
def raiseIf (c : Bool) (error : PyError) : Except PyError Unit :=
  if c then .error error else .ok ()

@[simp] theorem raiseIf_eq_ok {c : Bool} {error : PyError} {u : Unit} :
    raiseIf c error = .ok u ↔ c = false := by
  cases c <;> simp [raiseIf]

/-- A JSON value. -/
inductive Json where
  | null
  | bool (value : Bool)
  | int (value : Int)
  | float (value : Float)
  | str (value : String)
  | arr (items : List Json)
  | obj (fields : List (String × Json))

namespace Json

mutual

/-- Equality of JSON values is decidable, field order included. -/
def decEq : (a b : Json) → Decidable (a = b)
  | .null, .null => isTrue rfl
  | .bool a, .bool b => decidable_of_iff (a = b) (by simp)
  | .int a, .int b => decidable_of_iff (a = b) (by simp)
  | .float a, .float b => decidable_of_iff (a = b) (by simp)
  | .str a, .str b => decidable_of_iff (a = b) (by simp)
  | .arr a, .arr b => @decidable_of_iff _ (a = b) (by simp) (decEqItems a b)
  | .obj a, .obj b => @decidable_of_iff _ (a = b) (by simp) (decEqFields a b)
  | .null, .bool _ | .null, .int _ | .null, .float _ | .null, .str _ | .null, .arr _ | .null, .obj _
  | .bool _, .null | .bool _, .int _ | .bool _, .float _ | .bool _, .str _ | .bool _, .arr _
  | .bool _, .obj _ | .int _, .null | .int _, .bool _ | .int _, .float _ | .int _, .str _
  | .int _, .arr _ | .int _, .obj _ | .float _, .null | .float _, .bool _ | .float _, .int _
  | .float _, .str _ | .float _, .arr _ | .float _, .obj _ | .str _, .null | .str _, .bool _
  | .str _, .int _ | .str _, .float _ | .str _, .arr _ | .str _, .obj _ | .arr _, .null
  | .arr _, .bool _ | .arr _, .int _ | .arr _, .float _ | .arr _, .str _ | .arr _, .obj _
  | .obj _, .null | .obj _, .bool _ | .obj _, .int _ | .obj _, .float _ | .obj _, .str _
  | .obj _, .arr _ => isFalse nofun

def decEqItems : (a b : List Json) → Decidable (a = b)
  | [], [] => isTrue rfl
  | a :: as, b :: bs =>
      @decidable_of_iff _ (a = b ∧ as = bs) (by simp)
        (@instDecidableAnd _ _ (decEq a b) (decEqItems as bs))
  | [], _ :: _ | _ :: _, [] => isFalse nofun

def decEqFields : (a b : List (String × Json)) → Decidable (a = b)
  | [], [] => isTrue rfl
  | (k, a) :: as, (l, b) :: bs =>
      @decidable_of_iff _ (k = l ∧ a = b ∧ as = bs) (by simp [and_assoc])
        (@instDecidableAnd _ _ inferInstance
          (@instDecidableAnd _ _ (decEq a b) (decEqFields as bs)))
  | [], _ :: _ | _ :: _, [] => isFalse nofun

end

instance : DecidableEq Json := decEq

/-- `isinstance(value, str)`. -/
def isStr : Json → Bool
  | .str _ => true
  | _ => false

/-- `isinstance(value, bool)`. -/
def isBool : Json → Bool
  | .bool _ => true
  | _ => false

end Json

/-- The fields of a JSON object, in insertion order. -/
abbrev Fields := List (String × Json)

/-- The fields of a value that is a `dict`. -/
def Json.asObject? : Json → Option Fields
  | .obj fields => some fields
  | _ => none

theorem Json.asObject?_eq_some {value : Json} {fields : Fields} :
    value.asObject? = some fields ↔ value = .obj fields := by
  cases value <;> simp [Json.asObject?]

namespace Fields

/-- `record.get(key)`, with `none` for a key that is not there. -/
def get? (record : Fields) (key : String) : Option Json := record.lookup key

/-- `record.get(key)` with Python's default `None`. -/
def getD (record : Fields) (key : String) : Json := (record.get? key).getD .null

/-- `key in record`. -/
def has (record : Fields) (key : String) : Bool := (record.get? key).isSome

/-- `{key: value for key, value in record.items() if key not in keys}`. -/
def without (record : Fields) (keys : List String) : Fields :=
  record.filter fun field => !keys.contains field.1

/-- `record[key] = value`: in place where the key is there, else at the end. -/
def set : Fields → String → Json → Fields
  | [], key, value => [(key, value)]
  | (k, v) :: record, key, value =>
      if k = key then (key, value) :: record else (k, v) :: set record key value

/-- `sorted(set(record) - allowed)`. -/
def extra (record : Fields) (allowed : List String) : List String :=
  ((record.map Prod.fst).filter fun key => !allowed.contains key).insertionSort (· ≤ ·)

/-- `{**record, **changes}`. -/
def merge (record changes : Fields) : Fields :=
  changes.foldl (fun acc field => acc.set field.1 field.2) record

@[simp] theorem get?_nil (key : String) : get? [] key = none := rfl

theorem get?_cons (k : String) (v : Json) (record : Fields) (key : String) :
    get? ((k, v) :: record) key = if k = key then some v else record.get? key := by
  unfold get?
  rw [List.lookup_cons]
  by_cases h : k = key
  · simp [h]
  · simp [h, beq_eq_false_iff_ne.2 (Ne.symm h)]

theorem get?_filter (record : Fields) (p : String → Bool) (key : String) :
    get? (record.filter fun field => p field.1) key = if p key then record.get? key else none := by
  induction record with
  | nil => simp
  | cons field record ih =>
      obtain ⟨k, v⟩ := field
      rw [List.filter_cons, get?_cons]
      by_cases hk : k = key
      · subst hk
        by_cases hp : p k <;> simp [hp, get?_cons, ih]
      · by_cases hp : p k <;> simp [hp, hk, get?_cons, ih]

theorem get?_without (record : Fields) (keys : List String) (key : String) :
    (record.without keys).get? key = if key ∈ keys then none else record.get? key := by
  rw [without, get?_filter record (fun k => !keys.contains k) key]
  by_cases hk : key ∈ keys <;> simp [hk]

/-- Writing a field is read back, and every other field is unchanged. -/
theorem get?_set (record : Fields) (key : String) (value : Json) (k : String) :
    (record.set key value).get? k = if key = k then some value else record.get? k := by
  induction record with
  | nil => simp [set, get?_cons]
  | cons field record ih =>
      obtain ⟨l, v⟩ := field
      rw [set]
      split
      case isTrue h =>
        subst h
        by_cases hk : l = k <;> simp [get?_cons, hk]
      case isFalse h =>
        rw [get?_cons, get?_cons, ih]
        by_cases hk : key = k
        · simp [hk, show ¬l = k from fun hl => h (hl.trans hk.symm)]
        · simp [hk]

/-- The keys after writing a field. -/
theorem keys_set (record : Fields) (key : String) (value : Json) :
    (record.set key value).map Prod.fst =
      if key ∈ record.map Prod.fst then record.map Prod.fst else record.map Prod.fst ++ [key] := by
  induction record with
  | nil => rfl
  | cons field record ih =>
      obtain ⟨k, v⟩ := field
      rw [set]
      by_cases hk : k = key
      · simp [hk]
      · rw [if_neg hk, List.map_cons, ih]
        by_cases hmem : key ∈ record.map Prod.fst <;> simp [hmem, Ne.symm hk]

/-- A `dict` stays one when fields are written. -/
theorem nodup_merge {record : Fields} (h : (record.map Prod.fst).Nodup) (changes : Fields) :
    ((record.merge changes).map Prod.fst).Nodup := by
  induction changes generalizing record with
  | nil => exact h
  | cons change changes ih =>
      have hset : ((record.set change.1 change.2).map Prod.fst).Nodup := by
        rw [keys_set]
        split
        case isTrue => exact h
        case isFalse hmem =>
          rw [List.nodup_append_comm, List.singleton_append, List.nodup_cons]
          exact ⟨hmem, h⟩
      exact ih hset

end Fields

/-- The characters `str.strip` removes from both ends (`str.isspace`). -/
def isSpace (c : Char) : Bool :=
  let n := c.toNat
  (0x09 ≤ n && n ≤ 0x0d) || (0x1c ≤ n && n ≤ 0x20) || n == 0x85 || n == 0xa0 || n == 0x1680 ||
    (0x2000 ≤ n && n ≤ 0x200a) || n == 0x2028 || n == 0x2029 || n == 0x202f || n == 0x205f ||
    n == 0x3000

/-- `not text.strip()`. -/
def isBlank (text : String) : Bool := text.toList.all isSpace

end HomeCortex
