/-
# Tool results for the model

`ModelLoop._serialize_tool_result` of `runtime/model_loop.py`: the text that the model reads
of a tool's result.  The result is copied without the fields that are hidden from the model
and with display names; a list in it is cut to the record limit, and then further until the
text fits the byte limit.  A result that cannot be cut far enough becomes an error.
-/

import HomeCortex.Common.FloatTexts
import HomeCortex.Common.Order
import HomeCortex.Runtime.Salutation

namespace HomeCortex
namespace Runtime

open Display JsonText

/-! ### The text of a value -/

section Text

variable (floats : FloatFormat)

/-- A float as `json.dumps` writes it; JSON has no text for those that are not finite. -/
def floatText (x : Float) : List Char :=
  if h : x.isFinite = true then floats.text ⟨x, h⟩
  else if x.isNaN then ['N', 'a', 'N']
  else if x < 0 then ['-', 'I', 'n', 'f', 'i', 'n', 'i', 't', 'y']
  else ['I', 'n', 'f', 'i', 'n', 'i', 't', 'y']

mutual

/-- `json.dumps(value, ensure_ascii=False, separators=(",", ":"))`. -/
def jsonText : Json → List Char
  | .null => ['n', 'u', 'l', 'l']
  | .bool true => ['t', 'r', 'u', 'e']
  | .bool false => ['f', 'a', 'l', 's', 'e']
  | .int n => integerText n
  | .float x => floatText floats x
  | .str text => quote text
  | .arr [] => ['[', ']']
  | .arr (item :: items) => '[' :: (jsonText item ++ jsonTextItems items)
  | .obj [] => ['\x7b', '\x7d']
  | .obj ((key, item) :: fields) =>
      '\x7b' :: (quote key ++ (':' :: (jsonText item ++ jsonTextFields fields)))

def jsonTextItems : List Json → List Char
  | [] => [']']
  | item :: items => ',' :: (jsonText item ++ jsonTextItems items)

def jsonTextFields : List (String × Json) → List Char
  | [] => ['\x7d']
  | (key, item) :: fields =>
      ',' :: (quote key ++ (':' :: (jsonText item ++ jsonTextFields fields)))

end

/-- `_json`. -/
def json (value : Json) : String := String.ofList (jsonText floats value)

mutual

/-- The document that a value is in JSON, if there is one. -/
def document? : Json → Option (JsonDoc PyNumber)
  | .null => some .null
  | .bool b => some (.bool b)
  | .int n => some (.num (.int n))
  | .float x => if h : x.isFinite = true then some (.num (.float ⟨x, h⟩)) else none
  | .str text => some (.str text)
  | .arr items => (documents? items).map .arr
  | .obj fields => (fieldDocuments? fields).map .obj

def documents? : List Json → Option (List (JsonDoc PyNumber))
  | [] => some []
  | item :: items => do
      let document ← document? item
      let documents ← documents? items
      return document :: documents

def fieldDocuments? : List (String × Json) → Option (List (String × JsonDoc PyNumber))
  | [] => some []
  | (key, item) :: fields => do
      let document ← document? item
      let documents ← fieldDocuments? fields
      return (key, document) :: documents

end

mutual

/-- The text of a value that is a document is the document's text. -/
theorem jsonText_eq_render : ∀ (value : Json) {document : JsonDoc PyNumber},
    document? value = some document →
      jsonText floats value = render ⟨0, 0⟩ (PyNumber.format floats) document
  | .null, _, h => by
      obtain rfl := Option.some.inj h
      rfl
  | .bool b, _, h => by
      obtain rfl := Option.some.inj h
      cases b <;> rfl
  | .int n, _, h => by
      obtain rfl := Option.some.inj h
      rfl
  | .float x, _, h => by
      rw [document?] at h
      split at h
      case isTrue hfinite =>
        obtain rfl := Option.some.inj h
        rw [jsonText, floatText, dif_pos hfinite]
        rfl
      case isFalse => cases h
  | .str text, _, h => by
      obtain rfl := Option.some.inj h
      rfl
  | .arr [], _, h => by
      obtain rfl := Option.some.inj h
      rfl
  | .arr (item :: items), _, h => by
      rw [document?, documents?, Option.map_eq_some_iff] at h
      obtain ⟨documents, h, rfl⟩ := h
      simp only [Option.bind_eq_bind, Option.bind_eq_some_iff, Option.pure_def] at h
      obtain ⟨first, hfirst, rest, hrest, h⟩ := h
      obtain rfl := Option.some.inj h
      rw [jsonText, render, jsonText_eq_render item hfirst, jsonTextItems_eq_render items hrest]
  | .obj [], _, h => by
      obtain rfl := Option.some.inj h
      rfl
  | .obj ((key, item) :: fields), _, h => by
      rw [document?, fieldDocuments?, Option.map_eq_some_iff] at h
      obtain ⟨documents, h, rfl⟩ := h
      simp only [Option.bind_eq_bind, Option.bind_eq_some_iff, Option.pure_def] at h
      obtain ⟨first, hfirst, rest, hrest, h⟩ := h
      obtain rfl := Option.some.inj h
      rw [jsonText, render, jsonText_eq_render item hfirst, jsonTextFields_eq_render fields hrest]
      rfl

theorem jsonTextItems_eq_render : ∀ (items : List Json) {documents : List (JsonDoc PyNumber)},
    documents? items = some documents →
      jsonTextItems floats items = renderItems ⟨0, 0⟩ (PyNumber.format floats) documents
  | [], _, h => by
      obtain rfl := Option.some.inj h
      rfl
  | item :: items, _, h => by
      rw [documents?] at h
      simp only [Option.bind_eq_bind, Option.bind_eq_some_iff, Option.pure_def] at h
      obtain ⟨first, hfirst, rest, hrest, h⟩ := h
      obtain rfl := Option.some.inj h
      rw [jsonTextItems, renderItems, jsonText_eq_render item hfirst,
        jsonTextItems_eq_render items hrest]
      rfl

theorem jsonTextFields_eq_render : ∀ (fields : List (String × Json))
    {documents : List (String × JsonDoc PyNumber)}, fieldDocuments? fields = some documents →
      jsonTextFields floats fields = renderFields ⟨0, 0⟩ (PyNumber.format floats) documents
  | [], _, h => by
      obtain rfl := Option.some.inj h
      rfl
  | (key, item) :: fields, _, h => by
      rw [fieldDocuments?] at h
      simp only [Option.bind_eq_bind, Option.bind_eq_some_iff, Option.pure_def] at h
      obtain ⟨first, hfirst, rest, hrest, h⟩ := h
      obtain rfl := Option.some.inj h
      rw [jsonTextFields, renderFields, jsonText_eq_render item hfirst,
        jsonTextFields_eq_render fields hrest]
      rfl

end

/-- A text is JSON: a document can be read off it. -/
def IsJson (text : String) : Prop :=
  ∃ document, parse (PyNumber.format floats) text.toList = some document

/-- A value that is a document is read back off its text. -/
theorem parse_json {value : Json} {document : JsonDoc PyNumber} (h : document? value = some document) :
    parse (PyNumber.format floats) (json floats value).toList = some document := by
  rw [json, String.toList_ofList, jsonText_eq_render floats value h, parse_render]

end Text

/-! ### What holds at any depth -/

mutual

/-- Every key and every float of a value is admitted, at any depth. -/
def everywhere (key : String → Bool) (leaf : Float → Bool) : Json → Bool
  | .float x => leaf x
  | .arr items => everywhereItems key leaf items
  | .obj fields => everywhereFields key leaf fields
  | _ => true

def everywhereItems (key : String → Bool) (leaf : Float → Bool) : List Json → Bool
  | [] => true
  | item :: items => everywhere key leaf item && everywhereItems key leaf items

def everywhereFields (key : String → Bool) (leaf : Float → Bool) : List (String × Json) → Bool
  | [] => true
  | field :: fields =>
      key field.1 && everywhere key leaf field.2 && everywhereFields key leaf fields

end

/-- Every float of a value is finite. -/
def finite (value : Json) : Bool := everywhere (fun _ => true) Float.isFinite value

section Everywhere

variable {key : String → Bool} {leaf : Float → Bool}

theorem everywhereItems_eq (items : List Json) :
    everywhereItems key leaf items = items.all (everywhere key leaf) := by
  induction items with
  | nil => rfl
  | cons item items ih => rw [everywhereItems, List.all_cons, ih]

theorem everywhereFields_eq (fields : Fields) : everywhereFields key leaf fields =
    fields.all fun field => key field.1 && everywhere key leaf field.2 := by
  induction fields with
  | nil => rfl
  | cons field fields ih => rw [everywhereFields, List.all_cons, ih]

/-- A field that is read. -/
theorem everywhere_getD {fields : Fields} (h : everywhere key leaf (.obj fields) = true)
    (name : String) : everywhere key leaf (fields.getD name) = true := by
  rw [everywhere, everywhereFields_eq, List.all_eq_true] at h
  rw [Fields.getD]
  cases hget : fields.get? name with
  | none => rfl
  | some value =>
      have hvalue := h _ (AList.mem_of_lookup_eq_some hget)
      rw [Bool.and_eq_true] at hvalue
      exact hvalue.2

/-- A field that is written. -/
theorem everywhere_set {fields : Fields} (h : everywhere key leaf (.obj fields) = true)
    {name : String} {value : Json} (hname : key name = true) (hvalue : everywhere key leaf value = true) :
    everywhere key leaf (.obj (fields.set name value)) = true := by
  rw [everywhere, everywhereFields_eq] at h ⊢
  induction fields with
  | nil => simp [Fields.set, hname, hvalue]
  | cons field fields ih =>
      obtain ⟨k, v⟩ := field
      rw [List.all_cons, Bool.and_eq_true] at h
      rw [Fields.set]
      split
      case isTrue => rw [List.all_cons, Bool.and_eq_true]; exact ⟨by simp [hname, hvalue], h.2⟩
      case isFalse => rw [List.all_cons, Bool.and_eq_true]; exact ⟨h.1, ih h.2⟩

/-- The items of a list that is cut. -/
theorem everywhere_take {items : List Json} (h : everywhere key leaf (.arr items) = true) (n : Nat) :
    everywhere key leaf (.arr (items.take n)) = true := by
  rw [everywhere, everywhereItems_eq, List.all_eq_true] at h ⊢
  exact fun item hitem => h item (List.mem_of_mem_take hitem)

end Everywhere

mutual

theorem everywhere_true : ∀ value : Json, everywhere (fun _ => true) (fun _ => true) value = true
  | .null | .bool _ | .int _ | .float _ | .str _ => rfl
  | .arr items => everywhereItems_true items
  | .obj fields => everywhereFields_true fields

theorem everywhereItems_true : ∀ items : List Json,
    everywhereItems (fun _ => true) (fun _ => true) items = true
  | [] => rfl
  | item :: items => by
      rw [everywhereItems, everywhere_true item, everywhereItems_true items]
      rfl

theorem everywhereFields_true : ∀ fields : List (String × Json),
    everywhereFields (fun _ => true) (fun _ => true) fields = true
  | [] => rfl
  | (key, item) :: fields => by
      rw [everywhereFields, everywhere_true item, everywhereFields_true fields]
      rfl

end

mutual

/-- A value whose floats are finite is a document. -/
theorem document?_isSome {key : String → Bool} : ∀ {value : Json},
    everywhere key Float.isFinite value = true → (document? value).isSome = true
  | .null, _ | .bool _, _ | .int _, _ | .str _, _ => rfl
  | .float x, h => by
      rw [document?, dif_pos (show x.isFinite = true from h)]
      rfl
  | .arr items, h => by
      rw [document?, Option.isSome_map]
      exact documents?_isSome h
  | .obj fields, h => by
      rw [document?, Option.isSome_map]
      exact fieldDocuments?_isSome h

theorem documents?_isSome {key : String → Bool} : ∀ {items : List Json},
    everywhereItems key Float.isFinite items = true → (documents? items).isSome = true
  | [], _ => rfl
  | item :: items, h => by
      rw [everywhereItems, Bool.and_eq_true] at h
      obtain ⟨first, hfirst⟩ := Option.isSome_iff_exists.mp (document?_isSome h.1)
      obtain ⟨rest, hrest⟩ := Option.isSome_iff_exists.mp (documents?_isSome h.2)
      simp [documents?, hfirst, hrest]

theorem fieldDocuments?_isSome {key : String → Bool} : ∀ {fields : List (String × Json)},
    everywhereFields key Float.isFinite fields = true → (fieldDocuments? fields).isSome = true
  | [], _ => rfl
  | (name, item) :: fields, h => by
      rw [everywhereFields, Bool.and_eq_true, Bool.and_eq_true] at h
      obtain ⟨first, hfirst⟩ := Option.isSome_iff_exists.mp (document?_isSome h.1.2)
      obtain ⟨rest, hrest⟩ := Option.isSome_iff_exists.mp (fieldDocuments?_isSome h.2)
      simp [fieldDocuments?, hfirst, hrest]

end

/-! ### Preparation -/

/-- `MODEL_HIDDEN_FIELDS`. -/
def modelHiddenFields : List String := ["address_as", "first_name", "gender", "last_name"]

/-- A key that the model may see. -/
def visible (key : String) : Bool := !modelHiddenFields.contains key

/-- `_truncatable_items`: the list of a result, and the key it stands under. -/
def truncatableItems : Json → Option (List Json × Option String)
  | .arr items => some (items, none)
  | .obj result => ["events", "conflicts"].findSome? fun key =>
      match Fields.get? result key with
      | some (.arr items) => some (items, some key)
      | _ => none
  | _ => none

theorem findSome?_congr_mem {α β : Type} {f g : α → Option β} {xs : List α}
    (h : ∀ x ∈ xs, f x = g x) : xs.findSome? f = xs.findSome? g := by
  induction xs with
  | nil => rfl
  | cons x xs ih =>
      rw [List.findSome?_cons, List.findSome?_cons, h x List.mem_cons_self,
        ih fun y hy => h y (List.mem_cons_of_mem _ hy)]

section Preparation

variable (folding : CaseFolding) (language : String)

/-- `resolve_display_name` of a record. -/
def resolveDisplayName (record : Fields) : String :=
  Resolver.resolveEntity folding (some record) (record.getD "id").pyStr language .name

/-- `prepared["name"] = display_name`, where there is a name and one to display. -/
def displayNamed (record prepared : Fields) : Fields :=
  let display_name := resolveDisplayName folding language record
  if prepared.has "name" && display_name != "" && display_name != (prepared.getD "id").pyStr then
    prepared.set "name" (.str display_name)
  else prepared

mutual

/-- `_prepare_tool_value`. -/
def prepareToolValue : Json → Json
  | .obj fields => .obj (displayNamed folding language fields (prepareFields fields))
  | .arr items => .arr (prepareItems items)
  | value => value

def prepareItems : List Json → List Json
  | [] => []
  | item :: items => prepareToolValue item :: prepareItems items

def prepareFields : List (String × Json) → List (String × Json)
  | [] => []
  | (key, item) :: fields =>
      if visible key then (key, prepareToolValue item) :: prepareFields fields
      else prepareFields fields

end

/-- `_prepare_tool_value` of a mapping. -/
def prepareMapping (fields : Fields) : Fields :=
  displayNamed folding language fields (prepareFields folding language fields)

theorem prepareItems_eq (items : List Json) :
    prepareItems folding language items = items.map (prepareToolValue folding language) := by
  induction items with
  | nil => rfl
  | cons item items ih => rw [prepareItems, List.map_cons, ih]

/-- A field of a prepared mapping. -/
theorem get?_prepareFields (fields : Fields) {name : String} (h : visible name = true) :
    Fields.get? (prepareFields folding language fields) name =
      (fields.get? name).map (prepareToolValue folding language) := by
  induction fields with
  | nil => rfl
  | cons field fields ih =>
      obtain ⟨key, item⟩ := field
      rw [prepareFields, Fields.get?_cons]
      by_cases hkey : key = name
      · rw [if_pos (hkey ▸ h), Fields.get?_cons, if_pos hkey, if_pos hkey, Option.map_some]
      · rw [if_neg hkey]
        split
        case isTrue => rw [Fields.get?_cons, if_neg hkey, ih]
        case isFalse => exact ih

/-- Only the name is replaced. -/
theorem get?_displayNamed (record prepared : Fields) {name : String} (h : name ≠ "name") :
    Fields.get? (displayNamed folding language record prepared) name = prepared.get? name := by
  rw [displayNamed]
  split
  case isTrue => rw [Fields.get?_set, if_neg h.symm]
  case isFalse => rfl

theorem getD_prepareMapping (fields : Fields) {name : String} (hvisible : visible name = true)
    (hname : name ≠ "name") :
    (prepareMapping folding language fields).getD name =
      prepareToolValue folding language (fields.getD name) := by
  rw [Fields.getD, prepareMapping, get?_displayNamed folding language _ _ hname,
    get?_prepareFields folding language fields hvisible, Fields.getD]
  cases fields.get? name <;> rfl

/-- Preparing keeps where the list of a result stands. -/
theorem truncatableItems_prepareToolValue (result : Json) :
    truncatableItems (prepareToolValue folding language result) =
      (truncatableItems result).map fun found =>
        (found.1.map (prepareToolValue folding language), found.2) := by
  cases result with
  | arr items => simp [prepareToolValue, truncatableItems, prepareItems_eq]
  | obj fields =>
      have hget : ∀ key ∈ ["events", "conflicts"],
          Fields.get? (displayNamed folding language fields
            (prepareFields folding language fields)) key =
            (Fields.get? fields key).map (prepareToolValue folding language) := by
        intro key hkey
        have hkeys : visible key = true ∧ key ≠ "name" := by
          fin_cases hkey <;> decide
        rw [get?_displayNamed folding language _ _ hkeys.2,
          get?_prepareFields folding language fields hkeys.1]
      rw [prepareToolValue, truncatableItems, truncatableItems, List.map_findSome?]
      refine findSome?_congr_mem fun key hkey => ?_
      rw [hget key hkey, Function.comp_apply]
      cases Fields.get? fields key with
      | none => rfl
      | some value =>
          cases value with
          | arr items => simp [prepareToolValue, prepareItems_eq]
          | _ => rfl
  | _ => rfl

theorem everywhere_displayNamed {leaf : Float → Bool} (record : Fields) {prepared : Fields}
    (h : everywhere visible leaf (.obj prepared) = true) :
    everywhere visible leaf (.obj (displayNamed folding language record prepared)) = true := by
  rw [displayNamed]
  split
  case isTrue => exact everywhere_set h (by decide) rfl
  case isFalse => exact h

mutual

/-- A prepared value has no hidden key, and only floats of the value. -/
theorem everywhere_prepareToolValue {leaf : Float → Bool} : ∀ {value : Json},
    everywhere (fun _ => true) leaf value = true →
      everywhere visible leaf (prepareToolValue folding language value) = true
  | .null, _ | .bool _, _ | .int _, _ | .str _, _ => rfl
  | .float _, h => h
  | .arr _, h => everywhereItems_prepareItems h
  | .obj fields, h =>
      everywhere_displayNamed folding language fields (everywhereFields_prepareFields h)

theorem everywhereItems_prepareItems {leaf : Float → Bool} : ∀ {items : List Json},
    everywhereItems (fun _ => true) leaf items = true →
      everywhereItems visible leaf (prepareItems folding language items) = true
  | [], _ => rfl
  | item :: items, h => by
      rw [everywhereItems, Bool.and_eq_true] at h
      rw [prepareItems, everywhereItems, Bool.and_eq_true]
      exact ⟨everywhere_prepareToolValue h.1, everywhereItems_prepareItems h.2⟩

theorem everywhereFields_prepareFields {leaf : Float → Bool} : ∀ {fields : List (String × Json)},
    everywhereFields (fun _ => true) leaf fields = true →
      everywhereFields visible leaf (prepareFields folding language fields) = true
  | [], _ => rfl
  | (key, item) :: fields, h => by
      rw [everywhereFields, Bool.and_eq_true, Bool.and_eq_true] at h
      rw [prepareFields]
      split
      case isTrue hkey =>
        rw [everywhereFields, Bool.and_eq_true, Bool.and_eq_true]
        exact ⟨⟨hkey, everywhere_prepareToolValue h.1.2⟩, everywhereFields_prepareFields h.2⟩
      case isFalse => exact everywhereFields_prepareFields h.2

end

end Preparation

/-! ### Cutting a list -/

/-- The flags that say a list is complete. -/
def completenessFlags : List String := ["complete", "checked", "available"]

/-- `if key in payload: payload[key] = False`. -/
def withdrawFlag (payload : Fields) (key : String) : Fields :=
  if payload.has key then payload.set key (.bool false) else payload

/-- `for key in ("complete", "checked", "available")`. -/
def withdrawFlags (payload : Fields) : Fields := completenessFlags.foldl withdrawFlag payload

/-- `meta` of a result whose list was cut. -/
def truncation (available returned : Nat) : Json :=
  .obj [("truncated", .bool true), ("records_available", .int available),
    ("records_returned", .int returned)]

/-- `dict(bounded.get("result") or {})`. -/
def resultPayload (bounded : Fields) : Fields := (bounded.getD "result").asObject?.getD []

/-- The result of a record whose list is cut to `items`. -/
def cutResult (bounded : Fields) (item_key : Option String) (items : List Json) (available : Nat) :
    Json :=
  match item_key with
  | none => .arr items
  | some key =>
      let payload := (resultPayload bounded).set key (.arr items)
      .obj (if items.length < available then withdrawFlags payload else payload)

/-- `_with_truncated_items`. -/
def withTruncatedItems (bounded : Fields) (item_key : Option String) (items : List Json)
    (available : Nat) : Fields :=
  let updated := bounded.set "result" (cutResult bounded item_key items available)
  if items.length < available then updated.set "meta" (truncation available items.length)
  else updated

/-- The limits that `ModelLoop.__init__` admits. -/
structure ToolLimits where
  max_tool_records : Nat
  max_tool_result_bytes : Nat
  records_pos : 1 ≤ max_tool_records
  bytes_min : 256 ≤ max_tool_result_bytes

/-- `_byte_length(text) <= self.max_tool_result_bytes`. -/
def ToolLimits.fits (limits : ToolLimits) (text : String) : Bool :=
  text.utf8ByteSize ≤ limits.max_tool_result_bytes

/-- `if _byte_length(serialized) <= self.max_tool_result_bytes: return serialized`. -/
def ToolLimits.fitting (limits : ToolLimits) (text : String) : Option String :=
  if limits.fits text then some text else none

/-- The error in place of a result that does not fit. -/
def tooLarge (limits : ToolLimits) (tool_name : String) : Fields :=
  [("ok", .bool false), ("tool", .str tool_name), ("error", .obj [
    ("code", .str "tool_result_too_large"),
    ("message", .str ("Tool result exceeded the " ++ toString limits.max_tool_result_bytes ++
      " byte limit"))])]

/-- The error whose size is known. -/
def tooLargeShort : Fields :=
  [("ok", .bool false), ("error", .obj [("code", .str "tool_result_too_large")])]

section Serializing

variable (folding : CaseFolding) (floats : FloatFormat) (limits : ToolLimits)

/-- `_serialize_tool_result`. -/
def serializeToolResult (tool_name : String) (tool_result : Fields)
    (presentation_language : String) : String :=
  let bounded := prepareMapping folding presentation_language tool_result
  let found := truncatableItems (bounded.getD "result")
  let available := (found.map fun found => found.1.length).getD 0
  let ok := bounded.getD "ok" == .bool true
  let bounded : Fields := match ok, found with
    | true, some (items, item_key) =>
        withTruncatedItems bounded item_key (items.take limits.max_tool_records) available
    | _, _ => bounded
  let serialized := json floats (.obj bounded)
  if limits.fits serialized then serialized
  else
    let shorter := match ok, truncatableItems (bounded.getD "result") with
      | true, some (items, item_key) => (List.range items.length).reverse.findSome? fun count =>
          limits.fitting (json floats (.obj (withTruncatedItems bounded item_key
            (items.take count) available)))
      | _, _ => none
    match shorter with
    | some serialized => serialized
    | none =>
        let fallback := json floats (.obj (tooLarge limits tool_name))
        if limits.fits fallback then fallback else json floats (.obj tooLargeShort)

end Serializing

/-! ### Records that are written to -/

theorem has_cons (k : String) (v : Json) (record : Fields) (key : String) :
    Fields.has ((k, v) :: record) key = (k == key || record.has key) := by
  rw [Fields.has, Fields.get?_cons]
  by_cases hk : k = key <;> simp [hk, Fields.has]

theorem has_set (record : Fields) (key : String) (value : Json) (k : String) :
    (record.set key value).has k = (key == k || record.has k) := by
  rw [Fields.has, Fields.get?_set]
  by_cases hk : key = k <;> simp [hk, Fields.has]

/-- A second write of a key replaces the first. -/
theorem set_set (record : Fields) (key : String) (a b : Json) :
    (record.set key a).set key b = record.set key b := by
  induction record with
  | nil => simp [Fields.set]
  | cons field record ih =>
      obtain ⟨k, v⟩ := field
      by_cases hk : k = key
      · simp [Fields.set, hk]
      · simp [Fields.set, hk, ih]

/-- A key that is there keeps its place, whatever else is written. -/
theorem set_comm {record : Fields} {key other : String} (h : record.has key = true)
    (hne : key ≠ other) (a b : Json) :
    (record.set other a).set key b = (record.set key b).set other a := by
  induction record with
  | nil => simp [Fields.has] at h
  | cons field record ih =>
      obtain ⟨k, v⟩ := field
      rw [has_cons, Bool.or_eq_true, beq_iff_eq] at h
      by_cases hk : k = key
      · subst hk
        simp [Fields.set, hne]
      · by_cases ho : k = other
        · subst ho
          simp [Fields.set, hne.symm]
        · have ih := ih (h.resolve_left hk)
          simp only [Fields.set, hk, ho, if_false, ih]

/-! ### Withdrawn flags -/

theorem has_withdrawFlag (payload : Fields) (key k : String) :
    (withdrawFlag payload key).has k = payload.has k := by
  rw [withdrawFlag]
  split
  case isTrue h =>
    rw [has_set]
    by_cases hk : key = k
    · simp [← hk, h]
    · simp [hk]
  case isFalse => rfl

theorem get?_withdrawFlag (payload : Fields) (key k : String) :
    (withdrawFlag payload key).get? k =
      if key = k then (payload.get? k).map fun _ => .bool false else payload.get? k := by
  rw [withdrawFlag]
  split
  case isTrue h =>
    rw [Fields.get?_set]
    by_cases hk : key = k
    · subst hk
      obtain ⟨value, hvalue⟩ := Option.isSome_iff_exists.mp h
      simp [hvalue]
    · simp [hk]
  case isFalse h =>
    rw [Fields.has, Bool.not_eq_true, Option.isSome_eq_false_iff, Option.isNone_iff_eq_none] at h
    by_cases hk : key = k
    · subst hk
      simp [h]
    · simp [hk]

theorem withdrawFlag_comm (payload : Fields) (key k : String) :
    withdrawFlag (withdrawFlag payload key) k = withdrawFlag (withdrawFlag payload k) key := by
  by_cases hk : key = k
  · rw [hk]
  · rw [withdrawFlag, has_withdrawFlag, withdrawFlag.eq_1 (withdrawFlag payload k),
      has_withdrawFlag]
    simp only [withdrawFlag]
    by_cases h1 : payload.has k = true <;> by_cases h2 : payload.has key = true <;>
      simp [h1, h2]
    exact (set_comm h1 (Ne.symm hk) _ _)

theorem withdrawFlag_withdrawFlag (payload : Fields) (key : String) :
    withdrawFlag (withdrawFlag payload key) key = withdrawFlag payload key := by
  rw [withdrawFlag, has_withdrawFlag, withdrawFlag]
  split
  case isTrue => rw [set_set]
  case isFalse => rfl

/-- Another key can be written before or after a flag is withdrawn. -/
theorem withdrawFlag_set (payload : Fields) {key k : String} (h : k ≠ key) (value : Json) :
    withdrawFlag (payload.set key value) k = (withdrawFlag payload k).set key value := by
  rw [withdrawFlag, has_set, withdrawFlag, beq_eq_false_iff_ne.mpr h.symm, Bool.false_or]
  split
  case isTrue hk => exact set_comm hk h _ _
  case isFalse => rfl

theorem withdrawFlags_eq (payload : Fields) : withdrawFlags payload =
    withdrawFlag (withdrawFlag (withdrawFlag payload "complete") "checked") "available" := rfl

theorem withdrawFlags_set (payload : Fields) {key : String} (h : key ∉ completenessFlags)
    (value : Json) : withdrawFlags (payload.set key value) = (withdrawFlags payload).set key value := by
  have hne : ∀ k ∈ completenessFlags, k ≠ key := fun k hk heq => h (heq ▸ hk)
  rw [withdrawFlags_eq, withdrawFlags_eq, withdrawFlag_set _ (hne _ (by decide)),
    withdrawFlag_set _ (hne _ (by decide)), withdrawFlag_set _ (hne _ (by decide))]

theorem withdrawFlags_withdrawFlags (payload : Fields) :
    withdrawFlags (withdrawFlags payload) = withdrawFlags payload := by
  rw [withdrawFlags_eq, withdrawFlags_eq, withdrawFlag_comm _ "available" "complete",
    withdrawFlag_comm _ "checked" "complete", withdrawFlag_withdrawFlag,
    withdrawFlag_comm _ "available" "checked", withdrawFlag_withdrawFlag, withdrawFlag_withdrawFlag]

theorem get?_withdrawFlags (payload : Fields) (key : String) :
    (withdrawFlags payload).get? key =
      if key ∈ completenessFlags then (payload.get? key).map fun _ => .bool false
      else payload.get? key := by
  rw [withdrawFlags_eq, get?_withdrawFlag, get?_withdrawFlag, get?_withdrawFlag]
  by_cases h1 : "available" = key
  · subst h1; simp [completenessFlags]
  · by_cases h2 : "checked" = key
    · subst h2; simp [completenessFlags]
    · by_cases h3 : "complete" = key
      · subst h3; simp [completenessFlags]
      · simp [completenessFlags, h1, h2, h3, Ne.symm h1, Ne.symm h2, Ne.symm h3]

/-! ### A cut result -/

section Cut

variable {bounded : Fields} {listed items shorter : List Json} {item_key : Option String}
  {available : Nat}

/-- The list of a mapping, where it stands, and that no list stands before it. -/
theorem truncatableItems_obj {payload : Fields} {key : String} :
    truncatableItems (.obj payload) = some (listed, some key) ↔
      payload.get? key = some (.arr listed) ∧ (key = "events" ∨ key = "conflicts" ∧
        ∀ items, payload.get? "events" ≠ some (.arr items)) := by
  rw [truncatableItems, List.findSome?_cons, List.findSome?_cons, List.findSome?_nil]
  constructor
  · intro h
    split at h
    case h_1 found hfound =>
      split at hfound
      case h_1 items hevents =>
        obtain rfl := Option.some.inj hfound
        obtain ⟨rfl, hkey⟩ := Prod.mk.inj (Option.some.inj h)
        obtain rfl := Option.some.inj hkey
        exact ⟨hevents, .inl rfl⟩
      case h_2 => cases hfound
    case h_2 hnone =>
      have hevents : ∀ items, payload.get? "events" ≠ some (.arr items) := by
        intro items hitems
        rw [hitems] at hnone
        cases hnone
      split at h
      case h_1 found hfound =>
        split at hfound
        case h_1 items hconflicts =>
          obtain rfl := Option.some.inj hfound
          obtain ⟨rfl, hkey⟩ := Prod.mk.inj (Option.some.inj h)
          obtain rfl := Option.some.inj hkey
          exact ⟨hconflicts, .inr ⟨rfl, hevents⟩⟩
        case h_2 => cases hfound
      case h_2 => cases h
  · rintro ⟨hget, rfl | ⟨rfl, hevents⟩⟩
    · rw [hget]
    · rw [hget]
      cases hfirst : payload.get? "events" with
      | none => rfl
      | some value =>
          cases value with
          | arr items => exact absurd hfirst (hevents items)
          | _ => rfl

/-- What holds everywhere of a record holds everywhere of its list. -/
theorem everywhere_listed {key : String → Bool} {leaf : Float → Bool}
    (h : everywhere key leaf (.obj bounded) = true)
    (hlist : truncatableItems (bounded.getD "result") = some (listed, item_key)) :
    everywhere key leaf (.arr listed) = true := by
  have hresult := everywhere_getD h "result"
  cases hvalue : bounded.getD "result" with
  | arr items =>
      rw [hvalue] at hresult hlist
      obtain ⟨rfl, -⟩ := Prod.mk.inj (Option.some.inj hlist)
      exact hresult
  | obj payload =>
      rw [hvalue] at hresult hlist
      cases item_key with
      | none =>
          obtain ⟨name, -, hname⟩ := List.exists_of_findSome?_eq_some hlist
          split at hname <;> cases hname
      | some name =>
          have hget := (truncatableItems_obj.mp hlist).1
          have hitems := everywhere_getD hresult name
          rw [Fields.getD, hget] at hitems
          exact hitems
  | _ => rw [hvalue] at hlist; cases hlist

/-- The key of a list is visible, and no flag. -/
theorem truncatableItems_key {result : Json} {key : String}
    (h : truncatableItems result = some (listed, some key)) :
    visible key = true ∧ key ∉ completenessFlags := by
  cases result with
  | obj payload =>
      rcases (truncatableItems_obj.mp h).2 with rfl | ⟨rfl, -⟩ <;> decide
  | _ => cases h

/-- The list of a cut result is the list it was cut to. -/
theorem truncatableItems_cutResult
    (h : truncatableItems (bounded.getD "result") = some (listed, item_key)) :
    truncatableItems (cutResult bounded item_key items available) = some (items, item_key) := by
  cases item_key with
  | none => rfl
  | some key =>
      have hflag := (truncatableItems_key h).2
      cases hresult : bounded.getD "result" with
      | obj payload =>
          rw [hresult, truncatableItems_obj] at h
          have hpayload : resultPayload bounded = payload := by
            rw [resultPayload, hresult]
            rfl
          have hevents : "events" ∉ completenessFlags := by decide
          rw [cutResult, hpayload, truncatableItems_obj]
          refine ⟨?_, h.2.imp_right fun hsecond => ⟨hsecond.1, fun other => ?_⟩⟩
          · split
            case isTrue => rw [get?_withdrawFlags, if_neg hflag, Fields.get?_set, if_pos rfl]
            case isFalse => rw [Fields.get?_set, if_pos rfl]
          · have hne : key ≠ "events" := by
              rw [hsecond.1]
              decide
            split
            case isTrue =>
              rw [get?_withdrawFlags, if_neg hevents, Fields.get?_set, if_neg hne]
              exact hsecond.2 other
            case isFalse =>
              rw [Fields.get?_set, if_neg hne]
              exact hsecond.2 other
      | _ => rw [hresult] at h; cases h

theorem getD_result_withTruncatedItems :
    (withTruncatedItems bounded item_key items available).getD "result" =
      cutResult bounded item_key items available := by
  rw [withTruncatedItems]
  split
  case isTrue => simp [Fields.getD, Fields.get?_set]
  case isFalse => simp [Fields.getD, Fields.get?_set]

theorem getD_ok_withTruncatedItems :
    (withTruncatedItems bounded item_key items available).getD "ok" = bounded.getD "ok" := by
  rw [withTruncatedItems]
  split
  case isTrue => simp [Fields.getD, Fields.get?_set]
  case isFalse => simp [Fields.getD, Fields.get?_set]

/-- **A list that was cut is marked.** -/
theorem getD_meta_withTruncatedItems (h : items.length < available) :
    (withTruncatedItems bounded item_key items available).getD "meta" =
      truncation available items.length := by
  rw [withTruncatedItems, if_pos h]
  simp [Fields.getD, Fields.get?_set]

/-- **No flag of a cut list is true.** -/
theorem getD_flag_cutResult (h : items.length < available) {payload : Fields}
    (hpayload : cutResult bounded item_key items available = .obj payload) {flag : String}
    (hflag : flag ∈ completenessFlags) : payload.getD flag ≠ .bool true := by
  cases item_key with
  | none => cases hpayload
  | some key =>
      rw [cutResult, if_pos h, Json.obj.injEq] at hpayload
      rw [← hpayload, Fields.getD, get?_withdrawFlags, if_pos hflag]
      cases Fields.get? _ flag <;> simp

/-- Cutting twice is cutting once. -/
theorem cutResult_withTruncatedItems
    (h : truncatableItems (bounded.getD "result") = some (listed, item_key))
    (hle : shorter.length ≤ items.length) :
    cutResult (withTruncatedItems bounded item_key items available) item_key shorter available =
      cutResult bounded item_key shorter available := by
  cases item_key with
  | none => rfl
  | some key =>
      have hflag := (truncatableItems_key h).2
      rw [cutResult, resultPayload, getD_result_withTruncatedItems, cutResult, cutResult]
      by_cases hitems : items.length < available
      · have hshorter : shorter.length < available := by omega
        simp only [hitems, hshorter, if_true, Json.asObject?, Option.getD_some]
        rw [← withdrawFlags_set _ hflag, withdrawFlags_withdrawFlags, set_set]
      · simp only [hitems, if_false, Json.asObject?, Option.getD_some, set_set]

theorem withTruncatedItems_withTruncatedItems
    (h : truncatableItems (bounded.getD "result") = some (listed, item_key))
    (hle : shorter.length ≤ items.length) :
    withTruncatedItems (withTruncatedItems bounded item_key items available) item_key shorter
      available = withTruncatedItems bounded item_key shorter available := by
  have hresult : bounded.has "result" = true := by
    by_contra hnone
    rw [Fields.has, Bool.not_eq_true, Option.isSome_eq_false_iff, Option.isNone_iff_eq_none] at hnone
    rw [Fields.getD, hnone] at h
    cases h
  rw [withTruncatedItems, cutResult_withTruncatedItems h hle, withTruncatedItems,
    withTruncatedItems]
  by_cases hitems : items.length < available
  · have hshorter : shorter.length < available := by omega
    have hset : (bounded.set "result" (cutResult bounded item_key items available)).has "result" =
        true := by
      rw [has_set]
      rfl
    simp only [hitems, hshorter, if_true]
    rw [set_comm hset (by decide), set_set, set_set]
  · simp only [hitems, if_false, set_set]

theorem everywhere_withdrawFlags {leaf : Float → Bool} {payload : Fields}
    (h : everywhere visible leaf (.obj payload) = true) :
    everywhere visible leaf (.obj (withdrawFlags payload)) = true := by
  have hflag : ∀ {payload : Fields} {key : String}, visible key = true →
      everywhere visible leaf (.obj payload) = true →
        everywhere visible leaf (.obj (withdrawFlag payload key)) = true := by
    intro payload key hkey h
    rw [withdrawFlag]
    split
    case isTrue => exact everywhere_set h hkey rfl
    case isFalse => exact h
  exact hflag (by decide) (hflag (by decide) (hflag (by decide) h))

/-- What holds everywhere of a record and of the items holds everywhere of the cut one. -/
theorem everywhere_withTruncatedItems {leaf : Float → Bool}
    (h : everywhere visible leaf (.obj bounded) = true)
    (hlist : truncatableItems (bounded.getD "result") = some (listed, item_key))
    (hitems : everywhere visible leaf (.arr items) = true) :
    everywhere visible leaf (.obj (withTruncatedItems bounded item_key items available)) = true := by
  have hcut : everywhere visible leaf (cutResult bounded item_key items available) = true := by
    cases item_key with
    | none => exact hitems
    | some key =>
        have hresult := everywhere_getD h "result"
        cases hobj : bounded.getD "result" with
        | obj payload =>
            rw [hobj] at hresult hlist
            have hset := everywhere_set hresult (truncatableItems_key hlist).1 hitems
            have hpayload : resultPayload bounded = payload := by
              rw [resultPayload, hobj]
              rfl
            rw [cutResult, hpayload]
            split
            case isTrue => exact everywhere_withdrawFlags hset
            case isFalse => exact hset
        | _ => rw [hobj] at hlist; cases hlist
  have hset := everywhere_set h (show visible "result" = true by decide) hcut
  rw [withTruncatedItems]
  split
  case isTrue => exact everywhere_set hset (by decide) rfl
  case isFalse => exact hset

end Cut

/-! ### The text that is sent -/

/-- A search downwards finds the greatest number. -/
theorem findSome?_range_reverse {α : Type} {f : Nat → Option α} {n : Nat} {a : α}
    (h : (List.range n).reverse.findSome? f = some a) :
    ∃ count < n, f count = some a ∧ ∀ k, count < k → k < n → f k = none := by
  induction n with
  | zero => cases h
  | succ n ih =>
      rw [List.range_succ, List.reverse_append, List.reverse_singleton, List.singleton_append,
        List.findSome?_cons] at h
      split at h
      case h_1 found hfound =>
        obtain rfl := Option.some.inj h
        exact ⟨n, by omega, hfound, fun k hk hn => by omega⟩
      case h_2 hnone =>
        obtain ⟨count, hlt, hcount, hmax⟩ := ih h
        refine ⟨count, by omega, hcount, fun k hk hn => ?_⟩
        rcases Nat.lt_succ_iff_lt_or_eq.mp hn with hlt | rfl
        · exact hmax k hk hlt
        · exact hnone

section Sending

variable (folding : CaseFolding) (floats : FloatFormat) (limits : ToolLimits)

/-- The text of a record whose list is cut to `count` items. -/
def cutText (prepared : Fields) (item_key : Option String) (listed : List Json) (count : Nat) :
    String :=
  json floats (.obj (withTruncatedItems prepared item_key (listed.take count) listed.length))

/-- The longest part of a list that the limits let through. -/
structure Longest (prepared : Fields) (item_key : Option String) (listed : List Json)
    (count : Nat) : Prop where
  le_length : count ≤ listed.length
  le_records : count ≤ limits.max_tool_records
  fits : limits.fits (cutText floats prepared item_key listed count) = true
  longest : ∀ k, count < k → k ≤ listed.length → k ≤ limits.max_tool_records →
    limits.fits (cutText floats prepared item_key listed k) = false

/-- What is sent for a prepared record. -/
inductive Sent (tool_name : String) (prepared : Fields) : Fields → Prop where
  | whole (h : prepared.getD "ok" ≠ .bool true ∨ truncatableItems (prepared.getD "result") = none) :
      Sent tool_name prepared prepared
  | cut {listed : List Json} {item_key : Option String} {count : Nat}
      (hlist : truncatableItems (prepared.getD "result") = some (listed, item_key))
      (hcount : Longest floats limits prepared item_key listed count) :
      Sent tool_name prepared
        (withTruncatedItems prepared item_key (listed.take count) listed.length)
  | tooLarge : Sent tool_name prepared (tooLarge limits tool_name)
  | tooLargeShort : Sent tool_name prepared tooLargeShort

theorem fits_tooLargeShort : limits.fits (json floats (.obj tooLargeShort)) = true := by
  have hsize : (json floats (.obj tooLargeShort)).utf8ByteSize = 53 := by
    rw [json, String.utf8ByteSize_ofList]
    rfl
  have hmin := limits.bytes_min
  rw [ToolLimits.fits, decide_eq_true_iff, hsize]
  omega

variable {limits} in
/-- A cut to all records that the limit lets through is the longest if it fits. -/
theorem longest_of_fits {prepared : Fields} {item_key : Option String} {listed : List Json}
    (h : limits.fits (cutText floats prepared item_key listed
      (min limits.max_tool_records listed.length)) = true) :
    Longest floats limits prepared item_key listed (min limits.max_tool_records listed.length) where
  le_length := Nat.min_le_right _ _
  le_records := Nat.min_le_left _ _
  fits := h
  longest k hk hlength hrecords := by omega

variable {limits} in
/-- Otherwise the search finds the longest. -/
theorem longest_of_search {prepared : Fields} {item_key : Option String} {listed : List Json}
    (h : limits.fits (cutText floats prepared item_key listed
      (min limits.max_tool_records listed.length)) = false) {text : String}
    (hsearch : (List.range (min limits.max_tool_records listed.length)).reverse.findSome?
      (fun count => limits.fitting (cutText floats prepared item_key listed count)) = some text) :
    ∃ count, text = cutText floats prepared item_key listed count ∧
      Longest floats limits prepared item_key listed count := by
  obtain ⟨count, hlt, hcount, hmax⟩ := findSome?_range_reverse hsearch
  rw [ToolLimits.fitting, Option.ite_none_right_eq_some] at hcount
  refine ⟨count, (Option.some.inj hcount.2).symm, ?_, ?_, hcount.1, ?_⟩
  · omega
  · omega
  · intro k hk hlength hrecords
    rcases Nat.lt_or_ge k (min limits.max_tool_records listed.length) with hlt | hge
    · simpa [ToolLimits.fitting] using hmax k hk hlt
    · obtain rfl : k = min limits.max_tool_records listed.length := by omega
      exact h

/-- The error that is sent where nothing else fits. -/
def errorText (tool_name : String) : String :=
  let fallback := json floats (.obj (tooLarge limits tool_name))
  if limits.fits fallback then fallback else json floats (.obj tooLargeShort)

theorem errorText_sent (tool_name : String) (prepared : Fields) : ∃ sent : Fields,
    errorText floats limits tool_name = json floats (.obj sent) ∧
    limits.fits (json floats (.obj sent)) = true ∧ Sent floats limits tool_name prepared sent := by
  rw [errorText]
  split
  case isTrue h => exact ⟨_, rfl, h, .tooLarge⟩
  case isFalse => exact ⟨_, rfl, fits_tooLargeShort floats limits, .tooLargeShort⟩

/-- A result without a list, or of a failed tool, is sent whole or not at all. -/
theorem serializeToolResult_whole {tool_name language : String} {tool_result : Fields}
    (h : (prepareMapping folding language tool_result).getD "ok" ≠ .bool true ∨
      truncatableItems ((prepareMapping folding language tool_result).getD "result") = none) :
    serializeToolResult folding floats limits tool_name tool_result language =
      let whole := json floats (.obj (prepareMapping folding language tool_result))
      if limits.fits whole then whole else errorText floats limits tool_name := by
  rw [serializeToolResult]
  rcases h with hok | hlist
  · simp only [beq_eq_false_iff_ne.mpr hok]
    rfl
  · by_cases hok : (prepareMapping folding language tool_result).getD "ok" = .bool true
    · simp only [hok, hlist, BEq.rfl]
      rfl
    · simp only [beq_eq_false_iff_ne.mpr hok]
      rfl

/-- A result with a list is cut to the record limit, and then searched. -/
theorem serializeToolResult_cut {tool_name language : String} {tool_result : Fields}
    {listed : List Json} {item_key : Option String}
    (hok : (prepareMapping folding language tool_result).getD "ok" = .bool true)
    (hlist : truncatableItems ((prepareMapping folding language tool_result).getD "result") =
      some (listed, item_key)) :
    serializeToolResult folding floats limits tool_name tool_result language =
      let text := cutText floats (prepareMapping folding language tool_result) item_key listed
      let full := min limits.max_tool_records listed.length
      if limits.fits (text full) then text full
      else ((List.range full).reverse.findSome? fun count => limits.fitting (text count)).getD
        (errorText floats limits tool_name) := by
  let prepared := prepareMapping folding language tool_result
  have hfull : listed.take limits.max_tool_records =
      listed.take (min limits.max_tool_records listed.length) := by
    rw [List.take_eq_take_iff]
    omega
  have htwice : ∀ count ∈ (List.range (min limits.max_tool_records listed.length)).reverse,
      json floats (.obj (withTruncatedItems (withTruncatedItems prepared item_key
        (listed.take limits.max_tool_records) listed.length) item_key
        ((listed.take limits.max_tool_records).take count) listed.length)) =
        cutText floats prepared item_key listed count := by
    intro count hcount
    rw [List.mem_reverse, List.mem_range] at hcount
    have htake : (listed.take limits.max_tool_records).take count = listed.take count := by
      rw [List.take_take, Nat.min_eq_left (by omega)]
    rw [withTruncatedItems_withTruncatedItems hlist (List.length_take_le' _ _), htake, cutText]
  rw [serializeToolResult]
  simp only [hok, hlist, BEq.rfl, Option.map_some, Option.getD_some,
    getD_result_withTruncatedItems, truncatableItems_cutResult hlist, List.length_take]
  rw [hfull] at htwice ⊢
  split
  case isTrue h =>
    rw [if_pos (show limits.fits (cutText floats prepared item_key listed _) = true from h)]
    rfl
  case isFalse h =>
    rw [if_neg (show ¬limits.fits (cutText floats prepared item_key listed _) = true from h)]
    rw [findSome?_congr_mem fun count hcount => congrArg limits.fitting (htwice count hcount)]
    cases List.findSome? _ _ <;> rfl

/-- **What is sent** is the prepared record, a cut of it or an error, and its text fits. -/
theorem serializeToolResult_sent (tool_name : String) (tool_result : Fields) (language : String) :
    ∃ sent : Fields,
      serializeToolResult folding floats limits tool_name tool_result language =
        json floats (.obj sent) ∧
      limits.fits (json floats (.obj sent)) = true ∧
      Sent floats limits tool_name (prepareMapping folding language tool_result) sent := by
  let prepared := prepareMapping folding language tool_result
  have hwhole (h : prepared.getD "ok" ≠ .bool true ∨
      truncatableItems (prepared.getD "result") = none) : ∃ sent : Fields,
      serializeToolResult folding floats limits tool_name tool_result language =
        json floats (.obj sent) ∧
      limits.fits (json floats (.obj sent)) = true ∧ Sent floats limits tool_name prepared sent := by
    rw [serializeToolResult_whole folding floats limits h]
    dsimp only
    split
    case isTrue hfits => exact ⟨prepared, rfl, hfits, .whole h⟩
    case isFalse => exact errorText_sent floats limits tool_name prepared
  by_cases hok : prepared.getD "ok" = .bool true
  swap
  · exact hwhole (.inl hok)
  cases hlist : truncatableItems (prepared.getD "result") with
  | none => exact hwhole (.inr hlist)
  | some found =>
      obtain ⟨listed, item_key⟩ := found
      rw [serializeToolResult_cut folding floats limits hok hlist]
      dsimp only
      split
      case isTrue hfits => exact ⟨_, rfl, hfits, .cut hlist (longest_of_fits floats hfits)⟩
      case isFalse hfits =>
        rw [Bool.not_eq_true] at hfits
        cases hsearch : (List.range (min limits.max_tool_records listed.length)).reverse.findSome?
          (fun count => limits.fitting (cutText floats prepared item_key listed count)) with
        | none => exact errorText_sent floats limits tool_name prepared
        | some text =>
            obtain ⟨count, rfl, hcount⟩ := longest_of_search floats hfits hsearch
            exact ⟨_, rfl, hcount.fits, .cut hlist hcount⟩

end Sending

/-- No number starts with a letter. -/
theorem readNumber_nan (floats : FloatFormat) (rest : List Char) :
    PyNumber.read floats ('N' :: rest) = none := by
  have h : (List.takeWhile isNumberChar ('N' :: rest)).any isPoint = false := rfl
  rw [PyNumber.read, h]
  rfl

/-- A tool's result that is not a number. -/
def nanResult : Fields := [("ok", .bool true), ("result", .float (0.0 / 0.0))]

/-- How it is written. -/
def nanText : List Char := ['\x7b', '"', 'o', 'k', '"', ':', 't', 'r', 'u', 'e', ',', '"', 'r', 'e',
  's', 'u', 'l', 't', '"', ':', 'N', 'a', 'N', '\x7d']

end Runtime
end HomeCortex
