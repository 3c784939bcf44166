/-
# Record identities

`persistence/record_ids.py`.  A graph record is named by `table:key`, where the
table is `[A-Za-z_][A-Za-z0-9_]*` and the key is colon-separated segments of
`[A-Za-z0-9_-]+`.  `implicit_edge_component` encodes one endpoint of an edge
without an explicit id: the first colon of `table:key` becomes an underscore,
and a key that has colons itself is written in URL-safe base64.
-/

import HomeCortex.Common.Json

namespace HomeCortex

/-- A SurrealDB record identity. -/
structure RecordID where
  table_name : String
  id : String
deriving DecidableEq, Repr

/-- `[A-Za-z_]`. -/
def isNameStart (c : Char) : Bool := c.isAlpha || c == '_'

/-- `[A-Za-z0-9_]`. -/
def isNameChar (c : Char) : Bool := c.isAlphanum || c == '_'

/-- `[A-Za-z0-9_-]`. -/
def isKeyChar (c : Char) : Bool := c.isAlphanum || c == '_' || c == '-'

/-- `TABLE_NAME_RE.fullmatch`. -/
def isTableName (name : String) : Bool :=
  match name.toList with
  | [] => false
  | c :: cs => isNameStart c && cs.all isNameChar

/-- The segments of a text between its colons. -/
def colonSegments : List Char → List (List Char)
  | [] => [[]]
  | c :: cs =>
      if c = ':' then [] :: colonSegments cs
      else match colonSegments cs with
        | [] => [[c]]
        | segment :: rest => (c :: segment) :: rest

/-- `RECORD_KEY_PATTERN`: one or more colon-separated segments of key characters. -/
def isRecordKey (key : String) : Bool :=
  (colonSegments key.toList).all fun segment => !segment.isEmpty && segment.all isKeyChar

/-- What `RECORD_ID_RE` admits. -/
def RecordID.Valid (record : RecordID) : Prop :=
  isTableName record.table_name = true ∧ isRecordKey record.id = true

instance (record : RecordID) : Decidable record.Valid := by
  unfold RecordID.Valid; infer_instance

/-- `canonical_record_id`: the public `table:key` form. -/
def canonicalRecordId (record : RecordID) : String := record.table_name ++ ":" ++ record.id

instance : ToString RecordID := ⟨canonicalRecordId⟩

/-- `split_record_id`: a table has no colon, so the first colon ends it. -/
def splitRecordId (value : String) : Except PyError (String × String) :=
  let table := String.ofList (value.toList.takeWhile (· != ':'))
  let key := String.ofList ((value.toList.dropWhile (· != ':')).drop 1)
  if value.toList.contains ':' && isTableName table && isRecordKey key then .ok (table, key)
  else .error (.value "Entity ID must use the table:record_id format")

/-- `as_record_id`. -/
def asRecordId (value : String) : Except PyError RecordID :=
  (splitRecordId value).map fun parts => ⟨parts.1, parts.2⟩

/-- The 64 digits of `base64.urlsafe_b64encode`. -/
def base64Digit (n : Nat) : Char :=
  if n < 26 then Char.ofNat (65 + n)
  else if n < 52 then Char.ofNat (97 + (n - 26))
  else if n < 62 then Char.ofNat (48 + (n - 52))
  else if n = 62 then '-' else '_'

/-- `base64.urlsafe_b64encode(…).rstrip("=")`: three bytes give four digits, a
rest of one or two bytes gives two or three. -/
def base64UrlEncode : List UInt8 → List Char
  | [] => []
  | [a] => [base64Digit (a.toNat / 4), base64Digit (a.toNat % 4 * 16)]
  | [a, b] => [base64Digit (a.toNat / 4), base64Digit (a.toNat % 4 * 16 + b.toNat / 16),
      base64Digit (b.toNat % 16 * 4)]
  | a :: b :: c :: rest =>
      base64Digit (a.toNat / 4) :: base64Digit (a.toNat % 4 * 16 + b.toNat / 16) ::
        base64Digit (b.toNat % 16 * 4 + c.toNat / 64) :: base64Digit (c.toNat % 64) ::
          base64UrlEncode rest

/-- `text.replace(":", "_", 1)`. -/
def replaceFirstColon : List Char → List Char
  | [] => []
  | c :: cs => if c = ':' then '_' :: cs else c :: replaceFirstColon cs

/-- `implicit_edge_component`: one endpoint of an implicit relationship id. -/
def implicitEdgeComponent (record : RecordID) : String :=
  let canonical := canonicalRecordId record
  if record.id.toList.contains ':' then
    "b64_" ++ String.ofList (base64UrlEncode (canonical.toList.flatMap String.utf8EncodeChar))
  else String.ofList (replaceFirstColon canonical.toList)

/-- A table name that matches has no colon. -/
theorem isTableName_not_colon {name : String} (h : isTableName name = true) :
    ':' ∉ name.toList := by
  unfold isTableName at h
  split at h
  case h_1 => exact absurd h Bool.false_ne_true
  case h_2 c cs heq =>
    rw [Bool.and_eq_true, List.all_eq_true] at h
    rw [heq, List.mem_cons, not_or]
    refine ⟨?_, fun hmem => absurd (h.2 _ hmem) (by decide)⟩
    rintro rfl
    exact absurd h.1 (by decide)

theorem takeWhile_ne_append {cs : List Char} (h : ':' ∉ cs) (ds : List Char) :
    (cs ++ ':' :: ds).takeWhile (· != ':') = cs ∧
      (cs ++ ':' :: ds).dropWhile (· != ':') = ':' :: ds := by
  induction cs with
  | nil => simp
  | cons c cs ih =>
      rw [List.mem_cons, not_or] at h
      have hc : (c != ':') = true := by simpa using Ne.symm h.1
      simp [hc, ih h.2]

/-- Parsing undoes printing for the identities `RECORD_ID_RE` admits. -/
theorem asRecordId_canonical {record : RecordID} (h : record.Valid) :
    asRecordId (canonicalRecordId record) = .ok record := by
  have hcut := takeWhile_ne_append (isTableName_not_colon h.1) record.id.toList
  have hlist : (canonicalRecordId record).toList
      = record.table_name.toList ++ ':' :: record.id.toList := by
    simp [canonicalRecordId]
  unfold asRecordId splitRecordId
  rw [hlist, hcut.1, hcut.2]
  simp [h.1, h.2, Except.map]

theorem takeWhile_colon_dropWhile {cs : List Char} (h : ':' ∈ cs) :
    cs.takeWhile (· != ':') ++ ':' :: (cs.dropWhile (· != ':')).drop 1 = cs := by
  induction cs with
  | nil => exact absurd h List.not_mem_nil
  | cons c cs ih =>
      by_cases hc : c = ':'
      · simp [hc]
      · rw [List.mem_cons, or_iff_right (Ne.symm hc)] at h
        have hc' : (c != ':') = true := by simpa using hc
        simpa [hc'] using ih h

/-- Only admitted identities come out of the parser, and printing undoes it. -/
theorem asRecordId_ok {value : String} {record : RecordID} (h : asRecordId value = .ok record) :
    record.Valid ∧ canonicalRecordId record = value := by
  unfold asRecordId splitRecordId at h
  simp only at h
  split at h
  case isTrue hc =>
    cases h
    simp only [Bool.and_eq_true, List.contains_eq_mem, decide_eq_true_eq] at hc
    refine ⟨⟨hc.1.2, hc.2⟩, String.toList_inj.1 ?_⟩
    simpa [canonicalRecordId] using takeWhile_colon_dropWhile hc.1.1
  case isFalse => cases h

/-- Within one table the printed form tells identities apart. -/
theorem canonicalRecordId_inj_of_table {a b : RecordID} (ht : a.table_name = b.table_name)
    (h : canonicalRecordId a = canonicalRecordId b) : a = b := by
  obtain ⟨table, id⟩ := a
  obtain ⟨table', id'⟩ := b
  cases ht
  have hid : id = id' := by simpa [canonicalRecordId, String.append_right_inj] using h
  rw [hid]

/-- Different identities print differently when the tables have no colon. -/
theorem canonicalRecordId_injective {a b : RecordID} (ha : a.Valid) (hb : b.Valid)
    (h : canonicalRecordId a = canonicalRecordId b) : a = b := by
  have := asRecordId_canonical ha
  rw [h, asRecordId_canonical hb] at this
  exact (Except.ok.inj this).symm

end HomeCortex
