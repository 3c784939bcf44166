/-
# The record store

What the modelled code relies on of SurrealDB, through `persistence/db.py`.  A
record has one identity `table:key`; an edge record also has its two endpoints
(`in` and `out`).  `UPSERT` and `RELATE` with an explicit id replace the record
of that id, and `DELETE … WHERE id NOT IN` removes records of one table.  What
the database keeps of a content is a parameter `keep` of the section: the
identity for a store that keeps everything, `dropNulls` for one that drops
null-valued fields.
-/

import HomeCortex.Library.Table
import HomeCortex.Persistence.RecordIds

namespace HomeCortex

/-- A stored record: its endpoints when it is an edge, and its content. -/
structure StoredRecord where
  endpoints : Option (RecordID × RecordID)
  content : Fields
deriving DecidableEq

/-- The records of the database by identity. -/
abbrev Store := Table RecordID StoredRecord

/-- The content without its null-valued fields. -/
def dropNulls (content : Fields) : Fields := content.filter fun field => field.2 ≠ .null

namespace Surreal

section Statements

variable (keep : Fields → Fields)

/-- `UPSERT $record CONTENT $content`. -/
def upsert (store : Store) (record : RecordID) (content : Fields) : Store :=
  store.insert record ⟨none, keep content⟩

/-- `RELATE $source->$edge->$target CONTENT $content`. -/
def relate (store : Store) (edge source target : RecordID) (content : Fields) : Store :=
  store.insert edge ⟨some (source, target), keep content⟩

end Statements

/-- `DELETE FROM type::table($table) WHERE id NOT IN $record_ids`. -/
def prune (store : Store) (table : String) (record_ids : List RecordID) : Store :=
  store.retain (fun record => record.table_name == table) record_ids

/-- A record as a query returns it: its identity, its endpoints when it is an edge,
and its content.  Identities are given in their canonical text. -/
def row (record : RecordID) (stored : StoredRecord) : Fields :=
  ("id", .str (canonicalRecordId record)) ::
    ((match stored.endpoints with
      | some (source, target) => [("in", .str (canonicalRecordId source)),
          ("out", .str (canonicalRecordId target))]
      | none => []) ++ stored.content)

/-- `SELECT * FROM type::table($table)`. -/
def selectTable (store : Store) (table : String) : List (RecordID × StoredRecord) :=
  store.select fun record _ => record.table_name == table

/-- The records of one table, whatever is left of the others. -/
theorem lookup_prune {store : Store} {table : String} {record_ids : List RecordID}
    {record : RecordID} {stored : StoredRecord} :
    (prune store table record_ids).lookup record = some stored ↔
      store.lookup record = some stored ∧ (record.table_name = table → record ∈ record_ids) := by
  rw [prune, AList.lookup_retain_eq_some, beq_iff_eq]

theorem lookup_prune_of_ne {store : Store} {table : String} {record_ids : List RecordID}
    {record : RecordID} (h : record.table_name ≠ table) :
    (prune store table record_ids).lookup record = store.lookup record :=
  AList.lookup_retain_of_not (by simpa using h)

theorem mem_selectTable {store : Store} {table : String} {record : RecordID}
    {stored : StoredRecord} :
    (record, stored) ∈ selectTable store table ↔
      store.lookup record = some stored ∧ record.table_name = table := by
  rw [selectTable, AList.mem_select, beq_iff_eq]

end Surreal
end HomeCortex
