/-
# SurrealQL transactions

The statements that `mutation/writing.py` puts between `BEGIN TRANSACTION` and
`COMMIT TRANSACTION`.  A transaction runs its statements in order and applies
wholly or not at all: a guard that throws leaves the store as it was.  What a
database keeps of a content (`keep`) and how it merges changes into one (`merge`)
are parameters.

`lookup_exec` says for each writing statement what any record is afterwards.
-/

import HomeCortex.Persistence.Surreal

namespace HomeCortex

/-- One statement of a transaction. -/
inductive Statement where
  /-- `LET $r = SELECT …; IF $r != NONE { THROW … }` -/
  | throwIfPresent (record : RecordID)
  /-- `LET $r = SELECT …; IF $r = NONE { THROW … }` -/
  | throwIfMissing (record : RecordID)
  /-- `LET $r = SELECT * …; IF $r != $expected { THROW … }` -/
  | throwUnlessRow (record : RecordID) (expected : Fields)
  /-- `CREATE $record CONTENT $content` -/
  | create (record : RecordID) (content : Fields)
  /-- `RELATE $source->$edge->$target CONTENT $content` -/
  | relate (edge source target : RecordID) (content : Fields)
  /-- `UPDATE $record MERGE $changes` -/
  | merge (record : RecordID) (changes : Fields)
  /-- `DELETE type::table($table) WHERE in = $record` -/
  | deleteOutgoing (table : String) (record : RecordID)
  /-- `DELETE type::table($table) WHERE in = $record OR out = $record` -/
  | deleteIncident (table : String) (record : RecordID)
  /-- `DELETE $record` -/
  | delete (record : RecordID)
deriving DecidableEq

/-- `in = $record` of a stored record. -/
def StoredRecord.startsAt (stored : StoredRecord) (record : RecordID) : Bool :=
  match stored.endpoints with
  | some (source, _) => source == record
  | none => false

/-- `in = $record OR out = $record` of a stored record. -/
def StoredRecord.mentions (stored : StoredRecord) (record : RecordID) : Bool :=
  match stored.endpoints with
  | some (source, target) => source == record || target == record
  | none => false

/-- What the modelled code leaves to the database: what it keeps of a content, and
how `MERGE` changes one. -/
structure Engine where
  keep : Fields → Fields
  merge : Fields → Fields → Fields

namespace Engine

variable (engine : Engine)

/-- One statement; `none` is a `THROW`. -/
def exec (store : Store) : Statement → Option Store
  | .throwIfPresent record => if (store.lookup record).isSome then none else some store
  | .throwIfMissing record => if (store.lookup record).isNone then none else some store
  | .throwUnlessRow record expected =>
      match store.lookup record with
      | some stored => if Surreal.row record stored = expected then some store else none
      | none => none
  | .create record content => some (Surreal.upsert engine.keep store record content)
  | .relate edge source target content =>
      some (Surreal.relate engine.keep store edge source target content)
  | .merge record changes =>
      match store.lookup record with
      | some stored =>
          some (store.insert record ⟨stored.endpoints, engine.merge stored.content changes⟩)
      | none => some store
  | .deleteOutgoing table record => some (store.deleteWhere fun id stored =>
      id.table_name == table && stored.startsAt record)
  | .deleteIncident table record => some (store.deleteWhere fun id stored =>
      id.table_name == table && stored.mentions record)
  | .delete record => some (store.erase record)

/-- A whole transaction; `none` when a guard throws. -/
def transact (store : Store) (statements : List Statement) : Option Store :=
  statements.foldlM engine.exec store

variable {engine} {store after : Store}

@[simp] theorem transact_nil : engine.transact store [] = some store := rfl

theorem transact_cons {statement : Statement} {statements : List Statement} :
    engine.transact store (statement :: statements) =
      (engine.exec store statement).bind fun store => engine.transact store statements := rfl

theorem exec_throwIfPresent {record : RecordID} :
    engine.exec store (.throwIfPresent record) = some after ↔
      store.lookup record = none ∧ after = store := by
  rw [exec]
  cases h : store.lookup record <;> simp [eq_comm]

theorem exec_throwIfMissing {record : RecordID} :
    engine.exec store (.throwIfMissing record) = some after ↔
      (store.lookup record).isSome = true ∧ after = store := by
  rw [exec]
  cases h : store.lookup record <;> simp [eq_comm]

end Engine
end HomeCortex
