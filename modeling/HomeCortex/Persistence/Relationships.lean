/-
# Relationship reads

`RetrievalService.get_relationships` of `persistence/retrieval.py` over a stored
state.  A relation name, which may be an inverse name, and a direction are a *view*
of the stored edges of one relation: from an entity it leads to other entities
(`Leads`).  `FirstOfView` says what a read of a view should return.

The database engine orders by canonical identity and applies `WHERE`, `ORDER BY`
and `LIMIT` in this order.
-/

import HomeCortex.Common.Order
import HomeCortex.Persistence.Mirror
import HomeCortex.Persistence.Retrieval

namespace HomeCortex

/-- `Literal["out", "in", "both"]`. -/
inductive ReadDirection where
  | out
  | into
  | both
deriving DecidableEq, Repr

namespace ReadDirection

/-- The same edges walked the other way. -/
def opposite : ReadDirection → ReadDirection
  | out => into
  | into => out
  | both => both

@[simp] theorem opposite_opposite (direction : ReadDirection) :
    direction.opposite.opposite = direction := by
  cases direction <;> rfl

/-- The `WHERE` predicate of a stored direction: `in` is the source of an edge. -/
def selects (direction : ReadDirection) (entity : RecordID) (ends : RecordID × RecordID) : Bool :=
  match direction with
  | out => ends.1 == entity
  | into => ends.2 == entity
  | both => ends.1 == entity || ends.2 == entity

end ReadDirection

/-- `RetrievalService`, as far as relationship reads need it. -/
structure RetrievalService where
  limit : Nat
  edge_registry : EdgeSchemaRegistry

namespace RetrievalService

/-- `_stored_direction`. -/
def storedDirection (resolved : ResolvedEdgeSchema) (entity_type : String)
    (requested : Option ReadDirection) : ReadDirection :=
  let schema := resolved.schema
  if schema.symmetric then .both
  else match requested with
    | some requested =>
        if !resolved.inverse || requested == .both then requested
        else if requested = .out then .into else .out
    | none =>
        if resolved.inverse then .into
        else if schema.from_types.contains entity_type && !schema.to_types.contains entity_type
        then .out
        else if schema.to_types.contains entity_type && !schema.from_types.contains entity_type
        then .into
        else .both

/-- `_relationship_direction`. -/
def relationshipDirection (edge : Fields) (entity_id : String) : String :=
  let is_source := edge.getD "in" = .str entity_id
  let is_target := edge.getD "out" = .str entity_id
  if is_source ∧ is_target then "both" else if is_source then "outgoing" else "incoming"

/-- `_is_current_relationship`. -/
def isCurrentRelationship (edge : Fields) : Bool := edge.getD "end" = .null

/-- `_entity_summary`. -/
def summaryFields (record : Fields) : Fields :=
  record.filter fun field => entitySummaryFields.contains field.1

/-- `$record.*`: the whole record, or `NONE`. -/
def expanded (store : Store) (record : RecordID) : Json :=
  match store.lookup record with
  | some stored => .obj (Surreal.row record stored)
  | none => .null

/-- A row of the relationship statement. -/
def statementRow (store : Store) (edge : RecordID × StoredRecord) : Fields :=
  let ends := edge.2.endpoints
  ((Surreal.row edge.1 edge.2).set "source_entity"
    ((ends.map fun ends => expanded store ends.1).getD .null)).set "target_entity"
    ((ends.map fun ends => expanded store ends.2).getD .null)

/-- The edges the relationship statement selects. -/
def selectEdges (store : Store) (relation : String) (direction : ReadDirection)
    (entity : RecordID) (include_ended : Bool) (limit : Nat) : List (RecordID × StoredRecord) :=
  ((inIdOrder (Surreal.selectTable store relation)).filter fun edge =>
    edge.2.endpoints.any (direction.selects entity) && (include_ended || edge.2.isCurrent)).take
      limit

/-- `if isinstance(record, dict): edge[key] = _entity_summary(record)`. -/
def setSummary (edge : Fields) (key : String) (record : Json) : Fields :=
  match record.asObject? with
  | some record => edge.set key (.obj (summaryFields record))
  | none => edge

/-- The body of the loop over the rows of one relation. -/
def describeEdge (schema : EdgeSchema) (entity_id : String) (row : Fields) : Fields :=
  let direction := relationshipDirection row entity_id
  let source_entity := row.getD "source_entity"
  let target_entity := row.getD "target_entity"
  let edge := (((row.set "relation" (.str schema.id)).set "semantic_relation"
    (.str (semanticRelation schema direction))).without ["source_entity", "target_entity"]).set
      "direction" (.str direction)
  let edge := setSummary edge "entity"
    (if direction = "outgoing" then source_entity else target_entity)
  setSummary edge "related_entity"
    (if direction = "incoming" then source_entity else target_entity)

/-- The relationships of one resolved relation. -/
def readRelation (store : Store) (entity : RecordID) (direction : Option ReadDirection)
    (include_ended : Bool) (limit : Nat) (resolved : ResolvedEdgeSchema) : List Fields :=
  let rows := (selectEdges store resolved.schema.id
    (storedDirection resolved entity.table_name direction) entity include_ended limit).map
      (statementRow store)
  (rows.filter fun row => include_ended || isCurrentRelationship row).map
    (describeEdge resolved.schema (canonicalRecordId entity))

/-- The sort key of a relationship. -/
def sortKey (edge : Fields) : String × String :=
  (((edge.get? "relation").map Json.pyStr).getD "", ((edge.get? "id").map Json.pyStr).getD "")

/-- `a <= b` of two sort keys. -/
def keyLe (a b : Fields) : Prop :=
  (sortKey a).1 < (sortKey b).1 ∨ (sortKey a).1 = (sortKey b).1 ∧ (sortKey a).2 ≤ (sortKey b).2

instance : DecidableRel keyLe := fun a b => by unfold keyLe; infer_instance

variable (service : RetrievalService)

/-- `_validated_limit`. -/
def validatedLimit (limit : Option Int) : Except PyError Nat :=
  match limit with
  | none => .ok service.limit
  | some limit =>
      let maximum := min (service.limit + 1) 100
      if 1 ≤ limit ∧ limit ≤ maximum then .ok limit.toNat
      else .error (.value ("Limit must be an integer between 1 and " ++ toString maximum))

/-- The relations that a read is about. -/
def resolvedRelations (relation : Option String) (direction : Option ReadDirection) :
    Except PyError (List ResolvedEdgeSchema) := do
  match relation with
  | some relation =>
      match service.edge_registry.resolve relation with
      | .ok resolved => return [resolved]
      | .error (.unknownEdgeSchema message) => throw (.value message)
      | .error other => throw other
  | none =>
      raiseIf direction.isSome (.value "Direction requires a specific relation")
      service.edge_registry.relationship_names.mapM fun name =>
        (service.edge_registry.get name).map fun schema => ⟨schema, false⟩

/-- `get_relationships`. -/
def getRelationships (store : Store) (entity_id : String) (relation : Option String)
    (direction : Option ReadDirection) (limit : Option Int) (include_ended : Bool) :
    Except PyError (List Fields) := do
  let entity ← asRecordId entity_id
  let result_limit ← service.validatedLimit limit
  let resolved_relations ← service.resolvedRelations relation direction
  let relationships := resolved_relations.flatMap
    (readRelation store entity direction include_ended result_limit)
  return (relationships.insertionSort keyLe).take result_limit

/-! ### Views -/

/-- The edge says of `a` and `b` what the name says: a symmetric relation holds both
ways, an inverse name reads its edges backwards. -/
def Names (resolved : ResolvedEdgeSchema) (source target a b : RecordID) : Prop :=
  if resolved.schema.symmetric then source = a ∧ target = b ∨ source = b ∧ target = a
  else if resolved.inverse then source = b ∧ target = a
  else source = a ∧ target = b

/-- Under a name and a direction the edge leads from `a` to `b`. -/
def Leads (resolved : ResolvedEdgeSchema) (direction : Option ReadDirection)
    (source target a b : RecordID) : Prop :=
  match direction with
  | some .into => Names resolved source target b a
  | some .both => Names resolved source target a b ∨ Names resolved source target b a
  | some .out | none => Names resolved source target a b

/-- The direction is given, or the name fixes it. -/
def Directed (resolved : ResolvedEdgeSchema) (direction : Option ReadDirection) : Prop :=
  direction ≠ none ∨ resolved.inverse = true ∨ resolved.schema.symmetric = true

/-- The end of an edge that is not `entity`; a loop ends where it starts. -/
def otherEnd (entity : RecordID) (ends : RecordID × RecordID) : RecordID :=
  if ends.1 = entity then ends.2 else ends.1

/-- A stored edge that has not ended. -/
def CurrentEdge (store : Store) (relation : String) (id source target : RecordID) : Prop :=
  id.table_name = relation ∧ ∃ content, store.lookup id = some ⟨some (source, target), content⟩ ∧
    content.getD "end" = .null

/-- What ingestion asks of the edges of the registered relations: their ends are
identities of stored records. -/
def EdgesJoin (registry : EdgeSchemaRegistry) (store : Store) : Prop :=
  ∀ schema ∈ registry.schemas, ∀ id source target content, id.table_name = schema.id →
    store.lookup id = some ⟨some (source, target), content⟩ →
      (source.Valid ∧ (store.lookup source).isSome = true) ∧
        (target.Valid ∧ (store.lookup target).isSome = true)

/-- The identity of a relationship. -/
def rowId (row : Fields) : String := (row.getD "id").pyStr

/-- The identity of the `related_entity` of a relationship. -/
def relatedId (row : Fields) : Json :=
  (((row.getD "related_entity").asObject?).map fun record => record.getD "id").getD .null

/-- The rows are the first `limit` current edges, by identity, that the view leads
along from `a`, each once and with the record at the other end. -/
structure FirstOfView (store : Store) (resolved : ResolvedEdgeSchema)
    (direction : Option ReadDirection) (a : RecordID) (limit : Nat) (rows : List Fields) :
    Prop where
  ordered : rows.Pairwise fun row row' => rowId row < rowId row'
  bounded : rows.length ≤ limit
  sound : ∀ row ∈ rows, ∃ id source target b stored,
    CurrentEdge store resolved.schema.id id source target ∧
      Leads resolved direction source target a b ∧ rowId row = canonicalRecordId id ∧
      store.lookup b = some stored ∧
      row.get? "related_entity" = some (.obj (summaryFields (Surreal.row b stored)))
  complete : ∀ id source target b, CurrentEdge store resolved.schema.id id source target →
    Leads resolved direction source target a b →
      (∃ row ∈ rows, rowId row = canonicalRecordId id) ∨
        rows.length = limit ∧ ∀ row ∈ rows, rowId row < canonicalRecordId id

end RetrievalService
end HomeCortex
