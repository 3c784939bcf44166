/-
# Reading the graph

`persistence/retrieval.py`: point reads, relationship reads and name lookups.  A
`HouseholdGraph` is what these reads see while a request is answered: records,
current edges, which records a name means, and which reads fail (an unknown table,
an invalid identity, a database error; the dispatcher reports them all alike, so a
failed read is `none`).  `Store.graph` is the graph of a stored state.
-/

import HomeCortex.Persistence.EdgeSchema
import HomeCortex.Persistence.Surreal

namespace HomeCortex

/-- A record as the graph reads return it: its identity and its other fields. -/
structure Entity where
  id : String
  fields : Fields
deriving DecidableEq

/-- `record.get(key)`. -/
def Entity.get (entity : Entity) (key : String) : Json :=
  if key = "id" then .str entity.id else entity.fields.getD key

/-- `key in record`. -/
def Entity.has (entity : Entity) (key : String) : Bool := key == "id" || entity.fields.has key

/-- The record as the fields of a `dict`. -/
def Entity.toFields (entity : Entity) : Fields := ("id", .str entity.id) :: entity.fields

/-- `entity_id.partition(":")[0]`. -/
def idType (entity_id : String) : String :=
  String.ofList (entity_id.toList.takeWhile (· != ':'))

/-- `ENTITY_SUMMARY_FIELDS`. -/
def entitySummaryFields : List String :=
  ["id", "name", "display_name", "address_as", "gender", "first_name", "last_name",
    "address_type", "item_type", "space_type", "type"]

/-- `_entity_summary`. -/
def entitySummary (entity : Entity) : Entity :=
  ⟨entity.id, entity.fields.filter fun field => entitySummaryFields.contains field.1⟩

/-- The `direction` of a relationship read. -/
inductive Direction where
  | out
  | into
deriving DecidableEq, Repr

/-- A current edge: its endpoints and the other fields of its record. -/
structure GraphEdge where
  source : String
  target : String
  fields : Fields
deriving DecidableEq

namespace GraphEdge

variable (edge : GraphEdge)

/-- The `WHERE` predicate of a relationship read; `none` is `"both"`. -/
def touches (direction : Option Direction) (entity_id : String) : Bool :=
  match direction with
  | some .out => edge.source == entity_id
  | some .into => edge.target == entity_id
  | none => edge.source == entity_id || edge.target == entity_id

/-- The end that is the `related_entity` of the edge, read from `entity_id`. -/
def far (entity_id : String) : String :=
  if edge.source = entity_id then edge.target else edge.source

/-- `_relationship_direction`. -/
def relationshipDirection (entity_id : String) : String :=
  if edge.source = entity_id then
    if edge.target = entity_id then "both" else "outgoing"
  else "incoming"

end GraphEdge

/-- An edge record as a relationship read returns it. -/
structure Edge where
  fields : Fields
  related_entity : Option Entity
deriving DecidableEq

namespace Edge

variable (edge : Edge)

/-- The record as the fields of a `dict`. -/
def toFields : Fields :=
  match edge.related_entity with
  | some related => edge.fields.set "related_entity" (.obj related.toFields)
  | none => edge.fields

/-- `edge.get(key)`. -/
def get (key : String) : Json := edge.toFields.getD key

/-- `key in edge`. -/
def has (key : String) : Bool := edge.toFields.has key

/-- `_related_entity_id`. -/
def relatedId : Option String := edge.related_entity.map Entity.id

end Edge

/-- The arguments of `resolve_entity_alias`, its limit apart. -/
structure AliasQuery where
  text : String
  entity_type : Option String
  speaker_id : Option String
  household_id : Option String
deriving DecidableEq, Repr

/-- A read of the graph. -/
inductive GraphRead where
  | entity (entity_id : String)
  | relationships (entity_id relation : String) (direction : Option Direction)
  | alias (query : AliasQuery)
deriving DecidableEq

/-- What the reads of one request see.  `ids` are the identities of a table in their
order; `named` picks the records that a name means out of those it is given. -/
structure HouseholdGraph where
  tables : List String
  ids : String → List String
  record : String → Option Fields
  edges : String → List GraphEdge
  named : AliasQuery → List Entity → List Entity
  fails : GraphRead → Bool
  record_named : ∀ id fields, record id = some fields → ':' ∈ id.toList
  ids_typed : ∀ table ∈ tables, ∀ id ∈ ids table, idType id = table
  named_subset : ∀ query records, named query records ⊆ records

/-- `_stored_direction`; `none` is `"both"`. -/
def storedDirection (resolved : ResolvedEdgeSchema) (entity_type : String)
    (requested : Option Direction) : Option Direction :=
  if resolved.schema.symmetric then none
  else match requested, resolved.inverse with
    | some direction, false => some direction
    | some .out, true => some .into
    | some .into, true => some .out
    | none, true => some .into
    | none, false =>
        match resolved.schema.from_types.contains entity_type,
            resolved.schema.to_types.contains entity_type with
        | true, false => some .out
        | false, true => some .into
        | _, _ => none

/-- `_semantic_relation`. -/
def semanticRelation (schema : EdgeSchema) (direction : String) : String :=
  if schema.symmetric || direction == "outgoing" || direction == "both" then schema.id
  else schema.inverse_name.getD schema.id

namespace HouseholdGraph

variable (graph : HouseholdGraph)

/-- The record of an identity. -/
def entity? (entity_id : String) : Option Entity :=
  (graph.record entity_id).map fun fields => ⟨entity_id, fields⟩

/-- `get_entity`. -/
def getEntity (entity_id : String) : Option (List Entity) :=
  if graph.fails (.entity entity_id) then none else some (graph.entity? entity_id).toList

/-- The row of an edge read from `entity_id`. -/
def edgeRow (schema : EdgeSchema) (entity_id : String) (edge : GraphEdge) : Edge :=
  let direction := edge.relationshipDirection entity_id
  let near := if direction = "outgoing" then edge.source else edge.target
  let fields := ((((edge.fields.without ["source_entity", "target_entity"]).set
    "in" (.str edge.source)).set "out" (.str edge.target)).set "relation" (.str schema.id)).set
    "semantic_relation" (.str (semanticRelation schema direction)) |>.set
    "direction" (.str direction)
  { fields := match graph.entity? near with
      | some entity => fields.set "entity" (.obj (entitySummary entity).toFields)
      | none => fields
    related_entity := (graph.entity? (edge.far entity_id)).map entitySummary }

/-- The current edges of a relation that a read from `entity_id` selects. -/
def relationships (relation : String) (direction : Option Direction) (entity_id : String) :
    List GraphEdge :=
  (graph.edges relation).filter fun edge => edge.touches direction entity_id

/-- `get_relationships` without ended edges. -/
def getRelationships (registry : EdgeSchemaRegistry) (entity_id relation : String)
    (direction : Option Direction) (limit : Nat) : Option (List Edge) :=
  match registry.resolve relation with
  | .error _ => none
  | .ok resolved =>
      if graph.fails (.relationships entity_id relation direction) then none
      else
        let stored := storedDirection resolved (idType entity_id) direction
        some (((graph.relationships resolved.schema.id stored entity_id).take limit).map
          (graph.edgeRow resolved.schema entity_id))

/-- `resolve_entity_alias`. -/
def resolveEntityAlias (query : AliasQuery) (limit : Nat) : Option (List Entity) :=
  if graph.fails (.alias query) || query.entity_type.any (fun type => !graph.tables.contains type)
  then none
  else
    let tables := (query.entity_type.map fun type => [type]).getD graph.tables
    let records := tables.flatMap fun table => (graph.ids table).filterMap graph.entity?
    some (((graph.named query records).take limit).map entitySummary)

end HouseholdGraph

/-- The type of a canonical identity is its table. -/
theorem idType_canonicalRecordId {record : RecordID} (h : isTableName record.table_name = true) :
    idType (canonicalRecordId record) = record.table_name := by
  have hlist : (canonicalRecordId record).toList
      = record.table_name.toList ++ ':' :: record.id.toList := by
    simp [canonicalRecordId]
  rw [idType, hlist, (takeWhile_ne_append (isTableName_not_colon h) _).1, String.ofList_toList]

/-- `_is_current_relationship`. -/
def StoredRecord.isCurrent (stored : StoredRecord) : Bool := stored.content.getD "end" = .null

/-- Stored records in the order of their identities. -/
def inIdOrder (records : List (RecordID × StoredRecord)) : List (RecordID × StoredRecord) :=
  records.insertionSort fun a b => canonicalRecordId a.1 ≤ canonicalRecordId b.1

/-- A stored edge. -/
def StoredRecord.graphEdge? (id : RecordID) (stored : StoredRecord) : Option GraphEdge :=
  stored.endpoints.map fun (source, target) =>
    ⟨canonicalRecordId source, canonicalRecordId target,
      ("id", .str (canonicalRecordId id)) :: stored.content⟩

/-- The fields of the record with this identity, as `SELECT * FROM $id` reads it. -/
def storedFields (store : Store) (entity_id : String) : Option Fields := do
  let record ← (asRecordId entity_id).toOption
  let stored ← store.lookup record
  return (Surreal.row record stored).tail

/-- The graph of a stored state, for a retrieval service over the node tables `tables`. -/
def Store.graph (store : Store) (tables : List String)
    (tables_named : ∀ table ∈ tables, isTableName table = true)
    (named : AliasQuery → List Entity → List Entity)
    (named_subset : ∀ query records, named query records ⊆ records)
    (unreachable : GraphRead → Bool) : HouseholdGraph where
  tables := tables
  ids table := (inIdOrder (Surreal.selectTable store table)).map fun entry =>
    canonicalRecordId entry.1
  record := storedFields store
  edges relation := ((inIdOrder (Surreal.selectTable store relation)).filter fun entry =>
    entry.2.isCurrent).filterMap fun entry => entry.2.graphEdge? entry.1
  named := named
  fails read := unreachable read || match read with
    | .entity entity_id => !(asRecordId entity_id).toOption.any fun record =>
        tables.contains record.table_name
    | .relationships entity_id _ _ => !(asRecordId entity_id).isOk
    | .alias _ => false
  record_named := by
    intro id fields h
    obtain ⟨record, hrecord, -⟩ := Option.bind_eq_some_iff.1 h
    cases hid : asRecordId id with
    | error => rw [hid] at hrecord; cases hrecord
    | ok record' =>
        obtain ⟨-, rfl⟩ := asRecordId_ok hid
        simp [canonicalRecordId]
  ids_typed := by
    intro table htable id hid
    obtain ⟨⟨record, stored⟩, hmem, rfl⟩ := List.mem_map.1 hid
    obtain ⟨-, rfl⟩ := Surreal.mem_selectTable.1 ((List.mem_insertionSort _).1 hmem)
    exact idType_canonicalRecordId (tables_named _ htable)
  named_subset := named_subset

end HomeCortex
