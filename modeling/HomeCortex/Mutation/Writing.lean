/-
# The item writing service

`mutation/writing.py`.  A validated request is one of four intents about one item,
previewed or committed.  `mutate` reads the store, decides, and runs at most one
transaction; it never raises.  Database failures are a parameter of a call
(`Faults`): any read may raise, and the transaction may be refused, or applied
with its answer lost.

The decisions that precede a transaction are definitions of their own
(`createRefusal`, `updateLocationRefusal`, …): they give the result that ends the
call early, or nothing when the call goes on.
-/

import HomeCortex.Common.Numbers
import HomeCortex.Mutation.Transactions
import HomeCortex.Persistence.SchemaCatalog

namespace HomeCortex

/-- An identity a request may name an item by. -/
structure ItemId where
  id : RecordID
  valid : id.Valid
  is_item : id.table_name = "item"
deriving DecidableEq

/-- An identity a request may name. -/
structure PlaceId where
  id : RecordID
  valid : id.Valid
deriving DecidableEq

inductive WriteMode where
  | preview
  | commit
deriving DecidableEq, Repr

/-- The properties of an `ItemDefinition`: not empty, and none of the graph's own. -/
structure ItemProperties where
  fields : Fields
  nonempty : fields ≠ []
  no_identity : ∀ key ∈ ["id", "in", "out"], fields.get? key = none

/-- `WriteRequest`, after validation. -/
inductive WriteRequest where
  | create (item : ItemId) (properties : ItemProperties) (location : PlaceId) (mode : WriteMode)
  | updateLocation (item : ItemId) (location : PlaceId) (mode : WriteMode)
  | updateAttributes (item : ItemId) (properties : Fields) (mode : WriteMode)
  | delete (item : ItemId) (mode : WriteMode)

/-- The item a request names. -/
def WriteRequest.item : WriteRequest → ItemId
  | .create item _ _ _ | .updateLocation item _ _ | .updateAttributes item _ _
  | .delete item _ => item

/-- Where a request puts its item. -/
def WriteRequest.location? : WriteRequest → Option PlaceId
  | .create _ _ location _ | .updateLocation _ location _ => some location
  | .updateAttributes _ _ _ | .delete _ _ => none

/-- `MutationStatus`. -/
inductive MutationStatus where
  | applied
  | proposed
  | noChange
  | rejected
  | notFound
  | conflict
deriving DecidableEq, Repr

/-- `MutationError`. -/
structure MutationError where
  code : String
  field : Option String
  message : String
deriving DecidableEq, Repr

/-- `MutationResult`, without the operation and the source that it copies from the
request. -/
structure MutationResult where
  status : MutationStatus
  entity_id : String
  affected_nodes : Nat := 0
  affected_edges : Nat := 0
  previous_state : Option Json := none
  resulting_state : Option Json := none
  reason : Option String := none
  errors : List MutationError := []
deriving DecidableEq

/-- What happens to the transaction of a call. -/
inductive TransactionFault where
  | none
  | refused
  | answerLost
deriving DecidableEq, Repr

/-- Which reads of a call raise, in order, and what happens to its transaction. -/
structure Faults where
  read_fails : Nat → Bool
  transaction : TransactionFault

/-- No failure. -/
def Faults.none : Faults := ⟨fun _ => false, .none⟩

/-- One call of `mutate`. -/
structure MutateCall where
  request : WriteRequest
  faults : Faults

/-- `ItemWritingService`: the engine behind it, the item schema of the catalog, the
edge registry, the fields the ontology declares writable, and the relation it
names for locations, with what `__init__` checks of it. -/
structure ItemWritingService where
  engine : Engine
  item_schema : Option EntityTypeSchema
  edge_registry : EdgeSchemaRegistry
  writable : List String
  location_schema : EdgeSchema
  registered : location_schema ∈ edge_registry.schemas
  unique_from : location_schema.unique_from = true
  admits_space : edge_registry.validate_endpoints location_schema.id "item" "space" = .ok ()

namespace ItemWritingService

variable (service : ItemWritingService)

/-- `location_relation`. -/
def location_relation : String := service.location_schema.id

/-- `_location_edge_id`. -/
def locationEdgeId (item location : RecordID) : RecordID :=
  ⟨service.location_relation, implicitEdgeComponent item ++ "__" ++ implicitEdgeComponent location⟩

/-- `_valid_name`: text, localized texts or pairwise different aliases, none blank. -/
def validName : Json → Bool
  | .str text => !isBlank text
  | .obj texts => !texts.isEmpty && texts.all fun entry => match entry.2 with
      | .str text => !isBlank text
      | _ => false
  | .arr names => !names.isEmpty && (names.all fun name => match name with
      | .str text => !isBlank text
      | _ => false) && decide names.Nodup
  | _ => false

/-- The first property of the wrong kind, or with a blank item type. -/
def propertyError (schema : EntityTypeSchema) : Fields → Except PyError (Option MutationError)
  | [] => .ok none
  | (name, value) :: rest => do
      let blank := name == "item_type" && match value with
        | .str text => isBlank text
        | _ => false
      if blank then
        return some ⟨"ITEM_TYPE_REQUIRED", none, "Item category must be non-empty"⟩
      else if ← matchesKind value (schema.kindOf name) then propertyError schema rest
      else
        return some ⟨"INVALID_ITEM_PROPERTY_TYPE", some ("item.properties." ++ name),
          "Item property does not match the deployed schema type"⟩

/-- `_validate_item_properties`. -/
def validateItemProperties (properties : Fields) (require_name : Bool) :
    Except PyError (Option MutationError) := do
  match service.item_schema with
  | none => return some ⟨"ITEM_SCHEMA_UNAVAILABLE", some "item.type",
      "The deployed schema does not define item entities"⟩
  | some schema =>
      if !(properties.extra schema.properties).isEmpty then
        return some ⟨"UNKNOWN_ITEM_PROPERTY", some "item.properties",
          "Item properties are not declared by the deployed schema"⟩
      else
        match ← propertyError schema properties with
        | some error => return some error
        | none =>
            if require_name && !validName (properties.getD "name") then
              return some ⟨"ITEM_NAME_REQUIRED", some "item.properties.name",
                "Item name must be non-empty text, aliases, or localized text"⟩
            else return none

/-- A database read, which may raise. -/
def read {α : Type} (faults : Faults) (index : Nat) (value : α) : Except PyError α := do
  raiseIf (faults.read_fails index) (.runtime "database read failed")
  return value

/-- `_current_locations`: the targets of the item's location edges, sorted. -/
def currentLocations (store : Store) (item : RecordID) : List String :=
  ((store.select fun id stored =>
      id.table_name == service.location_relation && stored.startsAt item).filterMap
    fun edge => edge.2.endpoints.map fun ends => canonicalRecordId ends.2).insertionSort (· ≤ ·)

/-- `_item_relations`. -/
def itemRelations : List String :=
  service.edge_registry.relationship_names.filter fun name =>
    match service.edge_registry.find? name with
    | some schema => schema.from_types.contains "item" || schema.to_types.contains "item"
    | none => false

/-- `_incident_edges`: how many edges mention the item, by relation. -/
def incidentEdges (store : Store) (item : RecordID) : List (String × Nat) :=
  (service.itemRelations.map fun relation =>
    (relation, (store.select fun id stored =>
      id.table_name == relation && stored.mentions item).length)).filter fun entry =>
        entry.2 != 0

/-- `_validate_location`, reading the destination at `index`. -/
def validateLocation (faults : Faults) (index : Nat) (store : Store) (location : RecordID) :
    Except PyError (Option MutationError) := do
  match service.edge_registry.validate_endpoints service.location_relation "item"
      location.table_name with
  | .error (.value _) => return some ⟨"INVALID_LOCATION_TYPE", some "location_id",
      "The destination type is not valid for item location"⟩
  | .error error => throw error
  | .ok _ =>
      let record ← read faults index (store.lookup location)
      if record.isNone then
        return some ⟨"LOCATION_NOT_FOUND", some "location_id",
          "The destination location does not exist"⟩
      else return none

/-- `_rejected`. -/
def rejected (entity_id : RecordID) (error : MutationError) : MutationResult :=
  { status := .rejected, entity_id := canonicalRecordId entity_id, reason := some error.code,
    errors := [error] }

/-- `_storage_rejected`. -/
def storageRejected (entity_id : RecordID) : MutationResult :=
  rejected entity_id ⟨"STORAGE_FAILURE", none,
    "The item mutation could not validate authoritative state"⟩

/-- `_database_rejected`. -/
def databaseRejected (entity_id : RecordID) (previous_state : Option Json) : MutationResult :=
  { rejected entity_id ⟨"TRANSACTION_FAILED", none,
      "The item mutation transaction was not applied"⟩ with previous_state := previous_state }

/-- Run a transaction and give the result of the call: `applied` when it applied. -/
def commit (faults : Faults) (store : Store) (statements : List Statement)
    (applied : MutationResult) (failed : MutationResult) : MutationResult × Store :=
  match faults.transaction with
  | .refused => (failed, store)
  | .none => match service.engine.transact store statements with
      | some after => (applied, after)
      | none => (failed, store)
  | .answerLost => (failed, (service.engine.transact store statements).getD store)

/-- `{"item_type": "unknown", **request.item.properties}`. -/
def createdProperties (properties : ItemProperties) : Fields :=
  Fields.merge [("item_type", .str "unknown")] properties.fields

/-- The decisions of `_create` before its mode is looked at. -/
def createRefusal (faults : Faults) (store : Store) (item : RecordID)
    (properties : ItemProperties) (location : RecordID) :
    Except PyError (Option MutationResult) := do
  match ← service.validateItemProperties (createdProperties properties) true with
  | some error => return some (rejected item error)
  | none =>
      let existing ← read faults 0 (store.lookup item)
      if existing.isSome then
        return some { status := .conflict, entity_id := canonicalRecordId item,
                      reason := some "ENTITY_ALREADY_EXISTS" }
      let locations ← read faults 1 (service.currentLocations store item)
      if !locations.isEmpty then
        return some { status := .conflict, entity_id := canonicalRecordId item,
                      reason := some "ORPHANED_LOCATION_STATE" }
      return (← service.validateLocation faults 2 store location).map (rejected item)

/-- `_CREATE_TRANSACTION`. -/
def createTransaction (item : RecordID) (properties : ItemProperties) (location : RecordID) :
    List Statement :=
  [.throwIfPresent item, .throwIfMissing location,
    .create item (createdProperties properties),
    .relate (service.locationEdgeId item location) item location []]

/-- `_create`. -/
def create (faults : Faults) (store : Store) (item : RecordID) (properties : ItemProperties)
    (location : RecordID) (mode : WriteMode) : Except PyError (MutationResult × Store) := do
  match ← service.createRefusal faults store item properties location with
  | some result => return (result, store)
  | none =>
      let resulting := Json.obj [("entity", .obj (("id", .str (canonicalRecordId item)) ::
        createdProperties properties)), ("location", .str (canonicalRecordId location))]
      let result (status : MutationStatus) : MutationResult :=
        { status := status, entity_id := canonicalRecordId item, affected_nodes := 1,
          affected_edges := 1, resulting_state := some resulting }
      match mode with
      | .preview => return (result .proposed, store)
      | .commit =>
          return service.commit faults store (service.createTransaction item properties location)
            (result .applied) (databaseRejected item none)

/-- The state of an item's location in a result. -/
def locationState (location : Option String) : Json :=
  .obj [("location", match location with
    | some location => .str location
    | none => .null)]

/-- The decisions of `_update_location` before its mode is looked at, or the
previous location. -/
def updateLocationRefusal (faults : Faults) (store : Store) (item location : RecordID) :
    Except PyError (MutationResult ⊕ Option String) := do
  let entity_id := canonicalRecordId item
  let existing ← read faults 0 (store.lookup item)
  if existing.isNone then
    return .inl { status := .notFound, entity_id := entity_id, reason := some "ITEM_NOT_FOUND" }
  match ← service.validateLocation faults 1 store location with
  | some error => return .inl (rejected item error)
  | none =>
      let current ← read faults 2 (service.currentLocations store item)
      if 1 < current.length then
        return .inl { status := .conflict, entity_id := entity_id,
                      previous_state := some (.obj [("locations", .arr (current.map .str))]),
                      reason := some "MULTIPLE_CURRENT_LOCATIONS" }
      else if current.head? = some (canonicalRecordId location) then
        return .inl { status := .noChange, entity_id := entity_id,
                      previous_state := some (locationState current.head?),
                      resulting_state := some (locationState current.head?),
                      reason := some "LOCATION_UNCHANGED" }
      else return .inr current.head?

/-- `_UPDATE_LOCATION_TRANSACTION`, or `_SET_INITIAL_LOCATION_TRANSACTION` for an
item without a location. -/
def updateLocationTransaction (item location : RecordID) (previous : Option String) :
    List Statement :=
  let relate := Statement.relate (service.locationEdgeId item location) item location []
  match previous with
  | some _ => [.throwIfMissing item, .throwIfMissing location,
      .deleteOutgoing service.location_relation item, relate]
  | none => [.throwIfMissing item, .throwIfMissing location, relate]

/-- `_update_location`. -/
def updateLocation (faults : Faults) (store : Store) (item location : RecordID)
    (mode : WriteMode) : Except PyError (MutationResult × Store) := do
  match ← service.updateLocationRefusal faults store item location with
  | .inl result => return (result, store)
  | .inr previous =>
      let result (status : MutationStatus) : MutationResult :=
        { status := status, entity_id := canonicalRecordId item,
          affected_edges := if previous.isSome then 2 else 1,
          previous_state := some (locationState previous),
          resulting_state := some (locationState (canonicalRecordId location)) }
      match mode with
      | .preview => return (result .proposed, store)
      | .commit =>
          return service.commit faults store
            (service.updateLocationTransaction item location previous) (result .applied)
            (databaseRejected item (some (locationState previous)))

/-- The transaction of `_update_attributes`. -/
def updateAttributesTransaction (item : RecordID) (row properties : Fields) : List Statement :=
  [.throwIfMissing item, .throwUnlessRow item row, .merge item properties]

/-- The previous values of the named properties, `null` where there is none. -/
def previousProperties (item : RecordID) (stored : StoredRecord) (properties : Fields) : Fields :=
  properties.map fun field => (field.1, (Surreal.row item stored).getD field.1)

/-- The result of an attribute update. -/
def attributesResult (item : RecordID) (stored : StoredRecord) (properties : Fields)
    (status : MutationStatus) (nodes : Nat) : MutationResult :=
  { status := status, entity_id := canonicalRecordId item, affected_nodes := nodes,
    previous_state := some (.obj (previousProperties item stored properties)),
    resulting_state := some (.obj properties) }

/-- The decisions of `_update_attributes` before its mode is looked at, or the
record it read. -/
def updateAttributesRefusal (faults : Faults) (store : Store) (item : RecordID)
    (properties : Fields) : Except PyError (MutationResult ⊕ StoredRecord) := do
  match ← read faults 0 (store.lookup item) with
  | none => return .inl { status := .notFound, entity_id := canonicalRecordId item,
                          reason := some "ITEM_NOT_FOUND" }
  | some stored =>
      if !(properties.extra service.writable).isEmpty then
        return .inl (rejected item ⟨"ATTRIBUTE_NOT_WRITABLE", none,
          "Only declared item attributes may be updated"⟩)
      else
        match ← service.validateItemProperties properties false with
        | some error => return .inl (rejected item error)
        | none =>
            if Json.pyEq (.obj (previousProperties item stored properties)) (.obj properties) then
              return .inl (attributesResult item stored properties .noChange 0)
            else return .inr stored

/-- `_update_attributes`. -/
def updateAttributes (faults : Faults) (store : Store) (item : RecordID) (properties : Fields)
    (mode : WriteMode) : Except PyError (MutationResult × Store) := do
  match ← service.updateAttributesRefusal faults store item properties with
  | .inl result => return (result, store)
  | .inr stored =>
      match mode with
      | .preview => return (attributesResult item stored properties .proposed 1, store)
      | .commit =>
          return service.commit faults store
            (updateAttributesTransaction item (Surreal.row item stored) properties)
            (attributesResult item stored properties .applied 1)
            (databaseRejected item (some (.obj (previousProperties item stored properties))))

/-- `_delete_transaction`. -/
def deleteTransaction (item : RecordID) (relations : List String) : List Statement :=
  .throwIfMissing item ::
    (relations.map fun relation => .deleteIncident relation item) ++ [.delete item]

/-- `_delete`. -/
def delete (faults : Faults) (store : Store) (item : RecordID) (mode : WriteMode) :
    Except PyError (MutationResult × Store) := do
  let entity_id := canonicalRecordId item
  match ← read faults 0 (store.lookup item) with
  | none => return ({ status := .notFound, entity_id := entity_id,
                      reason := some "ITEM_NOT_FOUND" }, store)
  | some _ =>
      let incident ← read faults 1 (service.incidentEdges store item)
      let previous := Json.obj [("entity", .obj [("id", .str entity_id)]),
        ("incident_relationships", .obj (incident.map fun entry => (entry.1, .int entry.2)))]
      let result (status : MutationStatus) : MutationResult :=
        { status := status, entity_id := entity_id, affected_nodes := 1,
          affected_edges := (incident.map Prod.snd).sum, previous_state := some previous,
          resulting_state := some (.obj [("entity", .null), ("incident_relationships", .obj [])]) }
      match mode with
      | .preview => return (result .proposed, store)
      | .commit =>
          return service.commit faults store (deleteTransaction item (incident.map Prod.fst))
            (result .applied) (databaseRejected item (some previous))

/-- The dispatch of `mutate` on a validated request. -/
def perform (call : MutateCall) (store : Store) : Except PyError (MutationResult × Store) :=
  match call.request with
  | .create item properties location mode =>
      service.create call.faults store item.id properties location.id mode
  | .updateLocation item location mode =>
      service.updateLocation call.faults store item.id location.id mode
  | .updateAttributes item properties mode =>
      service.updateAttributes call.faults store item.id properties mode
  | .delete item mode => service.delete call.faults store item.id mode

/-- `mutate`: the result of a call and the store after it. -/
def mutate (call : MutateCall) (store : Store) : MutationResult × Store :=
  match service.perform call store with
  | .ok outcome => outcome
  | .error _ => (storageRejected call.request.item.id, store)

/-- The store after a sequence of calls. -/
def mutateAll (calls : List MutateCall) (store : Store) : Store :=
  calls.foldl (fun store call => (service.mutate call store).2) store

/-- The location edge a call writes: the one of a committed creation or move that
passes its checks and whose transaction is not refused. -/
def writesEdge (call : MutateCall) (store : Store) : Option RecordID :=
  if call.faults.transaction = .refused then none
  else match call.request with
    | .create item properties location .commit =>
        match service.createRefusal call.faults store item.id properties location.id with
        | .ok none => some (service.locationEdgeId item.id location.id)
        | _ => none
    | .updateLocation item location .commit =>
        match service.updateLocationRefusal call.faults store item.id location.id with
        | .ok (.inr _) => some (service.locationEdgeId item.id location.id)
        | _ => none
    | _ => none

end ItemWritingService
end HomeCortex
