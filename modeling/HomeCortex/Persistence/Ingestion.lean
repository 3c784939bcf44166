/-
# Ingestion of a data directory

`persistence/ingestion.py` and `node_table_sources` of `schema_catalog.py`.  The
whole source is validated first, record by record, which leaves the prepared
nodes of every node table and the prepared edges of every relation.  Then each
node table is upserted and pruned, each relation is related and pruned, and the
retired tables are emptied.

A `SourceDir` is a data directory that has both `nodes/` and `edges/`.  The seen
sets of the loops hold canonical identities; they are read off the records
prepared so far, an identity standing for its canonical text
(`canonicalRecordId_injective`).
-/

import HomeCortex.Common.Dates
import HomeCortex.Persistence.EdgeSchema
import HomeCortex.Persistence.Surreal
import HomeCortex.Spatial.Contracts
import HomeCortex.Spatial.Embodiment

namespace HomeCortex

/-- A JSON file: its path in messages and what `json.load` makes of it. -/
structure SourceFile where
  path : String
  content : Except PyError Json

/-- A data directory.  Files and subdirectories of `nodes/` and files of `edges/`
are given by their stems, which are pairwise different in one directory. -/
structure SourceDir where
  node_files : List (String × SourceFile)
  node_shards : List (String × List SourceFile)
  edge_files : List (String × SourceFile)
  nodup_files : (node_files.map Prod.fst).Nodup
  nodup_shards : (node_shards.map Prod.fst).Nodup
  nodup_edges : (edge_files.map Prod.fst).Nodup

/-- `_RETIRED_EDGE_TABLES`. -/
def RETIRED_EDGE_TABLES : List String := ["contained_in", "resides_in"]

/-- `_RETIRED_NODE_TABLES`. -/
def RETIRED_NODE_TABLES : List String := ["location"]

/-- The names whose tables ingestion empties at the end, in this order. -/
def retiredTables : List String := RETIRED_EDGE_TABLES ++ RETIRED_NODE_TABLES

/-- `_PreparedNode`. -/
structure PreparedNode where
  record_id : RecordID
  content : Fields
deriving DecidableEq

/-- `_PreparedEdge`. -/
structure PreparedEdge where
  relation : String
  record_id : RecordID
  source : RecordID
  target : RecordID
  content : Fields
deriving DecidableEq

/-- `IngestionResult`. -/
structure IngestionResult where
  node_files : Nat
  edge_files : Nat
  nodes_upserted : Nat
  edges_upserted : Nat
deriving DecidableEq, Repr

namespace Ingestion

/-- `{value!r}` of a text without quotes. -/
def quoted (text : String) : String := "'" ++ text ++ "'"

/-- `_records_from_file`: an object or an array of objects. -/
def recordsFromFile (file : SourceFile) : Except PyError (List Fields) := do
  let records := match ← file.content with
    | .arr items => items
    | value => [value]
  match records.mapM Json.asObject? with
  | some records => return records
  | none => throw (.value (file.path ++ " must contain a JSON object or array of objects"))

/-- `_is_localized_text`: a non-empty object of non-blank texts by language. -/
def isLocalizedText : Json → Bool
  | .obj texts => !texts.isEmpty && texts.all fun entry =>
      !isBlank entry.1 && match entry.2 with
        | .str text => !isBlank text
        | _ => false
  | _ => false

/-- A list of non-blank strings, not empty. -/
def isAliasList : List Json → Bool
  | [] => false
  | names => names.all fun name => match name with
      | .str text => !isBlank text
      | _ => false

/-- `_validate_node_name`: a legacy alias list or a localized name. -/
def validateNodeName (record : Fields) (path : String) : Except PyError Unit :=
  let error := PyError.value ("Node in " ++ path ++
    " must use 'name' as a non-empty list of strings or localized object")
  match record.get? "name" with
  | none => .ok ()
  | some (.arr names) =>
      if !isAliasList names then .error error
      else if names.Nodup then .ok ()
      else .error (.value ("Node in " ++ path ++ " contains duplicate values in 'name'"))
  | some names => if isLocalizedText names then .ok () else .error error

/-- `_validate_address_as`. -/
def validateAddressAs (record : Fields) (path table : String) : Except PyError Unit :=
  match record.get? "address_as" with
  | none => .ok ()
  | some value =>
      if table ≠ "person" then
        .error (.value ("Only Person nodes may define 'address_as' in " ++ path))
      else if isLocalizedText value then .ok ()
      else .error (.value ("Person in " ++ path ++
        " must use 'address_as' as a non-empty localized object of strings"))

/-- `_validate_person_relationship_status`. -/
def validatePersonRelationshipStatus (record : Fields) (path table : String) :
    Except PyError Unit :=
  if table = "person" ∧
      (record.has "is_guest" ∨ record.get? "person_type" = some (.str "guest")) then
    .error (.value ("Guest status in " ++ path ++
      " must be stored on a household relationship, not on a Person node"))
  else .ok ()

/-- `parse_record_id`. -/
def parseRecordId (value path : String) : Except PyError RecordID :=
  match asRecordId value with
  | .ok record => .ok record
  | .error _ => .error (.value ("Invalid record ID " ++ quoted value ++ " in " ++ path ++
      "; expected table:record_id"))

/-- `implicit_edge_record_id`. -/
def implicitEdgeRecordId (relation : String) (source target : RecordID) : RecordID :=
  ⟨relation, implicitEdgeComponent source ++ "__" ++ implicitEdgeComponent target⟩

/-- `_edge_record_id`. -/
def edgeRecordId (relation : String) (record : Fields) (source target : RecordID)
    (path : String) : Except PyError RecordID := do
  match record.getD "id" with
  | .null => return implicitEdgeRecordId relation source target
  | .str raw_id =>
      let edge_id ← parseRecordId raw_id path
      raiseIf (edge_id.table_name ≠ relation)
        (.value ("Edge ID " ++ quoted raw_id ++ " in " ++ path ++ " must use the " ++
          quoted relation ++ " table"))
      return edge_id
  | _ => throw (.value ("Edge in " ++ path ++ " has a non-string 'id'"))

/-- One of the two fields of `_validate_temporal_fields`; only `end` may be null. -/
def validateTemporalField (record : Fields) (path : String) (nullable : Bool)
    (field : String) : Except PyError Unit :=
  match record.get? field with
  | none => .ok ()
  | some value =>
      if nullable && value = .null then .ok ()
      else match value with
        | .str text =>
            if (dateFromIsoformat text).isSome then .ok ()
            else .error (.value (quoted field ++ " in " ++ path ++ " must be an ISO date"))
        | _ => .error (.value (quoted field ++ " in " ++ path ++
            " must be an ISO date string or null"))

/-- `_validate_temporal_fields`. -/
def validateTemporalFields (record : Fields) (path : String) (schema : EdgeSchema) :
    Except PyError Unit := do
  let present := ["end", "start"].filter record.has
  raiseIf (!present.isEmpty && !schema.temporal)
    (.value ("Non-temporal relationship " ++ quoted schema.id ++ " in " ++ path ++
      " cannot define " ++ ", ".intercalate present))
  validateTemporalField record path false "start"
  validateTemporalField record path true "end"

/-- `_edge_pair`: the two canonical identities, sorted when the relation is symmetric. -/
def edgePair (schema : EdgeSchema) (source target : RecordID) : String × String :=
  let pair := (canonicalRecordId source, canonicalRecordId target)
  if schema.symmetric && decide (pair.2 < pair.1) then pair.swap else pair

/-- The name and embodiment checks of the node loop, and the record they leave. -/
def normalizeNode (table path : String) (record : Fields) : Except PyError Fields := do
  if table = "embodiment" then
    raiseIf (record.has "agent_id")
      (.value ("Embodiment in " ++ path ++
        " must express assignment in assigned_to.json, not agent_id"))
    raiseIf (!record.has "embodiment_type")
      (.value ("Embodiment in " ++ path ++ " requires embodiment_type"))
    return Spatial.embodimentAsMapping (← Spatial.embodimentFromMapping (.obj record))
  else
    validateNodeName record path
    return record

/-- The identity of a node record, which has to be of its table. -/
def nodeRecordId (table path : String) (record : Fields) : Except PyError RecordID := do
  match record.get? "id" with
  | some (.str raw_id) =>
      let record_id ← parseRecordId raw_id path
      raiseIf (record_id.table_name ≠ table)
        (.value ("Node ID " ++ quoted raw_id ++ " in " ++ path ++ " must use the " ++
          quoted table ++ " table"))
      return record_id
  | _ => throw (.value ("Node in " ++ path ++ " is missing a string 'id'"))

/-- The spatial fields of a node, canonical for a space and absent elsewhere. -/
def placeSpatialFields (table path : String) (record : Fields) : Except PyError Fields := do
  if table = "space" then Spatial.applySpaceSpatialFields record path
  else
    if table ≠ "embodiment" then Spatial.rejectNonSpaceSpatialFields record table path
    return record

/-- The body of the node loop, after the nodes `seen` of the same table. -/
def prepareNode (table path : String) (seen : List PreparedNode) (record : Fields) :
    Except PyError PreparedNode := do
  raiseIf (record.has "collapse" && !(record.getD "collapse").isBool)
    (.value ("Node in " ++ path ++ " must use collapse as a boolean"))
  let record ← normalizeNode table path record
  let record_id ← nodeRecordId table path record
  raiseIf ((seen.map PreparedNode.record_id).contains record_id)
    (.value ("Duplicate node ID " ++ toString record_id ++ " in " ++ path))
  validateAddressAs record path record_id.table_name
  validatePersonRelationshipStatus record path record_id.table_name
  let record ← placeSpatialFields record_id.table_name path record
  return ⟨record_id, record.without ["id"]⟩

/-- The nodes of one table, from all of its files. -/
def prepareTable (table : String) (paths : List SourceFile) :
    Except PyError (List PreparedNode) :=
  paths.foldlM (fun nodes file => do
    (← recordsFromFile file).foldlM (fun nodes record => do
      return nodes ++ [← prepareNode table file.path nodes record]) nodes) []

/-- The optional household role of an edge is a non-blank text. -/
def validateHouseholdRole (record : Fields) (path : String) : Except PyError Unit :=
  let error := PyError.value ("Edge in " ++ path ++ " has an invalid 'household_role'")
  match record.getD "household_role" with
  | .null => .ok ()
  | .str role => if isBlank role then .error error else .ok ()
  | _ => .error error

/-- The endpoint types of an edge; `located_in` has a rule of its own. -/
def validateEndpointTypes (registry : EdgeSchemaRegistry) (relation : String)
    (source target : RecordID) : Except PyError Unit :=
  if relation = "located_in" then
    if Spatial.locatedInEndpointsAllowed source.table_name target.table_name then .ok ()
    else .error (.value ("Invalid located_in endpoints: " ++ source.table_name ++ " -> " ++
      target.table_name ++ "; expected item -> address|space or space -> space"))
  else registry.validate_endpoints relation source.table_name target.table_name

/-- An endpoint names a node of the source. -/
def requireKnown (known : List RecordID) (path role : String) (endpoint : RecordID) :
    Except PyError Unit :=
  if known.contains endpoint then .ok ()
  else .error (.value ("Edge in " ++ path ++ " references unknown " ++ role ++ " node " ++
    quoted (canonicalRecordId endpoint)))

/-- The pair of an edge is new, and so is its source in a `unique_from` relation. -/
def requireUnseen (schema : EdgeSchema) (path : String) (seen : List PreparedEdge)
    (source target : RecordID) : Except PyError Unit := do
  let pairs := seen.map fun edge => edgePair schema edge.source edge.target
  raiseIf (pairs.contains (edgePair schema source target))
    (.value ("Duplicate " ++ (if schema.symmetric then "symmetric " else "") ++ schema.id ++
      " relationship in " ++ path ++ ": " ++ toString source ++ " -> " ++ toString target))
  raiseIf (schema.unique_from && (seen.map PreparedEdge.source).contains source)
    (.value ("Relationship " ++ quoted schema.id ++ " in " ++ path ++
      " allows only one target for source " ++ quoted (canonicalRecordId source)))

/-- The two endpoint texts of an edge record. -/
def edgeEndpoints (record : Fields) (path : String) : Except PyError (String × String) :=
  match record.get? "from", record.get? "to" with
  | some (.str raw_from), some (.str raw_to) => .ok (raw_from, raw_to)
  | _, _ => .error (.value ("Edge in " ++ path ++ " requires string 'from' and 'to'"))

/-- The pose of a `located_in` edge in canonical form. -/
def placePose (relation path : String) (target : RecordID) (record : Fields) :
    Except PyError Fields :=
  if relation = "located_in" then Spatial.applyLocatedInPose record target.table_name path
  else .ok record

/-- The body of the edge loop, after the edges `seen` of the same relation. -/
def prepareEdge (registry : EdgeSchemaRegistry) (schema : EdgeSchema) (known : List RecordID)
    (path : String) (seen : List PreparedEdge) (record : Fields) :
    Except PyError PreparedEdge := do
  let raw ← edgeEndpoints record path
  validateHouseholdRole record path
  let source ← parseRecordId raw.1 path
  let target ← parseRecordId raw.2 path
  validateEndpointTypes registry schema.id source target
  requireKnown known path "from" source
  requireKnown known path "to" target
  validateTemporalFields record path schema
  let record ← placePose schema.id path target record
  requireUnseen schema path seen source target
  let edge ← edgeRecordId schema.id record source target path
  raiseIf ((seen.map PreparedEdge.record_id).contains edge)
    (.value ("Duplicate edge ID " ++ toString edge ++ " in " ++ path))
  return ⟨schema.id, edge, source, target, record.without ["id", "from", "to", "in", "out"]⟩

/-- The schema of an edge file's relation. -/
def relationSchema (registry : EdgeSchemaRegistry) (relation : String) :
    Except PyError EdgeSchema :=
  match registry.get relation with
  | .error (.unknownEdgeSchema message) => .error (.value message)
  | result => result

/-- The edges of one relation. -/
def prepareRelation (registry : EdgeSchemaRegistry) (known : List RecordID)
    (file : String × SourceFile) : Except PyError (String × List PreparedEdge) := do
  let (relation, file) := file
  raiseIf (!isTableName relation)
    (.value ("Invalid relation table name derived from " ++ relation ++ ".json"))
  let schema ← relationSchema registry relation
  let edges ← (← recordsFromFile file).foldlM (fun edges record => do
    return edges ++ [← prepareEdge registry schema known file.path edges record]) []
  return (relation, edges)

/-- The table of a file of `nodes/`. -/
def nodeFileSource (entry : String × SourceFile) : Except PyError (String × List SourceFile) := do
  raiseIf (!isTableName entry.1)
    (.value ("Invalid node table name derived from " ++ entry.1 ++ ".json"))
  return (entry.1, [entry.2])

/-- The table of a subdirectory of `nodes/`, next to the tables of the files. -/
def nodeShardSource (files : List String) (entry : String × List SourceFile) :
    Except PyError (String × List SourceFile) := do
  raiseIf (!isTableName entry.1)
    (.value ("Invalid node table name derived from " ++ entry.1 ++ "/"))
  raiseIf (!entry.2.isEmpty && files.contains entry.1)
    (.value ("Node table " ++ quoted entry.1 ++ " cannot be both " ++ entry.1 ++ ".json and " ++
      entry.1 ++ "/"))
  return entry

/-- `node_table_sources`: a table is one file or a directory of shards, not both. -/
def nodeTableSources (dir : SourceDir) : Except PyError (List (String × List SourceFile)) := do
  let files ← dir.node_files.mapM nodeFileSource
  let shards ← dir.node_shards.mapM (nodeShardSource (files.map Prod.fst))
  let tables := files ++ shards.filter fun source => !source.2.isEmpty
  return tables.insertionSort fun a b => a.1 ≤ b.1

/-- A registered relation whose source types the directory has needs an edge file. -/
def missingRelationships (registry : EdgeSchemaRegistry) (tables relations : List String) :
    List String :=
  registry.relationship_names.filter fun name =>
    !relations.contains name && match registry.find? name with
      | some schema => tables.any fun table => schema.from_types.contains table
      | none => false

/-- A validated source: the prepared nodes by table and the prepared edges by relation. -/
structure Prepared where
  nodes : List (String × List PreparedNode)
  edges : List (String × List PreparedEdge)

/-- The validation half of `ingest_directory`. -/
def prepare (registry : EdgeSchemaRegistry) (dir : SourceDir) : Except PyError Prepared := do
  let node_sources ← nodeTableSources dir
  let edge_files := dir.edge_files.insertionSort fun a b => a.1 ≤ b.1
  let missing := missingRelationships registry (node_sources.map Prod.fst)
    (edge_files.map Prod.fst)
  raiseIf (!missing.isEmpty)
    (.value ("Missing relationship data files for registered schemas: " ++
      ", ".intercalate (missing.map (· ++ ".json")) ++
      "; use an empty JSON array when a relationship has no facts"))
  let nodes ← node_sources.mapM fun (table, paths) => do
    return (table, ← prepareTable table paths)
  let known := nodes.flatMap fun table => table.2.map PreparedNode.record_id
  let edges ← edge_files.mapM (prepareRelation registry known)
  return ⟨nodes, edges⟩

section Writing

variable (keep : Fields → Fields)

/-- Upsert the nodes of a table, then prune it. -/
def writeNodes (store : Store) (table : String × List PreparedNode) : Store :=
  Surreal.prune
    (table.2.foldl (fun store node => Surreal.upsert keep store node.record_id node.content) store)
    table.1 (table.2.map PreparedNode.record_id)

/-- Relate the edges of a relation, then prune it. -/
def writeEdges (store : Store) (relation : String × List PreparedEdge) : Store :=
  Surreal.prune
    (relation.2.foldl (fun store edge =>
      Surreal.relate keep store edge.record_id edge.source edge.target edge.content) store)
    relation.1 (relation.2.map PreparedEdge.record_id)

/-- Empty the retired tables. -/
def pruneRetired (store : Store) : Store :=
  retiredTables.foldl (fun store table => Surreal.prune store table []) store

/-- The writing half of `ingest_directory`. -/
def write (prepared : Prepared) (store : Store) : Store :=
  pruneRetired (prepared.edges.foldl (writeEdges keep)
    (prepared.nodes.foldl (writeNodes keep) store))

/-- The counts that `ingest_directory` returns. -/
def ingestionResult (dir : SourceDir) (sources : List (String × List SourceFile))
    (prepared : Prepared) : IngestionResult where
  node_files := (sources.map fun source => source.2.length).sum
  edge_files := dir.edge_files.length
  nodes_upserted := (prepared.nodes.map fun table => table.2.length).sum
  edges_upserted := (prepared.edges.map fun relation => relation.2.length).sum

/-- `ingest_directory`: the store it leaves and the counts it returns. -/
def ingestDirectory (registry : EdgeSchemaRegistry) (dir : SourceDir) (store : Store) :
    Except PyError (Store × IngestionResult) := do
  let sources ← nodeTableSources dir
  let prepared ← prepare registry dir
  return (write keep prepared store, ingestionResult dir sources prepared)

end Writing

end Ingestion
end HomeCortex
