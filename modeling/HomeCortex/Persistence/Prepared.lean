/-
# What a validated source satisfies

The inversion lemmas of `HomeCortex.Persistence.Ingestion`: what each check lets
through, and from them what `prepare` knows of the nodes and edges it returns.
Node tables and relations have pairwise different names; the records of one have
pairwise different identities of its table, each from one record of the source;
every edge joins two prepared nodes whose types the relation admits, and its
pairs and sources are as unique as its schema asks (`PreparedRelation`).
-/

import HomeCortex.Library.Checked
import HomeCortex.Persistence.Ingestion

namespace HomeCortex
namespace Ingestion

open Except

/-! ### The checks of one record -/

theorem parseRecordId_eq_ok {value path : String} {record : RecordID} :
    parseRecordId value path = .ok record ↔
      record.Valid ∧ canonicalRecordId record = value := by
  constructor
  · intro h
    rw [parseRecordId] at h
    split at h
    case h_1 parsed hparsed =>
      cases h
      exact asRecordId_ok hparsed
    case h_2 => cases h
  · rintro ⟨hvalid, rfl⟩
    rw [parseRecordId, asRecordId_canonical hvalid]

theorem nodeRecordId_eq_ok {table path : String} {record : Fields} {id : RecordID} :
    nodeRecordId table path record = .ok id ↔
      record.get? "id" = some (.str (canonicalRecordId id)) ∧ id.Valid ∧
        id.table_name = table := by
  rw [nodeRecordId]
  split
  case h_1 raw_id hraw =>
    simp only [bind_eq_ok, raiseIf_eq_ok, pure_eq_ok, parseRecordId_eq_ok, hraw]
    constructor
    · rintro ⟨id', ⟨hvalid, rfl⟩, _, htable, rfl⟩
      exact ⟨rfl, hvalid, by simpa using htable⟩
    · rintro ⟨hid, hvalid, htable⟩
      cases hid
      exact ⟨id, ⟨hvalid, rfl⟩, (), by simpa using htable, rfl⟩
  case h_2 hraw =>
    constructor
    · exact fun h => absurd h (by simp)
    · rintro ⟨hid, -⟩
      exact absurd hid (hraw _)

theorem prepareNode_eq_ok {table path : String} {seen : List PreparedNode} {raw : Fields}
    {node : PreparedNode} :
    prepareNode table path seen raw = .ok node ↔
      (raw.has "collapse" && !(raw.getD "collapse").isBool) = false ∧
        ∃ normalized, normalizeNode table path raw = .ok normalized ∧
          nodeRecordId table path normalized = .ok node.record_id ∧
          node.record_id ∉ seen.map PreparedNode.record_id ∧
          validateAddressAs normalized path table = .ok () ∧
          validatePersonRelationshipStatus normalized path table = .ok () ∧
          ∃ placed, placeSpatialFields table path normalized = .ok placed ∧
            node.content = placed.without ["id"] := by
  simp only [prepareNode, bind_eq_ok, raiseIf_eq_ok, pure_eq_ok, List.contains_eq_mem,
    decide_eq_false_iff_not]
  constructor
  · rintro ⟨_, hcollapse, normalized, hnorm, id, hid, _, hseen, _, haddress, _, hperson, placed,
      hplaced, rfl⟩
    have htable := (nodeRecordId_eq_ok.1 hid).2.2
    rw [htable] at haddress hperson hplaced
    exact ⟨hcollapse, normalized, hnorm, hid, hseen, haddress, hperson, placed, hplaced, rfl⟩
  · rintro ⟨hcollapse, normalized, hnorm, hid, hseen, haddress, hperson, placed, hplaced, hcontent⟩
    have htable := (nodeRecordId_eq_ok.1 hid).2.2
    refine ⟨(), hcollapse, normalized, hnorm, node.record_id, hid, (), hseen, (), ?_, (), ?_,
      placed, ?_, ?_⟩
    · rwa [htable]
    · rwa [htable]
    · rwa [htable]
    · rw [← hcontent]

theorem edgeEndpoints_eq_ok {record : Fields} {path : String} {raw : String × String} :
    edgeEndpoints record path = .ok raw ↔
      record.get? "from" = some (.str raw.1) ∧ record.get? "to" = some (.str raw.2) := by
  rw [edgeEndpoints]
  split
  case h_1 from' to' hfrom hto =>
    rw [hfrom, hto]
    constructor
    · intro h
      cases h
      exact ⟨rfl, rfl⟩
    · rintro ⟨h₁, h₂⟩
      cases h₁
      cases h₂
      rfl
  case h_2 hneither =>
    constructor
    · intro h
      cases h
    · rintro ⟨h₁, h₂⟩
      exact absurd h₂ (hneither _ _ h₁)

theorem validateEndpointTypes_located_in {registry : EdgeSchemaRegistry}
    {source target : RecordID} :
    validateEndpointTypes registry "located_in" source target = .ok () ↔
      Spatial.locatedInEndpointsAllowed source.table_name target.table_name = true := by
  rw [validateEndpointTypes, if_pos rfl]
  split
  case isTrue h => simp [h]
  case isFalse h => simp [h]

theorem requireKnown_eq_ok {known : List RecordID} {path role : String} {endpoint : RecordID}
    {u : Unit} : requireKnown known path role endpoint = .ok u ↔ endpoint ∈ known := by
  rw [requireKnown]
  split <;> simp_all

theorem requireUnseen_eq_ok {schema : EdgeSchema} {path : String} {seen : List PreparedEdge}
    {source target : RecordID} {u : Unit} :
    requireUnseen schema path seen source target = .ok u ↔
      edgePair schema source target ∉
          seen.map (fun edge => edgePair schema edge.source edge.target) ∧
        (schema.unique_from = true → source ∉ seen.map PreparedEdge.source) := by
  simp only [requireUnseen, bind_eq_ok, raiseIf_eq_ok, List.contains_eq_mem,
    decide_eq_false_iff_not, Bool.and_eq_false_imp, exists_const]

/-- The identity of an edge is of its relation; it is the one its record names,
or the implicit one of its endpoints. -/
theorem edgeRecordId_eq_ok {relation : String} {record : Fields} {source target : RecordID}
    {path : String} {edge : RecordID} :
    edgeRecordId relation record source target path = .ok edge ↔
      (record.getD "id" = .null ∧ edge = implicitEdgeRecordId relation source target) ∨
        (record.getD "id" = .str (canonicalRecordId edge) ∧ edge.Valid ∧
          edge.table_name = relation) := by
  rw [edgeRecordId]
  split
  case h_1 hnull =>
    rw [pure_eq_ok, hnull]
    exact ⟨fun h => Or.inl ⟨rfl, h.symm⟩, fun h => by simpa [eq_comm] using h⟩
  case h_2 raw_id hraw =>
    simp only [bind_eq_ok, raiseIf_eq_ok, pure_eq_ok, parseRecordId_eq_ok, hraw]
    constructor
    · rintro ⟨id', ⟨hvalid, rfl⟩, _, htable, rfl⟩
      exact Or.inr ⟨rfl, hvalid, by simpa using htable⟩
    · rintro (⟨h, -⟩ | ⟨h, hvalid, htable⟩)
      · cases h
      · cases h
        exact ⟨edge, ⟨hvalid, rfl⟩, (), by simpa using htable, rfl⟩
  case h_3 hnull hstr =>
    constructor
    · exact fun h => absurd h (by simp)
    · rintro (⟨h, -⟩ | ⟨h, -⟩)
      · exact absurd h hnull
      · exact absurd h (hstr _)

theorem edgeRecordId_table {relation : String} {record : Fields} {source target : RecordID}
    {path : String} {edge : RecordID}
    (h : edgeRecordId relation record source target path = .ok edge) :
    edge.table_name = relation := by
  rcases edgeRecordId_eq_ok.1 h with ⟨-, rfl⟩ | ⟨-, -, h⟩
  · rfl
  · exact h

theorem prepareEdge_eq_ok {registry : EdgeSchemaRegistry} {schema : EdgeSchema}
    {known : List RecordID} {path : String} {seen : List PreparedEdge} {raw : Fields}
    {edge : PreparedEdge} :
    prepareEdge registry schema known path seen raw = .ok edge ↔
      raw.get? "from" = some (.str (canonicalRecordId edge.source)) ∧
        raw.get? "to" = some (.str (canonicalRecordId edge.target)) ∧
        edge.source.Valid ∧ edge.target.Valid ∧
        validateHouseholdRole raw path = .ok () ∧
        validateEndpointTypes registry schema.id edge.source edge.target = .ok () ∧
        edge.source ∈ known ∧ edge.target ∈ known ∧
        validateTemporalFields raw path schema = .ok () ∧
        requireUnseen schema path seen edge.source edge.target = .ok () ∧
        edge.record_id ∉ seen.map PreparedEdge.record_id ∧ edge.relation = schema.id ∧
        ∃ placed, placePose schema.id path edge.target raw = .ok placed ∧
          edgeRecordId schema.id placed edge.source edge.target path = .ok edge.record_id ∧
          edge.content = placed.without ["id", "from", "to", "in", "out"] := by
  simp only [prepareEdge, bind_eq_ok, raiseIf_eq_ok, pure_eq_ok, List.contains_eq_mem,
    decide_eq_false_iff_not, edgeEndpoints_eq_ok, parseRecordId_eq_ok]
  constructor
  · rintro ⟨raws, ⟨hfrom, hto⟩, _, hrole, source, ⟨hsource, hs⟩, target, ⟨htarget, ht⟩, _, htypes,
      _, hknown, _, hknown', _, htemporal, placed, hplaced, _, hunseen, id, hid, _, hseen, rfl⟩
    rw [requireKnown_eq_ok] at hknown hknown'
    exact ⟨hs ▸ hfrom, ht ▸ hto, hsource, htarget, hrole, htypes, hknown, hknown', htemporal,
      hunseen, hseen, rfl, placed, hplaced, hid, rfl⟩
  · rintro ⟨hfrom, hto, hsource, htarget, hrole, htypes, hknown, hknown', htemporal, hunseen,
      hseen, hrelation, placed, hplaced, hid, hcontent⟩
    refine ⟨(_, _), ⟨hfrom, hto⟩, (), hrole, edge.source, ⟨hsource, rfl⟩, edge.target, ⟨htarget, rfl⟩,
      (), htypes, (), requireKnown_eq_ok.2 hknown, (), requireKnown_eq_ok.2 hknown', (), htemporal,
      placed, hplaced, (), hunseen, edge.record_id, hid, (), hseen, ?_⟩
    rw [← hrelation, ← hcontent]

/-! ### Tables, relations and the whole source -/

/-- The records of a table's files in order, each with the path of its file. -/
def sourceRecords (paths : List SourceFile) : Except PyError (List (String × Fields)) := do
  return (← paths.mapM fun file => do
    return (← recordsFromFile file).map fun record => (file.path, record)).flatten

/-- The nodes collected from the records of a table. -/
abbrev CollectsNodes (table : String) (raws : List (String × Fields))
    (nodes : List PreparedNode) : Prop :=
  Collects (fun seen raw => prepareNode table raw.1 seen raw.2) [] raws nodes

/-- The edges collected from the records of a relation. -/
abbrev CollectsEdges (registry : EdgeSchemaRegistry) (schema : EdgeSchema)
    (known : List RecordID) (path : String) (raws : List Fields) (edges : List PreparedEdge) :
    Prop :=
  Collects (fun seen raw => prepareEdge registry schema known path seen raw) [] raws edges

theorem collects_pairs {table path : String} {acc : List PreparedNode} {records : List Fields}
    {nodes : List PreparedNode} :
    Collects (fun seen raw => prepareNode table path seen raw) acc records nodes ↔
      Collects (fun seen (raw : String × Fields) => prepareNode table raw.1 seen raw.2) acc
        (records.map fun record => (path, record)) nodes := by
  induction records generalizing acc nodes with
  | nil =>
      constructor
      · rintro ⟨⟩
        exact .nil _
      · rintro ⟨⟩
        exact .nil _
  | cons record records ih =>
      constructor
      · rintro (_ | ⟨head, tail⟩)
        exact .cons head (ih.1 tail)
      · rintro (_ | ⟨head, tail⟩)
        exact .cons head (ih.2 tail)

theorem foldlM_files_eq_ok {table : String} {paths : List SourceFile}
    {acc out : List PreparedNode} :
    paths.foldlM (fun nodes file => do
        (← recordsFromFile file).foldlM (fun nodes record => do
          return nodes ++ [← prepareNode table file.path nodes record]) nodes) acc = .ok out ↔
      ∃ raws nodes, sourceRecords paths = .ok raws ∧ out = acc ++ nodes ∧
        Collects (fun seen (raw : String × Fields) => prepareNode table raw.1 seen raw.2) acc
          raws nodes := by
  induction paths generalizing acc with
  | nil =>
      rw [List.foldlM_nil, pure_eq_ok]
      constructor
      · rintro rfl
        exact ⟨[], [], rfl, (List.append_nil _).symm, .nil _⟩
      · rintro ⟨raws, nodes, hraws, rfl, hcollects⟩
        cases hraws
        cases hcollects
        exact (List.append_nil _).symm
  | cons file paths ih =>
      simp only [List.foldlM_cons, bind_eq_ok, Collects.foldlM_eq_ok, ih, sourceRecords,
        mapM_cons_eq_ok, pure_eq_ok]
      constructor
      · rintro ⟨acc', ⟨records, hrecords, nodes, rfl, hhead⟩, raws, nodes', ⟨rss, hrss, hraws⟩, rfl,
          htail⟩
        refine ⟨records.map (fun record => (file.path, record)) ++ raws, nodes ++ nodes',
          ⟨records.map (fun record => (file.path, record)) :: rss,
            ⟨_, rss, ⟨records, hrecords, rfl⟩, hrss, rfl⟩, by simp [hraws]⟩, by simp, ?_⟩
        exact Collects.append_iff.2 ⟨nodes, nodes', rfl, collects_pairs.1 hhead, htail⟩
      · rintro ⟨raws, nodes, ⟨rss, ⟨_, rss', ⟨records, hrecords, rfl⟩, hrss, rfl⟩, rfl⟩, rfl,
          hcollects⟩
        rw [List.flatten_cons] at hcollects
        obtain ⟨ys, ys', rfl, hhead, htail⟩ := Collects.append_iff.1 hcollects
        exact ⟨acc ++ ys, ⟨records, hrecords, ys, rfl, collects_pairs.2 hhead⟩, rss'.flatten, ys',
          ⟨rss', hrss, rfl⟩, by simp, htail⟩

theorem prepareTable_eq_ok {table : String} {paths : List SourceFile}
    {nodes : List PreparedNode} :
    prepareTable table paths = .ok nodes ↔
      ∃ raws, sourceRecords paths = .ok raws ∧ CollectsNodes table raws nodes := by
  rw [prepareTable, foldlM_files_eq_ok]
  constructor
  · rintro ⟨raws, nodes', hraws, rfl, hcollects⟩
    exact ⟨raws, hraws, by simpa using hcollects⟩
  · rintro ⟨raws, hraws, hcollects⟩
    exact ⟨raws, nodes, hraws, by simp, hcollects⟩

theorem relationSchema_eq_ok {registry : EdgeSchemaRegistry} {relation : String}
    {schema : EdgeSchema} :
    relationSchema registry relation = .ok schema ↔
      schema ∈ registry.schemas ∧ schema.id = relation := by
  rw [← EdgeSchemaRegistry.get_eq_ok, relationSchema]
  split
  case h_1 message hget => simp [hget]
  case h_2 => rfl

theorem prepareRelation_eq_ok {registry : EdgeSchemaRegistry} {known : List RecordID}
    {file : String × SourceFile} {relation : String × List PreparedEdge} :
    prepareRelation registry known file = .ok relation ↔
      ∃ schema ∈ registry.schemas, schema.id = file.1 ∧ relation.1 = file.1 ∧
        ∃ raws, recordsFromFile file.2 = .ok raws ∧
          CollectsEdges registry schema known file.2.path raws relation.2 := by
  obtain ⟨name, file⟩ := file
  obtain ⟨name', edges⟩ := relation
  simp only [prepareRelation, bind_eq_ok, raiseIf_eq_ok, Bool.not_eq_false', pure_eq_ok,
    Collects.foldlM_eq_ok, List.nil_append, relationSchema_eq_ok, exists_const, exists_eq_left']
  constructor
  · rintro ⟨-, schema, ⟨hmem, hid⟩, raws, hraws, edges', hcollects, hpair⟩
    cases hpair
    exact ⟨schema, hmem, hid, rfl, raws, hraws, hcollects⟩
  · rintro ⟨schema, hmem, rfl, rfl, raws, hraws, hcollects⟩
    exact ⟨(registry.valid schema hmem).name, schema, ⟨hmem, rfl⟩, raws, hraws, edges, hcollects,
      rfl⟩

/-- Sorting by name keeps the entries. -/
theorem mem_sortByName {α : Type} {entries : List (String × α)} {entry : String × α} :
    entry ∈ entries.insertionSort (fun a b => a.1 ≤ b.1) ↔ entry ∈ entries :=
  List.mem_insertionSort _

theorem nodup_sortByName {α : Type} {entries : List (String × α)}
    (h : (entries.map Prod.fst).Nodup) :
    ((entries.insertionSort fun a b => a.1 ≤ b.1).map Prod.fst).Nodup :=
  ((List.perm_insertionSort _ entries).map Prod.fst).nodup_iff.2 h

theorem nodeFileSource_eq_ok {entry : String × SourceFile}
    {source : String × List SourceFile} :
    nodeFileSource entry = .ok source ↔
      isTableName entry.1 = true ∧ (entry.1, [entry.2]) = source := by
  simp only [nodeFileSource, bind_eq_ok, raiseIf_eq_ok, Bool.not_eq_false', pure_eq_ok,
    exists_const]

theorem nodeShardSource_eq_ok {files : List String} {entry source : String × List SourceFile} :
    nodeShardSource files entry = .ok source ↔
      isTableName entry.1 = true ∧ (entry.2 ≠ [] → entry.1 ∉ files) ∧ entry = source := by
  simp only [nodeShardSource, bind_eq_ok, raiseIf_eq_ok, Bool.not_eq_false', pure_eq_ok,
    exists_const, Bool.and_eq_false_imp, Bool.not_eq_true', List.isEmpty_eq_false_iff,
    List.contains_eq_mem, decide_eq_false_iff_not]

/-- What `node_table_sources` gives: valid names, each once. -/
theorem nodeTableSources_ok {dir : SourceDir} {sources : List (String × List SourceFile)}
    (h : nodeTableSources dir = .ok sources) :
    (sources.map Prod.fst).Nodup ∧ ∀ source ∈ sources, isTableName source.1 = true := by
  simp only [nodeTableSources, bind_eq_ok, pure_eq_ok] at h
  obtain ⟨files, hfiles, shards, hshards, rfl⟩ := h
  have hfilesNames : files.map Prod.fst = dir.node_files.map Prod.fst :=
    List.map_eq_of_forall₂ (mapM_eq_ok.1 hfiles) fun x y hxy =>
      (nodeFileSource_eq_ok.1 hxy).2 ▸ rfl
  have hshardNames : shards.map Prod.fst = dir.node_shards.map Prod.fst :=
    List.map_eq_of_forall₂ (mapM_eq_ok.1 hshards) fun x y hxy =>
      (nodeShardSource_eq_ok.1 hxy).2.2 ▸ rfl
  constructor
  · refine nodup_sortByName ?_
    rw [List.map_append, List.nodup_append]
    refine ⟨hfilesNames ▸ dir.nodup_files, ?_, ?_⟩
    · exact (hshardNames ▸ dir.nodup_shards).sublist (List.filter_sublist.map Prod.fst)
    · rintro name hname _ hname' rfl
      obtain ⟨shard, hshard, rfl⟩ := List.mem_map.1 hname'
      obtain ⟨hmem, hne⟩ := List.mem_filter.1 hshard
      obtain ⟨entry, -, hentry⟩ := exists_of_mapM_mem hshards hmem
      obtain ⟨-, hnot, rfl⟩ := nodeShardSource_eq_ok.1 hentry
      exact hnot (by simpa using hne) hname
  · intro source hsource
    rcases List.mem_append.1 (mem_sortByName.1 hsource) with hmem | hmem
    · obtain ⟨entry, -, hentry⟩ := exists_of_mapM_mem hfiles hmem
      obtain ⟨hname, rfl⟩ := nodeFileSource_eq_ok.1 hentry
      exact hname
    · obtain ⟨entry, -, hentry⟩ := exists_of_mapM_mem hshards (List.mem_filter.1 hmem).1
      obtain ⟨hname, -, rfl⟩ := nodeShardSource_eq_ok.1 hentry
      exact hname

theorem prepare_eq_ok {registry : EdgeSchemaRegistry} {dir : SourceDir} {prepared : Prepared} :
    prepare registry dir = .ok prepared ↔
      ∃ sources, nodeTableSources dir = .ok sources ∧
        missingRelationships registry (sources.map Prod.fst)
          ((dir.edge_files.insertionSort fun a b => a.1 ≤ b.1).map Prod.fst) = [] ∧
        List.Forall₂ (fun source table => table.1 = source.1 ∧
          prepareTable source.1 source.2 = .ok table.2) sources prepared.nodes ∧
        (dir.edge_files.insertionSort fun a b => a.1 ≤ b.1).mapM (prepareRelation registry
          (prepared.nodes.flatMap fun table => table.2.map PreparedNode.record_id))
          = .ok prepared.edges := by
  have htables : ∀ (source : String × List SourceFile) (table : String × List PreparedNode),
      (do return (source.1, ← prepareTable source.1 source.2) :
        Except PyError (String × List PreparedNode)) = .ok table ↔
      table.1 = source.1 ∧ prepareTable source.1 source.2 = .ok table.2 := by
    intro source table
    simp only [bind_eq_ok, pure_eq_ok]
    constructor
    · rintro ⟨nodes, hnodes, rfl⟩
      exact ⟨rfl, hnodes⟩
    · rintro ⟨hname, hnodes⟩
      exact ⟨table.2, hnodes, by rw [← hname]⟩
  simp only [prepare, bind_eq_ok, raiseIf_eq_ok, Bool.not_eq_false', List.isEmpty_iff,
    pure_eq_ok, mapM_eq_ok, htables, exists_const]
  constructor
  · rintro ⟨sources, hsources, hmissing, nodes, hnodes, edges, hedges, rfl⟩
    exact ⟨sources, hsources, hmissing, hnodes, hedges⟩
  · rintro ⟨sources, hsources, hmissing, hnodes, hedges⟩
    exact ⟨sources, hsources, hmissing, prepared.nodes, hnodes, prepared.edges, hedges, rfl⟩

/-- The identities of all prepared nodes, `known_node_ids`. -/
def Prepared.known (prepared : Prepared) : List RecordID :=
  prepared.nodes.flatMap fun table => table.2.map PreparedNode.record_id

/-- What holds of the nodes of one table. -/
structure PreparedTable (table : String) (nodes : List PreparedNode) : Prop where
  nodup : (nodes.map PreparedNode.record_id).Nodup
  of_table : ∀ node ∈ nodes, node.record_id.table_name = table
  valid : ∀ node ∈ nodes, node.record_id.Valid

/-- What holds of the edges of one relation. -/
structure PreparedRelation (registry : EdgeSchemaRegistry) (schema : EdgeSchema)
    (known : List RecordID) (edges : List PreparedEdge) : Prop where
  nodup : (edges.map PreparedEdge.record_id).Nodup
  of_relation : ∀ edge ∈ edges, edge.record_id.table_name = schema.id
  endpoint_types : ∀ edge ∈ edges,
    validateEndpointTypes registry schema.id edge.source edge.target = .ok ()
  valid : ∀ edge ∈ edges, edge.source.Valid ∧ edge.target.Valid
  known : ∀ edge ∈ edges, edge.source ∈ known ∧ edge.target ∈ known
  nodup_pairs : (edges.map fun edge => edgePair schema edge.source edge.target).Nodup
  unique_from : schema.unique_from = true → (edges.map PreparedEdge.source).Nodup

theorem preparedTable_of_collects {table : String} {raws : List (String × Fields)}
    {nodes : List PreparedNode} (h : CollectsNodes table raws nodes) :
    PreparedTable table nodes := by
  have hid : ∀ (seen : List PreparedNode) (raw : String × Fields) node,
      prepareNode table raw.1 seen raw.2 = .ok node →
        node.record_id.Valid ∧ node.record_id.table_name = table ∧
          node.record_id ∉ seen.map PreparedNode.record_id := by
    intro seen raw node hnode
    obtain ⟨-, normalized, -, hid, hseen, -⟩ := prepareNode_eq_ok.1 hnode
    exact ⟨(nodeRecordId_eq_ok.1 hid).2.1, (nodeRecordId_eq_ok.1 hid).2.2, hseen⟩
  have hinv := h.invariant (fun nodes => PreparedTable table nodes)
    ⟨List.nodup_nil, by simp, by simp⟩ ?_
  · simpa using hinv
  · intro seen raw node hseen hnode
    obtain ⟨hvalid, htable, hnew⟩ := hid seen raw node hnode
    refine ⟨?_, ?_, ?_⟩
    · rw [List.map_append, List.map_singleton]
      exact hseen.nodup.append (List.nodup_singleton _) (by simpa using hnew)
    · simpa [or_imp, forall_and, htable] using hseen.of_table
    · simpa [or_imp, forall_and, hvalid] using hseen.valid

theorem preparedRelation_of_collects {registry : EdgeSchemaRegistry} {schema : EdgeSchema}
    {known : List RecordID} {path : String} {raws : List Fields} {edges : List PreparedEdge}
    (h : CollectsEdges registry schema known path raws edges) :
    PreparedRelation registry schema known edges := by
  have hinv := h.invariant (fun edges => PreparedRelation registry schema known edges)
    ⟨List.nodup_nil, by simp, by simp, by simp, by simp, List.nodup_nil, fun _ => List.nodup_nil⟩
    ?_
  · simpa using hinv
  · intro seen raw edge hseen hedge
    obtain ⟨-, -, hsource, htarget, -, htypes, hknown, hknown', -, hunseen, hnew, -, placed, -,
      hid, -⟩ := prepareEdge_eq_ok.1 hedge
    obtain ⟨hpair, hunique⟩ := requireUnseen_eq_ok.1 hunseen
    have htable := edgeRecordId_table hid
    refine ⟨?_, ?_, ?_, ?_, ?_, ?_, ?_⟩
    · rw [List.map_append, List.map_singleton]
      exact hseen.nodup.append (List.nodup_singleton _) (by simpa using hnew)
    · simpa [or_imp, forall_and, htable] using hseen.of_relation
    · simpa [or_imp, forall_and, htypes] using hseen.endpoint_types
    · simpa [or_imp, forall_and, hsource, htarget] using hseen.valid
    · simpa [or_imp, forall_and, hknown, hknown'] using hseen.known
    · rw [List.map_append, List.map_singleton]
      exact hseen.nodup_pairs.append (List.nodup_singleton _) (by simpa using hpair)
    · intro hschema
      rw [List.map_append, List.map_singleton]
      exact (hseen.unique_from hschema).append (List.nodup_singleton _)
        (by simpa using hunique hschema)

/-- What holds of a prepared source. -/
structure Prepared.Valid (registry : EdgeSchemaRegistry) (prepared : Prepared) : Prop where
  nodup_tables : (prepared.nodes.map Prod.fst).Nodup
  nodup_relations : (prepared.edges.map Prod.fst).Nodup
  tables : ∀ table ∈ prepared.nodes, PreparedTable table.1 table.2
  relations : ∀ relation ∈ prepared.edges, ∃ schema ∈ registry.schemas,
    schema.id = relation.1 ∧ PreparedRelation registry schema prepared.known relation.2

/-- **Validation is sound**: what it returns is a valid prepared source. -/
theorem prepared_valid {registry : EdgeSchemaRegistry} {dir : SourceDir} {prepared : Prepared}
    (h : prepare registry dir = .ok prepared) : prepared.Valid registry := by
  obtain ⟨sources, hsources, -, hnodes, hedges⟩ := prepare_eq_ok.1 h
  have hnames : prepared.nodes.map Prod.fst = sources.map Prod.fst :=
    List.map_eq_of_forall₂ hnodes fun _ _ h => h.1
  refine ⟨hnames ▸ (nodeTableSources_ok hsources).1, ?_, ?_, ?_⟩
  · have hrelations := List.map_eq_of_forall₂ (f := Prod.fst) (g := Prod.fst)
      (mapM_eq_ok.1 hedges) fun x y hxy => by
        obtain ⟨-, -, -, hname, -⟩ := prepareRelation_eq_ok.1 hxy
        exact hname
    exact hrelations ▸ nodup_sortByName dir.nodup_edges
  · intro table htable
    obtain ⟨source, -, hname, hprepared⟩ := List.exists_of_forall₂_right hnodes htable
    obtain ⟨raws, -, hcollects⟩ := prepareTable_eq_ok.1 hprepared
    exact hname ▸ preparedTable_of_collects hcollects
  · intro relation hrelation
    obtain ⟨file, -, hfile⟩ := exists_of_mapM_mem hedges hrelation
    obtain ⟨schema, hschema, hid, hname, raws, -, hcollects⟩ := prepareRelation_eq_ok.1 hfile
    exact ⟨schema, hschema, hid.trans hname.symm, preparedRelation_of_collects hcollects⟩

/-- An ingestion that returns has validated the source and written it. -/
theorem ingestDirectory_eq_ok {keep : Fields → Fields} {registry : EdgeSchemaRegistry}
    {dir : SourceDir} {store after : Store} {result : IngestionResult} :
    ingestDirectory keep registry dir store = .ok (after, result) ↔
      ∃ sources prepared, nodeTableSources dir = .ok sources ∧
        prepare registry dir = .ok prepared ∧ after = write keep prepared store ∧
        result = ingestionResult dir sources prepared := by
  simp only [ingestDirectory, bind_eq_ok, pure_eq_ok, Prod.mk.injEq]
  constructor
  · rintro ⟨sources, hsources, prepared, hprepare, rfl, rfl⟩
    exact ⟨sources, prepared, hsources, hprepare, rfl, rfl⟩
  · rintro ⟨sources, prepared, hsources, hprepare, rfl, rfl⟩
    exact ⟨sources, hsources, prepared, hprepare, rfl, rfl⟩

end Ingestion
end HomeCortex
