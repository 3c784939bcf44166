/-
# Ingestion mirrors its source

Whatever the database held before, a directory that `ingest_directory` accepts
should afterwards be what its tables hold (`Mirrors`): each node table and each
relation of the source has exactly the records of its files, the edges join
existing nodes and are as unique as their schemas ask, the other tables are
untouched, and a second ingestion changes nothing.

The writing half is a run of group replacements (`write_eq_foldl`), so each
table has what was written to it last.  Two kinds of names are written twice: a
name that is both a node table and a relation, whose nodes the pruning of the
relation deletes, and a retired name, which is emptied at the end.  The mirror
holds exactly when the files of those names have no records
(`ingestDirectory_mirrors_iff`).
-/

import HomeCortex.Persistence.Prepared
import HomeCortex.Spatial.Canonical

namespace HomeCortex
namespace Ingestion

open Except

/-! ### What a source says its tables hold -/

/-- The record `id` with `content` is the node that the object `raw` of a file of
`table` describes: the id it names, and its other fields in canonical form. -/
structure DescribesNode (table path : String) (raw : Fields) (id : RecordID)
    (content : Fields) : Prop where
  id_text : raw.get? "id" = some (.str (canonicalRecordId id))
  valid : id.Valid
  of_table : id.table_name = table
  canonical : ∃ normalized placed, normalizeNode table path raw = .ok normalized ∧
    placeSpatialFields table path normalized = .ok placed ∧ content = placed.without ["id"]

/-- The edge `id` from `source` to `target` with `content` is the one that the
object `raw` of the file of `relation` describes. -/
structure DescribesEdge (relation path : String) (raw : Fields) (id source target : RecordID)
    (content : Fields) : Prop where
  from_text : raw.get? "from" = some (.str (canonicalRecordId source))
  to_text : raw.get? "to" = some (.str (canonicalRecordId target))
  valid : source.Valid ∧ target.Valid
  of_relation : id.table_name = relation
  id_text : raw.getD "id" = .str (canonicalRecordId id) ∨
    raw.getD "id" = .null ∧ id = implicitEdgeRecordId relation source target
  canonical : ∃ placed, placePose relation path target raw = .ok placed ∧
    content = placed.without ["id", "from", "to", "in", "out"]

/-- What ingestion should leave of a source in a database that held `before`. -/
structure Mirrors (keep : Fields → Fields) (registry : EdgeSchemaRegistry) (dir : SourceDir)
    (before after : Store) : Prop where
  nodes : ∀ sources, nodeTableSources dir = .ok sources → ∀ source ∈ sources, ∃ raws,
    sourceRecords source.2 = .ok raws ∧ ∀ id stored, id.table_name = source.1 →
      (after.lookup id = some stored ↔ ∃ raw ∈ raws, ∃ content,
        DescribesNode source.1 raw.1 raw.2 id content ∧ stored = ⟨none, keep content⟩)
  edges : ∀ file ∈ dir.edge_files, ∃ raws, recordsFromFile file.2 = .ok raws ∧
    ∀ id stored, id.table_name = file.1 →
      (after.lookup id = some stored ↔ ∃ raw ∈ raws, ∃ source target content,
        DescribesEdge file.1 file.2.path raw id source target content ∧
          stored = ⟨some (source, target), keep content⟩)
  joins : ∀ file ∈ dir.edge_files, ∀ id stored, id.table_name = file.1 →
    after.lookup id = some stored → ∃ source target, stored.endpoints = some (source, target) ∧
      (∃ content, after.lookup source = some ⟨none, content⟩) ∧
      ∃ content, after.lookup target = some ⟨none, content⟩
  pairs : ∀ file ∈ dir.edge_files, ∀ schema, registry.get file.1 = .ok schema →
    ∀ id id' source target source' target' content content',
      id.table_name = file.1 → id'.table_name = file.1 →
      after.lookup id = some ⟨some (source, target), content⟩ →
      after.lookup id' = some ⟨some (source', target'), content'⟩ →
      (source = source' ∧ target = target' ∨
        schema.symmetric = true ∧ source = target' ∧ target = source') → id = id'
  unique_from : ∀ file ∈ dir.edge_files, ∀ schema, registry.get file.1 = .ok schema →
    schema.unique_from = true → ∀ id id' source target target' content content',
      id.table_name = file.1 → id'.table_name = file.1 →
      after.lookup id = some ⟨some (source, target), content⟩ →
      after.lookup id' = some ⟨some (source, target'), content'⟩ → id = id'
  others : ∀ sources, nodeTableSources dir = .ok sources → ∀ id : RecordID,
    id.table_name ∉ sources.map Prod.fst → id.table_name ∉ dir.edge_files.map Prod.fst →
      id.table_name ∉ retiredTables → after.lookup id = before.lookup id
  again : ∃ after' result, ingestDirectory keep registry dir after = .ok (after', result) ∧
    after'.Same after

/-- No name is written twice: the files of a name that is retired, or that is both
a node table and a relation, have no records. -/
structure SourceDir.NamesApart (dir : SourceDir) : Prop where
  nodes : ∀ sources, nodeTableSources dir = .ok sources → ∀ source ∈ sources,
    source.1 ∈ retiredTables ++ dir.edge_files.map Prod.fst → sourceRecords source.2 = .ok []
  edges : ∀ sources, nodeTableSources dir = .ok sources → ∀ file ∈ dir.edge_files,
    file.1 ∈ retiredTables ++ sources.map Prod.fst → recordsFromFile file.2 = .ok []

/-! ### The writing half as group replacements -/

section Writing

variable (keep : Fields → Fields)

/-- What is stored of a prepared node. -/
def nodeEntry (node : PreparedNode) : RecordID × StoredRecord :=
  (node.record_id, ⟨none, keep node.content⟩)

/-- What is stored of a prepared edge. -/
def edgeEntry (edge : PreparedEdge) : RecordID × StoredRecord :=
  (edge.record_id, ⟨some (edge.source, edge.target), keep edge.content⟩)

/-- Every table that is written, in order, with the records written to it. -/
def tableWrites (prepared : Prepared) : List (String × List (RecordID × StoredRecord)) :=
  prepared.nodes.map (fun table => (table.1, table.2.map (nodeEntry keep))) ++
    prepared.edges.map (fun relation => (relation.1, relation.2.map (edgeEntry keep))) ++
    retiredTables.map fun table => (table, [])

theorem write_eq_foldl (prepared : Prepared) (store : Store) :
    write keep prepared store =
      (tableWrites keep prepared).foldl (AList.replaceGroup RecordID.table_name) store := by
  have hnodes : writeNodes keep = fun store table =>
      store.replaceGroup RecordID.table_name (table.1, table.2.map (nodeEntry keep)) := by
    funext store table
    rw [writeNodes, AList.replaceGroup, AList.insertAll, List.foldl_map, List.map_map]
    rfl
  have hedges : writeEdges keep = fun store relation =>
      store.replaceGroup RecordID.table_name (relation.1, relation.2.map (edgeEntry keep)) := by
    funext store relation
    rw [writeEdges, AList.replaceGroup, AList.insertAll, List.foldl_map, List.map_map]
    rfl
  rw [write, pruneRetired, tableWrites, List.foldl_append, List.foldl_append, List.foldl_map,
    List.foldl_map, List.foldl_map, hnodes, hedges]
  rfl

end Writing

variable {keep : Fields → Fields} {registry : EdgeSchemaRegistry} {prepared : Prepared}
  {store : Store}

theorem mem_tableWrites {w : String × List (RecordID × StoredRecord)} :
    w ∈ tableWrites keep prepared ↔
      (∃ table ∈ prepared.nodes, (table.1, table.2.map (nodeEntry keep)) = w) ∨
        (∃ relation ∈ prepared.edges, (relation.1, relation.2.map (edgeEntry keep)) = w) ∨
        ∃ table ∈ retiredTables, (table, []) = w := by
  rw [tableWrites, List.mem_append, List.mem_append, List.mem_map, List.mem_map, List.mem_map,
    or_assoc]

/-- Every write is of pairwise different records of its table. -/
theorem tableWrites_entries (h : prepared.Valid registry)
    {w : String × List (RecordID × StoredRecord)} (hw : w ∈ tableWrites keep prepared) :
    (w.2.map Prod.fst).Nodup ∧ ∀ e ∈ w.2, e.1.table_name = w.1 := by
  rcases mem_tableWrites.1 hw with ⟨table, htable, rfl⟩ | ⟨relation, hrelation, rfl⟩ |
    ⟨table, -, rfl⟩
  · have hprepared := h.tables table htable
    refine ⟨?_, fun e he => ?_⟩
    · rw [List.map_map]
      exact hprepared.nodup
    · obtain ⟨node, hnode, rfl⟩ := List.mem_map.1 he
      exact hprepared.of_table node hnode
  · obtain ⟨schema, -, hid, hprepared⟩ := h.relations relation hrelation
    refine ⟨?_, fun e he => ?_⟩
    · rw [List.map_map]
      exact hprepared.nodup
    · obtain ⟨edge, hedge, rfl⟩ := List.mem_map.1 he
      exact (hprepared.of_relation edge hedge).trans hid
  · exact ⟨List.nodup_nil, fun e he => absurd he List.not_mem_nil⟩

/-- Each table has what was written to it last. -/
theorem lookup_write (h : prepared.Valid registry) (id : RecordID) :
    (write keep prepared store).lookup id =
      ((tableWrites keep prepared).reverse.lookup id.table_name).elim (store.lookup id)
        fun entries => entries.lookup id := by
  rw [write_eq_foldl]
  exact AList.lookup_foldl_replaceGroup (fun w hw => (tableWrites_entries h hw).1)
    fun w hw => (tableWrites_entries h hw).2

theorem reverse_tableWrites :
    (tableWrites keep prepared).reverse =
      (retiredTables.map fun table => (table, [])).reverse ++
        ((prepared.edges.map fun relation => (relation.1, relation.2.map (edgeEntry keep))).reverse ++
        (prepared.nodes.map fun table => (table.1, table.2.map (nodeEntry keep))).reverse) := by
  rw [tableWrites, List.reverse_append, List.reverse_append]

/-- A retired table is empty. -/
theorem lookup_write_retired (h : prepared.Valid registry) {id : RecordID}
    (hid : id.table_name ∈ retiredTables) : (write keep prepared store).lookup id = none := by
  have hlast : ((retiredTables.map fun table =>
      (table, ([] : List (RecordID × StoredRecord)))).reverse).lookup id.table_name = some [] :=
    AList.lookup_eq_some_of_mem (by decide) (by simpa using hid)
  rw [lookup_write h, reverse_tableWrites, List.lookup_append, hlast]
  rfl

theorem lookup_retired_none {name : String} (h : name ∉ retiredTables) :
    ((retiredTables.map fun table =>
      (table, ([] : List (RecordID × StoredRecord)))).reverse).lookup name = none :=
  AList.lookup_eq_none_of_not_mem (by simpa using h)

/-- A relation of the source, unless retired, has exactly its edges. -/
theorem lookup_write_edge (h : prepared.Valid registry) {id : RecordID}
    {relation : String × List PreparedEdge} (hrelation : relation ∈ prepared.edges)
    (hid : id.table_name = relation.1) (hretired : relation.1 ∉ retiredTables)
    {stored : StoredRecord} :
    (write keep prepared store).lookup id = some stored ↔
      ∃ edge ∈ relation.2, edgeEntry keep edge = (id, stored) := by
  have hlast : ((prepared.edges.map fun relation =>
      (relation.1, relation.2.map (edgeEntry keep))).reverse).lookup relation.1
        = some (relation.2.map (edgeEntry keep)) := by
    refine AList.lookup_eq_some_of_mem ?_ ?_
    · rw [List.map_reverse, List.nodup_reverse, List.map_map]
      exact h.nodup_relations
    · rw [List.mem_reverse]
      exact List.mem_map.2 ⟨relation, hrelation, rfl⟩
  have hnodup : ((relation.2.map (edgeEntry keep)).map Prod.fst).Nodup :=
    (tableWrites_entries h (mem_tableWrites.2 (Or.inr (Or.inl ⟨relation, hrelation, rfl⟩)))).1
  rw [lookup_write h, reverse_tableWrites, List.lookup_append, List.lookup_append, hid, hlast,
    lookup_retired_none hretired]
  constructor
  · exact fun hlookup => List.mem_map.1 (AList.mem_of_lookup_eq_some hlookup)
  · rintro hedge
    exact AList.lookup_eq_some_of_mem hnodup (List.mem_map.2 hedge)

theorem lookup_edges_none {name : String} (h : name ∉ prepared.edges.map Prod.fst) :
    ((prepared.edges.map fun relation =>
      (relation.1, relation.2.map (edgeEntry keep))).reverse).lookup name = none := by
  refine AList.lookup_eq_none_of_not_mem ?_
  rwa [List.map_reverse, List.mem_reverse, List.map_map]

/-- A node table of the source has exactly its nodes, unless it is retired or a
relation too. -/
theorem lookup_write_node (h : prepared.Valid registry) {id : RecordID}
    {table : String × List PreparedNode} (htable : table ∈ prepared.nodes)
    (hid : id.table_name = table.1) (hretired : table.1 ∉ retiredTables)
    (hrelation : table.1 ∉ prepared.edges.map Prod.fst) {stored : StoredRecord} :
    (write keep prepared store).lookup id = some stored ↔
      ∃ node ∈ table.2, nodeEntry keep node = (id, stored) := by
  have hlast : ((prepared.nodes.map fun table =>
      (table.1, table.2.map (nodeEntry keep))).reverse).lookup table.1
        = some (table.2.map (nodeEntry keep)) := by
    refine AList.lookup_eq_some_of_mem ?_ ?_
    · rw [List.map_reverse, List.nodup_reverse, List.map_map]
      exact h.nodup_tables
    · rw [List.mem_reverse]
      exact List.mem_map.2 ⟨table, htable, rfl⟩
  have hnodup : ((table.2.map (nodeEntry keep)).map Prod.fst).Nodup :=
    (tableWrites_entries h (mem_tableWrites.2 (Or.inl ⟨table, htable, rfl⟩))).1
  rw [lookup_write h, reverse_tableWrites, List.lookup_append, List.lookup_append, hid, hlast,
    lookup_edges_none hrelation, lookup_retired_none hretired]
  constructor
  · exact fun hlookup => List.mem_map.1 (AList.mem_of_lookup_eq_some hlookup)
  · rintro hnode
    exact AList.lookup_eq_some_of_mem hnodup (List.mem_map.2 hnode)

/-- A table that is neither of the source nor retired is unchanged. -/
theorem lookup_write_other (h : prepared.Valid registry) {id : RecordID}
    (hnodes : id.table_name ∉ prepared.nodes.map Prod.fst)
    (hedges : id.table_name ∉ prepared.edges.map Prod.fst)
    (hretired : id.table_name ∉ retiredTables) :
    (write keep prepared store).lookup id = store.lookup id := by
  have hlast : ((prepared.nodes.map fun table =>
      (table.1, table.2.map (nodeEntry keep))).reverse).lookup id.table_name = none := by
    refine AList.lookup_eq_none_of_not_mem ?_
    rwa [List.map_reverse, List.mem_reverse, List.map_map]
  rw [lookup_write h, reverse_tableWrites, List.lookup_append, List.lookup_append, hlast,
    lookup_edges_none hedges, lookup_retired_none hretired]
  rfl

/-- Writing the same source again changes nothing. -/
theorem write_again (h : prepared.Valid registry) :
    (write keep prepared (write keep prepared store)).Same (write keep prepared store) := by
  intro id
  rw [lookup_write h, lookup_write h]
  cases (tableWrites keep prepared).reverse.lookup id.table_name <;> rfl

/-! ### Prepared records and the source objects they come from -/

theorem normalizeNode_id {table path : String} {raw normalized : Fields}
    (h : normalizeNode table path raw = .ok normalized) : normalized.get? "id" = raw.get? "id" := by
  rw [normalizeNode] at h
  split at h
  case isTrue =>
    simp only [bind_eq_ok, raiseIf_eq_ok, pure_eq_ok] at h
    obtain ⟨-, -, -, -, embodiment, hembodiment, rfl⟩ := h
    rw [Spatial.embodimentAsMapping_id, Spatial.embodimentFromMapping_id hembodiment]
  case isFalse =>
    simp only [bind_eq_ok, pure_eq_ok] at h
    obtain ⟨-, -, rfl⟩ := h
    rfl

theorem describesNode_of_prepareNode {table path : String} {seen : List PreparedNode}
    {raw : Fields} {node : PreparedNode} (h : prepareNode table path seen raw = .ok node) :
    DescribesNode table path raw node.record_id node.content := by
  obtain ⟨-, normalized, hnorm, hid, -, -, -, placed, hplaced, hcontent⟩ := prepareNode_eq_ok.1 h
  obtain ⟨htext, hvalid, htable⟩ := nodeRecordId_eq_ok.1 hid
  exact ⟨normalizeNode_id hnorm ▸ htext, hvalid, htable, normalized, placed, hnorm, hplaced,
    hcontent⟩

theorem DescribesNode.unique {table path : String} {raw : Fields} {id id' : RecordID}
    {content content' : Fields} (h : DescribesNode table path raw id content)
    (h' : DescribesNode table path raw id' content') : id = id' ∧ content = content' := by
  obtain ⟨normalized, placed, hnorm, hplaced, rfl⟩ := h.canonical
  obtain ⟨normalized', placed', hnorm', hplaced', rfl⟩ := h'.canonical
  have htext : canonicalRecordId id = canonicalRecordId id' := by
    simpa using h.id_text.symm.trans h'.id_text
  rw [hnorm] at hnorm'
  cases hnorm'
  rw [hplaced] at hplaced'
  cases hplaced'
  exact ⟨canonicalRecordId_injective h.valid h'.valid htext, rfl⟩

/-- A pose leaves the explicit identity of an edge alone. -/
theorem placePose_id {relation path : String} {target : RecordID} {raw placed : Fields}
    (h : placePose relation path target raw = .ok placed) :
    placed.getD "id" = raw.getD "id" := by
  rw [placePose] at h
  split at h
  case isTrue =>
    rw [Fields.getD, Fields.getD, Spatial.applyLocatedInPose_get? h (by decide)]
  case isFalse =>
    cases h
    rfl

theorem describesEdge_of_prepareEdge {registry : EdgeSchemaRegistry} {schema : EdgeSchema}
    {known : List RecordID} {path : String} {seen : List PreparedEdge} {raw : Fields}
    {edge : PreparedEdge} (h : prepareEdge registry schema known path seen raw = .ok edge) :
    DescribesEdge schema.id path raw edge.record_id edge.source edge.target edge.content := by
  obtain ⟨hfrom, hto, hsource, htarget, -, -, -, -, -, -, -, -, placed, hplaced, hid, hcontent⟩ :=
    prepareEdge_eq_ok.1 h
  have hraw := placePose_id hplaced
  refine ⟨hfrom, hto, ⟨hsource, htarget⟩, edgeRecordId_table hid, ?_, placed, hplaced, hcontent⟩
  rw [← hraw]
  rcases edgeRecordId_eq_ok.1 hid with h | ⟨h, -, -⟩
  · exact Or.inr h
  · exact Or.inl h

theorem DescribesEdge.unique {relation path : String} {raw : Fields}
    {id source target id' source' target' : RecordID} {content content' : Fields}
    (h : DescribesEdge relation path raw id source target content)
    (h' : DescribesEdge relation path raw id' source' target' content') :
    id = id' ∧ source = source' ∧ target = target' ∧ content = content' := by
  have hsource : source = source' := canonicalRecordId_injective h.valid.1 h'.valid.1
    (by simpa using h.from_text.symm.trans h'.from_text)
  have htarget : target = target' := canonicalRecordId_injective h.valid.2 h'.valid.2
    (by simpa using h.to_text.symm.trans h'.to_text)
  subst hsource htarget
  obtain ⟨placed, hplaced, rfl⟩ := h.canonical
  obtain ⟨placed', hplaced', rfl⟩ := h'.canonical
  rw [hplaced] at hplaced'
  cases hplaced'
  refine ⟨?_, rfl, rfl, rfl⟩
  rcases h.id_text with htext | ⟨hnull, rfl⟩
  · rcases h'.id_text with htext' | ⟨hnull', -⟩
    · refine canonicalRecordId_inj_of_table (h.of_relation.trans h'.of_relation.symm) ?_
      simpa using htext.symm.trans htext'
    · rw [htext] at hnull'
      cases hnull'
  · rcases h'.id_text with htext' | ⟨-, rfl⟩
    · rw [hnull] at htext'
      cases htext'
    · rfl

/-- The nodes prepared from a table's records are the ones the records describe. -/
theorem exists_nodeEntry_iff {table : String} {raws : List (String × Fields)}
    {nodes : List PreparedNode} (h : CollectsNodes table raws nodes) {id : RecordID}
    {stored : StoredRecord} :
    (∃ node ∈ nodes, nodeEntry keep node = (id, stored)) ↔
      ∃ raw ∈ raws, ∃ content, DescribesNode table raw.1 raw.2 id content ∧
        stored = ⟨none, keep content⟩ := by
  have hboth : List.Forall₂ (fun (raw : String × Fields) node =>
      DescribesNode table raw.1 raw.2 node.record_id node.content) raws nodes :=
    h.forall₂ fun _ _ _ => describesNode_of_prepareNode
  constructor
  · rintro ⟨node, hnode, hentry⟩
    cases hentry
    obtain ⟨raw, hraw, hdescribes⟩ := List.exists_of_forall₂_right hboth hnode
    exact ⟨raw, hraw, node.content, hdescribes, rfl⟩
  · rintro ⟨raw, hraw, content, hdescribes, rfl⟩
    obtain ⟨node, hnode, hnode'⟩ := List.exists_of_forall₂_left hboth hraw
    obtain ⟨rfl, rfl⟩ := hdescribes.unique hnode'
    exact ⟨node, hnode, rfl⟩

/-- The edges prepared from a relation's records are the ones the records describe. -/
theorem exists_edgeEntry_iff {schema : EdgeSchema} {known : List RecordID} {path : String}
    {raws : List Fields} {edges : List PreparedEdge}
    (h : CollectsEdges registry schema known path raws edges) {id : RecordID}
    {stored : StoredRecord} :
    (∃ edge ∈ edges, edgeEntry keep edge = (id, stored)) ↔
      ∃ raw ∈ raws, ∃ source target content,
        DescribesEdge schema.id path raw id source target content ∧
          stored = ⟨some (source, target), keep content⟩ := by
  have hboth : List.Forall₂ (fun raw edge => DescribesEdge schema.id path raw
      edge.record_id edge.source edge.target edge.content) raws edges :=
    h.forall₂ fun _ _ _ => describesEdge_of_prepareEdge
  constructor
  · rintro ⟨edge, hedge, hentry⟩
    cases hentry
    obtain ⟨raw, hraw, hdescribes⟩ := List.exists_of_forall₂_right hboth hedge
    exact ⟨raw, hraw, edge.source, edge.target, edge.content, hdescribes, rfl⟩
  · rintro ⟨raw, hraw, source, target, content, hdescribes, rfl⟩
    obtain ⟨edge, hedge, hedge'⟩ := List.exists_of_forall₂_left hboth hraw
    obtain ⟨rfl, rfl, rfl, rfl⟩ := hdescribes.unique hedge'
    exact ⟨edge, hedge, rfl⟩

/-! ### The mirror -/

section Source

variable {dir : SourceDir} {sources : List (String × List SourceFile)}
  (hsources : nodeTableSources dir = .ok sources) (hprepare : prepare registry dir = .ok prepared)

include hsources hprepare in
/-- A node table of the source has its prepared nodes. -/
theorem exists_table {source : String × List SourceFile} (h : source ∈ sources) :
    ∃ table ∈ prepared.nodes, table.1 = source.1 ∧
      ∃ raws, sourceRecords source.2 = .ok raws ∧ CollectsNodes source.1 raws table.2 := by
  obtain ⟨sources', hsources', -, hnodes, -⟩ := prepare_eq_ok.1 hprepare
  cases hsources.symm.trans hsources'
  obtain ⟨table, htable, hname, hprepared⟩ := List.exists_of_forall₂_left hnodes h
  exact ⟨table, htable, hname, prepareTable_eq_ok.1 hprepared⟩

include hsources hprepare in
theorem exists_source {table : String × List PreparedNode} (h : table ∈ prepared.nodes) :
    ∃ source ∈ sources, table.1 = source.1 ∧
      ∃ raws, sourceRecords source.2 = .ok raws ∧ CollectsNodes source.1 raws table.2 := by
  obtain ⟨sources', hsources', -, hnodes, -⟩ := prepare_eq_ok.1 hprepare
  cases hsources.symm.trans hsources'
  obtain ⟨source, hsource, hname, hprepared⟩ := List.exists_of_forall₂_right hnodes h
  exact ⟨source, hsource, hname, prepareTable_eq_ok.1 hprepared⟩

include hsources hprepare in
theorem tables_map_fst : prepared.nodes.map Prod.fst = sources.map Prod.fst := by
  obtain ⟨sources', hsources', -, hnodes, -⟩ := prepare_eq_ok.1 hprepare
  cases hsources.symm.trans hsources'
  exact List.map_eq_of_forall₂ hnodes fun _ _ h => h.1

include hprepare in
/-- A relation of the source has its prepared edges. -/
theorem exists_relation {file : String × SourceFile} (h : file ∈ dir.edge_files) :
    ∃ relation ∈ prepared.edges, relation.1 = file.1 ∧
      ∃ schema ∈ registry.schemas, schema.id = file.1 ∧
        ∃ raws, recordsFromFile file.2 = .ok raws ∧
          CollectsEdges registry schema prepared.known file.2.path raws relation.2 := by
  obtain ⟨_, -, -, -, hedges⟩ := prepare_eq_ok.1 hprepare
  obtain ⟨relation, hrelation, hfile⟩ := exists_of_mem_mapM hedges (mem_sortByName.2 h)
  obtain ⟨schema, hschema, hid, hname, hraws⟩ := prepareRelation_eq_ok.1 hfile
  exact ⟨relation, hrelation, hname, schema, hschema, hid, hraws⟩

include hprepare in
theorem relations_map_fst :
    ∀ name, name ∈ prepared.edges.map Prod.fst ↔ name ∈ dir.edge_files.map Prod.fst := by
  obtain ⟨_, -, -, -, hedges⟩ := prepare_eq_ok.1 hprepare
  have hnames := List.map_eq_of_forall₂ (f := Prod.fst) (g := Prod.fst) (mapM_eq_ok.1 hedges)
    fun x y hxy => by
      obtain ⟨-, -, -, hname, -⟩ := prepareRelation_eq_ok.1 hxy
      exact hname
  intro name
  rw [hnames]
  exact ((List.perm_insertionSort _ dir.edge_files).map Prod.fst).mem_iff

include hprepare in
/-- A relation of the prepared source comes from one of the edge files. -/
theorem exists_file {name : String} (h : name ∈ prepared.edges.map Prod.fst) :
    ∃ file ∈ dir.edge_files, file.1 = name := by
  simpa using (relations_map_fst hprepare name).1 h

include hsources hprepare in
/-- A prepared node that is still there: its table is written once. -/
theorem lookup_known (happart : SourceDir.NamesApart dir) {id : RecordID}
    (h : id ∈ prepared.known) :
    ∃ content, (write keep prepared store).lookup id = some ⟨none, content⟩ := by
  have hvalid := prepared_valid hprepare
  rw [Prepared.known, List.mem_flatMap] at h
  obtain ⟨table, htable, hmem⟩ := h
  obtain ⟨node, hnode, rfl⟩ := List.mem_map.1 hmem
  obtain ⟨source, hsource, hname, raws, hraws, hcollects⟩ :=
    exists_source hsources hprepare htable
  have hid := (hvalid.tables table htable).of_table node hnode
  have hapart : source.1 ∉ retiredTables ++ dir.edge_files.map Prod.fst := by
    intro hwritten
    rw [happart.nodes sources hsources source hsource hwritten] at hraws
    cases hraws
    rw [hcollects.eq_nil_iff.1 rfl] at hnode
    exact List.not_mem_nil hnode
  rw [List.mem_append, not_or, ← relations_map_fst hprepare, ← hname] at hapart
  exact ⟨_, (lookup_write_node hvalid htable hid hapart.1 hapart.2).2 ⟨node, hnode, rfl⟩⟩

theorem edgePair_swap {schema : EdgeSchema} (h : schema.symmetric = true) (a b : RecordID) :
    edgePair schema a b = edgePair schema b a := by
  simp only [edgePair, h, Bool.true_and, decide_eq_true_eq]
  rcases lt_trichotomy (canonicalRecordId a) (canonicalRecordId b) with hlt | heq | hgt
  · rw [if_neg (lt_asymm hlt), if_pos hlt]
    rfl
  · rw [heq]
  · rw [if_pos hgt, if_neg (lt_asymm hgt)]
    rfl

include hprepare in
/-- A record of a relation's table is one of its prepared edges. -/
theorem exists_edge_of_lookup {file : String × SourceFile} (hfile : file ∈ dir.edge_files)
    {id : RecordID} (hid : id.table_name = file.1) {stored : StoredRecord}
    (hlookup : (write keep prepared store).lookup id = some stored) :
    ∃ schema, registry.get file.1 = .ok schema ∧ ∃ relation ∈ prepared.edges,
      relation.1 = file.1 ∧ PreparedRelation registry schema prepared.known relation.2 ∧
      ∃ edge ∈ relation.2, edgeEntry keep edge = (id, stored) := by
  have hvalid := prepared_valid hprepare
  obtain ⟨relation, hmem, hrname, schema, hschema, hname, raws, -, hcollects⟩ :=
    exists_relation hprepare hfile
  have hretired : relation.1 ∉ retiredTables := by
    intro hretired
    rw [lookup_write_retired hvalid (hid ▸ hrname ▸ hretired)] at hlookup
    cases hlookup
  exact ⟨schema, EdgeSchemaRegistry.get_eq_ok.2 ⟨hschema, hname⟩, relation, hmem, hrname,
    preparedRelation_of_collects hcollects,
    (lookup_write_edge hvalid hmem (hid.trans hrname.symm) hretired).1 hlookup⟩

include hprepare in
/-- Two records of a relation's table are two of its prepared edges. -/
theorem exists_edges_of_lookup {file : String × SourceFile} (hfile : file ∈ dir.edge_files)
    {schema : EdgeSchema} (hschema : registry.get file.1 = .ok schema) {id id' : RecordID}
    (hid : id.table_name = file.1) (hid' : id'.table_name = file.1) {stored stored' : StoredRecord}
    (hlookup : (write keep prepared store).lookup id = some stored)
    (hlookup' : (write keep prepared store).lookup id' = some stored') :
    ∃ edges, ∃ edge ∈ edges, ∃ edge' ∈ edges,
      PreparedRelation registry schema prepared.known edges ∧
      edgeEntry keep edge = (id, stored) ∧ edgeEntry keep edge' = (id', stored') := by
  obtain ⟨schema', hschema', relation, hmem, hname, hprepared, edge, hedge, hentry⟩ :=
    exists_edge_of_lookup hprepare hfile hid hlookup
  obtain ⟨-, -, relation', hmem', hname', -, edge', hedge', hentry'⟩ :=
    exists_edge_of_lookup hprepare hfile hid' hlookup'
  cases hschema.symm.trans hschema'
  cases List.inj_on_of_nodup_map (prepared_valid hprepare).nodup_relations hmem hmem'
    (hname.trans hname'.symm)
  exact ⟨relation.2, edge, hedge, edge', hedge', hprepared, hentry, hentry'⟩

/-- **With the names apart the source is mirrored.** -/
theorem mirrors_of_namesApart (hsources : nodeTableSources dir = .ok sources)
    (hprepare : prepare registry dir = .ok prepared) (happart : SourceDir.NamesApart dir) :
    Mirrors keep registry dir store (write keep prepared store) := by
  have hvalid := prepared_valid hprepare
  constructor
  case nodes =>
    intro sources' hsources' source hsource
    cases hsources.symm.trans hsources'
    obtain ⟨table, htable, hname, raws, hraws, hcollects⟩ :=
      exists_table hsources hprepare hsource
    refine ⟨raws, hraws, fun id stored hid => ?_⟩
    rw [← exists_nodeEntry_iff hcollects]
    by_cases hretired : source.1 ∈ retiredTables
    · have hnone := happart.nodes sources hsources source hsource (List.mem_append_left _ hretired)
      cases hraws.symm.trans hnone
      rw [lookup_write_retired hvalid (hid ▸ hretired), hcollects.eq_nil_iff.1 rfl]
      simp
    · by_cases hrelation : source.1 ∈ dir.edge_files.map Prod.fst
      · have hnone := happart.nodes sources hsources source hsource
          (List.mem_append_right _ hrelation)
        cases hraws.symm.trans hnone
        obtain ⟨file, hfile, hfname⟩ := List.mem_map.1 hrelation
        obtain ⟨relation, hmem, hrname, schema, -, -, raws', hraws', hcollects'⟩ :=
          exists_relation hprepare hfile
        have hsname : file.1 ∈ retiredTables ++ sources.map Prod.fst :=
          List.mem_append_right _ (hfname ▸ List.mem_map_of_mem hsource)
        cases hraws'.symm.trans (happart.edges sources hsources file hfile hsname)
        rw [lookup_write_edge hvalid hmem (by rw [hid, hrname, hfname])
            (by rwa [hrname, hfname]), hcollects.eq_nil_iff.1 rfl, hcollects'.eq_nil_iff.1 rfl]
        simp
      · exact lookup_write_node hvalid htable (hid.trans hname.symm) (hname ▸ hretired)
          (by rwa [relations_map_fst hprepare, hname])
  case edges =>
    intro file hfile
    obtain ⟨relation, hmem, hrname, schema, -, hschema, raws, hraws, hcollects⟩ :=
      exists_relation hprepare hfile
    refine ⟨raws, hraws, fun id stored hid => ?_⟩
    rw [← hschema, ← exists_edgeEntry_iff hcollects]
    by_cases hretired : file.1 ∈ retiredTables
    · cases hraws.symm.trans
        (happart.edges sources hsources file hfile (List.mem_append_left _ hretired))
      rw [lookup_write_retired hvalid (hid ▸ hretired), hcollects.eq_nil_iff.1 rfl]
      simp
    · exact lookup_write_edge hvalid hmem (hid.trans hrname.symm) (hrname ▸ hretired)
  case joins =>
    intro file hfile id stored hid hlookup
    obtain ⟨schema, -, relation, -, -, hprepared, edge, hedge, hentry⟩ :=
      exists_edge_of_lookup hprepare hfile hid hlookup
    cases hentry
    obtain ⟨hknown, hknown'⟩ := hprepared.known edge hedge
    exact ⟨edge.source, edge.target, rfl, lookup_known hsources hprepare happart hknown,
      lookup_known hsources hprepare happart hknown'⟩
  case pairs =>
    intro file hfile schema hschema id id' source target source' target' content content' hid hid'
      hlookup hlookup' hpair
    obtain ⟨edges, edge, hedge, edge', hedge', hprepared, hentry, hentry'⟩ :=
      exists_edges_of_lookup hprepare hfile hschema hid hid' hlookup hlookup'
    cases hentry
    cases hentry'
    have hsame : edgePair schema edge.source edge.target
        = edgePair schema edge'.source edge'.target := by
      rcases hpair with ⟨hs, ht⟩ | ⟨hsymm, hs, ht⟩
      · rw [hs, ht]
      · rw [hs, ht, edgePair_swap hsymm]
    exact congrArg PreparedEdge.record_id
      (List.inj_on_of_nodup_map hprepared.nodup_pairs hedge hedge' hsame)
  case unique_from =>
    intro file hfile schema hschema hunique id id' source target target' content content' hid hid'
      hlookup hlookup'
    obtain ⟨edges, edge, hedge, edge', hedge', hprepared, hentry, hentry'⟩ :=
      exists_edges_of_lookup hprepare hfile hschema hid hid' hlookup hlookup'
    simp only [edgeEntry, Prod.mk.injEq, StoredRecord.mk.injEq, Option.some.injEq] at hentry hentry'
    obtain ⟨rfl, ⟨hs, -⟩, -⟩ := hentry
    obtain ⟨rfl, ⟨hs', -⟩, -⟩ := hentry'
    exact congrArg PreparedEdge.record_id (List.inj_on_of_nodup_map
      (hprepared.unique_from hunique) hedge hedge' (hs.trans hs'.symm))
  case others =>
    intro sources' hsources' id hnodes hedges hretired
    cases hsources.symm.trans hsources'
    refine lookup_write_other hvalid ?_ ?_ hretired
    · rwa [tables_map_fst hsources hprepare]
    · rwa [relations_map_fst hprepare]
  case again =>
    exact ⟨_, _, ingestDirectory_eq_ok.2 ⟨sources, prepared, hsources, hprepare, rfl, rfl⟩,
      write_again hvalid⟩

/-- **A mirrored source has its names apart**: a name written twice would have to
hold two different sets of records. -/
theorem namesApart_of_mirrors (hsources : nodeTableSources dir = .ok sources)
    (hprepare : prepare registry dir = .ok prepared)
    (hmirrors : Mirrors keep registry dir store (write keep prepared store)) :
    SourceDir.NamesApart dir := by
  have hvalid := prepared_valid hprepare
  constructor
  case nodes =>
    intro sources' hsources' source hsource hname
    obtain ⟨raws, hraws, hexact⟩ := hmirrors.nodes sources' hsources' source hsource
    cases hsources.symm.trans hsources'
    obtain ⟨table, htable, htname, raws', hraws', hcollects⟩ :=
      exists_table hsources hprepare hsource
    cases hraws.symm.trans hraws'
    have hempty : table.2 = [] := by
      rw [List.eq_nil_iff_forall_not_mem]
      intro node hnode
      have hid : node.record_id.table_name = source.1 :=
        ((hvalid.tables table htable).of_table node hnode).trans htname
      have hlookup := (hexact node.record_id ⟨none, keep node.content⟩ hid).2
        ((exists_nodeEntry_iff hcollects).1 ⟨node, hnode, rfl⟩)
      rcases List.mem_append.1 hname with hretired | hrelation
      · rw [lookup_write_retired hvalid (hid ▸ hretired)] at hlookup
        cases hlookup
      · obtain ⟨file, hfile, hfname⟩ := List.mem_map.1 hrelation
        obtain ⟨-, -, -, -, -, -, edge, -, hentry⟩ :=
          exists_edge_of_lookup hprepare hfile (hid.trans hfname.symm) hlookup
        simp [edgeEntry] at hentry
    rw [hraws, hcollects.eq_nil_iff.2 hempty]
  case edges =>
    intro sources' hsources' file hfile hname
    obtain ⟨raws, hraws, hexact⟩ := hmirrors.edges file hfile
    obtain ⟨relation, hmem, hrname, schema, hschema, hsid, raws', hraws', hcollects⟩ :=
      exists_relation hprepare hfile
    cases hraws.symm.trans hraws'
    have hempty : relation.2 = [] := by
      rw [List.eq_nil_iff_forall_not_mem]
      intro edge hedge
      have hid : edge.record_id.table_name = file.1 :=
        ((preparedRelation_of_collects hcollects).of_relation edge hedge).trans hsid
      have hlookup := (hexact edge.record_id _ hid).2
        (hsid ▸ (exists_edgeEntry_iff hcollects).1 ⟨edge, hedge, rfl⟩)
      rcases List.mem_append.1 hname with hretired | htable
      · rw [lookup_write_retired hvalid (hid ▸ hretired)] at hlookup
        cases hlookup
      · obtain ⟨source, hsource, hsname⟩ := List.mem_map.1 htable
        obtain ⟨raws, -, hexact'⟩ := hmirrors.nodes sources' hsources' source hsource
        obtain ⟨raw, -, content, -, hstored⟩ :=
          (hexact' edge.record_id _ (hid.trans hsname.symm)).1 hlookup
        simp at hstored
    rw [hraws, hcollects.eq_nil_iff.2 hempty]

/-- **Ingestion mirrors its source exactly when no name is written twice.** -/
theorem ingestDirectory_mirrors_iff {before after : Store} {result : IngestionResult}
    (h : ingestDirectory keep registry dir before = .ok (after, result)) :
    Mirrors keep registry dir before after ↔ SourceDir.NamesApart dir := by
  obtain ⟨sources, prepared, hsources, hprepare, rfl, -⟩ := ingestDirectory_eq_ok.1 h
  exact ⟨namesApart_of_mirrors hsources hprepare, mirrors_of_namesApart hsources hprepare⟩

end Source

/-- A mug in a cupboard: two node tables and the two relations they need. -/
def mugSource : SourceDir where
  node_files := [
    ("item", ⟨"nodes/item.json", .ok (.arr [.obj [("id", .str "item:mug"),
      ("name", .arr [.str "Mug"])]])⟩),
    ("space", ⟨"nodes/space.json", .ok (.obj [("id", .str "space:cupboard")])⟩)]
  node_shards := []
  edge_files := [
    ("hosted_by", ⟨"edges/hosted_by.json", .ok (.arr [])⟩),
    ("located_in", ⟨"edges/located_in.json", .ok (.arr [.obj [("from", .str "item:mug"),
      ("to", .str "space:cupboard")]])⟩)]
  nodup_files := by decide
  nodup_shards := by decide
  nodup_edges := by decide

/-- What the ingestion of `mugSource` writes. -/
def mugPrepared : Prepared where
  nodes := [("item", [⟨⟨"item", "mug"⟩, [("name", .arr [.str "Mug"])]⟩]),
    ("space", [⟨⟨"space", "cupboard"⟩, []⟩])]
  edges := [("hosted_by", []),
    ("located_in", [⟨"located_in", ⟨"located_in", "item_mug__space_cupboard"⟩, ⟨"item", "mug"⟩,
      ⟨"space", "cupboard"⟩, []⟩])]

/-- Its names are apart, so an ingestion over a database with a stale record
mirrors it. -/
theorem mugSource_mirrored :
    Mirrors dropNulls EdgeSchemaRegistry.deployed mugSource
      (AList.insert ⟨"item", "old"⟩ ⟨none, []⟩ ∅)
      (write dropNulls mugPrepared (AList.insert ⟨"item", "old"⟩ ⟨none, []⟩ ∅)) := by
  have h : ingestDirectory dropNulls EdgeSchemaRegistry.deployed mugSource
      (AList.insert ⟨"item", "old"⟩ ⟨none, []⟩ ∅)
      = .ok (write dropNulls mugPrepared (AList.insert ⟨"item", "old"⟩ ⟨none, []⟩ ∅),
        ⟨2, 2, 2, 1⟩) := by
    rfl
  refine (ingestDirectory_mirrors_iff h).2 ⟨?_, ?_⟩
  · intro sources hsources
    cases hsources.symm.trans (show nodeTableSources mugSource = .ok _ from rfl)
    decide
  · intro sources hsources
    cases hsources.symm.trans (show nodeTableSources mugSource = .ok _ from rfl)
    decide

/-- A node table with the name of a relation, and no edges. -/
def clashingSource : SourceDir where
  node_files := [("located_in",
    ⟨"nodes/located_in.json", .ok (.arr [.obj [("id", .str "located_in:a")]])⟩)]
  node_shards := []
  edge_files := [("located_in", ⟨"edges/located_in.json", .ok (.arr [])⟩)]
  nodup_files := by decide
  nodup_shards := by decide
  nodup_edges := by decide

/-- **The relation's pruning deletes the nodes.**  Ingesting `clashingSource` into an
empty database returns normally and leaves it empty. -/
theorem clashingSource_not_mirrored :
    ∃ after result, ingestDirectory dropNulls EdgeSchemaRegistry.deployed clashingSource ∅
        = .ok (after, result) ∧ after.lookup ⟨"located_in", "a"⟩ = none ∧
      ¬Mirrors dropNulls EdgeSchemaRegistry.deployed clashingSource ∅ after := by
  refine ⟨_, _, rfl, rfl, fun hmirrors => ?_⟩
  obtain ⟨raws, hraws, hexact⟩ := hmirrors.nodes _ rfl _ (List.mem_singleton_self _)
  cases hraws
  have hdescribes : DescribesNode "located_in" "nodes/located_in.json"
      [("id", .str "located_in:a")] ⟨"located_in", "a"⟩ [] :=
    ⟨rfl, by decide, rfl, _, _, rfl, rfl, rfl⟩
  have hlookup := (hexact ⟨"located_in", "a"⟩ ⟨none, []⟩ rfl).2
    ⟨_, List.mem_singleton_self _, [], hdescribes, rfl⟩
  exact absurd hlookup (by decide)

end Ingestion
end HomeCortex
