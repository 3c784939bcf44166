/-
# Relationship views

What `get_relationships` returns, and what converse views have in common.  A read whose
direction is given, or fixed by an inverse name, returns the first current edges of its
view (`getRelationships_first`); two converse views lead between the same entities
(`Converse.mirrored`), so their reads relate the same entities as long as neither
reaches its limit (`relationship_views`).  `edgesJoin_ingest` says that ingested edges
are of the kind this needs, and `getRelationships_graph` that the graph of a store is
read as the service reads the store.
-/

import HomeCortex.Persistence.Relationships

namespace HomeCortex
namespace RetrievalService

/-! ### What a selected edge is -/

theorem Leads.ends {resolved : ResolvedEdgeSchema} {direction : Option ReadDirection}
    {source target a b : RecordID} (h : Leads resolved direction source target a b) :
    source = a ∧ target = b ∨ source = b ∧ target = a := by
  have hnames : ∀ x y, Names resolved source target x y →
      source = x ∧ target = y ∨ source = y ∧ target = x := by
    intro x y h
    unfold Names at h
    split at h
    · exact h
    · split at h
      · exact Or.inr h
      · exact Or.inl h
  unfold Leads at h
  split at h
  · exact (hnames b a h).symm
  · rcases h with h | h
    · exact hnames a b h
    · exact (hnames b a h).symm
  · exact hnames a b h
  · exact hnames a b h

/-- A view leads along an edge to its other end only. -/
theorem Leads.otherEnd {resolved : ResolvedEdgeSchema} {direction : Option ReadDirection}
    {source target a b : RecordID} (h : Leads resolved direction source target a b) :
    otherEnd a (source, target) = b := by
  rcases h.ends with ⟨rfl, rfl⟩ | ⟨rfl, rfl⟩
  · exact if_pos rfl
  · unfold RetrievalService.otherEnd
    split
    case isTrue heq => exact heq.symm
    case isFalse => rfl

/-- **The three places that decide a direction agree.**  The stored direction of a
directed view selects the edges that the view leads along. -/
theorem selects_storedDirection {resolved : ResolvedEdgeSchema} {direction : Option ReadDirection}
    (hdirected : Directed resolved direction) (entity_type : String) {source target a : RecordID} :
    (storedDirection resolved entity_type direction).selects a (source, target) = true ↔
      ∃ b, Leads resolved direction source target a b := by
  unfold storedDirection Leads Names
  cases hsymmetric : resolved.schema.symmetric with
  | true =>
      rcases direction with _ | _ | _ | _ <;>
        simp [ReadDirection.selects, hsymmetric, exists_or, and_comm, or_comm]
  | false =>
      cases hinv : resolved.inverse with
      | true =>
          rcases direction with _ | _ | _ | _ <;>
            simp [ReadDirection.selects, hsymmetric, exists_or, and_comm, or_comm]
      | false =>
          rcases direction with _ | _ | _ | _
          · simp [Directed, hsymmetric, hinv] at hdirected
          all_goals simp [ReadDirection.selects, hsymmetric, exists_or, and_comm, or_comm]

/-! ### The rows of a read -/

theorem get?_summary (record : Fields) (key : String) (h : key ∈ entitySummaryFields) :
    Fields.get? (summaryFields record) key = record.get? key := by
  rw [summaryFields, Fields.get?_filter record (fun k => entitySummaryFields.contains k) key]
  exact if_pos (by simpa using h)

/-- A row keeps what the statement selects of the edge. -/
theorem get?_statementRow (store : Store) (edge : RecordID × StoredRecord) {key : String}
    (h : key ≠ "source_entity" ∧ key ≠ "target_entity") :
    (statementRow store edge).get? key = (Surreal.row edge.1 edge.2).get? key := by
  rw [statementRow, Fields.get?_set, Fields.get?_set, if_neg h.2.symm, if_neg h.1.symm]

theorem statementRow_ends {store : Store} {id source target : RecordID} {content : Fields} :
    (statementRow store (id, ⟨some (source, target), content⟩)).getD "in"
        = .str (canonicalRecordId source) ∧
      (statementRow store (id, ⟨some (source, target), content⟩)).getD "out"
        = .str (canonicalRecordId target) := by
  simp only [Fields.getD]
  rw [get?_statementRow _ _ (by decide), get?_statementRow _ _ (by decide)]
  simp [Surreal.row, Fields.get?_cons]

theorem statementRow_expanded {store : Store} {id source target : RecordID} {content : Fields} :
    (statementRow store (id, ⟨some (source, target), content⟩)).getD "source_entity"
        = expanded store source ∧
      (statementRow store (id, ⟨some (source, target), content⟩)).getD "target_entity"
        = expanded store target := by
  simp [statementRow, Fields.getD, Fields.get?_set]

/-- The test of the loop repeats that of the statement. -/
theorem isCurrentRelationship_statementRow {store : Store} {id : RecordID}
    {stored : StoredRecord} :
    isCurrentRelationship (statementRow store (id, stored)) = stored.isCurrent := by
  have hrow : (Surreal.row id stored).get? "end" = stored.content.get? "end" := by
    unfold Surreal.row
    cases stored.endpoints <;> simp [Fields.get?_cons]
  have hget : (statementRow store (id, stored)).getD "end" = stored.content.getD "end" := by
    unfold Fields.getD
    rw [get?_statementRow _ _ (by decide), hrow]
  simp only [isCurrentRelationship, StoredRecord.isCurrent, hget]

theorem get?_setSummary_of_ne {edge : Fields} {key other : String} {record : Json}
    (h : key ≠ other) : (setSummary edge key record).get? other = edge.get? other := by
  unfold setSummary
  split
  · rw [Fields.get?_set, if_neg h]
  · rfl

/-- The fields of a relationship that the description does not write. -/
theorem get?_describeEdge (schema : EdgeSchema) (entity_id : String) (row : Fields) {key : String}
    (h : key ∉ ["relation", "semantic_relation", "source_entity", "target_entity", "direction",
      "entity", "related_entity"]) :
    (describeEdge schema entity_id row).get? key = row.get? key := by
  simp only [List.mem_cons, List.not_mem_nil, or_false, not_or] at h
  obtain ⟨hrelation, hsemantic, hsource, htarget, hdirection, hentity, hrelated⟩ := h
  unfold describeEdge
  rw [get?_setSummary_of_ne (Ne.symm hrelated), get?_setSummary_of_ne (Ne.symm hentity),
    Fields.get?_set, if_neg (Ne.symm hdirection), Fields.get?_without, if_neg (by simp [hsource, htarget]),
    Fields.get?_set, if_neg (Ne.symm hsemantic), Fields.get?_set, if_neg (Ne.symm hrelation)]

theorem describeEdge_relation (schema : EdgeSchema) (entity_id : String) (row : Fields) :
    (describeEdge schema entity_id row).get? "relation" = some (.str schema.id) := by
  unfold describeEdge
  rw [get?_setSummary_of_ne (by decide), get?_setSummary_of_ne (by decide), Fields.get?_set,
    if_neg (by decide), Fields.get?_without, if_neg (by decide), Fields.get?_set,
    if_neg (by decide), Fields.get?_set, if_pos rfl]

/-- The direction of a relationship picks the other end. -/
theorem describeEdge_related {store : Store} {schema : EdgeSchema} {id source target a : RecordID}
    {content : Fields} {other : StoredRecord} (hsource : source.Valid) (ha : a.Valid)
    (hother : store.lookup (otherEnd a (source, target)) = some other) :
    (describeEdge schema (canonicalRecordId a)
        (statementRow store (id, ⟨some (source, target), content⟩))).get? "related_entity"
      = some (.obj (summaryFields (Surreal.row (otherEnd a (source, target)) other))) := by
  have hends := @statementRow_ends store id source target content
  have hexpanded := @statementRow_expanded store id source target content
  have hincoming : relationshipDirection (statementRow store (id, ⟨some (source, target), content⟩))
      (canonicalRecordId a) = "incoming" ↔ source ≠ a := by
    unfold relationshipDirection
    rw [hends.1, hends.2]
    by_cases hsource' : source = a
    · subst hsource'
      by_cases htarget : target = source <;> simp [htarget]
      split <;> simp
    · have hne : canonicalRecordId source ≠ canonicalRecordId a := fun h =>
        hsource' (canonicalRecordId_injective hsource ha h)
      simp [hne, hsource']
  have hrecord : (if relationshipDirection (statementRow store (id, ⟨some (source, target), content⟩))
      (canonicalRecordId a) = "incoming" then expanded store source else expanded store target)
        = .obj (Surreal.row (otherEnd a (source, target)) other) := by
    unfold otherEnd at hother ⊢
    by_cases h : source = a
    · rw [if_neg (fun hin => hincoming.1 hin h), if_pos h]
      rw [if_pos h] at hother
      simp only [expanded, hother]
    · rw [if_pos (hincoming.2 h), if_neg h]
      rw [if_neg h] at hother
      simp only [expanded, hother]
  unfold describeEdge
  simp only [hexpanded.1, hexpanded.2, hrecord]
  simp [setSummary, Json.asObject?, Fields.get?_set]

/-- Rows of one relation that have increasing identities stay as they are. -/
theorem insertionSort_keyLe {rows : List Fields} {relation : String}
    (hrelation : ∀ row ∈ rows, row.get? "relation" = some (.str relation))
    (hordered : rows.Pairwise fun row row' => rowId row < rowId row')
    (hid : ∀ row ∈ rows, (row.get? "id").isSome = true) :
    rows.insertionSort keyLe = rows := by
  refine List.Pairwise.insertionSort_eq ?_
  refine (List.pairwise_iff_forall_sublist.2 ?_)
  intro row row' hsub
  have hmem := hsub.subset
  have hlt := List.pairwise_iff_forall_sublist.1 hordered hsub
  have hrow := hmem (List.mem_cons_self)
  have hrow' := hmem (List.mem_cons_of_mem _ List.mem_cons_self)
  obtain ⟨id, hget⟩ := Option.isSome_iff_exists.1 (hid row hrow)
  obtain ⟨id', hget'⟩ := Option.isSome_iff_exists.1 (hid row' hrow')
  refine Or.inr ⟨?_, ?_⟩
  · simp [sortKey, hrelation row hrow, hrelation row' hrow']
  · simp only [rowId, Fields.getD, hget, hget', Option.getD_some] at hlt
    simpa [sortKey, hget, hget'] using hlt.le

/-! ### Reads are the first edges of their view -/

theorem pairwise_inIdOrder (store : Store) (relation : String) :
    (inIdOrder (Surreal.selectTable store relation)).Pairwise
      fun edge edge' => canonicalRecordId edge.1 < canonicalRecordId edge'.1 := by
  let le (a b : RecordID × StoredRecord) : Prop := canonicalRecordId a.1 ≤ canonicalRecordId b.1
  have htotal : Std.Total le := ⟨fun a b => le_total (canonicalRecordId a.1) (canonicalRecordId b.1)⟩
  have htrans : IsTrans _ le := ⟨fun _ _ _ => le_trans⟩
  have hsorted : (inIdOrder (Surreal.selectTable store relation)).Pairwise le :=
    List.pairwise_insertionSort le _
  have hperm := List.perm_insertionSort le (Surreal.selectTable store relation)
  have hnodup : ((inIdOrder (Surreal.selectTable store relation)).map Prod.fst).Nodup :=
    (hperm.map Prod.fst).nodup_iff.2 (AList.nodup_select _ _)
  have hdistinct : (inIdOrder (Surreal.selectTable store relation)).Pairwise
      fun edge edge' => edge.1 ≠ edge'.1 := List.pairwise_map.1 hnodup
  refine (List.pairwise_iff_forall_sublist.2 ?_)
  intro edge edge' hsub
  have hle := List.pairwise_iff_forall_sublist.1 hsorted hsub
  have hne := List.pairwise_iff_forall_sublist.1 hdistinct hsub
  have htable : ∀ entry ∈ [edge, edge'], entry.1.table_name = relation := fun entry hentry =>
    (Surreal.mem_selectTable.1 (hperm.mem_iff.1 (hsub.subset hentry))).2
  refine lt_of_le_of_ne hle fun htext => hne (canonicalRecordId_inj_of_table ?_ htext)
  rw [htable edge (by simp), htable edge' (by simp)]

/-- An element of an ordered list is among the first ones, or they all come before it. -/
theorem mem_take_or_before {α : Type} {r : α → α → Prop} {l : List α} (h : l.Pairwise r) {x : α}
    (hx : x ∈ l) (n : Nat) :
    x ∈ l.take n ∨ (l.take n).length = n ∧ ∀ y ∈ l.take n, r y x := by
  rw [← List.take_append_drop n l] at h hx
  rcases List.mem_append.1 hx with hx | hx
  · exact Or.inl hx
  · have hlength : n < l.length := by
      by_contra hle
      rw [List.drop_eq_nil_of_le (by omega)] at hx
      cases hx
    refine Or.inr ⟨?_, fun y hy => (List.pairwise_append.1 h).2.2 y hy x hx⟩
    rw [List.length_take]
    omega

variable {service : RetrievalService} {store : Store} {resolved : ResolvedEdgeSchema}
  {direction : Option ReadDirection} {a : RecordID}

/-- The edges that a directed view selects. -/
theorem mem_selectable (hdirected : Directed resolved direction) {edge : RecordID × StoredRecord} :
    edge ∈ (inIdOrder (Surreal.selectTable store resolved.schema.id)).filter (fun edge =>
      edge.2.endpoints.any ((storedDirection resolved a.table_name direction).selects a) &&
        (false || edge.2.isCurrent)) ↔
    ∃ source target b content, edge = (edge.1, ⟨some (source, target), content⟩) ∧
      store.lookup edge.1 = some ⟨some (source, target), content⟩ ∧
      CurrentEdge store resolved.schema.id edge.1 source target ∧
      Leads resolved direction source target a b := by
  obtain ⟨id, endpoints, content⟩ := edge
  rw [List.mem_filter, inIdOrder, List.mem_insertionSort, Surreal.mem_selectTable]
  simp only [Bool.and_eq_true, Bool.false_or, StoredRecord.isCurrent, decide_eq_true_eq,
    Option.any_eq_true]
  constructor
  · rintro ⟨⟨hlookup, htable⟩, ⟨⟨source, target⟩, rfl, hselects⟩, hcurrent⟩
    obtain ⟨b, hleads⟩ := (selects_storedDirection hdirected a.table_name).1 hselects
    exact ⟨source, target, b, content, rfl, hlookup, ⟨htable, content, hlookup, hcurrent⟩, hleads⟩
  · rintro ⟨source, target, b, content', heq, hlookup, ⟨htable, content'', hlookup', hcurrent⟩, hleads⟩
    obtain ⟨rfl, rfl⟩ := StoredRecord.mk.inj (Prod.mk.inj heq).2
    rw [hlookup] at hlookup'
    obtain ⟨-, rfl⟩ := StoredRecord.mk.inj (Option.some.inj hlookup')
    exact ⟨⟨hlookup, htable⟩, ⟨_, rfl, (selects_storedDirection hdirected a.table_name).2 ⟨b, hleads⟩⟩,
      hcurrent⟩

theorem get?_id_describeEdge (schema : EdgeSchema) (entity_id : String)
    (edge : RecordID × StoredRecord) :
    (describeEdge schema entity_id (statementRow store edge)).get? "id"
      = some (.str (canonicalRecordId edge.1)) := by
  rw [get?_describeEdge _ _ _ (by decide), get?_statementRow _ _ (by decide), Surreal.row,
    Fields.get?_cons, if_pos rfl]

/-- No row of a read without ended edges is dropped after the statement. -/
theorem readRelation_eq (store : Store) (a : RecordID) (direction : Option ReadDirection)
    (limit : Nat) (resolved : ResolvedEdgeSchema) :
    readRelation store a direction false limit resolved =
      (selectEdges store resolved.schema.id (storedDirection resolved a.table_name direction) a
        false limit).map fun edge =>
          describeEdge resolved.schema (canonicalRecordId a) (statementRow store edge) := by
  unfold readRelation
  simp only
  rw [List.filter_eq_self.2, List.map_map]
  · rfl
  · intro row hrow
    obtain ⟨edge, hedge, rfl⟩ := List.mem_map.1 hrow
    have hselected := (List.mem_filter.1 (List.mem_of_mem_take hedge)).2
    rw [Bool.false_or, isCurrentRelationship_statementRow]
    simpa using (Bool.and_eq_true_iff.1 hselected).2

theorem rowId_describe (schema : EdgeSchema) (entity_id : String)
    (edge : RecordID × StoredRecord) :
    rowId (describeEdge schema entity_id (statementRow store edge)) = canonicalRecordId edge.1 := by
  simp only [rowId, Fields.getD, get?_id_describeEdge, Option.getD_some, Json.pyStr]

theorem ordered_selectEdges (store : Store) (relation : String) (direction : ReadDirection)
    (a : RecordID) (include_ended : Bool) (limit : Nat) :
    (selectEdges store relation direction a include_ended limit).Pairwise
      fun edge edge' => canonicalRecordId edge.1 < canonicalRecordId edge'.1 :=
  ((pairwise_inIdOrder store relation).filter _).take

theorem ordered_readRelation (store : Store) (a : RecordID) (direction : Option ReadDirection)
    (limit : Nat) (resolved : ResolvedEdgeSchema) :
    (readRelation store a direction false limit resolved).Pairwise
      fun row row' => rowId row < rowId row' := by
  rw [readRelation_eq, List.pairwise_map]
  simp only [rowId_describe]
  exact ordered_selectEdges store _ _ a false limit

/-- The relationships of one relation are already sorted, and no more than the limit. -/
theorem getRelationships_eq {name : String}
    (hresolve : service.edge_registry.resolve name = .ok resolved) (ha : a.Valid)
    {limit : Option Int} {n : Nat} (hlimit : service.validatedLimit limit = .ok n) :
    service.getRelationships store (canonicalRecordId a) (some name) direction limit false
      = .ok (readRelation store a direction false n resolved) := by
  have hrelations : service.resolvedRelations (some name) direction = .ok [resolved] := by
    simp only [resolvedRelations, hresolve]
    rfl
  have hsorted : (readRelation store a direction false n resolved).insertionSort keyLe
      = readRelation store a direction false n resolved := by
    refine @insertionSort_keyLe _ resolved.schema.id ?_ (ordered_readRelation store a direction n
      resolved) ?_
    all_goals
      intro row hrow
      rw [readRelation_eq] at hrow
      obtain ⟨edge, -, rfl⟩ := List.mem_map.1 hrow
    · exact describeEdge_relation _ _ _
    · rw [get?_id_describeEdge]
      rfl
  have hlength : (readRelation store a direction false n resolved).length ≤ n := by
    rw [readRelation_eq, List.length_map]
    exact List.length_take_le _ _
  unfold getRelationships
  rw [asRecordId_canonical ha, hlimit, hrelations]
  simp only [bind, Except.bind, pure, Except.pure, List.flatMap_cons, List.flatMap_nil,
    List.append_nil, hsorted]
  rw [List.take_of_length_le hlength]

theorem readRelation_first (hjoin : EdgesJoin service.edge_registry store)
    (hschema : resolved.schema ∈ service.edge_registry.schemas) (ha : a.Valid)
    (hdirected : Directed resolved direction) (limit : Nat) :
    FirstOfView store resolved direction a limit
      (readRelation store a direction false limit resolved) := by
  have hordered := (pairwise_inIdOrder store resolved.schema.id).filter fun edge =>
    edge.2.endpoints.any ((storedDirection resolved a.table_name direction).selects a) &&
      (false || edge.2.isCurrent)
  have hid : ∀ edge, rowId (describeEdge resolved.schema (canonicalRecordId a)
      (statementRow store edge)) = canonicalRecordId edge.1 := rowId_describe _ _
  constructor
  case ordered => exact ordered_readRelation store a direction limit resolved
  case bounded =>
    rw [readRelation_eq, List.length_map]
    exact List.length_take_le _ _
  case sound =>
    intro row hrow
    rw [readRelation_eq] at hrow
    obtain ⟨edge, hedge, rfl⟩ := List.mem_map.1 hrow
    obtain ⟨source, target, b, content, heq, hlookup, hcurrent, hleads⟩ :=
      (mem_selectable hdirected).1 (List.mem_of_mem_take hedge)
    obtain ⟨⟨hsource, hsource_stored⟩, htarget, htarget_stored⟩ :=
      hjoin _ hschema _ _ _ _ hcurrent.1 hlookup
    have hother := hleads.otherEnd
    have hstored : (store.lookup b).isSome = true := by
      rcases hleads.ends with ⟨-, rfl⟩ | ⟨rfl, -⟩
      · exact htarget_stored
      · exact hsource_stored
    obtain ⟨stored, hb⟩ := Option.isSome_iff_exists.1 hstored
    refine ⟨edge.1, source, target, b, stored, hcurrent, hleads, hid edge, hb, ?_⟩
    rw [heq, ← hother]
    exact describeEdge_related hsource ha (hother ▸ hb)
  case complete =>
    rw [readRelation_eq]
    intro id source target b hcurrent hleads
    obtain ⟨htable, content, hlookup, hend⟩ := hcurrent
    have hmem := (@mem_selectable store resolved direction a hdirected
      (id, ⟨some (source, target), content⟩)).2
        ⟨source, target, b, content, rfl, hlookup, ⟨htable, content, hlookup, hend⟩, hleads⟩
    rcases mem_take_or_before hordered hmem limit with htake | ⟨hlength, hbefore⟩
    · exact Or.inl ⟨_, List.mem_map_of_mem htake, hid _⟩
    · refine Or.inr ⟨by rw [List.length_map]; exact hlength, fun row hrow => ?_⟩
      obtain ⟨edge, hedge, rfl⟩ := List.mem_map.1 hrow
      rw [hid]
      exact hbefore edge hedge

/-- **A relation and a direction are read completely.**  A relationship read that gives
a direction, or names an inverse, returns the first current edges of its view. -/
theorem getRelationships_first (hjoin : EdgesJoin service.edge_registry store) {name : String}
    (hresolve : service.edge_registry.resolve name = .ok resolved)
    (hdirected : Directed resolved direction) (ha : a.Valid) {limit : Option Int} {n : Nat}
    (hlimit : service.validatedLimit limit = .ok n) :
    ∃ rows, service.getRelationships store (canonicalRecordId a) (some name) direction limit false
        = .ok rows ∧ FirstOfView store resolved direction a n rows := by
  exact ⟨_, getRelationships_eq hresolve ha hlimit,
    readRelation_first hjoin (EdgeSchemaRegistry.resolve_eq_ok hresolve).1 ha hdirected n⟩

/-! ### Converse views -/

/-- A name with a direction and its converse: the opposite direction, the inverse name
with the same direction (an inverse name alone reads outward), or the same view of a
symmetric relation. -/
inductive Converse (registry : EdgeSchemaRegistry) :
    String × Option ReadDirection → String × Option ReadDirection → Prop
  | opposite (name : String) (direction : ReadDirection) :
      Converse registry (name, some direction) (name, some direction.opposite)
  | inverse {schema : EdgeSchema} {inverse : String} (direction : ReadDirection)
      (hschema : schema ∈ registry.schemas) (hinverse : schema.inverse_name = some inverse) :
      Converse registry (schema.id, some direction) (inverse, some direction)
  | unnamed {schema : EdgeSchema} {inverse : String} (hschema : schema ∈ registry.schemas)
      (hinverse : schema.inverse_name = some inverse) :
      Converse registry (schema.id, some .out) (inverse, none)
  | outward {schema : EdgeSchema} {inverse : String} (hschema : schema ∈ registry.schemas)
      (hinverse : schema.inverse_name = some inverse) :
      Converse registry (inverse, some .into) (inverse, none)
  | symmetric {schema : EdgeSchema} (direction : Option ReadDirection)
      (hschema : schema ∈ registry.schemas) (hsymmetric : schema.symmetric = true) :
      Converse registry (schema.id, direction) (schema.id, direction)
  | flip {view view' : String × Option ReadDirection} (h : Converse registry view view') :
      Converse registry view' view

/-- An inverse name resolves to its schema, backward. -/
theorem resolve_of_inverse {registry : EdgeSchemaRegistry} {schema : EdgeSchema} {inverse : String}
    (hschema : schema ∈ registry.schemas) (hinverse : schema.inverse_name = some inverse) :
    registry.resolve inverse = .ok ⟨schema, true⟩ := by
  have hfresh : registry.find? inverse = none := by
    cases hfind : registry.find? inverse with
    | none => rfl
    | some other =>
        obtain ⟨hmem, hid⟩ := EdgeSchemaRegistry.find?_eq_some.1 hfind
        exact absurd (List.mem_map.2 ⟨other, hmem, hid⟩)
          (registry.inverse_fresh schema hschema inverse hinverse)
  obtain ⟨other, hother⟩ : ∃ other, (registry.schemas.find? fun schema =>
      schema.inverse_name == some inverse) = some other :=
    Option.isSome_iff_exists.1 (List.find?_isSome.2 ⟨schema, hschema, by simp [hinverse]⟩)
  have hsame : schema = other := registry.inverse_unique schema hschema other
    (List.mem_of_find?_eq_some hother) inverse hinverse (by simpa using List.find?_some hother)
  rw [EdgeSchemaRegistry.resolve, hfresh]
  simp only [hother, hsame]

theorem names_symmetric {resolved : ResolvedEdgeSchema} (h : resolved.schema.symmetric = true)
    (source target a b : RecordID) :
    Names resolved source target a b ↔ Names resolved source target b a := by
  simp only [Names, h, if_true]
  exact or_comm

/-- The inverse name says of `b` and `a` what the relation says of `a` and `b`. -/
theorem names_inverse {registry : EdgeSchemaRegistry} {schema : EdgeSchema} {inverse : String}
    (hschema : schema ∈ registry.schemas) (hinverse : schema.inverse_name = some inverse)
    (source target a b : RecordID) :
    Names ⟨schema, true⟩ source target a b ↔ Names ⟨schema, false⟩ source target b a := by
  have hplain : schema.symmetric = false := by
    by_contra h
    have := ((registry.valid schema hschema).symmetric_plain (by simpa using h)).1
    rw [hinverse] at this
    cases this
  simp [Names, hplain]

/-- What converse views have in common. -/
structure Mirrored (resolved : ResolvedEdgeSchema) (direction : Option ReadDirection)
    (resolved' : ResolvedEdgeSchema) (direction' : Option ReadDirection) : Prop where
  schema : resolved.schema = resolved'.schema
  directed : Directed resolved direction
  directed' : Directed resolved' direction'
  leads : ∀ source target a b, Leads resolved direction source target a b ↔
    Leads resolved' direction' source target b a

theorem Converse.mirrored {registry : EdgeSchemaRegistry}
    {view view' : String × Option ReadDirection} (h : Converse registry view view') :
    ∀ {resolved resolved' : ResolvedEdgeSchema}, registry.resolve view.1 = .ok resolved →
      registry.resolve view'.1 = .ok resolved' → Mirrored resolved view.2 resolved' view'.2 := by
  induction h with
  | opposite name direction =>
      intro resolved resolved' hresolve hresolve'
      obtain rfl := Except.ok.inj (hresolve.symm.trans hresolve')
      refine ⟨rfl, Or.inl (by simp), Or.inl (by simp), fun source target a b => ?_⟩
      cases direction with
      | out => exact Iff.rfl
      | into => exact Iff.rfl
      | both => exact or_comm
  | inverse direction hschema hinverse =>
      intro resolved resolved' hresolve hresolve'
      obtain rfl := Except.ok.inj (hresolve.symm.trans (EdgeSchemaRegistry.resolve_of_mem hschema))
      obtain rfl := Except.ok.inj (hresolve'.symm.trans (resolve_of_inverse hschema hinverse))
      refine ⟨rfl, Or.inl (by simp), Or.inl (by simp), fun source target a b => ?_⟩
      have hnames := names_inverse hschema hinverse source target
      cases direction with
      | out => exact (hnames b a).symm
      | into => exact (hnames a b).symm
      | both => exact (or_congr (hnames b a) (hnames a b)).symm
  | unnamed hschema hinverse =>
      intro resolved resolved' hresolve hresolve'
      obtain rfl := Except.ok.inj (hresolve.symm.trans (EdgeSchemaRegistry.resolve_of_mem hschema))
      obtain rfl := Except.ok.inj (hresolve'.symm.trans (resolve_of_inverse hschema hinverse))
      exact ⟨rfl, Or.inl (by simp), Or.inr (Or.inl rfl), fun source target a b =>
        (names_inverse hschema hinverse source target b a).symm⟩
  | outward hschema hinverse =>
      intro resolved resolved' hresolve hresolve'
      obtain rfl := Except.ok.inj (hresolve.symm.trans (resolve_of_inverse hschema hinverse))
      obtain rfl := Except.ok.inj (hresolve'.symm.trans (resolve_of_inverse hschema hinverse))
      exact ⟨rfl, Or.inl (by simp), Or.inr (Or.inl rfl), fun source target a b => Iff.rfl⟩
  | symmetric direction hschema hsymmetric =>
      intro resolved resolved' hresolve hresolve'
      obtain rfl := Except.ok.inj (hresolve.symm.trans (EdgeSchemaRegistry.resolve_of_mem hschema))
      obtain rfl := Except.ok.inj (hresolve'.symm.trans (EdgeSchemaRegistry.resolve_of_mem hschema))
      refine ⟨rfl, Or.inr (Or.inr hsymmetric), Or.inr (Or.inr hsymmetric), fun source target a b => ?_⟩
      have hnames := @names_symmetric ⟨_, false⟩ hsymmetric source target
      rcases direction with _ | _ | _ | _
      · exact hnames a b
      · exact hnames a b
      · exact hnames b a
      · exact or_comm
  | flip _ ih =>
      intro resolved resolved' hresolve hresolve'
      have h := ih hresolve' hresolve
      exact ⟨h.schema.symm, h.directed', h.directed, fun source target a b =>
        (h.leads source target b a).symm⟩

/-- What a read that did not reach its limit relates to `a`. -/
theorem FirstOfView.mem_related {rows : List Fields} {n : Nat}
    (hjoin : EdgesJoin service.edge_registry store)
    (hschema : resolved.schema ∈ service.edge_registry.schemas)
    (h : FirstOfView store resolved direction a n rows) (hlength : rows.length < n)
    {b : RecordID} (hb : b.Valid) :
    Json.str (canonicalRecordId b) ∈ rows.map relatedId ↔
      ∃ id source target, CurrentEdge store resolved.schema.id id source target ∧
        Leads resolved direction source target a b := by
  have hrelated : ∀ {row : Fields} {c : RecordID} {stored : StoredRecord},
      row.get? "related_entity" = some (.obj (summaryFields (Surreal.row c stored))) →
        relatedId row = .str (canonicalRecordId c) := by
    intro row c stored hrow
    have hid : (summaryFields (Surreal.row c stored)).getD "id" = .str (canonicalRecordId c) := by
      rw [Fields.getD, get?_summary _ _ (by decide), Surreal.row, Fields.get?_cons, if_pos rfl]
      rfl
    simp [relatedId, Fields.getD, hrow, Json.asObject?, ← hid]
  have hunique : ∀ {row : Fields} {id source target c : RecordID},
      CurrentEdge store resolved.schema.id id source target →
        Leads resolved direction source target a c → c.Valid := by
    intro row id source target c hcurrent hleads
    obtain ⟨content, hlookup, -⟩ := hcurrent.2
    obtain ⟨hsource, htarget⟩ := hjoin _ hschema _ _ _ _ hcurrent.1 hlookup
    rcases hleads.ends with ⟨-, rfl⟩ | ⟨rfl, -⟩
    · exact htarget.1
    · exact hsource.1
  rw [List.mem_map]
  constructor
  · rintro ⟨row, hrow, htext⟩
    obtain ⟨id, source, target, c, stored, hcurrent, hleads, -, -, hentity⟩ := h.sound row hrow
    rw [hrelated hentity] at htext
    obtain rfl := canonicalRecordId_injective (@hunique row _ _ _ _ hcurrent hleads) hb
      (Json.str.inj htext)
    exact ⟨id, source, target, hcurrent, hleads⟩
  · rintro ⟨id, source, target, hcurrent, hleads⟩
    rcases h.complete id source target b hcurrent hleads with ⟨row, hrow, hid⟩ | ⟨hfull, -⟩
    · obtain ⟨id', source', target', c, stored, hcurrent', hleads', hid', -, hentity⟩ :=
        h.sound row hrow
      obtain rfl := canonicalRecordId_inj_of_table (hcurrent.1.trans hcurrent'.1.symm)
        (hid.symm.trans hid')
      obtain ⟨content, hlookup, -⟩ := hcurrent.2
      obtain ⟨content', hlookup', -⟩ := hcurrent'.2
      rw [hlookup] at hlookup'
      obtain ⟨rfl, rfl⟩ := Prod.mk.inj (Option.some.inj (StoredRecord.mk.inj
        (Option.some.inj hlookup')).1)
      exact ⟨row, hrow, by rw [hrelated hentity, ← hleads'.otherEnd, ← hleads.otherEnd]⟩
    · omega

/-- **Relation views are complete and converse.**  Every directed read returns the first
current edges of its view; and where two reads under converse views do not reach their
limits, `b` is related to `a` under the one exactly when `a` is related to `b` under the
other. -/
theorem relationship_views (hjoin : EdgesJoin service.edge_registry store) :
    (∀ name resolved direction limit n a, service.edge_registry.resolve name = .ok resolved →
      Directed resolved direction → a.Valid → service.validatedLimit limit = .ok n →
        ∃ rows, service.getRelationships store (canonicalRecordId a) (some name) direction limit
          false = .ok rows ∧ FirstOfView store resolved direction a n rows) ∧
      ∀ view view', Converse service.edge_registry view view' →
        ∀ resolved resolved', service.edge_registry.resolve view.1 = .ok resolved →
          service.edge_registry.resolve view'.1 = .ok resolved' →
        ∀ limit limit' n n', service.validatedLimit limit = .ok n →
          service.validatedLimit limit' = .ok n' →
        ∀ a b rows rows', a.Valid → b.Valid →
          service.getRelationships store (canonicalRecordId a) (some view.1) view.2 limit false
            = .ok rows →
          service.getRelationships store (canonicalRecordId b) (some view'.1) view'.2 limit' false
            = .ok rows' →
          rows.length < n → rows'.length < n' →
            (.str (canonicalRecordId b) ∈ rows.map relatedId ↔
              .str (canonicalRecordId a) ∈ rows'.map relatedId) := by
  refine ⟨fun name resolved direction limit n a hresolve hdirected ha hlimit =>
    getRelationships_first hjoin hresolve hdirected ha hlimit, ?_⟩
  intro view view' hconverse resolved resolved' hresolve hresolve' limit limit' n n' hlimit hlimit'
    a b rows rows' ha hb hrows hrows' hlength hlength'
  have hmirrored := hconverse.mirrored hresolve hresolve'
  obtain ⟨_, hread, hfirst⟩ := getRelationships_first hjoin hresolve hmirrored.directed ha hlimit
  obtain rfl := Except.ok.inj (hread.symm.trans hrows)
  obtain ⟨_, hread', hfirst'⟩ :=
    getRelationships_first hjoin hresolve' hmirrored.directed' hb hlimit'
  obtain rfl := Except.ok.inj (hread'.symm.trans hrows')
  rw [hfirst.mem_related hjoin (EdgeSchemaRegistry.resolve_eq_ok hresolve).1 hlength hb,
    hfirst'.mem_related hjoin (EdgeSchemaRegistry.resolve_eq_ok hresolve').1 hlength' ha,
    ← hmirrored.schema]
  have hleads := hmirrored.leads
  constructor
  · rintro ⟨id, source, target, hcurrent, h⟩
    exact ⟨id, source, target, hcurrent, (hleads source target a b).1 h⟩
  · rintro ⟨id, source, target, hcurrent, h⟩
    exact ⟨id, source, target, hcurrent, (hleads source target a b).2 h⟩

/-! ### The graph of a store reads the same -/

/-- `None` of a stored direction is `"both"`. -/
def ReadDirection.ofStored : Option Direction → ReadDirection
  | some .out => .out
  | some .into => .into
  | none => .both

/-- A requested direction. -/
def ReadDirection.of : Direction → ReadDirection
  | .out => .out
  | .into => .into

theorem storedDirection_of (resolved : ResolvedEdgeSchema) (entity_type : String)
    (requested : Option Direction) :
    storedDirection resolved entity_type (requested.map ReadDirection.of) =
      ReadDirection.ofStored (HomeCortex.storedDirection resolved entity_type requested) := by
  obtain ⟨schema, inverse⟩ := resolved
  cases hsymmetric : schema.symmetric with
  | true =>
      simp [storedDirection, HomeCortex.storedDirection, hsymmetric, ReadDirection.ofStored]
  | false =>
      cases inverse <;> rcases requested with _ | _ | _
      case false.none =>
        cases hfrom : schema.from_types.contains entity_type <;>
          cases hto : schema.to_types.contains entity_type <;>
          simp_all [storedDirection, HomeCortex.storedDirection, ReadDirection.ofStored]
      all_goals
        simp [storedDirection, HomeCortex.storedDirection, hsymmetric, ReadDirection.of,
          ReadDirection.ofStored]

/-- On identities, the predicate of the graph is that of the statement. -/
theorem touches_eq_selects {direction : Option Direction} {source target : RecordID}
    {content : Fields} (hsource : source.Valid) (htarget : target.Valid) (ha : a.Valid) :
    (GraphEdge.mk (canonicalRecordId source) (canonicalRecordId target) content).touches direction
        (canonicalRecordId a)
      = (ReadDirection.ofStored direction).selects a (source, target) := by
  have htext : ∀ {b : RecordID}, b.Valid →
      (canonicalRecordId b == canonicalRecordId a) = (b == a) := by
    intro b hb
    rw [Bool.eq_iff_iff, beq_iff_eq, beq_iff_eq]
    exact ⟨canonicalRecordId_injective hb ha, congrArg canonicalRecordId⟩
  rcases direction with _ | _ | _ <;>
    simp [GraphEdge.touches, ReadDirection.ofStored, ReadDirection.selects, htext hsource,
      htext htarget]

section Graph

variable {tables : List String} {htables : ∀ table ∈ tables, isTableName table = true}
  {named : AliasQuery → List Entity → List Entity}
  {hnamed : ∀ query records, named query records ⊆ records} {unreachable : GraphRead → Bool}

/-- The entity of the graph at an identity is the stored record. -/
theorem entity?_graph {b : RecordID} (hb : b.Valid) :
    (store.graph tables htables named hnamed unreachable).entity? (canonicalRecordId b) =
      (store.lookup b).map fun stored =>
        ⟨canonicalRecordId b, (Surreal.row b stored).tail⟩ := by
  have hrecord : (store.graph tables htables named hnamed unreachable).record (canonicalRecordId b)
      = (store.lookup b).map fun stored => (Surreal.row b stored).tail := by
    show storedFields store (canonicalRecordId b) = _
    unfold storedFields
    rw [asRecordId_canonical hb]
    cases hlookup : store.lookup b <;> simp [Except.toOption, hlookup]
  rw [HouseholdGraph.entity?, hrecord, Option.map_map]
  rfl

theorem summary_toFields (b : RecordID) (stored : StoredRecord) :
    (entitySummary ⟨canonicalRecordId b, (Surreal.row b stored).tail⟩).toFields
      = summaryFields (Surreal.row b stored) := by
  simp [Entity.toFields, entitySummary, summaryFields, Surreal.row, entitySummaryFields]

/-- The row of an edge has the same fields in the graph. -/
theorem getD_describeEdge {schema : EdgeSchema} {id source target : RecordID} {content : Fields}
    (hsource : source.Valid ∧ (store.lookup source).isSome = true)
    (htarget : target.Valid ∧ (store.lookup target).isSome = true) (key : String) :
    (describeEdge schema (canonicalRecordId a)
        (statementRow store (id, ⟨some (source, target), content⟩))).getD key =
      ((store.graph tables htables named hnamed unreachable).edgeRow schema (canonicalRecordId a)
        ⟨canonicalRecordId source, canonicalRecordId target,
          ("id", .str (canonicalRecordId id)) :: content⟩).get key := by
  have hends := @statementRow_ends store id source target content
  have hexpanded := @statementRow_expanded store id source target content
  have hdirection : relationshipDirection (statementRow store (id, ⟨some (source, target), content⟩))
      (canonicalRecordId a) = (GraphEdge.mk (canonicalRecordId source) (canonicalRecordId target)
        (("id", .str (canonicalRecordId id)) :: content)).relationshipDirection
          (canonicalRecordId a) := by
    unfold relationshipDirection GraphEdge.relationshipDirection
    rw [hends.1, hends.2]
    by_cases h : canonicalRecordId source = canonicalRecordId a <;>
      by_cases h' : canonicalRecordId target = canonicalRecordId a <;> simp [h, h']
  have hfar : (GraphEdge.mk (canonicalRecordId source) (canonicalRecordId target)
      (("id", .str (canonicalRecordId id)) :: content)).far (canonicalRecordId a) =
        if (GraphEdge.mk (canonicalRecordId source) (canonicalRecordId target)
          (("id", .str (canonicalRecordId id)) :: content)).relationshipDirection
            (canonicalRecordId a) = "incoming" then canonicalRecordId source
        else canonicalRecordId target := by
    unfold GraphEdge.far GraphEdge.relationshipDirection
    by_cases h : canonicalRecordId source = canonicalRecordId a <;>
      by_cases h' : canonicalRecordId target = canonicalRecordId a <;> simp [h, h']
  -- Either end of the edge is described in the same way on both sides.
  have hend : ∀ (test : Prop) [Decidable test], ∃ b stored,
      (if test then expanded store source else expanded store target)
        = .obj (Surreal.row b stored) ∧
      (store.graph tables htables named hnamed unreachable).entity?
        (if test then canonicalRecordId source else canonicalRecordId target)
        = some ⟨canonicalRecordId b, (Surreal.row b stored).tail⟩ := by
    intro test _
    obtain ⟨sourced, hsourced⟩ := Option.isSome_iff_exists.1 hsource.2
    obtain ⟨targeted, htargeted⟩ := Option.isSome_iff_exists.1 htarget.2
    by_cases h : test
    · exact ⟨source, sourced, by simp [h, expanded, hsourced],
        by rw [if_pos h, entity?_graph hsource.1, hsourced]; rfl⟩
    · exact ⟨target, targeted, by simp [h, expanded, htargeted],
        by rw [if_neg h, entity?_graph htarget.1, htargeted]; rfl⟩
  unfold describeEdge HouseholdGraph.edgeRow
  simp only [hdirection, hexpanded.1, hexpanded.2, hfar]
  generalize (GraphEdge.mk (canonicalRecordId source) (canonicalRecordId target)
    (("id", .str (canonicalRecordId id)) :: content)).relationshipDirection (canonicalRecordId a)
      = direction
  obtain ⟨near, near_stored, hnear, hnear'⟩ := hend (direction = "outgoing")
  obtain ⟨far, far_stored, hfar, hfar'⟩ := hend (direction = "incoming")
  rw [hnear, hfar, hnear', hfar']
  simp only [setSummary, Json.asObject?, Edge.get, Edge.toFields, Option.map_some,
    summary_toFields, Fields.getD, Fields.get?_set, Fields.get?_without, statementRow]
  simp only [Surreal.row, Fields.get?_cons, List.mem_cons, List.not_mem_nil, or_false,
    List.cons_append, List.nil_append]
  by_cases hkey : key ∈ ["related_entity", "entity", "direction", "source_entity", "target_entity",
      "semantic_relation", "relation", "id", "in", "out"]
  · simp only [List.mem_cons, List.not_mem_nil, or_false] at hkey
    rcases hkey with rfl | rfl | rfl | rfl | rfl | rfl | rfl | rfl | rfl | rfl <;> simp
  · simp only [List.mem_cons, List.not_mem_nil, or_false, not_or] at hkey
    obtain ⟨h1, h2, h3, h4, h5, h6, h7, h8, h9, h10⟩ := hkey
    simp [h4, h5, Ne.symm h1, Ne.symm h2, Ne.symm h3, Ne.symm h4, Ne.symm h5, Ne.symm h6,
      Ne.symm h7, Ne.symm h8, Ne.symm h9, Ne.symm h10]

theorem take_filterMap {α β : Type} {f : α → Option β} {l : List α}
    (h : ∀ x ∈ l, (f x).isSome = true) (n : Nat) :
    (l.filterMap f).take n = (l.take n).filterMap f := by
  induction l generalizing n with
  | nil => simp
  | cons x l ih =>
      obtain ⟨y, hy⟩ := Option.isSome_iff_exists.1 (h x List.mem_cons_self)
      cases n with
      | zero => simp
      | succ n =>
          rw [List.filterMap_cons_some hy, List.take_succ_cons, List.take_succ_cons,
            List.filterMap_cons_some hy, ih fun z hz => h z (List.mem_cons_of_mem _ hz)]

/-- The edges that the graph selects are those of the statement. -/
theorem relationships_graph (hjoin : EdgesJoin service.edge_registry store)
    (hschema : resolved.schema ∈ service.edge_registry.schemas) (ha : a.Valid)
    (requested : Option Direction) (n : Nat) :
    ((store.graph tables htables named hnamed unreachable).relationships resolved.schema.id
        (HomeCortex.storedDirection resolved (idType (canonicalRecordId a)) requested)
        (canonicalRecordId a)).take n =
      (selectEdges store resolved.schema.id (storedDirection resolved a.table_name
        (requested.map ReadDirection.of)) a false n).filterMap
          fun edge => edge.2.graphEdge? edge.1 := by
  have hselect : ∀ edge ∈ inIdOrder (Surreal.selectTable store resolved.schema.id),
      (edge.2.graphEdge? edge.1).any (GraphEdge.touches · (HomeCortex.storedDirection resolved
        (idType (canonicalRecordId a)) requested) (canonicalRecordId a)) =
      edge.2.endpoints.any ((storedDirection resolved a.table_name
        (requested.map ReadDirection.of)).selects a) := by
    rintro ⟨id, endpoints, content⟩ hedge
    obtain ⟨hlookup, htable⟩ := Surreal.mem_selectTable.1 ((List.mem_insertionSort _).1 hedge)
    cases endpoints with
    | none => rfl
    | some ends =>
        obtain ⟨source, target⟩ := ends
        obtain ⟨hsource, htarget⟩ := hjoin _ hschema _ _ _ _ htable hlookup
        rw [storedDirection_of, idType_canonicalRecordId ha.1]
        exact touches_eq_selects hsource.1 htarget.1 ha
  have hsome : ∀ edge ∈ (inIdOrder (Surreal.selectTable store resolved.schema.id)).filter (fun edge =>
      edge.2.endpoints.any ((storedDirection resolved a.table_name
        (requested.map ReadDirection.of)).selects a) && (false || edge.2.isCurrent)),
      (edge.2.graphEdge? edge.1).isSome = true := by
    intro edge hedge
    obtain ⟨ends, hends, -⟩ := (Option.any_eq_true _ _).1
      (Bool.and_eq_true_iff.1 (List.mem_filter.1 hedge).2).1
    simp [StoredRecord.graphEdge?, hends]
  rw [selectEdges, ← take_filterMap hsome, HouseholdGraph.relationships]
  congr 1
  show List.filter _ (List.filterMap _ (List.filter _ _)) = _
  rw [List.filterMap_filter, List.filter_filterMap, List.filterMap_filter]
  refine List.filterMap_congr fun edge hedge => ?_
  rw [← hselect edge hedge]
  cases edge.2.isCurrent <;> cases edge.2.graphEdge? edge.1 <;> simp [Option.filter]

/-- **The graph of a store is read as the service reads the store.**  What a relationship
read of the graph answers has, row by row, the fields of what `get_relationships` returns. -/
theorem getRelationships_graph (hjoin : EdgesJoin service.edge_registry store) (ha : a.Valid)
    {name : String} {requested : Option Direction} {n : Nat} {edges : List Edge}
    (hlimit : service.validatedLimit (some n) = .ok n)
    (h : (store.graph tables htables named hnamed unreachable).getRelationships
      service.edge_registry (canonicalRecordId a) name requested n = some edges) :
    ∃ rows, service.getRelationships store (canonicalRecordId a) (some name)
        (requested.map ReadDirection.of) (some n) false = .ok rows ∧
      List.Forall₂ (fun row edge => ∀ key, Fields.getD row key = Edge.get edge key) rows edges := by
  unfold HouseholdGraph.getRelationships at h
  cases hresolve : service.edge_registry.resolve name with
  | error => simp only [hresolve] at h; cases h
  | ok resolved =>
      have hschema := (EdgeSchemaRegistry.resolve_eq_ok hresolve).1
      simp only [hresolve] at h
      split at h
      case isTrue => cases h
      case isFalse =>
        obtain rfl := Option.some.inj h
        refine ⟨_, getRelationships_eq hresolve ha hlimit, ?_⟩
        rw [readRelation_eq, relationships_graph hjoin hschema ha, List.map_filterMap]
        have hselected : ∀ edge ∈ selectEdges store resolved.schema.id (storedDirection resolved
            a.table_name (requested.map ReadDirection.of)) a false n,
            store.lookup edge.1 = some edge.2 ∧ edge.1.table_name = resolved.schema.id ∧
              edge.2.endpoints.isSome = true := by
          intro edge hedge
          obtain ⟨hmem, hselects⟩ := List.mem_filter.1 (List.mem_of_mem_take hedge)
          obtain ⟨ends, hends, -⟩ := (Option.any_eq_true _ _).1 (Bool.and_eq_true_iff.1 hselects).1
          obtain ⟨hlookup, htable⟩ := Surreal.mem_selectTable.1 ((List.mem_insertionSort _).1 hmem)
          exact ⟨hlookup, htable, by rw [hends]; rfl⟩
        revert hselected
        generalize selectEdges store resolved.schema.id _ a false n = selected
        intro hselected
        induction selected with
        | nil => exact List.Forall₂.nil
        | cons edge selected ih =>
            obtain ⟨id, endpoints, content⟩ := edge
            obtain ⟨hlookup, htable, hends⟩ := hselected _ List.mem_cons_self
            obtain ⟨⟨source, target⟩, rfl⟩ := Option.isSome_iff_exists.1 hends
            obtain ⟨hsource, htarget⟩ := hjoin _ hschema _ _ _ _ htable hlookup
            rw [List.map_cons, List.filterMap_cons_some (by rfl)]
            exact List.Forall₂.cons (getD_describeEdge hsource htarget)
              (ih fun edge hedge => hselected edge (List.mem_cons_of_mem _ hedge))

end Graph

/-! ### Ingested edges join -/

open Ingestion in
/-- An ingestion whose names are apart, into a database without relationships, leaves
edges that join stored records. -/
theorem edgesJoin_ingest {keep : Fields → Fields} {registry : EdgeSchemaRegistry} {dir : SourceDir}
    {before after : Store} {result : IngestionResult}
    (h : ingestDirectory keep registry dir before = .ok (after, result))
    (happart : SourceDir.NamesApart dir)
    (hbefore : ∀ schema ∈ registry.schemas, ∀ id : RecordID, id.table_name = schema.id →
      before.lookup id = none) : EdgesJoin registry after := by
  have hmirrors := (ingestDirectory_mirrors_iff h).2 happart
  obtain ⟨sources, prepared, hsources, hprepare, hafter, -⟩ := ingestDirectory_eq_ok.1 h
  intro schema hschema id source target content hid hlookup
  by_cases hedge : id.table_name ∈ dir.edge_files.map Prod.fst
  · obtain ⟨file, hfile, hname⟩ := List.mem_map.1 hedge
    obtain ⟨raws, -, hexact⟩ := hmirrors.edges file hfile
    obtain ⟨raw, -, source', target', content', hdescribes, hstored⟩ :=
      (hexact id _ hname.symm).1 hlookup
    obtain ⟨rfl, rfl⟩ := Prod.mk.inj (Option.some.inj (StoredRecord.mk.inj hstored).1)
    obtain ⟨source', target', hends, ⟨sourced, hsource⟩, targeted, htarget⟩ :=
      hmirrors.joins file hfile id _ hname.symm hlookup
    obtain ⟨rfl, rfl⟩ := Prod.mk.inj (Option.some.inj hends)
    exact ⟨⟨hdescribes.valid.1, by rw [hsource]; rfl⟩, hdescribes.valid.2, by rw [htarget]; rfl⟩
  · by_cases hretired : id.table_name ∈ retiredTables
    · rw [hafter, lookup_write_retired (prepared_valid hprepare) hretired] at hlookup
      cases hlookup
    · by_cases hnode : id.table_name ∈ sources.map Prod.fst
      · obtain ⟨table, htable, hname⟩ := List.mem_map.1 hnode
        obtain ⟨raws, -, hexact⟩ := hmirrors.nodes sources hsources table htable
        obtain ⟨raw, -, content', -, hstored⟩ := (hexact id _ hname.symm).1 hlookup
        cases (StoredRecord.mk.inj hstored).1
      · rw [hmirrors.others sources hsources id hnode hedge hretired, hbefore schema hschema id hid]
          at hlookup
        cases hlookup

/-- The relationship reads of a deployment. -/
def deployed : RetrievalService := ⟨100, .deployed⟩

/-- Where `mugSource` is stored, the mug's location and the cupboard's contents are read
in the two directions. -/
theorem mug_views :
    let store := Ingestion.write dropNulls Ingestion.mugPrepared ∅
    (∃ rows, deployed.getRelationships store "item:mug" (some "located_in") (some .out) none false
        = .ok rows ∧ FirstOfView store ⟨EdgeSchemaRegistry.locatedIn, false⟩ (some .out)
          ⟨"item", "mug"⟩ 100 rows) ∧
      ∀ rows rows',
        deployed.getRelationships store "item:mug" (some "located_in") (some .out) none false
          = .ok rows →
        deployed.getRelationships store "space:cupboard" (some "contains") none (some 7) false
          = .ok rows' → rows.length < 100 → rows'.length < 7 →
            (.str "space:cupboard" ∈ rows.map relatedId ↔ .str "item:mug" ∈ rows'.map relatedId) := by
  have h : Ingestion.ingestDirectory dropNulls EdgeSchemaRegistry.deployed Ingestion.mugSource ∅
      = .ok (Ingestion.write dropNulls Ingestion.mugPrepared ∅, ⟨2, 2, 2, 1⟩) := by
    rfl
  have happart : Ingestion.SourceDir.NamesApart Ingestion.mugSource := by
    constructor
    all_goals
      intro sources hsources
      cases hsources.symm.trans
        (show Ingestion.nodeTableSources Ingestion.mugSource = .ok _ from rfl)
      decide
  have hjoin : EdgesJoin deployed.edge_registry (Ingestion.write dropNulls Ingestion.mugPrepared ∅) :=
    edgesJoin_ingest h happart fun _ _ _ _ => rfl
  have hschema : EdgeSchemaRegistry.locatedIn ∈ EdgeSchemaRegistry.deployed.schemas := by decide
  have hviews := relationship_views hjoin
  refine ⟨hviews.1 "located_in" _ _ none 100 ⟨"item", "mug"⟩ rfl (Or.inl (by decide)) (by decide) rfl,
    fun rows rows' hrows hrows' hlength hlength' => ?_⟩
  exact hviews.2 _ _ (Converse.unnamed hschema rfl) _ _ rfl rfl none (some 7) 100 7 rfl rfl
    ⟨"item", "mug"⟩ ⟨"space", "cupboard"⟩ rows rows' (by decide) (by decide) hrows hrows' hlength
    hlength'

end RetrievalService
end HomeCortex
