/-
# Named references and the household

A name is looked up first and scoped to the household afterwards: at most
`max_records` records of the name are read, in the order of their ids, and each is
kept when the walk along its scope parents meets the household.  So the reference is
settled by the matches in scope exactly when the cut-off keeps enough of them.
-/

import HomeCortex.Facts.Resolver
import HomeCortex.Library.BoundedWalk
import HomeCortex.Library.Checked

namespace HomeCortex

open BoundedWalk

namespace HouseholdFactEngine

variable (engine : HouseholdFactEngine)

/-! ### Scope parents -/

/-- A current scope-parent edge leads from `entity_id` to the stored record `parent`; a
symmetric relation leads both ways. -/
def ScopeParent (entity_id parent : String) : Prop :=
  ∃ schema ∈ engine.schema.catalog.edge_registry.schemas, schema.scope_parent = true ∧
    schema.from_types.contains (idType entity_id) = true ∧
    (∃ edge ∈ engine.graph.edges schema.id, edge.source = entity_id ∧ edge.target = parent ∨
      schema.symmetric = true ∧ edge.target = entity_id ∧ edge.source = parent) ∧
    (engine.graph.record parent).isSome = true

theorem mem_scopeParentRelations {entity_type relation : String} :
    relation ∈ engine.scopeParentRelations entity_type ↔
      ∃ schema ∈ engine.schema.catalog.edge_registry.schemas, schema.scope_parent = true ∧
        schema.from_types.contains entity_type = true ∧ schema.id = relation := by
  unfold scopeParentRelations
  rw [List.mem_insertionSort, List.mem_map]
  constructor
  · rintro ⟨schema, hmem, rfl⟩
    rw [List.mem_filter, Bool.and_eq_true] at hmem
    exact ⟨schema, hmem.1, hmem.2.1, hmem.2.2, rfl⟩
  · rintro ⟨schema, hmem, hparent, hfrom, rfl⟩
    exact ⟨schema, List.mem_filter.2 ⟨hmem, by rw [hparent, hfrom]; rfl⟩, rfl⟩

/-- The related records of a scope read. -/
theorem mem_scopeEdges {schema : EdgeSchema}
    (hschema : schema ∈ engine.schema.catalog.edge_registry.schemas) {entity_id parent : String}
    {edges : List Edge} (h : engine.relationEdges entity_id schema.id (some .out) = .ok edges) :
    parent ∈ edges.filterMap (fun edge => edge.relatedId) ↔
      (∃ edge ∈ engine.graph.edges schema.id, edge.source = entity_id ∧ edge.target = parent ∨
        schema.symmetric = true ∧ edge.target = entity_id ∧ edge.source = parent) ∧
      (engine.graph.record parent).isSome = true := by
  unfold relationEdges at h
  obtain ⟨read, hread, h⟩ := Except.bind_eq_ok.1 h
  split at h
  case isTrue => cases h
  case isFalse hcomplete =>
    obtain rfl := Except.ok.inj h
    unfold HouseholdGraph.getRelationships at hread
    rw [EdgeSchemaRegistry.resolve_of_mem hschema] at hread
    dsimp only at hread
    split at hread
    case isTrue => cases hread
    case isFalse =>
      obtain rfl := Except.ok.inj hread
      -- a read that is not cut off returns every edge that touches the record
      rw [List.length_map, List.length_take] at hcomplete
      rw [List.take_of_length_le (by omega), List.filterMap_map]
      have hrelated : ∀ edge : GraphEdge,
          ((fun edge => Edge.relatedId edge) ∘ engine.graph.edgeRow schema entity_id) edge
            = some parent ↔
          edge.far entity_id = parent ∧ (engine.graph.record parent).isSome = true := by
        intro edge
        change ((engine.graph.entity? (edge.far entity_id)).map entitySummary).map Entity.id
          = some parent ↔ _
        unfold HouseholdGraph.entity?
        cases hrecord : engine.graph.record (edge.far entity_id) with
        | none =>
            refine iff_of_false (by simp) ?_
            rintro ⟨rfl, hsome⟩
            rw [hrecord] at hsome
            cases hsome
        | some fields =>
            simp only [Option.map_some, entitySummary, Option.some.injEq]
            constructor
            · rintro rfl
              exact ⟨rfl, by rw [hrecord]; rfl⟩
            · exact fun hfar => hfar.1
      simp only [List.mem_filterMap, hrelated, HouseholdGraph.relationships, List.mem_filter]
      have htouches : ∀ edge : GraphEdge,
          (edge.touches (storedDirection ⟨schema, false⟩ (idType entity_id) (some .out)) entity_id
              = true ∧ edge.far entity_id = parent) ↔
            (edge.source = entity_id ∧ edge.target = parent ∨
              schema.symmetric = true ∧ edge.target = entity_id ∧ edge.source = parent) := by
        intro edge
        unfold storedDirection GraphEdge.far
        cases schema.symmetric with
        | false =>
            simp only [Bool.false_eq_true, if_false, GraphEdge.touches, beq_iff_eq, false_and,
              or_false]
            constructor
            · rintro ⟨rfl, htarget⟩
              rw [if_pos rfl] at htarget
              exact ⟨rfl, htarget⟩
            · rintro ⟨rfl, rfl⟩
              exact ⟨rfl, if_pos rfl⟩
        | true =>
            simp only [if_true, GraphEdge.touches, Bool.or_eq_true, beq_iff_eq, true_and]
            constructor
            · rintro ⟨hends, hfar⟩
              by_cases hsource : edge.source = entity_id
              · rw [if_pos hsource] at hfar
                exact .inl ⟨hsource, hfar⟩
              · rw [if_neg hsource] at hfar
                exact .inr ⟨hends.resolve_left hsource, hfar⟩
            · rintro (⟨rfl, rfl⟩ | ⟨rfl, rfl⟩)
              · exact ⟨.inl rfl, if_pos rfl⟩
              · refine ⟨.inr rfl, ?_⟩
                split
                case isTrue hloop => exact hloop.symm
                case isFalse => rfl
      constructor
      · rintro ⟨edge, ⟨hedge, htouch⟩, hfar, hsome⟩
        exact ⟨⟨edge, hedge, (htouches edge).1 ⟨htouch, hfar⟩⟩, hsome⟩
      · rintro ⟨⟨edge, hedge, hends⟩, hsome⟩
        obtain ⟨htouch, hfar⟩ := (htouches edge).2 hends
        exact ⟨edge, ⟨hedge, htouch⟩, hfar, hsome⟩

/-- **What the walk finds**: within its bound, and through no failed read, it meets the
household exactly when a walk along scope parents does. -/
theorem belongsToHousehold_eq_ok {household : String} :
    ∀ {budget : Nat} {visited : List String} {entity_id : String} {found : Bool},
      engine.belongsToHousehold household budget visited entity_id = .ok found →
      (found = true → Within engine.ScopeParent budget entity_id household) ∧
        (Avoiding engine.ScopeParent budget visited entity_id household → found = true) := by
  intro budget
  induction budget with
  | zero =>
      intro visited entity_id found h
      unfold belongsToHousehold at h
      by_cases hhome : entity_id = household
      · rw [if_pos hhome] at h
        obtain rfl := Except.ok.inj h
        exact ⟨fun _ => hhome, fun _ => rfl⟩
      · rw [if_neg hhome] at h
        refine ⟨fun hfound => ?_, fun hwalk => absurd hwalk hhome⟩
        subst hfound
        split at h <;> cases h
  | succ budget ih =>
      intro visited entity_id found h
      unfold belongsToHousehold at h
      by_cases hhome : entity_id = household
      · rw [if_pos hhome] at h
        obtain rfl := Except.ok.inj h
        exact ⟨fun _ => .inl hhome, fun _ => rfl⟩
      rw [if_neg hhome] at h
      by_cases hvisited : visited.contains entity_id = true
      · rw [if_pos hvisited] at h
        obtain rfl := Except.ok.inj h
        refine ⟨fun hfound => (by cases hfound), fun hwalk => ?_⟩
        rcases hwalk with hhome' | ⟨hfresh, -⟩
        · exact absurd hhome' hhome
        · exact absurd (List.contains_iff_mem.1 hvisited) hfresh
      rw [if_neg hvisited] at h
      dsimp only at h
      cases found with
      | true =>
          refine ⟨fun _ => ?_, fun _ => rfl⟩
          obtain ⟨relation, hrelation, h⟩ := Except.anyM_eq_ok_true h
          obtain ⟨schema, hschema, hparent, hfrom, rfl⟩ :=
            engine.mem_scopeParentRelations.1 hrelation
          obtain ⟨edges, hedges, h⟩ := Except.bind_eq_ok.1 h
          obtain ⟨parent, hmem, h⟩ := Except.anyM_eq_ok_true h
          obtain ⟨hedge, hstored⟩ := (engine.mem_scopeEdges hschema hedges).1 hmem
          exact .inr ⟨parent, ⟨schema, hschema, hparent, hfrom, hedge, hstored⟩, (ih h).1 rfl⟩
      | false =>
          refine ⟨fun hfound => (by cases hfound), fun hwalk => ?_⟩
          rcases hwalk with hhome' | ⟨-, parent, hstep, hwalk⟩
          · exact absurd hhome' hhome
          · obtain ⟨schema, hschema, hparent, hfrom, hedge, hstored⟩ := hstep
            have hrelation := Except.anyM_eq_ok_false h schema.id
              (engine.mem_scopeParentRelations.2 ⟨schema, hschema, hparent, hfrom, rfl⟩)
            obtain ⟨edges, hedges, hrest⟩ := Except.bind_eq_ok.1 hrelation
            have hmem := (engine.mem_scopeEdges hschema hedges).2 ⟨hedge, hstored⟩
            exact (ih (Except.anyM_eq_ok_false hrest parent hmem)).2 hwalk

/-- A walk fails only through a failed or a cut-off read. -/
theorem belongsToHousehold_eq_error {household : String} :
    ∀ {budget : Nat} {visited : List String} {entity_id : String} {error : Raised},
      engine.belongsToHousehold household budget visited entity_id = .error error →
      ∃ failure, error = .failure failure ∧
        (failure.status = .computationImpossible ∨ failure.status = .collectionIncomplete) := by
  intro budget
  induction budget with
  | zero =>
      intro visited entity_id error h
      unfold belongsToHousehold at h
      split at h
      · cases h
      · split at h <;> cases h
  | succ budget ih =>
      intro visited entity_id error h
      unfold belongsToHousehold at h
      split at h
      · cases h
      split at h
      · cases h
      obtain ⟨relation, -, h⟩ := Except.anyM_eq_error h
      cases hedges : engine.relationEdges entity_id relation (some .out) with
      | ok edges =>
          rw [hedges] at h
          obtain ⟨parent, -, h⟩ := Except.anyM_eq_error h
          exact ih h
      | error other =>
          rw [hedges] at h
          obtain rfl : other = error := Except.error.inj h
          unfold relationEdges answered at hedges
          split at hedges
          case h_1 edges _ =>
            change (if engine.max_records < edges.length then _ else _) = _ at hedges
            split at hedges
            · exact ⟨_, (Except.error.inj hedges).symm, .inr rfl⟩
            · cases hedges
          case h_2 => exact ⟨_, (Except.error.inj hedges).symm, .inl rfl⟩

/-! ### Matches in scope -/

/-- Whether one match is kept, as `scopeNamedRecords` tests it. -/
def scopeTest (household : String) (record : Entity) : Except Raised Bool :=
  if (engine.scopeParentRelations (entityType record)).isEmpty then .ok true
  else engine.belongsToHousehold household 12 [] record.id

/-- The record lies in the household, or its type has no scope parents. -/
def InScope (household : String) (record : Entity) : Prop :=
  engine.scopeParentRelations (entityType record) = [] ∨
    Relation.ReflTransGen engine.ScopeParent record.id household

/-- The record is in scope through at most 12 scope parents. -/
def NearScope (household : String) (record : Entity) : Prop :=
  engine.scopeParentRelations (entityType record) = [] ∨
    Within engine.ScopeParent 12 record.id household

theorem NearScope.inScope {household : String} {record : Entity}
    (h : engine.NearScope household record) : engine.InScope household record :=
  h.imp_right Within.reflTransGen

theorem scopeTest_eq_ok {household : String} {record : Entity} {kept : Bool}
    (h : engine.scopeTest household record = .ok kept) :
    kept = true ↔ engine.NearScope household record := by
  unfold scopeTest at h
  unfold NearScope
  split at h
  case isTrue hempty =>
    obtain rfl := Except.ok.inj h
    exact iff_of_true rfl (.inl (List.isEmpty_iff.1 hempty))
  case isFalse hparents =>
    obtain ⟨hsound, hcomplete⟩ := engine.belongsToHousehold_eq_ok h
    constructor
    · exact fun hkept => .inr (hsound hkept)
    · rintro (hempty | hwalk)
      · exact absurd (List.isEmpty_iff.2 hempty) hparents
      · exact hcomplete hwalk.avoiding

theorem scopeTest_eq_error {household : String} {record : Entity} {error : Raised}
    (h : engine.scopeTest household record = .error error) :
    ∃ failure, error = .failure failure ∧
      (failure.status = .computationImpossible ∨ failure.status = .collectionIncomplete) := by
  unfold scopeTest at h
  split at h
  · cases h
  · exact engine.belongsToHousehold_eq_error h

open Classical in
/-- The matches in scope. -/
noncomputable def scopedMatches (household : String) (found : List Entity) : List Entity :=
  found.filter fun record => decide (engine.InScope household record)

open Classical in
/-- The matches that a walk of at most 12 parents finds in scope. -/
noncomputable def nearMatches (household : String) (found : List Entity) : List Entity :=
  found.filter fun record => decide (engine.NearScope household record)

/-- A named reference is settled by the matches in scope: the only one, not found, or
ambiguous. -/
structure Settles (household : String) (found : List Entity)
    (outcome : Except Raised (List Entity)) : Prop where
  single : ∀ record, outcome = .ok [record] ↔ engine.scopedMatches household found = [record]
  notFound : (∃ failure : FactFailure, outcome = .error (.failure failure) ∧
    failure.status = .entityNotFound) ↔ engine.scopedMatches household found = []
  ambiguous : (∃ failure : FactFailure, outcome = .error (.failure failure) ∧
    failure.status = .ambiguous) ↔ 2 ≤ (engine.scopedMatches household found).length

/-- The walks from the first `max_records` matches answer, and either two of these are
in scope near enough, or all matches in scope are among them and near enough. -/
structure SeesScope (household : String) (found : List Entity) : Prop where
  answers : ∀ record ∈ found.take engine.max_records,
    (engine.scopeTest household record).isOk = true
  sees : 2 ≤ (engine.nearMatches household (found.take engine.max_records)).length ∨
    (∀ record ∈ found.drop engine.max_records, ¬engine.InScope household record) ∧
    ∀ record ∈ found.take engine.max_records, engine.InScope household record →
      engine.NearScope household record

/-- The read of a named reference. -/
def aliasQuery (context : AgentRequestContext) (reference : SemanticReference) : AliasQuery := {
  text := reference.value.getD ""
  entity_type := reference.entity_type
  speaker_id := context.caller_entity_id
  household_id := context.household_id }

/-- What the records in scope make of a named reference. -/
def namedOutcome (records : List Entity) : Except Raised (List Entity) :=
  match records with
  | [] => raiseFailure { status := .entityNotFound }
  | [record] => .ok [record]
  | records => raiseFailure {
      status := .ambiguous
      evidence := { entity_ids := records.map Entity.id }
      candidates := records }

variable {engine} {household : String} {found : List Entity} {context : AgentRequestContext}
  {reference : SemanticReference}

theorem namedEntities_eq (hhousehold : context.household_id = some household)
    (hread : engine.graph.resolveEntityAlias (aliasQuery context reference) engine.max_records
      = some (found.take engine.max_records)) :
    engine.namedEntities context reference
      = (found.take engine.max_records).filterM (engine.scopeTest household) >>= namedOutcome := by
  unfold namedEntities
  change (answered (engine.graph.resolveEntityAlias (aliasQuery context reference)
    engine.max_records) >>= fun records =>
      engine.scopeNamedRecords context.household_id records >>= namedOutcome) = _
  rw [hread, hhousehold]
  rfl

/-- When every walk answers, the near matches settle the reference. -/
theorem namedEntities_of_answers (hhousehold : context.household_id = some household)
    (hread : engine.graph.resolveEntityAlias (aliasQuery context reference) engine.max_records
      = some (found.take engine.max_records))
    (hanswers : ∀ record ∈ found.take engine.max_records,
      (engine.scopeTest household record).isOk = true) :
    engine.namedEntities context reference
      = namedOutcome (engine.nearMatches household (found.take engine.max_records)) := by
  classical
  rw [namedEntities_eq hhousehold hread]
  cases hfilter : (found.take engine.max_records).filterM (engine.scopeTest household) with
  | error error =>
      obtain ⟨record, hrecord, hfail⟩ := Except.filterM_eq_error hfilter
      have hok := hanswers record hrecord
      rw [hfail] at hok
      cases hok
  | ok kept =>
      obtain ⟨test, htest, rfl⟩ := Except.filterM_eq_ok hfilter
      change namedOutcome _ = namedOutcome _
      congr 1
      refine List.filter_congr fun record hrecord => ?_
      rw [Bool.eq_iff_iff, decide_eq_true_eq]
      exact engine.scopeTest_eq_ok (htest record hrecord)

/-- A walk that does not answer is neither of the three outcomes. -/
theorem namedEntities_of_not_answers (hhousehold : context.household_id = some household)
    (hread : engine.graph.resolveEntityAlias (aliasQuery context reference) engine.max_records
      = some (found.take engine.max_records)) {record : Entity}
    (hrecord : record ∈ found.take engine.max_records)
    (hanswers : (engine.scopeTest household record).isOk = false) :
    ∃ failure : FactFailure, engine.namedEntities context reference = .error (.failure failure) ∧
      failure.status ≠ .entityNotFound ∧ failure.status ≠ .ambiguous := by
  rw [namedEntities_eq hhousehold hread]
  cases hfilter : (found.take engine.max_records).filterM (engine.scopeTest household) with
  | ok kept =>
      obtain ⟨test, htest, -⟩ := Except.filterM_eq_ok hfilter
      rw [htest record hrecord] at hanswers
      cases hanswers
  | error error =>
      obtain ⟨other, -, hfail⟩ := Except.filterM_eq_error hfilter
      obtain ⟨failure, rfl, hstatus⟩ := engine.scopeTest_eq_error hfail
      refine ⟨failure, rfl, ?_, ?_⟩
      · rcases hstatus with h | h <;> rw [h] <;> decide
      · rcases hstatus with h | h <;> rw [h] <;> decide

/-- The outcome tells how many records are in scope, up to two. -/
theorem settles_namedOutcome {records : List Entity} :
    engine.Settles household found (namedOutcome records) ↔
      (2 ≤ records.length ∧ 2 ≤ (engine.scopedMatches household found).length ∨
        records.length < 2 ∧ engine.scopedMatches household found = records) := by
  constructor
  · intro h
    match records with
    | [] =>
        right
        exact ⟨by decide, h.notFound.1 ⟨_, rfl, rfl⟩⟩
    | [record] =>
        right
        exact ⟨by simp, (h.single record).1 rfl⟩
    | _ :: _ :: _ =>
        left
        exact ⟨by simp, h.ambiguous.1 ⟨_, rfl, rfl⟩⟩
  · rintro (⟨hlength, hscoped⟩ | ⟨hlength, hscoped⟩)
    · match records, hlength with
      | first :: second :: rest, _ =>
        refine ⟨fun record => ?_, ?_, ?_⟩
        · refine iff_of_false (fun h => by cases h) fun h => ?_
          rw [h] at hscoped
          simp at hscoped
        · refine iff_of_false ?_ fun h => ?_
          · rintro ⟨failure, h, hstatus⟩
            obtain rfl := Raised.failure.inj (Except.error.inj h)
            cases hstatus
          · rw [h] at hscoped
            simp at hscoped
        · exact iff_of_true ⟨_, rfl, rfl⟩ hscoped
    · match records, hlength with
      | [], _ =>
        refine ⟨fun record => ?_, ?_, ?_⟩
        · exact iff_of_false (fun h => by cases h) fun h => by rw [hscoped] at h; cases h
        · exact iff_of_true ⟨_, rfl, rfl⟩ hscoped
        · refine iff_of_false ?_ fun h => ?_
          · rintro ⟨failure, h, hstatus⟩
            obtain rfl := Raised.failure.inj (Except.error.inj h)
            cases hstatus
          · rw [hscoped] at h
            simp at h
      | [first], _ =>
        refine ⟨fun record => ?_, ?_, ?_⟩
        · rw [hscoped]
          exact Except.ok.injEq .. |>.to_iff
        · exact iff_of_false (by rintro ⟨failure, h, -⟩; cases h) fun h => by
            rw [hscoped] at h; cases h
        · refine iff_of_false (by rintro ⟨failure, h, -⟩; cases h) fun h => ?_
          rw [hscoped] at h
          simp at h

/-! ### Counting matches -/

theorem nearMatches_sublist (records : List Entity) :
    (engine.nearMatches household records).Sublist (engine.scopedMatches household records) := by
  classical
  unfold nearMatches scopedMatches
  refine List.monotone_filter_right _ fun record hnear => ?_
  rw [decide_eq_true_eq] at hnear ⊢
  exact hnear.inScope

theorem scopedMatches_split : engine.scopedMatches household found =
    engine.scopedMatches household (found.take engine.max_records) ++
      engine.scopedMatches household (found.drop engine.max_records) := by
  unfold scopedMatches
  rw [← List.filter_append, List.take_append_drop]

theorem scopedMatches_eq_nil {records : List Entity} :
    engine.scopedMatches household records = [] ↔
      ∀ record ∈ records, ¬engine.InScope household record := by
  unfold scopedMatches
  simp [List.filter_eq_nil_iff]

theorem nearMatches_eq {records : List Entity} :
    engine.nearMatches household records = engine.scopedMatches household records ↔
      ∀ record ∈ records, engine.InScope household record → engine.NearScope household record := by
  classical
  unfold nearMatches scopedMatches
  constructor
  · intro h record hrecord hscope
    have hmem : record ∈ records.filter fun record => decide (engine.InScope household record) :=
      List.mem_filter.2 ⟨hrecord, decide_eq_true hscope⟩
    rw [← h] at hmem
    exact of_decide_eq_true (List.mem_filter.1 hmem).2
  · intro h
    refine List.filter_congr fun record hrecord => ?_
    rw [Bool.eq_iff_iff, decide_eq_true_eq, decide_eq_true_eq]
    exact ⟨fun hnear => hnear.inScope, h record hrecord⟩

/-- **A named reference is settled by the matches in scope exactly when the cut-off
leaves enough of them.**  `found` are the records of the name, in the order of their
ids, of which the read returns the first `max_records`. -/
theorem namedEntities_settles_iff (hhousehold : context.household_id = some household)
    (hread : engine.graph.resolveEntityAlias (aliasQuery context reference) engine.max_records
      = some (found.take engine.max_records)) :
    engine.Settles household found (engine.namedEntities context reference) ↔
      engine.SeesScope household found := by
  have hsublist := @nearMatches_sublist engine household (found.take engine.max_records)
  by_cases hanswers : ∀ record ∈ found.take engine.max_records,
      (engine.scopeTest household record).isOk = true
  case neg =>
    refine iff_of_false (fun h => ?_) fun h => hanswers h.answers
    simp only [not_forall] at hanswers
    obtain ⟨record, hrecord, hfail⟩ := hanswers
    obtain ⟨failure, houtcome, hfound, hambiguous⟩ :=
      namedEntities_of_not_answers hhousehold hread hrecord (by simpa using hfail)
    rw [houtcome] at h
    cases hscoped : engine.scopedMatches household found with
    | nil =>
        obtain ⟨other, hother, hstatus⟩ := h.notFound.2 hscoped
        obtain rfl := Raised.failure.inj (Except.error.inj hother)
        exact hfound hstatus
    | cons record rest =>
        cases rest with
        | nil => cases (h.single record).2 hscoped
        | cons second rest =>
            obtain ⟨other, hother, hstatus⟩ := h.ambiguous.2 (by rw [hscoped]; simp)
            obtain rfl := Raised.failure.inj (Except.error.inj hother)
            exact hambiguous hstatus
  case pos =>
    rw [namedEntities_of_answers hhousehold hread hanswers, settles_namedOutcome,
      scopedMatches_split]
    constructor
    · rintro (⟨hnear, -⟩ | ⟨hnear, hscoped⟩)
      · exact ⟨hanswers, .inl hnear⟩
      · refine ⟨hanswers, .inr ?_⟩
        have hlength := congrArg List.length hscoped
        rw [List.length_append] at hlength
        have hle := hsublist.length_le
        have hrest : engine.scopedMatches household (found.drop engine.max_records) = [] :=
          List.length_eq_zero_iff.1 (by omega)
        exact ⟨scopedMatches_eq_nil.1 hrest,
          nearMatches_eq.1 (hsublist.eq_of_length (by omega))⟩
    · intro h
      by_cases htwo : 2 ≤ (engine.nearMatches household (found.take engine.max_records)).length
      · left
        refine ⟨htwo, ?_⟩
        rw [List.length_append]
        have hle := hsublist.length_le
        omega
      · right
        obtain ⟨hrest, hnear⟩ := h.sees.resolve_left htwo
        refine ⟨by omega, ?_⟩
        rw [scopedMatches_eq_nil.2 hrest, List.append_nil, nearMatches_eq.2 hnear]

/-! ### Many cups -/

/-- Cups at another address, and one at home. -/
def cupIds : List String := (List.range 25).map (fun n => "item:cup" ++ toString (n + 10)) ++ ["item:mug"]

/-- An address with one cup, and another with 25. -/
def cupGraph : HouseholdGraph where
  tables := ["address", "item"]
  ids table := if table = "item" then cupIds else if table = "address" then
    ["address:home", "address:other"] else []
  record id := if id ∈ cupIds ∨ id ∈ ["address:home", "address:other"] then
    some [("name", .str "cup")] else none
  edges relation := if relation = "located_in" then
    cupIds.map fun id => ⟨id, if id = "item:mug" then "address:home" else "address:other", []⟩ else []
  named query records := records.filter fun record =>
    entityType record = "item" ∧ (query.text = "cup" ∨ record.id = "item:mug")
  fails _ := false
  record_named := by
    have hcolon : ∀ id ∈ cupIds ++ ["address:home", "address:other"], ':' ∈ id.toList := by
      decide +kernel
    intro id fields h
    split at h
    case isTrue hmem => exact hcolon id (List.mem_append.2 hmem)
    case isFalse => cases h
  ids_typed := by
    have htyped : (∀ id ∈ cupIds, idType id = "item") ∧
        ∀ id ∈ ["address:home", "address:other"], idType id = "address" := by
      decide +kernel
    intro table htable id hid
    rcases List.mem_cons.1 htable with rfl | htable
    · exact htyped.2 id hid
    · obtain rfl := List.mem_singleton.1 htable
      exact htyped.1 id hid
  named_subset _ _ _ h := (List.mem_filter.1 h).1

/-- The engine of the home with one cup, as it is configured by default. -/
def cupEngine : HouseholdFactEngine where
  graph := cupGraph
  schema := {
    catalog := {
      entities := []
      relations := []
      edge_registry := .deployed
      relations_declared := noRelation_declared .deployed }
    ontology := { validated := by decide } }
  max_records := 25
  bounded := defaultRecords_bounded

/-- A request from home. -/
def homeRequest : AgentRequestContext where
  caller_entity_id := none
  assistant_id := "agent:helper"
  assistant_display_name := "Helper"
  household_id := some "address:home"
  current_time := ⟨⟨⟨2026, 9, 27, year_2026_range, by decide⟩, 0⟩, false, .utc⟩
  conversation_id := none
  discourse := none

/-- "The cup." -/
def theCup : SemanticReference where
  kind := .namedEntity
  value := some "cup"
  entity_type := some "item"
  validated := by decide

/-- The cups, in the order of their ids. -/
def cups : List Entity := cupIds.map fun id => ⟨id, [("name", .str "cup")]⟩

/-- "The mug." -/
def theMug : SemanticReference where
  kind := .namedEntity
  value := some "mug"
  entity_type := some "item"
  validated := by decide

theorem mug_scopeParent : cupEngine.ScopeParent "item:mug" "address:home" :=
  ⟨EdgeSchemaRegistry.locatedIn, by decide +kernel, rfl, by decide +kernel,
    ⟨⟨"item:mug", "address:home", []⟩, by decide +kernel, .inl ⟨rfl, rfl⟩⟩, by decide +kernel⟩

/-- The mug is the only match of its name, and in scope. -/
theorem mug_settles : cupEngine.Settles "address:home" [⟨"item:mug", [("name", .str "cup")]⟩]
    (cupEngine.namedEntities homeRequest theMug) := by
  refine (namedEntities_settles_iff rfl (by decide +kernel)).2 ⟨by decide +kernel, .inr ⟨?_, ?_⟩⟩
  · intro record hrecord
    cases hrecord
  · intro record hrecord _
    obtain rfl := List.mem_singleton.1 hrecord
    exact .inr (.inr ⟨_, mug_scopeParent, Within.refl 11⟩)

/-- The cup at home sorts after 25 others. -/
theorem cups_not_settled :
    cupEngine.graph.resolveEntityAlias (aliasQuery homeRequest theCup) cupEngine.max_records
      = some (cups.take cupEngine.max_records) ∧
    ¬cupEngine.Settles "address:home" cups (cupEngine.namedEntities homeRequest theCup) := by
  refine ⟨by decide +kernel, fun h => ?_⟩
  have hmissed : cupEngine.namedEntities homeRequest theCup
      = .error (.failure { status := .entityNotFound }) := by
    decide +kernel
  have hnone := scopedMatches_eq_nil.1 (h.notFound.1 ⟨_, hmissed, rfl⟩)
  exact hnone ⟨"item:mug", [("name", .str "cup")]⟩ (by decide +kernel) (.inr (.single mug_scopeParent))

end HouseholdFactEngine

end HomeCortex
