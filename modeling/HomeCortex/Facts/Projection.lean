/-
# Projecting each record

`projection="each"` applies one operation to every record of a collection, or to every
final edge.  The rows of a found result are listed by `EachRows`: one for each record on
which a filter fails to decide, and one for each record, or edge, that the filters admit.
A row depends on its own record and edges alone (`projectedRow`).  Only a filter over
the final edges, and a record that cannot be read for its failed row, stop the whole
result (`execute_projectsEach`).
-/

import HomeCortex.Facts.HostedSpaces
import HomeCortex.Facts.NamedScope

namespace HomeCortex

theorem SemanticSchemaRegistry.require_eq_ok {c : Bool}
    {code : SemanticSchemaRegistry.ValidationCode} {u : Unit} :
    SemanticSchemaRegistry.require c code = .ok u ↔ c = true := by
  cases c <;> simp [SemanticSchemaRegistry.require]

/-- The final edges are projected only behind a path. -/
theorem SemanticSchemaRegistry.relationship_path (schema : SemanticSchemaRegistry)
    {request : SemanticFactRequest} (haccepted : schema.validates request = true)
    (hsource : request.property_source = .relationship) : request.subject.path ≠ [] := by
  obtain ⟨_, hcode⟩ := Except.exists_of_isOk haccepted
  unfold SemanticSchemaRegistry.validationCode at hcode
  iterate 8 obtain ⟨_, -, hcode⟩ := Except.bind_eq_ok.1 hcode
  obtain ⟨_, hshape, -⟩ := Except.bind_eq_ok.1 hcode
  have hvalid := SemanticSchemaRegistry.require_eq_ok.1 hshape
  unfold SemanticSchemaRegistry.shapeValid at hvalid
  rw [hsource] at hvalid
  simp only [Bool.and_eq_true] at hvalid
  intro hnone
  simp [hnone] at hvalid

namespace HouseholdFactEngine

variable (engine : HouseholdFactEngine)

/-! ### What a path reaches -/

/-- The records of a path are kept once, each with the edges that lead to it. -/
structure Reached.Linked (reached : Reached) : Prop where
  nodup : (reached.entities.map Entity.id).Nodup
  has_edge : ∀ entity ∈ reached.entities, ∃ edge ∈ reached.relationship_records,
    edge.relatedId = some entity.id
  reaches : ∀ edge ∈ reached.relationship_records, ∃ entity ∈ reached.entities,
    edge.relatedId = some entity.id

theorem reachedBy_linked {reads : List EntityEdges} {kept : List Entity}
    (hkept : (kept.map Entity.id).Sublist ((uniqueEntities ((reads.flatMap fun read =>
      read.sources.flatMap fun source => source.edges).filterMap fun edge =>
        edge.related_entity)).map Entity.id)) : (reachedBy reads kept).Linked := by
  have hedges : (reads.flatMap fun read => read.sources).flatMap (fun source => source.edges)
      = reads.flatMap fun read => read.sources.flatMap fun source => source.edges :=
    List.flatMap_assoc
  obtain ⟨hnodup, hmem⟩ := uniqueEntities_ids ((reads.flatMap fun read =>
    read.sources.flatMap fun source => source.edges).filterMap fun edge => edge.related_entity)
  refine ⟨hkept.nodup hnodup, fun entity hentity => ?_, fun edge hedge => ?_⟩
  · have hid : entity.id ∈ kept.map Entity.id := List.mem_map_of_mem hentity
    obtain ⟨related, hrelated, hsame⟩ := List.mem_map.1 ((hmem _).1 (hkept.subset hid))
    obtain ⟨edge, hedge, hrelated⟩ := List.mem_filterMap.1 hrelated
    have hto : edge.relatedId = some entity.id := by
      rw [Edge.relatedId, hrelated, Option.map_some, hsame]
    refine ⟨edge, List.mem_filter.2 ⟨by rwa [hedges], ?_⟩, hto⟩
    rw [hto]
    exact List.contains_iff_mem.2 hid
  · obtain ⟨-, hto⟩ := List.mem_filter.1 hedge
    obtain ⟨id, hid, hmem⟩ := (Option.any_eq_true _ _).1 hto
    obtain ⟨entity, hentity, rfl⟩ := List.mem_map.1 (List.contains_iff_mem.1 hmem)
    exact ⟨entity, hentity, hid⟩

theorem takeStep_linked {now : Clock} {anchors entities : List Entity}
    {step : SemanticRelationStep} {reached : Reached} {passed : Remembered}
    (h : engine.takeStep now anchors step entities = .ok (reached, passed)) : reached.Linked := by
  unfold takeStep at h
  split at h
  case h_1 => cases h
  case h_2 relation direction _ =>
    obtain ⟨reads, -, h⟩ := Except.bind_eq_ok.1 h
    obtain ⟨kept, hkept, h⟩ := Except.bind_eq_ok.1 h
    obtain ⟨rfl, -⟩ := Prod.mk.inj (Except.ok.inj h)
    exact reachedBy_linked (engine.filterEntities_sublist hkept)

/-- **A path reaches records that are linked by its final edges.** -/
theorem followPath_linked {now : Clock} {anchors : List Entity} {allow_empty : Bool}
    {path : List SemanticRelationStep} :
    ∀ {reached final : Reached} {remembered after : Remembered},
      (path = [] → reached.Linked) →
      engine.followPath now anchors allow_empty path reached remembered = .ok (final, after) →
      final.Linked := by
  induction path with
  | nil =>
      intro reached final remembered after hreached h
      cases h
      exact hreached rfl
  | cons step path ih =>
      intro reached final remembered after _ h
      unfold followPath at h
      obtain ⟨⟨next, passed⟩, hstep, h⟩ := Except.bind_eq_ok.1 h
      dsimp only at h
      split at h
      case isTrue =>
        split at h
        case isTrue =>
          cases h
          exact ⟨List.nodup_nil, by simp, by simp⟩
        case isFalse => cases h
      case isFalse => exact ih (fun _ => engine.takeStep_linked hstep) h

/-! ### Rows -/

/-- The filters of a relationship projection that bind its final edges. -/
def edgeFilters (request : SemanticFactRequest) : List SemanticFilter :=
  match request.property_source with
  | .relationship => request.filters.filter fun item => item.source = .relation
  | .entity => []

/-- The filters that test a record with its edges. -/
def recordFilters (request : SemanticFactRequest) : List SemanticFilter :=
  match request.property_source with
  | .relationship => request.filters.filter fun item => item.source ≠ .relation
  | .entity => request.filters

/-- What the edge filters say of a final edge. -/
def edgeOutcome (request : SemanticFactRequest) (edge : Edge) : Except Raised Bool :=
  (edgeFilters request).allM fun item => engine.relationFilterMatches request item [edge]

/-- The final edges that the edge filters admit. -/
def boundEdges (request : SemanticFactRequest) (edges : List Edge) : List Edge :=
  edges.filter fun edge => engine.edgeOutcome request edge = .ok true

/-- The records that a projection is about: those with an admitted edge, where it is about
edges. -/
def rowEntities (request : SemanticFactRequest) (entities : List Entity) (edges : List Edge) :
    List Entity :=
  match request.property_source with
  | .relationship => entities.filter fun entity =>
      ((engine.boundEdges request edges).filterMap Edge.relatedId).contains entity.id
  | .entity => entities

/-- What the record filters say of a record with its admitted edges. -/
def recordOutcome (request : SemanticFactRequest) (edges : List Edge) (now : Clock)
    (entity : Entity) : Except Raised Bool :=
  (recordFilters request).allM (engine.requestFilterMatches request entity
    (edgesTo (engine.boundEdges request edges) entity) now)

/-- The records that satisfy the filters. -/
def keptEntities (request : SemanticFactRequest) (entities : List Entity) (edges : List Edge)
    (now : Clock) : List Entity :=
  (engine.rowEntities request entities edges).filter fun entity =>
    engine.recordOutcome request edges now entity = .ok true

/-- A filter fails to decide: its input is missing, or it does not apply. -/
def undecided (outcome : Except Raised Bool) : Bool :=
  match outcome with
  | .error (.failure _) => true
  | _ => false

/-- The row of a record on which a filter fails. -/
def FailedRow (request : SemanticFactRequest) (edges : List Edge) (now : Clock) (entity : Entity)
    (row : FactRow) : Prop :=
  row.entity.id = entity.id ∧ row.evidence.entity_ids = [entity.id] ∧ row.value = .json .null ∧
    ∃ failure, engine.recordOutcome request edges now entity = .error (.failure failure) ∧
      row.status = failure.status ∧ row.missing_requirements = failure.missing

/-- The row of a kept record with some of its edges; no other record or edge has a part
in it. -/
def OwnRow (request : SemanticFactRequest) (context : AgentRequestContext) (entity : Entity)
    (group : List Edge) (row : FactRow) : Prop :=
  engine.projectedRow request context entity group = .ok row ∧ row.entity.id = entity.id ∧
    row.evidence.entity_ids = [entity.id]

/-- The rows of a projection: one for each record on which a filter fails, then one for
each kept record, or for each admitted edge to one. -/
def EachRows (request : SemanticFactRequest) (context : AgentRequestContext)
    (entities : List Entity) (edges : List Edge) (rows : List FactRow) : Prop :=
  ∃ failed projected, rows = failed ++ projected ∧
    List.Forall₂ (engine.FailedRow request edges context.current_time)
      ((engine.rowEntities request entities edges).filter fun entity =>
        undecided (engine.recordOutcome request edges context.current_time entity)) failed ∧
    match request.property_source with
    | .entity =>
        List.Forall₂ (fun entity => engine.OwnRow request context entity (edgesTo edges entity))
          (engine.keptEntities request entities edges context.current_time) projected
    | .relationship => ∃ final : List Edge,
        final.Perm ((engine.boundEdges request edges).filter fun edge => edge.relatedId.any
          ((engine.keptEntities request entities edges context.current_time).map
            Entity.id).contains) ∧
        List.Forall₂ (fun edge row => ∃ entity ∈ entities, edge.relatedId = some entity.id ∧
          engine.OwnRow request context entity [edge] row) final projected

/-- The result of an exception. -/
def raisedResult : Raised → Except PyError FactResult
  | .failure failure => .ok failure.toResult
  | .error error => .error error

/-- What a projection can come to. -/
inductive ProjectsEach (request : SemanticFactRequest) (context : AgentRequestContext)
    (entities : List Entity) (edges : List Edge) : Except PyError FactResult → Prop
  | rows {result : FactResult} (found : result.status = .found) (shape : result.shape = .rows)
      (each : engine.EachRows request context entities edges result.rows) :
      ProjectsEach request context entities edges (.ok result)
  | edge_filter {edge : Edge} {raised : Raised} (mem : edge ∈ edges)
      (raises : engine.edgeOutcome request edge = .error raised) :
      ProjectsEach request context entities edges (raisedResult raised)
  | unreadable {entity : Entity} {failure : FactFailure} {raised : Raised}
      (mem : entity ∈ engine.rowEntities request entities edges)
      (fails : engine.recordOutcome request edges context.current_time entity
        = .error (.failure failure))
      (raises : engine.loadIfUnnamed entity = .error raised) :
      ProjectsEach request context entities edges (raisedResult raised)
  | filter_error {entity : Entity} {error : PyError}
      (mem : entity ∈ engine.rowEntities request entities edges)
      (raises : engine.recordOutcome request edges context.current_time entity
        = .error (.error error)) :
      ProjectsEach request context entities edges (.error error)
  | row_error {entity : Entity} {group : List Edge} {error : PyError}
      (mem : entity ∈ engine.keptEntities request entities edges context.current_time)
      (raises : engine.projectedRow request context entity group = .error (.error error)) :
      ProjectsEach request context entities edges (.error error)

/-! ### Filtering the records -/

section Filtering

variable (request : SemanticFactRequest) (records : List Edge) (now : Clock)
  (filters : List SemanticFilter)

/-- What filters say of a record with its edges. -/
def filtersOutcome (entity : Entity) : Except Raised Bool :=
  filters.allM (engine.requestFilterMatches request entity (edgesTo records entity) now)

/-- The end of `_filter_collection`: each record is kept, dropped, or fails. -/
def partitioned (entities : List Entity) :
    Except Raised (List Entity × List Edge × List FactRow) := do
  let outcomes ← entities.mapM fun entity => do
    return (entity, ← engine.filterRecord request records now filters entity)
  let kept := outcomes.filterMap fun outcome =>
    match outcome.2 with
    | .inl true => some outcome.1
    | _ => none
  let failures := outcomes.filterMap fun outcome => outcome.2.getRight?
  return (kept,
    records.filter fun edge => edge.relatedId.any (kept.map Entity.id).contains, failures)

/-- The row of a failed filter. -/
def failureRow (entity visible : Entity) (failure : FactFailure) : FactRow := {
  entity := visible
  status := failure.status
  evidence := {
    entity_ids := [entity.id]
    relationship := lastRelation request.subject
    semantic_property := request.property }
  missing_requirements := failure.missing
  unit := resultUnit request }

variable {request records now filters}

/-- What `_filter_collection` makes of one record of a projection. -/
theorem filterRecord_each (heach : request.projection = .each) (entity : Entity) :
    engine.filterRecord request records now filters entity
      = match engine.filtersOutcome request records now filters entity with
        | .ok kept => .ok (.inl kept)
        | .error (.failure failure) => (engine.loadIfUnnamed entity).map fun visible =>
            .inr (failureRow request entity visible failure)
        | .error (.error error) => .error (.error error) := by
  unfold filterRecord
  have houtcome : engine.filtersOutcome request records now filters entity
      = filters.allM (engine.requestFilterMatches request entity (edgesTo records entity) now) := rfl
  rw [← houtcome]
  cases engine.filtersOutcome request records now filters entity with
  | ok kept => rfl
  | error raised =>
      cases raised with
      | error error => rfl
      | failure failure =>
          dsimp only
          rw [if_pos heach]
          cases engine.loadIfUnnamed entity <;> rfl

theorem recordTested (heach : request.projection = .each) {entity : Entity}
    {outcome : Entity × (Bool ⊕ FactRow)}
    (h : (do return (entity, ← engine.filterRecord request records now filters entity)) =
      Except.ok outcome) :
    (∃ kept, engine.filtersOutcome request records now filters entity = .ok kept ∧
      outcome = (entity, .inl kept)) ∨
    (∃ visible failure,
      engine.filtersOutcome request records now filters entity = .error (.failure failure) ∧
      engine.loadIfUnnamed entity = .ok visible ∧
      outcome = (entity, .inr (failureRow request entity visible failure))) := by
  rw [engine.filterRecord_each heach] at h
  cases houtcome : engine.filtersOutcome request records now filters entity with
  | ok kept =>
      rw [houtcome] at h
      exact .inl ⟨kept, rfl, (Except.ok.inj h).symm⟩
  | error raised =>
      rw [houtcome] at h
      cases raised with
      | error error => cases h
      | failure failure =>
          cases hload : engine.loadIfUnnamed entity with
          | error other =>
              rw [hload] at h
              cases h
          | ok visible =>
              rw [hload] at h
              exact .inr ⟨visible, failure, rfl, rfl, (Except.ok.inj h).symm⟩

/-- **Each record of a projection is kept, dropped or fails by itself**; only an exception
stops the others. -/
theorem partitioned_cases (heach : request.projection = .each) (entities : List Entity) :
    (∃ failed, engine.partitioned request records now filters entities
        = .ok (entities.filter fun entity =>
            engine.filtersOutcome request records now filters entity = .ok true,
          records.filter fun edge => edge.relatedId.any ((entities.filter fun entity =>
            engine.filtersOutcome request records now filters entity = .ok true).map
              Entity.id).contains, failed) ∧
      List.Forall₂ (fun entity row => ∃ visible failure,
          engine.filtersOutcome request records now filters entity = .error (.failure failure) ∧
          engine.loadIfUnnamed entity = .ok visible ∧
          row = failureRow request entity visible failure)
        (entities.filter fun entity =>
          undecided (engine.filtersOutcome request records now filters entity)) failed) ∨
    (∃ entity ∈ entities, ∃ failure raised,
      engine.filtersOutcome request records now filters entity = .error (.failure failure) ∧
      engine.loadIfUnnamed entity = .error raised ∧
      engine.partitioned request records now filters entities = .error raised) ∨
    (∃ entity ∈ entities, ∃ error,
      engine.filtersOutcome request records now filters entity = .error (.error error) ∧
      engine.partitioned request records now filters entities = .error (.error error)) := by
  unfold partitioned
  cases houtcomes : entities.mapM fun entity => do
      return (entity, ← engine.filterRecord request records now filters entity) with
  | error raised =>
      right
      obtain ⟨entity, hentity, hraised⟩ := Except.mapM_eq_error houtcomes
      rw [engine.filterRecord_each heach] at hraised
      cases houtcome : engine.filtersOutcome request records now filters entity with
      | ok kept =>
          rw [houtcome] at hraised
          cases hraised
      | error cause =>
          rw [houtcome] at hraised
          cases cause with
          | error error =>
              cases hraised
              exact .inr ⟨entity, hentity, error, houtcome, rfl⟩
          | failure failure =>
              cases hload : engine.loadIfUnnamed entity with
              | ok visible =>
                  rw [hload] at hraised
                  cases hraised
              | error other =>
                  rw [hload] at hraised
                  cases hraised
                  exact .inl ⟨entity, hentity, failure, _, houtcome, hload, rfl⟩
  | ok outcomes =>
      left
      have hrelated := Except.mapM_eq_ok.1 houtcomes
      have hkept : List.Forall₂ Eq (entities.filter fun entity =>
          engine.filtersOutcome request records now filters entity = .ok true)
          (outcomes.filterMap fun outcome =>
            match outcome.2 with
            | .inl true => some outcome.1
            | _ => none) := by
        refine List.forall₂_filter_filterMap hrelated fun entity outcome h => ?_
        rcases engine.recordTested heach h with
          ⟨kept, houtcome, rfl⟩ | ⟨visible, failure, houtcome, -, rfl⟩
        · cases kept <;> simp [houtcome]
        · simp [houtcome]
      have hfailed : List.Forall₂ (fun entity row => ∃ visible failure,
          engine.filtersOutcome request records now filters entity = .error (.failure failure) ∧
          engine.loadIfUnnamed entity = .ok visible ∧
          row = failureRow request entity visible failure)
        (entities.filter fun entity =>
          undecided (engine.filtersOutcome request records now filters entity))
        (outcomes.filterMap fun outcome => outcome.2.getRight?) := by
        refine List.forall₂_filter_filterMap hrelated fun entity outcome h => ?_
        rcases engine.recordTested heach h with
          ⟨kept, houtcome, rfl⟩ | ⟨visible, failure, houtcome, hload, rfl⟩
        · exact .inr ⟨by rw [houtcome]; rfl, rfl⟩
        · exact .inl ⟨by rw [houtcome]; rfl, _, rfl, visible, failure, houtcome, hload, rfl⟩
      refine ⟨_, ?_, hfailed⟩
      rw [List.forall₂_eq_eq_eq] at hkept
      rw [hkept]
      rfl

end Filtering

/-! ### Filtering the edges -/

section Edges

variable {request : SemanticFactRequest} {entities : List Entity} {edges : List Edge} {now : Clock}

theorem edgeFilters_relationship (hsource : request.property_source = .relationship) :
    edgeFilters request = request.filters.filter fun item => item.source = .relation := by
  rw [edgeFilters, hsource]

theorem filterCollection_bound (heach : request.projection = .each)
    (hfilters : edgeFilters request ≠ []) :
    engine.filterCollection request entities edges now
      = edges.filterM (engine.edgeOutcome request) >>= fun records =>
          engine.partitioned request records now (recordFilters request)
            (entities.filter fun entity =>
              (records.filterMap Edge.relatedId).contains entity.id) := by
  cases hsource : request.property_source with
  | entity => exact absurd (by rw [edgeFilters, hsource]) hfilters
  | relationship =>
      have hrecord : request.filters.filter (fun item => item.source ≠ .relation)
          = recordFilters request := by
        rw [recordFilters, hsource]
      unfold filterCollection
      dsimp only
      rw [← edgeFilters_relationship hsource, hrecord, heach, hsource]
      cases hlist : edgeFilters request with
      | nil => exact absurd hlist hfilters
      | cons item items =>
          rw [← hlist]
          simp only [hlist, List.isEmpty_cons, decide_true, Bool.and_self, Bool.not_false, if_true]
          rw [← hlist]
          rfl

theorem filterCollection_plain (hfilters : edgeFilters request = []) :
    engine.filterCollection request entities edges now
      = engine.partitioned request edges now request.filters entities := by
  have hplain : (request.projection = .each && request.property_source = .relationship &&
      !(request.filters.filter fun item => item.source = .relation).isEmpty) = false := by
    cases hsource : request.property_source with
    | entity => simp
    | relationship =>
        rw [← edgeFilters_relationship hsource, hfilters]
        simp
  unfold filterCollection
  dsimp only
  rw [hplain]
  rfl

theorem recordFilters_plain (hfilters : edgeFilters request = []) :
    recordFilters request = request.filters := by
  unfold recordFilters
  cases hsource : request.property_source with
  | entity => rfl
  | relationship =>
      rw [edgeFilters_relationship hsource] at hfilters
      refine List.filter_eq_self.2 fun item hitem => ?_
      simpa using List.filter_eq_nil_iff.1 hfilters item hitem

theorem boundEdges_plain (hfilters : edgeFilters request = []) :
    engine.boundEdges request edges = edges := by
  refine List.filter_eq_self.2 fun edge _ => ?_
  rw [edgeOutcome, hfilters]
  rfl

theorem rowEntities_plain (hfilters : edgeFilters request = [])
    (hlinked : request.property_source = .relationship → ∀ entity ∈ entities, ∃ edge ∈ edges,
      edge.relatedId = some entity.id) :
    engine.rowEntities request entities edges = entities := by
  unfold rowEntities
  cases hsource : request.property_source with
  | entity => rfl
  | relationship =>
      refine List.filter_eq_self.2 fun entity hentity => ?_
      obtain ⟨edge, hedge, hto⟩ := hlinked hsource entity hentity
      rw [engine.boundEdges_plain hfilters, List.contains_iff_mem]
      exact List.mem_filterMap.2 ⟨edge, hedge, hto⟩

end Edges

/-! ### The filters of a projection -/

section Projected

variable {request : SemanticFactRequest} {context : AgentRequestContext} {entities : List Entity}
  {edges : List Edge}

theorem mem_edgesTo {records : List Edge} {entity : Entity} {edge : Edge} :
    edge ∈ edgesTo records entity ↔ edge ∈ records ∧ edge.relatedId = some entity.id := by
  rw [edgesTo, List.mem_filter, beq_iff_eq]

/-- The edges of a kept record are among those that are kept. -/
theorem edgesTo_kept {records : List Edge} {kept : List Entity} {entity : Entity}
    (hkept : entity ∈ kept) :
    edgesTo (records.filter fun edge => edge.relatedId.any (kept.map Entity.id).contains) entity
      = edgesTo records entity := by
  unfold edgesTo
  rw [List.filter_filter]
  refine List.filter_congr fun edge _ => ?_
  cases hto : edge.relatedId == some entity.id with
  | false => rfl
  | true =>
      rw [Bool.true_and, beq_iff_eq.1 hto]
      exact List.contains_iff_mem.2 (List.mem_map_of_mem hkept)

variable (request context entities edges)

/-- What the filters leave for a projection, or what stops it. -/
def Filtered (outcome : Except Raised (List Entity × List Edge × List FactRow)) : Prop :=
  (∃ records failed, outcome
      = .ok (engine.keptEntities request entities edges context.current_time, records, failed) ∧
    (∀ entity ∈ engine.keptEntities request entities edges context.current_time,
      edgesTo records entity = edgesTo (engine.boundEdges request edges) entity) ∧
    List.Forall₂ (engine.FailedRow request edges context.current_time)
      ((engine.rowEntities request entities edges).filter fun entity =>
        undecided (engine.recordOutcome request edges context.current_time entity)) failed) ∨
  ∃ raised, outcome = .error raised ∧
    engine.ProjectsEach request context entities edges (raisedResult raised)

variable {request context entities edges}

theorem partitioned_filtered (heach : request.projection = .each) :
    engine.Filtered request context entities edges
      (engine.partitioned request (engine.boundEdges request edges) context.current_time
        (recordFilters request) (engine.rowEntities request entities edges)) := by
  rcases engine.partitioned_cases heach (engine.rowEntities request entities edges) with
    ⟨failed, hok, hfailed⟩ | ⟨entity, hentity, failure, raised, hfails, hload, herror⟩ |
    ⟨entity, hentity, error, hfails, herror⟩
  · rw [hok]
    refine .inl ⟨_, failed, rfl, fun entity hentity => edgesTo_kept hentity, hfailed.imp ?_⟩
    rintro entity row ⟨visible, failure, hfails, hload, rfl⟩
    exact ⟨engine.loadIfUnnamed_id hload, rfl, rfl, failure, hfails, rfl, rfl⟩
  · exact .inr ⟨raised, herror, .unreadable hentity hfails hload⟩
  · exact .inr ⟨.error error, herror, .filter_error hentity hfails⟩

/-- Without filters everything is kept. -/
theorem unfiltered (hfilters : request.filters = [])
    (hrows : engine.rowEntities request entities edges = entities)
    (hbound : engine.boundEdges request edges = edges) :
    engine.Filtered request context entities edges (.ok (entities, edges, [])) := by
  have houtcome : ∀ entity,
      engine.recordOutcome request edges context.current_time entity = .ok true := by
    intro entity
    have hnone : recordFilters request = [] := by
      unfold recordFilters
      rw [hfilters]
      split <;> rfl
    rw [recordOutcome, hnone]
    rfl
  have hkept : engine.keptEntities request entities edges context.current_time = entities := by
    rw [keptEntities, hrows]
    exact List.filter_eq_self.2 fun entity _ => by rw [houtcome, decide_eq_true rfl]
  refine .inl ⟨edges, [], by rw [hkept], fun entity _ => by rw [hbound], ?_⟩
  rw [List.filter_eq_nil_iff.2 fun entity _ => by rw [houtcome]; exact Bool.false_ne_true]
  exact .nil

/-- **The filters of a projection** leave the records that satisfy them, and a row for each
record on which one fails; only an exception stops them. -/
theorem filtered (heach : request.projection = .each)
    (hlinked : request.property_source = .relationship → ∀ entity ∈ entities, ∃ edge ∈ edges,
      edge.relatedId = some entity.id) :
    engine.Filtered request context entities edges
      (if request.filters.isEmpty then pure (entities, edges, [])
        else engine.filterCollection request entities edges context.current_time) := by
  by_cases hedge : edgeFilters request = []
  · have hbound : engine.boundEdges request edges = edges := engine.boundEdges_plain hedge
    have hrows := engine.rowEntities_plain hedge hlinked
    cases hfilters : request.filters with
    | nil => exact engine.unfiltered hfilters hrows hbound
    | cons item items =>
        have hpart : engine.Filtered request context entities edges _ :=
          engine.partitioned_filtered heach
        rw [hbound, recordFilters_plain hedge, hrows] at hpart
        rw [List.isEmpty_cons, if_neg Bool.false_ne_true, engine.filterCollection_plain hedge]
        exact hpart
  · have hfilters : request.filters.isEmpty = false := by
      cases hfilters : request.filters with
      | nil =>
          refine absurd ?_ hedge
          unfold edgeFilters
          rw [hfilters]
          split <;> rfl
      | cons item items => rfl
    rw [hfilters, if_neg Bool.false_ne_true, engine.filterCollection_bound heach hedge]
    cases hedges : edges.filterM (engine.edgeOutcome request) with
    | error raised =>
        obtain ⟨edge, hmem, hraises⟩ := Except.filterM_eq_error hedges
        exact .inr ⟨raised, rfl, .edge_filter hmem hraises⟩
    | ok records =>
        obtain ⟨q, hq, rfl⟩ := Except.filterM_eq_ok hedges
        have hbound : edges.filter q = engine.boundEdges request edges := by
          refine List.filter_congr fun edge hmem => ?_
          rw [hq edge hmem]
          simp
        have hrows : entities.filter (fun entity =>
            ((engine.boundEdges request edges).filterMap Edge.relatedId).contains entity.id)
            = engine.rowEntities request entities edges := by
          cases hsource : request.property_source with
          | entity => exact absurd (by rw [edgeFilters, hsource]) hedge
          | relationship => rw [rowEntities, hsource]
        change engine.Filtered request context entities edges
          (engine.partitioned request (edges.filter q) context.current_time (recordFilters request)
            (entities.filter fun entity =>
              ((edges.filter q).filterMap Edge.relatedId).contains entity.id))
        rw [hbound, hrows]
        exact engine.partitioned_filtered heach

end Projected

/-! ### The rows of a projection -/

/-- What the run of a row reads is its record. -/
theorem visible_id {entity visible : Entity} {operate : Except Raised FactResult}
    {value : FactResult}
    (h : (do return (← engine.loadIfUnnamed entity, ← operate)) = Except.ok (visible, value)) :
    visible.id = entity.id := by
  obtain ⟨loaded, hload, h⟩ := Except.bind_eq_ok.1 h
  obtain ⟨result, -, h⟩ := Except.bind_eq_ok.1 h
  obtain ⟨rfl, -⟩ := Prod.mk.inj (Except.ok.inj h)
  exact engine.loadIfUnnamed_id hload

/-- A row is never a failure of the whole result, and its identity is that of its record. -/
theorem projectedRow_cases (request : SemanticFactRequest) (context : AgentRequestContext)
    (entity : Entity) (group : List Edge) :
    (∃ row, engine.projectedRow request context entity group = .ok row ∧
      row.entity.id = entity.id ∧ row.evidence.entity_ids = [entity.id]) ∨
    ∃ error, engine.projectedRow request context entity group = .error (.error error) := by
  unfold projectedRow
  dsimp only
  generalize lastRelation request.subject = relation
  cases relation with
  | none =>
      cases group with
      | cons edge group => exact .inr ⟨_, rfl⟩
      | nil =>
          dsimp only
          rw [pure_bind]
          split
          case h_1 visible value hrun => exact .inl ⟨_, rfl, engine.visible_id hrun, rfl⟩
          case h_2 failure _ => exact .inl ⟨_, rfl, rfl, rfl⟩
          case h_3 raised hfailure hrun =>
            cases raised with
            | failure failure => exact absurd rfl (hfailure failure)
            | error error => exact .inr ⟨error, rfl⟩
  | some relation =>
      dsimp only
      rw [pure_bind]
      split
      case h_1 visible value hrun => exact .inl ⟨_, rfl, engine.visible_id hrun, rfl⟩
      case h_2 failure _ => exact .inl ⟨_, rfl, rfl, rfl⟩
      case h_3 raised hfailure hrun =>
        cases raised with
        | failure failure => exact absurd rfl (hfailure failure)
        | error error => exact .inr ⟨error, rfl⟩

/-- The groups of edges that a kept record has its rows for. -/
def rowGroups (request : SemanticFactRequest) (edges : List Edge) (entity : Entity) :
    List (Entity × List Edge) :=
  match request.property_source with
  | .relationship => (edgesTo edges entity).map fun edge => (entity, [edge])
  | .entity => [(entity, edgesTo edges entity)]

theorem owner_of_rowGroups {request : SemanticFactRequest} {edges : List Edge} {entity : Entity}
    {owner : Entity × List Edge} (h : owner ∈ rowGroups request edges entity) :
    owner.1 = entity := by
  unfold rowGroups at h
  split at h
  · obtain ⟨edge, -, rfl⟩ := List.mem_map.1 h
    rfl
  · rw [List.mem_singleton.1 h]

theorem projectEach_eq {request : SemanticFactRequest} {context : AgentRequestContext}
    {kept : List Entity} {records edges : List Edge} {failed : List FactRow}
    (hedges : ∀ entity ∈ kept, edgesTo records entity = edgesTo edges entity)
    (hlinked : request.property_source = .relationship →
      ∀ entity ∈ kept, edgesTo edges entity ≠ []) :
    engine.projectEach request kept records context failed
      = ((kept.flatMap (rowGroups request edges)).mapM fun owner =>
          engine.projectedRow request context owner.1 owner.2).map fun rows =>
            { status := .found, shape := .rows, rows := failed ++ rows } := by
  have hgroups : kept.mapM (fun entity => (rowGroups request edges entity).mapM fun owner =>
        engine.projectedRow request context owner.1 owner.2)
      = kept.mapM fun entity =>
          let edges := edgesTo records entity
          let groups := if request.property_source = .relationship then
            edges.map fun edge => [edge] else [edges]
          (if groups.isEmpty then [[]] else groups).mapM
            (engine.projectedRow request context entity) := by
    refine Except.mapM_congr fun entity hentity => ?_
    unfold rowGroups
    dsimp only
    rw [hedges entity hentity]
    cases hsource : request.property_source with
    | entity => rfl
    | relationship =>
        cases hto : edgesTo edges entity with
        | nil => exact absurd hto (hlinked hsource entity hentity)
        | cons edge rest =>
            show ((edge :: rest).map fun edge => (entity, [edge])).mapM _
              = ((edge :: rest).map fun edge => [edge]).mapM _
            rw [List.mapM_map, List.mapM_map]
            rfl
  unfold projectEach
  rw [← hgroups, Except.mapM_flatMap]
  cases kept.mapM fun entity => (rowGroups request edges entity).mapM fun owner =>
      engine.projectedRow request context owner.1 owner.2 <;> rfl

/-- The edges of kept records, record by record, are the edges that lead to one. -/
theorem flatMap_edgesTo_perm {edges : List Edge} {kept : List Entity}
    (hnodup : (kept.map Entity.id).Nodup) :
    (kept.flatMap (edgesTo edges)).Perm
      (edges.filter fun edge => edge.relatedId.any (kept.map Entity.id).contains) := by
  induction kept with
  | nil =>
      rw [List.flatMap_nil, List.filter_eq_nil_iff.2 fun edge _ => ?_]
      cases edge.relatedId <;> simp
  | cons entity kept ih =>
      rw [List.map_cons, List.nodup_cons] at hnodup
      rw [List.flatMap_cons]
      have hsplit := List.filter_append_perm (fun edge : Edge => edge.relatedId == some entity.id)
        (edges.filter fun edge => edge.relatedId.any ((entity :: kept).map Entity.id).contains)
      rw [List.filter_filter, List.filter_filter] at hsplit
      refine List.Perm.trans ?_ hsplit
      have hfirst : edges.filter (fun edge => edge.relatedId == some entity.id &&
          edge.relatedId.any ((entity :: kept).map Entity.id).contains) = edgesTo edges entity := by
        refine List.filter_congr fun edge _ => ?_
        cases hto : edge.relatedId == some entity.id with
        | false => rfl
        | true =>
            rw [beq_iff_eq.1 hto]
            simp
      have hrest : edges.filter (fun edge => !(edge.relatedId == some entity.id) &&
          edge.relatedId.any ((entity :: kept).map Entity.id).contains)
          = edges.filter fun edge => edge.relatedId.any (kept.map Entity.id).contains := by
        refine List.filter_congr fun edge _ => ?_
        cases hto : edge.relatedId with
        | none => rfl
        | some id =>
            by_cases hid : id = entity.id
            · subst hid
              simpa using hnodup.1
            · simp [hid]
      rw [hfirst, hrest]
      exact (ih hnodup.2).append_left _

/-! ### The resolved records -/

/-- A reference that resolves has followed its path. -/
theorem resolve_eq_ok {reference : SemanticReference} {context : AgentRequestContext}
    {evidence : List FactRelationshipEvidence} {allow_empty expect_many : Bool}
    {resolution : ResolvedEntities}
    (h : engine.resolve reference context evidence allow_empty expect_many
      = .ok (.inr resolution)) :
    ∃ reached remembered,
      engine.resolvePath context reference allow_empty = .ok (reached, remembered) ∧
      resolution.entities = reached.entities ∧
      resolution.relationship_records = reached.relationship_records := by
  unfold resolve at h
  obtain ⟨outcome, houtcome, h⟩ := Except.bind_eq_ok.1 h
  cases outcome with
  | inl failed => cases h
  | inr found =>
      obtain rfl := Except.ok.inj h
      cases hresolved : engine.resolved reference context evidence allow_empty expect_many with
      | error raised =>
          rw [hresolved] at houtcome
          cases raised <;> cases houtcome
      | ok value =>
          rw [hresolved] at houtcome
          obtain rfl : value = .inr resolution := Sum.inr.inj (Except.ok.inj houtcome)
          unfold resolved at hresolved
          obtain ⟨⟨reached, remembered⟩, hpath, hresolved⟩ := Except.bind_eq_ok.1 hresolved
          dsimp only at hresolved
          split at hresolved
          case isTrue =>
            obtain ⟨candidates, -, hresolved⟩ := Except.bind_eq_ok.1 hresolved
            cases hresolved
          case isFalse =>
            cases hresolved
            exact ⟨reached, remembered, hpath, rfl, rfl⟩

/-- The subject of a grounded request is resolved. -/
theorem ground_subject {request : SemanticFactRequest} {context : AgentRequestContext}
    {grounded : Grounded} (h : engine.ground request context = .ok (.inr grounded)) :
    engine.resolve request.subject context [] (allowsEmpty request) (expectsMany request)
      = .ok (.inr grounded.subject) := by
  unfold ground at h
  obtain ⟨subject, hsubject, h⟩ := Except.bind_eq_ok.1 h
  dsimp only at h
  split at h
  all_goals
    obtain ⟨other, -, h⟩ := Except.bind_eq_ok.1 h
    obtain ⟨⟨excluded, relationships⟩, -, h⟩ := Except.bind_eq_ok.1 h
    dsimp only at h
    split at h
    case h_1 => cases h
    case h_2 => cases h
    case h_3 => cases h
    case h_4 =>
      cases h
      exact hsubject

namespace Grounded

variable (grounded : Grounded)

/-- The resolved records that are not excluded. -/
def included : List Entity :=
  grounded.subject.entities.filter fun item => !grounded.excluded.contains item.id

/-- The final edges to records that are not excluded. -/
def includedEdges : List Edge :=
  grounded.subject.relationship_records.filter fun edge =>
    !edge.relatedId.any grounded.excluded.contains

end Grounded

/-- The records behind a path are kept once, each with an edge that leads to it. -/
theorem included_linked {request : SemanticFactRequest} {context : AgentRequestContext}
    {grounded : Grounded} (hground : engine.ground request context = .ok (.inr grounded))
    (hpath : request.subject.path ≠ []) :
    (grounded.included.map Entity.id).Nodup ∧
      ∀ entity ∈ grounded.included, ∃ edge ∈ grounded.includedEdges,
        edge.relatedId = some entity.id := by
  obtain ⟨reached, remembered, hresolved, hentities, hrecords⟩ :=
    engine.resolve_eq_ok (engine.ground_subject hground)
  obtain ⟨roots, -, hfollow⟩ := Except.bind_eq_ok.1 hresolved
  have hlinked := engine.followPath_linked (fun hnone => absurd hnone hpath) hfollow
  refine ⟨?_, fun entity hentity => ?_⟩
  · refine List.Nodup.sublist ?_ hlinked.nodup
    rw [← hentities]
    exact List.filter_sublist.map _
  · obtain ⟨hmem, hkept⟩ := List.mem_filter.1 hentity
    obtain ⟨edge, hedge, hto⟩ := hlinked.has_edge entity (hentities ▸ hmem)
    refine ⟨edge, List.mem_filter.2 ⟨hrecords ▸ hedge, ?_⟩, hto⟩
    rw [hto]
    exact hkept

/-! ### Running a projection -/

section Run

variable {request : SemanticFactRequest} {context : AgentRequestContext} {entities : List Entity}
  {edges : List Edge}

/-- A relationship projection keeps records only with an admitted edge. -/
theorem edgesTo_ne_nil (hsource : request.property_source = .relationship) {entity : Entity}
    (hentity : entity ∈ engine.keptEntities request entities edges context.current_time) :
    edgesTo (engine.boundEdges request edges) entity ≠ [] := by
  have hrow := (List.mem_filter.1 hentity).1
  rw [rowEntities, hsource] at hrow
  obtain ⟨edge, hedge, hto⟩ := List.mem_filterMap.1
    (List.contains_iff_mem.1 (List.mem_filter.1 hrow).2)
  exact List.ne_nil_of_mem (mem_edgesTo.2 ⟨hedge, hto⟩)

theorem ownRow_of_projectedRow {entity : Entity} {group : List Edge} {row : FactRow}
    (h : engine.projectedRow request context entity group = .ok row) :
    engine.OwnRow request context entity group row := by
  rcases engine.projectedRow_cases request context entity group with
    ⟨other, hother, hids⟩ | ⟨error, herror⟩
  · rw [h] at hother
    obtain rfl := Except.ok.inj hother
    exact ⟨h, hids⟩
  · rw [h] at herror
    cases herror

theorem eachRows_of_projected {failed projected : List FactRow}
    (hfailed : List.Forall₂ (engine.FailedRow request edges context.current_time)
      ((engine.rowEntities request entities edges).filter fun entity =>
        undecided (engine.recordOutcome request edges context.current_time entity)) failed)
    (hnodup : request.property_source = .relationship → (entities.map Entity.id).Nodup)
    (hprojected : List.Forall₂
      (fun owner row => engine.projectedRow request context owner.1 owner.2 = .ok row)
      ((engine.keptEntities request entities edges context.current_time).flatMap
        (rowGroups request (engine.boundEdges request edges))) projected) :
    engine.EachRows request context entities edges (failed ++ projected) := by
  refine ⟨failed, projected, rfl, hfailed, ?_⟩
  cases hsource : request.property_source with
  | entity =>
      have hbound : engine.boundEdges request edges = edges :=
        engine.boundEdges_plain (by rw [edgeFilters, hsource])
      have howners : (engine.keptEntities request entities edges context.current_time).flatMap
          (rowGroups request (engine.boundEdges request edges))
          = (engine.keptEntities request entities edges context.current_time).map fun entity =>
              (entity, edgesTo edges entity) := by
        rw [List.map_eq_flatMap, hbound]
        refine List.flatMap_congr fun entity _ => ?_
        rw [rowGroups, hsource]
      rw [howners, List.forall₂_map_left_iff] at hprojected
      exact hprojected.imp fun entity row h => engine.ownRow_of_projectedRow h
  | relationship =>
      have hsublist : (engine.keptEntities request entities edges context.current_time).Sublist
          entities := by
        rw [keptEntities, rowEntities, hsource]
        exact List.filter_sublist.trans List.filter_sublist
      refine ⟨_, flatMap_edgesTo_perm ((hnodup hsource).sublist (hsublist.map _)), ?_⟩
      let pairs := (engine.keptEntities request entities edges context.current_time).flatMap
        fun entity => (edgesTo (engine.boundEdges request edges) entity).map fun edge =>
          (entity, edge)
      have howners : (engine.keptEntities request entities edges context.current_time).flatMap
          (rowGroups request (engine.boundEdges request edges))
          = pairs.map fun pair => (pair.1, [pair.2]) := by
        rw [List.map_flatMap]
        refine List.flatMap_congr fun entity _ => ?_
        rw [rowGroups, hsource, List.map_map]
        rfl
      have hfinal : (engine.keptEntities request entities edges context.current_time).flatMap
          (edgesTo (engine.boundEdges request edges)) = pairs.map Prod.snd := by
        rw [List.map_flatMap]
        refine List.flatMap_congr fun entity _ => ?_
        rw [List.map_map]
        exact (List.map_id _).symm
      have hpairs : ∀ pair ∈ pairs, pair.1 ∈ entities ∧ pair.2.relatedId = some pair.1.id := by
        intro pair hpair
        obtain ⟨entity, hentity, hpair⟩ := List.mem_flatMap.1 hpair
        obtain ⟨edge, hedge, rfl⟩ := List.mem_map.1 hpair
        exact ⟨hsublist.subset hentity, (mem_edgesTo.1 hedge).2⟩
      rw [howners, List.forall₂_map_left_iff] at hprojected
      rw [hfinal, List.forall₂_map_left_iff]
      refine ((List.forall₂_and_left _ _).2 ⟨hpairs, hprojected⟩).imp ?_
      rintro ⟨entity, edge⟩ row ⟨⟨hmem, hto⟩, hrow⟩
      exact ⟨entity, hmem, hto, engine.ownRow_of_projectedRow hrow⟩

/-- What an exception of `compute` makes of `execute`. -/
theorem execute_raised {grounded : Grounded} {raised : Raised}
    (haccepted : engine.schema.validates request = true)
    (hground : engine.ground request context = .ok (.inr grounded))
    (hcompute : engine.compute request context grounded = .error raised) :
    engine.execute request context = raisedResult raised := by
  unfold execute
  rw [haccepted, hground]
  change (orFailed (engine.compute request context grounded) >>= _) = _
  rw [hcompute]
  cases raised <;> rfl

theorem execute_computed {grounded : Grounded} {result : FactResult} {entities : List Entity}
    (haccepted : engine.schema.validates request = true)
    (hground : engine.ground request context = .ok (.inr grounded))
    (hcompute : engine.compute request context grounded = .ok (result, entities)) :
    engine.execute request context = .ok (finished request grounded result entities) := by
  unfold execute
  rw [haccepted, hground]
  change (orFailed (engine.compute request context grounded) >>= _) = _
  rw [hcompute]
  rfl

theorem compute_each (heach : request.projection = .each) (grounded : Grounded) :
    engine.compute request context grounded
      = (if request.filters.isEmpty then pure (grounded.included, grounded.includedEdges, [])
          else engine.filterCollection request grounded.included grounded.includedEdges
            context.current_time) >>= fun filtered =>
          engine.projectEach request filtered.1 filtered.2.1 context filtered.2.2 >>= fun result =>
            return (result, filtered.1) := by
  unfold compute
  rw [heach]
  dsimp only
  split <;> rfl

end Run

/-! ### A household -/

/-- The people of a household: only Ada's residence has a start. -/
def residenceGraph : HouseholdGraph where
  tables := ["address", "person"]
  ids table := if table = "address" then ["address:home"] else if table = "person" then
    ["person:ada", "person:ben"] else []
  record id := if id = "address:home" then some [("name", .str "Home")]
    else if id = "person:ada" then
      some [("name", .str "Ada"), ("gender", .str "female"), ("dob", .str "1980-02-03")]
    else if id = "person:ben" then some [("name", .str "Ben"), ("gender", .str "male")]
    else none
  edges relation := if relation = "lives_in" then
    [⟨"person:ada", "address:home", [("id", .str "lives_in:1"), ("start", .str "2020-01-01")]⟩,
      ⟨"person:ben", "address:home", [("id", .str "lives_in:2")]⟩] else []
  named _ records := records
  fails _ := false
  record_named := by
    intro id fields h
    split at h
    case isTrue hid => exact hid ▸ by decide
    case isFalse =>
      split at h
      case isTrue hid => exact hid ▸ by decide
      case isFalse =>
        split at h
        case isTrue hid => exact hid ▸ by decide
        case isFalse => cases h
  ids_typed := by
    intro table htable id hid
    rcases List.mem_cons.1 htable with rfl | htable
    · have htyped : ∀ id ∈ ["address:home"], idType id = "address" := by decide +kernel
      exact htyped id hid
    · obtain rfl := List.mem_singleton.1 htable
      have htyped : ∀ id ∈ ["person:ada", "person:ben"], idType id = "person" := by decide +kernel
      exact htyped id hid
  named_subset _ _ := List.Subset.refl _

/-- The contract of a date of birth. -/
def birthContract : PropertyContract where
  type := { alternatives := [.atomic .date] }
  entities := ["person"]
  relationships := []
  operators := [.lt, .gte]
  validated := by decide

/-- The contract of a gender. -/
def genderContract : PropertyContract where
  type := { alternatives := [.atomic .string] }
  entities := ["person"]
  relationships := []
  operators := [.eq]
  validated := by decide

/-- The contract of the start of a residence. -/
def startContract : PropertyContract where
  type := { alternatives := [.atomic .date] }
  entities := []
  relationships := ["member"]
  operators := [.lt, .gte]
  validated := by decide

theorem livesIn_edge : ∃ edge ∈ EdgeSchemaRegistry.deployed.schemas, edge.id = "lives_in" ∧
    edge.from_types = ["person"] ∧ edge.to_types = ["address"] := by
  decide +kernel

/-- The engine of the household, as it is configured by default. -/
def residenceEngine : HouseholdFactEngine where
  graph := residenceGraph
  schema := {
    catalog := {
      entities := [("address", ⟨"address", ["name"], []⟩),
        ("person", ⟨"person", ["name", "gender", "dob"], []⟩)]
      relations := [("lives_in", ⟨["person"], ["address"], ["start"], []⟩)]
      edge_registry := .deployed
      relations_declared := oneRelation_declared livesIn_edge }
    ontology := {
      properties := [("gender", ⟨["gender"], genderContract⟩),
        ("birth_date", ⟨["dob"], birthContract⟩), ("start_date", ⟨["start"], startContract⟩)]
      base_relations := [("member", "has_resident")]
      validated := by decide } }
  max_records := 25
  bounded := defaultRecords_bounded

/-- "The members of the household." -/
def residents : SemanticReference where
  kind := .currentHousehold
  path := [⟨"member", [], by decide⟩]
  validated := by decide

/-- Residences that started in this century. -/
def startsThisCentury : SemanticFilter where
  property := some "start_date"
  operator := .gte
  value := .scalar (.str "2000-01-01")
  source := .relation
  validated := by decide +kernel

/-- "When did each member move in?" -/
def moveIns (filters : List SemanticFilter) : SemanticFactRequest where
  operation := .select
  subject := residents
  property := some "start_date"
  property_source := .relationship
  filters := filters
  projection := .each
  exclude_bound := noExclude_bound
  amount_bound := noAmount_bound

example : (residenceEngine.execute (moveIns []) homeRequest).toOption.map (fun result =>
    result.rows.map FactRow.status) = some [.found, .relationPropertyUnavailable] := by
  decide +kernel

end HouseholdFactEngine

end HomeCortex
