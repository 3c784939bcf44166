/-
# The order and the place of conditions

A run tests the filters of a request one after the other and stops at the first that fails, so
the order decides which missing value is reported, and whether one is reported at all.  It does
not decide a value: two orders that both return one return the same result
(`execute_filters_perm`).  A condition on a field may as well stand on the last step of the
subject, which tests all its filters on every record: where both places return a value, they
report the same records (`execute_filter_placed`).
-/

import HomeCortex.Facts.Answers

namespace HomeCortex

/-- The request with other filters. -/
def SemanticFactRequest.refiltered (request : SemanticFactRequest)
    (filters : List SemanticFilter) : SemanticFactRequest :=
  { request with filters := filters }

/-- A condition on a field that a request, as well as a step, can test. -/
structure SemanticFilter.OnField (item : SemanticFilter) : Prop where
  predicate : item.predicate = none
  source : item.source = .entity
  anchored : item.anchored = false

/-- A reference with a condition more on its last step. -/
structure Placed (item : SemanticFilter) (reference placed : SemanticReference)
    (path : List SemanticRelationStep) (step step' : SemanticRelationStep) : Prop where
  kind : placed.kind = reference.kind
  value : placed.value = reference.value
  entity_type : placed.entity_type = reference.entity_type
  turn_offset : placed.turn_offset = reference.turn_offset
  cardinality : placed.cardinality = reference.cardinality
  path_eq : reference.path = path ++ [step]
  path_placed : placed.path = path ++ [step']
  relation : step'.relation = step.relation
  filters : step'.filters = step.filters ++ [item]

/-- Both references end with the same relation. -/
theorem Placed.lastRelation {item : SemanticFilter} {reference placed : SemanticReference}
    {path : List SemanticRelationStep} {step step' : SemanticRelationStep}
    (h : Placed item reference placed path step step') :
    HomeCortex.lastRelation placed = HomeCortex.lastRelation reference := by
  unfold HomeCortex.lastRelation
  rw [h.path_placed, h.path_eq, List.getLast?_append, List.getLast?_append]
  simp [h.relation]

/-- The request about another subject. -/
def SemanticFactRequest.about (request : SemanticFactRequest) (subject : SemanticReference) :
    SemanticFactRequest :=
  { request with subject := subject }

namespace HouseholdFactEngine

variable {engine : HouseholdFactEngine} {request : SemanticFactRequest}
  {filters : List SemanticFilter} {context : AgentRequestContext}

/-! ### What does not read the filters -/

theorem normalizedRecords_refiltered (evidence : FactEvidence) (records : List Fields) :
    engine.normalizedRecords (request.refiltered filters) evidence records
      = engine.normalizedRecords request evidence records := by
  induction records with
  | nil => rfl
  | cons record records ih =>
      unfold normalizedRecords
      rw [ih]
      rfl

/-- An operation asks of the filters only whether there are any. -/
theorem operate_refiltered (hempty : filters.isEmpty = request.filters.isEmpty)
    (entities other_entities : List Entity) (records : List Edge)
    (relationships : List FactRelationshipEvidence) :
    engine.operate (request.refiltered filters) entities other_entities records context
        relationships
      = engine.operate request entities other_entities records context relationships := by
  have htransform : ∀ evidence fields,
      engine.transform (request.refiltered filters) context.current_time evidence fields
        = engine.transform request context.current_time evidence fields := by
    intro evidence fields
    unfold transform
    rw [normalizedRecords_refiltered]
    rfl
  have hconcept : ∀ target_id, engine.speakerRelativeConcept target_id
      (request.refiltered filters) context
        = engine.speakerRelativeConcept target_id request context := by
    intro target_id
    unfold speakerRelativeConcept SemanticFactRequest.refiltered
    dsimp only
    rw [hempty]
  have hreference : ∀ evidence, engine.resolveReference (request.refiltered filters) entities
      context evidence = engine.resolveReference request entities context evidence := by
    intro evidence
    unfold resolveReference
    simp only [hconcept]
    rfl
  unfold operate
  simp only [htransform, hreference]
  rfl

/-- The references are resolved as before. -/
theorem ground_refiltered (hempty : filters.isEmpty = request.filters.isEmpty) :
    engine.ground (request.refiltered filters) context = engine.ground request context := by
  have hmany : expectsMany (request.refiltered filters) = expectsMany request := by
    unfold expectsMany SemanticFactRequest.refiltered
    rw [hempty]
  unfold ground
  rw [hmany]
  rfl

/-- What filters say of a record does not depend on which filters the request has. -/
theorem filtersOutcome_refiltered (records : List Edge) (now : Clock)
    (tested : List SemanticFilter) (entity : Entity) :
    engine.filtersOutcome (request.refiltered filters) records now tested entity
      = engine.filtersOutcome request records now tested entity := rfl

/-! ### The order of filters -/

/-- **Filters commute.**  Two orders of the filters that both return a value return the same
result, for every operation that has one value. -/
theorem execute_filters_perm (hscalar : request.projection = .scalar)
    (hperm : filters.Perm request.filters) {result reordered : FactResult}
    (h : engine.execute request context = .ok result) (hvalue : result.value ≠ .json .null)
    (h' : engine.execute (request.refiltered filters) context = .ok reordered)
    (hvalue' : reordered.value ≠ .json .null) : reordered = result := by
  have hempty : filters.isEmpty = request.filters.isEmpty := by
    rw [Bool.eq_iff_iff, List.isEmpty_iff, List.isEmpty_iff]
    exact ⟨fun hnil => (hnil ▸ hperm).nil_eq.symm, fun hnil => (hnil ▸ hperm).eq_nil⟩
  obtain ⟨-, grounded, computed, kept, hground, hcompute, rfl⟩ := execute_eq_ok h hvalue
  obtain ⟨-, grounded', computed', kept', hground', hcompute', rfl⟩ := execute_eq_ok h' hvalue'
  rw [ground_refiltered hempty, hground] at hground'
  cases hground'
  by_cases hfilters : request.filters = []
  · rw [hfilters] at hperm
    obtain rfl : filters = request.filters := by rw [hfilters]; exact hperm.eq_nil
    change engine.compute request context grounded = _ at hcompute'
    rw [hcompute] at hcompute'
    cases hcompute'
    rfl
  obtain ⟨hkept, hdecided, records, hoperate, hrecords⟩ := compute_scalar hscalar hcompute
  obtain ⟨hkept', hdecided', records', hoperate', hrecords'⟩ :=
    @compute_scalar _ (request.refiltered filters) _ hscalar _ _ _ hcompute'
  have hsame : kept' = kept := by
    rw [hkept, hkept']
    refine List.filter_congr fun entity hentity => ?_
    obtain ⟨passed, hpassed⟩ := hdecided entity hentity
    obtain ⟨passed', hpassed'⟩ := hdecided' entity hentity
    rw [hpassed, hpassed', Except.allM_perm hperm hpassed' hpassed]
  have hedges : records' = records := by
    rw [hrecords hfilters, hrecords' (fun hnil => hfilters (by
      rw [← List.isEmpty_iff, ← hempty]; exact List.isEmpty_iff.2 hnil)), hsame]
  rw [operate_refiltered hempty, hsame, hedges, hoperate] at hoperate'
  cases hoperate'
  rw [hsame]
  rfl

/-! ### The place of a filter -/

/-- **A condition that a request decides, a step decides alike.** -/
theorem entityFilterMatches_step {item : SemanticFilter} (hfield : item.OnField) {entity : Entity}
    {now : Clock} {passed : Bool} (hplain : engine.Plain entity)
    (h : engine.entityFilterMatches item entity now = .ok passed) :
    ∃ physical, engine.schema.physicalProperty (entityType entity) (item.property.getD "")
        = some physical ∧ ∀ anchors, engine.stepFilterMatches now anchors item
          ((engine.recordOf entity.id).get physical) = .ok passed := by
  unfold entityFilterMatches at h
  dsimp only at h
  split at h
  case h_1 => cases h
  case h_2 physical hphysical =>
    refine ⟨physical, hphysical, fun anchors => ?_⟩
    obtain ⟨record, hread, h⟩ := read_eq_ok h
    rw [hplain.read hread] at h
    split at h
    case isTrue => cases h
    case isFalse =>
      obtain ⟨checked, hvalid, h⟩ := Except.bind_eq_ok.1 h
      have hchecked (rest : Unit → Except _ Bool) :
          engine.schema.validateFilterValue (item.property.getD "")
            ((engine.recordOf entity.id).get physical) >>= rest = rest checked := by
        rw [hvalid]
        rfl
      split at h
      case h_1 matched hmatched =>
        unfold stepFilterMatches
        dsimp only
        rw [hchecked, hmatched]
        exact h
      case h_2 hmatched =>
        unfold stepFilterMatches
        dsimp only
        rw [hchecked, hmatched, hfield.anchored]
        exact h

/-- The filters of a request see of its subject only the last relation. -/
theorem admits_congr {request other : SemanticFactRequest}
    (h : lastRelation other.subject = lastRelation request.subject) (now : Clock) (rows : Set Edge)
    (record : Entity) (item : SemanticFilter) :
    engine.Admits other now rows record item ↔ engine.Admits request now rows record item := by
  unfold Admits PredicatePasses Recognized RowPasses roleProperty
  rw [h]

section Placing

variable {item : SemanticFilter} {reference placed : SemanticReference}
  {path : List SemanticRelationStep} {step step' : SemanticRelationStep}

/-- Both references start from the same roots. -/
theorem placed_roots (h : Placed item reference placed path step step') :
    engine.rootEntities context placed = engine.rootEntities context reference := by
  unfold rootEntities discourseEntities discourseIds namedEntities
  rw [h.kind, h.value, h.entity_type, h.turn_offset, h.cardinality]

/-- A condition on a field does not see the records that a path starts from. -/
theorem stepFilterMatches_anchors (hfield : item.OnField) (now : Clock) (anchors : List Entity)
    (raw : Json) : engine.stepFilterMatches now anchors item raw
      = engine.stepFilterMatches now [] item raw := by
  unfold stepFilterMatches
  rw [hfield.anchored]
  rfl

variable (engine) in
/-- The stored record of an identity passes a condition on a field. -/
def FieldPasses (now : Clock) (item : SemanticFilter) (id : String) : Prop :=
  ∃ record physical, engine.graph.entity? id = some record ∧
    engine.schema.physicalProperty (entityType record) (item.property.getD "") = some physical ∧
    engine.stepFilterMatches now [] item (record.get physical) = .ok true

/-- The condition does not change where the last step reads. -/
theorem sourceOf_placed (h : Placed item reference placed path step step') (id source : String) :
    engine.SourceOf step' id source ↔ engine.SourceOf step id source := by
  unfold SourceOf
  rw [h.relation]

/-- The condition does not change which rows the last step reads. -/
theorem rowFrom_placed (h : Placed item reference placed path step step') (hfield : item.OnField)
    (relation : String) (direction : Option Direction) (source : String) (row : Edge) :
    engine.RowFrom relation direction step'.filters source row ↔
      engine.RowFrom relation direction step.filters source row := by
  have hpasses : engine.EdgePasses relation step'.filters row ↔
      engine.EdgePasses relation step.filters row := by
    unfold EdgePasses
    rw [h.filters]
    refine ⟨fun hall other hother => hall other (List.mem_append_left _ hother),
      fun hall other hother hrelation => ?_⟩
    rcases List.mem_append.1 hother with hother | hother
    · exact hall other hother hrelation
    · rw [List.mem_singleton.1 hother, hfield.source] at hrelation
      cases hrelation
  unfold RowFrom
  simp only [hpasses]

/-- The last step leads to the records that pass, among those it leads to without the condition. -/
theorem stepRelation_placed (h : Placed item reference placed path step step')
    (hfield : item.OnField) (now : Clock) (anchors : List Entity) (ends : String × String) :
    ends ∈ engine.stepRelation now anchors step' ↔
      ends ∈ engine.stepRelation now anchors step ∧ engine.FieldPasses now item ends.2 := by
  have hentity : ∀ record, engine.EntityPasses now anchors step'.filters record ↔
      engine.EntityPasses now anchors step.filters record ∧ ∃ physical,
        engine.schema.physicalProperty (entityType record) (item.property.getD "")
          = some physical ∧ engine.stepFilterMatches now [] item (record.get physical)
            = .ok true := by
    intro record
    unfold EntityPasses
    rw [h.filters]
    constructor
    · intro hall
      refine ⟨fun other hother => hall other (List.mem_append_left _ hother), ?_⟩
      obtain ⟨physical, hphysical, hpass⟩ :=
        hall item (List.mem_append_right _ (List.mem_singleton_self _)) hfield.source
      exact ⟨physical, hphysical, by rwa [← stepFilterMatches_anchors hfield now anchors]⟩
    · rintro ⟨hall, physical, hphysical, hpass⟩ other hother hsource
      rcases List.mem_append.1 hother with hother | hother
      · exact hall other hother hsource
      · rw [List.mem_singleton.1 hother]
        exact ⟨physical, hphysical, by rwa [stepFilterMatches_anchors hfield now anchors]⟩
  unfold stepRelation FieldPasses
  simp only [Set.mem_ofPred_eq, h.relation, sourceOf_placed h, rowFrom_placed h hfield, hentity]
  constructor
  · rintro ⟨relation, direction, hrelation, hrows, record, hrecord, hpasses, hfieldPasses⟩
    obtain ⟨physical, hphysical, hpass⟩ := hfieldPasses
    exact ⟨⟨relation, direction, hrelation, hrows, record, hrecord, hpasses⟩, record, physical,
      hrecord, hphysical, hpass⟩
  · rintro ⟨⟨relation, direction, hrelation, hrows, record, hrecord, hpasses⟩, record', physical,
      hrecord', hphysical, hpass⟩
    rw [hrecord] at hrecord'
    cases hrecord'
    exact ⟨relation, direction, hrelation, hrows, record, hrecord, hpasses, physical, hphysical,
      hpass⟩

/-- The image under a path whose last step is split off. -/
theorem image_pathRelation_concat (now : Clock) (anchors : List Entity)
    (step : SemanticRelationStep) : ∀ (path : List SemanticRelationStep) (starts : Set String),
      (engine.pathRelation now anchors (path ++ [step])).image starts =
        (engine.stepRelation now anchors step).image
          ((engine.pathRelation now anchors path).image starts) := by
  intro path
  induction path with
  | nil =>
      intro starts
      rw [List.nil_append, image_pathRelation_cons, image_pathRelation_nil, image_pathRelation_nil]
  | cons first path ih =>
      intro starts
      rw [List.cons_append, image_pathRelation_cons, image_pathRelation_cons, ih]

/-- The rows of the last step. -/
theorem lastRows_concat (now : Clock) (anchors : List Entity) (step : SemanticRelationStep) :
    ∀ (path : List SemanticRelationStep) (starts : Set String) (rows : Set Edge),
      engine.lastRows now anchors (path ++ [step]) starts rows = engine.stepRows now anchors step
        ((engine.pathRelation now anchors path).image starts) := by
  intro path
  induction path with
  | nil =>
      intro starts rows
      rw [List.nil_append, lastRows, lastRows, image_pathRelation_nil]
  | cons first path ih =>
      intro starts rows
      rw [List.cons_append, lastRows, ih, image_pathRelation_cons]

/-- **What a reference denotes with a condition more.** -/
theorem denotes_placed (h : Placed item reference placed path step step') (hfield : item.OnField)
    (id : String) : id ∈ engine.Denotes context placed ↔
      id ∈ engine.Denotes context reference ∧
        engine.FieldPasses context.current_time item id := by
  unfold Denotes
  rw [placed_roots h, h.path_eq, h.path_placed]
  simp only [Set.mem_ofPred_eq, image_pathRelation_concat]
  constructor
  · rintro ⟨roots, hroots, start, hstart, hleads⟩
    obtain ⟨hleads, hpasses⟩ := (stepRelation_placed h hfield _ _ _).1 hleads
    exact ⟨⟨roots, hroots, start, hstart, hleads⟩, hpasses⟩
  · rintro ⟨⟨roots, hroots, start, hstart, hleads⟩, hpasses⟩
    exact ⟨roots, hroots, start, hstart, (stepRelation_placed h hfield _ _ _).2 ⟨hleads, hpasses⟩⟩

/-- The rows that lead to a record that is denoted with the condition are the same. -/
theorem leadingRows_placed (h : Placed item reference placed path step step')
    (hfield : item.OnField) {id : String} (hid : id ∈ engine.Denotes context placed) (row : Edge) :
    row ∈ engine.LeadingRows context placed ∧ row.relatedId = some id ↔
      row ∈ engine.LeadingRows context reference ∧ row.relatedId = some id := by
  unfold Denotes at hid
  rw [placed_roots h, h.path_placed] at hid
  obtain ⟨roots, hroots, hid⟩ := hid
  rw [image_pathRelation_concat] at hid
  have hone : ∀ {P : List Entity → Prop}, (∃ others, engine.rootEntities context reference
      = .ok others ∧ P others) ↔ P roots := by
    intro P
    rw [hroots]
    constructor
    · rintro ⟨others, hothers, hp⟩
      cases hothers
      exact hp
    · exact fun hp => ⟨roots, rfl, hp⟩
  unfold LeadingRows
  rw [placed_roots h, h.path_eq, h.path_placed]
  simp only [Set.mem_ofPred_eq, hone, lastRows_concat]
  refine and_congr_left fun hto => ?_
  unfold stepRows
  simp only [Set.mem_ofPred_eq, h.relation, sourceOf_placed h, rowFrom_placed h hfield]
  refine and_congr_right fun _ => ?_
  obtain ⟨start, hstart, hleads⟩ := hid
  constructor
  · exact fun _ => ⟨id, ⟨start, hstart, ((stepRelation_placed h hfield _ _ _).1 hleads).1⟩, hto⟩
  · exact fun _ => ⟨id, ⟨start, hstart, hleads⟩, hto⟩

/-- **The records asked for are the same**, wherever the condition stands, once a run decides it on
every record that it is asked about. -/
theorem answers_placed (h : Placed item reference placed path step step') (hfield : item.OnField)
    {grounded : Grounded}
    (hground : engine.ground ((request.about reference).refiltered (request.filters ++ [item]))
      context = .ok (.inr grounded))
    (hdecided : ∀ entity ∈ grounded.included, ∃ passed, engine.filtersOutcome
      ((request.about reference).refiltered (request.filters ++ [item])) grounded.includedEdges
        context.current_time (request.filters ++ [item]) entity = .ok passed)
    (hset : idSet (grounded.included.filter (fun entity => engine.filtersOutcome
      ((request.about reference).refiltered (request.filters ++ [item])) grounded.includedEdges
        context.current_time (request.filters ++ [item]) entity = .ok true))
      = engine.Answers context
        ((request.about reference).refiltered (request.filters ++ [item]))) :
    engine.Answers context (request.about placed) = engine.Answers context
      ((request.about reference).refiltered (request.filters ++ [item])) := by
  obtain ⟨hdenotes, -, hviews, -⟩ := resolve_denotes (engine.ground_subject hground)
  have hnonempty : reference.path ≠ [] := by
    rw [h.path_eq]
    exact List.append_ne_nil_of_right_ne_nil _ (List.cons_ne_nil _ _)
  have hview : ∀ entity ∈ grounded.included, engine.IsView entity := by
    intro entity hentity
    rcases hviews entity (List.mem_filter.1 hentity).1 with hview | ⟨hnone, -⟩
    · exact hview
    · exact absurd hnone hnonempty
  -- what the request decides of the condition, the step decides alike
  have hstep : ∀ entity ∈ grounded.included, ∀ passed, engine.requestFilterMatches
      ((request.about reference).refiltered (request.filters ++ [item])) entity
        (edgesTo grounded.includedEdges entity) context.current_time item = .ok passed →
      (passed = true ↔ engine.FieldPasses context.current_time item entity.id) := by
    intro entity hentity passed htest
    have hplain : engine.Plain entity := .inl (hview entity hentity)
    obtain ⟨record, hrecord, -⟩ := hview entity hentity
    have htested : engine.entityFilterMatches item entity context.current_time = .ok passed := by
      unfold requestFilterMatches at htest
      rw [hfield.predicate, hfield.source] at htest
      exact htest
    obtain ⟨physical, hphysical, hsame⟩ := entityFilterMatches_step hfield hplain htested
    have hsame := hsame []
    have htype : entityType entity = entityType record := by
      rw [entityType, entityType, entity?_id hrecord]
    rw [recordOf, hrecord, Option.getD_some] at hsame
    rw [htype] at hphysical
    constructor
    · rintro rfl
      exact ⟨record, physical, hrecord, hphysical, hsame⟩
    · rintro ⟨record', physical', hrecord', hphysical', hpass⟩
      rw [hrecord] at hrecord'
      cases hrecord'
      rw [hphysical] at hphysical'
      cases hphysical'
      rw [hsame] at hpass
      exact Except.ok.inj hpass
  have hadmits : ∀ id, id ∈ engine.Denotes context placed → ∀ other,
      engine.Admits (request.about placed) context.current_time
          {row | row ∈ engine.LeadingRows context placed ∧ row.relatedId = some id}
          (engine.recordOf id) other ↔
        engine.Admits ((request.about reference).refiltered (request.filters ++ [item]))
          context.current_time
          {row | row ∈ engine.LeadingRows context reference ∧ row.relatedId = some id}
          (engine.recordOf id) other := by
    intro id hid other
    simp only [leadingRows_placed h hfield hid]
    exact admits_congr h.lastRelation _ _ _ _
  ext id
  constructor
  · rintro ⟨hid, hnot, hall⟩
    obtain ⟨hreference, hpasses⟩ := (denotes_placed h hfield id).1 hid
    rw [← hset]
    have hfound : id ∈ idSet grounded.subject.entities := hdenotes.symm ▸ hreference
    obtain ⟨entity, hentity, rfl⟩ := List.mem_map.1 hfound
    have hkept : entity ∈ grounded.included := by
      refine List.mem_filter.2 ⟨hentity, ?_⟩
      have hexcluded : entity.id ∉ grounded.excluded := by
        intro hmem
        exact hnot ((ground_excluded hground) ▸ hmem)
      simpa using hexcluded
    obtain ⟨passed, hpassed⟩ := hdecided entity hkept
    refine List.mem_map_of_mem (List.mem_filter.2 ⟨hkept, decide_eq_true ?_⟩)
    cases passed with
    | true => exact hpassed
    | false =>
        -- the filter that fails is neither one of the request nor the condition
        exfalso
        obtain ⟨other, hother, hfail⟩ := Except.allM_eq_ok_false hpassed
        rcases List.mem_append.1 hother with hother | hother
        · have hadmitted := (requestFilterMatches_eq_ok (.inl (hview entity hkept)) hfail).2
          rw [edgesTo_included hground hkept] at hadmitted
          cases hadmitted ((hadmits entity.id hid other).1 (hall other hother))
        · rw [List.mem_singleton.1 hother] at hfail
          exact absurd ((hstep entity hkept false hfail).2 hpasses) (by decide)
  · intro hid
    obtain ⟨hreference, hnot, hall⟩ := And.intro hid.1 hid.2
    rw [← hset] at hid
    obtain ⟨entity, hentity, rfl⟩ := List.mem_map.1 hid
    obtain ⟨hkept, hpassed⟩ := List.mem_filter.1 hentity
    have htest := Except.allM_eq_ok_true.1 (of_decide_eq_true hpassed) item
      (List.mem_append_right _ (List.mem_singleton_self _))
    have hplaced := (denotes_placed h hfield entity.id).2
      ⟨hreference, (hstep entity hkept true htest).1 rfl⟩
    exact ⟨hplaced, hnot, fun other hother =>
      (hadmits entity.id hplaced other).2 (hall other (List.mem_append_left _ hother))⟩

/-- Lists of different identities of one set have one length. -/
theorem length_eq_of_idSet {xs ys : List Entity} (hxs : (xs.map Entity.id).Nodup)
    (hys : (ys.map Entity.id).Nodup) (h : idSet xs = idSet ys) : xs.length = ys.length := by
  have hperm : (xs.map Entity.id).Perm (ys.map Entity.id) :=
    (List.perm_ext_iff_of_nodup hxs hys).2 fun id => Set.ext_iff.1 h id
  simpa using hperm.length_eq

/-- Two values report the same records: the same number, or the same identities. -/
inductive SameReport : FactValue → FactValue → Prop
  | count (n : Int) : SameReport (.json (.int n)) (.json (.int n))
  | select {xs ys : List Entity} (same : idSet xs = idSet ys) :
      SameReport (.entities xs) (.entities ys)

/-- **A condition on a field may stand on the last step or in the request**: where both places
return a value, they report the same records. -/
theorem execute_filter_placed (h : Placed item reference placed path step step')
    (hfield : item.OnField) (hoperation : request.operation = .count ∨
      request.operation = .select ∧ request.property = none) {onStep onRequest : FactResult}
    (hstep : engine.execute (request.about placed) context = .ok onStep)
    (hvalue : onStep.value ≠ .json .null)
    (hrequest : engine.execute ((request.about reference).refiltered (request.filters ++ [item]))
      context = .ok onRequest) (hvalue' : onRequest.value ≠ .json .null) :
    SameReport onStep.value onRequest.value := by
  obtain ⟨haccepted, grounded, computed, kept, hground, hcompute, -⟩ :=
    execute_eq_ok hrequest hvalue'
  obtain ⟨-, hdecided, -⟩ :=
    @compute_scalar _ ((request.about reference).refiltered _) _
      (scalar_of_accepted haccepted hoperation) _ _ _ hcompute
  have hset := (kept_answers haccepted hground hdecided).1
  have hanswers := answers_placed h hfield hground hdecided hset
  have hnil : ∀ {path : List SemanticRelationStep} {step : SemanticRelationStep},
      path ++ [step] ≠ [] :=
    List.append_ne_nil_of_right_ne_nil _ (List.cons_ne_nil _ _)
  have hfoci : DistinctFoci context placed := fun hnone => by
    rw [h.path_placed] at hnone
    exact absurd hnone hnil
  have hfoci' : DistinctFoci context reference := fun hnone => by
    rw [h.path_eq] at hnone
    exact absurd hnone hnil
  rcases hoperation with hcount | ⟨hselect, hproperty⟩
  · obtain ⟨xs, -, hxs, hxset, hxnodup⟩ :=
      @execute_count _ (request.about placed) _ hcount _ hstep hvalue
    obtain ⟨ys, -, hys, hyset, hynodup⟩ :=
      @execute_count _ ((request.about reference).refiltered _) _ hcount _ hrequest hvalue'
    rw [hxs, hys, length_eq_of_idSet (hxnodup hfoci) (hynodup hfoci')
      (hxset.trans (hanswers.trans hyset.symm))]
    exact .count _
  · obtain ⟨-, xs, -, -, hxs, -, hxset, -⟩ :=
      @execute_select _ (request.about placed) _ hselect hproperty _ hstep hvalue
    obtain ⟨-, ys, -, -, hys, -, hyset, -⟩ :=
      @execute_select _ ((request.about reference).refiltered _) _ hselect hproperty _ hrequest hvalue'
    rw [hxs, hys]
    exact .select (hxset.trans (hanswers.trans hyset.symm))

end Placing

/-! ### Two orders and two places -/

/-- Born since 1970. -/
def bornSince1970 : SemanticFilter where
  property := some "birth_date"
  operator := .gte
  value := .scalar (.str "1970-01-01")
  validated := by decide +kernel

theorem member_named : isRequestName "member" = true := by decide

/-- "The women of the household." -/
def womenHere : SemanticReference where
  kind := .currentHousehold
  path := [⟨"member", [isFemale], member_named⟩]
  validated := by decide +kernel

/-- "How many women who moved in this century and were born since 1970 live here?" -/
def recentWomen : SemanticFactRequest where
  operation := .count
  subject := womenHere
  filters := [startsThisCentury, bornSince1970]
  exclude_bound := noExclude_bound
  amount_bound := noAmount_bound

theorem recentWomen_reordered : ∃ result reordered,
    residenceEngine.execute recentWomen homeRequest = .ok result ∧
    residenceEngine.execute (recentWomen.refiltered [bornSince1970, startsThisCentury]) homeRequest
      = .ok reordered ∧ result.value = .json (.int 1) ∧ reordered = result := by
  have hvalue : ∀ filters ∈ [[startsThisCentury, bornSince1970], [bornSince1970, startsThisCentury]],
      (residenceEngine.execute (recentWomen.refiltered filters) homeRequest).toOption.map
        (fun result => result.value) = some (.json (.int 1)) := by
    decide +kernel
  have hfirst := hvalue _ List.mem_cons_self
  have hsecond := hvalue _ (List.mem_cons_of_mem _ List.mem_cons_self)
  change (residenceEngine.execute recentWomen homeRequest).toOption.map _ = _ at hfirst
  cases hrun : residenceEngine.execute recentWomen homeRequest with
  | error error =>
      rw [hrun] at hfirst
      cases hfirst
  | ok result =>
      rw [hrun] at hfirst
      have hone : result.value = .json (.int 1) := Option.some.inj hfirst
      cases hrun' : residenceEngine.execute (recentWomen.refiltered
          [bornSince1970, startsThisCentury]) homeRequest with
      | error error =>
          rw [hrun'] at hsecond
          cases hsecond
      | ok reordered =>
          rw [hrun'] at hsecond
          have hone' : reordered.value = .json (.int 1) := Option.some.inj hsecond
          exact ⟨result, reordered, rfl, rfl, hone, execute_filters_perm rfl (.swap _ _ _) hrun
            (by rw [hone]; decide) hrun' (by rw [hone']; decide)⟩

/-- "How many live here?" -/
def residentCount : SemanticFactRequest where
  operation := .count
  subject := residents
  exclude_bound := noExclude_bound
  amount_bound := noAmount_bound

theorem women_placed : ∃ onStep onRequest,
    residenceEngine.execute (residentCount.about womenHere) homeRequest = .ok onStep ∧
    residenceEngine.execute ((residentCount.about residents).refiltered
      (residentCount.filters ++ [isFemale])) homeRequest = .ok onRequest ∧
    onStep.value = .json (.int 1) ∧ SameReport onStep.value onRequest.value := by
  have hfirst : (residenceEngine.execute (residentCount.about womenHere) homeRequest).toOption.map
      (fun result => result.value) = some (.json (.int 1)) := by
    decide +kernel
  have hsecond : (residenceEngine.execute ((residentCount.about residents).refiltered
      (residentCount.filters ++ [isFemale])) homeRequest).toOption.map (fun result => result.value)
        = some (.json (.int 1)) := by
    decide +kernel
  cases hrun : residenceEngine.execute (residentCount.about womenHere) homeRequest with
  | error error =>
      rw [hrun] at hfirst
      cases hfirst
  | ok onStep =>
      rw [hrun] at hfirst
      have hone : onStep.value = .json (.int 1) := Option.some.inj hfirst
      cases hrun' : residenceEngine.execute ((residentCount.about residents).refiltered
          (residentCount.filters ++ [isFemale])) homeRequest with
      | error error =>
          rw [hrun'] at hsecond
          cases hsecond
      | ok onRequest =>
          rw [hrun'] at hsecond
          have hone' : onRequest.value = .json (.int 1) := Option.some.inj hsecond
          have hplaced : Placed isFemale residents womenHere [] ⟨"member", [], by decide⟩
              ⟨"member", [isFemale], by decide +kernel⟩ :=
            ⟨rfl, rfl, rfl, rfl, rfl, rfl, rfl, rfl, rfl⟩
          exact ⟨onStep, onRequest, rfl, rfl, hone, execute_filter_placed hplaced
            ⟨rfl, rfl, rfl⟩ (.inl rfl) hrun (by rw [hone]; decide) hrun'
            (by rw [hone']; decide)⟩

end HouseholdFactEngine
end HomeCortex
