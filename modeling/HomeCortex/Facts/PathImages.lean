/-
# What a reference denotes

A path denotes the composition of the relations of its steps (`pathRelation`), and a reference
the image of its roots under its path (`Denotes`).  A resolution that succeeds returns exactly
the records that the reference denotes, each once, with exactly the rows that lead to them
(`resolve_denotes`); the identities that a request excludes are those that one of its excluded
references denotes (`ground_excluded`).
-/

import HomeCortex.Facts.Projection
import HomeCortex.Facts.StepImages

namespace HomeCortex
namespace HouseholdFactEngine

variable (engine : HouseholdFactEngine)

/-- The identities of a list of records. -/
def idSet (entities : List Entity) : Set String := {id | id ∈ entities.map Entity.id}

/-- The rows that a step passes from `starts` to the records that it keeps. -/
def stepRows (now : Clock) (anchors : List Entity) (step : SemanticRelationStep)
    (starts : Set String) : Set Edge :=
  {row | (∃ relation direction,
      engine.schema.physicalRelation step.relation = some (relation, direction) ∧
        ∃ id ∈ starts, ∃ source, engine.SourceOf step id source ∧
          engine.RowFrom relation direction step.filters source row) ∧
    ∃ id ∈ (engine.stepRelation now anchors step).image starts, row.relatedId = some id}

/-- The relation on identities that a path denotes. -/
def pathRelation (now : Clock) (anchors : List Entity) (path : List SemanticRelationStep) :
    SetRel String String :=
  path.foldr (fun step rest => (engine.stepRelation now anchors step).comp rest) SetRel.id

/-- The rows of the last step of a path from `starts`, or `rows` when there is no step. -/
def lastRows (now : Clock) (anchors : List Entity) :
    List SemanticRelationStep → Set String → Set Edge → Set Edge
  | [], _, rows => rows
  | step :: path, starts, _ =>
      lastRows now anchors path ((engine.stepRelation now anchors step).image starts)
        (engine.stepRows now anchors step starts)

/-- The records that a reference denotes: those its path leads to from its roots. -/
def Denotes (context : AgentRequestContext) (reference : SemanticReference) : Set String :=
  {id | ∃ roots, engine.rootEntities context reference = .ok roots ∧
    id ∈ (engine.pathRelation context.current_time roots reference.path).image (idSet roots)}

/-- The rows that lead to the records that a reference denotes. -/
def LeadingRows (context : AgentRequestContext) (reference : SemanticReference) : Set Edge :=
  {row | ∃ roots, engine.rootEntities context reference = .ok roots ∧
    row ∈ engine.lastRows context.current_time roots reference.path (idSet roots) ∅}

variable {engine}

/-! ### Paths -/

@[simp] theorem pathRelation_nil (now : Clock) (anchors : List Entity) :
    engine.pathRelation now anchors [] = SetRel.id := rfl

theorem image_pathRelation_nil (now : Clock) (anchors : List Entity) (starts : Set String) :
    (engine.pathRelation now anchors []).image starts = starts := by
  ext id
  simp

theorem image_pathRelation_cons (now : Clock) (anchors : List Entity) (step : SemanticRelationStep)
    (path : List SemanticRelationStep) (starts : Set String) :
    (engine.pathRelation now anchors (step :: path)).image starts =
      (engine.pathRelation now anchors path).image
        ((engine.stepRelation now anchors step).image starts) := by
  rw [pathRelation, List.foldr_cons, ← pathRelation, SetRel.image_comp]

/-- A step leads nowhere from no record. -/
theorem stepRows_empty (now : Clock) (anchors : List Entity) (step : SemanticRelationStep) :
    engine.stepRows now anchors step ∅ = ∅ := by
  ext row
  simp [stepRows]

theorem lastRows_empty (now : Clock) (anchors : List Entity) (path : List SemanticRelationStep) :
    engine.lastRows now anchors path ∅ ∅ = ∅ := by
  induction path with
  | nil => rfl
  | cons step path ih => rw [lastRows, SetRel.image_empty_right, stepRows_empty, ih]

/-- **The rows that a step keeps.** -/
theorem takeStep_rows {now : Clock} {anchors entities : List Entity}
    {step : SemanticRelationStep} {reached : Reached} {passed : Remembered}
    (hknown : ∀ entity ∈ entities, engine.Known entity)
    (h : engine.takeStep now anchors step entities = .ok (reached, passed)) :
    {row | row ∈ reached.relationship_records} =
      engine.stepRows now anchors step (idSet entities) := by
  have himage := (takeStep_image hknown h).1
  unfold takeStep at h
  split at h
  case h_1 => cases h
  case h_2 relation direction hrelation =>
    obtain ⟨reads, hreads, h⟩ := Except.bind_eq_ok.1 h
    obtain ⟨kept, -, h⟩ := Except.bind_eq_ok.1 h
    obtain ⟨rfl, -⟩ := Prod.mk.inj (Except.ok.inj h)
    have hrows := mem_reads hknown hreads
    have hfound : ∀ row, row ∈ (reads.flatMap fun read => read.sources).flatMap
        (fun read => read.edges) ↔ ∃ entity ∈ entities, ∃ source,
          engine.SourceOf step entity.id source ∧
            engine.RowFrom relation direction step.filters source row := by
      intro row
      rw [List.mem_flatMap]
      constructor
      · rintro ⟨read, hread, hrow⟩
        obtain ⟨entity, hentity, hsource, hfrom⟩ := (hrows _ row).1 ⟨read, hread, rfl, hrow⟩
        exact ⟨entity, hentity, _, hsource, hfrom⟩
      · rintro ⟨entity, hentity, source, hsource, hfrom⟩
        obtain ⟨read, hread, -, hrow⟩ := (hrows source row).2 ⟨entity, hentity, hsource, hfrom⟩
        exact ⟨read, hread, hrow⟩
    ext row
    change row ∈ List.filter _ _ ↔ _
    rw [List.mem_filter, hfound, Option.any_eq_true]
    unfold stepRows idSet
    rw [← himage]
    constructor
    · rintro ⟨⟨entity, hentity, hfrom⟩, id, hto, hkept⟩
      exact ⟨⟨relation, direction, hrelation, entity.id, List.mem_map_of_mem hentity, hfrom⟩,
        id, List.contains_iff_mem.1 hkept, hto⟩
    · rintro ⟨⟨relation', direction', hrelation', start, hstart, hfrom⟩, id, hkept, hto⟩
      rw [hrelation] at hrelation'
      obtain ⟨rfl, rfl⟩ := Prod.mk.inj (Option.some.inj hrelation')
      obtain ⟨entity, hentity, rfl⟩ := List.mem_map.1 hstart
      exact ⟨⟨entity, hentity, hfrom⟩, id, hto, List.contains_iff_mem.2 hkept⟩

/-- **A path that succeeds returns its image**, with the rows of its last step. -/
theorem followPath_image {now : Clock} {anchors : List Entity} {allow_empty : Bool}
    {path : List SemanticRelationStep} :
    ∀ {reached final : Reached} {remembered after : Remembered},
      (∀ entity ∈ reached.entities, engine.Known entity) →
      engine.followPath now anchors allow_empty path reached remembered = .ok (final, after) →
      idSet final.entities = (engine.pathRelation now anchors path).image (idSet reached.entities) ∧
        {row | row ∈ final.relationship_records} = engine.lastRows now anchors path
          (idSet reached.entities) {row | row ∈ reached.relationship_records} ∧
        ∀ entity ∈ final.entities,
          engine.IsView entity ∨ path = [] ∧ entity ∈ reached.entities := by
  induction path with
  | nil =>
      intro reached final remembered after hknown h
      cases h
      exact ⟨(image_pathRelation_nil _ _ _).symm, rfl, fun _ hentity => .inr ⟨rfl, hentity⟩⟩
  | cons step path ih =>
      intro reached final remembered after hknown h
      unfold followPath at h
      obtain ⟨⟨next, passed⟩, hstep, h⟩ := Except.bind_eq_ok.1 h
      obtain ⟨himage, -, hviews⟩ := takeStep_image hknown hstep
      have hrows := takeStep_rows hknown hstep
      change idSet next.entities = _ at himage
      change _ = (engine.stepRelation now anchors step).image (idSet reached.entities) at himage
      rw [image_pathRelation_cons, lastRows, ← himage, ← hrows]
      dsimp only at h
      split at h
      case isFalse =>
        obtain ⟨hfinal, hlast, hkept⟩ := ih (fun entity hentity => .inl (hviews entity hentity)) h
        refine ⟨hfinal, hlast, fun entity hentity => .inl ?_⟩
        rcases hkept entity hentity with hview | ⟨-, hnext⟩
        · exact hview
        · exact hviews entity hnext
      case isTrue hnone =>
        split at h
        case isFalse => cases h
        case isTrue =>
          cases h
          -- without a record the later steps are not taken, and would lead nowhere
          have hempty : idSet next.entities = ∅ := by
            rw [List.isEmpty_iff.1 hnone]
            ext id
            simp [idSet]
          have hnoRows : {row | row ∈ next.relationship_records} = ∅ := by
            rw [hrows]
            unfold stepRows
            rw [← himage, hempty]
            simp
          rw [hempty, hnoRows, SetRel.image_empty_right, lastRows_empty]
          refine ⟨?_, ?_, fun entity hentity => (by cases hentity)⟩
          · ext id
            simp [idSet]
          · ext row
            simp

/-! ### Roots -/

/-- An identity without fields. -/
theorem known_bare (id : String) : engine.Known ⟨id, []⟩ := by
  refine .inr fun key hkey => .inl ?_
  simpa [Entity.has, Fields.has, Fields.get?] using hkey

/-- What is loaded for an identity. -/
theorem known_load {id : String} {record : Entity} (h : engine.load ⟨id, []⟩ = .ok record) :
    engine.Known record := by
  rcases load_eq_ok h with hstored | ⟨-, rfl⟩
  · exact .inl (isView_of_entity? hstored)
  · exact known_bare id

/-- What a name means is summaries of stored records. -/
theorem isView_resolveEntityAlias {query : AliasQuery} {limit : Nat} {records : List Entity}
    (h : engine.graph.resolveEntityAlias query limit = some records) :
    ∀ record ∈ records, engine.IsView record := by
  unfold HouseholdGraph.resolveEntityAlias at h
  split at h
  case isTrue => cases h
  case isFalse =>
    obtain rfl := Option.some.inj h
    intro record hrecord
    obtain ⟨stored, hstored, rfl⟩ := List.mem_map.1 hrecord
    have hnamed := engine.graph.named_subset _ _ (List.mem_of_mem_take hstored)
    obtain ⟨table, -, hids⟩ := List.mem_flatMap.1 hnamed
    obtain ⟨id, -, hid⟩ := List.mem_filterMap.1 hids
    exact isView_entitySummary hid

/-- A name that resolves means one record of the graph. -/
theorem namedEntities_eq_ok {context : AgentRequestContext} {reference : SemanticReference}
    {roots : List Entity} (h : engine.namedEntities context reference = .ok roots) :
    ∃ record, roots = [record] ∧ engine.IsView record := by
  unfold namedEntities at h
  obtain ⟨records, hrecords, h⟩ := Except.bind_eq_ok.1 h
  obtain ⟨found, hfound, h⟩ := Except.bind_eq_ok.1 h
  have hviews : ∀ record ∈ records, engine.IsView record := by
    unfold answered at hrecords
    split at hrecords
    case h_1 value hvalue =>
      obtain rfl := Except.ok.inj hrecords
      exact isView_resolveEntityAlias hvalue
    case h_2 => cases hrecords
  have hsubset : ∀ record ∈ found, record ∈ records := by
    unfold scopeNamedRecords at hfound
    split at hfound
    case h_1 =>
      obtain rfl := Except.ok.inj hfound
      exact fun _ hrecord => hrecord
    case h_2 => exact fun record hrecord => ((Except.mem_of_filterM hfound).1 hrecord).1
  split at h
  case h_1 => cases h
  case h_2 record =>
    obtain rfl := Except.ok.inj h
    exact ⟨record, rfl, hviews record (hsubset record List.mem_cons_self)⟩
  case h_3 => cases h

/-- Foci that resolve are records that were loaded for them. -/
theorem discourseEntities_eq_ok {context : AgentRequestContext} {reference : SemanticReference}
    {roots : List Entity} (h : engine.discourseEntities context reference = .ok roots) :
    ∃ ids, discourseIds context reference = some ids ∧ (roots.map Entity.id).Sublist ids ∧
      ∀ root ∈ roots, ∃ id, engine.load ⟨id, []⟩ = .ok root := by
  unfold discourseEntities at h
  split at h
  case h_1 => cases h
  case h_2 ids hids =>
    obtain ⟨loaded, hloaded, h⟩ := Except.bind_eq_ok.1 h
    have hall := Except.mapM_eq_ok.1 hloaded
    have hsame : loaded.map Entity.id = ids := by
      refine List.forall₂_eq_eq_eq ▸ ?_
      rw [List.forall₂_map_left_iff]
      exact hall.flip.imp fun entity id hload => engine.load_id hload
    have hroots : roots = loaded.filter fun entity =>
        some (entityType entity) = reference.entity_type := by
      split at h
      case h_1 => cases h
      case h_2 hone =>
        obtain rfl := Except.ok.inj h
        exact hone.symm
      case h_3 =>
        split at h
        case isTrue => cases h
        case isFalse => exact (Except.ok.inj h).symm
    refine ⟨ids, hids, ?_, fun root hroot => ?_⟩
    · rw [hroots, ← hsame]
      exact List.filter_sublist.map _
    · rw [hroots] at hroot
      obtain ⟨id, -, hload⟩ := List.exists_of_forall₂_right hall (List.mem_filter.1 hroot).1
      exact ⟨id, hload⟩

/-- The foci that a reference without a path means are listed once. -/
def DistinctFoci (context : AgentRequestContext) (reference : SemanticReference) : Prop :=
  reference.path = [] → ∀ ids, discourseIds context reference = some ids → ids.Nodup

/-- **The roots of a reference** are records that a path may start from. -/
theorem rootEntities_known {context : AgentRequestContext} {reference : SemanticReference}
    {roots : List Entity} (h : engine.rootEntities context reference = .ok roots) :
    (∀ root ∈ roots, engine.Known root) ∧
      (reference.path = [] → DistinctFoci context reference → (roots.map Entity.id).Nodup) := by
  have hone : ∀ root : Entity, roots = [root] → engine.Known root →
      (∀ root ∈ roots, engine.Known root) ∧
        (reference.path = [] → DistinctFoci context reference →
          (roots.map Entity.id).Nodup) := by
    rintro root rfl hknown
    exact ⟨by simpa using hknown, fun _ _ => List.nodup_singleton _⟩
  unfold rootEntities at h
  split at h
  case h_1 => cases h
  case h_2 =>
    obtain ⟨ids, hids, hsublist, hloaded⟩ := discourseEntities_eq_ok h
    refine ⟨fun root hroot => ?_, fun hpath hfoci => hsublist.nodup (hfoci hpath ids hids)⟩
    obtain ⟨id, hload⟩ := hloaded root hroot
    exact known_load hload
  case h_3 =>
    refine hone _ (Except.ok.inj h).symm (.inr fun key hkey => ?_)
    simp only [Entity.has, Fields.has, Bool.or_eq_true, beq_iff_eq] at hkey
    rcases hkey with hkey | hkey
    · exact .inl hkey
    · refine .inr ?_
      by_contra hne
      rw [Fields.get?, List.lookup_cons, beq_eq_false_iff_ne.2 hne] at hkey
      cases hkey
  case h_4 =>
    split at h
    case h_1 => exact hone _ (Except.ok.inj h).symm (known_bare _)
    case h_2 => cases h
  case h_5 =>
    split at h
    case h_1 => exact hone _ (Except.ok.inj h).symm (known_bare _)
    case h_2 => cases h
  case h_6 => exact hone _ (Except.ok.inj h).symm (known_bare _)
  case h_7 =>
    obtain ⟨record, hroots, hview⟩ := namedEntities_eq_ok h
    exact hone record hroots (.inl hview)

/-! ### References -/

/-- **A resolution that succeeds returns what its reference denotes**, each record once, with the
rows that lead there. -/
theorem resolve_denotes {reference : SemanticReference} {context : AgentRequestContext}
    {evidence : List FactRelationshipEvidence} {allow_empty expect_many : Bool}
    {resolution : ResolvedEntities}
    (h : engine.resolve reference context evidence allow_empty expect_many
      = .ok (.inr resolution)) :
    idSet resolution.entities = engine.Denotes context reference ∧
      {row | row ∈ resolution.relationship_records} = engine.LeadingRows context reference ∧
      (∀ entity ∈ resolution.entities, engine.IsView entity ∨ reference.path = [] ∧
        ∃ roots, engine.rootEntities context reference = .ok roots ∧ entity ∈ roots) ∧
      (DistinctFoci context reference → (resolution.entities.map Entity.id).Nodup) := by
  obtain ⟨reached, remembered, hresolved, hentities, hrecords⟩ := engine.resolve_eq_ok h
  obtain ⟨roots, hroots, hfollow⟩ := Except.bind_eq_ok.1 hresolved
  obtain ⟨hknown, hnodup⟩ := rootEntities_known hroots
  obtain ⟨himage, hrows, hfinal⟩ := followPath_image hknown hfollow
  have hunique : ∀ roots', engine.rootEntities context reference = .ok roots' → roots' = roots := by
    intro roots' hroots'
    rw [hroots] at hroots'
    exact (Except.ok.inj hroots').symm
  rw [hentities, hrecords]
  refine ⟨himage.trans ?_, ?_, fun entity hentity => (hfinal entity hentity).imp_right
    fun hroot => ⟨hroot.1, roots, hroots, hroot.2⟩, fun hfoci => ?_⟩
  · ext id
    refine ⟨fun hid => ⟨roots, hroots, hid⟩, ?_⟩
    rintro ⟨roots', hroots', hid⟩
    rwa [hunique roots' hroots'] at hid
  · rw [hrows]
    have hnone : {row | row ∈ ({ entities := roots } : Reached).relationship_records} = ∅ := by
      ext row
      simp
    rw [hnone]
    ext row
    refine ⟨fun hrow => ⟨roots, hroots, hrow⟩, ?_⟩
    rintro ⟨roots', hroots', hrow⟩
    rwa [hunique roots' hroots'] at hrow
  · cases hpath : reference.path with
    | nil =>
        rw [hpath] at hfollow
        cases hfollow
        exact hnodup hpath hfoci
    | cons step path =>
        refine (engine.followPath_linked (fun hnone => ?_) hfollow).nodup
        rw [hpath] at hnone
        cases hnone

/-- What a resolution keeps of its path. -/
theorem resolve_reached {reference : SemanticReference} {context : AgentRequestContext}
    {evidence : List FactRelationshipEvidence} {allow_empty expect_many : Bool}
    {resolution : ResolvedEntities}
    (h : engine.resolve reference context evidence allow_empty expect_many
      = .ok (.inr resolution)) :
    ∃ reached remembered,
      engine.resolvePath context reference allow_empty = .ok (reached, remembered) ∧
      resolution.evidence.entity_ids = resolution.entities.map Entity.id ∧
      resolution.evidence.relationships = remember evidence remembered ∧
      resolution.entities = reached.entities ∧
      resolution.content_groups = reached.content_groups := by
  unfold resolve at h
  obtain ⟨outcome, houtcome, h⟩ := Except.bind_eq_ok.1 h
  cases outcome with
  | inl failed => cases h
  | inr found =>
      obtain rfl := Except.ok.inj h
      cases hresolved : engine.resolved reference context evidence allow_empty expect_many with
      | error raised =>
          rw [hresolved] at houtcome
          cases raised <;> cases houtcome
      | ok value =>
          rw [hresolved] at houtcome
          obtain rfl : value = .inr resolution := Sum.inr.inj (Except.ok.inj houtcome)
          unfold resolved at hresolved
          obtain ⟨⟨reached, remembered⟩, hpath, hresolved⟩ := Except.bind_eq_ok.1 hresolved
          dsimp only at hresolved
          split at hresolved
          case isTrue =>
            obtain ⟨candidates, -, hresolved⟩ := Except.bind_eq_ok.1 hresolved
            cases hresolved
          case isFalse =>
            cases hresolved
            exact ⟨reached, remembered, hpath, rfl, rfl, rfl, rfl⟩

/-- The evidence of a resolution names its records. -/
theorem resolve_entity_ids {reference : SemanticReference} {context : AgentRequestContext}
    {evidence : List FactRelationshipEvidence} {allow_empty expect_many : Bool}
    {resolution : ResolvedEntities}
    (h : engine.resolve reference context evidence allow_empty expect_many
      = .ok (.inr resolution)) :
    resolution.evidence.entity_ids = resolution.entities.map Entity.id := by
  obtain ⟨_, _, -, hids, -⟩ := resolve_reached h
  exact hids

/-- The excluded references are resolved one by one. -/
theorem resolveExcluded_eq_ok {context : AgentRequestContext} :
    ∀ {references : List SemanticReference} {evidence after : List FactRelationshipEvidence}
      {resolutions : List Resolution},
      engine.resolveExcluded context evidence references = .ok (resolutions, after) →
      List.Forall₂ (fun reference resolution => ∃ before, engine.resolve reference context before
        false (reference.cardinality == .collection) = .ok resolution) references resolutions := by
  intro references
  induction references with
  | nil =>
      intro evidence after resolutions h
      cases h
      exact .nil
  | cons reference references ih =>
      intro evidence after resolutions h
      unfold resolveExcluded at h
      obtain ⟨resolution, hresolution, h⟩ := Except.bind_eq_ok.1 h
      obtain ⟨⟨rest, last⟩, hrest, h⟩ := Except.bind_eq_ok.1 h
      cases h
      exact .cons ⟨evidence, hresolution⟩ (ih hrest)

/-- The records that one of the excluded references of a request denotes. -/
def Excluded (engine : HouseholdFactEngine) (context : AgentRequestContext)
    (request : SemanticFactRequest) : Set String :=
  {id | ∃ reference ∈ request.exclude, id ∈ engine.Denotes context reference}

/-- **What a grounded request excludes.** -/
theorem ground_excluded {request : SemanticFactRequest} {context : AgentRequestContext}
    {grounded : Grounded} (h : engine.ground request context = .ok (.inr grounded)) :
    {id | id ∈ grounded.excluded} = engine.Excluded context request := by
  unfold ground at h
  obtain ⟨subject, -, h⟩ := Except.bind_eq_ok.1 h
  dsimp only at h
  split at h
  all_goals
    obtain ⟨other, -, h⟩ := Except.bind_eq_ok.1 h
    obtain ⟨⟨resolutions, relationships⟩, hexcluded, h⟩ := Except.bind_eq_ok.1 h
    have hall := resolveExcluded_eq_ok hexcluded
    dsimp only at h
    split at h
    case h_1 => cases h
    case h_2 => cases h
    case h_3 => cases h
    case h_4 =>
      have hnone : resolutions.findSome? Sum.getLeft? = none := by assumption
      cases h
      have hfound : ∀ resolution ∈ resolutions, ∃ found, resolution = .inr found := by
        intro resolution hresolution
        have hleft := List.findSome?_eq_none_iff.1 hnone resolution hresolution
        cases resolution with
        | inl failed => cases hleft
        | inr found => exact ⟨found, rfl⟩
      ext id
      change id ∈ List.flatMap _ _ ↔ _
      rw [List.mem_flatMap]
      constructor
      · rintro ⟨found, hmem, hid⟩
        obtain ⟨resolution, hresolution, hright⟩ := List.mem_filterMap.1 hmem
        obtain ⟨found, rfl⟩ := hfound resolution hresolution
        cases hright
        obtain ⟨reference, hreference, before, hok⟩ := List.exists_of_forall₂_right hall hresolution
        rw [resolve_entity_ids hok] at hid
        exact ⟨reference, hreference, (resolve_denotes hok).1 ▸ hid⟩
      · rintro ⟨reference, hreference, hid⟩
        obtain ⟨resolution, hresolution, before, hok⟩ :=
          List.exists_of_forall₂_left hall hreference
        obtain ⟨found, rfl⟩ := hfound resolution hresolution
        refine ⟨found, List.mem_filterMap.2 ⟨_, hresolution, rfl⟩, ?_⟩
        rw [resolve_entity_ids hok]
        rw [← (resolve_denotes hok).1] at hid
        exact hid

end HouseholdFactEngine
end HomeCortex
