/-
# What an answer reads of the discourse

A request reads the discourse of its conversation only where one of its references refers to
an earlier turn, and of that turn it reads the foci.  Requests of two conversations, in
whichever of their histories, therefore agree as soon as the foci of the turns they refer to
do (`execute_withTurns`).  A request without its antecedents does not compute: it reports the
missing discourse, or raises what it raises with them (`execute_bare`).
-/

import HomeCortex.Facts.PathImages

namespace HomeCortex

/-- `_context`, for a request of the conversation `conversation`. -/
def AgentRequestContext.withTurns (context : AgentRequestContext) (conversation : String)
    (turns : List (List String)) : AgentRequestContext :=
  { context with
    conversation_id := some conversation
    discourse := some ⟨conversation, context.caller_entity_id, context.household_id,
      context.assistant_id, turns⟩ }

/-- `turns[-offset]`, when there is such a turn and it left a focus. -/
def antecedentOf (turns : List (List String)) (offset : Nat) : Option (List String) :=
  if offset ≤ turns.length then
    match turns[turns.length - offset]? with
    | some (id :: ids) => some (id :: ids)
    | _ => none
  else none

/-- Only a discourse reference refers to a turn. -/
theorem SemanticReference.offset_none {reference : SemanticReference}
    (h : reference.kind ≠ .discourse) : reference.turn_offset = none := by
  have hvalid := reference.validated
  simp only [ReferenceFields.valid, if_neg h, Bool.and_eq_true, Option.isNone_iff_eq_none] at hvalid
  exact hvalid.1.1.1.2.1

/-- The request reads the same foci in two histories. -/
def SemanticFactRequest.ReadsAlike (request : SemanticFactRequest)
    (turns turns' : List (List String)) : Prop :=
  ∀ reference ∈ request.references, ∀ offset, reference.turn_offset = some offset →
    antecedentOf turns offset = antecedentOf turns' offset

namespace HouseholdFactEngine

variable {engine : HouseholdFactEngine} {context : AgentRequestContext}
  {conversation conversation' : String} {turns turns' : List (List String)}

theorem discourseIds_withTurns (reference : SemanticReference) :
    discourseIds (context.withTurns conversation turns) reference =
      reference.turn_offset.bind (antecedentOf turns) := by
  unfold discourseIds
  cases reference.turn_offset with
  | none => rfl
  | some offset =>
      exact if_congr ⟨fun h => h.2.2.2.2, fun h => ⟨rfl, rfl, rfl, rfl, h⟩⟩ rfl rfl

theorem discourseIds_congr {reference : SemanticReference}
    (h : ∀ offset, reference.turn_offset = some offset →
      antecedentOf turns offset = antecedentOf turns' offset) :
    discourseIds (context.withTurns conversation turns) reference =
      discourseIds (context.withTurns conversation' turns') reference := by
  rw [discourseIds_withTurns, discourseIds_withTurns]
  cases hoffset : reference.turn_offset with
  | none => rfl
  | some offset => exact h offset hoffset

/-! ### One reference -/

theorem rootEntities_withTurns {reference : SemanticReference}
    (h : ∀ offset, reference.turn_offset = some offset →
      antecedentOf turns offset = antecedentOf turns' offset) :
    engine.rootEntities (context.withTurns conversation turns) reference =
      engine.rootEntities (context.withTurns conversation' turns') reference := by
  unfold rootEntities
  cases reference.kind with
  | discourse =>
      show engine.discourseEntities _ _ = engine.discourseEntities _ _
      unfold discourseEntities
      rw [discourseIds_congr h]
  | _ => rfl

theorem resolve_withTurns {reference : SemanticReference} (conversation conversation' : String)
    (h : ∀ offset, reference.turn_offset = some offset →
      antecedentOf turns offset = antecedentOf turns' offset)
    (evidence : List FactRelationshipEvidence) (allow_empty_collection expect_many : Bool) :
    engine.resolve reference (context.withTurns conversation turns) evidence
        allow_empty_collection expect_many =
      engine.resolve reference (context.withTurns conversation' turns') evidence
        allow_empty_collection expect_many := by
  unfold resolve resolved resolvePath
  rw [rootEntities_withTurns h]
  rfl

/-! ### The whole request -/

theorem conceptReference?_self {concept : OntologyReferenceConcept} {reference : SemanticReference}
    (h : conceptReference? concept = some reference) : reference.turn_offset = none := by
  obtain ⟨path, -, h⟩ := Option.bind_eq_some_iff.1 h
  dsimp only at h
  split at h
  case isTrue => rw [← Option.some.inj h]
  case isFalse => cases h

theorem conceptMatch?_withTurns (target_id : String) (concept : OntologyReferenceConcept) :
    engine.conceptMatch? (context.withTurns conversation turns) target_id concept =
      engine.conceptMatch? (context.withTurns conversation' turns') target_id concept := by
  unfold conceptMatch?
  cases hreference : conceptReference? concept with
  | none => rfl
  | some reference =>
      have hself := conceptReference?_self hreference
      simp only
      rw [@resolve_withTurns engine context turns turns' reference conversation conversation'
        fun offset hoffset => by rw [hself] at hoffset; cases hoffset]

theorem speakerRelativeConcept_withTurns (target_id : String) (request : SemanticFactRequest) :
    engine.speakerRelativeConcept target_id request (context.withTurns conversation turns) =
      engine.speakerRelativeConcept target_id request
        (context.withTurns conversation' turns') := by
  have hmatch := funext fun concept => @conceptMatch?_withTurns engine context conversation
    conversation' turns turns' target_id concept
  unfold speakerRelativeConcept
  rw [hmatch]
  rfl

theorem operate_withTurns (request : SemanticFactRequest) (entities other_entities : List Entity)
    (relationship_records : List Edge) (relationships : List FactRelationshipEvidence) :
    engine.operate request entities other_entities relationship_records
        (context.withTurns conversation turns) relationships =
      engine.operate request entities other_entities relationship_records
        (context.withTurns conversation' turns') relationships := by
  have hconcept := fun entity : Entity => @speakerRelativeConcept_withTurns engine context
    conversation conversation' turns turns' entity.id request
  unfold operate resolveReference
  simp only [hconcept]
  rfl

theorem compute_withTurns (request : SemanticFactRequest) (grounded : Grounded) :
    engine.compute request (context.withTurns conversation turns) grounded =
      engine.compute request (context.withTurns conversation' turns') grounded := by
  unfold compute projectEach projectedRow
  simp only [@operate_withTurns engine context conversation conversation' turns turns']
  rfl

theorem resolveExcluded_withTurns {references : List SemanticReference}
    (h : ∀ reference ∈ references, ∀ offset, reference.turn_offset = some offset →
      antecedentOf turns offset = antecedentOf turns' offset)
    (evidence : List FactRelationshipEvidence) :
    engine.resolveExcluded (context.withTurns conversation turns) evidence references =
      engine.resolveExcluded (context.withTurns conversation' turns') evidence references := by
  induction references generalizing evidence with
  | nil => rfl
  | cons reference references ih =>
      unfold resolveExcluded
      rw [resolve_withTurns conversation conversation' (h reference List.mem_cons_self)]
      simp only [ih fun other hother => h other (List.mem_cons_of_mem _ hother)]

theorem ground_withTurns {request : SemanticFactRequest} (h : request.ReadsAlike turns turns') :
    engine.ground request (context.withTurns conversation turns) =
      engine.ground request (context.withTurns conversation' turns') := by
  unfold ground
  rw [resolve_withTurns conversation conversation' (h request.subject List.mem_cons_self)]
  have hexcluded := fun evidence => @resolveExcluded_withTurns engine context conversation
    conversation' turns turns' request.exclude (fun reference hreference => h reference
      (List.mem_cons_of_mem _ (List.mem_append_right _ hreference))) evidence
  simp only [hexcluded]
  cases hother : request.other with
  | none => simp only
  | some other =>
      have hmember : other ∈ request.references := List.mem_cons_of_mem _
        (List.mem_append_left _ (by rw [hother]; exact List.mem_singleton_self other))
      simp only [fun evidence => @resolve_withTurns engine context turns turns' other conversation
        conversation' (h other hmember) evidence false false]

/-- **What an answer reads of the discourse.**  Two conversations that remember the same foci
at the turns a request refers to get the same answer. -/
theorem execute_withTurns {request : SemanticFactRequest} (h : request.ReadsAlike turns turns') :
    engine.execute request (context.withTurns conversation turns) =
      engine.execute request (context.withTurns conversation' turns') := by
  unfold execute
  rw [@ground_withTurns engine context conversation conversation' turns turns' request h]
  simp only [@compute_withTurns engine context conversation conversation' turns turns']

/-! ### A request without its antecedents -/

/-- Whether a resolution returns does not depend on the evidence before it. -/
theorem resolve_outcome (engine : HouseholdFactEngine) (context : AgentRequestContext)
    (reference : SemanticReference) (allow_empty_collection expect_many : Bool) :
    (∃ error, ∀ evidence, engine.resolve reference context evidence allow_empty_collection
      expect_many = .error error) ∨
    ∃ outcome : List FactRelationshipEvidence → Resolution, ∀ evidence, engine.resolve reference
      context evidence allow_empty_collection expect_many = .ok (outcome evidence) := by
  unfold resolve resolved
  cases engine.resolvePath context reference allow_empty_collection with
  | error raised =>
      cases raised with
      | error error => exact .inl ⟨error, fun _ => rfl⟩
      | failure failure => exact .inr ⟨fun _ => .inl failure.toResult, fun _ => rfl⟩
  | ok passed =>
      by_cases hmany : 1 < passed.1.entities.length ∧ !expect_many
      · cases hnames : passed.1.entities.mapM engine.loadIfUnnamed with
        | ok candidates =>
            refine .inr ⟨fun _ => .inl { status := .ambiguous, candidates := candidates }, ?_⟩
            intro evidence
            change (orFailed (if _ then _ else _) >>= _) = _
            rw [if_pos hmany, hnames]
            rfl
        | error raised =>
            cases raised with
            | error error =>
                refine .inl ⟨error, fun evidence => ?_⟩
                change (orFailed (if _ then _ else _) >>= _) = _
                rw [if_pos hmany, hnames]
                rfl
            | failure failure =>
                refine .inr ⟨fun _ => .inl failure.toResult, fun evidence => ?_⟩
                change (orFailed (if _ then _ else _) >>= _) = _
                rw [if_pos hmany, hnames]
                rfl
      · refine .inr ⟨fun evidence => .inr {
          entities := passed.1.entities
          evidence := {
            entity_ids := passed.1.entities.map Entity.id
            relationship := lastRelation reference
            relationships := remember evidence passed.2 }
          relationship_records := passed.1.relationship_records
          content_groups := passed.1.content_groups }, fun evidence => ?_⟩
        change (orFailed (if _ then _ else _) >>= _) = _
        rw [if_neg hmany]
        rfl

theorem resolve_returns {context : AgentRequestContext} {reference : SemanticReference}
    {evidence : List FactRelationshipEvidence} (evidence' : List FactRelationshipEvidence)
    {allow_empty_collection expect_many : Bool} {resolution : Resolution}
    (h : engine.resolve reference context evidence allow_empty_collection expect_many =
      .ok resolution) :
    ∃ resolution', engine.resolve reference context evidence' allow_empty_collection
      expect_many = .ok resolution' := by
  rcases resolve_outcome engine context reference allow_empty_collection expect_many with
    ⟨error, hraise⟩ | ⟨outcome, hreturn⟩
  · rw [hraise] at h
    cases h
  · exact ⟨_, hreturn evidence'⟩

/-- The references that a request resolves, each with what it allows. -/
def Resolves (engine : HouseholdFactEngine) (request : SemanticFactRequest)
    (context : AgentRequestContext) : Prop :=
  (∃ resolution, engine.resolve request.subject context [] (allowsEmpty request)
    (expectsMany request) = .ok resolution) ∧
  (∀ other, request.other = some other → ∃ resolution, engine.resolve other context [] false false
    = .ok resolution) ∧
  ∀ reference ∈ request.exclude, ∃ resolution, engine.resolve reference context [] false
    (reference.cardinality == .collection) = .ok resolution

theorem resolveExcluded_returns_iff {context : AgentRequestContext}
    {references : List SemanticReference} {evidence : List FactRelationshipEvidence} :
    (∃ resolutions, engine.resolveExcluded context evidence references = .ok resolutions) ↔
      ∀ reference ∈ references, ∃ resolution, engine.resolve reference context [] false
        (reference.cardinality == .collection) = .ok resolution := by
  induction references generalizing evidence with
  | nil => exact ⟨fun _ _ h => (by cases h), fun _ => ⟨_, rfl⟩⟩
  | cons reference references ih =>
      rw [List.forall_mem_cons]
      constructor
      · rintro ⟨resolutions, h⟩
        obtain ⟨resolution, hresolve, h⟩ := Except.bind_eq_ok.1 h
        obtain ⟨rest, hrest, -⟩ := Except.bind_eq_ok.1 h
        exact ⟨resolve_returns [] hresolve, ih.1 ⟨rest, hrest⟩⟩
      · rintro ⟨⟨resolution, hresolve⟩, hrest⟩
        obtain ⟨resolution', hresolve'⟩ := resolve_returns evidence hresolve
        obtain ⟨rest, hrest⟩ := ih.2 hrest
        exact ⟨_, Except.bind_eq_ok.2 ⟨_, hresolve', Except.bind_eq_ok.2 ⟨rest, hrest, rfl⟩⟩⟩

/-- A request is grounded, or fails, exactly when none of its references raises. -/
theorem ground_returns_iff {request : SemanticFactRequest} {context : AgentRequestContext} :
    (∃ grounded, engine.ground request context = .ok grounded) ↔
      engine.Resolves request context := by
  constructor
  · rintro ⟨grounded, h⟩
    obtain ⟨subject, hsubject, h⟩ := Except.bind_eq_ok.1 h
    cases hother : request.other with
    | none =>
        rw [hother] at h
        obtain ⟨other, -, h⟩ := Except.bind_eq_ok.1 h
        obtain ⟨excluded, hexcluded, -⟩ := Except.bind_eq_ok.1 h
        exact ⟨⟨subject, hsubject⟩, fun _ h => (by rw [hother] at h; cases h),
          resolveExcluded_returns_iff.1 ⟨excluded, hexcluded⟩⟩
    | some reference =>
        rw [hother] at h
        obtain ⟨other, hresolve, h⟩ := Except.bind_eq_ok.1 h
        obtain ⟨excluded, hexcluded, -⟩ := Except.bind_eq_ok.1 h
        refine ⟨⟨subject, hsubject⟩, fun other' h => ?_,
          resolveExcluded_returns_iff.1 ⟨excluded, hexcluded⟩⟩
        obtain rfl : reference = other' := Option.some.inj (hother.symm.trans h)
        exact resolve_returns [] hresolve
  · rintro ⟨⟨subject, hsubject⟩, hothers, hexcluded⟩
    unfold ground
    rw [hsubject]
    cases hother : request.other with
    | none =>
        obtain ⟨excluded, hexcluded⟩ := (@resolveExcluded_returns_iff engine context
          request.exclude (evidenceAfter [] subject)).2 hexcluded
        simp only [bind, Except.bind, pure, Except.pure, Option.isSome_none, Bool.false_eq_true,
          if_false, hexcluded]
        split <;> exact ⟨_, rfl⟩
    | some reference =>
        obtain ⟨other, hresolve⟩ := hothers reference hother
        obtain ⟨other, hresolve⟩ := resolve_returns (evidenceAfter [] subject) hresolve
        obtain ⟨excluded, hexcluded⟩ := (@resolveExcluded_returns_iff engine context
          request.exclude (evidenceAfter (evidenceAfter [] subject) other)).2 hexcluded
        simp only [bind, Except.bind, hresolve, Option.isSome_some, if_true, hexcluded]
        split <;> exact ⟨_, rfl⟩

theorem resolveExcluded_found {context : AgentRequestContext} {references : List SemanticReference}
    {evidence after : List FactRelationshipEvidence} {resolutions : List Resolution}
    (h : engine.resolveExcluded context evidence references = .ok (resolutions, after))
    (hnone : resolutions.findSome? Sum.getLeft? = none) :
    ∀ reference ∈ references, ∃ before found, engine.resolve reference context before false
      (reference.cardinality == .collection) = .ok (.inr found) := by
  intro reference hreference
  obtain ⟨resolution, hresolution, before, hok⟩ :=
    List.exists_of_forall₂_left (resolveExcluded_eq_ok h) hreference
  cases resolution with
  | inl failed => cases List.findSome?_eq_none_iff.1 hnone _ hresolution
  | inr found => exact ⟨before, found, hok⟩

/-- Of a request that is grounded, every reference resolves to records. -/
theorem ground_found {request : SemanticFactRequest} {context : AgentRequestContext}
    {grounded : Grounded} (h : engine.ground request context = .ok (.inr grounded)) :
    ∀ reference ∈ request.references, ∃ evidence allow_empty_collection expect_many found,
      engine.resolve reference context evidence allow_empty_collection expect_many =
        .ok (.inr found) := by
  unfold ground at h
  obtain ⟨subject, hsubject, h⟩ := Except.bind_eq_ok.1 h
  dsimp only at h
  intro reference hreference
  split at h
  all_goals
    rename_i hrequest
    obtain ⟨other, hother, h⟩ := Except.bind_eq_ok.1 h
    obtain ⟨⟨resolutions, after⟩, hexcluded, h⟩ := Except.bind_eq_ok.1 h
    dsimp only at h
    split at h
    case h_1 => cases h
    case h_2 => cases h
    case h_3 => cases h
    rcases List.mem_cons.1 hreference with rfl | hreference
    · exact ⟨_, _, _, _, hsubject⟩
    rcases List.mem_append.1 hreference with hreference | hreference
    · rw [hrequest] at hreference
      first
        | rw [Option.toList_some, List.mem_singleton] at hreference
          rw [hreference]
          exact ⟨_, _, _, _, hother⟩
        | cases hreference
    · obtain ⟨before, found, hok⟩ := resolveExcluded_found hexcluded (by assumption) _ hreference
      exact ⟨_, _, _, _, hok⟩

/-- No turn left a focus. -/
def Bare (turns : List (List String)) : Prop := ∀ offset, antecedentOf turns offset = none

theorem bare_replicate (n : Nat) : Bare (List.replicate n []) := by
  intro offset
  unfold antecedentOf
  split
  case isFalse => rfl
  case isTrue hoffset =>
      cases hturn : (List.replicate n ([] : List String))[(List.replicate n []).length - offset]? with
      | none => rfl
      | some turn =>
          rw [List.eq_of_mem_replicate (List.mem_of_getElem? hturn)]

/-- A reference to a turn that left no focus fails without raising. -/
theorem resolve_bare (h : Bare turns) {reference : SemanticReference}
    (hkind : reference.kind = .discourse) (evidence : List FactRelationshipEvidence)
    (allow_empty_collection expect_many : Bool) :
    ∃ failed, engine.resolve reference (context.withTurns conversation turns) evidence
      allow_empty_collection expect_many = .ok (.inl failed) := by
  have hids : discourseIds (context.withTurns conversation turns) reference = none := by
    rw [discourseIds_withTurns]
    cases reference.turn_offset with
    | none => rfl
    | some offset => exact h offset
  unfold resolve resolved resolvePath rootEntities discourseEntities
  rw [hkind]
  simp only [hids]
  exact ⟨_, rfl⟩

theorem resolve_returns_bare (h : Bare turns) {reference : SemanticReference}
    {evidence : List FactRelationshipEvidence} {allow_empty_collection expect_many : Bool}
    (hresolve : ∃ resolution, engine.resolve reference (context.withTurns conversation' turns')
      evidence allow_empty_collection expect_many = .ok resolution) :
    ∃ resolution, engine.resolve reference (context.withTurns conversation turns)
      evidence allow_empty_collection expect_many = .ok resolution := by
  by_cases hkind : reference.kind = .discourse
  · obtain ⟨failed, hfailed⟩ := @resolve_bare engine context conversation turns h reference hkind
      evidence allow_empty_collection expect_many
    exact ⟨_, hfailed⟩
  · rw [resolve_withTurns conversation conversation' fun offset hoffset => ?_]
    · exact hresolve
    · rw [reference.offset_none hkind] at hoffset
      cases hoffset

/-- **A request without its antecedents.**  Where no turn left a focus, a request that refers to
the discourse returns whenever it does in a history that has its antecedents. -/
theorem execute_bare (h : Bare turns) {request : SemanticFactRequest} {result : FactResult}
    (hdiscourse : ∃ reference ∈ request.references, reference.kind = .discourse)
    (hexecute : engine.execute request (context.withTurns conversation' turns') = .ok result) :
    ∃ failed, engine.execute request (context.withTurns conversation turns) = .ok failed := by
  unfold execute at hexecute ⊢
  by_cases hvalid : (!engine.schema.validates request) = true
  · exact ⟨_, if_pos hvalid⟩
  · rw [if_neg hvalid] at hexecute ⊢
    obtain ⟨grounded, hground, -⟩ := Except.bind_eq_ok.1 hexecute
    obtain ⟨hsubject, hother, hexcluded⟩ := ground_returns_iff.1 ⟨grounded, hground⟩
    have hbare : engine.Resolves request (context.withTurns conversation turns) :=
      ⟨resolve_returns_bare h hsubject, fun other h' => resolve_returns_bare h (hother other h'),
        fun reference hreference => resolve_returns_bare h (hexcluded reference hreference)⟩
    obtain ⟨outcome, houtcome⟩ := ground_returns_iff.2 hbare
    cases outcome with
    | inl failed => exact ⟨failed, by rw [houtcome]; rfl⟩
    | inr found =>
        obtain ⟨reference, hreference, hkind⟩ := hdiscourse
        obtain ⟨_, _, _, _, hresolve⟩ := ground_found houtcome reference hreference
        obtain ⟨failed, hfailed⟩ := resolve_bare h hkind _ _ _
        rw [hfailed] at hresolve
        cases hresolve

end HouseholdFactEngine
end HomeCortex
