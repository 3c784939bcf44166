/-
# Grounding references

`EntityResolver` of `facts/resolver.py`: from a semantic reference to the records it
means.  The root is resolved first, then the path is followed step by step: every
record's edges are read with one sentinel row beyond the limit, edges and records
are filtered, and records are kept once.

What a run remembers of the edges it passed (`relationship_evidence`) is returned
beside its result: `remembered` lists the edges in the order they were passed.  The
cache of loaded records and the query count show only in timings.
-/

import HomeCortex.Common.Order
import HomeCortex.Semantic.Schema

namespace HomeCortex

/-- `HouseholdFactEngine`: the graph behind its dispatcher, its schema and its limit. -/
structure HouseholdFactEngine where
  graph : HouseholdGraph
  schema : SemanticSchemaRegistry
  max_records : Nat
  bounded : 1 ≤ max_records ∧ max_records < 100

/-- The limit that is configured by default. -/
theorem defaultRecords_bounded : 1 ≤ 25 ∧ 25 < 100 := by decide

/-- `_FactFailure(status, …)`, raised. -/
def raiseFailure {α : Type} (failure : FactFailure) : Except Raised α := .error (.failure failure)

/-- The result of a failure. -/
def FactFailure.toResult (failure : FactFailure) : FactResult :=
  { status := failure.status
    evidence := failure.evidence
    candidates := failure.candidates
    missing_requirements := failure.missing }

/-- What `records` makes of a read: a failed one is `computation_impossible`. -/
def answered {α : Type} (answer : Option α) : Except Raised α :=
  match answer with
  | some value => .ok value
  | none => raiseFailure { status := .computationImpossible }

/-- The edges a run passed, with the semantic relation they were passed for. -/
abbrev Remembered := List (String × Edge)

/-- `evidence == other`. -/
def FactRelationshipEvidence.pyEq (a b : FactRelationshipEvidence) : Bool :=
  a.relation == b.relation && a.source_id == b.source_id && a.target_id == b.target_id &&
    a.start.pyEq b.start && a.end.pyEq b.end

/-- `_string_or_none`. -/
def stringOrNone (value : Json) : Option String :=
  if value = .null then none else some value.pyStr

/-- `edge.get(key) or edge.get(other)`. -/
def Edge.getOr (edge : Edge) (key other : String) : Json :=
  if (edge.get key).truthy then edge.get key else edge.get other

/-- `remember_relationship`. -/
def rememberRelationship (evidence : List FactRelationshipEvidence) (passed : String × Edge) :
    List FactRelationshipEvidence :=
  let item : FactRelationshipEvidence := {
    relation := passed.1
    source_id := stringOrNone (passed.2.getOr "in" "from")
    target_id := stringOrNone (passed.2.getOr "out" "to")
    start := passed.2.get "start"
    «end» := passed.2.get "end" }
  if evidence.any fun other => item.pyEq other then evidence else evidence ++ [item]

/-- The evidence after remembering edges. -/
def remember (evidence : List FactRelationshipEvidence) (passed : Remembered) :
    List FactRelationshipEvidence :=
  passed.foldl rememberRelationship evidence

/-! ### Derived dates -/

/-- `except (OperatorValidationError, OperatorExecutionError, TypeError, ValueError)`. -/
def PyError.isComputationError : PyError → Bool
  | .operatorValidation _ | .operatorExecution _ | .type _ | .value _ | .spatialContract _
  | .spatialUnit _ | .spatialTransform _ | .visionContract _ | .sessionProtocol ..
  | .telemetryAdmission .. => true
  | .overflow _ | .runtime _ | .unknownEdgeSchema _ | .key _ | .assertion => false

/-- `except KeyError`. -/
def PyError.isKeyError : PyError → Bool
  | .key _ => true
  | _ => false

/-- The one record of a date that is compared with the household clock. -/
def dateInput (raw : Json) (now : Clock) (mode : Option DateUnit) : OperatorInput :=
  { records := [[("value", raw)]], field := some "value", mode := mode, now := some now }

/-- The `try` of `_derived_date_matches`. -/
def derivedDate (raw : Json) (now : Clock) (transform : FactOperation) (mode : Option DateUnit)
    (require_past : Bool) : Except PyError Json := do
  let elapsed ← if require_past then
      executeOperator .dateDifference (dateInput raw now (some .seconds))
    else pure (.int 0)
  raiseIf (← elapsed.pyLt (.int 0)) (.operatorExecution "derived date filter requires a past date")
  transform.validate (some "value") (inferFieldKind [raw]) none .unknown { mode := mode }
  executeOperator transform (dateInput raw now mode)

/-- `_derived_date_matches`. -/
def derivedDateMatches (raw : Json) (now : Clock) (transform : FactOperation)
    (mode : Option DateUnit) (operator : PredicateOperator) (compare_value : Operand)
    (require_past : Bool) (missing : List String) : Except Raised Bool :=
  match derivedDate raw now transform mode require_past with
  | .ok derived => .ok (evaluatePredicate operator derived compare_value)
  | .error error =>
      if error.isComputationError || error.isKeyError then
        raiseFailure { status := .filterInputMissing, missing := missing }
      else .error (.error error)

namespace HouseholdFactEngine

variable (engine : HouseholdFactEngine)

/-! ### Reads -/

/-- `load`. -/
def load (entity : Entity) : Except Raised Entity :=
  if entity.id.toList.contains ':' then do
    match ← answered (engine.graph.getEntity entity.id) with
    | record :: _ => return record
    | [] => raiseFailure { status := .entityNotFound }
  else .ok entity

/-- `load_if_unnamed`. -/
def loadIfUnnamed (entity : Entity) : Except Raised Entity :=
  if ["display_name", "name", "full_name"].any fun field => (entity.get field).truthy then
    .ok entity
  else engine.load entity

/-- `_relation_edges`: a read that returns its sentinel row is not complete. -/
def relationEdges (entity_id relation : String) (direction : Option Direction) :
    Except Raised (List Edge) := do
  let edges ← answered (engine.graph.getRelationships engine.schema.catalog.edge_registry entity_id
    relation direction (engine.max_records + 1))
  if engine.max_records < edges.length then
    raiseFailure { status := .collectionIncomplete, missing := [relation] }
  else return edges

/-! ### Filters of a step -/

/-- One relation filter of `_edge_matches`. -/
def edgeFilterMatches (relation : String) (edge : Edge) (item : SemanticFilter) :
    Except Raised Bool := do
  let property := item.property.getD ""
  match engine.schema.relationProperty relation property with
  | none => raiseFailure {
      status := .propertyUnavailable
      evidence := { semantic_property := some property }
      missing := [property] }
  | some physical =>
      engine.schema.validateFilterValue property (edge.get physical)
      return evaluatePredicate item.operator (edge.get physical) item.value

/-- `_edge_matches`. -/
def edgeMatches (relation : String) (filters : List SemanticFilter) (edge : Edge) :
    Except Raised Bool :=
  (filters.filter fun item => item.source = .relation).allM (engine.edgeFilterMatches relation edge)

/-- `_anchor_property`. -/
def anchorProperty (anchors : List Entity) (semantic_property : String) : Except Raised Json := do
  match anchors with
  | [anchor] =>
      let anchor ← engine.load anchor
      match engine.schema.physicalProperty (entityType anchor) semantic_property with
      | none => raiseFailure {
          status := .propertyUnavailable
          evidence := { semantic_property := some semantic_property }
          missing := [semantic_property] }
      | some physical =>
          if anchor.get physical = .null then
            raiseFailure {
              status := .propertyUnavailable
              evidence := { semantic_property := some semantic_property }
              missing := [semantic_property] }
          else do
            engine.schema.validateFilterValue semantic_property (anchor.get physical)
            return anchor.get physical
  | anchors => raiseFailure { status := .ambiguous, candidates := anchors }

/-- A filter over a date that is transformed first, when it is one. -/
def derivedFilter? (now : Clock) (property : String) (item : SemanticFilter) (raw : Json) :
    Option (Except Raised Bool) :=
  match engine.schema.ontology.computed_filters.lookup property with
  | some computed => some (derivedDateMatches raw now .dateDifference (some computed.mode)
      item.operator item.value computed.require_past [property])
  | none =>
      if item.derived then
        some (derivedDateMatches raw now .dateDifference item.mode item.operator item.value true
          [property])
      else none

/-- One entity filter of `_filter_entities`, on the stored value. -/
def stepFilterMatches (now : Clock) (anchors : List Entity) (item : SemanticFilter) (raw : Json) :
    Except Raised Bool := do
  let property := item.property.getD ""
  engine.schema.validateFilterValue property raw
  match engine.derivedFilter? now property item raw with
  | some matched => matched
  | none =>
      let expected ← if item.anchored then do
          pure (Operand.scalar
            (← engine.anchorProperty anchors (item.value_property.getD property)))
        else pure item.value
      return evaluatePredicate item.operator raw expected

/-- The stored names of the properties of filters. -/
def mappedFilters (entity_type : String) (filters : List SemanticFilter) :
    Except Raised (List (SemanticFilter × String)) :=
  filters.mapM fun item =>
    let property := item.property.getD ""
    match engine.schema.physicalProperty entity_type property with
    | some physical => .ok (item, physical)
    | none => raiseFailure {
        status := .propertyUnavailable
        evidence := { semantic_property := some property }
        missing := [property] }

/-- One record of `_filter_entities`: the record that was tested, when it matches. -/
def filterEntity (now : Clock) (anchors : List Entity) (filters : List SemanticFilter)
    (entity : Entity) : Except Raised (Option Entity) := do
  let mapped ← engine.mappedFilters (entityType entity) filters
  let record ← if mapped.all fun entry => entity.has entry.2 then pure entity
    else engine.load entity
  let predicates ← mapped.mapM fun entry =>
    engine.stepFilterMatches now anchors entry.1 (record.get entry.2)
  return if predicates.all id then some record else none

/-- `_filter_entities`. -/
def filterEntities (now : Clock) (anchors : List Entity) (filters : List SemanticFilter)
    (entities : List Entity) : Except Raised (List Entity) :=
  match filters.filter fun item => item.source = .entity with
  | [] => .ok entities
  | filters => do return (← entities.mapM (engine.filterEntity now anchors filters)).filterMap id

/-! ### Hosted spaces -/

/-- The state of `_hosted_descendants`; `stack` holds a record and whether it is left. -/
structure Hosting where
  descendants : List Entity
  edges : List Edge
  visited : List String
  active : List String
  stack : List (Entity × Bool)

/-- The space at the far end of a hosting edge. -/
def hostedChild? (edge : Edge) : Option Entity :=
  edge.related_entity.filter fun child => entityType child = "space"

/-- A record is visited: its hosted spaces are put on the stack above its leaving. -/
def Hosting.visit (state : Hosting) (entity : Entity) (stack : List (Entity × Bool))
    (edges : List Edge) : Hosting :=
  let hosting := edges.filter fun edge => (hostedChild? edge).isSome
  let children := hosting.filterMap hostedChild?
  { descendants := state.descendants ++ children
    edges := state.edges ++ hosting
    visited := entity.id :: state.visited
    active := entity.id :: state.active
    stack := children.reverse.map (fun child => (child, false)) ++ (entity, true) :: stack }

/-- The loop of `_hosted_descendants`, for at most `fuel` rounds. -/
def hostingLoop (relation : String) (direction : Option Direction) :
    Nat → Hosting → Except Raised Hosting
  | 0, _ => .error (.error (.runtime "the loop has not ended"))
  | fuel + 1, state =>
      match state.stack with
      | [] => .ok state
      | (entity, true) :: stack =>
          hostingLoop relation direction fuel
            { state with stack := stack, active := state.active.erase entity.id }
      | (entity, false) :: stack =>
          if state.active.contains entity.id then
            raiseFailure { status := .computationImpossible, missing := ["hosting_cycle"] }
          else if state.visited.contains entity.id then
            hostingLoop relation direction fuel { state with stack := stack }
          else do
            let edges ← engine.relationEdges entity.id relation direction
            hostingLoop relation direction fuel (state.visit entity stack edges)

/-- Rounds that suffice: each record is visited once, and a visit puts its leaving and
at most `max_records` spaces on the stack. -/
def hostingRounds (relation : String) : Nat :=
  2 + (2 * (engine.graph.edges relation).length + 1) * (engine.max_records + 1)

/-- `_hosted_descendants`, with the edges it passed. -/
def hostedDescendants (parent : Entity) : Except Raised (List Entity × List Edge) :=
  match engine.schema.physicalRelation "hosted_space" with
  | none => .ok ([], [])
  | some (relation, direction) => do
      let state ← engine.hostingLoop relation direction (engine.hostingRounds relation)
        ⟨[], [], [], [], [(parent, false)]⟩
      return (uniqueEntities state.descendants, state.edges)

/-! ### Steps of a path -/

/-- The edges that were read and matched at one source. -/
structure SourceEdges where
  source : Entity
  edges : List Edge

/-- What a step reads for one record: the record and, when it is collapsed, the
spaces it hosts. -/
structure EntityEdges where
  collapsed : Bool
  hosting : List Edge
  sources : List SourceEdges

/-- Where a step reads edges for a record, and the hosting edges passed to find out. -/
def stepSources (step : SemanticRelationStep) (entity : Entity) :
    Except Raised (Bool × List Edge × List Entity) :=
  if step.relation = "contents" then do
    let stored ← engine.load entity
    if stored.get "collapse" = .bool true then
      let (descendants, hosting) ← engine.hostedDescendants stored
      return (true, hosting, entity :: descendants)
    else return (false, [], [entity])
  else .ok (false, [], [entity])

/-- The edges of one record that match a step. -/
def entityEdges (step : SemanticRelationStep) (relation : String) (direction : Option Direction)
    (entity : Entity) : Except Raised EntityEdges := do
  let (collapsed, hosting, sources) ← engine.stepSources step entity
  let reads ← sources.mapM fun source => do
    let edges ← engine.relationEdges source.id relation direction
    return SourceEdges.mk source (← edges.filterM (engine.edgeMatches relation step.filters))
  return ⟨collapsed, hosting, reads⟩

/-- The edges that the step passed, in the order it remembers them. -/
def EntityEdges.remembered (reads : EntityEdges) (relation : String) : Remembered :=
  reads.hosting.map (fun edge => ("hosted_space", edge)) ++
    reads.sources.flatMap fun read => read.edges.map fun edge => (relation, edge)

/-- `grouped.setdefault(source["id"], (source, []))[1].append(…)`. -/
def addGroup (groups : List FactContentGroup) (read : SourceEdges) : List FactContentGroup :=
  let items := read.edges.filterMap fun edge => edge.related_entity
  if items.isEmpty then groups
  else if groups.any fun group => group.space.id = read.source.id then
    groups.map fun group =>
      if group.space.id = read.source.id then { group with entities := group.entities ++ items }
      else group
  else groups ++ [⟨read.source, items⟩]

/-- Records with their relationship records and content groups. -/
structure Reached where
  entities : List Entity
  relationship_records : List Edge := []
  content_groups : List FactContentGroup := []

/-- What a step keeps of its reads once the records are filtered. -/
def reachedBy (reads : List EntityEdges) (entities : List Entity) : Reached :=
  let found := reads.flatMap fun read => read.sources
  let ids := entities.map Entity.id
  { entities := entities
    relationship_records := (found.flatMap fun read => read.edges).filter fun edge =>
      edge.relatedId.any ids.contains
    content_groups :=
      if reads.any fun read => read.collapsed then
        (found.foldl addGroup []).map fun group =>
          { group with
            entities := uniqueEntities (group.entities.filter fun item => ids.contains item.id) }
      else [] }

/-- One step of a path. -/
def takeStep (now : Clock) (anchors : List Entity) (step : SemanticRelationStep)
    (entities : List Entity) : Except Raised (Reached × Remembered) :=
  match engine.schema.physicalRelation step.relation with
  | none => raiseFailure {
      status := .relationshipNotFound, evidence := { relationship := some step.relation } }
  | some (relation, direction) => do
      let reads ← entities.mapM (engine.entityEdges step relation direction)
      let edges := reads.flatMap fun read => read.sources.flatMap fun source => source.edges
      let related := uniqueEntities (edges.filterMap fun edge => edge.related_entity)
      let entities ← engine.filterEntities now anchors step.filters related
      return (reachedBy reads entities,
        reads.flatMap fun read => read.remembered step.relation)

/-- The path loop of `_resolve`. -/
def followPath (now : Clock) (anchors : List Entity) (allow_empty_collection : Bool) :
    List SemanticRelationStep → Reached → Remembered → Except Raised (Reached × Remembered)
  | [], reached, remembered => .ok (reached, remembered)
  | step :: path, reached, remembered => do
      let (next, passed) ← engine.takeStep now anchors step reached.entities
      if next.entities.isEmpty then
        if allow_empty_collection then return ({ entities := [] }, remembered ++ passed)
        else raiseFailure {
          status := .relationshipNotFound, evidence := { relationship := some step.relation } }
      else followPath now anchors allow_empty_collection path next (remembered ++ passed)

/-! ### Roots -/

/-- `scope_parent_relations`. -/
def scopeParentRelations (entity_type : String) : List String :=
  ((engine.schema.catalog.edge_registry.schemas.filter fun edge =>
    edge.scope_parent && edge.from_types.contains entity_type).map
      EdgeSchema.id).insertionSort (· ≤ ·)

/-- `_belongs_to_household`; `budget` is how far `visited` is from its bound of 12. -/
def belongsToHousehold (household_id : String) :
    Nat → List String → String → Except Raised Bool
  | budget, visited, entity_id =>
      if entity_id = household_id then .ok true
      else if visited.contains entity_id then .ok false
      else match budget with
        | 0 => .ok false
        | budget + 1 =>
            (engine.scopeParentRelations (idType entity_id)).anyM fun relation => do
              let edges ← engine.relationEdges entity_id relation (some .out)
              (edges.filterMap fun edge => edge.relatedId).anyM
                (belongsToHousehold household_id budget (entity_id :: visited))

/-- `_scope_named_records`. -/
def scopeNamedRecords (household_id : Option String) (records : List Entity) :
    Except Raised (List Entity) :=
  match household_id with
  | none => .ok records
  | some household => records.filterM fun record =>
      if (engine.scopeParentRelations (entityType record)).isEmpty then .ok true
      else engine.belongsToHousehold household 12 [] record.id

/-- `("discourse_antecedent",)`. -/
def discourseAntecedent : List String := ["discourse_antecedent"]

/-- The foci of the turn a reference means, when the discourse is that of the request
and has them. -/
def discourseIds (context : AgentRequestContext) (reference : SemanticReference) :
    Option (List String) := do
  let discourse ← context.discourse
  let conversation ← context.conversation_id
  let offset ← reference.turn_offset
  if discourse.conversation_id = conversation ∧
      discourse.caller_entity_id = context.caller_entity_id ∧
      discourse.household_id = context.household_id ∧
      discourse.assistant_id = context.assistant_id ∧
      offset ≤ discourse.turns.length then
    match discourse.turns[discourse.turns.length - offset]? with
    | some (id :: ids) => some (id :: ids)
    | _ => none
  else none

/-- The discourse branch of `_resolve`. -/
def discourseEntities (context : AgentRequestContext) (reference : SemanticReference) :
    Except Raised (List Entity) := do
  match discourseIds context reference with
  | none => raiseFailure { status := .discourseContextMissing, missing := discourseAntecedent }
  | some ids =>
      let loaded ← ids.mapM fun id => engine.load ⟨id, []⟩
      match loaded.filter fun entity => some (entityType entity) = reference.entity_type with
      | [] => raiseFailure { status := .discourseContextMissing, missing := discourseAntecedent }
      | [entity] => return [entity]
      | entities =>
          if reference.cardinality = .single then
            raiseFailure {
              status := .ambiguous, candidates := entities, missing := discourseAntecedent }
          else return entities

/-- The named branch of `_resolve`. -/
def namedEntities (context : AgentRequestContext) (reference : SemanticReference) :
    Except Raised (List Entity) := do
  let records ← answered (engine.graph.resolveEntityAlias {
    text := reference.value.getD ""
    entity_type := reference.entity_type
    speaker_id := context.caller_entity_id
    household_id := context.household_id } engine.max_records)
  match ← engine.scopeNamedRecords context.household_id records with
  | [] => raiseFailure { status := .entityNotFound }
  | [record] => return [record]
  | records => raiseFailure {
      status := .ambiguous
      evidence := { entity_ids := records.map Entity.id }
      candidates := records }

/-- The records a reference starts from. -/
def rootEntities (context : AgentRequestContext) (reference : SemanticReference) :
    Except Raised (List Entity) :=
  match reference.kind with
  | .unresolved => raiseFailure { status := .ambiguous, missing := ["semantic_reference"] }
  | .discourse => engine.discourseEntities context reference
  | .assistant =>
      .ok [⟨context.assistant_id, [("display_name", .str context.assistant_display_name)]⟩]
  | .self =>
      match context.caller_entity_id with
      | some caller => .ok [⟨caller, []⟩]
      | none => raiseFailure { status := .callerContextMissing }
  | .currentHousehold =>
      match context.household_id with
      | some household => .ok [⟨household, []⟩]
      | none => raiseFailure { status := .entityNotFound }
  | .entityId => .ok [⟨reference.value.getD "", []⟩]
  | .namedEntity => engine.namedEntities context reference

/-- `_resolve`. -/
def resolvePath (context : AgentRequestContext) (reference : SemanticReference)
    (allow_empty_collection : Bool) : Except Raised (Reached × Remembered) := do
  let entities ← engine.rootEntities context reference
  engine.followPath context.current_time entities allow_empty_collection reference.path
    { entities := entities } []

/-- `ResolvedEntities`. -/
structure ResolvedEntities where
  entities : List Entity := []
  evidence : FactEvidence := {}
  relationship_records : List Edge := []
  content_groups : List FactContentGroup := []

/-- What `resolve` returns: records, or the result of a failure. -/
abbrev Resolution := FactResult ⊕ ResolvedEntities

/-- `except _FactFailure as error`. -/
def orFailed {α : Type} (run : Except Raised α) : Except PyError (FactResult ⊕ α) :=
  match run with
  | .ok value => .ok (.inr value)
  | .error (.failure failure) => .ok (.inl failure.toResult)
  | .error (.error error) => .error error

/-- The `try` of `resolve`, with the evidence remembered before. -/
def resolved (reference : SemanticReference) (context : AgentRequestContext)
    (evidence : List FactRelationshipEvidence) (allow_empty_collection expect_many : Bool) :
    Except Raised (FactResult ⊕ ResolvedEntities) := do
  let (reached, remembered) ← engine.resolvePath context reference allow_empty_collection
  if 1 < reached.entities.length ∧ !expect_many then
    let candidates ← reached.entities.mapM engine.loadIfUnnamed
    return .inl { status := .ambiguous, candidates := candidates }
  else return .inr {
    entities := reached.entities
    evidence := {
      entity_ids := reached.entities.map Entity.id
      relationship := lastRelation reference
      relationships := remember evidence remembered }
    relationship_records := reached.relationship_records
    content_groups := reached.content_groups }

/-- `resolve`. -/
def resolve (reference : SemanticReference) (context : AgentRequestContext)
    (evidence : List FactRelationshipEvidence) (allow_empty_collection expect_many : Bool) :
    Except PyError Resolution := do
  match ← orFailed (engine.resolved reference context evidence allow_empty_collection
      expect_many) with
  | .inl failed => return .inl failed
  | .inr resolution => return resolution

/-- `execution.relationship_evidence` after a resolution. -/
def evidenceAfter (evidence : List FactRelationshipEvidence) : Resolution →
    List FactRelationshipEvidence
  | .inl _ => evidence
  | .inr resolution => resolution.evidence.relationships

end HouseholdFactEngine
end HomeCortex
