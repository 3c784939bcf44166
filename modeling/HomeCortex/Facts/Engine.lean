/-
# Executing a fact request

`HouseholdFactEngine.execute` of `facts/engine.py`: the references of a request are
resolved, excluded and filtered, and the operation is applied, once or for each
record.  A failure of any part is a `FactResult`; every other exception leaves
`execute` as it is.
-/

import HomeCortex.Facts.Resolver

namespace HomeCortex

/-- `_result_unit`. -/
def resultUnit (request : SemanticFactRequest) : Option String :=
  match request.operation with
  | .dateDifference | .annualOccurrence => request.mode.map DateUnit.name
  | .unitConversion => request.to_unit
  | _ => none

/-- `_entity_type` of a `dict`. -/
def fieldsType (record : Fields) : String := idType ((record.get? "id").elim "" Json.pyStr)

namespace HouseholdFactEngine

variable (engine : HouseholdFactEngine)

/-! ### Properties of resolved records -/

/-- `_singular`. -/
def singular (entities : List Entity) (request : SemanticFactRequest) (load_full : Bool) :
    Except Raised (FactResult ⊕ Entity) := do
  match entities with
  | [] => return .inl {
      status := if request.subject.path.isEmpty then .entityNotFound else .relationshipNotFound }
  | [entity] =>
      return .inr (← if load_full then engine.load entity else engine.loadIfUnnamed entity)
  | entities =>
      return .inl { status := .ambiguous, candidates := ← entities.mapM engine.loadIfUnnamed }

/-- `_singular_relationship`. -/
def singularRelationship (records : List Edge) (evidence : FactEvidence) : FactResult ⊕ Edge :=
  match records with
  | [] => .inl { status := .relationshipNotFound, evidence := evidence }
  | [edge] => .inr edge
  | _ => .inl { status := .ambiguous, evidence := evidence }

/-- `_property`. -/
def propertyOf (entity : Fields) (semantic : String) : FactResult ⊕ Json :=
  let unavailable : FactResult := {
    status := .propertyUnavailable
    evidence := {
      entity_ids := if (entity.getD "id").truthy then [(entity.getD "id").pyStr] else []
      semantic_property := some semantic }
    missing_requirements := [semantic] }
  match engine.schema.physicalProperty (fieldsType entity) semantic with
  | none => .inl unavailable
  | some physical =>
      if entity.getD physical = .null ∨ !engine.schema.valueValid semantic (entity.getD physical)
      then .inl unavailable
      else .inr (entity.getD physical)

/-- `_relationship_property`. -/
def relationshipProperty (relationship : Fields) (request : SemanticFactRequest)
    (evidence : FactEvidence) : Except Raised (FactResult ⊕ Json) :=
  match lastRelation request.subject, request.property with
  | some relation, some property =>
      let unavailable : FactResult := {
        status := .relationPropertyUnavailable
        evidence := evidence
        missing_requirements := [property] }
      match (engine.schema.physicalRelation relation).bind fun resolved =>
          engine.schema.relationProperty resolved.1 property with
      | none => .ok (.inl unavailable)
      | some physical =>
          if relationship.getD physical = .null ∨
              !engine.schema.valueValid property (relationship.getD physical)
          then .ok (.inl unavailable)
          else .ok (.inr (relationship.getD physical))
  | _, _ => .error (.error .assertion)

/-- The value that an operation takes from a record. -/
def recordValue (record : Fields) (request : SemanticFactRequest) (evidence : FactEvidence) :
    Except Raised (FactResult ⊕ Json) :=
  match request.property_source, request.property with
  | .relationship, _ => engine.relationshipProperty record request evidence
  | .entity, some property => .ok (engine.propertyOf record property)
  | .entity, none => .ok (.inr (.obj record))

/-! ### Kinship of the speaker -/

/-- The `SemanticFilter` of a concept's filter, when it is one. -/
def conceptFilter? (item : OntologyFilter) : Option SemanticFilter :=
  let fields : FilterFields := {
    property := some item.property
    operator := item.operator
    value := .scalar item.value
    source := item.source
    anchored := item.anchored
    value_property := item.value_property }
  if h : fields.valid = true then some ⟨fields, h⟩ else none

/-- The `SemanticRelationStep` of a concept's step, when it is one. -/
def conceptStep? (step : OntologyRelationStep) : Option SemanticRelationStep := do
  let filters ← step.filters.mapM conceptFilter?
  if h : isRequestName step.relation = true then some ⟨step.relation, filters, h⟩ else none

/-- The reference of a concept from the speaker, when it is one. -/
def conceptReference? (concept : OntologyReferenceConcept) : Option SemanticReference := do
  let path ← concept.path.mapM conceptStep?
  let fields : ReferenceFields := { kind := .self, entity_type := some "person", path := path }
  if h : fields.valid = true then some ⟨fields, h⟩ else none

/-- `frozenset({"spouse", "parent", "child"})`. -/
def kinshipRelations : List String := ["spouse", "parent", "child"]

/-- The length and the filters of a concept, when it leads from the speaker to
`target_id`. -/
def conceptMatch? (context : AgentRequestContext) (target_id : String)
    (concept : OntologyReferenceConcept) : Except Raised (Option (Nat × Nat × String)) :=
  if concept.path.isEmpty || !concept.path.all fun step => kinshipRelations.contains step.relation
  then .ok none
  else match conceptReference? concept with
    | none => .ok none
    | some reference =>
        match engine.resolve reference context [] true true with
        | .error error => .error (.error error)
        | .ok (.inl _) => .ok none
        | .ok (.inr resolution) =>
            .ok (if resolution.evidence.entity_ids.contains target_id then
              some (concept.path.length,
                (concept.path.map fun step => step.filters.length).sum, concept.name)
            else none)

/-- `a[:2] <= b[:2]` of two matches. -/
def lessSpecific (a b : Nat × Nat × String) : Bool :=
  a.1 < b.1 || (a.1 == b.1 && a.2.1 ≤ b.2.1)

/-- The name of the only match that is as specific as every other. -/
def mostSpecific (candidates : List (Nat × Nat × String)) : Option String :=
  match candidates.filter fun candidate => candidates.all fun other =>
      lessSpecific other candidate with
  | [best] => some best.2.2
  | _ => none

/-- `_speaker_relative_concept`. -/
def speakerRelativeConcept (target_id : String) (request : SemanticFactRequest)
    (context : AgentRequestContext) : Except Raised (Option String) := do
  let applies := request.property.isNone && request.subject.path.isEmpty &&
    request.filters.isEmpty && request.other.isNone &&
    [.namedEntity, .entityId].contains request.subject.kind
  match context.caller_entity_id with
  | none => return none
  | some speaker =>
      if !applies || target_id = "" || speaker = "" || speaker = target_id then return none
      else
        let candidates ← engine.schema.ontology.reference_concepts.mapM
          (engine.conceptMatch? context target_id)
        return mostSpecific (candidates.filterMap id)

/-! ### Operations -/

/-- `if isinstance(found, FactResult): return found`. -/
def onFound {α : Type} (found : FactResult ⊕ α) (next : α → Except Raised FactResult) :
    Except Raised FactResult :=
  match found with
  | .inl failed => .ok failed
  | .inr value => next value

/-- The values of all records, or the result that stops the operation. -/
def normalizedRecords (request : SemanticFactRequest) (evidence : FactEvidence) :
    List Fields → Except Raised (FactResult ⊕ List (Json × Fields))
  | [] => .ok (.inr [])
  | record :: records => do
      match ← engine.recordValue record request evidence with
      | .inl failed => return .inl {
          status := if failed.status = .propertyUnavailable then .computationInputMissing
            else failed.status
          evidence := evidence
          missing_requirements := failed.missing_requirements
          candidates := failed.candidates }
      | .inr value =>
          return (← normalizedRecords request evidence records).map id ((value, record) :: ·)

/-- `{"value": value, "entity": record}`. -/
def normalizedFields (item : Json × Fields) : Fields :=
  [("value", item.1), ("entity", .obj item.2)]

/-- The parameters and the input of an operator. -/
def operatorInput (request : SemanticFactRequest) (now : Clock) (records : List Fields) :
    OperatorInput := {
  records := records
  field := if request.property.isSome then some "value" else none
  mode := request.mode
  from_unit := request.from_unit
  to_unit := request.to_unit
  now := some now
  amount := request.amount }

/-- The operation orders its records by time. -/
def ordersByTime (operation : FactOperation) : Bool :=
  operation == .latest || operation == .earliest

/-- The `try` around an operator. -/
def computed (request : SemanticFactRequest) (now : Clock) (items : List (Json × Fields)) :
    Except PyError Json := do
  let field := if request.property.isSome then some "value" else none
  let kind := if request.property.isSome then inferFieldKind (items.map Prod.fst) else .unknown
  request.operation.validate field kind
    (if ordersByTime request.operation then field else none) kind
    (SemanticSchemaRegistry.parametersOf request)
  executeOperator request.operation
    (operatorInput request now (items.map normalizedFields))

/-- `selected_value == other_value`. -/
def sameValue : FactResult ⊕ Json → FactResult ⊕ Json → Bool
  | .inl a, .inl b => a == b
  | .inr a, .inr b => a.pyEq b
  | _, _ => false

/-- The value of an operator as a result: a selected record stands for itself, beside
the other one in a comparison of two. -/
def operatorResult (request : SemanticFactRequest) (evidence : FactEvidence)
    (records : List Fields) (value : Json) : FactResult :=
  let selected? := value.asObject?.bind fun fields => (fields.getD "entity").asObject?
  match selected?, request.other, records with
  | some selected, some _, first :: rest =>
      let other := ((first :: rest).find? fun record =>
        !(record.getD "id").pyEq (selected.getD "id")).getD first
      let semantic := request.property.getD ""
      let equal := sameValue (engine.propertyOf selected semantic) (engine.propertyOf other semantic)
      { status := .found, evidence := evidence
        value := .json (.obj [("selected", .obj selected), ("other", .obj other),
          ("equal", .bool equal)]) }
  | selected?, _, _ =>
      let value := (selected?.map Json.obj).getD value
      let named := value.asObject?.any fun fields => (fields.getD "id").truthy
      { status := .found, value := .json value, evidence := evidence, unit := resultUnit request
        shape := if request.property_source = .entity ∧ named = true then .entity else .scalar }

/-- An operator applied to records. -/
def transform (request : SemanticFactRequest) (now : Clock) (evidence : FactEvidence)
    (records : List Fields) : Except Raised FactResult := do
  match ← engine.normalizedRecords request evidence records with
  | .inl failed => return failed
  | .inr [] => return { status := .computationImpossible, evidence := evidence }
  | .inr items =>
      -- The sort stands outside the `try` of the operator.
      let items ← if ordersByTime request.operation then
          match pySortBy Prod.fst (request.operation == .latest) items with
          | .ok items => pure items
          | .error error => throw (.error error)
        else pure items
      match computed request now items with
      | .ok value => return engine.operatorResult request evidence records value
      | .error error =>
          if error.isComputationError then
            return { status := .computationImpossible, evidence := evidence
                     missing_requirements := request.property.toList }
          else throw (.error error)

/-- The records of an operator, or the result that stops it. -/
def operatorRecords (request : SemanticFactRequest) (entities other_entities : List Entity)
    (relationship_records : List Edge) (evidence : FactEvidence) :
    Except Raised (FactResult ⊕ List Fields) := do
  if request.other.isSome then
    let left ← engine.singular entities request true
    let right ← engine.singular other_entities request true
    match left, right with
    | .inl failed, _ | _, .inl failed => return .inl failed
    | .inr left, .inr right => return .inr [left.toFields, right.toFields]
  else match request.operation.definition.input_shape, request.property_source with
    | .scalar, .relationship =>
        return (singularRelationship relationship_records evidence).map id fun edge =>
          [edge.toFields]
    | .scalar, .entity =>
        return (← engine.singular entities request true).map id fun entity => [entity.toFields]
    | _, .relationship => return .inr (relationship_records.map Edge.toFields)
    | _, .entity => return .inr ((← entities.mapM engine.load).map Entity.toFields)

/-- `sorted(names)`. -/
def sortedNames (names : List String) : List String := names.insertionSort (· ≤ ·)

/-- The values of `inspect`. -/
def inspectedValues (entity : Entity) : Json :=
  .obj ((sortedNames (engine.schema.semanticProperties (entityType entity))).map fun name =>
    (name, ((engine.schema.physicalProperty (entityType entity) name).map entity.get).getD .null))

/-- The evidence of an operation. -/
def operationEvidence (request : SemanticFactRequest) (entities other_entities : List Entity)
    (relationships : List FactRelationshipEvidence) : FactEvidence := {
  entity_ids := ((entities ++ other_entities).map Entity.id).filter (· ≠ "")
  relationship := lastRelation request.subject
  semantic_property := request.property
  relationships := relationships }

/-- The `resolve_reference` branch of `_operate`. -/
def resolveReference (request : SemanticFactRequest) (entities : List Entity)
    (context : AgentRequestContext) (evidence : FactEvidence) : Except Raised FactResult := do
  onFound (← engine.singular entities request false) fun entity => do
    let concept ← engine.speakerRelativeConcept entity.id request context
    return {
      status := .found
      value := .json (.obj entity.toFields)
      evidence := match concept with
        | some name => if name = "" then evidence
            else { evidence with reference_concept := some name }
        | none => evidence
      shape := .entity }

/-- The `same_entity` branch of `_operate`. -/
def sameEntity (request : SemanticFactRequest) (entities other_entities : List Entity)
    (evidence : FactEvidence) : Except Raised FactResult := do
  let left ← engine.singular entities request false
  let right ← engine.singular other_entities request false
  onFound left fun left => onFound right fun right =>
    .ok { status := .found, value := .json (.bool (left.id = right.id)), evidence := evidence }

/-- The `select` branch of `_operate`, with a property. -/
def selectProperty (request : SemanticFactRequest) (entities : List Entity)
    (relationship_records : List Edge) (evidence : FactEvidence) : Except Raised FactResult := do
  let found (value : Json) : Except Raised FactResult :=
    .ok { status := .found, value := .json value, evidence := evidence }
  match request.property_source with
  | .relationship =>
      onFound (singularRelationship relationship_records evidence) fun edge => do
        onFound (← engine.relationshipProperty edge.toFields request evidence) found
  | .entity =>
      onFound (← engine.singular entities request true) fun entity =>
        onFound (engine.propertyOf entity.toFields (request.property.getD "")) found

/-- `_operate`. -/
def operate (request : SemanticFactRequest) (entities other_entities : List Entity)
    (relationship_records : List Edge) (context : AgentRequestContext)
    (relationships : List FactRelationshipEvidence) : Except Raised FactResult := do
  let evidence := operationEvidence request entities other_entities relationships
  match request.operation, request.property with
  | .count, _ =>
      return { status := .found, value := .json (.int entities.length), evidence := evidence }
  | .select, none =>
      return { status := .found, value := .entities (← entities.mapM engine.loadIfUnnamed)
               evidence := evidence, shape := .entities }
  | .inspect, _ =>
      onFound (← engine.singular entities request true) fun entity =>
        .ok { status := .found, value := .json (engine.inspectedValues entity), evidence := evidence }
  | .resolveReference, _ => engine.resolveReference request entities context evidence
  | .sameEntity, _ => engine.sameEntity request entities other_entities evidence
  | .select, some _ => engine.selectProperty request entities relationship_records evidence
  | _, _ => do
      onFound (← engine.operatorRecords request entities other_entities relationship_records evidence)
        fun records => engine.transform request context.current_time evidence records

/-! ### Filters of the request -/

/-- `_entity_filter_matches`. -/
def entityFilterMatches (item : SemanticFilter) (entity : Entity) (now : Clock) :
    Except Raised Bool := do
  let property := item.property.getD ""
  match engine.schema.physicalProperty (entityType entity) property with
  | none => raiseFailure { status := .filterUnsupported, missing := [property] }
  | some physical =>
      let record ← if entity.has physical then pure entity else engine.load entity
      if record.get physical = .null then
        raiseFailure { status := .filterInputMissing, missing := [property] }
      else
        engine.schema.validateFilterValue property (record.get physical)
        match engine.derivedFilter? now property item (record.get physical) with
        | some matched => matched
        | none => return evaluatePredicate item.operator (record.get physical) item.value

/-- `_relation_filter_matches`. -/
def relationFilterMatches (request : SemanticFactRequest) (item : SemanticFilter)
    (edges : List Edge) : Except Raised Bool :=
  match lastRelation request.subject, item.property with
  | some relation, some property =>
      match (engine.schema.physicalRelation relation).bind fun resolved =>
          engine.schema.relationProperty resolved.1 property with
      | none => raiseFailure { status := .filterUnsupported, missing := [property] }
      | some physical =>
          match (edges.map fun edge => edge.get physical).filter (· ≠ .null) with
          | [] => raiseFailure { status := .filterInputMissing, missing := [property] }
          | values => do
              values.forM (engine.schema.validateFilterValue property)
              return values.any fun value => evaluatePredicate item.operator value item.value
  | _, _ => .error (.error .assertion)

/-- The fallback of a collection predicate. -/
def fallbackMatches (predicate : String) (fallback : OntologyPredicateFallback) (entity : Entity)
    (now : Clock) : Except Raised Bool := do
  match engine.schema.physicalProperty (entityType entity) fallback.property with
  | none => raiseFailure { status := .filterUnsupported, missing := [predicate] }
  | some physical =>
      let record ← if entity.has physical then pure entity else engine.load entity
      if record.get physical = .null then
        raiseFailure { status := .filterInputMissing, missing := [predicate, fallback.property] }
      else
        engine.schema.validateFilterValue fallback.property (record.get physical)
        match engine.schema.ontology.policy_values.lookup fallback.value_from_policy with
        | none => throw (.error (.key fallback.value_from_policy))
        | some policy =>
            derivedDateMatches (record.get physical) now fallback.transform fallback.mode
              fallback.operator (.scalar policy) fallback.require_past
              [predicate, fallback.property]

/-- Where the roles of a predicate are stored, for the final relation of the subject. -/
def roleProperty (request : SemanticFactRequest) (definition : OntologyCollectionPredicate) :
    Option String := do
  let relation ← lastRelation request.subject
  let resolved ← engine.schema.physicalRelation relation
  engine.schema.relationProperty resolved.1 definition.relation_property

/-- `_semantic_predicate_matches`. -/
def semanticPredicateMatches (request : SemanticFactRequest) (predicate : String)
    (entity : Entity) (edges : List Edge) (now : Clock) : Except Raised Bool := do
  match engine.schema.ontology.collection_predicates.lookup predicate with
  | none => raiseFailure { status := .filterUnsupported, missing := [predicate] }
  | some definition =>
      let roles : List Json := match engine.roleProperty request definition with
        | some physical => (edges.map fun edge => edge.get physical).filter (· ≠ .null)
        | none => []
      let decisions := (definition.recognized_values.filter fun value =>
        roles.contains (.str value)).map definition.matching_values.contains
      roles.forM (engine.schema.validateFilterValue definition.relation_property)
      match decisions with
      | [] => engine.fallbackMatches predicate definition.fallback entity now
      | decision :: decisions =>
          if decisions.all (· == decision) then return decision
          else raiseFailure { status := .filterInputMissing, missing := [predicate] }

/-- One filter of `_filter_collection`. -/
def requestFilterMatches (request : SemanticFactRequest) (entity : Entity) (edges : List Edge)
    (now : Clock) (item : SemanticFilter) : Except Raised Bool :=
  match item.predicate, item.source with
  | some predicate, _ => engine.semanticPredicateMatches request predicate entity edges now
  | none, .relation => engine.relationFilterMatches request item edges
  | none, .entity => engine.entityFilterMatches item entity now

/-- The edges of a record among relationship records. -/
def edgesTo (relationship_records : List Edge) (entity : Entity) : List Edge :=
  relationship_records.filter fun edge => edge.relatedId == some entity.id

/-- What `_filter_collection` makes of one record: kept, dropped, or a failed row. -/
def filterRecord (request : SemanticFactRequest) (relationship_records : List Edge) (now : Clock)
    (filters : List SemanticFilter) (entity : Entity) : Except Raised (Bool ⊕ FactRow) :=
  match filters.allM (engine.requestFilterMatches request entity
      (edgesTo relationship_records entity) now) with
  | .ok kept => .ok (.inl kept)
  | .error (.failure failure) =>
      if request.projection = .each then do
        let visible ← engine.loadIfUnnamed entity
        return .inr {
          entity := visible
          status := failure.status
          evidence := {
            entity_ids := [entity.id]
            relationship := lastRelation request.subject
            semantic_property := request.property }
          missing_requirements := failure.missing
          unit := resultUnit request }
      else raiseFailure failure
  | .error error => .error error

/-- `_filter_collection`. -/
def filterCollection (request : SemanticFactRequest) (entities : List Entity)
    (relationship_records : List Edge) (now : Clock) :
    Except Raised (List Entity × List Edge × List FactRow) := do
  -- All edge conditions of a relationship projection bind the same final edge.
  let edge_filters := request.filters.filter fun item => item.source = .relation
  let by_edge := request.projection = .each && request.property_source = .relationship &&
    !edge_filters.isEmpty
  let records ← if by_edge then
      relationship_records.filterM fun edge =>
        edge_filters.allM fun item => engine.relationFilterMatches request item [edge]
    else pure relationship_records
  let entities := if by_edge then
      entities.filter fun entity => (records.filterMap Edge.relatedId).contains entity.id
    else entities
  let filters := if by_edge then request.filters.filter fun item => item.source ≠ .relation
    else request.filters
  let outcomes ← entities.mapM fun entity => do
    return (entity, ← engine.filterRecord request records now filters entity)
  let kept := outcomes.filterMap fun outcome =>
    match outcome.2 with
    | .inl true => some outcome.1
    | _ => none
  let failures := outcomes.filterMap fun outcome => outcome.2.getRight?
  return (kept, records.filter fun edge => edge.relatedId.any (kept.map Entity.id).contains, failures)

/-! ### Results -/

/-- The rows of one record of `_project_each`. -/
def projectedRow (request : SemanticFactRequest) (context : AgentRequestContext) (entity : Entity)
    (group : List Edge) : Except Raised FactRow := do
  let relation := lastRelation request.subject
  -- `assert relation is not None` for every edge of the row.
  let relationships ← match relation, group with
    | some relation, group => pure (remember [] (group.map fun edge => (relation, edge)))
    | none, [] => pure []
    | none, _ :: _ => throw (.error .assertion)
  let evidence : FactEvidence := {
    entity_ids := [entity.id]
    relationship := relation
    semantic_property := request.property
    relationships := relationships }
  let scalar := { request with projection := .scalar, exclude := [], exclude_bound := noExclude_bound }
  let run : Except Raised (Entity × FactResult) := do
    let visible ← engine.loadIfUnnamed entity
    return (visible, ← engine.operate scalar [entity] [] group context relationships)
  match run with
  | .ok (visible, value) => return {
      entity := visible
      status := value.status
      value := value.value
      unit := resultUnit request
      evidence := evidence
      missing_requirements := value.missing_requirements }
  | .error (.failure failure) => return {
      entity := entity
      status := failure.status
      unit := resultUnit request
      evidence := evidence
      missing_requirements := failure.missing }
  | .error error => throw error

/-- `_project_each`. -/
def projectEach (request : SemanticFactRequest) (entities : List Entity)
    (relationship_records : List Edge) (context : AgentRequestContext)
    (initial_rows : List FactRow) : Except Raised FactResult := do
  let rows ← entities.mapM fun entity =>
    let edges := edgesTo relationship_records entity
    let groups := if request.property_source = .relationship then edges.map fun edge => [edge]
      else [edges]
    (if groups.isEmpty then [[]] else groups).mapM (engine.projectedRow request context entity)
  return { status := .found, shape := .rows, rows := initial_rows ++ rows.flatten }

/-- The content groups that remain visible in the value of a result. -/
def visibleGroups (groups : List FactContentGroup) (visible : List Entity) :
    List FactContentGroup :=
  (groups.map fun group =>
    { group with entities := group.entities.filterMap fun item =>
        visible.reverse.find? fun entity => entity.id = item.id }).filter fun group =>
    !group.entities.isEmpty

/-- The end of an edge of the resolution that has the type of the named subject. -/
def namedAnchor (request : SemanticFactRequest) (relationships : List FactRelationshipEvidence) :
    Option String :=
  (relationships.flatMap fun edge => edge.source_id.toList ++ edge.target_id.toList).find?
    fun entity_id => some (idType entity_id) = request.subject.entity_type

/-- `focus_entity_ids`. -/
def focusIds (request : SemanticFactRequest) (entities other_entities : List Entity)
    (relationships : List FactRelationshipEvidence) (value : FactValue) : List String :=
  let all := ((entities ++ other_entities).map Entity.id).filter (· ≠ "")
  let selected? := match value with
    | .json (.obj fields) =>
        if request.other.isNone && request.property_source == .entity &&
            (Fields.getD fields "id").truthy then some (Fields.getD fields "id").pyStr else none
    | _ => none
  let focus := match selected? with
    | some id => [id]
    | none => all
  let anchored := request.subject.kind == .namedEntity && !request.subject.path.isEmpty &&
    !entities.any fun entity => some (entityType entity) == request.subject.entity_type
  let anchor := if anchored then (namedAnchor request relationships).toList else []
  uniqueIds (anchor ++ focus)
where
  /-- `dict.fromkeys(ids)`. -/
  uniqueIds (ids : List String) : List String :=
    ids.foldl (fun unique id => if unique.contains id then unique else unique ++ [id]) []

/-- `allow_empty_collection` of the subject. -/
def allowsEmpty (request : SemanticFactRequest) : Bool :=
  request.operation == .count || request.operation == .select || request.projection == .each

/-- `expect_many` of the subject. -/
def expectsMany (request : SemanticFactRequest) : Bool :=
  request.other.isNone && (request.projection == .each ||
    request.operation.definition.input_shape == .collection ||
    (request.operation == .select && request.property.isNone) || !request.filters.isEmpty)

/-- `resolution` and `other_resolution` once both are found, and the excluded
identities. -/
structure Grounded where
  subject : ResolvedEntities
  other : ResolvedEntities
  excluded : List String
  relationships : List FactRelationshipEvidence

/-- The excluded references, each after the evidence of those before it. -/
def resolveExcluded (context : AgentRequestContext) :
    List FactRelationshipEvidence → List SemanticReference →
      Except PyError (List Resolution × List FactRelationshipEvidence)
  | evidence, [] => .ok ([], evidence)
  | evidence, reference :: references => do
      let resolution ← engine.resolve reference context evidence false
        (reference.cardinality == .collection)
      let (rest, after) ← resolveExcluded context (evidenceAfter evidence resolution) references
      return (resolution :: rest, after)

/-- All references of a request are resolved; the first failure among them is the
result. -/
def ground (request : SemanticFactRequest) (context : AgentRequestContext) :
    Except PyError (FactResult ⊕ Grounded) := do
  let subject ← engine.resolve request.subject context [] (allowsEmpty request)
    (expectsMany request)
  let evidence := evidenceAfter [] subject
  let other ← match request.other with
    | some reference => engine.resolve reference context evidence false false
    | none => pure (.inr {})
  let evidence := if request.other.isSome then evidenceAfter evidence other else evidence
  let (excluded, relationships) ← engine.resolveExcluded context evidence request.exclude
  match subject, other, excluded.findSome? Sum.getLeft? with
  | .inl failed, _, _ | _, .inl failed, _ | _, _, some failed => return .inl failed
  | .inr subject, .inr other, none => return .inr {
      subject := subject
      other := other
      excluded := (excluded.filterMap Sum.getRight?).flatMap fun resolution =>
        resolution.evidence.entity_ids
      relationships := relationships }

/-- The computation of `execute`, and the records it is about. -/
def compute (request : SemanticFactRequest) (context : AgentRequestContext) (grounded : Grounded) :
    Except Raised (FactResult × List Entity) := do
  let entities := grounded.subject.entities.filter fun item => !grounded.excluded.contains item.id
  let records := grounded.subject.relationship_records.filter fun edge =>
    !edge.relatedId.any grounded.excluded.contains
  let (entities, records, failures) ← if request.filters.isEmpty then
      pure (entities, records, [])
    else engine.filterCollection request entities records context.current_time
  let result ← match request.projection with
    | .each => engine.projectEach request entities records context failures
    | .scalar =>
        engine.operate request entities grounded.other.entities records context
          grounded.relationships
  return (result, entities)

/-- A found result with its content groups and its focus. -/
def finished (request : SemanticFactRequest) (grounded : Grounded) (result : FactResult)
    (entities : List Entity) : FactResult :=
  if result.status = .found then
    let groups := match result.value with
      | .entities visible => visibleGroups grounded.subject.content_groups visible
      | .json _ => result.content_groups
    { result with
      content_groups := groups
      focus_entity_ids := focusIds request entities grounded.other.entities
        grounded.subject.evidence.relationships result.value }
  else result

/-- `execute`. -/
def execute (request : SemanticFactRequest) (context : AgentRequestContext) :
    Except PyError FactResult := do
  if !engine.schema.validates request then return { status := .semanticPlanUnsupported }
  else
    match ← engine.ground request context with
    | .inl failed => return failed
    | .inr grounded =>
        match ← orFailed (engine.compute request context grounded) with
        | .inl failed => return failed
        | .inr (result, entities) => return finished request grounded result entities

end HouseholdFactEngine
end HomeCortex
