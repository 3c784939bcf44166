/-
# The semantic schema of a deployment

`SemanticSchemaRegistry` of `semantic/schema.py`: how the vocabulary maps onto the
catalog (`physicalProperty`, `physicalRelation`), the static types of references,
and which requests are executable (`validates`).  What is serialized for the
planner decides nothing here and is left out.
-/

import HomeCortex.Persistence.SchemaCatalog
import HomeCortex.Semantic.Ontology

namespace HomeCortex

/-- `SemanticSchemaRegistry`. -/
structure SemanticSchemaRegistry where
  catalog : RuntimeSchemaCatalog
  ontology : SemanticOntology

namespace SemanticSchemaRegistry

/-- `_RESOLVER_METADATA_PROPERTIES`. -/
def resolverMetadataProperties : List String := ["aliases", "appellations", "collapse"]

variable (schema : SemanticSchemaRegistry)

/-! ### Stored names -/

/-- `_property_candidates`. -/
def propertyCandidates (semantic : String) : List String :=
  if resolverMetadataProperties.contains semantic then []
  else match schema.ontology.properties.lookup semantic with
    | some definition => definition.fields
    | none => []

/-- `physical_property` of a property that is stored. -/
def storedProperty (entity_type semantic : String) : Option String := do
  let contract ← schema.ontology.contract? semantic
  let entity ← schema.catalog.entities.lookup entity_type
  if contract.entities.contains entity_type then
    (schema.propertyCandidates semantic).find? entity.properties.contains
  else none

/-- `(owner, semantic) in self.contracts.entity_bindings`. -/
def entityBinds (semantic owner : String) : Bool := (schema.storedProperty owner semantic).isSome

/-- A name of `_available_computed_filters`. -/
def computedAvailable (item : OntologyComputedFilter) : Bool :=
  item.contract.entities.all (schema.entityBinds item.source_property)

/-- A name of `_available_predicates`. -/
def predicateAvailable (item : OntologyCollectionPredicate) : Bool :=
  item.entity_types.all (schema.entityBinds item.fallback.property)

/-- `physical_property`; the source of a computed filter is a stored property. -/
def physicalProperty (entity_type semantic : String) : Option String :=
  match schema.ontology.computed_filters.lookup semantic with
  | some computed =>
      if schema.computedAvailable computed && computed.contract.entities.contains entity_type then
        schema.storedProperty entity_type computed.source_property
      else none
  | none => schema.storedProperty entity_type semantic

/-- `physical_relation`. -/
def physicalRelation (semantic : String) : Option (String × Option Direction) := do
  let public_name ← schema.ontology.base_relations.lookup semantic
  let resolved ← (schema.catalog.edge_registry.resolve public_name).toOption
  let _ ← schema.catalog.relations.lookup resolved.schema.id
  return (resolved.schema.id,
    if resolved.schema.symmetric then none else if resolved.inverse then some .into else some .out)

/-- `relation_property`. -/
def relationProperty (relation semantic : String) : Option String := do
  let definition ← schema.catalog.relations.lookup relation
  (schema.propertyCandidates semantic).find? definition.properties.contains

/-- `(relation, semantic) in self.contracts.relation_bindings`. -/
def relationBinds (relation semantic : String) : Bool :=
  (schema.ontology.contract? semantic).any fun contract =>
    contract.relationships.contains relation &&
      (schema.physicalRelation relation).any fun resolved =>
        (schema.relationProperty resolved.1 semantic).isSome

/-- `semantic_properties`. -/
def semanticProperties (entity_type : String) : List String :=
  (schema.ontology.properties.map Prod.fst).filter fun semantic =>
    (schema.catalog.entities.lookup entity_type).isSome &&
      (schema.physicalProperty entity_type semantic).isSome

/-- `value_valid`. -/
def valueValid (semantic : String) (value : Json) : Bool :=
  (schema.ontology.contract? semantic).any fun contract => contract.accepts value

/-- `validate_filter_value`. -/
def validateFilterValue (semantic : String) (value : Json) : Except Raised Unit :=
  let stored := match schema.ontology.computed_filters.lookup semantic with
    | some computed => computed.source_property
    | none => semantic
  if value = .null then
    .error (.failure { status := .filterInputMissing, missing := [stored] })
  else if schema.valueValid stored value then .ok ()
  else .error (.failure { status := .filterUnsupported, missing := [stored] })

/-! ### Static types -/

/-- `_base_entity_types`. -/
def baseEntityTypes (reference : SemanticReference) : List String :=
  match reference.kind.contextType?, reference.kind, reference.value, reference.entity_type with
  | some type, _, _, _ => [type]
  | none, .entityId, some value, _ => [idType value]
  | none, _, _, some type => [type]
  | none, _, _, none => schema.catalog.entities.map Prod.fst

/-- `source_types.intersection(types)` is not empty. -/
def meets (source_types types : List String) : Bool := source_types.any types.contains

/-- The types that a step against the direction of a relation may start at: `contents`
also starts at hosts. -/
def contentsTargets (semantic_relation : String) (to_types : List String) : List String :=
  if semantic_relation = "contents" then
    match schema.physicalRelation "hosted_space" with
    | some hosting =>
        match schema.catalog.relations.lookup hosting.1 with
        | some hosts => to_types ++ hosts.to_types
        | none => to_types
    | none => to_types
  else to_types

/-- `_traversal_target_types`; `[]` for `None`. -/
def traversalTargetTypes (semantic_relation : String) (source_types : List String) :
    List String :=
  match schema.physicalRelation semantic_relation with
  | none => []
  | some (relation, direction) =>
      match schema.catalog.relations.lookup relation with
      | none => []
      | some definition =>
          match direction with
          | some .out => if meets source_types definition.from_types then definition.to_types else []
          | some .into =>
              if meets source_types
                  (schema.contentsTargets semantic_relation definition.to_types) then
                definition.from_types
              else []
          | none =>
              (if meets source_types definition.from_types then definition.to_types else []) ++
                if meets source_types definition.to_types then definition.from_types else []

/-- The types after a path. -/
def pathTypes (types : List String) (path : List SemanticRelationStep) : List String :=
  path.foldl (fun types step => schema.traversalTargetTypes step.relation types) types

/-- `_reference_entity_types`. -/
def referenceEntityTypes (reference : SemanticReference) : Option (List String) :=
  let base := schema.baseEntityTypes reference
  if base.isEmpty || base.any (fun type => !schema.catalog.hasEntityType type) then none
  else
    let types := schema.pathTypes base reference.path
    if types.isEmpty then none else some types

/-- `_semantic_kind`. -/
def semanticKind (entity_types : List String) (property : Option String) : Option ValueKind := do
  let semantic ← property
  match schema.ontology.computed_filters.lookup semantic with
  | some computed =>
      if schema.computedAvailable computed && !entity_types.isEmpty &&
          entity_types.all computed.contract.entities.contains then
        some computed.contract.type.executionKind
      else none
  | none =>
      if entity_types.isEmpty || !entity_types.all (schema.entityBinds semantic) then none
      else (schema.ontology.contract? semantic).map fun contract => contract.type.executionKind

/-- `_final_relation_kind`. -/
def finalRelationKind (reference : SemanticReference) (property : Option String) :
    Option ValueKind := do
  let semantic ← property
  let relation ← lastRelation reference
  if schema.relationBinds relation semantic then
    (schema.ontology.contract? semantic).map fun contract => contract.type.executionKind
  else none

/-- `_request_property_kind`. -/
def requestPropertyKind (request : SemanticFactRequest) (entity_types : List String) :
    Option ValueKind :=
  match request.property_source with
  | .relationship => schema.finalRelationKind request.subject request.property
  | .entity => schema.semanticKind entity_types request.property

/-! ### Contracts of filters -/

/-- The errors of `contract_error`. -/
inductive ContractError where
  | contradictoryPredicates
  | invalidPath
  | propertyNotApplicable
  | unknownProperty
  | invalidAnchorType
  | literal (error : LiteralError)
deriving DecidableEq, Repr

/-- The anchor of a filter has the same type and closed domain as its property. -/
def anchorMatches (contract : PropertyContract) (name : String) (anchor_types : List String) :
    Bool :=
  !anchor_types.isEmpty && anchor_types.all (schema.entityBinds name) &&
  (schema.ontology.contract? name).any fun other =>
    other.type = contract.type && contract.values.all other.values.contains &&
      other.values.all contract.values.contains

/-- `_contract_filter_error` of a filter over a computed filter. -/
def computedFilterError (item : SemanticFilter) (computed : OntologyComputedFilter)
    (types : List String) : Option ContractError :=
  if !schema.computedAvailable computed || item.source != .entity || item.derived ||
      item.anchored || item.value_property.isSome || types.isEmpty ||
      !types.all computed.contract.entities.contains then
    some .propertyNotApplicable
  else match item.value with
    | .scalar (.int n) =>
        if computed.minimum ≤ n ∧ n ≤ computed.maximum then
          (computed.contract.literalError item.operator item.value false).map .literal
        else some (.literal .invalidLiteralType)
    | _ => some (.literal .invalidLiteralType)

/-- The property of a filter is bound where the filter reads it. -/
def filterBinds (source : FilterSource) (property : String) (types : List String)
    (relation : Option String) : Bool :=
  match source with
  | .entity => !types.isEmpty && types.all (schema.entityBinds property)
  | .relation => relation.any fun relation => schema.relationBinds relation property

/-- `_contract_filter_error`. -/
def contractFilterError (item : SemanticFilter) (types : List String) (relation : Option String)
    (anchor_types : List String) : Option ContractError :=
  match item.property with
  | none => some .unknownProperty
  | some property =>
      match schema.ontology.computed_filters.lookup property,
          schema.ontology.contract? property with
      | some computed, _ => schema.computedFilterError item computed types
      | none, none => some .unknownProperty
      | none, some contract =>
          if item.derived then
            if !contract.type.kinds.any temporalKinds.contains then
              some (.literal .invalidLiteralType)
            else if item.source != .entity || !types.all (schema.entityBinds property) then
              some .propertyNotApplicable
            else none
          else if !schema.filterBinds item.source property types relation then
            some .propertyNotApplicable
          else if item.anchored &&
              !schema.anchorMatches contract (item.value_property.getD property) anchor_types then
            some .invalidAnchorType
          else (contract.literalError item.operator item.value item.anchored).map .literal

/-- The errors of a path of `contract_error`. -/
def pathError (anchor_types : List String) :
    List String → List SemanticRelationStep → Option ContractError
  | _, [] => none
  | types, step :: path =>
      let targets := schema.traversalTargetTypes step.relation types
      if targets.isEmpty then some .invalidPath
      else match step.filters.findSome? fun item =>
          schema.contractFilterError item targets (some step.relation) anchor_types with
        | some error => some error
        | none => pathError anchor_types targets path

end SemanticSchemaRegistry

/-- The references of a request. -/
def SemanticFactRequest.references (request : SemanticFactRequest) : List SemanticReference :=
  request.subject :: (request.other.toList ++ request.exclude)

namespace SemanticSchemaRegistry

variable (schema : SemanticSchemaRegistry)

/-- `contract_error`. -/
def contractError (request : SemanticFactRequest) : Option ContractError :=
  let names := request.filters.filterMap fun item => item.predicate
  if names.any fun name => (schema.ontology.collection_predicates.lookup name).any fun definition =>
      names.any definition.disjoint_with.contains then some .contradictoryPredicates
  else match request.references.findSome? fun reference =>
      let base := schema.baseEntityTypes reference
      schema.pathError base base reference.path with
    | some error => some error
    | none =>
        let types := (schema.referenceEntityTypes request.subject).getD []
        request.filters.findSome? fun item =>
          if item.predicate.isSome then none
          else schema.contractFilterError item types (lastRelation request.subject) []

/-! ### Validation -/

/-- `PlannerValidationCode`, as far as `validation_code` returns it for a rejected
request. -/
inductive ValidationCode where
  | unknownRelation
  | unknownProperty
  | invalidPlan
deriving DecidableEq, Repr

/-- `if not c: return code`. -/
def require (c : Bool) (code : ValidationCode) : Except ValidationCode Unit :=
  if c then .ok () else .error code

/-- `_valid_predicate`. -/
def validPredicate (item : SemanticFilter) (field_kind : ValueKind) : Bool :=
  item.property.any fun property =>
    match schema.ontology.computed_filters.lookup property with
    | some computed =>
        (schema.contractFilterError item computed.contract.entities none []).isNone
    | none =>
        if item.derived then temporalKinds.contains field_kind
        else (schema.ontology.contract? property).any fun contract =>
          (contract.literalError item.operator item.value item.anchored).isNone

/-- The property of a filter of a step is known for the types the step reaches. -/
def stepFilterKnown (step : SemanticRelationStep) (targets : List String) (item : SemanticFilter) :
    Bool :=
  item.property.all fun property =>
    match item.source with
    | .entity => (schema.semanticKind targets item.property).isSome
    | .relation => (schema.physicalRelation step.relation).all fun resolved =>
        (schema.relationProperty resolved.1 property).isSome

/-- No step of a path has a filter with an unknown property. -/
def pathKnown : List String → List SemanticRelationStep → Bool
  | _, [] => true
  | types, step :: path =>
      let targets := schema.traversalTargetTypes step.relation types
      targets.isEmpty || (step.filters.all (schema.stepFilterKnown step targets) &&
        pathKnown targets path)

/-- A filter of `request.filters` has a known property. -/
def filterKnown (request : SemanticFactRequest) (item : SemanticFilter) : Bool :=
  item.property.isNone ||
    match item.source with
    | .entity => (schema.referenceEntityTypes request.subject).any fun types =>
        (schema.semanticKind types item.property).isSome
    | .relation => (schema.finalRelationKind request.subject item.property).isSome

/-- The filter of a step applies to its targets. -/
def stepFilterValid (anchor_types : List String) (step : SemanticRelationStep)
    (targets : List String) (item : SemanticFilter) : Bool :=
  match item.source with
  | .entity =>
      (schema.semanticKind targets item.property).any fun kind =>
        schema.validPredicate item kind && (!item.anchored ||
          schema.semanticKind anchor_types (item.value_property <|> item.property) == some kind)
  | .relation =>
      (schema.physicalRelation step.relation).any fun resolved =>
        (item.property.bind (schema.relationProperty resolved.1)).any fun physical =>
          schema.validPredicate item (schema.catalog.relationFieldType resolved.1 physical)

/-- Every step of a path leads somewhere, with valid filters. -/
def pathValid (anchor_types : List String) : List String → List SemanticRelationStep → Bool
  | _, [] => true
  | types, step :: path =>
      let targets := schema.traversalTargetTypes step.relation types
      !targets.isEmpty && step.filters.all (schema.stepFilterValid anchor_types step targets) &&
        pathValid anchor_types targets path

/-- The checks of `validation_code` on one reference. -/
def referenceValid (reference : SemanticReference) : Bool :=
  (reference.kind.contextType?.all fun type => reference.entity_type.all (· == type)) &&
  (reference.kind != .entityId || reference.value.all fun value =>
    reference.entity_type.all (· == idType value)) &&
  (reference.kind != .assistant || reference.path.isEmpty) &&
  (schema.referenceEntityTypes reference).isSome &&
  schema.pathValid (schema.baseEntityTypes reference) (schema.baseEntityTypes reference)
    reference.path

/-- The checks of `validation_code` on one filter of `request.filters`. -/
def filterValid (request : SemanticFactRequest) (types : List String) (item : SemanticFilter) :
    Bool :=
  !item.anchored &&
  match item.predicate with
  | some predicate =>
      (schema.ontology.collection_predicates.lookup predicate).any fun definition =>
        schema.predicateAvailable definition && types.all definition.entity_types.contains
  | none =>
      (match item.source with
        | .entity => schema.semanticKind types item.property
        | .relation => schema.finalRelationKind request.subject item.property).any
        (schema.validPredicate item)

/-- `collection_input`. -/
def collectionInput (request : SemanticFactRequest) : Bool :=
  !request.subject.path.isEmpty || request.other.isSome || request.subject.cardinality == .collection

/-- The request asks for a collection of entities. -/
def asksCollection (request : SemanticFactRequest) : Bool :=
  request.projection == .each || request.operation.definition.input_shape == .collection ||
    (request.operation == .select && request.property.isNone)

/-- The checks of `validation_code` on the shape of the request. -/
def shapeValid (request : SemanticFactRequest) : Bool :=
  (request.other.isNone || request.filters.isEmpty) &&
  (request.filters.isEmpty || !request.subject.path.isEmpty ||
    request.subject.cardinality == .collection) &&
  (request.property_source == .entity ||
    (request.other.isNone && !request.subject.path.isEmpty && request.property.isSome)) &&
  (request.amount.isNone || request.operation == .dateAdd) &&
  (request.projection == .scalar ||
    (collectionInput request && request.other.isNone && request.property.isSome &&
      (request.operation.definition.input_shape == .scalar || request.operation == .select))) &&
  (request.exclude.isEmpty ||
    (collectionInput request && request.other.isNone && asksCollection request)) &&
  (request.operation.definition.input_shape != .collection || collectionInput request)

/-- The `parameters` that a request hands to `OperatorDefinition.validate`. -/
def parametersOf (request : SemanticFactRequest) : OperatorParameters :=
  ⟨request.mode, request.amount, request.from_unit, request.to_unit⟩

/-- The checks of `validation_code` on a transforming operation. -/
def transformValid (request : SemanticFactRequest) (types : List String) : Bool :=
  let field_kind := if request.property.isSome then schema.requestPropertyKind request types
    else some .unknown
  field_kind.any fun kind =>
    (request.property.isNone || kind != .unknown ||
      request.operation.definition.field_kinds.contains .any) &&
    (request.other.all fun other =>
      schema.semanticKind ((schema.referenceEntityTypes other).getD []) request.property ==
        some kind) &&
    (request.operation.validate request.property kind
      (if request.operation = .latest ∨ request.operation = .earliest then request.property
        else none) kind (parametersOf request)).isOk

/-- The checks of `validation_code` on the operation. -/
def operationValid (request : SemanticFactRequest) (types : List String) : Bool :=
  match request.operation with
  | .resolveReference | .inspect =>
      request.property.isNone && request.other.isNone && request.filters.isEmpty &&
        request.property_source == .entity
  | .sameEntity =>
      request.property.isNone && request.other.isSome && request.filters.isEmpty &&
        request.property_source == .entity
  | .select =>
      request.other.isNone && (if request.property.isNone then collectionInput request
        else (schema.requestPropertyKind request types).isSome)
  | _ => schema.transformValid request types

/-- Operations that order their values; a closed domain has no order. -/
def isOrdering (operation : FactOperation) : Bool :=
  [.argmin, .argmax, .min, .max, .latest, .earliest].contains operation

/-- The property of the request is known for the subject. -/
def propertyKnown (request : SemanticFactRequest) : Bool :=
  request.property.isNone ||
    match request.property_source with
    | .relationship => (schema.finalRelationKind request.subject request.property).isSome
    | .entity => (schema.referenceEntityTypes request.subject).all fun types =>
        (schema.semanticKind types request.property).isSome

/-- `validation_code`; `.ok ()` for `"VALID"`. -/
def validationCode (request : SemanticFactRequest) : Except ValidationCode Unit := do
  require (schema.contractError request).isNone .invalidPlan
  require (request.references.all fun reference => reference.path.all fun step =>
    (schema.physicalRelation step.relation).isSome) .unknownRelation
  require (request.property.all fun property =>
    !((schema.ontology.contract? property).any fun contract => !contract.values.isEmpty) ||
      !isOrdering request.operation) .invalidPlan
  require (schema.propertyKnown request) .unknownProperty
  require (request.references.all fun reference =>
    schema.pathKnown (schema.baseEntityTypes reference) reference.path) .unknownProperty
  require (request.filters.all (schema.filterKnown request)) .unknownProperty
  require (request.references.all schema.referenceValid) .invalidPlan
  let types := (schema.referenceEntityTypes request.subject).getD []
  require (request.filters.all (schema.filterValid request types)) .invalidPlan
  require (shapeValid request) .invalidPlan
  require (schema.operationValid request types) .invalidPlan

/-- `validates`. -/
def validates (request : SemanticFactRequest) : Bool := (schema.validationCode request).isOk

end SemanticSchemaRegistry
end HomeCortex
