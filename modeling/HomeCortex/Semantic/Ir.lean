/-
# The semantic request language

`semantic/ir.py`: what the planner may ask (`SemanticFactRequest` with its
references, paths and filters), who asks (`AgentRequestContext`), and what the
executor answers (`FactResult`, `FactAnswer`).  The checks of the pydantic
validators are fields of the structures.  Timings and planner diagnostics decide
nothing and are left out.
-/

import HomeCortex.Facts.Operators
import HomeCortex.Persistence.Retrieval

namespace HomeCortex

/-- `FactStatus`. -/
inductive FactStatus where
  | found
  | discourseContextMissing
  | callerContextMissing
  | entityNotFound
  | relationshipNotFound
  | propertyUnavailable
  | relationPropertyUnavailable
  | filterInputMissing
  | filterUnsupported
  | operatorUnsupported
  | semanticPlanUnsupported
  | multiIntentUnsupported
  | ambiguous
  | computationInputMissing
  | computationImpossible
  | collectionIncomplete
deriving DecidableEq, Repr

/-- `ReferenceKind`. -/
inductive ReferenceKind where
  | self
  | assistant
  | currentHousehold
  | namedEntity
  | discourse
  | unresolved
  | entityId
deriving DecidableEq, Repr

/-- `_CONTEXT_ENTITY_TYPES`. -/
def ReferenceKind.contextType? : ReferenceKind → Option String
  | .self | .assistant => some "person"
  | .currentHousehold => some "address"
  | _ => none

/-- `DiscourseContext`: the foci of earlier turns, oldest first. -/
structure DiscourseContext where
  conversation_id : String
  caller_entity_id : Option String
  household_id : Option String
  assistant_id : String
  turns : List (List String)
deriving DecidableEq, Repr

/-- `AgentRequestContext`, as far as the executor reads it. -/
structure AgentRequestContext where
  caller_entity_id : Option String
  assistant_id : String
  assistant_display_name : String
  household_id : Option String
  current_time : Clock
  conversation_id : Option String
  discourse : Option DiscourseContext

/-- `[A-Za-z_][A-Za-z0-9_]*`, the pattern of the names in a request. -/
abbrev isRequestName (name : String) : Bool := isTableName name

/-- `Literal["entity", "relation"]`. -/
inductive FilterSource where
  | entity
  | relation
deriving DecidableEq, Repr

/-- The fields of a `SemanticFilter`.  `anchored` is `value_from == "anchor"` and
`derived` is `transform == "date_difference"`. -/
structure FilterFields where
  property : Option String := none
  predicate : Option String := none
  operator : PredicateOperator := .eq
  value : Operand := .scalar .null
  source : FilterSource := .entity
  anchored : Bool := false
  value_property : Option String := none
  derived : Bool := false
  mode : Option DateUnit := none
deriving DecidableEq

namespace FilterFields

/-- `type(self.value) is int` between 0 and 120. -/
def isThreshold : Operand → Bool
  | .scalar (.int n) => 0 ≤ n && n ≤ 120
  | _ => false

/-- A value the `value` field of a filter can hold. -/
def isFilterValue : Operand → Bool
  | .scalar (.arr _) | .scalar (.obj _) => false
  | .scalar _ => true
  | .tuple items => items.all fun item =>
      match item with
      | .str _ | .int _ | .float _ => true
      | _ => false

/-- `SemanticFilter.validate_dynamic_value` and the patterns of the fields. -/
def valid (item : FilterFields) : Bool :=
  item.property.all isRequestName && item.predicate.all isRequestName &&
  item.value_property.all isRequestName && isFilterValue item.value &&
  item.mode != some .seconds &&
  item.property.isNone != item.predicate.isNone &&
  (item.predicate.isNone ||
    (item.operator == .eq && item.value == .scalar .null && item.source == .entity &&
      !item.anchored && item.value_property.isNone && !item.derived && item.mode.isNone)) &&
  (if item.derived then
    item.mode.isSome && [.gt, .gte, .lt, .lte, .eq].contains item.operator &&
      isThreshold item.value && !item.anchored && item.source == .entity
  else item.mode.isNone) &&
  (!item.anchored || item.value == .scalar .null) &&
  (item.value_property.isNone || item.anchored) &&
  (!item.anchored || item.source == .entity) &&
  (!item.anchored || !([.isIn, .exists, .dateRange].contains item.operator))

end FilterFields

/-- `SemanticFilter`. -/
structure SemanticFilter extends FilterFields where
  validated : toFilterFields.valid = true
deriving DecidableEq

/-- `SemanticRelationStep`. -/
structure SemanticRelationStep where
  relation : String
  filters : List SemanticFilter
  name_valid : isRequestName relation = true
deriving DecidableEq

/-- `Literal["single", "collection"]`. -/
inductive Cardinality where
  | single
  | collection
deriving DecidableEq, Repr

/-- The fields of a `SemanticReference`. -/
structure ReferenceFields where
  kind : ReferenceKind
  value : Option String := none
  entity_type : Option String := none
  path : List SemanticRelationStep := []
  turn_offset : Option Nat := none
  cardinality : Cardinality := .single
deriving DecidableEq

/-- `[A-Za-z_][A-Za-z0-9_]*:[A-Za-z0-9_-]+`. -/
def isCanonicalId (text : String) : Bool :=
  let key := (text.toList.dropWhile (· != ':')).drop 1
  isTableName (String.ofList (text.toList.takeWhile (· != ':'))) && text.toList.contains ':' &&
    !key.isEmpty && key.all isKeyChar

/-- `SemanticReference.validate_value` and the bounds of the fields. -/
def ReferenceFields.valid (reference : ReferenceFields) : Bool :=
  reference.value.all (fun value => value.length ≤ 256) &&
  reference.entity_type.all isRequestName && reference.path.length ≤ 8 &&
  reference.turn_offset.all (fun offset => 1 ≤ offset && offset ≤ 8) &&
  (reference.kind != .unresolved || (reference.value.isNone && reference.path.isEmpty)) &&
  (if reference.kind = .discourse then
    reference.value.isNone && reference.turn_offset.isSome && reference.entity_type.isSome
  else reference.turn_offset.isNone && reference.cardinality == .single) &&
  (reference.kind.contextType?.isNone || reference.value.isNone) &&
  (!([.namedEntity, .entityId].contains reference.kind) || reference.value.any (!·.isEmpty)) &&
  (reference.kind != .entityId || reference.value.all isCanonicalId)

/-- `SemanticReference`. -/
structure SemanticReference extends ReferenceFields where
  validated : toReferenceFields.valid = true
deriving DecidableEq

/-- A discourse reference names the turn it refers to. -/
theorem SemanticReference.offset_of_discourse {reference : SemanticReference}
    (h : reference.kind = .discourse) :
    ∃ offset, reference.turn_offset = some offset ∧ 1 ≤ offset ∧ offset ≤ 8 := by
  have hvalid := reference.validated
  cases hoffset : reference.turn_offset with
  | none => simp [ReferenceFields.valid, h, hoffset] at hvalid
  | some offset =>
      simp only [ReferenceFields.valid, hoffset, Bool.and_eq_true] at hvalid
      exact ⟨offset, rfl, by simp_all⟩

/-- `Literal["entity", "relationship"]`. -/
inductive PropertySource where
  | entity
  | relationship
deriving DecidableEq, Repr

/-- `Literal["scalar", "each"]`. -/
inductive Projection where
  | scalar
  | each
deriving DecidableEq, Repr

theorem noExclude_bound : ([] : List SemanticReference).length ≤ 8 := by decide

theorem noAmount_bound : ∀ n, (none : Option Int) = some n → -120000 ≤ n ∧ n ≤ 120000 :=
  fun _ h => (by cases h)

/-- `SemanticFactRequest`. -/
structure SemanticFactRequest where
  operation : FactOperation
  subject : SemanticReference
  property : Option String := none
  property_source : PropertySource := .entity
  filters : List SemanticFilter := []
  projection : Projection := .scalar
  exclude : List SemanticReference := []
  amount : Option Int := none
  other : Option SemanticReference := none
  mode : Option DateUnit := none
  from_unit : Option String := none
  to_unit : Option String := none
  exclude_bound : exclude.length ≤ 8 := by decide
  amount_bound : ∀ n, amount = some n → -120000 ≤ n ∧ n ≤ 120000 := by nofun

/-- `FactRelationshipEvidence`. -/
structure FactRelationshipEvidence where
  relation : String
  source_id : Option String
  target_id : Option String
  start : Json
  «end» : Json
deriving DecidableEq

/-- `FactEvidence`. -/
structure FactEvidence where
  entity_ids : List String := []
  relationship : Option String := none
  semantic_property : Option String := none
  relationships : List FactRelationshipEvidence := []
  reference_concept : Option String := none
deriving DecidableEq

/-- `_entity_type`. -/
def entityType (entity : Entity) : String := idType entity.id

/-- `_unique_entities`: the first record of each identity. -/
def uniqueEntities (entities : List Entity) : List Entity :=
  entities.foldl (fun unique entity =>
    if (unique.map Entity.id).contains entity.id then unique else unique ++ [entity]) []

/-- The value of a result: a JSON value, or the records of a selection. -/
inductive FactValue where
  | json (value : Json)
  | entities (visible : List Entity)
deriving DecidableEq

/-- `FactRow`. -/
structure FactRow where
  entity : Entity
  status : FactStatus
  value : FactValue := .json .null
  unit : Option String := none
  evidence : FactEvidence := {}
  missing_requirements : List String := []
deriving DecidableEq

/-- `FactContentGroup`. -/
structure FactContentGroup where
  space : Entity
  entities : List Entity
deriving DecidableEq

/-- The `shape` of a `FactResult`. -/
inductive FactShape where
  | scalar
  | entity
  | entities
  | rows
deriving DecidableEq, Repr

/-- `FactResult`. -/
structure FactResult where
  status : FactStatus
  value : FactValue := .json .null
  evidence : FactEvidence := {}
  missing_requirements : List String := []
  candidates : List Entity := []
  unit : Option String := none
  shape : FactShape := .scalar
  rows : List FactRow := []
  focus_entity_ids : List String := []
  content_groups : List FactContentGroup := []
deriving DecidableEq

/-- `_FactFailure`. -/
structure FactFailure where
  status : FactStatus
  evidence : FactEvidence := {}
  missing : List String := []
  candidates : List Entity := []
deriving DecidableEq

/-- What a modelled call of the executor leaves by other than returning: the
`_FactFailure` that callers turn into a result, or any other exception. -/
inductive Raised where
  | failure (failure : FactFailure)
  | error (error : PyError)
deriving DecidableEq

/-- `FactAnswer`: the request that was executed, and its result. -/
structure FactAnswer where
  request : SemanticFactRequest
  result : FactResult

/-- `_last_relation`. -/
def lastRelation (reference : SemanticReference) : Option String :=
  reference.path.getLast?.map SemanticRelationStep.relation

end HomeCortex
