/-
# The semantic vocabulary

`semantic/ontology.py`: properties with their stored fields, filters computed from
a stored date, base relations, concepts (declared paths) and collection predicates.
`OntologyFields.valid` has the checks of `from_file` on this data; a
`SemanticOntology` passes them.  Labels and aliases are for the planner and the
renderer and are left out.
-/

import HomeCortex.Semantic.Contracts
import HomeCortex.Semantic.Ir

namespace HomeCortex

/-- `OntologyFilter`; `anchored` is `value_from == "anchor"`. -/
structure OntologyFilter where
  property : String
  operator : PredicateOperator := .eq
  value : Json := .null
  source : FilterSource := .entity
  anchored : Bool := false
  value_property : Option String := none
deriving DecidableEq

/-- `OntologyRelationStep`. -/
structure OntologyRelationStep where
  relation : String
  filters : List OntologyFilter := []
deriving DecidableEq

/-- `OntologyReferenceConcept`. -/
structure OntologyReferenceConcept where
  name : String
  path : List OntologyRelationStep
deriving DecidableEq

/-- `OntologyProperty`. -/
structure OntologyProperty where
  fields : List String
  contract : PropertyContract
deriving DecidableEq

/-- `OntologyComputedFilter`; its `transform` is always `date_difference`. -/
structure OntologyComputedFilter where
  source_property : String
  mode : DateUnit
  require_past : Bool
  minimum : Nat
  maximum : Nat
  contract : PropertyContract
deriving DecidableEq

/-- `OntologyPredicateFallback`. -/
structure OntologyPredicateFallback where
  property : String
  transform : FactOperation
  operator : PredicateOperator
  value_from_policy : String
  mode : Option DateUnit := none
  require_past : Bool := false
deriving DecidableEq

/-- `OntologyCollectionPredicate`. -/
structure OntologyCollectionPredicate where
  entity_types : List String
  relation_property : String
  recognized_values : List String
  matching_values : List String
  fallback : OntologyPredicateFallback
  default_scope_relation : Option String := none
  disjoint_with : List String := []
deriving DecidableEq

/-- The data of a `SemanticOntology`, by name. -/
structure OntologyFields where
  properties : List (String × OntologyProperty) := []
  computed_filters : List (String × OntologyComputedFilter) := []
  base_relations : List (String × String) := []
  reference_concepts : List OntologyReferenceConcept := []
  policy_values : List (String × Json) := []
  collection_predicates : List (String × OntologyCollectionPredicate) := []

namespace OntologyFields

variable (ontology : OntologyFields)

/-- The contract of a property. -/
def contract? (property : String) : Option PropertyContract :=
  (ontology.properties.lookup property).map OntologyProperty.contract

/-- The checks of `_parse_computed_filters`. -/
def computedFilterValid (name : String) (item : OntologyComputedFilter) : Bool :=
  (ontology.properties.lookup name).isNone && item.mode != .seconds &&
  item.minimum ≤ item.maximum && item.contract.type.executionKind == .integer &&
  item.contract.relationships.isEmpty &&
  (ontology.contract? item.source_property).any fun source =>
    item.contract.entities.all source.entities.contains &&
      source.type.kinds.all temporalKinds.contains

/-- The checks on one filter of a concept. -/
def conceptFilterValid (relation : String) (item : OntologyFilter) : Bool :=
  (!item.anchored || (item.source == .entity && item.value == .null)) &&
  (item.value_property.isNone || item.anchored) &&
  item.value_property.all (fun property => (ontology.properties.lookup property).isSome) &&
  (ontology.contract? item.property).any fun contract =>
    (contract.literalError item.operator (.scalar item.value) item.anchored).isNone &&
      (item.source == .entity || contract.relationships.contains relation)

/-- The checks on one concept. -/
def conceptValid (concept : OntologyReferenceConcept) : Bool :=
  !concept.path.isEmpty && concept.path.all fun step =>
    (ontology.base_relations.lookup step.relation).isSome &&
      step.filters.all (ontology.conceptFilterValid step.relation)

/-- The checks on the fallback of a predicate. -/
def fallbackValid (item : OntologyCollectionPredicate) : Bool :=
  item.fallback.transform.isTransform &&
  (item.fallback.transform != .dateDifference || item.fallback.mode.isSome) &&
  (ontology.policy_values.lookup item.fallback.value_from_policy).isSome &&
  (ontology.contract? item.fallback.property).any fun contract =>
    item.entity_types.all contract.entities.contains &&
      (item.fallback.transform.definition.field_kinds.contains .any ||
        contract.type.kinds.all item.fallback.transform.definition.field_kinds.contains)

/-- The checks on the roles of a predicate. -/
def rolesValid (item : OntologyCollectionPredicate) : Bool :=
  item.matching_values.all item.recognized_values.contains &&
  (ontology.contract? item.relation_property).any fun role =>
    item.default_scope_relation.all (fun relation =>
      (ontology.base_relations.lookup relation).isSome && role.relationships.contains relation) &&
    item.recognized_values.all fun value => role.accepts (.str value)

/-- Two predicates that exclude each other may not match the same role or have the
same fallback. -/
def disjointValid (name : String) (item : OntologyCollectionPredicate) : Bool :=
  item.disjoint_with.all fun other =>
    other != name && (ontology.collection_predicates.lookup other).any fun counterpart =>
      counterpart.disjoint_with.contains name &&
      !(item.relation_property == counterpart.relation_property &&
        item.matching_values.any counterpart.matching_values.contains) &&
      item.fallback != counterpart.fallback

/-- A policy value is a non-negative number. -/
def isPolicyValue : Json → Bool
  | .int n => 0 ≤ n
  | .float x => !(x < 0)
  | _ => false

/-- No name is declared twice. -/
def namesUnique {α : Type} (entries : List (String × α)) : Bool :=
  decide (entries.map Prod.fst).Nodup

/-- The checks of `from_file`. -/
def valid : Bool :=
  namesUnique ontology.properties && namesUnique ontology.computed_filters &&
  namesUnique ontology.base_relations && namesUnique ontology.policy_values &&
  namesUnique ontology.collection_predicates &&
  decide (ontology.reference_concepts.map OntologyReferenceConcept.name).Nodup &&
  ontology.properties.all (fun entry =>
    entry.2.contract.relationships.all fun relation =>
      (ontology.base_relations.lookup relation).isSome) &&
  ontology.computed_filters.all (fun entry => ontology.computedFilterValid entry.1 entry.2) &&
  ontology.reference_concepts.all ontology.conceptValid &&
  ontology.policy_values.all (fun entry => isPolicyValue entry.2) &&
  ontology.collection_predicates.all fun entry =>
    ontology.fallbackValid entry.2 && ontology.rolesValid entry.2 &&
      ontology.disjointValid entry.1 entry.2

end OntologyFields

/-- `SemanticOntology`. -/
structure SemanticOntology extends OntologyFields where
  validated : toOntologyFields.valid = true

/-- An association list has what it returns. -/
theorem mem_of_lookup {α : Type} {entries : List (String × α)} {name : String} {value : α}
    (h : entries.lookup name = some value) : (name, value) ∈ entries := by
  induction entries with
  | nil => simp at h
  | cons entry entries ih =>
      obtain ⟨key, other⟩ := entry
      rw [List.lookup_cons] at h
      split at h
      case h_1 heq =>
        rw [beq_iff_eq] at heq
        cases h
        exact heq ▸ List.mem_cons_self
      case h_2 => exact List.mem_cons_of_mem _ (ih h)

namespace SemanticOntology

variable {ontology : SemanticOntology}

/-- A computed filter is declared with valid data. -/
theorem computedFilter_valid {name : String} {item : OntologyComputedFilter}
    (h : ontology.computed_filters.lookup name = some item) :
    ontology.computedFilterValid name item = true := by
  have hvalid := ontology.validated
  simp only [OntologyFields.valid, Bool.and_eq_true, List.all_eq_true] at hvalid
  exact hvalid.1.1.1.2 _ (mem_of_lookup h)

/-- A collection predicate is declared with valid data. -/
theorem predicate_valid {name : String} {item : OntologyCollectionPredicate}
    (h : ontology.collection_predicates.lookup name = some item) :
    ontology.fallbackValid item = true ∧ ontology.rolesValid item = true ∧
      ontology.disjointValid name item = true := by
  have hvalid := ontology.validated
  simp only [OntologyFields.valid, Bool.and_eq_true, List.all_eq_true] at hvalid
  have hitem := hvalid.2 _ (mem_of_lookup h)
  exact ⟨hitem.1.1, hitem.1.2, hitem.2⟩

end SemanticOntology
end HomeCortex
