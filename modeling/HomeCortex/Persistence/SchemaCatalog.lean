/-
# The runtime schema catalog

`persistence/schema_catalog.py`: which entity types and relations a deployment
has, with their queryable fields and the kinds known for some of them.
-/

import HomeCortex.Common.Kinds
import HomeCortex.Persistence.EdgeSchema

namespace HomeCortex

/-- `EntityTypeSchema`: the declared properties of an entity type and the kinds
known for some of them. -/
structure EntityTypeSchema where
  name : String
  properties : List String
  property_types : List (String × ValueKind)
deriving DecidableEq, Repr

/-- `property_types.get(name, "unknown")`. -/
def EntityTypeSchema.kindOf (schema : EntityTypeSchema) (property : String) : ValueKind :=
  (schema.property_types.lookup property).getD .unknown

/-- `RelationTypeSchema`. -/
structure RelationTypeSchema where
  from_types : List String
  to_types : List String
  properties : List String
  property_types : List (String × ValueKind)
deriving DecidableEq, Repr

/-- `RuntimeSchemaCatalog`: the entity types and relations by name, and the edge
registry.  `from_data_dir` takes the relations, with their types, from the registry. -/
structure RuntimeSchemaCatalog where
  entities : List (String × EntityTypeSchema)
  relations : List (String × RelationTypeSchema)
  edge_registry : EdgeSchemaRegistry
  relations_declared : ∀ name schema, relations.lookup name = some schema →
    ∃ edge ∈ edge_registry.schemas, edge.id = name ∧ edge.from_types = schema.from_types ∧
      edge.to_types = schema.to_types

/-- No relation is declared where there is none. -/
theorem noRelation_declared (registry : EdgeSchemaRegistry) : ∀ name schema,
    ([] : List (String × RelationTypeSchema)).lookup name = some schema →
    ∃ edge ∈ registry.schemas, edge.id = name ∧ edge.from_types = schema.from_types ∧
      edge.to_types = schema.to_types := by
  simp

/-- One relation is declared when the registry has its edge. -/
theorem oneRelation_declared {registry : EdgeSchemaRegistry} {relation : String}
    {declared : RelationTypeSchema}
    (hedge : ∃ edge ∈ registry.schemas, edge.id = relation ∧
      edge.from_types = declared.from_types ∧ edge.to_types = declared.to_types) :
    ∀ name schema, [(relation, declared)].lookup name = some schema →
      ∃ edge ∈ registry.schemas, edge.id = name ∧ edge.from_types = schema.from_types ∧
        edge.to_types = schema.to_types := by
  intro name schema h
  rw [List.lookup_cons] at h
  split at h
  case h_1 heq =>
    obtain rfl := Option.some.inj h
    rwa [beq_iff_eq.1 heq]
  case h_2 => cases h

namespace RuntimeSchemaCatalog

variable (catalog : RuntimeSchemaCatalog)

/-- `has_entity_type`. -/
def hasEntityType (entity_type : String) : Bool := (catalog.entities.lookup entity_type).isSome

/-- `entity_field_type`. -/
def entityFieldType (entity_type field : String) : ValueKind :=
  match catalog.entities.lookup entity_type with
  | some schema => schema.kindOf field
  | none => .unknown

/-- `relation_field_type` of a stored relation name. -/
def relationFieldType (relation field : String) : ValueKind :=
  match catalog.relations.lookup relation with
  | some schema => (schema.property_types.lookup field).getD .unknown
  | none => .unknown

end RuntimeSchemaCatalog
end HomeCortex
