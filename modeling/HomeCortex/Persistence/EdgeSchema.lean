/-
# Edge schemas and their registry

`persistence/edge_schema.py`.  A relationship is declared by a YAML schema: its
endpoint types, whether it is symmetric, temporal or unique per source, and the
public name of its inverse.  `EdgeSchemaRegistry` can only be built from schemas
that pass the loader, so the facts later files need (one schema per name, inverse
names are free and unique, a symmetric relation has no inverse) are its fields.
-/

import HomeCortex.Persistence.RecordIds

namespace HomeCortex

/-- `EdgeSchema`. -/
structure EdgeSchema where
  id : String
  symmetric : Bool
  from_types : List String
  to_types : List String
  temporal : Bool
  inverse_name : Option String
  unique_from : Bool
  scope_parent : Bool
deriving DecidableEq, Repr

/-- What `_parse_schema` lets through. -/
structure EdgeSchema.Valid (schema : EdgeSchema) : Prop where
  name : isTableName schema.id = true
  inverse_valid : ∀ name, schema.inverse_name = some name → isTableName name = true
  symmetric_plain : schema.symmetric = true →
    schema.inverse_name = none ∧ schema.unique_from = false

/-- `_name`. -/
def schemaName (value : Json) (field path : String) : Except PyError String :=
  match value with
  | .str name =>
      if isTableName name then .ok name
      else .error (.value (field ++ " in " ++ path ++ " must be a valid relationship/type name"))
  | _ => .error (.value (field ++ " in " ++ path ++ " must be a valid relationship/type name"))

/-- `_names`. -/
def schemaNames (value : Json) (field path : String) : Except PyError (List String) := do
  match value with
  | .arr (item :: items) =>
      let names ← (item :: items).mapM fun item => schemaName item field path
      if names.Nodup then return names
      else throw (.value (field ++ " in " ++ path ++ " contains duplicate names"))
  | _ => throw (.value (field ++ " in " ++ path ++ " must be a non-empty list"))

/-- `_boolean`. -/
def schemaBoolean (value : Json) (field path : String) : Except PyError Bool :=
  match value with
  | .bool b => .ok b
  | _ => .error (.value (field ++ " in " ++ path ++ " must be true or false"))

/-- The optional `inverse_name` of a schema. -/
def schemaInverse (value : Json) (schema_id : String) (symmetric : Bool) (path : String) :
    Except PyError (Option String) := do
  match value with
  | .null => return none
  | value =>
      let inverse ← schemaName value "inverse_name" path
      raiseIf symmetric
        (.value ("Symmetric edge schema '" ++ schema_id ++ "' cannot define an inverse"))
      raiseIf (inverse = schema_id)
        (.value ("Edge schema '" ++ schema_id ++ "' cannot be its own inverse"))
      return some inverse

/-- `_parse_schema`. -/
def parseSchema (raw : Json) (path : String) : Except PyError EdgeSchema := do
  match raw.asObject? with
  | none => throw (.value (path ++ " must contain a YAML object"))
  | some fields =>
      let extra := fields.extra ["id", "symmetric", "from_types", "to_types", "temporal",
        "inverse_name", "unique_from", "scope_parent"]
      raiseIf (!extra.isEmpty)
        (.value ("Unknown fields in " ++ path ++ ": " ++ ", ".intercalate extra))
      let schema_id ← schemaName (fields.getD "id") "id" path
      let symmetric ← schemaBoolean (fields.getD "symmetric") "symmetric" path
      let from_types ← schemaNames (fields.getD "from_types") "from_types" path
      let to_types ← schemaNames (fields.getD "to_types") "to_types" path
      let temporal ← schemaBoolean (fields.getD "temporal") "temporal" path
      let unique_from ← schemaBoolean ((fields.get? "unique_from").getD (.bool false))
        "unique_from" path
      let scope_parent ← schemaBoolean ((fields.get? "scope_parent").getD (.bool false))
        "scope_parent" path
      let inverse ← schemaInverse (fields.getD "inverse_name") schema_id symmetric path
      raiseIf (symmetric && unique_from)
        (.value ("Symmetric edge schema '" ++ schema_id ++ "' cannot define unique_from"))
      return ⟨schema_id, symmetric, from_types, to_types, temporal, inverse, unique_from,
        scope_parent⟩

/-- `EdgeSchemaRegistry`, as `from_directory` builds it: the schemas in the order
of their file names, with the checks of `_parse_schema` and `__init__` as fields. -/
structure EdgeSchemaRegistry where
  schemas : List EdgeSchema
  nonempty : schemas ≠ []
  valid : ∀ schema ∈ schemas, schema.Valid
  nodup_ids : (schemas.map EdgeSchema.id).Nodup
  inverse_fresh : ∀ schema ∈ schemas, ∀ name, schema.inverse_name = some name →
    name ∉ schemas.map EdgeSchema.id
  inverse_unique : ∀ schema ∈ schemas, ∀ other ∈ schemas, ∀ name,
    schema.inverse_name = some name → other.inverse_name = some name → schema = other

/-- `ResolvedEdgeSchema`. -/
structure ResolvedEdgeSchema where
  schema : EdgeSchema
  inverse : Bool
deriving DecidableEq, Repr

namespace EdgeSchemaRegistry

variable (registry : EdgeSchemaRegistry)

/-- `relationship_names`. -/
def relationship_names : List String :=
  (registry.schemas.map EdgeSchema.id).insertionSort (· ≤ ·)

/-- The keys of `_inverse_names`. -/
def inverse_names : List String := registry.schemas.filterMap EdgeSchema.inverse_name

/-- `public_names`. -/
def public_names : List String :=
  (registry.schemas.map EdgeSchema.id ++ registry.inverse_names).insertionSort (· ≤ ·)

/-- `_schemas.get`. -/
def find? (relationship : String) : Option EdgeSchema :=
  registry.schemas.find? fun schema => schema.id == relationship

/-- `get`. -/
def get (relationship : String) : Except PyError EdgeSchema :=
  match registry.find? relationship with
  | some schema => .ok schema
  | none => .error (.unknownEdgeSchema ("Unknown relationship '" ++ relationship ++
      "'; expected one of " ++ ", ".intercalate registry.public_names))

/-- `resolve`: a canonical name or the inverse name of one. -/
def resolve (relationship : String) : Except PyError ResolvedEdgeSchema :=
  match registry.find? relationship with
  | some schema => .ok ⟨schema, false⟩
  | none =>
      match registry.schemas.find? fun schema => schema.inverse_name == some relationship with
      | some schema => .ok ⟨schema, true⟩
      | none => (registry.get relationship).map fun schema => ⟨schema, false⟩

/-- `validate_endpoints`: a symmetric relation may be written in either direction. -/
def validate_endpoints (relationship source_type target_type : String) : Except PyError Unit := do
  let schema ← registry.get relationship
  let forward := schema.from_types.contains source_type && schema.to_types.contains target_type
  let reverse := schema.symmetric && schema.to_types.contains source_type &&
    schema.from_types.contains target_type
  if forward || reverse then return ()
  else throw (.value ("Invalid " ++ relationship ++ " endpoints: " ++ source_type ++ " -> " ++
    target_type ++ "; expected " ++ toString schema.from_types ++ " -> " ++
    toString schema.to_types))

variable {registry}

theorem mem_relationship_names {name : String} :
    name ∈ registry.relationship_names ↔ ∃ schema ∈ registry.schemas, schema.id = name := by
  rw [relationship_names, List.mem_insertionSort, List.mem_map]

theorem nodup_relationship_names : registry.relationship_names.Nodup :=
  (List.perm_insertionSort _ _).nodup_iff.2 registry.nodup_ids

theorem mem_inverse_names {name : String} :
    name ∈ registry.inverse_names ↔
      ∃ schema ∈ registry.schemas, schema.inverse_name = some name :=
  List.mem_filterMap

theorem find?_eq_some {name : String} {schema : EdgeSchema} :
    registry.find? name = some schema ↔ schema ∈ registry.schemas ∧ schema.id = name := by
  constructor
  · intro h
    exact ⟨List.mem_of_find?_eq_some h, by simpa using List.find?_some h⟩
  · rintro ⟨hmem, rfl⟩
    obtain ⟨other, hother⟩ : ∃ other, registry.find? schema.id = some other :=
      Option.isSome_iff_exists.1 (List.find?_isSome.2 ⟨schema, hmem, by simp⟩)
    have hid : other.id = schema.id := by simpa using List.find?_some hother
    rw [hother, List.inj_on_of_nodup_map registry.nodup_ids (List.mem_of_find?_eq_some hother)
      hmem hid]

theorem get_eq_ok {name : String} {schema : EdgeSchema} :
    registry.get name = .ok schema ↔ schema ∈ registry.schemas ∧ schema.id = name := by
  rw [← find?_eq_some, get]
  cases registry.find? name <;> simp

/-- A registered name resolves to its schema, forward. -/
theorem resolve_of_mem {schema : EdgeSchema} (h : schema ∈ registry.schemas) :
    registry.resolve schema.id = .ok ⟨schema, false⟩ := by
  rw [resolve, find?_eq_some.2 ⟨h, rfl⟩]

/-- What a name resolves to carries it as its id or as its inverse name. -/
theorem resolve_eq_ok {name : String} {resolved : ResolvedEdgeSchema}
    (h : registry.resolve name = .ok resolved) :
    resolved.schema ∈ registry.schemas ∧
      (resolved.inverse = false ∧ resolved.schema.id = name ∨
        resolved.inverse = true ∧ resolved.schema.inverse_name = some name) := by
  rw [resolve] at h
  split at h
  case h_1 schema hfind =>
    cases h
    obtain ⟨hmem, hid⟩ := find?_eq_some.1 hfind
    exact ⟨hmem, Or.inl ⟨rfl, hid⟩⟩
  case h_2 hfind =>
    split at h
    case h_1 schema hinv =>
      cases h
      exact ⟨List.mem_of_find?_eq_some hinv, Or.inr ⟨rfl, by simpa using List.find?_some hinv⟩⟩
    case h_2 =>
      rw [get, hfind] at h
      cases h

/-- The endpoint types a registered relation admits. -/
theorem validate_endpoints_eq_ok {schema : EdgeSchema} (h : schema ∈ registry.schemas)
    {source_type target_type : String} :
    registry.validate_endpoints schema.id source_type target_type = .ok () ↔
      (source_type ∈ schema.from_types ∧ target_type ∈ schema.to_types) ∨
        (schema.symmetric = true ∧ source_type ∈ schema.to_types ∧
          target_type ∈ schema.from_types) := by
  have hget : registry.get schema.id = .ok schema := get_eq_ok.2 ⟨h, rfl⟩
  simp only [validate_endpoints, hget, bind, Except.bind, Bool.or_eq_true, Bool.and_eq_true,
    List.contains_iff_mem, and_assoc]
  split
  case isTrue hc => simp [pure, Except.pure, hc]
  case isFalse hc => simp [throw, throwThe, MonadExceptOf.throw, hc]

/-- `schemas/edge/located_in.yaml`. -/
def locatedIn : EdgeSchema :=
  ⟨"located_in", false, ["item"], ["address", "space"], false, some "contains", true, true⟩

/-- The relationships of the deployment, `schemas/edge/*.yaml`. -/
def deployedSchemas : List EdgeSchema := [
  ⟨"assigned_to", false, ["embodiment"], ["agent"], false, some "embodied_by", true, false⟩,
  ⟨"hosted_by", false, ["space"], ["item", "space"], false, some "hosts_space", true, true⟩,
  ⟨"lives_in", false, ["person"], ["address"], true, some "has_resident", false, false⟩,
  locatedIn,
  ⟨"parent_of", false, ["person"], ["person"], false, some "child_of", false, false⟩,
  ⟨"spouse_of", true, ["person"], ["person"], true, none, false, false⟩]

/-- `load_default` of the deployment. -/
def deployed : EdgeSchemaRegistry where
  schemas := deployedSchemas
  nonempty := nofun
  valid := by
    have h : ∀ schema ∈ deployedSchemas, isTableName schema.id = true ∧
        (∀ name ∈ schema.inverse_name, isTableName name = true) ∧
        (schema.symmetric = true → schema.inverse_name = none ∧ schema.unique_from = false) := by
      decide
    exact fun schema hmem => ⟨(h schema hmem).1, (h schema hmem).2.1, (h schema hmem).2.2⟩
  nodup_ids := by decide
  inverse_fresh := by
    have h : ∀ schema ∈ deployedSchemas, ∀ name ∈ schema.inverse_name,
        name ∉ deployedSchemas.map EdgeSchema.id := by
      decide
    exact h
  inverse_unique := by
    have h : ∀ schema ∈ deployedSchemas, ∀ other ∈ deployedSchemas, ∀ name ∈ schema.inverse_name,
        other.inverse_name = some name → schema = other := by
      decide
    exact h

end EdgeSchemaRegistry
end HomeCortex
