/-
# Paths keep the types that the validator computes

The validator follows a path over types (`referenceEntityTypes`), the resolver follows it over
records.  On a graph whose current edges join records of the types that their relations declare,
every record that a reference resolves to is of a type that the validator computed
(`resolve_typed`), so the properties that it accepted are stored for that record.

Ingestion checks the ends of every edge, but the ends of `located_in` by a rule of its own that
lets a space be located in a space.  The states of ingestion have typed edges as soon as no such
edge is stored (`edgesOfType_of_ingested`); with one, the contents of a space can be a space.
-/

import HomeCortex.Facts.PathImages
import HomeCortex.Facts.Projection
import HomeCortex.Persistence.Ingested

namespace HomeCortex
namespace HouseholdFactEngine

variable (engine : HouseholdFactEngine)

/-- Every current edge joins records of the types that its relation declares; a symmetric one may
be written either way. -/
def EdgesOfType : Prop :=
  ∀ schema ∈ engine.schema.catalog.edge_registry.schemas, ∀ edge ∈ engine.graph.edges schema.id,
    (idType edge.source ∈ schema.from_types ∧ idType edge.target ∈ schema.to_types) ∨
      (schema.symmetric = true ∧ idType edge.source ∈ schema.to_types ∧
        idType edge.target ∈ schema.from_types)

/-- What the types of paths rest on: typed edges, named records of declared types, and a direction
for `contents`, as a step of it also reads edges at hosted spaces. -/
structure TypedGraph : Prop where
  edges : engine.EdgesOfType
  tables : ∀ table ∈ engine.graph.tables, engine.schema.catalog.hasEntityType table = true
  contents : ∀ relation, engine.schema.physicalRelation "contents" ≠ some (relation, none)

/-- The record that a contextual reference means. -/
def contextId? (context : AgentRequestContext) : ReferenceKind → Option String
  | .self => context.caller_entity_id
  | .assistant => some context.assistant_id
  | .currentHousehold => context.household_id
  | _ => none

/-- The record that a contextual reference means has the type that its kind stands for. -/
def RootOfType (context : AgentRequestContext) (reference : SemanticReference) : Prop :=
  ∀ id type, contextId? context reference.kind = some id →
    reference.kind.contextType? = some type → idType id = type

variable {engine}

/-! ### One step -/

/-- The relation that a semantic relation stands for, with its declared types. -/
theorem physicalRelation_declared {semantic relation : String} {direction : Option Direction}
    (h : engine.schema.physicalRelation semantic = some (relation, direction)) :
    ∃ schema ∈ engine.schema.catalog.edge_registry.schemas, schema.id = relation ∧
      engine.schema.catalog.edge_registry.resolve relation = .ok ⟨schema, false⟩ ∧
      (direction = none ↔ schema.symmetric = true) ∧
      ∃ definition, engine.schema.catalog.relations.lookup relation = some definition ∧
        definition.from_types = schema.from_types ∧ definition.to_types = schema.to_types := by
  unfold SemanticSchemaRegistry.physicalRelation at h
  obtain ⟨name, -, h⟩ := Option.bind_eq_some_iff.1 h
  obtain ⟨resolved, hresolved, h⟩ := Option.bind_eq_some_iff.1 h
  obtain ⟨definition, hdefinition, h⟩ := Option.bind_eq_some_iff.1 h
  obtain ⟨rfl, rfl⟩ := Prod.mk.inj (Option.some.inj h)
  have hok : engine.schema.catalog.edge_registry.resolve name = .ok resolved := by
    cases hname : engine.schema.catalog.edge_registry.resolve name with
    | error error =>
        rw [hname] at hresolved
        cases hresolved
    | ok other =>
        rw [hname] at hresolved
        exact congrArg _ (Option.some.inj hresolved)
  have hmem := (engine.schema.catalog.edge_registry.resolve_eq_ok hok).1
  obtain ⟨edge, hedge, hid, hfrom, hto⟩ :=
    engine.schema.catalog.relations_declared _ _ hdefinition
  have hsame : edge = resolved.schema :=
    List.inj_on_of_nodup_map engine.schema.catalog.edge_registry.nodup_ids hedge hmem hid
  subst hsame
  refine ⟨resolved.schema, hmem, rfl, engine.schema.catalog.edge_registry.resolve_of_mem hmem, ?_,
    definition, hdefinition, hfrom.symm, hto.symm⟩
  cases resolved.schema.symmetric <;> cases resolved.inverse <;> simp

/-- A read in the direction of a relation is stored in that direction. -/
theorem storedDirection_of {schema : EdgeSchema} {direction : Option Direction}
    (h : direction = none ↔ schema.symmetric = true) (type : String) :
    storedDirection ⟨schema, false⟩ type direction = direction := by
  unfold storedDirection
  split
  case isTrue hsymmetric => exact (h.2 hsymmetric).symm
  case isFalse hdirected =>
      cases direction with
      | none => exact absurd (h.1 rfl) hdirected
      | some direction => rfl

/-- A row that a step reads leads from a source of one declared type to a record of the other. -/
theorem RowFrom.types (hgraph : engine.EdgesOfType) {semantic relation source id : String}
    {direction : Option Direction} {filters : List SemanticFilter} {row : Edge}
    {definition : RelationTypeSchema}
    (hrelation : engine.schema.physicalRelation semantic = some (relation, direction))
    (hdefinition : engine.schema.catalog.relations.lookup relation = some definition)
    (hrow : engine.RowFrom relation direction filters source row)
    (hid : row.relatedId = some id) :
    (direction ≠ some .into ∧ idType source ∈ definition.from_types ∧
        idType id ∈ definition.to_types) ∨
      (direction ≠ some .out ∧ idType source ∈ definition.to_types ∧
        idType id ∈ definition.from_types) := by
  obtain ⟨schema, hschema, rfl, hresolve, hsymmetric, declared, hdeclared, hfrom, hto⟩ :=
    physicalRelation_declared hrelation
  obtain rfl : declared = definition := Option.some.inj (hdeclared.symm.trans hdefinition)
  obtain ⟨resolved, hresolved, edge, hedge, rfl, -⟩ := hrow
  rw [hresolve] at hresolved
  obtain rfl := Except.ok.inj hresolved
  have hfar : id = edge.far source := by
    rw [Edge.relatedId, HouseholdGraph.edgeRow_related] at hid
    obtain ⟨related, hrelated, rfl⟩ := Option.map_eq_some_iff.1 hid
    obtain ⟨record, hrecord, rfl⟩ := Option.map_eq_some_iff.1 hrelated
    exact (entity?_id hrecord : record.id = edge.far source)
  rw [hostingEdges, hresolve] at hedge
  obtain ⟨hstored, htouches⟩ := List.mem_filter.1 hedge
  rw [storedDirection_of hsymmetric] at htouches
  rw [hfrom, hto, hfar, GraphEdge.far]
  rcases hgraph schema hschema edge hstored with ⟨hsource, htarget⟩ | ⟨hboth, hsource, htarget⟩
  · cases direction with
    | none =>
        rcases HouseholdGraph.touches_ends htouches with rfl | rfl
        · exact .inl ⟨by simp, hsource, by rwa [if_pos rfl]⟩
        · refine .inr ⟨by simp, htarget, ?_⟩
          split
          case isTrue heq => rwa [← heq]
          case isFalse => exact hsource
    | some direction =>
        cases direction with
        | out =>
            obtain rfl := eq_of_beq htouches
            exact .inl ⟨by simp, hsource, by rwa [if_pos rfl]⟩
        | into =>
            obtain rfl := eq_of_beq htouches
            refine .inr ⟨by simp, htarget, ?_⟩
            split
            case isTrue heq => rwa [← heq]
            case isFalse => exact hsource
  · obtain rfl := hsymmetric.2 hboth
    rcases HouseholdGraph.touches_ends htouches with rfl | rfl
    · exact .inr ⟨by simp, hsource, by rwa [if_pos rfl]⟩
    · refine .inl ⟨by simp, htarget, ?_⟩
      split
      case isTrue heq => rwa [← heq]
      case isFalse => exact hsource

theorem meets_of_mem {types declared : List String} {type : String} (h : type ∈ types)
    (hdeclared : type ∈ declared) : SemanticSchemaRegistry.meets types declared = true :=
  List.any_eq_true.2 ⟨type, h, List.contains_iff_mem.2 hdeclared⟩

/-- **A row that a step reads leads to a record of the step's types.**  The hosted spaces at which
`contents` also reads do not count, as it has a direction. -/
theorem row_typed (hgraph : engine.TypedGraph) {step : SemanticRelationStep} {types : List String}
    (htargets : engine.schema.traversalTargetTypes step.relation types ≠ [])
    {start source id relation : String} {direction : Option Direction} {row : Edge}
    (hstart : idType start ∈ types)
    (hrelation : engine.schema.physicalRelation step.relation = some (relation, direction))
    (hsource : engine.SourceOf step start source)
    (hrow : engine.RowFrom relation direction step.filters source row)
    (hid : row.relatedId = some id) :
    idType id ∈ engine.schema.traversalTargetTypes step.relation types := by
  obtain ⟨schema, -, -, -, -, definition, hdefinition, -⟩ := physicalRelation_declared hrelation
  have htypes := hrow.types hgraph.edges hrelation hdefinition hid
  unfold SemanticSchemaRegistry.traversalTargetTypes at htargets ⊢
  rw [hrelation] at htargets ⊢
  dsimp only at htargets ⊢
  rw [hdefinition] at htargets ⊢
  cases direction with
  | none =>
      have hsame : source = start := by
        rcases hsource with hsame | ⟨hcontents, -⟩
        · exact hsame
        · rw [hcontents] at hrelation
          exact absurd hrelation (hgraph.contents relation)
      have hof := hsame ▸ hstart
      dsimp only
      rcases htypes with ⟨-, hfrom, hto⟩ | ⟨-, hto, hfrom⟩
      · rw [if_pos (meets_of_mem hof hfrom)]
        exact List.mem_append_left _ hto
      · rw [if_pos (meets_of_mem hof hto)]
        exact List.mem_append_right _ hfrom
  | some direction =>
      cases direction with
      | out =>
          dsimp only at htargets ⊢
          split at htargets
          case isTrue hmeets =>
              rw [if_pos hmeets]
              rcases htypes with ⟨-, -, hto⟩ | ⟨hother, -⟩
              · exact hto
              · exact absurd rfl hother
          case isFalse => exact absurd rfl htargets
      | into =>
          dsimp only at htargets ⊢
          split at htargets
          case isTrue hmeets =>
              rw [if_pos hmeets]
              rcases htypes with ⟨hother, -⟩ | ⟨-, -, hfrom⟩
              · exact absurd rfl hother
              · exact hfrom
          case isFalse => exact absurd rfl htargets

/-- **One step keeps the types.** -/
theorem step_typed (hgraph : engine.TypedGraph) {now : Clock} {anchors : List Entity}
    {step : SemanticRelationStep} {types : List String} {starts : Set String}
    (hstarts : ∀ id ∈ starts, idType id ∈ types)
    (htargets : engine.schema.traversalTargetTypes step.relation types ≠ []) :
    ∀ id ∈ (engine.stepRelation now anchors step).image starts,
      idType id ∈ engine.schema.traversalTargetTypes step.relation types := by
  rintro id ⟨start, hstart, relation, direction, hrelation, ⟨source, row, hsource, hrow, hid⟩, -⟩
  exact row_typed hgraph htargets (hstarts start hstart) hrelation hsource hrow hid

/-! ### Paths and references -/

theorem traversalTargetTypes_nil (relation : String) :
    engine.schema.traversalTargetTypes relation [] = [] := by
  unfold SemanticSchemaRegistry.traversalTargetTypes SemanticSchemaRegistry.meets
  split
  case h_1 => rfl
  case h_2 =>
      split
      case h_1 => rfl
      case h_2 => split <;> simp

/-- From no type, a path leads to no type. -/
theorem pathTypes_nil (path : List SemanticRelationStep) : engine.schema.pathTypes [] path = [] := by
  induction path with
  | nil => rfl
  | cons step path ih =>
      rw [SemanticSchemaRegistry.pathTypes, List.foldl_cons, traversalTargetTypes_nil]
      exact ih

/-- **A path keeps the types**, step by step. -/
theorem path_typed (hgraph : engine.TypedGraph) {now : Clock} {anchors : List Entity}
    {path : List SemanticRelationStep} {types : List String} {starts : Set String}
    (hstarts : ∀ id ∈ starts, idType id ∈ types)
    (htypes : engine.schema.pathTypes types path ≠ []) :
    ∀ id ∈ (engine.pathRelation now anchors path).image starts,
      idType id ∈ engine.schema.pathTypes types path := by
  induction path generalizing types starts with
  | nil =>
      rw [image_pathRelation_nil]
      exact hstarts
  | cons step path ih =>
      rw [image_pathRelation_cons]
      refine ih (step_typed hgraph hstarts fun hnone => htypes ?_) htypes
      rw [SemanticSchemaRegistry.pathTypes, List.foldl_cons, hnone]
      exact pathTypes_nil path

/-- What a name means is of the type that is asked for, or of a table of the graph. -/
theorem resolveEntityAlias_types {query : AliasQuery} {limit : Nat} {records : List Entity}
    (h : engine.graph.resolveEntityAlias query limit = some records) :
    ∀ record ∈ records, entityType record ∈ engine.graph.tables ∧
      ∀ type, query.entity_type = some type → entityType record = type := by
  unfold HouseholdGraph.resolveEntityAlias at h
  split at h
  case isTrue => cases h
  case isFalse hknown =>
    obtain rfl := Option.some.inj h
    intro record hrecord
    obtain ⟨stored, hstored, rfl⟩ := List.mem_map.1 hrecord
    have hnamed := engine.graph.named_subset _ _ (List.mem_of_mem_take hstored)
    obtain ⟨table, htable, hids⟩ := List.mem_flatMap.1 hnamed
    obtain ⟨id, hid, hfound⟩ := List.mem_filterMap.1 hids
    have hsame : entityType (entitySummary stored) = idType id := by
      rw [entityType]
      exact congrArg idType (entity?_id hfound : stored.id = id)
    have hin : table ∈ engine.graph.tables := by
      cases htype : query.entity_type with
      | none => rwa [htype] at htable
      | some type =>
          rw [htype] at htable
          obtain rfl := List.mem_singleton.1 htable
          by_contra hunknown
          exact hknown (by simp [htype, hunknown])
    rw [hsame, engine.graph.ids_typed table hin id hid]
    refine ⟨hin, fun type htype => ?_⟩
    rw [htype] at htable
    exact List.mem_singleton.1 htable

theorem namedEntities_types {context : AgentRequestContext} {reference : SemanticReference}
    {roots : List Entity} (h : engine.namedEntities context reference = .ok roots) :
    ∀ root ∈ roots, entityType root ∈ engine.graph.tables ∧
      ∀ type, reference.entity_type = some type → entityType root = type := by
  unfold namedEntities at h
  obtain ⟨records, hrecords, h⟩ := Except.bind_eq_ok.1 h
  obtain ⟨found, hfound, h⟩ := Except.bind_eq_ok.1 h
  have htypes : ∀ record ∈ records, entityType record ∈ engine.graph.tables ∧
      ∀ type, reference.entity_type = some type → entityType record = type := by
    unfold answered at hrecords
    split at hrecords
    case h_1 value hvalue =>
      obtain rfl := Except.ok.inj hrecords
      exact resolveEntityAlias_types hvalue
    case h_2 => cases hrecords
  have hsubset : ∀ record ∈ found, record ∈ records := by
    unfold scopeNamedRecords at hfound
    split at hfound
    case h_1 =>
      obtain rfl := Except.ok.inj hfound
      exact fun _ hrecord => hrecord
    case h_2 => exact fun record hrecord => ((Except.mem_of_filterM hfound).1 hrecord).1
  split at h
  case h_1 => cases h
  case h_2 record =>
    obtain rfl := Except.ok.inj h
    intro root hroot
    obtain rfl := List.mem_singleton.1 hroot
    exact htypes root (hsubset root List.mem_cons_self)
  case h_3 => cases h

theorem discourseEntities_types {context : AgentRequestContext} {reference : SemanticReference}
    {roots : List Entity} (h : engine.discourseEntities context reference = .ok roots) :
    ∀ root ∈ roots, some (entityType root) = reference.entity_type := by
  unfold discourseEntities at h
  split at h
  case h_1 => cases h
  case h_2 ids hids =>
    obtain ⟨loaded, -, h⟩ := Except.bind_eq_ok.1 h
    have hroots : roots = loaded.filter fun entity =>
        some (entityType entity) = reference.entity_type := by
      split at h
      case h_1 => cases h
      case h_2 hone =>
        obtain rfl := Except.ok.inj h
        exact hone.symm
      case h_3 =>
        split at h
        case isTrue => cases h
        case isFalse => exact (Except.ok.inj h).symm
    intro root hroot
    rw [hroots] at hroot
    exact of_decide_eq_true (List.mem_filter.1 hroot).2

/-- **The roots of a reference** are of the types that the validator starts from. -/
theorem roots_typed (hgraph : engine.TypedGraph) {context : AgentRequestContext}
    {reference : SemanticReference} (hroot : RootOfType context reference) {roots : List Entity}
    (h : engine.rootEntities context reference = .ok roots) :
    ∀ root ∈ roots, entityType root ∈ engine.schema.baseEntityTypes reference := by
  have hvalid := reference.validated
  have hone : ∀ root : Entity, roots = [root] →
      entityType root ∈ engine.schema.baseEntityTypes reference →
      ∀ root ∈ roots, entityType root ∈ engine.schema.baseEntityTypes reference := by
    rintro root rfl htype other hother
    rwa [List.mem_singleton.1 hother]
  unfold rootEntities at h
  cases hkind : reference.kind with
  | unresolved =>
      rw [hkind] at h
      cases h
  | discourse =>
      rw [hkind] at h
      intro root htype
      have htype := discourseEntities_types h root htype
      rw [SemanticSchemaRegistry.baseEntityTypes, hkind, ← htype]
      exact List.mem_singleton_self _
  | assistant =>
      rw [hkind] at h
      refine hone _ (Except.ok.inj h).symm ?_
      rw [SemanticSchemaRegistry.baseEntityTypes, hkind]
      exact List.mem_singleton.2 (hroot _ "person" (by rw [hkind]; rfl) (by rw [hkind]; rfl))
  | self =>
      rw [hkind] at h
      dsimp only at h
      split at h
      case h_1 caller hcaller =>
          refine hone _ (Except.ok.inj h).symm ?_
          rw [SemanticSchemaRegistry.baseEntityTypes, hkind]
          exact List.mem_singleton.2 (hroot _ "person" (by rw [hkind]; exact hcaller)
            (by rw [hkind]; rfl))
      case h_2 => cases h
  | currentHousehold =>
      rw [hkind] at h
      dsimp only at h
      split at h
      case h_1 household hhousehold =>
          refine hone _ (Except.ok.inj h).symm ?_
          rw [SemanticSchemaRegistry.baseEntityTypes, hkind]
          exact List.mem_singleton.2 (hroot _ "address" (by rw [hkind]; exact hhousehold)
            (by rw [hkind]; rfl))
      case h_2 => cases h
  | entityId =>
      rw [hkind] at h
      refine hone _ (Except.ok.inj h).symm ?_
      cases hvalue : reference.value with
      | none => simp [ReferenceFields.valid, hkind, hvalue] at hvalid
      | some value =>
          rw [SemanticSchemaRegistry.baseEntityTypes, hkind, hvalue]
          exact List.mem_singleton_self _
  | namedEntity =>
      rw [hkind] at h
      intro root htype
      obtain ⟨htable, htype⟩ := namedEntities_types h root htype
      cases hdeclared : reference.entity_type with
      | some type =>
          rw [SemanticSchemaRegistry.baseEntityTypes, hkind, hdeclared]
          exact List.mem_singleton.2 (htype type hdeclared)
      | none =>
          rw [SemanticSchemaRegistry.baseEntityTypes, hkind, hdeclared]
          have hknown := hgraph.tables _ htable
          rw [RuntimeSchemaCatalog.hasEntityType, Option.isSome_iff_exists] at hknown
          obtain ⟨schema, hschema⟩ := hknown
          exact List.mem_map.2 ⟨_, AList.mem_of_lookup_eq_some hschema, rfl⟩

theorem referenceEntityTypes_eq_some {reference : SemanticReference} {types : List String}
    (h : engine.schema.referenceEntityTypes reference = some types) :
    engine.schema.pathTypes (engine.schema.baseEntityTypes reference) reference.path = types ∧
      types ≠ [] := by
  unfold SemanticSchemaRegistry.referenceEntityTypes at h
  dsimp only at h
  split at h
  case isTrue => cases h
  case isFalse =>
      split at h
      case isTrue => cases h
      case isFalse hsome =>
          obtain rfl := Option.some.inj h
          exact ⟨rfl, fun hnone => hsome (by rw [hnone]; rfl)⟩

/-- **A reference resolves to records of its types.** -/
theorem resolve_typed (hgraph : engine.TypedGraph) {context : AgentRequestContext}
    {reference : SemanticReference} (hroot : RootOfType context reference) {types : List String}
    (htypes : engine.schema.referenceEntityTypes reference = some types)
    {evidence : List FactRelationshipEvidence} {allow_empty expect_many : Bool}
    {resolution : ResolvedEntities}
    (h : engine.resolve reference context evidence allow_empty expect_many
      = .ok (.inr resolution)) :
    ∀ entity ∈ resolution.entities, entityType entity ∈ types := by
  intro entity hentity
  obtain ⟨rfl, hsome⟩ := referenceEntityTypes_eq_some htypes
  have hid : entity.id ∈ engine.Denotes context reference := by
    rw [← (resolve_denotes h).1]
    exact List.mem_map_of_mem hentity
  obtain ⟨roots, hroots, himage⟩ := hid
  refine path_typed hgraph (fun id hid => ?_) hsome entity.id himage
  obtain ⟨root, hmem, rfl⟩ := List.mem_map.1 hid
  exact roots_typed hgraph hroot hroots root hmem

/-! ### Properties that the validator accepts -/

/-- A property that the validator accepts for some types is stored for each of them. -/
theorem physicalProperty_of_kind {types : List String} {property : String} {kind : ValueKind}
    (h : engine.schema.semanticKind types (some property) = some kind) {type : String}
    (htype : type ∈ types) : (engine.schema.physicalProperty type property).isSome := by
  unfold SemanticSchemaRegistry.semanticKind at h
  unfold SemanticSchemaRegistry.physicalProperty
  rw [Option.bind_eq_bind, Option.bind_some] at h
  cases hcomputed : engine.schema.ontology.computed_filters.lookup property with
  | none =>
      rw [hcomputed] at h
      dsimp only at h ⊢
      split at h
      case isTrue => cases h
      case isFalse hbound =>
          simp only [Bool.or_eq_true, Bool.not_eq_true', not_or, Bool.not_eq_false] at hbound
          exact List.all_eq_true.1 hbound.2 type htype
  | some computed =>
      rw [hcomputed] at h
      dsimp only at h ⊢
      split at h
      case isFalse => cases h
      case isTrue hbound =>
          simp only [Bool.and_eq_true] at hbound
          have hcontains := List.all_eq_true.1 hbound.2 type htype
          rw [if_pos (by rw [hbound.1.1, hcontains]; rfl)]
          exact List.all_eq_true.1 hbound.1.1 type (List.contains_iff_mem.1 hcontains)

/-- The properties that a request reads off the records of its subject. -/
def ReadsProperty (request : SemanticFactRequest) (property : String) : Prop :=
  (request.property = some property ∧ request.property_source = .entity) ∨
    ∃ item ∈ request.filters, item.property = some property ∧ item.source = .entity

/-- What an accepted request has passed, of what concerns the types of its references. -/
structure AcceptedTypes (engine : HouseholdFactEngine) (request : SemanticFactRequest) : Prop where
  references : ∀ reference ∈ request.references,
    (engine.schema.referenceEntityTypes reference).isSome ∧
      engine.schema.pathValid (engine.schema.baseEntityTypes reference)
        (engine.schema.baseEntityTypes reference) reference.path = true
  reads : ∀ property, ReadsProperty request property → ∀ types,
    engine.schema.referenceEntityTypes request.subject = some types →
      ∃ kind, engine.schema.semanticKind types (some property) = some kind

theorem acceptedTypes {request : SemanticFactRequest}
    (h : engine.schema.validates request = true) : AcceptedTypes engine request := by
  obtain ⟨_, hcode⟩ := Except.exists_of_isOk h
  unfold SemanticSchemaRegistry.validationCode at hcode
  iterate 3 obtain ⟨_, -, hcode⟩ := Except.bind_eq_ok.1 hcode
  obtain ⟨_, hproperty, hcode⟩ := Except.bind_eq_ok.1 hcode
  obtain ⟨_, -, hcode⟩ := Except.bind_eq_ok.1 hcode
  obtain ⟨_, hfilters, hcode⟩ := Except.bind_eq_ok.1 hcode
  obtain ⟨_, hreferences, -⟩ := Except.bind_eq_ok.1 hcode
  rw [SemanticSchemaRegistry.require_eq_ok] at hproperty hfilters hreferences
  constructor
  · intro reference hreference
    have hvalid := List.all_eq_true.1 hreferences reference hreference
    rw [SemanticSchemaRegistry.referenceValid] at hvalid
    simp only [Bool.and_eq_true] at hvalid
    exact ⟨hvalid.1.2, hvalid.2⟩
  · rintro property (⟨hasked, hsource⟩ | ⟨item, hitem, hasked, hsource⟩) types htypes
    · rw [SemanticSchemaRegistry.propertyKnown, hasked, hsource, htypes] at hproperty
      exact Option.isSome_iff_exists.1 (by simpa using hproperty)
    · have hknown := List.all_eq_true.1 hfilters item hitem
      rw [SemanticSchemaRegistry.filterKnown, hasked, hsource, htypes] at hknown
      exact Option.isSome_iff_exists.1 (by simpa using hknown)

/-- The entity filters of a step map to stored names on every type that the step reaches. -/
theorem mappedFilters_of_valid {anchor_types : List String} {step : SemanticRelationStep}
    {targets : List String}
    (h : step.filters.all (engine.schema.stepFilterValid anchor_types step targets) = true)
    {type : String} (htype : type ∈ targets) :
    ∃ mapped, engine.mappedFilters type
      (step.filters.filter fun item => item.source = .entity) = .ok mapped := by
  have hmapped : ∀ item ∈ step.filters.filter (fun item => item.source = .entity),
      ∃ physical, engine.schema.physicalProperty type (item.property.getD "") = some physical := by
    intro item hitem
    obtain ⟨hmem, hsource⟩ := List.mem_filter.1 hitem
    have hvalid := List.all_eq_true.1 h item hmem
    rw [SemanticSchemaRegistry.stepFilterValid, of_decide_eq_true hsource] at hvalid
    obtain ⟨kind, hkind, -⟩ := (Option.any_eq_true _ _).1 hvalid
    cases hproperty : item.property with
    | none =>
        rw [hproperty] at hkind
        cases hkind
    | some property =>
        rw [hproperty] at hkind
        exact Option.isSome_iff_exists.1 (physicalProperty_of_kind hkind htype)
  refine ⟨_, Except.mapM_eq_ok.2 (List.forall₂_map_right_iff (f := fun item : SemanticFilter =>
    (item, (engine.schema.physicalProperty type (item.property.getD "")).getD "")).2
      (List.forall₂_same.2 fun item hitem => ?_))⟩
  obtain ⟨physical, hphysical⟩ := hmapped item hitem
  dsimp only
  rw [hphysical]
  rfl

/-- The steps of a valid path, each at the types that the path before it leads to. -/
theorem pathValid_step {anchor_types types : List String} {before after : List SemanticRelationStep}
    {step : SemanticRelationStep}
    (h : engine.schema.pathValid anchor_types types (before ++ step :: after) = true) :
    engine.schema.traversalTargetTypes step.relation (engine.schema.pathTypes types before) ≠ [] ∧
      step.filters.all (engine.schema.stepFilterValid anchor_types step
        (engine.schema.traversalTargetTypes step.relation
          (engine.schema.pathTypes types before))) = true := by
  induction before generalizing types with
  | nil =>
      rw [List.nil_append, SemanticSchemaRegistry.pathValid] at h
      simp only [Bool.and_eq_true] at h
      exact ⟨fun hnone => by simp [SemanticSchemaRegistry.pathTypes] at hnone; simp [hnone] at h,
        h.1.2⟩
  | cons first before ih =>
      rw [List.cons_append, SemanticSchemaRegistry.pathValid] at h
      simp only [Bool.and_eq_true] at h
      exact ih h.2

/-- A reference of a request is sound for its types: it resolves to records of them, what the
request reads of its subject is stored for them, and each step of its path maps its filters to
stored names on every record that its rows lead to. -/
structure Sound (engine : HouseholdFactEngine) (context : AgentRequestContext)
    (request : SemanticFactRequest) (reference : SemanticReference) (types : List String) :
    Prop where
  records : ∀ evidence allow_empty expect_many resolution,
    engine.resolve reference context evidence allow_empty expect_many = .ok (.inr resolution) →
      ∀ entity ∈ resolution.entities, entityType entity ∈ types
  properties : reference = request.subject → ∀ property, ReadsProperty request property →
    ∀ type ∈ types, (engine.schema.physicalProperty type property).isSome
  filters : ∀ before step after, reference.path = before ++ step :: after →
    ∀ roots, engine.rootEntities context reference = .ok roots →
    ∀ start ∈ (engine.pathRelation context.current_time roots before).image (idSet roots),
    ∀ relation direction,
      engine.schema.physicalRelation step.relation = some (relation, direction) →
    ∀ source row related, engine.SourceOf step start source →
      engine.RowFrom relation direction step.filters source row →
      row.related_entity = some related →
        ∃ mapped, engine.mappedFilters (entityType related)
          (step.filters.filter fun item => item.source = .entity) = .ok mapped

/-- **Paths keep the types**: every reference of an accepted request is sound for the types that
the validator computes. -/
theorem sound_of_accepted (hgraph : engine.TypedGraph) {request : SemanticFactRequest}
    (haccepted : engine.schema.validates request = true) {context : AgentRequestContext}
    {reference : SemanticReference} (hreference : reference ∈ request.references)
    (hroot : RootOfType context reference) :
    ∃ types, engine.schema.referenceEntityTypes reference = some types ∧
      Sound engine context request reference types := by
  have haccepts := acceptedTypes haccepted
  obtain ⟨hsome, hvalid⟩ := haccepts.references reference hreference
  obtain ⟨types, htypes⟩ := Option.isSome_iff_exists.1 hsome
  refine ⟨types, htypes, fun evidence allow_empty expect_many resolution =>
    resolve_typed hgraph hroot htypes, ?_, ?_⟩
  · rintro rfl property hread type htype
    obtain ⟨kind, hkind⟩ := haccepts.reads property hread types htypes
    exact physicalProperty_of_kind hkind htype
  · intro before step after hpath roots hroots start hstart relation direction hrelation source row
      related hsource hrow hrelated
    rw [hpath] at hvalid
    obtain ⟨htargets, hfilters⟩ := pathValid_step hvalid
    refine mappedFilters_of_valid hfilters (row_typed hgraph htargets ?_ hrelation hsource hrow
      (by rw [Edge.relatedId, hrelated]; rfl))
    refine path_typed hgraph (fun id hid => ?_) (fun hnone => ?_) start hstart
    · obtain ⟨root, hmem, rfl⟩ := List.mem_map.1 hid
      exact roots_typed hgraph hroot hroots root hmem
    · rw [hnone, traversalTargetTypes_nil] at htargets
      exact htargets rfl

end HouseholdFactEngine

/-! ### The states of ingestion -/

namespace Ingestion

variable {keep : Fields → Fields} {registry : EdgeSchemaRegistry} {prepared : Prepared}
  {store : Store}

/-- The ends of every edge record are canonical identities. -/
def EndsValid (store : Store) : Prop :=
  ∀ id source target content, store.lookup id = some ⟨some (source, target), content⟩ →
    source.Valid ∧ target.Valid

theorem endsValid_write (h : prepared.Valid registry) (hvalid : EndsValid store) :
    EndsValid (write keep prepared store) := by
  intro id source target content hlookup
  rcases lookup_write_cases h hlookup with ⟨_, _, node, _, hentry⟩ |
    ⟨relation, hrelation, edge, hedge, hentry⟩ | hbefore
  · simp [nodeEntry] at hentry
  · obtain ⟨schema, -, -, hprepared⟩ := h.relations relation hrelation
    simp only [edgeEntry, Prod.mk.injEq, StoredRecord.mk.injEq, Option.some.injEq] at hentry
    obtain ⟨-, ⟨rfl, rfl⟩, -⟩ := hentry
    exact hprepared.valid edge hedge
  · exact hvalid id source target content hbefore

theorem Ingested.endsValid (h : Ingested keep registry store) : EndsValid store := by
  induction h with
  | empty => exact fun id source target content hlookup => by simp at hlookup
  | ingest previous step ih =>
      obtain ⟨sources, prepared, -, hprepare, rfl, -⟩ := ingestDirectory_eq_ok.1 step
      exact endsValid_write (prepared_valid hprepare) ih

/-- What is located has a type that the relation declares: no space is located in a space. -/
def ItemsLocated (registry : EdgeSchemaRegistry) (store : Store) : Prop :=
  ∀ schema ∈ registry.schemas, schema.id = "located_in" →
    ∀ id source target content, store.lookup id = some ⟨some (source, target), content⟩ →
      id.table_name = "located_in" →
        source.table_name ∈ schema.from_types ∧ target.table_name ∈ schema.to_types

end Ingestion

namespace HouseholdFactEngine

open Ingestion

variable {engine : HouseholdFactEngine} {keep : Fields → Fields} {store : Store}
  {tables : List String} {tables_named : ∀ table ∈ tables, isTableName table = true}
  {named : AliasQuery → List Entity → List Entity}
  {named_subset : ∀ query records, named query records ⊆ records}
  {unreachable : GraphRead → Bool}

/-- **What ingestion stores has typed edges**, unless a space is located in a space. -/
theorem edgesOfType_of_ingested
    (hstore : Ingested keep engine.schema.catalog.edge_registry store)
    (hlocated : ItemsLocated engine.schema.catalog.edge_registry store)
    (hgraph : engine.graph = store.graph tables tables_named named named_subset unreachable) :
    engine.EdgesOfType := by
  intro schema hschema edge hedge
  rw [hgraph] at hedge
  obtain ⟨⟨id, stored⟩, hentry, hedge⟩ := List.mem_filterMap.1 hedge
  obtain ⟨hlookup, htable⟩ := Surreal.mem_selectTable.1
    ((List.mem_insertionSort _).1 (List.mem_filter.1 hentry).1)
  obtain ⟨⟨source, target⟩, hends, rfl⟩ := Option.map_eq_some_iff.1 hedge
  have hlookup : store.lookup id = some ⟨some (source, target), stored.content⟩ := by
    rw [hlookup, ← hends]
  obtain ⟨hsource, htarget⟩ := hstore.endsValid id source target stored.content hlookup
  change (idType (canonicalRecordId source) ∈ _ ∧ idType (canonicalRecordId target) ∈ _) ∨ _ ∧
    idType (canonicalRecordId source) ∈ _ ∧ idType (canonicalRecordId target) ∈ _
  rw [idType_canonicalRecordId hsource.1, idType_canonicalRecordId htarget.1]
  by_cases hitems : schema.id = "located_in"
  · exact .inl (hlocated schema hschema hitems id source target stored.content hlookup
      (htable.trans hitems))
  · obtain ⟨declared, hdeclared, hid, hends⟩ :=
      hstore.edgesTyped id source target stored.content hlookup
    obtain rfl : declared = schema := List.inj_on_of_nodup_map
      engine.schema.catalog.edge_registry.nodup_ids hdeclared hschema (hid.trans htable)
    rw [validateEndpointTypes, if_neg hitems] at hends
    exact (EdgeSchemaRegistry.validate_endpoints_eq_ok hschema).1 hends

/-- **Paths over ingested states are type sound.**  On a graph served from a state that
ingestions produced and where no space is located in a space, every reference of every accepted
request is sound for the types that the validator computes. -/
theorem ingested_sound (hstore : Ingested keep engine.schema.catalog.edge_registry store)
    (hlocated : ItemsLocated engine.schema.catalog.edge_registry store)
    (hgraph : engine.graph = store.graph tables tables_named named named_subset unreachable)
    (htables : ∀ table ∈ tables, engine.schema.catalog.hasEntityType table = true)
    (hcontents : ∀ relation, engine.schema.physicalRelation "contents" ≠ some (relation, none))
    {request : SemanticFactRequest} (haccepted : engine.schema.validates request = true)
    {context : AgentRequestContext} {reference : SemanticReference}
    (hreference : reference ∈ request.references) (hroot : RootOfType context reference) :
    ∃ types, engine.schema.referenceEntityTypes reference = some types ∧
      Sound engine context request reference types :=
  sound_of_accepted ⟨edgesOfType_of_ingested hstore hlocated hgraph,
    fun table htable => htables table (by rwa [hgraph] at htable), hcontents⟩ haccepted hreference
    hroot

/-! ### The contents of a cupboard -/

theorem locatedIn_edge : ∃ edge ∈ EdgeSchemaRegistry.deployed.schemas, edge.id = "located_in" ∧
    edge.from_types = ["item"] ∧ edge.to_types = ["address", "space"] := by
  decide +kernel

theorem kitchenTables_named : ∀ table ∈ ["item", "space"], isTableName table = true := by decide

/-- The engine of a kitchen with spaces and items. -/
def kitchenEngine (store : Store) : HouseholdFactEngine where
  graph := store.graph ["item", "space"] kitchenTables_named (fun _ records => records)
    (fun _ _ => List.Subset.refl _) fun _ => false
  schema := {
    catalog := {
      entities := [("address", ⟨"address", [], []⟩), ("item", ⟨"item", ["name"], []⟩),
        ("space", ⟨"space", ["name"], []⟩)]
      relations := [("located_in", ⟨["item"], ["address", "space"], [], []⟩)]
      edge_registry := .deployed
      relations_declared := oneRelation_declared locatedIn_edge }
    ontology := {
      base_relations := [("contents", "contains")]
      validated := by decide } }
  max_records := 25
  bounded := defaultRecords_bounded

theorem contents_named : isRequestName "contents" = true := by decide

/-- "What is in the cupboard?" -/
def cupboardContents : SemanticFactRequest where
  operation := .select
  subject := ⟨{ kind := .entityId, value := some "space:cupboard",
                path := [⟨"contents", [], contents_named⟩] }, by decide +kernel⟩
  exclude_bound := noExclude_bound
  amount_bound := noAmount_bound

/-- The cupboard with its mug is typed, and what it contains is an item. -/
theorem cupboard_sound : ∃ resolution,
    (kitchenEngine (write dropNulls mugPrepared ∅)).resolve cupboardContents.subject homeRequest []
      true true = .ok (.inr resolution) ∧ resolution.entities.map Entity.id = ["item:mug"] ∧
    ∃ types, (kitchenEngine (write dropNulls mugPrepared ∅)).schema.referenceEntityTypes
        cupboardContents.subject = some types ∧
      Sound (kitchenEngine (write dropNulls mugPrepared ∅)) homeRequest cupboardContents
        cupboardContents.subject types := by
  have hstep : ingestDirectory dropNulls EdgeSchemaRegistry.deployed mugSource ∅
      = .ok (write dropNulls mugPrepared ∅, ⟨2, 2, 2, 1⟩) := by
    rfl
  have hlocated : ItemsLocated EdgeSchemaRegistry.deployed (write dropNulls mugPrepared ∅) := by
    intro schema hschema hid id source target content hlookup htable
    have hstored : Surreal.selectTable (write dropNulls mugPrepared ∅) "located_in" =
        [(⟨"located_in", "item_mug__space_cupboard"⟩, ⟨some (⟨"item", "mug"⟩,
          ⟨"space", "cupboard"⟩), []⟩)] := by
      rfl
    have hmem := Surreal.mem_selectTable.2 ⟨hlookup, htable⟩
    rw [hstored, List.mem_singleton] at hmem
    cases hmem
    have hall : ∀ schema ∈ EdgeSchemaRegistry.deployed.schemas, schema.id = "located_in" →
        "item" ∈ schema.from_types ∧ "space" ∈ schema.to_types := by
      decide +kernel
    exact hall schema hschema hid
  have hcontents : ∀ relation, (kitchenEngine (write dropNulls mugPrepared ∅)).schema.physicalRelation
      "contents" ≠ some (relation, none) := by
    intro relation h
    cases h.symm.trans (show _ = some ("located_in", some Direction.into) from rfl)
  have hids : ((kitchenEngine (write dropNulls mugPrepared ∅)).resolve cupboardContents.subject
      homeRequest [] true true).toOption.map (fun outcome => outcome.getRight?.map
        fun resolution => resolution.entities.map Entity.id) = some (some ["item:mug"]) := by
    decide +kernel
  have hroot : RootOfType homeRequest cupboardContents.subject := fun _ _ h => (by cases h)
  have hsound := @ingested_sound (kitchenEngine (write dropNulls mugPrepared ∅)) dropNulls
    (write dropNulls mugPrepared ∅) _ kitchenTables_named _ _ _ (.ingest .empty hstep) hlocated rfl
    (by decide +kernel) hcontents cupboardContents (by decide +kernel) homeRequest
    cupboardContents.subject List.mem_cons_self hroot
  cases hresolve : (kitchenEngine (write dropNulls mugPrepared ∅)).resolve cupboardContents.subject
      homeRequest [] true true with
  | error error =>
      rw [hresolve] at hids
      cases hids
  | ok outcome =>
      rw [hresolve] at hids
      cases outcome with
      | inl failed => cases hids
      | inr resolution =>
          exact ⟨resolution, rfl, Option.some.inj (Option.some.inj hids), hsound⟩

/-- A drawer in a cupboard. -/
def drawerSource : SourceDir where
  node_files := [
    ("space", ⟨"nodes/space.json", .ok (.arr [.obj [("id", .str "space:cupboard")],
      .obj [("id", .str "space:drawer")]])⟩)]
  node_shards := []
  edge_files := [
    ("hosted_by", ⟨"edges/hosted_by.json", .ok (.arr [])⟩),
    ("located_in", ⟨"edges/located_in.json", .ok (.arr [.obj [("from", .str "space:drawer"),
      ("to", .str "space:cupboard")]])⟩)]
  nodup_files := by decide
  nodup_shards := List.nodup_nil
  nodup_edges := by decide

/-- What the ingestion of `drawerSource` leaves. -/
def drawerStore : Store := write dropNulls {
  nodes := [("space", [⟨⟨"space", "cupboard"⟩, []⟩, ⟨⟨"space", "drawer"⟩, []⟩])]
  edges := [("hosted_by", []), ("located_in", [⟨"located_in",
    ⟨"located_in", "space_drawer__space_cupboard"⟩, ⟨"space", "drawer"⟩, ⟨"space", "cupboard"⟩,
    []⟩])] } ∅

example : ingestDirectory dropNulls EdgeSchemaRegistry.deployed drawerSource ∅
    = .ok (drawerStore, ⟨1, 2, 2, 1⟩) := rfl

/-- Located in the cupboard, the drawer is among its contents, which the validator takes for
items. -/
example : (kitchenEngine drawerStore).schema.referenceEntityTypes cupboardContents.subject
      = some ["item"] ∧
    ((kitchenEngine drawerStore).resolve cupboardContents.subject homeRequest [] true
      true).toOption.map (fun outcome => outcome.getRight?.map fun resolution =>
        resolution.entities.map Entity.id) = some (some ["space:drawer"]) := by
  decide +kernel

end HouseholdFactEngine
end HomeCortex
