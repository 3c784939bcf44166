/-
# What a count and a selection answer

A request asks for the records that its subject denotes, that no excluded reference denotes, and
that its filters admit (`Answers`).  A filter is read off the stored record and the set of rows
that lead to it (`Admits`), whatever the order in which the engine tests and loads.  A count that
returns a value returns the number of these records, and a selection returns these records, each
once (`execute_answers`): what is cut off, undecided or ambiguous fails instead.
-/

import Mathlib.Data.Set.Card
import HomeCortex.Facts.PathImages

namespace HomeCortex
namespace HouseholdFactEngine

variable (engine : HouseholdFactEngine)

/-- The record that an identity stands for: the stored one, or none but its identity. -/
def recordOf (id : String) : Entity := (engine.graph.entity? id).getD ⟨id, []⟩

/-! ### What a filter of a request means -/

/-- A value passes an entity filter. -/
def ValuePasses (now : Clock) (item : SemanticFilter) (raw : Json) : Prop :=
  raw ≠ .null ∧ match engine.derivedFilter? now (item.property.getD "") item raw with
    | some matched => matched = .ok true
    | none => evaluatePredicate item.operator raw item.value = true

/-- A row passes a relation filter, for the relation that the request ends with. -/
def RowPasses (request : SemanticFactRequest) (item : SemanticFilter) (row : Edge) : Prop :=
  ∃ relation property physical, lastRelation request.subject = some relation ∧
    item.property = some property ∧
    ((engine.schema.physicalRelation relation).bind fun resolved =>
      engine.schema.relationProperty resolved.1 property) = some physical ∧
    row.get physical ≠ .null ∧ evaluatePredicate item.operator (row.get physical) item.value = true

/-- Some row gives a role that the predicate recognizes. -/
def Recognized (request : SemanticFactRequest) (definition : OntologyCollectionPredicate)
    (rows : Set Edge) (value : String) : Prop :=
  value ∈ definition.recognized_values ∧ ∃ physical,
    engine.roleProperty request definition = some physical ∧
      ∃ row ∈ rows, row.get physical = .str value

/-- A record passes the fallback of a predicate. -/
def FallbackPasses (predicate : String) (fallback : OntologyPredicateFallback) (now : Clock)
    (record : Entity) : Prop :=
  ∃ physical policy, engine.schema.physicalProperty (entityType record) fallback.property
      = some physical ∧ record.get physical ≠ .null ∧
    engine.schema.ontology.policy_values.lookup fallback.value_from_policy = some policy ∧
    derivedDateMatches (record.get physical) now fallback.transform fallback.mode
      fallback.operator (.scalar policy) fallback.require_past
      [predicate, fallback.property] = .ok true

/-- A record with its rows satisfies a collection predicate: its recognized roles all match, or
there is none and the fallback passes. -/
def PredicatePasses (request : SemanticFactRequest) (predicate : String) (now : Clock)
    (rows : Set Edge) (record : Entity) : Prop :=
  ∃ definition, engine.schema.ontology.collection_predicates.lookup predicate = some definition ∧
    ((∃ value, engine.Recognized request definition rows value) ∧
        (∀ value, engine.Recognized request definition rows value →
          value ∈ definition.matching_values) ∨
      (¬ ∃ value, engine.Recognized request definition rows value) ∧
        engine.FallbackPasses predicate definition.fallback now record)

/-- A filter of a request admits a record with the rows that lead to it. -/
def Admits (request : SemanticFactRequest) (now : Clock) (rows : Set Edge) (record : Entity)
    (item : SemanticFilter) : Prop :=
  match item.predicate, item.source with
  | some predicate, _ => engine.PredicatePasses request predicate now rows record
  | none, .relation => ∃ row ∈ rows, engine.RowPasses request item row
  | none, .entity => ∃ physical, engine.schema.physicalProperty (entityType record)
      (item.property.getD "") = some physical ∧ engine.ValuePasses now item (record.get physical)

/-- The records that a request asks for. -/
def Answers (context : AgentRequestContext) (request : SemanticFactRequest) : Set String :=
  {id | id ∈ engine.Denotes context request.subject ∧ id ∉ engine.Excluded context request ∧
    ∀ item ∈ request.filters, engine.Admits request context.current_time
      {row | row ∈ engine.LeadingRows context request.subject ∧ row.relatedId = some id}
      (engine.recordOf id) item}

variable {engine}

/-! ### Reading the record of a filter -/

variable (engine) in
/-- A record that reads as the one its identity stands for. -/
def Plain (entity : Entity) : Prop :=
  engine.IsView entity ∨ engine.graph.entity? entity.id = none ∧ entity = ⟨entity.id, []⟩

theorem plain_of_load {id : String} {record : Entity} (h : engine.load ⟨id, []⟩ = .ok record) :
    engine.Plain record := by
  rcases load_eq_ok h with hstored | ⟨hnone, rfl⟩
  · exact .inl (isView_of_entity? hstored)
  · exact .inr ⟨hnone, rfl⟩

theorem entityType_recordOf (entity : Entity) :
    entityType (engine.recordOf entity.id) = entityType entity := by
  unfold recordOf
  cases hrecord : engine.graph.entity? entity.id with
  | none => rfl
  | some record => rw [Option.getD_some, entityType, entityType, entity?_id hrecord]

/-- The field that a filter reads is the one that the identity stands for. -/
theorem Plain.read {entity record : Entity} {physical : String} (h : engine.Plain entity)
    (hread : (if entity.has physical then pure entity else engine.load entity) = .ok record) :
    record.get physical = (engine.recordOf entity.id).get physical := by
  unfold recordOf
  rcases h with hview | ⟨hnone, hbare⟩
  · obtain ⟨stored, hstored, -⟩ := id hview
    rw [hstored, Option.getD_some]
    refine (@IsView.tested _ _ _ _ hview hstored [physical] ?_).2.2 physical List.mem_cons_self
    rw [← hread]
    simp
  · rw [hnone, Option.getD_none, ← hbare]
    split at hread
    case isTrue => rw [Except.ok.inj hread]
    case isFalse =>
      rcases load_eq_ok hread with hstored | ⟨-, rfl⟩
      · rw [hnone] at hstored
        cases hstored
      · rfl

/-- What is read of a record and then used. -/
theorem read_eq_ok {α : Type} {c : Prop} [Decidable c] {x y : Except Raised Entity}
    {next : Entity → Except Raised α} {a : α}
    (h : (if c then x >>= next else y >>= next) = .ok a) :
    ∃ record, (if c then x else y) = .ok record ∧ next record = .ok a := by
  split
  case isTrue hc => exact Except.bind_eq_ok.1 (by rwa [if_pos hc] at h)
  case isFalse hc => exact Except.bind_eq_ok.1 (by rwa [if_neg hc] at h)

variable (engine) in
/-- The roles of the rows, where the predicate's roles are stored. -/
def rolesOf (request : SemanticFactRequest) (definition : OntologyCollectionPredicate)
    (edges : List Edge) : List Json :=
  match engine.roleProperty request definition with
  | some physical => (edges.map fun edge => edge.get physical).filter (· ≠ .null)
  | none => []

/-- A role is recognized when it is one of the rows'. -/
theorem recognized_iff {request : SemanticFactRequest} {definition : OntologyCollectionPredicate}
    {edges : List Edge} {value : String} :
    value ∈ definition.recognized_values.filter (fun value =>
        (engine.rolesOf request definition edges).contains (.str value)) ↔
      engine.Recognized request definition {row | row ∈ edges} value := by
  rw [List.mem_filter, List.contains_iff_mem]
  unfold Recognized rolesOf
  refine and_congr_right fun _ => ?_
  cases hrole : engine.roleProperty request definition with
  | none => simp
  | some physical =>
      rw [List.mem_filter, List.mem_map]
      constructor
      · rintro ⟨⟨row, hrow, hvalue⟩, -⟩
        exact ⟨physical, rfl, row, hrow, hvalue⟩
      · rintro ⟨physical', hphysical, row, hrow, hvalue⟩
        cases hphysical
        exact ⟨⟨row, hrow, hvalue⟩, decide_eq_true (by simp)⟩

/-! ### Filters that decide -/

section Filters

variable {request : SemanticFactRequest} {item : SemanticFilter} {entity : Entity} {now : Clock}
  {passed : Bool}

/-- An entity filter that decides tells whether the record passes it. -/
theorem entityFilterMatches_eq_ok (hplain : engine.Plain entity)
    (h : engine.entityFilterMatches item entity now = .ok passed) :
    passed = true ↔ ∃ physical, engine.schema.physicalProperty
        (entityType (engine.recordOf entity.id)) (item.property.getD "") = some physical ∧
      engine.ValuePasses now item ((engine.recordOf entity.id).get physical) := by
  unfold entityFilterMatches at h
  rw [entityType_recordOf]
  dsimp only at h
  split at h
  case h_1 => cases h
  case h_2 physical hphysical =>
    obtain ⟨record, hread, h⟩ := read_eq_ok h
    have hpasses : passed = true ↔ engine.ValuePasses now item
        ((engine.recordOf entity.id).get physical) := by
      rw [← hplain.read hread]
      split at h
      case isTrue => cases h
      case isFalse hvalue =>
        obtain ⟨-, -, h⟩ := Except.bind_eq_ok.1 h
        split at h
        case h_1 matched hmatched =>
          rw [ValuePasses, hmatched, h]
          exact ⟨fun hpassed => ⟨hvalue, congrArg _ hpassed⟩, fun hpasses =>
            Except.ok.inj hpasses.2⟩
        case h_2 hmatched =>
          rw [ValuePasses, hmatched, Except.ok.inj h]
          exact ⟨fun hpassed => ⟨hvalue, hpassed⟩, fun hpasses => hpasses.2⟩
    rw [hpasses]
    constructor
    · exact fun hvalue => ⟨physical, hphysical, hvalue⟩
    · rintro ⟨physical', hphysical', hvalue⟩
      rw [hphysical] at hphysical'
      cases hphysical'
      exact hvalue

/-- A relation filter that decides tells whether one of the rows passes it. -/
theorem relationFilterMatches_eq_ok {edges : List Edge}
    (h : engine.relationFilterMatches request item edges = .ok passed) :
    passed = true ↔ ∃ row ∈ edges, engine.RowPasses request item row := by
  unfold relationFilterMatches at h
  split at h
  case h_2 => cases h
  case h_1 relation property hrelation hproperty =>
    split at h
    case h_1 => cases h
    case h_2 physical hphysical =>
      have hpasses : ∀ row, engine.RowPasses request item row ↔ row.get physical ≠ .null ∧
          evaluatePredicate item.operator (row.get physical) item.value = true := by
        intro row
        constructor
        · rintro ⟨relation', property', physical', hrelation', hproperty', hphysical', hrow⟩
          rw [hrelation] at hrelation'
          cases hrelation'
          rw [hproperty] at hproperty'
          cases hproperty'
          rw [hphysical] at hphysical'
          cases hphysical'
          exact hrow
        · exact fun hrow => ⟨relation, property, physical, hrelation, hproperty, hphysical, hrow⟩
      simp only [hpasses]
      split at h
      case h_1 => cases h
      case h_2 values =>
        obtain ⟨-, -, h⟩ := Except.bind_eq_ok.1 h
        rw [← Except.ok.inj h, List.any_eq_true]
        constructor
        · rintro ⟨value, hvalue, hmatch⟩
          obtain ⟨hmem, hnull⟩ := List.mem_filter.1 hvalue
          obtain ⟨row, hrow, rfl⟩ := List.mem_map.1 hmem
          exact ⟨row, hrow, of_decide_eq_true hnull, hmatch⟩
        · rintro ⟨row, hrow, hnull, hmatch⟩
          exact ⟨_, List.mem_filter.2 ⟨List.mem_map_of_mem hrow, decide_eq_true hnull⟩, hmatch⟩

/-- A fallback that decides tells whether the record passes it. -/
theorem fallbackMatches_eq_ok {predicate : String} {fallback : OntologyPredicateFallback}
    (hplain : engine.Plain entity)
    (h : engine.fallbackMatches predicate fallback entity now = .ok passed) :
    passed = true ↔
      engine.FallbackPasses predicate fallback now (engine.recordOf entity.id) := by
  unfold fallbackMatches at h
  unfold FallbackPasses
  rw [entityType_recordOf]
  split at h
  case h_1 => cases h
  case h_2 physical hphysical =>
    obtain ⟨record, hread, h⟩ := read_eq_ok h
    dsimp only at h
    rw [hplain.read hread] at h
    split at h
    case isTrue => cases h
    case isFalse hvalue =>
    obtain ⟨-, -, h⟩ := Except.bind_eq_ok.1 h
    split at h
    case h_1 => cases h
    case h_2 policy hpolicy =>
    constructor
    · rintro rfl
      exact ⟨physical, policy, hphysical, hvalue, hpolicy, h⟩
    · rintro ⟨physical', policy', hphysical', -, hpolicy', htrue⟩
      rw [hphysical] at hphysical'
      cases hphysical'
      rw [hpolicy] at hpolicy'
      cases hpolicy'
      rw [h] at htrue
      exact Except.ok.inj htrue

/-- A collection predicate that decides tells whether the record satisfies it. -/
theorem semanticPredicateMatches_eq_ok {predicate : String} {edges : List Edge}
    (hplain : engine.Plain entity)
    (h : engine.semanticPredicateMatches request predicate entity edges now = .ok passed) :
    passed = true ↔ engine.PredicatePasses request predicate now {row | row ∈ edges}
      (engine.recordOf entity.id) := by
  unfold semanticPredicateMatches at h
  unfold PredicatePasses
  split at h
  case h_1 => cases h
  case h_2 definition hdefinition =>
    dsimp only at h
    obtain ⟨-, -, h⟩ := Except.bind_eq_ok.1 h
    have hone : ∀ {P : OntologyCollectionPredicate → Prop},
        (∃ other, engine.schema.ontology.collection_predicates.lookup predicate = some other ∧
          P other) ↔ P definition := by
      intro P
      rw [hdefinition]
      constructor
      · rintro ⟨other, hother, hp⟩
        cases hother
        exact hp
      · exact fun hp => ⟨definition, rfl, hp⟩
    rw [hone]
    split at h
    case h_1 hnone =>
      have hempty : ¬ ∃ value, engine.Recognized request definition {row | row ∈ edges} value := by
        rintro ⟨value, hvalue⟩
        have hmem := List.mem_map_of_mem (f := definition.matching_values.contains)
          (recognized_iff.2 hvalue)
        cases Eq.mp (congrArg (definition.matching_values.contains value ∈ ·) hnone) hmem
      rw [fallbackMatches_eq_ok hplain h]
      exact ⟨fun hpass => .inr ⟨hempty, hpass⟩, fun hpass =>
        hpass.elim (fun hsome => absurd hsome.1 hempty) fun hnone => hnone.2⟩
    case h_2 decision decisions hsome =>
      split at h
      case isFalse => cases h
      case isTrue hsame =>
        obtain rfl := Except.ok.inj h
        have hdecide : ∀ value, engine.Recognized request definition {row | row ∈ edges} value →
            definition.matching_values.contains value = decision := by
          intro value hvalue
          have hmem := List.mem_map_of_mem (f := definition.matching_values.contains)
            (recognized_iff.2 hvalue)
          rcases List.mem_cons.1 (Eq.mp (congrArg (definition.matching_values.contains value ∈ ·)
            hsome) hmem) with hhead | htail
          · exact hhead
          · exact beq_iff_eq.1 (List.all_eq_true.1 hsame _ htail)
        obtain ⟨value, hvalue, hhead⟩ : ∃ value,
            engine.Recognized request definition {row | row ∈ edges} value ∧
              definition.matching_values.contains value = decision := by
          obtain ⟨value, hvalue, hhead⟩ := List.mem_map.1
            (Eq.mpr (congrArg (decision ∈ ·) hsome) List.mem_cons_self)
          exact ⟨value, recognized_iff.1 hvalue, hhead⟩
        constructor
        · rintro rfl
          exact .inl ⟨⟨value, hvalue⟩, fun other hother =>
            List.contains_iff_mem.1 (hdecide other hother)⟩
        · rintro (⟨-, hall⟩ | ⟨hnone, -⟩)
          · rw [← hhead]
            exact List.contains_iff_mem.2 (hall value hvalue)
          · exact absurd ⟨value, hvalue⟩ hnone

/-- **A filter that decides tells whether it admits the record.** -/
theorem requestFilterMatches_eq_ok {edges : List Edge} (hplain : engine.Plain entity)
    (h : engine.requestFilterMatches request entity edges now item = .ok passed) :
    passed = true ↔
      engine.Admits request now {row | row ∈ edges} (engine.recordOf entity.id) item := by
  unfold requestFilterMatches at h
  split at h
  case h_1 hpredicate =>
    rw [Admits, hpredicate]
    exact semanticPredicateMatches_eq_ok hplain h
  case h_2 hnone hsource =>
    rw [Admits, hnone, hsource]
    exact relationFilterMatches_eq_ok h
  case h_3 hnone hsource =>
    rw [Admits, hnone, hsource]
    exact entityFilterMatches_eq_ok hplain h

/-- All filters together, tested in order up to the first that fails. -/
theorem filters_eq_ok {edges : List Edge} {filters : List SemanticFilter}
    (hplain : engine.Plain entity)
    (h : filters.allM (engine.requestFilterMatches request entity edges now) = .ok passed) :
    passed = true ↔ ∀ item ∈ filters,
      engine.Admits request now {row | row ∈ edges} (engine.recordOf entity.id) item := by
  cases passed with
  | true =>
      exact ⟨fun _ item hitem => (requestFilterMatches_eq_ok hplain
        (Except.allM_eq_ok_true.1 h item hitem)).1 rfl, fun _ => rfl⟩
  | false =>
      refine ⟨fun hfalse => (by cases hfalse), fun hall => ?_⟩
      obtain ⟨item, hitem, hfail⟩ := Except.allM_eq_ok_false h
      exact (requestFilterMatches_eq_ok hplain hfail).2 (hall item hitem)

end Filters

/-! ### Running a count or a selection -/

section Run

variable {request : SemanticFactRequest} {context : AgentRequestContext}

/-- Without a projection of each record, all filters test all edges of a record. -/
theorem filterCollection_scalar (hscalar : request.projection = .scalar) (entities : List Entity)
    (records : List Edge) (now : Clock) :
    engine.filterCollection request entities records now
      = engine.partitioned request records now request.filters entities := by
  unfold filterCollection partitioned
  rw [hscalar]
  rfl

/-- Without a projection of each record, the filters decide for every record or all fails. -/
theorem filterRecord_scalar (hscalar : request.projection = .scalar) {records : List Edge}
    {now : Clock} {filters : List SemanticFilter} {entity : Entity} {outcome : Bool ⊕ FactRow}
    (h : engine.filterRecord request records now filters entity = .ok outcome) :
    ∃ passed, outcome = .inl passed ∧ filters.allM (engine.requestFilterMatches request entity
      (edgesTo records entity) now) = .ok passed := by
  unfold filterRecord at h
  split at h
  case h_1 passed hpassed => exact ⟨passed, (Except.ok.inj h).symm, hpassed⟩
  case h_2 =>
    rw [hscalar, if_neg (by decide)] at h
    cases h
  case h_3 => cases h

/-- The records that the filters keep. -/
theorem partitioned_scalar (hscalar : request.projection = .scalar) {records edges : List Edge}
    {now : Clock} {filters : List SemanticFilter} {entities kept : List Entity}
    {failures : List FactRow}
    (h : engine.partitioned request records now filters entities = .ok (kept, edges, failures)) :
    kept = entities.filter (fun entity =>
        engine.filtersOutcome request records now filters entity = .ok true) ∧
      edges = records.filter (fun edge => edge.relatedId.any (kept.map Entity.id).contains) ∧
      ∀ entity ∈ entities, ∃ passed,
        engine.filtersOutcome request records now filters entity = .ok passed := by
  obtain ⟨outcomes, houtcomes, h⟩ := Except.bind_eq_ok.1 h
  obtain ⟨hkept, hrest⟩ := Prod.mk.inj (Except.ok.inj h)
  have hedges := (Prod.mk.inj hrest).1
  have hall : List.Forall₂ (fun entity outcome => ∃ passed, outcome = (entity, .inl passed) ∧
      engine.filtersOutcome request records now filters entity = .ok passed)
      entities outcomes := by
    refine (Except.mapM_eq_ok.1 houtcomes).imp fun entity outcome hok => ?_
    obtain ⟨tested, htested, hok⟩ := Except.bind_eq_ok.1 hok
    obtain ⟨passed, rfl, hpassed⟩ := filterRecord_scalar hscalar htested
    exact ⟨passed, (Except.ok.inj hok).symm, hpassed⟩
  refine ⟨?_, by rw [← hedges, ← hkept], fun entity hentity => ?_⟩
  · refine hkept.symm.trans (Eq.symm ?_)
    rw [← List.forall₂_eq_eq_eq]
    refine List.forall₂_filter_filterMap hall fun entity outcome hone => ?_
    obtain ⟨passed, rfl, hpassed⟩ := hone
    cases passed <;> simp [hpassed]
  · obtain ⟨outcome, -, passed, -, hpassed⟩ := List.exists_of_forall₂_left hall hentity
    exact ⟨passed, hpassed⟩

/-- The records that a computation without a projection is about. -/
theorem compute_scalar (hscalar : request.projection = .scalar) {grounded : Grounded}
    {result : FactResult} {entities : List Entity}
    (h : engine.compute request context grounded = .ok (result, entities)) :
    entities = grounded.included.filter (fun entity => engine.filtersOutcome request
        grounded.includedEdges context.current_time request.filters entity = .ok true) ∧
      (∀ entity ∈ grounded.included, ∃ passed, engine.filtersOutcome request
        grounded.includedEdges context.current_time request.filters entity = .ok passed) ∧
      ∃ records, engine.operate request entities grounded.other.entities records context
          grounded.relationships = .ok result ∧
        (request.filters ≠ [] → records = grounded.includedEdges.filter fun edge =>
          edge.relatedId.any (entities.map Entity.id).contains) := by
  unfold compute at h
  rw [hscalar] at h
  dsimp only at h
  split at h
  case isTrue hnone =>
    obtain ⟨⟨kept, records, failures⟩, hkept, h⟩ := Except.bind_eq_ok.1 h
    obtain ⟨value, hvalue, h⟩ := Except.bind_eq_ok.1 h
    cases hkept
    cases h
    have hpasses : ∀ entity, engine.filtersOutcome request grounded.includedEdges
        context.current_time request.filters entity = .ok true := by
      intro entity
      rw [filtersOutcome, List.isEmpty_iff.1 hnone]
      rfl
    refine ⟨?_, fun entity _ => ⟨true, hpasses entity⟩, _, hvalue, fun hfilters =>
      absurd (List.isEmpty_iff.1 hnone) hfilters⟩
    rw [List.filter_eq_self.2 fun entity _ => decide_eq_true (hpasses entity)]
    rfl
  case isFalse =>
    obtain ⟨⟨kept, records, failures⟩, hkept, h⟩ := Except.bind_eq_ok.1 h
    obtain ⟨value, hvalue, h⟩ := Except.bind_eq_ok.1 h
    cases h
    rw [filterCollection_scalar hscalar] at hkept
    obtain ⟨rfl, rfl, hdecided⟩ := partitioned_scalar hscalar hkept
    exact ⟨rfl, hdecided, _, hvalue, fun _ => rfl⟩

/-- The shape of a request that is accepted. -/
theorem shapeValid_of_accepted (haccepted : engine.schema.validates request = true) :
    SemanticSchemaRegistry.shapeValid request = true := by
  obtain ⟨_, hcode⟩ := Except.exists_of_isOk haccepted
  unfold SemanticSchemaRegistry.validationCode at hcode
  iterate 8 obtain ⟨_, -, hcode⟩ := Except.bind_eq_ok.1 hcode
  obtain ⟨_, hshape, -⟩ := Except.bind_eq_ok.1 hcode
  exact SemanticSchemaRegistry.require_eq_ok.1 hshape

/-- A count or a selection of records has one value. -/
theorem scalar_of_accepted (haccepted : engine.schema.validates request = true)
    (hoperation : request.operation = .count ∨
      request.operation = .select ∧ request.property = none) :
    request.projection = .scalar := by
  have hvalid := shapeValid_of_accepted haccepted
  unfold SemanticSchemaRegistry.shapeValid at hvalid
  simp only [Bool.and_eq_true] at hvalid
  have hprojection := hvalid.1.1.2
  cases hprojected : request.projection with
  | scalar => rfl
  | each =>
      rw [hprojected] at hprojection
      rcases hoperation with hcount | ⟨-, hproperty⟩
      · simp [hcount, FactOperation.definition] at hprojection
      · simp [hproperty] at hprojection

/-- A request that is accepted filters only records that read as the stored ones. -/
theorem filters_plain (haccepted : engine.schema.validates request = true)
    (hfilters : request.filters ≠ []) {grounded : Grounded}
    (hground : engine.ground request context = .ok (.inr grounded)) :
    ∀ entity ∈ grounded.subject.entities, engine.Plain entity := by
  intro entity hentity
  rcases (resolve_denotes (engine.ground_subject hground)).2.2.1 entity hentity with
    hview | ⟨hpath, roots, hroots, hroot⟩
  · exact .inl hview
  have hvalid := shapeValid_of_accepted haccepted
  unfold SemanticSchemaRegistry.shapeValid at hvalid
  simp only [Bool.and_eq_true, Bool.or_eq_true, List.isEmpty_iff, hfilters, hpath, false_or,
    List.isEmpty_nil, Bool.not_true, Bool.false_eq_true] at hvalid
  have hcollection : request.subject.cardinality = .collection := by
    simpa using hvalid.1.1.1.1.1.2
  -- only a discourse reference may be a collection without a path
  have hkind : request.subject.kind = .discourse := by
    by_contra hkind
    have hsubject := request.subject.validated
    unfold ReferenceFields.valid at hsubject
    simp [hkind, hcollection] at hsubject
  unfold rootEntities at hroots
  rw [hkind] at hroots
  obtain ⟨-, -, -, hloaded⟩ := discourseEntities_eq_ok hroots
  obtain ⟨id, hload⟩ := hloaded entity hroot
  exact plain_of_load hload

/-- The rows that the filters of a record see are those that lead to it. -/
theorem edgesTo_included {grounded : Grounded}
    (hground : engine.ground request context = .ok (.inr grounded)) {entity : Entity}
    (hentity : entity ∈ grounded.included) :
    {row | row ∈ edgesTo grounded.includedEdges entity} =
      {row | row ∈ engine.LeadingRows context request.subject ∧
        row.relatedId = some entity.id} := by
  have hrows := (resolve_denotes (engine.ground_subject hground)).2.1
  ext row
  rw [← hrows]
  change row ∈ edgesTo grounded.includedEdges entity ↔
    row ∈ grounded.subject.relationship_records ∧ row.relatedId = some entity.id
  rw [mem_edgesTo, Grounded.includedEdges, List.mem_filter]
  refine and_congr_left fun hto => and_iff_left_of_imp fun _ => ?_
  rw [hto]
  exact (List.mem_filter.1 hentity).2

/-- **The records that the filters keep are the answers**, each once. -/
theorem kept_answers (haccepted : engine.schema.validates request = true)
    {grounded : Grounded} (hground : engine.ground request context = .ok (.inr grounded))
    (hdecided : ∀ entity ∈ grounded.included, ∃ passed, engine.filtersOutcome request
      grounded.includedEdges context.current_time request.filters entity = .ok passed) :
    idSet (grounded.included.filter (fun entity => engine.filtersOutcome request
        grounded.includedEdges context.current_time request.filters entity = .ok true))
      = engine.Answers context request ∧
    (DistinctFoci context request.subject → ((grounded.included.filter (fun entity => engine.filtersOutcome request
        grounded.includedEdges context.current_time request.filters entity = .ok true)).map
      Entity.id).Nodup) := by
  obtain ⟨hdenotes, -, -, hnodup⟩ := resolve_denotes (engine.ground_subject hground)
  have hexcluded := ground_excluded hground
  have hmem : ∀ id, id ∈ grounded.excluded ↔ id ∈ engine.Excluded context request :=
    fun id => by rw [← hexcluded]; rfl
  have hadmits : ∀ entity ∈ grounded.included, engine.filtersOutcome request
      grounded.includedEdges context.current_time request.filters entity = .ok true ↔
        ∀ item ∈ request.filters, engine.Admits request context.current_time
          {row | row ∈ engine.LeadingRows context request.subject ∧
            row.relatedId = some entity.id} (engine.recordOf entity.id) item := by
    intro entity hentity
    have hfound := (List.mem_filter.1 hentity).1
    obtain ⟨passed, hpassed⟩ := hdecided entity hentity
    rw [hpassed, Except.ok.injEq]
    cases hfilters : request.filters with
    | nil =>
        rw [hfilters] at hpassed
        obtain rfl : true = passed := Except.ok.inj hpassed
        exact ⟨fun _ item hitem => (by cases hitem), fun _ => rfl⟩
    | cons first rest =>
        have hplain := filters_plain haccepted (by rw [hfilters]; exact List.cons_ne_nil _ _)
          hground entity hfound
        rw [← hfilters, ← edgesTo_included hground hentity]
        exact filters_eq_ok hplain hpassed
  refine ⟨?_, ?_⟩
  · ext id
    change id ∈ List.map Entity.id _ ↔ _
    rw [List.mem_map]
    constructor
    · rintro ⟨entity, hentity, rfl⟩
      obtain ⟨hincluded, hpassed⟩ := List.mem_filter.1 hentity
      obtain ⟨hfound, hkept⟩ := List.mem_filter.1 hincluded
      refine ⟨hdenotes ▸ List.mem_map_of_mem hfound, ?_,
        (hadmits entity hincluded).1 (of_decide_eq_true hpassed)⟩
      rw [← hmem]
      simpa using hkept
    · rintro ⟨hdenoted, hnot, hall⟩
      rw [← hdenotes] at hdenoted
      obtain ⟨entity, hentity, rfl⟩ := List.mem_map.1 hdenoted
      rw [← hmem] at hnot
      have hincluded : entity ∈ grounded.included :=
        List.mem_filter.2 ⟨hentity, by simpa using hnot⟩
      exact ⟨entity, List.mem_filter.2 ⟨hincluded, decide_eq_true ((hadmits entity hincluded).2
        hall)⟩, rfl⟩
  · exact fun hfoci => (hnodup hfoci).sublist
      ((List.filter_sublist.trans List.filter_sublist).map _)

/-- A reference that does not resolve has no value. -/
theorem resolve_failed {reference : SemanticReference} {evidence : List FactRelationshipEvidence}
    {allow_empty expect_many : Bool} {failed : FactResult}
    (h : engine.resolve reference context evidence allow_empty expect_many = .ok (.inl failed)) :
    failed.value = .json .null := by
  unfold resolve at h
  obtain ⟨outcome, houtcome, h⟩ := Except.bind_eq_ok.1 h
  cases hresolved : engine.resolved reference context evidence allow_empty expect_many with
  | error raised =>
      rw [hresolved] at houtcome
      cases raised with
      | error error => cases houtcome
      | failure failure =>
          cases houtcome
          cases h
          rfl
  | ok value =>
      rw [hresolved] at houtcome
      obtain rfl := Except.ok.inj houtcome
      obtain rfl : value = .inl failed := Except.ok.inj h
      unfold resolved at hresolved
      obtain ⟨⟨reached, remembered⟩, -, hresolved⟩ := Except.bind_eq_ok.1 hresolved
      dsimp only at hresolved
      split at hresolved
      case isTrue =>
        obtain ⟨candidates, -, hresolved⟩ := Except.bind_eq_ok.1 hresolved
        cases hresolved
        rfl
      case isFalse => cases hresolved

/-- An excluded reference that does not resolve has no value. -/
theorem resolveExcluded_failed {references : List SemanticReference}
    {before after : List FactRelationshipEvidence} {resolutions : List Resolution}
    {failed : FactResult}
    (h : engine.resolveExcluded context before references = .ok (resolutions, after))
    (hfirst : resolutions.findSome? Sum.getLeft? = some failed) : failed.value = .json .null := by
  obtain ⟨resolution, hmem, hleft⟩ := List.exists_of_findSome?_eq_some hfirst
  obtain ⟨reference, -, evidence, hok⟩ :=
    List.exists_of_forall₂_right (resolveExcluded_eq_ok h) hmem
  cases resolution with
  | inl other =>
      cases hleft
      exact resolve_failed hok
  | inr found => cases hleft

/-- A request whose references do not all resolve has no value. -/
theorem ground_failed {failed : FactResult}
    (h : engine.ground request context = .ok (.inl failed)) : failed.value = .json .null := by
  unfold ground at h
  obtain ⟨subject, hsubject, h⟩ := Except.bind_eq_ok.1 h
  dsimp only at h
  obtain ⟨other, hother, h⟩ : ∃ other : Resolution,
      (∀ failed, other = .inl failed → failed.value = .json .null) ∧
      ∃ evidence resolutions after,
        engine.resolveExcluded context evidence request.exclude = .ok (resolutions, after) ∧
        (resolutions.findSome? Sum.getLeft? = some failed ∨ other = .inl failed ∨
          subject = .inl failed) := by
    split at h
    all_goals
      obtain ⟨other, hother, h⟩ := Except.bind_eq_ok.1 h
      obtain ⟨⟨resolutions, after⟩, hexcluded, h⟩ := Except.bind_eq_ok.1 h
      refine ⟨other, fun failed hfailed => ?_, _, resolutions, after, hexcluded, ?_⟩
      · subst hfailed
        first
          | exact resolve_failed hother
          | cases hother
      · dsimp only at h
        split at h
        case h_1 => exact .inr (.inr (by cases h; rfl))
        case h_2 => exact .inr (.inl (by cases h; rfl))
        case h_3 =>
          cases h
          exact .inl (by assumption)
        case h_4 => cases h
  obtain ⟨evidence, resolutions, after, hexcluded, hfirst | rfl | rfl⟩ := h
  · exact resolveExcluded_failed hexcluded hfirst
  · exact hother failed rfl
  · exact resolve_failed hsubject

/-- A run that returns a value has computed it. -/
theorem execute_eq_ok {result : FactResult} (h : engine.execute request context = .ok result)
    (hvalue : result.value ≠ .json .null) :
    engine.schema.validates request = true ∧ ∃ grounded computed entities,
      engine.ground request context = .ok (.inr grounded) ∧
      engine.compute request context grounded = .ok (computed, entities) ∧
      result = finished request grounded computed entities := by
  unfold execute at h
  split at h
  case isTrue =>
    cases h
    exact absurd rfl hvalue
  case isFalse haccepted =>
    obtain ⟨outcome, hground, h⟩ := Except.bind_eq_ok.1 h
    cases outcome with
    | inl failed =>
        cases h
        exact absurd (ground_failed hground) hvalue
    | inr grounded =>
        obtain ⟨outcome, hcompute, h⟩ := Except.bind_eq_ok.1 h
        cases hrun : engine.compute request context grounded with
        | error raised =>
            rw [hrun] at hcompute
            cases raised with
            | error error => cases hcompute
            | failure failure =>
                cases hcompute
                cases h
                exact absurd rfl hvalue
        | ok value =>
            rw [hrun] at hcompute
            cases hcompute
            obtain ⟨computed, entities⟩ := value
            exact ⟨by simpa using haccepted, grounded, computed, entities, hground, hrun,
              (Except.ok.inj h).symm⟩

/-- The focus and the content groups of a result do not change its value. -/
theorem finished_value (grounded : Grounded) (result : FactResult) (entities : List Entity) :
    (finished request grounded result entities).value = result.value ∧
      (finished request grounded result entities).status = result.status := by
  unfold finished
  split
  case isTrue => exact ⟨rfl, rfl⟩
  case isFalse => exact ⟨rfl, rfl⟩

/-- What the value of an operation reports: how many records there are, or which. -/
inductive Reports (answers : Set String) : FactOperation → FactValue → Prop
  | count (finite : answers.Finite) : Reports answers .count (.json (.int answers.ncard))
  | select {entities : List Entity} (nodup : (entities.map Entity.id).Nodup)
      (exact : idSet entities = answers) : Reports answers .select (.entities entities)

/-- A count that returns a value. -/
theorem execute_count (hcount : request.operation = .count) {result : FactResult}
    (h : engine.execute request context = .ok result) (hvalue : result.value ≠ .json .null) :
    ∃ kept : List Entity, result.status = .found ∧ result.value = .json (.int kept.length) ∧
      idSet kept = engine.Answers context request ∧
      (DistinctFoci context request.subject → (kept.map Entity.id).Nodup) := by
  obtain ⟨haccepted, grounded, computed, kept, hground, hcompute, rfl⟩ := execute_eq_ok h hvalue
  obtain ⟨hkept, hdecided, records, hoperate, -⟩ :=
    compute_scalar (scalar_of_accepted haccepted (.inl hcount)) hcompute
  obtain ⟨hset, hnodup⟩ := kept_answers haccepted hground hdecided
  rw [← hkept] at hset hnodup
  refine ⟨kept, ?_, ?_, hset, hnodup⟩
  all_goals
    unfold operate at hoperate
    rw [hcount] at hoperate
    cases hoperate
  · exact (finished_value _ _ _).2
  · exact (finished_value _ _ _).1

/-- A selection of records that returns a value. -/
theorem execute_select (hselect : request.operation = .select) (hproperty : request.property = none)
    {result : FactResult} (h : engine.execute request context = .ok result)
    (hvalue : result.value ≠ .json .null) :
    ∃ grounded visible, engine.ground request context = .ok (.inr grounded) ∧
      result.status = .found ∧ result.value = .entities visible ∧
      result.content_groups = visibleGroups grounded.subject.content_groups visible ∧
      idSet visible = engine.Answers context request ∧
      (DistinctFoci context request.subject → (visible.map Entity.id).Nodup) := by
  obtain ⟨haccepted, grounded, computed, kept, hground, hcompute, rfl⟩ := execute_eq_ok h hvalue
  obtain ⟨hkept, hdecided, records, hoperate, -⟩ :=
    compute_scalar (scalar_of_accepted haccepted (.inr ⟨hselect, hproperty⟩)) hcompute
  obtain ⟨hset, hnodup⟩ := kept_answers haccepted hground hdecided
  rw [← hkept] at hset hnodup
  unfold operate at hoperate
  rw [hselect, hproperty] at hoperate
  obtain ⟨visible, hvisible, hoperate⟩ := Except.bind_eq_ok.1 hoperate
  have hids : visible.map Entity.id = kept.map Entity.id := by
    refine List.forall₂_eq_eq_eq ▸ ?_
    rw [List.forall₂_map_left_iff, List.forall₂_map_right_iff]
    exact (Except.mapM_eq_ok.1 hvisible).flip.imp fun _ _ hload => engine.loadIfUnnamed_id hload
  cases hoperate
  refine ⟨grounded, visible, hground, (finished_value _ _ _).2, (finished_value _ _ _).1, rfl, ?_,
    hids ▸ hnodup⟩
  rw [← hset, idSet, idSet, hids]

/-- **A count returns the number of the records asked for, and a selection returns them**, each
once: whenever a run returns a value. -/
theorem execute_answers (hoperation : request.operation = .count ∨
      request.operation = .select ∧ request.property = none)
    (hfoci : DistinctFoci context request.subject) {result : FactResult}
    (h : engine.execute request context = .ok result) (hvalue : result.value ≠ .json .null) :
    result.status = .found ∧
      Reports (engine.Answers context request) request.operation result.value := by
  rcases hoperation with hcount | ⟨hselect, hproperty⟩
  · obtain ⟨kept, hfound, hnumber, hset, hnodup⟩ := execute_count hcount h hvalue
    have hfinset : engine.Answers context request
        = ((kept.map Entity.id).toFinset : Set String) := by
      rw [← hset]
      ext id
      simp [idSet]
    have hcard : (engine.Answers context request).ncard = kept.length := by
      rw [hfinset, Set.ncard_coe_finset, List.toFinset_card_of_nodup (hnodup hfoci),
        List.length_map]
    rw [hcount, hnumber, ← hcard]
    exact ⟨hfound, .count (hfinset ▸ Finset.finite_toSet _)⟩
  · obtain ⟨-, visible, -, hfound, hentities, -, hset, hnodup⟩ :=
      execute_select hselect hproperty h hvalue
    rw [hselect, hentities]
    exact ⟨hfound, .select (hnodup hfoci) hset⟩

end Run

/-! ### Counting residents -/

/-- Women. -/
def isFemale : SemanticFilter where
  property := some "gender"
  operator := .eq
  value := .scalar (.str "female")
  validated := by decide +kernel

/-- "How many women live here?" -/
def womenCount : SemanticFactRequest where
  operation := .count
  subject := residents
  filters := [isFemale]
  exclude_bound := noExclude_bound
  amount_bound := noAmount_bound

theorem womenCount_reports : ∃ result,
    residenceEngine.execute womenCount homeRequest = .ok result ∧
    result.value = .json (.int 1) ∧ result.status = .found ∧
    Reports (residenceEngine.Answers homeRequest womenCount) womenCount.operation
      result.value := by
  have hvalue : (residenceEngine.execute womenCount homeRequest).toOption.map
      (fun result => result.value) = some (.json (.int 1)) := by
    decide +kernel
  have hfoci : DistinctFoci homeRequest womenCount.subject := by
    intro _ ids hids
    have hnone : discourseIds homeRequest womenCount.subject = none := by decide +kernel
    rw [hnone] at hids
    cases hids
  cases hrun : residenceEngine.execute womenCount homeRequest with
  | error error =>
      rw [hrun] at hvalue
      cases hvalue
  | ok result =>
      rw [hrun] at hvalue
      have hone : result.value = .json (.int 1) := Option.some.inj hvalue
      exact ⟨result, rfl, hone, residenceEngine.execute_answers (.inl rfl) hfoci hrun
        (by rw [hone]; decide)⟩

end HouseholdFactEngine
end HomeCortex
