/-
# Disjoint predicates

`_semantic_predicate_matches` decides a collection predicate by the roles on the final
edges of a record, or else by a comparison with a stored date.  The ontology checks of
predicates that are declared disjoint that they share no matching role and that their
fallbacks are not the same.  This leaves three ways in which both match one record; none
is left when each recognises the other's roles and the comparisons exclude each other.
-/

import HomeCortex.Facts.Projection

namespace HomeCortex

/-! ### Comparisons that exclude each other -/

theorem compareExact_swap (a b : ExactNumber) :
    compareExact b a = (compareExact a b).map Ordering.swap := by
  cases a with
  | finite m e =>
      cases b with
      | finite n f =>
          show some (compare (n * 2 ^ (f - min f e).toNat) (m * 2 ^ (e - min f e).toNat))
            = some (compare (m * 2 ^ (e - min e f).toNat) (n * 2 ^ (f - min e f).toNat)).swap
          rw [min_comm f e]
          exact congrArg some Std.OrientedCmp.eq_swap
      | infinity negative => cases negative <;> rfl
      | nan => rfl
  | infinity negative =>
      cases b with
      | finite => cases negative <;> rfl
      | infinity other => cases negative <;> cases other <;> rfl
      | nan => rfl
  | nan => cases b <;> rfl

/-- The order of a value and a number, both ways. -/
theorem pyOrder_swap {value policy : Json} (hpolicy : OntologyFields.isPolicyValue policy = true)
    {order : Option Ordering} (h : value.pyOrder policy = .ok order) :
    policy.pyOrder value = .ok (order.map Ordering.swap) := by
  have hnumber : ∀ {left : Json}, Json.pyOrder.numOrder left policy = .ok order →
      Json.pyOrder.numOrder policy left = .ok (order.map Ordering.swap) := by
    intro left h
    unfold Json.pyOrder.numOrder at h ⊢
    cases hleft : exactNumber? left with
    | none =>
        rw [hleft] at h
        cases h
    | some a =>
        cases hright : exactNumber? policy with
        | none =>
            rw [hleft, hright] at h
            cases h
        | some b =>
            rw [hleft, hright] at h
            obtain rfl := Except.ok.inj h
            exact congrArg Except.ok (compareExact_swap a b)
  cases policy with
  | int n =>
      cases value with
      | bool | int | float =>
          simp only [Json.pyOrder] at h ⊢
          exact hnumber h
      | null | str | arr | obj => cases h
  | float x =>
      cases value with
      | bool | int | float =>
          simp only [Json.pyOrder] at h ⊢
          exact hnumber h
      | null | str | arr | obj => cases h
  | null | bool | str | arr | obj => cases hpolicy

/-- A value below a number is not at least it. -/
theorem not_lt_and_gte {value policy : Json}
    (hpolicy : OntologyFields.isPolicyValue policy = true)
    (hlt : evaluatePredicate .lt value (.scalar policy) = true) :
    evaluatePredicate .gte value (.scalar policy) = false := by
  have hlt : (value.pyLt policy).toOption.getD false = true := hlt
  show (policy.pyLe value).toOption.getD false = false
  unfold Json.pyLt at hlt
  unfold Json.pyLe
  cases horder : value.pyOrder policy with
  | error error =>
      rw [horder] at hlt
      cases hlt
  | ok order =>
      rw [horder] at hlt
      have hbelow : (order == some .lt) = true := hlt
      obtain rfl := beq_iff_eq.1 hbelow
      rw [pyOrder_swap hpolicy horder]
      rfl

namespace HouseholdFactEngine

variable (engine : HouseholdFactEngine) (request : SemanticFactRequest)

/-! ### The evidence of a predicate -/

/-- The roles that the edges have for a predicate. -/
def storedRoles (definition : OntologyCollectionPredicate) (edges : List Edge) : List Json :=
  match engine.roleProperty request definition with
  | some physical => (edges.map fun edge => edge.get physical).filter (· ≠ .null)
  | none => []

/-- Those that the predicate recognises. -/
def recognizedRoles (definition : OntologyCollectionPredicate) (edges : List Edge) :
    List String :=
  definition.recognized_values.filter fun value =>
    (engine.storedRoles request definition edges).contains (.str value)

/-- Every stored role keeps the contract of its property. -/
def RolesKept (definition : OntologyCollectionPredicate) (edges : List Edge) : Prop :=
  (engine.storedRoles request definition edges).forM
    (engine.schema.validateFilterValue definition.relation_property) = .ok ()

/-- Roles decide for the predicate: it recognises some, and matches all of them. -/
structure ByRole (definition : OntologyCollectionPredicate) (edges : List Edge) : Prop where
  kept : engine.RolesKept request definition edges
  recognized : engine.recognizedRoles request definition edges ≠ []
  matching : ∀ role ∈ engine.recognizedRoles request definition edges,
    role ∈ definition.matching_values

/-- The value of a record that a fallback reads: it is there and keeps its contract. -/
def ReadsValue (fallback : OntologyPredicateFallback) (entity : Entity) (raw : Json) : Prop :=
  ∃ physical record,
    engine.schema.physicalProperty (entityType entity) fallback.property = some physical ∧
    (if entity.has physical then pure entity else engine.load entity) = Except.ok record ∧
    raw = record.get physical ∧ raw ≠ .null ∧
    engine.schema.validateFilterValue fallback.property raw = .ok ()

/-- A date decides for the predicate: it recognises no role, and what its fallback derives
from the stored value compares as it asks. -/
structure ByDate (definition : OntologyCollectionPredicate) (entity : Entity)
    (edges : List Edge) (now : Clock) : Prop where
  kept : engine.RolesKept request definition edges
  unrecognized : engine.recognizedRoles request definition edges = []
  compares : ∃ raw policy derived, engine.ReadsValue definition.fallback entity raw ∧
    engine.schema.ontology.policy_values.lookup definition.fallback.value_from_policy
      = some policy ∧
    derivedDate raw now definition.fallback.transform definition.fallback.mode
      definition.fallback.require_past = .ok derived ∧
    evaluatePredicate definition.fallback.operator derived (.scalar policy) = true

/-- The comparison of a fallback with a record. -/
def comparesRecord (predicate : String) (fallback : OntologyPredicateFallback) (now : Clock)
    (physical : String) (record : Entity) : Except Raised Bool :=
  if record.get physical = .null then
    raiseFailure { status := .filterInputMissing, missing := [predicate, fallback.property] }
  else
    engine.schema.validateFilterValue fallback.property (record.get physical) >>= fun _ =>
      match engine.schema.ontology.policy_values.lookup fallback.value_from_policy with
      | none => throw (.error (.key fallback.value_from_policy))
      | some policy =>
          derivedDateMatches (record.get physical) now fallback.transform fallback.mode
            fallback.operator (.scalar policy) fallback.require_past
            [predicate, fallback.property]

variable {engine request}

theorem fallbackMatches_eq {predicate : String} {fallback : OntologyPredicateFallback}
    {entity : Entity} {now : Clock} :
    engine.fallbackMatches predicate fallback entity now =
      match engine.schema.physicalProperty (entityType entity) fallback.property with
      | none => raiseFailure { status := .filterUnsupported, missing := [predicate] }
      | some physical => (if entity.has physical then pure entity else engine.load entity)
          >>= engine.comparesRecord predicate fallback now physical := by
  unfold fallbackMatches
  cases engine.schema.physicalProperty (entityType entity) fallback.property with
  | none => rfl
  | some physical =>
      cases hhas : entity.has physical with
      | true => simp only [hhas, if_true]; rfl
      | false => simp only [hhas, if_false, Bool.false_eq_true]; rfl

/-- When a fallback matches. -/
theorem fallbackMatches_iff {predicate : String} {fallback : OntologyPredicateFallback}
    {entity : Entity} {now : Clock} :
    engine.fallbackMatches predicate fallback entity now = .ok true ↔
      ∃ raw policy derived, engine.ReadsValue fallback entity raw ∧
        engine.schema.ontology.policy_values.lookup fallback.value_from_policy = some policy ∧
        derivedDate raw now fallback.transform fallback.mode fallback.require_past
          = .ok derived ∧
        evaluatePredicate fallback.operator derived (.scalar policy) = true := by
  rw [fallbackMatches_eq]
  constructor
  · intro h
    split at h
    case h_1 => cases h
    case h_2 physical hphysical =>
      obtain ⟨record, hrecord, h⟩ := Except.bind_eq_ok.1 h
      unfold comparesRecord at h
      split at h
      case isTrue => cases h
      case isFalse hnull =>
        obtain ⟨_, hvalid, h⟩ := Except.bind_eq_ok.1 h
        split at h
        case h_1 => cases h
        case h_2 policy hpolicy =>
          unfold derivedDateMatches at h
          split at h
          case h_1 derived hderived =>
            exact ⟨_, policy, derived, ⟨physical, record, hphysical, hrecord, rfl, hnull, hvalid⟩,
              hpolicy, hderived, Except.ok.inj h⟩
          case h_2 => split at h <;> cases h
  · rintro ⟨raw, policy, derived, ⟨physical, record, hphysical, hrecord, rfl, hnull, hvalid⟩,
      hpolicy, hderived, hmatches⟩
    simp only [hphysical]
    refine Except.bind_eq_ok.2 ⟨record, hrecord, ?_⟩
    unfold comparesRecord
    rw [if_neg hnull]
    refine Except.bind_eq_ok.2 ⟨(), hvalid, ?_⟩
    simp only [hpolicy, derivedDateMatches, hderived, hmatches]

/-- What the decisions of the recognized roles come to; without one the fallback decides. -/
def roleDecision (predicate : String) (fallback : Except Raised Bool) :
    List Bool → Except Raised Bool
  | [] => fallback
  | decision :: decisions =>
      if decisions.all (· == decision) then .ok decision
      else raiseFailure { status := .filterInputMissing, missing := [predicate] }

/-- **When a predicate matches**: its roles or its date decide so. -/
theorem semanticPredicateMatches_iff {predicate : String}
    {definition : OntologyCollectionPredicate}
    (hdefinition : engine.schema.ontology.collection_predicates.lookup predicate
      = some definition) {entity : Entity} {edges : List Edge} {now : Clock} :
    engine.semanticPredicateMatches request predicate entity edges now = .ok true ↔
      engine.ByRole request definition edges ∨
        engine.ByDate request definition entity edges now := by
  have hcode : engine.semanticPredicateMatches request predicate entity edges now =
      ((engine.storedRoles request definition edges).forM
        (engine.schema.validateFilterValue definition.relation_property)) >>= fun _ =>
          roleDecision predicate (engine.fallbackMatches predicate definition.fallback entity now)
            ((engine.recognizedRoles request definition edges).map
              definition.matching_values.contains) := by
    unfold semanticPredicateMatches
    simp only [hdefinition]
    rfl
  rw [hcode, Except.bind_eq_ok]
  cases hroles : engine.recognizedRoles request definition edges with
  | nil =>
      constructor
      · rintro ⟨⟨⟩, hkept, h⟩
        exact .inr ⟨hkept, hroles, fallbackMatches_iff.1 h⟩
      · rintro (⟨-, hsome, -⟩ | ⟨hkept, -, h⟩)
        · exact absurd hroles hsome
        · exact ⟨(), hkept, fallbackMatches_iff.2 h⟩
  | cons role roles =>
      have hall : ((if (roles.map definition.matching_values.contains).all
            (· == definition.matching_values.contains role) then
              Except.ok (definition.matching_values.contains role)
            else raiseFailure { status := .filterInputMissing, missing := [predicate] })
          = .ok true) ↔
          ∀ other ∈ role :: roles, other ∈ definition.matching_values := by
        rw [List.forall_mem_cons]
        split
        case isTrue hsame =>
          simp only [List.all_map, List.all_eq_true, Function.comp_apply, beq_iff_eq] at hsame
          constructor
          · intro h
            have hrole : definition.matching_values.contains role = true := Except.ok.inj h
            refine ⟨by simpa using hrole, fun other hother => ?_⟩
            have hother := hsame other hother
            rw [hrole] at hother
            simpa using hother
          · rintro ⟨hrole, -⟩
            exact congrArg Except.ok (by simpa using hrole)
        case isFalse hmixed =>
          refine iff_of_false (fun h => (by cases h)) (fun ⟨hrole, hothers⟩ => hmixed ?_)
          rw [List.all_map, List.all_eq_true]
          intro other hother
          simp [hrole, hothers other hother]
      constructor
      · rintro ⟨⟨⟩, hkept, h⟩
        exact .inl ⟨hkept, by rw [hroles]; simp, by rw [hroles]; exact hall.1 h⟩
      · rintro (⟨hkept, -, hmatching⟩ | ⟨-, hnone, -⟩)
        · rw [hroles] at hmatching
          exact ⟨(), hkept, hall.2 hmatching⟩
        · rw [hroles] at hnone
          cases hnone

/-! ### Overlaps -/

variable (engine request) in
/-- The evidence decides for both predicates. -/
inductive Overlap (definition counterpart : OntologyCollectionPredicate) (entity : Entity)
    (edges : List Edge) (now : Clock) : Prop
  | roles (h : engine.ByRole request definition edges)
      (h' : engine.ByRole request counterpart edges)
  | roleAndDate (h : engine.ByRole request definition edges)
      (h' : engine.ByDate request counterpart entity edges now)
  | dateAndRole (h : engine.ByDate request definition entity edges now)
      (h' : engine.ByRole request counterpart edges)
  | dates (h : engine.ByDate request definition entity edges now)
      (h' : engine.ByDate request counterpart entity edges now)

variable (engine) in
/-- Two predicates read the same evidence: each recognises the matching roles of the
other, and their fallbacks compare the same derived value in ways that exclude each
other. -/
structure Separate (definition counterpart : OntologyCollectionPredicate) : Prop where
  relation_property : definition.relation_property = counterpart.relation_property
  recognizes : counterpart.matching_values ⊆ definition.recognized_values
  recognized : definition.matching_values ⊆ counterpart.recognized_values
  property : definition.fallback.property = counterpart.fallback.property
  transform : definition.fallback.transform = counterpart.fallback.transform
  mode : definition.fallback.mode = counterpart.fallback.mode
  require_past : definition.fallback.require_past = counterpart.fallback.require_past
  excludes : ∀ derived policy policy',
    engine.schema.ontology.policy_values.lookup definition.fallback.value_from_policy
      = some policy →
    engine.schema.ontology.policy_values.lookup counterpart.fallback.value_from_policy
      = some policy' →
    evaluatePredicate definition.fallback.operator derived (.scalar policy) = true →
    evaluatePredicate counterpart.fallback.operator derived (.scalar policy') = false

variable {definition counterpart : OntologyCollectionPredicate} {entity : Entity}
  {edges : List Edge} {now : Clock}

theorem mem_recognizedRoles {role : String} :
    role ∈ engine.recognizedRoles request definition edges ↔
      role ∈ definition.recognized_values ∧
        (engine.storedRoles request definition edges).contains (.str role) = true :=
  List.mem_filter

theorem storedRoles_congr
    (h : definition.relation_property = counterpart.relation_property) :
    engine.storedRoles request definition edges
      = engine.storedRoles request counterpart edges := by
  unfold storedRoles roleProperty
  rw [h]

/-- A role that decides for a predicate is recognised by one that recognises all its
matching roles. -/
theorem ByRole.recognized_by (h : engine.ByRole request definition edges)
    (hproperty : definition.relation_property = counterpart.relation_property)
    (hrecognized : definition.matching_values ⊆ counterpart.recognized_values) :
    ∃ role ∈ engine.recognizedRoles request counterpart edges,
      role ∈ definition.matching_values := by
  obtain ⟨role, hrole⟩ := List.exists_mem_of_ne_nil _ h.recognized
  have hmatching := h.matching role hrole
  refine ⟨role, ?_, hmatching⟩
  rw [mem_recognizedRoles, ← storedRoles_congr hproperty]
  exact ⟨hrecognized hmatching, (mem_recognizedRoles.1 hrole).2⟩

/-- A fallback reads one value. -/
theorem ReadsValue.unique {fallback fallback' : OntologyPredicateFallback} {raw raw' : Json}
    (h : engine.ReadsValue fallback entity raw) (h' : engine.ReadsValue fallback' entity raw')
    (hproperty : fallback.property = fallback'.property) : raw = raw' := by
  obtain ⟨physical, record, hphysical, hrecord, rfl, -⟩ := h
  obtain ⟨physical', record', hphysical', hrecord', rfl, -⟩ := h'
  rw [← hproperty, hphysical] at hphysical'
  obtain rfl := Option.some.inj hphysical'
  rw [hrecord] at hrecord'
  obtain rfl := Except.ok.inj hrecord'
  rfl

/-- What the ontology checks of disjoint predicates: they share no matching role. -/
theorem matching_disjoint {predicate other : String}
    (hdefinition : engine.schema.ontology.collection_predicates.lookup predicate
      = some definition)
    (hcounterpart : engine.schema.ontology.collection_predicates.lookup other
      = some counterpart)
    (hdisjoint : other ∈ definition.disjoint_with)
    (hproperty : definition.relation_property = counterpart.relation_property) {role : String}
    (hrole : role ∈ definition.matching_values) : role ∉ counterpart.matching_values := by
  intro hother
  have hvalid := (SemanticOntology.predicate_valid hdefinition).2.2
  have hother' := List.all_eq_true.1 hvalid other hdisjoint
  simp only [hcounterpart, Option.any_some, Bool.and_eq_true, Bool.not_eq_true',
    Bool.and_eq_false_iff, beq_eq_false_iff_ne, ne_eq] at hother'
  rcases hother'.2.1.2 with hdiffers | hnone
  · exact hdiffers hproperty
  · have hshared : definition.matching_values.any counterpart.matching_values.contains = true :=
      List.any_eq_true.2 ⟨role, hrole, by simpa using hother⟩
    rw [hnone] at hshared
    cases hshared

/-- Separate predicates never overlap. -/
theorem Separate.not_overlap {predicate other : String}
    (h : engine.Separate definition counterpart)
    (hdefinition : engine.schema.ontology.collection_predicates.lookup predicate
      = some definition)
    (hcounterpart : engine.schema.ontology.collection_predicates.lookup other
      = some counterpart)
    (hdisjoint : other ∈ definition.disjoint_with) :
    ¬engine.Overlap request definition counterpart entity edges now := by
  intro hoverlap
  cases hoverlap with
  | roles hrole hrole' =>
      obtain ⟨role, hrecognized, hmatching⟩ :=
        hrole.recognized_by h.relation_property h.recognized
      exact matching_disjoint hdefinition hcounterpart hdisjoint h.relation_property hmatching
        (hrole'.matching role hrecognized)
  | roleAndDate hrole hdate =>
      obtain ⟨role, hrecognized, -⟩ := hrole.recognized_by h.relation_property h.recognized
      rw [hdate.unrecognized] at hrecognized
      cases hrecognized
  | dateAndRole hdate hrole =>
      obtain ⟨role, hrecognized, -⟩ := hrole.recognized_by h.relation_property.symm h.recognizes
      rw [hdate.unrecognized] at hrecognized
      cases hrecognized
  | dates hdate hdate' =>
      obtain ⟨raw, policy, derived, hraw, hpolicy, hderived, hcompares⟩ := hdate.compares
      obtain ⟨raw', policy', derived', hraw', hpolicy', hderived', hcompares'⟩ := hdate'.compares
      obtain rfl := hraw.unique hraw' h.property
      rw [← h.transform, ← h.mode, ← h.require_past, hderived] at hderived'
      obtain rfl := Except.ok.inj hderived'
      rw [h.excludes derived policy policy' hpolicy hpolicy' hcompares] at hcompares'
      cases hcompares'

/-- **Disjoint predicates are disjoint exactly where the evidence does not overlap.**  For
predicates that the ontology declares disjoint, any record, edges and clock: they do not
both match if and only if it is not the case that each is decided by its roles or by its
date.  Where they read the same evidence and exclude each other, they never do. -/
theorem disjoint_iff (engine : HouseholdFactEngine) (request : SemanticFactRequest)
    (predicate other : String) (definition counterpart : OntologyCollectionPredicate)
    (hdefinition : engine.schema.ontology.collection_predicates.lookup predicate
      = some definition)
    (hcounterpart : engine.schema.ontology.collection_predicates.lookup other
      = some counterpart)
    (hdisjoint : other ∈ definition.disjoint_with) (entity : Entity) (edges : List Edge)
    (now : Clock) :
    (¬(engine.semanticPredicateMatches request predicate entity edges now = .ok true ∧
        engine.semanticPredicateMatches request other entity edges now = .ok true) ↔
      ¬engine.Overlap request definition counterpart entity edges now) ∧
    (engine.Separate definition counterpart →
      ¬engine.Overlap request definition counterpart entity edges now) := by
  refine ⟨not_congr ?_, fun h => h.not_overlap hdefinition hcounterpart hdisjoint⟩
  rw [semanticPredicateMatches_iff hdefinition, semanticPredicateMatches_iff hcounterpart]
  constructor
  · rintro ⟨hrole | hdate, hrole' | hdate'⟩
    · exact .roles hrole hrole'
    · exact .roleAndDate hrole hdate'
    · exact .dateAndRole hdate hrole'
    · exact .dates hdate hdate'
  · intro hoverlap
    cases hoverlap with
    | roles hrole hrole' => exact ⟨.inl hrole, .inl hrole'⟩
    | roleAndDate hrole hdate => exact ⟨.inl hrole, .inr hdate⟩
    | dateAndRole hdate hrole => exact ⟨.inr hdate, .inl hrole⟩
    | dates hdate hdate' => exact ⟨.inr hdate, .inr hdate'⟩

/-! ### Adults, minors and the young -/

theorem roleType_nonempty : [PlainType.atomic .string] ≠ [] := by decide

theorem roleType_nodup : [PlainType.atomic .string].Nodup := by decide

/-- The contract of a role in the household. -/
def roleContract : PropertyContract where
  type := ⟨[.atomic .string], roleType_nonempty, roleType_nodup⟩
  entities := []
  relationships := ["member"]
  operators := [.eq]
  validated := by decide

/-- A comparison of the age with a policy. -/
def ageFallback (operator : PredicateOperator) (policy : String) : OntologyPredicateFallback where
  property := "birth_date"
  transform := .dateDifference
  mode := some .years
  require_past := true
  operator := operator
  value_from_policy := policy

/-- A predicate of persons by their role or their age. -/
def agePredicate (matching_values : List String) (operator : PredicateOperator)
    (policy : String) (disjoint_with : List String) : OntologyCollectionPredicate where
  entity_types := ["person"]
  relation_property := "household_role"
  recognized_values := ["owner", "adult_dependent", "minor_dependent"]
  matching_values := matching_values
  fallback := ageFallback operator policy
  default_scope_relation := some "member"
  disjoint_with := disjoint_with

def adult : OntologyCollectionPredicate :=
  agePredicate ["owner", "adult_dependent"] .gte "adulthood_years" ["minor", "young"]

def minor : OntologyCollectionPredicate :=
  agePredicate ["minor_dependent"] .lt "adulthood_years" ["adult"]

/-- Those under twenty. -/
def young : OntologyCollectionPredicate :=
  agePredicate ["minor_dependent"] .lt "youth_years" ["adult"]

/-- The ontology accepts the three predicates. -/
def ageOntology : SemanticOntology where
  properties := [("household_role", ⟨["household_role"], roleContract⟩),
    ("birth_date", ⟨["dob"], birthContract⟩)]
  base_relations := [("member", "has_resident")]
  policy_values := [("adulthood_years", .int 18), ("youth_years", .int 20)]
  collection_predicates := [("adult", adult), ("minor", minor), ("young", young)]
  validated := by decide +kernel

/-- The engine over the household of Ada and Ben, with these predicates. -/
def ageEngine : HouseholdFactEngine :=
  { residenceEngine with schema := { residenceEngine.schema with ontology := ageOntology } }

/-- A day on which Ada is nineteen. -/
def nineteenth : Clock :=
  ⟨⟨⟨1999, 6, 1, by decide, by decide⟩, 0⟩, false, Zone.utc⟩

theorem adult_minor_separate : ageEngine.Separate adult minor where
  relation_property := rfl
  recognizes := by decide
  recognized := by decide
  property := rfl
  transform := rfl
  mode := rfl
  require_past := rfl
  excludes := by
    intro derived policy policy' hpolicy hpolicy' hcompares
    obtain rfl := Option.some.inj (hpolicy.symm.trans hpolicy')
    obtain rfl := Option.some.inj hpolicy
    have hgte : evaluatePredicate .gte derived (.scalar (.int 18)) = true := hcompares
    rw [← Bool.not_eq_true]
    intro hlt
    rw [not_lt_and_gte (by decide) hlt] at hgte
    cases hgte

/-- Adults are no minors, in any household and at any time. -/
theorem adult_minor_disjoint : ageEngine.Separate adult minor ∧
    (¬(ageEngine.semanticPredicateMatches (moveIns []) "adult" ⟨"person:ada", []⟩ [] nineteenth
        = .ok true ∧
      ageEngine.semanticPredicateMatches (moveIns []) "minor" ⟨"person:ada", []⟩ [] nineteenth
        = .ok true) ↔
      ¬ageEngine.Overlap (moveIns []) adult minor ⟨"person:ada", []⟩ [] nineteenth) ∧
    ¬ageEngine.Overlap (moveIns []) adult minor ⟨"person:ada", []⟩ [] nineteenth := by
  obtain ⟨hiff, hseparate⟩ := ageEngine.disjoint_iff (moveIns []) "adult" "minor" adult minor rfl
    rfl (by decide) ⟨"person:ada", []⟩ [] nineteenth
  exact ⟨adult_minor_separate, hiff, hseparate adult_minor_separate⟩

/-- Ada is an adult and young, although the ontology declares these disjoint. -/
theorem adult_young_overlap : "young" ∈ adult.disjoint_with ∧ "adult" ∈ young.disjoint_with ∧
    ageEngine.semanticPredicateMatches (moveIns []) "adult" ⟨"person:ada", []⟩ [] nineteenth
      = .ok true ∧
    ageEngine.semanticPredicateMatches (moveIns []) "young" ⟨"person:ada", []⟩ [] nineteenth
      = .ok true := by
  refine ⟨by decide, by decide, ?_, ?_⟩ <;> decide +kernel

end HouseholdFactEngine

end HomeCortex
