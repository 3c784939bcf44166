/-
# Previews and commits

`mutate` decides first what a call is to do and looks at the mode then: a preview gives
the report of what it would do, a commit runs the transaction and gives the same report.
`mutate_withMode` makes that explicit: one `Plan`, two modes.

`Agree` is what is promised of the two: the preview leaves the store, proposes iff the
commit reaches its transaction, and both report the same, which is true of the store after
an applied commit (`Reported`): which nodes and edges were created, deleted or changed, and
what the item, its location and its edges are now.  `agree_iff_reported` leaves only the
last part open.
-/

import HomeCortex.Mutation.Effects
import HomeCortex.Persistence.Changes

namespace HomeCortex

/-! ### Requests in both modes -/

/-- A request in another mode. -/
def WriteRequest.withMode (mode : WriteMode) : WriteRequest → WriteRequest
  | .create item properties location _ => .create item properties location mode
  | .updateLocation item location _ => .updateLocation item location mode
  | .updateAttributes item properties _ => .updateAttributes item properties mode
  | .delete item _ => .delete item mode

/-- A request whose properties are a `dict`. -/
def WriteRequest.KeysUnique : WriteRequest → Prop
  | .updateAttributes _ properties _ => (properties.map Prod.fst).Nodup
  | _ => True

/-- `_database_rejected` of a result. -/
def MutationResult.RejectedByTransaction (result : MutationResult) : Prop :=
  result.status = .rejected ∧ result.reason = some "TRANSACTION_FAILED"

/-- What a call that passes its checks is to do: its transaction, and the report of it. -/
structure Plan where
  statements : List Statement
  report : MutationResult

namespace ItemWritingService

open Except

variable (service : ItemWritingService)

/-- The report of a creation. -/
def createReport (item : RecordID) (properties : ItemProperties) (location : RecordID) :
    MutationResult :=
  { status := .applied, entity_id := canonicalRecordId item, affected_nodes := 1,
    affected_edges := 1,
    resulting_state := some (.obj [
      ("entity", .obj (("id", .str (canonicalRecordId item)) :: createdProperties properties)),
      ("location", .str (canonicalRecordId location))]) }

/-- The report of a move. -/
def updateLocationReport (item location : RecordID) (previous : Option String) : MutationResult :=
  { status := .applied, entity_id := canonicalRecordId item,
    affected_edges := if previous.isSome then 2 else 1,
    previous_state := some (locationState previous),
    resulting_state := some (locationState (canonicalRecordId location)) }

/-- The report of a deletion. -/
def deleteReport (item : RecordID) (incident : List (String × Nat)) : MutationResult :=
  { status := .applied, entity_id := canonicalRecordId item, affected_nodes := 1,
    affected_edges := (incident.map Prod.snd).sum,
    previous_state := some (.obj [("entity", .obj [("id", .str (canonicalRecordId item))]),
      ("incident_relationships", .obj (incident.map fun entry => (entry.1, .int entry.2)))]),
    resulting_state := some (.obj [("entity", .null), ("incident_relationships", .obj [])]) }

/-- The checks of a request in either mode: the result that ends the call, or its plan. -/
def plan (faults : Faults) (store : Store) :
    WriteRequest → Except PyError (MutationResult ⊕ Plan)
  | .create item properties location _ => do
      match ← service.createRefusal faults store item.id properties location.id with
      | some result => return .inl result
      | none => return .inr ⟨service.createTransaction item.id properties location.id,
          createReport item.id properties location.id⟩
  | .updateLocation item location _ => do
      match ← service.updateLocationRefusal faults store item.id location.id with
      | .inl result => return .inl result
      | .inr previous => return .inr ⟨service.updateLocationTransaction item.id location.id previous,
          updateLocationReport item.id location.id previous⟩
  | .updateAttributes item properties _ => do
      match ← service.updateAttributesRefusal faults store item.id properties with
      | .inl result => return .inl result
      | .inr stored => return .inr ⟨
          updateAttributesTransaction item.id (Surreal.row item.id stored) properties,
          attributesResult item.id stored properties .applied 1⟩
  | .delete item _ => do
      match ← read faults 0 (store.lookup item.id) with
      | none => return .inl { status := .notFound, entity_id := canonicalRecordId item.id,
                              reason := some "ITEM_NOT_FOUND" }
      | some _ =>
          let incident ← read faults 1 (service.incidentEdges store item.id)
          return .inr ⟨deleteTransaction item.id (incident.map Prod.fst),
            deleteReport item.id incident⟩

variable {service} {request : WriteRequest} {faults : Faults} {store : Store}

/-- **One plan, two modes.** -/
theorem mutate_withMode (request : WriteRequest) (faults : Faults) (mode : WriteMode)
    (store : Store) :
    service.mutate ⟨request.withMode mode, faults⟩ store =
      match service.plan faults store request with
      | .error _ => (storageRejected request.item.id, store)
      | .ok (.inl result) => (result, store)
      | .ok (.inr plan) => match mode with
          | .preview => ({ plan.report with status := .proposed }, store)
          | .commit => service.commit faults store plan.statements plan.report
              (databaseRejected request.item.id plan.report.previous_state) := by
  cases request with
  | create item properties location =>
      simp only [WriteRequest.withMode, mutate, perform, create, plan]
      cases service.createRefusal faults store item.id properties location.id with
      | error => rfl
      | ok refused => cases refused <;> cases mode <;> rfl
  | updateLocation item location =>
      simp only [WriteRequest.withMode, mutate, perform, updateLocation, plan]
      cases service.updateLocationRefusal faults store item.id location.id with
      | error => rfl
      | ok outcome => cases outcome <;> cases mode <;> rfl
  | updateAttributes item properties =>
      simp only [WriteRequest.withMode, mutate, perform, updateAttributes, plan]
      cases service.updateAttributesRefusal faults store item.id properties with
      | error => rfl
      | ok outcome => cases outcome <;> cases mode <;> rfl
  | delete item =>
      simp only [WriteRequest.withMode, mutate, perform, delete, plan]
      cases read faults 0 (store.lookup item.id) with
      | error => rfl
      | ok stored =>
          cases stored with
          | none => rfl
          | some stored =>
              simp only [bind, Except.bind]
              cases read faults 1 (service.incidentEdges store item.id) with
              | error => rfl
              | ok incident => cases mode <;> rfl

/-! ### Refusals -/

/-- A result that ends a call before its transaction. -/
structure Refuses (result : MutationResult) : Prop where
  not_applied : result.status ≠ .applied
  not_proposed : result.status ≠ .proposed
  reason : result.reason ≠ some "TRANSACTION_FAILED"

theorem refuses_rejected {item : RecordID} {error : MutationError}
    (h : error.code ≠ "TRANSACTION_FAILED") : Refuses (rejected item error) :=
  ⟨by simp [rejected], by simp [rejected], by simpa [rejected] using h⟩

theorem propertyError_code {schema : EntityTypeSchema} {properties : Fields} {error : MutationError}
    (h : propertyError schema properties = .ok (some error)) : error.code ≠ "TRANSACTION_FAILED" := by
  induction properties with
  | nil => simp [propertyError] at h
  | cons field properties ih =>
      obtain ⟨name, value⟩ := field
      rw [propertyError.eq_def] at h
      simp only at h
      generalize (name == "item_type" && _) = blank at h
      cases blank with
      | true =>
          obtain rfl := Option.some.inj (pure_eq_ok.mp h)
          simp
      | false =>
          obtain ⟨matched, -, h⟩ := bind_eq_ok.mp h
          cases matched with
          | true => exact ih h
          | false =>
              obtain rfl := Option.some.inj (pure_eq_ok.mp h)
              simp

theorem validateItemProperties_code {properties : Fields} {require_name : Bool}
    {error : MutationError}
    (h : service.validateItemProperties properties require_name = .ok (some error)) :
    error.code ≠ "TRANSACTION_FAILED" := by
  rw [validateItemProperties] at h
  split at h
  case h_1 =>
    obtain rfl := Option.some.inj (pure_eq_ok.mp h)
    decide
  case h_2 schema _ =>
    split at h
    case isTrue =>
      obtain rfl := Option.some.inj (pure_eq_ok.mp h)
      decide
    case isFalse =>
      obtain ⟨found, hfound, h⟩ := bind_eq_ok.mp h
      cases found with
      | some found =>
          obtain rfl := Option.some.inj (pure_eq_ok.mp h)
          exact propertyError_code hfound
      | none =>
          simp only at h
          split at h
          case isTrue =>
            obtain rfl := Option.some.inj (pure_eq_ok.mp h)
            decide
          case isFalse => cases pure_eq_ok.mp h

theorem validateLocation_code {index : Nat} {location : RecordID} {error : MutationError}
    (h : service.validateLocation faults index store location = .ok (some error)) :
    error.code ≠ "TRANSACTION_FAILED" := by
  rw [validateLocation] at h
  split at h
  case h_1 =>
    obtain rfl := Option.some.inj (pure_eq_ok.mp h)
    decide
  case h_2 => exact absurd h throw_ne_ok.mp
  case h_3 =>
    obtain ⟨record, -, h⟩ := bind_eq_ok.mp h
    split at h
    case isTrue =>
      obtain rfl := Option.some.inj (pure_eq_ok.mp h)
      decide
    case isFalse => cases pure_eq_ok.mp h

theorem refuses_of_createRefusal {item location : RecordID} {properties : ItemProperties}
    {result : MutationResult}
    (h : service.createRefusal faults store item properties location = .ok (some result)) :
    Refuses result := by
  rw [createRefusal] at h
  obtain ⟨error, hvalid, h⟩ := bind_eq_ok.mp h
  cases error with
  | some error =>
      obtain rfl := Option.some.inj (pure_eq_ok.mp h)
      exact refuses_rejected (validateItemProperties_code hvalid)
  | none =>
      obtain ⟨existing, -, h⟩ := bind_eq_ok.mp h
      split at h
      case isTrue =>
        obtain rfl := Option.some.inj (pure_eq_ok.mp h)
        exact ⟨by simp, by simp, by simp⟩
      case isFalse =>
        obtain ⟨locations, -, h⟩ := bind_eq_ok.mp h
        split at h
        case isTrue =>
          obtain rfl := Option.some.inj (pure_eq_ok.mp h)
          exact ⟨by simp, by simp, by simp⟩
        case isFalse =>
          obtain ⟨refused, hlocation, h⟩ := bind_eq_ok.mp h
          cases refused with
          | none => cases pure_eq_ok.mp h
          | some error =>
              obtain rfl := Option.some.inj (pure_eq_ok.mp h)
              exact refuses_rejected (validateLocation_code hlocation)

theorem updateLocationRefusal_cases {item location : RecordID} {outcome : MutationResult ⊕ Option String}
    (h : service.updateLocationRefusal faults store item location = .ok outcome) :
    (∃ result, outcome = .inl result ∧ Refuses result) ∨
      outcome = .inr (service.currentLocations store item).head? ∧
        (service.currentLocations store item).length ≤ 1 ∧
        (service.currentLocations store item).head? ≠ some (canonicalRecordId location) := by
  rw [updateLocationRefusal] at h
  obtain ⟨existing, hexisting, h⟩ := bind_eq_ok.mp h
  split at h
  case isTrue =>
    obtain rfl := pure_eq_ok.mp h
    exact .inl ⟨_, rfl, by simp, by simp, by simp⟩
  case isFalse =>
    obtain ⟨error, hvalid, h⟩ := bind_eq_ok.mp h
    cases error with
    | some error =>
        obtain rfl := pure_eq_ok.mp h
        exact .inl ⟨_, rfl, refuses_rejected (validateLocation_code hvalid)⟩
    | none =>
        obtain ⟨current, hcurrent, h⟩ := bind_eq_ok.mp h
        obtain rfl := (read_eq_ok.mp hcurrent).2
        split at h
        case isTrue =>
          obtain rfl := pure_eq_ok.mp h
          exact .inl ⟨_, rfl, by simp, by simp, by simp⟩
        case isFalse hlength =>
          split at h
          case isTrue =>
            obtain rfl := pure_eq_ok.mp h
            exact .inl ⟨_, rfl, by simp, by simp, by simp⟩
          case isFalse hsame =>
            obtain rfl := pure_eq_ok.mp h
            exact .inr ⟨rfl, Nat.not_lt.mp hlength, hsame⟩

theorem updateAttributesRefusal_cases {item : RecordID} {properties : Fields}
    {outcome : MutationResult ⊕ StoredRecord}
    (h : service.updateAttributesRefusal faults store item properties = .ok outcome) :
    (∃ result, outcome = .inl result ∧ Refuses result) ∨
      ∃ stored, outcome = .inr stored ∧ store.lookup item = some stored ∧
        Json.pyEq (.obj (previousProperties item stored properties)) (.obj properties) = false := by
  rw [updateAttributesRefusal] at h
  obtain ⟨existing, hexisting, h⟩ := bind_eq_ok.mp h
  obtain rfl := (read_eq_ok.mp hexisting).2
  cases hstored : store.lookup item with
  | none =>
      rw [hstored] at h
      obtain rfl := pure_eq_ok.mp h
      exact .inl ⟨_, rfl, by simp, by simp, by simp⟩
  | some stored =>
      simp only [hstored] at h
      split at h
      case isTrue =>
        obtain rfl := pure_eq_ok.mp h
        exact .inl ⟨_, rfl, refuses_rejected (by simp)⟩
      case isFalse =>
        obtain ⟨error, hvalid, h⟩ := bind_eq_ok.mp h
        cases error with
        | some error =>
            obtain rfl := pure_eq_ok.mp h
            exact .inl ⟨_, rfl, refuses_rejected (validateItemProperties_code hvalid)⟩
        | none =>
            simp only at h
            split at h
            case isTrue =>
              obtain rfl := pure_eq_ok.mp h
              exact .inl ⟨_, rfl, by simp [attributesResult], by simp [attributesResult],
                by simp [attributesResult]⟩
            case isFalse hdiffers =>
              obtain rfl := pure_eq_ok.mp h
              exact .inr ⟨stored, rfl, rfl, by simpa using hdiffers⟩

/-- A plan that ends early refuses; any other is to be reported as applied. -/
theorem plan_cases {outcome : MutationResult ⊕ Plan}
    (h : service.plan faults store request = .ok outcome) :
    (∃ result, outcome = .inl result ∧ Refuses result) ∨
      ∃ plan, outcome = .inr plan ∧ plan.report.status = .applied := by
  cases request with
  | create item properties location =>
      obtain ⟨refused, hrefused, h⟩ := bind_eq_ok.mp h
      cases refused with
      | some result =>
          obtain rfl := pure_eq_ok.mp h
          exact .inl ⟨_, rfl, refuses_of_createRefusal hrefused⟩
      | none =>
          obtain rfl := pure_eq_ok.mp h
          exact .inr ⟨_, rfl, rfl⟩
  | updateLocation item location =>
      obtain ⟨refused, hrefused, h⟩ := bind_eq_ok.mp h
      rcases updateLocationRefusal_cases hrefused with ⟨result, rfl, hresult⟩ | ⟨rfl, -⟩
      · obtain rfl := pure_eq_ok.mp h
        exact .inl ⟨_, rfl, hresult⟩
      · obtain rfl := pure_eq_ok.mp h
        exact .inr ⟨_, rfl, rfl⟩
  | updateAttributes item properties =>
      obtain ⟨refused, hrefused, h⟩ := bind_eq_ok.mp h
      rcases updateAttributesRefusal_cases hrefused with ⟨result, rfl, hresult⟩ | ⟨stored, rfl, -⟩
      · obtain rfl := pure_eq_ok.mp h
        exact .inl ⟨_, rfl, hresult⟩
      · obtain rfl := pure_eq_ok.mp h
        exact .inr ⟨_, rfl, rfl⟩
  | delete item =>
      obtain ⟨existing, hexisting, h⟩ := bind_eq_ok.mp h
      cases existing with
      | none =>
          obtain rfl := pure_eq_ok.mp h
          exact .inl ⟨_, rfl, by simp, by simp, by simp⟩
      | some stored =>
          obtain ⟨incident, -, h⟩ := bind_eq_ok.mp h
          obtain rfl := pure_eq_ok.mp h
          exact .inr ⟨_, rfl, rfl⟩

/-! ### What agreement is -/

/-- What the report of an applied request says of the item holds of the store. -/
def Described (service : ItemWritingService) (result : MutationResult) (after : Store) :
    WriteRequest → Prop
  | .create item _ _ _ => ∃ entity location stored,
      result.resulting_state = some (.obj [("entity", .obj entity), ("location", .str location)]) ∧
        after.lookup item.id = some stored ∧
        (∀ key, (Surreal.row item.id stored).getD key = Fields.getD entity key) ∧
        service.currentLocations after item.id = [location]
  | .updateLocation item _ _ => ∃ location,
      result.resulting_state = some (locationState (some location)) ∧
        service.currentLocations after item.id = [location]
  | .updateAttributes item _ _ => ∃ attributes stored,
      result.resulting_state = some (.obj attributes) ∧ after.lookup item.id = some stored ∧
        ∀ key ∈ attributes.map Prod.fst,
          (Surreal.row item.id stored).getD key = Fields.getD attributes key
  | .delete item _ =>
      result.resulting_state =
          some (.obj [("entity", .null), ("incident_relationships", .obj [])]) ∧
        after.lookup item.id = none ∧
        ∀ id stored, after.lookup id = some stored → stored.mentions item.id = false

/-- The report of an applied request is true of the store before and after it. -/
structure Reported (service : ItemWritingService) (request : WriteRequest) (result : MutationResult)
    (before after : Store) : Prop where
  described : Described service result after request
  nodes : result.affected_nodes = (Store.changedNodes before after).card
  edges : result.affected_edges = (Store.changedEdges before after).card

/-- **Agreement of a preview and a commit**, given what each returned and left. -/
structure Agree (service : ItemWritingService) (request : WriteRequest) (store : Store)
    (preview commit : MutationResult × Store) : Prop where
  unchanged : preview.2 = store
  proposed_iff : preview.1.status = .proposed ↔
    commit.1.status = .applied ∨ commit.1.RejectedByTransaction
  same_previous : preview.1.status = .proposed → commit.1.previous_state = preview.1.previous_state
  same_report : commit.1.status = .applied → preview.1 = { commit.1 with status := .proposed }
  same_refusal : preview.1.status ≠ .proposed → commit.1 = preview.1
  reported : commit.1.status = .applied → Reported service request commit.1 store commit.2

/-- A preview and a commit that are refused alike agree. -/
theorem agree_of_refuses {result : MutationResult} (h : Refuses result) :
    Agree service request store (result, store) (result, store) where
  unchanged := rfl
  proposed_iff := ⟨fun hproposed => absurd hproposed h.not_proposed, fun hcommit =>
    absurd hcommit (not_or.mpr ⟨h.not_applied, fun hrejected => h.reason hrejected.2⟩)⟩
  same_previous _ := rfl
  same_report happlied := absurd happlied h.not_applied
  same_refusal _ := rfl
  reported happlied := absurd happlied h.not_applied

/-- A preview agrees with a transaction that was not applied. -/
theorem agree_of_failed {report : MutationResult} {item : RecordID} {after : Store} :
    Agree service request store ({ report with status := .proposed }, store)
      (databaseRejected item report.previous_state, after) where
  unchanged := rfl
  proposed_iff := ⟨fun _ => .inr ⟨rfl, rfl⟩, fun _ => rfl⟩
  same_previous _ := rfl
  same_report happlied := by cases happlied
  same_refusal hproposed := absurd rfl hproposed
  reported happlied := by cases happlied

/-- A preview agrees with a commit that was applied, when the report is true. -/
theorem agree_of_applied {report : MutationResult} {after : Store}
    (hstatus : report.status = .applied) :
    Agree service request store ({ report with status := .proposed }, store) (report, after) ↔
      Reported service request report store after := by
  refine ⟨fun h => h.reported hstatus, fun h => ?_⟩
  exact ⟨rfl, ⟨fun _ => .inl hstatus, fun _ => rfl⟩, fun _ => rfl, fun _ => rfl,
    fun hproposed => absurd rfl hproposed, fun _ => h⟩

/-- The two modes agree, up to what is reported of an applied plan. -/
theorem agree_iff_reported :
    Agree service request store (service.mutate ⟨request.withMode .preview, faults⟩ store)
        (service.mutate ⟨request.withMode .commit, faults⟩ store) ↔
      ∀ plan after, service.plan faults store request = .ok (.inr plan) →
        faults.transaction = .none → service.engine.transact store plan.statements = some after →
          Reported service request plan.report store after := by
  rw [mutate_withMode, mutate_withMode]
  cases hplan : service.plan faults store request with
  | error error =>
      exact ⟨fun _ plan after h => (by cases h),
        fun _ => agree_of_refuses (refuses_rejected (by simp))⟩
  | ok decided =>
      rcases plan_cases hplan with ⟨result, rfl, hrefuses⟩ | ⟨plan, rfl, hstatus⟩
      · exact ⟨fun _ plan after h => (by cases h), fun _ => agree_of_refuses hrefuses⟩
      · simp only [commit]
        cases hfault : faults.transaction with
        | refused => exact ⟨fun _ _ _ _ h => (by cases h), fun _ => agree_of_failed⟩
        | answerLost => exact ⟨fun _ _ _ _ h => (by cases h), fun _ => agree_of_failed⟩
        | none =>
            cases htransact : service.engine.transact store plan.statements with
            | none =>
                refine ⟨fun _ other after h _ hother => ?_, fun _ => agree_of_failed⟩
                obtain rfl := Sum.inr.inj (Except.ok.inj h)
                rw [htransact] at hother
                cases hother
            | some target =>
                refine (agree_of_applied hstatus).trans ⟨fun h other after hother _ hafter => ?_,
                  fun h => h plan target rfl rfl htransact⟩
                obtain rfl := Sum.inr.inj (Except.ok.inj hother)
                rw [htransact] at hafter
                exact Option.some.inj hafter ▸ h

/-! ### The transaction of a plan -/

/-- The transaction of a plan goes through: its guards repeat what was checked. -/
theorem exists_transact {plan : Plan} (h : service.plan faults store request = .ok (.inr plan)) :
    ∃ after, service.engine.transact store plan.statements = some after := by
  cases request with
  | create item properties location =>
      obtain ⟨refused, hrefused, h⟩ := bind_eq_ok.mp h
      cases refused with
      | some result => cases pure_eq_ok.mp h
      | none =>
          obtain rfl := Sum.inr.inj (pure_eq_ok.mp h)
          obtain ⟨-, hmissing, -, hlocation⟩ := createRefusal_ok_none hrefused
          exact ⟨_, transact_create hmissing (validateLocation_eq_ok hlocation).2⟩
  | updateLocation item location =>
      obtain ⟨refused, hrefused, h⟩ := bind_eq_ok.mp h
      rcases updateLocationRefusal_ok hrefused with ⟨result, rfl, -⟩ | ⟨rfl, hpresent, hlocation⟩
      · cases pure_eq_ok.mp h
      · obtain rfl := Sum.inr.inj (pure_eq_ok.mp h)
        exact ⟨_, transact_updateLocation hpresent (validateLocation_eq_ok hlocation).2⟩
  | updateAttributes item properties =>
      obtain ⟨refused, hrefused, h⟩ := bind_eq_ok.mp h
      rcases updateAttributesRefusal_ok hrefused with ⟨result, rfl, -⟩ | ⟨stored, rfl, hstored, -⟩
      · cases pure_eq_ok.mp h
      · obtain rfl := Sum.inr.inj (pure_eq_ok.mp h)
        exact ⟨_, transact_updateAttributes hstored⟩
  | delete item =>
      obtain ⟨existing, hexisting, h⟩ := bind_eq_ok.mp h
      obtain ⟨-, rfl⟩ := read_eq_ok.mp hexisting
      cases hstored : store.lookup item.id with
      | none =>
          rw [hstored] at h
          cases pure_eq_ok.mp h
      | some stored =>
          rw [hstored] at h
          obtain ⟨incident, -, h⟩ := bind_eq_ok.mp h
          obtain rfl := Sum.inr.inj (pure_eq_ok.mp h)
          exact ⟨_, transact_delete (by rw [hstored]; rfl) incident⟩

/-- A plan whose transaction is not refused has its effect. -/
theorem effect_of_plan {plan : Plan} {after : Store}
    (hplan : service.plan faults store request = .ok (.inr plan))
    (hfault : faults.transaction = .none)
    (htransact : service.engine.transact store plan.statements = some after) :
    Effect service store (request.withMode .commit) after := by
  have hmutate := @mutate_withMode service request faults .commit store
  simp only [hplan, commit, hfault, htransact] at hmutate
  rcases plan_cases hplan with ⟨_, h, -⟩ | ⟨other, h, hstatus⟩
  · cases h
  · cases h
    have houtcome := @mutate_outcome service ⟨request.withMode .commit, faults⟩ store
    rw [hmutate] at houtcome
    cases houtcome with
    | nothing _ hnot => exact absurd hstatus hnot
    | effect heffect => exact heffect

end ItemWritingService
end HomeCortex
