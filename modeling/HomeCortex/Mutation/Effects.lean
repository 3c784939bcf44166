/-
# What a call of the item writer can do

`Effect` lists the changes that a call of `mutate` can make to the store, with
what its checks have established when it makes them.  A call that has no effect
leaves the store as it was (`mutate_effect`).  Everything later files say about
runs of calls is a case analysis over `Effect`.
-/

import HomeCortex.Library.Checked
import HomeCortex.Mutation.Writing

namespace HomeCortex

/-- `edge` is a location edge of the item, to `target` and with `content`. -/
structure LocatedAt (service : ItemWritingService) (store : Store) (item edge target : RecordID)
    (content : Fields) : Prop where
  of_relation : edge.table_name = service.location_relation
  lookup : store.lookup edge = some ⟨some (item, target), content⟩

namespace ItemWritingService

open Except

variable {service : ItemWritingService} {store after : Store} {faults : Faults}
  {item location : RecordID}

/-- The changes a call can make, with the checks that precede them. -/
inductive Effect (service : ItemWritingService) (store : Store) : WriteRequest → Store → Prop
  | created (item : ItemId) (properties : ItemProperties) (location : PlaceId)
      (valid : service.validateItemProperties (createdProperties properties) true = .ok none)
      (missing : store.lookup item.id = none)
      (unlocated : ∀ edge target content, ¬LocatedAt service store item.id edge target content)
      (admitted : service.edge_registry.validate_endpoints service.location_relation "item"
        location.id.table_name = .ok ())
      (destination : (store.lookup location.id).isSome = true) :
      Effect service store (.create item properties location .commit)
        (Surreal.relate service.engine.keep
          (Surreal.upsert service.engine.keep store item.id (createdProperties properties))
          (service.locationEdgeId item.id location.id) item.id location.id [])
  | placed (item : ItemId) (location : PlaceId)
      (present : (store.lookup item.id).isSome = true)
      (unlocated : ∀ edge target content, ¬LocatedAt service store item.id edge target content)
      (admitted : service.edge_registry.validate_endpoints service.location_relation "item"
        location.id.table_name = .ok ())
      (destination : (store.lookup location.id).isSome = true) :
      Effect service store (.updateLocation item location .commit)
        (Surreal.relate service.engine.keep store
          (service.locationEdgeId item.id location.id) item.id location.id [])
  | moved (item : ItemId) (location : PlaceId)
      (present : (store.lookup item.id).isSome = true)
      (admitted : service.edge_registry.validate_endpoints service.location_relation "item"
        location.id.table_name = .ok ())
      (destination : (store.lookup location.id).isSome = true) :
      Effect service store (.updateLocation item location .commit)
        (Surreal.relate service.engine.keep
          (store.deleteWhere fun id stored =>
            id.table_name == service.location_relation && stored.startsAt item.id)
          (service.locationEdgeId item.id location.id) item.id location.id [])
  | attributes (item : ItemId) (properties : Fields) (stored : StoredRecord)
      (present : store.lookup item.id = some stored)
      (writable : properties.extra service.writable = [])
      (valid : service.validateItemProperties properties false = .ok none) :
      Effect service store (.updateAttributes item properties .commit)
        (store.insert item.id
          ⟨stored.endpoints, service.engine.merge stored.content properties⟩)
  | deleted (item : ItemId) (present : (store.lookup item.id).isSome = true) :
      Effect service store (.delete item .commit)
        (((service.incidentEdges store item.id).foldl (fun store entry =>
          store.deleteWhere fun id stored =>
            id.table_name == entry.1 && stored.mentions item.id) store).erase item.id)

theorem read_eq_ok {α : Type} {index : Nat} {value result : α} :
    read faults index value = .ok result ↔ faults.read_fails index = false ∧ result = value := by
  simp only [read, bind_eq_ok, raiseIf_eq_ok, pure_eq_ok, exists_const, eq_comm (a := value)]

/-- The item has no location exactly when it has no location edge. -/
theorem currentLocations_eq_nil :
    service.currentLocations store item = [] ↔
      ∀ edge target content, ¬LocatedAt service store item edge target content := by
  have hperm := List.perm_insertionSort (fun a b : String => a ≤ b)
    ((store.select fun id stored =>
      id.table_name == service.location_relation && stored.startsAt item).filterMap
        fun edge => edge.2.endpoints.map fun ends => canonicalRecordId ends.2)
  rw [currentLocations, ← List.length_eq_zero_iff, hperm.length_eq, List.length_eq_zero_iff,
    List.filterMap_eq_nil_iff]
  constructor
  · rintro h edge target content ⟨hrelation, hlookup⟩
    have hmem : (edge, (⟨some (item, target), content⟩ : StoredRecord)) ∈ store.select
        fun id stored => id.table_name == service.location_relation && stored.startsAt item :=
      AList.mem_select.2 ⟨hlookup, by simp [StoredRecord.startsAt, hrelation]⟩
    exact absurd (h _ hmem) (by simp)
  · rintro h ⟨edge, ⟨endpoints, content⟩⟩ hmem
    obtain ⟨hlookup, hp⟩ := AList.mem_select.1 hmem
    rcases endpoints with _ | ⟨source, target⟩
    · rfl
    · simp only [StoredRecord.startsAt, Bool.and_eq_true, beq_iff_eq] at hp
      obtain ⟨hrelation, rfl⟩ := hp
      exact absurd ⟨hrelation, hlookup⟩ (h edge target content)

/-- A destination that passes is admitted by the relation and exists. -/
theorem validateLocation_eq_ok {index : Nat}
    (h : service.validateLocation faults index store location = .ok none) :
    service.edge_registry.validate_endpoints service.location_relation "item"
        location.table_name = .ok () ∧ (store.lookup location).isSome = true := by
  rw [validateLocation] at h
  split at h
  case h_1 => simp at h
  case h_2 => simp at h
  case h_3 hok =>
    simp only [bind_eq_ok, read_eq_ok] at h
    obtain ⟨record, ⟨-, rfl⟩, h⟩ := h
    refine ⟨hok, ?_⟩
    cases hrecord : store.lookup location with
    | none => simp [hrecord] at h
    | some => rfl

/-! ### The refusals -/

theorem createRefusal_ok_none {properties : ItemProperties}
    (h : service.createRefusal faults store item properties location = .ok none) :
    service.validateItemProperties (createdProperties properties) true = .ok none ∧
      store.lookup item = none ∧ service.currentLocations store item = [] ∧
      service.validateLocation faults 2 store location = .ok none := by
  rw [createRefusal, bind_eq_ok] at h
  obtain ⟨error, hvalid, h⟩ := h
  cases error with
  | some error => simp at h
  | none =>
      simp only [bind_eq_ok, read_eq_ok] at h
      obtain ⟨existing, ⟨-, rfl⟩, h⟩ := h
      split at h
      case isTrue => simp at h
      case isFalse hexisting =>
        simp only [bind_eq_ok, read_eq_ok] at h
        obtain ⟨locations, ⟨-, rfl⟩, h⟩ := h
        split at h
        case isTrue => simp at h
        case isFalse hlocations =>
          simp only [bind_eq_ok, pure_eq_ok] at h
          obtain ⟨refused, hrefused, hnone⟩ := h
          cases refused with
          | some => simp at hnone
          | none => exact ⟨hvalid, by simpa using hexisting, by simpa using hlocations, hrefused⟩

theorem createRefusal_status {properties : ItemProperties} {result : MutationResult}
    (h : service.createRefusal faults store item properties location = .ok (some result)) :
    result.status ≠ .applied := by
  rw [createRefusal, bind_eq_ok] at h
  obtain ⟨error, -, h⟩ := h
  cases error with
  | some error =>
      simp only [pure_eq_ok, Option.some.injEq] at h
      exact h ▸ by simp [rejected]
  | none =>
      simp only [bind_eq_ok, read_eq_ok] at h
      obtain ⟨existing, -, h⟩ := h
      split at h
      case isTrue =>
        simp only [pure_eq_ok, Option.some.injEq] at h
        exact h ▸ by simp
      case isFalse =>
        simp only [bind_eq_ok, read_eq_ok] at h
        obtain ⟨locations, -, h⟩ := h
        split at h
        case isTrue =>
          simp only [pure_eq_ok, Option.some.injEq] at h
          exact h ▸ by simp
        case isFalse =>
          simp only [bind_eq_ok, pure_eq_ok, Option.map_eq_some_iff] at h
          obtain ⟨refused, -, error, -, rfl⟩ := h
          simp [rejected]

theorem updateLocationRefusal_ok {outcome : MutationResult ⊕ Option String}
    (h : service.updateLocationRefusal faults store item location = .ok outcome) :
    (∃ result, outcome = .inl result ∧ result.status ≠ .applied) ∨
      outcome = .inr (service.currentLocations store item).head? ∧
        (store.lookup item).isSome = true ∧
        service.validateLocation faults 1 store location = .ok none := by
  simp only [updateLocationRefusal, bind_eq_ok, read_eq_ok] at h
  obtain ⟨existing, ⟨-, rfl⟩, h⟩ := h
  split at h
  case isTrue =>
    simp only [pure_eq_ok] at h
    exact Or.inl ⟨_, h.symm, by simp⟩
  case isFalse hexisting =>
    rw [bind_eq_ok] at h
    obtain ⟨error, hvalid, h⟩ := h
    cases error with
    | some error =>
        simp only [pure_eq_ok] at h
        exact Or.inl ⟨_, h.symm, by simp [rejected]⟩
    | none =>
        simp only [bind_eq_ok, read_eq_ok] at h
        obtain ⟨current, ⟨-, rfl⟩, h⟩ := h
        split at h
        case isTrue =>
          simp only [pure_eq_ok] at h
          exact Or.inl ⟨_, h.symm, by simp⟩
        case isFalse =>
          split at h
          case isTrue =>
            simp only [pure_eq_ok] at h
            exact Or.inl ⟨_, h.symm, by simp⟩
          case isFalse =>
            simp only [pure_eq_ok] at h
            exact Or.inr ⟨h.symm, Option.isSome_iff_ne_none.2 (by simpa using hexisting), hvalid⟩

theorem updateAttributesRefusal_ok {properties : Fields}
    {outcome : MutationResult ⊕ StoredRecord}
    (h : service.updateAttributesRefusal faults store item properties = .ok outcome) :
    (∃ result, outcome = .inl result ∧ result.status ≠ .applied) ∨
      ∃ stored, outcome = .inr stored ∧ store.lookup item = some stored ∧
        properties.extra service.writable = [] ∧
        service.validateItemProperties properties false = .ok none := by
  simp only [updateAttributesRefusal, bind_eq_ok, read_eq_ok] at h
  obtain ⟨existing, ⟨-, rfl⟩, h⟩ := h
  cases hstored : store.lookup item with
  | none =>
      rw [hstored] at h
      exact Or.inl ⟨_, (pure_eq_ok.1 h).symm, by simp⟩
  | some stored =>
      simp only [hstored] at h
      split at h
      case isTrue => exact Or.inl ⟨_, (pure_eq_ok.1 h).symm, by simp [rejected]⟩
      case isFalse hwritable =>
        rw [bind_eq_ok] at h
        obtain ⟨error, hvalid, h⟩ := h
        cases error with
        | some error => exact Or.inl ⟨_, (pure_eq_ok.1 h).symm, by simp [rejected]⟩
        | none =>
            simp only at h
            split at h
            case isTrue => exact Or.inl ⟨_, (pure_eq_ok.1 h).symm, by simp [attributesResult]⟩
            case isFalse =>
              exact Or.inr ⟨stored, (pure_eq_ok.1 h).symm, rfl, by simpa using hwritable, hvalid⟩

/-! ### From a call to its effect -/

/-- A call does nothing, or has its effect; it then writes the edge of its location. -/
inductive Outcome (service : ItemWritingService) (store : Store) (call : MutateCall)
    (result : MutationResult) (after : Store) : Prop
  | nothing (unchanged : after = store) (status : result.status ≠ .applied)
      (edge : service.writesEdge call store = none)
  | effect (effect : Effect service store call.request after)
      (edge : service.writesEdge call store =
        call.request.location?.map fun location =>
          service.locationEdgeId call.request.item.id location.id)

theorem transact_create {properties : ItemProperties} (hitem : store.lookup item = none)
    (hlocation : (store.lookup location).isSome = true) :
    service.engine.transact store (service.createTransaction item properties location) =
      some (Surreal.relate service.engine.keep
        (Surreal.upsert service.engine.keep store item (createdProperties properties))
        (service.locationEdgeId item location) item location []) := by
  obtain ⟨stored, hstored⟩ := Option.isSome_iff_exists.1 hlocation
  simp [createTransaction, Engine.transact_cons, Engine.exec, hitem, hstored]

theorem transact_updateLocation {previous : Option String}
    (hitem : (store.lookup item).isSome = true)
    (hlocation : (store.lookup location).isSome = true) :
    service.engine.transact store (service.updateLocationTransaction item location previous) =
      some (Surreal.relate service.engine.keep
        (match previous with
          | some _ => store.deleteWhere fun id stored =>
              id.table_name == service.location_relation && stored.startsAt item
          | none => store)
        (service.locationEdgeId item location) item location []) := by
  obtain ⟨stored, hstored⟩ := Option.isSome_iff_exists.1 hitem
  obtain ⟨stored', hstored'⟩ := Option.isSome_iff_exists.1 hlocation
  cases previous <;>
    simp [updateLocationTransaction, Engine.transact_cons, Engine.exec, hstored, hstored']

theorem transact_updateAttributes {stored : StoredRecord} {properties : Fields}
    (h : store.lookup item = some stored) :
    service.engine.transact store
        (updateAttributesTransaction item (Surreal.row item stored) properties) =
      some (store.insert item
        ⟨stored.endpoints, service.engine.merge stored.content properties⟩) := by
  simp [updateAttributesTransaction, Engine.transact_cons, Engine.exec, h]

theorem transact_delete (h : (store.lookup item).isSome = true) (entries : List (String × Nat)) :
    service.engine.transact store (deleteTransaction item (entries.map Prod.fst)) =
      some ((entries.foldl (fun store entry => store.deleteWhere fun id stored =>
        id.table_name == entry.1 && stored.mentions item) store).erase item) := by
  have hpresent : (store.lookup item).isNone = false := by
    rw [Option.isNone_eq_false_iff]
    exact h
  have hrest : ∀ (entries : List (String × Nat)) (store : Store),
      service.engine.transact store
          (((entries.map Prod.fst).map fun relation => .deleteIncident relation item) ++
            [.delete item])
        = some ((entries.foldl (fun store entry => store.deleteWhere fun id stored =>
            id.table_name == entry.1 && stored.mentions item) store).erase item) := by
    intro entries
    induction entries with
    | nil => exact fun store => rfl
    | cons entry entries ih => exact fun store => ih _
  rw [deleteTransaction, List.cons_append, Engine.transact_cons, Engine.exec, hpresent]
  exact hrest entries store

/-- A commit whose transaction goes through has its effect, unless it is refused. -/
theorem outcome_of_commit {call : MutateCall} {statements : List Statement}
    {applied failed : MutationResult} {target : Store}
    (htransact : service.engine.transact store statements = some target)
    (hfailed : failed.status ≠ .applied) (heffect : Effect service store call.request target)
    (hedge : service.writesEdge call store = if call.faults.transaction = .refused then none
      else call.request.location?.map fun location =>
        service.locationEdgeId call.request.item.id location.id) :
    Outcome service store call (service.commit call.faults store statements applied failed).1
      (service.commit call.faults store statements applied failed).2 := by
  rw [commit, htransact]
  cases hfault : call.faults.transaction
  case refused => exact .nothing rfl hfailed (by rw [hedge, hfault]; rfl)
  case none => exact .effect heffect (by rw [hedge, hfault]; rfl)
  case answerLost => exact .effect heffect (by rw [hedge, hfault]; rfl)

theorem outcome_create (item : ItemId) (properties : ItemProperties) (location : PlaceId)
    (mode : WriteMode) (faults : Faults) (store : Store) :
    Outcome service store ⟨.create item properties location mode, faults⟩
      (service.mutate ⟨.create item properties location mode, faults⟩ store).1
      (service.mutate ⟨.create item properties location mode, faults⟩ store).2 := by
  cases hrefusal : service.createRefusal faults store item.id properties location.id with
  | error error =>
      have hmutate : service.mutate ⟨.create item properties location mode, faults⟩ store
          = (storageRejected item.id, store) := by
        simp [mutate, perform, create, hrefusal, bind, Except.bind, WriteRequest.item]
      rw [hmutate]
      exact .nothing rfl (by simp [storageRejected, rejected])
        (by cases mode <;> simp [writesEdge, hrefusal])
  | ok refused =>
      cases refused with
      | some result =>
          have hmutate : service.mutate ⟨.create item properties location mode, faults⟩ store
              = (result, store) := by
            simp [mutate, perform, create, hrefusal, bind, Except.bind, pure, Except.pure]
          rw [hmutate]
          exact .nothing rfl (createRefusal_status hrefusal)
            (by cases mode <;> simp [writesEdge, hrefusal])
      | none =>
          obtain ⟨hvalid, hmissing, hunlocated, hlocation⟩ := createRefusal_ok_none hrefusal
          obtain ⟨hadmitted, hdestination⟩ := validateLocation_eq_ok hlocation
          simp only [mutate, perform, create, hrefusal, bind, Except.bind, pure, Except.pure]
          cases mode with
          | preview => exact .nothing rfl (by simp) (by simp [writesEdge])
          | commit =>
              refine outcome_of_commit (transact_create hmissing hdestination)
                (by simp [databaseRejected, rejected])
                (.created item properties location hvalid hmissing
                  (currentLocations_eq_nil.1 hunlocated) hadmitted hdestination) ?_
              simp [writesEdge, hrefusal, WriteRequest.location?, WriteRequest.item]

theorem outcome_updateLocation (item : ItemId) (location : PlaceId) (mode : WriteMode)
    (faults : Faults) (store : Store) :
    Outcome service store ⟨.updateLocation item location mode, faults⟩
      (service.mutate ⟨.updateLocation item location mode, faults⟩ store).1
      (service.mutate ⟨.updateLocation item location mode, faults⟩ store).2 := by
  cases hrefusal : service.updateLocationRefusal faults store item.id location.id with
  | error error =>
      have hmutate : service.mutate ⟨.updateLocation item location mode, faults⟩ store
          = (storageRejected item.id, store) := by
        simp [mutate, perform, updateLocation, hrefusal, bind, Except.bind, WriteRequest.item]
      rw [hmutate]
      exact .nothing rfl (by simp [storageRejected, rejected])
        (by cases mode <;> simp [writesEdge, hrefusal])
  | ok outcome =>
      rcases updateLocationRefusal_ok hrefusal with ⟨result, rfl, hstatus⟩ | ⟨rfl, hitem, hlocation⟩
      · have hmutate : service.mutate ⟨.updateLocation item location mode, faults⟩ store
            = (result, store) := by
          simp [mutate, perform, updateLocation, hrefusal, bind, Except.bind, pure, Except.pure]
        rw [hmutate]
        exact .nothing rfl hstatus (by cases mode <;> simp [writesEdge, hrefusal])
      · obtain ⟨hadmitted, hdestination⟩ := validateLocation_eq_ok hlocation
        simp only [mutate, perform, updateLocation, hrefusal, bind, Except.bind, pure, Except.pure]
        cases mode with
        | preview => exact .nothing rfl (by simp) (by simp [writesEdge])
        | commit =>
            refine outcome_of_commit (transact_updateLocation hitem hdestination)
              (by simp [databaseRejected, rejected]) ?_
              (by simp [writesEdge, hrefusal, WriteRequest.location?, WriteRequest.item])
            cases hcurrent : service.currentLocations store item.id with
            | nil =>
                exact .placed item location hitem (currentLocations_eq_nil.1 hcurrent) hadmitted
                  hdestination
            | cons => exact .moved item location hitem hadmitted hdestination

theorem outcome_updateAttributes (item : ItemId) (properties : Fields) (mode : WriteMode)
    (faults : Faults) (store : Store) :
    Outcome service store ⟨.updateAttributes item properties mode, faults⟩
      (service.mutate ⟨.updateAttributes item properties mode, faults⟩ store).1
      (service.mutate ⟨.updateAttributes item properties mode, faults⟩ store).2 := by
  have hedge : service.writesEdge ⟨.updateAttributes item properties mode, faults⟩ store = none := by
    simp [writesEdge]
  cases hrefusal : service.updateAttributesRefusal faults store item.id properties with
  | error error =>
      have hmutate : service.mutate ⟨.updateAttributes item properties mode, faults⟩ store
          = (storageRejected item.id, store) := by
        simp [mutate, perform, updateAttributes, hrefusal, bind, Except.bind, WriteRequest.item]
      rw [hmutate]
      exact .nothing rfl (by simp [storageRejected, rejected]) hedge
  | ok outcome =>
      rcases updateAttributesRefusal_ok hrefusal with ⟨result, rfl, hstatus⟩ |
        ⟨stored, rfl, hstored, hwritable, hvalid⟩
      · have hmutate : service.mutate ⟨.updateAttributes item properties mode, faults⟩ store
            = (result, store) := by
          simp [mutate, perform, updateAttributes, hrefusal, bind, Except.bind, pure, Except.pure]
        rw [hmutate]
        exact .nothing rfl hstatus hedge
      · simp only [mutate, perform, updateAttributes, hrefusal, bind, Except.bind, pure,
          Except.pure]
        cases mode with
        | preview => exact .nothing rfl (by simp [attributesResult]) hedge
        | commit =>
            exact outcome_of_commit (transact_updateAttributes hstored)
              (by simp [databaseRejected, rejected])
              (.attributes item properties stored hstored hwritable hvalid)
              (by simp [writesEdge, WriteRequest.location?])

theorem outcome_delete (item : ItemId) (mode : WriteMode) (faults : Faults) (store : Store) :
    Outcome service store ⟨.delete item mode, faults⟩
      (service.mutate ⟨.delete item mode, faults⟩ store).1
      (service.mutate ⟨.delete item mode, faults⟩ store).2 := by
  have hedge : service.writesEdge ⟨.delete item mode, faults⟩ store = none := by
    simp [writesEdge]
  have hstorage : (storageRejected item.id).status ≠ .applied := by
    simp [storageRejected, rejected]
  simp only [mutate, perform, delete, read, bind, Except.bind, pure, Except.pure, raiseIf]
  cases hfirst : faults.read_fails 0 with
  | true => exact .nothing rfl hstorage hedge
  | false =>
      cases hstored : store.lookup item.id with
      | none => exact .nothing rfl (by simp) hedge
      | some stored =>
          cases hsecond : faults.read_fails 1 with
          | true => exact .nothing rfl hstorage hedge
          | false =>
              cases mode with
              | preview => exact .nothing rfl (by simp) hedge
              | commit =>
                  have hpresent : (store.lookup item.id).isSome = true := by
                    rw [hstored]
                    rfl
                  exact outcome_of_commit (transact_delete hpresent _)
                    (by simp [databaseRejected, rejected]) (.deleted item hpresent)
                    (by simp [writesEdge, WriteRequest.location?])

/-- **Every call does nothing or has its effect.** -/
theorem mutate_outcome (call : MutateCall) (store : Store) :
    Outcome service store call (service.mutate call store).1 (service.mutate call store).2 := by
  obtain ⟨request, faults⟩ := call
  cases request with
  | create item properties location mode =>
      exact outcome_create item properties location mode faults store
  | updateLocation item location mode =>
      exact outcome_updateLocation item location mode faults store
  | updateAttributes item properties mode =>
      exact outcome_updateAttributes item properties mode faults store
  | delete item mode => exact outcome_delete item mode faults store

end ItemWritingService
end HomeCortex
