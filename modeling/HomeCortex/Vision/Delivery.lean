/-
# At-least-once delivery

What the service promises of observations that are delivered again and again: each id is
accepted once, the stored observation stays, and a later delivery is a duplicate or a
conflict by whether its observation equals the stored one.

`runs_idempotent` proves this of every run whose deliveries are `Deliverable`.  The
condition is needed: a number may be `0.0` in one delivery and `-0.0` in another, which
are equal but are written differently; JSON lines are split at U+0085, U+2028 and U+2029,
which are not escaped; and integers with more than 4300 digits are not written.
-/

import HomeCortex.Common.FloatTexts
import HomeCortex.Vision.Ports

namespace HomeCortex
namespace Vision

variable {σ : Type} (service : ObservationIngestionService σ) (deliveries : List Delivery)

/-- All delivered observations. -/
def delivered : List VisualObservation := deliveries.flatMap Delivery.observations

/-- The observations that one call is to deliver. -/
def deliveredBy (index : Nat) : List VisualObservation :=
  (deliveries[index]?.map Delivery.observations).getD []

/-- The deliveries can be written and read back, and those of one id that are equal have the
same zeros. -/
structure Deliverable : Prop where
  integers : ∀ value ∈ delivered deliveries, writesIntegers value = true
  lines : ∀ values, .replay values ∈ deliveries → ∀ value ∈ values,
    OneLine service.floats value.observation
  zeros : ∀ a ∈ delivered deliveries, ∀ b ∈ delivered deliveries, a.id = b.id →
    a.same b = true → a = b

/-- No two different canonical texts of the deliveries have one digest. -/
def CollisionFree : Prop :=
  ∀ a ∈ delivered deliveries, ∀ b ∈ delivered deliveries,
    service.contentHash (canonicalText service.floats a) =
      service.contentHash (canonicalText service.floats b) →
    canonicalText service.floats a = canonicalText service.floats b

/-- The observations of one call that are answered. -/
def System.answered (system : System σ) (index : Nat) : List VisualObservation :=
  (system.log.filter fun entry => entry.call = index).map Entry.observation

/-- The answers that accept an observation with an id. -/
def acceptedFor (log : List Entry) (id : String) : List Entry :=
  log.filter fun entry => entry.observation.id.1 = id ∧ entry.receipt.disposition = .accepted

/-- **What at-least-once delivery needs.**  No call raises, each submitted id is accepted
once, and every other answer compares the observation with the stored one. -/
structure Idempotent (system : System σ) : Prop where
  answered : ∀ index, ∃ rest remaining, system.tasks index = .ok rest ∧
    rest.length = remaining.length ∧
    deliveredBy deliveries index = system.answered index ++ remaining
  once : ∀ entry ∈ system.log, (acceptedFor system.log entry.observation.id).length = 1
  judged : ∀ entry ∈ system.log, ∃ stored,
    service.repository.find system.store entry.observation.id = some stored ∧
    (entry.receipt.disposition = .accepted → entry.observation = stored.observation) ∧
    (entry.receipt.disposition ≠ .accepted →
      (entry.receipt.disposition = .duplicate ↔ entry.observation.same stored.observation = true) ∧
      (entry.receipt.disposition = .conflict ↔
        entry.observation.same stored.observation = false))

/-! ### The invariant -/

variable {service deliveries}

/-- What a stored record is, and what the answers for its id say. -/
structure Recorded (service : ObservationIngestionService σ) (deliveries : List Delivery)
    (log : List Entry) (id : String) (stored : ObservationIngestRecord) : Prop where
  delivered : stored.observation ∈ delivered deliveries
  named : stored.observation.id.1 = id
  hashed : stored.content_sha256 =
    service.contentHash (canonicalText service.floats stored.observation)
  once : (acceptedFor log id).length = 1
  judged : ∀ entry ∈ log, entry.observation.id.1 = id →
    match entry.receipt.disposition with
    | .accepted => entry.observation = stored.observation
    | .duplicate => entry.observation.same stored.observation = true
    | .conflict => entry.observation.same stored.observation = false

/-- The invariant of a run. -/
structure Inv (service : ObservationIngestionService σ) (deliveries : List Delivery)
    (system : System σ) : Prop where
  progress : ∀ index, ∃ rest remaining, system.tasks index = .ok rest ∧
    List.Forall₂ (fun value observation => value.parse = .ok observation) rest remaining ∧
    deliveredBy deliveries index = system.answered index ++ remaining
  absent : ∀ id, service.repository.find system.store id = none →
    ∀ entry ∈ system.log, entry.observation.id.1 ≠ id
  recorded : ∀ id stored, service.repository.find system.store id = some stored →
    Recorded service deliveries system.log id stored

theorem mem_delivered {index : Nat} {value : VisualObservation}
    (h : value ∈ deliveredBy deliveries index) : value ∈ delivered deliveries := by
  rw [deliveredBy] at h
  cases hdelivery : deliveries[index]? with
  | none => rw [hdelivery] at h; exact absurd h List.not_mem_nil
  | some delivery =>
      rw [hdelivery] at h
      exact List.mem_flatMap.mpr ⟨delivery, List.mem_of_getElem? hdelivery, h⟩

/-- Accepted mappings stand for their observations. -/
theorem parse_mappings (values : List Accepted) :
    List.Forall₂ (fun value observation => value.parse = .ok observation)
      (values.map fun value => Submission.mapping value.mapping)
      (values.map Accepted.observation) := by
  rw [List.forall₂_map_left_iff, List.forall₂_map_right_iff]
  exact List.forall₂_same.mpr fun value _ => value.accepted

/-- A delivery starts with submissions that stand for its observations. -/
theorem start_delivery (h : Deliverable service deliveries) {delivery : Delivery}
    (hmem : delivery ∈ deliveries) :
    ∃ rest, delivery.call service.floats >>= service.start = .ok rest ∧
      List.Forall₂ (fun value observation => value.parse = .ok observation) rest
        delivery.observations := by
  cases delivery with
  | single value => exact ⟨_, rfl, parse_mappings [value]⟩
  | many values => exact ⟨_, rfl, parse_mappings values⟩
  | replay values =>
      have hmem' : ∀ value ∈ values.map Accepted.observation, value ∈ delivered deliveries :=
        fun value hvalue => List.mem_flatMap.mpr ⟨.replay values, hmem, hvalue⟩
      obtain ⟨text, hdumps, hparse⟩ := @parseObservationsJsonl_dumps service.floats
        (values.map Accepted.observation) (fun value hvalue => h.integers value (hmem' value hvalue))
        (List.forall_mem_map.mpr (h.lines values hmem))
      have hcall : (Delivery.replay values).call service.floats = .ok (.replayJsonl text) := by
        rw [Delivery.call, hdumps]
        rfl
      have hstart : service.start (.replayJsonl text) =
          .ok ((values.map Accepted.observation).map .observation) := by
        rw [ObservationIngestionService.start, hparse]
        rfl
      refine ⟨_, Except.bind_eq_ok.mpr ⟨_, hcall, hstart⟩, ?_⟩
      rw [Delivery.observations, Delivery.values, List.forall₂_map_left_iff]
      exact List.forall₂_same.mpr fun _ _ => rfl

theorem inv_start (h : Deliverable service deliveries) :
    Inv service deliveries (.start service deliveries) := by
  refine ⟨fun index => ?_, fun id _ entry hentry => ?_, fun id stored hfind => ?_⟩
  · cases hdelivery : deliveries[index]? with
    | none =>
        exact ⟨[], [], by simp only [System.start, hdelivery], .nil, by
          simp [deliveredBy, hdelivery, System.answered, System.start]⟩
    | some delivery =>
        obtain ⟨rest, hstart, hparse⟩ := start_delivery h (List.mem_of_getElem? hdelivery)
        exact ⟨rest, delivery.observations, by simp only [System.start, hdelivery, hstart], hparse, by
          simp [deliveredBy, hdelivery, System.answered, System.start]⟩
  · rw [System.start] at hentry
    exact absurd hentry List.not_mem_nil
  · rw [System.start, service.repository.find_empty] at hfind
    cases hfind

/-- A submission that stands for an observation is answered as the repository decides. -/
theorem ingest_eq {value : Submission} {observation : VisualObservation}
    (hparse : value.parse = .ok observation) (hintegers : writesIntegers observation = true)
    (received_at : String) (store : σ) :
    service.ingest value received_at store =
      let record := ⟨observation, received_at,
        service.contentHash (canonicalText service.floats observation)⟩
      let put := service.repository.putIfAbsent record store
      .ok ((observation, ⟨observation.id, put.1, received_at⟩), put.2) := by
  have hdumps : dumpsObservation service.floats observation =
      .ok (canonicalText service.floats observation) := if_pos hintegers
  rw [ObservationIngestionService.ingest, hparse]
  simp only [bind, Except.bind, hdumps]
  rfl

/-- Equal digests of deliveries are equal observations. -/
theorem hash_eq_iff (hcollision : CollisionFree service deliveries) {a b : VisualObservation}
    (ha : a ∈ delivered deliveries) (hb : b ∈ delivered deliveries) :
    service.contentHash (canonicalText service.floats a) =
      service.contentHash (canonicalText service.floats b) ↔ a = b :=
  ⟨fun h => canonicalText_injective (hcollision a ha b hb h), fun h => h ▸ rfl⟩

/-- **A new answer for an id that is stored.** -/
theorem Recorded.append {log : List Entry} {id : String} {stored : ObservationIngestRecord}
    (h : Recorded service deliveries log id stored) {entry : Entry}
    (hentry : entry.observation.id.1 = id → match entry.receipt.disposition with
      | .accepted => False
      | .duplicate => entry.observation.same stored.observation = true
      | .conflict => entry.observation.same stored.observation = false) :
    Recorded service deliveries (log ++ [entry]) id stored := by
  refine ⟨h.delivered, h.named, h.hashed, ?_, fun other hother hid => ?_⟩
  · have hnot : ¬(entry.observation.id.1 = id ∧ entry.receipt.disposition = .accepted) := by
      rintro ⟨hid, haccepted⟩
      have := hentry hid
      rw [haccepted] at this
      exact this
    rw [acceptedFor, List.filter_append, List.filter_cons_of_neg (by simpa using hnot),
      List.filter_nil, List.append_nil]
    exact h.once
  · rcases List.mem_append.mp hother with hother | hother
    · exact h.judged other hother hid
    · obtain rfl := List.mem_singleton.mp hother
      have := hentry hid
      cases hdisposition : other.receipt.disposition <;> rw [hdisposition] at this
      · exact this.elim
      · exact this
      · exact this

/-- **The first answer for an id.** -/
theorem recorded_first {log : List Entry} {index : Nat} {observation : VisualObservation}
    {received_at : String} (hmem : observation ∈ delivered deliveries)
    (habsent : ∀ entry ∈ log, entry.observation.id.1 ≠ observation.id.1) :
    Recorded service deliveries
      (log ++ [⟨index, observation, observation.id, .accepted, received_at⟩]) observation.id
      ⟨observation, received_at, service.contentHash (canonicalText service.floats observation)⟩ := by
  refine ⟨hmem, rfl, rfl, ?_, fun entry hentry hid => ?_⟩
  · have hnone : acceptedFor log observation.id.1 = [] := by
      rw [acceptedFor, List.filter_eq_nil_iff]
      intro entry hentry
      simp [habsent entry hentry]
    rw [acceptedFor, List.filter_append, ← acceptedFor, hnone, List.nil_append,
      List.filter_cons_of_pos (by simp)]
    rfl
  · rcases List.mem_append.mp hentry with hentry | hentry
    · exact absurd hid (habsent entry hentry)
    · rw [List.mem_singleton.mp hentry]

/-- A step of the store keeps the invariant about its records. -/
theorem inv_put (h : Deliverable service deliveries) (hcollision : CollisionFree service deliveries)
    {system : System σ} (inv : Inv service deliveries system) {index : Nat}
    {observation : VisualObservation} (hmem : observation ∈ delivered deliveries)
    (received_at : String) :
    let record := ⟨observation, received_at,
      service.contentHash (canonicalText service.floats observation)⟩
    let put := service.repository.putIfAbsent record system.store
    let log := system.log ++ [⟨index, observation, observation.id, put.1, received_at⟩]
    (∀ id, service.repository.find put.2 id = none → ∀ entry ∈ log, entry.observation.id.1 ≠ id) ∧
      (∀ id stored, service.repository.find put.2 id = some stored →
        Recorded service deliveries log id stored) ∧
      ∀ id stored, service.repository.find system.store id = some stored →
        service.repository.find put.2 id = some stored := by
  intro record put log
  cases hfind : service.repository.find system.store observation.id with
  | none =>
      obtain ⟨hput, hafter⟩ := service.repository.put_absent record system.store hfind
      have habsent := inv.absent _ hfind
      have hlog : log = system.log ++ [⟨index, observation, observation.id, .accepted, received_at⟩] := by
        rw [← hput]
      refine ⟨fun id hid entry hentry => ?_, fun id stored hstored => ?_, fun id stored hstored => ?_⟩
      · rw [hafter] at hid
        split at hid
        · cases hid
        · rename_i hne
          rcases List.mem_append.mp hentry with hentry | hentry
          · exact inv.absent id hid entry hentry
          · rw [List.mem_singleton.mp hentry]
            exact Ne.symm hne
      · rw [hafter] at hstored
        split at hstored
        case isTrue hid =>
          obtain rfl := Option.some.inj hstored
          subst hid
          rw [hlog]
          exact recorded_first hmem habsent
        case isFalse hne =>
          exact (inv.recorded id stored hstored).append fun hid => absurd hid.symm hne
      · rw [hafter, if_neg]
        · exact hstored
        · rintro rfl
          rw [hfind] at hstored
          cases hstored
  | some first =>
      obtain ⟨hput, hafter⟩ := service.repository.put_present record system.store first hfind
      have hfirst := inv.recorded _ first hfind
      refine ⟨fun id hid entry hentry => ?_, fun id stored hstored => ?_, fun id stored hstored => ?_⟩
      · rw [hafter] at hid
        rcases List.mem_append.mp hentry with hentry | hentry
        · exact inv.absent id hid entry hentry
        · rw [List.mem_singleton.mp hentry]
          rintro rfl
          rw [hfind] at hid
          cases hid
      · rw [hafter] at hstored
        refine (inv.recorded id stored hstored).append fun hid => ?_
        obtain rfl : observation.id.1 = id := hid
        obtain rfl := Option.some.inj (hfind.symm.trans hstored)
        -- The digests tell whether the two observations are the same.
        have hhash := hash_eq_iff hcollision hfirst.delivered hmem
        rw [← hfirst.hashed] at hhash
        have hid : observation.id = first.observation.id := Subtype.ext hfirst.named.symm
        change match put.1 with
          | .accepted => False
          | .duplicate => observation.same first.observation = true
          | .conflict => observation.same first.observation = false
        rw [show put.1 = _ from hput]
        by_cases hsame : first.observation = observation
        · rw [if_pos (hhash.mpr hsame), ← hsame]
          exact first.observation.same_self
        · rw [if_neg fun heq => hsame (hhash.mp heq), ← Bool.not_eq_true]
          exact fun heq => hsame (h.zeros _ hmem _ hfirst.delivered hid heq).symm
      · rw [hafter]
        exact hstored

/-- A submission that is answered. -/
theorem System.step_eq {system : System σ} {event : Nat × String} {value : Submission}
    {values : List Submission} {observation : VisualObservation} {receipt : ObservationReceipt}
    {store : σ} (htask : system.tasks event.1 = .ok (value :: values))
    (h : service.ingest value event.2 system.store = .ok ((observation, receipt), store)) :
    system.step service event = {
      store
      tasks := Function.update system.tasks event.1 (.ok values)
      log := system.log ++ [⟨event.1, observation, receipt⟩] } := by
  simp only [System.step, htask, h]

/-- A step leaves the answers of the other calls. -/
theorem answered_append (log : List Entry) (entry : Entry) (index : Nat) :
    ((log ++ [entry]).filter fun other => other.call = index).map Entry.observation =
      (log.filter fun other => other.call = index).map Entry.observation ++
        if entry.call = index then [entry.observation] else [] := by
  rw [List.filter_append, List.map_append]
  by_cases hcall : entry.call = index <;> simp [hcall]

/-- **One step** keeps the invariant and the stored records. -/
theorem inv_step (h : Deliverable service deliveries) (hcollision : CollisionFree service deliveries)
    {system : System σ} (inv : Inv service deliveries system) (event : Nat × String) :
    Inv service deliveries (system.step service event) ∧
      ∀ id stored, service.repository.find system.store id = some stored →
        service.repository.find (system.step service event).store id = some stored := by
  obtain ⟨index, received_at⟩ := event
  obtain ⟨rest, remaining, htask, hparse, hprogress⟩ := inv.progress index
  cases hparse with
  | nil =>
      have hstep : system.step service (index, received_at) = system := by
        simp only [System.step, htask]
      rw [hstep]
      exact ⟨inv, fun _ _ hstored => hstored⟩
  | @cons value observation rest remaining hvalue hparse =>
      have hmem : observation ∈ delivered deliveries :=
        @mem_delivered deliveries index _ (by rw [hprogress]; simp)
      obtain ⟨habsent, hrecorded, hstored⟩ := @inv_put _ service deliveries h hcollision system inv
        index observation hmem received_at
      have hstep := @ingest_eq _ service value observation hvalue (h.integers _ hmem) received_at
        system.store
      rw [@System.step_eq _ service system (index, received_at) _ _ _ _ _ htask hstep]
      refine ⟨⟨fun other => ?_, habsent, hrecorded⟩, hstored⟩
      by_cases hother : other = index
      · subst hother
        refine ⟨rest, remaining, Function.update_self .., hparse, ?_⟩
        rw [System.answered, answered_append, if_pos rfl, List.append_assoc]
        exact hprogress
      · obtain ⟨rest', remaining', htask', hparse', hprogress'⟩ := inv.progress other
        refine ⟨rest', remaining', (Function.update_of_ne hother ..).trans htask', hparse', ?_⟩
        rw [System.answered, answered_append, if_neg (Ne.symm hother), List.append_nil]
        exact hprogress'

/-- **A run** keeps the invariant and the stored records. -/
theorem inv_run (h : Deliverable service deliveries) (hcollision : CollisionFree service deliveries)
    (schedule : List (Nat × String)) {system : System σ} (inv : Inv service deliveries system) :
    Inv service deliveries (system.run service schedule) ∧
      ∀ id stored, service.repository.find system.store id = some stored →
        service.repository.find (system.run service schedule).store id = some stored := by
  induction schedule generalizing system with
  | nil => exact ⟨inv, fun _ _ hstored => hstored⟩
  | cons event schedule ih =>
      obtain ⟨hinv, hkeeps⟩ := inv_step h hcollision inv event
      obtain ⟨hrun, hkept⟩ := ih hinv
      exact ⟨hrun, fun id stored hstored => hkept id stored (hkeeps id stored hstored)⟩

/-- The invariant is what delivery needs. -/
theorem Inv.idempotent {system : System σ} (inv : Inv service deliveries system) :
    Idempotent service deliveries system := by
  have hstored : ∀ entry ∈ system.log, ∃ stored,
      service.repository.find system.store entry.observation.id = some stored := by
    intro entry hentry
    cases hfind : service.repository.find system.store entry.observation.id with
    | none => exact absurd rfl (inv.absent _ hfind entry hentry)
    | some stored => exact ⟨stored, rfl⟩
  refine ⟨fun index => ?_, fun entry hentry => ?_, fun entry hentry => ?_⟩
  · obtain ⟨rest, remaining, htask, hparse, hprogress⟩ := inv.progress index
    exact ⟨rest, remaining, htask, hparse.length_eq, hprogress⟩
  · obtain ⟨stored, hfind⟩ := hstored entry hentry
    exact (inv.recorded _ stored hfind).once
  · obtain ⟨stored, hfind⟩ := hstored entry hentry
    have hjudged := (inv.recorded _ stored hfind).judged entry hentry rfl
    refine ⟨stored, hfind, fun haccepted => ?_, fun haccepted => ?_⟩
    · rwa [haccepted] at hjudged
    · cases hdisposition : entry.receipt.disposition <;> rw [hdisposition] at hjudged haccepted
      · exact absurd rfl haccepted
      · have hsame : entry.observation.same stored.observation = true := hjudged
        simp [hsame]
      · have hsame : entry.observation.same stored.observation = false := hjudged
        simp [hsame]

/-- **At-least-once delivery is idempotent.**  In every run of deliverable deliveries each
submitted id is accepted once, later answers tell whether the observation equals the
stored one, and what is stored stays. -/
theorem runs_idempotent (h : Deliverable service deliveries)
    (hcollision : CollisionFree service deliveries) (schedule more : List (Nat × String)) :
    Idempotent service deliveries ((System.start service deliveries).run service schedule) ∧
      ∀ id stored,
        service.repository.find ((System.start service deliveries).run service schedule).store id =
          some stored →
        service.repository.find
            ((System.start service deliveries).run service (schedule ++ more)).store id =
          some stored := by
  obtain ⟨hinv, -⟩ := inv_run h hcollision schedule (inv_start h)
  refine ⟨hinv.idempotent, ?_⟩
  rw [System.run, System.run, List.foldl_append]
  exact (inv_run h hcollision more hinv).2

/-- A mapping with the id of the first, whose text is another, is in conflict. -/
theorem second_in_conflict {a b : Accepted} (ha : writesIntegers a.observation = true)
    (hb : writesIntegers b.observation = true) (hid : a.observation.id = b.observation.id)
    (hhash : service.contentHash (canonicalText service.floats a.observation) ≠
      service.contentHash (canonicalText service.floats b.observation)) (received_at : String) :
    let system := (System.start service [.single a, .single b]).run service
      [(0, received_at), (1, received_at)]
    service.repository.find system.store b.observation.id = some ⟨a.observation, received_at,
        service.contentHash (canonicalText service.floats a.observation)⟩ ∧
      ⟨1, b.observation, b.observation.id, .conflict, received_at⟩ ∈ system.log := by
  obtain ⟨-, hfirst⟩ := service.repository.put_absent ⟨a.observation, received_at,
    service.contentHash (canonicalText service.floats a.observation)⟩ service.repository.empty
    (service.repository.find_empty _)
  have hstored := (hfirst b.observation.id).trans (if_pos (congrArg Subtype.val hid.symm))
  obtain ⟨hput, hsecond⟩ := service.repository.put_present ⟨b.observation, received_at,
    service.contentHash (canonicalText service.floats b.observation)⟩ _ _ hstored
  rw [if_neg hhash] at hput
  have hstart := @System.step_eq _ service (.start service [.single a, .single b]) (0, received_at)
    (.mapping a.mapping) [] _ _ _ rfl
    (@ingest_eq _ service (.mapping a.mapping) _ a.accepted ha received_at service.repository.empty)
  intro system
  have hsystem : system = System.step service
      ((System.start service [.single a, .single b]).step service (0, received_at))
      (1, received_at) := rfl
  rw [hstart, @System.step_eq _ service _ (1, received_at) (.mapping b.mapping) [] _ _ _ rfl
    (@ingest_eq _ service (.mapping b.mapping) _ b.accepted hb received_at _)] at hsystem
  rw [hsystem]
  refine ⟨(hsecond _).trans hstored, List.mem_append_right _ (List.mem_singleton.mpr ?_)⟩
  exact congrArg (fun disposition =>
    (⟨1, b.observation, b.observation.id, disposition, received_at⟩ : Entry)) hput.symm

/-! ### A service in memory -/

/-- A digest without collisions: the text itself. -/
def textDigest (bytes : ByteArray) : String :=
  if h : bytes.IsValidUTF8 then ⟨bytes, h⟩ else ""

/-- A repository in memory. -/
def memoryRepository : ObservationRepository (List ObservationIngestRecord) where
  empty := []
  find records id := records.find? fun record => record.observation.id.1 = id
  putIfAbsent record records :=
    match records.find? fun stored => stored.observation.id.1 = record.observation.id.1 with
    | some stored =>
        (if stored.content_sha256 = record.content_sha256 then .duplicate else .conflict, records)
    | none => (.accepted, record :: records)
  find_empty _ := rfl
  put_absent record records h := by
    simp only [h]
    refine ⟨trivial, fun id => ?_⟩
    rw [List.find?_cons]
    by_cases hid : id = record.observation.id.1
    · simp [hid]
    · simp [hid, Ne.symm hid]
  put_present record records stored h := by
    simp only [h]
    exact ⟨trivial, fun _ => trivial⟩

/-- A service in memory. -/
def memoryService : ObservationIngestionService (List ObservationIngestRecord) :=
  ⟨memoryRepository, plainFloats, textDigest⟩

/-- An observation of a duck. -/
def duckSeen (category : StrippedText) (confidence : UnitInterval) : VisualObservation where
  id := ⟨"visual_observation:1", by decide⟩
  captured_at := ⟨"2026-07-01T10:00:00+00:00", by decide⟩
  observed_at := ⟨"2026-07-01T10:00:01+00:00", by decide⟩
  source := ⟨⟨"device:phone", by decide⟩, ⟨"camera:front", by decide⟩⟩
  detector_belief := {
    category, confidence
    bbox := ⟨⟨⟨0.25, by decide⟩, by decide⟩, ⟨⟨0.25, by decide⟩, by decide⟩,
      ⟨⟨0.5, by decide⟩, by decide⟩, ⟨⟨0.5, by decide⟩, by decide⟩, by decide⟩ }
  producer_profile_id := ⟨"vision_producer:detector", by decide⟩
  track := none
  candidate_hypotheses := ⟨[], by decide⟩
  item_hypotheses := ⟨[], by decide⟩
  observer_pose := none
  object_position_estimate := none
  artifacts := ⟨[], by decide⟩
  ordered := by decide

/-- The mapping of an observation is accepted. -/
def accept (value : VisualObservation) : Accepted :=
  ⟨reread (visualObservationAsMapping value), value, parseVisualObservation_reread value⟩

/-- A duck. -/
def duck : VisualObservation := duckSeen ⟨"duck", by decide, by decide⟩ ⟨⟨0.5, by decide⟩, by decide⟩

theorem runs_idempotent_duck :
    Idempotent memoryService [.single (accept duck), .replay [accept duck, accept duck]]
        ((System.start memoryService
          [.single (accept duck), .replay [accept duck, accept duck]]).run memoryService
          [(1, "t"), (0, "t")]) ∧
      ∀ id stored,
        memoryService.repository.find ((System.start memoryService
          [.single (accept duck), .replay [accept duck, accept duck]]).run memoryService
          [(1, "t"), (0, "t")]).store id = some stored →
        memoryService.repository.find ((System.start memoryService
          [.single (accept duck), .replay [accept duck, accept duck]]).run memoryService
          ([(1, "t"), (0, "t")] ++ [(1, "t")])).store id = some stored := by
  have hduck : ∀ a ∈ delivered [.single (accept duck), .replay [accept duck, accept duck]],
      a = duck := by
    simp [delivered, Delivery.observations, Delivery.values, accept]
  have hline : OneLine plainFloats duck := by
    have hall : ((canonicalText plainFloats duck).toList.all
        fun c => !(['\u0085', '\u2028', '\u2029'].contains c)) = true := by
      rw [canonicalText, dumps, String.toList_ofList]
      decide +kernel
    exact fun c hc => by simpa using List.all_eq_true.mp hall c hc
  refine runs_idempotent ⟨fun a ha => ?_, fun values hvalues value hvalue => ?_,
    fun a ha b hb _ _ => (hduck a ha).trans (hduck b hb).symm⟩
    (fun a ha b hb _ => by rw [hduck a ha, hduck b hb]) _ _
  · rw [hduck a ha]
    decide
  · simp only [List.mem_cons, reduceCtorEq, Delivery.replay.injEq, List.not_mem_nil, or_false,
      false_or] at hvalues
    subst hvalues
    simp only [List.mem_cons, List.not_mem_nil, or_false, or_self] at hvalue
    subst hvalue
    exact hline

/-- A confidence of `0.0`. -/
def zeroDuck : VisualObservation :=
  duckSeen ⟨"duck", by decide, by decide⟩ ⟨⟨0.0, by decide⟩, by decide⟩

/-- A confidence of `-0.0`. -/
def negativeZeroDuck : VisualObservation :=
  duckSeen ⟨"duck", by decide, by decide⟩ ⟨⟨-0.0, by decide⟩, by decide⟩

theorem contentHash_memoryService (text : String) : memoryService.contentHash text = text := by
  exact dif_pos text.isValidUTF8

/-- **Equal observations in conflict.**  `0.0 == -0.0`, but they are written differently. -/
theorem zeros_in_conflict :
    CollisionFree memoryService [.single (accept zeroDuck), .single (accept negativeZeroDuck)] ∧
      ¬Idempotent memoryService [.single (accept zeroDuck), .single (accept negativeZeroDuck)]
        ((System.start memoryService
          [.single (accept zeroDuck), .single (accept negativeZeroDuck)]).run memoryService
          [(0, "t"), (1, "t")]) := by
  have hne : zeroDuck ≠ negativeZeroDuck := by
    intro heq
    have hzero := congrArg (fun value => value.detector_belief.confidence.1.1.toBits) heq
    exact absurd hzero (by decide)
  constructor
  · intro a _ b _ h
    rwa [contentHash_memoryService, contentHash_memoryService] at h
  · intro hidempotent
    have hhash : memoryService.contentHash (canonicalText memoryService.floats zeroDuck) ≠
        memoryService.contentHash (canonicalText memoryService.floats negativeZeroDuck) := by
      rw [contentHash_memoryService, contentHash_memoryService]
      exact fun h => hne (canonicalText_injective h)
    obtain ⟨hfind, hentry⟩ := @second_in_conflict _ memoryService (accept zeroDuck) (accept negativeZeroDuck)
      (by decide) (by decide) rfl hhash "t"
    obtain ⟨stored, hstored, -, hjudged⟩ := hidempotent.judged _ hentry
    obtain rfl := Option.some.inj (hfind.symm.trans hstored)
    have hdiffer := (hjudged (by decide)).2.mp rfl
    exact absurd hdiffer (by decide)

end Vision
end HomeCortex
