/-
# Observation ingestion

`vision/ports.py`.  `ObservationIngestionService.ingest` parses an observation where it is
given as a mapping, hashes its canonical text and puts it into the repository, unless
its id is there.  `ingest_many` and `replay_jsonl` submit several observations one after
the other.  Every call is suspended at its repository only, so a run of several calls is
a sequence of puts, each of one call.
-/

import HomeCortex.Vision.Canonical

namespace HomeCortex
namespace Vision

/-- `ObservationIngestRecord`. -/
structure ObservationIngestRecord where
  observation : VisualObservation
  received_at : String
  content_sha256 : String

/-- `WriteDisposition`. -/
inductive WriteDisposition where
  | accepted
  | duplicate
  | conflict
deriving DecidableEq, Repr

/-- `ObservationReceipt`. -/
structure ObservationReceipt where
  observation_id : String
  disposition : WriteDisposition
  received_at : String

/-- `ObservationRepository`, as the service relies on it: `put_if_absent` is one step that
stores the first record of an id and compares the hash of every later one. -/
structure ObservationRepository (σ : Type) where
  empty : σ
  find : σ → String → Option ObservationIngestRecord
  putIfAbsent : ObservationIngestRecord → σ → WriteDisposition × σ
  find_empty : ∀ id, find empty id = none
  put_absent : ∀ record store, find store record.observation.id = none →
    (putIfAbsent record store).1 = .accepted ∧
      ∀ id, find (putIfAbsent record store).2 id =
        if id = record.observation.id.1 then some record else find store id
  put_present : ∀ record store stored, find store record.observation.id = some stored →
    (putIfAbsent record store).1 =
        (if stored.content_sha256 = record.content_sha256 then .duplicate else .conflict) ∧
      ∀ id, find (putIfAbsent record store).2 id = find store id

/-- `ObservationIngestionService`: its repository, `float.__repr__` and the SHA-256 digest. -/
structure ObservationIngestionService (σ : Type) where
  repository : ObservationRepository σ
  floats : FloatFormat
  sha256 : ByteArray → String

/-- `VisualObservation | Mapping[str, Any]`. -/
inductive Submission where
  | observation (value : VisualObservation)
  | mapping (value : Json)

/-- The observation of a submission. -/
def Submission.parse : Submission → Except PyError VisualObservation
  | .observation value => .ok value
  | .mapping value => parseVisualObservation value

/-- A call of the service. -/
inductive Call where
  | ingest (value : Submission)
  | ingestMany (values : List Submission)
  | replayJsonl (text : String)

namespace ObservationIngestionService

variable {σ : Type} (service : ObservationIngestionService σ)

/-- The digest of a canonical text. -/
def contentHash (canonical : String) : String := service.sha256 canonical.toUTF8

/-- `ingest`; `received_at` is the text of the clock, which is aware. -/
def ingest (value : Submission) (received_at : String) (store : σ) :
    Except PyError ((VisualObservation × ObservationReceipt) × σ) := do
  let observation ← value.parse
  let canonical ← dumpsObservation service.floats observation
  let record := ⟨observation, received_at, service.contentHash canonical⟩
  let (disposition, store) := service.repository.putIfAbsent record store
  return ((observation, ⟨observation.id, disposition, received_at⟩), store)

/-- What a call has yet to submit; `replay_jsonl` parses its text before it submits. -/
def start : Call → Except PyError (List Submission)
  | .ingest value => .ok [value]
  | .ingestMany values => .ok values
  | .replayJsonl text =>
      (parseObservationsJsonl service.floats text).map fun values => values.map .observation

end ObservationIngestionService

/-! ### Runs -/

/-- An answered submission, with the number of its call. -/
structure Entry where
  call : Nat
  observation : VisualObservation
  receipt : ObservationReceipt

/-- Calls in progress: what each has yet to submit, or what it has raised, and the answers
so far. -/
structure System (σ : Type) where
  store : σ
  tasks : Nat → Except PyError (List Submission)
  log : List Entry

namespace System

variable {σ : Type} (service : ObservationIngestionService σ)

/-- The next submission of one call. -/
def step (system : System σ) (event : Nat × String) : System σ :=
  match system.tasks event.1 with
  | .ok (value :: values) =>
      match service.ingest value event.2 system.store with
      | .ok ((observation, receipt), store) =>
          { store
            tasks := Function.update system.tasks event.1 (.ok values)
            log := system.log ++ [⟨event.1, observation, receipt⟩] }
      | .error error =>
          { system with tasks := Function.update system.tasks event.1 (.error error) }
  | _ => system

/-- The submissions in the order of a schedule: the number of the call, and the clock. -/
def run (system : System σ) (schedule : List (Nat × String)) : System σ :=
  schedule.foldl (step service) system

end System

/-! ### Deliveries -/

/-- A mapping that is accepted. -/
structure Accepted where
  mapping : Json
  observation : VisualObservation
  accepted : parseVisualObservation mapping = .ok observation

/-- How accepted mappings are delivered; a replay writes their observations as JSON lines. -/
inductive Delivery where
  | single (value : Accepted)
  | many (values : List Accepted)
  | replay (values : List Accepted)

namespace Delivery

/-- The delivered mappings. -/
def values : Delivery → List Accepted
  | single value => [value]
  | many values => values
  | replay values => values

/-- The delivered observations. -/
def observations (delivery : Delivery) : List VisualObservation :=
  delivery.values.map Accepted.observation

/-- The call of a delivery. -/
def call (floats : FloatFormat) : Delivery → Except PyError Call
  | single value => .ok (.ingest (.mapping value.mapping))
  | many values => .ok (.ingestMany (values.map fun value => .mapping value.mapping))
  | replay values =>
      (dumpsObservationsJsonl floats (values.map Accepted.observation)).map .replayJsonl

end Delivery

/-- The start of a system for some deliveries. -/
def System.start {σ : Type} (service : ObservationIngestionService σ)
    (deliveries : List Delivery) : System σ where
  store := service.repository.empty
  tasks index := match deliveries[index]? with
    | some delivery => (delivery.call service.floats) >>= service.start
    | none => .ok []
  log := []

end Vision
end HomeCortex
