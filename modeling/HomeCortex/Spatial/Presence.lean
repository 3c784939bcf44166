/-
# The latest telemetry of registered bodies

`spatial/presence.py`.  `EmbodimentPresence` keeps one sample for each registered
body: a newer sample replaces it, the same sample may come again, an older one is
ignored, and another sample of the same time is refused.  The methods are
computations that may raise (`HomeCortex.Library.Raising`), each under the lock of
the object from its first read to its last write.
-/

import HomeCortex.Common.Numbers
import HomeCortex.Library.Raising
import HomeCortex.Library.Table
import HomeCortex.Spatial.Telemetry
import Mathlib

namespace HomeCortex
namespace Spatial

/-- `TelemetryStatus`. -/
structure TelemetryStatus where
  valid : Bool
  unavailable : Bool
  fresh : Bool
  stale : Bool
  stale_after_s : Float
deriving DecidableEq

/-- `EmbodimentTelemetryState`. -/
structure EmbodimentTelemetryState where
  embodiment_id : String
  telemetry : Option PhysicalTelemetry
  status : TelemetryStatus
deriving DecidableEq

/-- The values of `disposition` of an admission. -/
inductive TelemetryDisposition where
  | accepted
  | duplicate
  | ignored
deriving DecidableEq, Repr

/-- `TelemetryAdmission`. -/
structure TelemetryAdmission where
  disposition : TelemetryDisposition
  state : EmbodimentTelemetryState
deriving DecidableEq

/-- `derive_telemetry_status`, for a window that the constructor has checked. -/
def deriveTelemetryStatus (telemetry : Option PhysicalTelemetry) (now : Int)
    (stale_after_s : Float) : TelemetryStatus :=
  match telemetry with
  | some sample =>
      if sample.validity = .valid ∧ sample.transform.isSome = true then
        let age := roundedQuotient (now - sample.measured_at) 1000000
        ⟨true, false, decide (0.0 ≤ age) && decide (age ≤ stale_after_s),
          decide (stale_after_s < age), stale_after_s⟩
      else ⟨false, true, false, false, stale_after_s⟩
  | none => ⟨false, true, false, false, stale_after_s⟩

/-- `EmbodimentPresence`. -/
structure EmbodimentPresence where
  stale_after_s : Float
  embodiments : Finset String
  spaces : Finset String
  current : Table String PhysicalTelemetry
  window : stale_after_s.isFinite = true ∧ decide (stale_after_s < 0.0) = false

/-- `_measured_at(now if now is not None else datetime.now(timezone.utc))`. -/
def observed (now : Option Timestamp) (clock : Int) : Except PyError Int :=
  match now with
  | some now => measuredAt now
  | none => .ok clock

namespace EmbodimentPresence

/-- `register_embodiment`. -/
def registerEmbodiment (embodiment_id : String) : Raising EmbodimentPresence PyError Unit := do
  let parsed ← typedId (.str embodiment_id) "embodiment" "embodiment_id"
  modify fun presence => { presence with embodiments := insert parsed presence.embodiments }

/-- `_require_embodiment`. -/
def requireEmbodiment (presence : EmbodimentPresence) (embodiment_id : String) :
    Except PyError Unit := do
  let parsed ← typedId (.str embodiment_id) "embodiment" "embodiment_id"
  raiseIf (decide (parsed ∉ presence.embodiments))
    (.telemetryAdmission "unknown_embodiment" "Embodiment is not registered")

/-- The space of a sample is registered. -/
def requireSpace (presence : EmbodimentPresence) (space_id : Option String) :
    Except PyError Unit :=
  raiseIf (space_id.any fun space => decide (space ∉ presence.spaces))
    (.telemetryAdmission "unknown_space" "Telemetry space is not a registered space")

/-- What becomes of a sample beside the current one. -/
def disposition (current : Option PhysicalTelemetry) (parsed : PhysicalTelemetry) :
    Except PyError TelemetryDisposition :=
  match current with
  | none => .ok .accepted
  | some current =>
      if current.measured_at < parsed.measured_at then .ok .accepted
      else if parsed.same current then .ok .duplicate
      else if parsed.measured_at = current.measured_at then
        .error (.telemetryAdmission "conflicting_sample"
          "A different sample with this measured_at is already current")
      else .ok .ignored

/-- `submit` of a parsed sample. -/
def submit (parsed : PhysicalTelemetry) (now : Option Timestamp) (clock : Int) :
    Raising EmbodimentPresence PyError TelemetryAdmission := do
  let observed ← observed now clock
  let presence ← get
  presence.requireEmbodiment parsed.embodiment_id
  presence.requireSpace parsed.space_id
  let current := presence.current.lookup parsed.embodiment_id
  let disposition ← disposition current parsed
  if disposition = .accepted then
    modify fun presence =>
      { presence with current := presence.current.insert parsed.embodiment_id parsed }
  let stored := if disposition = .accepted then some parsed else current
  return ⟨disposition, parsed.embodiment_id, stored,
    deriveTelemetryStatus stored observed presence.stale_after_s⟩

end EmbodimentPresence
end Spatial
end HomeCortex
