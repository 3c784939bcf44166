/-
# Malformed values on the wire

The six parsers of values that clients send, and what becomes of a telemetry sample that is
refused: `submit_telemetry` parses it before it looks at the session, so a refused sample leaves
the session as it was.  The route answers a contract error as an invalid sample; any other
exception is a server error, and `wire_parsers_reject` says exactly when there is one.
-/

import HomeCortex.Agents.Session
import HomeCortex.Spatial.TelemetryRejections
import HomeCortex.Vision.Rejections

namespace HomeCortex
namespace Api

open Except Spatial Vision

/-- A refused sample leaves the session as it was. -/
theorem submitTelemetry_refused {value : Json} {e : PyError}
    (h : physicalTelemetryFromMapping value = .error e) (session : EmbodimentSession)
    (session_id : Option String) (now : Option Timestamp) (clock clock' : Int) :
    (EmbodimentSession.submitTelemetry (.mapping value) session_id now clock clock').outcome session
      = (.error e, session) := by
  rw [EmbodimentSession.submitTelemetry, Raising.outcome_bind]
  have hparse : (liftM (TelemetrySample.mapping value).parse : SessionM PhysicalTelemetry).outcome
      session = (.error e, session) := by
    rw [TelemetrySample.parse, h]
    rfl
  rw [hparse]

/-- **What the wire parsers raise**, and what a refused sample does. -/
theorem wire_parsers_reject (value : Json) (space : Json) :
    (RaisesOnly SpatialContractError (embodimentFromMapping value) ↔ EmbodimentFits value) ∧
    (RaisesOnly SpatialContractError (physicalTelemetryFromMapping value) ↔ TelemetryFits value) ∧
    (RaisesOnly SpatialContractError (parseRuntimePose value) ↔ RuntimePoseFits value) ∧
    (RaisesOnly SpatialContractError (parseSurveyedAnchor value space) ↔ AnchorFits value space) ∧
    (RaisesOnly SpatialContractError (parseFiducialObservation value) ↔ FiducialFits value) ∧
    (RaisesOnly VisionContractError (parseVisualObservation value) ↔ ObservationFits value) ∧
    ∀ e, physicalTelemetryFromMapping value = .error e →
      ∀ session session_id now clock clock',
        (EmbodimentSession.submitTelemetry (.mapping value) session_id now clock clock').outcome
          session = (.error e, session) :=
  ⟨raisesOnly_embodimentFromMapping rejects_spatialContract value,
    raisesOnly_physicalTelemetryFromMapping rejects_spatialContract value,
    raisesOnly_parseRuntimePose rejects_spatialContract value,
    raisesOnly_parseSurveyedAnchor rejects_spatialContract value space,
    raisesOnly_parseFiducialObservation rejects_spatialContract value,
    raisesOnly_parseVisualObservation value,
    fun _ h session session_id now clock clock' =>
      submitTelemetry_refused h session session_id now clock clock'⟩

/-- A sample without an estimate. -/
def noEstimateSample (measured_at : String) : Json := .obj [
  ("embodiment_id", .str "embodiment:robot"), ("space_id", .null),
  ("measured_at", .str measured_at), ("validity", .str "no_estimate"), ("transform", .null)]

/-- A fiducial observation with a given error. -/
def hallFiducial (reprojection_error_px : Json) : Json := .obj [
  ("anchor", .str "hall"), ("timestamp", .str "2026-07-01T10:00:00"),
  ("position", .obj [("x", .int 0), ("y", .int 0), ("z", .int 0)]),
  ("orientation", .obj [("yaw", .int 0), ("pitch", .int 0), ("roll", .int 0)]),
  ("reprojection_error_px", reprojection_error_px)]

/-- The first hour of the calendar in a zone east of Greenwich, and an integer of 401 digits. -/
theorem overflow_escapes :
    ¬ RaisesOnly SpatialContractError
        (physicalTelemetryFromMapping (noEstimateSample "0001-01-01T00:00:00+01:00")) ∧
      ¬ RaisesOnly SpatialContractError
        (parseFiducialObservation (hallFiducial (.int (10 ^ 400)))) := by
  have htime : physicalTelemetryFromMapping (noEstimateSample "0001-01-01T00:00:00+01:00") =
      .error dateOverflow := by decide +kernel
  have hnumber : (parseFiducialObservation (hallFiducial (.int (10 ^ 400)))).map (fun _ => ()) =
      .error (.overflow "int too large to convert to float") := by decide +kernel
  refine ⟨fun h => ?_, fun h => ?_⟩
  · obtain ⟨_, he⟩ := h _ htime
    cases he
  · obtain ⟨_, he⟩ := raisesOnly_map.mpr h _ hnumber
    cases he

end Api
end HomeCortex
