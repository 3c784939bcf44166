/-
# Fiducial observations

`spatial/localization/observation.py`.  A detector reports where it saw a surveyed anchor, in
the frame of the camera, and how well.  The anchor is named by its local token, with or without
the space that owns it.
-/

import HomeCortex.Spatial.RuntimePose

namespace HomeCortex
namespace Spatial

/-- `_OBSERVATION_FIELDS`. -/
def FIDUCIAL_FIELDS : List String := ["anchor", "anchor_id", "confidence", "orientation",
  "position", "reprojection_error_px", "timestamp"]

/-- A number in `[0, 1]`. -/
abbrev Confidence := {x : FiniteFloat // ¬(x.1 < 0.0 ∨ 1.0 < x.1)}

/-- `FiducialObservation`. -/
structure FiducialObservation where
  anchor_id : {id : String // isLocalAnchorId id = true}
  pose : Pose
  timestamp : {text : String // isTimestamp text = true}
  confidence : Option Confidence
  reprojection_error_px : Option SigmaTerm

/-- `_unit_interval`. -/
def unitConfidence (value : Json) (field : String) : Except PyError Confidence := do
  let error := PyError.spatialContract (field ++ " must be a finite number in [0, 1]")
  let x ← checkedFinite value error
  if h : x.1 < 0.0 ∨ 1.0 < x.1 then throw error else return ⟨x, h⟩

/-- `_non_negative`. -/
def nonNegative (value : Json) (field : String) : Except PyError SigmaTerm :=
  let error := PyError.spatialContract (field ++ " must be a finite non-negative number")
  sigmaTerm value error error

/-- The local token of an anchor, checked. -/
def localToken (id : String) : Except PyError {id : String // isLocalAnchorId id = true} :=
  if h : isLocalAnchorId id = true then .ok ⟨id, h⟩
  else .error (.spatialContract "anchor id must be a local token")

/-- `parse_local_anchor_id` without an owning space. -/
def parseAnchorId (value : Option Json) :
    Except PyError {id : String // isLocalAnchorId id = true} := do
  let text ← nonBlank value (.spatialContract "anchor id must be a string")
  if text.toList.contains '#' then
    localToken (String.ofList ((text.toList.dropWhile (· != '#')).drop 1))
  else if text.toList.contains ':' then
    match splitRecordId text with
    | .error _ => throw (.spatialContract "anchor id must be a local token")
    | .ok (table, key) =>
        raiseIf (table ≠ "anchor") (.spatialContract "anchor id must not use a non-anchor table")
        localToken key
  else localToken text

/-- `value.get("anchor", value.get("anchor_id"))`. -/
def rawAnchorId (item : Fields) : Option Json :=
  (item.get? "anchor").orElse fun _ => item.get? "anchor_id"

/-- `parse_fiducial_observation`. -/
def parseFiducialObservation (value : Json) : Except PyError FiducialObservation := do
  let item ← localObject value "fiducial observation" FIDUCIAL_FIELDS
  raiseIf (!item.has "position" || !item.has "orientation")
    (.spatialContract "fiducial observation requires position and orientation")
  raiseIf (!item.has "timestamp") (.spatialContract "fiducial observation requires timestamp")
  let confidence ← (item.get? "confidence").mapM fun value => unitConfidence value "confidence"
  let error_px ← (item.get? "reprojection_error_px").mapM fun value =>
    nonNegative value "reprojection_error_px"
  let position ← measuredPosition (item.getD "position")
  let orientation ← measuredOrientation (item.getD "orientation")
  let anchor_id ← parseAnchorId (rawAnchorId item)
  let pose ← pose position orientation
  let timestamp ← poseTimestamp (item.getD "timestamp")
  return ⟨anchor_id, pose, timestamp, confidence, error_px⟩

end Spatial
end HomeCortex
