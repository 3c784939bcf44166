/-
# Surveyed anchors embedded in a space

`spatial/localization/anchors.py` and the measured vectors of
`spatial/localization/pose.py`.  An anchor is parsed into `SurveyedAnchor`
(positions in meters, orientations in radians) and written back as a mapping
without its space, which the space record owns.
-/

import HomeCortex.Spatial.Units
import HomeCortex.Persistence.RecordIds

namespace HomeCortex
namespace Spatial

/-- `transforms.Position`. -/
structure Position where
  x : Float
  y : Float
  z : Float
deriving DecidableEq

/-- `transforms.Orientation`. -/
structure Orientation where
  yaw : Float
  pitch : Float
  roll : Float
deriving DecidableEq

/-- `AnchorRecognition`; the marker id is a string, an integer or absent. -/
structure AnchorRecognition where
  family : String
  marker_id : Option Json
deriving DecidableEq

/-- `AnchorSurvey`. -/
structure AnchorSurvey where
  method : String
  uncertainty_m : Option Float
deriving DecidableEq

/-- `SurveyedAnchor`: a tape-measured reference in a space. -/
structure SurveyedAnchor where
  id : String
  space : String
  position : Position
  kind : String
  orientation : Option Orientation
  recognition : Option AnchorRecognition
  survey : Option AnchorSurvey
deriving DecidableEq

def ANCHOR_KINDS : List String := ["fiducial", "natural_landmark", "dock", "survey_point"]

def ANCHOR_FIELDS : List String :=
  ["id", "kind", "orientation", "position", "recognition", "space", "survey", "type"]

/-- `LOCAL_ANCHOR_ID.fullmatch`: `[A-Za-z][A-Za-z0-9_-]*`. -/
def isLocalAnchorId (value : String) : Bool :=
  match value.toList with
  | [] => false
  | c :: cs => c.isAlpha && cs.all isKeyChar

/-- The required fields of a measured vector, all named in the error when some
are missing. -/
def requireVector (item : Fields) (field : String) (names : List String) :
    Except PyError Unit :=
  let missing := names.filter fun name => !item.has name
  if missing.isEmpty then .ok ()
  else .error (.spatialContract (field ++ " requires " ++ ", ".intercalate names ++
    "; missing " ++ ", ".intercalate (missing.insertionSort (· ≤ ·))))

/-- `measured_position`. -/
def measuredPosition (value : Json) : Except PyError Position := do
  let item ← localObject value "position" ["x", "y", "z"]
  requireVector item "position" ["x", "y", "z"]
  unitErrorAsContract do
    return ⟨← asMeters (item.getD "x"), ← asMeters (item.getD "y"), ← asMeters (item.getD "z")⟩

/-- `measured_orientation`. -/
def measuredOrientation (value : Json) : Except PyError Orientation := do
  let item ← localObject value "orientation" ["yaw", "pitch", "roll"]
  requireVector item "orientation" ["yaw", "pitch", "roll"]
  unitErrorAsContract do
    return ⟨← asRadians (item.getD "yaw"), ← asRadians (item.getD "pitch"),
      ← asRadians (item.getD "roll")⟩

/-- A string that is not blank, else the error. -/
def nonBlank (value : Option Json) (error : PyError) : Except PyError String :=
  match value with
  | some (.str text) => if isBlank text then .error error else .ok text
  | _ => .error error

/-- `_recognition`. -/
def recognitionOf (value : Json) : Except PyError AnchorRecognition := do
  let item ← localObject value "recognition" ["family", "marker_id"]
  let family ← nonBlank (item.get? "family")
    (.spatialContract "recognition.family must be a non-empty string")
  match item.getD "marker_id" with
  | .null => return ⟨family, none⟩
  | .str marker => return ⟨family, some (.str marker)⟩
  | .int marker =>
      raiseIf (marker < 0) (.spatialContract "recognition.marker_id must be non-negative")
      return ⟨family, some (.int marker)⟩
  | _ => throw (.spatialContract "recognition.marker_id must be a string or integer")

/-- `_survey`. -/
def surveyOf (value : Json) : Except PyError AnchorSurvey := do
  let item ← localObject value "survey" ["method", "uncertainty_m"]
  let method ← nonBlank (item.get? "method")
    (.spatialContract "survey.method must be a non-empty string")
  match item.get? "uncertainty_m" with
  | none => return ⟨method, none⟩
  | some length =>
      let uncertainty ← unitErrorAsContract (asMeters length)
      raiseIf (!uncertainty.isFinite || decide (uncertainty < 0.0))
        (.spatialContract "survey.uncertainty_m must be a finite non-negative length")
      return ⟨method, some uncertainty⟩

/-- `parse_local_anchor_id` for an anchor of the space `space`. -/
def parseLocalAnchorId (value : Option Json) (space : String) : Except PyError String := do
  let token := PyError.spatialContract "anchor id must be a local token"
  let text ← nonBlank value (.spatialContract "anchor id must be a string")
  if text.toList.contains '#' then
    let owner := String.ofList (text.toList.takeWhile (· != '#'))
    let localId := String.ofList ((text.toList.dropWhile (· != '#')).drop 1)
    raiseIf (owner ≠ space) (.spatialContract "anchor id space does not match owning space")
    if isLocalAnchorId localId then return localId else throw token
  else if text.toList.contains ':' then
    match splitRecordId text with
    | .error _ => throw token
    | .ok (table, key) =>
        raiseIf (table ≠ "anchor") (.spatialContract "anchor id must not use a non-anchor table")
        if isLocalAnchorId key then return key else throw token
  else if isLocalAnchorId text then return text else throw token

/-- `parse_surveyed_anchor` with the owning space's id given. -/
def parseSurveyedAnchor (value : Json) (space : Json) : Except PyError SurveyedAnchor := do
  match value.asObject? with
  | none => throw (.spatialContract "surveyed anchor must be an object")
  | some fields =>
    raiseIf (!(fields.extra ANCHOR_FIELDS).isEmpty)
      (.spatialContract ("Unknown surveyed anchor fields: " ++
        ", ".intercalate (fields.extra ANCHOR_FIELDS)))
    match fields.get? "type", fields.get? "kind" with
    | some type, some kind =>
        raiseIf (type ≠ kind) (.spatialContract "surveyed anchor type and kind must match")
    | _, _ => pure ()
    let kind ← match ((fields.get? "kind").orElse fun _ => fields.get? "type").getD
        (.str "survey_point") with
      | .str kind =>
          if ANCHOR_KINDS.contains kind then pure kind
          else throw (.spatialContract ("surveyed anchor type must be fiducial, " ++
            "natural_landmark, dock, or survey_point"))
      | _ => throw (.spatialContract ("surveyed anchor type must be fiducial, " ++
            "natural_landmark, dock, or survey_point"))
    raiseIf (!fields.has "position") (.spatialContract "surveyed anchor requires position")
    let spaceId ← match space with
      | .str id => if id = "" then pure (fields.get? "space") else pure (some (.str id))
      | _ => pure (fields.get? "space")
    match spaceId with
    | some (.str spaceId) =>
        match splitRecordId spaceId with
        | .error _ => throw (.spatialContract "space must be a space: record ID")
        | .ok (table, _) =>
          raiseIf (table ≠ "space") (.spatialContract "space must be a space: record ID")
          let id ← parseLocalAnchorId (fields.get? "id") spaceId
          let position ← measuredPosition (fields.getD "position")
          let orientation ← (fields.get? "orientation").mapM measuredOrientation
          let recognition ← (fields.get? "recognition").mapM recognitionOf
          let survey ← (fields.get? "survey").mapM surveyOf
          return ⟨id, spaceId, position, kind, orientation, recognition, survey⟩
    | _ => throw (.spatialContract "surveyed anchor requires a space")

/-- The first name that was already seen, or occurred before. -/
def firstRepeated (seen : List String) : List String → Option String
  | [] => none
  | name :: rest => if seen.contains name then some name else firstRepeated (name :: seen) rest

/-- `parse_embedded_anchors`: pairwise different local ids. -/
def parseEmbeddedAnchors (values : Json) (space : Json) :
    Except PyError (List SurveyedAnchor) := do
  match values with
  | .null => return []
  | .arr items =>
      let anchors ← items.mapM fun item => parseSurveyedAnchor item space
      match firstRepeated [] (anchors.map SurveyedAnchor.id) with
      | some id => throw (.spatialContract ("Duplicate surveyed anchor ID " ++ id))
      | none => return anchors
  | _ => throw (.spatialContract "surveyed anchors must be a list")

/-- `embedded_anchor_as_mapping`: the mapping of an anchor without its space. -/
def embeddedAnchorAsMapping (anchor : SurveyedAnchor) : Json :=
  .obj ([("id", .str anchor.id), ("type", .str anchor.kind),
      ("position", .obj [("x", .float anchor.position.x), ("y", .float anchor.position.y),
        ("z", .float anchor.position.z)])]
    ++ (match anchor.orientation with
      | some o => [("orientation",
          .obj [("yaw", .float o.yaw), ("pitch", .float o.pitch), ("roll", .float o.roll)])]
      | none => [])
    ++ (match anchor.recognition with
      | some r => [("recognition", .obj (("family", .str r.family) ::
          (match r.marker_id with
            | some marker => [("marker_id", marker)]
            | none => [])))]
      | none => [])
    ++ (match anchor.survey with
      | some s => [("survey", .obj (("method", .str s.method) ::
          (match s.uncertainty_m with
            | some u => [("uncertainty_m", .float u)]
            | none => [])))]
      | none => []))

end Spatial
end HomeCortex
