/-
# Visual observations

`vision/contracts.py`, as far as observations go.  `parse_visual_observation` turns a
mapping into a `VisualObservation`, whose parts carry what was checked: stripped texts,
typed ids, aware and ordered times, numbers of the unit interval, boxes with an area,
hypotheses without repetition, and artifacts that are no clips.
`visual_observation_as_mapping` writes it back.
-/

import HomeCortex.Common.Display
import HomeCortex.Spatial.RuntimePose
import Mathlib

namespace HomeCortex
namespace Vision

open Spatial Display

/-- `VisionContractError(message)`. -/
def contractError (message : String) : PyError := .visionContract message

/-! ### Texts, ids and times -/

/-- `_object`: a dict without further fields. -/
def object (value : Json) (field : String) (allowed : List String) : Except PyError Fields :=
  match value.asObject? with
  | some fields =>
      if (fields.extra allowed).isEmpty then .ok fields
      else .error (contractError ("Unknown " ++ field ++ " fields: " ++
        ", ".intercalate (fields.extra allowed)))
  | none => .error (contractError (field ++ " must be an object"))

/-- `_sequence`. -/
def sequence (value : Json) (field : String) : Except PyError (List Json) :=
  match value with
  | .arr items => .ok items
  | _ => .error (contractError (field ++ " must be a list"))

/-- `_typed_id`. -/
def typedId (value : Json) (field table : String) : Except PyError (TypedId table) :=
  checkedText (isTypedId table) value (contractError (field ++ " must be a " ++ table ++ ": record ID"))

/-- A text that `_timestamp` accepts. -/
def isAware (text : String) : Bool :=
  isFilled text && ((datetimeFromIsoformat text).bind PyDatetime.offset).isSome

/-- An ISO-8601 text with an offset. -/
abbrev AwareText := {text : String // isAware text = true}

/-- `_timestamp`. -/
def timestamp (value : Json) (field : String) : Except PyError AwareText :=
  checkedText isAware value (contractError (field ++ " must be a timezone-aware ISO-8601 string"))

/-- `datetime.fromisoformat(end) < datetime.fromisoformat(start)`. -/
def precedes (finish start : AwareText) : Bool :=
  match datetimeFromIsoformat finish, datetimeFromIsoformat start with
  | some finish, some start => finish.utcMicros < start.utcMicros
  | _, _ => false

/-- A text that is not blank and has no white space around it. -/
abbrev StrippedText := {text : String // isFilled text = true ∧ strip text = text}

theorem strip_strip (cs : List Char) :
    let stripped := (cs.dropWhile isSpace).rdropWhile isSpace
    (stripped.dropWhile isSpace).rdropWhile isSpace = stripped ∧
      (stripped.all isSpace = true → cs.all isSpace = true) := by
  intro stripped
  have hhead : stripped ≠ [] → ∃ c rest, stripped = c :: rest ∧ isSpace c = false := by
    intro hne
    obtain ⟨c, rest, hcons⟩ := List.exists_cons_of_ne_nil hne
    obtain ⟨more, hmore⟩ := List.rdropWhile_prefix isSpace (cs.dropWhile isSpace)
    have hcons : (cs.dropWhile isSpace).rdropWhile isSpace = c :: rest := hcons
    rw [hcons] at hmore
    have hnot := List.head?_dropWhile_not isSpace cs
    rw [← hmore] at hnot
    exact ⟨c, rest, hcons, by simpa using hnot⟩
  constructor
  · rcases eq_or_ne stripped [] with hnil | hne
    · rw [hnil]
      rfl
    · obtain ⟨c, rest, hcons, hc⟩ := hhead hne
      have hdrop : stripped.dropWhile isSpace = stripped := by
        rw [hcons, List.dropWhile_cons_of_neg (by simp [hc])]
      rw [hdrop]
      exact List.rdropWhile_idempotent isSpace _
  · intro hall
    have hnil : stripped = [] := by
      by_contra hne
      obtain ⟨c, rest, hcons, hc⟩ := hhead hne
      rw [hcons] at hall
      simp [hc] at hall
    have hdropped := List.rdropWhile_eq_nil_iff.mp hnil
    rw [← List.takeWhile_append_dropWhile (p := isSpace) (l := cs), List.all_append]
    simp only [Bool.and_eq_true, List.all_eq_true]
    exact ⟨fun c hc => List.all_eq_true.mp List.all_takeWhile c hc, fun c hc => by simpa using hdropped c hc⟩

/-- What `strip` leaves of a text that is not blank. -/
theorem strip_checked {text : String} (h : isFilled text = true) :
    isFilled (strip text) = true ∧ strip (strip text) = strip text := by
  obtain ⟨hstrip, hblank⟩ := strip_strip text.toList
  constructor
  · rw [isFilled, isBlank, Bool.not_eq_true', ← Bool.not_eq_true]
    intro hall
    rw [isFilled, isBlank, Bool.not_eq_true', ← Bool.not_eq_true] at h
    exact h (hblank (by simpa [strip, String.toList_ofList, List.rdropWhile] using hall))
  · rw [strip, strip, String.toList_ofList]
    exact congrArg String.ofList hstrip

/-- `_text`. -/
def text (value : Json) (field : String) : Except PyError StrippedText :=
  let error := contractError (field ++ " must be a non-empty string")
  match value with
  | .str text =>
      if h : isFilled text = true then .ok ⟨strip text, strip_checked h⟩ else .error error
  | _ => .error error

/-! ### Numbers -/

/-- `_finite`. -/
def finite (value : Json) (field : String) : Except PyError FiniteFloat :=
  checkedFinite value (contractError (field ++ " must be a finite number"))

/-- A number in `[0, 1]`. -/
abbrev UnitInterval := {x : FiniteFloat // ¬(x.1 < 0.0 ∨ 1.0 < x.1)}

/-- `_unit_interval`. -/
def unitInterval (value : Json) (field : String) : Except PyError UnitInterval := do
  let x ← finite value field
  if h : x.1 < 0.0 ∨ 1.0 < x.1 then
    throw (contractError (field ++ " must be a finite number in [0, 1]"))
  else return ⟨x, h⟩

/-- `BoundingBox`. -/
structure BoundingBox where
  x_min : UnitInterval
  y_min : UnitInterval
  x_max : UnitInterval
  y_max : UnitInterval
  ordered : x_min.1.1 < x_max.1.1 ∧ y_min.1.1 < y_max.1.1

/-- `_bbox`. -/
def bbox (value : Json) : Except PyError BoundingBox := do
  let item ← object value "bbox" ["x_max", "x_min", "y_max", "y_min"]
  let x_min ← unitInterval (item.getD "x_min") "bbox.x_min"
  let y_min ← unitInterval (item.getD "y_min") "bbox.y_min"
  let x_max ← unitInterval (item.getD "x_max") "bbox.x_max"
  let y_max ← unitInterval (item.getD "y_max") "bbox.y_max"
  if h : x_min.1.1 < x_max.1.1 ∧ y_min.1.1 < y_max.1.1 then
    return ⟨x_min, y_min, x_max, y_max, h⟩
  else throw (contractError "bbox requires 0 <= x_min < x_max <= 1 and 0 <= y_min < y_max <= 1")

/-! ### Parts of an observation -/

/-- `ObservationSource`. -/
structure ObservationSource where
  device_id : TypedId "device"
  camera_id : TypedId "camera"
deriving DecidableEq

/-- `_source`. -/
def source (value : Json) : Except PyError ObservationSource := do
  let item ← object value "source" ["camera_id", "device_id"]
  return ⟨← typedId (item.getD "device_id") "source.device_id" "device",
    ← typedId (item.getD "camera_id") "source.camera_id" "camera"⟩

/-- `DetectorBelief`. -/
structure DetectorBelief where
  category : StrippedText
  confidence : UnitInterval
  bbox : BoundingBox

/-- `_detector_belief`. -/
def detectorBelief (value : Json) : Except PyError DetectorBelief := do
  let item ← object value "detector belief" ["bbox", "category", "confidence"]
  return ⟨← text (item.getD "category") "detector_belief.category",
    ← unitInterval (item.getD "confidence") "detector_belief.confidence",
    ← bbox (item.getD "bbox")⟩

/-- `TrackReference`. -/
structure TrackReference where
  session_id : TypedId "perception"
  track_key : StrippedText
deriving DecidableEq

/-- `_track_reference`. -/
def trackReference (value : Json) : Except PyError TrackReference := do
  let item ← object value "track reference" ["session_id", "track_key"]
  return ⟨← typedId (item.getD "session_id") "track.session_id" "perception",
    ← text (item.getD "track_key") "track.track_key"⟩

/-- `VisualCandidateHypothesis`. -/
structure VisualCandidateHypothesis where
  candidate_id : TypedId "visual_candidate"
  confidence : UnitInterval

/-- `_candidate_hypothesis`. -/
def candidateHypothesis (value : Json) : Except PyError VisualCandidateHypothesis := do
  let item ← object value "visual candidate hypothesis" ["candidate_id", "confidence"]
  return ⟨← typedId (item.getD "candidate_id") "candidate_hypothesis.candidate_id"
      "visual_candidate",
    ← unitInterval (item.getD "confidence") "candidate_hypothesis.confidence"⟩

/-- `_typed_ids` with `require_nonempty`. -/
def typedIds (value : Json) (field table : String) :
    Except PyError {ids : List (TypedId table) // ids ≠ [] ∧ ids.Nodup} := do
  let items ← sequence value field
  raiseIf items.isEmpty (contractError (field ++ " must contain at least one record ID"))
  let parsed ← items.mapM fun item => typedId item field table
  if h : parsed ≠ [] ∧ parsed.Nodup then return ⟨parsed, h⟩
  else throw (contractError (field ++ " must not contain duplicate record IDs"))

/-- `HouseholdItemHypothesis`. -/
structure HouseholdItemHypothesis where
  item_id : TypedId "item"
  confidence : UnitInterval
  supporting_enrollment_ids :
    {ids : List (TypedId "visual_enrollment") // ids ≠ [] ∧ ids.Nodup}

/-- `_item_hypothesis`. -/
def itemHypothesis (value : Json) : Except PyError HouseholdItemHypothesis := do
  let item ← object value "household item hypothesis"
    ["confidence", "item_id", "supporting_enrollment_ids"]
  return ⟨← typedId (item.getD "item_id") "item_hypothesis.item_id" "item",
    ← unitInterval (item.getD "confidence") "item_hypothesis.confidence",
    ← typedIds (item.getD "supporting_enrollment_ids") "item_hypothesis.supporting_enrollment_ids"
      "visual_enrollment"⟩

/-! ### Artifacts -/

/-- `ARTIFACT_KINDS`. -/
inductive ArtifactKind where
  | video_clip
  | crop
  | thumbnail
  | frame
  | embedding
deriving DecidableEq, Repr

namespace ArtifactKind

def name : ArtifactKind → String
  | video_clip => "video_clip"
  | crop => "crop"
  | thumbnail => "thumbnail"
  | frame => "frame"
  | embedding => "embedding"

def all : List ArtifactKind := [video_clip, crop, thumbnail, frame, embedding]

def ofName? (text : String) : Option ArtifactKind := all.find? fun kind => kind.name = text

theorem ofName?_name (kind : ArtifactKind) : ofName? kind.name = some kind := by
  cases kind <;> rfl

end ArtifactKind

/-- `_ARTIFACT_REF.fullmatch`: `sha256:`, 64 hexadecimal digits, and perhaps a suffix. -/
def isArtifactRef (ref : String) : Bool :=
  let digits := (ref.toList.drop 7).take 64
  ref.toList.take 7 = ['s', 'h', 'a', '2', '5', '6', ':'] && digits.length = 64 &&
    digits.all (fun c => c.isDigit || ('a' ≤ c && c ≤ 'f')) &&
    match ref.toList.drop 71 with
    | [] => true
    | c :: suffix => c = '.' && !suffix.isEmpty && suffix.all Char.isAlphanum

/-- A character of a MIME type's parts. -/
def isMediaChar (c : Char) : Bool :=
  c.isAlphanum || ['!', '#', '$', '&', '^', '_', '.', '+', '-'].contains c

/-- `_MEDIA_TYPE.fullmatch`: two parts around a slash. -/
def isMediaType (media_type : List Char) : Bool :=
  !(media_type.takeWhile isMediaChar).isEmpty &&
    match media_type.dropWhile isMediaChar with
    | c :: rest => c = '/' && !rest.isEmpty && rest.all isMediaChar
    | [] => false

/-- `media_type.lower()`, exact for the characters of a MIME type. -/
def lower (text : List Char) : List Char := text.map Char.toLower

/-- A MIME type in lower case. -/
abbrev MediaType := {text : String // isMediaType text.toList = true ∧ lower text.toList = text.toList}

theorem toLower_cases (c : Char) :
    c.toLower.toLower = c.toLower ∧ isMediaChar c.toLower = isMediaChar c ∧
      (c.toLower = '/' ↔ c = '/') := by
  by_cases hupper : c.isUpper = true
  · have hrange : 65 ≤ c.toNat ∧ c.toNat ≤ 90 := by
      simp only [Char.isUpper, decide_eq_true_eq] at hupper
      exact ⟨hupper.1, hupper.2⟩
    have hall : ∀ n < 91, 65 ≤ n → (Char.ofNat n).toLower.toLower = (Char.ofNat n).toLower ∧
        isMediaChar (Char.ofNat n).toLower = isMediaChar (Char.ofNat n) ∧
        ((Char.ofNat n).toLower = '/' ↔ Char.ofNat n = '/') := by decide
    have h := hall c.toNat (by omega) hrange.1
    rwa [Char.ofNat_toNat] at h
  · have hsame : c.toLower = c := by
      rw [Char.toLower, dif_neg]
      simpa [Char.isUpper] using hupper
    rw [hsame]
    exact ⟨hsame, rfl, Iff.rfl⟩

/-- Lower case keeps a MIME type, and is kept by itself. -/
theorem lower_checked {cs : List Char} (h : isMediaType cs = true) :
    isMediaType (lower cs) = true ∧ lower (lower cs) = lower cs := by
  have hchar : isMediaChar ∘ Char.toLower = isMediaChar := funext fun c => (toLower_cases c).2.1
  constructor
  · rw [isMediaType, Bool.and_eq_true] at h ⊢
    rw [lower, List.takeWhile_map, List.dropWhile_map, hchar]
    refine ⟨by simpa using h.1, ?_⟩
    cases hrest : cs.dropWhile isMediaChar with
    | nil => rw [hrest] at h; exact absurd h.2 (by simp)
    | cons c rest =>
        rw [hrest] at h
        simp only [Bool.and_eq_true, decide_eq_true_eq, Bool.not_eq_true'] at h
        obtain ⟨-, ⟨hslash, hne⟩, hall⟩ := h
        simp only [List.map_cons, Bool.and_eq_true, decide_eq_true_eq, Bool.not_eq_true']
        refine ⟨⟨(toLower_cases c).2.2.mpr hslash, by simpa using hne⟩, ?_⟩
        rw [List.all_map, hchar]
        exact hall
  · rw [lower, lower, List.map_map]
    exact List.map_congr_left fun c _ => (toLower_cases c).1

/-- `ArtifactReference`. -/
structure ArtifactReference where
  ref : {ref : String // isArtifactRef ref = true}
  kind : ArtifactKind
  media_type : MediaType
  byte_length : Nat
deriving DecidableEq

/-- `_choice` of an artifact kind. -/
def artifactKind (value : Json) : Except PyError ArtifactKind :=
  let error := contractError ("artifact kind must be one of " ++
    ", ".intercalate (ArtifactKind.all.map ArtifactKind.name))
  match value with
  | .str text =>
      match ArtifactKind.ofName? text with
      | some kind => .ok kind
      | none => .error error
  | _ => .error error

/-- The media type of an artifact, in lower case. -/
def mediaType (value : Json) : Except PyError MediaType :=
  let error := contractError "artifact media_type must be a MIME type"
  match value with
  | .str text =>
      if h : isMediaType text.toList = true then
        .ok ⟨String.ofList (lower text.toList), by
          rw [String.toList_ofList]
          exact lower_checked h⟩
      else .error error
  | _ => .error error

/-- `_artifact`. -/
def artifact (value : Json) : Except PyError ArtifactReference := do
  let item ← object value "artifact reference" ["byte_length", "kind", "media_type", "ref"]
  let ref ← checkedText isArtifactRef (item.getD "ref")
    (contractError "artifact ref must be sha256:<hex> with optional suffix")
  let kind ← artifactKind (item.getD "kind")
  let media_type ← mediaType (item.getD "media_type")
  match item.getD "byte_length" with
  | .int (.ofNat byte_length) => return ⟨ref, kind, media_type, byte_length⟩
  | _ => throw (contractError "artifact byte_length must be a non-negative integer")

/-! ### Spatial evidence -/

/-- `except ValueError`, of what parsing a runtime pose raises: the message, or an
exception that is no `ValueError`. -/
def observerPoseError : PyError → PyError
  | .spatialContract message | .spatialUnit message | .spatialTransform message | .value message =>
      contractError ("observer_pose: " ++ message)
  | error => error

/-- `_observer_pose`. -/
def observerPose (value : Json) :
    Except PyError (Option {pose : RuntimePose // pose.Consistent}) :=
  match h : parseRuntimePose value with
  | .ok (some pose) => .ok (some ⟨pose, consistent_of_parseRuntimePose h⟩)
  | .ok none => .ok none
  | .error error => .error (observerPoseError error)

/-- The `PoseUncertainty` of a position: its other terms are unstated. -/
structure PositionUncertainty where
  x_sigma : Option SigmaTerm
  y_sigma : Option SigmaTerm
  z_sigma : Option SigmaTerm

/-- The terms by their field names. -/
def PositionUncertainty.terms (uncertainty : PositionUncertainty) :
    List (String × Option SigmaTerm) := [
  ("x_sigma", uncertainty.x_sigma), ("y_sigma", uncertainty.y_sigma),
  ("z_sigma", uncertainty.z_sigma)]

/-- `ObjectPositionEstimate`. -/
structure ObjectPositionEstimate where
  space : TypedId "space"
  position : FinitePosition
  uncertainty : Option PositionUncertainty

/-- `_optional_nonnegative`. -/
def optionalNonnegative (item : Fields) (field : String) : Except PyError (Option SigmaTerm) :=
  optionalField item field fun value => sigmaTerm value
    (contractError ("uncertainty." ++ field ++ " must be a finite number"))
    (contractError ("uncertainty." ++ field ++ " must be non-negative"))

/-- The uncertainty of an object position. -/
def positionUncertainty (value : Json) : Except PyError PositionUncertainty := do
  let item ← object value "object position uncertainty" ["x_sigma", "y_sigma", "z_sigma"]
  return ⟨← optionalNonnegative item "x_sigma", ← optionalNonnegative item "y_sigma",
    ← optionalNonnegative item "z_sigma"⟩

/-- The position of an object position. -/
def objectPosition (value : Json) : Except PyError FinitePosition := do
  let item ← object value "object position" ["x", "y", "z"]
  let x ← finite (item.getD "x") "object position.x"
  let y ← finite (item.getD "y") "object position.y"
  let z ← finite (item.getD "z") "object position.z"
  return ⟨⟨x, y, z⟩, Position.isFinite_mk x y z⟩

/-- `None` for an absent field or `None`, else the parsed value. -/
def unlessNone {α : Type} (value : Json) (parse : Json → Except PyError α) :
    Except PyError (Option α) :=
  match value with
  | .null => .ok none
  | value => (parse value).map some

/-- `_object_position_estimate`. -/
def objectPositionEstimate (value : Json) : Except PyError ObjectPositionEstimate := do
  let item ← object value "object position estimate" ["position", "space", "uncertainty"]
  let position ← objectPosition (item.getD "position")
  let uncertainty ← unlessNone (item.getD "uncertainty") positionUncertainty
  return ⟨← typedId (item.getD "space") "object position space" "space", position, uncertainty⟩

/-! ### Observations -/

/-- `VisualObservation`. -/
structure VisualObservation where
  id : TypedId "visual_observation"
  captured_at : AwareText
  observed_at : AwareText
  source : ObservationSource
  detector_belief : DetectorBelief
  producer_profile_id : TypedId "vision_producer"
  track : Option TrackReference
  candidate_hypotheses : {hypotheses : List VisualCandidateHypothesis //
    (hypotheses.map VisualCandidateHypothesis.candidate_id).Nodup}
  item_hypotheses : {hypotheses : List HouseholdItemHypothesis //
    (hypotheses.map HouseholdItemHypothesis.item_id).Nodup}
  observer_pose : Option {pose : RuntimePose // pose.Consistent}
  object_position_estimate : Option ObjectPositionEstimate
  artifacts : {artifacts : List ArtifactReference //
    ∀ artifact ∈ artifacts, artifact.kind ≠ .video_clip}
  ordered : precedes observed_at captured_at = false

/-- `_OBSERVATION_FIELDS`. -/
def OBSERVATION_FIELDS : List String := [
  "artifacts", "captured_at", "detector_belief", "id", "object_position_estimate", "observed_at",
  "observer_pose", "producer_profile_id", "candidate_hypotheses", "item_hypotheses", "source",
  "track"]

/-- A list field, empty when it is absent. -/
def listField (item : Fields) (key : String) : Except PyError (List Json) :=
  sequence ((item.get? key).getD (.arr [])) key

/-- The artifacts of an observation. -/
def observationArtifacts (item : Fields) :
    Except PyError {artifacts : List ArtifactReference //
      ∀ artifact ∈ artifacts, artifact.kind ≠ .video_clip} := do
  let artifacts ← (← listField item "artifacts").mapM artifact
  if h : ∀ artifact ∈ artifacts, artifact.kind ≠ .video_clip then return ⟨artifacts, h⟩
  else throw (contractError "video_clip artifacts belong to EvidenceClip metadata")

/-- The times of an observation, in order. -/
def observationTimes (item : Fields) :
    Except PyError {times : AwareText × AwareText // precedes times.2 times.1 = false} := do
  let captured_at ← timestamp (item.getD "captured_at") "captured_at"
  let observed_at ← timestamp (item.getD "observed_at") "observed_at"
  if h : precedes observed_at captured_at = false then return ⟨(captured_at, observed_at), h⟩
  else throw (contractError "observed_at must not precede its start time")

/-- The candidate hypotheses, without repetition. -/
def candidateHypotheses (values : List Json) :
    Except PyError {hypotheses : List VisualCandidateHypothesis //
      (hypotheses.map VisualCandidateHypothesis.candidate_id).Nodup} := do
  let hypotheses ← values.mapM candidateHypothesis
  if h : (hypotheses.map VisualCandidateHypothesis.candidate_id).Nodup then return ⟨hypotheses, h⟩
  else throw (contractError "candidate_hypotheses must not repeat a candidate_id")

/-- The item hypotheses, without repetition. -/
def itemHypotheses (values : List Json) :
    Except PyError {hypotheses : List HouseholdItemHypothesis //
      (hypotheses.map HouseholdItemHypothesis.item_id).Nodup} := do
  let hypotheses ← values.mapM itemHypothesis
  if h : (hypotheses.map HouseholdItemHypothesis.item_id).Nodup then return ⟨hypotheses, h⟩
  else throw (contractError "item_hypotheses must not repeat an item_id")

/-- `parse_visual_observation`. -/
def parseVisualObservation (value : Json) : Except PyError VisualObservation := do
  let item ← object value "visual observation" OBSERVATION_FIELDS
  let candidate_values ← listField item "candidate_hypotheses"
  let item_values ← listField item "item_hypotheses"
  let artifacts ← observationArtifacts item
  let times ← observationTimes item
  let candidate_hypotheses ← candidateHypotheses candidate_values
  let item_hypotheses ← itemHypotheses item_values
  let id ← typedId (item.getD "id") "id" "visual_observation"
  let source ← source (item.getD "source")
  let detector_belief ← detectorBelief (item.getD "detector_belief")
  let producer_profile_id ← typedId (item.getD "producer_profile_id") "producer_profile_id"
    "vision_producer"
  let track ← unlessNone (item.getD "track") trackReference
  let observer_pose ← observerPose (item.getD "observer_pose")
  let object_position_estimate ← unlessNone (item.getD "object_position_estimate")
    objectPositionEstimate
  return {
    id, captured_at := times.1.1, observed_at := times.1.2, source, detector_belief,
    producer_profile_id, track, candidate_hypotheses, item_hypotheses, observer_pose,
    object_position_estimate, artifacts, ordered := times.2 }

end Vision
end HomeCortex
