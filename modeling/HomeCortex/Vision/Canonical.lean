/-
# Canonical observations

`visual_observation_as_mapping`, `dumps_observation` and the JSON lines of
`vision/contracts.py`.  Every part of an observation is parsed back from its mapping, so
`parseVisualObservation_reread`: the canonical text determines the observation, and a line
of JSON gives the observation that was written.
-/

import HomeCortex.Common.Lines
import HomeCortex.Vision.Contracts

namespace HomeCortex
namespace Vision

open Spatial Display

/-! ### Mappings -/

/-- A number of the unit interval in a mapping. -/
def unitDocument (x : UnitInterval) : JsonDoc PyNumber := .num (.float x.1)

/-- A record id in a mapping. -/
def idDocument {table : String} (id : TypedId table) : JsonDoc PyNumber := .str id.1

/-- `_bbox_as_mapping`. -/
def bboxAsMapping (value : BoundingBox) : JsonDoc PyNumber := .obj [
  ("x_min", unitDocument value.x_min), ("y_min", unitDocument value.y_min),
  ("x_max", unitDocument value.x_max), ("y_max", unitDocument value.y_max)]

/-- `_source_as_mapping`. -/
def sourceAsMapping (value : ObservationSource) : JsonDoc PyNumber := .obj [
  ("device_id", .str value.device_id), ("camera_id", .str value.camera_id)]

/-- The `detector_belief` of a mapping. -/
def detectorBeliefAsMapping (value : DetectorBelief) : JsonDoc PyNumber := .obj [
  ("category", .str value.category), ("confidence", unitDocument value.confidence),
  ("bbox", bboxAsMapping value.bbox)]

/-- The `track` of a mapping. -/
def trackAsMapping (value : TrackReference) : JsonDoc PyNumber := .obj [
  ("session_id", .str value.session_id), ("track_key", .str value.track_key)]

/-- One of the `candidate_hypotheses` of a mapping. -/
def candidateAsMapping (value : VisualCandidateHypothesis) : JsonDoc PyNumber := .obj [
  ("candidate_id", .str value.candidate_id), ("confidence", unitDocument value.confidence)]

/-- One of the `item_hypotheses` of a mapping. -/
def itemAsMapping (value : HouseholdItemHypothesis) : JsonDoc PyNumber := .obj [
  ("item_id", .str value.item_id), ("confidence", unitDocument value.confidence),
  ("supporting_enrollment_ids", .arr (value.supporting_enrollment_ids.1.map idDocument))]

/-- `_artifact_as_mapping`. -/
def artifactAsMapping (value : ArtifactReference) : JsonDoc PyNumber := .obj [
  ("ref", .str value.ref), ("kind", .str value.kind.name), ("media_type", .str value.media_type),
  ("byte_length", .num (.int value.byte_length))]

/-- A value that may be `None`. -/
def optionAsMapping {α : Type} (write : α → JsonDoc PyNumber) : Option α → JsonDoc PyNumber
  | some value => write value
  | none => .null

/-- `_object_position_as_mapping`. -/
def objectPositionAsMapping (value : ObjectPositionEstimate) : JsonDoc PyNumber := .obj [
  ("space", .str value.space), ("position", positionDocument value.position),
  ("uncertainty", optionAsMapping (fun uncertainty => .obj (statedTerms uncertainty.terms))
    value.uncertainty)]

/-- `visual_observation_as_mapping`, as a list of fields. -/
def observationFields (value : VisualObservation) : List (String × JsonDoc PyNumber) := [
  ("id", .str value.id), ("captured_at", .str value.captured_at),
  ("observed_at", .str value.observed_at), ("source", sourceAsMapping value.source),
  ("detector_belief", detectorBeliefAsMapping value.detector_belief),
  ("producer_profile_id", .str value.producer_profile_id),
  ("track", optionAsMapping trackAsMapping value.track),
  ("candidate_hypotheses", .arr (value.candidate_hypotheses.1.map candidateAsMapping)),
  ("item_hypotheses", .arr (value.item_hypotheses.1.map itemAsMapping)),
  ("observer_pose", optionAsMapping (fun pose => runtimePoseAsMapping pose.1) value.observer_pose),
  ("object_position_estimate",
    optionAsMapping objectPositionAsMapping value.object_position_estimate),
  ("artifacts", .arr (value.artifacts.1.map artifactAsMapping))]

/-- `visual_observation_as_mapping`. -/
def visualObservationAsMapping (value : VisualObservation) : JsonDoc PyNumber :=
  .obj (observationFields value)

/-! ### What is read back -/

/-- An object that was written is read back with its fields. -/
theorem object_reread {fields : List (String × JsonDoc PyNumber)} {allowed : List String}
    (hnodup : (fields.map Prod.fst).Nodup) (hallowed : fields.map Prod.fst ⊆ allowed)
    (field : String) :
    ∃ record, object (reread (.obj fields)) field allowed = .ok record ∧
      ∀ key, record.get? key = (fields.lookup key).map reread := by
  obtain ⟨record, hrecord, hextra, hget⟩ := reread_obj hnodup hallowed
  refine ⟨record, ?_, hget⟩
  rw [hrecord]
  simp [object, Json.asObject?, hextra]

theorem typedId_reread {table : String} (id : TypedId table) (field : String) :
    typedId (reread (.str id)) field table = .ok id :=
  checkedText_str id _

theorem timestamp_reread (value : AwareText) (field : String) :
    timestamp (reread (.str value)) field = .ok value :=
  checkedText_str value _

theorem text_reread (value : StrippedText) (field : String) :
    text (reread (.str value)) field = .ok value := by
  rw [reread_str, text]
  exact (dif_pos value.2.1).trans (congrArg Except.ok (Subtype.ext value.2.2))

theorem finite_reread (x : FiniteFloat) (field : String) :
    finite (reread (.num (.float x))) field = .ok x :=
  checkedFinite_float x _

theorem unitInterval_reread (x : UnitInterval) (field : String) :
    unitInterval (reread (unitDocument x)) field = .ok x := by
  rw [unitInterval, unitDocument, finite_reread]
  exact dif_neg x.2

/-- Every element that is read back gives the list back. -/
theorem mapM_reread {α : Type} {write : α → JsonDoc PyNumber} {parse : Json → Except PyError α}
    (h : ∀ value, parse (reread (write value)) = .ok value) (values : List α) :
    ((values.map write).map reread).mapM parse = .ok values := by
  rw [List.map_map, Except.mapM_eq_ok, List.forall₂_map_left_iff]
  exact List.forall₂_same.mpr fun value _ => h value

theorem unlessNone_reread {α : Type} {write : α → JsonDoc PyNumber}
    {parse : Json → Except PyError α} (h : ∀ value, parse (reread (write value)) = .ok value)
    (hnull : ∀ value, reread (write value) ≠ .null) (value : Option α) :
    unlessNone (reread (optionAsMapping write value)) parse = .ok value := by
  cases value with
  | none => rfl
  | some value =>
      rw [optionAsMapping, unlessNone]
      · rw [h]
        rfl
      · exact hnull value

theorem reread_obj_ne_null (fields : List (String × JsonDoc PyNumber)) :
    reread (.obj fields) ≠ .null := nofun

/-- A fixed object that was written is read back field by field. -/
theorem object_fields {fields : List (String × JsonDoc PyNumber)} {allowed : List String}
    (hnodup : (fields.map Prod.fst).Nodup) (hallowed : fields.map Prod.fst ⊆ allowed)
    (field : String) :
    ∃ record, object (reread (.obj fields)) field allowed = .ok record ∧
      ∀ key {document}, fields.lookup key = some document → record.getD key = reread document := by
  obtain ⟨record, hrecord, hget⟩ := object_reread hnodup hallowed field
  refine ⟨record, hrecord, fun key document hlookup => ?_⟩
  rw [Fields.getD, hget, hlookup]
  rfl

theorem bbox_reread (value : BoundingBox) : bbox (reread (bboxAsMapping value)) = .ok value := by
  obtain ⟨item, hitem, hget⟩ := @object_fields [("x_min", unitDocument value.x_min),
    ("y_min", unitDocument value.y_min), ("x_max", unitDocument value.x_max),
    ("y_max", unitDocument value.y_max)] ["x_max", "x_min", "y_max", "y_min"] (by simp) (by simp)
    "bbox"
  rw [bbox, bboxAsMapping, hitem]
  simp only [bind, Except.bind, hget "x_min" rfl, hget "y_min" rfl, hget "x_max" rfl,
    hget "y_max" rfl, unitInterval_reread]
  exact dif_pos value.ordered

theorem source_reread (value : ObservationSource) :
    source (reread (sourceAsMapping value)) = .ok value := by
  obtain ⟨item, hitem, hget⟩ := @object_fields [("device_id", .str value.device_id),
    ("camera_id", .str value.camera_id)] ["camera_id", "device_id"] (by simp) (by simp) "source"
  rw [source, sourceAsMapping, hitem]
  simp only [bind, Except.bind, hget "device_id" rfl, hget "camera_id" rfl, typedId_reread]
  rfl

theorem detectorBelief_reread (value : DetectorBelief) :
    detectorBelief (reread (detectorBeliefAsMapping value)) = .ok value := by
  obtain ⟨item, hitem, hget⟩ := @object_fields [("category", .str value.category),
    ("confidence", unitDocument value.confidence), ("bbox", bboxAsMapping value.bbox)]
    ["bbox", "category", "confidence"] (by simp) (by simp) "detector belief"
  rw [detectorBelief, detectorBeliefAsMapping, hitem]
  simp only [bind, Except.bind, hget "category" rfl, hget "confidence" rfl, hget "bbox" rfl,
    text_reread, unitInterval_reread, bbox_reread]
  rfl

theorem trackReference_reread (value : TrackReference) :
    trackReference (reread (trackAsMapping value)) = .ok value := by
  obtain ⟨item, hitem, hget⟩ := @object_fields [("session_id", .str value.session_id),
    ("track_key", .str value.track_key)] ["session_id", "track_key"] (by simp) (by simp)
    "track reference"
  rw [trackReference, trackAsMapping, hitem]
  simp only [bind, Except.bind, hget "session_id" rfl, hget "track_key" rfl, typedId_reread,
    text_reread]
  rfl

theorem candidateHypothesis_reread (value : VisualCandidateHypothesis) :
    candidateHypothesis (reread (candidateAsMapping value)) = .ok value := by
  obtain ⟨item, hitem, hget⟩ := @object_fields [("candidate_id", .str value.candidate_id),
    ("confidence", unitDocument value.confidence)] ["candidate_id", "confidence"] (by simp)
    (by simp) "visual candidate hypothesis"
  rw [candidateHypothesis, candidateAsMapping, hitem]
  simp only [bind, Except.bind, hget "candidate_id" rfl, hget "confidence" rfl, typedId_reread,
    unitInterval_reread]
  rfl

theorem typedIds_reread {table : String} (ids : {ids : List (TypedId table) // ids ≠ [] ∧ ids.Nodup})
    (field : String) :
    typedIds (reread (.arr (ids.1.map idDocument))) field table = .ok ids := by
  have hids := @mapM_reread _ idDocument (fun item => typedId item field table)
    (fun id => typedId_reread id field) ids.1
  rw [reread_arr, typedIds]
  simp only [sequence, bind, Except.bind, List.isEmpty_map, raiseIf, hids]
  rw [if_neg (by simpa using ids.2.1)]
  exact dif_pos ids.2

theorem itemHypothesis_reread (value : HouseholdItemHypothesis) :
    itemHypothesis (reread (itemAsMapping value)) = .ok value := by
  obtain ⟨item, hitem, hget⟩ := @object_fields [("item_id", .str value.item_id),
    ("confidence", unitDocument value.confidence),
    ("supporting_enrollment_ids", .arr (value.supporting_enrollment_ids.1.map idDocument))]
    ["confidence", "item_id", "supporting_enrollment_ids"] (by simp) (by simp)
    "household item hypothesis"
  rw [itemHypothesis, itemAsMapping, hitem]
  simp only [bind, Except.bind, hget "item_id" rfl, hget "confidence" rfl,
    hget "supporting_enrollment_ids" rfl, typedId_reread, unitInterval_reread, typedIds_reread]
  rfl

theorem mediaType_reread (value : MediaType) : mediaType (reread (.str value)) = .ok value := by
  rw [reread_str, mediaType]
  refine (dif_pos value.2.1).trans (congrArg Except.ok (Subtype.ext ?_))
  change String.ofList (lower value.1.toList) = value.1
  rw [value.2.2, String.ofList_toList]

theorem artifact_reread (value : ArtifactReference) :
    artifact (reread (artifactAsMapping value)) = .ok value := by
  obtain ⟨item, hitem, hget⟩ := @object_fields [("ref", .str value.ref),
    ("kind", .str value.kind.name), ("media_type", .str value.media_type),
    ("byte_length", .num (.int value.byte_length))] ["byte_length", "kind", "media_type", "ref"]
    (by simp) (by simp) "artifact reference"
  have href : checkedText isArtifactRef (reread (.str value.ref))
      (contractError "artifact ref must be sha256:<hex> with optional suffix") = .ok value.ref :=
    checkedText_str value.ref _
  have hkind : artifactKind (reread (.str value.kind.name)) = .ok value.kind := by
    rw [reread_str, artifactKind]
    simp [ArtifactKind.ofName?_name]
  rw [artifact, artifactAsMapping, hitem]
  simp only [bind, Except.bind, hget "ref" rfl, hget "kind" rfl, hget "media_type" rfl,
    hget "byte_length" rfl, href, hkind, mediaType_reread]
  rfl

theorem observerPose_reread (value : Option {pose : RuntimePose // pose.Consistent}) :
    observerPose (reread (optionAsMapping (fun pose => runtimePoseAsMapping pose.1) value)) =
      .ok value := by
  cases value with
  | none => rfl
  | some pose =>
      have hparse : parseRuntimePose (reread (runtimePoseAsMapping pose.1)) = .ok (some pose.1) :=
        parseRuntimePose_reread pose.2
      rw [optionAsMapping, observerPose]
      split
      case h_1 parsed hparsed =>
        obtain rfl := Option.some.inj (Except.ok.inj (hparse.symm.trans hparsed))
        rfl
      case h_2 hparsed => exact nomatch hparse.symm.trans hparsed
      case h_3 hparsed => exact nomatch hparse.symm.trans hparsed

theorem objectPosition_reread (position : FinitePosition) :
    objectPosition (reread (positionDocument position)) = .ok position := by
  obtain ⟨position, hx, hy, hz⟩ := position
  obtain ⟨item, hitem, hget⟩ := @object_fields [("x", number position.x hx),
    ("y", number position.y hy), ("z", number position.z hz)] ["x", "y", "z"] (by simp) (by simp)
    "object position"
  rw [objectPosition, positionDocument, hitem]
  simp only [bind, Except.bind, hget "x" rfl, hget "y" rfl, hget "z" rfl, number, finite_reread]
  rfl

theorem positionUncertainty_reread (uncertainty : PositionUncertainty) :
    positionUncertainty (reread (.obj (statedTerms uncertainty.terms))) = .ok uncertainty := by
  have hnodup : (uncertainty.terms.map Prod.fst).Nodup := by
    change ["x_sigma", "y_sigma", "z_sigma"].Nodup
    decide
  obtain ⟨item, hitem, hget⟩ := object_reread
    ((statedTerms_keys uncertainty.terms).nodup hnodup) (statedTerms_keys uncertainty.terms).subset
    "object position uncertainty"
  have hterm : ∀ name term, uncertainty.terms.lookup name = some term →
      optionalNonnegative item name = .ok term := by
    intro name term hlookup
    have hwritten : item.get? name =
        (term.map fun x => JsonDoc.num (.float x.1)).map reread := by
      rw [hget, lookup_statedTerms hnodup, hlookup]
      rfl
    refine optionalField_eq hwritten (fun document hdocument => ?_) (by simp)
    · obtain ⟨x, hx, rfl⟩ := Option.map_eq_some_iff.mp hdocument
      exact ⟨x, hx, sigmaTerm_float x _ _⟩
  rw [positionUncertainty,
    show ["x_sigma", "y_sigma", "z_sigma"] = uncertainty.terms.map Prod.fst from rfl, hitem]
  simp only [bind, Except.bind, hterm "x_sigma" _ rfl, hterm "y_sigma" _ rfl,
    hterm "z_sigma" _ rfl]
  rfl

theorem objectPositionEstimate_reread (value : ObjectPositionEstimate) :
    objectPositionEstimate (reread (objectPositionAsMapping value)) = .ok value := by
  obtain ⟨item, hitem, hget⟩ := @object_fields [("space", .str value.space),
    ("position", positionDocument value.position),
    ("uncertainty", optionAsMapping (fun uncertainty => .obj (statedTerms uncertainty.terms))
      value.uncertainty)] ["position", "space", "uncertainty"] (by simp) (by simp)
    "object position estimate"
  have huncertainty := unlessNone_reread positionUncertainty_reread
    (fun uncertainty => reread_obj_ne_null _) value.uncertainty
  rw [objectPositionEstimate, objectPositionAsMapping, hitem]
  simp only [bind, Except.bind, hget "space" rfl, hget "position" rfl, hget "uncertainty" rfl,
    objectPosition_reread, huncertainty, typedId_reread]
  rfl

theorem listField_reread {item : Fields} {key : String} {values : List (JsonDoc PyNumber)}
    (hget : item.get? key = some (reread (.arr values))) :
    listField item key = .ok (values.map reread) := by
  rw [listField, hget, Option.getD_some, reread_arr]
  rfl

/-- **Round trip.**  Every observation is parsed back from its mapping. -/
theorem parseVisualObservation_reread (value : VisualObservation) :
    parseVisualObservation (reread (visualObservationAsMapping value)) = .ok value := by
  obtain ⟨item, hitem, hget⟩ := @object_reread (observationFields value) OBSERVATION_FIELDS
    (by simp [observationFields]) (by simp [observationFields, OBSERVATION_FIELDS])
    "visual observation"
  have hfield : ∀ key {document}, (observationFields value).lookup key = some document →
      item.getD key = reread document := by
    intro key document hlookup
    rw [Fields.getD, hget, hlookup]
    rfl
  have hcandidate : listField item "candidate_hypotheses" =
      .ok ((value.candidate_hypotheses.1.map candidateAsMapping).map reread) :=
    listField_reread (hget "candidate_hypotheses")
  have hitems : listField item "item_hypotheses" =
      .ok ((value.item_hypotheses.1.map itemAsMapping).map reread) :=
    listField_reread (hget "item_hypotheses")
  have hartifacts : observationArtifacts item = .ok value.artifacts := by
    rw [observationArtifacts, listField_reread (hget "artifacts")]
    simp only [bind, Except.bind, mapM_reread artifact_reread]
    exact dif_pos value.artifacts.2
  have htimes : observationTimes item =
      .ok ⟨(value.captured_at, value.observed_at), value.ordered⟩ := by
    rw [observationTimes, hfield "captured_at" rfl, hfield "observed_at" rfl]
    simp only [bind, Except.bind, timestamp_reread]
    exact dif_pos value.ordered
  have hcandidates : candidateHypotheses ((value.candidate_hypotheses.1.map candidateAsMapping).map
      reread) = .ok value.candidate_hypotheses := by
    rw [candidateHypotheses, mapM_reread candidateHypothesis_reread]
    exact dif_pos value.candidate_hypotheses.2
  have hhypotheses : itemHypotheses ((value.item_hypotheses.1.map itemAsMapping).map reread) =
      .ok value.item_hypotheses := by
    rw [itemHypotheses, mapM_reread itemHypothesis_reread]
    exact dif_pos value.item_hypotheses.2
  have htrack := unlessNone_reread trackReference_reread (fun _ => reread_obj_ne_null _) value.track
  have hposition := unlessNone_reread objectPositionEstimate_reread (fun _ => reread_obj_ne_null _)
    value.object_position_estimate
  rw [parseVisualObservation, visualObservationAsMapping, hitem]
  simp only [bind, Except.bind, hcandidate, hitems, hartifacts, htimes, hcandidates, hhypotheses,
    hfield "id" rfl, hfield "source" rfl, hfield "detector_belief" rfl,
    hfield "producer_profile_id" rfl, hfield "track" rfl, hfield "observer_pose" rfl,
    hfield "object_position_estimate" rfl, typedId_reread, source_reread, detectorBelief_reread,
    htrack, observerPose_reread, hposition]
  rfl

/-! ### Equality of observations

`==` of the dataclasses: field by field, where `0.0 == -0.0`. -/

/-- `==` of two numbers of the unit interval. -/
def sameUnit (a b : UnitInterval) : Bool := a.1.1 == b.1.1

/-- `==` of two tuples. -/
def sameList {α : Type} (same : α → α → Bool) : List α → List α → Bool
  | [], [] => true
  | a :: as, b :: bs => same a b && sameList same as bs
  | _, _ => false

def BoundingBox.same (a b : BoundingBox) : Bool :=
  sameUnit a.x_min b.x_min && sameUnit a.y_min b.y_min && sameUnit a.x_max b.x_max &&
    sameUnit a.y_max b.y_max

def DetectorBelief.same (a b : DetectorBelief) : Bool :=
  a.category == b.category && sameUnit a.confidence b.confidence && a.bbox.same b.bbox

def VisualCandidateHypothesis.same (a b : VisualCandidateHypothesis) : Bool :=
  a.candidate_id == b.candidate_id && sameUnit a.confidence b.confidence

def HouseholdItemHypothesis.same (a b : HouseholdItemHypothesis) : Bool :=
  a.item_id == b.item_id && sameUnit a.confidence b.confidence &&
    a.supporting_enrollment_ids == b.supporting_enrollment_ids

def PositionUncertainty.same (a b : PositionUncertainty) : Bool :=
  sameTerm a.x_sigma b.x_sigma && sameTerm a.y_sigma b.y_sigma && sameTerm a.z_sigma b.z_sigma

def ObjectPositionEstimate.same (a b : ObjectPositionEstimate) : Bool :=
  a.space == b.space && a.position.1.same b.position.1 &&
    sameOption PositionUncertainty.same a.uncertainty b.uncertainty

/-- `==` of two observations. -/
def VisualObservation.same (a b : VisualObservation) : Bool :=
  a.id == b.id && a.captured_at == b.captured_at && a.observed_at == b.observed_at &&
    a.source == b.source && a.detector_belief.same b.detector_belief &&
    a.producer_profile_id == b.producer_profile_id && a.track == b.track &&
    sameList VisualCandidateHypothesis.same a.candidate_hypotheses.1 b.candidate_hypotheses.1 &&
    sameList HouseholdItemHypothesis.same a.item_hypotheses.1 b.item_hypotheses.1 &&
    sameOption (fun a b => a.1.same b.1) a.observer_pose b.observer_pose &&
    sameOption ObjectPositionEstimate.same a.object_position_estimate b.object_position_estimate &&
    a.artifacts == b.artifacts

theorem sameUnit_self (x : UnitInterval) : sameUnit x x = true :=
  Binary64.beq_self_of_isFinite x.1.2

theorem sameList_self {α : Type} {same : α → α → Bool} (h : ∀ a, same a a = true) :
    ∀ as, sameList same as as = true
  | [] => rfl
  | a :: as => by rw [sameList, h a, sameList_self h as]; rfl

/-- Every observation is equal to itself: it has no `nan`. -/
theorem VisualObservation.same_self (value : VisualObservation) : value.same value = true := by
  have hcandidates := @sameList_self _ VisualCandidateHypothesis.same
    (fun a => by simp [VisualCandidateHypothesis.same, sameUnit_self]) value.candidate_hypotheses.1
  have hitems := @sameList_self _ HouseholdItemHypothesis.same
    (fun a => by simp [HouseholdItemHypothesis.same, sameUnit_self]) value.item_hypotheses.1
  have hpose := @sameOption_self {pose : RuntimePose // pose.Consistent}
    (fun a b => a.1.same b.1) (fun a => a.1.same_self) value.observer_pose
  have huncertainty := @sameOption_self _ PositionUncertainty.same
    (fun a => by simp [PositionUncertainty.same, sameTerm_self])
  have hposition := @sameOption_self _ ObjectPositionEstimate.same
    (fun a => by simp [ObjectPositionEstimate.same, Position.same_self a.position.2, huncertainty])
    value.object_position_estimate
  simp [same, DetectorBelief.same, BoundingBox.same, sameUnit_self, hcandidates, hitems, hpose,
    hposition]

/-! ### Texts -/

section Texts

variable (floats : FloatFormat)

/-- The integers of an observation have at most `sys.get_int_max_str_digits()` digits. -/
def writesIntegers (value : VisualObservation) : Bool :=
  value.artifacts.1.all fun artifact => (Nat.toDigits 10 artifact.byte_length).length ≤ 4300

/-- The canonical text of an observation. -/
def canonicalText (value : VisualObservation) : String :=
  dumps floats (visualObservationAsMapping value)

/-- `dumps_observation`; an integer with too many digits is not written. -/
def dumpsObservation (value : VisualObservation) : Except PyError String :=
  if writesIntegers value then .ok (canonicalText floats value)
  else .error (.value "Exceeds the limit (4300 digits) for integer string conversion")

/-- `parse_observations_jsonl`. -/
def parseObservationsJsonl (text : String) : Except PyError (List VisualObservation) :=
  ((splitLines [] text.toList).filter fun line => !line.all isSpace).mapM fun line => do
    parseVisualObservation (← loads floats (String.ofList line))

/-- `dumps_observations_jsonl`. -/
def dumpsObservationsJsonl (values : List VisualObservation) : Except PyError String := do
  let texts ← values.mapM (dumpsObservation floats)
  return String.join (texts.map (· ++ "\n"))

variable {floats}

/-- **The canonical text determines the observation.** -/
theorem canonicalText_injective : Function.Injective (canonicalText floats) := by
  intro a b h
  have ha := loads_dumps floats (visualObservationAsMapping a)
  rw [show dumps floats (visualObservationAsMapping a) = canonicalText floats b from h,
    canonicalText, loads_dumps] at ha
  have hparse := congrArg parseVisualObservation (Except.ok.inj ha)
  rw [parseVisualObservation_reread, parseVisualObservation_reread] at hparse
  exact (Except.ok.inj hparse).symm

/-- A canonical text that is one line for `str.splitlines`. -/
def OneLine (floats : FloatFormat) (value : VisualObservation) : Prop :=
  ∀ c ∈ (canonicalText floats value).toList, c ∉ ['\u0085', '\u2028', '\u2029']

theorem canonicalText_toList (value : VisualObservation) :
    (∃ inner, (canonicalText floats value).toList = '{' :: inner) ∧
      ∀ c ∈ (canonicalText floats value).toList, 32 ≤ c.toNat := by
  rw [canonicalText, dumps, String.toList_ofList, visualObservationAsMapping, sortKeys]
  constructor
  · obtain ⟨inner, hinner⟩ := @JsonText.render_obj _ ⟨0, 0⟩
      (PyNumber.format floats) ((sortFields (observationFields value)).insertionSort fun a b => a.1 ≤ b.1)
    exact ⟨_, hinner⟩
  · exact JsonText.render_printable _

theorem no_lineBreak {value : VisualObservation} (h : OneLine floats value) :
    ∀ c ∈ (canonicalText floats value).toList, isLineBreak c = false := by
  intro c hc
  have hprintable := (canonicalText_toList value).2 c hc
  have hseparator := h c hc
  rw [← Bool.not_eq_true]
  intro hbreak
  simp only [isLineBreak, List.contains_eq_mem, decide_eq_true_eq, List.mem_cons,
    List.not_mem_nil, or_false] at hbreak hseparator
  rcases hbreak with rfl | rfl | rfl | rfl | rfl | rfl | rfl | hbreak
  case inr.inr.inr.inr.inr.inr.inr => exact hseparator hbreak
  all_goals exact absurd hprintable (by decide)

/-- **JSON lines.**  Observations that are written, each on one line, are parsed back. -/
theorem parseObservationsJsonl_dumps {values : List VisualObservation}
    (hdigits : ∀ value ∈ values, writesIntegers value = true)
    (hlines : ∀ value ∈ values, OneLine floats value) :
    ∃ text, dumpsObservationsJsonl floats values = .ok text ∧
      parseObservationsJsonl floats text = .ok values := by
  refine ⟨String.join ((values.map (canonicalText floats)).map (· ++ "\n")), ?_, ?_⟩
  · have htexts : values.mapM (dumpsObservation floats) =
        .ok (values.map (canonicalText floats)) := by
      rw [Except.mapM_eq_ok, List.forall₂_map_right_iff]
      exact List.forall₂_same.mpr fun value hvalue => if_pos (hdigits value hvalue)
    rw [dumpsObservationsJsonl, htexts]
    rfl
  · have hsplit : splitLines [] (String.join
        ((values.map (canonicalText floats)).map (· ++ "\n"))).toList =
          (values.map (canonicalText floats)).map String.toList :=
      splitLines_join (List.forall_mem_map.mpr fun value hvalue => no_lineBreak (hlines value hvalue))
    have hfilled : ∀ line ∈ (values.map (canonicalText floats)).map String.toList,
        (!line.all isSpace) = true := by
      simp only [List.forall_mem_map]
      intro value _
      obtain ⟨inner, hinner⟩ := (@canonicalText_toList floats value).1
      rw [hinner]
      rfl
    rw [parseObservationsJsonl, hsplit, List.filter_eq_self.mpr hfilled, Except.mapM_eq_ok,
      List.map_map, List.forall₂_map_left_iff]
    refine List.forall₂_same.mpr fun value _ =>
      Except.bind_eq_ok.mpr ⟨reread (visualObservationAsMapping value), ?_,
        parseVisualObservation_reread value⟩
    change loads floats (String.ofList (canonicalText floats value).toList) = _
    rw [String.ofList_toList]
    exact loads_dumps floats _

end Texts

end Vision
end HomeCortex
