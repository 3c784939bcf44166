/-
# What the observation parser raises

`parse_visual_observation` raises `VisionContractError`, also where the pose of the observer is
malformed: `_observer_pose` renames what a runtime pose may raise, except for an exception that
is no `ValueError`.  So an observation escapes its contract exactly through a number beyond the
binary64 range, in a part that is read (`ObservationFits`).
-/

import HomeCortex.Spatial.Rejections
import HomeCortex.Vision.Contracts

namespace HomeCortex
namespace Vision

open Except Spatial

/-- `VisionContractError`. -/
def VisionContractError (e : PyError) : Prop := ∃ message, e = .visionContract message

theorem contractError_vision (message : String) : VisionContractError (contractError message) :=
  ⟨message, rfl⟩

theorem overflow_not_vision (message : String) : ¬ VisionContractError (.overflow message) :=
  fun h => (by obtain ⟨_, h⟩ := h; cases h)

/-! ### What is read -/

/-- A confidence. -/
def ConfidenceFits (item : Fields) (field : String) : Prop × Prop :=
  part (NumberFits (item.getD "confidence")) (unitInterval (item.getD "confidence") field)

/-- One bound of a box. -/
def BoundFits (item : Fields) (name : String) : Prop × Prop :=
  part (NumberFits (item.getD name)) (unitInterval (item.getD name) ("bbox." ++ name))

/-- What `_bbox` reads. -/
def BoxFits (value : Json) : Prop :=
  ∀ item, object value "bbox" ["x_max", "x_min", "y_max", "y_min"] = .ok item → InOrder [
    BoundFits item "x_min", BoundFits item "y_min", BoundFits item "x_max",
    BoundFits item "y_max"]

/-- What `_detector_belief` reads. -/
def BeliefFits (value : Json) : Prop :=
  ∀ item, object value "detector belief" ["bbox", "category", "confidence"] = .ok item → InOrder [
    part True (text (item.getD "category") "detector_belief.category"),
    ConfidenceFits item "detector_belief.confidence",
    part (BoxFits (item.getD "bbox")) (bbox (item.getD "bbox"))]

/-- What `_candidate_hypothesis` reads. -/
def CandidateFits (value : Json) : Prop :=
  ∀ item, object value "visual candidate hypothesis" ["candidate_id", "confidence"] = .ok item →
    InOrder [part True (typedId (item.getD "candidate_id") "candidate_hypothesis.candidate_id"
        "visual_candidate"), ConfidenceFits item "candidate_hypothesis.confidence"]

/-- What `_item_hypothesis` reads. -/
def ItemFits (value : Json) : Prop :=
  ∀ item, object value "household item hypothesis"
      ["confidence", "item_id", "supporting_enrollment_ids"] = .ok item →
    InOrder [part True (typedId (item.getD "item_id") "item_hypothesis.item_id" "item"),
      ConfidenceFits item "item_hypothesis.confidence"]

/-- Every element of a list behind accepted ones. -/
def EachFits {α : Type} (fits : Json → Prop) (parse : Json → Except PyError α)
    (values : List Json) : Prop :=
  ∀ before value after, values = before ++ value :: after →
    (∀ other ∈ before, Except.Accepted (parse other)) → fits value

/-- One coordinate of an object position. -/
def CoordinateFits (item : Fields) (name : String) : Prop × Prop :=
  part (NumberFits (item.getD name)) (finite (item.getD name) ("object position." ++ name))

/-- What an object position reads. -/
def ObjectPositionFits (value : Json) : Prop :=
  ∀ item, object value "object position" ["x", "y", "z"] = .ok item → InOrder [
    CoordinateFits item "x", CoordinateFits item "y", CoordinateFits item "z"]

/-- One term of an uncertainty. -/
def SigmaFits (item : Fields) (name : String) : Prop × Prop :=
  part (∀ v, item.get? name = some v → NumberFits v) (optionalNonnegative item name)

/-- What the uncertainty of an object position reads. -/
def PositionUncertaintyFits (value : Json) : Prop :=
  ∀ item, object value "object position uncertainty" ["x_sigma", "y_sigma", "z_sigma"] =
      .ok item → InOrder [SigmaFits item "x_sigma", SigmaFits item "y_sigma",
    SigmaFits item "z_sigma"]

/-- What `_object_position_estimate` reads. -/
def PositionEstimateFits (value : Json) : Prop :=
  ∀ item, object value "object position estimate" ["position", "space", "uncertainty"] =
      .ok item → InOrder [
    part (ObjectPositionFits (item.getD "position")) (objectPosition (item.getD "position")),
    part (item.getD "uncertainty" ≠ .null → PositionUncertaintyFits (item.getD "uncertainty"))
      (unlessNone (item.getD "uncertainty") positionUncertainty)]

/-- What `parse_visual_observation` reads of its object. -/
def ObservationFieldsFit (item : Fields) (candidates items : List Json) : Prop := InOrder [
  part True (observationArtifacts item), part True (observationTimes item),
  part (EachFits CandidateFits candidateHypothesis candidates) (candidateHypotheses candidates),
  part (EachFits ItemFits itemHypothesis items) (itemHypotheses items),
  part True (typedId (item.getD "id") "id" "visual_observation"),
  part True (source (item.getD "source")),
  part (BeliefFits (item.getD "detector_belief")) (detectorBelief (item.getD "detector_belief")),
  part True (typedId (item.getD "producer_profile_id") "producer_profile_id" "vision_producer"),
  part True (unlessNone (item.getD "track") trackReference),
  part (RuntimePoseFits (item.getD "observer_pose")) (observerPose (item.getD "observer_pose")),
  part (item.getD "object_position_estimate" ≠ .null →
      PositionEstimateFits (item.getD "object_position_estimate"))
    (unlessNone (item.getD "object_position_estimate") objectPositionEstimate)]

/-- What `parse_visual_observation` reads. -/
def ObservationFits (value : Json) : Prop :=
  ∀ item, object value "visual observation" OBSERVATION_FIELDS = .ok item →
    ∀ candidates, listField item "candidate_hypotheses" = .ok candidates →
    ∀ items, listField item "item_hypotheses" = .ok items →
      ObservationFieldsFit item candidates items

/-! ### Parts without numbers -/

theorem raisesOnly_object (value : Json) (field : String) (allowed : List String) :
    RaisesOnly VisionContractError (object value field allowed) := by
  unfold object
  cases value.asObject? with
  | none => exact raisesOnly_error.mpr (contractError_vision _)
  | some fields =>
      dsimp only
      split
      · exact raisesOnly_ok.mpr trivial
      · exact raisesOnly_error.mpr (contractError_vision _)

theorem raisesOnly_sequence (value : Json) (field : String) :
    RaisesOnly VisionContractError (sequence value field) := by
  unfold sequence
  split
  · exact raisesOnly_ok.mpr trivial
  · exact raisesOnly_error.mpr (contractError_vision _)

theorem raisesOnly_typedId (value : Json) (field table : String) :
    RaisesOnly VisionContractError (typedId value field table) :=
  raisesOnly_checkedText (contractError_vision _)

theorem raisesOnly_text (value : Json) (field : String) :
    RaisesOnly VisionContractError (text value field) := by
  unfold text
  dsimp only
  split
  case h_1 =>
    split
    · exact raisesOnly_ok.mpr trivial
    · exact raisesOnly_error.mpr (contractError_vision _)
  case h_2 => exact raisesOnly_error.mpr (contractError_vision _)

theorem raisesOnly_source (value : Json) : RaisesOnly VisionContractError (source value) := by
  refine raisesOnly_bind.mpr ⟨raisesOnly_object _ _ _, fun item _ => ?_⟩
  refine raisesOnly_bind.mpr ⟨raisesOnly_typedId _ _ _, fun _ _ => ?_⟩
  exact raisesOnly_bind.mpr ⟨raisesOnly_typedId _ _ _, fun _ _ => raisesOnly_pure.mpr trivial⟩

theorem raisesOnly_trackReference (value : Json) :
    RaisesOnly VisionContractError (trackReference value) := by
  refine raisesOnly_bind.mpr ⟨raisesOnly_object _ _ _, fun item _ => ?_⟩
  refine raisesOnly_bind.mpr ⟨raisesOnly_typedId _ _ _, fun _ _ => ?_⟩
  exact raisesOnly_bind.mpr ⟨raisesOnly_text _ _, fun _ _ => raisesOnly_pure.mpr trivial⟩

theorem raisesOnly_artifactKind (value : Json) :
    RaisesOnly VisionContractError (artifactKind value) := by
  unfold artifactKind
  dsimp only
  split
  case h_1 =>
    split
    · exact raisesOnly_ok.mpr trivial
    · exact raisesOnly_error.mpr (contractError_vision _)
  case h_2 => exact raisesOnly_error.mpr (contractError_vision _)

theorem raisesOnly_mediaType (value : Json) : RaisesOnly VisionContractError (mediaType value) := by
  unfold mediaType
  dsimp only
  split
  case h_1 =>
    split
    · exact raisesOnly_ok.mpr trivial
    · exact raisesOnly_error.mpr (contractError_vision _)
  case h_2 => exact raisesOnly_error.mpr (contractError_vision _)

theorem raisesOnly_artifact (value : Json) : RaisesOnly VisionContractError (artifact value) := by
  refine raisesOnly_bind.mpr ⟨raisesOnly_object _ _ _, fun item _ => ?_⟩
  refine raisesOnly_bind.mpr ⟨raisesOnly_checkedText (contractError_vision _), fun _ _ => ?_⟩
  refine raisesOnly_bind.mpr ⟨raisesOnly_artifactKind _, fun _ _ => ?_⟩
  refine raisesOnly_bind.mpr ⟨raisesOnly_mediaType _, fun _ _ => ?_⟩
  split
  · exact raisesOnly_pure.mpr trivial
  · exact raisesOnly_error.mpr (contractError_vision _)

theorem raisesOnly_observationArtifacts (item : Fields) :
    RaisesOnly VisionContractError (observationArtifacts item) := by
  refine raisesOnly_bind.mpr ⟨raisesOnly_sequence _ _, fun items _ => ?_⟩
  refine raisesOnly_bind.mpr
    ⟨raisesOnly_mapM.mpr fun _ value _ _ _ => raisesOnly_artifact value, fun _ _ => ?_⟩
  split
  · exact raisesOnly_pure.mpr trivial
  · exact raisesOnly_error.mpr (contractError_vision _)

theorem raisesOnly_observationTimes (item : Fields) :
    RaisesOnly VisionContractError (observationTimes item) := by
  refine raisesOnly_bind.mpr ⟨raisesOnly_checkedText (contractError_vision _), fun _ _ => ?_⟩
  refine raisesOnly_bind.mpr ⟨raisesOnly_checkedText (contractError_vision _), fun _ _ => ?_⟩
  split
  · exact raisesOnly_pure.mpr trivial
  · exact raisesOnly_error.mpr (contractError_vision _)

theorem raisesOnly_typedIds (value : Json) (field table : String) :
    RaisesOnly VisionContractError (typedIds value field table) := by
  refine raisesOnly_bind.mpr ⟨raisesOnly_sequence _ _, fun items _ => ?_⟩
  refine raisesOnly_bind.mpr ⟨raisesOnly_raiseIf (contractError_vision _), fun _ _ => ?_⟩
  refine raisesOnly_bind.mpr
    ⟨raisesOnly_mapM.mpr fun _ value _ _ _ => raisesOnly_typedId value _ _, fun _ _ => ?_⟩
  split
  · exact raisesOnly_pure.mpr trivial
  · exact raisesOnly_error.mpr (contractError_vision _)

/-! ### Numbers, boxes and hypotheses -/

theorem raisesOnly_finite (value : Json) (field : String) :
    RaisesOnly VisionContractError (finite value field) ↔ NumberFits value :=
  raisesOnly_checkedFinite overflow_not_vision (contractError_vision _)

theorem raisesOnly_unitInterval (value : Json) (field : String) :
    RaisesOnly VisionContractError (unitInterval value field) ↔ NumberFits value := by
  refine (raisesOnly_bind_const (q := True) fun x _ => iff_true_intro ?_).trans
    ((and_iff_left fun _ => trivial).trans (raisesOnly_finite value field))
  split
  · exact raisesOnly_error.mpr (contractError_vision _)
  · exact raisesOnly_pure.mpr trivial

theorem raisesOnly_bbox (value : Json) :
    RaisesOnly VisionContractError (bbox value) ↔ BoxFits value := by
  refine raisesOnly_read (raisesOnly_object _ _ _) fun item _ => ?_
  refine raisesOnly_part (raisesOnly_unitInterval _ _) fun x_min _ => ?_
  refine raisesOnly_part (raisesOnly_unitInterval _ _) fun y_min _ => ?_
  refine raisesOnly_part (raisesOnly_unitInterval _ _) fun x_max _ => ?_
  refine raisesOnly_last (raisesOnly_unitInterval _ _) fun y_max => ?_
  split
  · exact raisesOnly_pure.mpr trivial
  · exact raisesOnly_error.mpr (contractError_vision _)

theorem raisesOnly_detectorBelief (value : Json) :
    RaisesOnly VisionContractError (detectorBelief value) ↔ BeliefFits value := by
  refine raisesOnly_read (raisesOnly_object _ _ _) fun item _ => ?_
  refine raisesOnly_part (iff_true_intro (raisesOnly_text _ _)) fun _ _ => ?_
  refine raisesOnly_part (raisesOnly_unitInterval _ _) fun _ _ => ?_
  exact raisesOnly_last (raisesOnly_bbox _) fun _ => raisesOnly_pure.mpr trivial

theorem raisesOnly_candidateHypothesis (value : Json) :
    RaisesOnly VisionContractError (candidateHypothesis value) ↔ CandidateFits value := by
  refine raisesOnly_read (raisesOnly_object _ _ _) fun item _ => ?_
  refine raisesOnly_part (iff_true_intro (raisesOnly_typedId _ _ _)) fun _ _ => ?_
  exact raisesOnly_last (raisesOnly_unitInterval _ _) fun _ => raisesOnly_pure.mpr trivial

theorem raisesOnly_itemHypothesis (value : Json) :
    RaisesOnly VisionContractError (itemHypothesis value) ↔ ItemFits value := by
  refine raisesOnly_read (raisesOnly_object _ _ _) fun item _ => ?_
  refine raisesOnly_part (iff_true_intro (raisesOnly_typedId _ _ _)) fun _ _ => ?_
  exact raisesOnly_last (raisesOnly_unitInterval _ _) fun _ => raisesOnly_bind.mpr
    ⟨raisesOnly_typedIds _ _ _, fun _ _ => raisesOnly_pure.mpr trivial⟩

theorem raisesOnly_each {α : Type} {fits : Json → Prop} {parse : Json → Except PyError α}
    (hparse : ∀ value, RaisesOnly VisionContractError (parse value) ↔ fits value)
    (values : List Json) :
    RaisesOnly VisionContractError (values.mapM parse) ↔ EachFits fits parse values :=
  raisesOnly_mapM.trans (forall_congr' fun _ => forall_congr' fun value => forall_congr' fun _ =>
    forall₂_congr fun _ _ => hparse value)

theorem raisesOnly_candidateHypotheses (values : List Json) :
    RaisesOnly VisionContractError (candidateHypotheses values) ↔
      EachFits CandidateFits candidateHypothesis values := by
  refine (raisesOnly_bind_const (q := True) fun _ _ => iff_true_intro ?_).trans
    ((and_iff_left fun _ => trivial).trans (raisesOnly_each raisesOnly_candidateHypothesis values))
  split
  · exact raisesOnly_pure.mpr trivial
  · exact raisesOnly_error.mpr (contractError_vision _)

theorem raisesOnly_itemHypotheses (values : List Json) :
    RaisesOnly VisionContractError (itemHypotheses values) ↔
      EachFits ItemFits itemHypothesis values := by
  refine (raisesOnly_bind_const (q := True) fun _ _ => iff_true_intro ?_).trans
    ((and_iff_left fun _ => trivial).trans (raisesOnly_each raisesOnly_itemHypothesis values))
  split
  · exact raisesOnly_pure.mpr trivial
  · exact raisesOnly_error.mpr (contractError_vision _)

/-! ### Spatial evidence -/

/-- The errors of a runtime pose that the observation renames, or raises itself. -/
def Renamed (e : PyError) : Prop := VisionContractError (observerPoseError e)

theorem rejects_renamed : Rejects Renamed :=
  ⟨fun message => contractError_vision ("observer_pose: " ++ message), overflow_not_vision⟩

theorem raisesOnly_observerPose (value : Json) :
    RaisesOnly VisionContractError (observerPose value) ↔ RuntimePoseFits value := by
  rw [← raisesOnly_parseRuntimePose rejects_renamed]
  unfold observerPose
  split
  case h_1 pose hpose =>
    exact iff_of_true (raisesOnly_ok.mpr trivial) fun e he => (by rw [hpose] at he; cases he)
  case h_2 hnone =>
    exact iff_of_true (raisesOnly_ok.mpr trivial) fun e he => (by rw [hnone] at he; cases he)
  case h_3 e he =>
    rw [he, raisesOnly_error, raisesOnly_error]
    rfl

theorem unlessNone_of_ne {α : Type} {parse : Json → Except PyError α} {value : Json}
    (hvalue : value ≠ .null) : unlessNone value parse = (parse value).map some := by
  cases value with
  | null => exact absurd rfl hvalue
  | _ => rfl

theorem raisesOnly_unlessNone {α : Type} {fits : Json → Prop} {parse : Json → Except PyError α}
    (hparse : ∀ value, RaisesOnly VisionContractError (parse value) ↔ fits value) (value : Json) :
    RaisesOnly VisionContractError (unlessNone value parse) ↔ (value ≠ .null → fits value) := by
  by_cases hvalue : value = .null
  · rw [hvalue]
    exact iff_of_true (raisesOnly_ok.mpr trivial) fun hne => absurd rfl hne
  · rw [unlessNone_of_ne hvalue, raisesOnly_map, forall_prop_of_true hvalue]
    exact hparse value

theorem raisesOnly_optionalNonnegative (item : Fields) (name : String) :
    RaisesOnly VisionContractError (optionalNonnegative item name) ↔
      ∀ v, item.get? name = some v → NumberFits v :=
  raisesOnly_optionalField fun _ => raisesOnly_sigmaTerm overflow_not_vision
    (contractError_vision _) (contractError_vision _)

theorem raisesOnly_positionUncertainty (value : Json) :
    RaisesOnly VisionContractError (positionUncertainty value) ↔ PositionUncertaintyFits value := by
  refine raisesOnly_read (raisesOnly_object _ _ _) fun item _ => ?_
  have hterm := raisesOnly_optionalNonnegative item
  exact raisesOnly_part (hterm _) fun _ _ => raisesOnly_part (hterm _) fun _ _ =>
    raisesOnly_last (hterm _) fun _ => raisesOnly_pure.mpr trivial

theorem raisesOnly_objectPosition (value : Json) :
    RaisesOnly VisionContractError (objectPosition value) ↔ ObjectPositionFits value := by
  refine raisesOnly_read (raisesOnly_object _ _ _) fun item _ => ?_
  refine raisesOnly_part (raisesOnly_finite _ _) fun _ _ => ?_
  refine raisesOnly_part (raisesOnly_finite _ _) fun _ _ => ?_
  exact raisesOnly_last (raisesOnly_finite _ _) fun _ => raisesOnly_pure.mpr trivial

theorem raisesOnly_objectPositionEstimate (value : Json) :
    RaisesOnly VisionContractError (objectPositionEstimate value) ↔ PositionEstimateFits value := by
  refine raisesOnly_read (raisesOnly_object _ _ _) fun item _ => ?_
  refine raisesOnly_part (raisesOnly_objectPosition _) fun _ _ => ?_
  exact raisesOnly_last (raisesOnly_unlessNone raisesOnly_positionUncertainty _) fun _ =>
    raisesOnly_bind.mpr ⟨raisesOnly_typedId _ _ _, fun _ _ => raisesOnly_pure.mpr trivial⟩

/-- **Visual observations.** -/
theorem raisesOnly_parseVisualObservation (value : Json) :
    RaisesOnly VisionContractError (parseVisualObservation value) ↔ ObservationFits value := by
  refine raisesOnly_read (raisesOnly_object _ _ _) fun item _ => ?_
  refine raisesOnly_read (raisesOnly_sequence _ _) fun candidates _ => ?_
  refine raisesOnly_read (raisesOnly_sequence _ _) fun items _ => ?_
  refine raisesOnly_part (iff_true_intro (raisesOnly_observationArtifacts _)) fun _ _ => ?_
  refine raisesOnly_part (iff_true_intro (raisesOnly_observationTimes _)) fun _ _ => ?_
  refine raisesOnly_part (raisesOnly_candidateHypotheses _) fun _ _ => ?_
  refine raisesOnly_part (raisesOnly_itemHypotheses _) fun _ _ => ?_
  refine raisesOnly_part (iff_true_intro (raisesOnly_typedId _ _ _)) fun _ _ => ?_
  refine raisesOnly_part (iff_true_intro (raisesOnly_source _)) fun _ _ => ?_
  refine raisesOnly_part (raisesOnly_detectorBelief _) fun _ _ => ?_
  refine raisesOnly_part (iff_true_intro (raisesOnly_typedId _ _ _)) fun _ _ => ?_
  refine raisesOnly_part (iff_true_intro ((raisesOnly_unlessNone (fun track =>
    iff_true_intro (raisesOnly_trackReference track)) _).mpr fun _ => trivial)) fun _ _ => ?_
  refine raisesOnly_part (raisesOnly_observerPose _) fun _ _ => ?_
  exact raisesOnly_last (raisesOnly_unlessNone raisesOnly_objectPositionEstimate _) fun _ =>
    raisesOnly_pure.mpr trivial

end Vision
end HomeCortex
