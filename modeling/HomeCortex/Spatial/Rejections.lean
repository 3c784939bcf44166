/-
# What the spatial parsers raise

The wire parsers answer a malformed value with `SpatialContractError`.  Two library calls
inside their checks raise `OverflowError` instead: `math.isfinite` of an integer beyond the
binary64 range, and `astimezone` of a time whose instant in UTC leaves the years 1 to 9999.
For each parser, `…Fits` says which parts it reads before its first objection, and that none of
them is such a number or time; `raisesOnly_…` is the equivalence.
-/

import HomeCortex.Library.Raises
import HomeCortex.Spatial.Fiducials
import HomeCortex.Spatial.Mappings

namespace HomeCortex
namespace Spatial

open Except

/-- `SpatialContractError`. -/
def SpatialContractError (e : PyError) : Prop := ∃ message, e = .spatialContract message

/-- A class of errors with every contract error and no `OverflowError`. -/
structure Rejects (P : PyError → Prop) : Prop where
  contract : ∀ message, P (.spatialContract message)
  overflow : ∀ message, ¬ P (.overflow message)

theorem rejects_spatialContract : Rejects SpatialContractError :=
  ⟨fun message => ⟨message, rfl⟩, fun _ h => (by obtain ⟨_, h⟩ := h; cases h)⟩

variable {P : PyError → Prop}

/-- A condition that is checked. -/
def required (condition : Prop) : Prop × Prop := (True, condition)

theorem raisesOnly_raiseIf {c : Bool} {error : PyError} (h : P error) :
    RaisesOnly P (raiseIf c error) := by
  cases c with
  | false => exact raisesOnly_ok.mpr trivial
  | true => exact raisesOnly_error.mpr h

theorem raisesOnly_required {α : Type} {c : Bool} {error : PyError}
    {f : Unit → Except PyError α} {condition : Prop} {rest : List (Prop × Prop)} (h : P error)
    (hc : c = false ↔ condition) (hf : condition → (RaisesOnly P (f ()) ↔ InOrder rest)) :
    RaisesOnly P (raiseIf c error >>= f) ↔ InOrder (required condition :: rest) := by
  have horder : InOrder (required condition :: rest) ↔ (condition → InOrder rest) :=
    and_iff_right trivial
  rw [raisesOnly_bind, and_iff_right (raisesOnly_raiseIf h), horder]
  refine ⟨fun hall hcondition => ?_, fun hall _ hok => ?_⟩
  · exact (hf hcondition).mp (hall () (raiseIf_eq_ok.mpr (hc.mpr hcondition)))
  have hcondition := hc.mp (raiseIf_eq_ok.mp hok)
  exact (hf hcondition).mpr (hall hcondition)

/-! ### Numbers -/

/-- An integer is in the binary64 range. -/
def NumberFits (value : Json) : Prop := ∀ n, value = .int n → (Float.ofInt n).isFinite = true

theorem raisesOnly_finiteFloat (hoverflow : ∀ message, ¬ P (.overflow message)) {value : Json}
    {error : PyError} (herror : P error) :
    RaisesOnly P (finiteFloat value error) ↔ NumberFits value := by
  cases value with
  | int n =>
      rw [finiteFloat]
      split
      case isTrue hfinite =>
        exact iff_of_true (raisesOnly_ok.mpr trivial) fun _ h => Json.int.inj h ▸ hfinite
      case isFalse hfinite =>
        exact iff_of_false (fun h => hoverflow _ (raisesOnly_error.mp h)) fun h => hfinite (h n rfl)
  | float x =>
      rw [finiteFloat]
      refine iff_of_true ?_ fun _ h => (by cases h)
      split
      · exact raisesOnly_ok.mpr trivial
      · exact raisesOnly_error.mpr herror
  | _ => exact iff_of_true (raisesOnly_error.mpr herror) fun _ h => (by cases h)

theorem map_checkedFinite (value : Json) (error : PyError) :
    (checkedFinite value error).map Subtype.val = finiteFloat value error := by
  unfold checkedFinite
  split
  case h_1 x hx => exact hx.symm
  case h_2 e he => exact he.symm

theorem raisesOnly_checkedFinite (hoverflow : ∀ message, ¬ P (.overflow message)) {value : Json}
    {error : PyError} (herror : P error) :
    RaisesOnly P (checkedFinite value error) ↔ NumberFits value := by
  rw [← raisesOnly_finiteFloat hoverflow herror, ← map_checkedFinite, raisesOnly_map]

/-- Feet, then inches. -/
def FeetInchesFit (parts : Fields) : Prop :=
  let feet := ((parts.get? "ft").orElse fun _ => (parts.get? "foot").orElse fun _ =>
    parts.get? "feet").getD (.int 0)
  let inches := ((parts.get? "in").orElse fun _ => (parts.get? "inch").orElse fun _ =>
    parts.get? "inches").getD (.int 0)
  InOrder [required (parts.extra ["ft", "foot", "feet", "in", "inch", "inches"] = []),
    part (NumberFits feet) (finite feet "ft"), part (NumberFits inches) (finite inches "in")]

/-- A length with its unit, where `None` announces feet and inches. -/
def LengthFits (value unit : Json) : Prop :=
  match value.asObject?, unit with
  | some parts, .null => FeetInchesFit parts
  | _, _ => NumberFits value

/-- What `as_meters` reads of a value. -/
def MetersFit (value : Json) : Prop :=
  match value.asObject? with
  | some fields =>
      if fields.has "value" || fields.has "unit" then
        fields.extra ["unit", "value"] = [] → ∀ inner, fields.get? "value" = some inner →
          LengthFits inner ((fields.get? "unit").getD (.str LENGTH_UNIT))
      else FeetInchesFit fields
  | none => NumberFits value

/-- An angle counts when its unit is known. -/
def AngleFits (value unit : Json) : Prop :=
  ∀ name, unit = .str name → (angleToRadians.lookup (casefold name)).isSome = true →
    NumberFits value

/-- What `as_radians` reads of a value. -/
def RadiansFit (value : Json) : Prop :=
  match value.asObject? with
  | some fields =>
      fields.extra ["unit", "value"] = [] → ∀ inner, fields.get? "value" = some inner →
        AngleFits inner ((fields.get? "unit").getD (.str ANGLE_UNIT))
  | none => NumberFits value

section Units

variable (hunit : ∀ message, P (.spatialUnit message))
  (hoverflow : ∀ message, ¬ P (.overflow message))

include hunit hoverflow

theorem raisesOnly_finite (value : Json) (name : String) :
    RaisesOnly P (finite value name) ↔ NumberFits value :=
  raisesOnly_finiteFloat hoverflow (hunit _)

theorem raisesOnly_normalizeFeetInches (parts : Fields) :
    RaisesOnly P (normalizeFeetInches parts) ↔ FeetInchesFit parts :=
  raisesOnly_required (hunit _) (by simp) fun _ =>
    raisesOnly_part (raisesOnly_finite hunit hoverflow _ _) fun _ _ =>
      raisesOnly_last (raisesOnly_finite hunit hoverflow _ _) fun _ => raisesOnly_pure.mpr trivial

omit hoverflow in
theorem raisesOnly_lengthFactor (unit : Json) : RaisesOnly P (lengthFactor unit) := by
  unfold lengthFactor
  cases unit with
  | null => exact raisesOnly_error.mpr (hunit _)
  | str name =>
      dsimp only
      cases lengthToMeters.lookup (casefold name) with
      | none => exact raisesOnly_error.mpr (hunit _)
      | some factor => exact raisesOnly_ok.mpr trivial
  | _ => exact raisesOnly_error.mpr (hunit _)

theorem raisesOnly_normalizeLength (value unit : Json) :
    RaisesOnly P (normalizeLength value unit) ↔ LengthFits value unit := by
  have hother : RaisesOnly P (do return (← finite value "length") * (← lengthFactor unit)) ↔
      NumberFits value := by
    rw [raisesOnly_bind_const (q := True), raisesOnly_finite hunit hoverflow]
    · exact and_iff_left fun _ => trivial
    · refine fun x _ => iff_of_true (raisesOnly_bind.mpr ⟨?_, fun _ _ => ?_⟩) trivial
      · exact raisesOnly_lengthFactor hunit unit
      · exact raisesOnly_pure.mpr trivial
  unfold normalizeLength LengthFits
  cases value.asObject? with
  | none => exact hother
  | some parts =>
      cases unit with
      | null => exact raisesOnly_normalizeFeetInches hunit hoverflow parts
      | _ => exact hother

theorem raisesOnly_asMeters (value : Json) : RaisesOnly P (asMeters value) ↔ MetersFit value := by
  have hlength := raisesOnly_normalizeLength hunit hoverflow value
  unfold LengthFits at hlength
  unfold asMeters MetersFit
  cases hvalue : value.asObject? with
  | none =>
      rw [hvalue] at hlength
      exact hlength (.str LENGTH_UNIT)
  | some fields =>
      rw [hvalue] at hlength
      dsimp only
      split
      case isTrue =>
        cases hextra : fields.extra ["unit", "value"] with
        | cons key keys =>
            exact iff_of_true (raisesOnly_error.mpr (hunit _)) fun h => (by cases h)
        | nil =>
            rw [forall_prop_of_true rfl]
            cases fields.get? "value" with
            | none => exact iff_of_true (raisesOnly_error.mpr (hunit _)) fun _ h => (by cases h)
            | some inner =>
                refine (raisesOnly_normalizeLength hunit hoverflow _ _).trans ?_
                exact ⟨fun h v hv => Option.some.inj hv ▸ h, fun h => h inner rfl⟩
      case isFalse => exact hlength .null

theorem raisesOnly_normalizeAngle (value unit : Json) :
    RaisesOnly P (normalizeAngle value unit) ↔ AngleFits value unit := by
  unfold normalizeAngle AngleFits
  cases unit with
  | str name =>
      dsimp only
      cases hfactor : angleToRadians.lookup (casefold name) with
      | none =>
          refine iff_of_true (raisesOnly_error.mpr (hunit _)) fun other hother hsome => ?_
          rw [← Json.str.inj hother, hfactor] at hsome
          cases hsome
      | some factor =>
          rw [raisesOnly_bind, raisesOnly_finite hunit hoverflow,
            and_iff_left fun _ _ => raisesOnly_pure.mpr trivial]
          exact ⟨fun h _ _ _ => h, fun h => h name rfl (by rw [hfactor]; rfl)⟩
  | _ => exact iff_of_true (raisesOnly_error.mpr (hunit _)) fun _ h => (by cases h)

theorem raisesOnly_asRadians (value : Json) :
    RaisesOnly P (asRadians value) ↔ RadiansFit value := by
  unfold asRadians RadiansFit
  cases value.asObject? with
  | none =>
      refine (raisesOnly_normalizeAngle hunit hoverflow _ _).trans ?_
      exact ⟨fun h => h ANGLE_UNIT rfl rfl, fun h _ _ _ => h⟩
  | some fields =>
      dsimp only
      cases hextra : fields.extra ["unit", "value"] with
      | cons key keys => exact iff_of_true (raisesOnly_error.mpr (hunit _)) fun h => (by cases h)
      | nil =>
          rw [forall_prop_of_true rfl]
          cases fields.get? "value" with
          | none => exact iff_of_true (raisesOnly_error.mpr (hunit _)) fun _ h => (by cases h)
          | some inner =>
              refine (raisesOnly_normalizeAngle hunit hoverflow _ _).trans ?_
              exact ⟨fun h v hv => Option.some.inj hv ▸ h, fun h => h inner rfl⟩

end Units

/-! ### Vectors and poses -/

/-- The error that `unitErrorAsContract` makes of an error. -/
def asContract : PyError → PyError
  | .spatialUnit message => .spatialContract message
  | raised => raised

theorem raisesOnly_unitErrorAsContract {α : Type} {x : Except PyError α} :
    RaisesOnly P (unitErrorAsContract x) ↔ RaisesOnly (fun e => P (asContract e)) x := by
  cases x with
  | ok a => exact iff_of_true (raisesOnly_ok.mpr trivial) (raisesOnly_ok.mpr trivial)
  | error e =>
      have hraised : unitErrorAsContract (.error e : Except PyError α) = .error (asContract e) := by
        cases e <;> rfl
      rw [hraised, raisesOnly_error, raisesOnly_error]

/-- What `measured_position` reads. -/
def PositionFits (value : Json) : Prop :=
  ∀ item, localObject value "position" ["x", "y", "z"] = .ok item → InOrder [
    part True (requireVector item "position" ["x", "y", "z"]),
    part (MetersFit (item.getD "x")) (asMeters (item.getD "x")),
    part (MetersFit (item.getD "y")) (asMeters (item.getD "y")),
    part (MetersFit (item.getD "z")) (asMeters (item.getD "z"))]

/-- What `measured_orientation` reads. -/
def OrientationFits (value : Json) : Prop :=
  ∀ item, localObject value "orientation" ["yaw", "pitch", "roll"] = .ok item → InOrder [
    part True (requireVector item "orientation" ["yaw", "pitch", "roll"]),
    part (RadiansFit (item.getD "yaw")) (asRadians (item.getD "yaw")),
    part (RadiansFit (item.getD "pitch")) (asRadians (item.getD "pitch")),
    part (RadiansFit (item.getD "roll")) (asRadians (item.getD "roll"))]

/-- The two vectors of a pose. -/
def VectorsFit (position orientation : Json) : List (Prop × Prop) := [
  part (PositionFits position) (measuredPosition position),
  part (OrientationFits orientation) (measuredOrientation orientation)]

section Contract

variable (h : Rejects P)

include h

theorem raisesOnly_localObject (value : Json) (field : String) (allowed : List String) :
    RaisesOnly P (localObject value field allowed) := by
  unfold localObject
  cases value.asObject? with
  | none => exact raisesOnly_error.mpr (h.contract _)
  | some fields =>
      dsimp only
      split
      · exact raisesOnly_ok.mpr trivial
      · exact raisesOnly_error.mpr (h.contract _)

theorem raisesOnly_requireVector (item : Fields) (field : String) (names : List String) :
    RaisesOnly P (requireVector item field names) := by
  unfold requireVector
  dsimp only
  split
  · exact raisesOnly_ok.mpr trivial
  · exact raisesOnly_error.mpr (h.contract _)

theorem raisesOnly_measuredPosition (value : Json) :
    RaisesOnly P (measuredPosition value) ↔ PositionFits value := by
  refine raisesOnly_read (raisesOnly_localObject h _ _ _) fun item _ => ?_
  refine raisesOnly_part (iff_true_intro (raisesOnly_requireVector h _ _ _)) fun _ _ => ?_
  have hmeters := raisesOnly_asMeters (P := fun e => P (asContract e)) h.contract h.overflow
  rw [raisesOnly_unitErrorAsContract]
  exact raisesOnly_part (hmeters _) fun _ _ => raisesOnly_part (hmeters _) fun _ _ =>
    raisesOnly_last (hmeters _) fun _ => raisesOnly_pure.mpr trivial

theorem raisesOnly_measuredOrientation (value : Json) :
    RaisesOnly P (measuredOrientation value) ↔ OrientationFits value := by
  refine raisesOnly_read (raisesOnly_localObject h _ _ _) fun item _ => ?_
  refine raisesOnly_part (iff_true_intro (raisesOnly_requireVector h _ _ _)) fun _ _ => ?_
  have hradians := raisesOnly_asRadians (P := fun e => P (asContract e)) h.contract h.overflow
  rw [raisesOnly_unitErrorAsContract]
  exact raisesOnly_part (hradians _) fun _ _ => raisesOnly_part (hradians _) fun _ _ =>
    raisesOnly_last (hradians _) fun _ => raisesOnly_pure.mpr trivial

omit h in
/-- Measured vectors make a pose. -/
theorem pose_of_measured {value other : Json} {position : Position} {orientation : Orientation}
    (hposition : measuredPosition value = .ok position)
    (horientation : measuredOrientation other = .ok orientation) :
    ∃ built, pose position orientation = .ok built :=
  ⟨_, pose_self ⟨⟨position, isFinite_measuredPosition hposition⟩,
    ⟨orientation, isFinite_measuredOrientation horientation⟩⟩⟩

/-- What `parse_surveyed_anchor` reads of a survey. -/
def SurveyFits (value : Json) : Prop :=
  ∀ item, localObject value "survey" ["method", "uncertainty_m"] = .ok item →
    ∀ method, nonBlank (item.get? "method")
      (.spatialContract "survey.method must be a non-empty string") = .ok method →
    ∀ length, item.get? "uncertainty_m" = some length → MetersFit length

/-- What `parse_surveyed_anchor` reads. -/
def AnchorFits (value space : Json) : Prop :=
  ∀ item, anchorObject value = .ok item →
    ∀ spaceId, givenSpace item space = some (.str spaceId) → InOrder [
      part True (requireOneKind item), part True (anchorKind (kindField item)),
      required (item.has "position" = true), required (isTypedId "space" spaceId = true),
      part True (parseLocalAnchorId (item.get? "id") spaceId),
      part (PositionFits (item.getD "position")) (measuredPosition (item.getD "position")),
      part (∀ v, item.get? "orientation" = some v → OrientationFits v)
        ((item.get? "orientation").mapM measuredOrientation),
      part True ((item.get? "recognition").mapM recognitionOf),
      part (∀ v, item.get? "survey" = some v → SurveyFits v) ((item.get? "survey").mapM surveyOf)]

omit h in
theorem raisesOnly_nonBlank {value : Option Json} {error : PyError} (herror : P error) :
    RaisesOnly P (nonBlank value error) := by
  unfold nonBlank
  split
  case h_1 text =>
    split
    · exact raisesOnly_error.mpr herror
    · exact raisesOnly_ok.mpr trivial
  case h_2 => exact raisesOnly_error.mpr herror

theorem raisesOnly_surveyOf (value : Json) : RaisesOnly P (surveyOf value) ↔ SurveyFits value := by
  refine raisesOnly_read (raisesOnly_localObject h _ _ _) fun item _ => ?_
  refine raisesOnly_read (raisesOnly_nonBlank (h.contract _)) fun method _ => ?_
  cases item.get? "uncertainty_m" with
  | none => exact iff_of_true (raisesOnly_ok.mpr trivial) fun _ hnone => (by cases hnone)
  | some length =>
      have hmeters := raisesOnly_asMeters (P := fun e => P (asContract e)) h.contract h.overflow
      dsimp only
      rw [raisesOnly_bind_const (q := True), raisesOnly_unitErrorAsContract, hmeters,
        and_iff_left fun _ => trivial]
      · exact ⟨fun hfits v hv => Option.some.inj hv ▸ hfits, fun hfits => hfits length rfl⟩
      · refine fun u _ => iff_true_intro (raisesOnly_bind.mpr ⟨?_, fun _ _ => ?_⟩)
        · exact raisesOnly_raiseIf (h.contract _)
        · exact raisesOnly_ok.mpr trivial

theorem raisesOnly_recognitionOf (value : Json) : RaisesOnly P (recognitionOf value) := by
  refine raisesOnly_bind.mpr ⟨raisesOnly_localObject h _ _ _, fun item _ => ?_⟩
  refine raisesOnly_bind.mpr ⟨raisesOnly_nonBlank (h.contract _), fun family _ => ?_⟩
  split
  case h_1 => exact raisesOnly_ok.mpr trivial
  case h_2 => exact raisesOnly_ok.mpr trivial
  case h_3 =>
    exact raisesOnly_bind.mpr
      ⟨raisesOnly_raiseIf (h.contract _), fun _ _ => raisesOnly_ok.mpr trivial⟩
  case h_4 => exact raisesOnly_error.mpr (h.contract _)

theorem raisesOnly_parseLocalAnchorId (value : Option Json) (space : String) :
    RaisesOnly P (parseLocalAnchorId value space) := by
  have htoken : ∀ id : String, RaisesOnly P (if isLocalAnchorId id = true then pure id
      else throw (.spatialContract "anchor id must be a local token")) := by
    intro id
    split
    · exact raisesOnly_pure.mpr trivial
    · exact raisesOnly_error.mpr (h.contract _)
  refine raisesOnly_bind.mpr ⟨raisesOnly_nonBlank (h.contract _), fun text _ => ?_⟩
  split
  case isTrue =>
    exact raisesOnly_bind.mpr ⟨raisesOnly_raiseIf (h.contract _), fun _ _ => htoken _⟩
  case isFalse =>
    split
    case isTrue =>
      cases splitRecordId text with
      | error => exact raisesOnly_error.mpr (h.contract _)
      | ok parts =>
          exact raisesOnly_bind.mpr ⟨raisesOnly_raiseIf (h.contract _), fun _ _ => htoken _⟩
    case isFalse => exact htoken text

theorem raisesOnly_anchorObject (value : Json) : RaisesOnly P (anchorObject value) := by
  unfold anchorObject
  cases value.asObject? with
  | none => exact raisesOnly_error.mpr (h.contract _)
  | some fields =>
      dsimp only
      split
      · exact raisesOnly_ok.mpr trivial
      · exact raisesOnly_error.mpr (h.contract _)

theorem raisesOnly_requireOneKind (fields : Fields) : RaisesOnly P (requireOneKind fields) := by
  unfold requireOneKind
  split
  · exact raisesOnly_raiseIf (h.contract _)
  · exact raisesOnly_ok.mpr trivial

theorem raisesOnly_anchorKind (value : Json) : RaisesOnly P (anchorKind value) := by
  unfold anchorKind
  dsimp only
  split
  case h_1 kind =>
    split
    · exact raisesOnly_ok.mpr trivial
    · exact raisesOnly_error.mpr (h.contract _)
  case h_2 => exact raisesOnly_error.mpr (h.contract _)

theorem raisesOnly_anchorIn (item : Fields) (kind spaceId : String) :
    RaisesOnly P (anchorIn item kind (some (.str spaceId))) ↔ InOrder [
      required (isTypedId "space" spaceId = true),
      part True (parseLocalAnchorId (item.get? "id") spaceId),
      part (PositionFits (item.getD "position")) (measuredPosition (item.getD "position")),
      part (∀ v, item.get? "orientation" = some v → OrientationFits v)
        ((item.get? "orientation").mapM measuredOrientation),
      part True ((item.get? "recognition").mapM recognitionOf),
      part (∀ v, item.get? "survey" = some v → SurveyFits v)
        ((item.get? "survey").mapM surveyOf)] := by
  unfold anchorIn isTypedId
  dsimp only
  cases splitRecordId spaceId with
  | error =>
      exact iff_of_true (raisesOnly_error.mpr (h.contract _)) ⟨trivial, fun hs => (by cases hs)⟩
  | ok parts =>
      refine raisesOnly_required (h.contract _) (by simp) fun _ => ?_
      refine raisesOnly_part (iff_true_intro (raisesOnly_parseLocalAnchorId h _ _)) fun _ _ => ?_
      refine raisesOnly_part (raisesOnly_measuredPosition h _) fun _ _ => ?_
      refine raisesOnly_part (raisesOnly_optionMapM.trans
        (forall₂_congr fun v _ => raisesOnly_measuredOrientation h v)) fun _ _ => ?_
      refine raisesOnly_part (iff_true_intro (raisesOnly_optionMapM.mpr
        fun v _ => raisesOnly_recognitionOf h v)) fun _ _ => ?_
      exact raisesOnly_last (raisesOnly_optionMapM.trans
        (forall₂_congr fun v _ => raisesOnly_surveyOf h v)) fun _ => raisesOnly_pure.mpr trivial

omit h in
theorem anchorIn_no_space {item : Fields} {kind : String} {space : Option Json}
    (hspace : ¬ ∃ spaceId, space = some (.str spaceId)) :
    anchorIn item kind space = .error (.spatialContract "surveyed anchor requires a space") := by
  unfold anchorIn
  split
  case h_1 spaceId => exact absurd ⟨spaceId, rfl⟩ hspace
  case h_2 => rfl

/-- **Surveyed anchors.** -/
theorem raisesOnly_parseSurveyedAnchor (value space : Json) :
    RaisesOnly P (parseSurveyedAnchor value space) ↔ AnchorFits value space := by
  rw [parseSurveyedAnchor_stages]
  refine raisesOnly_read (raisesOnly_anchorObject h value) fun item _ => ?_
  by_cases hspace : ∃ spaceId, givenSpace item space = some (.str spaceId)
  · obtain ⟨spaceId, hspace⟩ := hspace
    rw [hspace]
    refine Iff.trans ?_ ⟨fun hfits s hs => Json.str.inj (Option.some.inj hs) ▸ hfits,
      fun hfits => hfits spaceId rfl⟩
    refine raisesOnly_part (iff_true_intro (raisesOnly_requireOneKind h _)) fun _ _ => ?_
    refine raisesOnly_part (iff_true_intro (raisesOnly_anchorKind h _)) fun kind _ => ?_
    refine raisesOnly_required (h.contract _) (by simp) fun _ => ?_
    rw [hspace]
    exact raisesOnly_anchorIn h item kind spaceId
  · refine iff_of_true ?_ fun spaceId hs => absurd ⟨spaceId, hs⟩ hspace
    refine raisesOnly_bind.mpr ⟨raisesOnly_requireOneKind h _, fun _ _ => ?_⟩
    refine raisesOnly_bind.mpr ⟨raisesOnly_anchorKind h _, fun kind _ => ?_⟩
    refine raisesOnly_bind.mpr ⟨raisesOnly_raiseIf (h.contract _), fun _ _ => ?_⟩
    rw [anchorIn_no_space hspace]
    exact raisesOnly_error.mpr (h.contract _)

/-! ### Fiducial observations -/

/-- What `parse_fiducial_observation` reads. -/
def FiducialFits (value : Json) : Prop :=
  ∀ item, localObject value "fiducial observation" FIDUCIAL_FIELDS = .ok item → InOrder ([
    required (item.has "position" = true ∧ item.has "orientation" = true),
    required (item.has "timestamp" = true),
    part (∀ v, item.get? "confidence" = some v → NumberFits v)
      ((item.get? "confidence").mapM fun value => unitConfidence value "confidence"),
    part (∀ v, item.get? "reprojection_error_px" = some v → NumberFits v)
      ((item.get? "reprojection_error_px").mapM fun value =>
        nonNegative value "reprojection_error_px")] ++
    VectorsFit (item.getD "position") (item.getD "orientation"))

omit h in
theorem raisesOnly_sigmaTerm (hoverflow : ∀ message, ¬ P (.overflow message)) {value : Json}
    {error negative : PyError} (herror : P error) (hnegative : P negative) :
    RaisesOnly P (sigmaTerm value error negative) ↔ NumberFits value := by
  refine (raisesOnly_bind_const (q := True) fun x _ => iff_true_intro ?_).trans
    ((and_iff_left fun _ => trivial).trans (raisesOnly_checkedFinite hoverflow herror))
  split
  · exact raisesOnly_error.mpr hnegative
  · exact raisesOnly_pure.mpr trivial

theorem raisesOnly_unitConfidence (value : Json) (field : String) :
    RaisesOnly P (unitConfidence value field) ↔ NumberFits value := by
  refine (raisesOnly_bind_const (q := True) fun x _ => iff_true_intro ?_).trans
    ((and_iff_left fun _ => trivial).trans (raisesOnly_checkedFinite h.overflow (h.contract _)))
  split
  · exact raisesOnly_error.mpr (h.contract _)
  · exact raisesOnly_pure.mpr trivial

omit h in
theorem raisesOnly_checkedText {check : String → Bool} {value : Json} {error : PyError}
    (herror : P error) : RaisesOnly P (checkedText check value error) := by
  unfold checkedText
  split
  case h_1 text =>
    split
    · exact raisesOnly_ok.mpr trivial
    · exact raisesOnly_error.mpr herror
  case h_2 => exact raisesOnly_error.mpr herror

theorem raisesOnly_localToken (id : String) : RaisesOnly P (localToken id) := by
  unfold localToken
  split
  · exact raisesOnly_ok.mpr trivial
  · exact raisesOnly_error.mpr (h.contract _)

theorem raisesOnly_parseAnchorId (value : Option Json) : RaisesOnly P (parseAnchorId value) := by
  refine raisesOnly_bind.mpr ⟨raisesOnly_nonBlank (h.contract _), fun text _ => ?_⟩
  split
  case isTrue => exact raisesOnly_localToken h _
  case isFalse =>
    split
    case isTrue =>
      cases splitRecordId text with
      | error => exact raisesOnly_error.mpr (h.contract _)
      | ok parts =>
          exact raisesOnly_bind.mpr
            ⟨raisesOnly_raiseIf (h.contract _), fun _ _ => raisesOnly_localToken h _⟩
    case isFalse => exact raisesOnly_localToken h _

/-- **Fiducial observations.** -/
theorem raisesOnly_parseFiducialObservation (value : Json) :
    RaisesOnly P (parseFiducialObservation value) ↔ FiducialFits value := by
  refine raisesOnly_read (raisesOnly_localObject h _ _ _) fun item _ => ?_
  refine raisesOnly_required (h.contract _) (by simp) fun _ => ?_
  refine raisesOnly_required (h.contract _) (by simp) fun _ => ?_
  refine raisesOnly_part (raisesOnly_optionMapM.trans
    (forall₂_congr fun v _ => raisesOnly_unitConfidence h v _)) fun _ _ => ?_
  refine raisesOnly_part (raisesOnly_optionMapM.trans
    (forall₂_congr fun v _ => raisesOnly_sigmaTerm h.overflow (h.contract _) (h.contract _)))
    fun _ _ => ?_
  refine raisesOnly_part (raisesOnly_measuredPosition h _) fun position hposition => ?_
  refine raisesOnly_part (raisesOnly_measuredOrientation h _) fun orientation horientation => ?_
  obtain ⟨built, hbuilt⟩ := pose_of_measured hposition horientation
  refine raisesOnly_done (raisesOnly_bind.mpr ⟨raisesOnly_parseAnchorId h _, fun _ _ => ?_⟩)
  rw [hbuilt]
  refine raisesOnly_bind.mpr ⟨raisesOnly_ok.mpr trivial, fun _ _ => ?_⟩
  exact raisesOnly_bind.mpr
    ⟨raisesOnly_checkedText (h.contract _), fun _ _ => raisesOnly_pure.mpr trivial⟩

/-! ### Runtime poses -/

/-- One term of an uncertainty. -/
def TermFits (item : Fields) (name : String) : Prop × Prop :=
  part (∀ v, item.get? name = some v → NumberFits v) (uncertaintyTerm item name)

/-- What `_uncertainty` reads. -/
def UncertaintyFits (value : Json) : Prop :=
  ∀ item, localObject value "uncertainty" UNCERTAINTY_FIELDS = .ok item → InOrder [
    TermFits item "x_sigma", TermFits item "y_sigma", TermFits item "z_sigma",
    TermFits item "yaw_sigma", TermFits item "pitch_sigma", TermFits item "roll_sigma"]

/-- What `_estimate` reads. -/
def EstimateFits (item : Fields) : Prop :=
  ∀ position, item.get? "position" = some position →
    ∀ orientation, item.get? "orientation" = some orientation →
      InOrder (VectorsFit position orientation)

/-- What `parse_runtime_pose` reads of an object whose quality is known. -/
def PosedFieldsFit (item : Fields) (has_pose : Bool) (quality : LocalizationQuality) : Prop :=
  InOrder [required (quality = .unknown → has_pose = false),
    required (quality.hasPose = true → has_pose = true),
    part (has_pose = true → EstimateFits item) (poseEstimateIf item has_pose),
    part True (optionalField item "timestamp" poseTimestamp),
    part True (optionalField item "source" poseSource),
    required (has_pose = true → item.has "timestamp" = true),
    required (has_pose = true → item.has "source" = true),
    part (∀ v, item.get? "uncertainty" = some v → UncertaintyFits v)
      (optionalField item "uncertainty" poseUncertainty)]

/-- What `parse_runtime_pose` reads of an object. -/
def RuntimeFieldsFit (item : Fields) : Prop :=
  let has_pose := item.has "position" || item.has "orientation"
  InOrder [required (item.extra RUNTIME_FIELDS = []),
    part True (requireTypedId (item.getD "agent") "agent" "agent"),
    part True (requireTypedId (item.getD "space") "space" "space"),
    whole (∀ quality, localizationQuality (item.getD "quality") has_pose = .ok quality →
      PosedFieldsFit item has_pose quality)]

/-- What `parse_runtime_pose` reads. -/
def RuntimePoseFits (value : Json) : Prop := ∀ item, value = .obj item → RuntimeFieldsFit item

omit h in
theorem map_requireTypedId (value : Json) (table field : String) :
    (requireTypedId value table field).map Subtype.val = typedId value table field := by
  unfold requireTypedId
  split
  case h_1 text htext => exact htext.symm
  case h_2 e he => exact he.symm

theorem raisesOnly_typedId (value : Json) (table field : String) :
    RaisesOnly P (typedId value table field) := by
  unfold typedId
  cases value with
  | str text =>
      dsimp only
      cases splitRecordId text with
      | error => exact raisesOnly_error.mpr (h.contract _)
      | ok parts =>
          dsimp only
          split
          · exact raisesOnly_ok.mpr trivial
          · exact raisesOnly_error.mpr (h.contract _)
  | _ => exact raisesOnly_error.mpr (h.contract _)

theorem raisesOnly_requireTypedId (value : Json) (table field : String) :
    RaisesOnly P (requireTypedId value table field) := by
  have htyped := raisesOnly_typedId h value table field
  rwa [← map_requireTypedId, raisesOnly_map] at htyped

omit h in
theorem raisesOnly_optionalField {α : Type} {item : Fields} {key : String}
    {parse : Json → Except PyError α} {fits : Json → Prop}
    (hparse : ∀ v, RaisesOnly P (parse v) ↔ fits v) :
    RaisesOnly P (optionalField item key parse) ↔ ∀ v, item.get? key = some v → fits v := by
  unfold optionalField
  cases item.get? key with
  | none => exact iff_of_true (raisesOnly_ok.mpr trivial) fun _ hnone => (by cases hnone)
  | some value =>
      rw [raisesOnly_map, hparse]
      exact ⟨fun hfits v hv => Option.some.inj hv ▸ hfits, fun hfits => hfits value rfl⟩

omit h in
theorem optionalField_isSome {α : Type} {item : Fields} {key : String}
    {parse : Json → Except PyError α} {value : Option α}
    (hvalue : optionalField item key parse = .ok value) : value.isSome = item.has key := by
  unfold optionalField at hvalue
  rw [Fields.has]
  cases hkey : item.get? key with
  | none =>
      rw [hkey] at hvalue
      obtain rfl := Except.ok.inj hvalue
      rfl
  | some raw =>
      rw [hkey] at hvalue
      obtain ⟨_, -, rfl⟩ := map_eq_ok.mp hvalue
      rfl

theorem raisesOnly_uncertaintyTerm (item : Fields) (name : String) :
    RaisesOnly P (uncertaintyTerm item name) ↔ ∀ v, item.get? name = some v → NumberFits v :=
  raisesOnly_optionalField fun _ => raisesOnly_sigmaTerm h.overflow (h.contract _) (h.contract _)

theorem raisesOnly_poseUncertainty (value : Json) :
    RaisesOnly P (poseUncertainty value) ↔ UncertaintyFits value := by
  refine raisesOnly_read (raisesOnly_localObject h _ _ _) fun item _ => ?_
  have hterm := raisesOnly_uncertaintyTerm h item
  exact raisesOnly_part (hterm _) fun _ _ => raisesOnly_part (hterm _) fun _ _ =>
    raisesOnly_part (hterm _) fun _ _ => raisesOnly_part (hterm _) fun _ _ =>
    raisesOnly_part (hterm _) fun _ _ => raisesOnly_last (hterm _) fun _ =>
    raisesOnly_pure.mpr trivial

theorem raisesOnly_poseEstimate (item : Fields) :
    RaisesOnly P (poseEstimate item) ↔ EstimateFits item := by
  unfold poseEstimate EstimateFits
  cases hposition : item.get? "position" with
  | none => exact iff_of_true (raisesOnly_error.mpr (h.contract _)) fun _ hnone => (by cases hnone)
  | some position =>
      cases horientation : item.get? "orientation" with
      | none =>
          exact iff_of_true (raisesOnly_error.mpr (h.contract _)) fun _ _ _ hnone =>
            (by cases hnone)
      | some orientation =>
          refine Iff.trans ?_
            ⟨fun hfits p hp o ho => Option.some.inj hp ▸ Option.some.inj ho ▸ hfits,
              fun hfits => hfits position rfl orientation rfl⟩
          refine raisesOnly_part (raisesOnly_measuredPosition h _) fun p hp => ?_
          refine raisesOnly_part (raisesOnly_measuredOrientation h _) fun o ho => ?_
          obtain ⟨built, hbuilt⟩ := pose_of_measured hp ho
          rw [hbuilt]
          exact raisesOnly_done (raisesOnly_ok.mpr trivial)

theorem raisesOnly_localizationQuality (value : Json) (has_pose : Bool) :
    RaisesOnly P (localizationQuality value has_pose) := by
  unfold localizationQuality
  dsimp only
  split
  case h_1 => exact raisesOnly_ok.mpr trivial
  case h_2 =>
    split
    · exact raisesOnly_ok.mpr trivial
    · exact raisesOnly_error.mpr (h.contract _)
  case h_3 => exact raisesOnly_error.mpr (h.contract _)

theorem raisesOnly_poseEstimateIf (item : Fields) (has_pose : Bool) :
    RaisesOnly P (poseEstimateIf item has_pose) ↔ (has_pose = true → EstimateFits item) := by
  unfold poseEstimateIf
  cases has_pose with
  | false => exact iff_of_true (raisesOnly_ok.mpr trivial) fun hfalse => (by cases hfalse)
  | true =>
      rw [forall_prop_of_true rfl, if_pos rfl, raisesOnly_map]
      exact raisesOnly_poseEstimate h item

/-- **Runtime poses**, of an object. -/
theorem raisesOnly_runtimePose (item : Fields) :
    RaisesOnly P (runtimePose item) ↔ RuntimeFieldsFit item := by
  refine raisesOnly_required (h.contract _) (by simp) fun _ => ?_
  refine raisesOnly_part (iff_true_intro (raisesOnly_requireTypedId h _ _ _)) fun _ _ => ?_
  refine raisesOnly_part (iff_true_intro (raisesOnly_requireTypedId h _ _ _)) fun _ _ => ?_
  refine raisesOnly_whole ?_
  refine raisesOnly_read (raisesOnly_localizationQuality h _ _) fun quality _ => ?_
  generalize (item.has "position" || item.has "orientation") = has_pose
  refine raisesOnly_required (h.contract _) (by cases has_pose <;> simp) fun _ => ?_
  refine raisesOnly_required (h.contract _) (by cases has_pose <;> simp) fun _ => ?_
  refine raisesOnly_part (raisesOnly_poseEstimateIf h _ _) fun estimate hestimate => ?_
  refine raisesOnly_part (iff_true_intro ((raisesOnly_optionalField fun v =>
    iff_true_intro (raisesOnly_checkedText (h.contract _))).mpr fun _ _ => trivial))
    fun timestamp htimestamp => ?_
  refine raisesOnly_part (iff_true_intro ((raisesOnly_optionalField fun v =>
    iff_true_intro (raisesOnly_checkedText (h.contract _))).mpr fun _ _ => trivial))
    fun source hsource => ?_
  have hposed := poseEstimateIf_isSome hestimate
  have hstamped := optionalField_isSome htimestamp
  have hsourced := optionalField_isSome hsource
  refine raisesOnly_required (h.contract _) ?_ fun _ => ?_
  · rw [← hposed, ← hstamped]
    cases estimate <;> cases timestamp <;> simp
  refine raisesOnly_required (h.contract _) ?_ fun _ => ?_
  · rw [← hposed, ← hsourced]
    cases estimate <;> cases source <;> simp
  exact raisesOnly_last (raisesOnly_optionalField (raisesOnly_poseUncertainty h)) fun _ =>
    raisesOnly_pure.mpr trivial

/-- **Runtime poses.** -/
theorem raisesOnly_parseRuntimePose (value : Json) :
    RaisesOnly P (parseRuntimePose value) ↔ RuntimePoseFits value := by
  unfold RuntimePoseFits
  cases value with
  | null => exact iff_of_true (raisesOnly_ok.mpr trivial) fun _ hnull => (by cases hnull)
  | obj item =>
      rw [parseRuntimePose, raisesOnly_map, raisesOnly_runtimePose h]
      exact ⟨fun hfits i hi => Json.obj.inj hi ▸ hfits, fun hfits => hfits item rfl⟩
  | _ => exact iff_of_true (raisesOnly_error.mpr (h.contract _)) fun _ hother => (by cases hother)

end Contract

end Spatial
end HomeCortex
