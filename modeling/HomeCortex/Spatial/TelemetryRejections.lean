/-
# What the embodiment and telemetry parsers raise

`embodiment_from_mapping` reads the numbers of a box before the ids; and
`physical_telemetry_from_mapping` the numbers of a transform before the ids, and the ids before
the time of the sample.  The time is converted to UTC, which fails for a wall time in year 1 or
9999 whose offset leads out of the calendar.
-/

import HomeCortex.Spatial.Rejections

namespace HomeCortex
namespace Spatial

open Except

/-! ### Embodiments -/

/-- What `_position` reads. -/
def BodyPositionFits (value : Json) (field : String) : Prop :=
  ∀ item, bodyObject value field ["x", "y", "z"] [] = .ok item → InOrder [
    part (NumberFits (item.getD "x")) (bodyFinite (item.getD "x") (field ++ ".x")),
    part (NumberFits (item.getD "y")) (bodyFinite (item.getD "y") (field ++ ".y")),
    part (NumberFits (item.getD "z")) (bodyFinite (item.getD "z") (field ++ ".z"))]

/-- What `body_geometry_from_mapping` reads. -/
def GeometryFits (value : Json) : Prop :=
  ∀ geometry, bodyObject value "geometry" ["box"] [] = .ok geometry →
    ∀ box, bodyObject (geometry.getD "box") "geometry.box"
      ["length_m", "width_m", "height_m", "center"] [] = .ok box → InOrder [
      part (BodyPositionFits (box.getD "center") "geometry.box.center")
        (bodyPosition (box.getD "center") "geometry.box.center"),
      part (NumberFits (box.getD "length_m")) (bodyPositive (box.getD "length_m") "length_m"),
      part (NumberFits (box.getD "width_m")) (bodyPositive (box.getD "width_m") "width_m"),
      part (NumberFits (box.getD "height_m")) (bodyPositive (box.getD "height_m") "height_m")]

/-- What `embodiment_from_mapping` reads. -/
def EmbodimentFits (value : Json) : Prop :=
  ∀ item, bodyObject value "embodiment" ["id", "name"]
      ["geometry", "local_frame", "agent_id", "capabilities", "embodiment_type"] = .ok item →
    InOrder [part True (capabilityItems item),
      part (∀ v, item.get? "geometry" = some v → GeometryFits v)
        ((item.get? "geometry").mapM bodyGeometryFromMapping)]

variable {P : PyError → Prop} (h : Rejects P)

include h

theorem raisesOnly_bodyObject (value : Json) (field : String) (required optional : List String) :
    RaisesOnly P (bodyObject value field required optional) := by
  unfold bodyObject
  cases value.asObject? with
  | none => exact raisesOnly_error.mpr (h.contract _)
  | some fields =>
      dsimp only
      split
      · exact raisesOnly_ok.mpr trivial
      · exact raisesOnly_error.mpr (h.contract _)

theorem raisesOnly_bodyFinite (value : Json) (field : String) :
    RaisesOnly P (bodyFinite value field) ↔ NumberFits value :=
  raisesOnly_finiteFloat h.overflow (h.contract _)

theorem raisesOnly_bodyPositive (value : Json) (field : String) :
    RaisesOnly P (bodyPositive value field) ↔ NumberFits value := by
  refine (raisesOnly_bind_const (q := True) fun x _ => iff_true_intro ?_).trans
    ((and_iff_left fun _ => trivial).trans (raisesOnly_bodyFinite h value field))
  exact raisesOnly_bind.mpr
    ⟨raisesOnly_raiseIf (h.contract _), fun _ _ => raisesOnly_pure.mpr trivial⟩

theorem raisesOnly_bodyPosition (value : Json) (field : String) :
    RaisesOnly P (bodyPosition value field) ↔ BodyPositionFits value field := by
  refine raisesOnly_read (raisesOnly_bodyObject h _ _ _ _) fun item _ => ?_
  have hfinite := raisesOnly_bodyFinite h
  exact raisesOnly_part (hfinite _ _) fun _ _ => raisesOnly_part (hfinite _ _) fun _ _ =>
    raisesOnly_last (hfinite _ _) fun _ => raisesOnly_pure.mpr trivial

theorem raisesOnly_bodyGeometryFromMapping (value : Json) :
    RaisesOnly P (bodyGeometryFromMapping value) ↔ GeometryFits value := by
  refine raisesOnly_read (raisesOnly_bodyObject h _ _ _ _) fun geometry _ => ?_
  refine raisesOnly_read (raisesOnly_bodyObject h _ _ _ _) fun box _ => ?_
  have hpositive := raisesOnly_bodyPositive h
  exact raisesOnly_part (raisesOnly_bodyPosition h _ _) fun _ _ =>
    raisesOnly_part (hpositive _ _) fun _ _ => raisesOnly_part (hpositive _ _) fun _ _ =>
    raisesOnly_last (hpositive _ _) fun _ => raisesOnly_pure.mpr trivial

theorem raisesOnly_localFrameFromMapping (value : Json) :
    RaisesOnly P (localFrameFromMapping value) := by
  refine raisesOnly_bind.mpr ⟨raisesOnly_bodyObject h _ _ _ _, fun item _ => ?_⟩
  split
  case h_1 =>
    refine raisesOnly_bind.mpr ⟨raisesOnly_raiseIf (h.contract _), fun _ _ => ?_⟩
    split
    · exact raisesOnly_pure.mpr trivial
    · exact raisesOnly_error.mpr (h.contract _)
  case h_2 => exact raisesOnly_error.mpr (h.contract _)

theorem raisesOnly_capabilityItems (item : Fields) : RaisesOnly P (capabilityItems item) := by
  unfold capabilityItems
  split
  · exact raisesOnly_ok.mpr trivial
  · exact raisesOnly_error.mpr (h.contract _)

theorem raisesOnly_capabilityName (item : Json) : RaisesOnly P (capabilityName item) := by
  unfold capabilityName
  dsimp only
  split
  case h_1 =>
    split
    · exact raisesOnly_ok.mpr trivial
    · exact raisesOnly_error.mpr (h.contract _)
  case h_2 => exact raisesOnly_error.mpr (h.contract _)

theorem raisesOnly_capabilityNames (items : List Json) : RaisesOnly P (capabilityNames items) := by
  refine raisesOnly_bind.mpr ⟨?_, fun names _ => ?_⟩
  · exact raisesOnly_mapM.mpr fun _ item _ _ _ => raisesOnly_capabilityName h item
  · exact raisesOnly_bind.mpr
      ⟨raisesOnly_raiseIf (h.contract _), fun _ _ => raisesOnly_pure.mpr trivial⟩

theorem raisesOnly_embodimentType (item : Fields) : RaisesOnly P (embodimentType item) := by
  unfold embodimentType
  dsimp only
  split
  case h_1 =>
    split
    · exact raisesOnly_ok.mpr trivial
    · exact raisesOnly_error.mpr (h.contract _)
  case h_2 => exact raisesOnly_error.mpr (h.contract _)

theorem raisesOnly_embodimentAgent (item : Fields) : RaisesOnly P (embodimentAgent item) := by
  unfold embodimentAgent
  split
  · exact raisesOnly_ok.mpr trivial
  · exact raisesOnly_map.mpr (raisesOnly_typedId h _ _ _)

/-- **Embodiments.** -/
theorem raisesOnly_embodimentFromMapping (value : Json) :
    RaisesOnly P (embodimentFromMapping value) ↔ EmbodimentFits value := by
  refine raisesOnly_read (raisesOnly_bodyObject h _ _ _ _) fun item _ => ?_
  refine raisesOnly_part (iff_true_intro (raisesOnly_capabilityItems h item)) fun items _ => ?_
  refine raisesOnly_last (raisesOnly_optionMapM.trans
    (forall₂_congr fun v _ => raisesOnly_bodyGeometryFromMapping h v)) fun geometry => ?_
  refine raisesOnly_bind.mpr ⟨raisesOnly_optionMapM.mpr
    fun v _ => raisesOnly_localFrameFromMapping h v, fun _ _ => ?_⟩
  refine raisesOnly_bind.mpr ⟨raisesOnly_typedId h _ _ _, fun _ _ => ?_⟩
  refine raisesOnly_bind.mpr ⟨raisesOnly_nonBlank (h.contract _), fun _ _ => ?_⟩
  refine raisesOnly_bind.mpr ⟨raisesOnly_embodimentType h _, fun _ _ => ?_⟩
  refine raisesOnly_bind.mpr ⟨raisesOnly_embodimentAgent h _, fun _ _ => ?_⟩
  exact raisesOnly_bind.mpr
    ⟨raisesOnly_capabilityNames h _, fun _ _ => raisesOnly_pure.mpr trivial⟩

/-! ### Samples -/

/-- What `physical_value_from_mapping` reads. -/
def ValueFits (value : Json) : Prop :=
  ∀ item, bodyObject value "physical value" ["value", "p95"] [] = .ok item → InOrder [
    part (NumberFits (item.getD "value")) (requireFinite (item.getD "value") "physical value"),
    part (NumberFits (item.getD "p95")) (requireFinite (item.getD "p95") "p95")]

/-- One value of a transform. -/
def TransformPartFits (item : Fields) (name : String) : Prop × Prop :=
  part (ValueFits (item.getD name)) (physicalValueFromMapping (item.getD name))

/-- What `realtime_transform_from_mapping` reads. -/
def TransformFits (value : Json) : Prop :=
  ∀ item, bodyObject value "transform" ["x", "y", "z", "yaw", "pitch", "roll"] [] = .ok item →
    InOrder [TransformPartFits item "x", TransformPartFits item "y", TransformPartFits item "z",
      TransformPartFits item "yaw", TransformPartFits item "pitch",
      TransformPartFits item "roll"]

/-- The instant of a time with an offset is in the calendar. -/
def TimeFits (value : Json) : Prop :=
  ∀ text d offset, value = .str text → datetimeFromIsoformat (replaceZulu text) = some d →
    d.offset = some offset → InCalendar (d.localMicros - offset)

/-- What `physical_telemetry_from_mapping` reads. -/
def TelemetryFits (value : Json) : Prop :=
  ∀ item, bodyObject value "telemetry"
      ["embodiment_id", "space_id", "measured_at", "validity", "transform"] [] = .ok item →
    InOrder [part (item.getD "transform" ≠ .null → TransformFits (item.getD "transform"))
        (optionalTransform (item.getD "transform")),
      part True (requireTypedId (item.getD "embodiment_id") "embodiment" "embodiment_id"),
      part True (optionalSpace (item.getD "space_id")),
      part (TimeFits (item.getD "measured_at")) (measuredAt (.ofJson (item.getD "measured_at")))]

omit h in
theorem map_requireFinite (value : Json) (field : String) :
    (requireFinite value field).map Subtype.val = bodyFinite value field := by
  unfold requireFinite
  split
  case h_1 x hx => exact hx.symm
  case h_2 e he => exact he.symm

theorem raisesOnly_requireFinite (value : Json) (field : String) :
    RaisesOnly P (requireFinite value field) ↔ NumberFits value := by
  rw [← raisesOnly_bodyFinite h value field, ← map_requireFinite, raisesOnly_map]

theorem raisesOnly_physicalValueFromMapping (value : Json) :
    RaisesOnly P (physicalValueFromMapping value) ↔ ValueFits value := by
  refine raisesOnly_read (raisesOnly_bodyObject h _ _ _ _) fun item _ => ?_
  refine raisesOnly_part (raisesOnly_requireFinite h _ _) fun x _ => ?_
  refine raisesOnly_last (raisesOnly_requireFinite h _ _) fun p95 => ?_
  split
  · exact raisesOnly_pure.mpr trivial
  · exact raisesOnly_error.mpr (h.contract _)

theorem raisesOnly_realtimeTransformFromMapping (value : Json) :
    RaisesOnly P (realtimeTransformFromMapping value) ↔ TransformFits value := by
  refine raisesOnly_read (raisesOnly_bodyObject h _ _ _ _) fun item _ => ?_
  have hvalue := raisesOnly_physicalValueFromMapping h
  exact raisesOnly_part (hvalue _) fun _ _ => raisesOnly_part (hvalue _) fun _ _ =>
    raisesOnly_part (hvalue _) fun _ _ => raisesOnly_part (hvalue _) fun _ _ =>
    raisesOnly_part (hvalue _) fun _ _ => raisesOnly_last (hvalue _) fun _ =>
    raisesOnly_pure.mpr trivial

omit h in
theorem optionalTransform_of_ne {value : Json} (hvalue : value ≠ .null) :
    optionalTransform value = (realtimeTransformFromMapping value).map some := by
  cases value with
  | null => exact absurd rfl hvalue
  | _ => rfl

theorem raisesOnly_optionalTransform (value : Json) :
    RaisesOnly P (optionalTransform value) ↔ (value ≠ .null → TransformFits value) := by
  by_cases hvalue : value = .null
  · rw [hvalue]
    exact iff_of_true (raisesOnly_ok.mpr trivial) fun hne => absurd rfl hne
  · rw [optionalTransform_of_ne hvalue, raisesOnly_map, forall_prop_of_true hvalue]
    exact raisesOnly_realtimeTransformFromMapping h value

theorem raisesOnly_optionalSpace (value : Json) : RaisesOnly P (optionalSpace value) := by
  unfold optionalSpace
  split
  · exact raisesOnly_ok.mpr trivial
  · exact raisesOnly_map.mpr (raisesOnly_requireTypedId h _ _ _)

omit h in
theorem raisesOnly_instantOf (hoverflow : ∀ message, ¬ P (.overflow message)) (wall offset : Int) :
    RaisesOnly P (instantOf wall offset) ↔ InCalendar (wall - offset) := by
  unfold instantOf
  split
  case isTrue hrange => exact iff_of_true (raisesOnly_ok.mpr trivial) hrange
  case isFalse hrange => exact iff_of_false (fun he => hoverflow _ (raisesOnly_error.mp he)) hrange

theorem raisesOnly_measuredAt (value : Json) :
    RaisesOnly P (measuredAt (.ofJson value)) ↔ TimeFits value := by
  unfold measuredAt TimeFits
  cases value with
  | str text =>
      dsimp only [Timestamp.ofJson]
      cases hd : datetimeFromIsoformat (replaceZulu text) with
      | none =>
          refine iff_of_true (raisesOnly_error.mpr (h.contract _)) fun other d _ hother hsome => ?_
          rw [← Json.str.inj hother, hd] at hsome
          cases hsome
      | some d =>
          dsimp only
          cases hoffset : d.offset with
          | none =>
              refine iff_of_true (raisesOnly_error.mpr (h.contract _))
                fun other e offset hother hsome ho => ?_
              rw [← Json.str.inj hother, hd] at hsome
              rw [← Option.some.inj hsome, hoffset] at ho
              cases ho
          | some offset =>
              refine (raisesOnly_instantOf h.overflow _ _).trans
                ⟨fun hfits other e o hother hsome ho => ?_,
                  fun hfits => hfits text d offset rfl hd hoffset⟩
              rw [← Json.str.inj hother, hd] at hsome
              rw [← Option.some.inj hsome, hoffset] at ho
              rwa [← Option.some.inj hsome, ← Option.some.inj ho]
  | _ =>
      exact iff_of_true (raisesOnly_error.mpr (h.contract _)) fun _ _ _ hother => (by cases hother)

/-- **Samples.** -/
theorem raisesOnly_physicalTelemetryFromMapping (value : Json) :
    RaisesOnly P (physicalTelemetryFromMapping value) ↔ TelemetryFits value := by
  rw [physicalTelemetryFromMapping_stages]
  refine raisesOnly_read (raisesOnly_bodyObject h _ _ _ _) fun item _ => ?_
  refine raisesOnly_part (raisesOnly_optionalTransform h _) fun transform _ => ?_
  refine raisesOnly_part (iff_true_intro (raisesOnly_requireTypedId h _ _ _)) fun id _ => ?_
  refine raisesOnly_part (iff_true_intro (raisesOnly_optionalSpace h _)) fun space _ => ?_
  refine raisesOnly_last (raisesOnly_measuredAt h _) fun instant => ?_
  split
  case h_1 =>
    split
    · exact raisesOnly_pure.mpr trivial
    · exact raisesOnly_error.mpr (h.contract _)
  case h_2 =>
    split
    · exact raisesOnly_pure.mpr trivial
    · exact raisesOnly_error.mpr (h.contract _)
  case h_3 => exact raisesOnly_error.mpr (h.contract _)

end Spatial
end HomeCortex
