/-
# Measures are finite

`spatial/units.py` multiplies a finite number with a conversion factor, and adds two such
products for feet and inches.  No factor exceeds one and feet and inches together stay
below a third of the range, so the result is again finite (`isFinite_asMeters`,
`isFinite_asRadians`): a measured vector can be written and measured again.
-/

import HomeCortex.Library.Rounding
import HomeCortex.Spatial.RuntimePose

namespace HomeCortex
namespace Spatial

open Except

/-! ### Conversion factors -/

theorem lengthToMeters_atMostOne :
    ∀ unit ∈ lengthToMeters, Binary64.atMostOne unit.2 = true := by
  decide +kernel

theorem angleToRadians_atMostOne :
    ∀ unit ∈ angleToRadians, Binary64.atMostOne unit.2 = true := by
  decide +kernel

theorem foot_unpack : (0.3048 : Float).toModel.unpack =
    .finite .positive 5490788665690109 (-(54 : ℕ)) (by decide) := rfl

theorem inch_unpack : (0.0254 : Float).toModel.unpack =
    .finite .positive 7321051554253478 (-(58 : ℕ)) (by decide) := rfl

theorem isFinite_finite {value : Json} {name : String} {x : Float}
    (h : finite value name = .ok x) : x.isFinite = true :=
  isFinite_of_finiteFloat h

theorem atMostOne_lengthFactor {unit : Json} {factor : Float}
    (h : lengthFactor unit = .ok factor) : Binary64.atMostOne factor = true := by
  cases unit with
  | str name =>
      unfold lengthFactor at h
      dsimp only at h
      split at h
      case h_1 value hvalue =>
        obtain rfl := Except.ok.inj h
        exact lengthToMeters_atMostOne (casefold name, value) (AList.mem_of_lookup_eq_some hvalue)
      case h_2 => cases h
  | _ => cases h

/-! ### Lengths and angles -/

/-- Feet and inches: at most 5/16 and 1/32 of the range. -/
theorem isFinite_normalizeFeetInches {parts : Fields} {x : Float}
    (h : normalizeFeetInches parts = .ok x) : x.isFinite = true := by
  simp only [normalizeFeetInches, bind_eq_ok, pure_eq_ok] at h
  obtain ⟨_, -, feet, hfeet, inches, hinches, rfl⟩ := h
  have hfeet' := (Binary64.within_of_isFinite (isFinite_finite hfeet)).mul foot_unpack
    (show 5 * 2 ^ 49 < 2 ^ 53 by decide) (by decide)
  have hinches' := (Binary64.within_of_isFinite (isFinite_finite hinches)).mul inch_unpack
    (show 2 ^ 48 < 2 ^ 53 by decide) (by decide)
  exact Binary64.isFinite_of_within (hfeet'.add hinches' (by decide))

theorem isFinite_normalizeLength {value unit : Json} {x : Float}
    (h : normalizeLength value unit = .ok x) : x.isFinite = true := by
  unfold normalizeLength at h
  split at h
  case h_1 => exact isFinite_normalizeFeetInches h
  case h_2 =>
    simp only [bind_eq_ok, pure_eq_ok] at h
    obtain ⟨y, hy, factor, hfactor, rfl⟩ := h
    exact Binary64.isFinite_mul (isFinite_finite hy) (atMostOne_lengthFactor hfactor)

/-- **A length in meters is finite.** -/
theorem isFinite_asMeters {value : Json} {x : Float} (h : asMeters value = .ok x) :
    x.isFinite = true := by
  rw [asMeters] at h
  split at h
  case h_1 fields _ =>
    split at h
    case isTrue =>
      split at h
      case isTrue => cases h
      case isFalse =>
        split at h
        case h_1 => cases h
        case h_2 => exact isFinite_normalizeLength h
    case isFalse => exact isFinite_normalizeLength h
  case h_2 => exact isFinite_normalizeLength h

theorem isFinite_normalizeAngle {value unit : Json} {x : Float}
    (h : normalizeAngle value unit = .ok x) : x.isFinite = true := by
  unfold normalizeAngle at h
  split at h
  case h_1 name =>
    split at h
    case h_1 factor hfactor =>
      simp only [bind_eq_ok, pure_eq_ok] at h
      obtain ⟨y, hy, rfl⟩ := h
      exact Binary64.isFinite_mul (isFinite_finite hy)
        (angleToRadians_atMostOne (casefold name, factor)
          (AList.mem_of_lookup_eq_some hfactor))
    case h_2 => cases h
  case h_2 => cases h

/-- **An angle in radians is finite.** -/
theorem isFinite_asRadians {value : Json} {x : Float} (h : asRadians value = .ok x) :
    x.isFinite = true := by
  rw [asRadians] at h
  split at h
  case h_1 =>
    split at h
    case isTrue => cases h
    case isFalse =>
      split at h
      case h_1 => cases h
      case h_2 => exact isFinite_normalizeAngle h
  case h_2 => exact isFinite_normalizeAngle h

/-! ### Vectors -/

theorem unitErrorAsContract_eq_ok {α : Type} {x : Except PyError α} {a : α} :
    unitErrorAsContract x = .ok a ↔ x = .ok a := by
  cases x with
  | ok b => rfl
  | error e => cases e <;> simp [unitErrorAsContract]

theorem isFinite_measuredPosition {value : Json} {position : Position}
    (h : measuredPosition value = .ok position) : position.IsFinite := by
  simp only [measuredPosition, bind_eq_ok, unitErrorAsContract_eq_ok, pure_eq_ok] at h
  obtain ⟨item, -, _, -, x, hx, y, hy, z, hz, rfl⟩ := h
  exact ⟨isFinite_asMeters hx, isFinite_asMeters hy, isFinite_asMeters hz⟩

theorem isFinite_measuredOrientation {value : Json} {orientation : Orientation}
    (h : measuredOrientation value = .ok orientation) : orientation.IsFinite := by
  simp only [measuredOrientation, bind_eq_ok, unitErrorAsContract_eq_ok, pure_eq_ok] at h
  obtain ⟨item, -, _, -, yaw, hyaw, pitch, hpitch, roll, hroll, rfl⟩ := h
  exact ⟨isFinite_asRadians hyaw, isFinite_asRadians hpitch, isFinite_asRadians hroll⟩

end Spatial
end HomeCortex
