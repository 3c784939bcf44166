/-
# What the canonical form of a record keeps

Ingestion rewrites the spatial fields of a record (`HomeCortex.Spatial.Contracts`)
and rebuilds an embodiment record from its parsed value
(`HomeCortex.Spatial.Embodiment`).  The rewriting touches those fields only
(`applySpaceSpatialFields_get?`, `applyLocatedInPose_get?`), and an embodiment
keeps its id (`embodimentFromMapping_id`).
-/

import HomeCortex.Library.Checked
import HomeCortex.Spatial.Contracts
import HomeCortex.Spatial.Embodiment

namespace HomeCortex
namespace Spatial

open Except

/-- Rewriting a field leaves the others alone. -/
theorem rewriteField_get? {record rewritten : Fields} {key : String}
    {rewrite : Json → Except PyError Json} (h : rewriteField record key rewrite = .ok rewritten)
    {k : String} (hk : k ≠ key) : rewritten.get? k = record.get? k := by
  rw [rewriteField] at h
  split at h
  case h_1 =>
    cases h
    rfl
  case h_2 value hvalue =>
    simp only [bind_eq_ok, pure_eq_ok] at h
    obtain ⟨value', -, rfl⟩ := h
    rw [Fields.get?_set, if_neg (Ne.symm hk)]

/-- `apply_space_spatial_fields` rewrites the coordinate and the geometry only. -/
theorem applySpaceSpatialFields_get? {record placed : Fields} {source : String}
    (h : applySpaceSpatialFields record source = .ok placed) {k : String}
    (hk : k ∉ ["coordinate", "geometry"]) : placed.get? k = record.get? k := by
  simp only [applySpaceSpatialFields, bind_eq_ok, pure_eq_ok] at h
  obtain ⟨middle, hcoordinate, placed', hgeometry, -, -, -, -, rfl⟩ := h
  simp only [List.mem_cons, List.not_mem_nil, or_false, not_or] at hk
  rw [rewriteField_get? hgeometry hk.2, rewriteField_get? hcoordinate hk.1]

/-- `apply_located_in_pose` rewrites the position and the orientation only. -/
theorem applyLocatedInPose_get? {record placed : Fields} {target_type source : String}
    (h : applyLocatedInPose record target_type source = .ok placed) {k : String}
    (hk : k ∉ POSE_FIELDS) : placed.get? k = record.get? k := by
  simp only [applyLocatedInPose, bind_eq_ok, raiseIf_eq_ok] at h
  obtain ⟨-, -, h⟩ := h
  simp only [POSE_FIELDS, List.mem_cons, List.not_mem_nil, or_false, not_or] at hk
  split at h
  case isTrue =>
    cases h
    rfl
  case isFalse =>
    simp only [bind_eq_ok, raiseIf_eq_ok] at h
    obtain ⟨-, -, middle, hposition, horientation⟩ := h
    rw [rewriteField_get? horientation hk.1, rewriteField_get? hposition hk.2]

theorem bodyObject_eq_ok {value : Json} {field : String} {required optional : List String}
    {fields : Fields} (h : bodyObject value field required optional = .ok fields) :
    value = .obj fields ∧ (∀ key ∈ required, fields.has key = true) ∧
      fields.extra (required ++ optional) = [] := by
  rw [bodyObject] at h
  split at h
  case h_1 => cases h
  case h_2 fields' hfields =>
    simp only at h
    split at h
    case isTrue hc =>
      cases h
      simp only [Bool.and_eq_true, List.isEmpty_iff, List.filter_eq_nil_iff] at hc
      exact ⟨Json.asObject?_eq_some.1 hfields, by simpa using hc.1, hc.2⟩
    case isFalse => cases h

theorem typedId_eq_ok {value : Json} {table field text : String}
    (h : typedId value table field = .ok text) : value = .str text := by
  simp only [typedId] at h
  split at h
  case h_1 text' =>
    split at h
    case h_1 =>
      split at h
      case isTrue => cases h; rfl
      case isFalse => cases h
    case h_2 => cases h
  case h_2 => cases h

/-- The id of an embodiment is the one its record names. -/
theorem embodimentFromMapping_id {record : Fields} {embodiment : Embodiment}
    (h : embodimentFromMapping (.obj record) = .ok embodiment) :
    record.get? "id" = some (.str embodiment.id) := by
  simp only [embodimentFromMapping, bind_eq_ok, pure_eq_ok] at h
  obtain ⟨item, hitem, items, -, geometry, -, frame, -, id, hid, name, -, type, -, agent, -,
    capabilities, -, rfl⟩ := h
  obtain ⟨hrecord, hrequired, -⟩ := bodyObject_eq_ok hitem
  cases hrecord
  have hget := typedId_eq_ok hid
  rw [Fields.getD] at hget
  cases hraw : record.get? "id" with
  | none => simp [hraw] at hget
  | some value =>
      rw [hraw, Option.getD_some] at hget
      rw [hget]

/-- The mapping of an embodiment starts with its id. -/
theorem embodimentAsMapping_id (embodiment : Embodiment) :
    (embodimentAsMapping embodiment).get? "id" = some (.str embodiment.id) := rfl

end Spatial
end HomeCortex
