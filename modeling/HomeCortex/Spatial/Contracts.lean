/-
# Spatial fields of stored records

`spatial/contracts.py` and `canonical_basis` of `spatial/transforms.py`.  A space
may carry a coordinate frame (unit, basis, anchors), a box geometry and two
flags; a `located_in` edge may carry a pose when it ends at a space.  Ingestion
validates these fields and writes them back in canonical form: the unit `m`, the
basis in place of the legacy axes, binary64 components.
-/

import HomeCortex.Spatial.Anchors

namespace HomeCortex
namespace Spatial

def SPACE_SPATIAL_FIELDS : List String := ["accessible", "coordinate", "geometry", "navigable"]

/-- `_LENGTH_ALIASES`: every spelling of the one accepted unit. -/
def LENGTH_ALIASES : List String := ["m", "meter", "meters", "metre", "metres"]

/-- A basis vector. -/
abbrev Vector3 := Float × Float × Float

/-- The three vectors of a coordinate basis. -/
structure Basis where
  x : Vector3
  y : Vector3
  z : Vector3
deriving DecidableEq

def IDENTITY_BASIS : Basis := ⟨(1.0, 0.0, 0.0), (0.0, 1.0, 0.0), (0.0, 0.0, 1.0)⟩

/-- `_BASIS_SINGULAR`. -/
def BASIS_SINGULAR : Float := 1e-12

/-- `_det3(_basis_matrix(basis))`: the matrix has the basis vectors as columns. -/
def det3 (b : Basis) : Float :=
  b.x.1 * (b.y.2.1 * b.z.2.2 - b.z.2.1 * b.y.2.2)
    - b.y.1 * (b.x.2.1 * b.z.2.2 - b.z.2.1 * b.x.2.2)
    + b.z.1 * (b.x.2.1 * b.y.2.2 - b.y.2.1 * b.x.2.2)

/-- `_basis_vector` of `transforms.py`. -/
def basisVector (value : Json) (name : String) : Except PyError Vector3 := do
  match value with
  | .arr [a, b, c] =>
      let error := PyError.spatialTransform ("basis." ++ name ++ " must be a finite number")
      let x ← finiteFloat a error
      let y ← finiteFloat b error
      let z ← finiteFloat c error
      raiseIf (x == 0.0 && y == 0.0 && z == 0.0)
        (.spatialTransform ("basis." ++ name ++ " cannot be a zero vector"))
      return (x, y, z)
  | _ => throw (.spatialTransform
      ("basis." ++ name ++ " must be a list of three finite numbers"))

/-- `canonical_basis`. -/
def canonicalBasis (value : Json) : Except PyError Basis := do
  match value.asObject? with
  | none => throw (.spatialTransform "basis must be an object")
  | some fields =>
      raiseIf (!(fields.extra ["x", "y", "z"]).isEmpty)
        (.spatialTransform ("Unknown basis fields: " ++
          ", ".intercalate (fields.extra ["x", "y", "z"])))
      raiseIf (!(["x", "y", "z"].all fields.has)) (.spatialTransform "basis requires x, y, and z")
      let basis : Basis := ⟨← basisVector (fields.getD "x") "x",
        ← basisVector (fields.getD "y") "y", ← basisVector (fields.getD "z") "z"⟩
      raiseIf (decide ((det3 basis).abs < BASIS_SINGULAR))
        (.spatialTransform "basis vectors must be linearly independent")
      return basis

def vector3AsJson (v : Vector3) : Json := .arr [.float v.1, .float v.2.1, .float v.2.2]

def basisAsJson (b : Basis) : Json :=
  .obj [("x", vector3AsJson b.x), ("y", vector3AsJson b.y), ("z", vector3AsJson b.z)]

/-- `_finite_number`: the value itself, when it is a finite number. -/
def finiteNumber (value : Json) (field source : String) : Except PyError Json := do
  let _ ← finiteFloat value
    (.spatialContract (field ++ " in " ++ source ++ " must be a finite number"))
  return value

/-- `_vector3`: a list of three finite numbers, as written. -/
def vector3 (value : Json) (field source : String) : Except PyError (List Json) := do
  match value with
  | .arr [a, b, c] =>
      return [← finiteNumber a field source, ← finiteNumber b field source,
        ← finiteNumber c field source]
  | _ => throw (.spatialContract
      (field ++ " in " ++ source ++ " must be a list of three finite numbers"))

/-- The sign of a finite JSON number. -/
def numberSign : Json → Ordering
  | .int n => compare n 0
  | .float x => if x < 0.0 then .lt else if x == 0.0 then .eq else .gt
  | _ => .eq

/-- `_object`: a dict without further fields. -/
def object (value : Json) (field source : String) (allowed : List String) :
    Except PyError Fields :=
  match value.asObject? with
  | none => .error (.spatialContract (field ++ " in " ++ source ++ " must be an object"))
  | some fields =>
      if (fields.extra allowed).isEmpty then .ok fields
      else .error (.spatialContract ("Unknown " ++ field ++ " fields in " ++ source ++ ": " ++
        ", ".intercalate (fields.extra allowed)))

/-- `_length_unit`. -/
def lengthUnit (value : Json) (source : String) : Except PyError String :=
  let error := PyError.spatialContract ("coordinate.unit in " ++ source ++ " must be 'm'")
  match value with
  | .str name => if LENGTH_ALIASES.contains (casefold name) then .ok LENGTH_UNIT else .error error
  | _ => .error error

/-- `_axis_vector`. -/
def axisVector (value : Json) (field source : String) : Except PyError Unit := do
  let components ← vector3 value field source
  raiseIf (components.all fun c => numberSign c == .eq)
    (.spatialContract (field ++ " in " ++ source ++ " cannot be a zero vector"))

/-- `_basis_from_legacy_axes`; the legacy z axis may be the word `up`. -/
def basisFromLegacyAxes (item : Fields) (source : String) : Except PyError Json := do
  let x := (item.get? "x_axis").getD (vector3AsJson IDENTITY_BASIS.x)
  let y := (item.get? "y_axis").getD (vector3AsJson IDENTITY_BASIS.y)
  let z := (item.get? "z_axis").getD (vector3AsJson IDENTITY_BASIS.z)
  let z := if z = .str "up" then vector3AsJson IDENTITY_BASIS.z else z
  axisVector x "coordinate.x_axis" source
  axisVector y "coordinate.y_axis" source
  axisVector z "coordinate.z_axis" source
  return .obj [("x", x), ("y", y), ("z", z)]

/-- `_canonical_basis`. -/
def canonicalBasisOf (item : Fields) (source : String) : Except PyError Basis := do
  let asContract : Except PyError Basis → Except PyError Basis
    | .error (.spatialTransform message) =>
        .error (.spatialContract ("coordinate.basis in " ++ source ++ ": " ++ message))
    | result => result
  match item.get? "basis" with
  | some raw => asContract (canonicalBasis raw)
  | none =>
      if ["x_axis", "y_axis", "z_axis"].any item.has then
        asContract (canonicalBasis (← basisFromLegacyAxes item source))
      else return IDENTITY_BASIS

/-- `_canonical_coordinate`. -/
def canonicalCoordinate (value : Json) (source : String) (space : Json) :
    Except PyError Json := do
  let item ← object value "coordinate" source
    ["anchors", "basis", "origin", "unit", "x_axis", "y_axis", "z_axis"]
  match item.get? "origin" with
  | some origin => let _ ← vector3 origin "coordinate.origin" source
  | none => pure ()
  let unit ← match item.get? "unit" with
    | some unit => lengthUnit unit source
    | none => pure LENGTH_UNIT
  let basis ← canonicalBasisOf item source
  let anchors ← match item.get? "anchors" with
    | some anchors => parseEmbeddedAnchors anchors space
    | none => pure []
  return .obj ([("unit", .str unit), ("basis", basisAsJson basis)] ++
    if anchors.isEmpty then [] else [("anchors", .arr (anchors.map embeddedAnchorAsMapping))])

/-- `_canonical_geometry`. -/
def canonicalGeometry (value : Json) (source : String) : Except PyError Json := do
  let item ← object value "geometry" source ["size", "type"]
  raiseIf (item.getD "type" ≠ .str "box")
    (.spatialContract ("geometry.type in " ++ source ++ " must be 'box'"))
  let size ← vector3 (item.getD "size") "geometry.size" source
  raiseIf (size.any fun component => numberSign component != .gt)
    (.spatialContract ("geometry.size in " ++ source ++ " must be positive"))
  return .obj [("type", .str "box"), ("size", .arr size)]

/-- Rewrite one field of a record when it is there. -/
def rewriteField (record : Fields) (key : String) (rewrite : Json → Except PyError Json) :
    Except PyError Fields :=
  match record.get? key with
  | none => .ok record
  | some value => return record.set key (← rewrite value)

/-- A flag that is there has to be a boolean. -/
def requireBoolean (record : Fields) (field source : String) : Except PyError Unit :=
  if record.has field && !(record.getD field).isBool then
    .error (.spatialContract (field ++ " in " ++ source ++ " must be a boolean"))
  else .ok ()

/-- `apply_space_spatial_fields`, as the record it leaves. -/
def applySpaceSpatialFields (record : Fields) (source : String) : Except PyError Fields := do
  let record ← rewriteField record "coordinate" fun value =>
    canonicalCoordinate value source (record.getD "id")
  let record ← rewriteField record "geometry" fun value => canonicalGeometry value source
  requireBoolean record "navigable" source
  requireBoolean record "accessible" source
  return record

/-- `reject_non_space_spatial_fields`. -/
def rejectNonSpaceSpatialFields (record : Fields) (table source : String) :
    Except PyError Unit :=
  let present := SPACE_SPATIAL_FIELDS.filter record.has
  if present.isEmpty then .ok ()
  else .error (.spatialContract (table ++ " in " ++ source ++ " cannot define " ++
    ", ".intercalate present ++ "; spatial metadata belongs to space"))

/-- `located_in_endpoints_allowed`: item → address|space, or space → space. -/
def locatedInEndpointsAllowed (source_type target_type : String) : Bool :=
  (source_type == "item" && (target_type == "address" || target_type == "space")) ||
    (source_type == "space" && target_type == "space")

/-- `_canonical_named_vector`. -/
def canonicalNamedVector (value : Json) (names : List String) (field source : String) :
    Except PyError Json := do
  let item ← object value field source names
  raiseIf (!(names.all item.has))
    (.spatialContract (field ++ " in " ++ source ++ " requires " ++
      ", ".intercalate names))
  return .obj (← names.mapM fun name => do
    return (name, ← finiteNumber (item.getD name) (field ++ "." ++ name) source))

/-- `apply_located_in_pose`, as the record it leaves. -/
def applyLocatedInPose (record : Fields) (target_type source : String) :
    Except PyError Fields := do
  raiseIf (record.has "frame_id")
    (.spatialContract ("located_in in " ++ source ++ " cannot define frame_id; " ++
      "the target space owns the coordinate system"))
  if !(POSE_FIELDS.any record.has) then return record
  raiseIf (target_type ≠ "space")
    (.spatialContract ("located_in pose in " ++ source ++
      " requires a space target, not " ++ target_type))
  let record ← rewriteField record "position" fun value =>
    canonicalNamedVector value ["x", "y", "z"] "position" source
  rewriteField record "orientation" fun value =>
    canonicalNamedVector value ["pitch", "roll", "yaw"] "orientation" source

end Spatial
end HomeCortex
