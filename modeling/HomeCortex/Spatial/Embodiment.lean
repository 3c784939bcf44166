/-
# Embodiment records

`spatial/embodiment.py`.  A durable body has a name, an intrinsic right-handed
frame, a box geometry and a sorted tuple of capabilities.  Ingestion parses each
embodiment record into `Embodiment` and stores `embodimentAsMapping` of it.
-/

import HomeCortex.Spatial.Anchors

namespace HomeCortex
namespace Spatial

/-- `_AXES`: the signed unit axes, exact in binary64. -/
def AXES : List (String × (ℤ × ℤ × ℤ)) := [
  ("+x", (1, 0, 0)), ("-x", (-1, 0, 0)), ("+y", (0, 1, 0)), ("-y", (0, -1, 0)),
  ("+z", (0, 0, 1)), ("-z", (0, 0, -1))]

/-- The vector product. -/
def cross (f l : ℤ × ℤ × ℤ) : ℤ × ℤ × ℤ :=
  (f.2.1 * l.2.2 - f.2.2 * l.2.1, f.2.2 * l.1 - f.1 * l.2.2, f.1 * l.2.1 - f.2.1 * l.1)

/-- `forward × left = up`, all three of them signed axes. -/
def rightHanded (forward left up : String) : Bool :=
  match AXES.lookup forward, AXES.lookup left, AXES.lookup up with
  | some f, some l, some u => cross f l == u
  | _, _, _ => false

/-- `LocalFrame`: intrinsic axis labels. -/
structure LocalFrame where
  forward : String
  left : String
  up : String
  right_handed : rightHanded forward left up = true
deriving DecidableEq

/-- `BodyGeometry`: a box in the body frame; its three dimensions are positive. -/
structure BodyGeometry where
  length_m : Float
  width_m : Float
  height_m : Float
  center : Position
deriving DecidableEq

/-- `Embodiment`: the durable identity of a body. -/
structure Embodiment where
  id : String
  name : String
  geometry : Option BodyGeometry
  local_frame : Option LocalFrame
  agent_id : Option String
  capabilities : List String
  embodiment_type : String
deriving DecidableEq

/-- `_object` of `embodiment.py`: the required fields and no unknown one. -/
def bodyObject (value : Json) (field : String) (required optional : List String) :
    Except PyError Fields :=
  match value.asObject? with
  | none => .error (.spatialContract (field ++ " must be an object"))
  | some fields =>
      let missing := required.filter fun key => !fields.has key
      let extra := fields.extra (required ++ optional)
      if missing.isEmpty && extra.isEmpty then .ok fields
      else .error (.spatialContract (field ++ " fields: missing " ++ ", ".intercalate missing ++
        ", unknown " ++ ", ".intercalate extra))

/-- `_finite` of `embodiment.py`. -/
def bodyFinite (value : Json) (field : String) : Except PyError Float :=
  finiteFloat value (.spatialContract (field ++ " must be a finite number"))

/-- `_finite(…, positive=True)`. -/
def bodyPositive (value : Json) (field : String) : Except PyError Float := do
  let x ← bodyFinite value field
  raiseIf (decide (x ≤ 0.0)) (.spatialContract (field ++ " must be positive"))
  return x

/-- `_typed_id`. -/
def typedId (value : Json) (table field : String) : Except PyError String :=
  let error := PyError.spatialContract (field ++ " must be a " ++ table ++ ": record ID")
  match value with
  | .str text =>
      match splitRecordId text with
      | .ok parts => if parts.1 = table then .ok text else .error error
      | .error _ => .error error
  | _ => .error error

/-- `_position` of `embodiment.py`. -/
def bodyPosition (value : Json) (field : String) : Except PyError Position := do
  let item ← bodyObject value field ["x", "y", "z"] []
  return ⟨← bodyFinite (item.getD "x") (field ++ ".x"),
    ← bodyFinite (item.getD "y") (field ++ ".y"), ← bodyFinite (item.getD "z") (field ++ ".z")⟩

/-- `local_frame_from_mapping` with the check of `LocalFrame.__post_init__`. -/
def localFrameFromMapping (value : Json) : Except PyError LocalFrame := do
  let item ← bodyObject value "local_frame" ["forward", "left", "up"] []
  match item.getD "forward", item.getD "left", item.getD "up" with
  | .str forward, .str left, .str up =>
      raiseIf (!([forward, left, up].all fun axis => (AXES.lookup axis).isSome))
        (.spatialContract "local_frame directions must be signed x, y, or z axes")
      if h : rightHanded forward left up = true then return ⟨forward, left, up, h⟩
      else throw (.spatialContract "local_frame requires forward × left = up")
  | _, _, _ => throw (.spatialContract "local_frame directions must be signed x, y, or z axes")

/-- `body_geometry_from_mapping` with the checks of `BodyGeometry.__post_init__`. -/
def bodyGeometryFromMapping (value : Json) : Except PyError BodyGeometry := do
  let geometry ← bodyObject value "geometry" ["box"] []
  let box ← bodyObject (geometry.getD "box") "geometry.box"
    ["length_m", "width_m", "height_m", "center"] []
  let center ← bodyPosition (box.getD "center") "geometry.box.center"
  return ⟨← bodyPositive (box.getD "length_m") "length_m",
    ← bodyPositive (box.getD "width_m") "width_m",
    ← bodyPositive (box.getD "height_m") "height_m", center⟩

/-- `[a-z][a-z0-9_]*`. -/
def isTypeName (name : List Char) : Bool :=
  match name with
  | [] => false
  | c :: cs => c.isLower && cs.all fun c => c.isLower || c.isDigit || c == '_'

/-- The segments of a text between its dots. -/
def dotSegments : List Char → List (List Char)
  | [] => [[]]
  | c :: cs =>
      if c = '.' then [] :: dotSegments cs
      else match dotSegments cs with
        | [] => [[c]]
        | segment :: rest => (c :: segment) :: rest

/-- `_CAPABILITY_NAME.fullmatch`: two or more dotted type names. -/
def isCapabilityName (name : String) : Bool :=
  let segments := dotSegments name.toList
  decide (2 ≤ segments.length) && segments.all isTypeName

/-- One capability, a namespaced string. -/
def capabilityName (item : Json) : Except PyError String :=
  let error := PyError.spatialContract "embodiment capabilities must be namespaced strings"
  match item with
  | .str name => if isCapabilityName name then .ok name else .error error
  | _ => .error error

/-- The sorted tuple of pairwise different capabilities. -/
def capabilityNames (items : List Json) : Except PyError (List String) := do
  let names ← items.mapM capabilityName
  raiseIf (!names.Nodup) (.spatialContract "embodiment capabilities must be unique")
  return names.insertionSort (· ≤ ·)

/-- The list of capabilities of a record, empty by default. -/
def capabilityItems (item : Fields) : Except PyError (List Json) :=
  match (item.get? "capabilities").getD (.arr []) with
  | .arr items => .ok items
  | _ => .error (.spatialContract "embodiment capabilities must be a list")

/-- The type of a body, `unspecified` by default. -/
def embodimentType (item : Fields) : Except PyError String :=
  let error := PyError.spatialContract "embodiment.embodiment_type must be a type name"
  match (item.get? "embodiment_type").getD (.str "unspecified") with
  | .str type => if isTypeName type.toList then .ok type else .error error
  | _ => .error error

/-- The optional agent of a body. -/
def embodimentAgent (item : Fields) : Except PyError (Option String) :=
  match item.getD "agent_id" with
  | .null => .ok none
  | agent => (typedId agent "agent" "embodiment.agent_id").map some

/-- `embodiment_from_mapping` with the checks of `Embodiment.__post_init__`. -/
def embodimentFromMapping (value : Json) : Except PyError Embodiment := do
  let item ← bodyObject value "embodiment" ["id", "name"]
    ["geometry", "local_frame", "agent_id", "capabilities", "embodiment_type"]
  let items ← capabilityItems item
  let geometry ← (item.get? "geometry").mapM bodyGeometryFromMapping
  let local_frame ← (item.get? "local_frame").mapM localFrameFromMapping
  let id ← typedId (item.getD "id") "embodiment" "embodiment.id"
  let name ← nonBlank (item.get? "name") (.spatialContract "embodiment.name must be non-empty")
  let embodiment_type ← embodimentType item
  let agent_id ← embodimentAgent item
  let capabilities ← capabilityNames items
  return ⟨id, name, geometry, local_frame, agent_id, capabilities, embodiment_type⟩

def positionAsMapping (p : Position) : Json :=
  .obj [("x", .float p.x), ("y", .float p.y), ("z", .float p.z)]

/-- `body_geometry_as_mapping`. -/
def bodyGeometryAsMapping (g : BodyGeometry) : Json :=
  .obj [("box", .obj [("length_m", .float g.length_m), ("width_m", .float g.width_m),
    ("height_m", .float g.height_m), ("center", positionAsMapping g.center)])]

/-- `local_frame_as_mapping`. -/
def localFrameAsMapping (f : LocalFrame) : Json :=
  .obj [("forward", .str f.forward), ("left", .str f.left), ("up", .str f.up)]

/-- `embodiment_as_mapping`. -/
def embodimentAsMapping (e : Embodiment) : Fields :=
  [("id", .str e.id), ("name", .str e.name), ("embodiment_type", .str e.embodiment_type)]
    ++ (match e.geometry with
      | some g => [("geometry", bodyGeometryAsMapping g)]
      | none => [])
    ++ (match e.local_frame with
      | some f => [("local_frame", localFrameAsMapping f)]
      | none => [])
    ++ (match e.agent_id with
      | some agent => [("agent_id", .str agent)]
      | none => [])
    ++ [("capabilities", .arr (e.capabilities.map .str))]

end Spatial
end HomeCortex
