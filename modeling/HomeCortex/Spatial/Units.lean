/-
# Structured SI measurements

`spatial/primitives.py`, `spatial/units.py` and the object helpers of
`spatial/localization`.  A stored length or angle is a number in the SI unit or
an object with `value` and `unit`; a length may also be an object of feet and
inches.  Everything is normalized to one binary64 in meters or radians.
-/

import HomeCortex.Common.Json

namespace HomeCortex
namespace Spatial

def LENGTH_UNIT : String := "m"
def ANGLE_UNIT : String := "rad"
def TIME_UNIT : String := "s"
def POSE_FIELDS : List String := ["orientation", "position"]

/-- `text.casefold()`, exact for what it is compared with here: the only
characters whose folding is made of the letters of unit names are `A`–`Z` and
the long s. -/
def casefold (text : String) : String :=
  String.ofList (text.toList.map fun c => if c = 'ſ' then 's' else c.toLower)

/-- `type(value) in {int, float} and math.isfinite(value)`, then `float(value)`.
`math.isfinite` itself raises on an integer beyond the binary64 range. -/
def finiteFloat (value : Json) (error : PyError) : Except PyError Float :=
  match value with
  | .int n =>
      if (Float.ofInt n).isFinite then .ok (Float.ofInt n)
      else .error (.overflow "int too large to convert to float")
  | .float x => if x.isFinite then .ok x else .error error
  | _ => .error error

/-- `_finite` of `units.py`. -/
def finite (value : Json) (name : String) : Except PyError Float :=
  finiteFloat value (.spatialUnit (name ++ " must be a finite number"))

/-- `_LENGTH_TO_METERS`. -/
def lengthToMeters : List (String × Float) := [
  ("m", 1.0), ("meter", 1.0), ("meters", 1.0), ("metre", 1.0), ("metres", 1.0),
  ("mm", 0.001), ("millimeter", 0.001), ("millimeters", 0.001), ("millimetre", 0.001),
  ("millimetres", 0.001), ("cm", 0.01), ("centimeter", 0.01), ("centimeters", 0.01),
  ("centimetre", 0.01), ("centimetres", 0.01), ("in", 0.0254), ("inch", 0.0254),
  ("inches", 0.0254), ("ft", 0.3048), ("foot", 0.3048), ("feet", 0.3048)]

/-- `_ANGLE_TO_RADIANS`. -/
def angleToRadians : List (String × Float) := [
  ("rad", 1.0), ("radian", 1.0), ("radians", 1.0),
  ("deg", 3.141592653589793 / 180.0), ("degree", 3.141592653589793 / 180.0),
  ("degrees", 3.141592653589793 / 180.0)]

/-- `_length_factor`. -/
def lengthFactor (unit : Json) : Except PyError Float :=
  match unit with
  | .null => .error (.spatialUnit "length unit is required")
  | .str name =>
      match lengthToMeters.lookup (casefold name) with
      | some factor => .ok factor
      | none => .error (.spatialUnit
          ("Unsupported length unit " ++ name ++ "; expected mm, cm, m, in, or ft"))
  | _ => .error (.spatialUnit "length unit must be a string")

/-- `_normalize_feet_inches`. -/
def normalizeFeetInches (parts : Fields) : Except PyError Float := do
  let allowed := ["ft", "foot", "feet", "in", "inch", "inches"]
  raiseIf (!(parts.extra allowed).isEmpty)
    (.spatialUnit ("Unknown imperial fields: " ++ ", ".intercalate (parts.extra allowed) ++
      "; expected ft and in"))
  let feet := ((parts.get? "ft").orElse fun _ => (parts.get? "foot").orElse fun _ =>
    parts.get? "feet").getD (.int 0)
  let inches := ((parts.get? "in").orElse fun _ => (parts.get? "inch").orElse fun _ =>
    parts.get? "inches").getD (.int 0)
  return (← finite feet "ft") * 0.3048 + (← finite inches "in") * 0.0254

/-- `normalize_length`; the unit `null` is Python's `None`. -/
def normalizeLength (value unit : Json) : Except PyError Float :=
  match value.asObject?, unit with
  | some parts, .null => normalizeFeetInches parts
  | _, unit => do return (← finite value "length") * (← lengthFactor unit)

/-- `normalize_angle`. -/
def normalizeAngle (value unit : Json) : Except PyError Float :=
  match unit with
  | .str name =>
      match angleToRadians.lookup (casefold name) with
      | some factor => do return (← finite value "angle") * factor
      | none => .error (.spatialUnit ("Unsupported angle unit " ++ name ++ "; expected rad or deg"))
  | _ => .error (.spatialUnit "angle unit must be a string")

/-- `as_meters` with its default unit. -/
def asMeters (value : Json) : Except PyError Float :=
  match value.asObject? with
  | some fields =>
      if fields.has "value" || fields.has "unit" then
        if !(fields.extra ["unit", "value"]).isEmpty then
          .error (.spatialUnit ("Unknown structured length fields: " ++
            ", ".intercalate (fields.extra ["unit", "value"])))
        else match fields.get? "value" with
          | none => .error (.spatialUnit "structured length requires value")
          | some inner => normalizeLength inner ((fields.get? "unit").getD (.str LENGTH_UNIT))
      else normalizeLength value .null
  | none => normalizeLength value (.str LENGTH_UNIT)

/-- `as_radians` with its default unit. -/
def asRadians (value : Json) : Except PyError Float :=
  match value.asObject? with
  | some fields =>
      if !(fields.extra ["unit", "value"]).isEmpty then
        .error (.spatialUnit ("Unknown structured angle fields: " ++
          ", ".intercalate (fields.extra ["unit", "value"])))
      else match fields.get? "value" with
        | none => .error (.spatialUnit "structured angle requires value")
        | some inner => normalizeAngle inner ((fields.get? "unit").getD (.str ANGLE_UNIT))
  | none => normalizeAngle value (.str ANGLE_UNIT)

/-- `except SpatialUnitError as error: raise SpatialContractError(str(error))`. -/
def unitErrorAsContract {α : Type} : Except PyError α → Except PyError α
  | .error (.spatialUnit message) => .error (.spatialContract message)
  | result => result

/-- `_object` of the localization modules: a dict without further fields. -/
def localObject (value : Json) (field : String) (allowed : List String) :
    Except PyError Fields :=
  match value.asObject? with
  | some fields =>
      if (fields.extra allowed).isEmpty then .ok fields
      else .error (.spatialContract ("Unknown " ++ field ++ " fields: " ++
        ", ".intercalate (fields.extra allowed)))
  | none => .error (.spatialContract (field ++ " must be an object"))

end Spatial
end HomeCortex
