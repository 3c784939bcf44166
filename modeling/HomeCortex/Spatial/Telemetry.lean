/-
# Physical telemetry

`spatial/telemetry.py`.  A client sends one estimate of where a body is, or says
that it has none.  `PhysicalTelemetry` carries what its constructor checks: typed
ids, a space and a transform in a valid sample, no transform otherwise.  Its time is
an instant, in microseconds as in `HomeCortex.Common.Clock`.
-/

import HomeCortex.Common.Clock
import HomeCortex.Spatial.Canonical

namespace HomeCortex
namespace Spatial

/-- What stands where a timestamp is expected: a text, a `datetime`, or neither. -/
inductive Timestamp where
  | text (value : String)
  | datetime (value : PyDatetime)
  | other
deriving DecidableEq

/-- A timestamp in a JSON value. -/
def Timestamp.ofJson : Json → Timestamp
  | .str value => .text value
  | _ => .other

/-- `value.replace("Z", "+00:00")`. -/
def replaceZulu (text : String) : String :=
  String.ofList (text.toList.flatMap fun c => if c = 'Z' then "+00:00".toList else [c])

/-- `_measured_at`: the instant of a timestamp with an offset. -/
def measuredAt (value : Timestamp) : Except PyError Int :=
  let error := PyError.spatialContract "measured_at must be an ISO-8601 timestamp with offset"
  let instant (d : PyDatetime) : Except PyError Int :=
    match d.offset with
    | some offset => instantOf d.localMicros offset
    | none => .error error
  match value with
  | .text text =>
      match datetimeFromIsoformat (replaceZulu text) with
      | some d => instant d
      | none => .error error
  | .datetime d => instant d
  | .other => .error error

/-- `PhysicalValue`: an estimate and its 95% error bound. -/
structure PhysicalValue where
  value : Float
  p95 : Float
  finite : value.isFinite = true ∧ p95.isFinite = true
  nonnegative : decide (p95 < 0.0) = false
deriving DecidableEq

/-- `RealtimeTransform`. -/
structure RealtimeTransform where
  x : PhysicalValue
  y : PhysicalValue
  z : PhysicalValue
  yaw : PhysicalValue
  pitch : PhysicalValue
  roll : PhysicalValue
deriving DecidableEq

/-- The values of `validity`. -/
inductive Validity where
  | valid
  | noEstimate
deriving DecidableEq, Repr

/-- A text that `_typed_id` accepts for a table. -/
def isTypedId (table text : String) : Bool :=
  match splitRecordId text with
  | .ok parts => parts.1 == table
  | .error _ => false

/-- `PhysicalTelemetry`. -/
structure PhysicalTelemetry where
  embodiment_id : String
  space_id : Option String
  measured_at : Int
  validity : Validity
  transform : Option RealtimeTransform
  embodiment_typed : isTypedId "embodiment" embodiment_id = true
  space_typed : ∀ space ∈ space_id, isTypedId "space" space = true
  consistent : match validity with
    | .valid => space_id.isSome = true ∧ transform.isSome = true
    | .noEstimate => transform = none
deriving DecidableEq

/-- What `_typed_id` returns is a typed id. -/
theorem isTypedId_of_typedId {value : Json} {table field parsed : String}
    (h : typedId value table field = .ok parsed) : isTypedId table parsed = true := by
  obtain rfl := typedId_eq_ok h
  simp only [typedId] at h
  rw [isTypedId]
  cases hparts : splitRecordId parsed with
  | error error =>
      rw [hparts] at h
      cases h
  | ok parts =>
      simp only [hparts] at h ⊢
      split at h
      case isTrue htable => simpa using htable
      case isFalse => cases h

/-- `_typed_id`, with what it has checked. -/
def requireTypedId (value : Json) (table field : String) :
    Except PyError {text : String // isTypedId table text = true} :=
  match h : typedId value table field with
  | .ok text => .ok ⟨text, isTypedId_of_typedId h⟩
  | .error error => .error error

theorem isFinite_of_bodyFinite {value : Json} {field : String} {x : Float}
    (h : bodyFinite value field = .ok x) : x.isFinite = true := by
  cases value with
  | int n =>
      by_cases hfinite : (Float.ofInt n).isFinite = true
      · simp only [bodyFinite, finiteFloat, hfinite, if_true, Except.ok.injEq] at h
        rwa [← h]
      · simp [bodyFinite, finiteFloat, hfinite] at h
  | float y =>
      by_cases hfinite : y.isFinite = true
      · simp only [bodyFinite, finiteFloat, hfinite, if_true, Except.ok.injEq] at h
        rwa [← h]
      · simp [bodyFinite, finiteFloat, hfinite] at h
  | _ => cases h

/-- `_finite`, with what it has checked. -/
def requireFinite (value : Json) (field : String) :
    Except PyError {x : Float // x.isFinite = true} :=
  match h : bodyFinite value field with
  | .ok x => .ok ⟨x, isFinite_of_bodyFinite h⟩
  | .error error => .error error

/-- `PhysicalValue(…)`. -/
def mkPhysicalValue (value p95 : Json) : Except PyError PhysicalValue := do
  let value ← requireFinite value "physical value"
  let p95 ← requireFinite p95 "p95"
  if h : decide (p95.1 < 0.0) = false then return ⟨value, p95, ⟨value.2, p95.2⟩, h⟩
  else throw (.spatialContract "p95 must be non-negative")

/-- `physical_value_from_mapping`. -/
def physicalValueFromMapping (value : Json) : Except PyError PhysicalValue := do
  let item ← bodyObject value "physical value" ["value", "p95"] []
  mkPhysicalValue (item.getD "value") (item.getD "p95")

/-- `realtime_transform_from_mapping`. -/
def realtimeTransformFromMapping (value : Json) : Except PyError RealtimeTransform := do
  let item ← bodyObject value "transform" ["x", "y", "z", "yaw", "pitch", "roll"] []
  return ⟨← physicalValueFromMapping (item.getD "x"), ← physicalValueFromMapping (item.getD "y"),
    ← physicalValueFromMapping (item.getD "z"), ← physicalValueFromMapping (item.getD "yaw"),
    ← physicalValueFromMapping (item.getD "pitch"), ← physicalValueFromMapping (item.getD "roll")⟩

theorem noSpace_typed : ∀ s ∈ (none : Option String), isTypedId "space" s = true := nofun

/-- The optional space of a sample. -/
def optionalSpace : Json →
    Except PyError {space : Option String // ∀ s ∈ space, isTypedId "space" s = true}
  | .null => .ok ⟨none, noSpace_typed⟩
  | value => (requireTypedId value "space" "space_id").map fun space =>
      ⟨some space.1, fun _ h => Option.some.inj h ▸ space.2⟩

/-- `PhysicalTelemetry(…)`: its checks in their order. -/
def mkTelemetry (embodiment_id space_id : Json) (measured_at : Timestamp) (validity : Json)
    (transform : Option RealtimeTransform) : Except PyError PhysicalTelemetry := do
  let id ← requireTypedId embodiment_id "embodiment" "embodiment_id"
  let space ← optionalSpace space_id
  let instant ← measuredAt measured_at
  match validity with
  | .str "valid" =>
      if h : space.1.isSome = true ∧ transform.isSome = true then
        return ⟨id, space, instant, .valid, transform, id.2, space.2, h⟩
      else throw (.spatialContract "valid telemetry requires space_id and transform")
  | .str "no_estimate" =>
      if h : transform = none then
        return ⟨id, space, instant, .noEstimate, transform, id.2, space.2, h⟩
      else throw (.spatialContract "no_estimate telemetry cannot contain a transform")
  | _ => throw (.spatialContract "validity must be valid or no_estimate")

/-- `physical_telemetry_from_mapping`. -/
def physicalTelemetryFromMapping (value : Json) : Except PyError PhysicalTelemetry := do
  let item ← bodyObject value "telemetry"
    ["embodiment_id", "space_id", "measured_at", "validity", "transform"] []
  let transform ← match item.getD "transform" with
    | .null => pure none
    | transform => (realtimeTransformFromMapping transform).map some
  mkTelemetry (item.getD "embodiment_id") (item.getD "space_id")
    (.ofJson (item.getD "measured_at")) (item.getD "validity") transform

/-- `==` of two estimates. -/
def PhysicalValue.same (a b : PhysicalValue) : Bool := a.value == b.value && a.p95 == b.p95

/-- `==` of two transforms. -/
def RealtimeTransform.same (a b : RealtimeTransform) : Bool :=
  a.x.same b.x && a.y.same b.y && a.z.same b.z && a.yaw.same b.yaw && a.pitch.same b.pitch &&
    a.roll.same b.roll

/-- `==` of two samples. -/
def PhysicalTelemetry.same (a b : PhysicalTelemetry) : Bool :=
  a.embodiment_id == b.embodiment_id && a.space_id == b.space_id &&
    a.measured_at == b.measured_at && a.validity == b.validity &&
    match a.transform, b.transform with
    | some t, some u => t.same u
    | none, none => true
    | _, _ => false

end Spatial
end HomeCortex
