/-
# The runtime pose of an agent

`spatial/localization/pose.py` and the poses of `spatial/transforms.py`.  A runtime pose
is parsed into a value that carries what was checked: finite coordinates, non-negative
uncertainties, typed ids, and an estimate exactly where the quality allows or demands one.
`parseRuntimePose_asMapping` is the round trip through canonical JSON: every runtime pose
is parsed back from its own mapping.
-/

import HomeCortex.Common.CanonicalJson
import HomeCortex.Library.Binary64
import HomeCortex.Spatial.Telemetry

namespace HomeCortex
namespace Spatial

/-! ### Checked values -/

theorem isFinite_of_finiteFloat {value : Json} {error : PyError} {x : Float}
    (h : finiteFloat value error = .ok x) : x.isFinite = true := by
  cases value with
  | int n =>
      rw [finiteFloat] at h
      split at h
      case isTrue hfinite => exact Except.ok.inj h ▸ hfinite
      case isFalse => cases h
  | float y =>
      rw [finiteFloat] at h
      split at h
      case isTrue hfinite => exact Except.ok.inj h ▸ hfinite
      case isFalse => cases h
  | _ => cases h

/-- `float(value)` of a finite number, with what was checked. -/
def checkedFinite (value : Json) (error : PyError) : Except PyError FiniteFloat :=
  match h : finiteFloat value error with
  | .ok x => .ok ⟨x, isFinite_of_finiteFloat h⟩
  | .error error => .error error

/-- A checked float passes its own check. -/
theorem checkedFinite_float (x : FiniteFloat) (error : PyError) :
    checkedFinite (.float x) error = .ok x := by
  have hfloat : finiteFloat (.float x) error = .ok x.1 := if_pos x.2
  rw [checkedFinite]
  split
  case h_1 y hy => exact congrArg Except.ok (Subtype.ext (Except.ok.inj (hy.symm.trans hfloat)))
  case h_2 e he => rw [hfloat] at he; cases he

/-- A record id of a table. -/
abbrev TypedId (table : String) := {text : String // isTypedId table text = true}

/-- A typed id passes its own check. -/
theorem requireTypedId_str {table : String} (id : TypedId table) (field : String) :
    requireTypedId (.str id) table field = .ok id := by
  have htyped : typedId (.str id) table field = .ok id.1 := by
    have h := id.2
    rw [isTypedId] at h
    rw [typedId]
    cases hparts : splitRecordId id.1 with
    | error error =>
        rw [hparts] at h
        cases h
    | ok parts =>
        simp only [hparts] at h ⊢
        simpa using h
  rw [requireTypedId]
  split
  case h_1 text htext => exact congrArg Except.ok (Subtype.ext (Except.ok.inj (htext.symm.trans htyped)))
  case h_2 e he => rw [htyped] at he; cases he

/-! ### Poses -/

def Position.IsFinite (position : Position) : Prop :=
  position.x.isFinite = true ∧ position.y.isFinite = true ∧ position.z.isFinite = true

def Orientation.IsFinite (orientation : Orientation) : Prop :=
  orientation.yaw.isFinite = true ∧ orientation.pitch.isFinite = true ∧
    orientation.roll.isFinite = true

theorem Position.isFinite_mk (x y z : FiniteFloat) : Position.IsFinite ⟨x, y, z⟩ :=
  ⟨x.2, y.2, z.2⟩

/-- A position with finite coordinates. -/
abbrev FinitePosition := {position : Position // position.IsFinite}

/-- An orientation with finite angles. -/
abbrev FiniteOrientation := {orientation : Orientation // orientation.IsFinite}

/-- `Pose`, as the function `pose` builds it. -/
structure Pose where
  position : FinitePosition
  orientation : FiniteOrientation

/-- `_finite` of `transforms.py`. -/
def transformFinite (value : Float) (name : String) : Except PyError FiniteFloat :=
  checkedFinite (.float value) (.spatialTransform (name ++ " must be a finite number"))

/-- `pose`. -/
def pose (position : Position) (orientation : Orientation) : Except PyError Pose := do
  let x ← transformFinite position.x "x"
  let y ← transformFinite position.y "y"
  let z ← transformFinite position.z "z"
  let yaw ← transformFinite orientation.yaw "yaw"
  let pitch ← transformFinite orientation.pitch "pitch"
  let roll ← transformFinite orientation.roll "roll"
  return ⟨⟨⟨x, y, z⟩, Position.isFinite_mk x y z⟩, ⟨⟨yaw, pitch, roll⟩, yaw.2, pitch.2, roll.2⟩⟩

/-- A coordinate in a mapping. -/
def number (x : Float) (h : x.isFinite = true) : JsonDoc PyNumber := .num (.float ⟨x, h⟩)

/-- A position in a mapping. -/
def positionDocument (position : FinitePosition) : JsonDoc PyNumber := .obj [
  ("x", number position.1.x position.2.1), ("y", number position.1.y position.2.2.1),
  ("z", number position.1.z position.2.2.2)]

/-- An orientation in a mapping. -/
def orientationDocument (orientation : FiniteOrientation) : JsonDoc PyNumber := .obj [
  ("yaw", number orientation.1.yaw orientation.2.1),
  ("pitch", number orientation.1.pitch orientation.2.2.1),
  ("roll", number orientation.1.roll orientation.2.2.2)]

/-- `==` of two positions. -/
def Position.same (a b : Position) : Bool := a.x == b.x && a.y == b.y && a.z == b.z

/-- `==` of two orientations. -/
def Orientation.same (a b : Orientation) : Bool :=
  a.yaw == b.yaw && a.pitch == b.pitch && a.roll == b.roll

theorem Position.same_self {position : Position} (h : position.IsFinite) :
    position.same position = true := by
  simp [Position.same, Binary64.beq_self_of_isFinite h.1, Binary64.beq_self_of_isFinite h.2.1,
    Binary64.beq_self_of_isFinite h.2.2]

theorem Orientation.same_self {orientation : Orientation} (h : orientation.IsFinite) :
    orientation.same orientation = true := by
  simp [Orientation.same, Binary64.beq_self_of_isFinite h.1, Binary64.beq_self_of_isFinite h.2.1,
    Binary64.beq_self_of_isFinite h.2.2]

theorem transformFinite_self {x : Float} (h : x.isFinite = true) (name : String) :
    transformFinite x name = .ok ⟨x, h⟩ :=
  checkedFinite_float ⟨x, h⟩ _

/-- A pose passes its own check. -/
theorem pose_self (value : Pose) : pose value.position.1 value.orientation.1 = .ok value := by
  obtain ⟨⟨position, hx, hy, hz⟩, orientation, hyaw, hpitch, hroll⟩ := value
  simp only [pose, transformFinite_self, hx, hy, hz, hyaw, hpitch, hroll]
  rfl

/-- A length in meters is normalized to itself. -/
theorem asMeters_float {x : Float} (h : x.isFinite = true) : asMeters (.float x) = .ok x := by
  have hfinite : finite (.float x) "length" = .ok x := if_pos h
  have hfactor : lengthFactor (.str LENGTH_UNIT) = .ok 1.0 := rfl
  simp only [asMeters, Json.asObject?, normalizeLength, hfinite, hfactor]
  exact congrArg Except.ok (Binary64.mul_one_of_isFinite h)

/-- An angle in radians is normalized to itself. -/
theorem asRadians_float {x : Float} (h : x.isFinite = true) : asRadians (.float x) = .ok x := by
  have hfinite : finite (.float x) "angle" = .ok x := if_pos h
  have hfactor : angleToRadians.lookup (casefold ANGLE_UNIT) = some 1.0 := rfl
  simp only [asRadians, Json.asObject?, normalizeAngle, hfinite, ANGLE_UNIT] at hfactor ⊢
  rw [hfactor]
  exact congrArg Except.ok (Binary64.mul_one_of_isFinite h)

/-- A string field whose text was checked. -/
def checkedText (check : String → Bool) (value : Json) (error : PyError) :
    Except PyError {text : String // check text = true} :=
  match value with
  | .str text => if h : check text = true then .ok ⟨text, h⟩ else .error error
  | _ => .error error

/-- A checked text passes its own check. -/
theorem checkedText_str {check : String → Bool} (text : {text : String // check text = true})
    (error : PyError) : checkedText check (.str text) error = .ok text :=
  dif_pos text.2

/-- A field that may be absent. -/
def optionalField {α : Type} (item : Fields) (key : String) (parse : Json → Except PyError α) :
    Except PyError (Option α) :=
  match item.get? key with
  | none => .ok none
  | some value => (parse value).map some

theorem optionalField_eq {α : Type} {item : Fields} {key : String}
    {parse : Json → Except PyError α} {written : Option (JsonDoc PyNumber)} {value : Option α}
    (hget : item.get? key = written.map reread)
    (hparse : ∀ document ∈ written, ∃ x, value = some x ∧ parse (reread document) = .ok x)
    (hnone : written = none → value = none) : optionalField item key parse = .ok value := by
  rw [optionalField, hget]
  cases written with
  | none => rw [hnone rfl]; rfl
  | some document =>
      obtain ⟨x, rfl, hx⟩ := hparse document rfl
      simp only [Option.map_some, hx]
      rfl

/-! ### Uncertainty -/

/-- A non-negative one-sigma term. -/
abbrev SigmaTerm := {x : FiniteFloat // ¬ x.1 < 0.0}

/-- `PoseUncertainty`; `none` is unstated. -/
structure PoseUncertainty where
  x_sigma : Option SigmaTerm
  y_sigma : Option SigmaTerm
  z_sigma : Option SigmaTerm
  yaw_sigma : Option SigmaTerm
  pitch_sigma : Option SigmaTerm
  roll_sigma : Option SigmaTerm

/-- The terms by their field names. -/
def PoseUncertainty.terms (uncertainty : PoseUncertainty) : List (String × Option SigmaTerm) := [
  ("x_sigma", uncertainty.x_sigma), ("y_sigma", uncertainty.y_sigma),
  ("z_sigma", uncertainty.z_sigma), ("yaw_sigma", uncertainty.yaw_sigma),
  ("pitch_sigma", uncertainty.pitch_sigma), ("roll_sigma", uncertainty.roll_sigma)]

/-- `_UNCERTAINTY_FIELDS`. -/
def UNCERTAINTY_FIELDS : List String :=
  ["x_sigma", "y_sigma", "z_sigma", "yaw_sigma", "pitch_sigma", "roll_sigma"]

/-- A non-negative number; `error` for what is no finite number, `negative` for a negative one. -/
def sigmaTerm (value : Json) (error negative : PyError) : Except PyError SigmaTerm := do
  let x ← checkedFinite value error
  if h : x.1 < 0.0 then throw negative else return ⟨x, h⟩

theorem sigmaTerm_float (term : SigmaTerm) (error negative : PyError) :
    sigmaTerm (.float term.1) error negative = .ok term := by
  rw [sigmaTerm, checkedFinite_float]
  exact dif_neg term.2

/-- A term of `_uncertainty`. -/
def uncertaintyTerm (item : Fields) (name : String) : Except PyError (Option SigmaTerm) :=
  let error := .spatialContract ("uncertainty." ++ name ++ " must be a finite non-negative number")
  optionalField item name fun value => sigmaTerm value error error

/-- `_uncertainty`. -/
def poseUncertainty (value : Json) : Except PyError PoseUncertainty := do
  let item ← localObject value "uncertainty" UNCERTAINTY_FIELDS
  return ⟨← uncertaintyTerm item "x_sigma", ← uncertaintyTerm item "y_sigma",
    ← uncertaintyTerm item "z_sigma", ← uncertaintyTerm item "yaw_sigma",
    ← uncertaintyTerm item "pitch_sigma", ← uncertaintyTerm item "roll_sigma"⟩

/-- The terms that are stated. -/
def statedTerms (terms : List (String × Option SigmaTerm)) : List (String × JsonDoc PyNumber) :=
  terms.filterMap fun term => term.2.map fun x => (term.1, .num (.float x.1))

/-- `==` of two optional values. -/
def sameOption {α : Type} (same : α → α → Bool) : Option α → Option α → Bool
  | some a, some b => same a b
  | none, none => true
  | _, _ => false

/-- `==` of two optional terms. -/
def sameTerm : Option SigmaTerm → Option SigmaTerm → Bool :=
  sameOption fun a b => a.1.1 == b.1.1

theorem sameOption_self {α : Type} {same : α → α → Bool} (h : ∀ a, same a a = true) :
    ∀ a, sameOption same a a = true
  | some a => h a
  | none => rfl

/-- `==` of two uncertainties. -/
def PoseUncertainty.same (a b : PoseUncertainty) : Bool :=
  sameTerm a.x_sigma b.x_sigma && sameTerm a.y_sigma b.y_sigma && sameTerm a.z_sigma b.z_sigma &&
    sameTerm a.yaw_sigma b.yaw_sigma && sameTerm a.pitch_sigma b.pitch_sigma &&
    sameTerm a.roll_sigma b.roll_sigma

theorem sameTerm_self (term : Option SigmaTerm) : sameTerm term term = true :=
  sameOption_self (fun term : SigmaTerm => Binary64.beq_self_of_isFinite term.1.2) term

theorem PoseUncertainty.same_self (uncertainty : PoseUncertainty) :
    uncertainty.same uncertainty = true := by
  simp [same, sameTerm_self]

theorem lookup_statedTerms {terms : List (String × Option SigmaTerm)}
    (hnodup : (terms.map Prod.fst).Nodup) (key : String) :
    (statedTerms terms).lookup key =
      (terms.lookup key).join.map fun x => .num (.float x.1) := by
  induction terms with
  | nil => rfl
  | cons term terms ih =>
      obtain ⟨name, value⟩ := term
      rw [List.map_cons, List.nodup_cons] at hnodup
      rw [List.lookup_cons]
      have hih := ih hnodup.2
      by_cases hkey : key = name
      · subst hkey
        rw [AList.lookup_eq_none_of_not_mem hnodup.1] at hih
        cases value with
        | none => simpa [statedTerms] using hih
        | some x => simp [statedTerms]
      · rw [beq_eq_false_iff_ne.mpr hkey]
        cases value with
        | none => simpa [statedTerms] using hih
        | some x =>
            simp only [statedTerms, List.filterMap_cons, Option.map_some, List.lookup_cons,
              beq_eq_false_iff_ne.mpr hkey]
            exact hih

theorem statedTerms_keys (terms : List (String × Option SigmaTerm)) :
    ((statedTerms terms).map Prod.fst).Sublist (terms.map Prod.fst) := by
  induction terms with
  | nil => exact .slnil
  | cons term terms ih =>
      obtain ⟨name, _ | x⟩ := term
      · simpa [statedTerms] using ih.cons name
      · simpa [statedTerms] using ih

/-- An object that was written is read back with its fields. -/
theorem localObject_reread {fields : List (String × JsonDoc PyNumber)} {allowed : List String}
    (hnodup : (fields.map Prod.fst).Nodup) (hallowed : fields.map Prod.fst ⊆ allowed)
    (field : String) :
    ∃ record, localObject (reread (.obj fields)) field allowed = .ok record ∧
      ∀ key, record.get? key = (fields.lookup key).map reread := by
  obtain ⟨record, hrecord, hextra, hget⟩ := reread_obj hnodup hallowed
  refine ⟨record, ?_, hget⟩
  rw [hrecord]
  simp [localObject, Json.asObject?, hextra]

/-- The mapping of an object has its fields. -/
theorem localObject_toJson {fields : List (String × JsonDoc PyNumber)} {allowed : List String}
    (hnodup : (fields.map Prod.fst).Nodup) (hallowed : fields.map Prod.fst ⊆ allowed)
    (field : String) :
    ∃ record, localObject (toJson (.obj fields)) field allowed = .ok record ∧
      ∀ key, record.get? key = (fields.lookup key).map toJson := by
  obtain ⟨record, hrecord, hextra, hget⟩ := toJson_obj hnodup hallowed
  refine ⟨record, ?_, hget⟩
  rw [hrecord]
  simp [localObject, Json.asObject?, hextra]

/-- A term that is written is read. -/
theorem uncertaintyTerm_eq {item : Fields} {name : String} {term : Option SigmaTerm}
    (hget : item.get? name = term.map fun x => Json.float x.1.1) :
    uncertaintyTerm item name = .ok term := by
  rw [uncertaintyTerm, optionalField, hget]
  cases term with
  | none => rfl
  | some x => simp only [Option.map_some, sigmaTerm_float]; rfl

/-- An uncertainty is read from an object that holds its terms. -/
theorem poseUncertainty_eq {uncertainty : PoseUncertainty} {value : Json} {item : Fields}
    (hitem : localObject value "uncertainty" UNCERTAINTY_FIELDS = .ok item)
    (hget : ∀ name, item.get? name =
      (uncertainty.terms.lookup name).join.map fun x => Json.float x.1.1) :
    poseUncertainty value = .ok uncertainty := by
  have hterm : ∀ name term, uncertainty.terms.lookup name = some term →
      uncertaintyTerm item name = .ok term := by
    intro name term hlookup
    apply uncertaintyTerm_eq
    rw [hget, hlookup]
    rfl
  rw [poseUncertainty, hitem]
  simp only [bind, Except.bind, hterm "x_sigma" _ rfl, hterm "y_sigma" _ rfl, hterm "z_sigma" _ rfl,
    hterm "yaw_sigma" _ rfl, hterm "pitch_sigma" _ rfl, hterm "roll_sigma" _ rfl]
  rfl

theorem terms_nodup (uncertainty : PoseUncertainty) :
    (uncertainty.terms.map Prod.fst).Nodup := by
  change UNCERTAINTY_FIELDS.Nodup
  decide

/-- Every uncertainty is parsed back from its mapping. -/
theorem poseUncertainty_toJson (uncertainty : PoseUncertainty) :
    poseUncertainty (toJson (.obj (statedTerms uncertainty.terms))) = .ok uncertainty := by
  have hnodup := terms_nodup uncertainty
  obtain ⟨item, hitem, hget⟩ := localObject_toJson
    ((statedTerms_keys uncertainty.terms).nodup hnodup) (statedTerms_keys uncertainty.terms).subset
    "uncertainty"
  refine poseUncertainty_eq hitem fun name => ?_
  rw [hget, lookup_statedTerms hnodup, Option.map_map]
  rfl

/-- Every uncertainty is parsed back from its canonical text. -/
theorem poseUncertainty_reread (uncertainty : PoseUncertainty) :
    poseUncertainty (reread (.obj (statedTerms uncertainty.terms))) = .ok uncertainty := by
  have hnodup := terms_nodup uncertainty
  obtain ⟨item, hitem, hget⟩ := localObject_reread
    ((statedTerms_keys uncertainty.terms).nodup hnodup) (statedTerms_keys uncertainty.terms).subset
    "uncertainty"
  refine poseUncertainty_eq hitem fun name => ?_
  rw [hget, lookup_statedTerms hnodup, Option.map_map]
  rfl

/-! ### The runtime pose -/

/-- The values of `LOCALIZATION_QUALITY`. -/
inductive LocalizationQuality where
  | unknown
  | initializing
  | localized
  | degraded
  | lost
deriving DecidableEq, Repr

namespace LocalizationQuality

def name : LocalizationQuality → String
  | unknown => "unknown"
  | initializing => "initializing"
  | localized => "localized"
  | degraded => "degraded"
  | lost => "lost"

/-- `LOCALIZATION_QUALITY`. -/
def all : List LocalizationQuality := [unknown, initializing, localized, degraded, lost]

/-- `quality in _POSE_QUALITY`. -/
def hasPose (quality : LocalizationQuality) : Bool := quality = localized || quality = degraded

def ofName? (text : String) : Option LocalizationQuality := all.find? fun quality =>
  quality.name = text

theorem ofName?_name (quality : LocalizationQuality) : ofName? quality.name = some quality := by
  cases quality <;> rfl

end LocalizationQuality

/-- A text that `_timestamp` accepts. -/
def isTimestamp (text : String) : Bool := !isBlank text && (datetimeFromIsoformat text).isSome

/-- `value.strip()` is not empty. -/
def isFilled (text : String) : Bool := !isBlank text

/-- `RuntimePose`. -/
structure RuntimePose where
  agent : TypedId "agent"
  space : TypedId "space"
  quality : LocalizationQuality
  estimate : Option Pose
  timestamp : Option {text : String // isTimestamp text = true}
  source : Option {text : String // isFilled text = true}
  uncertainty : Option PoseUncertainty

/-- What `parse_runtime_pose` demands between the fields. -/
structure RuntimePose.Consistent (value : RuntimePose) : Prop where
  unknown : value.quality = .unknown → value.estimate = none
  posed : value.quality.hasPose = true → value.estimate.isSome = true
  stamped : value.estimate.isSome = true → value.timestamp.isSome = true
  sourced : value.estimate.isSome = true → value.source.isSome = true

/-- `_RUNTIME_FIELDS`. -/
def RUNTIME_FIELDS : List String :=
  ["agent", "orientation", "position", "quality", "source", "space", "timestamp", "uncertainty"]

/-- `_estimate`. -/
def poseEstimate (item : Fields) : Except PyError Pose := do
  match item.get? "position", item.get? "orientation" with
  | some position, some orientation =>
      pose (← measuredPosition position) (← measuredOrientation orientation)
  | _, _ => throw (.spatialContract "runtime pose estimate requires position and orientation")

/-- `_estimate(value) if has_pose else None`. -/
def poseEstimateIf (item : Fields) (has_pose : Bool) : Except PyError (Option Pose) :=
  if has_pose then (poseEstimate item).map some else .ok none

/-- The quality of a pose, with its default. -/
def localizationQuality (value : Json) (has_pose : Bool) : Except PyError LocalizationQuality :=
  let error := PyError.spatialContract
    "runtime pose quality must be unknown, initializing, localized, degraded, or lost"
  match value with
  | .null => .ok (if has_pose then .localized else .unknown)
  | .str text =>
      match LocalizationQuality.ofName? text with
      | some quality => .ok quality
      | none => .error error
  | _ => .error error

/-- `_timestamp` of `pose.py`. -/
def poseTimestamp (value : Json) : Except PyError {text : String // isTimestamp text = true} :=
  checkedText isTimestamp value (.spatialContract "timestamp must be an ISO-8601 string")

/-- `_source` of `pose.py`. -/
def poseSource (value : Json) : Except PyError {text : String // isFilled text = true} :=
  checkedText isFilled value (.spatialContract "source must be a non-empty string")

/-- `parse_runtime_pose` of an object. -/
def runtimePose (item : Fields) : Except PyError RuntimePose := do
  raiseIf (!(item.extra RUNTIME_FIELDS).isEmpty) (.spatialContract
    ("Unknown runtime pose fields: " ++ ", ".intercalate (item.extra RUNTIME_FIELDS)))
  let agent ← requireTypedId (item.getD "agent") "agent" "agent"
  let space ← requireTypedId (item.getD "space") "space" "space"
  let has_pose := item.has "position" || item.has "orientation"
  let quality ← localizationQuality (item.getD "quality") has_pose
  raiseIf (quality = .unknown && has_pose)
    (.spatialContract "unknown runtime pose cannot include coordinates")
  raiseIf (quality.hasPose && !has_pose)
    (.spatialContract (quality.name ++ " runtime pose requires position and orientation"))
  let estimate ← poseEstimateIf item has_pose
  let timestamp ← optionalField item "timestamp" poseTimestamp
  let source ← optionalField item "source" poseSource
  raiseIf (estimate.isSome && timestamp.isNone)
    (.spatialContract "runtime pose estimate requires timestamp")
  raiseIf (estimate.isSome && source.isNone)
    (.spatialContract "runtime pose estimate requires source")
  let uncertainty ← optionalField item "uncertainty" poseUncertainty
  return ⟨agent, space, quality, estimate, timestamp, source, uncertainty⟩

/-- `parse_runtime_pose`. -/
def parseRuntimePose : Json → Except PyError (Option RuntimePose)
  | .null => .ok none
  | .obj item => (runtimePose item).map some
  | _ => .error (.spatialContract "runtime pose must be an object or null")

/-- `runtime_pose_as_mapping`, as a list of fields. -/
def runtimePoseFields (value : RuntimePose) : List (String × JsonDoc PyNumber) :=
  [("agent", .str value.agent), ("space", .str value.space), ("quality", .str value.quality.name)] ++
    (match value.estimate with
      | some estimate => [("position", positionDocument estimate.position),
          ("orientation", orientationDocument estimate.orientation)]
      | none => []) ++
    (value.timestamp.map fun text => ("timestamp", JsonDoc.str text)).toList ++
    (value.source.map fun text => ("source", JsonDoc.str text)).toList ++
    (value.uncertainty.map fun uncertainty =>
      ("uncertainty", JsonDoc.obj (statedTerms uncertainty.terms))).toList

/-- `runtime_pose_as_mapping`. -/
def runtimePoseAsMapping (value : RuntimePose) : JsonDoc PyNumber := .obj (runtimePoseFields value)

/-- `==` of two poses. -/
def Pose.same (a b : Pose) : Bool :=
  a.position.1.same b.position.1 && a.orientation.1.same b.orientation.1

/-- `==` of two runtime poses. -/
def RuntimePose.same (a b : RuntimePose) : Bool :=
  a.agent == b.agent && a.space == b.space && a.quality == b.quality &&
    sameOption Pose.same a.estimate b.estimate && a.timestamp == b.timestamp &&
    a.source == b.source && sameOption PoseUncertainty.same a.uncertainty b.uncertainty

theorem Pose.same_self (value : Pose) : value.same value = true := by
  simp [same, Position.same_self value.position.2, Orientation.same_self value.orientation.2]

theorem RuntimePose.same_self (value : RuntimePose) : value.same value = true := by
  simp [same, sameOption_self Pose.same_self, sameOption_self PoseUncertainty.same_self]

theorem poseEstimateIf_isSome {item : Fields} {has_pose : Bool} {estimate : Option Pose}
    (hestimate : poseEstimateIf item has_pose = .ok estimate) : estimate.isSome = has_pose := by
  unfold poseEstimateIf at hestimate
  split at hestimate
  case isTrue hpose =>
    obtain ⟨_, -, rfl⟩ := Except.map_eq_ok.mp hestimate
    exact hpose.symm
  case isFalse hpose =>
    obtain rfl := Except.ok.inj hestimate
    simpa using hpose

/-- What is parsed is consistent. -/
theorem consistent_of_runtimePose {item : Fields} {value : RuntimePose}
    (h : runtimePose item = .ok value) : value.Consistent := by
  simp only [runtimePose, Except.bind_eq_ok, raiseIf_eq_ok, Except.pure_eq_ok] at h
  obtain ⟨_, -, agent, -, space, -, quality, -, _, hunknown, _, hposed, estimate, hestimate,
    timestamp, -, source, -, _, hstamped, _, hsourced, uncertainty, -, rfl⟩ := h
  have hsome := poseEstimateIf_isSome hestimate
  rw [← hsome] at hunknown hposed
  refine ⟨fun hquality => ?_, fun hquality => ?_, fun hpose => ?_, fun hpose => ?_⟩
  · simpa [show quality = _ from hquality] using hunknown
  · simpa [show quality.hasPose = true from hquality] using hposed
  · simpa [show estimate.isSome = true from hpose, ← Option.isSome_iff_ne_none] using hstamped
  · simpa [show estimate.isSome = true from hpose, ← Option.isSome_iff_ne_none] using hsourced

theorem consistent_of_parseRuntimePose {value : Json} {pose : RuntimePose}
    (h : parseRuntimePose value = .ok (some pose)) : pose.Consistent := by
  cases value with
  | null => cases h
  | obj item =>
      obtain ⟨parsed, hparsed, hsome⟩ := Except.map_eq_ok.mp h
      obtain rfl := Option.some.inj hsome
      exact consistent_of_runtimePose hparsed
  | _ => cases h

section Reread

variable (value : RuntimePose)

theorem runtimePoseFields_keys :
    ((runtimePoseFields value).map Prod.fst).Nodup ∧
      (runtimePoseFields value).map Prod.fst ⊆ RUNTIME_FIELDS := by
  obtain ⟨agent, space, quality, estimate, timestamp, source, uncertainty⟩ := value
  cases estimate <;> cases timestamp <;> cases source <;> cases uncertainty <;>
    exact ⟨by simp [runtimePoseFields], by simp [runtimePoseFields, RUNTIME_FIELDS]⟩

/-- The fields of the mapping, by their keys. -/
theorem runtimePoseFields_lookup :
    (runtimePoseFields value).lookup "agent" = some (.str value.agent) ∧
    (runtimePoseFields value).lookup "space" = some (.str value.space) ∧
    (runtimePoseFields value).lookup "quality" = some (.str value.quality.name) ∧
    (runtimePoseFields value).lookup "position" =
      value.estimate.map (fun estimate => positionDocument estimate.position) ∧
    (runtimePoseFields value).lookup "orientation" =
      value.estimate.map (fun estimate => orientationDocument estimate.orientation) ∧
    (runtimePoseFields value).lookup "timestamp" = value.timestamp.map (fun text => .str text) ∧
    (runtimePoseFields value).lookup "source" = value.source.map (fun text => .str text) ∧
    (runtimePoseFields value).lookup "uncertainty" =
      value.uncertainty.map (fun uncertainty => .obj (statedTerms uncertainty.terms)) := by
  obtain ⟨agent, space, quality, estimate, timestamp, source, uncertainty⟩ := value
  cases estimate <;> cases timestamp <;> cases source <;> cases uncertainty <;>
    exact ⟨rfl, rfl, rfl, rfl, rfl, rfl, rfl, rfl⟩

/-- The mapping of a position with finite coordinates is measured back. -/
theorem measuredPosition_self {position : Position} (h : position.IsFinite) :
    measuredPosition (.obj [("x", .float position.x), ("y", .float position.y),
      ("z", .float position.z)]) = .ok position := by
  obtain ⟨hx, hy, hz⟩ := h
  have hitem : localObject (.obj [("x", .float position.x), ("y", .float position.y),
      ("z", .float position.z)]) "position" ["x", "y", "z"] =
      .ok [("x", .float position.x), ("y", .float position.y), ("z", .float position.z)] := rfl
  have hvector : requireVector [("x", .float position.x), ("y", .float position.y),
      ("z", .float position.z)] "position" ["x", "y", "z"] = .ok () := rfl
  simp only [measuredPosition, hitem, hvector, bind, Except.bind]
  simp [Fields.getD, Fields.get?_cons, asMeters_float hx, asMeters_float hy, asMeters_float hz,
    unitErrorAsContract, pure, Except.pure]

/-- The mapping of an orientation with finite angles is measured back. -/
theorem measuredOrientation_self {orientation : Orientation} (h : orientation.IsFinite) :
    measuredOrientation (.obj [("yaw", .float orientation.yaw), ("pitch", .float orientation.pitch),
      ("roll", .float orientation.roll)]) = .ok orientation := by
  obtain ⟨hyaw, hpitch, hroll⟩ := h
  have hitem : localObject (.obj [("yaw", .float orientation.yaw),
      ("pitch", .float orientation.pitch), ("roll", .float orientation.roll)]) "orientation"
      ["yaw", "pitch", "roll"] = .ok [("yaw", .float orientation.yaw),
      ("pitch", .float orientation.pitch), ("roll", .float orientation.roll)] := rfl
  have hvector : requireVector [("yaw", .float orientation.yaw),
      ("pitch", .float orientation.pitch), ("roll", .float orientation.roll)] "orientation"
      ["yaw", "pitch", "roll"] = .ok () := rfl
  simp only [measuredOrientation, hitem, hvector, bind, Except.bind]
  simp [Fields.getD, Fields.get?_cons, asRadians_float hyaw, asRadians_float hpitch,
    asRadians_float hroll, unitErrorAsContract, pure, Except.pure]

/-- A position is measured back from its mapping. -/
theorem measuredPosition_reread (position : FinitePosition) :
    measuredPosition (reread (positionDocument position)) = .ok position.1 := by
  obtain ⟨position, hx, hy, hz⟩ := position
  obtain ⟨item, hitem, hget⟩ := @localObject_reread [("x", number position.x hx),
    ("y", number position.y hy), ("z", number position.z hz)] ["x", "y", "z"] (by simp) (by simp)
    "position"
  have hx' : item.get? "x" = some (.float position.x) := hget "x"
  have hy' : item.get? "y" = some (.float position.y) := hget "y"
  have hz' : item.get? "z" = some (.float position.z) := hget "z"
  rw [measuredPosition, positionDocument, hitem]
  simp [requireVector, Fields.has, Fields.getD, hx', hy', hz', asMeters_float hx, asMeters_float hy,
    asMeters_float hz, bind, Except.bind, pure, Except.pure, unitErrorAsContract]

/-- An orientation is measured back from its mapping. -/
theorem measuredOrientation_reread (orientation : FiniteOrientation) :
    measuredOrientation (reread (orientationDocument orientation)) = .ok orientation.1 := by
  obtain ⟨orientation, hyaw, hpitch, hroll⟩ := orientation
  obtain ⟨item, hitem, hget⟩ := @localObject_reread [("yaw", number orientation.yaw hyaw),
    ("pitch", number orientation.pitch hpitch), ("roll", number orientation.roll hroll)]
    ["yaw", "pitch", "roll"] (by simp) (by simp) "orientation"
  have hyaw' : item.get? "yaw" = some (.float orientation.yaw) := hget "yaw"
  have hpitch' : item.get? "pitch" = some (.float orientation.pitch) := hget "pitch"
  have hroll' : item.get? "roll" = some (.float orientation.roll) := hget "roll"
  rw [measuredOrientation, orientationDocument, hitem]
  simp [requireVector, Fields.has, Fields.getD, hyaw', hpitch', hroll', asRadians_float hyaw,
    asRadians_float hpitch, asRadians_float hroll, bind, Except.bind, pure, Except.pure,
    unitErrorAsContract]

variable {value}

/-- An object that holds the parts of a runtime pose, each as its reader takes it. -/
structure Holds (item : Fields) (value : RuntimePose) : Prop where
  known : item.extra RUNTIME_FIELDS = []
  agent : item.get? "agent" = some (.str value.agent)
  space : item.get? "space" = some (.str value.space)
  quality : item.get? "quality" = some (.str value.quality.name)
  position : ∃ write : Pose → Json, item.get? "position" = value.estimate.map write ∧
    ∀ estimate, measuredPosition (write estimate) = .ok estimate.position.1
  orientation : ∃ write : Pose → Json, item.get? "orientation" = value.estimate.map write ∧
    ∀ estimate, measuredOrientation (write estimate) = .ok estimate.orientation.1
  timestamp : item.get? "timestamp" = value.timestamp.map fun text => .str text
  source : item.get? "source" = value.source.map fun text => .str text
  uncertainty : ∃ write : PoseUncertainty → Json,
    item.get? "uncertainty" = value.uncertainty.map write ∧
    ∀ uncertainty, poseUncertainty (write uncertainty) = .ok uncertainty

/-- A field that may be absent is read as it was written. -/
theorem optionalField_map {α : Type} {item : Fields} {key : String}
    {parse : Json → Except PyError α} {write : α → Json} {part : Option α}
    (hget : item.get? key = part.map write) (hparse : ∀ a, parse (write a) = .ok a) :
    optionalField item key parse = .ok part := by
  rw [optionalField, hget]
  cases part with
  | none => rfl
  | some a => simp only [Option.map_some, hparse]; rfl

/-- Every consistent runtime pose is parsed from an object that holds it. -/
theorem parseRuntimePose_eq (h : value.Consistent) {item : Fields} (hitem : Holds item value) :
    parseRuntimePose (.obj item) = .ok (some value) := by
  obtain ⟨writePosition, hposition, hmeasured⟩ := hitem.position
  obtain ⟨writeOrientation, horientation, hmeasured'⟩ := hitem.orientation
  obtain ⟨writeUncertainty, huncertainty, hread⟩ := hitem.uncertainty
  have hpose : (item.has "position" || item.has "orientation") = value.estimate.isSome := by
    rw [Fields.has, Fields.has, hposition, horientation]
    cases value.estimate <;> rfl
  have hagent : requireTypedId (item.getD "agent") "agent" "agent" = .ok value.agent := by
    rw [Fields.getD, hitem.agent]
    exact requireTypedId_str value.agent "agent"
  have hspace : requireTypedId (item.getD "space") "space" "space" = .ok value.space := by
    rw [Fields.getD, hitem.space]
    exact requireTypedId_str value.space "space"
  have hquality : localizationQuality (item.getD "quality") value.estimate.isSome =
      .ok value.quality := by
    rw [Fields.getD, hitem.quality]
    simp [localizationQuality, LocalizationQuality.ofName?_name]
  have hestimate : poseEstimateIf item value.estimate.isSome = .ok value.estimate := by
    cases hestimate : value.estimate with
    | none => rfl
    | some estimate =>
        rw [hestimate] at hposition horientation
        simp only [poseEstimateIf, Option.isSome_some, if_true, poseEstimate, hposition,
          horientation, Option.map_some, hmeasured, hmeasured', bind, Except.bind, pose_self]
        rfl
  have htimestamp : optionalField item "timestamp" poseTimestamp = .ok value.timestamp :=
    optionalField_map hitem.timestamp fun text => checkedText_str text _
  have hsource : optionalField item "source" poseSource = .ok value.source :=
    optionalField_map hitem.source fun text => checkedText_str text _
  have huncertainty : optionalField item "uncertainty" poseUncertainty = .ok value.uncertainty :=
    optionalField_map huncertainty hread
  have hunknown : (decide (value.quality = .unknown) && value.estimate.isSome) = false := by
    by_cases hquality : value.quality = .unknown
    · simp [h.unknown hquality]
    · simp [hquality]
  have hposed : (value.quality.hasPose && !value.estimate.isSome) = false := by
    cases hquality : value.quality.hasPose
    · rfl
    · simp [h.posed hquality]
  have hstamped : (value.estimate.isSome && value.timestamp.isNone) = false := by
    cases hsome : value.estimate.isSome
    · rfl
    · simp [← Option.not_isSome, h.stamped hsome]
  have hsourced : (value.estimate.isSome && value.source.isNone) = false := by
    cases hsome : value.estimate.isSome
    · rfl
    · simp [← Option.not_isSome, h.sourced hsome]
  rw [parseRuntimePose]
  simp only [runtimePose, hitem.known, List.isEmpty_nil, Bool.not_true, hagent, hspace, hpose,
    hquality, hunknown, hposed, hestimate, htimestamp, hsource, hstamped, hsourced, huncertainty,
    raiseIf, Bool.false_eq_true, if_false, bind, Except.bind]
  rfl

/-- A reading of documents that keeps the values in them. -/
theorem holds_of_read {read : JsonDoc PyNumber → Json} {item : Fields}
    (hextra : item.extra RUNTIME_FIELDS = [])
    (hget : ∀ key, item.get? key = ((runtimePoseFields value).lookup key).map read)
    (hstr : ∀ text, read (.str text) = .str text)
    (hposition : ∀ position, measuredPosition (read (positionDocument position)) = .ok position.1)
    (horientation : ∀ orientation,
      measuredOrientation (read (orientationDocument orientation)) = .ok orientation.1)
    (huncertainty : ∀ uncertainty : PoseUncertainty,
      poseUncertainty (read (.obj (statedTerms uncertainty.terms))) = .ok uncertainty) :
    Holds item value := by
  obtain ⟨hagent, hspace, hquality, hposition', horientation', htimestamp, hsource,
    huncertainty'⟩ := runtimePoseFields_lookup value
  refine ⟨hextra, ?_, ?_, ?_, ⟨_, ?_, fun estimate => hposition estimate.position⟩,
    ⟨_, ?_, fun estimate => horientation estimate.orientation⟩, ?_, ?_, ⟨_, ?_, huncertainty⟩⟩
  · rw [hget, hagent, Option.map_some, hstr]
  · rw [hget, hspace, Option.map_some, hstr]
  · rw [hget, hquality, Option.map_some, hstr]
  · rw [hget, hposition', Option.map_map]
    rfl
  · rw [hget, horientation', Option.map_map]
    rfl
  · rw [hget, htimestamp, Option.map_map]
    exact Option.map_congr fun text _ => hstr text
  · rw [hget, hsource, Option.map_map]
    exact Option.map_congr fun text _ => hstr text
  · rw [hget, huncertainty', Option.map_map]
    rfl

/-- **Round trip.**  Every consistent runtime pose is parsed back from its mapping. -/
theorem parseRuntimePose_toJson (h : value.Consistent) :
    parseRuntimePose (toJson (runtimePoseAsMapping value)) = .ok (some value) := by
  obtain ⟨hnodup, hallowed⟩ := runtimePoseFields_keys value
  obtain ⟨item, hitem, hextra, hget⟩ := toJson_obj hnodup hallowed
  rw [runtimePoseAsMapping, hitem]
  exact parseRuntimePose_eq h (holds_of_read hextra hget (fun _ => rfl)
    (fun position => measuredPosition_self position.2)
    (fun orientation => measuredOrientation_self orientation.2) poseUncertainty_toJson)

/-- **Round trip** through canonical JSON. -/
theorem parseRuntimePose_reread (h : value.Consistent) :
    parseRuntimePose (reread (.obj (runtimePoseFields value))) = .ok (some value) := by
  obtain ⟨hnodup, hallowed⟩ := runtimePoseFields_keys value
  obtain ⟨item, hitem, hextra, hget⟩ := reread_obj hnodup hallowed
  rw [hitem]
  exact parseRuntimePose_eq h (holds_of_read hextra hget reread_str measuredPosition_reread
    measuredOrientation_reread poseUncertainty_reread)

end Reread

end Spatial
end HomeCortex
