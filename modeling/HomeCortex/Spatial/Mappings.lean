/-
# Bodies and samples are read back from their mappings

`embodiment_as_mapping` and `physical_telemetry_as_mapping` against their parsers.  What a
parser returns passes each check again: the ids are typed, the numbers finite, the
capabilities sorted and different, and the time of a sample is written as the text of its
UTC wall time, which denotes the same instant (`measuredAt_isoformat`).
-/

import HomeCortex.Common.DatetimeTexts
import HomeCortex.Spatial.AnchorMappings

namespace HomeCortex
namespace Spatial

open Except

/-! ### Leaves -/

theorem bodyFinite_float {x : Float} (h : x.isFinite = true) (field : String) :
    bodyFinite (.float x) field = .ok x := if_pos h

theorem typedId_self {table text : String} (h : isTypedId table text = true) (field : String) :
    typedId (.str text) table field = .ok text := by
  obtain ⟨key, hsplit⟩ := splitRecordId_of_isTypedId h
  simp only [typedId, hsplit, if_true]

/-- The same fields, in any order. -/
def SameFields (a b : Fields) : Prop := ∀ key, a.get? key = b.get? key

theorem bodyObject_obj {fields : Fields} {field : String} {required optional : List String}
    (hrequired : ∀ key ∈ required, fields.has key = true)
    (hextra : fields.extra (required ++ optional) = []) :
    bodyObject (.obj fields) field required optional = .ok fields := by
  have hmissing : (required.filter fun key => !fields.has key) = [] :=
    List.filter_eq_nil_iff.mpr fun key hkey => by simp [hrequired key hkey]
  rw [bodyObject]
  simp only [Json.asObject?, hmissing, hextra, List.isEmpty_nil, Bool.and_self, if_true]

theorem bodyPosition_self {position : Position} (h : position.IsFinite) (field : String) :
    bodyPosition (positionAsMapping position) field = .ok position := by
  have hitem : bodyObject (positionAsMapping position) field ["x", "y", "z"] [] =
      .ok [("x", .float position.x), ("y", .float position.y), ("z", .float position.z)] := rfl
  simp only [bodyPosition, hitem, bind, Except.bind]
  simp [Fields.getD, Fields.get?_cons, bodyFinite_float h.1, bodyFinite_float h.2.1,
    bodyFinite_float h.2.2, pure, Except.pure]

theorem isFinite_bodyPosition {value : Json} {field : String} {position : Position}
    (h : bodyPosition value field = .ok position) : position.IsFinite := by
  simp only [bodyPosition, bind_eq_ok, pure_eq_ok] at h
  obtain ⟨item, -, x, hx, y, hy, z, hz, rfl⟩ := h
  exact ⟨isFinite_of_bodyFinite hx, isFinite_of_bodyFinite hy, isFinite_of_bodyFinite hz⟩

/-! ### Embodiments -/

theorem bodyPositive_self {x : Float} {value : Json} {field field' : String}
    (h : bodyPositive value field = .ok x) : bodyPositive (.float x) field' = .ok x := by
  simp only [bodyPositive, bind_eq_ok, raiseIf_eq_ok, pure_eq_ok] at h
  obtain ⟨y, hy, _, hpositive, rfl⟩ := h
  simp only [bodyPositive, bodyFinite_float (isFinite_of_bodyFinite hy), raiseIf, hpositive, bind,
    Except.bind]
  rfl

theorem bodyGeometryFromMapping_self {value : Json} {geometry : BodyGeometry}
    (h : bodyGeometryFromMapping value = .ok geometry) :
    bodyGeometryFromMapping (bodyGeometryAsMapping geometry) = .ok geometry := by
  simp only [bodyGeometryFromMapping, bind_eq_ok, pure_eq_ok] at h
  obtain ⟨_, -, _, -, center, hcenter, length, hlength, width, hwidth, height, hheight, rfl⟩ := h
  have hgeometry : bodyObject (bodyGeometryAsMapping ⟨length, width, height, center⟩) "geometry"
      ["box"] [] = .ok [("box", .obj [("length_m", .float length), ("width_m", .float width),
        ("height_m", .float height), ("center", positionAsMapping center)])] := rfl
  have hbox : bodyObject (.obj [("length_m", .float length), ("width_m", .float width),
      ("height_m", .float height), ("center", positionAsMapping center)]) "geometry.box"
      ["length_m", "width_m", "height_m", "center"] [] = .ok [("length_m", .float length),
        ("width_m", .float width), ("height_m", .float height),
        ("center", positionAsMapping center)] := rfl
  simp only [bodyGeometryFromMapping, hgeometry, bind, Except.bind]
  simp only [Fields.getD, Fields.get?_cons, if_true, Option.getD_some, hbox]
  simp [bodyPosition_self (isFinite_bodyPosition hcenter), bodyPositive_self hlength,
    bodyPositive_self hwidth, bodyPositive_self hheight, pure, Except.pure]

theorem lookup_axes {frame : LocalFrame} : (AXES.lookup frame.forward).isSome = true ∧
    (AXES.lookup frame.left).isSome = true ∧ (AXES.lookup frame.up).isSome = true := by
  have h := frame.right_handed
  unfold rightHanded at h
  split at h
  case h_1 f l u hf hl hu => simp [hf, hl, hu]
  case h_2 => cases h

theorem localFrameFromMapping_self (frame : LocalFrame) :
    localFrameFromMapping (localFrameAsMapping frame) = .ok frame := by
  obtain ⟨hforward, hleft, hup⟩ := @lookup_axes frame
  have hitem : bodyObject (localFrameAsMapping frame) "local_frame" ["forward", "left", "up"] [] =
      .ok [("forward", .str frame.forward), ("left", .str frame.left), ("up", .str frame.up)] := rfl
  simp only [localFrameFromMapping, hitem, bind, Except.bind]
  simp [Fields.getD, Fields.get?_cons, hforward, hleft, hup, raiseIf, frame.right_handed]

/-- Values that are each read back from their mapping are read back as a list. -/
theorem mapM_map_list {α β : Type} {values : List α} {parse : β → Except PyError α}
    {mapping : α → β} (h : ∀ a ∈ values, parse (mapping a) = .ok a) :
    (values.map mapping).mapM parse = .ok values := by
  induction values with
  | nil => rfl
  | cons a values ih =>
      rw [List.map_cons, mapM_cons_eq_ok]
      exact ⟨a, values, h a List.mem_cons_self,
        ih fun b hb => h b (List.mem_cons_of_mem a hb), rfl⟩

theorem capabilityName_eq_ok {item : Json} {name : String} :
    capabilityName item = .ok name ↔ item = .str name ∧ isCapabilityName name = true := by
  constructor
  · intro h
    unfold capabilityName at h
    dsimp only at h
    split at h
    case h_1 text =>
      split at h
      case isTrue hname =>
        obtain rfl := Except.ok.inj h
        exact ⟨rfl, hname⟩
      case isFalse => cases h
    case h_2 => cases h
  · rintro ⟨rfl, hname⟩
    exact if_pos hname

/-- Sorted names are the same names, sorted. -/
theorem capabilityNames_self {items : List Json} {names : List String}
    (h : capabilityNames items = .ok names) : capabilityNames (names.map .str) = .ok names := by
  simp only [capabilityNames, bind_eq_ok, raiseIf_eq_ok, pure_eq_ok] at h
  obtain ⟨read, hread, _, hnodup, rfl⟩ := h
  have hperm := List.perm_insertionSort (· ≤ ·) read
  have hnames : ∀ name ∈ read.insertionSort (· ≤ ·), capabilityName (.str name) = .ok name := by
    intro name hname
    obtain ⟨item, -, hitem⟩ := exists_of_mapM_mem hread (hperm.mem_iff.mp hname)
    exact capabilityName_eq_ok.mpr ⟨rfl, (capabilityName_eq_ok.mp hitem).2⟩
  have hnodup' : (read.insertionSort (· ≤ ·)).Nodup := hperm.nodup_iff.mpr (by simpa using hnodup)
  simp only [capabilityNames, mapM_map_list hnames, bind, Except.bind, raiseIf, hnodup']
  rw [(List.pairwise_insertionSort (· ≤ ·) read).insertionSort_eq]
  rfl

/-- The fields of the mapping, by their keys. -/
theorem embodimentAsMapping_get? (e : Embodiment) :
    (embodimentAsMapping e).get? "name" = some (.str e.name) ∧
    (embodimentAsMapping e).get? "embodiment_type" = some (.str e.embodiment_type) ∧
    (embodimentAsMapping e).get? "geometry" = e.geometry.map bodyGeometryAsMapping ∧
    (embodimentAsMapping e).get? "local_frame" = e.local_frame.map localFrameAsMapping ∧
    (embodimentAsMapping e).get? "agent_id" = e.agent_id.map .str ∧
    (embodimentAsMapping e).get? "capabilities" = some (.arr (e.capabilities.map .str)) ∧
    (embodimentAsMapping e).map Prod.fst ⊆ ["id", "name", "geometry", "local_frame", "agent_id",
      "capabilities", "embodiment_type"] := by
  obtain ⟨id, name, geometry, frame, agent, capabilities, type⟩ := e
  cases geometry <;> cases frame <;> cases agent <;>
    exact ⟨rfl, rfl, rfl, rfl, rfl, rfl, by simp [embodimentAsMapping]⟩

theorem embodimentType_eq_ok {item : Fields} {type : String} (h : embodimentType item = .ok type) :
    isTypeName type.toList = true := by
  unfold embodimentType at h
  dsimp only at h
  split at h
  case h_1 text _ =>
    split at h
    case isTrue hname =>
      obtain rfl := Except.ok.inj h
      exact hname
    case isFalse => cases h
  case h_2 => cases h

theorem embodimentAgent_eq_ok {item : Fields} {agent : Option String}
    (h : embodimentAgent item = .ok agent) : ∀ a ∈ agent, isTypedId "agent" a = true := by
  unfold embodimentAgent at h
  split at h
  case h_1 =>
    obtain rfl := Except.ok.inj h
    exact fun _ ha => (by cases ha)
  case h_2 =>
    obtain ⟨id, hid, rfl⟩ := map_eq_ok.mp h
    exact fun a ha => Option.some.inj ha ▸ isTypedId_of_typedId hid

/-- **An embodiment is parsed back from its mapping**, in any order of its fields. -/
theorem embodimentFromMapping_self {value : Json} {embodiment : Embodiment}
    (h : embodimentFromMapping value = .ok embodiment) {record : Fields}
    (hrecord : SameFields record (embodimentAsMapping embodiment)) :
    embodimentFromMapping (.obj record) = .ok embodiment := by
  simp only [embodimentFromMapping, bind_eq_ok, pure_eq_ok] at h
  obtain ⟨item, -, items, -, geometry, hgeometry, frame, -, id, hid, name, hname, type, htype,
    agent, hagent, capabilities, hcapabilities, rfl⟩ := h
  obtain ⟨hname', htype', hgeometry', hframe', hagent', hcapabilities', hkeys⟩ :=
    embodimentAsMapping_get? ⟨id, name, geometry, frame, agent, capabilities, type⟩
  rw [← hrecord] at hname' htype' hgeometry' hframe' hagent' hcapabilities'
  have hid' : record.get? "id" = some (.str id) := (hrecord "id").trans (embodimentAsMapping_id _)
  have hobject : bodyObject (.obj record) "embodiment" ["id", "name"]
      ["geometry", "local_frame", "agent_id", "capabilities", "embodiment_type"] = .ok record := by
    refine bodyObject_obj (fun key hkey => ?_) (extra_eq_nil fun key hkey => ?_)
    · rcases List.mem_pair.mp hkey with rfl | rfl
      · rw [Fields.has, hid']; rfl
      · rw [Fields.has, hname']; rfl
    · rw [hrecord] at hkey
      obtain ⟨value, hvalue⟩ := Option.isSome_iff_exists.mp hkey
      exact hkeys (List.mem_map.mpr ⟨_, AList.mem_of_lookup_eq_some hvalue, rfl⟩)
  have hitems : capabilityItems record = .ok (capabilities.map .str) := by
    simp only [capabilityItems, hcapabilities', Option.getD_some]
  have hgeometry'' : (geometry.map bodyGeometryAsMapping).mapM bodyGeometryFromMapping =
      .ok geometry :=
    mapM_map_self (forall_of_mapM hgeometry fun _ _ => bodyGeometryFromMapping_self)
  have hframe'' : (frame.map localFrameAsMapping).mapM localFrameFromMapping = .ok frame :=
    mapM_map_self fun f _ => localFrameFromMapping_self f
  have hid'' : typedId (record.getD "id") "embodiment" "embodiment.id" = .ok id := by
    rw [Fields.getD, hid']
    exact typedId_self (isTypedId_of_typedId hid) _
  have hname'' : nonBlank (some (.str name)) (.spatialContract "embodiment.name must be non-empty") =
      .ok name := nonBlank_eq_ok.mpr ⟨rfl, (nonBlank_eq_ok.mp hname).2⟩
  have htype'' : embodimentType record = .ok type := by
    simp only [embodimentType, htype', Option.getD_some]
    exact if_pos (embodimentType_eq_ok htype)
  have hagent'' : embodimentAgent record = .ok agent := by
    rw [embodimentAgent, Fields.getD, hagent']
    cases agent with
    | none => rfl
    | some a =>
        have htyped := embodimentAgent_eq_ok hagent a rfl
        simp only [Option.map_some, Option.getD_some, typedId_self htyped]
        rfl
  simp only [embodimentFromMapping, hobject, bind, Except.bind, hitems, hgeometry', hframe', hname',
    hid'', htype'', hagent'', capabilityNames_self hcapabilities, hgeometry'', hframe'', hname'']
  rfl

/-! ### Samples -/

/-- `physical_value_as_mapping`. -/
def physicalValueAsMapping (value : PhysicalValue) : Json :=
  .obj [("value", .float value.value), ("p95", .float value.p95)]

/-- `realtime_transform_as_mapping`. -/
def realtimeTransformAsMapping (t : RealtimeTransform) : Json :=
  .obj [("x", physicalValueAsMapping t.x), ("y", physicalValueAsMapping t.y),
    ("z", physicalValueAsMapping t.z), ("yaw", physicalValueAsMapping t.yaw),
    ("pitch", physicalValueAsMapping t.pitch), ("roll", physicalValueAsMapping t.roll)]

def Validity.name : Validity → String
  | .valid => "valid"
  | .noEstimate => "no_estimate"

/-- `physical_telemetry_as_mapping`; the time of a sample is a wall time in UTC. -/
def physicalTelemetryAsMapping (t : PhysicalTelemetry) : Except PyError Json := do
  let measured_at ← wallTimeOf t.measured_at
  return .obj [("embodiment_id", .str t.embodiment_id),
    ("space_id", (t.space_id.map Json.str).getD .null),
    ("measured_at", .str (measured_at.isoformat 0)), ("validity", .str t.validity.name),
    ("transform", (t.transform.map realtimeTransformAsMapping).getD .null)]

/-- The instants of the calendar. -/
def InCalendar (instant : Int) : Prop := 0 ≤ instant ∧ instant < maxMicros

theorem inCalendar_of_instantOf {wall offset instant : Int} (h : instantOf wall offset = .ok instant) :
    InCalendar instant := by
  unfold instantOf at h
  split at h
  case isTrue hrange => exact Except.ok.inj h ▸ hrange
  case isFalse => cases h

theorem inCalendar_of_measuredAt {value : Timestamp} {instant : Int}
    (h : measuredAt value = .ok instant) : InCalendar instant := by
  unfold measuredAt at h
  dsimp only at h
  split at h
  case h_1 =>
    split at h
    case h_1 =>
      split at h
      case h_1 => exact inCalendar_of_instantOf h
      case h_2 => cases h
    case h_2 => cases h
  case h_2 =>
    split at h
    case h_1 => exact inCalendar_of_instantOf h
    case h_2 => cases h
  case h_3 => cases h

theorem replaceZulu_self {text : String} (h : 'Z' ∉ text.toList) : replaceZulu text = text := by
  have hchars : (text.toList.flatMap fun c => if c = 'Z' then "+00:00".toList else [c]) =
      text.toList := by
    refine (List.flatMap_congr fun c hc => ?_).trans (List.flatMap_singleton' text.toList)
    exact if_neg fun hz => h (by rwa [hz] at hc)
  rw [replaceZulu, hchars, String.ofList_toList]

/-- **The text of an instant in UTC** denotes the instant. -/
theorem measuredAt_isoformat {instant : Int} (h : InCalendar instant) :
    ∃ wall, wallTimeOf instant = .ok wall ∧
      measuredAt (.text (wall.isoformat 0)) = .ok instant := by
  obtain ⟨wall, hwall, hvalue, hmicros⟩ := wallTimeOf_eq h
  obtain ⟨d, hread, hlocal, hoffset⟩ :=
    @datetimeFromIsoformat_isoformat wall 0 hmicros (by decide)
  refine ⟨wall, hwall, ?_⟩
  simp only [measuredAt, replaceZulu_self (not_mem_isoformat wall 0), hread, hoffset, hlocal, hvalue]
  rw [instantOf, Int.sub_zero]
  exact if_pos h

theorem requireFinite_float {x : Float} (h : x.isFinite = true) (field : String) :
    requireFinite (.float x) field = .ok ⟨x, h⟩ := by
  rw [requireFinite]
  split
  case h_1 y hy =>
    exact congrArg Except.ok (Subtype.ext (Except.ok.inj (hy.symm.trans (bodyFinite_float h field))))
  case h_2 e he =>
    rw [bodyFinite_float h field] at he
    cases he

theorem physicalValueFromMapping_self (value : PhysicalValue) :
    physicalValueFromMapping (physicalValueAsMapping value) = .ok value := by
  have hitem : bodyObject (physicalValueAsMapping value) "physical value" ["value", "p95"] [] =
      .ok [("value", .float value.value), ("p95", .float value.p95)] := rfl
  simp only [physicalValueFromMapping, hitem, bind, Except.bind]
  simp [Fields.getD, Fields.get?_cons, mkPhysicalValue, requireFinite_float value.finite.1,
    requireFinite_float value.finite.2, bind, Except.bind, pure, Except.pure]
  exact dif_neg (by simpa using value.nonnegative)

theorem realtimeTransformFromMapping_self (t : RealtimeTransform) :
    realtimeTransformFromMapping (realtimeTransformAsMapping t) = .ok t := by
  have hitem : bodyObject (realtimeTransformAsMapping t) "transform"
      ["x", "y", "z", "yaw", "pitch", "roll"] [] = .ok [("x", physicalValueAsMapping t.x),
        ("y", physicalValueAsMapping t.y), ("z", physicalValueAsMapping t.z),
        ("yaw", physicalValueAsMapping t.yaw), ("pitch", physicalValueAsMapping t.pitch),
        ("roll", physicalValueAsMapping t.roll)] := rfl
  simp only [realtimeTransformFromMapping, hitem, bind, Except.bind]
  simp [Fields.getD, Fields.get?_cons, physicalValueFromMapping_self, pure, Except.pure]

theorem optionalSpace_self {space : Option String}
    (h : ∀ s ∈ space, isTypedId "space" s = true) :
    optionalSpace ((space.map Json.str).getD .null) = .ok ⟨space, h⟩ := by
  cases space with
  | none => rfl
  | some s =>
      simp only [Option.map_some, Option.getD_some, optionalSpace,
        requireTypedId_str ⟨s, h s rfl⟩]
      rfl

/-- The transform of a sample, which may be `None`. -/
def optionalTransform : Json → Except PyError (Option RealtimeTransform)
  | .null => .ok none
  | value => (realtimeTransformFromMapping value).map some

/-- The parser in two stages. -/
theorem physicalTelemetryFromMapping_stages (value : Json) :
    physicalTelemetryFromMapping value = (do
      let item ← bodyObject value "telemetry"
        ["embodiment_id", "space_id", "measured_at", "validity", "transform"] []
      let transform ← optionalTransform (item.getD "transform")
      mkTelemetry (item.getD "embodiment_id") (item.getD "space_id")
        (.ofJson (item.getD "measured_at")) (item.getD "validity") transform) := by
  unfold physicalTelemetryFromMapping
  cases bodyObject value "telemetry"
      ["embodiment_id", "space_id", "measured_at", "validity", "transform"] [] with
  | error => rfl
  | ok item =>
      simp only [bind, Except.bind]
      cases item.getD "transform" <;> rfl

theorem optionalTransform_self (transform : Option RealtimeTransform) :
    optionalTransform ((transform.map realtimeTransformAsMapping).getD .null) = .ok transform := by
  cases transform with
  | none => rfl
  | some t =>
      have hsome : optionalTransform (realtimeTransformAsMapping t) =
          (realtimeTransformFromMapping (realtimeTransformAsMapping t)).map some := rfl
      rw [Option.map_some, Option.getD_some, hsome, realtimeTransformFromMapping_self]
      rfl

/-- The time of a sample is the one that was read. -/
theorem measured_at_of_mkTelemetry {embodiment_id space_id validity : Json} {measured_at : Timestamp}
    {transform : Option RealtimeTransform} {telemetry : PhysicalTelemetry}
    (h : mkTelemetry embodiment_id space_id measured_at validity transform = .ok telemetry) :
    measuredAt measured_at = .ok telemetry.measured_at := by
  simp only [mkTelemetry, bind_eq_ok] at h
  obtain ⟨id, -, space, -, instant, hinstant, h⟩ := h
  split at h
  case h_1 =>
    split at h
    case isTrue =>
      obtain rfl := Except.ok.inj h
      exact hinstant
    case isFalse => cases h
  case h_2 =>
    split at h
    case isTrue =>
      obtain rfl := Except.ok.inj h
      exact hinstant
    case isFalse => cases h
  case h_3 => cases h

/-- A sample passes the checks of its constructor. -/
theorem mkTelemetry_self {telemetry : PhysicalTelemetry} {measured_at : Timestamp}
    (h : measuredAt measured_at = .ok telemetry.measured_at) :
    mkTelemetry (.str telemetry.embodiment_id) ((telemetry.space_id.map Json.str).getD .null)
      measured_at (.str telemetry.validity.name) telemetry.transform = .ok telemetry := by
  obtain ⟨id, space, instant, validity, transform, hid, hspace, hconsistent⟩ := telemetry
  have hid' := requireTypedId_str ⟨id, hid⟩ "embodiment_id"
  have hspace' := optionalSpace_self hspace
  simp only at h hid' hspace'
  simp only [mkTelemetry, hid', hspace', h, bind, Except.bind]
  cases validity with
  | valid => exact dif_pos hconsistent
  | noEstimate => exact dif_pos hconsistent

/-- **A sample is parsed back from its mapping.** -/
theorem physicalTelemetryFromMapping_self {value : Json} {telemetry : PhysicalTelemetry}
    (h : physicalTelemetryFromMapping value = .ok telemetry) :
    ∃ mapping, physicalTelemetryAsMapping telemetry = .ok mapping ∧
      physicalTelemetryFromMapping mapping = .ok telemetry := by
  rw [physicalTelemetryFromMapping_stages] at h
  simp only [bind_eq_ok] at h
  obtain ⟨_, -, _, -, h⟩ := h
  obtain ⟨wall, hwall, htime⟩ :=
    measuredAt_isoformat (inCalendar_of_measuredAt (measured_at_of_mkTelemetry h))
  refine ⟨_, by rw [physicalTelemetryAsMapping, hwall]; rfl, ?_⟩
  rw [physicalTelemetryFromMapping_stages]
  have htransform := optionalTransform_self telemetry.transform
  change (do
    let transform ← optionalTransform
      ((telemetry.transform.map realtimeTransformAsMapping).getD .null)
    mkTelemetry (.str telemetry.embodiment_id) ((telemetry.space_id.map Json.str).getD .null)
      (.text (wall.isoformat 0)) (.str telemetry.validity.name) transform) = _
  rw [htransform]
  exact mkTelemetry_self htime

end Spatial
end HomeCortex
