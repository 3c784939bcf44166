/-
# Anchors are read back from their mappings

`surveyed_anchor_as_mapping` writes an anchor with its space and
`embedded_anchor_as_mapping` without it.  What the parser returns is well formed
(`wellFormed_of_parse`), and a well-formed anchor is parsed back from either mapping
(`parseSurveyedAnchor_mapped`): the kind is written as `type`, the id as its local token and
every measure in the SI unit, which are all spellings that the parser accepts.
-/

import HomeCortex.Spatial.Measures

namespace HomeCortex
namespace Spatial

open Except

/-! ### Mappings -/

def orientationAsMapping (o : Orientation) : Json :=
  .obj [("yaw", .float o.yaw), ("pitch", .float o.pitch), ("roll", .float o.roll)]

def recognitionAsMapping (r : AnchorRecognition) : Json :=
  .obj (("family", .str r.family) ::
    (match r.marker_id with
      | some marker => [("marker_id", marker)]
      | none => []))

def surveyAsMapping (s : AnchorSurvey) : Json :=
  .obj (("method", .str s.method) ::
    (match s.uncertainty_m with
      | some u => [("uncertainty_m", .float u)]
      | none => []))

/-- `surveyed_anchor_as_mapping`, as a list of fields. -/
def surveyedAnchorFields (anchor : SurveyedAnchor) : Fields :=
  [("id", .str anchor.id), ("space", .str anchor.space), ("type", .str anchor.kind),
      ("position", positionAsMapping anchor.position)]
    ++ (match anchor.orientation with
      | some o => [("orientation", orientationAsMapping o)]
      | none => [])
    ++ (match anchor.recognition with
      | some r => [("recognition", recognitionAsMapping r)]
      | none => [])
    ++ (match anchor.survey with
      | some s => [("survey", surveyAsMapping s)]
      | none => [])

/-- `surveyed_anchor_as_mapping`. -/
def surveyedAnchorAsMapping (anchor : SurveyedAnchor) : Json := .obj (surveyedAnchorFields anchor)

/-- `embedded_anchor_as_mapping` takes the space out. -/
theorem embeddedAnchorAsMapping_eq (anchor : SurveyedAnchor) :
    embeddedAnchorAsMapping anchor = .obj ((surveyedAnchorFields anchor).without ["space"]) := by
  obtain ⟨id, space, position, kind, orientation, recognition, survey⟩ := anchor
  cases orientation <;> cases recognition <;> cases survey <;> rfl

theorem extra_eq_nil_of_keys {record : Fields} {allowed : List String}
    (h : record.map Prod.fst ⊆ allowed) : record.extra allowed = [] := by
  rw [Fields.extra, List.filter_eq_nil_iff.mpr fun key hkey => by simp [h hkey]]
  rfl

/-- The fields of the mapping, by their keys. -/
theorem surveyedAnchorFields_get? (anchor : SurveyedAnchor) :
    (surveyedAnchorFields anchor).get? "id" = some (.str anchor.id) ∧
    (surveyedAnchorFields anchor).get? "type" = some (.str anchor.kind) ∧
    (surveyedAnchorFields anchor).get? "kind" = none ∧
    (surveyedAnchorFields anchor).get? "position" = some (positionAsMapping anchor.position) ∧
    (surveyedAnchorFields anchor).get? "orientation" =
      anchor.orientation.map orientationAsMapping ∧
    (surveyedAnchorFields anchor).get? "recognition" =
      anchor.recognition.map recognitionAsMapping ∧
    (surveyedAnchorFields anchor).get? "survey" = anchor.survey.map surveyAsMapping ∧
    (surveyedAnchorFields anchor).get? "space" = some (.str anchor.space) ∧
    (surveyedAnchorFields anchor).map Prod.fst ⊆ ANCHOR_FIELDS := by
  obtain ⟨id, space, position, kind, orientation, recognition, survey⟩ := anchor
  cases orientation <;> cases recognition <;> cases survey <;>
    exact ⟨rfl, rfl, rfl, rfl, rfl, rfl, rfl, rfl, by
      simp [surveyedAnchorFields, ANCHOR_FIELDS]⟩

/-! ### Parts of an anchor -/

theorem nonBlank_eq_ok {value : Option Json} {error : PyError} {text : String} :
    nonBlank value error = .ok text ↔ value = some (.str text) ∧ isBlank text = false := by
  constructor
  · intro h
    unfold nonBlank at h
    split at h
    case h_1 found =>
      split at h
      case isTrue => cases h
      case isFalse hblank =>
        obtain rfl := Except.ok.inj h
        exact ⟨rfl, Bool.not_eq_true _ ▸ hblank⟩
    case h_2 => cases h
  · rintro ⟨rfl, hblank⟩
    simp [nonBlank, hblank]

/-- A named family, and a marker that is a text or a natural number. -/
def AnchorRecognition.WellFormed (r : AnchorRecognition) : Prop :=
  isBlank r.family = false ∧
    ∀ marker ∈ r.marker_id, (∃ text, marker = .str text) ∨ ∃ n : Int, marker = .int n ∧ 0 ≤ n

/-- A named method, and a finite uncertainty that is not negative. -/
def AnchorSurvey.WellFormed (s : AnchorSurvey) : Prop :=
  isBlank s.method = false ∧
    ∀ u ∈ s.uncertainty_m, u.isFinite = true ∧ decide (u < 0.0) = false

theorem wellFormed_of_recognitionOf {value : Json} {r : AnchorRecognition}
    (h : recognitionOf value = .ok r) : r.WellFormed := by
  simp only [recognitionOf, bind_eq_ok, nonBlank_eq_ok] at h
  obtain ⟨item, -, family, ⟨-, hfamily⟩, h⟩ := h
  split at h
  case h_1 =>
    obtain rfl := Except.ok.inj h
    exact ⟨hfamily, fun _ hm => (by cases hm)⟩
  case h_2 text _ =>
    obtain rfl := Except.ok.inj h
    exact ⟨hfamily, fun m hm => .inl ⟨text, (Option.some.inj hm).symm⟩⟩
  case h_3 n _ =>
    simp only [bind_eq_ok, raiseIf_eq_ok, decide_eq_false_iff_not, not_lt, pure_eq_ok] at h
    obtain ⟨-, hn, rfl⟩ := h
    exact ⟨hfamily, fun m hm => .inr ⟨n, (Option.some.inj hm).symm, hn⟩⟩
  case h_4 => cases h

/-- A recognition is read back from its mapping. -/
theorem recognitionOf_self {r : AnchorRecognition} (h : r.WellFormed) :
    recognitionOf (recognitionAsMapping r) = .ok r := by
  obtain ⟨family, marker⟩ := r
  obtain ⟨hfamily, hmarker⟩ := h
  have hname : nonBlank (some (.str family))
      (.spatialContract "recognition.family must be a non-empty string") = .ok family :=
    nonBlank_eq_ok.mpr ⟨rfl, hfamily⟩
  cases marker with
  | none =>
      have hitem : localObject (recognitionAsMapping ⟨family, none⟩) "recognition"
          ["family", "marker_id"] = .ok [("family", .str family)] := rfl
      simp only [recognitionOf, hitem, bind, Except.bind]
      rw [show Fields.get? [("family", Json.str family)] "family" = some (.str family) from rfl,
        hname]
      rfl
  | some marker =>
      have hitem : localObject (recognitionAsMapping ⟨family, some marker⟩) "recognition"
          ["family", "marker_id"] = .ok [("family", .str family), ("marker_id", marker)] := rfl
      simp only [recognitionOf, hitem, bind, Except.bind]
      rw [show Fields.get? [("family", Json.str family), ("marker_id", marker)] "family" =
        some (.str family) from rfl, hname]
      rw [show Fields.getD [("family", Json.str family), ("marker_id", marker)] "marker_id" =
        marker from rfl]
      rcases hmarker marker rfl with ⟨text, rfl⟩ | ⟨n, rfl, hn⟩
      · rfl
      · simp [raiseIf, not_lt.mpr hn]

theorem wellFormed_of_surveyOf {value : Json} {s : AnchorSurvey}
    (h : surveyOf value = .ok s) : s.WellFormed := by
  simp only [surveyOf, bind_eq_ok, nonBlank_eq_ok] at h
  obtain ⟨item, -, method, ⟨-, hmethod⟩, h⟩ := h
  split at h
  case h_1 =>
    obtain rfl := Except.ok.inj h
    exact ⟨hmethod, fun _ hu => (by cases hu)⟩
  case h_2 length _ =>
    simp only [bind_eq_ok, unitErrorAsContract_eq_ok, raiseIf_eq_ok, Bool.or_eq_false_iff,
      pure_eq_ok] at h
    obtain ⟨u, hu, -, ⟨-, hnegative⟩, rfl⟩ := h
    refine ⟨hmethod, fun x hx => ?_⟩
    obtain rfl := Option.some.inj hx
    exact ⟨isFinite_asMeters hu, hnegative⟩

/-- A survey is read back from its mapping. -/
theorem surveyOf_self {s : AnchorSurvey} (h : s.WellFormed) :
    surveyOf (surveyAsMapping s) = .ok s := by
  obtain ⟨method, uncertainty⟩ := s
  obtain ⟨hmethod, huncertainty⟩ := h
  have hname : nonBlank (some (.str method))
      (.spatialContract "survey.method must be a non-empty string") = .ok method :=
    nonBlank_eq_ok.mpr ⟨rfl, hmethod⟩
  cases uncertainty with
  | none =>
      have hitem : localObject (surveyAsMapping ⟨method, none⟩) "survey"
          ["method", "uncertainty_m"] = .ok [("method", .str method)] := rfl
      simp only [surveyOf, hitem, bind, Except.bind]
      rw [show Fields.get? [("method", Json.str method)] "method" = some (.str method) from rfl,
        hname]
      rfl
  | some u =>
      obtain ⟨hfinite, hnegative⟩ := huncertainty u rfl
      have hitem : localObject (surveyAsMapping ⟨method, some u⟩) "survey"
          ["method", "uncertainty_m"] = .ok [("method", .str method), ("uncertainty_m", .float u)] :=
        rfl
      simp only [surveyOf, hitem, bind, Except.bind]
      rw [show Fields.get? [("method", Json.str method), ("uncertainty_m", .float u)] "method" =
        some (.str method) from rfl, hname]
      rw [show Fields.get? [("method", Json.str method), ("uncertainty_m", .float u)]
        "uncertainty_m" = some (.float u) from rfl]
      simp [asMeters_float hfinite, unitErrorAsContract, raiseIf, hfinite, hnegative]

/-! ### Local ids -/

theorem isSpace_of_isAlpha {c : Char} (h : c.isAlpha = true) : isSpace c = false := by
  simp only [Char.isAlpha, Char.isUpper, Char.isLower, Bool.or_eq_true, Bool.and_eq_true,
    decide_eq_true_eq, UInt32.le_iff_toNat_le] at h
  have hrange : (65 ≤ c.toNat ∧ c.toNat ≤ 90) ∨ (97 ≤ c.toNat ∧ c.toNat ≤ 122) := h.imp
    (fun h => ⟨h.1, h.2⟩) (fun h => ⟨h.1, h.2⟩)
  simp only [isSpace, Bool.or_eq_false_iff, Bool.and_eq_false_iff, decide_eq_false_iff_not,
    beq_eq_false_iff_ne]
  omega

/-- A local token is read as itself. -/
theorem parseLocalAnchorId_self {id space : String} (h : isLocalAnchorId id = true) :
    parseLocalAnchorId (some (.str id)) space = .ok id := by
  have hid := h
  unfold isLocalAnchorId at h
  split at h
  case h_1 => cases h
  case h_2 c cs htext =>
    obtain ⟨halpha, hrest⟩ := Bool.and_eq_true_iff.mp h
    have hchar : ∀ d ∈ id.toList, isKeyChar d = true := by
      rw [htext]
      intro d hd
      rcases List.mem_cons.mp hd with rfl | hd
      · simp [isKeyChar, Char.isAlphanum, halpha]
      · exact List.all_eq_true.mp hrest d hd
    have hfilled : isBlank id = false := by
      rw [isBlank, htext, List.all_cons, isSpace_of_isAlpha halpha, Bool.false_and]
    have hhash : id.toList.contains '#' = false := by
      rw [List.contains_eq_mem, decide_eq_false_iff_not]
      exact fun hmem => absurd (hchar _ hmem) (by decide)
    have hcolon : id.toList.contains ':' = false := by
      rw [List.contains_eq_mem, decide_eq_false_iff_not]
      exact fun hmem => absurd (hchar _ hmem) (by decide)
    have htext : nonBlank (some (.str id)) (.spatialContract "anchor id must be a string") =
        .ok id := nonBlank_eq_ok.mpr ⟨rfl, hfilled⟩
    simp only [parseLocalAnchorId, htext, bind, Except.bind, hhash, hcolon, hid, if_true,
      Bool.false_eq_true, if_false]
    rfl

/-- What is read is a local token. -/
theorem isLocalAnchorId_of_parse {value : Option Json} {space id : String}
    (h : parseLocalAnchorId value space = .ok id) : isLocalAnchorId id = true := by
  simp only [parseLocalAnchorId, bind_eq_ok] at h
  obtain ⟨text, -, h⟩ := h
  split at h
  case isTrue =>
    simp only [bind_eq_ok] at h
    obtain ⟨_, -, h⟩ := h
    split at h
    case isTrue hlocal =>
      obtain rfl := Except.ok.inj h
      exact hlocal
    case isFalse => cases h
  case isFalse =>
    split at h
    case isTrue =>
      split at h
      case h_1 => cases h
      case h_2 =>
        simp only [bind_eq_ok] at h
        obtain ⟨_, -, h⟩ := h
        split at h
        case isTrue hlocal =>
          obtain rfl := Except.ok.inj h
          exact hlocal
        case isFalse => cases h
    case isFalse =>
      split at h
      case isTrue hlocal =>
        obtain rfl := Except.ok.inj h
        exact hlocal
      case isFalse => cases h

/-! ### The parser in stages -/

/-- The object of an anchor, with known fields only. -/
def anchorObject (value : Json) : Except PyError Fields :=
  match value.asObject? with
  | none => .error (.spatialContract "surveyed anchor must be an object")
  | some fields =>
      if (fields.extra ANCHOR_FIELDS).isEmpty then .ok fields
      else .error (.spatialContract ("Unknown surveyed anchor fields: " ++
        ", ".intercalate (fields.extra ANCHOR_FIELDS)))

/-- `type` and `kind` are two names of one field. -/
def requireOneKind (fields : Fields) : Except PyError Unit :=
  match fields.get? "type", fields.get? "kind" with
  | some type, some kind =>
      raiseIf (type ≠ kind) (.spatialContract "surveyed anchor type and kind must match")
  | _, _ => .ok ()

/-- The kind of an anchor. -/
def anchorKind (value : Json) : Except PyError String :=
  let error := PyError.spatialContract
    ("surveyed anchor type must be fiducial, " ++ "natural_landmark, dock, or survey_point")
  match value with
  | .str kind => if ANCHOR_KINDS.contains kind then .ok kind else .error error
  | _ => .error error

/-- The space given for an anchor, or else the one it names. -/
def givenSpace (fields : Fields) (space : Json) : Option Json :=
  match space with
  | .str id => if id = "" then fields.get? "space" else some (.str id)
  | _ => fields.get? "space"

/-- The parts of an anchor in a space. -/
def anchorIn (fields : Fields) (kind : String) (space : Option Json) :
    Except PyError SurveyedAnchor :=
  match space with
  | some (.str spaceId) =>
      match splitRecordId spaceId with
      | .error _ => throw (.spatialContract "space must be a space: record ID")
      | .ok (table, _) => do
        raiseIf (table ≠ "space") (.spatialContract "space must be a space: record ID")
        let id ← parseLocalAnchorId (fields.get? "id") spaceId
        let position ← measuredPosition (fields.getD "position")
        let orientation ← (fields.get? "orientation").mapM measuredOrientation
        let recognition ← (fields.get? "recognition").mapM recognitionOf
        let survey ← (fields.get? "survey").mapM surveyOf
        return ⟨id, spaceId, position, kind, orientation, recognition, survey⟩
  | _ => throw (.spatialContract "surveyed anchor requires a space")

/-- What is read once the kind is known. -/
def anchorOf (fields : Fields) (space : Json) (kind : String) : Except PyError SurveyedAnchor := do
  raiseIf (!fields.has "position") (.spatialContract "surveyed anchor requires position")
  anchorIn fields kind (givenSpace fields space)

/-- The kind under either of its names, a survey point by default. -/
def kindField (fields : Fields) : Json :=
  ((fields.get? "kind").orElse fun _ => fields.get? "type").getD (.str "survey_point")

/-- What is read once the kind is found. -/
def anchorOfKind (fields : Fields) (space value : Json) : Except PyError SurveyedAnchor := do
  let kind ← match value with
    | .str kind =>
        if ANCHOR_KINDS.contains kind then pure kind
        else throw (.spatialContract ("surveyed anchor type must be fiducial, " ++
          "natural_landmark, dock, or survey_point"))
    | _ => throw (.spatialContract ("surveyed anchor type must be fiducial, " ++
          "natural_landmark, dock, or survey_point"))
  raiseIf (!fields.has "position") (.spatialContract "surveyed anchor requires position")
  let spaceId ← match space with
    | .str id => if id = "" then pure (fields.get? "space") else pure (some (.str id))
    | _ => pure (fields.get? "space")
  anchorIn fields kind spaceId

theorem anchorOfKind_eq (fields : Fields) (space value : Json) :
    anchorOfKind fields space value = anchorKind value >>= anchorOf fields space := by
  unfold anchorOfKind anchorKind anchorOf givenSpace
  cases value with
  | str kind =>
      by_cases hmem : ANCHOR_KINDS.contains kind = true
      · simp only [hmem, if_true]
        cases space with
        | str id => by_cases hid : id = "" <;> simp only [hid, if_true, if_false] <;> rfl
        | _ => rfl
      · simp only [hmem]
        rfl
  | _ => rfl

/-- **The parser, stage by stage.** -/
theorem parseSurveyedAnchor_stages (value space : Json) :
    parseSurveyedAnchor value space = (do
      let fields ← anchorObject value
      requireOneKind fields
      let kind ← anchorKind (kindField fields)
      anchorOf fields space kind) := by
  simp only [← anchorOfKind_eq]
  unfold parseSurveyedAnchor anchorObject
  cases value.asObject? with
  | none => rfl
  | some fields =>
    cases hextra : (fields.extra ANCHOR_FIELDS).isEmpty with
    | false => simp only [hextra]; rfl
    | true =>
      have hok : ∀ {β : Type} (f : Fields → Except PyError β), ((if true = true then
          Except.ok fields else .error (.spatialContract ("Unknown surveyed anchor fields: " ++
            ", ".intercalate (fields.extra ANCHOR_FIELDS)))) >>= f) = f fields := fun _ => rfl
      simp only [hextra, Bool.not_true]
      refine Eq.trans ?_ (hok _).symm
      unfold requireOneKind kindField
      cases fields.get? "type" with
      | none => cases fields.get? "kind" <;> rfl
      | some type => cases fields.get? "kind" <;> rfl

/-! ### Anchors -/

/-- What every parsed anchor satisfies. -/
structure SurveyedAnchor.WellFormed (anchor : SurveyedAnchor) : Prop where
  id : isLocalAnchorId anchor.id = true
  space : isTypedId "space" anchor.space = true
  kind : anchor.kind ∈ ANCHOR_KINDS
  position : anchor.position.IsFinite
  orientation : ∀ o ∈ anchor.orientation, o.IsFinite
  recognition : ∀ r ∈ anchor.recognition, r.WellFormed
  survey : ∀ s ∈ anchor.survey, s.WellFormed

/-- A part that may be absent has what its parser ensures. -/
theorem forall_of_mapM {α : Type} {value : Option Json} {parse : Json → Except PyError α}
    {part : Option α} {P : α → Prop} (h : value.mapM parse = .ok part)
    (hparse : ∀ v a, parse v = .ok a → P a) : ∀ a ∈ part, P a := by
  cases value with
  | none =>
      obtain rfl := Except.ok.inj h
      exact fun _ ha => (by cases ha)
  | some v =>
      rw [Option.mapM_some] at h
      cases ha : parse v with
      | error => rw [ha] at h; cases h
      | ok a =>
          rw [ha] at h
          obtain rfl := Except.ok.inj h
          exact fun b hb => Option.some.inj hb ▸ hparse v a ha

theorem mapM_map_self {α : Type} {part : Option α} {parse : Json → Except PyError α}
    {mapping : α → Json} (h : ∀ a ∈ part, parse (mapping a) = .ok a) :
    (part.map mapping).mapM parse = .ok part := by
  cases part with
  | none => rfl
  | some a => rw [Option.map_some, Option.mapM_some, h a rfl]; rfl

theorem splitRecordId_of_isTypedId {table text : String} (h : isTypedId table text = true) :
    ∃ key, splitRecordId text = .ok (table, key) := by
  unfold isTypedId at h
  split at h
  case h_1 parts hparts =>
    obtain ⟨table', key⟩ := parts
    obtain rfl := beq_iff_eq.mp h
    exact ⟨key, hparts⟩
  case h_2 => cases h

theorem anchorObject_eq_ok {value : Json} {fields : Fields} (h : anchorObject value = .ok fields) :
    value = .obj fields ∧ fields.extra ANCHOR_FIELDS = [] := by
  unfold anchorObject at h
  split at h
  case h_1 => cases h
  case h_2 fields' hfields =>
    split at h
    case isTrue hextra =>
      obtain rfl := Except.ok.inj h
      exact ⟨Json.asObject?_eq_some.mp hfields, List.isEmpty_iff.mp hextra⟩
    case isFalse => cases h

theorem anchorKind_eq_ok {value : Json} {kind : String} (h : anchorKind value = .ok kind) :
    value = .str kind ∧ kind ∈ ANCHOR_KINDS := by
  unfold anchorKind at h
  split at h
  case h_1 name =>
    split at h
    case isTrue hmem =>
      obtain rfl := Except.ok.inj h
      exact ⟨rfl, by simpa using hmem⟩
    case isFalse => cases h
  case h_2 => cases h

/-- **What the parser returns is well formed**, and its space is the one given. -/
theorem wellFormed_of_parse {value space : Json} {anchor : SurveyedAnchor}
    (h : parseSurveyedAnchor value space = .ok anchor) :
    anchor.WellFormed ∧ ∀ id ≠ "", space = .str id → anchor.space = id := by
  rw [parseSurveyedAnchor_stages] at h
  simp only [bind_eq_ok, anchorOf] at h
  obtain ⟨fields, -, _, -, kind, hkind, _, -, h⟩ := h
  unfold anchorIn at h
  split at h
  case h_2 => cases h
  case h_1 spaceId hgiven =>
    split at h
    case h_1 => cases h
    case h_2 table key hsplit =>
      simp only [bind_eq_ok, raiseIf_eq_ok, pure_eq_ok, decide_eq_false_iff_not, not_not] at h
      obtain ⟨_, rfl, id, hid, position, hposition, orientation, horientation, recognition,
        hrecognition, survey, hsurvey, rfl⟩ := h
      refine ⟨⟨isLocalAnchorId_of_parse hid, by simp [isTypedId, hsplit], (anchorKind_eq_ok hkind).2,
        isFinite_measuredPosition hposition,
        forall_of_mapM horientation fun _ _ => isFinite_measuredOrientation,
        forall_of_mapM hrecognition fun _ _ => wellFormed_of_recognitionOf,
        forall_of_mapM hsurvey fun _ _ => wellFormed_of_surveyOf⟩, ?_⟩
      rintro id hfilled rfl
      rw [givenSpace, if_neg hfilled] at hgiven
      exact (Json.str.inj (Option.some.inj hgiven)).symm

/-- The two ways the space of an anchor is given. -/
def Owned (anchor : SurveyedAnchor) (item : Fields) (space : Json) : Prop :=
  space = .str anchor.space ∨ space = .null ∧ item.get? "space" = some (.str anchor.space)

/-- **A well-formed anchor is parsed back** from any fields that hold its parts. -/
theorem parseSurveyedAnchor_eq {anchor : SurveyedAnchor} {item : Fields} {space : Json}
    (hwell : anchor.WellFormed) (hextra : item.extra ANCHOR_FIELDS = [])
    (hid : item.get? "id" = some (.str anchor.id))
    (htype : item.get? "type" = some (.str anchor.kind)) (hkind : item.get? "kind" = none)
    (hposition : item.get? "position" = some (positionAsMapping anchor.position))
    (horientation : item.get? "orientation" = anchor.orientation.map orientationAsMapping)
    (hrecognition : item.get? "recognition" = anchor.recognition.map recognitionAsMapping)
    (hsurvey : item.get? "survey" = anchor.survey.map surveyAsMapping)
    (hspace : Owned anchor item space) : parseSurveyedAnchor (.obj item) space = .ok anchor := by
  obtain ⟨key, hsplit⟩ := splitRecordId_of_isTypedId hwell.space
  have hfilled : anchor.space ≠ "" := by
    intro hempty
    have htyped := hwell.space
    rw [hempty] at htyped
    exact absurd htyped (by decide)
  have hkinds : ANCHOR_KINDS.contains anchor.kind = true := by simpa using hwell.kind
  have hhas : item.has "position" = true := by rw [Fields.has, hposition]; rfl
  have hgetD : item.getD "position" = positionAsMapping anchor.position := by
    rw [Fields.getD, hposition, Option.getD_some]
  have hobject : anchorObject (.obj item) = .ok item := by
    simp [anchorObject, Json.asObject?, hextra]
  have hone : requireOneKind item = .ok () := by simp [requireOneKind, hkind]
  have hkind' : anchorKind (kindField item) = .ok anchor.kind := by
    simp only [kindField, hkind, htype, Option.orElse_none, Option.getD_some, anchorKind, hkinds,
      if_true]
  have hgiven : givenSpace item space = some (.str anchor.space) := by
    rcases hspace with rfl | ⟨rfl, hspace⟩
    · rw [givenSpace, if_neg hfilled]
    · exact hspace
  have hin : anchorIn item anchor.kind (some (.str anchor.space)) = .ok anchor := by
    have hposition' : measuredPosition (positionAsMapping anchor.position) = .ok anchor.position :=
      measuredPosition_self hwell.position
    have horientation' := mapM_map_self fun o ho =>
      measuredOrientation_self (hwell.orientation o ho)
    have hrecognition' := mapM_map_self fun r hr => recognitionOf_self (hwell.recognition r hr)
    have hsurvey' := mapM_map_self fun s hs => surveyOf_self (hwell.survey s hs)
    have horientation'' : (item.get? "orientation").mapM measuredOrientation =
        .ok anchor.orientation := horientation ▸ horientation'
    simp only [anchorIn, hsplit, raiseIf, ne_eq, not_true, decide_false, Bool.false_eq_true,
      if_false, hid, parseLocalAnchorId_self hwell.id, hgetD, hposition', horientation'',
      hrecognition, hrecognition', hsurvey, hsurvey', bind, Except.bind]
    rfl
  rw [parseSurveyedAnchor_stages, hobject]
  change (do
    requireOneKind item
    let kind ← anchorKind (kindField item)
    anchorOf item space kind) = _
  rw [hone, hkind']
  change anchorOf item space anchor.kind = _
  rw [anchorOf, hhas, hgiven]
  exact hin

/-- **An anchor is parsed back from its mapping**, with or without its space given. -/
theorem parseSurveyedAnchor_mapping {anchor : SurveyedAnchor} (h : anchor.WellFormed) {space : Json}
    (hspace : space = .str anchor.space ∨ space = .null) :
    parseSurveyedAnchor (surveyedAnchorAsMapping anchor) space = .ok anchor := by
  obtain ⟨hid, htype, hkind, hposition, horientation, hrecognition, hsurvey, howner, hkeys⟩ :=
    surveyedAnchorFields_get? anchor
  refine parseSurveyedAnchor_eq h ?_ hid htype hkind hposition horientation hrecognition hsurvey
    (hspace.imp_right fun hnull => ⟨hnull, howner⟩)
  exact extra_eq_nil_of_keys hkeys

/-- **An embedded anchor is parsed back** in the space that owns it. -/
theorem parseSurveyedAnchor_embedded {anchor : SurveyedAnchor} (h : anchor.WellFormed) :
    parseSurveyedAnchor (embeddedAnchorAsMapping anchor) (.str anchor.space) = .ok anchor := by
  obtain ⟨hid, htype, hkind, hposition, horientation, hrecognition, hsurvey, -, hkeys⟩ :=
    surveyedAnchorFields_get? anchor
  rw [embeddedAnchorAsMapping_eq]
  have hget : ∀ key ≠ "space", ((surveyedAnchorFields anchor).without ["space"]).get? key =
      (surveyedAnchorFields anchor).get? key := by
    intro key hkey
    rw [Fields.get?_without, if_neg (by simpa using hkey)]
  refine parseSurveyedAnchor_eq h (extra_eq_nil_of_keys fun key hmem => hkeys ?_)
    ((hget _ (by decide)).trans hid) ((hget _ (by decide)).trans htype)
    ((hget _ (by decide)).trans hkind) ((hget _ (by decide)).trans hposition)
    ((hget _ (by decide)).trans horientation) ((hget _ (by decide)).trans hrecognition)
    ((hget _ (by decide)).trans hsurvey) (.inl rfl)
  obtain ⟨field, hfield, rfl⟩ := List.mem_map.mp hmem
  exact List.mem_map.mpr ⟨field, (List.mem_filter.mp hfield).1, rfl⟩

end Spatial
end HomeCortex
