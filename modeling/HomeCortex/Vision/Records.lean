/-
# Vision records

The other records of `vision/contracts.py`: producer profiles, tracks, candidates,
evidence clips and enrollments.  Each `parse_*` gives a structure that carries what was
checked, each `*_as_mapping` writes it, and each record is parsed back from its mapping.
-/

import HomeCortex.Vision.Canonical

namespace HomeCortex
namespace Vision

open Spatial Display

/-! ### Shared parts -/

section Choice

variable {α : Type} (name : α → String) (choices : List α)

/-- `_choice` among the names of an enumeration. -/
def choice (value : Json) (field : String) : Except PyError α :=
  let error := contractError (field ++ " must be one of " ++ ", ".intercalate (choices.map name))
  match value with
  | .str text =>
      match choices.find? fun entry => name entry = text with
      | some entry => .ok entry
      | none => .error error
  | _ => .error error

variable {name choices}

theorem choice_reread {entry : α} (hmem : entry ∈ choices) (hinj : Function.Injective name)
    (field : String) : choice name choices (reread (.str (name entry))) field = .ok entry := by
  obtain ⟨found, hfound⟩ : ∃ found, choices.find? (fun other => name other = name entry)
      = some found := by
    rw [← Option.isSome_iff_exists, List.find?_isSome]
    exact ⟨entry, hmem, by simp⟩
  have hsame : found = entry := hinj (by simpa using List.find?_some hfound)
  rw [reread_str, choice]
  simp only [hfound, hsame]

end Choice

/-- `_typed_ids` without `require_nonempty`. -/
def anyIds (value : Json) (field table : String) :
    Except PyError {ids : List (TypedId table) // ids.Nodup} := do
  let items ← sequence value field
  let parsed ← items.mapM fun item => typedId item field table
  if h : parsed.Nodup then return ⟨parsed, h⟩
  else throw (contractError (field ++ " must not contain duplicate record IDs"))

theorem anyIds_reread {table : String} (ids : {ids : List (TypedId table) // ids.Nodup})
    (field : String) : anyIds (reread (.arr (ids.1.map idDocument))) field table = .ok ids := by
  have hids := @mapM_reread _ idDocument (fun item => typedId item field table)
    (fun id => typedId_reread id field) ids.1
  rw [reread_arr, anyIds]
  simp only [sequence, bind, Except.bind, hids]
  exact dif_pos ids.2

/-- `_ordered_times`. -/
def orderedTimes (start finish : AwareText) (field : String) :
    Except PyError (PLift (precedes finish start = false)) :=
  if h : precedes finish start = false then .ok ⟨h⟩
  else .error (contractError (field ++ " must not precede its start time"))

theorem orderedTimes_ok {start finish : AwareText} (h : precedes finish start = false)
    (field : String) : orderedTimes start finish field = .ok ⟨h⟩ := dif_pos h

/-- A text that may be `None`, in a mapping. -/
def optionText {p : String → Prop} (value : Option {text : String // p text}) :
    JsonDoc PyNumber := optionAsMapping (fun text => .str text.1) value

/-- A text is read back, also where it may be `None`. -/
theorem optionText_reread {p : String → Prop} {parse : Json → Except PyError {text : String // p text}}
    (h : ∀ value, parse (reread (.str value.1)) = .ok value)
    (value : Option {text : String // p text}) :
    unlessNone (reread (optionText value)) parse = .ok value :=
  unlessNone_reread h (fun value => by rw [reread_str]; simp) value

/-! ### Producer profiles -/

/-- `ProducerProfile`: a detector and a recognizer have both a name and a version. -/
structure ProducerProfile where
  id : TypedId "vision_producer"
  pipeline_name : StrippedText
  pipeline_version : StrippedText
  detector_name : Option StrippedText
  detector_version : Option StrippedText
  recognizer_name : Option StrippedText
  recognizer_version : Option StrippedText
  detector_paired : detector_name.isSome = detector_version.isSome
  recognizer_paired : recognizer_name.isSome = recognizer_version.isSome
deriving DecidableEq

/-- `_optional_pair`. -/
def optionalPair (item : Fields) (name_field version_field : String) :
    Except PyError {pair : Option StrippedText × Option StrippedText //
      pair.1.isSome = pair.2.isSome} :=
  match item.getD name_field, item.getD version_field with
  | .null, .null => .ok ⟨(none, none), rfl⟩
  | .null, _ | _, .null =>
      .error (contractError (name_field ++ " and " ++ version_field ++ " must appear together"))
  | name, version => do
      let name ← text name name_field
      let version ← text version version_field
      return ⟨(some name, some version), rfl⟩

/-- `_PRODUCER_FIELDS`. -/
def PRODUCER_FIELDS : List String := [
  "detector_name", "detector_version", "id", "pipeline_name", "pipeline_version",
  "recognizer_name", "recognizer_version"]

/-- `parse_producer_profile`. -/
def parseProducerProfile (value : Json) : Except PyError ProducerProfile := do
  let item ← object value "producer profile" PRODUCER_FIELDS
  let detector ← optionalPair item "detector_name" "detector_version"
  let recognizer ← optionalPair item "recognizer_name" "recognizer_version"
  let id ← typedId (item.getD "id") "id" "vision_producer"
  let pipeline_name ← text (item.getD "pipeline_name") "pipeline_name"
  let pipeline_version ← text (item.getD "pipeline_version") "pipeline_version"
  return {
    id, pipeline_name, pipeline_version, detector_name := detector.1.1,
    detector_version := detector.1.2, recognizer_name := recognizer.1.1,
    recognizer_version := recognizer.1.2, detector_paired := detector.2,
    recognizer_paired := recognizer.2 }

/-- `producer_profile_as_mapping`. -/
def producerProfileAsMapping (value : ProducerProfile) : JsonDoc PyNumber := .obj [
  ("id", .str value.id), ("pipeline_name", .str value.pipeline_name),
  ("pipeline_version", .str value.pipeline_version),
  ("detector_name", optionText value.detector_name),
  ("detector_version", optionText value.detector_version),
  ("recognizer_name", optionText value.recognizer_name),
  ("recognizer_version", optionText value.recognizer_version)]

theorem optionalPair_reread {item : Fields} {name_field version_field : String}
    {name version : Option StrippedText} (hpaired : name.isSome = version.isSome)
    (hname : item.getD name_field = reread (optionText name))
    (hversion : item.getD version_field = reread (optionText version)) :
    optionalPair item name_field version_field = .ok ⟨(name, version), hpaired⟩ := by
  cases name with
  | none =>
      cases version with
      | none => rw [optionalPair, hname, hversion]; rfl
      | some version => cases hpaired
  | some name =>
      cases version with
      | none => cases hpaired
      | some version =>
          have hname' := text_reread name name_field
          have hversion' := text_reread version version_field
          rw [reread_str] at hname' hversion'
          rw [optionalPair, hname, hversion]
          simp only [optionText, optionAsMapping, reread_str, hname', hversion', bind, Except.bind]
          rfl

theorem parseProducerProfile_reread (value : ProducerProfile) :
    parseProducerProfile (reread (producerProfileAsMapping value)) = .ok value := by
  obtain ⟨item, hitem, hget⟩ := @object_fields [("id", .str value.id),
    ("pipeline_name", .str value.pipeline_name), ("pipeline_version", .str value.pipeline_version),
    ("detector_name", optionText value.detector_name),
    ("detector_version", optionText value.detector_version),
    ("recognizer_name", optionText value.recognizer_name),
    ("recognizer_version", optionText value.recognizer_version)] PRODUCER_FIELDS (by simp)
    (by simp [PRODUCER_FIELDS]) "producer profile"
  have hdetector := optionalPair_reread value.detector_paired (hget "detector_name" rfl)
    (hget "detector_version" rfl)
  have hrecognizer := optionalPair_reread value.recognizer_paired (hget "recognizer_name" rfl)
    (hget "recognizer_version" rfl)
  rw [parseProducerProfile, producerProfileAsMapping, hitem]
  simp only [bind, Except.bind, hdetector, hrecognizer, hget "id" rfl, hget "pipeline_name" rfl,
    hget "pipeline_version" rfl, typedId_reread, text_reread]
  rfl

/-! ### Tracks -/

/-- `VisualTrack`. -/
structure VisualTrack where
  session_id : TypedId "perception"
  track_key : StrippedText
  source : ObservationSource
  started_at : AwareText
  last_observed_at : AwareText
  observation_ids : {ids : List (TypedId "visual_observation") // ids.Nodup}
  clip_ids : {ids : List (TypedId "evidence_clip") // ids.Nodup}
  ordered : precedes last_observed_at started_at = false
deriving DecidableEq

/-- `_TRACK_FIELDS`. -/
def TRACK_FIELDS : List String := [
  "clip_ids", "last_observed_at", "observation_ids", "session_id", "source", "started_at",
  "track_key"]

/-- `parse_visual_track`. -/
def parseVisualTrack (value : Json) : Except PyError VisualTrack := do
  let item ← object value "visual track" TRACK_FIELDS
  let started ← timestamp (item.getD "started_at") "started_at"
  let last ← timestamp (item.getD "last_observed_at") "last_observed_at"
  let ordered ← orderedTimes started last "track last_observed_at"
  let session_id ← typedId (item.getD "session_id") "session_id" "perception"
  let track_key ← text (item.getD "track_key") "track_key"
  let source ← source (item.getD "source")
  let observation_ids ← anyIds ((item.get? "observation_ids").getD (.arr [])) "observation_ids"
    "visual_observation"
  let clip_ids ← anyIds ((item.get? "clip_ids").getD (.arr [])) "clip_ids" "evidence_clip"
  return {
    session_id, track_key, source, started_at := started, last_observed_at := last,
    observation_ids, clip_ids, ordered := ordered.down }

/-- `visual_track_as_mapping`, as a list of fields. -/
def trackFields (value : VisualTrack) : List (String × JsonDoc PyNumber) := [
  ("session_id", .str value.session_id), ("track_key", .str value.track_key),
  ("source", sourceAsMapping value.source), ("started_at", .str value.started_at),
  ("last_observed_at", .str value.last_observed_at),
  ("observation_ids", .arr (value.observation_ids.1.map idDocument)),
  ("clip_ids", .arr (value.clip_ids.1.map idDocument))]

/-- `visual_track_as_mapping`. -/
def visualTrackAsMapping (value : VisualTrack) : JsonDoc PyNumber := .obj (trackFields value)

/-- A record that was written is read back, field by field and as a whole. -/
theorem record_reread {fields : List (String × JsonDoc PyNumber)} {allowed : List String}
    (hnodup : (fields.map Prod.fst).Nodup) (hallowed : fields.map Prod.fst ⊆ allowed)
    (field : String) :
    ∃ record, object (reread (.obj fields)) field allowed = .ok record ∧
      (∀ key {document}, fields.lookup key = some document →
        record.get? key = some (reread document)) ∧
      ∀ key {document}, fields.lookup key = some document → record.getD key = reread document := by
  obtain ⟨record, hrecord, hget⟩ := object_reread hnodup hallowed field
  have hpresent : ∀ key {document}, fields.lookup key = some document →
      record.get? key = some (reread document) := by
    intro key document hlookup
    rw [hget, hlookup]
    rfl
  refine ⟨record, hrecord, hpresent, fun key document hlookup => ?_⟩
  rw [Fields.getD, hpresent key hlookup]
  rfl

theorem parseVisualTrack_reread (value : VisualTrack) :
    parseVisualTrack (reread (visualTrackAsMapping value)) = .ok value := by
  obtain ⟨item, hitem, hpresent, hget⟩ := @record_reread (trackFields value) TRACK_FIELDS
    (by simp [trackFields]) (by simp [trackFields, TRACK_FIELDS]) "visual track"
  rw [parseVisualTrack, visualTrackAsMapping, hitem]
  simp only [bind, Except.bind, hget "started_at" rfl, hget "last_observed_at" rfl,
    hget "session_id" rfl, hget "track_key" rfl, hget "source" rfl,
    hpresent "observation_ids" rfl, hpresent "clip_ids" rfl, Option.getD_some, timestamp_reread,
    orderedTimes_ok value.ordered, typedId_reread, text_reread, source_reread, anyIds_reread]
  rfl

/-! ### Candidates -/

/-- `CANDIDATE_STATES`. -/
inductive CandidateState where
  | active
  | ignored
  | merged
  | expired
deriving DecidableEq, Repr

namespace CandidateState

def name : CandidateState → String
  | active => "active"
  | ignored => "ignored"
  | merged => "merged"
  | expired => "expired"

def all : List CandidateState := [active, ignored, merged, expired]

theorem mem_all (state : CandidateState) : state ∈ all := by cases state <;> decide

theorem name_injective : Function.Injective name := by
  intro a b h
  cases a <;> cases b <;> first | rfl | exact absurd h (by decide)

end CandidateState

/-- `VisualCandidate`: exactly a merged candidate has another one it is merged into. -/
structure VisualCandidate where
  id : TypedId "visual_candidate"
  created_at : AwareText
  state : CandidateState
  seed_observation_ids : {ids : List (TypedId "visual_observation") // ids ≠ [] ∧ ids.Nodup}
  merged_into_candidate_id : Option (TypedId "visual_candidate")
  merged_iff : state = .merged ↔ merged_into_candidate_id ≠ none
  not_itself : merged_into_candidate_id ≠ some id
deriving DecidableEq

/-- `_CANDIDATE_FIELDS`. -/
def CANDIDATE_FIELDS : List String := [
  "created_at", "id", "merged_into_candidate_id", "seed_observation_ids", "state"]

/-- `parse_visual_candidate`. -/
def parseVisualCandidate (value : Json) : Except PyError VisualCandidate := do
  let item ← object value "visual candidate" CANDIDATE_FIELDS
  let state ← choice CandidateState.name CandidateState.all (item.getD "state") "candidate state"
  let seed_ids ← typedIds (item.getD "seed_observation_ids") "seed_observation_ids"
    "visual_observation"
  let merged_into ← unlessNone (item.getD "merged_into_candidate_id") fun value =>
    typedId value "merged_into_candidate_id" "visual_candidate"
  if merged_iff : state = .merged ↔ merged_into ≠ none then
    let candidate_id ← typedId (item.getD "id") "id" "visual_candidate"
    if not_itself : merged_into ≠ some candidate_id then
      let created_at ← timestamp (item.getD "created_at") "created_at"
      return {
        id := candidate_id, created_at, state, seed_observation_ids := seed_ids,
        merged_into_candidate_id := merged_into, merged_iff, not_itself }
    else throw (contractError "candidate cannot be merged into itself")
  else throw (contractError
    "merged candidate state requires merged_into_candidate_id, and other states forbid it")

/-- `visual_candidate_as_mapping`. -/
def visualCandidateAsMapping (value : VisualCandidate) : JsonDoc PyNumber := .obj [
  ("id", .str value.id), ("created_at", .str value.created_at), ("state", .str value.state.name),
  ("seed_observation_ids", .arr (value.seed_observation_ids.1.map idDocument)),
  ("merged_into_candidate_id", optionText value.merged_into_candidate_id)]

theorem parseVisualCandidate_reread (value : VisualCandidate) :
    parseVisualCandidate (reread (visualCandidateAsMapping value)) = .ok value := by
  obtain ⟨item, hitem, hget⟩ := @object_fields [("id", .str value.id),
    ("created_at", .str value.created_at), ("state", .str value.state.name),
    ("seed_observation_ids", .arr (value.seed_observation_ids.1.map idDocument)),
    ("merged_into_candidate_id", optionText value.merged_into_candidate_id)] CANDIDATE_FIELDS
    (by simp) (by simp [CANDIDATE_FIELDS]) "visual candidate"
  have hstate : choice CandidateState.name CandidateState.all (reread (.str value.state.name))
      "candidate state" = .ok value.state :=
    choice_reread value.state.mem_all CandidateState.name_injective _
  have hmerged : unlessNone (reread (optionText value.merged_into_candidate_id)) (fun value =>
      typedId value "merged_into_candidate_id" "visual_candidate")
        = .ok value.merged_into_candidate_id :=
    optionText_reread (fun id => typedId_reread id _) _
  rw [parseVisualCandidate, visualCandidateAsMapping, hitem]
  simp only [bind, Except.bind, hget "state" rfl, hget "seed_observation_ids" rfl,
    hget "merged_into_candidate_id" rfl, hget "id" rfl, hget "created_at" rfl, hstate,
    typedIds_reread, hmerged, typedId_reread, timestamp_reread]
  rw [dif_pos value.merged_iff]
  exact dif_pos value.not_itself

/-! ### Evidence clips -/

/-- `CLIP_STATES`. -/
inductive ClipState where
  | pending
  | available
  | failed
deriving DecidableEq, Repr

namespace ClipState

def name : ClipState → String
  | pending => "pending"
  | available => "available"
  | failed => "failed"

def all : List ClipState := [pending, available, failed]

theorem mem_all (state : ClipState) : state ∈ all := by cases state <;> decide

theorem name_injective : Function.Injective name := by
  intro a b h
  cases a <;> cases b <;> first | rfl | exact absurd h (by decide)

end ClipState

/-- What the state of a clip requires and forbids; the first complaint, if any. -/
def clipRefusal (state : ClipState) (artifact : Option ArtifactReference)
    (failure_code : Option StrippedText) (resolved_at : Option AwareText) : Option String :=
  match state with
  | .available =>
      if artifact.map ArtifactReference.kind ≠ some .video_clip then
        some "available clip requires a video_clip artifact"
      else if failure_code ≠ none then some "available clip cannot include failure_code"
      else if resolved_at = none then some "available clip requires resolved_at"
      else none
  | .failed =>
      if failure_code = none then some "failed clip requires failure_code"
      else if artifact ≠ none then some "failed clip cannot include an artifact"
      else if resolved_at = none then some "failed clip requires resolved_at"
      else none
  | .pending =>
      if artifact ≠ none ∨ failure_code ≠ none ∨ resolved_at ≠ none then
        some "pending clip cannot include artifact, failure_code, or resolved_at"
      else none

/-- `EvidenceClip`: its fields fit its state, its window is in order, and it is not
resolved before it was requested. -/
structure EvidenceClip where
  id : TypedId "evidence_clip"
  state : ClipState
  requested_at : AwareText
  start_time : AwareText
  end_time : AwareText
  source : ObservationSource
  observation_ids : {ids : List (TypedId "visual_observation") // ids ≠ [] ∧ ids.Nodup}
  artifact : Option ArtifactReference
  failure_code : Option StrippedText
  resolved_at : Option AwareText
  fits : clipRefusal state artifact failure_code resolved_at = none
  window : precedes end_time start_time = false
  resolved : ∀ time ∈ resolved_at, precedes time requested_at = false
deriving DecidableEq

/-- `_CLIP_FIELDS`. -/
def CLIP_FIELDS : List String := [
  "artifact", "end_time", "failure_code", "id", "observation_ids", "requested_at", "resolved_at",
  "source", "start_time", "state"]

/-- `_ordered_times` when the clip is resolved. -/
def resolvedTimes (requested_at : AwareText) (resolved_at : Option AwareText) :
    Except PyError (PLift (∀ time ∈ resolved_at, precedes time requested_at = false)) :=
  if h : ∀ time ∈ resolved_at, precedes time requested_at = false then .ok ⟨h⟩
  else .error (contractError "clip resolved_at must not precede its start time")

/-- `parse_evidence_clip`. -/
def parseEvidenceClip (value : Json) : Except PyError EvidenceClip := do
  let item ← object value "evidence clip" CLIP_FIELDS
  let state ← choice ClipState.name ClipState.all (item.getD "state") "clip state"
  let artifact ← unlessNone (item.getD "artifact") artifact
  let failure_code ← unlessNone (item.getD "failure_code") fun value => text value "failure_code"
  let resolved_at ← unlessNone (item.getD "resolved_at") fun value =>
    timestamp value "resolved_at"
  match fits : clipRefusal state artifact failure_code resolved_at with
  | some complaint => throw (contractError complaint)
  | none =>
      let start ← timestamp (item.getD "start_time") "start_time"
      let finish ← timestamp (item.getD "end_time") "end_time"
      let window ← orderedTimes start finish "clip end_time"
      let requested_at ← timestamp (item.getD "requested_at") "requested_at"
      let resolved ← resolvedTimes requested_at resolved_at
      let id ← typedId (item.getD "id") "id" "evidence_clip"
      let source ← source (item.getD "source")
      let observation_ids ← typedIds (item.getD "observation_ids") "observation_ids"
        "visual_observation"
      return {
        id, state, requested_at, start_time := start, end_time := finish, source,
        observation_ids, artifact, failure_code, resolved_at, fits, window := window.down,
        resolved := resolved.down }

/-- `evidence_clip_as_mapping`, as a list of fields. -/
def clipFields (value : EvidenceClip) : List (String × JsonDoc PyNumber) := [
  ("id", .str value.id), ("state", .str value.state.name),
  ("requested_at", .str value.requested_at), ("start_time", .str value.start_time),
  ("end_time", .str value.end_time), ("source", sourceAsMapping value.source),
  ("observation_ids", .arr (value.observation_ids.1.map idDocument)),
  ("artifact", optionAsMapping artifactAsMapping value.artifact),
  ("failure_code", optionText value.failure_code), ("resolved_at", optionText value.resolved_at)]

/-- `evidence_clip_as_mapping`. -/
def evidenceClipAsMapping (value : EvidenceClip) : JsonDoc PyNumber := .obj (clipFields value)

theorem parseEvidenceClip_reread (value : EvidenceClip) :
    parseEvidenceClip (reread (evidenceClipAsMapping value)) = .ok value := by
  obtain ⟨item, hitem, hget⟩ := @object_fields (clipFields value) CLIP_FIELDS
    (by simp [clipFields]) (by simp [clipFields, CLIP_FIELDS]) "evidence clip"
  have hstate : choice ClipState.name ClipState.all (reread (.str value.state.name))
      "clip state" = .ok value.state :=
    choice_reread value.state.mem_all ClipState.name_injective _
  have hartifact := unlessNone_reread artifact_reread (fun _ => reread_obj_ne_null _)
    value.artifact
  have hcode : unlessNone (reread (optionText value.failure_code)) (fun value =>
      text value "failure_code") = .ok value.failure_code :=
    optionText_reread (fun code => text_reread code _) _
  have htime : unlessNone (reread (optionText value.resolved_at)) (fun value =>
      timestamp value "resolved_at") = .ok value.resolved_at :=
    optionText_reread (fun time => timestamp_reread time _) _
  have hresolved : resolvedTimes value.requested_at value.resolved_at = .ok ⟨value.resolved⟩ :=
    dif_pos value.resolved
  rw [parseEvidenceClip, evidenceClipAsMapping, hitem]
  simp only [bind, Except.bind, hget "state" rfl, hget "artifact" rfl, hget "failure_code" rfl,
    hget "resolved_at" rfl, hget "start_time" rfl, hget "end_time" rfl, hget "requested_at" rfl,
    hget "id" rfl, hget "source" rfl, hget "observation_ids" rfl, hstate, hartifact, hcode, htime]
  split
  case h_1 complaint hcomplaint => cases hcomplaint.symm.trans value.fits
  case h_2 hfits =>
    simp only [timestamp_reread, orderedTimes_ok value.window, hresolved, typedId_reread,
      source_reread, typedIds_reread]
    rfl

/-! ### Enrollments -/

/-- `ENROLLMENT_STATES`. -/
inductive EnrollmentState where
  | active
  | revoked
deriving DecidableEq, Repr

namespace EnrollmentState

def name : EnrollmentState → String
  | active => "active"
  | revoked => "revoked"

def all : List EnrollmentState := [active, revoked]

theorem mem_all (state : EnrollmentState) : state ∈ all := by cases state <;> decide

theorem name_injective : Function.Injective name := by
  intro a b h
  cases a <;> cases b <;> first | rfl | exact absurd h (by decide)

end EnrollmentState

/-- What the state of an enrollment requires and forbids. -/
def enrollmentRefusal (state : EnrollmentState) (revoked_at : Option AwareText)
    (revoked_by : Option (TypedId "person")) : Option String :=
  match state with
  | .revoked =>
      if revoked_at = none ∨ revoked_by = none then
        some "revoked enrollment requires revoked_at and revoked_by"
      else none
  | .active =>
      if revoked_at ≠ none ∨ revoked_by ≠ none then
        some "active enrollment cannot include revocation fields"
      else none

/-- `VisualEnrollment`. -/
structure VisualEnrollment where
  id : TypedId "visual_enrollment"
  candidate_id : TypedId "visual_candidate"
  item_id : TypedId "item"
  confirmed_at : AwareText
  confirmed_by : TypedId "person"
  evidence_observation_ids : {ids : List (TypedId "visual_observation") // ids ≠ [] ∧ ids.Nodup}
  label_text : Option StrippedText
  state : EnrollmentState
  revoked_at : Option AwareText
  revoked_by : Option (TypedId "person")
  fits : enrollmentRefusal state revoked_at revoked_by = none
  resolved : ∀ time ∈ revoked_at, precedes time confirmed_at = false
deriving DecidableEq

/-- `_ENROLLMENT_FIELDS`. -/
def ENROLLMENT_FIELDS : List String := [
  "candidate_id", "confirmed_at", "confirmed_by", "evidence_observation_ids", "id", "item_id",
  "label_text", "revoked_at", "revoked_by", "state"]

/-- `parse_visual_enrollment`. -/
def parseVisualEnrollment (value : Json) : Except PyError VisualEnrollment := do
  let item ← object value "visual enrollment" ENROLLMENT_FIELDS
  let state ← choice EnrollmentState.name EnrollmentState.all
    ((item.get? "state").getD (.str "active")) "enrollment state"
  let revoked_at ← unlessNone (item.getD "revoked_at") fun value => timestamp value "revoked_at"
  let revoked_by ← unlessNone (item.getD "revoked_by") fun value =>
    typedId value "revoked_by" "person"
  match fits : enrollmentRefusal state revoked_at revoked_by with
  | some complaint => throw (contractError complaint)
  | none =>
      let confirmed_at ← timestamp (item.getD "confirmed_at") "confirmed_at"
      if resolved : ∀ time ∈ revoked_at, precedes time confirmed_at = false then
        let id ← typedId (item.getD "id") "id" "visual_enrollment"
        let candidate_id ← typedId (item.getD "candidate_id") "candidate_id" "visual_candidate"
        let item_id ← typedId (item.getD "item_id") "item_id" "item"
        let confirmed_by ← typedId (item.getD "confirmed_by") "confirmed_by" "person"
        let evidence_observation_ids ← typedIds (item.getD "evidence_observation_ids")
          "evidence_observation_ids" "visual_observation"
        let label_text ← unlessNone (item.getD "label_text") fun value => text value "label_text"
        return {
          id, candidate_id, item_id, confirmed_at, confirmed_by, evidence_observation_ids,
          label_text, state, revoked_at, revoked_by, fits, resolved }
      else throw (contractError "enrollment revoked_at must not precede its start time")

/-- `visual_enrollment_as_mapping`, as a list of fields. -/
def enrollmentFields (value : VisualEnrollment) : List (String × JsonDoc PyNumber) := [
  ("id", .str value.id), ("candidate_id", .str value.candidate_id),
  ("item_id", .str value.item_id), ("confirmed_at", .str value.confirmed_at),
  ("confirmed_by", .str value.confirmed_by),
  ("evidence_observation_ids", .arr (value.evidence_observation_ids.1.map idDocument)),
  ("label_text", optionText value.label_text), ("state", .str value.state.name),
  ("revoked_at", optionText value.revoked_at), ("revoked_by", optionText value.revoked_by)]

/-- `visual_enrollment_as_mapping`. -/
def visualEnrollmentAsMapping (value : VisualEnrollment) : JsonDoc PyNumber :=
  .obj (enrollmentFields value)

theorem parseVisualEnrollment_reread (value : VisualEnrollment) :
    parseVisualEnrollment (reread (visualEnrollmentAsMapping value)) = .ok value := by
  obtain ⟨item, hitem, hpresent, hget⟩ := @record_reread (enrollmentFields value)
    ENROLLMENT_FIELDS (by simp [enrollmentFields])
    (by simp [enrollmentFields, ENROLLMENT_FIELDS]) "visual enrollment"
  have hstate : choice EnrollmentState.name EnrollmentState.all (reread (.str value.state.name))
      "enrollment state" = .ok value.state :=
    choice_reread value.state.mem_all EnrollmentState.name_injective _
  have htime : unlessNone (reread (optionText value.revoked_at)) (fun value =>
      timestamp value "revoked_at") = .ok value.revoked_at :=
    optionText_reread (fun time => timestamp_reread time _) _
  have hperson : unlessNone (reread (optionText value.revoked_by)) (fun value =>
      typedId value "revoked_by" "person") = .ok value.revoked_by :=
    optionText_reread (fun id => typedId_reread id _) _
  have hlabel : unlessNone (reread (optionText value.label_text)) (fun value =>
      text value "label_text") = .ok value.label_text :=
    optionText_reread (fun label => text_reread label _) _
  rw [parseVisualEnrollment, visualEnrollmentAsMapping, hitem]
  simp only [bind, Except.bind, hpresent "state" rfl, Option.getD_some, hget "revoked_at" rfl,
    hget "revoked_by" rfl, hget "confirmed_at" rfl, hget "id" rfl, hget "candidate_id" rfl,
    hget "item_id" rfl, hget "confirmed_by" rfl, hget "evidence_observation_ids" rfl,
    hget "label_text" rfl, hstate, htime, hperson]
  split
  case h_1 complaint hcomplaint => cases hcomplaint.symm.trans value.fits
  case h_2 hfits =>
    simp only [timestamp_reread]
    rw [dif_pos value.resolved]
    simp only [typedId_reread, typedIds_reread, hlabel]
    rfl

end Vision
end HomeCortex
