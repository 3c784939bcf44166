/-
# Evidence clips

`evaluate_evidence_clip_write` of `vision/ports.py`: the metadata of a clip moves forward
only.  A store replaces its clip exactly when a write is accepted.  Over any sequence of
writes the clip begins as pending, keeps its identity and its observations, is resolved at
most once, and is final after that.
-/

import HomeCortex.Vision.Ports
import HomeCortex.Vision.Records

namespace HomeCortex
namespace Vision

/-! ### Writes -/

/-- `_same_clip_identity`. -/
def sameClipIdentity (previous incoming : EvidenceClip) : Bool :=
  previous.requested_at == incoming.requested_at && previous.start_time == incoming.start_time &&
    previous.end_time == incoming.end_time && previous.source == incoming.source

/-- `evaluate_evidence_clip_write`. -/
def evaluateEvidenceClipWrite (previous : Option EvidenceClip) (incoming : EvidenceClip) :
    WriteDisposition :=
  match previous with
  | none => if incoming.state = .pending then .accepted else .conflict
  | some previous =>
      if incoming = previous then .duplicate
      else if previous.id ≠ incoming.id ∨ sameClipIdentity previous incoming = false then .conflict
      else if ¬previous.observation_ids.1 ⊆ incoming.observation_ids.1 then .conflict
      else if previous.state ≠ .pending then .conflict
      else .accepted

/-- The stored clip after a write: the incoming one exactly when it is accepted. -/
def writeClip (stored : Option EvidenceClip) (incoming : EvidenceClip) : Option EvidenceClip :=
  if evaluateEvidenceClipWrite stored incoming = .accepted then some incoming else stored

/-- The stored clip after a sequence of writes, absent at first. -/
def storedAfter (writes : List EvidenceClip) : Option EvidenceClip := writes.foldl writeClip none

/-! ### What a clip may become -/

namespace EvidenceClip

/-- What stays of a clip: its identity, its observations, and all of it once resolved. -/
structure Advances (clip next : EvidenceClip) : Prop where
  id : next.id = clip.id
  source : next.source = clip.source
  requested_at : next.requested_at = clip.requested_at
  start_time : next.start_time = clip.start_time
  end_time : next.end_time = clip.end_time
  observation_ids : clip.observation_ids.1 ⊆ next.observation_ids.1
  final : clip.state ≠ .pending → next = clip

theorem Advances.refl (clip : EvidenceClip) : clip.Advances clip :=
  ⟨rfl, rfl, rfl, rfl, rfl, List.Subset.refl _, fun _ => rfl⟩

theorem Advances.trans {clip next later : EvidenceClip} (h : clip.Advances next)
    (h' : next.Advances later) : clip.Advances later where
  id := h'.id.trans h.id
  source := h'.source.trans h.source
  requested_at := h'.requested_at.trans h.requested_at
  start_time := h'.start_time.trans h.start_time
  end_time := h'.end_time.trans h.end_time
  observation_ids := List.Subset.trans h.observation_ids h'.observation_ids
  final hresolved := by
    obtain rfl := h.final hresolved
    exact h'.final hresolved

/-- The state and the fields of a clip agree. -/
structure Consistent (clip : EvidenceClip) : Prop where
  available : clip.state = .available ↔
    ∃ artifact, clip.artifact = some artifact ∧ artifact.kind = .video_clip
  failed : clip.state = .failed ↔ clip.failure_code ≠ none
  pending : clip.state = .pending ↔ clip.resolved_at = none
  artifact : clip.artifact ≠ none → clip.state = .available
  resolved : ∀ time, clip.resolved_at = some time → precedes time clip.requested_at = false

/-- What a parsed clip's fields are in each state. -/
theorem fits_cases (clip : EvidenceClip) :
    (clip.state = .available ∧ clip.artifact.map ArtifactReference.kind = some .video_clip ∧
      clip.failure_code = none ∧ clip.resolved_at ≠ none) ∨
    (clip.state = .failed ∧ clip.failure_code ≠ none ∧ clip.artifact = none ∧
      clip.resolved_at ≠ none) ∨
    (clip.state = .pending ∧ clip.artifact = none ∧ clip.failure_code = none ∧
      clip.resolved_at = none) := by
  have hfits := clip.fits
  unfold clipRefusal at hfits
  cases hstate : clip.state with
  | available =>
      simp only [hstate, ite_not, ne_eq] at hfits
      split at hfits
      case isTrue hkind =>
        split at hfits
        case isTrue hcode =>
          split at hfits
          case isTrue => cases hfits
          case isFalse htime => exact .inl ⟨rfl, hkind, hcode, htime⟩
        case isFalse => cases hfits
      case isFalse => cases hfits
  | failed =>
      simp only [hstate, ite_not, ne_eq] at hfits
      split at hfits
      case isTrue => cases hfits
      case isFalse hcode =>
        split at hfits
        case isTrue hartifact =>
          split at hfits
          case isTrue => cases hfits
          case isFalse htime => exact .inr (.inl ⟨rfl, hcode, hartifact, htime⟩)
        case isFalse => cases hfits
  | pending =>
      simp only [hstate] at hfits
      split at hfits
      case isTrue => cases hfits
      case isFalse hnone =>
        simp only [ne_eq, not_or, not_not] at hnone
        exact .inr (.inr ⟨rfl, hnone⟩)

theorem consistent (clip : EvidenceClip) : clip.Consistent := by
  have hkind : clip.artifact.map ArtifactReference.kind = some .video_clip ↔
      ∃ artifact, clip.artifact = some artifact ∧ artifact.kind = .video_clip :=
    Option.map_eq_some_iff
  have hresolved : ∀ time, clip.resolved_at = some time →
      precedes time clip.requested_at = false := clip.resolved
  rcases clip.fits_cases with ⟨hstate, hartifact, hcode, htime⟩ |
    ⟨hstate, hcode, hartifact, htime⟩ | ⟨hstate, hartifact, hcode, htime⟩
  · refine ⟨iff_of_true hstate (hkind.1 hartifact), ?_, ?_, fun _ => hstate, hresolved⟩
    · exact iff_of_false (by rw [hstate]; decide) (fun h => h hcode)
    · exact iff_of_false (by rw [hstate]; decide) htime
  · refine ⟨iff_of_false (by rw [hstate]; decide) ?_, iff_of_true hstate hcode, ?_,
      fun h => absurd hartifact h, hresolved⟩
    · rw [← hkind, hartifact]
      decide
    · exact iff_of_false (by rw [hstate]; decide) htime
  · refine ⟨iff_of_false (by rw [hstate]; decide) ?_, ?_, iff_of_true hstate htime,
      fun h => absurd hartifact h, hresolved⟩
    · rw [← hkind, hartifact]
      decide
    · exact iff_of_false (by rw [hstate]; decide) (fun h => h hcode)

end EvidenceClip

/-! ### Steps and runs -/

/-- An accepted write advances a stored clip that is pending. -/
theorem advances_of_accepted {previous incoming : EvidenceClip}
    (h : evaluateEvidenceClipWrite (some previous) incoming = .accepted) :
    previous.Advances incoming := by
  simp only [evaluateEvidenceClipWrite] at h
  split at h
  case isTrue => cases h
  case isFalse hchanged =>
    split at h
    case isTrue => cases h
    case isFalse hsame =>
      split at h
      case isTrue => cases h
      case isFalse hids =>
        split at h
        case isTrue => cases h
        case isFalse hpending =>
          simp only [not_or, not_not, ne_eq, Bool.not_eq_false, sameClipIdentity,
            Bool.and_eq_true, beq_iff_eq] at hsame hids hpending
          obtain ⟨hid, ⟨⟨hrequested, hstart⟩, hend⟩, hsource⟩ := hsame
          exact ⟨hid.symm, hsource.symm, hrequested.symm, hstart.symm, hend.symm, hids,
            fun hresolved => absurd hpending hresolved⟩

/-- One write keeps or advances the stored clip. -/
theorem writeClip_advances (stored incoming : EvidenceClip) :
    ∃ next, writeClip (some stored) incoming = some next ∧ stored.Advances next := by
  unfold writeClip
  split
  case isTrue haccepted => exact ⟨incoming, rfl, advances_of_accepted haccepted⟩
  case isFalse => exact ⟨stored, rfl, .refl stored⟩

/-- The first clip stored is pending. -/
theorem writeClip_first {incoming clip : EvidenceClip} (h : writeClip none incoming = some clip) :
    clip.state = .pending := by
  by_cases hpending : incoming.state = .pending
  · have haccepted : evaluateEvidenceClipWrite none incoming = .accepted := if_pos hpending
    rw [writeClip, if_pos haccepted] at h
    obtain rfl := Option.some.inj h
    exact hpending
  · have hconflict : evaluateEvidenceClipWrite none incoming = .conflict := if_neg hpending
    rw [writeClip, if_neg (by rw [hconflict]; decide)] at h
    cases h

/-- Any number of writes keeps or advances the stored clip. -/
theorem writes_advance (stored : EvidenceClip) (writes : List EvidenceClip) :
    ∃ next, writes.foldl writeClip (some stored) = some next ∧ stored.Advances next := by
  induction writes generalizing stored with
  | nil => exact ⟨stored, rfl, .refl stored⟩
  | cons incoming writes ih =>
      obtain ⟨next, hnext, hadvances⟩ := writeClip_advances stored incoming
      obtain ⟨later, hlater, hadvances'⟩ := ih next
      exact ⟨later, by rw [List.foldl_cons, hnext, hlater], hadvances.trans hadvances'⟩

theorem storedAfter_advances {clip : EvidenceClip} {earlier : List EvidenceClip}
    (h : storedAfter earlier = some clip) (later : List EvidenceClip) :
    ∃ next, storedAfter (earlier ++ later) = some next ∧ clip.Advances next := by
  unfold storedAfter at h ⊢
  rw [List.foldl_append, h]
  exact writes_advance clip later

/-- **Evidence clips move forward only.**  After any writes, in any order and with any
repetitions: what is stored first is pending; a stored clip stays stored, keeps its
identity and its observations, and is final once it is not pending; so its state changes
at most once; a write equal to it is a duplicate; and its state and its fields agree. -/
theorem clips_move_forward (earlier : List EvidenceClip) :
    (∀ incoming clip, storedAfter earlier = none →
      storedAfter (earlier ++ [incoming]) = some clip → clip.state = .pending) ∧
    ∀ clip, storedAfter earlier = some clip →
      (∀ later, ∃ next, storedAfter (earlier ++ later) = some next ∧ clip.Advances next ∧
        ∀ latest, next.state ≠ clip.state →
          storedAfter (earlier ++ later ++ latest) = some next) ∧
      evaluateEvidenceClipWrite (some clip) clip = .duplicate ∧ clip.Consistent := by
  refine ⟨fun incoming clip hnone hfirst => ?_, fun clip hclip => ⟨fun later => ?_, ?_, ?_⟩⟩
  · unfold storedAfter at hnone hfirst
    rw [List.foldl_append, hnone] at hfirst
    exact writeClip_first hfirst
  · obtain ⟨next, hnext, hadvances⟩ := storedAfter_advances hclip later
    refine ⟨next, hnext, hadvances, fun latest hchanged => ?_⟩
    obtain ⟨last, hlast, hadvances'⟩ := storedAfter_advances hnext latest
    have hresolved : next.state ≠ .pending := by
      -- a clip that changed its state was pending
      intro hpending
      refine hchanged (congrArg EvidenceClip.state (hadvances.final fun hclip => ?_))
      exact hchanged (hpending.trans hclip.symm)
    rw [hlast, hadvances'.final hresolved]
  · exact if_pos rfl
  · exact clip.consistent

/-- A clip that was requested. -/
def hallClip : EvidenceClip where
  id := ⟨"evidence_clip:hall", by decide +kernel⟩
  state := .pending
  requested_at := ⟨"2026-08-03T08:00:05+02:00", by decide +kernel⟩
  start_time := ⟨"2026-08-03T08:00:00+02:00", by decide +kernel⟩
  end_time := ⟨"2026-08-03T08:00:04+02:00", by decide +kernel⟩
  source := ⟨⟨"device:hall", by decide +kernel⟩, ⟨"camera:hall", by decide +kernel⟩⟩
  observation_ids := ⟨[⟨"visual_observation:hall", by decide +kernel⟩], by decide +kernel⟩
  artifact := none
  failure_code := none
  resolved_at := none
  fits := by decide
  window := by decide +kernel
  resolved _ h := (by cases h)

/-- That clip, after its recording failed. -/
def hallFailure : EvidenceClip :=
  { hallClip with
    state := .failed
    failure_code := some ⟨"offline", by decide +kernel⟩
    resolved_at := some ⟨"2026-08-03T06:00:09+00:00", by decide +kernel⟩
    fits := by decide
    resolved := by
      intro time h
      obtain rfl := Option.some.inj h
      decide +kernel }

theorem clips_move_forward_hall : hallClip.state = .pending ∧
    ∃ next, storedAfter [hallClip, hallFailure] = some next ∧ hallClip.Advances next ∧
      (next.state ≠ hallClip.state → storedAfter [hallClip, hallFailure, hallClip] = some next) := by
  have hfirst : storedAfter [hallClip] = some hallClip := by decide +kernel
  refine ⟨(clips_move_forward []).1 hallClip hallClip rfl hfirst, ?_⟩
  obtain ⟨next, hnext, hadvances, hlast⟩ :=
    ((clips_move_forward [hallClip]).2 hallClip hfirst).1 [hallFailure]
  exact ⟨next, hnext, hadvances, hlast [hallClip]⟩

example : storedAfter [hallClip, hallClip, hallFailure, hallClip] = some hallFailure := by
  decide +kernel

end Vision
end HomeCortex
