/-
# The order in which telemetry arrives

`EmbodimentPresence.submit` keeps for each body what a `LatestRegister` keeps of the
admissible samples: `after_lookup` says so for one submission and `afterAll_lookup`
for any number of them.  So the samples of a body converge whatever order they arrive
in and however often; a conflicting sample is refused and changes nothing.
-/

import HomeCortex.Library.LatestRegister
import HomeCortex.Spatial.Presence

namespace HomeCortex
namespace Spatial

open Raising LatestRegister

/-- One call of `submit`. -/
structure Submission where
  sample : PhysicalTelemetry
  now : Option Timestamp
  clock : Int

namespace EmbodimentPresence

variable (presence : EmbodimentPresence)

/-- The presence after a submission, accepted or not. -/
def after (submission : Submission) : EmbodimentPresence :=
  ((submit submission.sample submission.now submission.clock).outcome presence).2

/-- The presence after submissions. -/
def afterAll (submissions : List Submission) : EmbodimentPresence :=
  submissions.foldl after presence

/-- The checks of `submit` on a sample pass: its body and its space are registered, and
the time of the submission can be read. -/
def admits (submission : Submission) : Bool :=
  (observed submission.now submission.clock).isOk &&
    (presence.requireEmbodiment submission.sample.embodiment_id).isOk &&
    (presence.requireSpace submission.sample.space_id).isOk

/-- The admissible samples of a body, in the order they were submitted. -/
def samplesOf (body : String) (submissions : List Submission) : List PhysicalTelemetry :=
  (submissions.filter fun submission =>
    presence.admits submission && submission.sample.embodiment_id == body).map Submission.sample

/-- The refusal of a conflicting sample. -/
def conflictingSample : PyError :=
  .telemetryAdmission "conflicting_sample"
    "A different sample with this measured_at is already current"

variable {presence} {submission : Submission} {submissions : List Submission} {body : String}

/-- The submission replaces the current sample of its body. -/
def Replaces (presence : EmbodimentPresence) (submission : Submission) : Prop :=
  presence.admits submission = true ∧
    disposition (presence.current.lookup submission.sample.embodiment_id) submission.sample
      = .ok .accepted

/-- **What one submission does**: a sample that passes the checks is written when it is the
newer one, and refused when it conflicts; everything else changes nothing. -/
theorem submit_cases :
    Meets (submit submission.sample submission.now submission.clock) presence fun outcome after =>
      (Replaces presence submission → after = { presence with
        current := presence.current.insert submission.sample.embodiment_id submission.sample }) ∧
      (¬ Replaces presence submission → after = presence) ∧
      (presence.admits submission = true → ∀ error,
        disposition (presence.current.lookup submission.sample.embodiment_id) submission.sample
          = .error error → outcome = .error error) := by
  simp only [submit, meets_bind, meets_lift, meets_get]
  unfold Replaces admits
  cases observed submission.now submission.clock with
  | error error => exact ⟨fun h => absurd h.1 Bool.false_ne_true, fun _ => rfl, fun h => (by cases h)⟩
  | ok seen =>
      dsimp only
      cases presence.requireEmbodiment submission.sample.embodiment_id with
      | error error => exact ⟨fun h => absurd h.1 Bool.false_ne_true, fun _ => rfl, fun h => (by cases h)⟩
      | ok =>
          dsimp only
          cases presence.requireSpace submission.sample.space_id with
          | error error => exact ⟨fun h => absurd h.1 Bool.false_ne_true, fun _ => rfl, fun h => (by cases h)⟩
          | ok =>
              dsimp only
              cases disposition (presence.current.lookup submission.sample.embodiment_id)
                  submission.sample with
              | error error =>
                  refine ⟨fun h => (by cases h.2), fun _ => rfl, fun _ other h => ?_⟩
                  rw [Except.error.inj h]
              | ok disposition =>
                  cases disposition with
                  | accepted =>
                      exact ⟨fun _ => rfl, fun h => absurd ⟨rfl, rfl⟩ h, fun _ _ h => (by cases h)⟩
                  | duplicate => exact ⟨fun h => (by cases h.2), fun _ => rfl, fun _ _ h => (by cases h)⟩
                  | ignored => exact ⟨fun h => (by cases h.2), fun _ => rfl, fun _ _ h => (by cases h)⟩

/-- The samples in the presence change as a register does. -/
theorem disposition_write {current : Option PhysicalTelemetry} {sample : PhysicalTelemetry} :
    write PhysicalTelemetry.measured_at current sample =
      if disposition current sample = .ok .accepted then some sample else current := by
  cases current with
  | none => rfl
  | some kept =>
      unfold write disposition
      dsimp only
      split
      · rfl
      · rw [if_neg]
        split <;> try split
        all_goals simp

/-- **A submission writes an admissible sample of its body**, and leaves what is registered. -/
theorem after_lookup :
    (presence.after submission).current.lookup body =
      (if presence.admits submission && submission.sample.embodiment_id == body then
        write PhysicalTelemetry.measured_at (presence.current.lookup body) submission.sample
      else presence.current.lookup body) ∧
    (presence.after submission).embodiments = presence.embodiments ∧
    (presence.after submission).spaces = presence.spaces := by
  obtain ⟨hreplaced, hkept, -⟩ := @submit_cases presence submission
  change Replaces presence submission → presence.after submission = _ at hreplaced
  change ¬ Replaces presence submission → presence.after submission = presence at hkept
  by_cases hbody : presence.admits submission = true ∧ submission.sample.embodiment_id = body
  · obtain ⟨hadmits, rfl⟩ := hbody
    rw [hadmits, Bool.true_and, if_pos (beq_self_eq_true _), disposition_write]
    by_cases haccepted : disposition (presence.current.lookup submission.sample.embodiment_id)
        submission.sample = .ok .accepted
    · rw [hreplaced ⟨hadmits, haccepted⟩, if_pos haccepted]
      exact ⟨AList.lookup_insert _, rfl, rfl⟩
    · rw [hkept fun h => haccepted h.2, if_neg haccepted]
      exact ⟨rfl, rfl, rfl⟩
  · rw [if_neg (by simpa using hbody)]
    by_cases hreplaces : Replaces presence submission
    · have hother : body ≠ submission.sample.embodiment_id := by
        rintro rfl
        exact hbody ⟨hreplaces.1, rfl⟩
      rw [hreplaced hreplaces]
      exact ⟨AList.lookup_insert_ne hother, rfl, rfl⟩
    · rw [hkept hreplaces]
      exact ⟨rfl, rfl, rfl⟩

theorem admits_congr {other : EmbodimentPresence} (hembodiments : other.embodiments = presence.embodiments)
    (hspaces : other.spaces = presence.spaces) : other.admits submission = presence.admits submission := by
  unfold admits requireEmbodiment requireSpace
  rw [hembodiments, hspaces]

/-- **The current sample of a body is what a register keeps of its admissible samples.** -/
theorem afterAll_lookup (submissions : List Submission) :
    ∀ presence : EmbodimentPresence,
      (presence.afterAll submissions).current.lookup body =
        writeAll PhysicalTelemetry.measured_at (presence.current.lookup body)
          (presence.samplesOf body submissions) ∧
      (presence.afterAll submissions).embodiments = presence.embodiments ∧
      (presence.afterAll submissions).spaces = presence.spaces := by
  induction submissions with
  | nil => exact fun presence => ⟨rfl, rfl, rfl⟩
  | cons submission submissions ih =>
      intro presence
      obtain ⟨hlookup, hembodiments, hspaces⟩ := @after_lookup presence submission body
      obtain ⟨hrest, hembodiments', hspaces'⟩ := ih (presence.after submission)
      refine ⟨?_, hembodiments'.trans hembodiments, hspaces'.trans hspaces⟩
      have hsamples : (presence.after submission).samplesOf body submissions
          = presence.samplesOf body submissions := by
        unfold samplesOf
        simp only [admits_congr hembodiments hspaces]
      change ((presence.after submission).afterAll submissions).current.lookup body = _
      rw [hrest, hsamples, hlookup]
      unfold samplesOf
      rw [List.filter_cons]
      split <;> rfl

theorem samplesOf_append (more : List Submission) :
    presence.samplesOf body (submissions ++ more)
      = presence.samplesOf body submissions ++ presence.samplesOf body more := by
  unfold samplesOf
  rw [List.filter_append, List.map_append]

/-- **Telemetry converges whatever order it arrives in.**  For a body without a current
sample: submissions with the same admissible samples, no two different ones of one
time, leave the same current sample, the latest; the current sample is always the first
of the latest submitted so far; its time never goes back; and a different sample of its
time is refused without effect. -/
theorem submissions_converge (presence : EmbodimentPresence) (body : String)
    (hfresh : presence.current.lookup body = none) :
    (∀ submissions others : List Submission,
      (∀ sample, sample ∈ presence.samplesOf body submissions ↔
        sample ∈ presence.samplesOf body others) →
      (∀ a ∈ presence.samplesOf body submissions, ∀ b ∈ presence.samplesOf body submissions,
        a.measured_at = b.measured_at → a.same b = true) →
      (presence.samplesOf body submissions = [] ∧
        (presence.afterAll submissions).current.lookup body = none ∧
        (presence.afterAll others).current.lookup body = none) ∨
      ∃ a b, (presence.afterAll submissions).current.lookup body = some a ∧
        (presence.afterAll others).current.lookup body = some b ∧ a.same b = true ∧
        a ∈ presence.samplesOf body submissions ∧
        ∀ sample ∈ presence.samplesOf body submissions, sample.measured_at ≤ a.measured_at) ∧
    ∀ submissions : List Submission,
      ((presence.samplesOf body submissions = [] ∧
          (presence.afterAll submissions).current.lookup body = none) ∨
        ∃ kept, (presence.afterAll submissions).current.lookup body = some kept ∧
          FirstLatest PhysicalTelemetry.measured_at (presence.samplesOf body submissions) kept) ∧
      ∀ kept, (presence.afterAll submissions).current.lookup body = some kept →
        (∀ more : List Submission, ∃ later,
          (presence.afterAll (submissions ++ more)).current.lookup body = some later ∧
            kept.measured_at ≤ later.measured_at) ∧
        ∀ submission : Submission, (presence.afterAll submissions).admits submission = true →
          submission.sample.embodiment_id = body →
          submission.sample.measured_at = kept.measured_at → submission.sample.same kept = false →
          (submit submission.sample submission.now submission.clock).outcome
            (presence.afterAll submissions)
            = (.error conflictingSample, presence.afterAll submissions) := by
  have hlookup : ∀ submissions, (presence.afterAll submissions).current.lookup body =
      writeAll PhysicalTelemetry.measured_at none (presence.samplesOf body submissions) := by
    intro submissions
    rw [← hfresh]
    exact (afterAll_lookup submissions presence).1
  refine ⟨fun submissions others hsame hunique => ?_, fun submissions => ⟨?_, fun kept hkept =>
    ⟨fun more => ?_, fun submission hadmits hbody htime hdiffers => ?_⟩⟩⟩
  · rw [hlookup, hlookup]
    rcases @writeAll_firstLatest _ _ _ PhysicalTelemetry.measured_at
      (presence.samplesOf body submissions) with ⟨hnil, hnone⟩ | ⟨a, ha, hlatest⟩
    · have hothers : presence.samplesOf body others = [] := by
        refine List.eq_nil_iff_forall_not_mem.2 fun sample hmem => ?_
        rw [← hsame, hnil] at hmem
        exact List.not_mem_nil hmem
      rw [hothers]
      exact .inl ⟨hnil, hnone, rfl⟩
    · obtain ⟨b, hb, hmem, htime⟩ := writeAll_converges hsame ha
      exact .inr ⟨a, b, ha, hb, hunique a hlatest.mem b hmem htime.symm, hlatest.mem,
        fun sample hsample => hlatest.le hsample⟩
  · rw [hlookup]
    exact writeAll_firstLatest _
  · rw [hlookup, samplesOf_append]
    rw [hlookup] at hkept
    unfold writeAll at hkept ⊢
    rw [List.foldl_append, hkept]
    exact time_le_writeAll _ kept
  · obtain ⟨-, hkept', hrefused⟩ := @submit_cases (presence.afterAll submissions) submission
    have hdisposition : disposition ((presence.afterAll submissions).current.lookup
        submission.sample.embodiment_id) submission.sample = .error conflictingSample := by
      rw [hbody, hkept]
      unfold disposition
      dsimp only
      rw [if_neg (by omega), if_neg (by simp [hdiffers]), if_pos htime]
      rfl
    refine Prod.ext (hrefused hadmits _ hdisposition) (hkept' fun h => ?_)
    rw [h.2] at hdisposition
    cases hdisposition

/-- The presence of one robot, with nothing submitted yet. -/
def robotPresence : EmbodimentPresence where
  stale_after_s := 30.0
  embodiments := {"embodiment:robot"}
  spaces := {"space:kitchen"}
  current := ∅
  window := by decide +kernel

/-- The robot says at an instant that it has no estimate. -/
def noEstimateAt (measured_at : Int) : Submission where
  sample := {
    embodiment_id := "embodiment:robot"
    space_id := none
    measured_at := measured_at
    validity := .noEstimate
    transform := none
    embodiment_typed := by decide +kernel
    space_typed := noSpace_typed
    consistent := rfl }
  now := none
  clock := 0

/-- Two samples, and the same in the other order with one repeated. -/
theorem robot_converges :
    (robotPresence.samplesOf "embodiment:robot" [noEstimateAt 1, noEstimateAt 2] = [] ∧
        (robotPresence.afterAll [noEstimateAt 1, noEstimateAt 2]).current.lookup
          "embodiment:robot" = none ∧
        (robotPresence.afterAll [noEstimateAt 2, noEstimateAt 1, noEstimateAt 2]).current.lookup
          "embodiment:robot" = none) ∨
      ∃ a b, (robotPresence.afterAll [noEstimateAt 1, noEstimateAt 2]).current.lookup
            "embodiment:robot" = some a ∧
        (robotPresence.afterAll [noEstimateAt 2, noEstimateAt 1, noEstimateAt 2]).current.lookup
            "embodiment:robot" = some b ∧ a.same b = true ∧
        a ∈ robotPresence.samplesOf "embodiment:robot" [noEstimateAt 1, noEstimateAt 2] ∧
        ∀ sample ∈ robotPresence.samplesOf "embodiment:robot" [noEstimateAt 1, noEstimateAt 2],
          sample.measured_at ≤ a.measured_at := by
  have hsamples : robotPresence.samplesOf "embodiment:robot" [noEstimateAt 1, noEstimateAt 2]
      = [(noEstimateAt 1).sample, (noEstimateAt 2).sample] := by
    decide +kernel
  have hothers : robotPresence.samplesOf "embodiment:robot"
      [noEstimateAt 2, noEstimateAt 1, noEstimateAt 2]
      = [(noEstimateAt 2).sample, (noEstimateAt 1).sample, (noEstimateAt 2).sample] := by
    decide +kernel
  refine (submissions_converge robotPresence "embodiment:robot" rfl).1 _ _ (fun sample => ?_) ?_
  · rw [hsamples, hothers]
    simp only [List.mem_cons, List.not_mem_nil, or_false]
    constructor
    · exact fun h => h.elim (fun h => .inr (.inl h)) .inl
    · exact fun h => h.elim .inr fun h => h.elim .inl .inr
  · have hsame : ∀ n, (noEstimateAt n).sample.same (noEstimateAt n).sample = true := by
      intro n
      simp [PhysicalTelemetry.same, noEstimateAt]
    rw [hsamples]
    intro a ha b hb htime
    simp only [List.mem_cons, List.not_mem_nil, or_false] at ha hb
    have htimes : (noEstimateAt 1).sample.measured_at ≠ (noEstimateAt 2).sample.measured_at := by
      change (1 : Int) ≠ 2
      decide
    rcases ha with rfl | rfl <;> rcases hb with rfl | rfl
    · exact hsame 1
    · exact absurd htime htimes
    · exact absurd htime.symm htimes
    · exact hsame 2

end EmbodimentPresence
end Spatial
end HomeCortex
