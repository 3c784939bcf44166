/-
# The wire format of vision records

Every record of `vision/contracts.py` is parsed back from its mapping.  Lines of JSON give
the observations back exactly when `str.splitlines` finds no line end inside a text, that
is, no text holds U+0085, U+2028 or U+2029: a text with one gives more lines than
observations.
-/

import HomeCortex.Vision.Delivery
import HomeCortex.Vision.Records

namespace HomeCortex
namespace Vision

open Spatial Display

/-! ### Counting lines -/

/-- The lines that `parse_observations_jsonl` reads. -/
def filledLines (lines : List (List Char)) : Nat := lines.countP fun line => !line.all isSpace

theorem filledLines_cons_le (line : List Char) (lines : List (List Char)) :
    filledLines lines ≤ filledLines (line :: lines) := by
  unfold filledLines
  rw [List.countP_cons]
  omega

theorem filledLines_cons {line : List Char} (h : ∃ c ∈ line, isSpace c = false)
    (lines : List (List Char)) : filledLines (line :: lines) = filledLines lines + 1 := by
  have hfilled : (!line.all isSpace) = true := by
    obtain ⟨c, hc, hspace⟩ := h
    rw [Bool.not_eq_true', ← Bool.not_eq_true, List.all_eq_true]
    intro hall
    rw [hall c hc] at hspace
    cases hspace
  unfold filledLines
  rw [List.countP_cons, if_pos hfilled]

/-- A text that ends in a brace fills a line. -/
theorem filledLines_closed {text : List Char} (htext : ∀ c ∈ text, c ≠ '\r')
    (line rest : List Char) : filledLines (splitLines [] rest) + 1
      ≤ filledLines (splitLines line (text ++ '}' :: '\n' :: rest)) := by
  induction text generalizing line with
  | nil =>
      rw [List.nil_append, splitLines_step (by decide), if_neg (by decide),
        splitLines_step (by decide), if_pos (by decide)]
      exact (filledLines_cons ⟨'}', by simp, by decide⟩ _).ge
  | cons c text ih =>
      have hrest := ih fun d hd => htext d (List.mem_cons_of_mem _ hd)
      rw [List.cons_append, splitLines_step (htext c List.mem_cons_self)]
      split
      case isTrue => exact (hrest []).trans (filledLines_cons_le _ _)
      case isFalse => exact hrest (line ++ [c])

/-- A text with a line end inside, after what is no blank, fills two. -/
theorem filledLines_broken {text : List Char} (htext : ∀ c ∈ text, c ≠ '\r')
    (hbreak : ∃ c ∈ text, isLineBreak c = true) {line : List Char}
    (hline : ∃ c ∈ line, isSpace c = false) (rest : List Char) :
    filledLines (splitLines [] rest) + 2
      ≤ filledLines (splitLines line (text ++ '}' :: '\n' :: rest)) := by
  induction text generalizing line with
  | nil =>
      obtain ⟨c, hc, -⟩ := hbreak
      cases hc
  | cons c text ih =>
      have hrest : ∀ d ∈ text, d ≠ '\r' := fun d hd => htext d (List.mem_cons_of_mem _ hd)
      rw [List.cons_append, splitLines_step (htext c List.mem_cons_self)]
      split
      case isTrue =>
        rw [filledLines_cons hline]
        have hclosed := filledLines_closed hrest [] rest
        omega
      case isFalse hc =>
        obtain ⟨d, hd, hdbreak⟩ := hbreak
        have hlater : d ∈ text := by
          rcases List.mem_cons.1 hd with rfl | hlater
          · exact absurd hdbreak hc
          · exact hlater
        obtain ⟨e, he, hspace⟩ := hline
        exact ih hrest ⟨d, hlater, hdbreak⟩ ⟨e, List.mem_append_left _ he, hspace⟩

/-! ### Lines of observations -/

variable {floats : FloatFormat}

/-- The text of an observation is between braces and has no carriage return. -/
theorem canonicalText_braces (value : VisualObservation) :
    ∃ inner, (canonicalText floats value).toList = '{' :: (inner ++ ['}']) ∧
      ∀ c ∈ inner, c ≠ '\r' := by
  obtain ⟨inner, hinner⟩ : ∃ inner, (canonicalText floats value).toList
      = '{' :: (inner ++ ['}']) := by
    rw [canonicalText, dumps, String.toList_ofList, visualObservationAsMapping, sortKeys]
    exact JsonText.render_obj _
  refine ⟨inner, hinner, ?_⟩
  rintro c hc rfl
  have hprintable := (@canonicalText_toList floats value).2 '\r'
    (by rw [hinner]; exact List.mem_cons_of_mem _ (List.mem_append_left _ hc))
  exact absurd hprintable (by decide)

/-- An observation fills a line, and more than one when its text has a line end. -/
theorem filledLines_observation (value : VisualObservation) (rest : List Char) :
    let lines := filledLines (splitLines [] ((canonicalText floats value).toList ++ '\n' :: rest))
    filledLines (splitLines [] rest) + 1 ≤ lines ∧
      (¬OneLine floats value → filledLines (splitLines [] rest) + 2 ≤ lines) := by
  obtain ⟨inner, hinner, hreturn⟩ := @canonicalText_braces floats value
  have hsplit : splitLines [] ((canonicalText floats value).toList ++ '\n' :: rest)
      = splitLines ['{'] (inner ++ '}' :: '\n' :: rest) := by
    rw [hinner, List.cons_append, splitLines_step (by decide), if_neg (by decide),
      List.append_assoc]
    rfl
  simp only [hsplit]
  refine ⟨filledLines_closed hreturn _ rest, fun hlines => ?_⟩
  refine filledLines_broken hreturn ?_ ⟨'{', by simp, by decide⟩ rest
  obtain ⟨c, hc, hseparator⟩ : ∃ c ∈ (canonicalText floats value).toList,
      c ∈ ['\u0085', '\u2028', '\u2029'] := by
    unfold OneLine at hlines
    push Not at hlines
    exact hlines
  simp only [List.mem_cons, List.not_mem_nil, or_false] at hseparator
  have hbreak : isLineBreak c = true := by
    rcases hseparator with rfl | rfl | rfl <;> decide
  refine ⟨c, ?_, hbreak⟩
  rw [hinner] at hc
  rcases List.mem_cons.1 hc with rfl | hc
  · exact absurd hbreak (by decide)
  · rcases List.mem_append.1 hc with hc | hc
    · exact hc
    · obtain rfl := List.mem_singleton.1 hc
      exact absurd hbreak (by decide)

/-- Every observation fills a line, so one with a line end makes too many. -/
theorem filledLines_observations (values : List VisualObservation) :
    let lines := filledLines (splitLines []
      (String.join ((values.map (canonicalText floats)).map (· ++ "\n"))).toList)
    values.length ≤ lines ∧ ((∃ value ∈ values, ¬OneLine floats value) → values.length < lines) := by
  rw [String.toList_join]
  induction values with
  | nil => exact ⟨Nat.zero_le _, fun ⟨value, hvalue, _⟩ => absurd hvalue List.not_mem_nil⟩
  | cons value values ih =>
      simp only [List.map_cons, List.flatMap_cons, String.toList_append, List.append_assoc,
        List.length_cons] at ih ⊢
      obtain ⟨hle, hlt⟩ := ih
      obtain ⟨hone, htwo⟩ := @filledLines_observation floats value
        (((values.map (canonicalText floats)).map (· ++ "\n")).flatMap String.toList)
      refine ⟨(Nat.succ_le_succ hle).trans hone, fun ⟨broken, hbroken, hlines⟩ => ?_⟩
      rcases List.mem_cons.1 hbroken with rfl | hbroken
      · exact (Nat.succ_le_succ (Nat.succ_le_succ hle)).trans (htwo hlines)
      · exact (Nat.succ_le_succ (hlt ⟨broken, hbroken, hlines⟩)).trans hone

/-- **Lines of JSON give the observations back exactly when each is one line** (and its
integers can be written). -/
theorem parseObservationsJsonl_dumps_iff (values : List VisualObservation) :
    (dumpsObservationsJsonl floats values).bind (parseObservationsJsonl floats) = .ok values ↔
      ∀ value ∈ values, writesIntegers value = true ∧ OneLine floats value := by
  constructor
  · intro h
    obtain ⟨text, htext, hparse⟩ := Except.bind_eq_ok.1 h
    obtain ⟨texts, htexts, hjoin⟩ := Except.bind_eq_ok.1 htext
    obtain rfl := Except.ok.inj hjoin
    have hdigits : ∀ value ∈ values, writesIntegers value = true := by
      intro value hvalue
      obtain ⟨written, -, hwritten⟩ := Except.exists_of_mem_mapM htexts hvalue
      by_contra hlarge
      rw [dumpsObservation, if_neg hlarge] at hwritten
      cases hwritten
    have hmap : texts = values.map (canonicalText floats) := by
      have hcanonical : values.mapM (dumpsObservation floats)
          = .ok (values.map (canonicalText floats)) := by
        rw [Except.mapM_eq_ok, List.forall₂_map_right_iff]
        exact List.forall₂_same.mpr fun value hvalue => if_pos (hdigits value hvalue)
      exact Except.ok.inj (htexts.symm.trans hcanonical)
    refine fun value hvalue => ⟨hdigits value hvalue, ?_⟩
    by_contra hlines
    have hcount := (@filledLines_observations floats values).2 ⟨value, hvalue, hlines⟩
    have hlength := (Except.mapM_eq_ok.1 hparse).length_eq
    rw [hmap, ← List.countP_eq_length_filter] at hlength
    exact absurd hlength (Nat.ne_of_gt hcount)
  · intro h
    obtain ⟨text, htext, hparse⟩ := parseObservationsJsonl_dumps
      (fun value hvalue => (h value hvalue).1) (fun value hvalue => (h value hvalue).2)
    rw [htext]
    exact hparse

/-- **Vision records survive their wire format.**  Every record is parsed back from its
mapping; a sequence of observations is parsed back from its lines of JSON exactly when
each of them is written on one line. -/
theorem records_survive (floats : FloatFormat) :
    (∀ value, parseVisualObservation (reread (visualObservationAsMapping value)) = .ok value) ∧
    (∀ value, parseVisualTrack (reread (visualTrackAsMapping value)) = .ok value) ∧
    (∀ value, parseVisualCandidate (reread (visualCandidateAsMapping value)) = .ok value) ∧
    (∀ value, parseEvidenceClip (reread (evidenceClipAsMapping value)) = .ok value) ∧
    (∀ value, parseVisualEnrollment (reread (visualEnrollmentAsMapping value)) = .ok value) ∧
    (∀ value, parseProducerProfile (reread (producerProfileAsMapping value)) = .ok value) ∧
    (∀ value, artifact (reread (artifactAsMapping value)) = .ok value) ∧
    ∀ values,
      (dumpsObservationsJsonl floats values).bind (parseObservationsJsonl floats) = .ok values ↔
        ∀ value ∈ values, writesIntegers value = true ∧ OneLine floats value :=
  ⟨parseVisualObservation_reread, parseVisualTrack_reread, parseVisualCandidate_reread,
    parseEvidenceClip_reread, parseVisualEnrollment_reread, parseProducerProfile_reread,
    artifact_reread, parseObservationsJsonl_dumps_iff⟩

/-- An observation of a category with a line separator. -/
def tornDuck : VisualObservation :=
  duckSeen ⟨"rubber\u2028duck", by decide +kernel, by decide +kernel⟩ duck.detector_belief.confidence

theorem tornDuck_lost : (dumpsObservationsJsonl plainFloats [tornDuck]).bind
    (parseObservationsJsonl plainFloats) ≠ .ok [tornDuck] := by
  intro h
  have hline := ((parseObservationsJsonl_dumps_iff [tornDuck]).1 h tornDuck
    List.mem_cons_self).2
  have hmem : '\u2028' ∈ (canonicalText plainFloats tornDuck).toList := by
    rw [canonicalText, dumps, String.toList_ofList]
    decide +kernel
  exact hline '\u2028' hmem (by decide)

end Vision
end HomeCortex
