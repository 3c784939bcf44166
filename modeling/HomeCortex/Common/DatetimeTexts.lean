/-
# Texts of datetimes

`datetime.isoformat` against `datetime.fromisoformat`.  Every instant of the calendar has
a wall time (`wallTimeOf_eq`), and the text of a wall time with its offset is read back as
that datetime (`datetimeFromIsoformat_isoformat`).  The pieces are read one after the
other: a padded number is followed by something that is no digit, so each reader stops
where the next one starts.
-/

import HomeCortex.Common.Calendar
import HomeCortex.Common.Clock

namespace HomeCortex

/-! ### Wall times of instants -/

/-- **Every instant of the calendar** is that of a wall time. -/
theorem wallTimeOf_eq {value : Int} (h : 0 ≤ value ∧ value < maxMicros) :
    ∃ wall, wallTimeOf value = .ok wall ∧ wall.value = value ∧ wall.micros < dayMicros := by
  have hday : (dayMicros : Int) = 86400000000 := rfl
  have hmax : maxMicros = 315537897600000000 := rfl
  obtain ⟨date, hdate⟩ := @exists_toordinal (value / 86400000000 + 1).toNat (by omega) (by omega)
  refine ⟨⟨date, (value % 86400000000).toNat⟩, ?_, ?_, ?_⟩
  · rw [wallTimeOf, hday, ← hdate, dateOfOrdinal_toordinal]
  · simp only [WallTime.value, hdate, hday]
    omega
  · simp only
    omega

/-! ### Times of day -/

/-- The characters of a time of day. -/
def isTimeChar (c : Char) : Bool := c.isDigit || c == ':' || c == '.' || c == ','

/-- No time of day goes on into `cs`. -/
def EndsTime (cs : List Char) : Prop := ∀ c, cs.head? = some c → isTimeChar c = false

theorem EndsTime.ne_cons {c : Char} {cs : List Char} (h : EndsTime cs) (hc : isTimeChar c = true)
    (rest : List Char) : cs ≠ c :: rest := by
  rintro rfl
  have := h c rfl
  rw [hc] at this
  cases this

theorem isTimeChar_of_isDigit {c : Char} (h : c.isDigit = true) : isTimeChar c = true := by
  unfold isTimeChar
  rw [h]
  rfl

theorem endsTime_nil : EndsTime [] := fun _ h => by cases h

theorem takeWhile_isDigit_append {digits rest : List Char} (h : ∀ c ∈ digits, c.isDigit = true)
    (hrest : EndsTime rest) : (digits ++ rest).takeWhile Char.isDigit = digits ∧
      (digits ++ rest).dropWhile Char.isDigit = rest := by
  rw [List.takeWhile_append_of_pos h, List.dropWhile_append_of_pos h]
  cases rest with
  | nil => simp
  | cons c cs =>
      have hdigit : c.isDigit = false := by
        by_contra hc
        have htime := isTimeChar_of_isDigit (Bool.not_eq_false _ ▸ hc)
        exact hrest.ne_cons htime cs rfl
      simp [hdigit]

/-- The microseconds of a second are read back from six digits. -/
theorem readFraction_padded {micros : Nat} (h : micros < 10 ^ 6) {rest : List Char}
    (hrest : EndsTime rest) :
    readFraction ((padded 6 micros).toList ++ rest) = some (micros, rest) := by
  obtain ⟨hlength, hdigits⟩ := padded_digits (show 0 < 6 by decide) h
  obtain ⟨htake, hdrop⟩ := takeWhile_isDigit_append hdigits hrest
  have hsix : ((padded 6 micros).toList ++ List.replicate 6 '0').take 6 =
      (padded 6 micros).toList := by
    rw [List.take_append_of_le_length (by omega), List.take_of_length_le (by omega)]
  have hfilled : (padded 6 micros).toList.isEmpty = false := by
    cases htext : (padded 6 micros).toList with
    | nil => rw [htext] at hlength; cases hlength
    | cons => rfl
  unfold readFraction
  simp only [htake, hdrop, hsix, hfilled, padded_value]
  rfl

/-- Seconds are read back, with their microseconds when there are any. -/
theorem readSeconds_secondsText (minutes micros : Nat) {rest : List Char} (hrest : EndsTime rest) :
    readSeconds minutes ((secondsText micros).toList.tail ++ rest) =
      some ((minutes, micros / 1000000 % 60, micros % 1000000), rest) := by
  have hsecond := readDigits_padded (show 0 < 2 by decide)
    (show micros / 1000000 % 60 < 10 ^ 2 by omega)
  unfold readSeconds
  by_cases hfraction : micros % 1000000 = 0
  · have htext : (secondsText micros).toList.tail = (padded 2 (micros / 1000000 % 60)).toList := by
      simp [secondsText, hfraction]
    rw [htext, hsecond, hfraction]
    cases rest with
    | nil => rfl
    | cons c cs =>
        have hpoint : c ≠ '.' := fun hc => hrest.ne_cons (by rw [hc]; rfl) cs rfl
        have hcomma : c ≠ ',' := fun hc => hrest.ne_cons (by rw [hc]; rfl) cs rfl
        simp [hpoint, hcomma]
  · have htext : (secondsText micros).toList.tail = (padded 2 (micros / 1000000 % 60)).toList ++
        '.' :: (padded 6 (micros % 1000000)).toList := by
      simp [secondsText, hfraction]
    have hread := readFraction_padded (show micros % 1000000 < 10 ^ 6 by omega) hrest
    rw [htext, List.append_assoc, List.cons_append, hsecond]
    generalize (padded 6 (micros % 1000000)).toList ++ rest = tail at hread ⊢
    simp [hread]

/-- Hours and minutes are read back one after the other. -/
theorem readDigits_minutesText {micros : Nat} (h : micros < dayMicros) (rest : List Char) :
    ∃ tail, readDigits 2 ((minutesText micros).toList ++ rest) =
        some (micros / 3600000000, ':' :: tail) ∧
      readDigits 2 tail = some (micros / 60000000 % 60, rest) := by
  have hday : dayMicros = 86400000000 := rfl
  have htext : (minutesText micros).toList ++ rest = (padded 2 (micros / 3600000000)).toList ++
      ':' :: ((padded 2 (micros / 60000000 % 60)).toList ++ rest) := by
    simp [minutesText]
  rw [htext]
  exact ⟨_, readDigits_padded (by decide) (by omega) _, readDigits_padded (by decide) (by omega) _⟩

theorem secondsText_toList (micros : Nat) :
    (secondsText micros).toList = ':' :: (secondsText micros).toList.tail := by
  simp [secondsText]

/-- **A time of day is read back.** -/
theorem readTime_isoformat {micros : Nat} (h : micros < dayMicros) {rest : List Char}
    (hrest : EndsTime rest) :
    readTime ((minutesText micros).toList ++ ((secondsText micros).toList ++ rest)) =
      some ((micros / 3600000000, micros / 60000000 % 60, micros / 1000000 % 60,
        micros % 1000000), rest) := by
  obtain ⟨tail, hhour, hminute⟩ := readDigits_minutesText h ((secondsText micros).toList ++ rest)
  have hseconds := readSeconds_secondsText (micros / 60000000 % 60) micros hrest
  rw [secondsText_toList, List.cons_append] at hhour hminute ⊢
  generalize (secondsText micros).toList.tail ++ rest = seconds at hhour hminute hseconds ⊢
  unfold readTime
  simp [hhour, hminute, hseconds]

/-- A whole number of minutes needs no seconds. -/
theorem readTime_minutes {micros : Nat} (h : micros < dayMicros) (hwhole : micros % 60000000 = 0) :
    readTime (minutesText micros).toList =
      some ((micros / 3600000000, micros / 60000000 % 60, micros / 1000000 % 60,
        micros % 1000000), []) := by
  obtain ⟨tail, hhour, hminute⟩ := readDigits_minutesText h []
  rw [List.append_nil] at hhour
  rw [show micros / 1000000 % 60 = 0 by omega, show micros % 1000000 = 0 by omega]
  unfold readTime
  simp [hhour, hminute]

/-- The parts of a time of day add up to it. -/
theorem timeMicros_parts {micros : Nat} (h : micros < dayMicros) :
    timeMicros (micros / 3600000000, micros / 60000000 % 60, micros / 1000000 % 60,
      micros % 1000000) = micros ∧
    isTimeOfDay (micros / 3600000000, micros / 60000000 % 60, micros / 1000000 % 60,
      micros % 1000000) = true := by
  have hday : dayMicros = 86400000000 := rfl
  simp only [timeMicros, isTimeOfDay, Bool.and_eq_true, decide_eq_true_eq]
  omega

/-! ### Offsets and datetimes -/

/-- **An offset is read back from its text.** -/
theorem readOffset_offsetText {offset : Int} (h : -(dayMicros : Int) < offset ∧ offset < dayMicros) :
    readOffset (offsetText offset).toList = some (some offset) := by
  have hday : dayMicros = 86400000000 := rfl
  have habs : offset.natAbs < dayMicros := by omega
  obtain ⟨hparts, -⟩ := timeMicros_parts habs
  -- the time after the sign, with seconds where the offset has them
  have hread : readTime ((offsetText offset).toList.tail) =
      some ((offset.natAbs / 3600000000, offset.natAbs / 60000000 % 60,
        offset.natAbs / 1000000 % 60, offset.natAbs % 1000000), []) := by
    by_cases hwhole : offset.natAbs % 60000000 = 0
    · have htext : (offsetText offset).toList.tail = (minutesText offset.natAbs).toList := by
        rw [offsetText, if_pos hwhole]
        split <;> simp
      rw [htext, readTime_minutes habs hwhole]
    · have htext : (offsetText offset).toList.tail = (minutesText offset.natAbs).toList ++
          ((secondsText offset.natAbs).toList ++ []) := by
        rw [offsetText, if_neg hwhole]
        split <;> simp
      rw [htext, readTime_isoformat habs endsTime_nil]
  by_cases hsign : offset < 0
  · have htext : (offsetText offset).toList = '-' :: (offsetText offset).toList.tail := by
      simp [offsetText, hsign]
    rw [htext, readOffset, hread]
    simp only [hparts]
    congr 2
    omega
  · have htext : (offsetText offset).toList = '+' :: (offsetText offset).toList.tail := by
      simp [offsetText, hsign]
    rw [htext, readOffset, hread]
    simp only [hparts]
    congr 2
    omega

theorem endsTime_offsetText (offset : Int) : EndsTime (offsetText offset).toList := by
  intro c h
  by_cases hsign : offset < 0
  · obtain rfl : '-' = c := by simpa [offsetText, hsign] using h
    decide
  · obtain rfl : '+' = c := by simpa [offsetText, hsign] using h
    decide

/-- **A datetime is read back from its text.** -/
theorem datetimeFromIsoformat_isoformat {wall : WallTime} {offset : Int}
    (hmicros : wall.micros < dayMicros)
    (hoffset : -(dayMicros : Int) < offset ∧ offset < dayMicros) :
    ∃ d, datetimeFromIsoformat (wall.isoformat offset) = some d ∧
      d.localMicros = wall.value ∧ d.offset = some offset := by
  have htext : (wall.isoformat offset).toList = wall.date.isoformat.toList ++
      'T' :: ((minutesText wall.micros).toList ++
        ((secondsText wall.micros).toList ++ (offsetText offset).toList)) := by
    simp [WallTime.isoformat]
  have htime := readTime_isoformat hmicros (endsTime_offsetText offset)
  obtain ⟨hparts, hday⟩ := timeMicros_parts hmicros
  refine ⟨⟨wall.date, wall.micros, some offset, hmicros, fun o ho => Option.some.inj ho ▸ hoffset⟩,
    ?_, rfl, rfl⟩
  have hclock : ∀ cs, readTime cs = some ((wall.micros / 3600000000, wall.micros / 60000000 % 60,
      wall.micros / 1000000 % 60, wall.micros % 1000000), (offsetText offset).toList) →
      readClock wall.date cs = some ⟨wall.date, wall.micros, some offset, hmicros,
        fun o ho => Option.some.inj ho ▸ hoffset⟩ := by
    intro cs hcs
    unfold readClock
    simp only [hcs, Option.bind_eq_bind, Option.bind_some, hday, if_true, hparts,
      readOffset_offsetText hoffset, mkDatetime, dif_pos hmicros, dif_pos hoffset]
  unfold datetimeFromIsoformat
  rw [htext, readIsoDate_isoformat]
  simp only [Option.bind_eq_bind, Option.bind_some, hclock _ htime]

/-! ### Characters of a text -/

/-- A padded number has no letters. -/
theorem not_mem_padded {c : Char} (hc : c.isDigit = false) (width n : Nat) :
    c ∉ (padded width n).toList := by
  rw [padded_toList, List.mem_append]
  rintro (hzero | hdigit)
  · rw [List.eq_of_mem_replicate hzero] at hc
    exact absurd hc (by decide)
  · rw [Nat.isDigit_of_mem_toDigits (by decide) (by decide) hdigit] at hc
    cases hc

/-- The letter `Z` is in no text of a datetime. -/
theorem not_mem_isoformat (wall : WallTime) (offset : Int) :
    'Z' ∉ (wall.isoformat offset).toList := by
  have hdigits := @not_mem_padded 'Z' rfl
  have hminutes : ∀ micros, 'Z' ∉ (minutesText micros).toList := by
    intro micros
    simp [minutesText, hdigits]
  have hseconds : ∀ micros, 'Z' ∉ (secondsText micros).toList := by
    intro micros
    rw [secondsText]
    split <;> simp [hdigits]
  have hoffset : 'Z' ∉ (offsetText offset).toList := by
    rw [offsetText]
    split <;> split <;> simp [hminutes, hseconds]
  simp [WallTime.isoformat, PyDate.isoformat, hdigits, hminutes, hseconds, hoffset]

end HomeCortex
