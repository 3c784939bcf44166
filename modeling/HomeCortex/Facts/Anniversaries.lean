/-
# The next anniversary

`annual_occurrence` looks for the month and day of a stored date in this year and the
eight that follow.  Nine years hold a 29 February even across a century, so the search
never fails (`nextAnniversary_spec`), and its first hit is the next anniversary.  Of a
stored datetime it takes the civil date in UTC, where `date_add` and
`date_difference` take the one in the household zone: it answers for the household's
day exactly when the two fall on the same month and day.
-/

import HomeCortex.Common.Calendar
import HomeCortex.Facts.Operators
import HomeCortex.Library.Checked

namespace HomeCortex

/-! ### The search -/

/-- The least date on or after `today` with a month and a day. -/
structure IsNextAnniversary (today : PyDate) (month day : Nat) (date : PyDate) : Prop where
  month_eq : date.month = month
  day_eq : date.day = day
  not_before : today.toordinal ≤ date.toordinal
  least : ∀ other : PyDate, other.month = month → other.day = day →
    today.toordinal ≤ other.toordinal → date.toordinal ≤ other.toordinal

/-- A leap year follows within eight years. -/
theorem exists_leap (year : Nat) : ∃ n, 1 ≤ n ∧ n ≤ 8 ∧ isLeap (year + n) = true := by
  by_cases hcentury : (year + (4 - year % 4)) % 100 = 0
  · exact ⟨8 - year % 4, by omega, by omega, (isLeap_iff _).2 (by omega)⟩
  · exact ⟨4 - year % 4, by omega, by omega, (isLeap_iff _).2 (by omega)⟩

/-- A day that some year has is one of every year, or 29 February. -/
theorem daysInMonth_leap {year other month day : Nat} (h : day ≤ daysInMonth year month)
    (hother : isLeap other = true) : day ≤ daysInMonth other month := by
  unfold daysInMonth at h ⊢
  rw [hother]
  split <;> simp_all
  split at h <;> omega

theorem daysInMonth_common {year other month day : Nat} (h : day ≤ daysInMonth year month)
    (hleap : ¬(month = 2 ∧ day = 29)) : day ≤ daysInMonth other month := by
  unfold daysInMonth at h ⊢
  split <;> simp_all
  split at h <;> split <;> omega

/-- Nine years from one on hold an anniversary. -/
theorem exists_anniversary {today stored : PyDate} (hyear : today.year ≤ 9991) :
    ∃ n < 9, ∃ date, mkDate (today.year + n) stored.month stored.day = some date ∧
      today.toordinal ≤ date.toordinal := by
  have hday := stored.day_range
  have hpos := today.year_range.1
  -- a date of a later year is later
  have hlater : ∀ n, 1 ≤ n → n ≤ 8 → stored.day ≤ daysInMonth (today.year + n) stored.month →
      ∃ n < 9, ∃ date, mkDate (today.year + n) stored.month stored.day = some date ∧
        today.toordinal ≤ date.toordinal := by
    intro n hn hle hlast
    obtain ⟨date, hdate⟩ := Option.isSome_iff_exists.1
      (mkDate_isSome (show 1 ≤ today.year + n ∧ today.year + n ≤ 9999 by omega) ⟨hday.1, hlast⟩)
    refine ⟨n, by omega, date, hdate, (today.toordinal_le_iff date).2 (.inl ?_)⟩
    have hmonth := today.month_range
    have hmonth' := date.month_range
    have hyear' := (mkDate_eq_some hdate).1
    unfold PyDate.monthIndex
    omega
  by_cases hleap : stored.month = 2 ∧ stored.day = 29
  · obtain ⟨n, hn, hle, hyears⟩ := exists_leap today.year
    exact hlater n hn hle (daysInMonth_leap hday.2 hyears)
  · exact hlater 1 le_rfl (by omega) (daysInMonth_common hday.2 hleap)

/-- **The search finds the next anniversary** of every stored date. -/
theorem nextAnniversary_spec {today : PyDate} (stored : PyDate) (hyear : today.year ≤ 9991) :
    ∃ date, nextAnniversary today stored.month stored.day = some date ∧
      IsNextAnniversary today stored.month stored.day date := by
  unfold nextAnniversary
  rw [List.find?_filterMap]
  obtain ⟨n, hn, date, hdate, hle⟩ := @exists_anniversary today stored hyear
  have hfound : ((List.range 9).find? fun n =>
      (mkDate (today.year + n) stored.month stored.day).any fun occurrence =>
        today.toordinal ≤ occurrence.toordinal) ≠ none := by
    rw [Ne, List.find?_eq_none]
    simp only [not_forall]
    refine ⟨n, List.mem_range.2 hn, ?_⟩
    rw [hdate]
    simpa using hle
  obtain ⟨i, hi⟩ := Option.ne_none_iff_exists'.1 hfound
  obtain ⟨htest, -, hbefore⟩ := List.find?_range_eq_some.1 hi
  obtain ⟨found, hfound, hnot_before⟩ := (Option.any_eq_true _ _).1 htest
  rw [decide_eq_true_eq] at hnot_before
  obtain ⟨hfound_year, hmonth, hday⟩ := mkDate_eq_some hfound
  refine ⟨found, by rw [hi, Option.bind_some, hfound], hmonth, hday, hnot_before, ?_⟩
  intro other hother_month hother_day hother
  have hmonths := today.month_range
  have hmonths' := other.month_range
  -- an earlier anniversary would have been found first
  obtain ⟨k, hk⟩ : ∃ k, other.year = today.year + k := by
    refine Nat.exists_eq_add_of_le ?_
    have hindex := (today.toordinal_le_iff other).1 hother
    unfold PyDate.monthIndex at hindex
    omega
  have hself : mkDate (today.year + k) stored.month stored.day = some other := by
    rw [← hk, ← hother_month, ← hother_day, mkDate_self]
  have hle : i ≤ k := by
    by_contra hlt
    have hmissed := hbefore k (by omega)
    rw [hself, Option.any_some, decide_eq_true hother] at hmissed
    cases hmissed
  rw [PyDate.toordinal_le_iff]
  unfold PyDate.monthIndex
  omega

/-! ### The stored day -/

/-- What a stored text dates: a civil date, or the instant of an aware datetime. -/
inductive StoredDay where
  | civil (date : PyDate)
  | aware (instant : Int)
deriving DecidableEq

/-- The day a text dates; a naive datetime does not say where. -/
def storedDay? (text : String) : Option StoredDay :=
  match dateFromIsoformat text with
  | some date => some (.civil date)
  | none => do
      let parsed ← datetimeFromIsoformat (replaceZulu text)
      let offset ← parsed.offset
      return .aware (parsed.localMicros - offset)

namespace StoredDay

/-- The civil date in a time zone, when the calendar has it. -/
def civilDate (zone : Zone) : StoredDay → Option PyDate
  | .civil date => some date
  | .aware instant => (zone.fromInstant instant).toOption.map WallTime.date

/-- What `_temporal_value` makes of it: instants next to the ends of the calendar
overflow. -/
def temporal : StoredDay → Except PyError Temporal
  | .civil date => .ok (.date date)
  | .aware instant => if 0 ≤ instant ∧ instant < maxMicros then .ok (.instant instant)
      else .error dateOverflow

/-- A date, or an instant of the calendar that falls on the same month and day in UTC and
in the zone. -/
def SameDay (zone : Zone) : StoredDay → Prop
  | .civil _ => True
  | .aware instant => (0 ≤ instant ∧ instant < maxMicros) ∧
      ∃ utc household, wallTimeOf instant = .ok utc ∧ zone.fromInstant instant = .ok household ∧
        utc.date.month = household.date.month ∧ utc.date.day = household.date.day

end StoredDay

/-- The answer for the next anniversary: the date, or the days until it. -/
def anniversaryAnswer (mode : Option DateUnit) (today date : PyDate) : Json :=
  if mode = some .days then .int ((date.toordinal : Int) - today.toordinal) else .str date.isoformat

/-- `annual_occurrence` answers with the next anniversary of the stored value's civil date
in the household zone. -/
def AnswersAnniversary (values : OperatorInput) (stored : StoredDay) (now : Clock) : Prop :=
  ∃ civil ∈ stored.civilDate now.zone, ∃ date,
    IsNextAnniversary now.wall.date civil.month civil.day date ∧
      annualOccurrence values = .ok (anniversaryAnswer values.mode now.wall.date date)

theorem anniversaryAnswer_inj {mode : Option DateUnit} {today date other : PyDate}
    (h : anniversaryAnswer mode today date = anniversaryAnswer mode today other) : date = other := by
  unfold anniversaryAnswer at h
  split at h
  · have hordinal : (date.toordinal : Int) - today.toordinal = other.toordinal - today.toordinal :=
      Json.int.inj h
    have hsome := dateOfOrdinal_toordinal date
    rw [show date.toordinal = other.toordinal by omega, dateOfOrdinal_toordinal] at hsome
    exact (Option.some.inj hsome).symm
  · have hsome := dateFromIsoformat_isoformat date
    rw [Json.str.inj h, dateFromIsoformat_isoformat] at hsome
    exact (Option.some.inj hsome).symm

section Answers

variable {values : OperatorInput} {text : String} {stored : StoredDay} {now : Clock}

theorem temporalValue_stored (h : storedDay? text = some stored) :
    temporalValue (.str text) = stored.temporal := by
  unfold storedDay? at h
  unfold temporalValue
  cases hdate : dateFromIsoformat text with
  | some date =>
      rw [hdate] at h
      obtain rfl := Option.some.inj h
      dsimp only
      rw [hdate]
      rfl
  | none =>
      rw [hdate] at h
      obtain ⟨parsed, hparsed, h⟩ := Option.bind_eq_some_iff.1 h
      obtain ⟨offset, hoffset, h⟩ := Option.bind_eq_some_iff.1 h
      obtain rfl := Option.some.inj h
      dsimp only
      rw [hdate]
      dsimp only
      rw [hparsed]
      dsimp only
      rw [hoffset, Option.getD_some]
      unfold instantOf StoredDay.temporal
      dsimp only
      split <;> rfl

/-- The operator on one value whose civil date is read. -/
theorem annualOccurrence_eq {parsed : Temporal} {civil : PyDate}
    (hvalue : onlyValue values = .ok (.str text)) (hnow : values.now = some now)
    (hmode : values.mode = none ∨ values.mode = some .days)
    (hparsed : temporalValue (.str text) = .ok parsed) (hcivil : storedDate parsed = .ok civil) :
    annualOccurrence values = match nextAnniversary now.wall.date civil.month civil.day with
      | none => .error (.operatorExecution "annual occurrence is not representable")
      | some date => .ok (anniversaryAnswer values.mode now.wall.date date) := by
  have hguard : (!([none, some DateUnit.days].contains values.mode)) = false := by
    rcases hmode with h | h <;> rw [h] <;> rfl
  have hrequired : requiredNow values = .ok now := by
    unfold requiredNow
    rw [hnow]
  unfold annualOccurrence
  simp only [hguard, raiseIf, Bool.false_eq_true, if_false, hvalue, hrequired, hparsed, hcivil,
    bind, Except.bind]
  cases nextAnniversary now.wall.date civil.month civil.day <;> rfl

/-- Nothing is answered when the value or its civil date cannot be read. -/
theorem annualOccurrence_ok (hvalue : onlyValue values = .ok (.str text)) {answer : Json}
    (h : annualOccurrence values = .ok answer) :
    ∃ parsed civil, temporalValue (.str text) = .ok parsed ∧ storedDate parsed = .ok civil := by
  unfold annualOccurrence at h
  obtain ⟨-, -, h⟩ := Except.bind_eq_ok.1 h
  obtain ⟨value, hsame, h⟩ := Except.bind_eq_ok.1 h
  rw [hvalue] at hsame
  obtain rfl := Except.ok.inj hsame
  obtain ⟨now, -, h⟩ := Except.bind_eq_ok.1 h
  obtain ⟨parsed, hparsed, h⟩ := Except.bind_eq_ok.1 h
  obtain ⟨civil, hcivil, -⟩ := Except.bind_eq_ok.1 h
  exact ⟨parsed, civil, hparsed, hcivil⟩

/-- **When `annual_occurrence` answers for the household's day**: for a stored date always,
and for an aware datetime exactly when its instant falls on the same month and day in
UTC and in the household zone, within the calendar. -/
theorem annualOccurrence_iff (hvalue : onlyValue values = .ok (.str text))
    (hstored : storedDay? text = some stored) (hnow : values.now = some now)
    (hmode : values.mode = none ∨ values.mode = some .days)
    (hyear : now.wall.date.year ≤ 9991) :
    AnswersAnniversary values stored now ↔ stored.SameDay now.zone := by
  have hparsed := temporalValue_stored hstored
  cases stored with
  | civil date =>
      refine iff_of_true ?_ trivial
      obtain ⟨next, hnext, hspec⟩ := nextAnniversary_spec date hyear
      refine ⟨date, rfl, next, hspec, ?_⟩
      rw [annualOccurrence_eq hvalue hnow hmode hparsed rfl, hnext]
  | aware instant =>
      change temporalValue (.str text) = if 0 ≤ instant ∧ instant < maxMicros then
        .ok (.instant instant) else .error dateOverflow at hparsed
      constructor
      · rintro ⟨civil, hcivil, next, hspec, hanswer⟩
        obtain ⟨parsed, read, hread, hdate⟩ := annualOccurrence_ok hvalue hanswer
        by_cases hrange : 0 ≤ instant ∧ instant < maxMicros
        · rw [if_pos hrange] at hparsed
          obtain rfl := Except.ok.inj (hparsed.symm.trans hread)
          rw [annualOccurrence_eq hvalue hnow hmode hparsed hdate] at hanswer
          obtain ⟨found, hfound, hfirst⟩ := nextAnniversary_spec read hyear
          rw [hfound] at hanswer
          obtain rfl := anniversaryAnswer_inj (Except.ok.inj hanswer)
          cases hutc : wallTimeOf instant with
          | error error =>
              change (wallTimeOf instant).map WallTime.date = _ at hdate
              rw [hutc] at hdate
              cases hdate
          | ok utc =>
              change (wallTimeOf instant).map WallTime.date = _ at hdate
              rw [hutc] at hdate
              obtain rfl := Except.ok.inj hdate
              cases hlocal : now.zone.fromInstant instant with
              | error error =>
                  change (now.zone.fromInstant instant).toOption.map WallTime.date = _ at hcivil
                  rw [hlocal] at hcivil
                  cases hcivil
              | ok household =>
                  change (now.zone.fromInstant instant).toOption.map WallTime.date = _ at hcivil
                  rw [hlocal] at hcivil
                  obtain rfl := Option.some.inj hcivil
                  exact ⟨hrange, utc, household, hutc, hlocal, hfirst.month_eq.symm.trans hspec.month_eq,
                    hfirst.day_eq.symm.trans hspec.day_eq⟩
        · rw [if_neg hrange, hread] at hparsed
          cases hparsed
      · rintro ⟨hrange, utc, household, hutc, hlocal, hmonth, hday⟩
        rw [if_pos hrange] at hparsed
        have hdate : storedDate (.instant instant) = .ok utc.date := by
          change (wallTimeOf instant).map WallTime.date = _
          rw [hutc]
          rfl
        obtain ⟨next, hnext, hspec⟩ := nextAnniversary_spec utc.date hyear
        refine ⟨household.date, ?_, next, ?_, ?_⟩
        · change (now.zone.fromInstant instant).toOption.map WallTime.date = _
          rw [hlocal]
          rfl
        · rw [← hmonth, ← hday]
          exact hspec
        · rw [annualOccurrence_eq hvalue hnow hmode hparsed hdate, hnext]

end Answers

/-! ### Evenings west of Greenwich -/

/-- A household five hours behind UTC, in September 2026. -/
def westernClock : Clock where
  wall := ⟨⟨2026, 9, 28, year_2026_range, by decide⟩, 0⟩
  fold := false
  zone := Zone.fixed (-18000000000) (by decide)

/-- One stored value, asked for its next anniversary. -/
def anniversaryOf (text : String) : OperatorInput :=
  { records := [[("value", .str text)]], field := some "value", now := some westernClock }

/-- A date is answered for the household's day. -/
theorem annualOccurrence_leapDay :
    AnswersAnniversary (anniversaryOf "2024-02-29") (.civil ⟨2024, 2, 29, by decide, by decide⟩)
        westernClock ↔
      StoredDay.SameDay westernClock.zone (.civil ⟨2024, 2, 29, by decide, by decide⟩) :=
  @annualOccurrence_iff (anniversaryOf "2024-02-29") "2024-02-29" _ westernClock rfl
    (by decide +kernel) rfl (.inl rfl) (by decide)

/-- Born in the evening of 31 May, and celebrated on 1 June. -/
theorem not_answers_evening :
    storedDay? "2020-06-01T02:00:00Z" = some (.aware 63726573600000000) ∧
      ¬ AnswersAnniversary (anniversaryOf "2020-06-01T02:00:00Z") (.aware 63726573600000000)
        westernClock := by
  refine ⟨by decide +kernel, ?_⟩
  rintro ⟨civil, hcivil, date, hspec, hanswer⟩
  have hcivil' : StoredDay.civilDate westernClock.zone (.aware 63726573600000000)
      = some ⟨2020, 5, 31, by decide, by decide⟩ := by
    decide +kernel
  have hcode : annualOccurrence (anniversaryOf "2020-06-01T02:00:00Z")
      = .ok (.str "2027-06-01") := by
    decide +kernel
  obtain rfl := Option.some.inj (hcivil.symm.trans hcivil')
  rw [hcode] at hanswer
  have hdate := dateFromIsoformat_isoformat date
  rw [← Json.str.inj (Except.ok.inj hanswer)] at hdate
  have hread : dateFromIsoformat "2027-06-01" = some ⟨2027, 6, 1, by decide, by decide⟩ := by
    decide +kernel
  obtain rfl := Option.some.inj (hdate.symm.trans hread)
  exact absurd hspec.month_eq (by decide)

end HomeCortex
