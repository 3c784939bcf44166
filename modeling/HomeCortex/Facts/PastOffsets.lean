/-
# Date offsets into the past

`date_add` moves a date backward by the same rule as forward: a day the target month does
not have becomes the next month's first.  `date_difference` counts the past from the
other end, from the earlier date to the stored one.  The two meet exactly when the target
month has the stored day; else the offset lands one unit short.
-/

import HomeCortex.Facts.DateOffsets

namespace HomeCortex

namespace PyDate

variable {date target : PyDate} {months : Int}

/-- The month an offset of `months` reaches, counted from January of year 0. -/
def targetMonth (date : PyDate) (months : Int) : Nat :=
  ((date.monthIndex : Int) + months).toNat

/-- The month an offset reaches has the day of the date. -/
def KeepsDay (date : PyDate) (months : Int) : Prop :=
  date.day ≤ daysOfMonth (date.targetMonth months)

instance (date : PyDate) (months : Int) : Decidable (date.KeepsDay months) :=
  inferInstanceAs (Decidable (_ ≤ _))

/-- An offset backward reaches an earlier date, also when it overflows into the next
month: that month is at most the date's own, whose first is before the date. -/
theorem MonthsAfter.lt (h : date.MonthsAfter months target) (hmonths : months < 0) :
    target.toordinal < date.toordinal := by
  rw [toordinal_lt_iff]
  rcases h with ⟨hindex, -⟩ | ⟨index, hindex, hnext, hfirst, hshort⟩
  · omega
  · have hlength : 28 ≤ daysOfMonth index :=
      (daysInMonth_bounds (show 1 ≤ index % 12 + 1 ∧ index % 12 + 1 ≤ 12 by omega)).1
    omega

/-- The whole months back from a date: all of them when the target month has the day,
else one less. -/
theorem MonthsAfter.wholeMonths_back (h : date.MonthsAfter months target)
    (hlow : 0 ≤ (date.monthIndex : Int) + months) :
    wholeMonths target date = if date.KeepsDay months then -months else -months - 1 := by
  have hday := date.day_range.1
  unfold wholeMonths
  rcases h with ⟨hindex, hsame⟩ | ⟨index, hindex, hnext, hfirst, hshort⟩
  · have hmonth : date.targetMonth months = target.monthIndex := by
      unfold targetMonth
      omega
    have hkeeps : date.KeepsDay months := by
      show date.day ≤ daysOfMonth (date.targetMonth months)
      rw [hmonth, ← hsame]
      exact target.day_le_daysOfMonth
    rw [if_pos hkeeps, if_neg (by omega)]
    omega
  · have hmonth : date.targetMonth months = index := by
      unfold targetMonth
      omega
    have hshort : ¬date.KeepsDay months := by
      show ¬date.day ≤ daysOfMonth (date.targetMonth months)
      rw [hmonth]
      omega
    rw [if_neg hshort, if_neg (by omega)]
    omega

end PyDate

/-- The past is counted from the other end. -/
theorem wholeUnits_past {months : Bool} {start finish : WallTime}
    (h : finish.value < start.value) :
    wholeUnits months start finish = -wholeUnits months finish start := by
  have hback : ¬start.value ≤ finish.value := by omega
  have hforth : finish.value ≤ start.value := by omega
  unfold wholeUnits
  simp only [hback, hforth, if_true, if_false, one_mul, neg_one_mul]

section Offsets

open OperatorInput

variable {values : OperatorInput} {date target : PyDate} {unit : DateUnit} {amount : Int}
  {now : Clock}

/-- `date_difference` of a stored date that lies ahead. -/
theorem dateDifference_ahead (hunit : unit.IsCalendar) (hdate : values.HoldsDate date)
    (hlt : now.wall.date.toordinal < date.toordinal) :
    dateDifference (values.upTo unit now) = .ok (.int
      (if unit = .years then -(PyDate.wholeMonths now.wall.date date / 12)
        else -PyDate.wholeMonths now.wall.date date)) := by
  obtain ⟨text, honly, htext⟩ := hdate
  have honly' : onlyValue (values.upTo unit now) = .ok (.str text) := honly
  have hvalue : now.wall.date.midnight.value < date.midnight.value := by
    rw [← not_le, PyDate.midnight_value_le_iff]
    omega
  unfold dateDifference
  simp only [honly']
  simp only [upTo, requiredNow, bind, Except.bind, temporalValue_date htext]
  rcases hunit with rfl | rfl
  · rw [if_neg (by decide), ← PyDate.wholeUnits_months hlt.le, ← wholeUnits_past hvalue]
    rfl
  · rw [if_pos rfl, ← PyDate.wholeUnits_years hlt.le, ← wholeUnits_past hvalue]
    rfl

/-- The interval back to the target of an offset: all its units when the target month has
the stored day, else one unit less. -/
theorem dateDifference_back (hunit : unit.IsCalendar) (hdate : values.HoldsDate date)
    (hamount : amount < 0) (hadd : date.addUnits unit amount = .ok now.wall.date) :
    dateDifference (values.upTo unit now) = .ok (.int
      (if date.KeepsDay (unit.toMonths amount) then amount else amount + 1)) := by
  have hafter := addUnits_monthsAfter hunit hadd
  have hrange : 0 ≤ (date.monthIndex : Int) + unit.toMonths amount := by
    rcases hafter with ⟨hindex, -⟩ | ⟨index, hindex, -⟩ <;> omega
  have hback : unit.toMonths amount < 0 := by
    unfold DateUnit.toMonths
    split <;> omega
  rw [dateDifference_ahead hunit hdate (hafter.lt hback), hafter.wholeMonths_back hrange]
  rcases hunit with rfl | rfl
  · rw [if_neg (by decide)]
    show Except.ok (Json.int (-(if date.KeepsDay amount then -amount else -amount - 1)))
      = .ok (.int (if date.KeepsDay amount then amount else amount + 1))
    split <;> congr 2 <;> omega
  · rw [if_pos rfl]
    show Except.ok (Json.int (-((if date.KeepsDay (amount * 12) then -(amount * 12)
        else -(amount * 12) - 1) / 12)))
      = .ok (.int (if date.KeepsDay (amount * 12) then amount else amount + 1))
    split <;> congr 2 <;> omega

/-- **Offsets into the past agree with elapsed time exactly on the days the target month
has.**  For every stored date, years or months, and every number of units up to 120000
whose target is a date: the interval from the stored date to that target is that many
units if and only if the month reached has the stored day. -/
theorem dateAdd_back_iff (values : OperatorInput) (date : PyDate) (unit : DateUnit)
    (count : Int) (result : Json) (hunit : unit.IsCalendar) (hdate : values.HoldsDate date)
    (hcount : 1 ≤ count ∧ count ≤ 120000)
    (hadd : dateAdd (values.offsetBy unit (-count)) = .ok result) :
    ∃ target : PyDate, result = .str target.isoformat ∧
      dateFromIsoformat target.isoformat = some target ∧
      ∀ now : Clock, now.wall.date = target →
        (dateDifference (values.upTo unit now) = .ok (.int (-count)) ↔
          date.KeepsDay (unit.toMonths (-count))) := by
  obtain ⟨target, htarget, rfl⟩ := dateAdd_ok hunit hdate hadd
  refine ⟨target, rfl, dateFromIsoformat_isoformat target, ?_⟩
  rintro now rfl
  rw [dateDifference_back hunit hdate (by omega) htarget]
  split
  case isTrue hkeeps => exact iff_of_true rfl hkeeps
  case isFalse hshort =>
    refine iff_of_false (fun h => ?_) hshort
    have hsame := Json.int.inj (Except.ok.inj h)
    omega

/-- The input of one last day of March, on that day. -/
def lastOfMarch : OperatorInput :=
  { records := [[("value", .str "2023-03-31")]], field := some "value",
    now := some ⟨⟨⟨2023, 3, 31, by decide, by decide⟩, 0⟩, false, Zone.utc⟩ }

/-- The first day of that March. -/
def firstOfMarch : Clock :=
  ⟨⟨⟨2023, 3, 1, by decide, by decide⟩, 0⟩, false, Zone.utc⟩

theorem dateAdd_back_march :
    ∃ target : PyDate, Json.str "2023-01-31" = .str target.isoformat ∧
      dateFromIsoformat target.isoformat = some target ∧
      ∀ now : Clock, now.wall.date = target →
        (dateDifference (lastOfMarch.upTo .months now) = .ok (.int (-2)) ↔
          PyDate.KeepsDay ⟨2023, 3, 31, by decide, by decide⟩ (DateUnit.months.toMonths (-2))) :=
  dateAdd_back_iff lastOfMarch _ .months 2 _ (.inl rfl) ⟨"2023-03-31", rfl, by decide +kernel⟩
    (by decide) (by decide +kernel)

/-- One month before the last of March is the first of March, of which no whole month
has passed. -/
theorem dateAdd_back_short :
    dateAdd (lastOfMarch.offsetBy .months (-1)) = .ok (.str "2023-03-01") ∧
      dateFromIsoformat "2023-03-01" = some firstOfMarch.wall.date ∧
      dateDifference (lastOfMarch.upTo .months firstOfMarch) = .ok (.int 0) ∧
      dateDifference (lastOfMarch.upTo .months firstOfMarch) ≠ .ok (.int (-1)) := by
  decide +kernel

end Offsets

end HomeCortex
