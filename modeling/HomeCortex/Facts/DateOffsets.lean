/-
# Date offsets and date intervals

`date_add` moves a date by whole months; `date_difference` counts the whole months, or
years, between a date and today.  The two are adjoint: the date an offset reaches is
the first day on which that many units are complete.  A day the target month does not
have becomes the next month's first, so both sides agree at the ends of months and on
29 February.
-/

import HomeCortex.Common.Calendar
import HomeCortex.Facts.Operators

namespace HomeCortex

/-! ### Moving a date -/

/-- The date of a month counted from January of year 0. -/
theorem mkDate_of_index {index day : Nat} (hindex : 12 ≤ index ∧ index < 120000)
    (hday : 1 ≤ day ∧ day ≤ daysOfMonth index) :
    ∃ date, mkDate (index / 12) (index % 12 + 1) day = some date ∧
      date.monthIndex = index ∧ date.day = day := by
  have hsome := mkDate_isSome (show 1 ≤ index / 12 ∧ index / 12 ≤ 9999 by omega) hday
  obtain ⟨date, hdate⟩ := Option.isSome_iff_exists.1 hsome
  obtain ⟨hyear, hmonth, hsame⟩ := mkDate_eq_some hdate
  refine ⟨date, hdate, ?_, hsame⟩
  unfold PyDate.monthIndex
  omega

namespace PyDate

variable {date later target target' : PyDate} {months more : Int}

/-- The date `months` months after `date`: on the same day of the month, or on the
next month's first when the month is too short. -/
def MonthsAfter (date : PyDate) (months : Int) (target : PyDate) : Prop :=
  ((target.monthIndex : Int) = date.monthIndex + months ∧ target.day = date.day) ∨
    ∃ index : Nat, (index : Int) = date.monthIndex + months ∧ target.monthIndex = index + 1 ∧
      target.day = 1 ∧ daysOfMonth index < date.day

/-- December has 31 days: it is never too short. -/
theorem short_month {index : Nat} (date : PyDate) (h : daysOfMonth index < date.day) :
    index % 12 ≠ 11 := by
  intro hlast
  have hday := date.day_range.2
  have hbound := (@daysInMonth_bounds date.year _ date.month_range).2
  rw [daysOfMonth, hlast] at h
  simp only [daysInMonth] at h
  omega

/-- The day after a month's last is the next month's first. -/
theorem addDays_one {index : Nat} (hindex : 12 ≤ index ∧ index + 1 < 120000)
    (hmonth : date.monthIndex = index) (hday : date.day = daysOfMonth index) :
    ∃ next, date.addDays 1 = .ok next ∧ next.monthIndex = index + 1 ∧ next.day = 1 := by
  have hlength : 1 ≤ daysOfMonth (index + 1) := by
    have := (@daysInMonth_bounds ((index + 1) / 12) _
      (show 1 ≤ (index + 1) % 12 + 1 ∧ (index + 1) % 12 + 1 ≤ 12 by omega)).1
    unfold daysOfMonth
    omega
  obtain ⟨next, -, hnext, hfirst⟩ := @mkDate_of_index (index + 1) _ (by omega)
    ⟨le_rfl, hlength⟩
  have hordinal : (date.toordinal + 1 : Int).toNat = next.toordinal := by
    rw [toordinal_eq, toordinal_eq, hmonth, hnext, hfirst, hday, daysBeforeIndex_succ hindex.1]
    omega
  refine ⟨next, ?_, hnext, hfirst⟩
  rw [addDays, hordinal, dateOfOrdinal_toordinal]

/-- **What `addMonths` computes**, whenever the target month lies in the calendar. -/
theorem addMonths_spec (hlow : 12 ≤ (date.monthIndex : Int) + months)
    (hhigh : (date.monthIndex : Int) + months < 120000) :
    ∃ target, date.addMonths months = .ok target ∧ date.MonthsAfter months target := by
  obtain ⟨index, hindex⟩ : ∃ index : Nat, (index : Int) = date.monthIndex + months :=
    ⟨((date.monthIndex : Int) + months).toNat, by omega⟩
  have hmonth := date.month_range
  have htotal : (date.year : Int) * 12 + date.month - 1 + months = index := by
    rw [hindex]
    unfold monthIndex
    omega
  have hyear : ((index : Int) / 12).toNat = index / 12 := by omega
  have hrest : ((index : Int) % 12).toNat = index % 12 := by omega
  have hlength := @daysInMonth_bounds (index / 12) _
    (show 1 ≤ index % 12 + 1 ∧ index % 12 + 1 ≤ 12 by omega)
  have hday := date.day_range.1
  unfold addMonths
  simp only [htotal, hyear, hrest]
  by_cases hshort : daysInMonth (index / 12) (index % 12 + 1) < date.day
  · have hdecember := short_month date hshort
    obtain ⟨last, hlast, hmonth, hday⟩ := @mkDate_of_index index
      (daysInMonth (index / 12) (index % 12 + 1)) (by omega) ⟨by omega, le_rfl⟩
    obtain ⟨next, hnext, hindex', hfirst⟩ := addDays_one (by omega) hmonth hday
    refine ⟨next, ?_, .inr ⟨index, hindex, hindex', hfirst, hshort⟩⟩
    have hmin : date.day.min (daysInMonth (index / 12) (index % 12 + 1))
        = daysInMonth (index / 12) (index % 12 + 1) := Nat.min_eq_right (by omega)
    rw [hmin, hlast]
    simp only [if_pos hshort, hnext]
  · obtain ⟨target, htarget, hmonth, hsame⟩ := @mkDate_of_index index date.day (by omega)
      ⟨hday, by unfold daysOfMonth; omega⟩
    refine ⟨target, ?_, .inl ⟨by omega, hsame⟩⟩
    have hmin : date.day.min (daysInMonth (index / 12) (index % 12 + 1)) = date.day :=
      Nat.min_eq_left (by omega)
    rw [hmin, htarget]
    simp only [if_neg hshort]
    rfl

/-- Outside the calendar there is no target. -/
theorem addMonths_range (h : date.addMonths months = .ok target) :
    12 ≤ (date.monthIndex : Int) + months ∧ (date.monthIndex : Int) + months < 120000 := by
  have hmonth := date.month_range
  have htotal : (date.year : Int) * 12 + date.month - 1 + months
      = date.monthIndex + months := by
    unfold monthIndex
    omega
  unfold addMonths at h
  simp only [htotal] at h
  split at h
  case h_1 => cases h
  case h_2 reached hreached =>
    obtain ⟨hyear, -, -⟩ := mkDate_eq_some hreached
    have hrange := reached.year_range
    omega

theorem addMonths_monthsAfter (h : date.addMonths months = .ok target) :
    date.MonthsAfter months target := by
  obtain ⟨hlow, hhigh⟩ := addMonths_range h
  obtain ⟨reached, hreached, hafter⟩ := addMonths_spec hlow hhigh
  rw [h] at hreached
  obtain rfl := Except.ok.inj hreached
  exact hafter

/-- A later month of offsets, or a later start, reaches a later date. -/
theorem MonthsAfter.mono (h : date.MonthsAfter months target)
    (h' : later.MonthsAfter more target') (hdate : date.toordinal ≤ later.toordinal)
    (hmonths : months ≤ more) : target.toordinal ≤ target'.toordinal := by
  rw [toordinal_le_iff] at hdate ⊢
  have hpos := target'.day_range.1
  have hdays := target'.day_le_daysOfMonth
  rcases h with ⟨hindex, hday⟩ | ⟨index, hindex, hnext, hday, hshort⟩ <;>
    rcases h' with ⟨hindex', hday'⟩ | ⟨index', hindex', hnext', hday', hshort'⟩
  · omega
  · omega
  · -- the same month is too short for the earlier day but has the later one
    by_cases hsame : target'.monthIndex = index
    · rw [hsame] at hdays
      omega
    · omega
  · omega

/-! ### Whole months between two dates -/

/-- The whole months from `date` to `later`. -/
def wholeMonths (date later : PyDate) : Int :=
  (later.monthIndex : Int) - date.monthIndex - if later.day < date.day then 1 else 0

theorem midnight_value : date.midnight.value = ((date.toordinal : Int) - 1) * dayMicros :=
  Int.add_zero _

theorem midnight_value_le_iff :
    date.midnight.value ≤ later.midnight.value ↔ date.toordinal ≤ later.toordinal := by
  have hpos : (0 : Int) < dayMicros := by decide
  rw [midnight_value, midnight_value, Int.mul_le_mul_right hpos]
  omega

theorem wholeUnits_months (h : date.toordinal ≤ later.toordinal) :
    wholeUnits true date.midnight later.midnight = wholeMonths date later := by
  have hle : date.midnight.value ≤ later.midnight.value := midnight_value_le_iff.2 h
  have hmonth := date.month_range
  have hmonth' := later.month_range
  unfold wholeUnits
  simp only [hle, if_true, one_mul]
  unfold wholeMonths monthIndex midnight
  simp only [lt_self_iff_false, and_false, or_false, decide_eq_true_eq]
  omega

/-- Twelve whole months are a whole year. -/
theorem wholeUnits_years (h : date.toordinal ≤ later.toordinal) :
    wholeUnits false date.midnight later.midnight = wholeMonths date later / 12 := by
  have hle : date.midnight.value ≤ later.midnight.value := midnight_value_le_iff.2 h
  have hmonth := date.month_range
  have hmonth' := later.month_range
  unfold wholeUnits
  simp only [hle, if_true, one_mul, Bool.false_eq_true, if_false]
  unfold wholeMonths monthIndex midnight
  simp only [lt_self_iff_false, and_false, or_false, decide_eq_true_eq]
  split <;> split <;> omega

/-- At the target all months are complete. -/
theorem MonthsAfter.wholeMonths_eq (h : date.MonthsAfter months target) :
    wholeMonths date target = months := by
  unfold wholeMonths
  have hday := date.day_range.1
  rcases h with ⟨hindex, hsame⟩ | ⟨index, hindex, hnext, hfirst, hshort⟩
  · rw [hsame, if_neg (lt_irrefl _)]
    omega
  · have hlength : 28 ≤ daysOfMonth index :=
      (daysInMonth_bounds (show 1 ≤ index % 12 + 1 ∧ index % 12 + 1 ≤ 12 by omega)).1
    rw [if_pos (by omega)]
    omega

/-- Before the target one is not. -/
theorem MonthsAfter.wholeMonths_lt (h : date.MonthsAfter months target)
    (hlater : later.toordinal < target.toordinal) : wholeMonths date later < months := by
  rw [toordinal_lt_iff] at hlater
  have hdays := later.day_le_daysOfMonth
  unfold wholeMonths
  rcases h with ⟨hindex, hsame⟩ | ⟨index, hindex, hnext, hfirst, hshort⟩
  · split <;> omega
  · by_cases hmonth : later.monthIndex = index
    · rw [hmonth] at hdays
      rw [if_pos (by omega)]
      omega
    · have hpos := later.day_range.1
      split <;> omega

/-- The target of an offset forward is not before its start. -/
theorem MonthsAfter.le (h : date.MonthsAfter months target) (hmonths : 0 ≤ months) :
    date.toordinal ≤ target.toordinal :=
  MonthsAfter.mono (.inl ⟨by omega, rfl⟩ : date.MonthsAfter 0 date) h le_rfl hmonths

end PyDate

/-! ### The operators on a stored date -/

namespace OperatorInput

variable {values values' : OperatorInput} {date later target target' : PyDate} {unit : DateUnit}
  {amount more : Int} {now : Clock}

/-- The input is one stored date. -/
def HoldsDate (values : OperatorInput) (date : PyDate) : Prop :=
  ∃ text, onlyValue values = .ok (.str text) ∧ dateFromIsoformat text = some date

/-- The input of an offset by `amount` units. -/
def offsetBy (values : OperatorInput) (unit : DateUnit) (amount : Int) : OperatorInput :=
  { values with mode := some unit, amount := some amount }

/-- The input of an interval up to `now`. -/
def upTo (values : OperatorInput) (unit : DateUnit) (now : Clock) : OperatorInput :=
  { values with mode := some unit, now := some now }

end OperatorInput

open OperatorInput

/-- Years or months. -/
def DateUnit.IsCalendar (unit : DateUnit) : Prop := unit = .months ∨ unit = .years

/-- The months of that many units. -/
def DateUnit.toMonths (unit : DateUnit) (amount : Int) : Int :=
  if unit = .years then amount * 12 else amount

/-- The month an offset from a date reaches lies in the calendar. -/
def PyDate.Representable (date : PyDate) (unit : DateUnit) (amount : Int) : Prop :=
  12 ≤ (date.monthIndex : Int) + unit.toMonths amount ∧
    (date.monthIndex : Int) + unit.toMonths amount < 120000

instance (date : PyDate) (unit : DateUnit) (amount : Int) :
    Decidable (date.Representable unit amount) :=
  inferInstanceAs (Decidable (_ ∧ _))

section Offsets

variable {values values' : OperatorInput} {date later target target' : PyDate} {unit : DateUnit}
  {amount more : Int} {now : Clock}

theorem temporalValue_date {text : String} (h : dateFromIsoformat text = some date) :
    temporalValue (.str text) = .ok (.date date) := by
  simp only [temporalValue, h]

theorem addUnits_calendar (hunit : unit.IsCalendar) :
    date.addUnits unit amount = offsetRange (date.addMonths (unit.toMonths amount)) := by
  rcases hunit with rfl | rfl <;> rfl

theorem addUnits_representable (hunit : unit.IsCalendar) (h : date.Representable unit amount) :
    ∃ target, date.addUnits unit amount = .ok target ∧
      date.MonthsAfter (unit.toMonths amount) target := by
  obtain ⟨target, htarget, hafter⟩ := PyDate.addMonths_spec h.1 h.2
  refine ⟨target, ?_, hafter⟩
  rw [addUnits_calendar hunit, htarget]
  rfl

theorem addUnits_not_representable (hunit : unit.IsCalendar)
    (h : ¬date.Representable unit amount) :
    date.addUnits unit amount = .error offsetOutOfRange := by
  have hmonth := date.month_range
  have htotal : (date.year : Int) * 12 + date.month - 1 + unit.toMonths amount
      = date.monthIndex + unit.toMonths amount := by
    unfold PyDate.monthIndex
    omega
  rw [addUnits_calendar hunit]
  unfold PyDate.addMonths
  simp only [htotal]
  split
  case h_1 => rfl
  case h_2 reached hreached =>
    obtain ⟨hyear, -, -⟩ := mkDate_eq_some hreached
    have hrange := reached.year_range
    exact absurd ⟨by omega, by omega⟩ h

theorem addUnits_monthsAfter (hunit : unit.IsCalendar)
    (h : date.addUnits unit amount = .ok target) :
    date.MonthsAfter (unit.toMonths amount) target := by
  rw [addUnits_calendar hunit] at h
  refine PyDate.addMonths_monthsAfter ?_
  cases hmonths : date.addMonths (unit.toMonths amount) with
  | ok reached => rwa [hmonths] at h
  | error error =>
      rw [hmonths] at h
      cases error <;> cases h

/-- `date_add` of a stored date. -/
theorem dateAdd_date (hunit : unit.IsCalendar) (hdate : values.HoldsDate date)
    (hnow : values.now = some now) (hamount : amount.natAbs ≤ 120000) :
    dateAdd (values.offsetBy unit amount)
      = (date.addUnits unit amount).map fun target => .str target.isoformat := by
  obtain ⟨text, honly, htext⟩ := hdate
  have honly' : onlyValue (values.offsetBy unit amount) = .ok (.str text) := honly
  have hnow' : requiredNow (values.offsetBy unit amount) = .ok now := by
    unfold requiredNow offsetBy
    simp only [hnow]
  have hguard : (decide (120000 < amount.natAbs) || unit == .seconds) = false := by
    rw [Bool.or_eq_false_iff, decide_eq_false_iff_not]
    refine ⟨by omega, ?_⟩
    rcases hunit with rfl | rfl <;> rfl
  unfold dateAdd
  simp only [honly', hnow']
  simp only [offsetBy, hguard, raiseIf, Bool.false_eq_true, if_false, bind, Except.bind,
    temporalValue_date htext]
  cases date.addUnits unit amount <;> rfl

/-- What `date_add` returns for a stored date is the text of the date reached. -/
theorem dateAdd_ok (hunit : unit.IsCalendar) (hdate : values.HoldsDate date) {result : Json}
    (h : dateAdd (values.offsetBy unit amount) = .ok result) :
    ∃ target, date.addUnits unit amount = .ok target ∧ result = .str target.isoformat := by
  have hamount : amount.natAbs ≤ 120000 := by
    by_contra hlarge
    have hguard : (decide (120000 < amount.natAbs) || unit == .seconds) = true := by
      rw [Bool.or_eq_true, decide_eq_true_eq]
      exact .inl (by omega)
    unfold dateAdd at h
    simp only [offsetBy, hguard] at h
    cases h
  obtain ⟨now, hnow⟩ : ∃ now, values.now = some now := by
    cases hnow : values.now with
    | some now => exact ⟨now, rfl⟩
    | none =>
        obtain ⟨text, honly, htext⟩ := hdate
        have honly' : onlyValue (values.offsetBy unit amount) = .ok (.str text) := honly
        have hnow' : (values.offsetBy unit amount).now = none := hnow
        unfold dateAdd at h
        simp only [honly', requiredNow, hnow'] at h
        simp only [offsetBy, bind, Except.bind, temporalValue_date htext] at h
        cases hguard : (decide (120000 < amount.natAbs) || unit == .seconds) <;>
          rw [hguard] at h <;> cases h
  rw [dateAdd_date hunit hdate hnow hamount] at h
  cases hadd : date.addUnits unit amount with
  | error error =>
      rw [hadd] at h
      cases h
  | ok target =>
      rw [hadd] at h
      exact ⟨target, rfl, (Except.ok.inj h).symm⟩

/-- `date_difference` of a stored date counts the whole units since it. -/
theorem dateDifference_date (hunit : unit.IsCalendar) (hdate : values.HoldsDate date)
    (hle : date.toordinal ≤ now.wall.date.toordinal) :
    dateDifference (values.upTo unit now) = .ok (.int
      (if unit = .years then PyDate.wholeMonths date now.wall.date / 12
        else PyDate.wholeMonths date now.wall.date)) := by
  obtain ⟨text, honly, htext⟩ := hdate
  have honly' : onlyValue (values.upTo unit now) = .ok (.str text) := honly
  unfold dateDifference
  simp only [honly']
  simp only [upTo, requiredNow, bind, Except.bind, temporalValue_date htext]
  rcases hunit with rfl | rfl
  · rw [if_neg (by decide), ← PyDate.wholeUnits_months hle]
    rfl
  · rw [if_pos rfl, ← PyDate.wholeUnits_years hle]
    rfl

/-- **Offsets and intervals are adjoint.**  An offset of years or months from a stored
date is a date whenever its month lies in the calendar; an offset forward reaches the
first day on which that many whole units are complete; and offsets are monotone in the
stored date and in the amount. -/
theorem dateAdd_adjoint (unit : DateUnit) (hunit : unit.IsCalendar) :
    (∀ (values : OperatorInput) (date : PyDate) (now : Clock) (amount : Int),
      values.HoldsDate date → values.now = some now → 0 ≤ amount → amount ≤ 120000 →
      if date.Representable unit amount then
        ∃ target : PyDate,
          dateAdd (values.offsetBy unit amount) = .ok (.str target.isoformat) ∧
          dateFromIsoformat target.isoformat = some target ∧
          (∀ today : Clock, today.wall.date = target →
            dateDifference (values.upTo unit today) = .ok (.int amount)) ∧
          ∀ today : Clock, date.toordinal ≤ today.wall.date.toordinal →
            today.wall.date.toordinal < target.toordinal →
            ∃ count < amount, dateDifference (values.upTo unit today) = .ok (.int count)
      else dateAdd (values.offsetBy unit amount) = .error offsetOutOfRange) ∧
    ∀ (values values' : OperatorInput) (date later : PyDate) (amount more : Int)
      (result result' : Json), values.HoldsDate date → values'.HoldsDate later →
      date.toordinal ≤ later.toordinal → amount ≤ more →
      dateAdd (values.offsetBy unit amount) = .ok result →
      dateAdd (values'.offsetBy unit more) = .ok result' →
      ∃ target target' : PyDate, result = .str target.isoformat ∧
        result' = .str target'.isoformat ∧ target.toordinal ≤ target'.toordinal := by
  refine ⟨fun values date now amount hdate hnow hpos hbound => ?_,
    fun values values' date later amount more result result' hdate hlater hle hamount h h' => ?_⟩
  · have hadd := dateAdd_date hunit hdate hnow (show amount.natAbs ≤ 120000 by omega)
    split
    case isFalse hout => rw [hadd, addUnits_not_representable hunit hout]; rfl
    case isTrue hin =>
      obtain ⟨target, htarget, hafter⟩ := addUnits_representable hunit hin
      have hforward : 0 ≤ unit.toMonths amount := by
        unfold DateUnit.toMonths
        split <;> omega
      refine ⟨target, by rw [hadd, htarget]; rfl, dateFromIsoformat_isoformat target, ?_, ?_⟩
      · rintro today rfl
        rw [dateDifference_date hunit hdate (hafter.le hforward), hafter.wholeMonths_eq]
        unfold DateUnit.toMonths
        split <;> congr 2
        omega
      · intro today hstart hbefore
        refine ⟨_, ?_, dateDifference_date hunit hdate hstart⟩
        have hlt := hafter.wholeMonths_lt hbefore
        unfold DateUnit.toMonths at hlt
        split at hlt
        case isTrue hyears => rw [if_pos hyears]; omega
        case isFalse hmonths => rwa [if_neg hmonths]
  · obtain ⟨target, htarget, rfl⟩ := dateAdd_ok hunit hdate h
    obtain ⟨target', htarget', rfl⟩ := dateAdd_ok hunit hlater h'
    refine ⟨target, target', rfl, rfl,
      (addUnits_monthsAfter hunit htarget).mono (addUnits_monthsAfter hunit htarget') hle ?_⟩
    unfold DateUnit.toMonths
    split <;> omega

/-- The input of one leap day. -/
def leapDay : OperatorInput :=
  { records := [[("value", .str "2024-02-29")]], field := some "value",
    now := some ⟨⟨⟨2024, 2, 29, by decide, by decide⟩, 0⟩, false, Zone.utc⟩ }

theorem dateAdd_adjoint_leapDay :
    (∃ target : PyDate, dateAdd (leapDay.offsetBy .years 1) = .ok (.str target.isoformat) ∧
      dateFromIsoformat target.isoformat = some target) ∧
    ∃ target target' : PyDate, Json.str "2025-03-01" = .str target.isoformat ∧
      Json.str "2028-02-29" = .str target'.isoformat ∧ target.toordinal ≤ target'.toordinal := by
  have hdate : leapDay.HoldsDate ⟨2024, 2, 29, by decide, by decide⟩ :=
    ⟨"2024-02-29", rfl, by decide +kernel⟩
  obtain ⟨hadjoint, hmono⟩ := dateAdd_adjoint .years (.inr rfl)
  constructor
  · have h := hadjoint _ _ _ 1 hdate rfl (by decide) (by decide)
    rw [if_pos (by decide)] at h
    obtain ⟨target, hadd, hread, -⟩ := h
    exact ⟨target, hadd, hread⟩
  · exact hmono _ _ _ _ 1 4 _ _ hdate hdate le_rfl (by decide) (by decide +kernel) (by decide +kernel)

end Offsets

end HomeCortex
