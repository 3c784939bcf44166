/-
# The order of dates

Ordinals of dates order them by year, month and day.  Counting months from year 0
(`PyDate.monthIndex`), a date is a month and a day of it, ordinals increase with both
(`PyDate.toordinal_le_iff`), and `dateOfOrdinal` undoes `toordinal`.
-/

import HomeCortex.Common.Clock
import Mathlib

namespace HomeCortex

/-! ### Lengths of months and years -/

theorem daysInMonth_bounds {year month : Nat} (h : 1 ≤ month ∧ month ≤ 12) :
    28 ≤ daysInMonth year month ∧ daysInMonth year month ≤ 31 := by
  have hmonth : month = 1 ∨ month = 2 ∨ month = 3 ∨ month = 4 ∨ month = 5 ∨ month = 6 ∨ month = 7 ∨
      month = 8 ∨ month = 9 ∨ month = 10 ∨ month = 11 ∨ month = 12 := by
    omega
  rcases hmonth with rfl | rfl | rfl | rfl | rfl | rfl | rfl | rfl | rfl | rfl | rfl | rfl
  case inr.inl =>
    unfold daysInMonth
    cases isLeap year <;> decide
  all_goals simp [daysInMonth]

theorem month_range_of_daysInMonth {year month : Nat} (h : 1 ≤ daysInMonth year month) :
    1 ≤ month ∧ month ≤ 12 := by
  unfold daysInMonth at h
  split at h
  case h_13 => omega
  all_goals omega

theorem daysBeforeMonth_one (year : Nat) : daysBeforeMonth year 1 = 0 := rfl

theorem daysBeforeMonth_succ (year : Nat) {month : Nat} (h : 1 ≤ month) :
    daysBeforeMonth year (month + 1) = daysBeforeMonth year month + daysInMonth year month := by
  obtain ⟨m, rfl⟩ : ∃ m, month = m + 1 := ⟨month - 1, by omega⟩
  simp [daysBeforeMonth, List.range_succ]

theorem daysBeforeMonth_mono (year : Nat) {month later : Nat} (h : 1 ≤ month)
    (hle : month ≤ later) : daysBeforeMonth year month ≤ daysBeforeMonth year later := by
  obtain ⟨k, rfl⟩ := Nat.exists_eq_add_of_le hle
  induction k with
  | zero => exact le_rfl
  | succ k ih =>
      have := ih (Nat.le_add_right _ _)
      rw [← Nat.add_assoc, daysBeforeMonth_succ _ (by omega)]
      omega

/-- The days of a year. -/
def yearLength (year : Nat) : Nat := if isLeap year then 366 else 365

theorem daysBeforeMonth_thirteen (year : Nat) :
    daysBeforeMonth year 12 + daysInMonth year 12 = yearLength year := by
  unfold yearLength
  cases h : isLeap year <;> simp [daysBeforeMonth, List.range_succ, daysInMonth, h]

theorem isLeap_iff (year : Nat) :
    isLeap year = true ↔ year % 4 = 0 ∧ (year % 100 ≠ 0 ∨ year % 400 = 0) := by
  simp [isLeap]

theorem daysBeforeYear_succ {year : Nat} (h : 1 ≤ year) :
    daysBeforeYear (year + 1) = daysBeforeYear year + yearLength year := by
  obtain ⟨y, rfl⟩ : ∃ y, year = y + 1 := ⟨year - 1, by omega⟩
  have h4 := @Nat.succ_div y 4
  have h100 := @Nat.succ_div y 100
  have h400 := @Nat.succ_div y 400
  have hleap : isLeap (y + 1) = true ↔ 4 ∣ y + 1 ∧ (¬100 ∣ y + 1 ∨ 400 ∣ y + 1) := by
    simp only [isLeap_iff, Nat.dvd_iff_mod_eq_zero, ne_eq]
  have hcentury : 100 ∣ y + 1 → 4 ∣ y + 1 := (by decide : 4 ∣ 100).trans
  have hcycle : 400 ∣ y + 1 → 100 ∣ y + 1 := (by decide : 100 ∣ 400).trans
  unfold daysBeforeYear yearLength
  simp only [Nat.add_sub_cancel]
  rw [h4, h100, h400]
  by_cases hd4 : 4 ∣ y + 1
  · by_cases hd100 : 100 ∣ y + 1
    · by_cases hd400 : 400 ∣ y + 1
      · rw [if_pos hd4, if_pos hd100, if_pos hd400, if_pos (hleap.2 ⟨hd4, Or.inr hd400⟩)]
        omega
      · rw [if_pos hd4, if_pos hd100, if_neg hd400, if_neg (by rw [hleap]; tauto)]
        have : y / 100 ≤ y / 4 := Nat.div_le_div_left (by decide) (by decide)
        omega
    · rw [if_pos hd4, if_neg hd100, if_neg (mt hcycle hd100), if_pos (hleap.2 ⟨hd4, Or.inl hd100⟩)]
      have : y / 100 ≤ y / 4 := Nat.div_le_div_left (by decide) (by decide)
      omega
  · rw [if_neg hd4, if_neg (mt hcentury hd4), if_neg (mt (hcentury ∘ hcycle) hd4),
      if_neg (by rw [hleap]; tauto)]
    have : y / 100 ≤ y / 4 := Nat.div_le_div_left (by decide) (by decide)
    omega

/-! ### Months counted from year 0 -/

namespace PyDate

/-- The month of a date, counted from January of year 0. -/
def monthIndex (date : PyDate) : Nat := date.year * 12 + date.month - 1

end PyDate

/-- The days of a month counted from January of year 0. -/
def daysOfMonth (index : Nat) : Nat := daysInMonth (index / 12) (index % 12 + 1)

/-- The days before a month counted from January of year 0. -/
def daysBeforeIndex (index : Nat) : Nat :=
  daysBeforeYear (index / 12) + daysBeforeMonth (index / 12) (index % 12 + 1)

theorem daysBeforeIndex_succ {index : Nat} (h : 12 ≤ index) :
    daysBeforeIndex (index + 1) = daysBeforeIndex index + daysOfMonth index := by
  unfold daysBeforeIndex daysOfMonth
  by_cases hmonth : index % 12 = 11
  · have hyear : (index + 1) / 12 = index / 12 + 1 := by omega
    have hnext : (index + 1) % 12 = 0 := by omega
    have hlength := daysBeforeMonth_thirteen (index / 12)
    have hfirst := daysBeforeMonth_one (index / 12 + 1)
    simp only [hyear, hnext, hmonth, daysBeforeYear_succ (show 1 ≤ index / 12 by omega)]
    simp only [Nat.reduceAdd, Nat.zero_add]
    omega
  · have hyear : (index + 1) / 12 = index / 12 := by omega
    have hnext : (index + 1) % 12 = index % 12 + 1 := by omega
    rw [hyear, hnext, daysBeforeMonth_succ _ (by omega)]
    omega

/-- A later month starts after all days of an earlier one. -/
theorem daysBeforeIndex_lt {index later : Nat} (h : 12 ≤ index) (hlater : index < later) :
    daysBeforeIndex index + daysOfMonth index ≤ daysBeforeIndex later := by
  induction later, hlater using Nat.le_induction with
  | base => rw [daysBeforeIndex_succ h]
  | succ later hle ih =>
      rw [daysBeforeIndex_succ (by omega)]
      omega

namespace PyDate

variable (date other : PyDate)

theorem month_range : 1 ≤ date.month ∧ date.month ≤ 12 :=
  month_range_of_daysInMonth (le_trans date.day_range.1 date.day_range.2)

theorem monthIndex_div : date.monthIndex / 12 = date.year := by
  have := date.month_range
  unfold monthIndex
  omega

theorem monthIndex_mod : date.monthIndex % 12 + 1 = date.month := by
  have := date.month_range
  unfold monthIndex
  omega

theorem twelve_le_monthIndex : 12 ≤ date.monthIndex := by
  have := date.month_range
  have := date.year_range
  unfold monthIndex
  omega

theorem day_le_daysOfMonth : date.day ≤ daysOfMonth date.monthIndex := by
  rw [daysOfMonth, monthIndex_div, monthIndex_mod]
  exact date.day_range.2

theorem toordinal_eq : date.toordinal = daysBeforeIndex date.monthIndex + date.day := by
  rw [daysBeforeIndex, monthIndex_div, monthIndex_mod]
  rfl

/-- **Ordinals order dates by month and day.** -/
theorem toordinal_le_iff : date.toordinal ≤ other.toordinal ↔
    date.monthIndex < other.monthIndex ∨
      date.monthIndex = other.monthIndex ∧ date.day ≤ other.day := by
  rw [toordinal_eq, toordinal_eq]
  have hday := date.day_le_daysOfMonth
  have hday' := other.day_le_daysOfMonth
  have hpos := date.day_range.1
  have hpos' := other.day_range.1
  rcases lt_trichotomy date.monthIndex other.monthIndex with h | h | h
  · have := daysBeforeIndex_lt date.twelve_le_monthIndex h
    omega
  · rw [h]
    omega
  · have := daysBeforeIndex_lt other.twelve_le_monthIndex h
    omega

theorem toordinal_lt_iff : date.toordinal < other.toordinal ↔
    date.monthIndex < other.monthIndex ∨
      date.monthIndex = other.monthIndex ∧ date.day < other.day := by
  have h := (other.toordinal_le_iff date).not
  omega

end PyDate

theorem mkDate_self (date : PyDate) : mkDate date.year date.month date.day = some date := by
  rw [mkDate, dif_pos ⟨date.year_range, date.day_range⟩]

theorem mkDate_eq_some {year month day : Nat} {date : PyDate} (h : mkDate year month day = some date) :
    date.year = year ∧ date.month = month ∧ date.day = day := by
  unfold mkDate at h
  split at h
  · obtain rfl := Option.some.inj h
    exact ⟨rfl, rfl, rfl⟩
  · cases h

theorem mkDate_isSome {year month day : Nat} (hyear : 1 ≤ year ∧ year ≤ 9999)
    (hday : 1 ≤ day ∧ day ≤ daysInMonth year month) : (mkDate year month day).isSome = true := by
  rw [mkDate, dif_pos ⟨hyear, hday⟩]
  rfl

/-! ### The date of an ordinal -/

/-- Walking from the first of `month` over whole months reaches the day of a later one. -/
theorem dateOfDay_eq {year target day : Nat} (hday : 1 ≤ day ∧ day ≤ daysInMonth year target) :
    ∀ fuel month, 1 ≤ month → month ≤ target → target < month + fuel →
      dateOfDay year month (daysBeforeMonth year target - daysBeforeMonth year month + day) fuel
        = mkDate year target day := by
  intro fuel
  induction fuel with
  | zero => intro month _ hle hlt; omega
  | succ fuel ih =>
      intro month hpos hle hlt
      unfold dateOfDay
      by_cases hsame : month = target
      · subst hsame
        rw [Nat.sub_self, Nat.zero_add, if_pos hday.2]
      · have hbefore : daysBeforeMonth year month + daysInMonth year month
            ≤ daysBeforeMonth year target := by
          have := daysBeforeMonth_mono year (show 1 ≤ month + 1 by omega)
            (show month + 1 ≤ target by omega)
          rwa [daysBeforeMonth_succ _ hpos] at this
        rw [if_neg (by omega)]
        have hrest := ih (month + 1) (by omega) (by omega) (by omega)
        rw [daysBeforeMonth_succ _ hpos] at hrest
        rw [← hrest]
        congr 1
        omega

/-- The day of the year of a date. -/
def PyDate.dayOfYear (date : PyDate) : Nat := daysBeforeMonth date.year date.month + date.day

theorem PyDate.dayOfYear_range (date : PyDate) :
    1 ≤ date.dayOfYear ∧ date.dayOfYear ≤ yearLength date.year := by
  obtain ⟨hpos, hle⟩ := date.month_range
  have hday := date.day_range
  have hlength := daysBeforeMonth_thirteen date.year
  unfold PyDate.dayOfYear
  refine ⟨by omega, ?_⟩
  by_cases hlast : date.month = 12
  · rw [hlast] at hday ⊢
    omega
  · have hnext := daysBeforeMonth_succ date.year hpos
    have hmono := daysBeforeMonth_mono date.year (show 1 ≤ date.month + 1 by omega)
      (show date.month + 1 ≤ 12 by omega)
    omega

/-- The last day of a leap year is 31 December. -/
theorem PyDate.dayOfYear_eq_last {date : PyDate} (h : date.dayOfYear = 366) :
    date.month = 12 ∧ date.day = 31 := by
  obtain ⟨hpos, hle⟩ := date.month_range
  have hday := date.day_range
  have hlength := daysBeforeMonth_thirteen date.year
  have hyear : yearLength date.year ≤ 366 := by
    unfold yearLength
    split <;> omega
  have hdecember : daysInMonth date.year 12 = 31 := rfl
  unfold PyDate.dayOfYear at h
  have hlast : date.month = 12 := by
    by_contra hne
    have hnext := daysBeforeMonth_succ date.year hpos
    have hmono := daysBeforeMonth_mono date.year (show 1 ≤ date.month + 1 by omega)
      (show date.month + 1 ≤ 12 by omega)
    omega
  rw [hlast] at h hday
  omega

theorem div_mod_of_eq {n m q r : Nat} (h : n = q * m + r) (hr : r < m) : n / m = q ∧ n % m = r := by
  subst h
  constructor
  · rw [Nat.mul_comm, Nat.mul_add_div (by omega), Nat.div_eq_of_lt hr, Nat.add_zero]
  · rw [Nat.mul_comm, Nat.mul_add_mod, Nat.mod_eq_of_lt hr]

/-- The years before a year as whole cycles of 400, 100, 4 and 1 years. -/
structure YearCycles (year a b c e : Nat) : Prop where
  year_eq : year = a * 400 + b * 100 + c * 4 + e + 1
  centuries : b < 4
  quads : c < 25
  singles : e < 4

theorem exists_yearCycles {year : Nat} (h : 1 ≤ year) : ∃ a b c e, YearCycles year a b c e :=
  ⟨(year - 1) / 400, (year - 1) % 400 / 100, (year - 1) % 100 / 4, (year - 1) % 4,
    ⟨by omega, by omega, by omega, by omega⟩⟩

theorem YearCycles.daysBeforeYear {year a b c e : Nat} (h : YearCycles year a b c e) :
    daysBeforeYear year = a * 146097 + b * 36524 + c * 1461 + e * 365 := by
  obtain ⟨rfl, hb, hc, he⟩ := h
  have h4 := @div_mod_of_eq (a * 400 + b * 100 + c * 4 + e) 4 (a * 100 + b * 25 + c) e
    (by ring) he
  have h100 := @div_mod_of_eq (a * 400 + b * 100 + c * 4 + e) 100 (a * 4 + b) (c * 4 + e)
    (by ring) (by omega)
  have h400 := @div_mod_of_eq (a * 400 + b * 100 + c * 4 + e) 400 a (b * 100 + c * 4 + e)
    (by ring) (by omega)
  unfold HomeCortex.daysBeforeYear
  dsimp only
  rw [Nat.add_sub_cancel, h4.1, h100.1, h400.1]
  omega

/-- In a cycle of four years the last one is the leap year, in a cycle of 25 of them
the last one is not, unless it ends a cycle of 400 years. -/
theorem YearCycles.isLeap {year a b c e : Nat} (h : YearCycles year a b c e)
    (hleap : HomeCortex.isLeap year = true) : e = 3 ∧ (c = 24 → b = 3) := by
  obtain ⟨rfl, hb, hc, he⟩ := h
  have := (isLeap_iff _).1 hleap
  constructor
  · omega
  · rintro rfl
    omega

/-- The date of an ordinal before the last day of a leap year. -/
theorem YearCycles.dateOfOrdinal {year a b c e k : Nat} (h : YearCycles year a b c e)
    (hk : k < 365) :
    HomeCortex.dateOfOrdinal (HomeCortex.daysBeforeYear year + (k + 1))
      = dateOfDay year 1 (k + 1) 12 := by
  have hdays : HomeCortex.daysBeforeYear year + (k + 1) - 1
      = a * 146097 + (b * 36524 + (c * 1461 + (e * 365 + k))) := by
    rw [h.daysBeforeYear]
    omega
  have hb := h.centuries
  have hc := h.quads
  have he := h.singles
  have h400 := div_mod_of_eq hdays (by omega)
  have h100 := @div_mod_of_eq _ 36524 b (c * 1461 + (e * 365 + k)) rfl (by omega)
  have h4 := @div_mod_of_eq _ 1461 c (e * 365 + k) rfl (by omega)
  have h1 := @div_mod_of_eq _ 365 e k rfl hk
  unfold HomeCortex.dateOfOrdinal
  dsimp only
  rw [h400.1, h400.2, h100.1, h100.2, h4.1, h4.2, h1.1, h1.2, if_neg (by omega), if_neg (by omega),
    ← h.year_eq]

/-- The last day of a leap year. -/
theorem YearCycles.dateOfOrdinal_last {year a b c e : Nat} (h : YearCycles year a b c e)
    (hleap : HomeCortex.isLeap year = true) :
    HomeCortex.dateOfOrdinal (HomeCortex.daysBeforeYear year + 366) = mkDate year 12 31 := by
  obtain ⟨rfl, hcentury⟩ := h.isLeap hleap
  have hb := h.centuries
  have hc := h.quads
  have hyear := h.year_eq
  have hdays : HomeCortex.daysBeforeYear year + 366 - 1
      = a * 146097 + (b * 36524 + (c * 1461 + 1460)) := by
    rw [h.daysBeforeYear]
    omega
  have h400 := div_mod_of_eq hdays (by omega)
  unfold HomeCortex.dateOfOrdinal
  dsimp only
  rw [h400.1, h400.2, if_neg (by omega)]
  by_cases hlast : c = 24
  · have h100 := @div_mod_of_eq (b * 36524 + (c * 1461 + 1460)) 36524 4 0
      (by have := hcentury hlast; omega) (by decide)
    rw [h100.1, h100.2, if_pos (by omega)]
    congr 1
    omega
  · have h100 := @div_mod_of_eq _ 36524 b (c * 1461 + 1460) rfl (by omega)
    have h4 := @div_mod_of_eq _ 1461 c 1460 rfl (by decide)
    rw [h100.1, h100.2, h4.1, h4.2, if_pos (by omega)]
    congr 1
    omega

/-- **Ordinals tell dates apart**: the date of an ordinal is found. -/
theorem dateOfOrdinal_toordinal (date : PyDate) : dateOfOrdinal date.toordinal = some date := by
  obtain ⟨a, b, c, e, hcycles⟩ := exists_yearCycles date.year_range.1
  have hrange := date.dayOfYear_range
  have hordinal : date.toordinal = daysBeforeYear date.year + date.dayOfYear := Nat.add_assoc _ _ _
  rw [hordinal]
  unfold yearLength at hrange
  by_cases hlast : date.dayOfYear = 366
  · obtain ⟨hmonth, hday⟩ := PyDate.dayOfYear_eq_last hlast
    have hleap : isLeap date.year = true := by
      by_contra h
      rw [if_neg h] at hrange
      omega
    have hself := mkDate_self date
    rw [hmonth, hday] at hself
    rw [hlast, hcycles.dateOfOrdinal_last hleap, hself]
  · obtain ⟨k, hk⟩ : ∃ k, date.dayOfYear = k + 1 := ⟨date.dayOfYear - 1, by omega⟩
    have hwalk := dateOfDay_eq date.day_range 12 1 le_rfl date.month_range.1
      (by have := date.month_range; omega)
    rw [daysBeforeMonth_one, Nat.sub_zero, ← PyDate.dayOfYear, hk] at hwalk
    rw [hk, hcycles.dateOfOrdinal (by split at hrange <;> omega), hwalk, mkDate_self]

/-- The day after, unless it is the last of the calendar. -/
theorem exists_next (date : PyDate) (h : date.toordinal < 3652059) :
    ∃ next : PyDate, next.toordinal = date.toordinal + 1 := by
  have hyear := date.year_range
  have hmonth := date.month_range
  have hday := date.day_range
  by_cases hlast : date.day < daysInMonth date.year date.month
  · have hrange : 1 ≤ date.day + 1 ∧ date.day + 1 ≤ daysInMonth date.year date.month := by omega
    exact ⟨⟨date.year, date.month, date.day + 1, hyear, hrange⟩, rfl⟩
  · -- the first of the next month
    have hfull : date.day = daysOfMonth date.monthIndex := by
      have hle := date.day_le_daysOfMonth
      rw [daysOfMonth, date.monthIndex_div, date.monthIndex_mod] at hle ⊢
      omega
    have hindex := date.twelve_le_monthIndex
    have hordinal := date.toordinal_eq
    have hnext := daysBeforeIndex_succ hindex
    have hyear' : (date.monthIndex + 1) / 12 ≤ 9999 := by
      by_contra hover
      have hlater : 9999 * 12 + 11 < date.monthIndex + 1 := by omega
      have hend := daysBeforeIndex_lt (by decide) hlater
      have hcount : daysBeforeIndex (9999 * 12 + 11) + daysOfMonth (9999 * 12 + 11) = 3652059 := by
        decide +kernel
      omega
    have hfirst : 1 ≤ daysInMonth ((date.monthIndex + 1) / 12) ((date.monthIndex + 1) % 12 + 1) :=
      le_trans (by decide) (daysInMonth_bounds (by omega)).1
    refine ⟨⟨(date.monthIndex + 1) / 12, (date.monthIndex + 1) % 12 + 1, 1, by omega,
      le_rfl, hfirst⟩, ?_⟩
    have hstart : daysBeforeIndex (date.monthIndex + 1) + 1 = date.toordinal + 1 := by omega
    exact hstart

/-- **Every ordinal of the calendar** is one of a date. -/
theorem exists_toordinal {n : Nat} (hpos : 1 ≤ n) (h : n ≤ 3652059) :
    ∃ date : PyDate, date.toordinal = n := by
  induction n, hpos using Nat.le_induction with
  | base => exact ⟨⟨1, 1, 1, by decide, by decide⟩, by decide⟩
  | succ n hpos ih =>
      obtain ⟨date, hdate⟩ := ih (by omega)
      obtain ⟨next, hnext⟩ := exists_next date (by omega)
      exact ⟨next, hnext.trans (by omega)⟩

/-! ### Texts of dates -/

theorem repeat_push_toList (text : String) (c : Char) (k : Nat) :
    (Nat.repeat (fun acc : String => acc.push c) k text).toList
      = text.toList ++ List.replicate k c := by
  induction k with
  | zero => simp [Nat.repeat]
  | succ k ih => rw [Nat.repeat, String.toList_push, ih, List.replicate_succ', List.append_assoc]

theorem padded_toList (width n : Nat) : (padded width n).toList =
    List.replicate (width - (Nat.toDigits 10 n).length) '0' ++ Nat.toDigits 10 n := by
  have hlength : (toString n).length = (Nat.toDigits 10 n).length := by
    rw [Nat.toString_eq_ofList_toDigits, String.length_ofList]
  unfold padded
  dsimp only
  rw [String.toList_append, String.pushn_eq_repeat_push, hlength,
    Nat.toString_eq_ofList_toDigits, String.toList_ofList]
  congr 1
  exact repeat_push_toList "" '0' _

/-- A padded number that fits has its width, in digits. -/
theorem padded_digits {width n : Nat} (hwidth : 0 < width) (h : n < 10 ^ width) :
    (padded width n).toList.length = width ∧ ∀ c ∈ (padded width n).toList, c.isDigit = true := by
  have hlength := (Nat.length_toDigits_le_iff (b := 10) (n := n) (by decide) hwidth).2 h
  rw [padded_toList]
  refine ⟨by rw [List.length_append, List.length_replicate]; omega, fun c hc => ?_⟩
  rcases List.mem_append.mp hc with hzero | hdigit
  · rw [List.eq_of_mem_replicate hzero]
    rfl
  · exact Nat.isDigit_of_mem_toDigits (by decide) (by decide) hdigit

/-- The value of the digits of a padded number. -/
theorem padded_value (width n : Nat) :
    (padded width n).toList.foldl (fun acc c => 10 * acc + (c.toNat - 48)) 0 = n := by
  have h := @Nat.ofDigitChars_append 10 (List.replicate (width - (Nat.toDigits 10 n).length) '0')
    (Nat.toDigits 10 n) 0
  rw [Nat.ofDigitChars_replicate_zero, Nat.mul_zero, Nat.ofDigitChars_ten_toDigits,
    ← padded_toList, Nat.ofDigitChars_eq_foldl] at h
  exact h

/-- As many digits as asked are read back. -/
theorem readDigits_padded {width n : Nat} (hwidth : 0 < width) (h : n < 10 ^ width)
    (rest : List Char) : readDigits width ((padded width n).toList ++ rest) = some (n, rest) := by
  obtain ⟨hlength, hdigits⟩ := padded_digits hwidth h
  have htake : ((padded width n).toList ++ rest).take width = (padded width n).toList := by
    rw [List.take_append_of_le_length (by omega), List.take_of_length_le (by omega)]
  have hdrop : ((padded width n).toList ++ rest).drop width = rest := by
    rw [List.drop_append_of_le_length (by omega), List.drop_of_length_le (by omega), List.nil_append]
  unfold readDigits
  simp only [htake, hdrop, hlength, List.all_eq_true.mpr hdigits, padded_value]
  rfl

/-- A padded number does not start with a letter. -/
theorem padded_head?_ne {width n : Nat} (hwidth : 0 < width) (h : n < 10 ^ width)
    (rest : List Char) : ((padded width n).toList ++ rest).head? ≠ some 'W' := by
  obtain ⟨hlength, hdigits⟩ := padded_digits hwidth h
  cases htext : (padded width n).toList with
  | nil =>
      rw [htext, List.length_nil] at hlength
      omega
  | cons c cs =>
      intro hhead
      have hdigit := hdigits c (htext ▸ List.mem_cons_self)
      rw [List.cons_append, List.head?_cons, Option.some.injEq] at hhead
      rw [hhead] at hdigit
      exact absurd hdigit (by decide)

theorem PyDate.isoformat_toList (date : PyDate) : date.isoformat.toList =
    (padded 4 date.year).toList ++
      ('-' :: ((padded 2 date.month).toList ++ ('-' :: (padded 2 date.day).toList))) := by
  simp [PyDate.isoformat, String.toList_append]

/-- **A date is read back from its text**, whatever follows. -/
theorem readIsoDate_isoformat (date : PyDate) (rest : List Char) :
    readIsoDate (date.isoformat.toList ++ rest) = some (date, rest) := by
  have hyear := date.year_range
  have hmonth := date.month_range
  have hday := date.day_range
  have hlast := (@daysInMonth_bounds date.year _ hmonth).2
  rw [PyDate.isoformat_toList, List.append_assoc, List.cons_append, List.append_assoc,
    List.cons_append]
  have hfour := readDigits_padded (show 0 < 4 by decide) (show date.year < 10 ^ 4 by omega)
  have hend := readDigits_padded (show 0 < 2 by decide) (show date.day < 10 ^ 2 by omega) rest
  generalize (padded 2 date.day).toList ++ rest = last at hend ⊢
  have htwo := readDigits_padded (show 0 < 2 by decide) (show date.month < 10 ^ 2 by omega)
    ('-' :: last)
  -- a month starts with a digit, so the form is not a week's
  have hweek := padded_head?_ne (show 0 < 2 by decide) (show date.month < 10 ^ 2 by omega)
    ('-' :: last)
  generalize (padded 2 date.month).toList ++ '-' :: last = tail at htwo hweek ⊢
  unfold readIsoDate
  rw [hfour]
  simp [hweek, htwo, hend, mkDate_self]

theorem dateFromIsoformat_isoformat (date : PyDate) :
    dateFromIsoformat date.isoformat = some date := by
  have hread := readIsoDate_isoformat date []
  rw [List.append_nil] at hread
  rw [dateFromIsoformat, hread]

end HomeCortex
