/-
# Calendar dates

Python's `datetime.date`: a year from 1 to 9999, a month and a day of the
proleptic Gregorian calendar, and `date.fromisoformat`, which reads the calendar
forms `YYYY-MM-DD` and `YYYYMMDD` and the week forms `YYYY-Www[-D]` and
`YYYYWww[D]`.
-/

import HomeCortex.Common.Json

namespace HomeCortex

/-- A leap year. -/
def isLeap (year : Nat) : Bool := year % 4 == 0 && (year % 100 != 0 || year % 400 == 0)

def daysInMonth (year month : Nat) : Nat :=
  match month with
  | 1 | 3 | 5 | 7 | 8 | 10 | 12 => 31
  | 4 | 6 | 9 | 11 => 30
  | 2 => if isLeap year then 29 else 28
  | _ => 0

/-- `datetime.date`. -/
structure PyDate where
  year : Nat
  month : Nat
  day : Nat
  year_range : 1 ≤ year ∧ year ≤ 9999
  day_range : 1 ≤ day ∧ day ≤ daysInMonth year month
deriving DecidableEq, Repr

/-- 2026 is a year of the calendar. -/
theorem year_2026_range : 1 ≤ 2026 ∧ 2026 ≤ 9999 := by decide

/-- The days before 1 January of `year`. -/
def daysBeforeYear (year : Nat) : Nat :=
  let y := year - 1
  y * 365 + y / 4 - y / 100 + y / 400

/-- The days of `year` before the first of `month`. -/
def daysBeforeMonth (year month : Nat) : Nat :=
  ((List.range (month - 1)).map fun m => daysInMonth year (m + 1)).sum

/-- `date.toordinal`: 1 January of year 1 is day 1. -/
def PyDate.toordinal (date : PyDate) : Nat :=
  daysBeforeYear date.year + daysBeforeMonth date.year date.month + date.day

/-- `date(year, month, day)`. -/
def mkDate (year month day : Nat) : Option PyDate :=
  if h : (1 ≤ year ∧ year ≤ 9999) ∧ (1 ≤ day ∧ day ≤ daysInMonth year month) then
    some ⟨year, month, day, h.1, h.2⟩
  else none

/-- The first month `m ≥ month`, among the next `fuel`, that ends on or after
day `n` counted from the first of `month`. -/
def dateOfDay (year month n : Nat) : Nat → Option PyDate
  | 0 => none
  | fuel + 1 =>
      if n ≤ daysInMonth year month then mkDate year month n
      else dateOfDay year (month + 1) (n - daysInMonth year month) fuel

/-- The date of day `n` of `year`, which may lie in a neighbouring year. -/
def dateOfYearDay (year : Nat) (n : Int) : Option PyDate :=
  let length := if isLeap year then 366 else 365
  if n ≤ 0 then
    dateOfDay (year - 1) 1 (n + if isLeap (year - 1) then 366 else 365).toNat 12
  else if n ≤ length then dateOfDay year 1 n.toNat 12
  else dateOfDay (year + 1) 1 (n - length).toNat 12

/-- The weekday of 1 January, Monday being 0. -/
def firstWeekday (year : Nat) : Nat := (daysBeforeYear year + 7) % 7

/-- `iso_to_ymd`: a week belongs to the year that has its Thursday. -/
def dateOfIsoWeek (year week day : Nat) : Option PyDate :=
  let first := firstWeekday year
  let longYear := first == 3 || (first == 2 && isLeap year)
  let weekOk := 1 ≤ week && (week ≤ 52 || (week == 53 && longYear))
  if weekOk && 1 ≤ day && day ≤ 7 && 1 ≤ year && year ≤ 9999 then
    let monday : Int := if first ≤ 3 then 1 - (first : Int) else 8 - (first : Int)
    dateOfYearDay year (monday + 7 * ((week : Int) - 1) + ((day : Int) - 1))
  else none

/-- Read exactly `n` ASCII digits. -/
def readDigits : Nat → List Char → Option (Nat × List Char)
  | n, cs =>
      let digits := cs.take n
      if digits.length = n && digits.all Char.isDigit then
        some (digits.foldl (fun acc c => 10 * acc + (c.toNat - 48)) 0, cs.drop n)
      else none

/-- The date at the start of a text, and what follows it. -/
def readIsoDate (cs : List Char) : Option (PyDate × List Char) := do
  let (year, rest) ← readDigits 4 cs
  let dashed := rest.head? = some '-'
  let rest := if dashed then rest.drop 1 else rest
  if rest.head? = some 'W' then
    let (week, rest) ← readDigits 2 (rest.drop 1)
    let weekday :=
      if dashed then (if rest.head? = some '-' then readDigits 1 (rest.drop 1) else none)
      else readDigits 1 rest
    match weekday with
    | some (day, rest) => return (← dateOfIsoWeek year week day, rest)
    | none => return (← dateOfIsoWeek year week 1, rest)
  else
    let (month, rest) ← readDigits 2 rest
    let rest ← if dashed then (if rest.head? = some '-' then some (rest.drop 1) else none)
      else some rest
    let (day, rest) ← readDigits 2 rest
    return (← mkDate year month day, rest)

/-- `date.fromisoformat`. -/
def dateFromIsoformat (text : String) : Option PyDate :=
  match readIsoDate text.toList with
  | some (date, []) => some date
  | _ => none

example : (dateFromIsoformat "2024-02-29").map PyDate.toordinal = some 738945 := by
  decide +kernel

example : dateFromIsoformat "2021-W01-1" = dateFromIsoformat "20210104" ∧
    dateFromIsoformat "2023-02-29" = none := by
  decide +kernel

end HomeCortex
