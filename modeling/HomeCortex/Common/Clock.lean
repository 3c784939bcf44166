/-
# Instants, zones and the household clock

An aware `datetime` is an instant: microseconds since midnight of 1 January of
year 1, UTC.  A `tzinfo` is a `Zone`: the offset it gives to a wall time (with its
`fold`) and to an instant.  Python raises `OverflowError` when a conversion leaves
the years 1 to 9999; the household clock is an aware wall time.
-/

import HomeCortex.Common.Datetimes

namespace HomeCortex

/-- The first microsecond after 31 December 9999. -/
def maxMicros : Int := 3652059 * dayMicros

/-- `OverflowError: date value out of range`. -/
def dateOverflow : PyError := .overflow "date value out of range"

/-- The date with ordinal `n`, as `date.fromordinal` finds it: whole cycles of 400,
100, 4 and 1 years first. -/
def dateOfOrdinal (n : Nat) : Option PyDate :=
  let days := n - 1
  let n400 := days / 146097
  let days := days % 146097
  let n100 := days / 36524
  let days := days % 36524
  let n4 := days / 1461
  let days := days % 1461
  let n1 := days / 365
  let days := days % 365
  let year := n400 * 400 + n100 * 100 + n4 * 4 + n1 + 1
  if n = 0 then none
  else if n1 = 4 ∨ n100 = 4 then mkDate (year - 1) 12 31
  else dateOfDay year 1 (days + 1) 12

/-- `date + timedelta(days=n)`. -/
def PyDate.addDays (date : PyDate) (n : Int) : Except PyError PyDate :=
  match dateOfOrdinal (date.toordinal + n).toNat with
  | some date => .ok date
  | none => .error dateOverflow

/-- `tzinfo`: its offset at a wall time with its `fold`, and at an instant. -/
structure Zone where
  wall_offset : Int → Bool → Int
  instant_offset : Int → Int
  wall_range : ∀ wall fold, -(dayMicros : Int) < wall_offset wall fold ∧
    wall_offset wall fold < dayMicros
  instant_range : ∀ instant, -(dayMicros : Int) < instant_offset instant ∧
    instant_offset instant < dayMicros

/-- A zone with one offset. -/
def Zone.fixed (offset : Int) (h : -(dayMicros : Int) < offset ∧ offset < dayMicros) : Zone :=
  ⟨fun _ _ => offset, fun _ => offset, fun _ _ => h, fun _ => h⟩

/-- `timezone.utc`. -/
def Zone.utc : Zone := Zone.fixed 0 (by decide)

/-- A date and the time of day in microseconds. -/
structure WallTime where
  date : PyDate
  micros : Nat
deriving DecidableEq

/-- Microseconds since midnight of 1 January of year 1 on the same clock. -/
def WallTime.value (wall : WallTime) : Int :=
  ((wall.date.toordinal : Int) - 1) * dayMicros + wall.micros

/-- The wall time of that many microseconds. -/
def wallTimeOf (value : Int) : Except PyError WallTime :=
  match dateOfOrdinal (value / dayMicros + 1).toNat with
  | some date => .ok ⟨date, (value % dayMicros).toNat⟩
  | none => .error dateOverflow

/-- The instant of a wall time with an offset, as `astimezone(timezone.utc)`
computes it. -/
def instantOf (wall offset : Int) : Except PyError Int :=
  if 0 ≤ wall - offset ∧ wall - offset < maxMicros then .ok (wall - offset)
  else .error dateOverflow

/-- `instant.astimezone(zone)`, without its `tzinfo`. -/
def Zone.fromInstant (zone : Zone) (instant : Int) : Except PyError WallTime :=
  wallTimeOf (instant + zone.instant_offset instant)

/-- A timezone-aware `datetime`. -/
structure Clock where
  wall : WallTime
  fold : Bool
  zone : Zone

/-- `now.astimezone(timezone.utc)`. -/
def Clock.instant (now : Clock) : Except PyError Int :=
  instantOf now.wall.value (now.zone.wall_offset now.wall.value now.fold)

/-- At least `width` decimal digits. -/
def padded (width n : Nat) : String :=
  let digits := toString n
  "".pushn '0' (width - digits.length) ++ digits

/-- `date.isoformat`. -/
def PyDate.isoformat (date : PyDate) : String :=
  padded 4 date.year ++ "-" ++ padded 2 date.month ++ "-" ++ padded 2 date.day

/-- Seconds and, when there are any, microseconds of a time. -/
def secondsText (micros : Nat) : String :=
  ":" ++ padded 2 (micros / 1000000 % 60) ++
    if micros % 1000000 = 0 then "" else "." ++ padded 6 (micros % 1000000)

/-- Hours and minutes of a time. -/
def minutesText (micros : Nat) : String :=
  padded 2 (micros / 3600000000) ++ ":" ++ padded 2 (micros / 60000000 % 60)

/-- The offset at the end of `datetime.isoformat`. -/
def offsetText (offset : Int) : String :=
  (if offset < 0 then "-" else "+") ++ minutesText offset.natAbs ++
    if offset.natAbs % 60000000 = 0 then "" else secondsText offset.natAbs

/-- `datetime.isoformat`. -/
def WallTime.isoformat (wall : WallTime) (offset : Int) : String :=
  wall.date.isoformat ++ "T" ++ minutesText wall.micros ++ secondsText wall.micros ++
    offsetText offset

example : (dateOfOrdinal 738945).map PyDate.isoformat = some "2024-02-29" ∧
    dateOfOrdinal 3652060 = none := by
  decide +kernel

end HomeCortex
