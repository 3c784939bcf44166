/-
# Datetimes

Python's `datetime.datetime` with a fixed UTC offset or none, and
`datetime.fromisoformat`: a date in one of the forms of
`HomeCortex.Common.Dates`, then optionally one separator character, a time of day
`HH[:MM[:SS[.f…]]]` or its compact form, and `Z` or a signed offset written like
a time.  Times of day and offsets are counted in microseconds.
-/

import HomeCortex.Common.Dates

namespace HomeCortex

/-- Microseconds of one day. -/
def dayMicros : Nat := 86400000000

/-- `datetime.datetime`; `offset` is `None` for a naive one. -/
structure PyDatetime where
  date : PyDate
  micros : Nat
  offset : Option Int
  micros_range : micros < dayMicros
  offset_range : ∀ o, offset = some o → -(dayMicros : Int) < o ∧ o < dayMicros
deriving DecidableEq, Repr

/-- The first six digits of a fraction as microseconds, and what follows all of them. -/
def readFraction (cs : List Char) : Option (Nat × List Char) :=
  let digits := cs.takeWhile Char.isDigit
  let kept := (digits ++ List.replicate 6 '0').take 6
  if digits.isEmpty then none
  else some (kept.foldl (fun acc c => 10 * acc + (c.toNat - 48)) 0, cs.dropWhile Char.isDigit)

/-- Seconds and their fraction, after hours and minutes. -/
def readSeconds (minutes : Nat) (cs : List Char) : Option ((Nat × Nat × Nat) × List Char) := do
  let (second, rest) ← readDigits 2 cs
  match rest with
  | '.' :: fraction | ',' :: fraction =>
      let (micros, rest) ← readFraction fraction
      return ((minutes, second, micros), rest)
  | _ => return ((minutes, second, 0), rest)

/-- A time of day: hours, then minutes, seconds and microseconds as far as given. -/
def readTime (cs : List Char) : Option ((Nat × Nat × Nat × Nat) × List Char) := do
  let (hour, rest) ← readDigits 2 cs
  match rest with
  | ':' :: minutes =>
      let (minute, rest) ← readDigits 2 minutes
      match rest with
      | ':' :: seconds =>
          let (fields, rest) ← readSeconds minute seconds
          return ((hour, fields), rest)
      | _ => return ((hour, minute, 0, 0), rest)
  | _ =>
      match readDigits 2 rest with
      | none => return ((hour, 0, 0, 0), rest)
      | some (minute, rest) =>
          match readSeconds minute rest with
          | some (fields, rest) => return ((hour, fields), rest)
          | none => return ((hour, minute, 0, 0), rest)

/-- The microseconds of a time. -/
def timeMicros (time : Nat × Nat × Nat × Nat) : Nat :=
  ((time.1 * 60 + time.2.1) * 60 + time.2.2.1) * 1000000 + time.2.2.2

/-- A time of day has less than 24 hours, 60 minutes and 60 seconds. -/
def isTimeOfDay (time : Nat × Nat × Nat × Nat) : Bool :=
  time.1 < 24 && time.2.1 < 60 && time.2.2.1 < 60

/-- The offset at the end of a datetime text, if there is one. -/
def readOffset (cs : List Char) : Option (Option Int) :=
  match cs with
  | [] => some none
  | ['Z'] => some (some 0)
  | '+' :: rest => match readTime rest with
      | some (time, []) => some (some (timeMicros time))
      | _ => none
  | '-' :: rest => match readTime rest with
      | some (time, []) => some (some (-(timeMicros time : Int)))
      | _ => none
  | _ => none

/-- `datetime(…)` with the checks of its constructor. -/
def mkDatetime (date : PyDate) (micros : Nat) (offset : Option Int) : Option PyDatetime :=
  if h : micros < dayMicros then
    match offset with
    | none => some ⟨date, micros, none, h, nofun⟩
    | some o =>
        if ho : -(dayMicros : Int) < o ∧ o < dayMicros then
          some ⟨date, micros, some o, h, fun _ heq => Option.some.inj heq ▸ ho⟩
        else none
  else none

/-- The time and the offset after the separator. -/
def readClock (date : PyDate) (cs : List Char) : Option PyDatetime := do
  let (time, rest) ← readTime cs
  if isTimeOfDay time then mkDatetime date (timeMicros time) (← readOffset rest) else none

/-- `datetime.fromisoformat`. -/
def datetimeFromIsoformat (text : String) : Option PyDatetime := do
  match ← readIsoDate text.toList with
  | (date, []) => mkDatetime date 0 none
  | (date, _ :: rest) => readClock date rest

/-- Microseconds since midnight of 1 January of year 1, on the local clock. -/
def PyDatetime.localMicros (d : PyDatetime) : Int :=
  ((d.date.toordinal : Int) - 1) * dayMicros + d.micros

/-- Microseconds since midnight of 1 January of year 1, UTC; a naive value counts
as UTC. -/
def PyDatetime.utcMicros (d : PyDatetime) : Int := d.localMicros - d.offset.getD 0

example : (datetimeFromIsoformat "2024-05-01T10:30:00.5+02:00").map PyDatetime.utcMicros
    = some 63850149000500000 := by
  decide +kernel

example : datetimeFromIsoformat "2024-05-01T25:00" = none := by
  decide +kernel

end HomeCortex
