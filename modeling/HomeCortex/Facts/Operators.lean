/-
# Deterministic operators

The implementations of `facts/operators.py`: predicates over stored values,
aggregations, and date arithmetic against the household clock.  An operator that
refuses its input raises `OperatorExecutionError`; huge integers and instants next
to the ends of the calendar raise Python's own `OverflowError`.
-/

import HomeCortex.Common.Clock
import HomeCortex.Common.Order
import HomeCortex.Facts.Operations

namespace HomeCortex

/-! ### Kinds of values -/

/-- `value.replace("Z", "+00:00")`. -/
def replaceZulu (text : String) : String :=
  String.ofList (text.toList.flatMap fun c => if c = 'Z' then "+00:00".toList else [c])

/-- `infer_value_kind`. -/
def inferValueKind : Json → ValueKind
  | .bool _ => .boolean
  | .int _ => .integer
  | .float x => if x.isFinite then .number else .unknown
  | .str text =>
      if (dateFromIsoformat text).isSome then .date
      else if (datetimeFromIsoformat (replaceZulu text)).isSome then .datetime
      else .string
  | .obj _ => .object
  | .arr _ => .collection
  | .null => .unknown

/-- `infer_field_kind`. -/
def inferFieldKind (values : List Json) : ValueKind :=
  let kinds := ((values.filter (· ≠ .null)).map inferValueKind).dedup
  if kinds.isEmpty then .unknown
  else if kinds.all numericKinds.contains then
    if kinds.contains .number then .number else .integer
  else match kinds with
    | [kind] => kind
    | _ => .unknown

/-! ### Predicates -/

/-- The value of a filter: a scalar (`None` is `null`) or a tuple. -/
inductive Operand where
  | scalar (value : Json)
  | tuple (items : List Json)
deriving DecidableEq

namespace Operand

/-- `left == right`; a stored list is never a tuple. -/
def equals (left : Json) : Operand → Bool
  | .scalar value => left.pyEq value
  | .tuple _ => false

/-- A comparison with a scalar; `TypeError` counts as false. -/
def compares (test : Json → Json → Except PyError Bool) (left : Json) : Operand → Bool
  | .scalar value => (test left value).toOption.getD false
  | .tuple _ => false

/-- `left in right`. -/
def contains (left : Json) : Operand → Bool
  | .tuple items => items.any left.pyEq
  | .scalar (.arr items) => items.any left.pyEq
  | .scalar (.str text) =>
      match left with
      | .str part => decide (part.toList <:+: text.toList)
      | _ => false
  | .scalar (.obj fields) =>
      match left with
      | .str key => Fields.has fields key
      | _ => false
  | .scalar _ => false

/-- `bool(right if right is not None else True)`. -/
def expectsPresence : Operand → Bool
  | .scalar .null => true
  | .scalar value => value.truthy
  | .tuple items => !items.isEmpty

/-- `right[0] <= left < right[1]` of a sequence of two. -/
def spans (left : Json) : Operand → Bool
  | .tuple [low, high] | .scalar (.arr [low, high]) =>
      (low.pyLe left).toOption.getD false && (left.pyLt high).toOption.getD false
  | _ => false

end Operand

/-- `evaluate_predicate`. -/
def evaluatePredicate (operator : PredicateOperator) (left : Json) (right : Operand) : Bool :=
  match operator with
  | .eq => right.equals left
  | .ne => !right.equals left
  | .lt => right.compares Json.pyLt left
  | .lte => right.compares Json.pyLe left
  | .gt => right.compares (fun a b => b.pyLt a) left
  | .gte => right.compares (fun a b => b.pyLe a) left
  | .isIn => right.contains left
  | .exists => (left != .null) == right.expectsPresence
  | .dateRange => right.spans left

/-! ### Numbers -/

/-- `_is_number`. -/
def isNumber : Json → Except PyError Bool
  | .int n => isFiniteNumber (.int n)
  | .float x => isFiniteNumber (.float x)
  | _ => .ok false

/-- `_numeric_values`. -/
def numericValues (values : List Json) : Except PyError (List Json) :=
  values.filterM isNumber

/-- `int / int`. -/
def trueDiv (a : Int) (b : Nat) : Except PyError Float :=
  let quotient := roundedQuotient a b
  if quotient.isFinite then .ok quotient
  else .error (.overflow "integer division result too large for a float")

/-- `float(value)` of an integer. -/
def intToFloat (n : Int) : Except PyError Float :=
  if (Float.ofInt n).isFinite then .ok (Float.ofInt n)
  else .error (.overflow "int too large to convert to float")

/-- Where `sum` is: integers that fit a C long, floats with their compensation, or
plain additions. -/
inductive SumState where
  | longs (total : Int)
  | floats (total compensation : Float)
  | plain (total : Json)

/-- An integer that fits a C long. -/
def fitsLong (n : Int) : Bool := -(2 ^ 63) ≤ n && n < 2 ^ 63

/-- `a + b` of two numbers. -/
def addNumbers : Json → Json → Except PyError Json
  | .int a, .int b => .ok (.int (a + b))
  | .int a, .float b => do return .float ((← intToFloat a) + b)
  | .float a, .int b => do return .float (a + (← intToFloat b))
  | .float a, .float b => .ok (.float (a + b))
  | _, _ => .error (.type "unsupported operand type(s) for +")

/-- The total with its compensation. -/
def compensated (total compensation : Float) : Float :=
  if compensation != 0 && compensation.isFinite then total + compensation else total

/-- After an addition outside the fast path for integers. -/
def afterAddition : Json → SumState
  | .float x => .floats x 0
  | value => .plain value

/-- One step of `sum`. -/
def sumStep : SumState → Json → Except PyError SumState
  | .longs total, .int n =>
      .ok (if fitsLong n && fitsLong (total + n) then .longs (total + n)
        else .plain (.int (total + n)))
  | .longs total, value => do return afterAddition (← addNumbers (.int total) value)
  | .floats total c, .float x =>
      let t := total + x
      .ok (.floats t (if total.abs ≥ x.abs then c + ((total - t) + x) else c + ((x - t) + total)))
  | .floats total c, .int n =>
      if fitsLong n then .ok (.floats (total + Float.ofInt n) c)
      else do return .plain (← addNumbers (.float (compensated total c)) (.int n))
  | .floats total c, value => do return .plain (← addNumbers (.float (compensated total c)) value)
  | .plain total, value => do return .plain (← addNumbers total value)

/-- `sum(values)`. -/
def pySum (values : List Json) : Except PyError Json := do
  match ← values.foldlM sumStep (.longs 0) with
  | .longs total => return .int total
  | .floats total c => return .float (compensated total c)
  | .plain total => return total

/-- `total / count`. -/
def divideByCount (total : Json) (count : Nat) : Except PyError Json :=
  match total with
  | .int n => (trueDiv n count).map .float
  | .float x => .ok (.float (x / Float.ofNat count))
  | _ => .error (.type "unsupported operand type(s) for /")

/-- `min(…)`, or `max(…)`: the first element no other is better than. -/
def firstBest {α : Type} (better : α → α → Except PyError Bool) : List α → Except PyError (Option α)
  | [] => .ok none
  | x :: xs => (xs.foldlM (fun best y => do return if ← better y best then y else best) x).map some

/-! ### The operators -/

/-- `OperatorInput`, as far as the implementations read it.  Records have the fields
`value` and `entity`. -/
structure OperatorInput where
  records : List Fields
  field : Option String := none
  mode : Option DateUnit := none
  from_unit : Option String := none
  to_unit : Option String := none
  now : Option Clock := none
  amount : Option Int := none

/-- `_source_values`. -/
def sourceValues (values : OperatorInput) : List Json :=
  match values.field with
  | none => []
  | some field => (values.records.map fun record => record.getD field).filter (· ≠ .null)

/-- The numbers of all records, for the aggregation `name`. -/
def allNumbers (name : String) (values : OperatorInput) : Except PyError (List Json) := do
  let numeric ← numericValues (sourceValues values)
  raiseIf (numeric.isEmpty || numeric.length != values.records.length)
    (.operatorExecution (name ++ " requires collection<number>"))
  return numeric

/-- `_sum`. -/
def sumOperator (values : OperatorInput) : Except PyError Json := do
  pySum (← allNumbers "sum" values)

/-- `_average`. -/
def averageOperator (values : OperatorInput) : Except PyError Json := do
  let numeric ← allNumbers "average" values
  divideByCount (← pySum numeric) numeric.length

/-- `_minimum` and `_maximum`. -/
def extremeOperator (minimum : Bool) (values : OperatorInput) : Except PyError Json := do
  let numeric ← allNumbers (if minimum then "min" else "max") values
  let best ← firstBest (fun a b => if minimum then a.pyLt b else b.pyLt a) numeric
  return best.getD .null

/-- `_project`. -/
def projectField (record : Fields) (field : Option String) : Except PyError Json :=
  match field with
  | none => .ok (.obj record)
  | some field =>
      if record.getD field = .null then
        .error (.operatorExecution "projected field is unavailable")
      else .ok (record.getD field)

/-- `_first`. -/
def firstOperator (values : OperatorInput) : Except PyError Json :=
  match values.records with
  | [] => .error (.operatorExecution "first requires a non-empty collection")
  | record :: _ => projectField record values.field

/-- `_last`. -/
def lastOperator (values : OperatorInput) : Except PyError Json :=
  match values.records.getLast? with
  | none => .error (.operatorExecution "last requires a non-empty collection")
  | some record => projectField record values.field

/-- `except TypeError` around the selection of `_arg_extreme`. -/
def notOrdered {α : Type} : Except PyError α → Except PyError α
  | .error (.type _) => .error (.operatorExecution "argmin/argmax field is not ordered")
  | other => other

/-- `_arg_extreme`. -/
def argExtreme (minimum : Bool) (values : OperatorInput) : Except PyError Json := do
  match values.field with
  | none => throw (.operatorExecution "argmin/argmax require field and records")
  | some field =>
      raiseIf values.records.isEmpty
        (.operatorExecution "argmin/argmax require field and records")
      let candidates := values.records.filter fun record => record.getD field ≠ .null
      let better (a b : Fields) : Except PyError Bool :=
        if minimum then (a.getD field).pyLt (b.getD field)
        else (b.getD field).pyLt (a.getD field)
      match ← notOrdered (firstBest better candidates) with
      | none => throw (.operatorExecution "argmin/argmax field is unavailable")
      | some selected => return .obj selected

/-- `_only_value`. -/
def onlyValue (values : OperatorInput) : Except PyError Json :=
  match values.records, sourceValues values with
  | [_], [value] => .ok value
  | _, _ => .error (.operatorExecution "operator requires exactly one value")

/-- `_required_now`. -/
def requiredNow (values : OperatorInput) : Except PyError Clock :=
  match values.now with
  | some now => .ok now
  | none => .error (.operatorExecution "operator requires current time")

/-- What `_temporal_value` reads: a date, an instant, or neither. -/
inductive Temporal where
  | date (date : PyDate)
  | instant (instant : Int)
  | neither
deriving DecidableEq

/-- `_temporal_value`. -/
def temporalValue : Json → Except PyError Temporal
  | .str text =>
      match dateFromIsoformat text with
      | some date => .ok (.date date)
      | none =>
          match datetimeFromIsoformat (replaceZulu text) with
          | none => .ok .neither
          | some parsed => (instantOf parsed.localMicros (parsed.offset.getD 0)).map .instant
  | _ => .ok .neither

/-- Whole calendar years or months from `start` to `finish`, truncated toward zero; a
date counts as its midnight. -/
def wholeUnits (months : Bool) (start finish : WallTime) : Int :=
  let forward := start.value ≤ finish.value
  let a := if forward then start else finish
  let b := if forward then finish else start
  let incomplete := if months then
      decide (b.date.day < a.date.day ∨ b.date.day = a.date.day ∧ b.micros < a.micros)
    else
      decide (b.date.month < a.date.month ∨ b.date.month = a.date.month ∧
        (b.date.day < a.date.day ∨ b.date.day = a.date.day ∧ b.micros < a.micros))
  let years : Int := (b.date.year : Int) - a.date.year
  let count := if months then years * 12 + b.date.month - a.date.month else years
  (if forward then 1 else -1) * (count - if incomplete then 1 else 0)

/-- `delta.total_seconds()`. -/
def totalSeconds (micros : Int) : Json := .float (roundedQuotient micros 1000000)

/-- A `timedelta` in days or seconds. -/
def deltaIn (unit : DateUnit) (micros : Int) : Json :=
  if unit = .days then .int (micros / dayMicros) else totalSeconds micros

/-- The midnight of a date. -/
def PyDate.midnight (date : PyDate) : WallTime := ⟨date, 0⟩

/-- `_date_difference` of a date. -/
def dateDifferenceFrom (unit : DateUnit) (now : Clock) (start : PyDate) : Json :=
  match unit with
  | .years => .int (wholeUnits false start.midnight now.wall.date.midnight)
  | .months => .int (wholeUnits true start.midnight now.wall.date.midnight)
  | unit => deltaIn unit (now.wall.date.midnight.value - start.midnight.value)

/-- `_date_difference` of an instant. -/
def instantDifferenceFrom (unit : DateUnit) (now : Clock) (start : Int) : Except PyError Json := do
  match unit with
  | .years => return .int (wholeUnits false (← now.zone.fromInstant start) now.wall)
  | .months => return .int (wholeUnits true (← now.zone.fromInstant start) now.wall)
  | unit => return deltaIn unit ((← now.instant) - start)

/-- `_date_difference`. -/
def dateDifference (values : OperatorInput) : Except PyError Json := do
  let value ← onlyValue values
  let now ← requiredNow values
  let parsed ← temporalValue value
  match values.mode, parsed with
  | none, _ => throw (.operatorExecution "date interval requires a supported unit")
  | some _, .neither => throw (.operatorExecution "date_difference requires date|datetime")
  | some unit, .date start => return dateDifferenceFrom unit now start
  | some unit, .instant start => instantDifferenceFrom unit now start

/-- `OperatorExecutionError("calendar offset is out of range")`. -/
def offsetOutOfRange : PyError := .operatorExecution "calendar offset is out of range"

/-- `except (ValueError, OverflowError)` around a calendar offset. -/
def offsetRange {α : Type} : Except PyError α → Except PyError α
  | .error (.overflow _) => .error offsetOutOfRange
  | other => other

/-- The date `amount` months later; a day the month does not have becomes the next
month's first. -/
def PyDate.addMonths (date : PyDate) (months : Int) : Except PyError PyDate := do
  let total := (date.year : Int) * 12 + date.month - 1 + months
  let year := (total / 12).toNat
  let month := (total % 12).toNat + 1
  let last_day := daysInMonth year month
  match mkDate year month (Nat.min date.day last_day) with
  | none => throw offsetOutOfRange
  | some target => if last_day < date.day then target.addDays 1 else return target

/-- The date `amount` units later. -/
def PyDate.addUnits (date : PyDate) (unit : DateUnit) (amount : Int) : Except PyError PyDate :=
  offsetRange (match unit with
    | .days => date.addDays amount
    | .years => date.addMonths (amount * 12)
    | _ => date.addMonths amount)

/-- A wall time must identify exactly one instant in the household zone. -/
def isoInZone (zone : Zone) (target : WallTime) : Except PyError String := do
  let ambiguous := PyError.operatorExecution
    "calendar offset lands on an ambiguous or nonexistent wall time"
  let offset := zone.wall_offset target.value false
  raiseIf (offset != zone.wall_offset target.value true) ambiguous
  let back ← offsetRange (do zone.fromInstant (← instantOf target.value offset))
  raiseIf (back != target) ambiguous
  return target.isoformat offset

/-- `_date_add`. -/
def dateAdd (values : OperatorInput) : Except PyError Json := do
  match values.amount, values.mode with
  | some amount, some unit =>
      raiseIf (120000 < amount.natAbs || unit == .seconds)
        (.operatorExecution "date_add requires bounded integer amount and calendar unit")
      let parsed ← temporalValue (← onlyValue values)
      let now ← requiredNow values
      match parsed with
      | .neither => throw (.operatorExecution "date_add requires date|datetime")
      | .date start => return .str (← start.addUnits unit amount).isoformat
      | .instant start =>
          let wall ← now.zone.fromInstant start
          let target ← wall.date.addUnits unit amount
          return .str (← isoInZone now.zone ⟨target, wall.micros⟩)
  | _, _ => throw (.operatorExecution "date_add requires bounded integer amount and calendar unit")

/-- The first anniversary of a month and day on or after `today`, in nine years. -/
def nextAnniversary (today : PyDate) (month day : Nat) : Option PyDate :=
  ((List.range 9).filterMap fun n => mkDate (today.year + n) month day).find?
    fun occurrence => today.toordinal ≤ occurrence.toordinal

/-- The civil date of a stored value; a datetime counts in UTC. -/
def storedDate : Temporal → Except PyError PyDate
  | .date date => .ok date
  | .instant instant => (wallTimeOf instant).map WallTime.date
  | .neither => .error (.operatorExecution "annual_occurrence requires date|datetime")

/-- `_annual_occurrence`. -/
def annualOccurrence (values : OperatorInput) : Except PyError Json := do
  raiseIf (!([none, some .days].contains values.mode))
    (.operatorExecution "annual occurrence only supports a date or days")
  let value ← onlyValue values
  let now ← requiredNow values
  let stored ← storedDate (← temporalValue value)
  let today := now.wall.date
  match nextAnniversary today stored.month stored.day with
  | none => throw (.operatorExecution "annual occurrence is not representable")
  | some occurrence =>
      return if values.mode = some .days then
        .int ((occurrence.toordinal : Int) - today.toordinal) else .str occurrence.isoformat

/-- `str.casefold` of ASCII letters and the Kelvin sign; other letters do not occur in
the names of the units. -/
def casefold (text : String) : String :=
  String.ofList (text.toList.map fun c => if c.toNat = 0x212a then 'k' else c.toLower)

/-- A number as a float. -/
def numberToFloat : Json → Except PyError Float
  | .int n => intToFloat n
  | .float x => .ok x
  | _ => .error (.type "must be real number")

/-- `(number + shift) * factor / divisor`, in integers as long as it is one. -/
def scaled (shift factor : Int) (divisor : Nat) : Json → Except PyError Float
  | .int n => trueDiv ((n + shift) * factor) divisor
  | .float x => .ok ((x + Float.ofInt shift) * Float.ofInt factor / Float.ofNat divisor)
  | _ => .error (.type "must be real number")

/-- `_unit_conversion`. -/
def unitConversion (values : OperatorInput) : Except PyError Json := do
  let value ← onlyValue values
  raiseIf (!(← isNumber value)) (.operatorExecution "unit_conversion requires number")
  let source := casefold (values.from_unit.getD "")
  let target := casefold (values.to_unit.getD "")
  if source = target ∧ source ≠ "" then return .float (← numberToFloat value)
  else match source, target with
    | "c", "f" => return .float ((← scaled 0 9 5 value) + 32.0)
    | "f", "c" => return .float (← scaled (-32) 5 9 value)
    | "kg", "lb" => return .float ((← numberToFloat value) * 2.2046226218)
    | "lb", "kg" => return .float ((← numberToFloat value) / 2.2046226218)
    | "cm", "in" => return .float ((← numberToFloat value) / 2.54)
    | "in", "cm" => return .float ((← numberToFloat value) * 2.54)
    | _, _ => throw (.operatorExecution "unsupported unit conversion")

/-- `execute_operator`. -/
def executeOperator (operation : FactOperation) (values : OperatorInput) : Except PyError Json :=
  match operation with
  | .count => .ok (.int values.records.length)
  | .first | .latest | .earliest => firstOperator values
  | .last => lastOperator values
  | .sum => sumOperator values
  | .average => averageOperator values
  | .min => extremeOperator true values
  | .max => extremeOperator false values
  | .argmin => argExtreme true values
  | .argmax => argExtreme false values
  | .dateAdd => dateAdd values
  | .dateDifference => dateDifference values
  | .annualOccurrence => annualOccurrence values
  | .unitConversion => unitConversion values
  | .select | .resolveReference | .inspect | .sameEntity =>
      .error (.operatorExecution (operation.name ++ " is not a transform"))

example : (roundedQuotient 1 3 == 1.0 / 3.0) = true ∧
    (roundedQuotient (10 ^ 30) 7 == 142857142857142857142857142857.0) = true := by
  decide +kernel

end HomeCortex
