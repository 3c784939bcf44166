/-
# The names of the operations and their contracts

`FactOperation` and the predicate operators of `facts/operators.py`, and the
`OperatorDefinition` of each operation: what kinds of fields it takes and which
parameters it needs.
-/

import HomeCortex.Common.Kinds

namespace HomeCortex

/-- `FactOperation`. -/
inductive FactOperation where
  | inspect
  | resolveReference
  | sameEntity
  | select
  | count
  | first
  | last
  | latest
  | earliest
  | sum
  | average
  | min
  | max
  | argmin
  | argmax
  | dateAdd
  | dateDifference
  | annualOccurrence
  | unitConversion
deriving DecidableEq, Repr

/-- The literal of an operation. -/
def FactOperation.name : FactOperation → String
  | .inspect => "inspect"
  | .resolveReference => "resolve_reference"
  | .sameEntity => "same_entity"
  | .select => "select"
  | .count => "count"
  | .first => "first"
  | .last => "last"
  | .latest => "latest"
  | .earliest => "earliest"
  | .sum => "sum"
  | .average => "average"
  | .min => "min"
  | .max => "max"
  | .argmin => "argmin"
  | .argmax => "argmax"
  | .dateAdd => "date_add"
  | .dateDifference => "date_difference"
  | .annualOccurrence => "annual_occurrence"
  | .unitConversion => "unit_conversion"

/-- `PREDICATE_OPERATORS`. -/
inductive PredicateOperator where
  | eq
  | ne
  | gt
  | gte
  | lt
  | lte
  | isIn
  | exists
  | dateRange
deriving DecidableEq, Repr

/-- `Literal["years", "months", "days", "seconds"]`. -/
inductive DateUnit where
  | years
  | months
  | days
  | seconds
deriving DecidableEq, Repr

/-- The literal of a unit. -/
def DateUnit.name : DateUnit → String
  | .years => "years"
  | .months => "months"
  | .days => "days"
  | .seconds => "seconds"

/-- `NUMERIC_KINDS`. -/
def numericKinds : List ValueKind := [.integer, .number]

/-- `TEMPORAL_KINDS`. -/
def temporalKinds : List ValueKind := [.date, .datetime]

/-- `ORDERED_KINDS`. -/
def orderedKinds : List ValueKind := numericKinds ++ temporalKinds ++ [.string]

/-- `EXTREME_KINDS`. -/
def extremeKinds : List ValueKind := numericKinds ++ temporalKinds

/-- The `field_kinds` of a predicate operator. -/
def PredicateOperator.fieldKinds : PredicateOperator → List ValueKind
  | .gt | .gte | .lt | .lte => orderedKinds
  | .dateRange => temporalKinds
  | .eq | .ne | .isIn | .exists => [.any]

/-- Which input an operation takes. -/
inductive InputShape where
  | plan
  | scalar
  | collection
deriving DecidableEq, Repr

/-- Whether an operation takes a field. -/
inductive FieldRequirement where
  | none
  | optional
  | required
deriving DecidableEq, Repr

/-- The parameters of an operation. -/
inductive OperatorParameter where
  | amount
  | mode
  | reference
  | fromUnit
  | toUnit
deriving DecidableEq, Repr

/-- `OperatorDefinition`. -/
structure OperatorDefinition where
  input_shape : InputShape
  field_requirement : FieldRequirement := .none
  field_kinds : List ValueKind := [.any]
  order_by_required : Bool := false
  order_by_kinds : List ValueKind := [.any]
  required_parameters : List OperatorParameter := []
deriving DecidableEq, Repr

/-- `FACT_OPERATORS`. -/
def FactOperation.definition : FactOperation → OperatorDefinition
  | .select | .resolveReference | .inspect | .sameEntity => { input_shape := .plan }
  | .count => { input_shape := .collection }
  | .first | .last => { input_shape := .collection, field_requirement := .optional }
  | .latest | .earliest => {
      input_shape := .collection, field_requirement := .required
      order_by_required := true, order_by_kinds := temporalKinds }
  | .sum | .average | .min | .max => {
      input_shape := .collection, field_requirement := .required, field_kinds := numericKinds }
  | .argmin | .argmax => {
      input_shape := .collection, field_requirement := .required, field_kinds := extremeKinds }
  | .dateAdd => {
      input_shape := .scalar, field_requirement := .required, field_kinds := temporalKinds
      required_parameters := [.amount, .mode] }
  | .dateDifference => {
      input_shape := .scalar, field_requirement := .required, field_kinds := temporalKinds
      required_parameters := [.mode, .reference] }
  | .annualOccurrence => {
      input_shape := .scalar, field_requirement := .required, field_kinds := temporalKinds
      required_parameters := [.reference] }
  | .unitConversion => {
      input_shape := .scalar, field_requirement := .required, field_kinds := numericKinds
      required_parameters := [.fromUnit, .toUnit] }

/-- The operation has an `implementation`. -/
def FactOperation.isTransform : FactOperation → Bool
  | .select | .resolveReference | .inspect | .sameEntity => false
  | _ => true

/-- The `parameters` of `validate`; `reference` is always `"household_now"`. -/
structure OperatorParameters where
  mode : Option DateUnit := none
  amount : Option Int := none
  from_unit : Option String := none
  to_unit : Option String := none
deriving DecidableEq, Repr

/-- `parameters.get(parameter) is None`. -/
def OperatorParameters.lacks (parameters : OperatorParameters) : OperatorParameter → Bool
  | .amount => parameters.amount.isNone
  | .mode => parameters.mode.isNone
  | .reference => false
  | .fromUnit => parameters.from_unit.isNone
  | .toUnit => parameters.to_unit.isNone

/-- `_validate_kind`. -/
def validateKind (operation : FactOperation) (argument : String) (actual : ValueKind)
    (accepted : List ValueKind) : Except PyError Unit :=
  let compatible := actual == .unknown || actual == .any || accepted.contains .any ||
    accepted.contains actual || (actual == .integer && accepted.contains .number)
  raiseIf (!compatible)
    (.operatorValidation (operation.name ++ " requires another kind of " ++ argument))

/-- `OperatorDefinition.validate`. -/
def FactOperation.validate (operation : FactOperation) (field : Option String)
    (field_kind : ValueKind) (order_by : Option String) (order_by_kind : ValueKind)
    (parameters : OperatorParameters) : Except PyError Unit := do
  let definition := operation.definition
  raiseIf (definition.field_requirement == .required && field.isNone)
    (.operatorValidation (operation.name ++ " requires field"))
  raiseIf (definition.field_requirement == .none && field.isSome)
    (.operatorValidation (operation.name ++ " does not accept field"))
  validateKind operation "field" field_kind definition.field_kinds
  raiseIf (definition.order_by_required && order_by.isNone)
    (.operatorValidation (operation.name ++ " requires order_by"))
  raiseIf (!definition.order_by_required && order_by.isSome)
    (.operatorValidation (operation.name ++ " does not accept order_by"))
  validateKind operation "order_by" order_by_kind definition.order_by_kinds
  raiseIf (definition.required_parameters.any parameters.lacks)
    (.operatorValidation (operation.name ++ " requires parameters"))
  raiseIf (operation == .dateDifference && parameters.mode.isNone)
    (.operatorValidation "date interval requires a supported unit")
  raiseIf (operation == .dateAdd && (parameters.amount.all (fun n => 120000 < n.natAbs) ||
      parameters.mode.all (· == .seconds)))
    (.operatorValidation "date_add requires bounded integer amount and calendar unit")
  raiseIf (operation == .annualOccurrence && !([none, some .days].contains parameters.mode))
    (.operatorValidation "annual occurrence only supports a date or days")

end HomeCortex
