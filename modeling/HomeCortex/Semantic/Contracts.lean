/-
# Property contracts

`semantic/contracts.py`: the type a semantic property declares, who may own it,
which filters it admits, and which stored values and literals it accepts.  The
checks of the parsers are fields of the structures.  Linguistic aliases decide
nothing here and are left out.
-/

import HomeCortex.Facts.Operators

namespace HomeCortex

/-- The kinds that the items of a collection may have. -/
inductive AtomicKind where
  | string
  | boolean
  | integer
  | number
  | date
  | datetime
deriving DecidableEq, Repr

/-- The `kind` of an atomic type. -/
def AtomicKind.kind : AtomicKind → ValueKind
  | .string => .string
  | .boolean => .boolean
  | .integer => .integer
  | .number => .number
  | .date => .date
  | .datetime => .datetime

/-- `\d{4}-\d{2}-\d{2}`. -/
def isDateText (cs : List Char) : Bool :=
  match cs with
  | [y₁, y₂, y₃, y₄, '-', m₁, m₂, '-', d₁, d₂] =>
      [y₁, y₂, y₃, y₄, m₁, m₂, d₁, d₂].all Char.isDigit
  | _ => false

/-- `[+-]\d{2}:\d{2}`. -/
def isOffsetText (cs : List Char) : Bool :=
  match cs with
  | [sign, h₁, h₂, ':', m₁, m₂] =>
      (sign == '+' || sign == '-') && [h₁, h₂, m₁, m₂].all Char.isDigit
  | _ => false

/-- `\d{4}-\d{2}-\d{2}T.+(?:Z|[+-]\d{2}:\d{2})`. -/
def isDatetimeText (cs : List Char) : Bool :=
  let rest := cs.drop 10
  isDateText (cs.take 10) && rest.head? == some 'T' && !rest.contains '\n' &&
    ((2 < rest.length && rest.getLast? == some 'Z') ||
      (7 < rest.length && isOffsetText (rest.drop (rest.length - 6))))

/-- `SemanticType.accepts` of an atomic type. -/
def AtomicKind.accepts : AtomicKind → Json → Bool
  | .string, value => value.isStr
  | .boolean, value => value.isBool
  | .integer, .int _ | .number, .int _ => true
  | .number, .float x => x.isFinite
  | .date, .str text => isDateText text.toList && (dateFromIsoformat text).isSome
  | .datetime, .str text =>
      isDatetimeText text.toList &&
        (datetimeFromIsoformat text).any fun parsed => parsed.offset.isSome
  | _, _ => false

/-- A `SemanticType` without alternatives. -/
inductive PlainType where
  | atomic (kind : AtomicKind)
  | object
  | collection (items : AtomicKind)
deriving DecidableEq, Repr

namespace PlainType

/-- `kind`. -/
def kind : PlainType → ValueKind
  | .atomic kind => kind.kind
  | .object => .object
  | .collection _ => .collection

/-- `accepts`. -/
def accepts : PlainType → Json → Bool
  | .atomic kind, value => kind.accepts value
  | .object, .obj _ => true
  | .collection items, .arr values => values.all items.accepts
  | _, _ => false

end PlainType

/-- `SemanticType`: one plain type, or the alternatives of a union. -/
structure SemanticType where
  alternatives : List PlainType
  nonempty : alternatives ≠ [] := by decide
  nodup : alternatives.Nodup := by decide
deriving DecidableEq

namespace SemanticType

variable (type : SemanticType)

/-- `accepts`. -/
def accepts (value : Json) : Bool := type.alternatives.any fun item => item.accepts value

/-- `kinds`. -/
def kinds : List ValueKind := type.alternatives.map PlainType.kind

/-- `execution_kind`: the only kind, or `unknown`. -/
def executionKind : ValueKind :=
  match type.kinds.dedup with
  | [kind] => kind
  | _ => .unknown

end SemanticType

/-- The tuple of a literal, as `accepts` sees a sequence. -/
def Operand.toJson : Operand → Json
  | .scalar value => value
  | .tuple items => .arr items

/-- The data of a `PropertyContract`; `values` are the canonical values of a closed
domain. -/
structure ContractFields where
  type : SemanticType
  entities : List String
  relationships : List String
  operators : List PredicateOperator
  values : List String := []
deriving DecidableEq

namespace ContractFields

variable (contract : ContractFields)

/-- The checks of `PropertyContract.parse` on one filter operator. -/
def admits (operator : PredicateOperator) : Bool :=
  (operator.fieldKinds.contains .any ||
    contract.type.kinds.all operator.fieldKinds.contains) &&
  (operator == .exists ||
    !(contract.type.kinds.contains .collection || contract.type.kinds.contains .object)) &&
  (contract.values.isEmpty || [.eq, .ne, .isIn, .exists].contains operator)

/-- The checks of `PropertyContract.parse`. -/
def valid : Bool :=
  !(contract.entities.isEmpty && contract.relationships.isEmpty) &&
  contract.entities.dedup.length == contract.entities.length &&
  contract.relationships.dedup.length == contract.relationships.length &&
  (contract.values.isEmpty || contract.type.alternatives == [.atomic .string]) &&
  contract.operators.all contract.admits

end ContractFields

/-- `PropertyContract`. -/
structure PropertyContract extends ContractFields where
  validated : toContractFields.valid = true
deriving DecidableEq

/-- The errors of `literal_error`. -/
inductive LiteralError where
  | operatorNotApplicable
  | invalidOperand
  | invalidLiteralType
  | valueOutOfDomain
  | invalidRange
deriving DecidableEq, Repr

/-- `parsed[0] < parsed[1]` of the two ends of a range, both dates or both aware
datetimes. -/
def isRange (low high : Json) : Bool :=
  match low, high with
  | .str low, .str high =>
      match low.toList.contains 'T', high.toList.contains 'T' with
      | false, false =>
          match dateFromIsoformat low, dateFromIsoformat high with
          | some low, some high => low.toordinal < high.toordinal
          | _, _ => false
      | true, true =>
          match datetimeFromIsoformat low, datetimeFromIsoformat high with
          | some low, some high =>
              low.offset.isSome == high.offset.isSome && low.utcMicros < high.utcMicros
          | _, _ => false
      | _, _ => false
  | _, _ => false

namespace PropertyContract

variable (contract : PropertyContract)

/-- `accepts`. -/
def accepts (value : Json) : Bool :=
  contract.type.accepts value &&
    (contract.values.isEmpty || contract.values.any fun canonical => value == .str canonical)

/-- The last checks of `literal_error`, on the literals of the operand. -/
def literalsError (operator : PredicateOperator) (values : List Json) : Option LiteralError :=
  if operator == .dateRange && values.length != 2 then some .invalidOperand
  else if values.any fun item => !contract.type.accepts item then some .invalidLiteralType
  else if contract.type.alternatives.all fun alternative =>
      values.any fun item => !alternative.accepts item then some .invalidLiteralType
  else if !contract.values.isEmpty && values.any fun item => !contract.accepts item then
    some .valueOutOfDomain
  else if operator == .dateRange &&
      !isRange (values.getD 0 .null) (values.getD 1 .null) then some .invalidRange
  else none

/-- `literal_error`. -/
def literalError (operator : PredicateOperator) (value : Operand) (anchor : Bool) :
    Option LiteralError :=
  if !contract.operators.contains operator then some .operatorNotApplicable
  else if anchor then
    if [.eq, .ne, .gt, .gte, .lt, .lte].contains operator then none else some .invalidOperand
  else match operator with
    | .exists =>
        match value with
        | .scalar .null | .scalar (.bool _) => none
        | _ => some .invalidLiteralType
    | .isIn | .dateRange =>
        match value with
        | .scalar _ | .tuple [] => some .invalidOperand
        | .tuple items => contract.literalsError operator items
    | _ => contract.literalsError operator [value.toJson]

end PropertyContract
end HomeCortex
