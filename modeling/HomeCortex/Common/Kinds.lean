/-
# Value kinds

The kinds of property values that the schema catalog, the operators and the item
writer share (`ValueKind` of `facts/operators.py`), and `_matches_kind` of
`mutation/writing.py`, which says when a JSON value may be stored under one.
-/

import HomeCortex.Common.Datetimes
import HomeCortex.Persistence.RecordIds

namespace HomeCortex

/-- `ValueKind`. -/
inductive ValueKind where
  | unknown
  | any
  | boolean
  | integer
  | number
  | string
  | date
  | datetime
  | object
  | collection
  | record
deriving DecidableEq, Repr

/-- `math.isfinite(value)` of a number; an integer beyond the binary64 range
raises. -/
def isFiniteNumber : Json → Except PyError Bool
  | .int n =>
      if (Float.ofInt n).isFinite then .ok true
      else .error (.overflow "int too large to convert to float")
  | .float x => .ok x.isFinite
  | _ => .error (.type "must be real number")

/-- `_matches_kind`. -/
def matchesKind (value : Json) (kind : ValueKind) : Except PyError Bool :=
  match kind, value with
  | .unknown, _ | .any, _ => .ok true
  | .boolean, value => .ok value.isBool
  | .integer, .int _ => .ok true
  | .integer, _ => .ok false
  | .number, .int n => isFiniteNumber (.int n)
  | .number, .float x => isFiniteNumber (.float x)
  | .number, _ => .ok false
  | .string, value => .ok value.isStr
  | .object, .obj _ => .ok true
  | .object, _ => .ok false
  | .collection, .arr _ => .ok true
  | .collection, _ => .ok false
  | .record, .str text => .ok (splitRecordId text).isOk
  | .record, _ => .ok false
  | .date, .str text => .ok (dateFromIsoformat text).isSome
  | .date, _ => .ok false
  | .datetime, .str text => .ok (datetimeFromIsoformat text).isSome
  | .datetime, _ => .ok false

end HomeCortex
