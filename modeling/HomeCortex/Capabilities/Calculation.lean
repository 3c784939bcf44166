/-
# The calculator

`capabilities/calculation.py`: arithmetic that the model may ask for, evaluated by
`simpleeval` over tables of checked operators and functions.  Every operator and function
checks its result (`_finite_number`), so that every operand is an integer up to `10 ** 18` or
a finite float up to `1e15`; before that check an integer may be larger.  The evaluation logs
the value of every node it evaluates and every integer that a builtin constructs.

Python's parser is a parameter, and so is what a platform's C library decides: the floats of
`math` and `**`, of rounding to decimals and of sums.
-/

import HomeCortex.Common.Display
import HomeCortex.Common.Order
import HomeCortex.Library.Logged

namespace HomeCortex
namespace Calculation

/-- `MAX_EXPRESSION_LENGTH`. -/
def maxExpressionLength : Nat := 256

/-- `MAX_AST_NODES`. -/
def maxAstNodes : Nat := 80

/-- `MAX_ABS_INT`. -/
def maxAbsInt : Int := 10 ^ 18

/-- `MAX_ABS_FLOAT`. -/
def maxAbsFloat : Int := 10 ^ 15

/-- `MAX_POWER_ABS_EXPONENT`. -/
def maxPowerAbsExponent : Int := 12

/-- `MAX_FACTORIAL_ARGUMENT`. -/
def maxFactorialArgument : Int := 20

/-! ### Numbers -/

/-- An `int` that is no `bool`, or a `float`. -/
inductive Number where
  | int (n : Int)
  | float (x : Float)
deriving DecidableEq

/-- A value of an operator or a function: a number, or another value such as a `complex`. -/
inductive PyValue where
  | number (v : Number)
  | other

/-- What is raised: the two errors of the calculator, those of the builtins, and those of
`simpleeval`. -/
inductive Raised where
  | calculation (message : String)
  | value (message : String)
  | type
  | zeroDivision
  | overflow
  | functionNotDefined (name : String)
  | invalidExpression
deriving DecidableEq

/-- `CalculationError` is a `ValueError`. -/
def Raised.isValueError : Raised → Bool
  | .calculation _ | .value _ => true
  | _ => false

/-- What an evaluation logs: the value of a node, and an integer that a builtin constructs. -/
inductive Event where
  | value (v : Number)
  | constructed (n : Int)
deriving DecidableEq

/-- A part of an evaluation. -/
abbrev Computed (α : Type) := Logged Event Raised α

/-- An integer that is constructed. -/
def construct (n : Int) : Computed PyValue := do
  .tell (.constructed n)
  return .number (.int n)

namespace Number

/-- The exact value. -/
def exact : Number → ExactNumber
  | .int n => .finite n 0
  | .float x => exactFloat x

/-- `float(v)`. -/
def toFloat : Number → Float
  | .int n => Float.ofInt n
  | .float x => x

/-- `v > w`. -/
def gt (v w : Number) : Bool := compareExact v.exact w.exact == some .gt

/-- `abs(v)` as an exact value. -/
def absExact (v : Number) : ExactNumber :=
  match v.exact with
  | .finite mantissa exponent => .finite |mantissa| exponent
  | .infinity _ => .infinity false
  | .nan => .nan

/-- `abs(v) > limit`. -/
def exceeds (v : Number) (limit : Int) : Bool :=
  compareExact v.absExact (.finite limit 0) == some .gt

end Number

/-- `_finite_number`. -/
def finiteNumber : PyValue → Except Raised Number
  | .other => .error (.calculation "Expression did not produce a number")
  | .number (.int n) =>
      if |n| > maxAbsInt then .error (.calculation "Numeric result is out of range")
      else .ok (.int n)
  | .number (.float x) =>
      if !x.isFinite || (Number.float x).exceeds maxAbsFloat then
        .error (.calculation "Numeric result is out of range")
      else .ok (.float x)

/-! ### Builtins -/

/-- How a function of `math` fails. -/
inductive MathFailure where
  | type
  | value
  | overflow
  | zeroDivision

/-- The exception. -/
def MathFailure.raised : MathFailure → Raised
  | .type => .type
  | .value => .value "math domain error"
  | .overflow => .overflow
  | .zeroDivision => .zeroDivision

/-- The floats that a platform computes. -/
structure FloatRuntime where
  /-- The functions of `math` that give floats. -/
  math : String → List Number → Except MathFailure Float
  /-- `pow` of C, unless it overflows. -/
  pow : Float → Float → Option Float
  /-- `fmod` of C. -/
  fmod : Float → Float → Float
  /-- `float.__round__` with a number of digits, unless it overflows. -/
  roundDigits : Float → Int → Option Float
  /-- `sum` from a float on. -/
  addFloats : Float → List Number → Float

section Builtins

/-- A float. -/
def float (x : Float) : Computed PyValue := pure (.number (.float x))

/-- A float, unless it overflows. -/
def floatOrOverflow : Option Float → Computed PyValue
  | some x => float x
  | none => .raise .overflow

/-- An operator on two integers or on two floats. -/
def arithmetic (onInts : Int → Int → Int) (onFloats : Float → Float → Float) :
    Number → Number → Computed PyValue
  | .int a, .int b => construct (onInts a b)
  | a, b => float (onFloats a.toFloat b.toFloat)

/-- `operator.add`. -/
def add : Number → Number → Computed PyValue := arithmetic (· + ·) (· + ·)

/-- `operator.sub`. -/
def sub : Number → Number → Computed PyValue := arithmetic (· - ·) (· - ·)

/-- `operator.mul`. -/
def mul : Number → Number → Computed PyValue := arithmetic (· * ·) (· * ·)

/-- `operator.truediv`: the quotient of two integers is rounded once. -/
def truediv : Number → Number → Computed PyValue
  | .int a, .int b =>
      if b = 0 then .raise .zeroDivision else float (roundedQuotient (a * b.sign) b.natAbs)
  | a, b =>
      if b.toFloat == 0.0 then .raise .zeroDivision else float (a.toFloat / b.toFloat)

/-- `copysign(0.0, x)`. -/
def zeroLike (x : Float) : Float := if x < 0.0 || 1.0 / x < 0.0 then -0.0 else 0.0

variable (runtime : FloatRuntime)

/-- `float.__divmod__`. -/
def floatDivmod (v w : Float) : Float × Float :=
  let remainder := runtime.fmod v w
  let quotient := (v - remainder) / w
  let (quotient, remainder) :=
    if remainder != 0.0 then
      if (w < 0.0) != (remainder < 0.0) then (quotient - 1.0, remainder + w)
      else (quotient, remainder)
    else (quotient, zeroLike w)
  if quotient != 0.0 then
    let floor := quotient.floor
    (if quotient - floor > 0.5 then floor + 1.0 else floor, remainder)
  else (zeroLike (v / w), remainder)

/-- `operator.floordiv`. -/
def floordiv : Number → Number → Computed PyValue
  | .int a, .int b => if b = 0 then .raise .zeroDivision else construct (a.fdiv b)
  | a, b =>
      if b.toFloat == 0.0 then .raise .zeroDivision
      else float (floatDivmod runtime a.toFloat b.toFloat).1

/-- `operator.mod`. -/
def mod : Number → Number → Computed PyValue
  | .int a, .int b => if b = 0 then .raise .zeroDivision else construct (a.fmod b)
  | a, b =>
      if b.toFloat == 0.0 then .raise .zeroDivision
      else float (floatDivmod runtime a.toFloat b.toFloat).2

/-- `float.__pow__`. -/
def floatPower (base exponent : Float) : Computed PyValue :=
  if exponent == 0.0 then float 1.0
  else if base == 0.0 && exponent < 0.0 then .raise .zeroDivision
  else if base < 0.0 && exponent != exponent.floor then pure .other
  else floatOrOverflow (runtime.pow base exponent)

/-- `operator.pow`. -/
def power : Number → Number → Computed PyValue
  | .int base, .int exponent =>
      if 0 ≤ exponent then construct (base ^ exponent.toNat)
      else if base = 0 then .raise .zeroDivision
      else floatPower runtime (Float.ofInt base) (Float.ofInt exponent)
  | base, exponent => floatPower runtime base.toFloat exponent.toFloat

/-- `except OverflowError` of `_checked_pow`. -/
def onOverflow : Raised → Raised
  | .overflow => .calculation "Numeric result is out of range"
  | error => error

/-- `_checked_pow`. -/
def checkedPow (base exponent : Number) : Computed PyValue :=
  if exponent.exceeds maxPowerAbsExponent then .raise (.calculation "Exponent is out of range")
  else (power runtime base exponent).mapError onOverflow

/-- `operator.pos`. -/
def pos (v : Number) : Computed PyValue := pure (.number v)

/-- `operator.neg`. -/
def neg : Number → Computed PyValue
  | .int n => construct (-n)
  | .float x => float (-x)

/-- The greatest integer up to `mantissa · 2 ^ exponent`. -/
def floorExact (mantissa exponent : Int) : Int :=
  if 0 ≤ exponent then mantissa * 2 ^ exponent.toNat else mantissa / 2 ^ (-exponent).toNat

/-- The least integer from `mantissa · 2 ^ exponent` on. -/
def ceilExact (mantissa exponent : Int) : Int := -floorExact (-mantissa) exponent

/-- `mantissa · 2 ^ exponent` without its fraction. -/
def truncExact (mantissa exponent : Int) : Int :=
  if 0 ≤ mantissa then floorExact mantissa exponent else ceilExact mantissa exponent

/-- `_PyLong_DivmodNear`: the quotient that is nearest, the even one of two. -/
def nearestQuotient (a b : Int) : Int :=
  let quotient := a / b
  let remainder := a % b
  if 2 * remainder > b || (2 * remainder == b && quotient % 2 == 1) then quotient + 1 else quotient

/-- The integer that is nearest to `mantissa · 2 ^ exponent`, the even one of two. -/
def roundExact (mantissa exponent : Int) : Int :=
  if 0 ≤ exponent then mantissa * 2 ^ exponent.toNat
  else nearestQuotient mantissa (2 ^ (-exponent).toNat)

/-- A function from floats to integers; an integer stays. -/
def toInteger (onExact : Int → Int → Int) : Number → Computed PyValue
  | .int n => pure (.number (.int n))
  | .float x =>
      match exactFloat x with
      | .finite mantissa exponent => construct (onExact mantissa exponent)
      | .infinity _ => .raise .overflow
      | .nan => .raise (.value "cannot convert float NaN to integer")

/-- A function of one argument. -/
def unary (f : Number → Computed PyValue) : List Number → Computed PyValue
  | [v] => f v
  | _ => .raise .type

/-- A function of two arguments. -/
def binary (f : Number → Number → Computed PyValue) : List Number → Computed PyValue
  | [v, w] => f v w
  | _ => .raise .type

/-- `math.ceil`. -/
def ceil : List Number → Computed PyValue := unary (toInteger ceilExact)

/-- `math.floor`. -/
def floor : List Number → Computed PyValue := unary (toInteger floorExact)

/-- `math.trunc`. -/
def trunc : List Number → Computed PyValue := unary (toInteger truncExact)

/-- `abs`. -/
def pyAbs : List Number → Computed PyValue := unary fun
  | .int n => construct |n|
  | .float x => float x.abs

/-- `_checked_factorial`. -/
def checkedFactorial : List Number → Computed PyValue := unary fun
  | .float _ => .raise (.calculation "factorial requires a non-negative integer")
  | .int n =>
      if n < 0 || n > maxFactorialArgument then
        .raise (.calculation "factorial argument is out of range")
      else construct n.toNat.factorial

/-- `max` and `min`: the first value that no later one beats. -/
def extremum (beats : Number → Number → Bool) : List Number → Computed PyValue
  | v :: w :: rest =>
      pure (.number ((w :: rest).foldl (fun best next => if beats next best then next else best) v))
  | _ => .raise .type

/-- `max`. -/
def pyMax : List Number → Computed PyValue := extremum fun next best => next.gt best

/-- `min`. -/
def pyMin : List Number → Computed PyValue := extremum fun next best => best.gt next

/-- `int.__round__` with a number of digits, through `10 ** -digits`. -/
def roundInt (n digits : Int) : Computed PyValue :=
  if 0 ≤ digits then pure (.number (.int n))
  else do
    let unit : Int := 10 ^ (-digits).toNat
    .tell (.constructed unit)
    construct (nearestQuotient n unit * unit)

/-- `round`. -/
def pyRound : List Number → Computed PyValue
  | [v] => toInteger roundExact v
  | [.int n, .int digits] => roundInt n digits
  | [.float x, .int digits] => floatOrOverflow (runtime.roundDigits x digits)
  | _ => .raise .type

/-- `sum` from an integer on. -/
def sumFrom (total : Int) : List Number → Computed PyValue
  | [] => pure (.number (.int total))
  | .int n :: rest => do
      .tell (.constructed (total + n))
      sumFrom (total + n) rest
  | .float x :: rest => float (runtime.addFloats (Float.ofInt total + x) rest)

/-- `lambda *values: sum(values)`. -/
def pySum : List Number → Computed PyValue := sumFrom runtime 0

/-- A function of `math` that gives a float. -/
def mathFunction (name : String) (args : List Number) : Computed PyValue :=
  match runtime.math name args with
  | .ok x => float x
  | .error failure => .raise failure.raised

end Builtins

/-! ### The tables -/

/-- The binary operators of the grammar; `other` ones are not in `_OPERATORS`. -/
inductive BinaryOperator where
  | add
  | sub
  | mult
  | div
  | floorDiv
  | mod
  | pow
  | other
deriving DecidableEq

/-- The unary operators of the grammar. -/
inductive UnaryOperator where
  | uAdd
  | uSub
  | other
deriving DecidableEq

/-- The exceptions that `_limit` replaces. -/
def onLimit : Raised → Raised
  | .zeroDivision => .calculation "Division by zero"
  | .overflow => .calculation "Numeric result is out of range"
  | error => error

/-- `_limit`. -/
def limit (result : Computed PyValue) : Computed Number :=
  Logged.mapError onLimit do
    let value ← result
    .lift (finiteNumber value)

/-- The exceptions that `_call` replaces. -/
def onCall (name : String) : Raised → Raised
  | .type => .value ("Invalid arguments for " ++ name)
  | .value _ | .overflow | .zeroDivision => .calculation "Mathematical evaluation failed"
  | error => error

/-- `_call`. -/
def call (name : String) (result : Computed PyValue) : Computed Number := do
  let value ← result.mapError (onCall name)
  .lift (finiteNumber value)

/-- The functions of `math` that give a float. -/
def mathNames : List String := ["acos", "asin", "atan", "atan2", "cos", "cosh", "degrees", "exp",
  "fabs", "hypot", "log", "log10", "log2", "radians", "sin", "sinh", "sqrt", "tan", "tanh"]

section Tables

variable (runtime : FloatRuntime)

/-- `_OPERATORS` of two operands. -/
def BinaryOperator.apply? : BinaryOperator → Option (Number → Number → Computed Number)
  | .add => some fun v w => limit (Calculation.add v w)
  | .sub => some fun v w => limit (Calculation.sub v w)
  | .mult => some fun v w => limit (mul v w)
  | .div => some fun v w => limit (truediv v w)
  | .floorDiv => some fun v w => limit (floordiv runtime v w)
  | .mod => some fun v w => limit (Calculation.mod runtime v w)
  | .pow => some fun v w => limit (checkedPow runtime v w)
  | .other => none

/-- `_OPERATORS` of one operand. -/
def UnaryOperator.apply? : UnaryOperator → Option (Number → Computed Number)
  | .uAdd => some fun v => limit (pos v)
  | .uSub => some fun v => limit (neg v)
  | .other => none

/-- The builtins of `_FUNCTIONS`. -/
def builtin? (name : String) : Option (List Number → Computed PyValue) :=
  match name with
  | "ceil" => some ceil
  | "floor" => some floor
  | "trunc" => some trunc
  | "abs" => some pyAbs
  | "factorial" => some checkedFactorial
  | "max" => some pyMax
  | "min" => some pyMin
  | "pow" => some (binary (checkedPow runtime))
  | "round" => some (pyRound runtime)
  | "sum" => some (pySum runtime)
  | name => if mathNames.contains name then some (mathFunction runtime name) else none

/-- `_FUNCTIONS`. -/
def function? (name : String) : Option (List Number → Computed Number) :=
  (builtin? runtime name).map fun builtin args => call name (builtin args)

end Tables

/-- `_NAMES`. -/
def names : List (String × Number) := [("pi", .float 3.141592653589793),
  ("e", .float 2.718281828459045), ("tau", .float 6.283185307179586)]

/-! ### Expressions -/

/-- A literal: a number that is no `bool`, or another value. -/
inductive Literal where
  | number (v : Number)
  | other

/-- The tree of an expression.  `other` are all classes of nodes that are not allowed, keyword
arguments among them; `ast.Load` of a name and the nodes of operators are not written. -/
inductive Ast where
  | constant (value : Literal)
  | name (id : String)
  | unaryOp (op : UnaryOperator) (operand : Ast)
  | binOp (op : BinaryOperator) (left right : Ast)
  | call (func : Ast) (args : List Ast)
  | other (children : List Ast)

namespace Ast

mutual

/-- How many nodes `ast.walk` gives. -/
def nodeCount : Ast → Nat
  | .constant _ => 1
  | .name _ => 2
  | .unaryOp _ operand => 2 + nodeCount operand
  | .binOp _ left right => 2 + nodeCount left + nodeCount right
  | .call func args => 1 + nodeCount func + nodeCounts args
  | .other children => 1 + nodeCounts children

def nodeCounts : List Ast → Nat
  | [] => 0
  | tree :: trees => nodeCount tree + nodeCounts trees

end

/-- The children of a node; an operator that is not allowed stands for itself. -/
def children : Ast → List Ast
  | .constant _ | .name _ => []
  | .unaryOp op operand => (if op = .other then [.other []] else []) ++ [operand]
  | .binOp op left right => left :: (if op = .other then [.other []] else []) ++ [right]
  | .call func args => func :: args
  | .other children => children

/-- The nodes of one depth, from left to right. -/
def nodesAt : Nat → Ast → List Ast
  | 0, tree => [tree]
  | depth + 1, tree => tree.children.flatMap (nodesAt depth)

/-- `ast.walk`: the nodes by depth. -/
def walk (tree : Ast) : List Ast :=
  (List.range tree.nodeCount).flatMap fun depth => nodesAt depth tree

/-- What is wrong with a node. -/
def offence : Ast → Option Raised
  | .other _ => some (.value "Expression contains disallowed syntax")
  | .constant .other => some (.value "Only numeric literals are allowed")
  | _ => none

/-- `_reject_disallowed`; the tree stands under an `ast.Expression`. -/
def rejectDisallowed (tree : Ast) : Except Raised Unit :=
  if tree.nodeCount + 1 > maxAstNodes then .error (.value "Expression is too complex")
  else match tree.walk.findSome? offence with
    | some error => .error error
    | none => .ok ()

end Ast

/-! ### Evaluation -/

section Evaluation

variable (runtime : FloatRuntime)

/-- The value of a node is logged. -/
def logged (result : Computed Number) : Computed Number := do
  let v ← result
  .tell (.value v)
  return v

/-- `_eval_constant`. -/
def evalConstant : Literal → Except Raised Number
  | .number v => finiteNumber (.number v)
  | .other => finiteNumber .other

/-- `_eval_name`. -/
def evalName (id : String) : Except Raised Number :=
  match names.lookup id with
  | some v => .ok v
  | none => .error (.value ("Unknown name " ++ Json.reprText id))

mutual

/-- `simpleeval`'s evaluation of a node: the operands, then the operator or function. -/
def evalNode : Ast → Computed Number
  | .constant value => logged (.lift (evalConstant value))
  | .name id => logged (.lift (evalName id))
  | .unaryOp op operand =>
      match op.apply? with
      | none => .raise .invalidExpression
      | some apply => logged do
          let v ← evalNode operand
          apply v
  | .binOp op left right =>
      match op.apply? runtime with
      | none => .raise .invalidExpression
      | some apply => logged do
          let v ← evalNode left
          let w ← evalNode right
          apply v w
  | .call (.name id) args =>
      match function? runtime id with
      | none => .raise (.functionNotDefined id)
      | some apply => logged do
          let values ← evalArgs args
          apply values
  | .call _ _ => .raise .invalidExpression
  | .other _ => .raise .invalidExpression

/-- The arguments of a call. -/
def evalArgs : List Ast → Computed (List Number)
  | [] => pure []
  | arg :: args => do
      let v ← evalNode arg
      let values ← evalArgs args
      return v :: values

end

/-- The exceptions of `simpleeval`. -/
def onInvalid : Raised → Raised
  | .functionNotDefined name => .value ("Function " ++ Json.reprText name ++ " is not allowed")
  | .invalidExpression => .value "Expression contains disallowed syntax"
  | error => error

variable (parse : String → Option Ast)

/-- The tree that is evaluated: `ast.parse` and the checks before and after it. -/
def acceptedTree (expression : String) : Except Raised Ast :=
  let source := Display.strip expression
  if source = "" then .error (.value "Expression must be a non-empty string")
  else if source.length > maxExpressionLength then
    .error (.value "Expression exceeds the maximum allowed length")
  else match parse source with
    | none => .error (.value "Expression is not valid arithmetic")
    | some tree => tree.rejectDisallowed.map fun _ => tree

/-- `evaluate_expression`. -/
def evaluateExpression (expression : String) : Computed Number := do
  let tree ← .lift (acceptedTree parse expression)
  let value ← (evalNode runtime tree).mapError onInvalid
  .lift (finiteNumber (.number value))

end Evaluation

end Calculation
end HomeCortex
