/-
# Python's numbers and equality

Python compares `bool`, `int` and `float` by their exact values, so
`1 == 1.0 == True` and no integer beyond 2⁵³ is confused with a rounded one.  A
finite binary64 is read as mantissa and exponent; `pyEq` is `==` of JSON values,
where dicts are equal whatever their field order.
-/

import HomeCortex.Common.Json

namespace HomeCortex

/-- The exact value of a number: `mantissa · 2 ^ exponent`, an infinity or `nan`. -/
inductive ExactNumber where
  | finite (mantissa exponent : Int)
  | infinity (negative : Bool)
  | nan
deriving DecidableEq, Repr

open Float.Model in
/-- The exact value of a binary64. -/
def exactFloat (x : Float) : ExactNumber :=
  match x.toModel.unpack with
  | .zero _ => .finite 0 0
  | .finite sign mantissa exponent _ => .finite (sign.apply mantissa) exponent
  | .infinity sign => .infinity (sign.apply 1 < 0)
  | .notANumber => .nan

/-- The exact value of a JSON number; a `bool` is an `int`. -/
def exactNumber? : Json → Option ExactNumber
  | .bool b => some (.finite (if b then 1 else 0) 0)
  | .int n => some (.finite n 0)
  | .float x => some (exactFloat x)
  | _ => none

/-- The order of two exact numbers; `nan` has none. -/
def compareExact : ExactNumber → ExactNumber → Option Ordering
  | .finite m e, .finite n f =>
      let low := min e f
      some (compare (m * 2 ^ (e - low).toNat) (n * 2 ^ (f - low).toNat))
  | .finite _ _, .infinity negative => some (if negative then .gt else .lt)
  | .infinity negative, .finite _ _ => some (if negative then .lt else .gt)
  | .infinity a, .infinity b => some (compare b a)
  | .nan, _ | _, .nan => none

/-- `a == b` of two numbers. -/
def exactEq (a b : ExactNumber) : Bool := compareExact a b == some .eq

/-- `base ** n`. -/
def floatPow (base : Float) : Nat → Float
  | 0 => 1.0
  | n + 1 => floatPow base n * base

/-- `a / b` rounded once: 66 bits of the quotient and one for what is left. -/
def roundedQuotient (a : Int) (b : Nat) : Float :=
  let n := a.natAbs
  let shift : Int := 66 + (b.log2 : Int) - n.log2
  let numerator := n <<< shift.toNat
  let denominator := b <<< (-shift).toNat
  let mantissa := 2 * (numerator / denominator) + if numerator % denominator = 0 then 0 else 1
  let rounded := Float.ofInt (a.sign * mantissa)
  if 0 ≤ shift + 1 then rounded * floatPow 0.5 (shift + 1).toNat
  else rounded * floatPow 2.0 (-(shift + 1)).toNat

namespace Json

mutual

/-- `a == b`. -/
def pyEq : Json → Json → Bool
  | .null, .null => true
  | .str a, .str b => a == b
  | .arr a, .arr b => pyEqItems a b
  | .obj a, .obj b => a.length == b.length && pyEqFields a b
  | .bool a, b => numEq (.bool a) b
  | .int a, b => numEq (.int a) b
  | .float a, b => numEq (.float a) b
  | _, _ => false
where
  /-- `a == b` for a number `a`. -/
  numEq (a b : Json) : Bool :=
    match exactNumber? a, exactNumber? b with
    | some a, some b => exactEq a b
    | _, _ => false

def pyEqItems : List Json → List Json → Bool
  | [], [] => true
  | a :: as, b :: bs => pyEq a b && pyEqItems as bs
  | _, _ => false

/-- Every field of the first is in the second, with an equal value. -/
def pyEqFields : List (String × Json) → List (String × Json) → Bool
  | [], _ => true
  | (key, a) :: as, bs =>
      (match bs.lookup key with
        | some b => pyEq a b
        | none => false) && pyEqFields as bs

end

end Json

/-- A finite float has an exact value. -/
theorem exactFloat_isFinite {x : Float} (h : x.isFinite = true) :
    ∃ mantissa exponent, exactFloat x = .finite mantissa exponent := by
  have hfinite : x.toModel.unpack.isFinite = true := h
  rw [exactFloat]
  cases hunpack : x.toModel.unpack with
  | zero => exact ⟨_, _, rfl⟩
  | finite => exact ⟨_, _, rfl⟩
  | infinity sign => rw [hunpack] at hfinite; cases hfinite
  | notANumber => rw [hunpack] at hfinite; cases hfinite

/-- A text, a boolean, an integer or a finite float. -/
def Json.isScalar : Json → Bool
  | .str _ | .bool _ | .int _ => true
  | .float x => x.isFinite
  | .null | .arr _ | .obj _ => false

/-- A scalar is equal to itself. -/
theorem Json.pyEq_self {value : Json} (h : value.isScalar = true) : pyEq value value = true := by
  have hexact : ∀ mantissa exponent : Int,
      exactEq (.finite mantissa exponent) (.finite mantissa exponent) = true := by
    intro mantissa exponent
    simp [exactEq, compareExact]
  cases value with
  | str text => simp [pyEq]
  | bool b => rw [pyEq, pyEq.numEq]; exact hexact _ _
  | int n => rw [pyEq, pyEq.numEq]; exact hexact _ _
  | float x =>
      obtain ⟨mantissa, exponent, hx⟩ := exactFloat_isFinite h
      rw [pyEq, pyEq.numEq, exactNumber?, hx]
      exact hexact _ _
  | null | arr | obj => cases h

example : Json.pyEq (.int 9007199254740993) (.float 9007199254740992.0) = false ∧
    Json.pyEq (.bool true) (.float 1.0) = true := by
  decide +kernel

end HomeCortex
