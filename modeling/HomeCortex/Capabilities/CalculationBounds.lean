/-
# Bounds of the calculator

What `capabilities/calculation.py` promises: every value of an evaluation is an integer up to
`10 ** 18` or a finite float up to `1e15`, integers stay exact, and no integer grows beyond
`(10 ** 18) ** 12` before its check.  The last fails for `round` with two integers, which goes
through `10 ** -digits` for any number of digits: `evaluateExpression_promises_iff` says that
this is the only exception.
-/

import HomeCortex.Capabilities.Calculation
import HomeCortex.Library.Checked
import HomeCortex.Library.Table

namespace HomeCortex
namespace Calculation

/-! ### Checked numbers -/

/-- What is within the limits: an integer up to `10 ** 18`, a finite float up to `1e15`. -/
def Number.Bounded : Number → Prop
  | .int n => |n| ≤ maxAbsInt
  | .float x => ∃ mantissa exponent : Int, exactFloat x = .finite mantissa exponent ∧
      |(mantissa : ℚ)| * 2 ^ exponent ≤ maxAbsFloat

/-- An exact value that a limit lets through, as a rational. -/
theorem le_of_compareExact {mantissa exponent limit : Int}
    (h : (compareExact (.finite |mantissa| exponent) (.finite limit 0) == some .gt) = false) :
    |(mantissa : ℚ)| * 2 ^ exponent ≤ limit := by
  have hle : |mantissa| * 2 ^ (exponent - min exponent 0).toNat ≤
      limit * 2 ^ (0 - min exponent 0).toNat := by
    rw [compareExact, beq_eq_false_iff_ne, Ne, Option.some.injEq, compare_gt_iff_gt, not_lt] at h
    exact h
  rcases le_total 0 exponent with hpos | hneg
  · obtain ⟨k, rfl⟩ := Int.eq_ofNat_of_zero_le hpos
    have hcast : |mantissa| * 2 ^ k ≤ limit := by simpa using hle
    have hrat : ((|mantissa| * 2 ^ k : Int) : ℚ) ≤ (limit : ℚ) := by exact_mod_cast hcast
    simpa [zpow_natCast] using hrat
  · obtain ⟨k, hk⟩ := Int.eq_ofNat_of_zero_le (Int.neg_nonneg_of_nonpos hneg)
    obtain rfl : exponent = -(k : Int) := by omega
    have hcast : |mantissa| ≤ limit * 2 ^ k := by simpa using hle
    have hrat : ((|mantissa| : Int) : ℚ) ≤ ((limit * 2 ^ k : Int) : ℚ) := by exact_mod_cast hcast
    have hpow : (0 : ℚ) < 2 ^ k := by positivity
    rw [zpow_neg, zpow_natCast, ← div_eq_mul_inv, div_le_iff₀ hpow]
    simpa using hrat

theorem finiteNumber_eq_ok {value : PyValue} {v : Number} (h : finiteNumber value = .ok v) :
    value = .number v ∧ v.Bounded := by
  cases value with
  | other => cases h
  | number w =>
      cases w with
      | int n =>
          rw [finiteNumber, ite_eq_iff] at h
          rcases h with ⟨-, h⟩ | ⟨hle, h⟩
          · cases h
          · obtain rfl := Except.ok.inj h
            exact ⟨rfl, not_lt.mp hle⟩
      | float x =>
          rw [finiteNumber, ite_eq_iff] at h
          rcases h with ⟨-, h⟩ | ⟨hle, h⟩
          · cases h
          · obtain rfl := Except.ok.inj h
            rw [Bool.or_eq_true, not_or, Bool.not_eq_true, Bool.not_eq_true,
              Bool.not_eq_false'] at hle
            obtain ⟨mantissa, exponent, hx⟩ := exactFloat_isFinite hle.1
            have habs := hle.2
            rw [Number.exceeds, Number.absExact, Number.exact, hx] at habs
            exact ⟨rfl, mantissa, exponent, hx, le_of_compareExact habs⟩

theorem finiteNumber_eq_error {value : PyValue} {error : Raised}
    (h : finiteNumber value = .error error) : error.isValueError = true := by
  cases value with
  | other =>
      obtain rfl := Except.error.inj h
      rfl
  | number w =>
      cases w with
      | int n =>
          rw [finiteNumber, ite_eq_iff] at h
          rcases h with ⟨-, h⟩ | ⟨-, h⟩
          · obtain rfl := Except.error.inj h
            rfl
          · cases h
      | float x =>
          rw [finiteNumber, ite_eq_iff] at h
          rcases h with ⟨-, h⟩ | ⟨-, h⟩
          · obtain rfl := Except.error.inj h
            rfl
          · cases h

/-- The names are within the limits. -/
theorem names_bounded : ∀ entry ∈ names, entry.2.Bounded := by
  have hall : (names.all fun entry => (finiteNumber (.number entry.2)).isOk) = true := by
    decide +kernel
  intro entry hentry
  cases hfinite : finiteNumber (.number entry.2) with
  | ok v =>
      obtain ⟨hv, hbounded⟩ := finiteNumber_eq_ok hfinite
      obtain rfl := PyValue.number.inj hv
      exact hbounded
  | error e =>
      have := List.all_eq_true.mp hall entry hentry
      rw [hfinite] at this
      cases this


/-! ### What a builtin constructs -/

/-- The greatest power that is not rejected beforehand. -/
def constructedLimit : Int := 10 ^ 216

/-- A node's value is within the limits; so is a constructed integer, where `near` holds. -/
def Event.Good (near : Prop) : Event → Prop
  | .value v => v.Bounded
  | .constructed n => near → |n| ≤ constructedLimit

/-- The exceptions of an operator. -/
def Raised.isArithmetic : Raised → Bool
  | .calculation _ | .value _ | .zeroDivision | .overflow => true
  | _ => false

/-- The exceptions of a function. -/
def Raised.isBuiltin : Raised → Bool
  | .functionNotDefined _ | .invalidExpression => false
  | _ => true

/-- The exceptions of an evaluation. -/
def Raised.isEvaluation : Raised → Bool
  | .type | .zeroDivision | .overflow => false
  | _ => true

section Builtins

variable {near : Prop} {failure : Raised → Bool}

/-- A builtin constructs integers up to the limit, and fails in some ways. -/
abbrev Safe (near : Prop) (failure : Raised → Bool) (x : Computed PyValue) : Prop :=
  Logged.Within (Event.Good near) (fun _ => True) (failure · = true) x

theorem safe_pure (value : PyValue) : Safe near failure (pure value) :=
  Logged.within_pure trivial

theorem safe_raise {error : Raised} (h : failure error = true) :
    Safe near failure (.raise error) :=
  Logged.within_raise h

theorem safe_construct {n : Int} (h : near → |n| ≤ constructedLimit) :
    Safe near failure (construct n) :=
  (Logged.within_tell (e := Event.constructed n) h).bind fun _ _ _ => safe_pure _

theorem safe_floatOrOverflow (h : failure .overflow = true) (x : Option Float) :
    Safe near failure (floatOrOverflow x) := by
  cases x with
  | none => exact safe_raise h
  | some x => exact safe_pure _

/-- An operator whose integer results are small. -/
theorem safe_arithmetic {onInts : Int → Int → Int} {onFloats : Float → Float → Float}
    (h : ∀ a b, |a| ≤ maxAbsInt → |b| ≤ maxAbsInt → |onInts a b| ≤ constructedLimit) {v w : Number}
    (hv : v.Bounded) (hw : w.Bounded) : Safe near failure (arithmetic onInts onFloats v w) := by
  cases v with
  | int a =>
      cases w with
      | int b => exact safe_construct fun _ => h a b hv hw
      | float y => exact safe_pure _
  | float x => exact safe_pure _

theorem safe_add {v w : Number} (hv : v.Bounded) (hw : w.Bounded) : Safe near failure (add v w) := by
  refine safe_arithmetic (fun a b ha hb => (abs_add_le a b).trans ?_) hv hw
  rw [maxAbsInt] at ha hb
  rw [constructedLimit]
  omega

theorem safe_sub {v w : Number} (hv : v.Bounded) (hw : w.Bounded) : Safe near failure (sub v w) := by
  refine safe_arithmetic (fun a b ha hb => (abs_sub a b).trans ?_) hv hw
  rw [maxAbsInt] at ha hb
  rw [constructedLimit]
  omega

theorem safe_mul {v w : Number} (hv : v.Bounded) (hw : w.Bounded) : Safe near failure (mul v w) := by
  refine safe_arithmetic (fun a b ha hb => ?_) hv hw
  calc |a * b| = |a| * |b| := abs_mul a b
    _ ≤ maxAbsInt * maxAbsInt := mul_le_mul ha hb (abs_nonneg b) (by decide)
    _ ≤ constructedLimit := by norm_num [maxAbsInt, constructedLimit]

theorem safe_truediv (v w : Number) (hfailure : failure .zeroDivision = true) :
    Safe near failure (truediv v w) := by
  rw [truediv.eq_def]
  split <;> split
  · exact safe_raise hfailure
  · exact safe_pure _
  · exact safe_raise hfailure
  · exact safe_pure _

theorem abs_fdiv_le (a b : Int) : |a.fdiv b| ≤ |a| + 1 := by
  have hdiv := Int.abs_ediv_le_abs a b
  have hsub := abs_sub (a / b) (if 0 ≤ b ∨ b ∣ a then 0 else 1)
  have hone : |(if 0 ≤ b ∨ b ∣ a then 0 else 1 : Int)| ≤ 1 := by split <;> simp
  rw [Int.fdiv_eq_ediv]
  omega

theorem abs_fmod_le (a b : Int) : |a.fmod b| ≤ |a| + |b| * (|a| + 1) := by
  have hmul : |b * a.fdiv b| ≤ |b| * (|a| + 1) := by
    rw [abs_mul]
    exact mul_le_mul_of_nonneg_left (abs_fdiv_le a b) (abs_nonneg b)
  rw [Int.fmod_def]
  exact (abs_sub _ _).trans (by omega)

theorem safe_floordiv (runtime : FloatRuntime) {v : Number} (w : Number) (hv : v.Bounded)
    (hfailure : failure .zeroDivision = true) : Safe near failure (floordiv runtime v w) := by
  rw [floordiv.eq_def]
  split <;> split
  case h_1.isTrue => exact safe_raise hfailure
  case h_1.isFalse a b _ =>
    have ha : |a| ≤ maxAbsInt := hv
    have hdiv := abs_fdiv_le a b
    rw [maxAbsInt] at ha
    refine safe_construct fun _ => ?_
    rw [constructedLimit]
    omega
  case h_2.isTrue => exact safe_raise hfailure
  case h_2.isFalse => exact safe_pure _

theorem safe_mod (runtime : FloatRuntime) {v w : Number} (hv : v.Bounded) (hw : w.Bounded)
    (hfailure : failure .zeroDivision = true) : Safe near failure (mod runtime v w) := by
  rw [mod.eq_def]
  split <;> split
  case h_1.isTrue => exact safe_raise hfailure
  case h_1.isFalse a b _ =>
    have ha : |a| ≤ maxAbsInt := hv
    have hb : |b| ≤ maxAbsInt := hw
    have hzero : 0 ≤ maxAbsInt := by decide
    refine safe_construct fun _ => (abs_fmod_le a b).trans ?_
    calc |a| + |b| * (|a| + 1) ≤ maxAbsInt + maxAbsInt * (maxAbsInt + 1) := by gcongr
      _ ≤ constructedLimit := by norm_num [maxAbsInt, constructedLimit]
  case h_2.isTrue => exact safe_raise hfailure
  case h_2.isFalse => exact safe_pure _

theorem safe_floatPower (runtime : FloatRuntime) (base exponent : Float) :
    Safe near Raised.isArithmetic (floatPower runtime base exponent) := by
  rw [floatPower]
  split
  · exact safe_pure _
  · split
    · exact safe_raise rfl
    · split
      · exact safe_pure _
      · exact safe_floatOrOverflow rfl _

/-- A power whose exponent is admitted. -/
theorem abs_pow_le {base exponent : Int} (hbase : |base| ≤ maxAbsInt)
    (hexponent : (Number.int exponent).exceeds maxPowerAbsExponent = false) :
    |base ^ exponent.toNat| ≤ constructedLimit := by
  have hrat : |(exponent : ℚ)| * 2 ^ (0 : Int) ≤ maxPowerAbsExponent := le_of_compareExact hexponent
  have habs : |exponent| ≤ 12 := by
    have hcast : ((|exponent| : Int) : ℚ) ≤ ((12 : Int) : ℚ) := by simpa [maxPowerAbsExponent] using hrat
    exact_mod_cast hcast
  have hnat : exponent.toNat ≤ 12 := by
    have := le_abs_self exponent
    omega
  calc |base ^ exponent.toNat| = |base| ^ exponent.toNat := abs_pow base _
    _ ≤ maxAbsInt ^ exponent.toNat := pow_le_pow_left₀ (abs_nonneg base) hbase _
    _ ≤ maxAbsInt ^ 12 := pow_le_pow_right₀ (by decide) hnat
    _ = constructedLimit := by norm_num [maxAbsInt, constructedLimit]

theorem safe_checkedPow (runtime : FloatRuntime) {v : Number} (w : Number) (hv : v.Bounded) :
    Safe near Raised.isArithmetic (checkedPow runtime v w) := by
  rw [checkedPow]
  split
  case isTrue => exact safe_raise rfl
  case isFalse hexceeds =>
    rw [Bool.not_eq_true] at hexceeds
    have hpower : Safe near Raised.isArithmetic (power runtime v w) := by
      rw [power.eq_def]
      split
      case h_1 base exponent =>
        split
        · exact safe_construct fun _ => abs_pow_le hv hexceeds
        · split
          · exact safe_raise rfl
          · exact safe_floatPower runtime _ _
      case h_2 => exact safe_floatPower runtime _ _
    refine hpower.mapError fun error herror => ?_
    cases error <;> first | rfl | exact herror

theorem safe_pos (v : Number) : Safe near failure (pos v) := safe_pure _

theorem safe_neg {v : Number} (hv : v.Bounded) : Safe near failure (neg v) := by
  cases v with
  | int n =>
      have hn : |n| ≤ maxAbsInt := hv
      refine safe_construct fun _ => ?_
      rw [abs_neg, constructedLimit]
      rw [maxAbsInt] at hn
      omega
  | float x => exact safe_pure _

/-! ### From floats to integers -/

/-- `mantissa · 2 ^ exponent` is within the limit of floats. -/
def ExactInRange (mantissa exponent : Int) : Prop :=
  if 0 ≤ exponent then |mantissa * 2 ^ exponent.toNat| ≤ maxAbsFloat
  else |mantissa| ≤ maxAbsFloat * 2 ^ (-exponent).toNat

/-- The exact value of a float within the limits. -/
theorem exactInRange_of_bounded {x : Float} (h : (Number.float x).Bounded) :
    ∃ mantissa exponent, exactFloat x = .finite mantissa exponent ∧
      ExactInRange mantissa exponent := by
  obtain ⟨mantissa, exponent, hx, hle⟩ := h
  refine ⟨mantissa, exponent, hx, ?_⟩
  rw [ExactInRange]
  split
  case isTrue hpos =>
    obtain ⟨k, rfl⟩ := Int.eq_ofNat_of_zero_le hpos
    rw [zpow_natCast] at hle
    have hcast : ((|mantissa * 2 ^ k| : Int) : ℚ) ≤ ((maxAbsFloat : Int) : ℚ) := by
      rw [abs_mul, abs_of_pos (show (0 : Int) < 2 ^ k by positivity)]
      simpa using hle
    rw [Int.toNat_natCast]
    exact_mod_cast hcast
  case isFalse hneg =>
    obtain ⟨k, hk⟩ := Int.eq_ofNat_of_zero_le (show 0 ≤ -exponent by omega)
    obtain rfl : exponent = -(k : Int) := by omega
    have hpow : (0 : ℚ) < 2 ^ k := by positivity
    rw [zpow_neg, zpow_natCast, ← div_eq_mul_inv, div_le_iff₀ hpow] at hle
    have hcast : ((|mantissa| : Int) : ℚ) ≤ ((maxAbsFloat * 2 ^ k : Int) : ℚ) := by simpa using hle
    rw [neg_neg, Int.toNat_natCast]
    exact_mod_cast hcast

theorem ExactInRange.neg {mantissa exponent : Int} (h : ExactInRange mantissa exponent) :
    ExactInRange (-mantissa) exponent := by
  rw [ExactInRange, neg_mul, abs_neg, abs_neg]
  exact h

/-- Quotients of a bounded dividend. -/
theorem abs_div_le {a b limit : Int} (hb : 0 < b) (h : |a| ≤ limit * b) : |a / b| ≤ limit := by
  rw [abs_le] at h ⊢
  refine ⟨(Int.le_ediv_iff_mul_le hb).mpr (by linarith), ?_⟩
  exact Int.ediv_le_of_le_mul hb h.2

theorem abs_floorExact_le {mantissa exponent : Int} (h : ExactInRange mantissa exponent) :
    |floorExact mantissa exponent| ≤ maxAbsFloat := by
  rw [floorExact]
  rw [ExactInRange] at h
  split
  case isTrue hpos => rwa [if_pos hpos] at h
  case isFalse hneg =>
    rw [if_neg hneg] at h
    exact abs_div_le (by positivity) h

theorem abs_ceilExact_le {mantissa exponent : Int} (h : ExactInRange mantissa exponent) :
    |ceilExact mantissa exponent| ≤ maxAbsFloat := by
  rw [ceilExact, abs_neg]
  exact abs_floorExact_le h.neg

theorem abs_truncExact_le {mantissa exponent : Int} (h : ExactInRange mantissa exponent) :
    |truncExact mantissa exponent| ≤ maxAbsFloat := by
  rw [truncExact]
  split
  · exact abs_floorExact_le h
  · exact abs_ceilExact_le h

theorem nearestQuotient_cases (a b : Int) :
    nearestQuotient a b = a / b ∧ 2 * (a % b) ≤ b ∨
      nearestQuotient a b = a / b + 1 ∧ b ≤ 2 * (a % b) := by
  rw [nearestQuotient]
  split
  case isTrue h =>
    simp only [Bool.or_eq_true, decide_eq_true_eq, Bool.and_eq_true, beq_iff_eq] at h
    exact .inr ⟨rfl, by omega⟩
  case isFalse h =>
    simp only [Bool.or_eq_true, decide_eq_true_eq, not_or] at h
    exact .inl ⟨rfl, by omega⟩

theorem abs_roundExact_le {mantissa exponent : Int} (h : ExactInRange mantissa exponent) :
    |roundExact mantissa exponent| ≤ maxAbsFloat + 1 := by
  rw [roundExact]
  rw [ExactInRange] at h
  split
  case isTrue hpos =>
    rw [if_pos hpos] at h
    omega
  case isFalse hneg =>
    rw [if_neg hneg] at h
    have hdiv := abs_div_le (by positivity) h
    rcases nearestQuotient_cases mantissa (2 ^ (-exponent).toNat) with ⟨heq, -⟩ | ⟨heq, -⟩
    · rw [heq]
      omega
    · have hadd := abs_add_le (mantissa / 2 ^ (-exponent).toNat) 1
      rw [abs_one] at hadd
      rw [heq]
      omega

/-- The multiple of a unit that is nearest to a number is not much larger. -/
theorem abs_nearest_mul_le (n : Int) {unit : Int} (hunit : 0 < unit) :
    |nearestQuotient n unit * unit| ≤ 2 * |n| := by
  have hsplit := Int.emod_add_mul_ediv n unit
  have hmod := Int.emod_nonneg n hunit.ne'
  have hlt := Int.emod_lt_of_pos n hunit
  -- The sign of the quotient is that of `n`.
  have hsign : 0 ≤ n ∧ 0 ≤ unit * (n / unit) ∨ n < 0 ∧ unit * (n / unit) ≤ -unit := by
    rcases le_or_gt 0 n with hn | hn
    · exact .inl ⟨hn, mul_nonneg hunit.le (Int.ediv_nonneg hn hunit.le)⟩
    · have hquotient : n / unit ≤ -1 := by
        have := Int.ediv_neg_of_neg_of_pos hn hunit
        omega
      exact .inr ⟨hn, by nlinarith⟩
  have hn := abs_le.mp (le_refl |n|)
  rw [abs_le]
  rcases nearestQuotient_cases n unit with ⟨heq, hround⟩ | ⟨heq, hround⟩
  · rw [heq, mul_comm (n / unit) unit]
    rcases hsign with ⟨hpos, hquotient⟩ | ⟨hneg, hquotient⟩
    · rw [abs_of_nonneg hpos]
      omega
    · rw [abs_of_neg hneg]
      omega
  · rw [heq, add_mul, one_mul, mul_comm (n / unit) unit]
    rcases hsign with ⟨hpos, hquotient⟩ | ⟨hneg, hquotient⟩
    · rw [abs_of_nonneg hpos]
      omega
    · rw [abs_of_neg hneg]
      omega

/-! ### Functions -/

theorem safe_toInteger {onExact : Int → Int → Int}
    (h : ∀ mantissa exponent, ExactInRange mantissa exponent →
      |onExact mantissa exponent| ≤ maxAbsFloat + 1) {v : Number} (hv : v.Bounded) :
    Safe near failure (toInteger onExact v) := by
  cases v with
  | int n => exact safe_pure _
  | float x =>
      obtain ⟨mantissa, exponent, hx, hrange⟩ := exactInRange_of_bounded hv
      have hle := h mantissa exponent hrange
      rw [toInteger, hx]
      refine safe_construct fun _ => ?_
      rw [maxAbsFloat] at hle
      rw [constructedLimit]
      omega

theorem safe_unary {f : Number → Computed PyValue} (hfailure : failure .type = true)
    {args : List Number} (hargs : ∀ v ∈ args, v.Bounded)
    (h : ∀ v : Number, v.Bounded → Safe near failure (f v)) : Safe near failure (unary f args) := by
  rw [unary.eq_def]
  split
  · exact h _ (hargs _ (by simp))
  · exact safe_raise hfailure

theorem safe_pyAbs {args : List Number} (hargs : ∀ v ∈ args, v.Bounded) :
    Safe near Raised.isBuiltin (pyAbs args) := by
  refine safe_unary rfl hargs fun v hv => ?_
  cases v with
  | int n =>
      have hn : |n| ≤ maxAbsInt := hv
      refine safe_construct fun _ => ?_
      rw [abs_abs, constructedLimit]
      rw [maxAbsInt] at hn
      omega
  | float x => exact safe_pure _

theorem safe_checkedFactorial {args : List Number} (hargs : ∀ v ∈ args, v.Bounded) :
    Safe near Raised.isBuiltin (checkedFactorial args) := by
  refine safe_unary rfl hargs fun v _ => ?_
  cases v with
  | float x => exact safe_raise rfl
  | int n =>
      dsimp only
      split
      case isTrue => exact safe_raise rfl
      case isFalse h =>
        rw [Bool.or_eq_true, decide_eq_true_eq, decide_eq_true_eq, not_or, maxFactorialArgument] at h
        have hle : n.toNat.factorial ≤ Nat.factorial 20 := Nat.factorial_le (by omega)
        have hlimit : ((Nat.factorial 20 : Nat) : Int) ≤ constructedLimit := by
          norm_num [Nat.factorial, constructedLimit]
        refine safe_construct fun _ => ?_
        rw [abs_of_nonneg (Int.natCast_nonneg _)]
        exact (Int.ofNat_le.mpr hle).trans hlimit

theorem safe_extremum (beats : Number → Number → Bool) (args : List Number) :
    Safe near Raised.isBuiltin (extremum beats args) := by
  rw [extremum.eq_def]
  split
  · exact safe_pure _
  · exact safe_raise rfl

/-- `round` of an integer is safe where the number of digits is not far below zero. -/
theorem safe_roundInt {n digits : Int} (hn : |n| ≤ maxAbsInt) (hnear : near → -216 ≤ digits) :
    Safe near failure (roundInt n digits) := by
  rw [roundInt]
  split
  case isTrue => exact safe_pure _
  case isFalse hneg =>
    have hunit : (0 : Int) < 10 ^ (-digits).toNat := by positivity
    refine (Logged.within_tell (e := Event.constructed _) fun h => ?_).bind fun _ _ _ =>
      safe_construct fun _ => ?_
    · rw [abs_of_pos hunit, constructedLimit]
      have := hnear h
      exact pow_le_pow_right₀ (by decide) (by omega)
    · have hle := abs_nearest_mul_le n hunit
      rw [maxAbsInt] at hn
      rw [constructedLimit]
      omega

/-- Partial sums of few numbers. -/
theorem safe_sumFrom (runtime : FloatRuntime) {args : List Number}
    (hargs : ∀ v ∈ args, v.Bounded) {total : Int}
    (htotal : |total| + args.length * maxAbsInt ≤ constructedLimit) :
    Safe near Raised.isBuiltin (sumFrom runtime total args) := by
  induction args generalizing total with
  | nil => exact safe_pure _
  | cons v args ih =>
      have hrest : ∀ w ∈ args, w.Bounded := fun w hw => hargs w (List.mem_cons_of_mem _ hw)
      cases v with
      | float x => exact safe_pure _
      | int n =>
          have hn : |n| ≤ maxAbsInt := hargs _ List.mem_cons_self
          have hadd := abs_add_le total n
          have hlength : (0 : Int) ≤ args.length * maxAbsInt :=
            mul_nonneg (Int.natCast_nonneg _) (by decide)
          rw [List.length_cons, Nat.cast_succ, add_mul, one_mul] at htotal
          refine (Logged.within_tell (e := Event.constructed _) fun _ => ?_).bind fun _ _ _ =>
            ih hrest ?_
          · omega
          · omega

theorem safe_mathFunction (runtime : FloatRuntime) (name : String) (args : List Number) :
    Safe near Raised.isBuiltin (mathFunction runtime name args) := by
  rw [mathFunction]
  split
  · exact safe_pure _
  case h_2 failure _ =>
    refine safe_raise ?_
    cases failure <;> rfl

end Builtins

/-! ### Operators and functions -/

section Tables

variable {near : Prop} (runtime : FloatRuntime)

/-- A checked operator gives a number within the limits or a `ValueError`. -/
abbrev Checked (near : Prop) (x : Computed Number) : Prop :=
  Logged.Within (Event.Good near) Number.Bounded (Raised.isValueError · = true) x

theorem checked_finiteNumber (value : PyValue) : Checked near (.lift (finiteNumber value)) :=
  Logged.within_lift (fun _ h => (finiteNumber_eq_ok h).2) fun _ h => finiteNumber_eq_error h

theorem checked_limit {x : Computed PyValue} (h : Safe near Raised.isArithmetic x) :
    Checked near (limit x) := by
  have hbind : Logged.Within (Event.Good near) Number.Bounded (Raised.isArithmetic · = true)
      (x >>= fun value => (.lift (finiteNumber value) : Computed Number)) := by
    refine h.bind fun value _ _ => (checked_finiteNumber value).imp (fun _ h => h) (fun _ h => h) ?_
    intro error herror
    cases error <;> first | rfl | cases herror
  refine hbind.mapError fun error herror => ?_
  cases error <;> first | rfl | cases herror

theorem checked_call (name : String) {x : Computed PyValue} (h : Safe near Raised.isBuiltin x) :
    Checked near (call name x) := by
  refine Logged.Within.bind (h.mapError fun error herror => ?_) fun value _ _ =>
    checked_finiteNumber value
  cases error <;> first | rfl | cases herror

/-- The operators of two operands are checked. -/
theorem checked_binary {op : BinaryOperator} {apply : Number → Number → Computed Number}
    (hop : op.apply? runtime = some apply) {v w : Number} (hv : v.Bounded) (hw : w.Bounded) :
    Checked near (apply v w) := by
  cases op with
  | other => cases hop
  | add =>
      obtain rfl := Option.some.inj hop
      exact checked_limit (safe_add hv hw)
  | sub =>
      obtain rfl := Option.some.inj hop
      exact checked_limit (safe_sub hv hw)
  | mult =>
      obtain rfl := Option.some.inj hop
      exact checked_limit (safe_mul hv hw)
  | div =>
      obtain rfl := Option.some.inj hop
      exact checked_limit (safe_truediv v w rfl)
  | floorDiv =>
      obtain rfl := Option.some.inj hop
      exact checked_limit (safe_floordiv runtime w hv rfl)
  | mod =>
      obtain rfl := Option.some.inj hop
      exact checked_limit (safe_mod runtime hv hw rfl)
  | pow =>
      obtain rfl := Option.some.inj hop
      exact checked_limit (safe_checkedPow runtime w hv)

/-- The operators of one operand are checked. -/
theorem checked_unary {op : UnaryOperator} {apply : Number → Computed Number}
    (hop : op.apply? = some apply) {v : Number} (hv : v.Bounded) : Checked near (apply v) := by
  cases op with
  | other => cases hop
  | uAdd =>
      obtain rfl := Option.some.inj hop
      exact checked_limit (safe_pos v)
  | uSub =>
      obtain rfl := Option.some.inj hop
      exact checked_limit (safe_neg hv)

/-- The integers that `round` is called with are near enough. -/
def RoundsNear (name : String) (args : List Number) : Prop :=
  name = "round" → ∀ n digits, args = [.int n, .int digits] → -216 ≤ digits

theorem safe_pyRound {args : List Number} (hargs : ∀ v ∈ args, v.Bounded)
    (hnear : near → RoundsNear "round" args) : Safe near Raised.isBuiltin (pyRound runtime args) := by
  rw [pyRound.eq_def]
  split
  case h_1 v => exact safe_toInteger (fun _ _ => abs_roundExact_le) (hargs v (by simp))
  case h_2 n digits =>
    exact safe_roundInt (hargs (.int n) (by simp)) fun h => hnear h rfl n digits rfl
  case h_3 => exact safe_floatOrOverflow rfl _
  case h_4 => exact safe_raise rfl

theorem safe_pySum {args : List Number} (hargs : ∀ v ∈ args, v.Bounded)
    (hlength : args.length ≤ maxAstNodes) : Safe near Raised.isBuiltin (pySum runtime args) := by
  refine safe_sumFrom runtime hargs ?_
  have hle : (args.length : Int) * maxAbsInt ≤ 80 * maxAbsInt :=
    mul_le_mul_of_nonneg_right (by exact_mod_cast hlength) (by decide)
  rw [maxAbsInt] at hle ⊢
  rw [abs_zero, constructedLimit]
  omega

theorem safe_binary_checkedPow {args : List Number} (hargs : ∀ v ∈ args, v.Bounded) :
    Safe near Raised.isBuiltin (binary (checkedPow runtime) args) := by
  rw [binary.eq_def]
  split
  case h_1 v w =>
    refine (safe_checkedPow runtime w (hargs v (by simp))).imp (fun _ h => h) (fun _ h => h) ?_
    intro error herror
    cases error <;> first | rfl | cases herror
  case h_2 => exact safe_raise rfl

/-- The builtins construct no large integers, `round` aside. -/
theorem safe_builtin {name : String} {builtin : List Number → Computed PyValue}
    (hname : builtin? runtime name = some builtin) {args : List Number}
    (hargs : ∀ v ∈ args, v.Bounded) (hlength : args.length ≤ maxAstNodes)
    (hnear : near → RoundsNear name args) : Safe near Raised.isBuiltin (builtin args) := by
  have hinteger : ∀ {onExact : Int → Int → Int}, (∀ mantissa exponent,
      ExactInRange mantissa exponent → |onExact mantissa exponent| ≤ maxAbsFloat) →
      Safe near Raised.isBuiltin (unary (toInteger onExact) args) := fun h =>
    safe_unary rfl hargs fun v hv => safe_toInteger (fun m e he => by have := h m e he; omega) hv
  rw [builtin?.eq_def] at hname
  split at hname
  case h_11 =>
    rw [Option.ite_none_right_eq_some] at hname
    obtain rfl := Option.some.inj hname.2
    exact safe_mathFunction runtime _ args
  all_goals obtain rfl := Option.some.inj hname
  case h_1 => exact hinteger fun _ _ => abs_ceilExact_le
  case h_2 => exact hinteger fun _ _ => abs_floorExact_le
  case h_3 => exact hinteger fun _ _ => abs_truncExact_le
  case h_4 => exact safe_pyAbs hargs
  case h_5 => exact safe_checkedFactorial hargs
  case h_6 => exact safe_extremum _ args
  case h_7 => exact safe_extremum _ args
  case h_8 => exact safe_binary_checkedPow runtime hargs
  case h_9 => exact safe_pyRound runtime hargs hnear
  case h_10 => exact safe_pySum runtime hargs hlength

/-- The functions are checked. -/
theorem checked_function {name : String} {apply : List Number → Computed Number}
    (hname : function? runtime name = some apply) {args : List Number}
    (hargs : ∀ v ∈ args, v.Bounded) (hlength : args.length ≤ maxAstNodes)
    (hnear : near → RoundsNear name args) : Checked near (apply args) := by
  obtain ⟨builtin, hbuiltin, rfl⟩ := Option.map_eq_some_iff.mp hname
  exact checked_call name (safe_builtin runtime hbuiltin hargs hlength hnear)

end Tables

/-! ### Evaluation -/

theorem Ast.nodeCount_pos (tree : Ast) : 0 < tree.nodeCount := by
  cases tree <;> rw [Ast.nodeCount] <;> omega

section Evaluation

variable (runtime : FloatRuntime)

mutual

/-- No call of `round` that is reached rounds an integer to digits far left of the point. -/
def RoundsInRange : Ast → Prop
  | .constant _ | .name _ | .other _ => True
  | .unaryOp op operand => op ≠ .other → RoundsInRange operand
  | .binOp op left right => op ≠ .other →
      RoundsInRange left ∧ ((evalNode runtime left).outcome.isOk → RoundsInRange right)
  | .call (.name id) args => (function? runtime id).isSome →
      ArgsInRange args ∧
        ∀ values, (evalArgs runtime args).outcome = .ok values → RoundsNear id values
  | .call _ _ => True

def ArgsInRange : List Ast → Prop
  | [] => True
  | arg :: args =>
      RoundsInRange arg ∧ ((evalNode runtime arg).outcome.isOk → ArgsInRange args)

end

variable {near : Prop}

/-- An evaluation within the limits. -/
abbrev Evaluates (near : Prop) (x : Computed Number) : Prop :=
  Logged.Within (Event.Good near) Number.Bounded (Raised.isEvaluation · = true) x

theorem Checked.evaluates {x : Computed Number} (h : Checked near x) : Evaluates near x := by
  refine h.imp (fun _ h => h) (fun _ h => h) fun error herror => ?_
  cases error <;> first | rfl | cases herror

/-- The value of a node is one of the values that are logged. -/
theorem evaluates_logged {x : Computed Number} (h : Evaluates near x) : Evaluates near (logged x) :=
  h.bind fun v _ hv => (Logged.within_tell (e := Event.value v) hv).bind fun _ _ _ =>
    Logged.within_pure hv

theorem evaluates_constant (value : Literal) :
    Evaluates near (.lift (evalConstant value)) := by
  cases value with
  | number v => exact (checked_finiteNumber _).evaluates
  | other => exact (checked_finiteNumber .other).evaluates

theorem evaluates_name (id : String) : Evaluates near (.lift (evalName id)) := by
  rw [evalName]
  cases hlookup : names.lookup id with
  | none =>
      refine Logged.within_lift nofun fun error h => ?_
      obtain rfl := Except.error.inj h
      rfl
  | some v =>
      refine Logged.within_lift (fun w h => ?_) nofun
      obtain rfl := Except.ok.inj h
      exact names_bounded _ (AList.mem_of_lookup_eq_some hlookup)

mutual

/-- **Every value of an evaluation is within the limits**, and so is every integer constructed
on the way if no call of `round` goes too far. -/
theorem evaluates_evalNode : ∀ (tree : Ast), tree.nodeCount ≤ maxAstNodes →
    (near → RoundsInRange runtime tree) → Evaluates near (evalNode runtime tree)
  | .constant value, _, _ => evaluates_logged (evaluates_constant value)
  | .name id, _, _ => evaluates_logged (evaluates_name id)
  | .unaryOp op operand, hcount, hrange => by
      rw [Ast.nodeCount] at hcount
      rw [evalNode]
      split
      case h_1 => exact Logged.within_raise rfl
      case h_2 apply happly =>
        have hop : op ≠ .other := by
          rintro rfl
          cases happly
        have hoperand := evaluates_evalNode operand (by omega) fun h => hrange h hop
        exact evaluates_logged (hoperand.bind fun v _ hv => (checked_unary happly hv).evaluates)
  | .binOp op left right, hcount, hrange => by
      rw [Ast.nodeCount] at hcount
      rw [evalNode]
      split
      case h_1 => exact Logged.within_raise rfl
      case h_2 apply happly =>
        have hop : op ≠ .other := by
          rintro rfl
          cases happly
        have hleft := evaluates_evalNode left (by omega) fun h => (hrange h hop).1
        refine evaluates_logged (hleft.bind fun v hvalue hv => ?_)
        have hright := evaluates_evalNode right (by omega) fun h =>
          (hrange h hop).2 (by rw [hvalue]; rfl)
        exact hright.bind fun w _ hw => (checked_binary runtime happly hv hw).evaluates
  | .call (.name id) args, hcount, hrange => by
      rw [Ast.nodeCount] at hcount
      rw [evalNode]
      split
      case h_1 => exact Logged.within_raise rfl
      case h_2 apply happly =>
        have hsome : (function? runtime id).isSome := by rw [happly]; rfl
        have hargs := evaluates_evalArgs args (by omega) fun h => (hrange h hsome).1
        refine evaluates_logged (hargs.bind fun values hvalues hbounded => ?_)
        exact (checked_function runtime happly hbounded.1 (hbounded.2.trans (by omega)) fun h =>
          (hrange h hsome).2 values hvalues).evaluates
  | .call (.constant _) _, _, _ | .call (.unaryOp _ _) _, _, _ | .call (.binOp _ _ _) _, _, _
  | .call (.call _ _) _, _, _ | .call (.other _) _, _, _ => Logged.within_raise rfl
  | .other _, _, _ => Logged.within_raise rfl

theorem evaluates_evalArgs : ∀ (args : List Ast), Ast.nodeCounts args ≤ maxAstNodes →
    (near → ArgsInRange runtime args) → Logged.Within (Event.Good near)
      (fun values : List Number => (∀ v ∈ values, v.Bounded) ∧
        values.length ≤ Ast.nodeCounts args)
      (Raised.isEvaluation · = true) (evalArgs runtime args)
  | [], _, _ => Logged.within_pure ⟨nofun, Nat.le_refl 0⟩
  | arg :: args, hcount, hrange => by
      rw [Ast.nodeCounts] at hcount
      rw [evalArgs]
      have harg := evaluates_evalNode arg (by omega) fun h => (hrange h).1
      refine harg.bind fun v hvalue hv => ?_
      have hrest := evaluates_evalArgs args (by omega) fun h => (hrange h).2 (by rw [hvalue]; rfl)
      refine hrest.bind fun values _ hvalues => Logged.within_pure ⟨?_, ?_⟩
      · intro w hw
        rcases List.mem_cons.mp hw with rfl | hw
        · exact hv
        · exact hvalues.1 w hw
      · have hpos := Ast.nodeCount_pos arg
        have hlength := hvalues.2
        rw [Ast.nodeCounts, List.length_cons]
        omega

end

/-! ### Rounding too far -/

theorem mem_log_logged {x : Computed Number} {event : Event} (h : event ∈ x.log) :
    event ∈ (logged x).log :=
  Logged.mem_log_bind.mpr (.inl h)

/-- A call of `round` that goes too far constructs a power of ten beyond the limit. -/
theorem constructed_of_not_roundsNear {name : String} {apply : List Number → Computed Number}
    (hname : function? runtime name = some apply) {args : List Number}
    (h : ¬ RoundsNear name args) :
    ∃ n, .constructed n ∈ (apply args).log ∧ constructedLimit < |n| := by
  simp only [RoundsNear, not_forall] at h
  obtain ⟨rfl, n, digits, rfl, hdigits⟩ := h
  obtain rfl := Option.some.inj hname
  have hneg : ¬ 0 ≤ digits := by omega
  have hpow : constructedLimit < 10 ^ (-digits).toNat := by
    rw [constructedLimit]
    exact pow_lt_pow_right₀ (by decide) (by omega)
  refine ⟨10 ^ (-digits).toNat, ?_, hpow.trans_le (le_abs_self _)⟩
  refine Logged.mem_log_bind.mpr (.inl ?_)
  rw [Logged.log_mapError, pyRound, roundInt, if_neg hneg]
  exact Logged.mem_log_bind.mpr (.inl List.mem_cons_self)

mutual

/-- **Outside the range**, an evaluation constructs an integer beyond the limit. -/
theorem constructed_of_not_inRange : ∀ (tree : Ast), ¬ RoundsInRange runtime tree →
    ∃ n, .constructed n ∈ (evalNode runtime tree).log ∧ constructedLimit < |n|
  | .constant _, h | .name _, h | .other _, h => absurd trivial h
  | .unaryOp op operand, h => by
      rw [RoundsInRange, not_forall] at h
      obtain ⟨hop, h⟩ := h
      obtain ⟨n, hn, hlarge⟩ := constructed_of_not_inRange operand h
      refine ⟨n, ?_, hlarge⟩
      rw [evalNode]
      split
      case h_1 hnone => cases op <;> first | exact absurd rfl hop | cases hnone
      case h_2 => exact mem_log_logged (Logged.mem_log_bind.mpr (.inl hn))
  | .binOp op left right, h => by
      rw [RoundsInRange, not_forall] at h
      obtain ⟨hop, h⟩ := h
      rw [evalNode]
      split
      case h_1 hnone => cases op <;> first | exact absurd rfl hop | cases hnone
      case h_2 =>
        rcases not_and_or.mp h with h | h
        · obtain ⟨n, hn, hlarge⟩ := constructed_of_not_inRange left h
          exact ⟨n, mem_log_logged (Logged.mem_log_bind.mpr (.inl hn)), hlarge⟩
        · rw [not_forall] at h
          obtain ⟨hok, h⟩ := h
          obtain ⟨v, hv⟩ := Except.exists_of_isOk hok
          obtain ⟨n, hn, hlarge⟩ := constructed_of_not_inRange right h
          exact ⟨n, mem_log_logged (Logged.mem_log_bind.mpr (.inr ⟨v, hv,
            Logged.mem_log_bind.mpr (.inl hn)⟩)), hlarge⟩
  | .call (.name id) args, h => by
      rw [RoundsInRange, not_forall] at h
      obtain ⟨hsome, h⟩ := h
      rw [evalNode]
      split
      case h_1 hnone =>
        rw [hnone] at hsome
        cases hsome
      case h_2 apply happly =>
        rcases not_and_or.mp h with h | h
        · obtain ⟨n, hn, hlarge⟩ := constructed_of_not_argsInRange args h
          exact ⟨n, mem_log_logged (Logged.mem_log_bind.mpr (.inl hn)), hlarge⟩
        · simp only [not_forall] at h
          obtain ⟨values, hvalues, h⟩ := h
          obtain ⟨n, hn, hlarge⟩ := constructed_of_not_roundsNear runtime happly h
          exact ⟨n, mem_log_logged (Logged.mem_log_bind.mpr (.inr ⟨values, hvalues, hn⟩)), hlarge⟩
  | .call (.constant _) _, h | .call (.unaryOp _ _) _, h | .call (.binOp _ _ _) _, h
  | .call (.call _ _) _, h | .call (.other _) _, h => absurd trivial h

theorem constructed_of_not_argsInRange : ∀ (args : List Ast), ¬ ArgsInRange runtime args →
    ∃ n, .constructed n ∈ (evalArgs runtime args).log ∧ constructedLimit < |n|
  | [], h => absurd trivial h
  | arg :: args, h => by
      rw [ArgsInRange] at h
      rw [evalArgs]
      rcases not_and_or.mp h with h | h
      · obtain ⟨n, hn, hlarge⟩ := constructed_of_not_inRange arg h
        exact ⟨n, Logged.mem_log_bind.mpr (.inl hn), hlarge⟩
      · rw [not_forall] at h
        obtain ⟨hok, h⟩ := h
        obtain ⟨v, hv⟩ := Except.exists_of_isOk hok
        obtain ⟨n, hn, hlarge⟩ := constructed_of_not_argsInRange args h
        exact ⟨n, Logged.mem_log_bind.mpr (.inr ⟨v, hv, Logged.mem_log_bind.mpr (.inl hn)⟩), hlarge⟩

end

end Evaluation

/-! ### Exact integers -/

/-- The exact value of an expression over integers. -/
def exactValue : Ast → Int
  | .constant (.number (.int n)) => n
  | .unaryOp .uAdd operand => exactValue operand
  | .unaryOp .uSub operand => -exactValue operand
  | .binOp .add left right => exactValue left + exactValue right
  | .binOp .sub left right => exactValue left - exactValue right
  | .binOp .mult left right => exactValue left * exactValue right
  | .binOp .floorDiv left right => (exactValue left).fdiv (exactValue right)
  | .binOp .mod left right => (exactValue left).fmod (exactValue right)
  | .binOp .pow left right => exactValue left ^ (exactValue right).toNat
  | _ => 0

/-- Integer literals, `+`, `-`, `*`, `//`, `%`, and powers with exponents from zero on. -/
def Integral : Ast → Prop
  | .constant (.number (.int _)) => True
  | .unaryOp .uAdd operand | .unaryOp .uSub operand => Integral operand
  | .binOp .add left right | .binOp .sub left right | .binOp .mult left right
  | .binOp .floorDiv left right | .binOp .mod left right => Integral left ∧ Integral right
  | .binOp .pow left right => Integral left ∧ Integral right ∧ 0 ≤ exactValue right
  | _ => False

section Exact

variable (runtime : FloatRuntime)

theorem outcome_construct (n : Int) : (construct n).outcome = .ok (.number (.int n)) := rfl

/-- A checked operator that gives a number gave it before the check. -/
theorem limit_eq_ok {x : Computed PyValue} {v : Number} (h : (limit x).outcome = .ok v) :
    x.outcome = .ok (.number v) := by
  rw [limit, Logged.outcome_mapError_eq_ok, Logged.outcome_bind_eq_ok] at h
  obtain ⟨value, hvalue, h⟩ := h
  rw [hvalue, (finiteNumber_eq_ok h).1]

theorem logged_eq_ok {x : Computed Number} {v : Number} (h : (logged x).outcome = .ok v) :
    x.outcome = .ok v := by
  obtain ⟨w, hw, h⟩ := Logged.outcome_bind_eq_ok.mp h
  obtain ⟨-, -, h⟩ := Logged.outcome_bind_eq_ok.mp h
  obtain rfl := Except.ok.inj h
  exact hw

/-- An operator that gives a value had two. -/
theorem evalNode_binOp_eq_ok {op : BinaryOperator} {left right : Ast} {v : Number}
    (h : (evalNode runtime (.binOp op left right)).outcome = .ok v) :
    ∃ apply a b, op.apply? runtime = some apply ∧ (evalNode runtime left).outcome = .ok a ∧
      (evalNode runtime right).outcome = .ok b ∧ (apply a b).outcome = .ok v := by
  rw [evalNode] at h
  split at h
  case h_1 => cases h
  case h_2 apply happly =>
    obtain ⟨a, ha, h⟩ := Logged.outcome_bind_eq_ok.mp (logged_eq_ok h)
    obtain ⟨b, hb, h⟩ := Logged.outcome_bind_eq_ok.mp h
    exact ⟨apply, a, b, happly, ha, hb, h⟩

theorem eq_of_construct {n : Int} {v : Number} (h : (limit (construct n)).outcome = .ok v) :
    v = .int n := by
  have hvalue := limit_eq_ok h
  rw [outcome_construct] at hvalue
  exact (PyValue.number.inj (Except.ok.inj hvalue)).symm

/-- An operator on integers that gives a value gives the exact one. -/
theorem eq_of_binary {op : BinaryOperator} {left right : Ast} {v : Number}
    (hintegral : Integral (.binOp op left right))
    (hleft : ∀ a, (evalNode runtime left).outcome = .ok a → a = .int (exactValue left))
    (hright : ∀ b, (evalNode runtime right).outcome = .ok b → b = .int (exactValue right))
    (h : (evalNode runtime (.binOp op left right)).outcome = .ok v) :
    v = .int (exactValue (.binOp op left right)) := by
  obtain ⟨apply, a, b, hop, ha, hb, h⟩ := evalNode_binOp_eq_ok runtime h
  obtain rfl := hleft a ha
  obtain rfl := hright b hb
  cases op with
  | add | sub | mult =>
      obtain rfl := Option.some.inj hop
      exact eq_of_construct h
  | floorDiv =>
      obtain rfl := Option.some.inj hop
      have h : (limit (floordiv runtime (.int (exactValue left)) (.int (exactValue right)))).outcome =
          .ok v := h
      rw [floordiv] at h
      split at h
      · cases h
      · exact eq_of_construct h
  | mod =>
      obtain rfl := Option.some.inj hop
      have h : (limit (mod runtime (.int (exactValue left)) (.int (exactValue right)))).outcome =
          .ok v := h
      rw [mod] at h
      split at h
      · cases h
      · exact eq_of_construct h
  | pow =>
      obtain rfl := Option.some.inj hop
      have hvalue := limit_eq_ok h
      rw [checkedPow] at hvalue
      split at hvalue
      · cases hvalue
      · rw [Logged.outcome_mapError_eq_ok, power, if_pos hintegral.2.2, outcome_construct] at hvalue
        exact (PyValue.number.inj (Except.ok.inj hvalue)).symm
  | div | other => cases hintegral

/-- **Integers stay exact.** -/
theorem evalNode_exact : ∀ (tree : Ast), Integral tree → ∀ v,
    (evalNode runtime tree).outcome = .ok v → v = .int (exactValue tree)
  | .constant (.number (.int n)), _, v, h => by
      have hfinite : finiteNumber (.number (.int n)) = .ok v := logged_eq_ok h
      exact (PyValue.number.inj (finiteNumber_eq_ok hfinite).1).symm
  | .unaryOp op operand, hintegral, v, h => by
      rw [evalNode] at h
      split at h
      case h_1 => cases h
      case h_2 apply happly =>
        obtain ⟨w, hw, h⟩ := Logged.outcome_bind_eq_ok.mp (logged_eq_ok h)
        cases op with
        | uAdd =>
            obtain rfl := evalNode_exact operand hintegral w hw
            obtain rfl := Option.some.inj happly
            exact (PyValue.number.inj (Except.ok.inj (limit_eq_ok h))).symm
        | uSub =>
            obtain rfl := evalNode_exact operand hintegral w hw
            obtain rfl := Option.some.inj happly
            exact eq_of_construct h
        | other => cases hintegral
  | .binOp op left right, hintegral, v, h => by
      have hparts : Integral left ∧ Integral right := by
        cases op with
        | add | sub | mult | floorDiv | mod => exact hintegral
        | pow => exact ⟨hintegral.1, hintegral.2.1⟩
        | div | other => cases hintegral
      exact eq_of_binary runtime hintegral (evalNode_exact left hparts.1)
        (evalNode_exact right hparts.2) h

end Exact

/-! ### The calculator -/

section Calculator

variable (runtime : FloatRuntime) (parse : String → Option Ast)

/-- What is promised of the evaluation of an expression. -/
structure Promises (expression : String) : Prop where
  value : ∀ v, (evaluateExpression runtime parse expression).outcome = .ok v → v.Bounded
  failure : ∀ error, (evaluateExpression runtime parse expression).outcome = .error error →
    error.isValueError = true
  operands : ∀ v, .value v ∈ (evaluateExpression runtime parse expression).log → v.Bounded
  constructed : ∀ n, .constructed n ∈ (evaluateExpression runtime parse expression).log →
    |n| ≤ constructedLimit
  exact : ∀ tree v, parse (Display.strip expression) = some tree → Integral tree →
    (evaluateExpression runtime parse expression).outcome = .ok v → v = .int (exactValue tree)

/-- The checks before the evaluation raise `ValueError`s. -/
theorem acceptedTree_eq_error {expression : String} {error : Raised}
    (h : acceptedTree parse expression = .error error) : error.isValueError = true := by
  have hreject : ∀ tree : Ast, tree.rejectDisallowed = .error error → error.isValueError = true := by
    intro tree htree
    rw [Ast.rejectDisallowed] at htree
    split at htree
    · obtain rfl := Except.error.inj htree
      rfl
    · split at htree
      case h_1 offence hoffence =>
        obtain rfl := Except.error.inj htree
        obtain ⟨node, -, hnode⟩ := List.exists_of_findSome?_eq_some hoffence
        rw [Ast.offence.eq_def] at hnode
        split at hnode
        · obtain rfl := Option.some.inj hnode
          rfl
        · obtain rfl := Option.some.inj hnode
          rfl
        · cases hnode
      case h_2 => cases htree
  rw [acceptedTree] at h
  split at h
  · obtain rfl := Except.error.inj h
    rfl
  · split at h
    · obtain rfl := Except.error.inj h
      rfl
    · split at h
      case h_1 =>
        obtain rfl := Except.error.inj h
        rfl
      case h_2 tree _ =>
        cases htree : tree.rejectDisallowed with
        | ok u => rw [htree] at h; cases h
        | error e =>
            rw [htree] at h
            obtain rfl := Except.error.inj h
            exact hreject tree htree

theorem acceptedTree_eq_ok {expression : String} {tree : Ast}
    (h : acceptedTree parse expression = .ok tree) :
    parse (Display.strip expression) = some tree ∧ tree.nodeCount ≤ maxAstNodes := by
  rw [acceptedTree] at h
  split at h
  · cases h
  · split at h
    · cases h
    · split at h
      case h_1 => cases h
      case h_2 parsed hparse =>
        cases hreject : parsed.rejectDisallowed with
        | error e => rw [hreject] at h; cases h
        | ok u =>
            rw [hreject] at h
            obtain rfl : parsed = tree := Except.ok.inj h
            refine ⟨hparse, ?_⟩
            rw [Ast.rejectDisallowed] at hreject
            split at hreject
            · cases hreject
            · omega

/-- The evaluation of an expression, as far as the calls of `round` in it go. -/
theorem evaluateExpression_within (expression : String) {near : Prop}
    (hnear : near → ∀ tree, acceptedTree parse expression = .ok tree → RoundsInRange runtime tree) :
    Checked near (evaluateExpression runtime parse expression) := by
  have haccepted : Logged.Within (Event.Good near)
      (fun tree => acceptedTree parse expression = .ok tree) (Raised.isValueError · = true)
      (.lift (acceptedTree parse expression)) :=
    Logged.within_lift (fun _ h => h) fun _ h => acceptedTree_eq_error parse h
  refine haccepted.bind fun tree _ htree => ?_
  have hcount := (acceptedTree_eq_ok parse htree).2
  have hvalue := evaluates_evalNode runtime tree hcount fun h => hnear h tree htree
  refine Logged.Within.bind (hvalue.mapError fun error herror => ?_) fun v _ _ =>
    checked_finiteNumber (.number v)
  cases error <;> first | rfl | cases herror

/-- **Calculator values stay bounded**, exactly as long as no call of `round` that is reached
rounds an integer to digits more than `216` places left of the point. -/
theorem evaluateExpression_promises_iff (expression : String) :
    Promises runtime parse expression ↔
      ∀ tree, acceptedTree parse expression = .ok tree → RoundsInRange runtime tree := by
  constructor
  · intro h tree htree
    by_contra hrange
    obtain ⟨n, hn, hlarge⟩ := constructed_of_not_inRange runtime tree hrange
    have hlog : .constructed n ∈ (evaluateExpression runtime parse expression).log :=
      Logged.mem_log_bind.mpr (.inr ⟨tree, htree, Logged.mem_log_bind.mpr (.inl hn)⟩)
    exact absurd (h.constructed n hlog) (not_le.mpr hlarge)
  · intro h
    have hwithin := evaluateExpression_within runtime parse expression fun _ : True => h
    refine ⟨hwithin.ok, hwithin.error, fun v hv => hwithin.log _ hv, fun n hn =>
      hwithin.log _ hn trivial, fun tree v hparse hintegral hok => ?_⟩
    obtain ⟨tree', htree, hok⟩ := Logged.outcome_bind_eq_ok.mp hok
    obtain rfl := Option.some.inj ((acceptedTree_eq_ok parse htree).1.symm.trans hparse)
    obtain ⟨w, hw, hok⟩ := Logged.outcome_bind_eq_ok.mp hok
    have hvalue := evalNode_exact runtime tree' hintegral w (Logged.outcome_mapError_eq_ok.mp hw)
    have hfinal := (finiteNumber_eq_ok hok).1
    rw [← PyValue.number.inj hfinal, hvalue]

end Calculator

/-- `round(1, -217)`. -/
def roundFar : Ast := .call (.name "round")
  [.constant (.number (.int 1)), .unaryOp .uSub (.constant (.number (.int 217)))]

/-- The parser on `round(1, -217)`. -/
def parseRoundFar (source : String) : Option Ast :=
  if source = "round(1, -217)" then some roundFar else none

/-- Integers alone do not need the platform. -/
def withoutFloats : FloatRuntime where
  math _ _ := .error .value
  pow _ _ := none
  fmod v _ := v
  roundDigits x _ := some x
  addFloats total _ := total

/-- `round(1, -217)` is `0`, but goes through `10 ** 217`. -/
theorem roundFar_not_promised : ¬ Promises withoutFloats parseRoundFar "round(1, -217)" := by
  intro h
  have htree : acceptedTree parseRoundFar "round(1, -217)" = .ok roundFar := by
    have hstrip : Display.strip "round(1, -217)" = "round(1, -217)" := by decide +kernel
    rw [acceptedTree, hstrip]
    rfl
  have hargs : (evalArgs withoutFloats [.constant (.number (.int 1)),
      .unaryOp .uSub (.constant (.number (.int 217)))]).outcome = .ok [.int 1, .int (-217)] := rfl
  have hrange : ¬ RoundsInRange withoutFloats roundFar := fun hrange =>
    absurd ((hrange rfl).2 _ hargs rfl 1 (-217) rfl) (by decide)
  obtain ⟨n, hn, hlarge⟩ := constructed_of_not_inRange withoutFloats roundFar hrange
  have hlog : .constructed n ∈ (evaluateExpression withoutFloats parseRoundFar
      "round(1, -217)").log :=
    Logged.mem_log_bind.mpr (.inr ⟨roundFar, htree, Logged.mem_log_bind.mpr (.inl hn)⟩)
  exact absurd (h.constructed n hlog) (not_le.mpr hlarge)

end Calculation
end HomeCortex
