/-
# Binary64 without rounding

Facts about `Float` that its bit model gives: unpacking a bit pattern loses nothing, a
finite number times one is the number itself, and a finite number is equal to itself.
-/

import Mathlib

namespace Binary64

open Float.Model Float.Model.UnpackedFloat

/-! ### Packing and unpacking -/

theorem toBitVec_ofBitVec (v : BitVec 1) : (Sign.ofBitVec v).toBitVec = v := by
  revert v; decide

/-- The three fields of a bit pattern put together give the pattern. -/
theorem packComponents_unpack (b : BitVec Format.binary64.numBits) :
    packComponents Format.binary64 (Sign.ofBitVec (unpackSign b)) (unpackExponent b)
      (unpackMantissa b) = b := by
  apply BitVec.eq_of_getLsbD_eq
  intro i hi
  simp only [packComponents, toBitVec_ofBitVec, unpackSign, unpackExponent, unpackMantissa,
    BitVec.getLsbD_append, BitVec.getLsbD_cast, BitVec.getLsbD_extractLsb]
  have hi : i < 64 := hi
  by_cases h1 : i < 52
  · simp [h1]
  · by_cases h2 : i < 63
    · have h3 : i - 52 < 11 := by omega
      have h4 : 52 + (i - 52) = i := by omega
      simp [h1, h3, h4]
    · obtain rfl : i = 63 := by omega
      simp

/-- The mantissa of a normal number, with its implicit bit. -/
theorem toNat_normal (v : BitVec 52) : (1#1 ++ v).toNat = 2 ^ 52 + v.toNat := by
  rw [BitVec.toNat_append, ← Nat.shiftLeft_add_eq_or_of_lt v.isLt]
  simp [Nat.shiftLeft_eq]

/-- The implicit bit does not fit. -/
theorem ofNat_normal (v : BitVec 52) : BitVec.ofNat 52 ((1#1 ++ v).toNat) = v := by
  apply BitVec.eq_of_toNat_eq
  have := v.isLt
  rw [BitVec.toNat_ofNat, toNat_normal]
  omega

theorem log2_normal (v : BitVec 52) : ((1#1 ++ v).toNat).log2 = 52 := by
  rw [toNat_normal]
  have := v.isLt
  exact (Nat.log2_eq_iff (by omega)).mpr ⟨by omega, by omega⟩

theorem exponent_pos {v : BitVec 11} (h : v ≠ 0#11) : 0 < v.toNat :=
  Nat.pos_of_ne_zero fun h0 => h (BitVec.eq_of_toNat_eq h0)

theorem exponent_lt {v : BitVec 11} (h : v ≠ -1#11) : v.toNat < 2047 := by
  have hlt := v.isLt
  have hne : v.toNat ≠ 2047 := fun h0 => h (BitVec.eq_of_toNat_eq h0)
  omega

/-- What unpacking gives for a finite number: a mantissa and an exponent as the format
wants them. -/
theorem canonical_of_unpack {b : BitVec Format.binary64.numBits} {sign : Sign} {m : Nat} {e : Int}
    {hm : 0 < m} (h : UnpackedFloat.unpack Format.binary64 b = .finite sign m e hm) :
    Format.binary64.targetExponent (totalExponent m e) = e := by
  have hformat : ∀ total, Format.binary64.targetExponent total = max (total - 53) (-1074) :=
    fun _ => rfl
  rw [hformat, totalExponent]
  unfold UnpackedFloat.unpack at h
  dsimp only at h
  split at h
  case isTrue => split at h <;> cases h
  case isFalse hexponent =>
    split at h
    case isTrue hzero =>
      split at h
      case isTrue => cases h
      case isFalse hmantissa =>
        obtain ⟨-, rfl, rfl⟩ := UnpackedFloat.finite.inj h
        have hlt : (unpackMantissa b).toNat.log2 < 52 :=
          (Nat.log2_lt hm.ne').mpr (unpackMantissa b).isLt
        have hexp : (unpackExponent b).toNat = 0 := by rw [hzero]; rfl
        have hbias : (Format.binary64.exponentBias : Int) = 1023 := rfl
        simp only [hexp, hbias]
        push_cast
        omega
    case isFalse hzero =>
      obtain ⟨-, rfl, rfl⟩ := UnpackedFloat.finite.inj h
      have hpos := exponent_pos hzero
      have hbias : (Format.binary64.exponentBias : Int) = 1023 := rfl
      rw [log2_normal]
      simp only [hbias]
      omega

/-- **Unpacking loses nothing.** -/
theorem pack_unpack (b : BitVec Format.binary64.numBits) (h : Format.binary64.Valid b) :
    UnpackedFloat.pack Format.binary64 (UnpackedFloat.unpack Format.binary64 b) = b := by
  have hparts := packComponents_unpack b
  unfold UnpackedFloat.unpack
  dsimp only
  split
  case isTrue hexponent =>
    split
    case isTrue hmantissa =>
      rw [UnpackedFloat.pack, packedInfinity, ← hexponent]
      exact (congrArg _ hmantissa.symm).trans hparts
    case isFalse hmantissa => exact (h.eq_packedNaN hexponent hmantissa).symm
  case isFalse hexponent =>
    split
    case isTrue hzero =>
      split
      case isTrue hmantissa =>
        rw [UnpackedFloat.pack, packedZero]
        have := hparts
        rw [hzero, hmantissa] at this
        exact this
      case isFalse hmantissa =>
        have hpos : 0 < (unpackMantissa b).toNat :=
          Nat.pos_of_ne_zero fun h0 => hmantissa (BitVec.eq_of_toNat_eq h0)
        have hlt : (unpackMantissa b).toNat.log2 < 52 :=
          (Nat.log2_lt hpos.ne').mpr (unpackMantissa b).isLt
        have hexp : (unpackExponent b).toNat = 0 := by rw [hzero]; rfl
        have hbias : (Format.binary64.exponentBias : Int) = 1023 := rfl
        rw [UnpackedFloat.pack]
        dsimp only
        rw [if_neg, if_neg, BitVec.ofNat_toNat, BitVec.setWidth_eq]
        · rw [← hzero]
          exact hparts
        · rw [show Format.binary64.mantissaBits = 53 from rfl]
          omega
        · simp only [hexp, hbias]
          omega
    case isFalse hzero =>
      have hpos := exponent_pos hzero
      have hlt := exponent_lt hexponent
      have hbias : (Format.binary64.exponentBias : Int) = 1023 := rfl
      have hbiased : ((unpackExponent b).toNat - ((Format.binary64.exponentBias : Int) +
          (Format.binary64.mantissaBitsWithoutImplicit : Nat)) + Format.binary64.exponentBias +
          (Format.binary64.mantissaBitsWithoutImplicit : Nat)).toNat = (unpackExponent b).toNat := by
        omega
      rw [UnpackedFloat.pack]
      dsimp only
      rw [hbiased, if_neg, if_pos, BitVec.ofNat_toNat, BitVec.setWidth_eq, ofNat_normal]
      · exact hparts
      · exact congrArg (· + 1) (log2_normal _)
      · have : 2 ^ Format.binary64.exponentBits = 2048 := rfl
        omega

theorem model_pack_unpack (x : Float.Model) : Float.Model.pack x.unpack = x := by
  cases x with
  | mk bits valid =>
      rw [Float.Model.pack, Float.Model.mk.injEq]
      exact congrArg UInt64.ofBitVec (pack_unpack _ valid)

/-! ### Multiplication by one -/

/-- A mantissa that is already shifted by `52` bits is shifted back exactly. -/
theorem shift_back (m n : Nat) :
    (ExtendedMantissa.mk (m * 2 ^ n) false false >>> n) = ⟨m, false, false⟩ := by
  induction n generalizing m with
  | zero => simp [HShiftRight.hShiftRight, Nat.repeat]
  | succ n ih =>
      have h := ih (2 * m)
      rw [show 2 * m * 2 ^ n = m * 2 ^ (n + 1) by rw [Nat.pow_succ]; ring] at h
      change ExtendedMantissa.shiftRightOne (ExtendedMantissa.mk (m * 2 ^ (n + 1)) false false >>> n) = _
      rw [h, ExtendedMantissa.shiftRightOne]
      simp

theorem log2_mul_two_pow {m : Nat} (hm : 0 < m) (n : Nat) : (m * 2 ^ n).log2 = m.log2 + n := by
  induction n with
  | zero => simp
  | succ n ih =>
      rw [Nat.pow_succ, ← Nat.mul_assoc, Nat.log2_eq_log_two,
        Nat.log_mul_base (by omega) (Nat.mul_pos hm (Nat.two_pow_pos n)).ne', ← Nat.log2_eq_log_two, ih]
      rfl

/-- A canonical finite number, written with more bits, is rounded to itself. -/
theorem round_shifted {sign : Sign} {m : Nat} {e : Int} (hm : 0 < m) (n : Nat)
    (h : Format.binary64.targetExponent (totalExponent m e) = e) :
    roundWithAccuracy Format.binary64 sign (m * 2 ^ n) (e - n) .exact = .finite sign m e hm := by
  have htotal : totalExponent (m * 2 ^ n) (e - n) = totalExponent m e := by
    rw [totalExponent, totalExponent, log2_mul_two_pow hm]
    push_cast
    ring
  have hfirst : shiftToTargetExponent Format.binary64 (m * 2 ^ n) (e - n) .exact =
      (⟨m, false, false⟩, e) := by
    have hamount : (e - (e - n)).toNat = n := by omega
    rw [shiftToTargetExponent, htotal, h, shiftToExponent]
    simp only [hamount, ExtendedMantissa.ofMantissaAndAccuracy, shift_back]
    congr 1
    omega
  have hsecond : shiftToTargetExponent Format.binary64 m e .exact = (⟨m, false, false⟩, e) := by
    have hamount : (e - e).toNat = 0 := by omega
    rw [shiftToTargetExponent, h, shiftToExponent]
    simp only [hamount, ExtendedMantissa.ofMantissaAndAccuracy]
    congr 1
    omega
  have hmantissa : (ExtendedMantissa.mk m false false).roundedMantissa = m := rfl
  simp only [roundWithAccuracy, hfirst, hmantissa, hsecond, hm.ne', dite_false]

theorem one_unpack : (1.0 : Float).toModel.unpack = .finite .positive (2 ^ 52) (-52) (by decide) :=
  rfl

/-- **Multiplication by one** leaves a finite number as it is. -/
theorem mul_one_of_isFinite {x : Float} (hx : x.isFinite = true) : x * 1.0 = x := by
  have hsign : ∀ sign : Sign, sign * Sign.positive = sign := fun sign => by cases sign <;> rfl
  change Float.ofModel (Float.Model.pack (UnpackedFloat.mul Format.binary64 x.toModel.unpack
    (1.0 : Float).toModel.unpack)) = x
  have hmul : UnpackedFloat.mul Format.binary64 x.toModel.unpack (1.0 : Float).toModel.unpack =
      x.toModel.unpack := by
    rw [one_unpack]
    have hfinite : x.toModel.unpack.isFinite = true := hx
    cases hunpack : x.toModel.unpack with
    | infinity sign => rw [hunpack] at hfinite; cases hfinite
    | notANumber => rw [hunpack] at hfinite; cases hfinite
    | zero sign => simp [UnpackedFloat.mul, hsign]
    | finite sign m e hm =>
        rw [UnpackedFloat.mul, hsign]
        exact round_shifted hm 52 (canonical_of_unpack hunpack)
  rw [hmul]
  cases x with
  | ofModel model => exact congrArg Float.ofModel (model_pack_unpack model)

/-- A finite number is equal to itself. -/
theorem beq_self_of_isFinite {x : Float} (hx : x.isFinite = true) : (x == x) = true := by
  change (x.toModel.unpack.compare x.toModel.unpack == some .eq) = true
  have hfinite : x.toModel.unpack.isFinite = true := hx
  cases hunpack : x.toModel.unpack with
  | infinity sign => rw [hunpack] at hfinite; cases hfinite
  | notANumber => rw [hunpack] at hfinite; cases hfinite
  | zero sign => rfl
  | finite sign m e hm => cases sign <;> simp [UnpackedFloat.compare]

end Binary64
