/-
# Binary64 operations that stay in range

What multiplication and addition of the bit model do to the size of a number.  `AtMost N u`
says that `u` is finite and at most `N · 2 ^ 971` in absolute value, so that
`AtMost (2 ^ 53 - 1)` is finiteness (`isFinite_iff`).  Rounding keeps such a bound, because
`N · 2 ^ 971` is itself a binary64 (`AtMost.roundWithAccuracy`); packing does too
(`AtMost.unpack_pack`).  A product and a sum are then bounded by what their operands are
(`Within.mul`, `Within.add`).
-/

import HomeCortex.Library.Binary64

namespace Binary64

open Float.Model Float.Model.UnpackedFloat

/-! ### Shifting a mantissa -/

/-- Each shift halves the mantissa, and the residual bits are those that were dropped. -/
theorem shift_eq (m n : ℕ) :
    (ExtendedMantissa.mk m false false >>> n).mantissa = m / 2 ^ n ∧
      (((ExtendedMantissa.mk m false false >>> n).roundBit ||
        (ExtendedMantissa.mk m false false >>> n).stickyBit) = true → m % 2 ^ n ≠ 0) := by
  induction n with
  | zero => simp [HShiftRight.hShiftRight, Nat.repeat]
  | succ n ih =>
      obtain ⟨hmantissa, hresidual⟩ := ih
      have hstep : (ExtendedMantissa.mk m false false >>> (n + 1)) =
          ExtendedMantissa.shiftRightOne (ExtendedMantissa.mk m false false >>> n) := rfl
      rw [hstep]
      refine ⟨?_, fun hbits => ?_⟩
      · rw [ExtendedMantissa.shiftRightOne, hmantissa, Nat.div_div_eq_div_mul, Nat.pow_succ]
      · have hmod : m % 2 ^ (n + 1) = m % 2 ^ n + 2 ^ n * (m / 2 ^ n % 2) := by
          rw [Nat.pow_succ, Nat.mod_mul]
        simp only [ExtendedMantissa.shiftRightOne, Bool.or_eq_true, bne_iff_ne, hmantissa] at hbits
        rw [hmod]
        rcases hbits with hround | hsticky
        · have := Nat.mul_pos (Nat.two_pow_pos n) (Nat.pos_of_ne_zero hround)
          omega
        · have := hresidual (by simpa using hsticky)
          omega

/-- Rounding adds at most one, and nothing to an exact mantissa. -/
theorem roundedMantissa_le (em : ExtendedMantissa) :
    em.roundedMantissa ≤ em.mantissa + if em.roundBit || em.stickyBit then 1 else 0 := by
  obtain ⟨m, roundBit, stickyBit⟩ := em
  cases roundBit <;> cases stickyBit <;>
    simp [ExtendedMantissa.roundedMantissa, ExtendedMantissa.accuracy,
      Accuracy.roundToNearestEven]
  omega

/-- **A bound in the new unit** is kept when a mantissa is shifted and rounded. -/
theorem rounded_shift_le {m n N : ℕ} (h : m ≤ N * 2 ^ n) :
    (ExtendedMantissa.mk m false false >>> n).roundedMantissa ≤ N := by
  obtain ⟨hmantissa, hresidual⟩ := shift_eq m n
  have hrounded := roundedMantissa_le (ExtendedMantissa.mk m false false >>> n)
  rw [hmantissa] at hrounded
  have hdiv : m / 2 ^ n ≤ N := Nat.div_le_of_le_mul (by rwa [Nat.mul_comm])
  split at hrounded
  case isTrue hbits =>
    have hlt : m / 2 ^ n < N := by
      rw [Nat.div_lt_iff_lt_mul (Nat.two_pow_pos n)]
      refine lt_of_le_of_ne h fun heq => hresidual hbits ?_
      rw [heq, Nat.mul_mod_left]
    omega
  case isFalse => omega

theorem log2_lt_of_lt {m k : ℕ} (h : m < 2 ^ k) (hk : 0 < k) : m.log2 < k := by
  rcases Nat.eq_zero_or_pos m with rfl | hm
  · simpa using hk
  · exact (Nat.log2_lt hm.ne').mpr h

/-! ### Bounded numbers -/

/-- A finite number of at most 53 bits and at most `N · 2 ^ 971` in absolute value. -/
def AtMost (N : ℕ) : UnpackedFloat → Prop
  | .zero _ => True
  | .finite _ m e _ => -1074 ≤ e ∧ e ≤ 971 ∧ m < 2 ^ 53 ∧ m ≤ N * 2 ^ (971 - e).toNat
  | _ => False

theorem targetExponent_eq (total : ℤ) :
    Format.binary64.targetExponent total = max (total - 53) (-1074) := rfl

/-- The target exponent of a number below `2 ^ 1024`. -/
theorem targetExponent_le {m N : ℕ} {e : ℤ} (hN : N < 2 ^ 53) (he : e ≤ 971)
    (hm : m ≤ N * 2 ^ (971 - e).toNat) :
    Format.binary64.targetExponent (totalExponent m e) ≤ 971 := by
  have hlt : m < 2 ^ (53 + (971 - e).toNat) := by
    rw [Nat.pow_add]
    calc m ≤ N * 2 ^ (971 - e).toNat := hm
      _ < 2 ^ 53 * 2 ^ (971 - e).toNat := Nat.mul_lt_mul_of_pos_right hN (Nat.two_pow_pos _)
  have hlog := log2_lt_of_lt hlt (by omega)
  rw [targetExponent_eq, totalExponent]
  omega

/-- A bound written in a smaller unit. -/
theorem bound_shift {N k : ℕ} {e : ℤ} (h : e + k ≤ 971) :
    N * 2 ^ (971 - e).toNat = N * 2 ^ (971 - (e + k)).toNat * 2 ^ k := by
  rw [Nat.mul_assoc, ← Nat.pow_add]
  congr 2
  omega

/-- **Rounding keeps a bound** that is itself a binary64. -/
theorem AtMost.roundWithAccuracy {m N : ℕ} {e : ℤ} (sign : Sign) (hN : N < 2 ^ 53)
    (he : e ≤ 971) (hm : m ≤ N * 2 ^ (971 - e).toNat) :
    AtMost N (roundWithAccuracy Format.binary64 sign m e .exact) := by
  have htarget := targetExponent_le hN he hm
  -- the first shift, to the target exponent of `m`
  set k := (Format.binary64.targetExponent (totalExponent m e) - e).toNat with hk
  have he₁ : e + k ≤ 971 := by omega
  set r := (ExtendedMantissa.mk m false false >>> k).roundedMantissa with hr
  have hrN : r ≤ N * 2 ^ (971 - (e + k)).toNat := rounded_shift_le (by rwa [← bound_shift he₁])
  have htarget₁ := targetExponent_le hN he₁ hrN
  -- the second, after a carry
  set k₁ := (Format.binary64.targetExponent (totalExponent r (e + k)) - (e + k)).toNat with hk₁
  have he₂ : e + k + k₁ ≤ 971 := by omega
  have hmantissa : (ExtendedMantissa.mk r false false >>> k₁).mantissa = r / 2 ^ k₁ :=
    (shift_eq r k₁).1
  have hround : UnpackedFloat.roundWithAccuracy Format.binary64 sign m e .exact =
      if h : (ExtendedMantissa.mk r false false >>> k₁).mantissa = 0 then .zero sign
      else .finite sign (ExtendedMantissa.mk r false false >>> k₁).mantissa (e + k + k₁)
        (Nat.pos_of_ne_zero h) := rfl
  rw [hround]
  split
  case isTrue => trivial
  case isFalse =>
    rw [targetExponent_eq, totalExponent] at hk₁
    refine ⟨by omega, he₂, ?_, ?_⟩
    · rw [hmantissa, Nat.div_lt_iff_lt_mul (Nat.two_pow_pos _), ← Nat.pow_add]
      calc r < 2 ^ (r.log2 + 1) := Nat.lt_log2_self
        _ ≤ 2 ^ (53 + k₁) := Nat.pow_le_pow_right (by omega) (by omega)
    · rw [hmantissa]
      refine Nat.div_le_of_le_mul ?_
      rw [Nat.mul_comm, ← bound_shift he₂]
      exact hrN

/-- A mantissa written in a smaller unit has the same bound. -/
theorem AtMost.round {m N : ℕ} {e : ℤ} (sign : Sign) (hN : N < 2 ^ 53) (he : e ≤ 971)
    (hm : m ≤ N * 2 ^ (971 - e).toNat) :
    AtMost N (UnpackedFloat.round Format.binary64 sign m e) := by
  set k := (e - Format.binary64.targetExponent (totalExponent m e)).toNat with hk
  have hround : UnpackedFloat.round Format.binary64 sign m e =
      UnpackedFloat.roundWithAccuracy Format.binary64 sign (m <<< k) (e - k) .exact := rfl
  rw [hround]
  refine AtMost.roundWithAccuracy sign hN (by omega) ?_
  have hshift := @bound_shift N k (e - k) (by omega)
  rw [Nat.shiftLeft_eq, hshift, Int.sub_add_cancel]
  exact Nat.mul_le_mul_right _ hm

/-! ### Operations -/

/-- A product: `N · (a · 2 ^ -j) ≤ M`. -/
theorem AtMost.mul {x : UnpackedFloat} {N M a j : ℕ} (sign : Sign) (ha : 0 < a)
    (hx : AtMost N x) (hM : M < 2 ^ 53) (h : N * a ≤ M * 2 ^ j) :
    AtMost M (UnpackedFloat.mul Format.binary64 x (.finite sign a (-j) ha)) := by
  cases x with
  | infinity => exact hx.elim
  | notANumber => exact hx.elim
  | zero => trivial
  | finite s m e hm =>
      obtain ⟨-, he, -, hle⟩ := hx
      refine AtMost.roundWithAccuracy _ hM (by omega) ?_
      have hexponent : (971 - (e + -(j : ℤ))).toNat = (971 - e).toNat + j := by omega
      calc m * a ≤ N * 2 ^ (971 - e).toNat * a := Nat.mul_le_mul_right a hle
        _ = N * a * 2 ^ (971 - e).toNat := by ring
        _ ≤ M * 2 ^ j * 2 ^ (971 - e).toNat := Nat.mul_le_mul_right _ h
        _ = M * 2 ^ (971 - (e + -(j : ℤ))).toNat := by rw [hexponent, Nat.pow_add]; ring

theorem AtMost.mono {x : UnpackedFloat} {N M : ℕ} (hx : AtMost N x) (h : N ≤ M) : AtMost M x := by
  cases x with
  | infinity => exact hx.elim
  | notANumber => exact hx.elim
  | zero => trivial
  | finite => exact ⟨hx.1, hx.2.1, hx.2.2.1, hx.2.2.2.trans (Nat.mul_le_mul_right _ h)⟩

theorem AtMost.normalize {n : ℤ} {N : ℕ} {e : ℤ} (sign : Sign) (hN : N < 2 ^ 53) (he : e ≤ 971)
    (h : n.natAbs ≤ N * 2 ^ (971 - e).toNat) :
    AtMost N (UnpackedFloat.normalize Format.binary64 n e sign) := by
  rw [UnpackedFloat.normalize]
  split
  case h_1 => exact AtMost.round _ hN he (by omega)
  case h_2 => trivial
  case h_3 => exact AtMost.round _ hN he (by omega)

theorem natAbs_apply (sign : Sign) (m : ℕ) : (sign.apply m).natAbs = m := by
  cases sign <;> simp [Sign.apply]

/-- A sum. -/
theorem AtMost.add {x y : UnpackedFloat} {N M : ℕ} (hx : AtMost N x) (hy : AtMost M y)
    (h : N + M < 2 ^ 53) : AtMost (N + M) (UnpackedFloat.add Format.binary64 x y) := by
  cases x with
  | infinity => exact hx.elim
  | notANumber => exact hx.elim
  | zero s =>
      cases y with
      | infinity => exact hy.elim
      | notANumber => exact hy.elim
      | zero t =>
          rw [UnpackedFloat.add]
          split <;> trivial
      | finite => exact AtMost.mono hy (by omega)
  | finite s m e hm =>
      cases y with
      | infinity => exact hy.elim
      | notANumber => exact hy.elim
      | zero t => exact AtMost.mono hx (by omega)
      | finite t n f hn =>
          obtain ⟨-, he, -, hle⟩ := hx
          obtain ⟨-, hf, -, hle'⟩ := hy
          refine AtMost.normalize _ h (by omega) ?_
          have hm' := @bound_shift N (e - min e f).toNat (min e f) (by omega)
          have hn' := @bound_shift M (f - min e f).toNat (min e f) (by omega)
          rw [show min e f + ((e - min e f).toNat : ℤ) = e by omega] at hm'
          rw [show min e f + ((f - min e f).toNat : ℤ) = f by omega] at hn'
          rw [Nat.add_mul, hm', hn']
          refine (Int.natAbs_add_le _ _).trans ?_
          rw [natAbs_apply, natAbs_apply]
          simp only [Nat.shiftLeft_eq]
          exact Nat.add_le_add (Nat.mul_le_mul_right _ hle) (Nat.mul_le_mul_right _ hle')

/-! ### Packed numbers -/

theorem bias_eq : (Format.binary64.exponentBias : Int) = 1023 := rfl

/-- A bit pattern without the exponent of infinity, bounded in its two forms. -/
theorem atMost_unpack {b : BitVec Format.binary64.numBits} {N : ℕ}
    (hexponent : unpackExponent b ≠ -1#11)
    (hsubnormal : unpackExponent b = 0#11 → (unpackMantissa b).toNat ≤ N * 2 ^ (971 - -1074 : ℤ).toNat)
    (hnormal : unpackExponent b ≠ 0#11 →
      2 ^ 52 + (unpackMantissa b).toNat ≤ N * 2 ^ (2046 - (unpackExponent b).toNat)) :
    AtMost N (UnpackedFloat.unpack Format.binary64 b) := by
  have hmantissa : (unpackMantissa b).toNat < 2 ^ 52 := (unpackMantissa b).isLt
  unfold UnpackedFloat.unpack
  dsimp only
  rw [if_neg hexponent]
  split
  case isTrue hzero =>
    have hexp : (unpackExponent b).toNat = 0 := by rw [hzero]; rfl
    split
    case isTrue => trivial
    case isFalse =>
      have hexp' : ((0 : ℕ) - (1023 + (52 : ℕ)) + 1 : ℤ) = -1074 := rfl
      simp only [AtMost, hexp, bias_eq, hexp']
      exact ⟨le_rfl, by decide, hmantissa.trans (by decide), hsubnormal hzero⟩
  case isFalse hzero =>
    have hpos := exponent_pos hzero
    have hlt := exponent_lt hexponent
    have hshift : (971 - ((unpackExponent b).toNat - (1023 + (52 : ℕ)) : ℤ)).toNat =
        2046 - (unpackExponent b).toNat := by omega
    simp only [AtMost, toNat_normal, bias_eq, hshift]
    exact ⟨by omega, by omega, by omega, hnormal hzero⟩

/-- **Packing keeps a bound.** -/
theorem AtMost.unpack_pack {u : UnpackedFloat} {N : ℕ} (hu : AtMost N u) :
    AtMost N (UnpackedFloat.unpack Format.binary64 (UnpackedFloat.pack Format.binary64 u)) := by
  cases u with
  | infinity => exact hu.elim
  | notANumber => exact hu.elim
  | zero sign =>
      refine atMost_unpack ?_ (fun _ => ?_) (fun hne => ?_) <;>
        simp only [UnpackedFloat.pack, packedZero, unpackExponent_packComponents,
          unpackMantissa_packComponents] at *
      · decide
      · exact Nat.zero_le _
      · exact absurd rfl hne
  | finite sign m e hm =>
      obtain ⟨he, he', hlt, hle⟩ := hu
      have hlog : m.log2 < 53 := (Nat.log2_lt hm.ne').mpr hlt
      have hbiased : (e + Format.binary64.exponentBias +
          (Format.binary64.mantissaBitsWithoutImplicit : ℕ)).toNat = (e + 1075).toNat := by
        have hbits : (Format.binary64.mantissaBitsWithoutImplicit : ℤ) = 52 := rfl
        rw [bias_eq, hbits]
        omega
      have hbits : 2 ^ Format.binary64.exponentBits = 2048 := rfl
      rw [UnpackedFloat.pack]
      dsimp only
      rw [hbiased, hbits, if_neg (by omega)]
      have hexp : (BitVec.ofNat 11 (e + 1075).toNat).toNat = (e + 1075).toNat := by
        rw [BitVec.toNat_ofNat]
        omega
      split
      case isTrue hbits =>
        have hlog : m.log2 = 52 := Nat.succ.inj hbits
        have hge : 2 ^ 52 ≤ m := ((Nat.log2_eq_iff hm.ne').mp hlog).1
        refine atMost_unpack ?_ (fun hzero => ?_) (fun _ => ?_) <;>
          simp only [unpackExponent_packComponents, unpackMantissa_packComponents] at *
        · intro heq
          have := congrArg BitVec.toNat heq
          rw [hexp] at this
          have : (-1#11).toNat = 2047 := rfl
          omega
        · have := congrArg BitVec.toNat hzero
          rw [hexp] at this
          have : (0#11).toNat = 0 := rfl
          omega
        · rw [hexp, BitVec.toNat_ofNat]
          have hshift : (971 - e).toNat = 2046 - (e + 1075).toNat := by omega
          rw [← hshift]
          omega
      case isFalse hbits =>
        refine atMost_unpack ?_ (fun hzero => ?_) (fun hne => ?_) <;>
          simp only [unpackExponent_packComponents, unpackMantissa_packComponents] at *
        · decide
        · rw [BitVec.toNat_ofNat]
          calc m % 2 ^ 52 ≤ m := Nat.mod_le _ _
            _ ≤ N * 2 ^ (971 - e).toNat := hle
            _ ≤ N * 2 ^ (971 - -1074 : ℤ).toNat :=
              Nat.mul_le_mul_left _ (Nat.pow_le_pow_right (by omega) (by omega))
        · exact absurd rfl hne

/-! ### Floats -/

/-- A finite float that is at most `N · 2 ^ 971` in absolute value. -/
def Within (N : ℕ) (x : Float) : Prop := AtMost N x.toModel.unpack

theorem isFinite_of_within {N : ℕ} {x : Float} (h : Within N x) : x.isFinite = true := by
  change x.toModel.unpack.isFinite = true
  rw [Within] at h
  cases hunpack : x.toModel.unpack with
  | infinity => rw [hunpack] at h; exact h.elim
  | notANumber => rw [hunpack] at h; exact h.elim
  | zero => rfl
  | finite => rfl

/-- A finite float is bounded by the greatest one. -/
theorem within_of_isFinite {x : Float} (h : x.isFinite = true) : Within (2 ^ 53 - 1) x := by
  have hfinite : x.toModel.unpack.isFinite = true := h
  have hexponent : @unpackExponent Format.binary64 x.toModel.toBits.toBitVec ≠ -1#11 := by
    intro heq
    rw [Float.Model.unpack, UnpackedFloat.unpack] at hfinite
    dsimp only at hfinite
    rw [if_pos heq] at hfinite
    split at hfinite <;> cases hfinite
  have hmantissa := (@unpackMantissa Format.binary64 x.toModel.toBits.toBitVec).isLt
  have hmantissa : (@unpackMantissa Format.binary64 x.toModel.toBits.toBitVec).toNat < 2 ^ 52 :=
    hmantissa
  have hlt := exponent_lt hexponent
  refine atMost_unpack hexponent (fun _ => ?_) (fun _ => ?_)
  · exact (Nat.le_sub_one_of_lt (hmantissa.trans (by decide))).trans
      (Nat.le_mul_of_pos_right _ (Nat.two_pow_pos _))
  · exact (show _ ≤ 2 ^ 53 - 1 by omega).trans (Nat.le_mul_of_pos_right _ (Nat.two_pow_pos _))

/-- A product with a factor `a · 2 ^ -j`. -/
theorem Within.mul {x c : Float} {N M a j : ℕ} {sign : Sign} {ha : 0 < a} (hx : Within N x)
    (hc : c.toModel.unpack = .finite sign a (-j) ha) (hM : M < 2 ^ 53) (h : N * a ≤ M * 2 ^ j) :
    Within M (x * c) := by
  have hmul := (AtMost.mul sign ha hx hM h).unpack_pack
  rw [← hc] at hmul
  exact hmul

/-- A factor other than zero of at most one in absolute value. -/
def atMostOne (c : Float) : Bool :=
  match c.toModel.unpack with
  | .finite _ a e _ => decide (e ≤ 0 ∧ a ≤ 2 ^ (-e).toNat)
  | _ => false

/-- **A finite float times a factor** of at most one is finite. -/
theorem isFinite_mul {x c : Float} (hx : x.isFinite = true) (hc : atMostOne c = true) :
    (x * c).isFinite = true := by
  rw [atMostOne] at hc
  split at hc
  case h_1 sign a e ha hunpack =>
    obtain ⟨he, hle⟩ := of_decide_eq_true hc
    rw [show e = -((-e).toNat : ℤ) by omega] at hunpack
    exact isFinite_of_within ((within_of_isFinite hx).mul hunpack (by decide)
      (Nat.mul_le_mul_left _ hle))
  case h_2 => cases hc

theorem Within.add {x y : Float} {N M : ℕ} (hx : Within N x) (hy : Within M y)
    (h : N + M < 2 ^ 53) : Within (N + M) (x + y) :=
  (AtMost.add hx hy h).unpack_pack

end Binary64
