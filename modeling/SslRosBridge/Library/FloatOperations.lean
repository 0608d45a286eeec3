import SslRosBridge.Library.FloatNumbers

/-!
# Operations on floats

Products, quotients and conversions round the exact result, and fit the format
if it is not too large.
-/

open Float.Model (Format UnpackedFloat totalExponent)
open Float.Model.UnpackedFloat hiding pack mul round normalize

namespace SslRosBridge.Library

namespace Rounding

/-! ## Bits -/

/-- What the bits of a format can hold. -/
def Packable (spec : Format) : UnpackedFloat → Prop
  | .finite _ mantissa exponent _ => Canonical spec mantissa exponent ∧
      exponent + spec.exponentBias + spec.mantissaBitsWithoutImplicit + 1 < 2 ^ spec.exponentBits
  | _ => True

theorem sign_unpackSign {spec : Format} {sign : Sign} {exponent : BitVec spec.exponentBits}
    {mantissa : BitVec spec.mantissaBitsWithoutImplicit} :
    Sign.ofBitVec (unpackSign (packComponents spec sign exponent mantissa)) = sign := by
  have bit : unpackSign (packComponents spec sign exponent mantissa) = sign.toBitVec := by
    ext i hi
    have zero : i = 0 := by omega
    subst zero
    simp [unpackSign, packComponents, BitVec.getElem_append, BitVec.getLsbD_append]
  rw [bit]
  cases sign <;> rfl

theorem quiet_ne_zero (spec : Format) :
    BitVec.ofNat spec.mantissaBitsWithoutImplicit 1 <<<
      (spec.mantissaBitsWithoutImplicit - 1) ≠ 0 := by
  have width := spec.hm
  intro zero
  have bits := congrArg BitVec.toNat zero
  have one : 1 < 2 ^ spec.mantissaBitsWithoutImplicit := Nat.one_lt_two_pow width.ne'
  have less : 2 ^ (spec.mantissaBitsWithoutImplicit - 1) < 2 ^ spec.mantissaBitsWithoutImplicit :=
    Nat.pow_lt_pow_right Nat.one_lt_two (by omega)
  rw [BitVec.toNat_shiftLeft, BitVec.toNat_ofNat, Nat.mod_eq_of_lt one, Nat.one_shiftLeft,
    Nat.mod_eq_of_lt less] at bits
  exact (Nat.two_pow_pos _).ne' bits

theorem toNat_one_append {width : Nat} (bits : BitVec width) :
    (1#1 ++ bits).toNat = 2 ^ width + bits.toNat := by
  rw [BitVec.toNat_append, ← Nat.shiftLeft_add_eq_or_of_lt bits.isLt, Nat.shiftLeft_eq]
  simp

/-- The exponent of the least unit, from which the stored exponents count. -/
theorem minExponent_eq (spec : Format) :
    spec.minExponent = 1 - spec.exponentBias - spec.mantissaBitsWithoutImplicit := by
  have one : 1 ≤ 2 ^ (spec.exponentBits - 1) := Nat.one_le_two_pow
  simp only [Format.minExponent, Format.mantissaBits, Format.exponentBias, Nat.cast_sub one]
  push_cast
  ring

theorem exponentBias_eq {spec : Format} (roomy : 2 ≤ spec.exponentBits) :
    (2 : Int) ^ spec.exponentBits = 2 * spec.exponentBias + 2 ∧ 1 ≤ spec.exponentBias := by
  obtain ⟨rest, bits⟩ := Nat.exists_eq_add_of_le roomy
  have power : 0 < 2 ^ rest := Nat.two_pow_pos rest
  have bias : spec.exponentBias = 2 * 2 ^ rest - 1 := by
    have last : 2 + rest - 1 = rest + 1 := by omega
    rw [Format.exponentBias, bits, last, Nat.pow_succ, mul_comm]
  have range : (2 : Int) ^ spec.exponentBits = ((4 * 2 ^ rest : Nat) : Int) := by
    rw [bits, pow_add]
    push_cast
    rfl
  rw [range, bias]
  omega

section Components

variable {spec : Format} (sign : Sign) {mantissa : Nat}

/-- The leading digit of a normal float is not stored. -/
theorem unpack_normal {stored : Nat} (positive : 0 < mantissa)
    (implicit : 2 ^ spec.mantissaBitsWithoutImplicit ≤ mantissa)
    (fits : mantissa < 2 ^ spec.mantissaBitsWithoutImplicit * 2) (normal : 0 < stored)
    (finite : stored + 1 < 2 ^ spec.exponentBits) :
    UnpackedFloat.unpack spec (packComponents spec sign (BitVec.ofNat _ stored)
        (BitVec.ofNat _ mantissa)) =
      .finite sign mantissa
        (stored - (spec.exponentBias + spec.mantissaBitsWithoutImplicit)) positive := by
  have kept : (BitVec.ofNat spec.exponentBits stored).toNat = stored := by
    rw [BitVec.toNat_ofNat, Nat.mod_eq_of_lt (by omega)]
  have some_zero : BitVec.ofNat spec.exponentBits stored ≠ -BitVec.ofNat spec.exponentBits 1 := by
    intro ones
    have bits := congrArg BitVec.toNat ones
    rw [kept, BitVec.neg_one_eq_allOnes, BitVec.toNat_allOnes] at bits
    omega
  have some_one : BitVec.ofNat spec.exponentBits stored ≠ BitVec.ofNat spec.exponentBits 0 := by
    apply ofNat_ne_zero normal
    omega
  have whole : 2 ^ spec.mantissaBitsWithoutImplicit +
      mantissa % 2 ^ spec.mantissaBitsWithoutImplicit = mantissa := by
    rw [Nat.mod_eq_sub_mod implicit, Nat.mod_eq_of_lt (by omega)]
    omega
  simp only [UnpackedFloat.unpack, unpackExponent_packComponents, unpackMantissa_packComponents,
    sign_unpackSign, if_neg some_zero, if_neg some_one, kept, toNat_one_append,
    BitVec.toNat_ofNat, whole]

theorem unpack_subnormal (positive : 0 < mantissa)
    (small : mantissa < 2 ^ spec.mantissaBitsWithoutImplicit) :
    UnpackedFloat.unpack spec (packComponents spec sign (BitVec.ofNat _ 0)
        (BitVec.ofNat _ mantissa)) =
      .finite sign mantissa spec.minExponent positive := by
  have some_zero : BitVec.ofNat spec.exponentBits 0 ≠ -BitVec.ofNat spec.exponentBits 1 :=
    (neg_one_ne_zero spec).symm
  have some_one : BitVec.ofNat spec.mantissaBitsWithoutImplicit mantissa ≠
      BitVec.ofNat spec.mantissaBitsWithoutImplicit 0 := ofNat_ne_zero positive small
  have least := minExponent_eq spec
  simp only [UnpackedFloat.unpack, unpackExponent_packComponents, unpackMantissa_packComponents,
    sign_unpackSign, if_neg some_zero, if_true, dif_neg some_one, BitVec.toNat_ofNat,
    Nat.mod_eq_of_lt small, Nat.zero_mod, UnpackedFloat.finite.injEq, true_and]
  omega

end Components

theorem unpack_pack {spec : Format} {value : UnpackedFloat} (packable : Packable spec value) :
    UnpackedFloat.unpack spec (UnpackedFloat.pack spec value) = value := by
  cases value with
  | infinity sign =>
      simp only [UnpackedFloat.pack, packedInfinity, UnpackedFloat.unpack,
        unpackExponent_packComponents, unpackMantissa_packComponents, sign_unpackSign, if_true]
      rfl
  | notANumber =>
      simp only [UnpackedFloat.pack, packedNaN, UnpackedFloat.unpack,
        unpackExponent_packComponents, unpackMantissa_packComponents, if_true]
      exact if_neg (quiet_ne_zero spec)
  | zero sign =>
      have other : (0 : BitVec spec.exponentBits) ≠ -BitVec.ofNat spec.exponentBits 1 :=
        (neg_one_ne_zero spec).symm
      simp only [UnpackedFloat.pack, packedZero, UnpackedFloat.unpack,
        unpackExponent_packComponents, unpackMantissa_packComponents, sign_unpackSign,
        if_neg other]
      rfl
  | finite sign mantissa exponent positive =>
      obtain ⟨⟨fits, least, full⟩, bounded⟩ := packable
      have lowest := minExponent_eq spec
      have cast : ((2 ^ spec.exponentBits : Nat) : Int) = 2 ^ spec.exponentBits := by
        push_cast
        rfl
      have finite : ¬ 2 ^ spec.exponentBits ≤
          (exponent + spec.exponentBias + spec.mantissaBitsWithoutImplicit).toNat + 1 := by
        omega
      rw [two_pow_mantissaBits] at fits
      simp only [UnpackedFloat.pack, if_neg finite]
      split
      next normal =>
        have log : mantissa.log2 = spec.mantissaBitsWithoutImplicit := by
          rw [Format.mantissaBits] at normal
          omega
        have implicit : 2 ^ spec.mantissaBitsWithoutImplicit ≤ mantissa := by
          rw [← log]
          exact Nat.log2_self_le positive.ne'
        rw [unpack_normal sign positive implicit fits (by omega) (by omega)]
        simp only [UnpackedFloat.finite.injEq, true_and]
        omega
      next subnormal =>
        have small : mantissa < 2 ^ spec.mantissaBitsWithoutImplicit := by
          by_contra implicit
          have log : mantissa.log2 = spec.mantissaBitsWithoutImplicit := by
            rw [Nat.log2_eq_iff positive.ne', Nat.pow_succ]
            exact ⟨Nat.le_of_not_lt implicit, fits⟩
          rw [Format.mantissaBits] at subnormal
          omega
        rw [unpack_subnormal sign positive small, full.resolve_left (Nat.not_le_of_lt small)]

/-- Everything that is read from bits can be stored again. -/
theorem packable_unpack {spec : Format} (roomy : 2 ≤ spec.exponentBits)
    (bits : BitVec spec.numBits) : Packable spec (UnpackedFloat.unpack spec bits) := by
  have least := minExponent_eq spec
  have room : 2 ^ 2 ≤ 2 ^ spec.exponentBits := Nat.pow_le_pow_right Nat.two_pos roomy
  have cast : ((2 ^ spec.exponentBits : Nat) : Int) = 2 ^ spec.exponentBits := by
    push_cast
    rfl
  have mantissa := (unpackMantissa bits).isLt
  have exponent := (unpackExponent bits).isLt
  simp only [UnpackedFloat.unpack]
  split
  next => split <;> trivial
  next finite =>
    split
    next zero =>
      split
      next => trivial
      next =>
        have stored : (unpackExponent bits).toNat = 0 := by
          rw [zero]
          exact Nat.zero_mod _
        refine ⟨⟨?_, ?_, Or.inr ?_⟩, ?_⟩
        · rw [two_pow_mantissaBits]
          omega
        all_goals omega
    next normal =>
      have stored : (unpackExponent bits).toNat ≠ 0 :=
        fun zero => normal (BitVec.eq_of_toNat_eq (zero.trans (Nat.zero_mod _).symm))
      have other : (unpackExponent bits).toNat ≠ 2 ^ spec.exponentBits - 1 := by
        intro ones
        apply finite
        rw [← BitVec.toNat_inj, ones, BitVec.neg_one_eq_allOnes, BitVec.toNat_allOnes]
      refine ⟨⟨?_, ?_, Or.inl ?_⟩, ?_⟩
      · rw [toNat_one_append, two_pow_mantissaBits]
        omega
      · omega
      · rw [toNat_one_append]
        omega
      · omega

/-- What a stored float stands for. -/
theorem Packable.number_cases {spec : Format} {value : UnpackedFloat} {exact : ℚ}
    (packable : Packable spec value) (stands : number value = some exact) :
    exact = 0 ∨ ∃ sign mantissa exponent, exact = scaled sign mantissa exponent ∧
      Canonical spec mantissa exponent ∧
      exponent + spec.exponentBias + spec.mantissaBitsWithoutImplicit + 1 <
        2 ^ spec.exponentBits := by
  cases value with
  | infinity sign => cases stands
  | notANumber => cases stands
  | zero sign => exact Or.inl (Option.some.inj stands).symm
  | finite sign mantissa exponent positive =>
      exact Or.inr ⟨sign, mantissa, exponent, (Option.some.inj stands).symm, packable⟩

/-! ## Operations -/

theorem number_mul (spec : Format) {factor : Nat} (scale : Int) (positive : 0 < factor)
    (value : UnpackedFloat) :
    number (UnpackedFloat.mul spec value (.finite .positive factor scale positive)) =
      (number value).map fun exact =>
        (grid spec).nearest (exact * scaled .positive factor scale) := by
  cases value with
  | infinity sign => rfl
  | notANumber => rfl
  | zero sign => simp [UnpackedFloat.mul, number]
  | finite sign mantissa exponent pos =>
      have product : scaled sign (mantissa * factor) (exponent + scale) =
          scaled sign mantissa exponent * scaled .positive factor scale := by
        cases sign with
        | negative =>
            rw [scaled_negative, scaled_negative, scaled_positive, scaled_positive,
              scaled_positive, zpow_add₀ two_ne_zero]
            push_cast
            ring
        | positive =>
            rw [scaled_positive, scaled_positive, scaled_positive, zpow_add₀ two_ne_zero]
            push_cast
            ring
      simp only [UnpackedFloat.mul, sign_mul_positive]
      rw [number_roundWithAccuracy spec sign _ (Nat.mul_pos pos positive), product]
      rfl

/-- A product by a factor less than a half does not overflow. -/
theorem packable_mul {spec : Format} (roomy : 2 ≤ spec.exponentBits) {factor : Nat} {scale : Int}
    (positive : 0 < factor) (fits : factor < 2 ^ spec.mantissaBits)
    (small : scale + spec.mantissaBits < 0) {value : UnpackedFloat}
    (packable : Packable spec value) :
    Packable spec (UnpackedFloat.mul spec value (.finite .positive factor scale positive)) := by
  have least := minExponent_eq spec
  obtain ⟨range, width⟩ := exponentBias_eq roomy
  cases value with
  | infinity sign => trivial
  | notANumber => trivial
  | zero sign => trivial
  | finite sign mantissa exponent pos =>
      obtain ⟨⟨fits', least', full⟩, bounded⟩ := packable
      have product : 0 < mantissa * factor := Nat.mul_pos pos positive
      have short : (mantissa * factor).log2 < spec.mantissaBits + spec.mantissaBits := by
        rw [Nat.log2_lt product.ne', Nat.pow_add]
        exact Nat.mul_lt_mul'' fits' fits
      have fine : exponent + scale ≤
          spec.targetExponent (totalExponent (mantissa * factor) (exponent + scale)) := by
        simp only [Format.targetExponent, totalExponent]
        rcases full with full | lowest
        · have long : spec.mantissaBitsWithoutImplicit ≤ (mantissa * factor).log2 := by
            rw [Nat.le_log2 product.ne']
            exact full.trans (Nat.le_mul_of_pos_right mantissa positive)
          rw [Format.mantissaBits]
          omega
        · omega
      simp only [UnpackedFloat.mul]
      rcases roundWithAccuracy_canonical (sign * .positive) .exact fine with
        value | ⟨rounded, exponent', pos', value, canonical, bound⟩
      · rw [value]
        trivial
      · rw [value]
        refine ⟨canonical, ?_⟩
        simp only [Format.targetExponent, totalExponent] at bound
        omega

/-! ### Quotients -/

theorem log2_shiftLeft {mantissa : Nat} (positive : 0 < mantissa) (shift : Nat) :
    (mantissa <<< shift).log2 = mantissa.log2 + shift := by
  rw [Nat.log2_eq_iff (Nat.shiftLeft_pos_iff.mpr positive).ne', Nat.shiftLeft_eq,
    Nat.add_right_comm, Nat.pow_add, Nat.pow_add]
  exact ⟨Nat.mul_le_mul_right _ (Nat.log2_self_le positive.ne'),
    Nat.mul_lt_mul_of_pos_right Nat.lt_log2_self (Nat.two_pow_pos shift)⟩

/-- Whole quotients have the digits that the dividend has more than the divisor. -/
theorem log2_div {number divisor : Nat} (positive : 0 < divisor) (le : divisor ≤ number) :
    (number / divisor).log2 + divisor.log2 ≤ number.log2 ∧
      number.log2 ≤ (number / divisor).log2 + divisor.log2 + 1 := by
  have quotient : 0 < number / divisor := Nat.div_pos le positive
  have dividend : 0 < number := positive.trans_le le
  constructor
  · rw [Nat.le_log2 dividend.ne', Nat.pow_add]
    exact (Nat.mul_le_mul (Nat.log2_self_le quotient.ne') (Nat.log2_self_le positive.ne')).trans
      (Nat.div_mul_le_self number divisor)
  · have bound : number < 2 ^ ((number / divisor).log2 + 1 + (divisor.log2 + 1)) := by
      rw [Nat.pow_add]
      calc number < (number / divisor + 1) * divisor := by
            rw [mul_comm]
            exact Nat.lt_mul_div_succ number positive
        _ ≤ 2 ^ ((number / divisor).log2 + 1) * 2 ^ (divisor.log2 + 1) :=
            Nat.mul_le_mul Nat.lt_log2_self Nat.lt_log2_self.le
    have log := (Nat.log2_lt dividend.ne').mpr bound
    omega

/--
A division adds digits to the dividend until the quotient has enough of them,
or its exponent is the least.
-/
theorem divCore_eq (spec : Format) {mantissa₁ : Nat} (exponent₁ : Int) {mantissa₂ : Nat}
    (exponent₂ : Int) (positive₁ : 0 < mantissa₁) (positive₂ : 0 < mantissa₂) :
    ∃ (shift mantissa : Nat) (exponent : Int), mantissa = (mantissa₁ <<< shift) / mantissa₂ ∧
      exponent = exponent₁ - exponent₂ - shift ∧
      divCore spec mantissa₁ exponent₁ mantissa₂ exponent₂ =
        (mantissa, exponent, accuracyOfFraction ((mantissa₁ <<< shift) % mantissa₂) mantissa₂) ∧
      (0 < mantissa ∨ exponent ≤ spec.minExponent) ∧
      exponent ≤ spec.targetExponent (totalExponent mantissa exponent) ∧
      spec.targetExponent (totalExponent mantissa exponent) ≤ spec.targetExponent
        (totalExponent mantissa₁ exponent₁ - totalExponent mantissa₂ exponent₂ + 1) := by
  have some_digits : 0 < spec.mantissaBits := (grid spec).positive
  generalize target_eq : min (exponent₁ - exponent₂) (spec.targetExponent
    (totalExponent mantissa₁ exponent₁ - totalExponent mantissa₂ exponent₂)) = target
  generalize shift_eq : (exponent₁ - exponent₂ - target).toNat = shift
  have log := log2_shiftLeft positive₁ shift
  refine ⟨shift, (mantissa₁ <<< shift) / mantissa₂, target, rfl, by omega, ?_, ?_⟩
  · rw [divCore, target_eq, shift_eq]
  · simp only [Format.targetExponent, totalExponent] at target_eq ⊢
    rcases lt_or_ge (mantissa₁ <<< shift) mantissa₂ with less | le
    · have logs : (mantissa₁ <<< shift).log2 ≤ mantissa₂.log2 := by
        rw [Nat.le_log2 positive₂.ne']
        exact (Nat.log2_self_le (Nat.shiftLeft_pos_iff.mpr positive₁).ne').trans less.le
      rw [Nat.div_eq_of_lt less, Nat.log2_zero]
      omega
    · have quotient := Nat.div_pos le positive₂
      obtain ⟨least, greatest⟩ := log2_div positive₂ le
      refine ⟨Or.inl quotient, ?_, ?_⟩ <;> omega

theorem sign_div_positive (sign : Sign) : sign / .positive = sign := by
  cases sign with
  | negative => rfl
  | positive => rfl

theorem number_div (spec : Format) {divisor : Nat} (scale : Int) (positive : 0 < divisor)
    (value : UnpackedFloat) :
    number (UnpackedFloat.div spec value (.finite .positive divisor scale positive)) =
      (number value).map fun exact =>
        (grid spec).nearest (exact / scaled .positive divisor scale) := by
  cases value with
  | infinity sign => rfl
  | notANumber => rfl
  | zero sign => simp [UnpackedFloat.div, number]
  | finite sign mantissa exponent pos =>
      obtain ⟨shift, quotient, exponent', quotient_eq, exponent_eq, core, enough, fine, -⟩ :=
        divCore_eq spec exponent scale pos positive
      have represents := Represents.of_fraction (mantissa <<< shift) positive
      rw [← quotient_eq] at represents
      have exact_pos : (0 : ℚ) < (mantissa <<< shift : Nat) / divisor :=
        div_pos (Nat.cast_pos.mpr (Nat.shiftLeft_pos_iff.mpr pos)) (Nat.cast_pos.mpr positive)
      have same : ((mantissa <<< shift : Nat) / divisor : ℚ) * 2 ^ exponent' =
          scaled .positive mantissa exponent / scaled .positive divisor scale := by
        rw [exponent_eq, scaled_positive, scaled_positive, Nat.shiftLeft_eq,
          zpow_sub₀ two_ne_zero, zpow_sub₀ two_ne_zero, zpow_natCast]
        push_cast
        field_simp
      have stands : number (.finite sign mantissa exponent pos) =
          some (scaled sign mantissa exponent) := rfl
      simp only [UnpackedFloat.div, core, stands, Option.map_some]
      rw [number_of_represents _ represents (represents.exponent spec exact_pos enough) fine, same,
        sign_div_positive]
      cases sign with
      | negative =>
          rw [scaled_negative, neg_div]
          simp [Sign.apply]
      | positive => simp [Sign.apply]

/-- A quotient by a number from two on does not overflow. -/
theorem packable_div {spec : Format} (roomy : 2 ≤ spec.exponentBits) {divisor : Nat} {scale : Int}
    (positive : 0 < divisor) (large : 2 ≤ totalExponent divisor scale) {value : UnpackedFloat}
    (packable : Packable spec value) :
    Packable spec (UnpackedFloat.div spec value (.finite .positive divisor scale positive)) := by
  have least := minExponent_eq spec
  obtain ⟨range, width⟩ := exponentBias_eq roomy
  cases value with
  | infinity sign => trivial
  | notANumber => trivial
  | zero sign => trivial
  | finite sign mantissa exponent pos =>
      obtain ⟨⟨fits, least', -⟩, bounded⟩ := packable
      have short := (Nat.log2_lt pos.ne').mpr fits
      obtain ⟨_, quotient, exponent', -, -, core, -, fine, greatest⟩ :=
        divCore_eq spec exponent scale pos positive
      simp only [UnpackedFloat.div, core]
      rcases roundWithAccuracy_canonical (sign / .positive) _ fine with
        value | ⟨rounded, exponent', pos', value, canonical, bound⟩
      · rw [value]
        trivial
      · rw [value]
        refine ⟨canonical, ?_⟩
        simp only [Format.targetExponent, totalExponent] at bound greatest large
        omega

/-! ### Conversions -/

/-- Rounding from any exponent. -/
theorem round_eq (spec : Format) (sign : Sign) {mantissa : Nat} (exponent : Int)
    (positive : 0 < mantissa) :
    number (UnpackedFloat.round spec sign mantissa exponent) =
        some ((grid spec).nearest (scaled sign mantissa exponent)) ∧
      (UnpackedFloat.round spec sign mantissa exponent = .zero sign ∨
        ∃ rounded exponent' pos,
          UnpackedFloat.round spec sign mantissa exponent =
            .finite sign rounded exponent' pos ∧
          Canonical spec rounded exponent' ∧
          exponent' ≤ spec.targetExponent (totalExponent mantissa exponent) + 1) := by
  simp only [UnpackedFloat.round, decreaseExponent]
  generalize shift_eq : (exponent - spec.targetExponent (totalExponent mantissa exponent)).toNat =
    shift
  have shifted : 0 < mantissa <<< shift := Nat.shiftLeft_pos_iff.mpr positive
  have same : scaled sign (mantissa <<< shift) (exponent - shift) =
      scaled sign mantissa exponent := by
    rw [Nat.shiftLeft_eq, scaled_mul_power, sub_add_cancel]
  have total : totalExponent (mantissa <<< shift) (exponent - shift) =
      totalExponent mantissa exponent := by
    rw [totalExponent, totalExponent, log2_shiftLeft positive]
    push_cast
    ring
  constructor
  · rw [number_roundWithAccuracy spec sign _ shifted, same]
  · rw [← total]
    apply roundWithAccuracy_canonical sign
    rw [total]
    omega

theorem packable_round {spec : Format} (sign : Sign) {mantissa : Nat} {exponent : Int}
    (positive : 0 < mantissa)
    (bounded : spec.targetExponent (totalExponent mantissa exponent) + spec.exponentBias +
      spec.mantissaBitsWithoutImplicit + 2 < 2 ^ spec.exponentBits) :
    Packable spec (UnpackedFloat.round spec sign mantissa exponent) := by
  rcases (round_eq spec sign exponent positive).2 with
    value | ⟨rounded, exponent', pos', value, canonical, bound⟩
  · rw [value]
    trivial
  · rw [value]
    exact ⟨canonical, by omega⟩

/-- Rounding does not overflow far enough below the largest number. -/
theorem packable_round_of_lt {spec : Format} (roomy : 2 ≤ spec.exponentBits) (sign : Sign)
    {mantissa : Nat} {exponent : Int} (positive : 0 < mantissa)
    (small : |scaled sign mantissa exponent| < 2 ^ spec.exponentBias) :
    Packable spec (UnpackedFloat.round spec sign mantissa exponent) := by
  have least := minExponent_eq spec
  have nonzero : 0 < |scaled sign mantissa exponent| := by
    rw [abs_scaled]
    exact mul_pos (Nat.cast_pos.mpr positive) (zpow_pos two_pos _)
  have power : |scaled sign mantissa exponent| < ((2 : ℕ) : ℚ) ^ (spec.exponentBias : ℤ) := by
    rw [zpow_natCast]
    exact small
  have log := (Int.lt_zpow_iff_log_lt one_lt_two nonzero).mp power
  rw [log_scaled sign exponent positive] at log
  obtain ⟨range, width⟩ := exponentBias_eq roomy
  apply packable_round sign positive
  simp only [Format.targetExponent, totalExponent, Format.mantissaBits]
  omega

/-- Numbers with few digits are kept. -/
theorem nearest_of_fits {spec : Format} (sign : Sign) {mantissa : Nat} {exponent : Int}
    (fits : mantissa < 2 ^ spec.mantissaBits) (least : spec.minExponent ≤ exponent) :
    (grid spec).nearest (scaled sign mantissa exponent) = scaled sign mantissa exponent := by
  rcases Nat.eq_zero_or_pos mantissa with rfl | positive
  · have zero : scaled sign 0 exponent = 0 := by
      cases sign <;> simp [scaled, Sign.apply]
    rw [zero, Grid.nearest_zero]
  · have short := (Nat.log2_lt positive.ne').mpr fits
    apply nearest_of_coarse sign positive
    simp only [Format.targetExponent, totalExponent]
    omega

theorem number_ofInt (spec : Format) (value : Int) :
    number (ofInt spec value) = some ((grid spec).nearest (value : ℚ)) := by
  rcases Int.lt_trichotomy value 0 with negative | rfl | positive
  · have magnitude : 0 < (-value).toNat := by omega
    have same : scaled .negative (-value).toNat 0 = value := by
      have integer : ((-value).toNat : Int) = -value := by omega
      simp [scaled, Sign.apply, integer]
    rw [ofInt, UnpackedFloat.normalize, Int.compare_eq_lt.mpr negative]
    rw [← same]
    exact (round_eq spec .negative 0 magnitude).1
  · rw [Int.cast_zero, Grid.nearest_zero]
    rfl
  · have magnitude : 0 < value.toNat := by omega
    have same : scaled .positive value.toNat 0 = value := by
      have integer : (value.toNat : Int) = value := by omega
      simp [scaled, Sign.apply, integer]
    rw [ofInt, UnpackedFloat.normalize, Int.compare_eq_gt.mpr positive]
    rw [← same]
    exact (round_eq spec .positive 0 magnitude).1

theorem packable_ofInt {spec : Format} {value : Int} {width : Nat}
    (narrow : value.natAbs < 2 ^ width) (wide : spec.mantissaBits ≤ width)
    (bounded : width + spec.exponentBias + 1 < 2 ^ spec.exponentBits) :
    Packable spec (ofInt spec value) := by
  have least := minExponent_eq spec
  have cast : ((2 ^ spec.exponentBits : Nat) : Int) = 2 ^ spec.exponentBits := by
    push_cast
    rfl
  have target : ∀ magnitude : Nat, 0 < magnitude → magnitude < 2 ^ width →
      spec.targetExponent (totalExponent magnitude 0) + spec.exponentBias +
        spec.mantissaBitsWithoutImplicit + 2 < 2 ^ spec.exponentBits := by
    intro magnitude positive narrow
    have short := (Nat.log2_lt positive.ne').mpr narrow
    have some_digits := spec.hm
    simp only [Format.targetExponent, totalExponent]
    rw [Format.mantissaBits] at wide ⊢
    omega
  rcases Int.lt_trichotomy value 0 with negative | rfl | positive
  · rw [ofInt, UnpackedFloat.normalize, Int.compare_eq_lt.mpr negative]
    exact packable_round .negative (by omega) (target _ (by omega) (by omega))
  · trivial
  · rw [ofInt, UnpackedFloat.normalize, Int.compare_eq_gt.mpr positive]
    exact packable_round .positive (by omega) (target _ (by omega) (by omega))

theorem roundToInt_eq (sign : Sign) {mantissa : Nat} (exponent : Int) (positive : 0 < mantissa) :
    roundToInt sign mantissa exponent = truncated (scaled sign mantissa exponent) := by
  have magnitude : (0 : ℚ) < scaled .positive mantissa exponent := by
    rw [scaled_positive]
    exact mul_pos (Nat.cast_pos.mpr positive) (zpow_pos two_pos _)
  have floor : roundToInt .positive mantissa exponent = ⌊scaled .positive mantissa exponent⌋ := by
    rcases exponent.eq_nat_or_neg with ⟨count, rfl | rfl⟩
    · have whole : scaled .positive mantissa count = ((mantissa * 2 ^ count : Nat) : ℚ) := by
        rw [scaled_positive, zpow_natCast]
        push_cast
        rfl
      rw [whole, Int.floor_natCast]
      simp [roundToInt, decreaseExponent, shiftToExponent, ExtendedMantissa.ofMantissaAndAccuracy,
        mantissa_shiftRight, Sign.apply, Nat.shiftLeft_eq]
    · have quotient : scaled .positive mantissa (-count) =
          (mantissa : ℚ) / ((2 ^ count : Nat) : ℚ) := by
        rw [scaled_positive, zpow_neg, zpow_natCast]
        push_cast
        rfl
      rw [quotient, Int.floor_div_natCast, Int.floor_natCast]
      simp [roundToInt, decreaseExponent, shiftToExponent, ExtendedMantissa.ofMantissaAndAccuracy,
        mantissa_shiftRight, Sign.apply, Nat.shiftLeft_eq]
  cases sign with
  | positive => rw [floor, truncated, if_pos magnitude.le]
  | negative =>
      have negated : roundToInt .negative mantissa exponent =
          -roundToInt .positive mantissa exponent := rfl
      rw [negated, floor, scaled_negative, truncated, if_neg (by linarith), Int.ceil_neg]

end Rounding

end SslRosBridge.Library
