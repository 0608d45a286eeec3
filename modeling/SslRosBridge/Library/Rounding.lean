import Mathlib

/-!
# Rounding to zero

When does an operation of the floating point model of the core library round to
positive zero?  The answer for a mantissa and an exponent is a comparison of
natural numbers.
-/

open Float.Model (Format UnpackedFloat totalExponent)
open Float.Model.UnpackedFloat hiding pack mul round normalize

namespace SslRosBridge.Library

namespace Rounding

/-- The residual bits of a shifted mantissa. -/
theorem shiftRight_succ (mantissa shift : Nat) :
    (⟨mantissa, false, false⟩ : ExtendedMantissa) >>> (shift + 1) =
      ⟨mantissa / 2 ^ (shift + 1), mantissa / 2 ^ shift % 2 != 0, mantissa % 2 ^ shift != 0⟩ := by
  induction shift with
  | zero =>
      simp [HShiftRight.hShiftRight, Nat.repeat, ExtendedMantissa.shiftRightOne, Nat.mod_one]
  | succ shift ih =>
      have stepped : (⟨mantissa, false, false⟩ : ExtendedMantissa) >>> (shift + 1 + 1) =
          ((⟨mantissa, false, false⟩ : ExtendedMantissa) >>> (shift + 1)).shiftRightOne := rfl
      rw [stepped, ih]
      have sticky : mantissa % 2 ^ (shift + 1) =
          mantissa % 2 ^ shift + 2 ^ shift * (mantissa / 2 ^ shift % 2) := by
        rw [Nat.pow_succ, Nat.mod_mul]
      have positive : 0 < 2 ^ shift := Nat.two_pow_pos shift
      simp only [ExtendedMantissa.shiftRightOne, ExtendedMantissa.mk.injEq, sticky,
        Nat.div_div_eq_div_mul, ← Nat.pow_succ, true_and]
      rcases Nat.mod_two_eq_zero_or_one (mantissa / 2 ^ shift) with even | odd
      · simp [even]
      · simp [odd]

/-- At most half of the next power of two. -/
theorem le_power_iff (mantissa shift : Nat) :
    2 * mantissa ≤ 2 ^ (shift + 1) ↔
      mantissa / 2 ^ shift = 0 ∨ mantissa / 2 ^ shift = 1 ∧ mantissa % 2 ^ shift = 0 := by
  have positive : 0 < 2 ^ shift := Nat.two_pow_pos shift
  have parts := Nat.div_add_mod mantissa (2 ^ shift)
  have remainder := Nat.mod_lt mantissa positive
  rw [Nat.pow_succ]
  cases quotient : mantissa / 2 ^ shift with
  | zero =>
      rw [quotient] at parts
      omega
  | succ quotient' =>
      rw [quotient, Nat.mul_succ] at parts
      cases quotient' with
      | zero => omega
      | succ rest =>
          rw [Nat.mul_succ] at parts
          omega

theorem roundedMantissa_shiftRight_eq_zero_iff (mantissa shift : Nat) :
    ((⟨mantissa, false, false⟩ : ExtendedMantissa) >>> shift).roundedMantissa = 0 ↔
      2 * mantissa ≤ 2 ^ shift := by
  cases shift with
  | zero =>
      have same : ((⟨mantissa, false, false⟩ : ExtendedMantissa) >>> 0).roundedMantissa =
          mantissa := rfl
      rw [same]
      omega
  | succ shift =>
      have bound : 2 * mantissa ≤ 2 ^ (shift + 1) ↔
          mantissa / 2 ^ shift = 0 ∨ mantissa / 2 ^ shift = 1 ∧ mantissa % 2 ^ shift = 0 :=
        le_power_iff mantissa shift
      rw [shiftRight_succ, bound, Nat.pow_succ, ← Nat.div_div_eq_div_mul]
      generalize mantissa / 2 ^ shift = quotient
      generalize mantissa % 2 ^ shift = remainder
      cases round : quotient % 2 != 0 <;> cases sticky : remainder != 0 <;>
        simp only [ExtendedMantissa.roundedMantissa, ExtendedMantissa.accuracy,
          Accuracy.roundToNearestEven, bne_eq_false_iff_eq, bne_iff_ne] at round sticky ⊢ <;>
        omega

/-- The number of places that a mantissa is shifted to fit its format. -/
def places (spec : Format) (mantissa : Nat) (exponent : Int) : Nat :=
  (spec.targetExponent (totalExponent mantissa exponent) - exponent).toNat

theorem shiftToTargetExponent_exact (spec : Format) (mantissa : Nat) (exponent : Int) :
    shiftToTargetExponent spec mantissa exponent .exact =
      ((⟨mantissa, false, false⟩ : ExtendedMantissa) >>> places spec mantissa exponent,
        exponent + places spec mantissa exponent) := rfl

theorem mantissa_shiftRight (mantissa shift : Nat) :
    ((⟨mantissa, false, false⟩ : ExtendedMantissa) >>> shift).mantissa = mantissa / 2 ^ shift := by
  cases shift with
  | zero => simp [HShiftRight.hShiftRight, Nat.repeat]
  | succ shift => rw [shiftRight_succ]

/-- A shifted mantissa fits. -/
theorem div_places_lt (spec : Format) (mantissa : Nat) (exponent : Int) :
    mantissa / 2 ^ places spec mantissa exponent < 2 ^ spec.mantissaBits := by
  have fits : mantissa.log2 + 1 ≤ spec.mantissaBits + places spec mantissa exponent := by
    simp only [places, Format.targetExponent, totalExponent]
    omega
  rw [Nat.div_lt_iff_lt_mul (Nat.two_pow_pos _), ← Nat.pow_add]
  calc mantissa < 2 ^ (mantissa.log2 + 1) := Nat.lt_log2_self
    _ ≤ 2 ^ (spec.mantissaBits + places spec mantissa exponent) :=
      Nat.pow_le_pow_right Nat.two_pos fits

theorem minExponent_le_places (spec : Format) (mantissa : Nat) (exponent : Int) :
    spec.minExponent ≤ exponent + places spec mantissa exponent := by
  simp only [places, Format.targetExponent]
  omega

/-- No mantissa is lost once its exponent is large enough. -/
theorem div_places_eq_zero_iff {spec : Format} (mantissa : Nat) {exponent : Int}
    (large : spec.minExponent ≤ exponent) :
    mantissa / 2 ^ places spec mantissa exponent = 0 ↔ mantissa = 0 := by
  constructor
  · intro lost
    by_contra nonzero
    have short : places spec mantissa exponent ≤ mantissa.log2 := by
      have some_bits : 0 < spec.mantissaBits := Nat.add_pos_left Nat.zero_lt_one _
      simp only [places, Format.targetExponent, totalExponent]
      omega
    have held : 2 ^ places spec mantissa exponent ≤ mantissa :=
      Nat.le_trans (Nat.pow_le_pow_right Nat.two_pos short) (Nat.log2_self_le nonzero)
    exact absurd lost (Nat.ne_of_gt (Nat.div_pos held (Nat.two_pow_pos _)))
  · rintro rfl
    exact Nat.zero_div _

/-- The shift that loses the whole mantissa is the one to the least exponent. -/
theorem le_power_places_iff (spec : Format) {mantissa : Nat} (exponent : Int)
    (positive : 0 < mantissa) :
    2 * mantissa ≤ 2 ^ places spec mantissa exponent ↔
      2 * mantissa ≤ 2 ^ (spec.minExponent - exponent).toNat := by
  constructor
  · intro lost
    have far : mantissa.log2 + 1 ≤ places spec mantissa exponent := by
      have twice : 2 ^ (mantissa.log2 + 1) ≤ 2 ^ places spec mantissa exponent := by
        rw [Nat.pow_succ, Nat.mul_comm]
        exact Nat.le_trans (Nat.mul_le_mul_left 2 (Nat.log2_self_le (Nat.ne_of_gt positive))) lost
      exact (Nat.pow_le_pow_iff_right Nat.one_lt_two).mp twice
    have least : places spec mantissa exponent = (spec.minExponent - exponent).toNat := by
      have some_bits : 0 < spec.mantissaBits := Nat.add_pos_left Nat.zero_lt_one _
      simp only [places, Format.targetExponent, totalExponent] at far ⊢
      omega
    rwa [← least]
  · intro lost
    refine Nat.le_trans lost (Nat.pow_le_pow_right Nat.two_pos ?_)
    simp only [places, Format.targetExponent]
    omega

/-- The mantissa after the first shift of a rounding. -/
def roundedOnce (spec : Format) (mantissa : Nat) (exponent : Int) : Nat :=
  ((⟨mantissa, false, false⟩ : ExtendedMantissa) >>>
    places spec mantissa exponent).roundedMantissa

theorem roundedOnce_eq_zero_iff (spec : Format) {mantissa : Nat} (exponent : Int)
    (positive : 0 < mantissa) :
    roundedOnce spec mantissa exponent = 0 ↔
      2 * mantissa ≤ 2 ^ (spec.minExponent - exponent).toNat := by
  rw [roundedOnce, roundedMantissa_shiftRight_eq_zero_iff,
    le_power_places_iff spec exponent positive]

theorem roundWithAccuracy_exact (spec : Format) (sign : Sign) (mantissa : Nat)
    (exponent : Int) :
    roundWithAccuracy spec sign mantissa exponent .exact =
      if lost : roundedOnce spec mantissa exponent / 2 ^ places spec
          (roundedOnce spec mantissa exponent) (exponent + places spec mantissa exponent) = 0
      then .zero sign
      else .finite sign _ (exponent + places spec mantissa exponent + places spec
        (roundedOnce spec mantissa exponent) (exponent + places spec mantissa exponent))
        (Nat.pos_of_ne_zero lost) := by
  simp only [roundWithAccuracy, shiftToTargetExponent_exact, mantissa_shiftRight]
  rfl

/-- Rounding yields zero or a mantissa that fits. -/
theorem roundWithAccuracy_cases (spec : Format) (sign : Sign) {mantissa : Nat} (exponent : Int)
    (positive : 0 < mantissa) :
    2 * mantissa ≤ 2 ^ (spec.minExponent - exponent).toNat ∧
        roundWithAccuracy spec sign mantissa exponent .exact = .zero sign ∨
      ¬ 2 * mantissa ≤ 2 ^ (spec.minExponent - exponent).toNat ∧
        ∃ rounded exponent' pos,
          roundWithAccuracy spec sign mantissa exponent .exact =
            .finite sign rounded exponent' pos ∧
          rounded < 2 ^ spec.mantissaBits ∧ spec.minExponent ≤ exponent' ∧
          exponent ≤ exponent' := by
  have carried := div_places_eq_zero_iff (roundedOnce spec mantissa exponent)
    (minExponent_le_places spec mantissa exponent)
  rw [← roundedOnce_eq_zero_iff spec exponent positive, roundWithAccuracy_exact]
  by_cases zero : roundedOnce spec mantissa exponent = 0
  · left
    refine ⟨zero, ?_⟩
    rw [dif_pos (carried.mpr zero)]
  · right
    have kept := fun lost => zero (carried.mp lost)
    refine ⟨zero, _, _, Nat.pos_of_ne_zero kept, dif_neg kept, ?_, ?_, ?_⟩
    · exact div_places_lt spec _ _
    · exact minExponent_le_places spec _ _
    · omega

/-! ## The bits of a rounded value -/

theorem packComponents_ne_zero_of_exponent {spec : Format} {sign : Sign}
    {exponent : BitVec spec.exponentBits} {mantissa : BitVec spec.mantissaBitsWithoutImplicit}
    (nonzero : exponent ≠ 0) : packComponents spec sign exponent mantissa ≠ 0 := by
  intro packed
  have unpacked := congrArg unpackExponent packed
  rw [unpackExponent_packComponents] at unpacked
  apply nonzero
  rw [unpacked]
  simp [unpackExponent]

theorem packComponents_ne_zero_of_mantissa {spec : Format} {sign : Sign}
    {exponent : BitVec spec.exponentBits} {mantissa : BitVec spec.mantissaBitsWithoutImplicit}
    (nonzero : mantissa ≠ 0) : packComponents spec sign exponent mantissa ≠ 0 := by
  intro packed
  have unpacked := congrArg unpackMantissa packed
  rw [unpackMantissa_packComponents] at unpacked
  apply nonzero
  rw [unpacked]
  simp [unpackMantissa]

theorem packedZero_eq_zero_iff (spec : Format) (sign : Sign) :
    packedZero spec sign = 0 ↔ sign = .positive := by
  have leading : (packedZero spec sign).getLsbD
      (spec.mantissaBitsWithoutImplicit + spec.exponentBits) = (sign.toBitVec).getLsbD 0 := by
    simp [packedZero, packComponents, BitVec.getLsbD_append, BitVec.getElem_append]
  cases sign with
  | positive => simp [packedZero, packComponents, Sign.toBitVec]
  | negative =>
      refine ⟨fun packed => ?_, fun same => by cases same⟩
      rw [packed] at leading
      simp [Sign.toBitVec] at leading

theorem neg_one_ne_zero (spec : Format) : -BitVec.ofNat spec.exponentBits 1 ≠ 0 := by
  intro zero
  have power : 1 < 2 ^ spec.exponentBits := Nat.one_lt_two_pow (Nat.ne_of_gt spec.he)
  have bits := congrArg BitVec.toNat zero
  rw [BitVec.neg_one_eq_allOnes, BitVec.toNat_allOnes] at bits
  simp at bits
  omega

theorem packedInfinity_ne_zero (spec : Format) (sign : Sign) : packedInfinity spec sign ≠ 0 :=
  packComponents_ne_zero_of_exponent (neg_one_ne_zero spec)

theorem packedNaN_ne_zero (spec : Format) : packedNaN spec ≠ 0 :=
  packComponents_ne_zero_of_exponent (neg_one_ne_zero spec)

theorem ofNat_ne_zero {width value : Nat} (positive : 0 < value) (fits : value < 2 ^ width) :
    BitVec.ofNat width value ≠ 0 := by
  intro zero
  have bits := congrArg BitVec.toNat zero
  rw [BitVec.toNat_ofNat, Nat.mod_eq_of_lt fits] at bits
  simp at bits
  omega

/-- A finite value that fits its format is not packed as zero. -/
theorem pack_finite_ne_zero {spec : Format} (sign : Sign) {mantissa : Nat} {exponent : Int}
    (positive : 0 < mantissa) (fits : mantissa < 2 ^ spec.mantissaBits)
    (large : spec.minExponent ≤ exponent) :
    UnpackedFloat.pack spec (.finite sign mantissa exponent positive) ≠ 0 := by
  have biased : 1 ≤ exponent + spec.exponentBias + spec.mantissaBitsWithoutImplicit := by
    have one : 1 ≤ 2 ^ (spec.exponentBits - 1) := Nat.one_le_two_pow
    simp only [Format.minExponent, Format.mantissaBits, Format.exponentBias,
      Int.natCast_sub one] at large ⊢
    push_cast at large ⊢
    omega
  simp only [UnpackedFloat.pack]
  split
  case isTrue => exact packedInfinity_ne_zero spec sign
  case isFalse finite =>
    split
    case isTrue =>
      apply packComponents_ne_zero_of_exponent
      apply ofNat_ne_zero <;> omega
    case isFalse subnormal =>
      apply packComponents_ne_zero_of_mantissa
      apply ofNat_ne_zero positive
      have short : mantissa.log2 < spec.mantissaBits :=
        (Nat.log2_lt (Nat.ne_of_gt positive)).mpr fits
      apply (Nat.log2_lt (Nat.ne_of_gt positive)).mp
      simp only [Format.mantissaBits] at short subnormal
      omega

/-- A rounded value is packed as zero exactly when its mantissa is lost. -/
theorem pack_roundWithAccuracy_eq_zero_iff (spec : Format) (sign : Sign) {mantissa : Nat}
    (exponent : Int) (positive : 0 < mantissa) :
    UnpackedFloat.pack spec (roundWithAccuracy spec sign mantissa exponent .exact) = 0 ↔
      sign = .positive ∧ 2 * mantissa ≤ 2 ^ (spec.minExponent - exponent).toNat := by
  rcases roundWithAccuracy_cases spec sign exponent positive with
    ⟨lost, zero⟩ | ⟨kept, rounded, exponent', pos, finite, fits, large, -⟩
  · rw [zero]
    simp only [UnpackedFloat.pack, packedZero_eq_zero_iff, lost, and_true]
  · rw [finite]
    constructor
    · intro packed
      exact absurd packed (pack_finite_ne_zero sign pos fits large)
    · intro lost
      exact absurd lost.2 kept

/-! ## Products and integers -/

/-- The value vanishes when it is multiplied by a positive factor. -/
def Vanishes (spec : Format) (factor : Nat) (scale : Int) : UnpackedFloat → Prop
  | .zero sign => sign = .positive
  | .finite sign mantissa exponent _ => sign = .positive ∧
      2 * (mantissa * factor) ≤ 2 ^ (spec.minExponent - (exponent + scale)).toNat
  | _ => False

theorem sign_mul_positive (sign : Sign) : sign * .positive = sign := by
  cases sign <;> rfl

theorem pack_mul_eq_zero_iff (spec : Format) {factor : Nat} (scale : Int) (positive : 0 < factor)
    (value : UnpackedFloat) :
    UnpackedFloat.pack spec
        (UnpackedFloat.mul spec value (.finite .positive factor scale positive)) = 0 ↔
      Vanishes spec factor scale value := by
  cases value with
  | infinity sign =>
      simp only [UnpackedFloat.mul, UnpackedFloat.pack, Vanishes, packedInfinity_ne_zero]
  | notANumber => simp only [UnpackedFloat.mul, UnpackedFloat.pack, Vanishes, packedNaN_ne_zero]
  | zero sign =>
      simp only [UnpackedFloat.mul, UnpackedFloat.pack, Vanishes, sign_mul_positive,
        packedZero_eq_zero_iff]
  | finite sign mantissa exponent pos =>
      simp only [UnpackedFloat.mul, Vanishes, sign_mul_positive]
      exact pack_roundWithAccuracy_eq_zero_iff spec sign _ (Nat.mul_pos pos positive)

/-- A rounded magnitude of at least one has an exponent of a normal number. -/
theorem round_cases (spec : Format) (roomy : spec.minExponent ≤ -spec.mantissaBitsWithoutImplicit)
    (sign : Sign) {magnitude : Nat} (positive : 0 < magnitude) :
    ∃ mantissa exponent pos, UnpackedFloat.round spec sign magnitude 0 =
        .finite sign mantissa exponent pos ∧
      -spec.mantissaBitsWithoutImplicit ≤ exponent := by
  have target : -spec.mantissaBitsWithoutImplicit ≤
      spec.targetExponent (totalExponent magnitude 0) := by
    simp only [Format.targetExponent, totalExponent, Format.mantissaBits]
    omega
  simp only [UnpackedFloat.round, decreaseExponent]
  generalize shift_eq : (0 - spec.targetExponent (totalExponent magnitude 0)).toNat = shift
  have shifted : 0 < magnitude <<< shift := by
    rw [Nat.shiftLeft_eq]
    exact Nat.mul_pos positive (Nat.two_pow_pos shift)
  rcases roundWithAccuracy_cases spec sign (0 - (shift : Int)) shifted with
    ⟨lost, -⟩ | ⟨-, mantissa, exponent, pos, finite, -, -, large⟩
  · have least : (spec.minExponent - (0 - (shift : Int))).toNat = 0 := by omega
    rw [least] at lost
    omega
  · refine ⟨mantissa, exponent, pos, finite, ?_⟩
    omega

theorem ofInt_cases (spec : Format) (roomy : spec.minExponent ≤ -spec.mantissaBitsWithoutImplicit)
    (value : Int) :
    value = 0 ∧ ofInt spec value = .zero .positive ∨
      value ≠ 0 ∧ ∃ sign mantissa exponent pos,
        ofInt spec value = .finite sign mantissa exponent pos ∧
          -spec.mantissaBitsWithoutImplicit ≤ exponent := by
  rcases Int.lt_trichotomy value 0 with negative | rfl | positive
  · right
    have magnitude : 0 < (-value).toNat := by omega
    obtain ⟨mantissa, exponent, pos, rounded, large⟩ := round_cases spec roomy .negative magnitude
    refine ⟨by omega, .negative, mantissa, exponent, pos, ?_, large⟩
    rw [← rounded, ofInt, UnpackedFloat.normalize, Int.compare_eq_lt.mpr negative]
  · exact Or.inl ⟨rfl, rfl⟩
  · right
    have magnitude : 0 < value.toNat := by omega
    obtain ⟨mantissa, exponent, pos, rounded, large⟩ := round_cases spec roomy .positive magnitude
    refine ⟨by omega, .positive, mantissa, exponent, pos, ?_, large⟩
    rw [← rounded, ofInt, UnpackedFloat.normalize, Int.compare_eq_gt.mpr positive]

/-! ## Single precision -/

section Single

open Float.Model.Format (binary32)

variable (bits : BitVec binary32.numBits)

theorem toNat_unpackMantissa :
    (unpackMantissa bits).toNat =
      bits.toNat % 2 ^ 23 := by
  simp [unpackMantissa, BitVec.extractLsb_toNat]

theorem toNat_unpackExponent :
    (unpackExponent bits).toNat = bits.toNat / 2 ^ 23 % 2 ^ 8 := by
  simp [unpackExponent, BitVec.extractLsb_toNat, Nat.shiftRight_eq_div_pow]

theorem unpackSign_eq_zero_iff :
    unpackSign bits = 0 ↔ bits.toNat < 2 ^ 31 := by
  have small : bits.toNat < 2 ^ 32 := bits.isLt
  rw [← BitVec.toNat_inj]
  simp [unpackSign, BitVec.extractLsb_toNat, Nat.shiftRight_eq_div_pow]
  omega

/-- By a factor that is not too small only subnormal numbers vanish. -/
theorem vanishes_unpack_iff {factor : Nat} {scale : Int}
    (coarse : 2 ^ (-scale).toNat < 2 ^ 24 * factor) :
    Vanishes binary32 factor scale (UnpackedFloat.unpack binary32 bits) ↔
      2 * (bits.toNat * factor) ≤ 2 ^ (-scale).toNat := by
  have small : bits.toNat < 2 ^ 32 := bits.isLt
  have large : 2 ^ 23 ≤ bits.toNat → ¬ 2 * (bits.toNat * factor) ≤ 2 ^ (-scale).toNat := by
    intro normal
    have more := Nat.mul_le_mul_right factor normal
    omega
  have sign : Sign.ofBitVec (unpackSign bits) = .positive ↔
      bits.toNat < 2 ^ 31 := by
    rw [← unpackSign_eq_zero_iff, Sign.ofBitVec]
    split <;> simp_all
  have mantissa := toNat_unpackMantissa bits
  have exponent := toNat_unpackExponent bits
  simp only [UnpackedFloat.unpack]
  split
  case isTrue special =>
    -- infinity or not a number
    have ones : bits.toNat / 2 ^ 23 % 2 ^ 8 = 2 ^ 8 - 1 := by
      rw [← exponent]
      exact congrArg BitVec.toNat special
    have none : ¬ 2 * (bits.toNat * factor) ≤ 2 ^ (-scale).toNat := large (by omega)
    split <;> simp [Vanishes, none]
  case isFalse =>
    split
    case isTrue subnormal =>
      have zeros : bits.toNat / 2 ^ 23 % 2 ^ 8 = 0 := by
        rw [← exponent]
        exact congrArg BitVec.toNat subnormal
      split
      case isTrue zero =>
        have empty : bits.toNat % 2 ^ 23 = 0 := by
          rw [← mantissa]
          exact congrArg BitVec.toNat zero
        rw [Vanishes, sign]
        constructor
        · intro positive
          have nothing : bits.toNat = 0 := by omega
          simp [nothing]
        · intro lost
          by_contra negative
          exact large (by omega) lost
      case isFalse =>
        rw [Vanishes, sign, mantissa, exponent, zeros]
        have least : (binary32.minExponent - (((0 : Nat) : Int) -
            (binary32.exponentBias + (23 : Nat)) + 1 + scale)).toNat = (-scale).toNat := by
          have bias : binary32.exponentBias = 127 := rfl
          have lowest : binary32.minExponent = -149 := rfl
          omega
        rw [least]
        constructor
        · rintro ⟨positive, lost⟩
          have whole : bits.toNat % 2 ^ 23 = bits.toNat := by omega
          rwa [whole] at lost
        · intro lost
          have under : bits.toNat < 2 ^ 23 := by
            by_contra above
            exact large (by omega) lost
          rw [Nat.mod_eq_of_lt under]
          exact ⟨by omega, lost⟩
    case isFalse normal =>
      have nonzero : bits.toNat / 2 ^ 23 % 2 ^ 8 ≠ 0 := by
        rw [← exponent]
        exact fun zero => normal (BitVec.toNat_inj.mp zero)
      have none : ¬ 2 * (bits.toNat * factor) ≤ 2 ^ (-scale).toNat := large (by omega)
      refine iff_of_false ?_ none
      rintro ⟨-, lost⟩
      have implicit : 2 ^ 23 ≤ (1#1 ++ unpackMantissa bits).toNat := by
        rw [BitVec.toNat_append]
        exact Nat.left_le_or
      have more := Nat.mul_le_mul_right factor implicit
      have least : (binary32.minExponent - ((unpackExponent bits).toNat -
          (binary32.exponentBias + (23 : Nat)) + scale)).toNat ≤ (-scale).toNat := by
        have bias : binary32.exponentBias = 127 := rfl
        have lowest : binary32.minExponent = -149 := rfl
        omega
      have fewer := Nat.pow_le_pow_right Nat.two_pos least
      omega

end Single

end Rounding

end SslRosBridge.Library
