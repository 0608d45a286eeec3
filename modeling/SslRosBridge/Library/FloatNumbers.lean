import SslRosBridge.Library.Nearest
import SslRosBridge.Library.Rounding

/-!
# The numbers of floats

The values of the floating point model of the core library stand for rational
numbers.  A mantissa with residual bits is rounded as its number is rounded to
the grid of the format.
-/

open Float.Model (Format UnpackedFloat totalExponent)
open Float.Model.UnpackedFloat hiding pack mul round normalize

namespace SslRosBridge.Library

namespace Rounding

/-- A format without its largest number. -/
def grid (spec : Format) : Grid where
  digits := spec.mantissaBits
  least := spec.minExponent
  positive := Nat.add_pos_left Nat.one_pos _

/-- What a mantissa with its sign and exponent stands for. -/
def scaled (sign : Sign) (mantissa : Nat) (exponent : Int) : ℚ :=
  (sign.apply mantissa : Int) * 2 ^ exponent

def number : UnpackedFloat → Option ℚ
  | .zero _ => some 0
  | .finite sign mantissa exponent _ => some (scaled sign mantissa exponent)
  | _ => none

/-! ## Scaled mantissas -/

theorem scaled_negative (mantissa : Nat) (exponent : Int) :
    scaled .negative mantissa exponent = -scaled .positive mantissa exponent := by
  simp [scaled, Sign.apply]

theorem scaled_positive (mantissa : Nat) (exponent : Int) :
    scaled .positive mantissa exponent = mantissa * 2 ^ exponent := by
  simp [scaled, Sign.apply]

theorem abs_scaled (sign : Sign) (mantissa : Nat) (exponent : Int) :
    |scaled sign mantissa exponent| = mantissa * 2 ^ exponent := by
  have nonneg : (0 : ℚ) ≤ mantissa * 2 ^ exponent :=
    mul_nonneg (Nat.cast_nonneg _) (zpow_pos two_pos _).le
  cases sign with
  | negative => rw [scaled_negative, abs_neg, scaled_positive, abs_of_nonneg nonneg]
  | positive => rw [scaled_positive, abs_of_nonneg nonneg]

theorem scaled_mul_power (sign : Sign) (mantissa shift : Nat) (exponent : Int) :
    scaled sign (mantissa * 2 ^ shift) exponent = scaled sign mantissa (exponent + shift) := by
  have power : (2 : ℚ) ^ (exponent + shift) = 2 ^ exponent * 2 ^ shift := by
    rw [zpow_add₀ two_ne_zero, zpow_natCast]
  cases sign with
  | negative =>
      rw [scaled_negative, scaled_negative, scaled_positive, scaled_positive, power]
      push_cast
      ring
  | positive =>
      rw [scaled_positive, scaled_positive, power]
      push_cast
      ring

theorem log_scaled (sign : Sign) {mantissa : Nat} (exponent : Int) (positive : 0 < mantissa) :
    Int.log 2 |scaled sign mantissa exponent| = mantissa.log2 + exponent := by
  rw [abs_scaled, log_mul_zpow (Nat.cast_pos.mpr positive), Int.log_natCast, Nat.log2_eq_log_two]

theorem exponent_scaled (spec : Format) (sign : Sign) {mantissa : Nat} (exponent : Int)
    (positive : 0 < mantissa) :
    (grid spec).exponent (scaled sign mantissa exponent) =
      spec.targetExponent (totalExponent mantissa exponent) := by
  rw [Grid.exponent, log_scaled sign exponent positive, Format.targetExponent, totalExponent,
    add_right_comm]
  rfl

/-! ## Residual bits -/

theorem roundedMantissa_mk (mantissa : Nat) (roundBit stickyBit : Bool) :
    (⟨mantissa, roundBit, stickyBit⟩ : ExtendedMantissa).roundedMantissa =
      if roundBit then (if stickyBit then mantissa + 1 else mantissa + mantissa % 2)
      else mantissa := by
  cases roundBit <;> cases stickyBit <;> rfl

theorem le_roundedMantissa (extended : ExtendedMantissa) :
    extended.mantissa ≤ extended.roundedMantissa := by
  obtain ⟨mantissa, roundBit, stickyBit⟩ := extended
  rw [roundedMantissa_mk]
  change mantissa ≤ _
  split_ifs <;> omega

theorem roundedMantissa_le (extended : ExtendedMantissa) :
    extended.roundedMantissa ≤ extended.mantissa + 1 := by
  obtain ⟨mantissa, roundBit, stickyBit⟩ := extended
  rw [roundedMantissa_mk]
  change _ ≤ mantissa + 1
  split_ifs <;> omega

/-- The mantissa is the whole part of a number, and the residual bits compare
the rest with a half. -/
structure Represents (extended : ExtendedMantissa) (exact : ℚ) : Prop where
  whole : ⌊exact⌋ = extended.mantissa
  round : extended.roundBit = true ↔ 1 / 2 ≤ Int.fract exact
  sticky : extended.stickyBit = true ↔ Int.fract exact ≠ 0 ∧ Int.fract exact ≠ 1 / 2

namespace Represents

variable {extended : ExtendedMantissa} {exact : ℚ}

theorem of_nat (mantissa : Nat) :
    Represents (.ofMantissaAndAccuracy mantissa .exact) mantissa where
  whole := Int.floor_natCast mantissa
  round := by simp [ExtendedMantissa.ofMantissaAndAccuracy]
  sticky := by simp [ExtendedMantissa.ofMantissaAndAccuracy]

theorem of_fraction (number : Nat) {divisor : Nat} (positive : 0 < divisor) :
    Represents (.ofMantissaAndAccuracy (number / divisor)
      (accuracyOfFraction (number % divisor) divisor)) ((number : ℚ) / divisor) := by
  have divides : (0 : ℚ) < divisor := Nat.cast_pos.mpr positive
  have floor : ⌊(number : ℚ) / divisor⌋ = ((number / divisor : Nat) : Int) := by
    rw [Int.floor_div_natCast, Int.floor_natCast, Int.natCast_div]
  have fract : Int.fract ((number : ℚ) / divisor) = ((number % divisor : Nat) : ℚ) / divisor :=
    Int.fract_div_natCast_eq_div_natCast_mod
  generalize number % divisor = rest at fract ⊢
  rw [accuracyOfFraction]
  rcases Nat.eq_zero_or_pos rest with rfl | some_rest
  · rw [if_pos rfl]
    rw [Nat.cast_zero, zero_div] at fract
    exact ⟨floor, by simp [ExtendedMantissa.ofMantissaAndAccuracy, fract],
      by simp [ExtendedMantissa.ofMantissaAndAccuracy, fract]⟩
  · have nonzero : Int.fract ((number : ℚ) / divisor) ≠ 0 := by
      rw [fract]
      exact (div_pos (Nat.cast_pos.mpr some_rest) divides).ne'
    rw [if_neg some_rest.ne']
    rcases Nat.lt_trichotomy (2 * rest) divisor with below | half | above
    · have less : Int.fract ((number : ℚ) / divisor) < 1 / 2 := by
        rw [fract, div_lt_div_iff₀ divides two_pos, one_mul, mul_comm]
        exact_mod_cast below
      rw [Nat.compare_eq_lt.mpr below]
      exact ⟨floor, iff_of_false Bool.false_ne_true (not_le.mpr less),
        iff_of_true rfl ⟨nonzero, less.ne⟩⟩
    · have same : Int.fract ((number : ℚ) / divisor) = 1 / 2 := by
        rw [fract, div_eq_div_iff divides.ne' two_ne_zero, one_mul, mul_comm]
        exact_mod_cast half
      rw [Nat.compare_eq_eq.mpr half]
      exact ⟨floor, iff_of_true rfl same.ge,
        iff_of_false Bool.false_ne_true fun both => both.2 same⟩
    · have more : 1 / 2 < Int.fract ((number : ℚ) / divisor) := by
        rw [fract, div_lt_div_iff₀ two_pos divides, one_mul, mul_comm]
        exact_mod_cast above
      rw [Nat.compare_eq_gt.mpr above]
      exact ⟨floor, iff_of_true rfl more.le, iff_of_true rfl ⟨nonzero, more.ne'⟩⟩

theorem roundedMantissa (represents : Represents extended exact) :
    (extended.roundedMantissa : ℤ) = roundEven exact := by
  obtain ⟨mantissa, roundBit, stickyBit⟩ := extended
  obtain ⟨whole, round, sticky⟩ := represents
  simp only at whole round sticky
  rw [roundedMantissa_mk, roundEven, whole]
  cases roundBit with
  | false =>
      have below : Int.fract exact < 1 / 2 :=
        not_le.mp fun above => Bool.noConfusion (round.mpr above)
      rw [if_pos below]
      rfl
  | true =>
      have above := round.mp rfl
      rw [if_neg (not_lt.mpr above)]
      cases stickyBit with
      | false =>
          have half : ¬ 1 / 2 < Int.fract exact := fun more =>
            Bool.noConfusion (sticky.mpr ⟨by linarith, more.ne'⟩)
          rw [if_neg half]
          rfl
      | true =>
          have more : 1 / 2 < Int.fract exact := lt_of_le_of_ne above (sticky.mp rfl).2.symm
          rw [if_pos more]
          rfl

/-- A bit that is lost makes the rest nonzero. -/
theorem lost (represents : Represents extended exact) :
    (extended.roundBit || extended.stickyBit) = true ↔ Int.fract exact ≠ 0 := by
  rw [Bool.or_eq_true, represents.round, represents.sticky]
  constructor
  · rintro (above | ⟨some_rest, -⟩)
    · linarith
    · exact some_rest
  · intro some_rest
    rcases eq_or_ne (Int.fract exact) (1 / 2) with half | other
    · exact Or.inl half.ge
    · exact Or.inr ⟨some_rest, other⟩

theorem shiftRightOne (represents : Represents extended exact) :
    Represents extended.shiftRightOne (exact / 2) := by
  have lost := represents.lost
  obtain ⟨mantissa, roundBit, stickyBit⟩ := extended
  obtain ⟨quotient, bit, binary, rfl⟩ : ∃ quotient bit, bit < 2 ∧ mantissa = 2 * quotient + bit :=
    ⟨mantissa / 2, mantissa % 2, Nat.mod_lt _ Nat.two_pos, (Nat.div_add_mod mantissa 2).symm⟩
  obtain ⟨floor, fract⟩ := floor_half represents.whole binary
  have nonneg := Int.fract_nonneg exact
  have less := Int.fract_lt_one exact
  have shifted : (⟨2 * quotient + bit, roundBit, stickyBit⟩ : ExtendedMantissa).shiftRightOne =
      ⟨quotient, bit != 0, roundBit || stickyBit⟩ := by
    simp only [ExtendedMantissa.shiftRightOne, ExtendedMantissa.mk.injEq, and_true]
    have remainder : (2 * quotient + bit) % 2 = bit := by omega
    rw [remainder]
    exact ⟨by omega, rfl⟩
  rw [shifted]
  rcases Nat.le_one_iff_eq_zero_or_eq_one.mp (Nat.le_of_lt_succ binary) with rfl | rfl
  · rw [Nat.cast_zero, zero_add] at fract
    refine ⟨floor, iff_of_false Bool.false_ne_true ?_, lost.trans ?_⟩
    · rw [fract]
      linarith
    · rw [fract]
      constructor
      · intro some_rest
        exact ⟨fun zero => some_rest (by linarith), fun half => by linarith⟩
      · rintro ⟨some_rest, -⟩ zero
        exact some_rest (by linarith)
  · rw [Nat.cast_one] at fract
    refine ⟨floor, iff_of_true rfl ?_, lost.trans ?_⟩
    · rw [fract]
      linarith
    · rw [fract]
      constructor
      · intro some_rest
        exact ⟨fun zero => by linarith, fun half => some_rest (by linarith)⟩
      · rintro ⟨-, other⟩ zero
        exact other (by linarith)

theorem shiftRight (represents : Represents extended exact) (shift : Nat) :
    Represents (extended >>> shift) (exact / 2 ^ shift) := by
  induction shift with
  | zero =>
      rw [pow_zero, div_one]
      exact represents
  | succ shift ih =>
      rw [pow_succ, ← div_div]
      exact ih.shiftRightOne

end Represents

/-! ## Rounding -/

theorem mantissa_shiftRight_extended (extended : ExtendedMantissa) (shift : Nat) :
    (extended >>> shift).mantissa = extended.mantissa / 2 ^ shift := by
  induction shift with
  | zero => exact (Nat.div_one _).symm
  | succ shift ih =>
      rw [Nat.pow_succ, ← Nat.div_div_eq_div_mul, ← ih]
      rfl

theorem mantissa_ofMantissaAndAccuracy (mantissa : Nat) (accuracy : Accuracy) :
    (ExtendedMantissa.ofMantissaAndAccuracy mantissa accuracy).mantissa = mantissa := by
  cases accuracy with
  | exact => rfl
  | inexact order => cases order <;> rfl

/-- The digits of an exact number are those of its mantissa, if it has some. -/
theorem Represents.exponent {mantissa : Nat} {accuracy : Accuracy} {exact : ℚ}
    (represents : Represents (.ofMantissaAndAccuracy mantissa accuracy) exact) (spec : Format)
    (positive : 0 < exact) {exponent : Int}
    (enough : 0 < mantissa ∨ exponent ≤ spec.minExponent) :
    (grid spec).exponent (exact * 2 ^ exponent) =
      spec.targetExponent (totalExponent mantissa exponent) := by
  have whole := represents.whole
  rw [mantissa_ofMantissaAndAccuracy] at whole
  have moved : 0 < exact * 2 ^ exponent := mul_pos positive (zpow_pos two_pos _)
  have digits : spec.mantissaBits = (grid spec).digits := rfl
  have least : spec.minExponent = (grid spec).least := rfl
  rw [Grid.exponent, abs_of_pos moved, log_mul_zpow positive, Format.targetExponent,
    totalExponent, digits, least]
  rcases Nat.eq_zero_or_pos mantissa with rfl | some_digits
  · have small : exact < ((2 : ℕ) : ℚ) ^ (0 : ℤ) := by
      rw [zpow_zero]
      exact Int.floor_eq_zero_iff.mp whole |>.2
    have log := (Int.lt_zpow_iff_log_lt one_lt_two positive).mp small
    have lowest : exponent ≤ spec.minExponent := enough.resolve_left (Nat.lt_irrefl 0)
    have digits' := (grid spec).positive
    rw [Nat.log2_zero]
    omega
  · have large : 1 ≤ exact := by
      have one : (1 : ℤ) ≤ ⌊exact⌋ := by
        rw [whole]
        exact_mod_cast some_digits
      exact_mod_cast Int.le_floor.mp one
    have log : Int.log 2 exact = mantissa.log2 := by
      rw [Int.log_of_one_le_right 2 large, ← Int.floor_toNat, whole, Int.toNat_natCast,
        Nat.log2_eq_log_two]
    rw [log, add_right_comm]

/-- The mantissa after the first shift of a rounding. -/
def roundedFirst (spec : Format) (mantissa : Nat) (exponent : Int) (accuracy : Accuracy) : Nat :=
  (ExtendedMantissa.ofMantissaAndAccuracy mantissa accuracy >>>
    places spec mantissa exponent).roundedMantissa

section First

variable (spec : Format) (mantissa : Nat) (exponent : Int) (accuracy : Accuracy)

/-- A rounding may need one digit more, but not two. -/
theorem roundedFirst_le : roundedFirst spec mantissa exponent accuracy ≤ 2 ^ spec.mantissaBits := by
  have fits := div_places_lt spec mantissa exponent
  have rounded := roundedMantissa_le (ExtendedMantissa.ofMantissaAndAccuracy mantissa accuracy >>>
    places spec mantissa exponent)
  rw [mantissa_shiftRight_extended, mantissa_ofMantissaAndAccuracy] at rounded
  exact rounded.trans fits

theorem div_le_roundedFirst : mantissa / 2 ^ places spec mantissa exponent ≤
    roundedFirst spec mantissa exponent accuracy := by
  have rounded := le_roundedMantissa (ExtendedMantissa.ofMantissaAndAccuracy mantissa accuracy >>>
    places spec mantissa exponent)
  rwa [mantissa_shiftRight_extended, mantissa_ofMantissaAndAccuracy] at rounded

end First

theorem places_of_fits {spec : Format} {mantissa : Nat} {exponent : Int}
    (fits : mantissa < 2 ^ spec.mantissaBits) (least : spec.minExponent ≤ exponent) :
    places spec mantissa exponent = 0 := by
  have short : mantissa.log2 + 1 ≤ spec.mantissaBits := by
    rcases Nat.eq_zero_or_pos mantissa with rfl | positive
    · exact Nat.le_add_right 1 _
    · exact (Nat.log2_lt positive.ne').mpr fits
  simp only [places, Format.targetExponent, totalExponent]
  omega

theorem places_carried {spec : Format} {exponent : Int} (least : spec.minExponent ≤ exponent) :
    places spec (2 ^ spec.mantissaBits) exponent = 1 := by
  simp only [places, Format.targetExponent, totalExponent, Nat.log2_two_pow]
  omega

theorem two_pow_mantissaBits (spec : Format) :
    2 ^ spec.mantissaBits = 2 ^ spec.mantissaBitsWithoutImplicit * 2 := by
  rw [Format.mantissaBits, Nat.add_comm, Nat.pow_succ]

/-- A mantissa that the first shift rounds up to one digit more is shifted again. -/
theorem roundWithAccuracy_eq (spec : Format) (sign : Sign) (mantissa : Nat) (exponent : Int)
    (accuracy : Accuracy) :
    roundedFirst spec mantissa exponent accuracy = 0 ∧
        roundWithAccuracy spec sign mantissa exponent accuracy = .zero sign ∨
      ∃ rounded exponent' positive,
        roundWithAccuracy spec sign mantissa exponent accuracy =
          .finite sign rounded exponent' positive ∧
        ((roundedFirst spec mantissa exponent accuracy < 2 ^ spec.mantissaBits ∧
            rounded = roundedFirst spec mantissa exponent accuracy ∧
            exponent' = exponent + places spec mantissa exponent) ∨
          (roundedFirst spec mantissa exponent accuracy = 2 ^ spec.mantissaBits ∧
            rounded = 2 ^ spec.mantissaBitsWithoutImplicit ∧
            exponent' = exponent + places spec mantissa exponent + 1)) := by
  have least := minExponent_le_places spec mantissa exponent
  have kept := div_places_eq_zero_iff (roundedFirst spec mantissa exponent accuracy) least
  have shifts : roundWithAccuracy spec sign mantissa exponent accuracy =
      if lost : roundedFirst spec mantissa exponent accuracy / 2 ^ places spec
          (roundedFirst spec mantissa exponent accuracy)
          (exponent + places spec mantissa exponent) = 0
      then .zero sign
      else .finite sign _ (exponent + places spec mantissa exponent + places spec
        (roundedFirst spec mantissa exponent accuracy)
        (exponent + places spec mantissa exponent)) (Nat.pos_of_ne_zero lost) := by
    simp only [← mantissa_shiftRight]
    rfl
  rw [shifts]
  rcases Nat.eq_zero_or_pos (roundedFirst spec mantissa exponent accuracy) with zero | positive
  · exact Or.inl ⟨zero, dif_pos (kept.mpr zero)⟩
  · refine Or.inr ⟨_, _, _, dif_neg fun lost => positive.ne' (kept.mp lost), ?_⟩
    rcases (roundedFirst_le spec mantissa exponent accuracy).lt_or_eq with fits | carried
    · refine Or.inl ⟨fits, ?_, ?_⟩
      · rw [places_of_fits fits least, Nat.pow_zero, Nat.div_one]
      · rw [places_of_fits fits least, Nat.cast_zero, add_zero]
    · refine Or.inr ⟨carried, ?_, ?_⟩
      · rw [carried, places_carried least, two_pow_mantissaBits, pow_one,
          Nat.mul_div_cancel _ Nat.two_pos]
      · rw [carried, places_carried least]
        rfl

/-- The second shift does not change what the float stands for. -/
theorem number_roundedFirst (spec : Format) (sign : Sign) (mantissa : Nat) (exponent : Int)
    (accuracy : Accuracy) :
    number (roundWithAccuracy spec sign mantissa exponent accuracy) =
      some (scaled sign (roundedFirst spec mantissa exponent accuracy)
        (exponent + places spec mantissa exponent)) := by
  rcases roundWithAccuracy_eq spec sign mantissa exponent accuracy with
    ⟨zero, value⟩ | ⟨_, _, _, value, ⟨fits, rfl, rfl⟩ | ⟨carried, rfl, rfl⟩⟩
  · rw [value, zero, number, scaled]
    cases sign <;> simp [Sign.apply]
  · rw [value]
    rfl
  · rw [value, carried, two_pow_mantissaBits, number]
    exact congrArg some (scaled_mul_power sign _ 1 _).symm

/-- Rounding an exact number that has as many digits as the mantissa. -/
theorem number_of_represents {spec : Format} (sign : Sign) {mantissa : Nat} {exponent : Int}
    {accuracy : Accuracy} {exact : ℚ}
    (represents : Represents (.ofMantissaAndAccuracy mantissa accuracy) exact)
    (digits : (grid spec).exponent (exact * 2 ^ exponent) =
      spec.targetExponent (totalExponent mantissa exponent))
    (fine : exponent ≤ spec.targetExponent (totalExponent mantissa exponent)) :
    number (roundWithAccuracy spec sign mantissa exponent accuracy) =
      some ((grid spec).nearest ((sign.apply 1 : Int) * (exact * 2 ^ exponent))) := by
  have target : exponent + places spec mantissa exponent =
      spec.targetExponent (totalExponent mantissa exponent) := by
    simp only [places]
    omega
  have quotient : exact * 2 ^ exponent / 2 ^ spec.targetExponent (totalExponent mantissa exponent) =
      exact / 2 ^ places spec mantissa exponent := by
    rw [← target, zpow_add₀ two_ne_zero, zpow_natCast]
    field_simp
  have rounded := (represents.shiftRight (places spec mantissa exponent)).roundedMantissa
  have nearest : (grid spec).nearest (exact * 2 ^ exponent) =
      scaled .positive (roundedFirst spec mantissa exponent accuracy)
        (exponent + places spec mantissa exponent) := by
    rw [Grid.nearest, Grid.unit, digits, quotient, ← rounded, target, scaled_positive,
      Int.cast_natCast]
    rfl
  rw [number_roundedFirst]
  cases sign with
  | negative =>
      rw [scaled_negative, ← nearest, ← Grid.nearest_neg]
      simp [Sign.apply]
  | positive =>
      rw [← nearest]
      simp [Sign.apply]

/-- A float with no more digits than the format is kept. -/
theorem nearest_of_coarse {spec : Format} (sign : Sign) {mantissa : Nat} {exponent : Int}
    (positive : 0 < mantissa)
    (coarse : spec.targetExponent (totalExponent mantissa exponent) ≤ exponent) :
    (grid spec).nearest (scaled sign mantissa exponent) = scaled sign mantissa exponent := by
  have kept : (grid spec).nearest (scaled .positive mantissa exponent) =
      scaled .positive mantissa exponent := by
    obtain ⟨n, multiple⟩ := (grid spec).zpow_multiple
      ((exponent_scaled spec .positive exponent positive).trans_le coarse)
    apply (grid spec).nearest_of_multiple (n := mantissa * n)
    rw [Int.cast_mul, Int.cast_natCast, mul_assoc, ← multiple, scaled_positive]
  cases sign with
  | negative => rw [scaled_negative, Grid.nearest_neg, kept]
  | positive => exact kept

theorem number_roundWithAccuracy (spec : Format) (sign : Sign) {mantissa : Nat} (exponent : Int)
    (positive : 0 < mantissa) :
    number (roundWithAccuracy spec sign mantissa exponent .exact) =
      some ((grid spec).nearest (scaled sign mantissa exponent)) := by
  rcases le_total exponent (spec.targetExponent (totalExponent mantissa exponent)) with
    fine | coarse
  · have digits := exponent_scaled spec .positive exponent positive
    rw [scaled_positive] at digits
    rw [number_of_represents sign (Represents.of_nat mantissa) digits fine]
    cases sign with
    | negative => simp [scaled, Sign.apply]
    | positive => simp [scaled, Sign.apply]
  · have still : places spec mantissa exponent = 0 := by
      simp only [places]
      omega
    have same : roundedFirst spec mantissa exponent .exact = mantissa := by
      rw [roundedFirst, still]
      rfl
    rw [number_roundedFirst, same, still, Nat.cast_zero, add_zero,
      nearest_of_coarse sign positive coarse]

/-! ## Canonical floats -/

/-- What the format holds but for its largest exponent. -/
structure Canonical (spec : Format) (mantissa : Nat) (exponent : Int) : Prop where
  fits : mantissa < 2 ^ spec.mantissaBits
  least : spec.minExponent ≤ exponent
  full : 2 ^ spec.mantissaBitsWithoutImplicit ≤ mantissa ∨ exponent = spec.minExponent

/-- Rounding is canonical unless it would have to add digits. -/
theorem roundWithAccuracy_canonical {spec : Format} (sign : Sign) {mantissa : Nat} {exponent : Int}
    (accuracy : Accuracy)
    (fine : exponent ≤ spec.targetExponent (totalExponent mantissa exponent)) :
    roundWithAccuracy spec sign mantissa exponent accuracy = .zero sign ∨
      ∃ rounded exponent' pos,
        roundWithAccuracy spec sign mantissa exponent accuracy =
          .finite sign rounded exponent' pos ∧
        Canonical spec rounded exponent' ∧
        exponent' ≤ spec.targetExponent (totalExponent mantissa exponent) + 1 := by
  have target : exponent + places spec mantissa exponent =
      spec.targetExponent (totalExponent mantissa exponent) := by
    simp only [places]
    omega
  have least := minExponent_le_places spec mantissa exponent
  rcases roundWithAccuracy_eq spec sign mantissa exponent accuracy with
    ⟨-, value⟩ | ⟨rounded, exponent', pos, value, ⟨fits, rfl, rfl⟩ | ⟨-, rfl, rfl⟩⟩
  · exact Or.inl value
  · refine Or.inr ⟨_, _, pos, value, ⟨fits, least, ?_⟩, by omega⟩
    by_cases subnormal : exponent + places spec mantissa exponent = spec.minExponent
    · exact Or.inr subnormal
    · left
      have shift : mantissa.log2 = spec.mantissaBitsWithoutImplicit +
          places spec mantissa exponent := by
        simp only [Format.targetExponent, totalExponent, Format.mantissaBits] at target
        omega
      refine le_trans ?_ (div_le_roundedFirst spec mantissa exponent accuracy)
      rw [Nat.le_div_iff_mul_le (Nat.two_pow_pos _), ← Nat.pow_add, ← shift]
      apply Nat.log2_self_le
      rintro rfl
      have some_digits := spec.hm
      rw [Nat.log2_zero] at shift
      omega
  · refine Or.inr ⟨_, _, pos, value, ⟨?_, by omega, Or.inl le_rfl⟩, by omega⟩
    rw [two_pow_mantissaBits]
    have some_power := Nat.two_pow_pos spec.mantissaBitsWithoutImplicit
    omega

end Rounding

end SslRosBridge.Library
