import Mathlib.Algebra.Order.Floor.Ring
import Mathlib.Data.Int.Log
import Mathlib.Tactic.Linarith
import Mathlib.Tactic.Positivity
import Mathlib.Tactic.Ring

/-!
# Rounding to the nearest

A floating point format without a largest number is a grid whose unit grows
with the number that is rounded.  Rounding to it is monotone, odd, and off by
at most half a unit.
-/

namespace SslRosBridge.Library

variable {K : Type*} [Field K] [LinearOrder K] [IsStrictOrderedRing K] [FloorRing K]

/-! ## Integers -/

/-- The nearest integer, and of two the even one. -/
def roundEven (x : K) : ℤ :=
  if Int.fract x < 1 / 2 then ⌊x⌋
  else if 1 / 2 < Int.fract x then ⌊x⌋ + 1
  else ⌊x⌋ + ⌊x⌋ % 2

@[simp] theorem roundEven_intCast (n : ℤ) : roundEven (n : K) = n := by
  simp [roundEven]

@[simp] theorem roundEven_zero : roundEven (0 : K) = 0 := by
  simpa using roundEven_intCast (K := K) 0

omit [IsStrictOrderedRing K] in
theorem floor_le_roundEven (x : K) : ⌊x⌋ ≤ roundEven x := by
  unfold roundEven
  split_ifs <;> omega

omit [IsStrictOrderedRing K] in
theorem roundEven_le_floor (x : K) : roundEven x ≤ ⌊x⌋ + 1 := by
  unfold roundEven
  split_ifs <;> omega

theorem roundEven_mono {x y : K} (le : x ≤ y) : roundEven x ≤ roundEven y := by
  rcases (Int.floor_le_floor le).eq_or_lt with same | less
  · have fracts : Int.fract x ≤ Int.fract y := by
      unfold Int.fract
      rw [same]
      linarith
    unfold roundEven
    rw [same]
    split_ifs <;> first | omega | linarith
  · calc roundEven x ≤ ⌊x⌋ + 1 := roundEven_le_floor x
      _ ≤ ⌊y⌋ := less
      _ ≤ roundEven y := floor_le_roundEven y

theorem abs_roundEven_sub_le (x : K) : |(roundEven x : K) - x| ≤ 1 / 2 := by
  have parts := Int.floor_add_fract x
  have nonneg := Int.fract_nonneg x
  unfold roundEven
  split_ifs with below above
  · rw [abs_le]
    constructor <;> linarith
  · rw [abs_le]
    have less := Int.fract_lt_one x
    push_cast
    constructor <;> linarith
  · rw [abs_le]
    rcases Int.emod_two_eq_zero_or_one ⌊x⌋ with even | odd
    · rw [even]
      push_cast
      constructor <;> linarith
    · rw [odd]
      push_cast
      constructor <;> linarith

theorem roundEven_neg (x : K) : roundEven (-x) = -roundEven x := by
  by_cases whole : Int.fract x = 0
  · have integer : x = ⌊x⌋ := by
      have parts := Int.floor_add_fract x
      rw [whole, add_zero] at parts
      exact parts.symm
    rw [integer, ← Int.cast_neg, roundEven_intCast, roundEven_intCast]
  · have fract : Int.fract (-x) = 1 - Int.fract x := Int.fract_neg whole
    have floor : ⌊-x⌋ = -⌊x⌋ - 1 := by
      have parts := Int.floor_add_fract x
      have parts' := Int.floor_add_fract (-x)
      have cast : ((⌊-x⌋ : ℤ) : K) = ((-⌊x⌋ - 1 : ℤ) : K) := by
        push_cast
        linarith
      exact Int.cast_injective cast
    unfold roundEven
    rw [fract, floor]
    split_ifs <;> first | omega | linarith

/-- Halving moves the last digit of the whole part behind the point. -/
theorem floor_half {x : K} {quotient bit : ℕ} (whole : ⌊x⌋ = ((2 * quotient + bit : ℕ) : ℤ))
    (binary : bit < 2) : ⌊x / 2⌋ = quotient ∧ Int.fract (x / 2) = (bit + Int.fract x) / 2 := by
  have parts := Int.floor_add_fract x
  have nonneg := Int.fract_nonneg x
  have less := Int.fract_lt_one x
  have small : (bit : K) ≤ 1 := by exact_mod_cast Nat.le_of_lt_succ binary
  have positive : (0 : K) ≤ bit := Nat.cast_nonneg bit
  rw [whole] at parts
  push_cast at parts
  have floor : ⌊x / 2⌋ = quotient := by
    rw [Int.floor_eq_iff, Int.cast_natCast]
    constructor <;> linarith
  have parts' := Int.floor_add_fract (x / 2)
  rw [floor, Int.cast_natCast] at parts'
  exact ⟨floor, by linarith⟩

/-- The integer next to a number on the side of zero. -/
def truncated (x : K) : ℤ := if 0 ≤ x then ⌊x⌋ else ⌈x⌉

theorem abs_truncated_sub_lt (x : K) : |(truncated x : K) - x| < 1 := by
  rw [truncated, abs_lt]
  split_ifs with nonneg
  · have below := Int.floor_le x
    have above := Int.lt_floor_add_one x
    constructor <;> linarith
  · have above := Int.le_ceil x
    have below := Int.ceil_lt_add_one x
    constructor <;> linarith

omit [IsStrictOrderedRing K] in
theorem truncated_mono {x y : K} (le : x ≤ y) : truncated x ≤ truncated y := by
  rw [truncated, truncated]
  split_ifs with nonneg nonneg' nonneg'
  · exact Int.floor_mono le
  · exact absurd (nonneg.trans le) nonneg'
  · have below : ⌈x⌉ ≤ 0 := Int.ceil_le.mpr (by exact_mod_cast (not_le.mp nonneg).le)
    exact below.trans (Int.floor_nonneg.mpr nonneg')
  · exact Int.ceil_mono le

/-! ## Grids -/

theorem log_mul_zpow {x : K} (positive : 0 < x) (shift : ℤ) :
    Int.log 2 (x * 2 ^ shift) = Int.log 2 x + shift := by
  have power : (0 : K) < 2 ^ shift := zpow_pos two_pos _
  have moved : 0 < x * 2 ^ shift := mul_pos positive power
  have below : ((2 : ℕ) : K) ^ (Int.log 2 x + shift) ≤ x * 2 ^ shift := by
    rw [Nat.cast_ofNat, zpow_add₀ two_ne_zero]
    exact mul_le_mul_of_nonneg_right (Int.zpow_log_le_self one_lt_two positive) power.le
  have above : x * 2 ^ shift < ((2 : ℕ) : K) ^ (Int.log 2 x + 1 + shift) := by
    rw [Nat.cast_ofNat, zpow_add₀ two_ne_zero]
    exact mul_lt_mul_of_pos_right (Int.lt_zpow_succ_log_self one_lt_two x) power
  have least := (Int.zpow_le_iff_le_log one_lt_two moved).mp below
  have greatest := (Int.lt_zpow_iff_log_lt one_lt_two moved).mp above
  omega

/-- The digits of a number and the least exponent of a unit. -/
structure Grid where
  digits : ℕ
  least : ℤ
  positive : 0 < digits

namespace Grid

variable (grid : Grid)

/-- The exponent of the last of the digits of a number. -/
def exponent (x : K) : ℤ := max (Int.log 2 |x| + 1 - grid.digits) grid.least

def unit (x : K) : K := 2 ^ grid.exponent x

/-- The nearest multiple of the unit. -/
def nearest (x : K) : K := roundEven (x / grid.unit x) * grid.unit x

theorem unit_pos (x : K) : 0 < grid.unit x := zpow_pos two_pos _

theorem exponent_mono {x y : K} (nonzero : x ≠ 0) (le : |x| ≤ |y|) :
    grid.exponent x ≤ grid.exponent y := by
  have logs := Int.log_mono_right (b := 2) (abs_pos.mpr nonzero) le
  unfold exponent
  omega

@[simp] theorem nearest_zero : grid.nearest (0 : K) = 0 := by
  simp [nearest]

theorem nearest_neg (x : K) : grid.nearest (-x) = -grid.nearest x := by
  have same : grid.unit (-x) = grid.unit x := by
    rw [unit, unit, exponent, exponent, abs_neg]
  rw [nearest, nearest, same, neg_div, roundEven_neg, Int.cast_neg, neg_mul]

theorem nearest_of_multiple {x : K} {n : ℤ} (multiple : x = n * grid.unit x) :
    grid.nearest x = x := by
  have quotient : x / grid.unit x = n := (div_eq_iff (grid.unit_pos x).ne').mpr multiple
  rw [nearest, quotient, roundEven_intCast, ← multiple]

/-- The powers of two from the unit on are multiples of it. -/
theorem zpow_multiple {x : K} {exponent : ℤ} (le : grid.exponent x ≤ exponent) :
    ∃ n : ℤ, (2 : K) ^ exponent = n * grid.unit x := by
  have nonzero : (2 : K) ≠ 0 := two_pos.ne'
  refine ⟨2 ^ (exponent - grid.exponent x).toNat, ?_⟩
  rw [unit, Int.cast_pow, Int.cast_ofNat, ← zpow_natCast, ← zpow_add₀ nonzero]
  congr 1
  omega

/-! ### Order -/

theorem nearest_le_of_multiple {x bound : K} {n : ℤ} (multiple : bound = n * grid.unit x)
    (le : x ≤ bound) : grid.nearest x ≤ bound := by
  have unit := grid.unit_pos x
  have rounded : roundEven (x / grid.unit x) ≤ n := by
    rw [← roundEven_intCast (K := K) n]
    apply roundEven_mono
    rw [div_le_iff₀ unit, ← multiple]
    exact le
  rw [nearest, multiple]
  exact mul_le_mul_of_nonneg_right (Int.cast_le.mpr rounded) unit.le

theorem le_nearest_of_multiple {x bound : K} {n : ℤ} (multiple : bound = n * grid.unit x)
    (le : bound ≤ x) : bound ≤ grid.nearest x := by
  have unit := grid.unit_pos x
  have rounded : n ≤ roundEven (x / grid.unit x) := by
    rw [← roundEven_intCast (K := K) n]
    apply roundEven_mono
    rw [le_div_iff₀ unit, ← multiple]
    exact le
  rw [nearest, multiple]
  exact mul_le_mul_of_nonneg_right (Int.cast_le.mpr rounded) unit.le

theorem nearest_nonneg {x : K} (nonneg : 0 ≤ x) : 0 ≤ grid.nearest x :=
  grid.le_nearest_of_multiple (n := 0) (by simp) nonneg

/-- Numbers with different units have a power of two between them. -/
theorem nearest_le_nearest {x y : K} (positive : 0 < x) (le : x ≤ y) :
    grid.nearest x ≤ grid.nearest y := by
  have positive' : 0 < y := positive.trans_le le
  have exponents : grid.exponent x ≤ grid.exponent y := by
    apply grid.exponent_mono positive.ne'
    rwa [abs_of_pos positive, abs_of_pos positive']
  rcases exponents.eq_or_lt with same | less
  · have units : grid.unit x = grid.unit y := by rw [Grid.unit, same, ← Grid.unit]
    rw [nearest, nearest, units]
    have unit := grid.unit_pos y
    have rounded := roundEven_mono ((div_le_div_iff_of_pos_right unit).mpr le)
    exact mul_le_mul_of_nonneg_right (Int.cast_le.mpr rounded) unit.le
  · have digits := grid.positive
    have logs : Int.log 2 x < Int.log 2 y ∧ grid.exponent x ≤ Int.log 2 y ∧
        grid.exponent y ≤ Int.log 2 y := by
      unfold exponent at less ⊢
      rw [abs_of_pos positive, abs_of_pos positive'] at less ⊢
      omega
    obtain ⟨log, first, second⟩ := logs
    have below : x ≤ 2 ^ Int.log 2 y :=
      (Int.lt_zpow_iff_log_lt one_lt_two positive).mpr log |>.le
    have above : 2 ^ Int.log 2 y ≤ y := Int.zpow_log_le_self one_lt_two positive'
    obtain ⟨n, multiple⟩ := grid.zpow_multiple first
    obtain ⟨m, multiple'⟩ := grid.zpow_multiple second
    exact (grid.nearest_le_of_multiple multiple below).trans
      (grid.le_nearest_of_multiple multiple' above)

theorem nearest_mono : Monotone (grid.nearest : K → K) := by
  intro x y le
  rcases lt_or_ge 0 x with positive | nonpos
  · exact grid.nearest_le_nearest positive le
  · rcases lt_or_ge y 0 with negative | nonneg
    · have reflected := grid.nearest_le_nearest (neg_pos.mpr negative) (neg_le_neg le)
      rw [nearest_neg, nearest_neg] at reflected
      exact neg_le_neg_iff.mp reflected
    · have below := grid.nearest_nonneg (neg_nonneg.mpr nonpos)
      rw [nearest_neg, neg_nonneg] at below
      exact below.trans (grid.nearest_nonneg nonneg)

/-! ### Accuracy -/

theorem abs_nearest_sub_le_unit (x : K) : |grid.nearest x - x| ≤ grid.unit x / 2 := by
  have unit := grid.unit_pos x
  have scaled : grid.nearest x - x =
      (roundEven (x / grid.unit x) - x / grid.unit x) * grid.unit x := by
    rw [sub_mul, div_mul_cancel₀ _ unit.ne']
    rfl
  have bound := mul_le_mul_of_nonneg_right (abs_roundEven_sub_le (x / grid.unit x)) unit.le
  rw [scaled, abs_mul, abs_of_pos unit]
  linarith

/-- Half of the last digit, or half of the least unit. -/
theorem abs_nearest_sub_le (x : K) :
    |grid.nearest x - x| ≤ |x| / 2 ^ grid.digits + 2 ^ grid.least / 2 := by
  have least : (0 : K) < 2 ^ grid.least := zpow_pos two_pos _
  have part : 0 ≤ |x| / 2 ^ grid.digits := div_nonneg (abs_nonneg x) (pow_pos two_pos _).le
  rcases eq_or_ne x 0 with rfl | nonzero
  · rw [nearest_zero, sub_zero, abs_zero, zero_div, zero_add]
    linarith
  · have half := grid.abs_nearest_sub_le_unit x
    rcases le_total (Int.log 2 |x| + 1 - grid.digits) grid.least with small | large
    · have unit : grid.unit x = 2 ^ grid.least := by rw [Grid.unit, exponent, max_eq_right small]
      rw [unit] at half
      linarith
    · have log := Int.zpow_log_le_self one_lt_two (abs_pos.mpr nonzero)
      have unit : grid.unit x = 2 * ((2 : K) ^ Int.log 2 |x| / 2 ^ grid.digits) := by
        rw [Grid.unit, exponent, max_eq_left large, zpow_sub₀ two_ne_zero,
          zpow_add_one₀ two_ne_zero, zpow_natCast]
        ring
      have divided := (div_le_div_iff_of_pos_right (pow_pos two_pos grid.digits)).mpr log
      rw [unit] at half
      linarith

end Grid

end SslRosBridge.Library
