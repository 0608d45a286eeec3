import SslRosBridge.MessageConversion.Lengths
import SslRosBridge.MessageConversion.Referee

/-!
# The designated position of a referee message

`fromProto` divides the millimetres of the designated position by `1e3` in
double precision, and assigns the quotient to a float.
-/

namespace SslRosBridge.MessageConversion

open Library Library.Rounding
open Float.Model (Format UnpackedFloat totalExponent)

/-! ## Double precision -/

/-- The nearest number in double precision, however large. -/
def nearestDouble (exact : ℚ) : ℚ := (grid Format.binary64).nearest exact

theorem Float64Bits.packable_value (bits : Float64Bits) :
    Packable Format.binary64 bits.value :=
  @packable_unpack Format.binary64 (by decide) bits.toBitVec

/-- A double in the range of a float is assigned to the nearest float. -/
theorem Float64Bits.number_narrow {bits : Float64Bits}
    (bounded : ∀ exact, bits.number = some exact → |exact| < 2 ^ 127) :
    bits.narrow.number = bits.number.map nearestSingle := by
  rw [narrow, Float32Bits.number_ofValue (packable_nearest (by decide) bounded), number_nearest]
  rfl

/-! ## Positions -/

theorem thousand_value : thousand.value = .finite .positive 8796093022208000 (-43) (by decide) :=
  rfl

/-- The number that a coordinate in millimetres becomes. -/
def positionOf (millimetres : ℚ) : ℚ := nearestSingle (nearestDouble (millimetres / 1000))

theorem abs_nearestDouble_sub_le (millimetres : ℚ) :
    |nearestDouble (millimetres / 1000) - millimetres / 1000| ≤
      |millimetres| / 1000 / 2 ^ 53 + 2 ^ (-1074 : ℤ) / 2 := by
  have close : |nearestDouble (millimetres / 1000) - millimetres / 1000| ≤
      |millimetres / 1000| / 2 ^ 53 + 2 ^ (-1074 : ℤ) / 2 :=
    (grid Format.binary64).abs_nearest_sub_le (millimetres / 1000)
  rwa [abs_div, abs_of_pos (by norm_num : (0 : ℚ) < 1000)] at close

theorem Float32Bits.number_dividedByThousand (length : Float32Bits) :
    length.dividedByThousand.number = length.number.map positionOf := by
  have divisor : scaled .positive 8796093022208000 (-43) = 1000 := by
    rw [scaled_positive]
    norm_num
  have quotient : (Float64Bits.ofValue (UnpackedFloat.div Format.binary64 length.widen.value
      thousand.value)).number = length.number.map fun exact => nearestDouble (exact / 1000) := by
    rw [thousand_value, Float64Bits.number_ofValue, number_div, divisor]
    · exact congrArg (Option.map _) length.number_widen
    · exact packable_div (by decide) (by decide) (by decide) length.widen.packable_value
  rw [dividedByThousand, Float64Bits.number_narrow, quotient, Option.map_map]
  · rfl
  · intro exact stands
    rw [quotient] at stands
    obtain ⟨millimetres, finite, rfl⟩ := Option.map_eq_some_iff.mp stands
    have least : (2 : ℚ) ^ (-1074 : ℤ) ≤ 1 := zpow_le_one_of_nonpos₀ one_le_two (by decide)
    have close := abs_le.mp (abs_nearestDouble_sub_le millimetres)
    have bounds := abs_lt.mp (abs_number_lt finite)
    have size := abs_number_lt finite
    rw [abs_lt]
    constructor <;> linarith

theorem positionOf_mono : Monotone positionOf := by
  intro lower upper le
  have single_mono := (grid Format.binary32).nearest_mono (K := ℚ)
  have double_mono := (grid Format.binary64).nearest_mono (K := ℚ)
  exact single_mono (double_mono (div_le_div_of_nonneg_right le (by norm_num)))

theorem positionOf_neg (millimetres : ℚ) : positionOf (-millimetres) = -positionOf millimetres := by
  rw [positionOf, nearestDouble, neg_div, Grid.nearest_neg, nearestSingle, Grid.nearest_neg]
  rfl

/-- One part in sixteen million, and the least float. -/
theorem abs_positionOf_sub_le (millimetres : ℚ) :
    |positionOf millimetres - millimetres / 1000| ≤
      |millimetres| / 16000000000 + 2 ^ (-149 : ℤ) := by
  have tiny : (2 : ℚ) ^ (-1074 : ℤ) ≤ 2 ^ (-151 : ℤ) := zpow_le_zpow_right₀ one_le_two (by decide)
  have least : (2 : ℚ) ^ (-149 : ℤ) = 4 * 2 ^ (-151 : ℤ) := by norm_num
  have power : (0 : ℚ) < 2 ^ (-151 : ℤ) := zpow_pos two_pos _
  have first := abs_nearestDouble_sub_le millimetres
  have second : |positionOf millimetres - nearestDouble (millimetres / 1000)| ≤
      |nearestDouble (millimetres / 1000)| / 2 ^ 24 + 2 ^ (-149 : ℤ) / 2 :=
    (grid Format.binary32).abs_nearest_sub_le (nearestDouble (millimetres / 1000))
  have size : |nearestDouble (millimetres / 1000)| ≤
      |nearestDouble (millimetres / 1000) - millimetres / 1000| + |millimetres / 1000| := by
    simpa using abs_add_le (nearestDouble (millimetres / 1000) - millimetres / 1000)
      (millimetres / 1000)
  rw [abs_div, abs_of_pos (by norm_num : (0 : ℚ) < 1000)] at size
  have nonneg := abs_nonneg millimetres
  rw [least] at second ⊢
  generalize (2 : ℚ) ^ (-1074 : ℤ) = finest at *
  generalize (2 : ℚ) ^ (-151 : ℤ) = fine at *
  have first' := abs_le.mp first
  have second' := abs_le.mp second
  rw [abs_le]
  constructor <;> linarith

/-- The two conversions of a referee and of a vision message agree up to their errors. -/
theorem abs_positionOf_sub_metresOf_le (millimetres : ℚ) :
    |positionOf millimetres - metresOf millimetres| ≤
      |millimetres| / 3800000000 + 2 ^ (-148 : ℤ) := by
  have least : (2 : ℚ) ^ (-148 : ℤ) = 2 * 2 ^ (-149 : ℤ) := by norm_num
  have nonneg := abs_nonneg millimetres
  have position := abs_le.mp (abs_positionOf_sub_le millimetres)
  have metres := abs_le.mp (abs_metresOf_sub_le millimetres)
  rw [least, abs_le]
  constructor <;> linarith

theorem designatedPosition_fromProto (ros : RosLibrary) (referee : Proto.Referee) :
    (referee.fromProto ros).designatedPosition =
      (referee.designatedPosition.map Proto.Point.fromProto).toList := rfl

/-- Two floats that show a finite length almost alike. -/
def ShownAlike (length first second : Float32Bits) : Prop :=
  ∀ millimetres, length.number = some millimetres →
    ∃ metres other, first.number = some metres ∧ second.number = some other ∧
      |metres - other| ≤ |millimetres| / 3800000000 + 2 ^ (-148 : ℤ)

theorem shownAlike_toMeters (length : Float32Bits) :
    ShownAlike length length.dividedByThousand length.toMeters := by
  intro millimetres stands
  refine ⟨positionOf millimetres, metresOf millimetres, ?_, ?_,
    abs_positionOf_sub_metresOf_le millimetres⟩
  · rw [Float32Bits.number_dividedByThousand, stands, Option.map_some]
  · rw [Float32Bits.number_toMeters, stands, Option.map_some]

/--
The coordinates of a designated position become numbers of metres, and stay
finite.  The numbers keep their order and their sign, and are off by at most one
part in sixteen million plus the least float.  A ball of the vision that lies on
the designated position is shown on it, up to one part in 3.8 million plus twice
the least float.
-/
theorem designated_position_in_metres (ros : RosLibrary) :
    Monotone positionOf ∧
      (∀ millimetres, positionOf (-millimetres) = -positionOf millimetres) ∧
      (∀ millimetres, |positionOf millimetres - millimetres / 1000| ≤
        |millimetres| / 16000000000 + 2 ^ (-149 : ℤ)) ∧
      ∀ referee : Proto.Referee,
        List.Forall₂ (fun (point : Proto.Point) (shown : Msg.Point32) =>
          shown.x.number = point.x.number.map positionOf ∧
          shown.y.number = point.y.number.map positionOf ∧
          ∀ ball : Proto.SSLDetectionBall, ball.x = point.x → ball.y = point.y →
            ShownAlike point.x shown.x ball.fromProto.pos.x ∧
            ShownAlike point.y shown.y ball.fromProto.pos.y)
          referee.designatedPosition.toList (referee.fromProto ros).designatedPosition := by
  refine ⟨positionOf_mono, positionOf_neg, abs_positionOf_sub_le, ?_⟩
  intro referee
  rw [designatedPosition_fromProto]
  cases referee.designatedPosition with
  | none => exact List.Forall₂.nil
  | some point =>
      refine List.Forall₂.cons ⟨point.x.number_dividedByThousand,
        point.y.number_dividedByThousand, ?_⟩ List.Forall₂.nil
      rintro ball sameX sameY
      constructor
      · change ShownAlike point.x point.x.dividedByThousand ball.x.toMeters
        rw [sameX]
        exact shownAlike_toMeters point.x
      · change ShownAlike point.y point.y.dividedByThousand ball.y.toMeters
        rw [sameY]
        exact shownAlike_toMeters point.y

end SslRosBridge.MessageConversion
