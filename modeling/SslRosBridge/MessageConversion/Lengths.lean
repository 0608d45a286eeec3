import SslRosBridge.Library.FloatOperations
import SslRosBridge.MessageConversion.Vision

/-!
# Lengths of a vision packet

`fromProto` multiplies the millimetres of a vision packet by `mmTom` in single
precision.  All lengths, floats and integers alike, go through one function of
the numbers that they stand for.  The height of a robot is copied, not converted.
-/

namespace SslRosBridge.MessageConversion

open Library Library.Rounding
open Float.Model (Format UnpackedFloat)

/-! ## Numbers -/

/-- What a float stands for, if it is finite. -/
def Float32Bits.number (bits : Float32Bits) : Option ℚ := Rounding.number bits.value

def Float64Bits.number (bits : Float64Bits) : Option ℚ := Rounding.number bits.value

theorem Float32Bits.number_ofValue {value : UnpackedFloat}
    (packable : Packable Format.binary32 value) :
    (ofValue value).number = Rounding.number value :=
  congrArg Rounding.number (unpack_pack packable)

theorem Float64Bits.number_ofValue {value : UnpackedFloat}
    (packable : Packable Format.binary64 value) :
    (ofValue value).number = Rounding.number value :=
  congrArg Rounding.number (unpack_pack packable)

theorem Float32Bits.packable_value (bits : Float32Bits) :
    Packable Format.binary32 bits.value :=
  @packable_unpack Format.binary32 (by decide) bits.toBitVec

/-- The nearest number in single precision, however large. -/
def nearestSingle (exact : ℚ) : ℚ := (grid Format.binary32).nearest exact

theorem Float32Bits.nearestSingle_number {bits : Float32Bits} {exact : ℚ}
    (stands : bits.number = some exact) : nearestSingle exact = exact := by
  rcases bits.packable_value.number_cases stands with
    rfl | ⟨sign, mantissa, exponent, rfl, canonical, -⟩
  · exact Grid.nearest_zero _
  · exact nearest_of_fits sign canonical.fits canonical.least

theorem Float32Bits.abs_number_lt {bits : Float32Bits} {exact : ℚ}
    (stands : bits.number = some exact) : |exact| < 2 ^ 128 := by
  rcases bits.packable_value.number_cases stands with
    rfl | ⟨sign, mantissa, exponent, rfl, canonical, bounded⟩
  · norm_num
  · have top : exponent ≤ 104 := by
      simp only [Format.exponentBias] at bounded
      omega
    have digits : (mantissa : ℚ) < 2 ^ 24 := by exact_mod_cast canonical.fits
    have power : (2 : ℚ) ^ exponent ≤ 2 ^ (104 : ℤ) := zpow_le_zpow_right₀ one_le_two top
    rw [abs_scaled]
    calc (mantissa * 2 ^ exponent : ℚ) < 2 ^ 24 * 2 ^ exponent :=
          mul_lt_mul_of_pos_right digits (zpow_pos two_pos _)
      _ ≤ 2 ^ 24 * 2 ^ (104 : ℤ) := mul_le_mul_of_nonneg_left power (by norm_num)
      _ = 2 ^ 128 := by norm_num

theorem number_nearest (spec : Format) (value : UnpackedFloat) :
    Rounding.number (nearest spec value) = (Rounding.number value).map (grid spec).nearest := by
  cases value with
  | infinity sign => rfl
  | notANumber => rfl
  | zero sign => exact congrArg some (Grid.nearest_zero _).symm
  | finite sign mantissa exponent positive => exact (round_eq spec sign exponent positive).1

theorem packable_nearest {spec : Format} (roomy : 2 ≤ spec.exponentBits) {value : UnpackedFloat}
    (bounded : ∀ exact, Rounding.number value = some exact → |exact| < 2 ^ spec.exponentBias) :
    Packable spec (nearest spec value) := by
  cases value with
  | infinity sign => trivial
  | notANumber => trivial
  | zero sign => trivial
  | finite sign mantissa exponent positive =>
      exact packable_round_of_lt roomy sign positive (bounded _ rfl)

/-- A float is assigned to a double without a loss. -/
theorem Float32Bits.number_widen (bits : Float32Bits) : bits.widen.number = bits.number := by
  have bounded : ∀ exact, Rounding.number bits.value = some exact →
      |exact| < 2 ^ Format.binary64.exponentBias := by
    intro exact stands
    exact (abs_number_lt stands).trans (pow_lt_pow_right₀ one_lt_two (by decide))
  rw [widen, Float64Bits.number_ofValue (packable_nearest (by decide) bounded), number_nearest]
  refine (Option.map_congr (g := id) ?_).trans (congrFun Option.map_id _)
  intro exact stands
  rcases bits.packable_value.number_cases stands with
    rfl | ⟨sign, mantissa, exponent, rfl, canonical, -⟩
  · exact Grid.nearest_zero _
  · have lowest : Format.binary32.minExponent = -149 := rfl
    have lowest' : Format.binary64.minExponent = -1074 := rfl
    have least := canonical.least
    exact nearest_of_fits sign (canonical.fits.trans (by decide)) (by omega)

/-! ## Millimetres -/

/-- `mmTom` is not a thousandth. -/
def perMillimetre : ℚ := 8589935 / 8589934592

/-- The number that a length in millimetres becomes. -/
def metresOf (millimetres : ℚ) : ℚ := nearestSingle (nearestSingle millimetres * perMillimetre)

theorem number_mul_mmTom {value : UnpackedFloat} (packable : Packable Format.binary32 value) :
    (Float32Bits.ofValue (UnpackedFloat.mul Format.binary32 value mmTom.value)).number =
      (Rounding.number value).map fun exact => nearestSingle (exact * perMillimetre) := by
  have factor : scaled .positive 8589935 (-33) = perMillimetre := by
    rw [scaled_positive, perMillimetre]
    norm_num
  rw [mmTom_value, Float32Bits.number_ofValue, number_mul, factor]
  · rfl
  · exact packable_mul (by decide) (by decide) (by decide) (by decide) packable

theorem Float32Bits.number_toMeters (length : Float32Bits) :
    length.toMeters.number = length.number.map metresOf := by
  rw [toMeters, number_mul_mmTom length.packable_value]
  cases stands : length.number with
  | none => rw [show Rounding.number length.value = none from stands]; rfl
  | some exact =>
      rw [show Rounding.number length.value = some exact from stands, Option.map_some,
        Option.map_some, metresOf, nearestSingle_number stands]

theorem number_toMeters (length : Int32) :
    (toMeters length).number = some (metresOf length.toInt) := by
  have narrow : length.toInt.natAbs < 2 ^ 32 := by
    have least := Int32.le_toInt length
    have greatest := Int32.toInt_lt length
    omega
  rw [toMeters, UnpackedFloat.ofInt32,
    number_mul_mmTom (packable_ofInt narrow (by decide) (by decide)), number_ofInt]
  rfl

theorem metresOf_mono : Monotone metresOf := by
  intro shorter longer le
  have positive : 0 ≤ perMillimetre := by norm_num [perMillimetre]
  have nearest_mono := (grid Format.binary32).nearest_mono (K := ℚ)
  exact nearest_mono (mul_le_mul_of_nonneg_right (nearest_mono le) positive)

theorem metresOf_neg (millimetres : ℚ) : metresOf (-millimetres) = -metresOf millimetres := by
  rw [metresOf, nearestSingle, nearestSingle, Grid.nearest_neg, neg_mul, Grid.nearest_neg]
  rfl

/-- One part in five million, and the least float. -/
theorem abs_metresOf_sub_le (millimetres : ℚ) :
    |metresOf millimetres - millimetres / 1000| ≤
      |millimetres| / 5000000000 + 2 ^ (-149 : ℤ) := by
  have least : (0 : ℚ) < 2 ^ (-149 : ℤ) := zpow_pos two_pos _
  have first : |nearestSingle millimetres - millimetres| ≤
      |millimetres| / 2 ^ 24 + 2 ^ (-149 : ℤ) / 2 :=
    (grid Format.binary32).abs_nearest_sub_le millimetres
  have second : |metresOf millimetres - nearestSingle millimetres * perMillimetre| ≤
      |nearestSingle millimetres * perMillimetre| / 2 ^ 24 + 2 ^ (-149 : ℤ) / 2 :=
    (grid Format.binary32).abs_nearest_sub_le (nearestSingle millimetres * perMillimetre)
  have size : |nearestSingle millimetres| ≤
      |nearestSingle millimetres - millimetres| + |millimetres| := by
    simpa using abs_add_le (nearestSingle millimetres - millimetres) millimetres
  have positive : (0 : ℚ) < perMillimetre := by norm_num [perMillimetre]
  rw [abs_mul, abs_of_pos positive] at second
  have sign := abs_le.mp (le_refl |millimetres|)
  have first' := abs_le.mp first
  have second' := abs_le.mp second
  rw [perMillimetre] at second'
  rw [abs_le]
  constructor <;> linarith

/-! ## The lengths of the messages -/

/-- A length of a protobuf message with its field of the ROS message, as the
numbers that they stand for. -/
structure Length (ProtoType RosType : Type) where
  millimetres : ProtoType → Option ℚ
  metres : RosType → Option ℚ

namespace Length

variable {ProtoType RosType : Type}

def float (length : ProtoType → Float32Bits) (mirror : RosType → Float32Bits) :
    Length ProtoType RosType where
  millimetres protoMsg := (length protoMsg).number
  metres rosMsg := (mirror rosMsg).number

def widened (length : ProtoType → Float32Bits) (mirror : RosType → Float64Bits) :
    Length ProtoType RosType where
  millimetres protoMsg := (length protoMsg).number
  metres rosMsg := (mirror rosMsg).number

def integer (length : ProtoType → Int32) (mirror : RosType → Float32Bits) :
    Length ProtoType RosType where
  millimetres protoMsg := some (length protoMsg).toInt
  metres rosMsg := (mirror rosMsg).number

/-- A finite length becomes the finite `metresOf` it, and no other does. -/
def Converted (fromProto : ProtoType → RosType) (length : Length ProtoType RosType) : Prop :=
  ∀ protoMsg, length.metres (fromProto protoMsg) = (length.millimetres protoMsg).map metresOf

variable {fromProto : ProtoType → RosType}

theorem Converted.float {length : ProtoType → Float32Bits} {mirror : RosType → Float32Bits}
    (converts : ∀ protoMsg, mirror (fromProto protoMsg) = (length protoMsg).toMeters) :
    (Length.float length mirror).Converted fromProto := by
  intro protoMsg
  exact (congrArg Float32Bits.number (converts protoMsg)).trans (Float32Bits.number_toMeters _)

theorem Converted.widened {length : ProtoType → Float32Bits} {mirror : RosType → Float64Bits}
    (converts : ∀ protoMsg, mirror (fromProto protoMsg) = (length protoMsg).toMeters.widen) :
    (Length.widened length mirror).Converted fromProto := by
  intro protoMsg
  exact (congrArg Float64Bits.number (converts protoMsg)).trans
    ((Float32Bits.number_widen _).trans (Float32Bits.number_toMeters _))

theorem Converted.integer {length : ProtoType → Int32} {mirror : RosType → Float32Bits}
    (converts : ∀ protoMsg, mirror (fromProto protoMsg) = toMeters (length protoMsg)) :
    (Length.integer length mirror).Converted fromProto := by
  intro protoMsg
  exact (congrArg Float32Bits.number (converts protoMsg)).trans (number_toMeters _)

end Length

namespace Proto

def SSLDetectionBall.lengths : List (Length SSLDetectionBall Msg.VisionDetectionBall) :=
  [.float (·.x) (·.pos.x), .float (·.y) (·.pos.y), .float (·.z.getD 0) (·.pos.z)]

def SSLDetectionRobot.lengths : List (Length SSLDetectionRobot Msg.VisionDetectionRobot) :=
  [.widened (·.x) (·.pose.position.x), .widened (·.y) (·.pose.position.y)]

def SSLFieldLineSegment.lengths : List (Length SSLFieldLineSegment Msg.VisionFieldLineSegment) :=
  [.float (·.p1.x) (·.p1.x), .float (·.p1.y) (·.p1.y), .float (·.p2.x) (·.p2.x),
    .float (·.p2.y) (·.p2.y), .float (·.thickness) (·.thickness)]

def SSLFieldCircularArc.lengths : List (Length SSLFieldCircularArc Msg.VisionFieldCircularArc) :=
  [.float (·.center.x) (·.center.x), .float (·.center.y) (·.center.y),
    .float (·.radius) (·.radius), .float (·.thickness) (·.thickness)]

def SSLGeometryFieldSize.lengths :
    List (Length SSLGeometryFieldSize Msg.VisionGeometryFieldSize) :=
  [.integer (·.fieldLength) (·.fieldLength), .integer (·.fieldWidth) (·.fieldWidth),
    .integer (·.goalWidth) (·.goalWidth), .integer (·.goalDepth) (·.goalDepth),
    .integer (·.boundaryWidth) (·.boundaryWidth),
    .integer (·.penaltyAreaDepth.getD 0) (·.penaltyAreaDepth),
    .integer (·.penaltyAreaWidth.getD 0) (·.penaltyAreaWidth),
    .integer (·.centerCircleRadius.getD 0) (·.centerCircleRadius),
    .integer (·.lineThickness.getD 0) (·.lineThickness),
    .integer (·.goalCenterToPenaltyMark.getD 0) (·.goalCenterToPenaltyMark),
    .integer (·.goalHeight.getD 0) (·.goalHeight)] ++
  [.float (·.ballRadius.getD 0) (·.ballRadius),
    .float (·.maxRobotRadius.getD 0) (·.maxRobotRadius)]

def SSLGeometryCameraCalibration.lengths :
    List (Length SSLGeometryCameraCalibration Msg.VisionGeometryCameraCalibration) :=
  [.widened (·.tx) (·.pose.position.x), .widened (·.ty) (·.pose.position.y),
    .widened (·.tz) (·.pose.position.z)] ++
  [.float (·.derivedCameraWorldTx.getD 0) (·.derivedCameraWorldT.x),
    .float (·.derivedCameraWorldTy.getD 0) (·.derivedCameraWorldT.y),
    .float (·.derivedCameraWorldTz.getD 0) (·.derivedCameraWorldT.z)]

theorem SSLDetectionBall.lengths_converted :
    ∀ length ∈ lengths, length.Converted fromProto := by
  simp only [lengths, List.forall_mem_cons, List.not_mem_nil, false_implies, implies_true,
    and_true]
  and_intros <;> exact .float fun _ => rfl

theorem SSLDetectionRobot.lengths_converted (ros : RosLibrary) :
    ∀ length ∈ lengths, length.Converted (fromProto ros) := by
  simp only [lengths, List.forall_mem_cons, List.not_mem_nil, false_implies, implies_true,
    and_true]
  and_intros <;> exact .widened fun _ => rfl

theorem SSLFieldLineSegment.lengths_converted :
    ∀ length ∈ lengths, length.Converted fromProto := by
  simp only [lengths, List.forall_mem_cons, List.not_mem_nil, false_implies, implies_true,
    and_true]
  and_intros <;> exact .float fun _ => rfl

theorem SSLFieldCircularArc.lengths_converted :
    ∀ length ∈ lengths, length.Converted fromProto := by
  simp only [lengths, List.forall_mem_cons, List.not_mem_nil, false_implies, implies_true,
    and_true]
  and_intros <;> exact .float fun _ => rfl

theorem SSLGeometryFieldSize.lengths_converted :
    ∀ length ∈ lengths, length.Converted fromProto := by
  simp only [lengths, List.forall_mem_append, List.forall_mem_cons, List.not_mem_nil,
    false_implies, implies_true, and_true]
  constructor
  · and_intros <;> exact .integer fun _ => rfl
  · and_intros <;> exact .float fun _ => rfl

theorem SSLGeometryCameraCalibration.lengths_converted :
    ∀ length ∈ lengths, length.Converted fromProto := by
  simp only [lengths, List.forall_mem_append, List.forall_mem_cons, List.not_mem_nil,
    false_implies, implies_true, and_true]
  constructor
  · and_intros <;> exact .widened fun _ => rfl
  · and_intros <;> exact .float fun _ => rfl

end Proto

/-- An overload of `fromProto` with the lengths that it converts. -/
structure LengthOverload : Type 1 where
  ProtoType : Type
  RosType : Type
  fromProto : ProtoType → RosType
  lengths : List (Length ProtoType RosType)

open Proto in
/-- The overloads for the messages that have lengths. -/
def lengthOverloads (ros : RosLibrary) : List LengthOverload :=
  [⟨_, _, SSLDetectionBall.fromProto, SSLDetectionBall.lengths⟩,
    ⟨_, _, SSLDetectionRobot.fromProto ros, SSLDetectionRobot.lengths⟩,
    ⟨_, _, SSLFieldLineSegment.fromProto, SSLFieldLineSegment.lengths⟩,
    ⟨_, _, SSLFieldCircularArc.fromProto, SSLFieldCircularArc.lengths⟩,
    ⟨_, _, SSLGeometryFieldSize.fromProto, SSLGeometryFieldSize.lengths⟩,
    ⟨_, _, SSLGeometryCameraCalibration.fromProto, SSLGeometryCameraCalibration.lengths⟩]

theorem lengths_converted (ros : RosLibrary) : ∀ overload ∈ lengthOverloads ros,
    ∀ length ∈ overload.lengths, length.Converted overload.fromProto := by
  simp only [lengthOverloads, List.forall_mem_cons, List.not_mem_nil, false_implies, implies_true,
    and_true]
  exact ⟨Proto.SSLDetectionBall.lengths_converted, Proto.SSLDetectionRobot.lengths_converted ros,
    Proto.SSLFieldLineSegment.lengths_converted, Proto.SSLFieldCircularArc.lengths_converted,
    Proto.SSLGeometryFieldSize.lengths_converted,
    Proto.SSLGeometryCameraCalibration.lengths_converted⟩

/--
Whatever its field and its type, a length in millimetres becomes the same
number of metres, and stays finite.  The numbers keep their order and their
sign, and are off by at most one part in five million plus the least float.
-/
theorem lengths_in_metres (ros : RosLibrary) :
    Monotone metresOf ∧ (∀ millimetres, metresOf (-millimetres) = -metresOf millimetres) ∧
      (∀ millimetres, |metresOf millimetres - millimetres / 1000| ≤
        |millimetres| / 5000000000 + 2 ^ (-149 : ℤ)) ∧
      ∀ overload ∈ lengthOverloads ros, ∀ length ∈ overload.lengths,
        length.Converted overload.fromProto :=
  ⟨metresOf_mono, metresOf_neg, abs_metresOf_sub_le, lengths_converted ros⟩

end SslRosBridge.MessageConversion
