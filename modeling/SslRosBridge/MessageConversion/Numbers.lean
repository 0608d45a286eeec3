import SslRosBridge.Library.Rounding
import SslRosBridge.MessageConversion.Msg

/-!
# Numbers in the converters

Floats are their bit patterns and are computed with as the floating point
model of the core library does.  What `rclcpp` and `tf2` compute is a
parameter.
-/

namespace SslRosBridge.MessageConversion

open Library.Rounding
open Float.Model (Format UnpackedFloat)

abbrev Float64Bits := UInt64

/-! ## Floats -/

namespace Float32Bits

def value (bits : Float32Bits) : UnpackedFloat :=
  UnpackedFloat.unpack Format.binary32 bits.toBitVec

/-- The float for a value that single precision holds. -/
def ofValue (value : UnpackedFloat) : Float32Bits :=
  UInt32.ofBitVec (UnpackedFloat.pack Format.binary32 value)

end Float32Bits

namespace Float64Bits

def value (bits : Float64Bits) : UnpackedFloat :=
  UnpackedFloat.unpack Format.binary64 bits.toBitVec

/-- The double for a value that double precision holds. -/
def ofValue (value : UnpackedFloat) : Float64Bits :=
  UInt64.ofBitVec (UnpackedFloat.pack Format.binary64 value)

end Float64Bits

/-- The nearest value of a format. -/
def nearest (spec : Format) : UnpackedFloat → UnpackedFloat
  | .finite sign mantissa exponent _ => UnpackedFloat.round spec sign mantissa exponent
  | value => value

/-- The assignment of a `float` to a `double`. -/
def Float32Bits.widen (bits : Float32Bits) : Float64Bits :=
  Float64Bits.ofValue (nearest Format.binary64 bits.value)

/-- The assignment of a `double` to a `float`. -/
def Float64Bits.narrow (bits : Float64Bits) : Float32Bits :=
  Float32Bits.ofValue (nearest Format.binary32 bits.value)

/-- The cast to `int64_t`.  It is undefined out of range, where x86-64 yields
the least integer. -/
def truncate : UnpackedFloat → Int64
  | .zero _ => 0
  | .finite sign mantissa exponent _ =>
      let integer := UnpackedFloat.roundToInt sign mantissa exponent
      if -2 ^ 63 ≤ integer ∧ integer < 2 ^ 63 then Int64.ofInt integer else Int64.minValue
  | _ => Int64.minValue

/-! ## Lengths -/

/-- `1.0e-3f`. -/
def mmTom : Float32Bits := 0x3A83126F

example : (1.0e-3 : Float32).toBits = mmTom := by decide +kernel

/-- A float times `mmTom`. -/
def Float32Bits.toMeters (length : Float32Bits) : Float32Bits :=
  Float32Bits.ofValue (UnpackedFloat.mul Format.binary32 length.value mmTom.value)

/-- An integer times `mmTom`. -/
def toMeters (length : Int32) : Float32Bits :=
  Float32Bits.ofValue
    (UnpackedFloat.mul Format.binary32 (UnpackedFloat.ofInt32 Format.binary32 length) mmTom.value)

/-- `1e3` as a `double`. -/
def thousand : Float64Bits := 0x408F400000000000

/-- A float divided by `1e3`, in double precision. -/
def Float32Bits.dividedByThousand (length : Float32Bits) : Float32Bits :=
  (Float64Bits.ofValue
    (UnpackedFloat.div Format.binary64 length.widen.value thousand.value)).narrow

theorem mmTom_value : mmTom.value = .finite .positive 8589935 (-33) (by decide) := rfl

theorem ofValue_eq_zero_iff (value : UnpackedFloat) :
    Float32Bits.ofValue value = 0 ↔ UnpackedFloat.pack Format.binary32 value = 0 := by
  constructor
  · intro zero
    exact congrArg UInt32.toBitVec zero
  · intro zero
    rw [Float32Bits.ofValue, zero]
    rfl

/-- A length in millimetres that is zero in metres. -/
theorem Float32Bits.toMeters_eq_zero_iff (length : Float32Bits) :
    length.toMeters = 0 ↔ length ≤ 499 := by
  rw [toMeters, ofValue_eq_zero_iff, mmTom_value, pack_mul_eq_zero_iff, value,
    vanishes_unpack_iff _ (by decide)]
  have power : 2 ^ (-(-33 : Int)).toNat = 8589934592 := rfl
  rw [power, UInt32.le_iff_toNat_le]
  change 2 * (length.toNat * 8589935) ≤ 8589934592 ↔ length.toNat ≤ 499
  omega

/-- The lengths that become the same as the default. -/
theorem Float32Bits.toMeters_eq_toMeters_zero_iff (length : Float32Bits) :
    length.toMeters = Float32Bits.toMeters 0 ↔ length ≤ 499 := by
  rw [(Float32Bits.toMeters_eq_zero_iff 0).mpr (by decide), toMeters_eq_zero_iff]

/-- No other integer is zero in metres. -/
theorem toMeters_eq_zero_iff (length : Int32) : toMeters length = 0 ↔ length = 0 := by
  rw [toMeters, ofValue_eq_zero_iff, mmTom_value, pack_mul_eq_zero_iff]
  have integer : length = 0 ↔ length.toInt = 0 := by
    rw [← Int32.toInt_inj]
    rfl
  rw [integer, UnpackedFloat.ofInt32]
  rcases ofInt_cases Format.binary32 (by decide) length.toInt with
    ⟨zero, value⟩ | ⟨nonzero, sign, mantissa, exponent, pos, value, large⟩
  · rw [value]
    exact iff_of_true rfl zero
  · rw [value]
    refine iff_of_false ?_ nonzero
    rintro ⟨-, lost⟩
    have least : (Format.binary32.minExponent - (exponent + -33)).toNat = 0 := by
      have lowest : Format.binary32.minExponent = -149 := rfl
      have width : (Format.binary32.mantissaBitsWithoutImplicit : Int) = 23 := rfl
      omega
    rw [least] at lost
    omega

theorem toMeters_eq_toMeters_zero_iff (length : Int32) :
    toMeters length = toMeters 0 ↔ length = 0 := by
  rw [(toMeters_eq_zero_iff 0).mpr rfl, toMeters_eq_zero_iff]

/-! ## Times and rotations -/

/-- `secToNanosec`. -/
def secToNanosec : Int32 := 1000000000

/-- Seconds times `secToNanosec` as an `int64_t`. -/
def Float64Bits.nanoseconds (seconds : Float64Bits) : Int64 :=
  truncate (UnpackedFloat.mul Format.binary64 seconds.value
    (UnpackedFloat.ofInt32 Format.binary64 secToNanosec))

/-- `builtin_interfaces/Time`. -/
structure Msg.Time where
  sec : Int32 := 0
  nanosec : UInt32 := 0
  deriving DecidableEq, Repr

/-- `geometry_msgs/Quaternion`. -/
structure Msg.Quaternion where
  x : Float64Bits := 0
  y : Float64Bits := 0
  z : Float64Bits := 0
  w : Float64Bits := 0x3FF0000000000000
  deriving DecidableEq, Repr

/-- What the converters use of `rclcpp` and `tf2`. -/
structure RosLibrary where
  /-- `rclcpp::Time` from nanoseconds, as a message. -/
  time : Int64 → Msg.Time
  /-- `tf2::Quaternion` from the third axis and an angle, as a message. -/
  rotationAboutZ : Float32Bits → Msg.Quaternion

/-- A library with the times of `rclcpp`, for robots that do not turn. -/
def RosLibrary.sample : RosLibrary where
  time nanoseconds :=
    { sec := Int32.ofInt (nanoseconds.toInt / 1000000000)
      nanosec := UInt32.ofNat (nanoseconds.toInt % 1000000000).toNat }
  rotationAboutZ _ := {}

end SslRosBridge.MessageConversion
