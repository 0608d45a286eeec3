import SslRosBridge.MessageConversion.Lengths
import SslRosBridge.MessageConversion.Timestamps

/-!
# Times of a vision frame

The seconds of a frame are a `double`.  They are multiplied in double
precision, cut to whole nanoseconds and shown as a ROS time.
-/

namespace SslRosBridge.MessageConversion

open Library Library.Rounding
open Float.Model (Format UnpackedFloat)

/-! ## Nanoseconds -/

/-- The whole nanoseconds that a number of seconds becomes. -/
def nanosecondsAt (seconds : ℚ) : ℤ :=
  truncated ((grid Format.binary64).nearest (seconds * 1000000000))

theorem secToNanosec_value : UnpackedFloat.ofInt32 Format.binary64 secToNanosec =
    .finite .positive 8388608000000000 (-23) (by decide) := rfl

/-- A number that fits is cut to its whole part. -/
theorem toInt_truncate {value : UnpackedFloat} {exact : ℚ}
    (stands : Rounding.number value = some exact) (small : |exact| < 9000000000000000000) :
    (truncate value).toInt = truncated exact := by
  cases value with
  | infinity sign => cases stands
  | notANumber => cases stands
  | zero sign =>
      obtain rfl := Option.some.inj stands
      simp [truncate, truncated]
  | finite sign mantissa exponent positive =>
      obtain rfl := Option.some.inj stands
      have near := abs_lt.mp (abs_truncated_sub_lt (scaled sign mantissa exponent))
      have bounds := abs_lt.mp small
      have lower : (-9000000000000000001 : ℚ) <
          (truncated (scaled sign mantissa exponent) : ℤ) := by linarith
      have upper : ((truncated (scaled sign mantissa exponent) : ℤ) : ℚ) <
          9000000000000000001 := by linarith
      have lower' : -9000000000000000001 < truncated (scaled sign mantissa exponent) := by
        exact_mod_cast lower
      have upper' : truncated (scaled sign mantissa exponent) < 9000000000000000001 := by
        exact_mod_cast upper
      rw [truncate, roundToInt_eq sign exponent positive, if_pos (by omega)]
      exact Int64.toInt_ofInt_of_le (by omega) (by omega)

/-- Half of the last digit of the product. -/
theorem abs_product_sub_lt {seconds : ℚ} (shown : |seconds| ≤ 2147483647) :
    |(grid Format.binary64).nearest (seconds * 1000000000) - seconds * 1000000000| < 239 := by
  have close : |(grid Format.binary64).nearest (seconds * 1000000000) - seconds * 1000000000| ≤
      |seconds * 1000000000| / 2 ^ 53 + 2 ^ (-1074 : ℤ) / 2 :=
    (grid Format.binary64).abs_nearest_sub_le (seconds * 1000000000)
  have least : (2 : ℚ) ^ (-1074 : ℤ) ≤ 1 := zpow_le_one_of_nonpos₀ one_le_two (by decide)
  rw [abs_mul, abs_of_pos (by norm_num : (0 : ℚ) < 1000000000)] at close
  linarith

theorem abs_nanosecondsAt_sub_lt {seconds : ℚ} (shown : |seconds| ≤ 2147483647) :
    |(nanosecondsAt seconds : ℚ) - seconds * 1000000000| < 240 := by
  have cut := abs_lt.mp
    (abs_truncated_sub_lt ((grid Format.binary64).nearest (seconds * 1000000000)))
  have close := abs_lt.mp (abs_product_sub_lt shown)
  rw [nanosecondsAt, abs_lt]
  constructor <;> linarith

theorem toInt_nanoseconds {bits : Float64Bits} {seconds : ℚ} (stands : bits.number = some seconds)
    (shown : |seconds| ≤ 2147483647) : bits.nanoseconds.toInt = nanosecondsAt seconds := by
  have factor : scaled .positive 8388608000000000 (-23) = 1000000000 := by
    rw [scaled_positive]
    norm_num
  rw [Float64Bits.nanoseconds, secToNanosec_value]
  apply toInt_truncate
  · rw [number_mul, show Rounding.number bits.value = some seconds from stands, factor]
    rfl
  · have close := abs_lt.mp (abs_product_sub_lt shown)
    have bounds := abs_le.mp shown
    rw [abs_lt]
    constructor <;> linarith

theorem nanosecondsAt_mono : Monotone nanosecondsAt := by
  intro earlier later le
  have nearest_mono := (grid Format.binary64).nearest_mono (K := ℚ)
  exact truncated_mono (nearest_mono (mul_le_mul_of_nonneg_right le (by norm_num)))

/-! ## The times of a frame -/

/-- A time of the protobuf message with its field of the ROS message. -/
structure FrameTime where
  seconds : Proto.SSLDetectionFrame → Float64Bits
  time : Msg.VisionDetectionFrame → Msg.Time

def FrameTime.capture : FrameTime := ⟨(·.tCapture), (·.tCapture)⟩

def FrameTime.sent : FrameTime := ⟨(·.tSent), (·.tSent)⟩

def FrameTime.captureCamera : FrameTime := ⟨(·.tCaptureCamera.getD 0), (·.tCaptureCamera)⟩

def frameTimes : List FrameTime := [.capture, .sent, .captureCamera]

theorem frameTime_fromProto (ros : RosLibrary) (frame : Proto.SSLDetectionFrame) :
    ∀ frameTime ∈ frameTimes, frameTime.time (frame.fromProto ros) =
      ros.time (frameTime.seconds frame).nanoseconds := by
  rintro frameTime (_ | ⟨_, _ | ⟨_, _ | ⟨_, ⟨⟩⟩⟩⟩)
  · rfl
  · rfl
  · rfl

theorem total_nanoseconds {ros : RosLibrary} (divides : ros.DividesTime) {bits : Float64Bits}
    {seconds : ℚ} (stands : bits.number = some seconds) (shown : |seconds| ≤ 2147483647) :
    (ros.time bits.nanoseconds).total = nanosecondsAt seconds := by
  have close := abs_lt.mp (abs_nanosecondsAt_sub_lt shown)
  have bounds := abs_le.mp shown
  have lower : (-2147483648000000000 : ℚ) < (nanosecondsAt seconds : ℤ) := by linarith
  have upper : ((nanosecondsAt seconds : ℤ) : ℚ) < 2147483648000000000 := by linarith
  have lower' : -2147483648000000000 < nanosecondsAt seconds := by exact_mod_cast lower
  have upper' : nanosecondsAt seconds < 2147483648000000000 := by exact_mod_cast upper
  have narrow := bmod_seconds (nanosecondsAt seconds)
  rw [Msg.Time.total, nanosec_time divides, divides, toInt_nanoseconds stands shown,
    Int32.toInt_ofInt]
  refine narrow.trans ?_
  apply Int.bmod_eq_of_le <;> omega

/--
The times of all vision frames, up to 2147483647 seconds on either side of zero,
are shown to 240 nanoseconds.  Whichever times of whichever frames they are, the
later number of seconds is not shown earlier.
-/
theorem frame_times_close_and_ordered (ros : RosLibrary) (divides : ros.DividesTime) :
    ∀ frameTime ∈ frameTimes, ∀ frame seconds,
      (frameTime.seconds frame).number = some seconds → |seconds| ≤ 2147483647 →
        |((frameTime.time (frame.fromProto ros)).total : ℚ) - seconds * 1000000000| < 240 ∧
        ∀ other ∈ frameTimes, ∀ frame' seconds',
          (other.seconds frame').number = some seconds' → |seconds'| ≤ 2147483647 →
            seconds ≤ seconds' →
              (frameTime.time (frame.fromProto ros)).NotAfter
                (other.time (frame'.fromProto ros)) := by
  intro frameTime listed frame seconds stands shown
  rw [frameTime_fromProto ros frame frameTime listed]
  have total := total_nanoseconds divides stands shown
  constructor
  · rw [total]
    exact abs_nanosecondsAt_sub_lt shown
  · intro other listed' frame' seconds' stands' shown' le
    rw [frameTime_fromProto ros frame' other listed',
      Msg.Time.notAfter_iff (part_time divides _) (part_time divides _), total,
      total_nanoseconds divides stands' shown']
    exact nanosecondsAt_mono le

theorem number_one_and_half : Float64Bits.number 0x3FF8000000000000 = some (3 / 2) := by
  have value : Float64Bits.value 0x3FF8000000000000 =
      .finite .positive 6755399441055744 (-52) (by decide) := rfl
  rw [Float64Bits.number, value, Rounding.number, scaled_positive]
  norm_num

theorem number_two : Float64Bits.number 0x4000000000000000 = some 2 := by
  have value : Float64Bits.value 0x4000000000000000 =
      .finite .positive 4503599627370496 (-51) (by decide) := rfl
  rw [Float64Bits.number, value, Rounding.number, scaled_positive]
  norm_num

theorem frame_times_close_and_ordered_one_frame :
    let frame : Proto.SSLDetectionFrame :=
      { frameNumber := 0, tCapture := 0x3FF8000000000000, tSent := 0x4000000000000000,
        cameraId := 0 }
    |((frame.fromProto .sample).tCapture.total : ℚ) - 3 / 2 * 1000000000| < 240 ∧
      (frame.fromProto .sample).tCapture.NotAfter (frame.fromProto .sample).tSent := by
  intro frame
  have times := frame_times_close_and_ordered .sample RosLibrary.dividesTime_sample .capture
    List.mem_cons_self frame (3 / 2) number_one_and_half (by norm_num [abs_le])
  exact ⟨times.1, times.2 .sent (List.mem_cons_of_mem _ List.mem_cons_self) frame 2 number_two
    (by norm_num) (by norm_num)⟩

end SslRosBridge.MessageConversion
