import SslRosBridge.MessageConversion.Referee

/-!
# Timestamps of a referee message

Microseconds are multiplied in 64 unsigned bits, reinterpreted as signed
nanoseconds, and their seconds narrowed to 32 bits.  Up to `2 ^ 31` seconds
nothing is lost; beyond, the three steps amount to two balanced remainders.
-/

namespace SslRosBridge.MessageConversion

/-! ## ROS times -/

/-- `rclcpp::Time` converts to `builtin_interfaces/Time` by division by `10 ^ 9`,
with the seconds in an `int32`. -/
def RosLibrary.DividesTime (ros : RosLibrary) : Prop :=
  ∀ nanoseconds, ros.time nanoseconds =
    { sec := Int32.ofInt (nanoseconds.toInt / 1000000000)
      nanosec := UInt32.ofNat (nanoseconds.toInt % 1000000000).toNat }

theorem RosLibrary.dividesTime_sample : RosLibrary.sample.DividesTime := fun _ => rfl

namespace Msg.Time

/-- The earlier seconds, or the same with no more nanoseconds. -/
def NotAfter (first second : Msg.Time) : Prop :=
  first.sec < second.sec ∨ (first.sec = second.sec ∧ first.nanosec ≤ second.nanosec)

instance (first second : Msg.Time) : Decidable (first.NotAfter second) :=
  inferInstanceAs (Decidable (_ ∨ _))

def total (time : Msg.Time) : Int := time.sec.toInt * 1000000000 + time.nanosec.toNat

/-- The time is that number of microseconds. -/
structure Shows (time : Msg.Time) (microseconds : UInt64) : Prop where
  whole : time.sec.toInt * 1000000 + (time.nanosec.toNat / 1000 : Nat) = microseconds.toNat
  part : time.nanosec.toNat < 1000000000

theorem notAfter_iff {first second : Msg.Time} (firstPart : first.nanosec.toNat < 1000000000)
    (secondPart : second.nanosec.toNat < 1000000000) :
    first.NotAfter second ↔ first.total ≤ second.total := by
  unfold NotAfter total
  rw [Int32.lt_iff_toInt_lt, ← Int32.toInt_inj, UInt32.le_iff_toNat_le]
  omega

end Msg.Time

/-! ## Microseconds -/

/-- The argument of `rclcpp::Time` for a timestamp of a referee message. -/
def nanosecondsOf (microseconds : UInt64) : Int64 := (microseconds * 1000).toInt64

/-- The nanoseconds that a ROS time can show for a timestamp: reduced to 64
signed bits, then to 32 signed bits of seconds. -/
def shownNanoseconds (microseconds : UInt64) : Int :=
  Int.bmod (Int.bmod (microseconds.toNat * 1000) 18446744073709551616) 4294967296000000000

theorem toInt_nanosecondsOf (microseconds : UInt64) :
    (nanosecondsOf microseconds).toInt =
      Int.bmod (microseconds.toNat * 1000) 18446744073709551616 := by
  unfold nanosecondsOf
  have bits : (microseconds * 1000).toInt64.toInt = (microseconds * 1000).toBitVec.toInt := rfl
  have product : (microseconds * 1000).toBitVec.toNat =
      microseconds.toNat * 1000 % 18446744073709551616 := by
    rw [UInt64.toNat_toBitVec, UInt64.toNat_mul]
    rfl
  rw [bits, BitVec.toInt_eq_toNat_bmod, product]
  push_cast
  exact Int.emod_bmod _ _

/-- Narrowing the seconds reduces the nanoseconds. -/
theorem bmod_seconds (nanoseconds : Int) :
    Int.bmod (nanoseconds / 1000000000) 4294967296 * 1000000000 + nanoseconds % 1000000000 =
      Int.bmod nanoseconds 4294967296000000000 := by
  simp only [Int.bmod_def]
  omega

theorem bmod_of_small {count : Nat} (small : count < 2147483648000000) :
    Int.bmod (Int.bmod (count * 1000) 18446744073709551616) 4294967296000000000 = count * 1000 := by
  have wide : Int.bmod (count * 1000) 18446744073709551616 = count * 1000 := by
    apply Int.bmod_eq_of_le <;> omega
  rw [wide]
  apply Int.bmod_eq_of_le <;> omega

theorem shownNanoseconds_of_small {microseconds : UInt64}
    (small : microseconds.toNat < 2147483648000000) :
    shownNanoseconds microseconds = microseconds.toNat * 1000 :=
  bmod_of_small small

section Converted

variable {ros : RosLibrary} (divides : ros.DividesTime) (microseconds : UInt64)

include divides

theorem nanosec_time (nanoseconds : Int64) :
    ((ros.time nanoseconds).nanosec.toNat : Int) = nanoseconds.toInt % 1000000000 := by
  have lower := Int.emod_nonneg nanoseconds.toInt (show (1000000000 : Int) ≠ 0 by decide)
  have upper := Int.emod_lt_of_pos nanoseconds.toInt (show (0 : Int) < 1000000000 by decide)
  rw [divides]
  simp only [UInt32.toNat_ofNat']
  omega

theorem part_time (nanoseconds : Int64) : (ros.time nanoseconds).nanosec.toNat < 1000000000 := by
  have same := nanosec_time divides nanoseconds
  omega

theorem total_time : (ros.time (nanosecondsOf microseconds)).total =
    shownNanoseconds microseconds := by
  unfold Msg.Time.total shownNanoseconds
  rw [nanosec_time divides, ← toInt_nanosecondsOf, ← bmod_seconds, divides]
  simp only [Int32.toInt_ofInt]

theorem shows_time (small : microseconds.toNat < 2147483648000000) :
    (ros.time (nanosecondsOf microseconds)).Shows microseconds := by
  have total := total_time divides microseconds
  have part := part_time divides (nanosecondsOf microseconds)
  rw [shownNanoseconds_of_small small] at total
  unfold Msg.Time.total at total
  exact ⟨by omega, part⟩

theorem notAfter_time_iff (first second : UInt64) :
    (ros.time (nanosecondsOf first)).NotAfter (ros.time (nanosecondsOf second)) ↔
      shownNanoseconds first ≤ shownNanoseconds second := by
  rw [Msg.Time.notAfter_iff (part_time divides _) (part_time divides _), total_time divides,
    total_time divides]

end Converted

/-! ## The timestamps of a message -/

/-- A timestamp of the protobuf message with its field of the ROS message. -/
structure Timestamp where
  microseconds : Proto.Referee → UInt64
  time : Msg.Referee → Msg.Time

def Timestamp.packet : Timestamp := ⟨(·.packetTimestamp), (·.timestamp)⟩

def Timestamp.command : Timestamp := ⟨(·.commandTimestamp), (·.commandTimestamp)⟩

def timestamps : List Timestamp := [.packet, .command]

theorem time_fromProto (ros : RosLibrary) (referee : Proto.Referee) :
    ∀ timestamp ∈ timestamps, timestamp.time (referee.fromProto ros) =
      ros.time (nanosecondsOf (timestamp.microseconds referee)) := by
  rintro timestamp (_ | ⟨_, _ | ⟨_, ⟨⟩⟩⟩)
  · rfl
  · rfl

/--
Either timestamp is converted exactly below `2 ^ 31` seconds, where later
messages have later times.  Any two messages are ordered by the nanoseconds
that their times can show.
-/
theorem timestamps_exact_and_ordered (ros : RosLibrary) (divides : ros.DividesTime) :
    ∀ timestamp ∈ timestamps,
      (∀ referee, (timestamp.microseconds referee).toNat < 2147483648000000 →
        (timestamp.time (referee.fromProto ros)).Shows (timestamp.microseconds referee)) ∧
      (∀ first second, (timestamp.time (first.fromProto ros)).NotAfter
          (timestamp.time (second.fromProto ros)) ↔
        shownNanoseconds (timestamp.microseconds first) ≤
          shownNanoseconds (timestamp.microseconds second)) ∧
      ∀ first second, timestamp.microseconds first ≤ timestamp.microseconds second →
        (timestamp.microseconds second).toNat < 2147483648000000 →
          (timestamp.time (first.fromProto ros)).NotAfter
            (timestamp.time (second.fromProto ros)) := by
  intro timestamp listed
  have ordered : ∀ first second, (timestamp.time (first.fromProto ros)).NotAfter
      (timestamp.time (second.fromProto ros)) ↔
        shownNanoseconds (timestamp.microseconds first) ≤
          shownNanoseconds (timestamp.microseconds second) := by
    intro first second
    rw [time_fromProto ros first timestamp listed, time_fromProto ros second timestamp listed]
    exact notAfter_time_iff divides _ _
  refine ⟨?_, ordered, ?_⟩
  · intro referee small
    rw [time_fromProto ros referee timestamp listed]
    exact shows_time divides _ small
  · intro first second le small
    have le' := UInt64.le_iff_toNat_le.mp le
    rw [ordered, shownNanoseconds_of_small small,
      shownNanoseconds_of_small (Nat.lt_of_le_of_lt le' small)]
    omega

/-- A message with these two timestamps. -/
def stampedReferee (packetTimestamp commandTimestamp : UInt64) : Proto.Referee :=
  let team : Proto.TeamInfo := ⟨"", 0, 0, [], 0, 0, 0, 0, none, none, none, none, none, none, none,
    none, none⟩
  { packetTimestamp, stage := .normalFirstHalf, command := .stop, commandCounter := 1
    commandTimestamp, yellow := team, blue := team }

/-- A message of the year 2025 and one a second later. -/
theorem timestamps_exact_and_ordered_sample :
    let first := stampedReferee 1753000000123456 1752999990000000
    let second := stampedReferee 1753000001123456 1752999990000000
    (first.fromProto .sample).timestamp.Shows 1753000000123456 ∧
      (first.fromProto .sample).timestamp.NotAfter (second.fromProto .sample).timestamp := by
  intro first second
  have theorems := timestamps_exact_and_ordered .sample RosLibrary.dividesTime_sample .packet
    List.mem_cons_self
  exact ⟨theorems.1 first (by decide +kernel),
    theorems.2.2 first second (by decide +kernel) (by decide +kernel)⟩

/-- Two packets a microsecond apart around `2 ^ 31` seconds. -/
theorem not_ordered_past_int32 :
    let first := stampedReferee 2147483647999999 0
    let second := stampedReferee 2147483648000000 0
    first.packetTimestamp ≤ second.packetTimestamp ∧
      ¬ (first.fromProto .sample).timestamp.NotAfter (second.fromProto .sample).timestamp := by
  intro first second
  constructor
  · decide +kernel
  · decide +kernel

end SslRosBridge.MessageConversion
