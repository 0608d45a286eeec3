import SslRosBridge.MessageConversion.FrameTimes
import SslRosBridge.MessageConversion.RefereeFidelity

/-!
# What a converted vision packet tells

Two vision packets with the same conversion show the same scene: fields that
are copied agree up to their defaults, lists agree in number and order, and
lengths and times agree up to the accuracy of their conversion.  The turn of a
robot is told only as far as `tf2` goes.
-/

namespace SslRosBridge.MessageConversion

open Library Library.Rounding

/-! ## Lengths -/

/-- Two lengths that agree up to four parts in ten million and `2 ^ (-138)`. -/
def AlikeLengths (first second : Option ℚ) : Prop :=
  Option.Rel (fun millimetres other =>
    |millimetres - other| ≤ (|millimetres| + |other|) / 5000000 + 2 ^ (-138 : ℤ)) first second

theorem alikeLengths_of_metresOf {first second : Option ℚ}
    (same : first.map metresOf = second.map metresOf) : AlikeLengths first second := by
  cases first with
  | none =>
      cases second with
      | none => exact Option.Rel.none
      | some other => cases same
  | some millimetres =>
      cases second with
      | none => cases same
      | some other =>
          have metres : metresOf millimetres = metresOf other := Option.some.inj same
          have least : (2 : ℚ) ^ (-138 : ℤ) = 2048 * 2 ^ (-149 : ℤ) := by norm_num
          have power : (0 : ℚ) < 2 ^ (-149 : ℤ) := zpow_pos two_pos _
          have close := abs_le.mp (abs_metresOf_sub_le millimetres)
          have close' := abs_le.mp (abs_metresOf_sub_le other)
          rw [metres] at close
          refine Option.Rel.some (abs_le.mpr ?_)
          rw [least]
          constructor <;> linarith

theorem Length.Converted.alike {ProtoType RosType : Type} {fromProto : ProtoType → RosType}
    {length : Length ProtoType RosType} (converted : length.Converted fromProto)
    {first second : ProtoType} (same : fromProto first = fromProto second) :
    AlikeLengths (length.millimetres first) (length.millimetres second) := by
  apply alikeLengths_of_metresOf
  rw [← converted first, ← converted second, same]

/-- Whole millimetres of less than 2.4 kilometres are told apart. -/
theorem eq_of_toMeters {first second : Int32} (short : first.toInt.natAbs < 2400000)
    (same : toMeters first = toMeters second) : first = second := by
  have metres := congrArg Float32Bits.number same
  rw [number_toMeters, number_toMeters] at metres
  obtain ⟨close⟩ : AlikeLengths (some (first.toInt : ℚ)) (some (second.toInt : ℚ)) :=
    alikeLengths_of_metresOf metres
  apply Int32.toInt_inj.mp
  by_contra different
  have apart : (1 : ℚ) ≤ |(first.toInt : ℚ) - second.toInt| := by
    exact_mod_cast Int.one_le_abs (sub_ne_zero.mpr different)
  have short' : |(first.toInt : ℚ)| < 2400000 := by
    rw [← Int.cast_abs, Int.abs_eq_natAbs]
    exact_mod_cast short
  have size : |(second.toInt : ℚ)| ≤ |(first.toInt : ℚ)| + |(first.toInt : ℚ) - second.toInt| := by
    rw [abs_sub_comm]
    simpa using abs_add_le (first.toInt : ℚ) (second.toInt - first.toInt)
  have least : (2 : ℚ) ^ (-138 : ℤ) ≤ 1 / 100 := by norm_num
  linarith

/-! ## Lists and options -/

section Told

variable {ProtoType RosType : Type} {fromProto : ProtoType → RosType}
  {Same : ProtoType → ProtoType → Prop}

theorem forall₂_of_told (told : ∀ {first second}, fromProto first = fromProto second →
      Same first second) {first second : List ProtoType}
    (same : first.map fromProto = second.map fromProto) : List.Forall₂ Same first second :=
  (forall₂_of_map same).imp fun _ _ => told

theorem rel_of_told (told : ∀ {first second}, fromProto first = fromProto second →
      Same first second) {first second : Option ProtoType}
    (same : (first.map fromProto).toList = (second.map fromProto).toList) :
    Option.Rel Same first second := by
  cases first with
  | none =>
      cases second with
      | none => exact Option.Rel.none
      | some => cases same
  | some =>
      cases second with
      | none => cases same
      | some => exact Option.Rel.some (told (List.cons.inj same).1)

end Told

namespace Proto

/-! ## Detections -/

structure SSLDetectionBall.SameBall (first second : SSLDetectionBall) : Prop where
  confidence : first.confidence = second.confidence
  area : first.area.getD 0 = second.area.getD 0
  pixelX : first.pixelX = second.pixelX
  pixelY : first.pixelY = second.pixelY
  lengths : ∀ length ∈ lengths, AlikeLengths (length.millimetres first) (length.millimetres second)

structure SSLDetectionRobot.SameRobot (first second : SSLDetectionRobot) : Prop where
  confidence : first.confidence = second.confidence
  robotId : first.robotId.getD 0 = second.robotId.getD 0
  pixelX : first.pixelX = second.pixelX
  pixelY : first.pixelY = second.pixelY
  height : first.height.getD 0 = second.height.getD 0
  lengths : ∀ length ∈ lengths, AlikeLengths (length.millimetres first) (length.millimetres second)

/-- The frames agree in what was seen, and in times within the range of a ROS time. -/
structure SSLDetectionFrame.SameFrame (first second : SSLDetectionFrame) : Prop where
  frameNumber : first.frameNumber = second.frameNumber
  cameraId : first.cameraId = second.cameraId
  times : ∀ frameTime ∈ frameTimes, ∀ seconds other,
    (frameTime.seconds first).number = some seconds →
      (frameTime.seconds second).number = some other → |seconds| ≤ 2147483647 →
        |other| ≤ 2147483647 → |seconds - other| * 1000000000 < 480
  balls : List.Forall₂ SSLDetectionBall.SameBall first.balls second.balls
  robotsYellow :
    List.Forall₂ SSLDetectionRobot.SameRobot first.robotsYellow second.robotsYellow
  robotsBlue : List.Forall₂ SSLDetectionRobot.SameRobot first.robotsBlue second.robotsBlue

theorem SSLDetectionBall.sameBall_of_fromProto {first second : SSLDetectionBall}
    (same : first.fromProto = second.fromProto) : first.SameBall second where
  confidence := congrArg (·.confidence) same
  area := congrArg (·.area) same
  pixelX := congrArg (·.pixel.x) same
  pixelY := congrArg (·.pixel.y) same
  lengths length listed := (lengths_converted length listed).alike same

theorem SSLDetectionRobot.sameRobot_of_fromProto {ros : RosLibrary}
    {first second : SSLDetectionRobot} (same : first.fromProto ros = second.fromProto ros) :
    first.SameRobot second where
  confidence := congrArg (·.confidence) same
  robotId := congrArg (·.robotId) same
  pixelX := congrArg (·.pixel.x) same
  pixelY := congrArg (·.pixel.y) same
  height := congrArg (·.height) same
  lengths length listed := (lengths_converted ros length listed).alike same

theorem SSLDetectionFrame.sameFrame_of_fromProto {ros : RosLibrary} (divides : ros.DividesTime)
    {first second : SSLDetectionFrame} (same : first.fromProto ros = second.fromProto ros) :
    first.SameFrame second where
  frameNumber := congrArg (·.frameNumber) same
  cameraId := congrArg (·.cameraId) same
  times frameTime listed seconds other stands stands' shown shown' := by
    have equal := congrArg (fun frame => (frameTime.time frame).total) same
    simp only [frameTime_fromProto ros _ frameTime listed,
      total_nanoseconds divides stands shown, total_nanoseconds divides stands' shown'] at equal
    have close := abs_lt.mp (abs_nanosecondsAt_sub_lt shown)
    have close' := abs_lt.mp (abs_nanosecondsAt_sub_lt shown')
    rw [equal] at close
    rw [← abs_of_pos (by norm_num : (0 : ℚ) < 1000000000), ← abs_mul, abs_lt]
    constructor <;> linarith
  balls :=
    forall₂_of_told SSLDetectionBall.sameBall_of_fromProto (congrArg (·.balls) same)
  robotsYellow :=
    forall₂_of_told SSLDetectionRobot.sameRobot_of_fromProto (congrArg (·.robotsYellow) same)
  robotsBlue :=
    forall₂_of_told SSLDetectionRobot.sameRobot_of_fromProto (congrArg (·.robotsBlue) same)

/-! ## Geometry -/

structure SSLFieldLineSegment.SameLine (first second : SSLFieldLineSegment) : Prop where
  name : first.name = second.name
  lengths : ∀ length ∈ lengths, AlikeLengths (length.millimetres first) (length.millimetres second)

structure SSLFieldCircularArc.SameArc (first second : SSLFieldCircularArc) : Prop where
  name : first.name = second.name
  a1 : first.a1 = second.a1
  a2 : first.a2 = second.a2
  lengths : ∀ length ∈ lengths, AlikeLengths (length.millimetres first) (length.millimetres second)

/-- The integer lengths of a field. -/
def SSLGeometryFieldSize.dimensions : List (SSLGeometryFieldSize → Int32) :=
  [(·.fieldLength), (·.fieldWidth), (·.goalWidth), (·.goalDepth), (·.boundaryWidth),
    (·.penaltyAreaDepth.getD 0), (·.penaltyAreaWidth.getD 0), (·.centerCircleRadius.getD 0),
    (·.lineThickness.getD 0), (·.goalCenterToPenaltyMark.getD 0), (·.goalHeight.getD 0)]

structure SSLGeometryFieldSize.SameField (first second : SSLGeometryFieldSize) : Prop where
  dimensions : ∀ dimension ∈ dimensions, (dimension first).toInt.natAbs < 2400000 →
    dimension first = dimension second
  lengths : ∀ length ∈ lengths, AlikeLengths (length.millimetres first) (length.millimetres second)
  fieldLines : List.Forall₂ SSLFieldLineSegment.SameLine first.fieldLines second.fieldLines
  fieldArcs : List.Forall₂ SSLFieldCircularArc.SameArc first.fieldArcs second.fieldArcs

structure SSLGeometryCameraCalibration.SameCamera (first second : SSLGeometryCameraCalibration) :
    Prop where
  cameraId : first.cameraId = second.cameraId
  focalLength : first.focalLength = second.focalLength
  principalPointX : first.principalPointX = second.principalPointX
  principalPointY : first.principalPointY = second.principalPointY
  distortion : first.distortion = second.distortion
  q0 : first.q0.number = second.q0.number
  q1 : first.q1.number = second.q1.number
  q2 : first.q2.number = second.q2.number
  q3 : first.q3.number = second.q3.number
  lengths : ∀ length ∈ lengths, AlikeLengths (length.millimetres first) (length.millimetres second)

structure SSLGeometryData.SameGeometry (first second : SSLGeometryData) : Prop where
  field : first.field.SameField second.field
  calib : List.Forall₂ SSLGeometryCameraCalibration.SameCamera first.calib second.calib

theorem SSLFieldLineSegment.sameLine_of_fromProto {first second : SSLFieldLineSegment}
    (same : first.fromProto = second.fromProto) : first.SameLine second where
  name := congrArg (·.name) same
  lengths length listed := (lengths_converted length listed).alike same

theorem SSLFieldCircularArc.sameArc_of_fromProto {first second : SSLFieldCircularArc}
    (same : first.fromProto = second.fromProto) : first.SameArc second where
  name := congrArg (·.name) same
  a1 := congrArg (·.a1) same
  a2 := congrArg (·.a2) same
  lengths length listed := (lengths_converted length listed).alike same

theorem SSLGeometryFieldSize.dimensions_toMeters {first second : SSLGeometryFieldSize}
    (same : first.fromProto = second.fromProto) :
    ∀ dimension ∈ dimensions, toMeters (dimension first) = toMeters (dimension second) := by
  simp only [dimensions, List.forall_mem_cons, List.not_mem_nil, false_implies, implies_true,
    and_true]
  exact ⟨congrArg (·.fieldLength) same, congrArg (·.fieldWidth) same, congrArg (·.goalWidth) same,
    congrArg (·.goalDepth) same, congrArg (·.boundaryWidth) same,
    congrArg (·.penaltyAreaDepth) same, congrArg (·.penaltyAreaWidth) same,
    congrArg (·.centerCircleRadius) same, congrArg (·.lineThickness) same,
    congrArg (·.goalCenterToPenaltyMark) same, congrArg (·.goalHeight) same⟩

theorem SSLGeometryFieldSize.sameField_of_fromProto {first second : SSLGeometryFieldSize}
    (same : first.fromProto = second.fromProto) : first.SameField second where
  dimensions dimension listed short :=
    eq_of_toMeters short (dimensions_toMeters same dimension listed)
  lengths length listed := (lengths_converted length listed).alike same
  fieldLines :=
    forall₂_of_told SSLFieldLineSegment.sameLine_of_fromProto (congrArg (·.fieldLines) same)
  fieldArcs :=
    forall₂_of_told SSLFieldCircularArc.sameArc_of_fromProto (congrArg (·.fieldArcs) same)

theorem number_of_widen {first second : Float32Bits} (same : first.widen = second.widen) :
    first.number = second.number := by
  rw [← first.number_widen, same, second.number_widen]

theorem SSLGeometryCameraCalibration.sameCamera_of_fromProto
    {first second : SSLGeometryCameraCalibration} (same : first.fromProto = second.fromProto) :
    first.SameCamera second where
  cameraId := congrArg (·.cameraId) same
  focalLength := congrArg (·.focalLength) same
  principalPointX := congrArg (·.principalPoint.x) same
  principalPointY := congrArg (·.principalPoint.y) same
  distortion := congrArg (·.distortion) same
  q0 := number_of_widen (congrArg (·.pose.orientation.x) same)
  q1 := number_of_widen (congrArg (·.pose.orientation.y) same)
  q2 := number_of_widen (congrArg (·.pose.orientation.z) same)
  q3 := number_of_widen (congrArg (·.pose.orientation.w) same)
  lengths length listed := (lengths_converted length listed).alike same

theorem SSLGeometryData.sameGeometry_of_fromProto {first second : SSLGeometryData}
    (same : first.fromProto = second.fromProto) : first.SameGeometry second where
  field := SSLGeometryFieldSize.sameField_of_fromProto (congrArg (·.field) same)
  calib :=
    forall₂_of_told SSLGeometryCameraCalibration.sameCamera_of_fromProto
      (congrArg (·.calibration) same)

/-! ## Packets -/

/-- The packets have the same parts, and these show the same. -/
structure SSLWrapperPacket.SameScene (first second : SSLWrapperPacket) : Prop where
  detection : Option.Rel SSLDetectionFrame.SameFrame first.detection second.detection
  geometry : Option.Rel SSLGeometryData.SameGeometry first.geometry second.geometry

/--
Vision packets are told apart by their conversion in everything that makes up
the scene, up to the accuracy of lengths and times.
-/
theorem SSLWrapperPacket.sameScene_of_fromProto (ros : RosLibrary) (divides : ros.DividesTime)
    (first second : SSLWrapperPacket) (same : first.fromProto ros = second.fromProto ros) :
    first.SameScene second := by
  constructor
  · exact rel_of_told (SSLDetectionFrame.sameFrame_of_fromProto divides)
      (congrArg (·.detection) same)
  · exact rel_of_told SSLGeometryData.sameGeometry_of_fromProto (congrArg (·.geometry) same)

/-- Two balls about a metre away, less than a ten-thousandth of a millimetre apart. -/
theorem SSLWrapperPacket.sameScene_of_fromProto_balls :
    let seen : Float32Bits → SSLWrapperPacket := fun x =>
      { detection := some
          { frameNumber := 0, tCapture := 0, tSent := 0, cameraId := 0,
            balls := [{ confidence := 0, x := x, y := 0, pixelX := 0, pixelY := 0 }] } }
    seen 0x447A0001 ≠ seen 0x447A0002 ∧ (seen 0x447A0001).SameScene (seen 0x447A0002) := by
  intro seen
  constructor
  · intro same
    cases congrArg (fun packet => packet.detection.map fun frame => frame.balls.map (·.x)) same
  · exact sameScene_of_fromProto .sample RosLibrary.dividesTime_sample _ _ (by decide +kernel)

end Proto

end SslRosBridge.MessageConversion
