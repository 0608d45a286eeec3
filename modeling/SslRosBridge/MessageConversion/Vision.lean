import SslRosBridge.MessageConversion.Numbers
import SslRosBridge.MessageConversion.Payloads

/-!
# Conversion of a vision packet

The messages of `ssl_vision_detection.proto`, `ssl_vision_geometry.proto` and
`ssl_vision_wrapper.proto` with their overloads of `fromProto`.  Fields that no
converter reads are left out: the types of field shapes, the image sizes of a
camera and the ball models.
-/

namespace SslRosBridge.MessageConversion

/-! ## League messages -/

namespace Proto

structure SSLDetectionBall where
  confidence : Float32Bits
  area : Option UInt32 := none
  x : Float32Bits
  y : Float32Bits
  z : Option Float32Bits := none
  pixelX : Float32Bits
  pixelY : Float32Bits
  deriving DecidableEq, Repr

structure SSLDetectionRobot where
  confidence : Float32Bits
  robotId : Option UInt32 := none
  x : Float32Bits
  y : Float32Bits
  orientation : Option Float32Bits := none
  pixelX : Float32Bits
  pixelY : Float32Bits
  height : Option Float32Bits := none
  deriving DecidableEq, Repr

structure SSLDetectionFrame where
  frameNumber : UInt32
  tCapture : Float64Bits
  tSent : Float64Bits
  tCaptureCamera : Option Float64Bits := none
  cameraId : UInt32
  balls : List SSLDetectionBall := []
  robotsYellow : List SSLDetectionRobot := []
  robotsBlue : List SSLDetectionRobot := []
  deriving DecidableEq, Repr

structure Vector2f where
  x : Float32Bits
  y : Float32Bits
  deriving DecidableEq, Repr

structure SSLFieldLineSegment where
  name : String
  p1 : Vector2f
  p2 : Vector2f
  thickness : Float32Bits
  deriving DecidableEq, Repr

structure SSLFieldCircularArc where
  name : String
  center : Vector2f
  radius : Float32Bits
  a1 : Float32Bits
  a2 : Float32Bits
  thickness : Float32Bits
  deriving DecidableEq, Repr

structure SSLGeometryFieldSize where
  fieldLength : Int32
  fieldWidth : Int32
  goalWidth : Int32
  goalDepth : Int32
  boundaryWidth : Int32
  fieldLines : List SSLFieldLineSegment := []
  fieldArcs : List SSLFieldCircularArc := []
  penaltyAreaDepth : Option Int32 := none
  penaltyAreaWidth : Option Int32 := none
  centerCircleRadius : Option Int32 := none
  lineThickness : Option Int32 := none
  goalCenterToPenaltyMark : Option Int32 := none
  goalHeight : Option Int32 := none
  ballRadius : Option Float32Bits := none
  maxRobotRadius : Option Float32Bits := none
  deriving DecidableEq, Repr

structure SSLGeometryCameraCalibration where
  cameraId : UInt32
  focalLength : Float32Bits
  principalPointX : Float32Bits
  principalPointY : Float32Bits
  distortion : Float32Bits
  q0 : Float32Bits
  q1 : Float32Bits
  q2 : Float32Bits
  q3 : Float32Bits
  tx : Float32Bits
  ty : Float32Bits
  tz : Float32Bits
  derivedCameraWorldTx : Option Float32Bits := none
  derivedCameraWorldTy : Option Float32Bits := none
  derivedCameraWorldTz : Option Float32Bits := none
  deriving DecidableEq, Repr

structure SSLGeometryData where
  field : SSLGeometryFieldSize
  calib : List SSLGeometryCameraCalibration := []
  deriving DecidableEq, Repr

structure SSLWrapperPacket where
  detection : Option SSLDetectionFrame := none
  geometry : Option SSLGeometryData := none
  deriving DecidableEq, Repr

end Proto

/-! ## ROS messages -/

namespace Msg

/-- `geometry_msgs/Point`. -/
structure Point where
  x : Float64Bits := 0
  y : Float64Bits := 0
  z : Float64Bits := 0
  deriving DecidableEq, Repr

/-- `geometry_msgs/Pose`. -/
structure Pose where
  position : Point := {}
  orientation : Quaternion := {}
  deriving DecidableEq, Repr

structure VisionDetectionBall where
  confidence : Float32Bits := 0
  area : UInt32 := 0
  pos : Point32 := {}
  pixel : Point32 := {}
  deriving DecidableEq, Repr

structure VisionDetectionRobot where
  confidence : Float32Bits := 0
  robotId : UInt32 := 0
  pose : Pose := {}
  pixel : Point32 := {}
  height : Float32Bits := 0
  deriving DecidableEq, Repr

structure VisionDetectionFrame where
  frameNumber : UInt32 := 0
  tCapture : Time := {}
  tSent : Time := {}
  tCaptureCamera : Time := {}
  cameraId : UInt32 := 0
  balls : List VisionDetectionBall := []
  robotsYellow : List VisionDetectionRobot := []
  robotsBlue : List VisionDetectionRobot := []
  deriving DecidableEq, Repr

structure VisionFieldLineSegment where
  name : String := ""
  p1 : Point32 := {}
  p2 : Point32 := {}
  thickness : Float32Bits := 0
  deriving DecidableEq, Repr

structure VisionFieldCircularArc where
  name : String := ""
  center : Point32 := {}
  radius : Float32Bits := 0
  a1 : Float32Bits := 0
  a2 : Float32Bits := 0
  thickness : Float32Bits := 0
  deriving DecidableEq, Repr

structure VisionGeometryFieldSize where
  fieldLength : Float32Bits := 0
  fieldWidth : Float32Bits := 0
  goalWidth : Float32Bits := 0
  goalDepth : Float32Bits := 0
  boundaryWidth : Float32Bits := 0
  fieldLines : List VisionFieldLineSegment := []
  fieldArcs : List VisionFieldCircularArc := []
  penaltyAreaDepth : Float32Bits := 0
  penaltyAreaWidth : Float32Bits := 0
  centerCircleRadius : Float32Bits := 0
  lineThickness : Float32Bits := 0
  goalCenterToPenaltyMark : Float32Bits := 0
  goalHeight : Float32Bits := 0
  ballRadius : Float32Bits := 0
  maxRobotRadius : Float32Bits := 0
  deriving DecidableEq, Repr

structure VisionGeometryCameraCalibration where
  cameraId : UInt32 := 0
  focalLength : Float32Bits := 0
  principalPoint : Point32 := {}
  distortion : Float32Bits := 0
  pose : Pose := {}
  derivedCameraWorldT : Point32 := {}
  deriving DecidableEq, Repr

structure VisionGeometryData where
  field : VisionGeometryFieldSize := {}
  calibration : List VisionGeometryCameraCalibration := []
  deriving DecidableEq, Repr

structure VisionWrapper where
  detection : List VisionDetectionFrame := []
  geometry : List VisionGeometryData := []
  deriving DecidableEq, Repr

end Msg

/-! ## Converters -/

namespace Proto

def SSLDetectionBall.fromProto (protoMsg : SSLDetectionBall) : Msg.VisionDetectionBall where
  confidence := protoMsg.confidence
  area := protoMsg.area.getD 0
  pos :=
    { x := protoMsg.x.toMeters
      y := protoMsg.y.toMeters
      z := Float32Bits.toMeters (protoMsg.z.getD 0) }
  pixel := { x := protoMsg.pixelX, y := protoMsg.pixelY }

def SSLDetectionRobot.fromProto (ros : RosLibrary) (protoMsg : SSLDetectionRobot) :
    Msg.VisionDetectionRobot where
  confidence := protoMsg.confidence
  robotId := protoMsg.robotId.getD 0
  pose :=
    { position :=
        { x := protoMsg.x.toMeters.widen
          y := protoMsg.y.toMeters.widen
          z := 0 }
      orientation := ros.rotationAboutZ (protoMsg.orientation.getD 0) }
  pixel := { x := protoMsg.pixelX, y := protoMsg.pixelY }
  height := protoMsg.height.getD 0

def SSLDetectionFrame.fromProto (ros : RosLibrary) (protoMsg : SSLDetectionFrame) :
    Msg.VisionDetectionFrame where
  frameNumber := protoMsg.frameNumber
  tCapture := ros.time protoMsg.tCapture.nanoseconds
  tSent := ros.time protoMsg.tSent.nanoseconds
  tCaptureCamera := ros.time (Float64Bits.nanoseconds (protoMsg.tCaptureCamera.getD 0))
  cameraId := protoMsg.cameraId
  balls := protoMsg.balls.map SSLDetectionBall.fromProto
  robotsYellow := protoMsg.robotsYellow.map (SSLDetectionRobot.fromProto ros)
  robotsBlue := protoMsg.robotsBlue.map (SSLDetectionRobot.fromProto ros)

/-- A point of the field in metres. -/
def Vector2f.toMeters (protoMsg : Vector2f) : Msg.Point32 where
  x := protoMsg.x.toMeters
  y := protoMsg.y.toMeters

def SSLFieldLineSegment.fromProto (protoMsg : SSLFieldLineSegment) :
    Msg.VisionFieldLineSegment where
  name := protoMsg.name
  p1 := protoMsg.p1.toMeters
  p2 := protoMsg.p2.toMeters
  thickness := protoMsg.thickness.toMeters

def SSLFieldCircularArc.fromProto (protoMsg : SSLFieldCircularArc) :
    Msg.VisionFieldCircularArc where
  name := protoMsg.name
  center := protoMsg.center.toMeters
  radius := protoMsg.radius.toMeters
  a1 := protoMsg.a1
  a2 := protoMsg.a2
  thickness := protoMsg.thickness.toMeters

def SSLGeometryFieldSize.fromProto (protoMsg : SSLGeometryFieldSize) :
    Msg.VisionGeometryFieldSize where
  fieldLength := toMeters protoMsg.fieldLength
  fieldWidth := toMeters protoMsg.fieldWidth
  goalWidth := toMeters protoMsg.goalWidth
  goalDepth := toMeters protoMsg.goalDepth
  boundaryWidth := toMeters protoMsg.boundaryWidth
  fieldLines := protoMsg.fieldLines.map SSLFieldLineSegment.fromProto
  fieldArcs := protoMsg.fieldArcs.map SSLFieldCircularArc.fromProto
  penaltyAreaDepth := toMeters (protoMsg.penaltyAreaDepth.getD 0)
  penaltyAreaWidth := toMeters (protoMsg.penaltyAreaWidth.getD 0)
  centerCircleRadius := toMeters (protoMsg.centerCircleRadius.getD 0)
  lineThickness := toMeters (protoMsg.lineThickness.getD 0)
  goalCenterToPenaltyMark := toMeters (protoMsg.goalCenterToPenaltyMark.getD 0)
  goalHeight := toMeters (protoMsg.goalHeight.getD 0)
  ballRadius := Float32Bits.toMeters (protoMsg.ballRadius.getD 0)
  maxRobotRadius := Float32Bits.toMeters (protoMsg.maxRobotRadius.getD 0)

def SSLGeometryCameraCalibration.fromProto (protoMsg : SSLGeometryCameraCalibration) :
    Msg.VisionGeometryCameraCalibration where
  cameraId := protoMsg.cameraId
  focalLength := protoMsg.focalLength
  principalPoint := { x := protoMsg.principalPointX, y := protoMsg.principalPointY }
  distortion := protoMsg.distortion
  pose :=
    { position :=
        { x := protoMsg.tx.toMeters.widen
          y := protoMsg.ty.toMeters.widen
          z := protoMsg.tz.toMeters.widen }
      orientation :=
        { x := protoMsg.q0.widen
          y := protoMsg.q1.widen
          z := protoMsg.q2.widen
          w := protoMsg.q3.widen } }
  derivedCameraWorldT :=
    { x := Float32Bits.toMeters (protoMsg.derivedCameraWorldTx.getD 0)
      y := Float32Bits.toMeters (protoMsg.derivedCameraWorldTy.getD 0)
      z := Float32Bits.toMeters (protoMsg.derivedCameraWorldTz.getD 0) }

def SSLGeometryData.fromProto (protoMsg : SSLGeometryData) : Msg.VisionGeometryData where
  field := protoMsg.field.fromProto
  calibration := protoMsg.calib.map SSLGeometryCameraCalibration.fromProto

def SSLWrapperPacket.fromProto (ros : RosLibrary) (protoMsg : SSLWrapperPacket) :
    Msg.VisionWrapper where
  detection := (protoMsg.detection.map (SSLDetectionFrame.fromProto ros)).toList
  geometry := (protoMsg.geometry.map SSLGeometryData.fromProto).toList

end Proto

end SslRosBridge.MessageConversion
