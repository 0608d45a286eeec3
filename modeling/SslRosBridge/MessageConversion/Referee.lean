import SslRosBridge.MessageConversion.GameEvent
import SslRosBridge.MessageConversion.Numbers

/-!
# Conversion of a referee message

The messages of `ssl_gc_referee_message.proto` and `ssl_gc_common.proto` with
their overloads of `fromProto`.
-/

namespace SslRosBridge.MessageConversion

/-! ## League messages -/

namespace Proto

inductive MatchType where
  | unknownMatch
  | groupPhase
  | eliminationPhase
  | friendly
  deriving DecidableEq, Repr

def MatchType.number : MatchType → UInt8
  | .unknownMatch => 0
  | .groupPhase => 1
  | .eliminationPhase => 2
  | .friendly => 3

inductive Stage where
  | normalFirstHalfPre
  | normalFirstHalf
  | normalHalfTime
  | normalSecondHalfPre
  | normalSecondHalf
  | extraTimeBreak
  | extraFirstHalfPre
  | extraFirstHalf
  | extraHalfTime
  | extraSecondHalfPre
  | extraSecondHalf
  | penaltyShootoutBreak
  | penaltyShootout
  | postGame
  deriving DecidableEq, Repr

def Stage.number : Stage → UInt8
  | .normalFirstHalfPre => 0
  | .normalFirstHalf => 1
  | .normalHalfTime => 2
  | .normalSecondHalfPre => 3
  | .normalSecondHalf => 4
  | .extraTimeBreak => 5
  | .extraFirstHalfPre => 6
  | .extraFirstHalf => 7
  | .extraHalfTime => 8
  | .extraSecondHalfPre => 9
  | .extraSecondHalf => 10
  | .penaltyShootoutBreak => 11
  | .penaltyShootout => 12
  | .postGame => 13

inductive Command where
  | halt
  | stop
  | normalStart
  | forceStart
  | prepareKickoffYellow
  | prepareKickoffBlue
  | preparePenaltyYellow
  | preparePenaltyBlue
  | directFreeYellow
  | directFreeBlue
  | indirectFreeYellow
  | indirectFreeBlue
  | timeoutYellow
  | timeoutBlue
  | goalYellow
  | goalBlue
  | ballPlacementYellow
  | ballPlacementBlue
  deriving DecidableEq, Repr

def Command.number : Command → UInt8
  | .halt => 0
  | .stop => 1
  | .normalStart => 2
  | .forceStart => 3
  | .prepareKickoffYellow => 4
  | .prepareKickoffBlue => 5
  | .preparePenaltyYellow => 6
  | .preparePenaltyBlue => 7
  | .directFreeYellow => 8
  | .directFreeBlue => 9
  | .indirectFreeYellow => 10
  | .indirectFreeBlue => 11
  | .timeoutYellow => 12
  | .timeoutBlue => 13
  | .goalYellow => 14
  | .goalBlue => 15
  | .ballPlacementYellow => 16
  | .ballPlacementBlue => 17

/-- `Referee.Point`. -/
structure Point where
  x : Float32Bits
  y : Float32Bits
  deriving DecidableEq, Repr

/-- `Referee.TeamInfo`. -/
structure TeamInfo where
  name : String
  score : UInt32
  redCards : UInt32
  yellowCardTimes : List UInt32 := []
  yellowCards : UInt32
  timeouts : UInt32
  timeoutTime : UInt32
  goalkeeper : UInt32
  foulCounter : Option UInt32 := none
  ballPlacementFailures : Option UInt32 := none
  canPlaceBall : Option Bool := none
  maxAllowedBots : Option UInt32 := none
  botSubstitutionIntent : Option Bool := none
  ballPlacementFailuresReached : Option Bool := none
  botSubstitutionAllowed : Option Bool := none
  botSubstitutionsLeft : Option UInt32 := none
  botSubstitutionTimeLeft : Option UInt32 := none
  deriving DecidableEq, Repr

structure GameEventProposalGroup where
  id : Option String := none
  gameEvents : List GameEvent := []
  accepted : Option Bool := none
  deriving DecidableEq, Repr

structure Referee where
  sourceIdentifier : Option String := none
  matchType : Option MatchType := none
  packetTimestamp : UInt64
  stage : Stage
  stageTimeLeft : Option Int64 := none
  command : Command
  commandCounter : UInt32
  commandTimestamp : UInt64
  yellow : TeamInfo
  blue : TeamInfo
  designatedPosition : Option Point := none
  blueTeamOnPositiveHalf : Option Bool := none
  nextCommand : Option Command := none
  gameEvents : List GameEvent := []
  gameEventProposals : List GameEventProposalGroup := []
  currentActionTimeRemaining : Option Int64 := none
  statusMessage : Option String := none
  deriving DecidableEq, Repr

structure RobotId where
  id : Option UInt32 := none
  team : Option Team := none
  deriving DecidableEq, Repr

inductive Division where
  | divUnknown
  | divA
  | divB
  deriving DecidableEq, Repr

def Division.number : Division → UInt8
  | .divUnknown => 0
  | .divA => 1
  | .divB => 2

end Proto

/-! ## ROS messages -/

namespace Msg

structure TeamInfo where
  name : String := ""
  score : UInt32 := 0
  redCards : UInt32 := 0
  yellowCardTimes : List UInt32 := []
  yellowCards : UInt32 := 0
  timeouts : UInt32 := 0
  timeoutTime : UInt32 := 0
  goalkeeper : UInt32 := 0
  foulCounter : List UInt32 := []
  ballPlacementFailures : List UInt32 := []
  canPlaceBall : List Bool := []
  maxAllowedBots : List UInt32 := []
  botSubstitutionIntent : List Bool := []
  ballPlacementFailuresReached : List Bool := []
  botSubstitutionAllowed : List Bool := []
  botSubstitutionsLeft : List UInt32 := []
  botSubstitutionTimeLeft : List UInt32 := []
  deriving DecidableEq, Repr

structure GameEventProposalGroup where
  id : List String := []
  gameEvents : List GameEvent := []
  accepted : Bool := false
  deriving DecidableEq, Repr

structure Referee where
  sourceIdentifier : List String := []
  matchType : List UInt8 := []
  timestamp : Time := {}
  stage : UInt8 := 0
  stageTimeLeft : List Int64 := []
  command : UInt8 := 0
  commandCounter : UInt32 := 0
  commandTimestamp : Time := {}
  yellow : TeamInfo := {}
  blue : TeamInfo := {}
  designatedPosition : List Point32 := []
  blueTeamOnPositiveHalf : List Bool := []
  nextCommand : List UInt8 := []
  gameEvents : List GameEvent := []
  gameEventProposals : List GameEventProposalGroup := []
  currentActionTimeRemaining : List Int64 := []
  statusMessage : List String := []
  deriving DecidableEq, Repr

structure RobotId where
  id : List UInt32 := []
  team : List Team := []
  deriving DecidableEq, Repr

structure Division where
  division : UInt8 := 0
  deriving DecidableEq, Repr

end Msg

/-! ## Converters -/

/-- The macro `CopyOptionalEnum`. -/
def copyOptionalEnum {Enum : Type} (number : Enum → UInt8) (value : Option Enum) : List UInt8 :=
  (value.map number).toList

namespace Proto

def TeamInfo.fromProto (protoMsg : TeamInfo) : Msg.TeamInfo where
  name := protoMsg.name
  score := protoMsg.score
  redCards := protoMsg.redCards
  yellowCardTimes := protoMsg.yellowCardTimes
  yellowCards := protoMsg.yellowCards
  timeouts := protoMsg.timeouts
  timeoutTime := protoMsg.timeoutTime
  goalkeeper := protoMsg.goalkeeper
  foulCounter := copyOptional protoMsg.foulCounter
  ballPlacementFailures := copyOptional protoMsg.ballPlacementFailures
  canPlaceBall := copyOptional protoMsg.canPlaceBall
  maxAllowedBots := copyOptional protoMsg.maxAllowedBots
  botSubstitutionIntent := copyOptional protoMsg.botSubstitutionIntent
  ballPlacementFailuresReached := copyOptional protoMsg.ballPlacementFailuresReached
  botSubstitutionAllowed := copyOptional protoMsg.botSubstitutionAllowed
  botSubstitutionsLeft := copyOptional protoMsg.botSubstitutionsLeft
  botSubstitutionTimeLeft := copyOptional protoMsg.botSubstitutionTimeLeft

def GameEventProposalGroup.fromProto (protoMsg : GameEventProposalGroup) :
    Msg.GameEventProposalGroup where
  id := copyOptional protoMsg.id
  gameEvents := protoMsg.gameEvents.map GameEvent.fromProto
  accepted := protoMsg.accepted.getD false

/-- The designated position in metres. -/
def Point.fromProto (protoMsg : Point) : Msg.Point32 where
  x := protoMsg.x.dividedByThousand
  y := protoMsg.y.dividedByThousand

/-- Microseconds become nanoseconds modulo `2 ^ 64`. -/
def Referee.fromProto (ros : RosLibrary) (protoMsg : Referee) : Msg.Referee where
  sourceIdentifier := copyOptional protoMsg.sourceIdentifier
  matchType := copyOptionalEnum MatchType.number protoMsg.matchType
  timestamp := ros.time (protoMsg.packetTimestamp * 1000).toInt64
  stage := protoMsg.stage.number
  stageTimeLeft := copyOptional protoMsg.stageTimeLeft
  command := protoMsg.command.number
  commandCounter := protoMsg.commandCounter
  commandTimestamp := ros.time (protoMsg.commandTimestamp * 1000).toInt64
  yellow := protoMsg.yellow.fromProto
  blue := protoMsg.blue.fromProto
  designatedPosition := copyOptionalStruct Point.fromProto protoMsg.designatedPosition
  blueTeamOnPositiveHalf := copyOptional protoMsg.blueTeamOnPositiveHalf
  nextCommand := copyOptionalEnum Command.number protoMsg.nextCommand
  gameEvents := protoMsg.gameEvents.map GameEvent.fromProto
  gameEventProposals := protoMsg.gameEventProposals.map GameEventProposalGroup.fromProto
  currentActionTimeRemaining := copyOptional protoMsg.currentActionTimeRemaining
  statusMessage := copyOptional protoMsg.statusMessage

def Division.fromProto (protoMsg : Division) : Msg.Division where
  division := protoMsg.number

def RobotId.fromProto (protoMsg : RobotId) : Msg.RobotId where
  id := copyOptional protoMsg.id
  team := copyOptionalStruct Team.fromProto protoMsg.team

end Proto

end SslRosBridge.MessageConversion
