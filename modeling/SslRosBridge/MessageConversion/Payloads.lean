import SslRosBridge.MessageConversion.Msg

/-!
# Conversion of the payloads

The overloads of `fromProto` for the payloads of a game event.  A field that a
converter does not mention keeps its default.
-/

namespace SslRosBridge.MessageConversion

/-- The macro `CopyOptional`. -/
def copyOptional {Value : Type} (value : Option Value) : List Value := value.toList

/-- The macro `CopyOptionalStruct`. -/
def copyOptionalStruct {ProtoType RosType : Type} (fromProto : ProtoType → RosType)
    (value : Option ProtoType) : List RosType :=
  (value.map fromProto).toList

namespace Proto

/-- `fromProto(Vector2)`; the third coordinate keeps its default. -/
def Vector2.fromProto (protoMsg : Vector2) : Msg.Point32 where
  x := protoMsg.x
  y := protoMsg.y

def Team.number : Team → UInt8
  | .unknown => 0
  | .yellow => 1
  | .blue => 2

def Team.fromProto (protoMsg : Team) : Msg.Team where
  color := protoMsg.number

def AimlessKick.fromProto (protoMsg : AimlessKick) : Msg.AimlessKick where
  byTeam := protoMsg.byTeam.fromProto
  byBot := copyOptional protoMsg.byBot
  location := copyOptionalStruct Vector2.fromProto protoMsg.location
  kickLocation := copyOptionalStruct Vector2.fromProto protoMsg.kickLocation

def AttackerDoubleTouchedBall.fromProto (protoMsg : AttackerDoubleTouchedBall) :
    Msg.AttackerDoubleTouchedBall where
  byTeam := protoMsg.byTeam.fromProto
  byBot := copyOptional protoMsg.byBot
  location := copyOptionalStruct Vector2.fromProto protoMsg.location

def AttackerTooCloseToDefenseArea.fromProto (protoMsg : AttackerTooCloseToDefenseArea) :
    Msg.AttackerTooCloseToDefenseArea where
  byTeam := protoMsg.byTeam.fromProto
  byBot := copyOptional protoMsg.byBot
  location := copyOptionalStruct Vector2.fromProto protoMsg.location
  distance := copyOptional protoMsg.distance
  ballLocation := copyOptionalStruct Vector2.fromProto protoMsg.ballLocation

def AttackerTouchedBallInDefenseArea.fromProto (protoMsg : AttackerTouchedBallInDefenseArea) :
    Msg.AttackerTouchedBallInDefenseArea where
  byTeam := protoMsg.byTeam.fromProto
  byBot := copyOptional protoMsg.byBot
  location := copyOptionalStruct Vector2.fromProto protoMsg.location
  distance := copyOptional protoMsg.distance

def AttackerTouchedOpponentInDefenseArea.fromProto
    (protoMsg : AttackerTouchedOpponentInDefenseArea) :
    Msg.AttackerTouchedOpponentInDefenseArea where
  byTeam := protoMsg.byTeam.fromProto
  byBot := copyOptional protoMsg.byBot
  victim := copyOptional protoMsg.victim
  location := copyOptionalStruct Vector2.fromProto protoMsg.location

def BallLeftField.fromProto (protoMsg : BallLeftField) : Msg.BallLeftField where
  byTeam := protoMsg.byTeam.fromProto
  byBot := copyOptional protoMsg.byBot
  location := copyOptionalStruct Vector2.fromProto protoMsg.location

def BotCrashDrawn.fromProto (protoMsg : BotCrashDrawn) : Msg.BotCrashDrawn where
  botYellow := copyOptional protoMsg.botYellow
  botBlue := copyOptional protoMsg.botBlue
  location := copyOptionalStruct Vector2.fromProto protoMsg.location
  crashSpeed := copyOptional protoMsg.crashSpeed
  speedDiff := copyOptional protoMsg.speedDiff
  crashAngle := copyOptional protoMsg.crashAngle

def BotCrashUnique.fromProto (protoMsg : BotCrashUnique) : Msg.BotCrashUnique where
  byTeam := protoMsg.byTeam.fromProto
  violator := copyOptional protoMsg.violator
  victim := copyOptional protoMsg.victim
  location := copyOptionalStruct Vector2.fromProto protoMsg.location
  crashSpeed := copyOptional protoMsg.crashSpeed
  speedDiff := copyOptional protoMsg.speedDiff
  crashAngle := copyOptional protoMsg.crashAngle

def BotDribbledBallTooFar.fromProto (protoMsg : BotDribbledBallTooFar) :
    Msg.BotDribbledBallTooFar where
  byTeam := protoMsg.byTeam.fromProto
  byBot := copyOptional protoMsg.byBot
  start := copyOptionalStruct Vector2.fromProto protoMsg.start
  «end» := copyOptionalStruct Vector2.fromProto protoMsg.«end»

def BotHeldBallDeliberately.fromProto (protoMsg : BotHeldBallDeliberately) :
    Msg.BotHeldBallDeliberately where
  byTeam := protoMsg.byTeam.fromProto
  byBot := copyOptional protoMsg.byBot
  location := copyOptionalStruct Vector2.fromProto protoMsg.location
  duration := copyOptional protoMsg.duration

def BotInterferedPlacement.fromProto (protoMsg : BotInterferedPlacement) :
    Msg.BotInterferedPlacement where
  byTeam := protoMsg.byTeam.fromProto
  byBot := copyOptional protoMsg.byBot
  location := copyOptionalStruct Vector2.fromProto protoMsg.location

def BotKickedBallTooFast.fromProto (protoMsg : BotKickedBallTooFast) :
    Msg.BotKickedBallTooFast where
  byTeam := protoMsg.byTeam.fromProto
  byBot := copyOptional protoMsg.byBot
  location := copyOptionalStruct Vector2.fromProto protoMsg.location
  initialBallSpeed := copyOptional protoMsg.initialBallSpeed
  chipped := copyOptional protoMsg.chipped

def BotPushedBot.fromProto (protoMsg : BotPushedBot) : Msg.BotPushedBot where
  byTeam := protoMsg.byTeam.fromProto
  violator := copyOptional protoMsg.violator
  victim := copyOptional protoMsg.victim
  location := copyOptionalStruct Vector2.fromProto protoMsg.location
  pushedDistance := copyOptional protoMsg.pushedDistance

def BotSubstitution.fromProto (protoMsg : BotSubstitution) : Msg.BotSubstitution where
  byTeam := protoMsg.byTeam.fromProto

def BotTippedOver.fromProto (protoMsg : BotTippedOver) : Msg.BotTippedOver where
  byTeam := protoMsg.byTeam.fromProto
  byBot := copyOptional protoMsg.byBot
  location := copyOptionalStruct Vector2.fromProto protoMsg.location
  ballLocation := copyOptionalStruct Vector2.fromProto protoMsg.ballLocation

def BotTooFastInStop.fromProto (protoMsg : BotTooFastInStop) : Msg.BotTooFastInStop where
  byTeam := protoMsg.byTeam.fromProto
  byBot := copyOptional protoMsg.byBot
  location := copyOptionalStruct Vector2.fromProto protoMsg.location
  speed := copyOptional protoMsg.speed

def BoundaryCrossing.fromProto (protoMsg : BoundaryCrossing) : Msg.BoundaryCrossing where
  byTeam := protoMsg.byTeam.fromProto
  location := copyOptionalStruct Vector2.fromProto protoMsg.location

def ChallengeFlag.fromProto (protoMsg : ChallengeFlag) : Msg.ChallengeFlag where
  byTeam := protoMsg.byTeam.fromProto

def ChippedGoal.fromProto (protoMsg : ChippedGoal) : Msg.ChippedGoal where
  byTeam := protoMsg.byTeam.fromProto
  byBot := copyOptional protoMsg.byBot
  location := copyOptionalStruct Vector2.fromProto protoMsg.location
  kickLocation := copyOptionalStruct Vector2.fromProto protoMsg.kickLocation
  maxBallHeight := copyOptional protoMsg.maxBallHeight

def DefenderInDefenseArea.fromProto (protoMsg : DefenderInDefenseArea) :
    Msg.DefenderInDefenseArea where
  byTeam := protoMsg.byTeam.fromProto
  byBot := copyOptional protoMsg.byBot
  location := copyOptionalStruct Vector2.fromProto protoMsg.location
  distance := copyOptional protoMsg.distance

def DefenderInDefenseAreaPartially.fromProto (protoMsg : DefenderInDefenseAreaPartially) :
    Msg.DefenderInDefenseAreaPartially where
  byTeam := protoMsg.byTeam.fromProto
  byBot := copyOptional protoMsg.byBot
  location := copyOptionalStruct Vector2.fromProto protoMsg.location
  distance := copyOptional protoMsg.distance
  ballLocation := copyOptionalStruct Vector2.fromProto protoMsg.ballLocation

def DefenderTooCloseToKickPoint.fromProto (protoMsg : DefenderTooCloseToKickPoint) :
    Msg.DefenderTooCloseToKickPoint where
  byTeam := protoMsg.byTeam.fromProto
  byBot := copyOptional protoMsg.byBot
  location := copyOptionalStruct Vector2.fromProto protoMsg.location
  distance := copyOptional protoMsg.distance

def EmergencyStop.fromProto (protoMsg : EmergencyStop) : Msg.EmergencyStop where
  byTeam := protoMsg.byTeam.fromProto

def Goal.fromProto (protoMsg : Goal) : Msg.Goal where
  byTeam := protoMsg.byTeam.fromProto
  kickingTeam := copyOptionalStruct Team.fromProto protoMsg.kickingTeam
  kickingBot := copyOptional protoMsg.kickingBot
  location := copyOptionalStruct Vector2.fromProto protoMsg.location
  kickLocation := copyOptionalStruct Vector2.fromProto protoMsg.kickLocation
  maxBallHeight := copyOptional protoMsg.maxBallHeight
  numRobotsByTeam := copyOptional protoMsg.numRobotsByTeam
  lastTouchByTeam := copyOptional protoMsg.lastTouchByTeam
  message := copyOptional protoMsg.message

def IndirectGoal.fromProto (protoMsg : IndirectGoal) : Msg.IndirectGoal where
  byTeam := protoMsg.byTeam.fromProto
  byBot := copyOptional protoMsg.byBot
  location := copyOptionalStruct Vector2.fromProto protoMsg.location
  kickLocation := copyOptionalStruct Vector2.fromProto protoMsg.kickLocation

def KeeperHeldBall.fromProto (protoMsg : KeeperHeldBall) : Msg.KeeperHeldBall where
  byTeam := protoMsg.byTeam.fromProto
  location := copyOptionalStruct Vector2.fromProto protoMsg.location
  duration := copyOptional protoMsg.duration

def KickTimeout.fromProto (protoMsg : KickTimeout) : Msg.KickTimeout where
  byTeam := protoMsg.byTeam.fromProto
  location := copyOptionalStruct Vector2.fromProto protoMsg.location
  time := copyOptional protoMsg.time

def MultipleCards.fromProto (protoMsg : MultipleCards) : Msg.MultipleCards where
  byTeam := protoMsg.byTeam.fromProto

def MultipleFouls.fromProto (protoMsg : MultipleFouls) : Msg.MultipleFouls where
  byTeam := protoMsg.byTeam.fromProto

def MultiplePlacementFailures.fromProto (protoMsg : MultiplePlacementFailures) :
    Msg.MultiplePlacementFailures where
  byTeam := protoMsg.byTeam.fromProto

def NoProgressInGame.fromProto (protoMsg : NoProgressInGame) : Msg.NoProgressInGame where
  location := copyOptionalStruct Vector2.fromProto protoMsg.location
  time := copyOptional protoMsg.time

def PenaltyKickFailed.fromProto (protoMsg : PenaltyKickFailed) : Msg.PenaltyKickFailed where
  byTeam := protoMsg.byTeam.fromProto
  location := copyOptionalStruct Vector2.fromProto protoMsg.location

def PlacementFailed.fromProto (protoMsg : PlacementFailed) : Msg.PlacementFailed where
  byTeam := protoMsg.byTeam.fromProto
  remainingDistance := copyOptional protoMsg.remainingDistance

def PlacementSucceeded.fromProto (protoMsg : PlacementSucceeded) : Msg.PlacementSucceeded where
  byTeam := protoMsg.byTeam.fromProto
  timeTaken := copyOptional protoMsg.timeTaken
  precision := copyOptional protoMsg.precision
  distance := copyOptional protoMsg.distance

def Prepared.fromProto (protoMsg : Prepared) : Msg.Prepared where
  timeTaken := copyOptional protoMsg.timeTaken

def TooManyRobots.fromProto (protoMsg : TooManyRobots) : Msg.TooManyRobots where
  byTeam := protoMsg.byTeam.fromProto
  numRobotsAllowed := copyOptional protoMsg.numRobotsAllowed
  numRobotsOnField := copyOptional protoMsg.numRobotsOnField
  ballLocation := copyOptionalStruct Vector2.fromProto protoMsg.ballLocation

def UnsportingBehaviorMajor.fromProto (protoMsg : UnsportingBehaviorMajor) :
    Msg.UnsportingBehaviorMajor where
  byTeam := protoMsg.byTeam.fromProto
  reason := protoMsg.reason

def UnsportingBehaviorMinor.fromProto (protoMsg : UnsportingBehaviorMinor) :
    Msg.UnsportingBehaviorMinor where
  byTeam := protoMsg.byTeam.fromProto
  reason := protoMsg.reason

def BotDroppedParts.fromProto (protoMsg : BotDroppedParts) : Msg.BotDroppedParts where
  byTeam := protoMsg.byTeam.fromProto
  byBot := copyOptional protoMsg.byBot
  location := copyOptionalStruct Vector2.fromProto protoMsg.location
  ballLocation := copyOptionalStruct Vector2.fromProto protoMsg.ballLocation

def ChallengeFlagHandled.fromProto (protoMsg : ChallengeFlagHandled) :
    Msg.ChallengeFlagHandled where
  byTeam := protoMsg.byTeam.fromProto
  accepted := protoMsg.accepted

def ExcessiveBotSubstitution.fromProto (protoMsg : ExcessiveBotSubstitution) :
    Msg.ExcessiveBotSubstitution where
  byTeam := protoMsg.byTeam.fromProto

end Proto

end SslRosBridge.MessageConversion
