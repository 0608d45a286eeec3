import SslRosBridge.Library.MirroredField
import SslRosBridge.MessageConversion.Payloads

/-!
# Payloads are converted without loss

Each payload message is listed with the fields that it has in common with its
ROS message.  Two optional fields have no copy line in their converter and are
lost when they are present.
-/

namespace SslRosBridge.MessageConversion

open Library

namespace Proto

/-! ## The fields of each payload -/

def AimlessKick.mirroredFields : List (MirroredField AimlessKick Msg.AimlessKick) :=
  [.required "by_team" (·.byTeam) Team.fromProto (·.byTeam),
    .optional "by_bot" (·.byBot) (fun msg value => { msg with byBot := value }) id (·.byBot),
    .optional "location" (·.location)
      (fun msg value => { msg with location := value }) Vector2.fromProto (·.location),
    .optional "kick_location" (·.kickLocation)
      (fun msg value => { msg with kickLocation := value }) Vector2.fromProto (·.kickLocation)]

def AttackerDoubleTouchedBall.mirroredFields :
    List (MirroredField AttackerDoubleTouchedBall Msg.AttackerDoubleTouchedBall) :=
  [.required "by_team" (·.byTeam) Team.fromProto (·.byTeam),
    .optional "by_bot" (·.byBot) (fun msg value => { msg with byBot := value }) id (·.byBot),
    .optional "location" (·.location)
      (fun msg value => { msg with location := value }) Vector2.fromProto (·.location)]

def AttackerTooCloseToDefenseArea.mirroredFields :
    List (MirroredField AttackerTooCloseToDefenseArea Msg.AttackerTooCloseToDefenseArea) :=
  [.required "by_team" (·.byTeam) Team.fromProto (·.byTeam),
    .optional "by_bot" (·.byBot) (fun msg value => { msg with byBot := value }) id (·.byBot),
    .optional "location" (·.location)
      (fun msg value => { msg with location := value }) Vector2.fromProto (·.location),
    .optional "distance" (·.distance)
      (fun msg value => { msg with distance := value }) id (·.distance),
    .optional "ball_location" (·.ballLocation)
      (fun msg value => { msg with ballLocation := value }) Vector2.fromProto (·.ballLocation)]

def AttackerTouchedBallInDefenseArea.mirroredFields :
    List (MirroredField AttackerTouchedBallInDefenseArea Msg.AttackerTouchedBallInDefenseArea) :=
  [.required "by_team" (·.byTeam) Team.fromProto (·.byTeam),
    .optional "by_bot" (·.byBot) (fun msg value => { msg with byBot := value }) id (·.byBot),
    .optional "location" (·.location)
      (fun msg value => { msg with location := value }) Vector2.fromProto (·.location),
    .optional "distance" (·.distance)
      (fun msg value => { msg with distance := value }) id (·.distance)]

def AttackerTouchedOpponentInDefenseArea.mirroredFields :
    List (MirroredField AttackerTouchedOpponentInDefenseArea
      Msg.AttackerTouchedOpponentInDefenseArea) :=
  [.required "by_team" (·.byTeam) Team.fromProto (·.byTeam),
    .optional "by_bot" (·.byBot) (fun msg value => { msg with byBot := value }) id (·.byBot),
    .optional "victim" (·.victim) (fun msg value => { msg with victim := value }) id (·.victim),
    .optional "location" (·.location)
      (fun msg value => { msg with location := value }) Vector2.fromProto (·.location)]

def BallLeftField.mirroredFields : List (MirroredField BallLeftField Msg.BallLeftField) :=
  [.required "by_team" (·.byTeam) Team.fromProto (·.byTeam),
    .optional "by_bot" (·.byBot) (fun msg value => { msg with byBot := value }) id (·.byBot),
    .optional "location" (·.location)
      (fun msg value => { msg with location := value }) Vector2.fromProto (·.location)]

def BotCrashDrawn.mirroredFields : List (MirroredField BotCrashDrawn Msg.BotCrashDrawn) :=
  [.optional "bot_yellow" (·.botYellow)
      (fun msg value => { msg with botYellow := value }) id (·.botYellow),
    .optional "bot_blue" (·.botBlue)
      (fun msg value => { msg with botBlue := value }) id (·.botBlue),
    .optional "location" (·.location)
      (fun msg value => { msg with location := value }) Vector2.fromProto (·.location),
    .optional "crash_speed" (·.crashSpeed)
      (fun msg value => { msg with crashSpeed := value }) id (·.crashSpeed),
    .optional "speed_diff" (·.speedDiff)
      (fun msg value => { msg with speedDiff := value }) id (·.speedDiff),
    .optional "crash_angle" (·.crashAngle)
      (fun msg value => { msg with crashAngle := value }) id (·.crashAngle)]

def BotCrashUnique.mirroredFields : List (MirroredField BotCrashUnique Msg.BotCrashUnique) :=
  [.required "by_team" (·.byTeam) Team.fromProto (·.byTeam),
    .optional "violator" (·.violator)
      (fun msg value => { msg with violator := value }) id (·.violator),
    .optional "victim" (·.victim) (fun msg value => { msg with victim := value }) id (·.victim),
    .optional "location" (·.location)
      (fun msg value => { msg with location := value }) Vector2.fromProto (·.location),
    .optional "crash_speed" (·.crashSpeed)
      (fun msg value => { msg with crashSpeed := value }) id (·.crashSpeed),
    .optional "speed_diff" (·.speedDiff)
      (fun msg value => { msg with speedDiff := value }) id (·.speedDiff),
    .optional "crash_angle" (·.crashAngle)
      (fun msg value => { msg with crashAngle := value }) id (·.crashAngle)]

def BotDribbledBallTooFar.mirroredFields :
    List (MirroredField BotDribbledBallTooFar Msg.BotDribbledBallTooFar) :=
  [.required "by_team" (·.byTeam) Team.fromProto (·.byTeam),
    .optional "by_bot" (·.byBot) (fun msg value => { msg with byBot := value }) id (·.byBot),
    .optional "start" (·.start)
      (fun msg value => { msg with start := value }) Vector2.fromProto (·.start),
    .optional "end" (·.«end»)
      (fun msg value => { msg with «end» := value }) Vector2.fromProto (·.«end»)]

def BotHeldBallDeliberately.mirroredFields :
    List (MirroredField BotHeldBallDeliberately Msg.BotHeldBallDeliberately) :=
  [.required "by_team" (·.byTeam) Team.fromProto (·.byTeam),
    .optional "by_bot" (·.byBot) (fun msg value => { msg with byBot := value }) id (·.byBot),
    .optional "location" (·.location)
      (fun msg value => { msg with location := value }) Vector2.fromProto (·.location),
    .optional "duration" (·.duration)
      (fun msg value => { msg with duration := value }) id (·.duration)]

def BotInterferedPlacement.mirroredFields :
    List (MirroredField BotInterferedPlacement Msg.BotInterferedPlacement) :=
  [.required "by_team" (·.byTeam) Team.fromProto (·.byTeam),
    .optional "by_bot" (·.byBot) (fun msg value => { msg with byBot := value }) id (·.byBot),
    .optional "location" (·.location)
      (fun msg value => { msg with location := value }) Vector2.fromProto (·.location)]

def BotKickedBallTooFast.mirroredFields :
    List (MirroredField BotKickedBallTooFast Msg.BotKickedBallTooFast) :=
  [.required "by_team" (·.byTeam) Team.fromProto (·.byTeam),
    .optional "by_bot" (·.byBot) (fun msg value => { msg with byBot := value }) id (·.byBot),
    .optional "location" (·.location)
      (fun msg value => { msg with location := value }) Vector2.fromProto (·.location),
    .optional "initial_ball_speed" (·.initialBallSpeed)
      (fun msg value => { msg with initialBallSpeed := value }) id (·.initialBallSpeed),
    .optional "chipped" (·.chipped)
      (fun msg value => { msg with chipped := value }) id (·.chipped)]

def BotPushedBot.mirroredFields : List (MirroredField BotPushedBot Msg.BotPushedBot) :=
  [.required "by_team" (·.byTeam) Team.fromProto (·.byTeam),
    .optional "violator" (·.violator)
      (fun msg value => { msg with violator := value }) id (·.violator),
    .optional "victim" (·.victim) (fun msg value => { msg with victim := value }) id (·.victim),
    .optional "location" (·.location)
      (fun msg value => { msg with location := value }) Vector2.fromProto (·.location),
    .optional "pushed_distance" (·.pushedDistance)
      (fun msg value => { msg with pushedDistance := value }) id (·.pushedDistance)]

def BotSubstitution.mirroredFields : List (MirroredField BotSubstitution Msg.BotSubstitution) :=
  [.required "by_team" (·.byTeam) Team.fromProto (·.byTeam)]

def BotTippedOver.mirroredFields : List (MirroredField BotTippedOver Msg.BotTippedOver) :=
  [.required "by_team" (·.byTeam) Team.fromProto (·.byTeam),
    .optional "by_bot" (·.byBot) (fun msg value => { msg with byBot := value }) id (·.byBot),
    .optional "location" (·.location)
      (fun msg value => { msg with location := value }) Vector2.fromProto (·.location),
    .optional "ball_location" (·.ballLocation)
      (fun msg value => { msg with ballLocation := value }) Vector2.fromProto (·.ballLocation)]

def BotTooFastInStop.mirroredFields : List (MirroredField BotTooFastInStop Msg.BotTooFastInStop) :=
  [.required "by_team" (·.byTeam) Team.fromProto (·.byTeam),
    .optional "by_bot" (·.byBot) (fun msg value => { msg with byBot := value }) id (·.byBot),
    .optional "location" (·.location)
      (fun msg value => { msg with location := value }) Vector2.fromProto (·.location),
    .optional "speed" (·.speed) (fun msg value => { msg with speed := value }) id (·.speed)]

def BoundaryCrossing.mirroredFields : List (MirroredField BoundaryCrossing Msg.BoundaryCrossing) :=
  [.required "by_team" (·.byTeam) Team.fromProto (·.byTeam),
    .optional "location" (·.location)
      (fun msg value => { msg with location := value }) Vector2.fromProto (·.location)]

def ChallengeFlag.mirroredFields : List (MirroredField ChallengeFlag Msg.ChallengeFlag) :=
  [.required "by_team" (·.byTeam) Team.fromProto (·.byTeam)]

def ChippedGoal.mirroredFields : List (MirroredField ChippedGoal Msg.ChippedGoal) :=
  [.required "by_team" (·.byTeam) Team.fromProto (·.byTeam),
    .optional "by_bot" (·.byBot) (fun msg value => { msg with byBot := value }) id (·.byBot),
    .optional "location" (·.location)
      (fun msg value => { msg with location := value }) Vector2.fromProto (·.location),
    .optional "kick_location" (·.kickLocation)
      (fun msg value => { msg with kickLocation := value }) Vector2.fromProto (·.kickLocation),
    .optional "max_ball_height" (·.maxBallHeight)
      (fun msg value => { msg with maxBallHeight := value }) id (·.maxBallHeight)]

def DefenderInDefenseArea.mirroredFields :
    List (MirroredField DefenderInDefenseArea Msg.DefenderInDefenseArea) :=
  [.required "by_team" (·.byTeam) Team.fromProto (·.byTeam),
    .optional "by_bot" (·.byBot) (fun msg value => { msg with byBot := value }) id (·.byBot),
    .optional "location" (·.location)
      (fun msg value => { msg with location := value }) Vector2.fromProto (·.location),
    .optional "distance" (·.distance)
      (fun msg value => { msg with distance := value }) id (·.distance)]

def DefenderInDefenseAreaPartially.mirroredFields :
    List (MirroredField DefenderInDefenseAreaPartially Msg.DefenderInDefenseAreaPartially) :=
  [.required "by_team" (·.byTeam) Team.fromProto (·.byTeam),
    .optional "by_bot" (·.byBot) (fun msg value => { msg with byBot := value }) id (·.byBot),
    .optional "location" (·.location)
      (fun msg value => { msg with location := value }) Vector2.fromProto (·.location),
    .optional "distance" (·.distance)
      (fun msg value => { msg with distance := value }) id (·.distance),
    .optional "ball_location" (·.ballLocation)
      (fun msg value => { msg with ballLocation := value }) Vector2.fromProto (·.ballLocation)]

def DefenderTooCloseToKickPoint.mirroredFields :
    List (MirroredField DefenderTooCloseToKickPoint Msg.DefenderTooCloseToKickPoint) :=
  [.required "by_team" (·.byTeam) Team.fromProto (·.byTeam),
    .optional "by_bot" (·.byBot) (fun msg value => { msg with byBot := value }) id (·.byBot),
    .optional "location" (·.location)
      (fun msg value => { msg with location := value }) Vector2.fromProto (·.location),
    .optional "distance" (·.distance)
      (fun msg value => { msg with distance := value }) id (·.distance)]

def EmergencyStop.mirroredFields : List (MirroredField EmergencyStop Msg.EmergencyStop) :=
  [.required "by_team" (·.byTeam) Team.fromProto (·.byTeam)]

def Goal.mirroredFields : List (MirroredField Goal Msg.Goal) :=
  [.required "by_team" (·.byTeam) Team.fromProto (·.byTeam),
    .optional "kicking_team" (·.kickingTeam)
      (fun msg value => { msg with kickingTeam := value }) Team.fromProto (·.kickingTeam),
    .optional "kicking_bot" (·.kickingBot)
      (fun msg value => { msg with kickingBot := value }) id (·.kickingBot),
    .optional "location" (·.location)
      (fun msg value => { msg with location := value }) Vector2.fromProto (·.location),
    .optional "kick_location" (·.kickLocation)
      (fun msg value => { msg with kickLocation := value }) Vector2.fromProto (·.kickLocation),
    .optional "max_ball_height" (·.maxBallHeight)
      (fun msg value => { msg with maxBallHeight := value }) id (·.maxBallHeight),
    .optional "num_robots_by_team" (·.numRobotsByTeam)
      (fun msg value => { msg with numRobotsByTeam := value }) id (·.numRobotsByTeam),
    .optional "last_touch_by_team" (·.lastTouchByTeam)
      (fun msg value => { msg with lastTouchByTeam := value }) id (·.lastTouchByTeam),
    .optional "message" (·.message)
      (fun msg value => { msg with message := value }) id (·.message)]

def IndirectGoal.mirroredFields : List (MirroredField IndirectGoal Msg.IndirectGoal) :=
  [.required "by_team" (·.byTeam) Team.fromProto (·.byTeam),
    .optional "by_bot" (·.byBot) (fun msg value => { msg with byBot := value }) id (·.byBot),
    .optional "location" (·.location)
      (fun msg value => { msg with location := value }) Vector2.fromProto (·.location),
    .optional "kick_location" (·.kickLocation)
      (fun msg value => { msg with kickLocation := value }) Vector2.fromProto (·.kickLocation)]

def KeeperHeldBall.mirroredFields : List (MirroredField KeeperHeldBall Msg.KeeperHeldBall) :=
  [.required "by_team" (·.byTeam) Team.fromProto (·.byTeam),
    .optional "location" (·.location)
      (fun msg value => { msg with location := value }) Vector2.fromProto (·.location),
    .optional "duration" (·.duration)
      (fun msg value => { msg with duration := value }) id (·.duration)]

def KickTimeout.mirroredFields : List (MirroredField KickTimeout Msg.KickTimeout) :=
  [.required "by_team" (·.byTeam) Team.fromProto (·.byTeam),
    .optional "location" (·.location)
      (fun msg value => { msg with location := value }) Vector2.fromProto (·.location),
    .optional "time" (·.time) (fun msg value => { msg with time := value }) id (·.time)]

def MultipleCards.mirroredFields : List (MirroredField MultipleCards Msg.MultipleCards) :=
  [.required "by_team" (·.byTeam) Team.fromProto (·.byTeam)]

def MultipleFouls.mirroredFields : List (MirroredField MultipleFouls Msg.MultipleFouls) :=
  [.required "by_team" (·.byTeam) Team.fromProto (·.byTeam)]

def MultiplePlacementFailures.mirroredFields :
    List (MirroredField MultiplePlacementFailures Msg.MultiplePlacementFailures) :=
  [.required "by_team" (·.byTeam) Team.fromProto (·.byTeam)]

def NoProgressInGame.mirroredFields : List (MirroredField NoProgressInGame Msg.NoProgressInGame) :=
  [.optional "location" (·.location)
      (fun msg value => { msg with location := value }) Vector2.fromProto (·.location),
    .optional "time" (·.time) (fun msg value => { msg with time := value }) id (·.time)]

def PenaltyKickFailed.mirroredFields :
    List (MirroredField PenaltyKickFailed Msg.PenaltyKickFailed) :=
  [.required "by_team" (·.byTeam) Team.fromProto (·.byTeam),
    .optional "location" (·.location)
      (fun msg value => { msg with location := value }) Vector2.fromProto (·.location),
    .optional "reason" (·.reason) (fun msg value => { msg with reason := value }) id (·.reason)]

def PlacementFailed.mirroredFields : List (MirroredField PlacementFailed Msg.PlacementFailed) :=
  [.required "by_team" (·.byTeam) Team.fromProto (·.byTeam),
    .optional "remaining_distance" (·.remainingDistance)
      (fun msg value => { msg with remainingDistance := value }) id (·.remainingDistance),
    .optional "nearest_own_bot_distance" (·.nearestOwnBotDistance)
      (fun msg value => { msg with nearestOwnBotDistance := value }) id (·.nearestOwnBotDistance)]

def PlacementSucceeded.mirroredFields :
    List (MirroredField PlacementSucceeded Msg.PlacementSucceeded) :=
  [.required "by_team" (·.byTeam) Team.fromProto (·.byTeam),
    .optional "time_taken" (·.timeTaken)
      (fun msg value => { msg with timeTaken := value }) id (·.timeTaken),
    .optional "precision" (·.precision)
      (fun msg value => { msg with precision := value }) id (·.precision),
    .optional "distance" (·.distance)
      (fun msg value => { msg with distance := value }) id (·.distance)]

def Prepared.mirroredFields : List (MirroredField Prepared Msg.Prepared) :=
  [.optional "time_taken" (·.timeTaken)
      (fun msg value => { msg with timeTaken := value }) id (·.timeTaken)]

def TooManyRobots.mirroredFields : List (MirroredField TooManyRobots Msg.TooManyRobots) :=
  [.required "by_team" (·.byTeam) Team.fromProto (·.byTeam),
    .optional "num_robots_allowed" (·.numRobotsAllowed)
      (fun msg value => { msg with numRobotsAllowed := value }) id (·.numRobotsAllowed),
    .optional "num_robots_on_field" (·.numRobotsOnField)
      (fun msg value => { msg with numRobotsOnField := value }) id (·.numRobotsOnField),
    .optional "ball_location" (·.ballLocation)
      (fun msg value => { msg with ballLocation := value }) Vector2.fromProto (·.ballLocation)]

def UnsportingBehaviorMajor.mirroredFields :
    List (MirroredField UnsportingBehaviorMajor Msg.UnsportingBehaviorMajor) :=
  [.required "by_team" (·.byTeam) Team.fromProto (·.byTeam),
    .required "reason" (·.reason) id (·.reason)]

def UnsportingBehaviorMinor.mirroredFields :
    List (MirroredField UnsportingBehaviorMinor Msg.UnsportingBehaviorMinor) :=
  [.required "by_team" (·.byTeam) Team.fromProto (·.byTeam),
    .required "reason" (·.reason) id (·.reason)]

def BotDroppedParts.mirroredFields : List (MirroredField BotDroppedParts Msg.BotDroppedParts) :=
  [.required "by_team" (·.byTeam) Team.fromProto (·.byTeam),
    .optional "by_bot" (·.byBot) (fun msg value => { msg with byBot := value }) id (·.byBot),
    .optional "location" (·.location)
      (fun msg value => { msg with location := value }) Vector2.fromProto (·.location),
    .optional "ball_location" (·.ballLocation)
      (fun msg value => { msg with ballLocation := value }) Vector2.fromProto (·.ballLocation)]

def ChallengeFlagHandled.mirroredFields :
    List (MirroredField ChallengeFlagHandled Msg.ChallengeFlagHandled) :=
  [.required "by_team" (·.byTeam) Team.fromProto (·.byTeam),
    .required "accepted" (·.accepted) id (·.accepted)]

def ExcessiveBotSubstitution.mirroredFields :
    List (MirroredField ExcessiveBotSubstitution Msg.ExcessiveBotSubstitution) :=
  [.required "by_team" (·.byTeam) Team.fromProto (·.byTeam)]

/-- An overload of `fromProto` for a payload, with the fields that it forgets. -/
structure PayloadOverload : Type 1 where
  ProtoType : Type
  RosType : Type
  fromProto : ProtoType → RosType
  mirroredFields : List (MirroredField ProtoType RosType)
  forgotten : List String

def payloadOverloads : List PayloadOverload :=
  [⟨AimlessKick, _, AimlessKick.fromProto, AimlessKick.mirroredFields, []⟩,
    ⟨AttackerDoubleTouchedBall, _, AttackerDoubleTouchedBall.fromProto,
      AttackerDoubleTouchedBall.mirroredFields, []⟩,
    ⟨AttackerTooCloseToDefenseArea, _, AttackerTooCloseToDefenseArea.fromProto,
      AttackerTooCloseToDefenseArea.mirroredFields, []⟩,
    ⟨AttackerTouchedBallInDefenseArea, _, AttackerTouchedBallInDefenseArea.fromProto,
      AttackerTouchedBallInDefenseArea.mirroredFields, []⟩,
    ⟨AttackerTouchedOpponentInDefenseArea, _, AttackerTouchedOpponentInDefenseArea.fromProto,
      AttackerTouchedOpponentInDefenseArea.mirroredFields, []⟩,
    ⟨BallLeftField, _, BallLeftField.fromProto, BallLeftField.mirroredFields, []⟩,
    ⟨BotCrashDrawn, _, BotCrashDrawn.fromProto, BotCrashDrawn.mirroredFields, []⟩,
    ⟨BotCrashUnique, _, BotCrashUnique.fromProto, BotCrashUnique.mirroredFields, []⟩,
    ⟨BotDribbledBallTooFar, _, BotDribbledBallTooFar.fromProto,
      BotDribbledBallTooFar.mirroredFields, []⟩,
    ⟨BotHeldBallDeliberately, _, BotHeldBallDeliberately.fromProto,
      BotHeldBallDeliberately.mirroredFields, []⟩,
    ⟨BotInterferedPlacement, _, BotInterferedPlacement.fromProto,
      BotInterferedPlacement.mirroredFields, []⟩,
    ⟨BotKickedBallTooFast, _, BotKickedBallTooFast.fromProto,
      BotKickedBallTooFast.mirroredFields, []⟩,
    ⟨BotPushedBot, _, BotPushedBot.fromProto, BotPushedBot.mirroredFields, []⟩,
    ⟨BotSubstitution, _, BotSubstitution.fromProto, BotSubstitution.mirroredFields, []⟩,
    ⟨BotTippedOver, _, BotTippedOver.fromProto, BotTippedOver.mirroredFields, []⟩,
    ⟨BotTooFastInStop, _, BotTooFastInStop.fromProto, BotTooFastInStop.mirroredFields, []⟩,
    ⟨BoundaryCrossing, _, BoundaryCrossing.fromProto, BoundaryCrossing.mirroredFields, []⟩,
    ⟨ChallengeFlag, _, ChallengeFlag.fromProto, ChallengeFlag.mirroredFields, []⟩,
    ⟨ChippedGoal, _, ChippedGoal.fromProto, ChippedGoal.mirroredFields, []⟩,
    ⟨DefenderInDefenseArea, _, DefenderInDefenseArea.fromProto,
      DefenderInDefenseArea.mirroredFields, []⟩,
    ⟨DefenderInDefenseAreaPartially, _, DefenderInDefenseAreaPartially.fromProto,
      DefenderInDefenseAreaPartially.mirroredFields, []⟩,
    ⟨DefenderTooCloseToKickPoint, _, DefenderTooCloseToKickPoint.fromProto,
      DefenderTooCloseToKickPoint.mirroredFields, []⟩,
    ⟨EmergencyStop, _, EmergencyStop.fromProto, EmergencyStop.mirroredFields, []⟩,
    ⟨Goal, _, Goal.fromProto, Goal.mirroredFields, []⟩,
    ⟨IndirectGoal, _, IndirectGoal.fromProto, IndirectGoal.mirroredFields, []⟩,
    ⟨KeeperHeldBall, _, KeeperHeldBall.fromProto, KeeperHeldBall.mirroredFields, []⟩,
    ⟨KickTimeout, _, KickTimeout.fromProto, KickTimeout.mirroredFields, []⟩,
    ⟨MultipleCards, _, MultipleCards.fromProto, MultipleCards.mirroredFields, []⟩,
    ⟨MultipleFouls, _, MultipleFouls.fromProto, MultipleFouls.mirroredFields, []⟩,
    ⟨MultiplePlacementFailures, _, MultiplePlacementFailures.fromProto,
      MultiplePlacementFailures.mirroredFields, []⟩,
    ⟨NoProgressInGame, _, NoProgressInGame.fromProto, NoProgressInGame.mirroredFields, []⟩,
    ⟨PenaltyKickFailed, _, PenaltyKickFailed.fromProto,
      PenaltyKickFailed.mirroredFields, ["reason"]⟩,
    ⟨PlacementFailed, _, PlacementFailed.fromProto,
      PlacementFailed.mirroredFields, ["nearest_own_bot_distance"]⟩,
    ⟨PlacementSucceeded, _, PlacementSucceeded.fromProto, PlacementSucceeded.mirroredFields, []⟩,
    ⟨Prepared, _, Prepared.fromProto, Prepared.mirroredFields, []⟩,
    ⟨TooManyRobots, _, TooManyRobots.fromProto, TooManyRobots.mirroredFields, []⟩,
    ⟨UnsportingBehaviorMajor, _, UnsportingBehaviorMajor.fromProto,
      UnsportingBehaviorMajor.mirroredFields, []⟩,
    ⟨UnsportingBehaviorMinor, _, UnsportingBehaviorMinor.fromProto,
      UnsportingBehaviorMinor.mirroredFields, []⟩,
    ⟨BotDroppedParts, _, BotDroppedParts.fromProto, BotDroppedParts.mirroredFields, []⟩,
    ⟨ChallengeFlagHandled, _, ChallengeFlagHandled.fromProto,
      ChallengeFlagHandled.mirroredFields, []⟩,
    ⟨ExcessiveBotSubstitution, _, ExcessiveBotSubstitution.fromProto,
      ExcessiveBotSubstitution.mirroredFields, []⟩]

/-! ## What the converters keep -/

/-- The tables leave out no field of a ROS message. -/
theorem payloadOverloads_complete : ∀ overload ∈ payloadOverloads,
    MirroredField.Complete overload.mirroredFields := by
  simp only [payloadOverloads, List.forall_mem_cons, List.not_mem_nil, false_implies,
    implies_true, and_true]
  and_intros
  all_goals
    rintro ⟨⟩ ⟨⟩
    simp +contextual [AimlessKick.mirroredFields, AttackerDoubleTouchedBall.mirroredFields,
      AttackerTooCloseToDefenseArea.mirroredFields,
      AttackerTouchedBallInDefenseArea.mirroredFields,
      AttackerTouchedOpponentInDefenseArea.mirroredFields, BallLeftField.mirroredFields,
      BotCrashDrawn.mirroredFields, BotCrashUnique.mirroredFields,
      BotDribbledBallTooFar.mirroredFields, BotHeldBallDeliberately.mirroredFields,
      BotInterferedPlacement.mirroredFields, BotKickedBallTooFast.mirroredFields,
      BotPushedBot.mirroredFields, BotSubstitution.mirroredFields, BotTippedOver.mirroredFields,
      BotTooFastInStop.mirroredFields, BoundaryCrossing.mirroredFields,
      ChallengeFlag.mirroredFields, ChippedGoal.mirroredFields,
      DefenderInDefenseArea.mirroredFields, DefenderInDefenseAreaPartially.mirroredFields,
      DefenderTooCloseToKickPoint.mirroredFields, EmergencyStop.mirroredFields,
      Goal.mirroredFields, IndirectGoal.mirroredFields, KeeperHeldBall.mirroredFields,
      KickTimeout.mirroredFields, MultipleCards.mirroredFields, MultipleFouls.mirroredFields,
      MultiplePlacementFailures.mirroredFields, NoProgressInGame.mirroredFields,
      PenaltyKickFailed.mirroredFields, PlacementFailed.mirroredFields,
      PlacementSucceeded.mirroredFields, Prepared.mirroredFields, TooManyRobots.mirroredFields,
      UnsportingBehaviorMajor.mirroredFields, UnsportingBehaviorMinor.mirroredFields,
      BotDroppedParts.mirroredFields, ChallengeFlagHandled.mirroredFields,
      ExcessiveBotSubstitution.mirroredFields]

theorem PenaltyKickFailed.faithful :
    MirroredField.Faithful mirroredFields ["reason"] fromProto := by
  constructor <;> simp [mirroredFields, fromProto, copyOptionalStruct]

theorem PlacementFailed.faithful :
    MirroredField.Faithful mirroredFields ["nearest_own_bot_distance"] fromProto := by
  constructor <;> simp [mirroredFields, fromProto, copyOptional]

theorem payloadOverloads_faithful : ∀ overload ∈ payloadOverloads,
    MirroredField.Faithful overload.mirroredFields overload.forgotten overload.fromProto := by
  simp only [payloadOverloads, List.forall_mem_cons, List.not_mem_nil, false_implies,
    implies_true, and_true]
  and_intros
  any_goals exact PenaltyKickFailed.faithful
  any_goals exact PlacementFailed.faithful
  all_goals
    apply MirroredField.Faithful.of_kept <;>
      simp only [List.forall_mem_cons, List.not_mem_nil, false_implies, implies_true, and_true,
        MirroredField.Settable, MirroredField.Kept, copyOptional, copyOptionalStruct,
        Option.map_id, id,
        AimlessKick.mirroredFields, AttackerDoubleTouchedBall.mirroredFields,
        AttackerTooCloseToDefenseArea.mirroredFields,
        AttackerTouchedBallInDefenseArea.mirroredFields,
        AttackerTouchedOpponentInDefenseArea.mirroredFields, BallLeftField.mirroredFields,
        BotCrashDrawn.mirroredFields, BotCrashUnique.mirroredFields,
        BotDribbledBallTooFar.mirroredFields, BotHeldBallDeliberately.mirroredFields,
        BotInterferedPlacement.mirroredFields, BotKickedBallTooFast.mirroredFields,
        BotPushedBot.mirroredFields, BotSubstitution.mirroredFields, BotTippedOver.mirroredFields,
        BotTooFastInStop.mirroredFields, BoundaryCrossing.mirroredFields,
        ChallengeFlag.mirroredFields, ChippedGoal.mirroredFields,
        DefenderInDefenseArea.mirroredFields, DefenderInDefenseAreaPartially.mirroredFields,
        DefenderTooCloseToKickPoint.mirroredFields, EmergencyStop.mirroredFields,
        Goal.mirroredFields, IndirectGoal.mirroredFields, KeeperHeldBall.mirroredFields,
        KickTimeout.mirroredFields, MultipleCards.mirroredFields, MultipleFouls.mirroredFields,
        MultiplePlacementFailures.mirroredFields, NoProgressInGame.mirroredFields,
        PlacementSucceeded.mirroredFields, Prepared.mirroredFields, TooManyRobots.mirroredFields,
        UnsportingBehaviorMajor.mirroredFields, UnsportingBehaviorMinor.mirroredFields,
        BotDroppedParts.mirroredFields, ChallengeFlagHandled.mirroredFields,
        ExcessiveBotSubstitution.mirroredFields, AimlessKick.fromProto,
        AttackerDoubleTouchedBall.fromProto, AttackerTooCloseToDefenseArea.fromProto,
        AttackerTouchedBallInDefenseArea.fromProto, AttackerTouchedOpponentInDefenseArea.fromProto,
        BallLeftField.fromProto, BotCrashDrawn.fromProto, BotCrashUnique.fromProto,
        BotDribbledBallTooFar.fromProto, BotHeldBallDeliberately.fromProto,
        BotInterferedPlacement.fromProto, BotKickedBallTooFast.fromProto, BotPushedBot.fromProto,
        BotSubstitution.fromProto, BotTippedOver.fromProto, BotTooFastInStop.fromProto,
        BoundaryCrossing.fromProto, ChallengeFlag.fromProto, ChippedGoal.fromProto,
        DefenderInDefenseArea.fromProto, DefenderInDefenseAreaPartially.fromProto,
        DefenderTooCloseToKickPoint.fromProto, EmergencyStop.fromProto, Goal.fromProto,
        IndirectGoal.fromProto, KeeperHeldBall.fromProto, KickTimeout.fromProto,
        MultipleCards.fromProto, MultipleFouls.fromProto, MultiplePlacementFailures.fromProto,
        NoProgressInGame.fromProto, PlacementSucceeded.fromProto, Prepared.fromProto,
        TooManyRobots.fromProto, UnsportingBehaviorMajor.fromProto,
        UnsportingBehaviorMinor.fromProto, BotDroppedParts.fromProto,
        ChallengeFlagHandled.fromProto, ExcessiveBotSubstitution.fromProto]

/-- A payload is converted without loss exactly when its forgotten fields are
absent. -/
theorem payload_kept_iff : ∀ overload ∈ payloadOverloads, ∀ protoMsg,
    (∀ field ∈ overload.mirroredFields, field.Kept protoMsg (overload.fromProto protoMsg)) ↔
      ∀ field ∈ overload.mirroredFields, field.name ∈ overload.forgotten →
        field.Absent protoMsg := by
  intro overload listed protoMsg
  exact (payloadOverloads_faithful overload listed).kept_all protoMsg

/-- A failed penalty kick with a reason. -/
def PenaltyKickFailed.explained : PenaltyKickFailed where
  byTeam := .blue
  reason := some "timeout"

/-- Without its reason it is kept, and with it it is not. -/
theorem payload_kept_iff_penaltyKickFailed :
    (∀ field ∈ PenaltyKickFailed.mirroredFields,
      field.Kept { PenaltyKickFailed.explained with reason := none }
        { PenaltyKickFailed.explained with reason := none }.fromProto) ∧
    ¬ ∀ field ∈ PenaltyKickFailed.mirroredFields,
      field.Kept PenaltyKickFailed.explained PenaltyKickFailed.explained.fromProto := by
  have kept := payload_kept_iff ⟨PenaltyKickFailed, _, PenaltyKickFailed.fromProto,
    PenaltyKickFailed.mirroredFields, ["reason"]⟩ (by simp [payloadOverloads])
  constructor
  · refine (kept { PenaltyKickFailed.explained with reason := none }).mpr ?_
    simp [PenaltyKickFailed.mirroredFields]
  · refine mt (kept PenaltyKickFailed.explained).mp ?_
    simp [PenaltyKickFailed.mirroredFields, PenaltyKickFailed.explained]

/-- The reason of a failed penalty kick is lost. -/
theorem penaltyKickFailed_reason_lost :
    ¬ ∀ field ∈ PenaltyKickFailed.mirroredFields,
      field.Kept PenaltyKickFailed.explained PenaltyKickFailed.explained.fromProto := by
  simp [PenaltyKickFailed.mirroredFields, PenaltyKickFailed.explained,
    PenaltyKickFailed.fromProto]

end Proto

end SslRosBridge.MessageConversion
