import SslRosBridge.MessageConversion.Proto

/-!
# ROS messages

The messages of `ssl_league_msgs` that mirror the game events.  An optional
field is an array with at most one element.  The defaults are those of a
message that has just been constructed.
-/

namespace SslRosBridge.MessageConversion.Msg

structure Team where
  color : UInt8 := 0
  deriving DecidableEq, Repr

/-- `geometry_msgs/Point32`. -/
structure Point32 where
  x : Float32Bits := 0
  y : Float32Bits := 0
  z : Float32Bits := 0
  deriving DecidableEq, Repr

/-! ## Payloads -/

structure BallLeftField where
  byTeam : Team := {}
  byBot : List UInt32 := []
  location : List Point32 := []
  deriving DecidableEq, Repr

structure AimlessKick where
  byTeam : Team := {}
  byBot : List UInt32 := []
  location : List Point32 := []
  kickLocation : List Point32 := []
  deriving DecidableEq, Repr

structure Goal where
  byTeam : Team := {}
  kickingTeam : List Team := []
  kickingBot : List UInt32 := []
  location : List Point32 := []
  kickLocation : List Point32 := []
  maxBallHeight : List Float32Bits := []
  numRobotsByTeam : List UInt32 := []
  lastTouchByTeam : List UInt64 := []
  message : List String := []
  deriving DecidableEq, Repr

structure IndirectGoal where
  byTeam : Team := {}
  byBot : List UInt32 := []
  location : List Point32 := []
  kickLocation : List Point32 := []
  deriving DecidableEq, Repr

structure ChippedGoal where
  byTeam : Team := {}
  byBot : List UInt32 := []
  location : List Point32 := []
  kickLocation : List Point32 := []
  maxBallHeight : List Float32Bits := []
  deriving DecidableEq, Repr

structure BotTooFastInStop where
  byTeam : Team := {}
  byBot : List UInt32 := []
  location : List Point32 := []
  speed : List Float32Bits := []
  deriving DecidableEq, Repr

structure DefenderTooCloseToKickPoint where
  byTeam : Team := {}
  byBot : List UInt32 := []
  location : List Point32 := []
  distance : List Float32Bits := []
  deriving DecidableEq, Repr

structure BotCrashDrawn where
  botYellow : List UInt32 := []
  botBlue : List UInt32 := []
  location : List Point32 := []
  crashSpeed : List Float32Bits := []
  speedDiff : List Float32Bits := []
  crashAngle : List Float32Bits := []
  deriving DecidableEq, Repr

structure BotCrashUnique where
  byTeam : Team := {}
  violator : List UInt32 := []
  victim : List UInt32 := []
  location : List Point32 := []
  crashSpeed : List Float32Bits := []
  speedDiff : List Float32Bits := []
  crashAngle : List Float32Bits := []
  deriving DecidableEq, Repr

structure BotPushedBot where
  byTeam : Team := {}
  violator : List UInt32 := []
  victim : List UInt32 := []
  location : List Point32 := []
  pushedDistance : List Float32Bits := []
  deriving DecidableEq, Repr

structure BotTippedOver where
  byTeam : Team := {}
  byBot : List UInt32 := []
  location : List Point32 := []
  ballLocation : List Point32 := []
  deriving DecidableEq, Repr

structure BotDroppedParts where
  byTeam : Team := {}
  byBot : List UInt32 := []
  location : List Point32 := []
  ballLocation : List Point32 := []
  deriving DecidableEq, Repr

structure DefenderInDefenseArea where
  byTeam : Team := {}
  byBot : List UInt32 := []
  location : List Point32 := []
  distance : List Float32Bits := []
  deriving DecidableEq, Repr

structure DefenderInDefenseAreaPartially where
  byTeam : Team := {}
  byBot : List UInt32 := []
  location : List Point32 := []
  distance : List Float32Bits := []
  ballLocation : List Point32 := []
  deriving DecidableEq, Repr

structure AttackerTouchedBallInDefenseArea where
  byTeam : Team := {}
  byBot : List UInt32 := []
  location : List Point32 := []
  distance : List Float32Bits := []
  deriving DecidableEq, Repr

structure BotKickedBallTooFast where
  byTeam : Team := {}
  byBot : List UInt32 := []
  location : List Point32 := []
  initialBallSpeed : List Float32Bits := []
  chipped : List Bool := []
  deriving DecidableEq, Repr

structure BotDribbledBallTooFar where
  byTeam : Team := {}
  byBot : List UInt32 := []
  start : List Point32 := []
  «end» : List Point32 := []
  deriving DecidableEq, Repr

structure AttackerTouchedOpponentInDefenseArea where
  byTeam : Team := {}
  byBot : List UInt32 := []
  victim : List UInt32 := []
  location : List Point32 := []
  deriving DecidableEq, Repr

structure AttackerDoubleTouchedBall where
  byTeam : Team := {}
  byBot : List UInt32 := []
  location : List Point32 := []
  deriving DecidableEq, Repr

structure AttackerTooCloseToDefenseArea where
  byTeam : Team := {}
  byBot : List UInt32 := []
  location : List Point32 := []
  distance : List Float32Bits := []
  ballLocation : List Point32 := []
  deriving DecidableEq, Repr

structure BotHeldBallDeliberately where
  byTeam : Team := {}
  byBot : List UInt32 := []
  location : List Point32 := []
  duration : List Float32Bits := []
  deriving DecidableEq, Repr

structure BotInterferedPlacement where
  byTeam : Team := {}
  byBot : List UInt32 := []
  location : List Point32 := []
  deriving DecidableEq, Repr

structure MultipleCards where
  byTeam : Team := {}
  deriving DecidableEq, Repr

structure MultipleFouls where
  byTeam : Team := {}
  deriving DecidableEq, Repr

structure MultiplePlacementFailures where
  byTeam : Team := {}
  deriving DecidableEq, Repr

structure KickTimeout where
  byTeam : Team := {}
  location : List Point32 := []
  time : List Float32Bits := []
  deriving DecidableEq, Repr

structure NoProgressInGame where
  location : List Point32 := []
  time : List Float32Bits := []
  deriving DecidableEq, Repr

structure PlacementFailed where
  byTeam : Team := {}
  remainingDistance : List Float32Bits := []
  nearestOwnBotDistance : List Float32Bits := []
  deriving DecidableEq, Repr

structure UnsportingBehaviorMinor where
  byTeam : Team := {}
  reason : String := ""
  deriving DecidableEq, Repr

structure UnsportingBehaviorMajor where
  byTeam : Team := {}
  reason : String := ""
  deriving DecidableEq, Repr

structure KeeperHeldBall where
  byTeam : Team := {}
  location : List Point32 := []
  duration : List Float32Bits := []
  deriving DecidableEq, Repr

structure PlacementSucceeded where
  byTeam : Team := {}
  timeTaken : List Float32Bits := []
  precision : List Float32Bits := []
  distance : List Float32Bits := []
  deriving DecidableEq, Repr

structure Prepared where
  timeTaken : List Float32Bits := []
  deriving DecidableEq, Repr

structure BotSubstitution where
  byTeam : Team := {}
  deriving DecidableEq, Repr

structure ExcessiveBotSubstitution where
  byTeam : Team := {}
  deriving DecidableEq, Repr

structure ChallengeFlag where
  byTeam : Team := {}
  deriving DecidableEq, Repr

structure ChallengeFlagHandled where
  byTeam : Team := {}
  accepted : Bool := false
  deriving DecidableEq, Repr

structure EmergencyStop where
  byTeam : Team := {}
  deriving DecidableEq, Repr

structure TooManyRobots where
  byTeam : Team := {}
  numRobotsAllowed : List Int32 := []
  numRobotsOnField : List Int32 := []
  ballLocation : List Point32 := []
  deriving DecidableEq, Repr

structure BoundaryCrossing where
  byTeam : Team := {}
  location : List Point32 := []
  deriving DecidableEq, Repr

structure PenaltyKickFailed where
  byTeam : Team := {}
  location : List Point32 := []
  reason : List String := []
  deriving DecidableEq, Repr

/-! ## The game event -/

/-- The payload arrays of `GameEvent.msg`. -/
structure PayloadArrays where
  ballLeftFieldTouchLine : List BallLeftField := []
  ballLeftFieldGoalLine : List BallLeftField := []
  aimlessKick : List AimlessKick := []
  attackerTooCloseToDefenseArea : List AttackerTooCloseToDefenseArea := []
  defenderInDefenseArea : List DefenderInDefenseArea := []
  boundaryCrossing : List BoundaryCrossing := []
  keeperHeldBall : List KeeperHeldBall := []
  botDribbledBallTooFar : List BotDribbledBallTooFar := []
  botPushedBot : List BotPushedBot := []
  botHeldBallDeliberately : List BotHeldBallDeliberately := []
  botTippedOver : List BotTippedOver := []
  botDroppedParts : List BotDroppedParts := []
  attackerTouchedBallInDefenseArea : List AttackerTouchedBallInDefenseArea := []
  botKickedBallTooFast : List BotKickedBallTooFast := []
  botCrashUnique : List BotCrashUnique := []
  botCrashDrawn : List BotCrashDrawn := []
  defenderTooCloseToKickPoint : List DefenderTooCloseToKickPoint := []
  botTooFastInStop : List BotTooFastInStop := []
  botInterferedPlacement : List BotInterferedPlacement := []
  possibleGoal : List Goal := []
  goal : List Goal := []
  invalidGoal : List Goal := []
  attackerDoubleTouchedBall : List AttackerDoubleTouchedBall := []
  placementSucceeded : List PlacementSucceeded := []
  penaltyKickFailed : List PenaltyKickFailed := []
  noProgressInGame : List NoProgressInGame := []
  placementFailed : List PlacementFailed := []
  multipleCards : List MultipleCards := []
  multipleFouls : List MultipleFouls := []
  botSubstitution : List BotSubstitution := []
  excessiveBotSubstitution : List ExcessiveBotSubstitution := []
  tooManyRobots : List TooManyRobots := []
  challengeFlag : List ChallengeFlag := []
  challengeFlagHandled : List ChallengeFlagHandled := []
  emergencyStop : List EmergencyStop := []
  unsportingBehaviorMinor : List UnsportingBehaviorMinor := []
  unsportingBehaviorMajor : List UnsportingBehaviorMajor := []
  prepared : List Prepared := []
  indirectGoal : List IndirectGoal := []
  chippedGoal : List ChippedGoal := []
  kickTimeout : List KickTimeout := []
  attackerTouchedOpponentInDefenseArea : List AttackerTouchedOpponentInDefenseArea := []
  attackerTouchedOpponentInDefenseAreaSkipped : List AttackerTouchedOpponentInDefenseArea := []
  botCrashUniqueSkipped : List BotCrashUnique := []
  botPushedBotSkipped : List BotPushedBot := []
  defenderInDefenseAreaPartially : List DefenderInDefenseAreaPartially := []
  multiplePlacementFailures : List MultiplePlacementFailures := []
  deriving DecidableEq, Repr

structure GameEvent extends PayloadArrays where
  id : String := ""
  type : UInt8 := 0
  origin : List String := []
  createdTimestamp : UInt64 := 0
  deriving DecidableEq, Repr

end SslRosBridge.MessageConversion.Msg
