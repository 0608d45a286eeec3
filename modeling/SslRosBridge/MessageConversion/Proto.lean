/-!
# League messages

The game event messages of `ssl_gc_game_event.proto` with the types they use.
A required field is the value its accessor yields, an optional field may be
absent.  A float is its bit pattern; it is only ever copied.  The field
`caused_game_events` of `MultipleFouls` is left out: no converter reads it.
-/

namespace SslRosBridge.MessageConversion

abbrev Float32Bits := UInt32

namespace Proto

inductive Team where
  | unknown
  | yellow
  | blue
  deriving DecidableEq, Repr

structure Vector2 where
  x : Float32Bits
  y : Float32Bits
  deriving DecidableEq, Repr

/-! ## Payloads -/

structure BallLeftField where
  byTeam : Team
  byBot : Option UInt32 := none
  location : Option Vector2 := none
  deriving DecidableEq, Repr

structure AimlessKick where
  byTeam : Team
  byBot : Option UInt32 := none
  location : Option Vector2 := none
  kickLocation : Option Vector2 := none
  deriving DecidableEq, Repr

structure Goal where
  byTeam : Team
  kickingTeam : Option Team := none
  kickingBot : Option UInt32 := none
  location : Option Vector2 := none
  kickLocation : Option Vector2 := none
  maxBallHeight : Option Float32Bits := none
  numRobotsByTeam : Option UInt32 := none
  lastTouchByTeam : Option UInt64 := none
  message : Option String := none
  deriving DecidableEq, Repr

structure IndirectGoal where
  byTeam : Team
  byBot : Option UInt32 := none
  location : Option Vector2 := none
  kickLocation : Option Vector2 := none
  deriving DecidableEq, Repr

structure ChippedGoal where
  byTeam : Team
  byBot : Option UInt32 := none
  location : Option Vector2 := none
  kickLocation : Option Vector2 := none
  maxBallHeight : Option Float32Bits := none
  deriving DecidableEq, Repr

structure BotTooFastInStop where
  byTeam : Team
  byBot : Option UInt32 := none
  location : Option Vector2 := none
  speed : Option Float32Bits := none
  deriving DecidableEq, Repr

structure DefenderTooCloseToKickPoint where
  byTeam : Team
  byBot : Option UInt32 := none
  location : Option Vector2 := none
  distance : Option Float32Bits := none
  deriving DecidableEq, Repr

structure BotCrashDrawn where
  botYellow : Option UInt32 := none
  botBlue : Option UInt32 := none
  location : Option Vector2 := none
  crashSpeed : Option Float32Bits := none
  speedDiff : Option Float32Bits := none
  crashAngle : Option Float32Bits := none
  deriving DecidableEq, Repr

structure BotCrashUnique where
  byTeam : Team
  violator : Option UInt32 := none
  victim : Option UInt32 := none
  location : Option Vector2 := none
  crashSpeed : Option Float32Bits := none
  speedDiff : Option Float32Bits := none
  crashAngle : Option Float32Bits := none
  deriving DecidableEq, Repr

structure BotPushedBot where
  byTeam : Team
  violator : Option UInt32 := none
  victim : Option UInt32 := none
  location : Option Vector2 := none
  pushedDistance : Option Float32Bits := none
  deriving DecidableEq, Repr

structure BotTippedOver where
  byTeam : Team
  byBot : Option UInt32 := none
  location : Option Vector2 := none
  ballLocation : Option Vector2 := none
  deriving DecidableEq, Repr

structure BotDroppedParts where
  byTeam : Team
  byBot : Option UInt32 := none
  location : Option Vector2 := none
  ballLocation : Option Vector2 := none
  deriving DecidableEq, Repr

structure DefenderInDefenseArea where
  byTeam : Team
  byBot : Option UInt32 := none
  location : Option Vector2 := none
  distance : Option Float32Bits := none
  deriving DecidableEq, Repr

structure DefenderInDefenseAreaPartially where
  byTeam : Team
  byBot : Option UInt32 := none
  location : Option Vector2 := none
  distance : Option Float32Bits := none
  ballLocation : Option Vector2 := none
  deriving DecidableEq, Repr

structure AttackerTouchedBallInDefenseArea where
  byTeam : Team
  byBot : Option UInt32 := none
  location : Option Vector2 := none
  distance : Option Float32Bits := none
  deriving DecidableEq, Repr

structure BotKickedBallTooFast where
  byTeam : Team
  byBot : Option UInt32 := none
  location : Option Vector2 := none
  initialBallSpeed : Option Float32Bits := none
  chipped : Option Bool := none
  deriving DecidableEq, Repr

structure BotDribbledBallTooFar where
  byTeam : Team
  byBot : Option UInt32 := none
  start : Option Vector2 := none
  «end» : Option Vector2 := none
  deriving DecidableEq, Repr

structure AttackerTouchedOpponentInDefenseArea where
  byTeam : Team
  byBot : Option UInt32 := none
  victim : Option UInt32 := none
  location : Option Vector2 := none
  deriving DecidableEq, Repr

structure AttackerDoubleTouchedBall where
  byTeam : Team
  byBot : Option UInt32 := none
  location : Option Vector2 := none
  deriving DecidableEq, Repr

structure AttackerTooCloseToDefenseArea where
  byTeam : Team
  byBot : Option UInt32 := none
  location : Option Vector2 := none
  distance : Option Float32Bits := none
  ballLocation : Option Vector2 := none
  deriving DecidableEq, Repr

structure BotHeldBallDeliberately where
  byTeam : Team
  byBot : Option UInt32 := none
  location : Option Vector2 := none
  duration : Option Float32Bits := none
  deriving DecidableEq, Repr

structure BotInterferedPlacement where
  byTeam : Team
  byBot : Option UInt32 := none
  location : Option Vector2 := none
  deriving DecidableEq, Repr

structure MultipleCards where
  byTeam : Team
  deriving DecidableEq, Repr

structure MultipleFouls where
  byTeam : Team
  deriving DecidableEq, Repr

structure MultiplePlacementFailures where
  byTeam : Team
  deriving DecidableEq, Repr

structure KickTimeout where
  byTeam : Team
  location : Option Vector2 := none
  time : Option Float32Bits := none
  deriving DecidableEq, Repr

structure NoProgressInGame where
  location : Option Vector2 := none
  time : Option Float32Bits := none
  deriving DecidableEq, Repr

structure PlacementFailed where
  byTeam : Team
  remainingDistance : Option Float32Bits := none
  nearestOwnBotDistance : Option Float32Bits := none
  deriving DecidableEq, Repr

structure UnsportingBehaviorMinor where
  byTeam : Team
  reason : String
  deriving DecidableEq, Repr

structure UnsportingBehaviorMajor where
  byTeam : Team
  reason : String
  deriving DecidableEq, Repr

structure KeeperHeldBall where
  byTeam : Team
  location : Option Vector2 := none
  duration : Option Float32Bits := none
  deriving DecidableEq, Repr

structure PlacementSucceeded where
  byTeam : Team
  timeTaken : Option Float32Bits := none
  precision : Option Float32Bits := none
  distance : Option Float32Bits := none
  deriving DecidableEq, Repr

structure Prepared where
  timeTaken : Option Float32Bits := none
  deriving DecidableEq, Repr

structure BotSubstitution where
  byTeam : Team
  deriving DecidableEq, Repr

structure ExcessiveBotSubstitution where
  byTeam : Team
  deriving DecidableEq, Repr

structure ChallengeFlag where
  byTeam : Team
  deriving DecidableEq, Repr

structure ChallengeFlagHandled where
  byTeam : Team
  accepted : Bool
  deriving DecidableEq, Repr

structure EmergencyStop where
  byTeam : Team
  deriving DecidableEq, Repr

structure TooManyRobots where
  byTeam : Team
  numRobotsAllowed : Option Int32 := none
  numRobotsOnField : Option Int32 := none
  ballLocation : Option Vector2 := none
  deriving DecidableEq, Repr

structure BoundaryCrossing where
  byTeam : Team
  location : Option Vector2 := none
  deriving DecidableEq, Repr

structure PenaltyKickFailed where
  byTeam : Team
  location : Option Vector2 := none
  reason : Option String := none
  deriving DecidableEq, Repr

/-! ## The game event -/

/-- `GameEvent.Type`. -/
inductive GameEventType where
  | unknownGameEventType
  | ballLeftFieldTouchLine
  | ballLeftFieldGoalLine
  | aimlessKick
  | attackerTooCloseToDefenseArea
  | defenderInDefenseArea
  | boundaryCrossing
  | keeperHeldBall
  | botDribbledBallTooFar
  | botPushedBot
  | botHeldBallDeliberately
  | botTippedOver
  | botDroppedParts
  | attackerTouchedBallInDefenseArea
  | botKickedBallTooFast
  | botCrashUnique
  | botCrashDrawn
  | defenderTooCloseToKickPoint
  | botTooFastInStop
  | botInterferedPlacement
  | excessiveBotSubstitution
  | possibleGoal
  | goal
  | invalidGoal
  | attackerDoubleTouchedBall
  | placementSucceeded
  | penaltyKickFailed
  | noProgressInGame
  | placementFailed
  | multipleCards
  | multipleFouls
  | botSubstitution
  | tooManyRobots
  | challengeFlag
  | challengeFlagHandled
  | emergencyStop
  | unsportingBehaviorMinor
  | unsportingBehaviorMajor
  | prepared
  | indirectGoal
  | chippedGoal
  | kickTimeout
  | attackerTouchedOpponentInDefenseArea
  | attackerTouchedOpponentInDefenseAreaSkipped
  | botCrashUniqueSkipped
  | botPushedBotSkipped
  | defenderInDefenseAreaPartially
  | multiplePlacementFailures
  deriving DecidableEq, Repr

namespace GameEventType

/-- The enumerator's value. -/
def number : GameEventType → UInt8
  | .unknownGameEventType => 0
  | .ballLeftFieldTouchLine => 6
  | .ballLeftFieldGoalLine => 7
  | .aimlessKick => 11
  | .attackerTooCloseToDefenseArea => 19
  | .defenderInDefenseArea => 31
  | .boundaryCrossing => 41
  | .keeperHeldBall => 13
  | .botDribbledBallTooFar => 17
  | .botPushedBot => 24
  | .botHeldBallDeliberately => 26
  | .botTippedOver => 27
  | .botDroppedParts => 47
  | .attackerTouchedBallInDefenseArea => 15
  | .botKickedBallTooFast => 18
  | .botCrashUnique => 22
  | .botCrashDrawn => 21
  | .defenderTooCloseToKickPoint => 29
  | .botTooFastInStop => 28
  | .botInterferedPlacement => 20
  | .excessiveBotSubstitution => 48
  | .possibleGoal => 39
  | .goal => 8
  | .invalidGoal => 42
  | .attackerDoubleTouchedBall => 14
  | .placementSucceeded => 5
  | .penaltyKickFailed => 43
  | .noProgressInGame => 2
  | .placementFailed => 3
  | .multipleCards => 32
  | .multipleFouls => 34
  | .botSubstitution => 37
  | .tooManyRobots => 38
  | .challengeFlag => 44
  | .challengeFlagHandled => 46
  | .emergencyStop => 45
  | .unsportingBehaviorMinor => 35
  | .unsportingBehaviorMajor => 36
  | .prepared => 1
  | .indirectGoal => 9
  | .chippedGoal => 10
  | .kickTimeout => 12
  | .attackerTouchedOpponentInDefenseArea => 16
  | .attackerTouchedOpponentInDefenseAreaSkipped => 40
  | .botCrashUniqueSkipped => 23
  | .botPushedBotSkipped => 25
  | .defenderInDefenseAreaPartially => 30
  | .multiplePlacementFailures => 33

end GameEventType

/-- The oneof `event`. -/
inductive Event where
  | ballLeftFieldTouchLine (payload : BallLeftField)
  | ballLeftFieldGoalLine (payload : BallLeftField)
  | aimlessKick (payload : AimlessKick)
  | attackerTooCloseToDefenseArea (payload : AttackerTooCloseToDefenseArea)
  | defenderInDefenseArea (payload : DefenderInDefenseArea)
  | boundaryCrossing (payload : BoundaryCrossing)
  | keeperHeldBall (payload : KeeperHeldBall)
  | botDribbledBallTooFar (payload : BotDribbledBallTooFar)
  | botPushedBot (payload : BotPushedBot)
  | botHeldBallDeliberately (payload : BotHeldBallDeliberately)
  | botTippedOver (payload : BotTippedOver)
  | botDroppedParts (payload : BotDroppedParts)
  | attackerTouchedBallInDefenseArea (payload : AttackerTouchedBallInDefenseArea)
  | botKickedBallTooFast (payload : BotKickedBallTooFast)
  | botCrashUnique (payload : BotCrashUnique)
  | botCrashDrawn (payload : BotCrashDrawn)
  | defenderTooCloseToKickPoint (payload : DefenderTooCloseToKickPoint)
  | botTooFastInStop (payload : BotTooFastInStop)
  | botInterferedPlacement (payload : BotInterferedPlacement)
  | possibleGoal (payload : Goal)
  | goal (payload : Goal)
  | invalidGoal (payload : Goal)
  | attackerDoubleTouchedBall (payload : AttackerDoubleTouchedBall)
  | placementSucceeded (payload : PlacementSucceeded)
  | penaltyKickFailed (payload : PenaltyKickFailed)
  | noProgressInGame (payload : NoProgressInGame)
  | placementFailed (payload : PlacementFailed)
  | multipleCards (payload : MultipleCards)
  | multipleFouls (payload : MultipleFouls)
  | botSubstitution (payload : BotSubstitution)
  | excessiveBotSubstitution (payload : ExcessiveBotSubstitution)
  | tooManyRobots (payload : TooManyRobots)
  | challengeFlag (payload : ChallengeFlag)
  | challengeFlagHandled (payload : ChallengeFlagHandled)
  | emergencyStop (payload : EmergencyStop)
  | unsportingBehaviorMinor (payload : UnsportingBehaviorMinor)
  | unsportingBehaviorMajor (payload : UnsportingBehaviorMajor)
  | prepared (payload : Prepared)
  | indirectGoal (payload : IndirectGoal)
  | chippedGoal (payload : ChippedGoal)
  | kickTimeout (payload : KickTimeout)
  | attackerTouchedOpponentInDefenseArea (payload : AttackerTouchedOpponentInDefenseArea)
  | attackerTouchedOpponentInDefenseAreaSkipped (payload : AttackerTouchedOpponentInDefenseArea)
  | botCrashUniqueSkipped (payload : BotCrashUnique)
  | botPushedBotSkipped (payload : BotPushedBot)
  | defenderInDefenseAreaPartially (payload : DefenderInDefenseAreaPartially)
  | multiplePlacementFailures (payload : MultiplePlacementFailures)
  deriving DecidableEq, Repr

structure GameEvent where
  id : Option String := none
  type : Option GameEventType := none
  origin : List String := []
  createdTimestamp : Option UInt64 := none
  event : Option Event := none
  deriving DecidableEq, Repr

end Proto

end SslRosBridge.MessageConversion
