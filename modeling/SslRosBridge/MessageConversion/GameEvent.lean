import SslRosBridge.MessageConversion.Payloads

/-!
# Conversion of a game event

`fromProto(GameEvent)` copies the oneof case by case.  It has a copy line for
each case that is not deprecated, and the message has an array for every case.
-/

namespace SslRosBridge.MessageConversion

namespace Proto.GameEvent

/-! ## Accessors of the oneof -/

def ballLeftFieldTouchLine? (protoMsg : GameEvent) : Option BallLeftField :=
  match protoMsg.event with
  | some (.ballLeftFieldTouchLine payload) => some payload
  | _ => none

def ballLeftFieldGoalLine? (protoMsg : GameEvent) : Option BallLeftField :=
  match protoMsg.event with
  | some (.ballLeftFieldGoalLine payload) => some payload
  | _ => none

def aimlessKick? (protoMsg : GameEvent) : Option AimlessKick :=
  match protoMsg.event with
  | some (.aimlessKick payload) => some payload
  | _ => none

def attackerTooCloseToDefenseArea? (protoMsg : GameEvent) :
    Option AttackerTooCloseToDefenseArea :=
  match protoMsg.event with
  | some (.attackerTooCloseToDefenseArea payload) => some payload
  | _ => none

def defenderInDefenseArea? (protoMsg : GameEvent) : Option DefenderInDefenseArea :=
  match protoMsg.event with
  | some (.defenderInDefenseArea payload) => some payload
  | _ => none

def boundaryCrossing? (protoMsg : GameEvent) : Option BoundaryCrossing :=
  match protoMsg.event with
  | some (.boundaryCrossing payload) => some payload
  | _ => none

def keeperHeldBall? (protoMsg : GameEvent) : Option KeeperHeldBall :=
  match protoMsg.event with
  | some (.keeperHeldBall payload) => some payload
  | _ => none

def botDribbledBallTooFar? (protoMsg : GameEvent) : Option BotDribbledBallTooFar :=
  match protoMsg.event with
  | some (.botDribbledBallTooFar payload) => some payload
  | _ => none

def botPushedBot? (protoMsg : GameEvent) : Option BotPushedBot :=
  match protoMsg.event with
  | some (.botPushedBot payload) => some payload
  | _ => none

def botHeldBallDeliberately? (protoMsg : GameEvent) : Option BotHeldBallDeliberately :=
  match protoMsg.event with
  | some (.botHeldBallDeliberately payload) => some payload
  | _ => none

def botTippedOver? (protoMsg : GameEvent) : Option BotTippedOver :=
  match protoMsg.event with
  | some (.botTippedOver payload) => some payload
  | _ => none

def botDroppedParts? (protoMsg : GameEvent) : Option BotDroppedParts :=
  match protoMsg.event with
  | some (.botDroppedParts payload) => some payload
  | _ => none

def attackerTouchedBallInDefenseArea? (protoMsg : GameEvent) :
    Option AttackerTouchedBallInDefenseArea :=
  match protoMsg.event with
  | some (.attackerTouchedBallInDefenseArea payload) => some payload
  | _ => none

def botKickedBallTooFast? (protoMsg : GameEvent) : Option BotKickedBallTooFast :=
  match protoMsg.event with
  | some (.botKickedBallTooFast payload) => some payload
  | _ => none

def botCrashUnique? (protoMsg : GameEvent) : Option BotCrashUnique :=
  match protoMsg.event with
  | some (.botCrashUnique payload) => some payload
  | _ => none

def botCrashDrawn? (protoMsg : GameEvent) : Option BotCrashDrawn :=
  match protoMsg.event with
  | some (.botCrashDrawn payload) => some payload
  | _ => none

def defenderTooCloseToKickPoint? (protoMsg : GameEvent) : Option DefenderTooCloseToKickPoint :=
  match protoMsg.event with
  | some (.defenderTooCloseToKickPoint payload) => some payload
  | _ => none

def botTooFastInStop? (protoMsg : GameEvent) : Option BotTooFastInStop :=
  match protoMsg.event with
  | some (.botTooFastInStop payload) => some payload
  | _ => none

def botInterferedPlacement? (protoMsg : GameEvent) : Option BotInterferedPlacement :=
  match protoMsg.event with
  | some (.botInterferedPlacement payload) => some payload
  | _ => none

def possibleGoal? (protoMsg : GameEvent) : Option Goal :=
  match protoMsg.event with
  | some (.possibleGoal payload) => some payload
  | _ => none

def goal? (protoMsg : GameEvent) : Option Goal :=
  match protoMsg.event with
  | some (.goal payload) => some payload
  | _ => none

def invalidGoal? (protoMsg : GameEvent) : Option Goal :=
  match protoMsg.event with
  | some (.invalidGoal payload) => some payload
  | _ => none

def attackerDoubleTouchedBall? (protoMsg : GameEvent) : Option AttackerDoubleTouchedBall :=
  match protoMsg.event with
  | some (.attackerDoubleTouchedBall payload) => some payload
  | _ => none

def placementSucceeded? (protoMsg : GameEvent) : Option PlacementSucceeded :=
  match protoMsg.event with
  | some (.placementSucceeded payload) => some payload
  | _ => none

def penaltyKickFailed? (protoMsg : GameEvent) : Option PenaltyKickFailed :=
  match protoMsg.event with
  | some (.penaltyKickFailed payload) => some payload
  | _ => none

def noProgressInGame? (protoMsg : GameEvent) : Option NoProgressInGame :=
  match protoMsg.event with
  | some (.noProgressInGame payload) => some payload
  | _ => none

def placementFailed? (protoMsg : GameEvent) : Option PlacementFailed :=
  match protoMsg.event with
  | some (.placementFailed payload) => some payload
  | _ => none

def multipleCards? (protoMsg : GameEvent) : Option MultipleCards :=
  match protoMsg.event with
  | some (.multipleCards payload) => some payload
  | _ => none

def multipleFouls? (protoMsg : GameEvent) : Option MultipleFouls :=
  match protoMsg.event with
  | some (.multipleFouls payload) => some payload
  | _ => none

def botSubstitution? (protoMsg : GameEvent) : Option BotSubstitution :=
  match protoMsg.event with
  | some (.botSubstitution payload) => some payload
  | _ => none

def excessiveBotSubstitution? (protoMsg : GameEvent) : Option ExcessiveBotSubstitution :=
  match protoMsg.event with
  | some (.excessiveBotSubstitution payload) => some payload
  | _ => none

def tooManyRobots? (protoMsg : GameEvent) : Option TooManyRobots :=
  match protoMsg.event with
  | some (.tooManyRobots payload) => some payload
  | _ => none

def challengeFlag? (protoMsg : GameEvent) : Option ChallengeFlag :=
  match protoMsg.event with
  | some (.challengeFlag payload) => some payload
  | _ => none

def challengeFlagHandled? (protoMsg : GameEvent) : Option ChallengeFlagHandled :=
  match protoMsg.event with
  | some (.challengeFlagHandled payload) => some payload
  | _ => none

def emergencyStop? (protoMsg : GameEvent) : Option EmergencyStop :=
  match protoMsg.event with
  | some (.emergencyStop payload) => some payload
  | _ => none

def unsportingBehaviorMinor? (protoMsg : GameEvent) : Option UnsportingBehaviorMinor :=
  match protoMsg.event with
  | some (.unsportingBehaviorMinor payload) => some payload
  | _ => none

def unsportingBehaviorMajor? (protoMsg : GameEvent) : Option UnsportingBehaviorMajor :=
  match protoMsg.event with
  | some (.unsportingBehaviorMajor payload) => some payload
  | _ => none

/-! ## The converter -/

def fromProto (protoMsg : GameEvent) : Msg.GameEvent where
  id := protoMsg.id.getD ""
  type := (protoMsg.type.getD .unknownGameEventType).number
  origin := protoMsg.origin
  createdTimestamp := protoMsg.createdTimestamp.getD 0
  ballLeftFieldTouchLine :=
    copyOptionalStruct BallLeftField.fromProto protoMsg.ballLeftFieldTouchLine?
  ballLeftFieldGoalLine :=
    copyOptionalStruct BallLeftField.fromProto protoMsg.ballLeftFieldGoalLine?
  aimlessKick := copyOptionalStruct AimlessKick.fromProto protoMsg.aimlessKick?
  attackerTooCloseToDefenseArea :=
    copyOptionalStruct AttackerTooCloseToDefenseArea.fromProto
      protoMsg.attackerTooCloseToDefenseArea?
  defenderInDefenseArea :=
    copyOptionalStruct DefenderInDefenseArea.fromProto protoMsg.defenderInDefenseArea?
  boundaryCrossing := copyOptionalStruct BoundaryCrossing.fromProto protoMsg.boundaryCrossing?
  keeperHeldBall := copyOptionalStruct KeeperHeldBall.fromProto protoMsg.keeperHeldBall?
  botDribbledBallTooFar :=
    copyOptionalStruct BotDribbledBallTooFar.fromProto protoMsg.botDribbledBallTooFar?
  botPushedBot := copyOptionalStruct BotPushedBot.fromProto protoMsg.botPushedBot?
  botHeldBallDeliberately :=
    copyOptionalStruct BotHeldBallDeliberately.fromProto protoMsg.botHeldBallDeliberately?
  botTippedOver := copyOptionalStruct BotTippedOver.fromProto protoMsg.botTippedOver?
  botDroppedParts := copyOptionalStruct BotDroppedParts.fromProto protoMsg.botDroppedParts?
  attackerTouchedBallInDefenseArea :=
    copyOptionalStruct AttackerTouchedBallInDefenseArea.fromProto
      protoMsg.attackerTouchedBallInDefenseArea?
  botKickedBallTooFast :=
    copyOptionalStruct BotKickedBallTooFast.fromProto protoMsg.botKickedBallTooFast?
  botCrashUnique := copyOptionalStruct BotCrashUnique.fromProto protoMsg.botCrashUnique?
  botCrashDrawn := copyOptionalStruct BotCrashDrawn.fromProto protoMsg.botCrashDrawn?
  defenderTooCloseToKickPoint :=
    copyOptionalStruct DefenderTooCloseToKickPoint.fromProto protoMsg.defenderTooCloseToKickPoint?
  botTooFastInStop := copyOptionalStruct BotTooFastInStop.fromProto protoMsg.botTooFastInStop?
  botInterferedPlacement :=
    copyOptionalStruct BotInterferedPlacement.fromProto protoMsg.botInterferedPlacement?
  possibleGoal := copyOptionalStruct Goal.fromProto protoMsg.possibleGoal?
  goal := copyOptionalStruct Goal.fromProto protoMsg.goal?
  invalidGoal := copyOptionalStruct Goal.fromProto protoMsg.invalidGoal?
  attackerDoubleTouchedBall :=
    copyOptionalStruct AttackerDoubleTouchedBall.fromProto protoMsg.attackerDoubleTouchedBall?
  placementSucceeded :=
    copyOptionalStruct PlacementSucceeded.fromProto protoMsg.placementSucceeded?
  penaltyKickFailed := copyOptionalStruct PenaltyKickFailed.fromProto protoMsg.penaltyKickFailed?
  noProgressInGame := copyOptionalStruct NoProgressInGame.fromProto protoMsg.noProgressInGame?
  placementFailed := copyOptionalStruct PlacementFailed.fromProto protoMsg.placementFailed?
  multipleCards := copyOptionalStruct MultipleCards.fromProto protoMsg.multipleCards?
  multipleFouls := copyOptionalStruct MultipleFouls.fromProto protoMsg.multipleFouls?
  botSubstitution := copyOptionalStruct BotSubstitution.fromProto protoMsg.botSubstitution?
  excessiveBotSubstitution :=
    copyOptionalStruct ExcessiveBotSubstitution.fromProto protoMsg.excessiveBotSubstitution?
  tooManyRobots := copyOptionalStruct TooManyRobots.fromProto protoMsg.tooManyRobots?
  challengeFlag := copyOptionalStruct ChallengeFlag.fromProto protoMsg.challengeFlag?
  challengeFlagHandled :=
    copyOptionalStruct ChallengeFlagHandled.fromProto protoMsg.challengeFlagHandled?
  emergencyStop := copyOptionalStruct EmergencyStop.fromProto protoMsg.emergencyStop?
  unsportingBehaviorMinor :=
    copyOptionalStruct UnsportingBehaviorMinor.fromProto protoMsg.unsportingBehaviorMinor?
  unsportingBehaviorMajor :=
    copyOptionalStruct UnsportingBehaviorMajor.fromProto protoMsg.unsportingBehaviorMajor?

end Proto.GameEvent

/-! ## Cases -/

/-- The members of the oneof. -/
inductive EventCase where
  | ballLeftFieldTouchLine
  | ballLeftFieldGoalLine
  | aimlessKick
  | attackerTooCloseToDefenseArea
  | defenderInDefenseArea
  | boundaryCrossing
  | keeperHeldBall
  | botDribbledBallTooFar
  | botPushedBot
  | botHeldBallDeliberately
  | botTippedOver
  | botDroppedParts
  | attackerTouchedBallInDefenseArea
  | botKickedBallTooFast
  | botCrashUnique
  | botCrashDrawn
  | defenderTooCloseToKickPoint
  | botTooFastInStop
  | botInterferedPlacement
  | possibleGoal
  | goal
  | invalidGoal
  | attackerDoubleTouchedBall
  | placementSucceeded
  | penaltyKickFailed
  | noProgressInGame
  | placementFailed
  | multipleCards
  | multipleFouls
  | botSubstitution
  | excessiveBotSubstitution
  | tooManyRobots
  | challengeFlag
  | challengeFlagHandled
  | emergencyStop
  | unsportingBehaviorMinor
  | unsportingBehaviorMajor
  | prepared
  | indirectGoal
  | chippedGoal
  | kickTimeout
  | attackerTouchedOpponentInDefenseArea
  | attackerTouchedOpponentInDefenseAreaSkipped
  | botCrashUniqueSkipped
  | botPushedBotSkipped
  | defenderInDefenseAreaPartially
  | multiplePlacementFailures
  deriving DecidableEq, Repr

/-- Marked `deprecated` in the protobuf. -/
def EventCase.deprecated : EventCase → Bool
  | .prepared
  | .indirectGoal
  | .chippedGoal
  | .kickTimeout
  | .attackerTouchedOpponentInDefenseArea
  | .attackerTouchedOpponentInDefenseAreaSkipped
  | .botCrashUniqueSkipped
  | .botPushedBotSkipped
  | .defenderInDefenseAreaPartially
  | .multiplePlacementFailures => true
  | _ => false

def Proto.Event.case : Event → EventCase
  | .ballLeftFieldTouchLine _ => .ballLeftFieldTouchLine
  | .ballLeftFieldGoalLine _ => .ballLeftFieldGoalLine
  | .aimlessKick _ => .aimlessKick
  | .attackerTooCloseToDefenseArea _ => .attackerTooCloseToDefenseArea
  | .defenderInDefenseArea _ => .defenderInDefenseArea
  | .boundaryCrossing _ => .boundaryCrossing
  | .keeperHeldBall _ => .keeperHeldBall
  | .botDribbledBallTooFar _ => .botDribbledBallTooFar
  | .botPushedBot _ => .botPushedBot
  | .botHeldBallDeliberately _ => .botHeldBallDeliberately
  | .botTippedOver _ => .botTippedOver
  | .botDroppedParts _ => .botDroppedParts
  | .attackerTouchedBallInDefenseArea _ => .attackerTouchedBallInDefenseArea
  | .botKickedBallTooFast _ => .botKickedBallTooFast
  | .botCrashUnique _ => .botCrashUnique
  | .botCrashDrawn _ => .botCrashDrawn
  | .defenderTooCloseToKickPoint _ => .defenderTooCloseToKickPoint
  | .botTooFastInStop _ => .botTooFastInStop
  | .botInterferedPlacement _ => .botInterferedPlacement
  | .possibleGoal _ => .possibleGoal
  | .goal _ => .goal
  | .invalidGoal _ => .invalidGoal
  | .attackerDoubleTouchedBall _ => .attackerDoubleTouchedBall
  | .placementSucceeded _ => .placementSucceeded
  | .penaltyKickFailed _ => .penaltyKickFailed
  | .noProgressInGame _ => .noProgressInGame
  | .placementFailed _ => .placementFailed
  | .multipleCards _ => .multipleCards
  | .multipleFouls _ => .multipleFouls
  | .botSubstitution _ => .botSubstitution
  | .excessiveBotSubstitution _ => .excessiveBotSubstitution
  | .tooManyRobots _ => .tooManyRobots
  | .challengeFlag _ => .challengeFlag
  | .challengeFlagHandled _ => .challengeFlagHandled
  | .emergencyStop _ => .emergencyStop
  | .unsportingBehaviorMinor _ => .unsportingBehaviorMinor
  | .unsportingBehaviorMajor _ => .unsportingBehaviorMajor
  | .prepared _ => .prepared
  | .indirectGoal _ => .indirectGoal
  | .chippedGoal _ => .chippedGoal
  | .kickTimeout _ => .kickTimeout
  | .attackerTouchedOpponentInDefenseArea _ => .attackerTouchedOpponentInDefenseArea
  | .attackerTouchedOpponentInDefenseAreaSkipped _ => .attackerTouchedOpponentInDefenseAreaSkipped
  | .botCrashUniqueSkipped _ => .botCrashUniqueSkipped
  | .botPushedBotSkipped _ => .botPushedBotSkipped
  | .defenderInDefenseAreaPartially _ => .defenderInDefenseAreaPartially
  | .multiplePlacementFailures _ => .multiplePlacementFailures

/-- The payload converted into the array of its case, all other arrays empty. -/
def Msg.PayloadArrays.only : Proto.Event → PayloadArrays
  | .ballLeftFieldTouchLine payload => { ballLeftFieldTouchLine := [payload.fromProto] }
  | .ballLeftFieldGoalLine payload => { ballLeftFieldGoalLine := [payload.fromProto] }
  | .aimlessKick payload => { aimlessKick := [payload.fromProto] }
  | .attackerTooCloseToDefenseArea payload =>
      { attackerTooCloseToDefenseArea := [payload.fromProto] }
  | .defenderInDefenseArea payload => { defenderInDefenseArea := [payload.fromProto] }
  | .boundaryCrossing payload => { boundaryCrossing := [payload.fromProto] }
  | .keeperHeldBall payload => { keeperHeldBall := [payload.fromProto] }
  | .botDribbledBallTooFar payload => { botDribbledBallTooFar := [payload.fromProto] }
  | .botPushedBot payload => { botPushedBot := [payload.fromProto] }
  | .botHeldBallDeliberately payload => { botHeldBallDeliberately := [payload.fromProto] }
  | .botTippedOver payload => { botTippedOver := [payload.fromProto] }
  | .botDroppedParts payload => { botDroppedParts := [payload.fromProto] }
  | .attackerTouchedBallInDefenseArea payload =>
      { attackerTouchedBallInDefenseArea := [payload.fromProto] }
  | .botKickedBallTooFast payload => { botKickedBallTooFast := [payload.fromProto] }
  | .botCrashUnique payload => { botCrashUnique := [payload.fromProto] }
  | .botCrashDrawn payload => { botCrashDrawn := [payload.fromProto] }
  | .defenderTooCloseToKickPoint payload => { defenderTooCloseToKickPoint := [payload.fromProto] }
  | .botTooFastInStop payload => { botTooFastInStop := [payload.fromProto] }
  | .botInterferedPlacement payload => { botInterferedPlacement := [payload.fromProto] }
  | .possibleGoal payload => { possibleGoal := [payload.fromProto] }
  | .goal payload => { goal := [payload.fromProto] }
  | .invalidGoal payload => { invalidGoal := [payload.fromProto] }
  | .attackerDoubleTouchedBall payload => { attackerDoubleTouchedBall := [payload.fromProto] }
  | .placementSucceeded payload => { placementSucceeded := [payload.fromProto] }
  | .penaltyKickFailed payload => { penaltyKickFailed := [payload.fromProto] }
  | .noProgressInGame payload => { noProgressInGame := [payload.fromProto] }
  | .placementFailed payload => { placementFailed := [payload.fromProto] }
  | .multipleCards payload => { multipleCards := [payload.fromProto] }
  | .multipleFouls payload => { multipleFouls := [payload.fromProto] }
  | .botSubstitution payload => { botSubstitution := [payload.fromProto] }
  | .excessiveBotSubstitution payload => { excessiveBotSubstitution := [payload.fromProto] }
  | .tooManyRobots payload => { tooManyRobots := [payload.fromProto] }
  | .challengeFlag payload => { challengeFlag := [payload.fromProto] }
  | .challengeFlagHandled payload => { challengeFlagHandled := [payload.fromProto] }
  | .emergencyStop payload => { emergencyStop := [payload.fromProto] }
  | .unsportingBehaviorMinor payload => { unsportingBehaviorMinor := [payload.fromProto] }
  | .unsportingBehaviorMajor payload => { unsportingBehaviorMajor := [payload.fromProto] }
  | .prepared payload => { prepared := [payload.fromProto] }
  | .indirectGoal payload => { indirectGoal := [payload.fromProto] }
  | .chippedGoal payload => { chippedGoal := [payload.fromProto] }
  | .kickTimeout payload => { kickTimeout := [payload.fromProto] }
  | .attackerTouchedOpponentInDefenseArea payload =>
      { attackerTouchedOpponentInDefenseArea := [payload.fromProto] }
  | .attackerTouchedOpponentInDefenseAreaSkipped payload =>
      { attackerTouchedOpponentInDefenseAreaSkipped := [payload.fromProto] }
  | .botCrashUniqueSkipped payload => { botCrashUniqueSkipped := [payload.fromProto] }
  | .botPushedBotSkipped payload => { botPushedBotSkipped := [payload.fromProto] }
  | .defenderInDefenseAreaPartially payload =>
      { defenderInDefenseAreaPartially := [payload.fromProto] }
  | .multiplePlacementFailures payload => { multiplePlacementFailures := [payload.fromProto] }

/-- The cases of the payloads that the arrays hold. -/
def Msg.PayloadArrays.heldCases (arrays : PayloadArrays) : List EventCase :=
  List.flatten
    [arrays.ballLeftFieldTouchLine.map fun _ => .ballLeftFieldTouchLine,
      arrays.ballLeftFieldGoalLine.map fun _ => .ballLeftFieldGoalLine,
      arrays.aimlessKick.map fun _ => .aimlessKick,
      arrays.attackerTooCloseToDefenseArea.map fun _ => .attackerTooCloseToDefenseArea,
      arrays.defenderInDefenseArea.map fun _ => .defenderInDefenseArea,
      arrays.boundaryCrossing.map fun _ => .boundaryCrossing,
      arrays.keeperHeldBall.map fun _ => .keeperHeldBall,
      arrays.botDribbledBallTooFar.map fun _ => .botDribbledBallTooFar,
      arrays.botPushedBot.map fun _ => .botPushedBot,
      arrays.botHeldBallDeliberately.map fun _ => .botHeldBallDeliberately,
      arrays.botTippedOver.map fun _ => .botTippedOver,
      arrays.botDroppedParts.map fun _ => .botDroppedParts,
      arrays.attackerTouchedBallInDefenseArea.map fun _ => .attackerTouchedBallInDefenseArea,
      arrays.botKickedBallTooFast.map fun _ => .botKickedBallTooFast,
      arrays.botCrashUnique.map fun _ => .botCrashUnique,
      arrays.botCrashDrawn.map fun _ => .botCrashDrawn,
      arrays.defenderTooCloseToKickPoint.map fun _ => .defenderTooCloseToKickPoint,
      arrays.botTooFastInStop.map fun _ => .botTooFastInStop,
      arrays.botInterferedPlacement.map fun _ => .botInterferedPlacement,
      arrays.possibleGoal.map fun _ => .possibleGoal,
      arrays.goal.map fun _ => .goal,
      arrays.invalidGoal.map fun _ => .invalidGoal,
      arrays.attackerDoubleTouchedBall.map fun _ => .attackerDoubleTouchedBall,
      arrays.placementSucceeded.map fun _ => .placementSucceeded,
      arrays.penaltyKickFailed.map fun _ => .penaltyKickFailed,
      arrays.noProgressInGame.map fun _ => .noProgressInGame,
      arrays.placementFailed.map fun _ => .placementFailed,
      arrays.multipleCards.map fun _ => .multipleCards,
      arrays.multipleFouls.map fun _ => .multipleFouls,
      arrays.botSubstitution.map fun _ => .botSubstitution,
      arrays.excessiveBotSubstitution.map fun _ => .excessiveBotSubstitution,
      arrays.tooManyRobots.map fun _ => .tooManyRobots,
      arrays.challengeFlag.map fun _ => .challengeFlag,
      arrays.challengeFlagHandled.map fun _ => .challengeFlagHandled,
      arrays.emergencyStop.map fun _ => .emergencyStop,
      arrays.unsportingBehaviorMinor.map fun _ => .unsportingBehaviorMinor,
      arrays.unsportingBehaviorMajor.map fun _ => .unsportingBehaviorMajor,
      arrays.prepared.map fun _ => .prepared,
      arrays.indirectGoal.map fun _ => .indirectGoal,
      arrays.chippedGoal.map fun _ => .chippedGoal,
      arrays.kickTimeout.map fun _ => .kickTimeout,
      arrays.attackerTouchedOpponentInDefenseArea.map
        fun _ => .attackerTouchedOpponentInDefenseArea,
      arrays.attackerTouchedOpponentInDefenseAreaSkipped.map
        fun _ => .attackerTouchedOpponentInDefenseAreaSkipped,
      arrays.botCrashUniqueSkipped.map fun _ => .botCrashUniqueSkipped,
      arrays.botPushedBotSkipped.map fun _ => .botPushedBotSkipped,
      arrays.defenderInDefenseAreaPartially.map fun _ => .defenderInDefenseAreaPartially,
      arrays.multiplePlacementFailures.map fun _ => .multiplePlacementFailures]

theorem heldCases_only (event : Proto.Event) :
    (Msg.PayloadArrays.only event).heldCases = [event.case] := by
  cases event <;> rfl

namespace Proto.GameEvent

/-- The oneof case that is set, if any. -/
def case? (event : GameEvent) : Option EventCase := event.event.map Event.case

/-- The payload arrays of the converted message. -/
def arrays (event : GameEvent) : Msg.PayloadArrays := event.fromProto.toPayloadArrays

/-- The kind is preserved: the array of the oneof case holds the converted
payload and the other arrays are empty. -/
def KindPreserved (event : GameEvent) : Prop :=
  event.arrays = event.event.elim {} Msg.PayloadArrays.only

/-- A case is set that is not deprecated. -/
def current (event : GameEvent) : Bool :=
  event.event.any fun payload => !payload.case.deprecated

/-- What the copy lines do to the oneof as a whole. -/
theorem arrays_eq (event : GameEvent) :
    event.arrays = if event.current then event.event.elim {} Msg.PayloadArrays.only else {} := by
  obtain ⟨id, type, origin, createdTimestamp, payload⟩ := event
  cases payload with
  | none => rfl
  | some payload => cases payload <;> rfl

theorem heldCases_arrays (event : GameEvent) :
    event.arrays.heldCases = if event.current then event.case?.toList else [] := by
  rw [arrays_eq]
  cases set : event.event with
  | none => simp [current, set]; rfl
  | some payload =>
      by_cases kept : event.current = true
      · rw [if_pos kept, if_pos kept, case?, set]
        exact heldCases_only payload
      · rw [if_neg kept, if_neg kept]
        rfl

theorem kindPreserved_iff (event : GameEvent) :
    event.KindPreserved ↔ event.event = none ∨ event.current = true := by
  constructor
  · intro preserved
    cases set : event.event with
    | none => exact Or.inl rfl
    | some payload =>
        cases kept : event.current with
        | true => exact Or.inr rfl
        | false =>
            have held := congrArg Msg.PayloadArrays.heldCases preserved
            rw [heldCases_arrays, kept, set, Option.elim_some, heldCases_only] at held
            cases held
  · rintro (unset | kept)
    · rw [KindPreserved, arrays_eq, unset]
      split <;> rfl
    · rw [KindPreserved, arrays_eq, if_pos kept]

/-- A copied case shows in the arrays. -/
theorem case?_eq_of_arrays_eq {event other : GameEvent} (same : event.arrays = other.arrays)
    (kept : event.current = true) : event.case? = other.case? := by
  have held := congrArg Msg.PayloadArrays.heldCases same
  rw [heldCases_arrays, heldCases_arrays, if_pos kept] at held
  cases set : event.event with
  | none => simp [current, set] at kept
  | some payload =>
      cases otherKept : other.current with
      | false => simp [otherKept, case?, set] at held
      | true =>
          rw [if_pos otherKept] at held
          simpa using congrArg List.head? held

/-- Two events of different cases are told apart exactly when one of them has
a copied case. -/
theorem arrays_ne_iff {event other : GameEvent} (different : event.case? ≠ other.case?) :
    event.arrays ≠ other.arrays ↔ event.current = true ∨ other.current = true := by
  constructor
  · intro distinct
    cases kept : event.current with
    | true => exact Or.inl rfl
    | false =>
        cases otherKept : other.current with
        | true => exact Or.inr rfl
        | false =>
            rw [arrays_eq, arrays_eq, kept, otherKept] at distinct
            exact absurd rfl distinct
  · rintro (kept | kept) same
    · exact different (case?_eq_of_arrays_eq same kept)
    · exact different (case?_eq_of_arrays_eq same.symm kept).symm

/--
The kind of an event is preserved exactly when its oneof is unset or set to a
case that is not deprecated; events of different cases are told apart exactly
when one of them is set to such a case.
-/
theorem kindPreserved_iff_and_arrays_ne_iff (event other : GameEvent) :
    (event.KindPreserved ↔ event.event = none ∨ event.current = true) ∧
      (event.case? ≠ other.case? →
        (event.arrays ≠ other.arrays ↔ event.current = true ∨ other.current = true)) :=
  ⟨kindPreserved_iff event, arrays_ne_iff⟩

theorem goal_and_invalidGoal_told_apart :
    arrays { event := some (.goal { byTeam := .blue }) } ≠
      arrays { event := some (.invalidGoal { byTeam := .blue }) } :=
  ((kindPreserved_iff_and_arrays_ne_iff _ _).2 (by decide)).mpr (Or.inl rfl)

/-- A prepared event loses its payload and is converted like a kick timeout. -/
theorem prepared_not_preserved :
    ¬ KindPreserved { event := some (.prepared {}) } ∧
      arrays { event := some (.prepared {}) } =
        arrays { event := some (.kickTimeout { byTeam := .blue }) } := by
  refine ⟨fun preserved => ?_, rfl⟩
  rcases (kindPreserved_iff _).mp preserved with unset | current
  · cases unset
  · cases current

end Proto.GameEvent

end SslRosBridge.MessageConversion
