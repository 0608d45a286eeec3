import SslRosBridge.GameControllerBridge.Nodes

/-!
# The gaps between reconnect requests

The bridge waits for one request at a time, but not longer than
`kReconnectTimeout`.  It does not withdraw a request that it gives up, so an
unanswered one only delays the next.
-/

namespace SslRosBridge.GameControllerBridge

open Library

section ReconnectGaps

variable {World : Type} {platform : NodePlatform World} (bridgePlatform : BridgePlatform)

/-- The bridge sends a request.  Its number is the next one. -/
def SendsRequest (nodes : Nodes World bridgePlatform.Message) (event : NodesEvent World) : Prop :=
  ∃ bridge senderAddress buffer serviceIsReady, nodes.bridge = some bridge ∧
    event = .refereePacket senderAddress buffer serviceIsReady ∧
    bridge.reconnects bridgePlatform nodes.time serviceIsReady buffer = true

/-- The response to the request with that number reaches the bridge. -/
def Answers {Message : Type} (number : Nat) (nodes : Nodes World Message)
    (event : NodesEvent World) : Prop :=
  ∃ index response, event = .deliverResponse index ∧
    nodes.responses[index]? = some response ∧ response.number = number

/-- Two requests that one bridge sends in a run, with what lies between them. -/
structure TwoRequests
    (transitions : List (Transition (Nodes World bridgePlatform.Message) (NodesEvent World)))
    (first : Transition (Nodes World bridgePlatform.Message) (NodesEvent World))
    (between : List (Transition (Nodes World bridgePlatform.Message) (NodesEvent World)))
    (second : Transition (Nodes World bridgePlatform.Message) (NodesEvent World)) : Prop where
  order : ∃ front back, transitions = front ++ first :: (between ++ second :: back)
  firstSends : SendsRequest bridgePlatform first.before first.label
  secondSends : SendsRequest bridgePlatform second.before second.label
  sameBridge : ∀ transition ∈ between, transition.label ≠ .startBridge

/-! ## What a step does to the bridge -/

/-- The ways in which a step changes what the bridge waits for and when it tried. -/
inductive BridgeMove {Message : Type} (nodes : Nodes World Message) (event : NodesEvent World)
    (bridge next : GCMulticastBridgeNode Message (TeamClient World)) : Prop where
  | stays (waiting : next.waiting = bridge.waiting)
      (attempt : next.lastReconnectAttemptTime = bridge.lastReconnectAttemptTime)
  | sends (idle : bridge.waiting = none) (attempt : next.lastReconnectAttemptTime = nodes.time)
  | answered {future : ServiceFuture (TeamClient World)} {index : Nat}
      {response : ReconnectResponse (TeamClient World)} (event_eq : event = .deliverResponse index)
      (waiting : bridge.waiting = some future) (arrives : nodes.responses[index]? = some response)
      (number : response.number = future.number)
      (attempt : next.lastReconnectAttemptTime = bridge.lastReconnectAttemptTime)
  | wakes {future : ServiceFuture (TeamClient World)} (waiting : bridge.waiting = some future)
      (ready : future.response ≠ none ∨ future.deadline ≤ nodes.time)
      (attempt : next.lastReconnectAttemptTime = bridge.lastReconnectAttemptTime)

theorem BridgeMove.refl {Message : Type} {nodes : Nodes World Message} {event : NodesEvent World}
    (bridge : GCMulticastBridgeNode Message (TeamClient World)) :
    BridgeMove nodes event bridge bridge :=
  .stays rfl rfl

variable {bridgePlatform}

theorem time_afterCallback {Message Value : Type} (nodes : Nodes World Message)
    {outcome : Except ErrorCode Value × TeamClientNode World}
    {send : Value → TeamClientNode World → Nodes World Message → Nodes World Message}
    (kept : ∀ value node nodes, (send value node nodes).time = nodes.time) :
    (nodes.afterCallback outcome send).time = nodes.time := by
  obtain ⟨error | value, node⟩ := outcome
  · rfl
  · exact kept value node _

theorem time_sendStatus {Message : Type} (status : ConnectionStatus) (node : TeamClientNode World)
    (nodes : Nodes World Message) : (Nodes.sendStatus status node nodes).time = nodes.time := by
  unfold Nodes.sendStatus
  split <;> rfl

theorem sendReconnect_time {Message : Type} (nodes : Nodes World Message)
    (request : Option ReconnectRequest) : (nodes.sendReconnect request).time = nodes.time := by
  cases request <;> rfl

theorem receiveResponse_move {Message : Type} {nodes : Nodes World Message} {index : Nat}
    {bridge : GCMulticastBridgeNode Message (TeamClient World)}
    {response : ReconnectResponse (TeamClient World)}
    (arrives : nodes.responses[index]? = some response) :
    BridgeMove nodes (.deliverResponse index) bridge (bridge.receiveResponse response) := by
  unfold GCMulticastBridgeNode.receiveResponse
  cases waiting : bridge.waiting with
  | none => exact .stays rfl rfl
  | some future =>
      dsimp only
      split
      · next number => exact .answered rfl waiting arrives number.symm rfl
      · exact .stays rfl rfl

/-- Time goes on, and the bridge stays unless it is started again. -/
theorem bridge_move {before after : Nodes World bridgePlatform.Message} {event : NodesEvent World}
    (step : NodesStep platform bridgePlatform before event after) (same : event ≠ .startBridge)
    {bridge : GCMulticastBridgeNode bridgePlatform.Message (TeamClient World)}
    (running : before.bridge = some bridge) :
    before.time ≤ after.time ∧
      ∃ next, after.bridge = some next ∧ BridgeMove before event bridge next := by
  cases step with
  | startBridge => exact absurd rfl same
  | startClient => exact ⟨Nat.le_refl _, bridge, running, .refl _⟩
  | connectAtStart constructing =>
      exact ⟨Nat.le_of_eq (time_afterCallback _ fun _ _ _ => rfl).symm, bridge,
        (Nodes.bridge_afterCallback _ fun _ _ _ => rfl).trans running, .refl _⟩
  | networkMoves => exact ⟨Nat.le_refl _, bridge, running, .refl _⟩
  | timePasses duration => exact ⟨Nat.le_add_right _ _, bridge, running, .refl _⟩
  | userSetsParameters => exact ⟨Nat.le_refl _, bridge, running, .refl _⟩
  | userReconnects =>
      exact ⟨Nat.le_of_eq (time_afterCallback _ fun _ _ _ => rfl).symm, bridge,
        (Nodes.bridge_afterCallback _ fun _ _ _ => rfl).trans running, .refl _⟩
  | userRequests =>
      exact ⟨Nat.le_of_eq (time_afterCallback _ fun _ _ _ => rfl).symm, bridge,
        (Nodes.bridge_afterCallback _ fun _ _ _ => rfl).trans running, .refl _⟩
  | pingTick =>
      exact ⟨Nat.le_of_eq (time_afterCallback _ time_sendStatus).symm, bridge,
        (Nodes.bridge_afterCallback _ fun status node nodes =>
          (nodes.sendStatus_kept status node).1).trans running, .refl _⟩
  | @handleRequest node request index =>
      let taken := { before with requests := before.requests.eraseIdx index }
      have kept (success : Bool) (node : TeamClientNode World)
          (nodes : Nodes World bridgePlatform.Message) :
          (Nodes.sendResponse request.number success node nodes).time = nodes.time ∧
            (Nodes.sendResponse request.number success node nodes).bridge = nodes.bridge :=
        ⟨rfl, rfl⟩
      exact ⟨Nat.le_of_eq (time_afterCallback taken fun _ _ _ => (kept _ _ _).1).symm, bridge,
        (taken.bridge_afterCallback fun _ _ _ => (kept _ _ _).2).trans running, .refl _⟩
  | refereePacket buffer serviceIsReady up idle named callback =>
      cases running.symm.trans up
      refine ⟨Nat.le_of_eq (sendReconnect_time _ _).symm, _, rfl, ?_⟩
      rcases (GCMulticastBridgeNode.publishMulticastMessage_cases _ _ callback).2 with
        ⟨-, -, waiting, attempt⟩ | ⟨-, -, -, attempt⟩
      · exact .stays waiting attempt
      · exact .sends idle attempt
  | deliverStatus up arrives =>
      cases running.symm.trans up
      exact ⟨Nat.le_refl _, _, rfl, .stays rfl rfl⟩
  | deliverResponse index up arrives =>
      cases running.symm.trans up
      exact ⟨Nat.le_refl _, _, rfl, receiveResponse_move arrives⟩
  | @resume bridge future response up waiting answered =>
      cases running.symm.trans up
      refine ⟨Nat.le_refl _, _, rfl, .wakes waiting (Or.inl (by rw [answered]; nofun)) ?_⟩
      unfold GCMulticastBridgeNode.resume
      split <;> rfl
  | giveUp up waiting unanswered late =>
      cases running.symm.trans up
      exact ⟨Nat.le_refl _, _, rfl, .wakes waiting (Or.inr late) rfl⟩

/-! ## Between two requests -/

/-- The bridge tried to reconnect at that time or later. -/
def TriedSince {Message : Type} (start : Nat) (nodes : Nodes World Message) : Prop :=
  start ≤ nodes.time ∧
    ∃ bridge, nodes.bridge = some bridge ∧ start ≤ bridge.lastReconnectAttemptTime

/-- The bridge still waits for the response to that request, or it is too late. -/
def WaitsUntil {Message : Type} (number deadline : Nat) (nodes : Nodes World Message) : Prop :=
  ∃ bridge, nodes.bridge = some bridge ∧
    (deadline ≤ nodes.time ∨ ∃ future, bridge.waiting = some future ∧
      future.number = number ∧ future.deadline = deadline ∧ future.response = none)

theorem triedSince_step {start : Nat} {before after : Nodes World bridgePlatform.Message}
    {event : NodesEvent World} (tried : TriedSince start before) (same : event ≠ .startBridge)
    (step : NodesStep platform bridgePlatform before event after) : TriedSince start after := by
  obtain ⟨started, bridge, running, attempt⟩ := tried
  obtain ⟨later, next, runs, move⟩ := bridge_move step same running
  refine ⟨Nat.le_trans started later, next, runs, ?_⟩
  cases move with
  | stays _ kept => rwa [kept]
  | sends _ now => rwa [now]
  | answered _ _ _ _ kept => rwa [kept]
  | wakes _ _ kept => rwa [kept]

theorem waitsUntil_step {number deadline : Nat} {before after : Nodes World bridgePlatform.Message}
    {event : NodesEvent World} (waits : WaitsUntil number deadline before)
    (open_ : event ≠ .startBridge ∧ ¬ Answers number before event)
    (step : NodesStep platform bridgePlatform before event after) :
    WaitsUntil number deadline after := by
  obtain ⟨bridge, running, late | ⟨future, waiting, same, ends, unanswered⟩⟩ := waits
  · obtain ⟨later, next, runs, -⟩ := bridge_move step open_.1 running
    exact ⟨next, runs, Or.inl (Nat.le_trans late later)⟩
  obtain ⟨later, next, runs, move⟩ := bridge_move step open_.1 running
  refine ⟨next, runs, ?_⟩
  cases move with
  | stays kept _ => exact Or.inr ⟨future, kept.trans waiting, same, ends, unanswered⟩
  | sends idle _ => exact absurd (idle.symm.trans waiting) nofun
  | answered event_eq waiting' arrives number_eq _ =>
      cases waiting.symm.trans waiting'
      exact absurd ⟨_, _, event_eq, arrives, number_eq.trans same⟩ open_.2
  | wakes waiting' ready _ =>
      cases waiting.symm.trans waiting'
      refine Or.inl ?_
      have late := ready.resolve_left (not_not_intro unanswered)
      omega

/-- What a request leaves behind. -/
theorem sendsRequest_step {before after : Nodes World bridgePlatform.Message}
    {event : NodesEvent World} (sends : SendsRequest bridgePlatform before event)
    (step : NodesStep platform bridgePlatform before event after) :
    TriedSince before.time after ∧
      WaitsUntil before.nextNumber
        (before.time + GCMulticastBridgeNode.kReconnectTimeout bridgePlatform) after ∧
      ∃ bridge, before.bridge = some bridge ∧ bridge.waiting = none ∧
        GCMulticastBridgeNode.kReconnectRetryTime bridgePlatform ≤
          before.time - bridge.lastReconnectAttemptTime := by
  obtain ⟨bridge, senderAddress, buffer, serviceIsReady, running, rfl, reconnects⟩ := sends
  cases step with
  | refereePacket buffer serviceIsReady up idle named callback =>
      cases running.symm.trans up
      rcases (GCMulticastBridgeNode.publishMulticastMessage_cases _ _ callback).2 with
        ⟨quiet, -⟩ | ⟨-, rfl, waiting, attempt⟩
      · exact absurd (reconnects.symm.trans quiet) nofun
      refine ⟨⟨Nat.le_refl _, _, rfl, Nat.le_of_eq attempt.symm⟩,
        ⟨_, rfl, Or.inr ⟨_, waiting, rfl, rfl, rfl⟩⟩, bridge, running, idle, ?_⟩
      simp only [GCMulticastBridgeNode.reconnects, Bool.and_eq_true, decide_eq_true_eq]
        at reconnects
      exact reconnects.2

/--
However packets, statuses and responses come, two requests of a bridge are at
least the retry time apart, and the bridge sends the second while the first is
unanswered only the timeout later.
-/
theorem requests_apart {last : Nodes World bridgePlatform.Message}
    {transitions between :
      List (Transition (Nodes World bridgePlatform.Message) (NodesEvent World))}
    {first second : Transition (Nodes World bridgePlatform.Message) (NodesEvent World)}
    (run : NodesRun platform bridgePlatform transitions last)
    (two : TwoRequests bridgePlatform transitions first between second) :
    first.before.time + GCMulticastBridgeNode.kReconnectRetryTime bridgePlatform ≤
        second.before.time ∧
      ((∀ transition ∈ between,
          ¬ Answers first.before.nextNumber transition.before transition.label) →
        first.before.time + GCMulticastBridgeNode.kReconnectTimeout bridgePlatform ≤
          second.before.time) := by
  obtain ⟨front, back, rfl⟩ := two.order
  obtain ⟨_, -, fromFirst⟩ := run.split
  cases fromFirst with
  | step firstTaken later =>
  obtain ⟨tried, waits, -⟩ := sendsRequest_step two.firstSends firstTaken
  obtain ⟨_, meanwhile, fromSecond⟩ := later.split
  cases fromSecond with
  | step secondTaken _ =>
  obtain ⟨-, -, bridge, running, idle, gap⟩ := sendsRequest_step two.secondSends secondTaken
  constructor
  · obtain ⟨⟨started, bridge', running', attempt⟩, -⟩ := meanwhile.invariant (TriedSince _)
      (fun _ event => event ≠ .startBridge) triedSince_step tried two.sameBridge
    cases running.symm.trans running'
    dsimp only at gap started attempt ⊢
    omega
  · intro unanswered
    obtain ⟨⟨bridge', running', late | ⟨future, waiting, -⟩⟩, -⟩ := meanwhile.invariant
      (WaitsUntil _ _) (fun nodes event => event ≠ .startBridge ∧ ¬ Answers _ nodes event)
      waitsUntil_step waits fun transition member =>
        ⟨two.sameBridge transition member, unanswered transition member⟩
    · exact late
    · cases running.symm.trans running'
      exact absurd (idle.symm.trans waiting) nofun

end ReconnectGaps

/-! ## A request that is given up -/

namespace GivenUp

/-- Both nodes have started, and a second has passed. -/
def started : Nodes Script scriptedBridge.Message where
  time := 10
  bridge := some {}
  client := .running (.initial {} {})

def startTransitions : List (Transition (Nodes Script scriptedBridge.Message)
    (NodesEvent Script)) :=
  let bridgeUp : Nodes Script scriptedBridge.Message := { bridge := some {} }
  let constructing := { bridgeUp with client := .constructing (.initial {} {}) }
  let connected := bridgeUp.clientRuns (.initial {} {})
  [⟨{}, .startBridge, bridgeUp⟩, ⟨bridgeUp, .startClient {} {}, constructing⟩,
    ⟨constructing, .connectAtStart, connected⟩, ⟨connected, .timePasses 10, started⟩]

/-- The nodes with the requests sent by then, of which the last is waited for. -/
def requested (time : Nat) (packets : List (List UInt8)) (requests : List ReconnectRequest)
    (waiting : Option (ServiceFuture (TeamClient Script))) (attempt : Nat) :
    Nodes Script scriptedBridge.Message where
  time := time
  nextNumber := requests.length
  bridge := some { lastReconnectAttemptTime := attempt, published := packets, waiting := waiting }
  client := .running (.initial {} {})
  requests := requests

def sent : Nodes Script scriptedBridge.Message :=
  requested 10 [bareReferee] [⟨0, "10.0.0.1"⟩] (some { number := 0, deadline := 30 }) 10

def overdue : Nodes Script scriptedBridge.Message := { sent with time := 30 }

def gaveUp : Nodes Script scriptedBridge.Message :=
  requested 30 [bareReferee] [⟨0, "10.0.0.1"⟩] none 10

def sentAgain : Nodes Script scriptedBridge.Message :=
  requested 30 [bareReferee, bareReferee] [⟨0, "10.0.0.1"⟩, ⟨1, "10.0.0.1"⟩]
    (some { number := 1, deadline := 50 }) 30

def first : Transition (Nodes Script scriptedBridge.Message) (NodesEvent Script) :=
  ⟨started, .refereePacket "10.0.0.1" bareReferee true, sent⟩

def between : List (Transition (Nodes Script scriptedBridge.Message) (NodesEvent Script)) :=
  [⟨sent, .timePasses 20, overdue⟩, ⟨overdue, .giveUp, gaveUp⟩]

def second : Transition (Nodes Script scriptedBridge.Message) (NodesEvent Script) :=
  ⟨gaveUp, .refereePacket "10.0.0.1" bareReferee true, sentAgain⟩

theorem run : NodesRun scriptedNode scriptedBridge
    (startTransitions ++ first :: (between ++ [second])) sentAgain := by
  have connects : (nodeConnect scriptedNode).result (.initial {} {}) = (.ok true, .initial {} {}) :=
    nodeConnect_without_address scriptedNode rfl
  refine .step (.startBridge _) (.step (.startClient _ _ _) (.step
    (connectAtStart_returns rfl connects) (.step (.timePasses _ 10) (.step ?_ (.step
      (.timePasses _ 20) (.step ?_ (.step ?_ (.stop _))))))))
  · exact @NodesStep.refereePacket _ _ _ started {} "10.0.0.1" (some ⟨0, "10.0.0.1"⟩) _
      bareReferee true rfl rfl (by decide) rfl
  · have late : NodesStep scriptedNode scriptedBridge overdue .giveUp (overdue.withBridge _) :=
      .giveUp rfl rfl rfl (Nat.le_refl 30)
    exact late
  · exact @NodesStep.refereePacket _ _ _ gaveUp _ "10.0.0.1" (some ⟨1, "10.0.0.1"⟩) _
      bareReferee true rfl rfl (by decide) rfl

theorem two : TwoRequests scriptedBridge (startTransitions ++ first :: (between ++ [second]))
    first between second where
  order := ⟨startTransitions, [], rfl⟩
  firstSends := ⟨_, _, _, _, rfl, rfl, by decide⟩
  secondSends := ⟨_, _, _, _, rfl, rfl, by decide⟩
  sameBridge := by
    rintro transition (_ | ⟨_, _ | ⟨_, ⟨⟩⟩⟩) <;> exact nofun

theorem unanswered (number : Nat) : ∀ transition ∈ between,
    ¬ Answers number transition.before transition.label := by
  rintro transition (_ | ⟨_, _ | ⟨_, ⟨⟩⟩⟩) ⟨index, response, ⟨⟩, -⟩

end GivenUp

/-- The second request of the run is sent as late as it must be. -/
theorem requests_apart_givenUp :
    10 + 10 ≤ GivenUp.second.before.time ∧ 10 + 20 ≤ GivenUp.second.before.time := by
  obtain ⟨retry, timeout⟩ := requests_apart GivenUp.run GivenUp.two
  exact ⟨retry, timeout (GivenUp.unanswered _)⟩

/-- Both requests of the run are under way when the second has been sent. -/
theorem request_sent_over_unanswered :
    ¬ ∀ transitions last, NodesRun scriptedNode scriptedBridge transitions last →
      ∀ first between second, TwoRequests scriptedBridge transitions first between second →
        ∃ transition ∈ between,
          Answers first.before.nextNumber transition.before transition.label := by
  intro answered
  obtain ⟨transition, member, answers⟩ := answered _ _ GivenUp.run _ _ _ GivenUp.two
  exact GivenUp.unanswered _ transition member answers

end SslRosBridge.GameControllerBridge
