import SslRosBridge.GameControllerBridge.Registered
import SslRosBridge.GameControllerBridge.Nodes

/-!
# Where the bridge's belief comes from

Every message of the client that reports a connection, on its way or received,
was sent by a client that was connected and registered at that moment.
-/

namespace SslRosBridge.GameControllerBridge

open Library Library.Computation

section BridgeFlag

variable {World : Type} (platform : NodePlatform World) {Message : Type}

/-- A callback that sends a message to the bridge ends with this client. -/
def Sends (transition : Transition (Nodes World Message) (NodesEvent World))
    (sender : TeamClient World) : Prop :=
  (transition.label = .pingTick ∨ ∃ index, transition.label = .handleRequest index) ∧
    ∃ node, transition.after.client = .running node ∧ node.teamClient = sender

/-- The message was sent before, by a client that was connected and registered. -/
structure SentLive (past : List (Transition (Nodes World Message) (NodesEvent World)))
    (sender : TeamClient World) : Prop where
  connected : sender.connected = true
  registered : Registered platform.toPlatform sender
  sent : ∃ transition ∈ past, Sends transition sender

variable (past : List (Transition (Nodes World Message) (NodesEvent World)))

def StatusMessage.Truthful (message : StatusMessage (TeamClient World)) : Prop :=
  message.status.connected = true → SentLive platform past message.sender

def ReconnectResponse.Truthful (response : ReconnectResponse (TeamClient World)) : Prop :=
  response.success = true → SentLive platform past response.sender

/-- The invariant of both nodes and of the messages between them. -/
structure Nodes.Truthful (nodes : Nodes World Message) : Prop where
  client : ∀ node, nodes.client.node? = some node → node.ConsistentClient platform
  requests : ∀ request ∈ nodes.requests, request.serverAddress ≠ ""
  responses : ∀ response ∈ nodes.responses, response.Truthful platform past
  statuses : ∀ message ∈ nodes.statuses, message.Truthful platform past
  waiting : ∀ node future response, nodes.bridge = some node → node.waiting = some future →
    future.response = some response → response.Truthful platform past

variable {platform past} {nodes : Nodes World Message}

theorem SentLive.later {sender : TeamClient World} (sent : SentLive platform past sender)
    (more : List (Transition (Nodes World Message) (NodesEvent World))) :
    SentLive platform (past ++ more) sender := by
  obtain ⟨transition, member, sends⟩ := sent.sent
  exact ⟨sent.connected, sent.registered, transition, List.mem_append_left _ member, sends⟩

/-- What has been sent stays sent. -/
theorem Nodes.Truthful.later (truthful : nodes.Truthful platform past)
    (more : List (Transition (Nodes World Message) (NodesEvent World))) :
    nodes.Truthful platform (past ++ more) where
  client := truthful.client
  requests := truthful.requests
  responses := fun response member success =>
    (truthful.responses response member success).later more
  statuses := fun message member connected =>
    (truthful.statuses message member connected).later more
  waiting := fun node future response running waits answered success =>
    (truthful.waiting node future response running waits answered success).later more

/-! ## The client's side -/

/-- With an address the client answers whether it is connected. -/
theorem connected_of_reconnected {node next : TeamClientNode World} {serverAddress : String}
    (nonempty : serverAddress ≠ "")
    (returned : (handleReconnectTeamClient platform serverAddress).result node = (.ok true, next)) :
    next.teamClient.connected = true := by
  rw [handleReconnectTeamClient_eq, if_neg nonempty] at returned
  have ends := nodeConnect_returns platform { node with gcIpAddress := serverAddress } nonempty
  rw [returned] at ends
  exact ends

theorem Nodes.Truthful.clientRuns (truthful : nodes.Truthful platform past)
    {node : TeamClientNode World} (consistent : node.ConsistentClient platform) :
    (nodes.clientRuns node).Truthful platform past := by
  refine { truthful with client := ?_ }
  rintro _ ⟨⟩
  exact consistent

/-- A callback that keeps the client consistent, with what it sends. -/
theorem Nodes.Truthful.afterCallback {Value : Type} (truthful : nodes.Truthful platform past)
    {callback : NodeAction World Value} {node : TeamClientNode World}
    {send : Value → TeamClientNode World → Nodes World Message → Nodes World Message}
    (up : nodes.client.node? = some node)
    (keeps : Keeps (TeamClientNode.ConsistentClient platform) callback)
    (sends : ∀ value next, callback.result node = (.ok value, next) →
      (nodes.clientRuns next).Truthful platform past →
        (send value next (nodes.clientRuns next)).Truthful platform past) :
    (nodes.afterCallback (callback.result node) send).Truthful platform past := by
  apply nodes.afterCallback_cases
  · intro value next returned
    have consistent := keeps.result (truthful.client node up)
    rw [returned] at consistent
    exact sends value next returned (truthful.clientRuns consistent)
  · refine { truthful with client := ?_, requests := List.forall_mem_nil _ }
    rintro _ ⟨⟩

theorem Nodes.Truthful.sendStatus {node : TeamClientNode World}
    {status : ConnectionStatus} (truthful : (nodes.clientRuns node).Truthful platform past)
    (agrees : status.connected = node.teamClient.connected)
    (sent : ∃ transition ∈ past, Sends transition node.teamClient) :
    (Nodes.sendStatus status node (nodes.clientRuns node)).Truthful platform past := by
  unfold Nodes.sendStatus
  split
  · exact truthful
  · refine { truthful with statuses := List.forall_mem_append.mpr ⟨truthful.statuses, ?_⟩ }
    refine List.forall_mem_singleton.mpr ?_
    intro positive
    have connected := agrees.symm.trans positive
    exact ⟨connected, truthful.client node rfl connected, sent⟩

theorem Nodes.Truthful.sendResponse {node : TeamClientNode World} {number : Nat} {success : Bool}
    (truthful : (nodes.clientRuns node).Truthful platform past)
    (agrees : success = true → node.teamClient.connected = true)
    (sent : ∃ transition ∈ past, Sends transition node.teamClient) :
    (Nodes.sendResponse number success node (nodes.clientRuns node)).Truthful platform past := by
  refine { truthful with responses := List.forall_mem_append.mpr ⟨truthful.responses, ?_⟩ }
  refine List.forall_mem_singleton.mpr ?_
  intro success
  exact ⟨agrees success, truthful.client node rfl (agrees success), sent⟩

theorem consistent_handleService (platform : NodePlatform World) (request : ServiceRequest) :
    Keeps (TeamClientNode.ConsistentClient platform) (handleService platform request) := by
  have sends := fun message => consistent_whenConnected platform
    (consistent_sendRequest platform.toPlatform message)
  cases request with
  | setDesiredKeeper desiredKeeper => exact sends _
  | substituteBot => exact sends _
  | setAdvantageChoice choice => exact sends _

/-! ## The bridge's side -/

/-- A step of the bridge that leaves no untruthful response behind. -/
theorem Nodes.Truthful.withBridge (truthful : nodes.Truthful platform past)
    {bridge : GCMulticastBridgeNode Message (TeamClient World)}
    (waiting : ∀ future response, bridge.waiting = some future →
      future.response = some response → response.Truthful platform past) :
    (nodes.withBridge bridge).Truthful platform past := by
  refine { truthful with waiting := ?_ }
  rintro _ future response ⟨⟩
  exact waiting future response

theorem Nodes.Truthful.receiveResponse (truthful : nodes.Truthful platform past)
    {bridge : GCMulticastBridgeNode Message (TeamClient World)}
    (running : nodes.bridge = some bridge)
    {received : ReconnectResponse (TeamClient World)} (honest : received.Truthful platform past) :
    (nodes.withBridge (bridge.receiveResponse received)).Truthful platform past := by
  refine truthful.withBridge ?_
  unfold GCMulticastBridgeNode.receiveResponse
  split
  · next nothing =>
      intro future response waiting
      exact absurd (nothing.symm.trans waiting) nofun
  · next pending waits =>
      split
      · rintro _ _ ⟨⟩ ⟨⟩
        exact honest
      · exact fun future response => truthful.waiting bridge future response running

/-! ## Runs -/

variable {bridgePlatform : BridgePlatform}

/-- A request carries the address of the packet's sender, and the bridge then
waits without a response. -/
theorem Nodes.Truthful.refereePacket {nodes : Nodes World bridgePlatform.Message}
    {past : List (Transition (Nodes World bridgePlatform.Message) (NodesEvent World))}
    (truthful : nodes.Truthful platform past)
    {bridge next : GCMulticastBridgeNode bridgePlatform.Message (TeamClient World)}
    {serviceIsReady : Bool} {senderAddress : String} {buffer : List UInt8}
    {request : Option ReconnectRequest} (idle : bridge.waiting = none)
    (named : senderAddress ≠ "")
    (callback : bridge.publishMulticastMessage bridgePlatform nodes.time nodes.nextNumber
      serviceIsReady senderAddress buffer = (request, next)) :
    ((nodes.sendReconnect request).withBridge next).Truthful platform past := by
  rcases (bridge.publishMulticastMessage_cases bridgePlatform callback).2 with
    ⟨-, rfl, waiting, -⟩ | ⟨-, rfl, waiting, -⟩
  · apply truthful.withBridge
    intro future response waits
    rw [waiting, idle] at waits
    cases waits
  · have sent : Nodes.Truthful platform past
        (nodes.sendReconnect (some ⟨nodes.nextNumber, senderAddress⟩)) := by
      refine { truthful with requests := ?_ }
      simp only [Nodes.sendReconnect]
      split
      · exact List.forall_mem_append.mpr ⟨truthful.requests, List.forall_mem_singleton.mpr named⟩
      · exact truthful.requests
    apply sent.withBridge
    intro future response waits answered
    rw [waiting] at waits
    cases waits
    cases answered

theorem truthful_step {before after : Nodes World bridgePlatform.Message}
    {past : List (Transition (Nodes World bridgePlatform.Message) (NodesEvent World))}
    {event : NodesEvent World} (earlier : before.Truthful platform past)
    (step : NodesStep platform bridgePlatform before event after) :
    after.Truthful platform (past ++ [⟨before, event, after⟩]) := by
  have truthful := earlier.later [⟨before, event, after⟩]
  cases step with
  | startBridge =>
      refine { truthful with statuses := List.forall_mem_nil _, waiting := ?_ }
      rintro _ future response ⟨⟩ ⟨⟩
  | startClient parameters world =>
      refine { truthful with client := ?_, requests := List.forall_mem_nil _ }
      rintro _ ⟨⟩
      exact consistent_of_disconnected platform.toPlatform rfl
  | connectAtStart constructing =>
      exact truthful.afterCallback (ClientProcess.node?_constructing constructing)
        (consistent_nodeConnect platform) fun _ _ _ => id
  | networkMoves world running =>
      have consistent := truthful.client _ (ClientProcess.node?_running running)
      exact truthful.clientRuns fun connected =>
        ⟨(consistent connected).isOpen, (consistent connected).handshake⟩
  | timePasses => exact { truthful with }
  | userSetsParameters parameters running =>
      have consistent := truthful.client _ (ClientProcess.node?_running running)
      exact truthful.clientRuns consistent
  | userReconnects serverAddress running =>
      exact truthful.afterCallback (ClientProcess.node?_running running)
        (consistent_handleReconnectTeamClient platform serverAddress) fun _ _ _ => id
  | userRequests request running =>
      exact truthful.afterCallback (ClientProcess.node?_running running)
        (consistent_handleService platform request) fun _ _ _ => id
  | pingTick running =>
      refine truthful.afterCallback (ClientProcess.node?_running running)
        (consistent_pingCallback platform) ?_
      intro status next published after
      refine after.sendStatus (pingCallback_published platform published)
        ⟨_, List.mem_append_right past List.mem_cons_self, Or.inl rfl, next, ?_, rfl⟩
      rw [before.afterCallback_ok published]
      exact (Nodes.sendStatus_kept _ status next).2.2
  | @handleRequest node request index running arrives =>
      have nonempty := truthful.requests request (List.mem_of_getElem? arrives)
      have taken : Nodes.Truthful platform _
          { before with requests := before.requests.eraseIdx index } :=
        { truthful with
          requests := fun other member =>
            truthful.requests other (List.mem_of_mem_eraseIdx member) }
      refine taken.afterCallback (ClientProcess.node?_running running)
        (consistent_handleReconnectTeamClient platform request.serverAddress) ?_
      intro success next returned after
      refine after.sendResponse ?_
        ⟨_, List.mem_append_right past List.mem_cons_self, Or.inr ⟨index, rfl⟩, next, ?_, rfl⟩
      · rintro rfl
        exact connected_of_reconnected nonempty returned
      · rw [Nodes.afterCallback_ok _ returned]
        rfl
  | refereePacket buffer serviceIsReady running idle named callback =>
      exact truthful.refereePacket idle named callback
  | @deliverStatus bridge message later running arrives =>
      have rest := truthful.statuses
      rw [arrives] at rest
      have taken : Nodes.Truthful platform _ { before with statuses := later } :=
        { truthful with statuses := (List.forall_mem_cons.mp rest).2 }
      exact taken.withBridge fun future response => truthful.waiting bridge future response running
  | @deliverResponse bridge response index running arrives =>
      have honest := truthful.responses response (List.mem_of_getElem? arrives)
      have taken : Nodes.Truthful platform _
          { before with responses := before.responses.eraseIdx index } :=
        { truthful with
          responses := fun other member =>
            truthful.responses other (List.mem_of_mem_eraseIdx member) }
      exact taken.receiveResponse running honest
  | @resume bridge future response running waiting answered =>
      apply truthful.withBridge
      intro future response waits
      unfold GCMulticastBridgeNode.resume at waits
      split at waits <;> cases waits
  | giveUp running waiting unanswered late =>
      exact truthful.withBridge nofun

/-- The bridge comes to believe that the client is connected. -/
def Raises (transition : Transition (Nodes World Message) (NodesEvent World)) : Prop :=
  ∃ bridge next, transition.before.bridge = some bridge ∧ transition.after.bridge = some next ∧
    bridge.teamClientConnected = false ∧ next.teamClientConnected = true

variable (platform past) in
/-- The message that the bridge acts on is a positive status, or a positive
response to its request, that a live client has sent before. -/
def CausedByLive (transition : Transition (Nodes World Message) (NodesEvent World)) : Prop :=
  (transition.label = .deliverStatus ∧ ∃ message later,
    transition.before.statuses = message :: later ∧ message.status.connected = true ∧
      SentLive platform past message.sender) ∨
  (transition.label = .resume ∧ ∃ bridge future response,
    transition.before.bridge = some bridge ∧ bridge.waiting = some future ∧
      future.response = some response ∧ response.success = true ∧
      SentLive platform past response.sender)

/-- A step that does not touch the bridge does not change its belief. -/
theorem not_raises_of_same {before after : Nodes World Message} {event : NodesEvent World}
    (same : after.bridge = before.bridge) : ¬ Raises ⟨before, event, after⟩ := by
  rintro ⟨bridge, next, running, runs, lowered, raised⟩
  obtain rfl := Option.some.inj (running.symm.trans (same.symm.trans runs))
  exact absurd (lowered.symm.trans raised) nofun

theorem causedByLive_step {before after : Nodes World bridgePlatform.Message}
    {past : List (Transition (Nodes World bridgePlatform.Message) (NodesEvent World))}
    {event : NodesEvent World} (truthful : before.Truthful platform past)
    (step : NodesStep platform bridgePlatform before event after)
    (raises : Raises ⟨before, event, after⟩) :
    CausedByLive platform past ⟨before, event, after⟩ := by
  have changes : after.bridge ≠ before.bridge := fun same => not_raises_of_same same raises
  obtain ⟨bridge, next, running, runs, lowered, raised⟩ := raises
  have differs : next.teamClientConnected ≠ bridge.teamClientConnected := by
    rw [lowered, raised]
    exact nofun
  cases step with
  | startBridge =>
      cases runs
      cases raised
  | startClient => exact absurd rfl changes
  | connectAtStart => exact absurd (before.bridge_afterCallback fun _ _ _ => rfl) changes
  | networkMoves => exact absurd rfl changes
  | timePasses => exact absurd rfl changes
  | userSetsParameters => exact absurd rfl changes
  | userReconnects => exact absurd (before.bridge_afterCallback fun _ _ _ => rfl) changes
  | userRequests => exact absurd (before.bridge_afterCallback fun _ _ _ => rfl) changes
  | pingTick =>
      exact absurd (before.bridge_afterCallback fun status node nodes =>
        (nodes.sendStatus_kept status node).1) changes
  | handleRequest => exact (changes (Nodes.bridge_afterCallback _ fun _ _ _ => rfl)).elim
  | refereePacket buffer serviceIsReady runs' idle named callback =>
      cases runs
      obtain rfl := Option.some.inj (runs'.symm.trans running)
      have same := (GCMulticastBridgeNode.publishMulticastMessage_cases bridgePlatform _ callback).1
      exact absurd same differs
  | deliverStatus runs' arrives =>
      cases runs
      have truth := truthful.statuses _ (arrives ▸ List.mem_cons_self)
      exact Or.inl ⟨rfl, _, _, arrives, raised, truth raised⟩
  | @deliverResponse bridge' response index runs' arrives =>
      cases runs
      obtain rfl := Option.some.inj (runs'.symm.trans running)
      exact absurd (bridge'.receiveResponse_teamClientConnected response) differs
  | @resume bridge' future response runs' waits answered =>
      cases runs
      obtain rfl := Option.some.inj (runs'.symm.trans running)
      cases success : response.success with
      | false =>
          rw [GCMulticastBridgeNode.resume, success] at differs
          exact absurd rfl differs
      | true =>
          have truth := truthful.waiting bridge' future response running waits answered
          exact Or.inr ⟨rfl, bridge', future, response, running, waits, answered, success,
            truth success⟩
  | giveUp runs' waits unanswered late =>
      cases runs
      obtain rfl := Option.some.inj (runs'.symm.trans running)
      exact absurd rfl differs

/--
In every run, each time the bridge comes to believe that the client is
connected, the status or response behind it was sent, in an earlier transition
of the run, by a client that was then connected and registered.
-/
theorem belief_caused_by_live_client
    {past future : List (Transition (Nodes World bridgePlatform.Message) (NodesEvent World))}
    {transition : Transition (Nodes World bridgePlatform.Message) (NodesEvent World)}
    {last : Nodes World bridgePlatform.Message}
    (run : NodesRun platform bridgePlatform (past ++ transition :: future) last)
    (raises : Raises transition) : CausedByLive platform past transition := by
  have started : Nodes.Truthful platform [] ({} : Nodes World bridgePlatform.Message) :=
    { client := by rintro _ ⟨⟩
      requests := List.forall_mem_nil _
      responses := List.forall_mem_nil _
      statuses := List.forall_mem_nil _
      waiting := by rintro _ _ _ ⟨⟩ }
  have truthful := run.invariant_of_past (Nodes.Truthful platform) truthful_step started past
    transition future rfl
  exact causedByLive_step truthful (run.steps transition (by simp)) raises

end BridgeFlag

/-! ## A status after the start -/

/-- Greeting, registration and ping are answered with `OK`, and the status of
the ping reaches the bridge. -/
theorem status_of_answered_ping :
    ∃ transitions last, NodesRun scriptedNode scriptedBridge transitions last ∧
      ∃ past transition future, transitions = past ++ transition :: future ∧ Raises transition ∧
        CausedByLive scriptedNode past transition := by
  let parameters : ClientParameters := { gcIpAddress := "10.0.0.1" }
  let world : Script :=
    { incoming := [(0, StatusCode.ok.reply)]
      answers := [(0, StatusCode.ok.reply), (2, StatusCode.ok.reply)] }
  have connects := result_eq_of_toOption (nodeConnect scriptedNode) (.initial parameters world) true
    (by decide +kernel)
  have pings := result_eq_of_toOption (pingCallback scriptedNode)
    ((nodeConnect scriptedNode).result (.initial parameters world)).2 ⟨true, 2⟩ (by decide +kernel)
  have run : NodesRun scriptedNode scriptedBridge _ _ :=
    .step (.startBridge _) (.step (.startClient _ parameters world)
      (.step (connectAtStart_returns rfl connects) (.step (pingTick_returns rfl pings)
        (.step (.deliverStatus rfl rfl) (.stop _)))))
  have caused : Raises _ → CausedByLive scriptedNode [_, _, _, _] _ :=
    belief_caused_by_live_client run
  exact ⟨_, _, run, [_, _, _, _], _, [], rfl, ⟨_, _, rfl, rfl, rfl, rfl⟩,
    caused ⟨_, _, rfl, rfl, rfl, rfl⟩⟩

end SslRosBridge.GameControllerBridge
