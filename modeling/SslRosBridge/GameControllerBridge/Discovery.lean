import SslRosBridge.GameControllerBridge.Nodes

/-!
# Reconfiguring a connected client

The bridge sends a reconnect request when it does not believe that the client
is connected, and the client executes it without looking at its connection.
So the request of a run finds a connected client unless nothing connects the
client between its sending and its execution.
-/

namespace SslRosBridge.GameControllerBridge

open Library Library.Computation

/-- A request of the bridge is executed while the client is connected. -/
def Intrudes {World Message : Type} (nodes : Nodes World Message) (event : NodesEvent World) :
    Prop :=
  ∃ index, event = .handleRequest index ∧ nodes.client.isConnected = true

/-- A reconnect with this address gets past the empty address parameter. -/
def TeamClientNode.attempts {World : Type} (node : TeamClientNode World)
    (serverAddress : String) : Prop :=
  serverAddress ≠ "" ∨ node.gcIpAddress ≠ ""

section Discovery

variable {World : Type} (platform : NodePlatform World) (bridgePlatform : BridgePlatform)

/--
The bridge sends a request only to a client that is not connected, and while a
request is under way there is no other attempt to connect the client.
-/
def Undisturbed (nodes : Nodes World bridgePlatform.Message) : NodesEvent World → Prop
  | .refereePacket _ buffer serviceIsReady =>
      ∀ bridge, nodes.bridge = some bridge →
        bridge.reconnects bridgePlatform nodes.time serviceIsReady buffer = true →
          nodes.client.isConnected = false
  | .connectAtStart =>
      ∀ node, nodes.client.node? = some node → node.attempts "" → nodes.requests = []
  | .userReconnects serverAddress =>
      ∀ node, nodes.client.node? = some node → node.attempts serverAddress → nodes.requests = []
  | .handleRequest _ => nodes.requests.length = 1
  | _ => True

/-- Requests are under way only to a client that is not connected. -/
def Unconnected {Message : Type} (nodes : Nodes World Message) : Prop :=
  nodes.requests ≠ [] → nodes.client.isConnected = false

variable {platform bridgePlatform}

theorem Unconnected.of_no_request {Message : Type} {nodes : Nodes World Message}
    (nothing : nodes.requests = []) : Unconnected nodes := by
  intro underway
  exact absurd nothing underway

/-- A reconnect that makes no attempt changes nothing. -/
theorem handleReconnectTeamClient_idle {node : TeamClientNode World} {serverAddress : String}
    (idle : ¬ node.attempts serverAddress) :
    (handleReconnectTeamClient platform serverAddress).result node = (.ok true, node) := by
  obtain ⟨empty, noAddress⟩ := not_or.mp idle
  rw [not_not.mp empty]
  exact handleReconnectTeamClient_without_address platform (not_not.mp noAddress)

/-! ## Steps of the client -/

theorem Unconnected.clientRuns {Message : Type} {nodes : Nodes World Message}
    (holds : Unconnected nodes) {node : TeamClientNode World}
    (same : node.teamClient.connected = nodes.client.isConnected) :
    Unconnected (nodes.clientRuns node) := by
  intro underway
  exact same.trans (holds underway)

/-- A callback that may connect the client runs while no request is under way. -/
theorem unconnected_attempt {Message Value : Type} {nodes : Nodes World Message}
    {outcome : Except ErrorCode Value × TeamClientNode World}
    {send : Value → TeamClientNode World → Nodes World Message → Nodes World Message}
    (nothing : nodes.requests = [])
    (kept : ∀ value node nodes, (send value node nodes).requests = nodes.requests) :
    Unconnected (nodes.afterCallback outcome send) := by
  apply nodes.afterCallback_cases
  · intro value node _
    exact .of_no_request ((kept value node _).trans nothing)
  · exact .of_no_request rfl

/-- A reconnect that another user or the constructor asks for. -/
theorem unconnected_reconnect {Message : Type} {nodes : Nodes World Message}
    {node : TeamClientNode World} {serverAddress : String} (holds : Unconnected nodes)
    (up : nodes.client.node? = some node)
    (undisturbed : node.attempts serverAddress → nodes.requests = []) :
    Unconnected (nodes.afterCallback
      ((handleReconnectTeamClient platform serverAddress).result node) Nodes.sendNothing) := by
  by_cases attempts : node.attempts serverAddress
  · exact unconnected_attempt (undisturbed attempts) fun _ _ _ => rfl
  · rw [handleReconnectTeamClient_idle attempts]
    exact holds.clientRuns (ClientProcess.isConnected_of_node? up).symm

/-- While a request is under way, a callback that needs a connection does nothing. -/
theorem unconnected_callback {Message Value : Type} {nodes : Nodes World Message}
    {node : TeamClientNode World} {callback : NodeAction World Value}
    {send : Value → TeamClientNode World → Nodes World Message → Nodes World Message}
    (holds : Unconnected nodes) (running : nodes.client = .running node)
    (idle : node.teamClient.connected = false → ∃ value, callback.result node = (.ok value, node))
    (kept : ∀ value node nodes, (send value node nodes).requests = nodes.requests ∧
      (send value node nodes).client = nodes.client) :
    Unconnected (nodes.afterCallback (callback.result node) send) := by
  cases connected : node.teamClient.connected with
  | true =>
      refine unconnected_attempt ?_ fun value node nodes => (kept value node nodes).1
      by_contra underway
      have same := ClientProcess.isConnected_of_node? (ClientProcess.node?_running running)
      exact absurd (connected.symm.trans (same.symm.trans (holds underway))) nofun
  | false =>
      obtain ⟨value, result⟩ := idle connected
      obtain ⟨requests, client⟩ := kept value node (nodes.clientRuns node)
      intro _
      rw [result]
      exact (congrArg ClientProcess.isConnected client).trans connected

/-! ## Runs -/

theorem unconnected_packet {nodes : Nodes World bridgePlatform.Message}
    {next : GCMulticastBridgeNode bridgePlatform.Message (TeamClient World)}
    {request : Option ReconnectRequest} (holds : Unconnected nodes)
    (toDisconnected : request ≠ none → nodes.client.isConnected = false) :
    Unconnected ((nodes.sendReconnect request).withBridge next) := by
  cases request with
  | none => exact holds
  | some request => exact fun _ => toDisconnected nofun

theorem unconnected_step {before after : Nodes World bridgePlatform.Message}
    {event : NodesEvent World} (holds : Unconnected before)
    (undisturbed : Undisturbed bridgePlatform before event)
    (step : NodesStep platform bridgePlatform before event after) : Unconnected after := by
  cases step with
  | startBridge => exact holds
  | startClient => exact .of_no_request rfl
  | @connectAtStart node constructing =>
      have start := handleReconnectTeamClient_eq platform "" node
      rw [if_pos rfl] at start
      have up := ClientProcess.node?_constructing constructing
      rw [← start]
      exact unconnected_reconnect holds up (undisturbed node up)
  | networkMoves world running =>
      have up := ClientProcess.node?_running running
      exact holds.clientRuns (ClientProcess.isConnected_of_node? up).symm
  | timePasses => exact holds
  | userSetsParameters parameters running =>
      have up := ClientProcess.node?_running running
      exact holds.clientRuns (ClientProcess.isConnected_of_node? up).symm
  | @userReconnects node serverAddress running =>
      have up := ClientProcess.node?_running running
      exact unconnected_reconnect holds up (undisturbed node up)
  | userRequests request running =>
      exact unconnected_callback holds running
        (fun idle => ⟨_, handleService_disconnected platform idle request⟩) fun _ _ _ => ⟨rfl, rfl⟩
  | pingTick running =>
      exact unconnected_callback holds running
        (fun idle => ⟨_, pingCallback_disconnected platform idle⟩)
        fun status node nodes => (nodes.sendStatus_kept status node).2
  | handleRequest index running arrives =>
      refine unconnected_attempt ?_ fun _ _ _ => rfl
      have single : before.requests.length = 1 := undisturbed
      have inside := (List.getElem?_eq_some_iff.mp arrives).1
      rw [← List.length_eq_zero_iff, List.length_eraseIdx_of_lt inside, single]
  | @refereePacket node _ _ _ buffer serviceIsReady running idle named callback =>
      refine unconnected_packet holds fun sends => undisturbed node running ?_
      rcases (node.publishMulticastMessage_cases bridgePlatform callback).2 with
        ⟨-, nothing, -⟩ | ⟨reconnects, -⟩
      · exact absurd nothing sends
      · exact reconnects
  | deliverStatus running arrives => exact holds
  | deliverResponse index running arrives => exact holds
  | resume running waiting answered => exact holds
  | giveUp running waiting unanswered late => exact holds

/--
In a run in which the bridge sends its requests only to a client that is not
connected, and nothing else attempts to connect the client while one of them is
under way, no request is executed while the client is connected.
-/
theorem not_intrudes_of_undisturbed
    {transitions : List (Transition (Nodes World bridgePlatform.Message) (NodesEvent World))}
    {last : Nodes World bridgePlatform.Message}
    (run : NodesRun platform bridgePlatform transitions last)
    (undisturbed : ∀ transition ∈ transitions,
      Undisturbed bridgePlatform transition.before transition.label) :
    ∀ transition ∈ transitions, ¬ Intrudes transition.before transition.label := by
  have invariant := run.invariant Unconnected (Undisturbed bridgePlatform) unconnected_step
    (.of_no_request rfl) undisturbed
  rintro ⟨before, event, after⟩ member ⟨index, rfl, connected⟩
  have step : NodesStep platform bridgePlatform before (.handleRequest index) after :=
    run.steps _ member
  cases step with
  | handleRequest _ running arrives =>
      have underway : before.requests ≠ [] := by
        intro nothing
        simp [nothing] at arrives
      exact absurd (connected.symm.trans (invariant.2 _ member underway)) nofun

end Discovery

/-! ## A packet after the start -/

/-- The bridge and then the client start; a second later a packet arrives, and
its request is executed. -/
def packetAfterStart (parameters : ClientParameters) (world : Script)
    (node : TeamClientNode Script) (last : Nodes Script scriptedBridge.Message) :
    List (Transition (Nodes Script scriptedBridge.Message) (NodesEvent Script)) :=
  let started : Nodes Script scriptedBridge.Message := { bridge := some {} }
  let constructing := { started with client := .constructing (.initial parameters world) }
  let connected := started.clientRuns node
  let later := { connected with time := 10 }
  let bridge : GCMulticastBridgeNode scriptedBridge.Message (TeamClient Script) :=
    { lastReconnectAttemptTime := 10, published := [bareReferee],
      waiting := some { number := 0, deadline := 30 } }
  let requested := ({ later with nextNumber := 1, requests := [⟨0, "10.0.0.1"⟩] }).withBridge bridge
  [⟨{}, .startBridge, started⟩, ⟨started, .startClient parameters world, constructing⟩,
    ⟨constructing, .connectAtStart, connected⟩, ⟨connected, .timePasses 10, later⟩,
    ⟨later, .refereePacket "10.0.0.1" bareReferee true, requested⟩,
    ⟨requested, .handleRequest 0, last⟩]

theorem packetAfterStart_run {parameters : ClientParameters} {world : Script}
    {node : TeamClientNode Script} {success : Bool}
    (connects : (nodeConnect scriptedNode).result (.initial parameters world) =
      (.ok success, node)) :
    ∃ last, NodesRun scriptedNode scriptedBridge (packetAfterStart parameters world node last)
      last := by
  refine ⟨_, .step (.startBridge _) (.step (.startClient _ parameters world) (.step ?_
    (.step (.timePasses _ 10) (.step ?_ (.step (.handleRequest 0 rfl rfl) (.stop _))))))⟩
  · exact connectAtStart_returns rfl connects
  · exact @NodesStep.refereePacket _ _ _ _ {} "10.0.0.1" (some ⟨0, "10.0.0.1"⟩) _
      bareReferee true rfl rfl (by decide) rfl

/-- The client starts without an address, so nothing disturbs the request. -/
theorem packet_after_start_without_address :
    ∃ last, ∀ transition ∈ packetAfterStart {} {} (.initial {} {}) last,
      ¬ Intrudes transition.before transition.label := by
  have connects : (nodeConnect scriptedNode).result (.initial {} {}) = (.ok true, .initial {} {}) :=
    nodeConnect_without_address scriptedNode rfl
  obtain ⟨last, run⟩ := packetAfterStart_run connects
  refine ⟨last, not_intrudes_of_undisturbed run ?_⟩
  unfold packetAfterStart
  simp only [List.forall_mem_cons]
  exact ⟨trivial, trivial, fun _ _ _ => rfl, trivial, fun _ _ _ => rfl, rfl, List.forall_mem_nil _⟩

/-- The client's own connection is up when the first packet arrives, but the
bridge has heard of none. -/
theorem packet_after_start_reconnects :
    ∃ parameters world node last,
      NodesRun scriptedNode scriptedBridge (packetAfterStart parameters world node last) last ∧
      ∃ transition ∈ packetAfterStart parameters world node last,
        Intrudes transition.before transition.label := by
  let parameters : ClientParameters := { gcIpAddress := "10.0.0.1" }
  have connects := result_eq_of_toOption (nodeConnect scriptedNode)
    (.initial parameters admitting) true (by decide +kernel)
  let node := ((nodeConnect scriptedNode).result (.initial parameters admitting)).2
  have connected : node.teamClient.connected = true := by decide +kernel
  obtain ⟨last, run⟩ := packetAfterStart_run connects
  exact ⟨parameters, admitting, node, last, run, _, List.mem_of_getElem? (i := 5) rfl, 0, rfl,
    connected⟩

end SslRosBridge.GameControllerBridge
