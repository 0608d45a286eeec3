import SslRosBridge.Library.Execution
import SslRosBridge.GameControllerBridge.GCMulticastBridge

/-!
# The bridge and the client together

The two nodes exchange statuses on a topic, which keeps their order, and
requests and responses of the reconnect service, which arrive in any order.
Every message takes any time.  A callback of the client is one step; the time
it takes is part of the delays around it.  Either node can start at any time,
also again.
-/

namespace SslRosBridge.GameControllerBridge

open Library

/-- The parameters that the client node declares. -/
structure ClientParameters where
  gcIpAddress : String := ""
  gcPort : Int64 := 10008
  teamName : String := "Test Team"
  teamColor : String := "auto"
  deriving DecidableEq, Repr

def TeamClientNode.setParameters {World : Type} (node : TeamClientNode World)
    (parameters : ClientParameters) : TeamClientNode World :=
  { node with
    gcIpAddress := parameters.gcIpAddress
    gcPort := parameters.gcPort
    teamName := parameters.teamName
    teamColor := parameters.teamColor }

def TeamClientNode.initial {World : Type} (parameters : ClientParameters) (world : World) :
    TeamClientNode World :=
  TeamClientNode.setParameters { teamClient := .initial world } parameters

/-- The services of the client exist once its constructor runs, and its
callbacks run when the constructor has returned. -/
inductive ClientProcess (World : Type) where
  | down
  | constructing (node : TeamClientNode World)
  | running (node : TeamClientNode World)

namespace ClientProcess

variable {World : Type}

def node? : ClientProcess World → Option (TeamClientNode World)
  | .down => none
  | .constructing node => some node
  | .running node => some node

def isUp (process : ClientProcess World) : Bool := process.node?.isSome

def isConnected (process : ClientProcess World) : Bool :=
  process.node?.any fun node => node.teamClient.connected

variable {process : ClientProcess World} {node : TeamClientNode World}

theorem node?_running (running : process = .running node) : process.node? = some node := by
  rw [running]
  rfl

theorem node?_constructing (constructing : process = .constructing node) :
    process.node? = some node := by
  rw [constructing]
  rfl

theorem isConnected_of_node? (up : process.node? = some node) :
    process.isConnected = node.teamClient.connected := by
  rw [isConnected, up]
  rfl

end ClientProcess

/-- The requests of the other services, which only other users send. -/
inductive ServiceRequest where
  | setDesiredKeeper (desiredKeeper : Int32)
  | substituteBot
  | setAdvantageChoice (choice : UInt8)
  deriving DecidableEq, Repr

def handleService {World : Type} (platform : NodePlatform World) :
    ServiceRequest → NodeAction World ServiceResponse
  | .setDesiredKeeper desiredKeeper => handleSetDesiredKeeper platform desiredKeeper
  | .substituteBot => handleSubstituteBot platform
  | .setAdvantageChoice choice => handleSetAdvantageChoice platform choice

/-- Without a connection every request is refused, and nothing changes. -/
theorem handleService_disconnected {World : Type} (platform : NodePlatform World)
    {node : TeamClientNode World} (disconnected : node.teamClient.connected = false)
    (request : ServiceRequest) :
    (handleService platform request).result node =
      (.ok ⟨false, "Team client is not connected to the Game Controller."⟩, node) := by
  cases request with
  | setDesiredKeeper => exact whenConnected_disconnected disconnected _
  | substituteBot => exact whenConnected_disconnected disconnected _
  | setAdvantageChoice => exact whenConnected_disconnected disconnected _

/-! ## States -/

/-- Both nodes and the messages between them.  The requests and responses are
those of the bridge; another user's are not kept. -/
structure Nodes (World Message : Type) where
  time : Nat := 0
  nextNumber : Nat := 0
  bridge : Option (GCMulticastBridgeNode Message (TeamClient World)) := none
  client : ClientProcess World := .down
  requests : List ReconnectRequest := []
  responses : List (ReconnectResponse (TeamClient World)) := []
  statuses : List (StatusMessage (TeamClient World)) := []

namespace Nodes

variable {World Message Value : Type} (nodes : Nodes World Message)

/-- An exception ends the client's process, and its requests are lost. -/
def clientEnds : Nodes World Message := { nodes with client := .down, requests := [] }

def clientRuns (node : TeamClientNode World) : Nodes World Message :=
  { nodes with client := .running node }

def withBridge (node : GCMulticastBridgeNode Message (TeamClient World)) : Nodes World Message :=
  { nodes with bridge := some node }

/-- A callback of the client has ended; what it returned is sent on. -/
def afterCallback (outcome : Except ErrorCode Value × TeamClientNode World)
    (send : Value → TeamClientNode World → Nodes World Message → Nodes World Message) :
    Nodes World Message :=
  match outcome with
  | (.ok value, node) => send value node (nodes.clientRuns node)
  | (.error _, _) => nodes.clientEnds

/-- The response of another user's request. -/
def sendNothing (_ : Value) (_ : TeamClientNode World) (nodes : Nodes World Message) :
    Nodes World Message :=
  nodes

/-- A status reaches the bridge if it has subscribed by then. -/
def sendStatus (status : ConnectionStatus) (node : TeamClientNode World)
    (nodes : Nodes World Message) : Nodes World Message :=
  match nodes.bridge with
  | none => nodes
  | some _ => { nodes with statuses := nodes.statuses ++ [⟨status, node.teamClient⟩] }

def sendResponse (number : Nat) (success : Bool) (node : TeamClientNode World)
    (nodes : Nodes World Message) : Nodes World Message :=
  { nodes with responses := nodes.responses ++ [⟨number, success, node.teamClient⟩] }

/-- A request reaches the client if its services exist by then. -/
def sendReconnect (request : Option ReconnectRequest) : Nodes World Message :=
  match request with
  | none => nodes
  | some request =>
      { nodes with
        nextNumber := nodes.nextNumber + 1
        requests := if nodes.client.isUp then nodes.requests ++ [request] else nodes.requests }

theorem afterCallback_ok {outcome : Except ErrorCode Value × TeamClientNode World}
    {send : Value → TeamClientNode World → Nodes World Message → Nodes World Message}
    {value : Value} {node : TeamClientNode World} (returned : outcome = (.ok value, node)) :
    nodes.afterCallback outcome send = send value node (nodes.clientRuns node) := by
  rw [returned]
  rfl

/-- A callback that throws leaves the client down. -/
theorem afterCallback_cases {outcome : Except ErrorCode Value × TeamClientNode World}
    {send : Value → TeamClientNode World → Nodes World Message → Nodes World Message}
    {holds : Nodes World Message → Prop}
    (returned : ∀ value node, outcome = (.ok value, node) →
      holds (send value node (nodes.clientRuns node)))
    (threw : holds nodes.clientEnds) : holds (nodes.afterCallback outcome send) := by
  obtain ⟨error | value, node⟩ := outcome
  · exact threw
  · exact returned value node rfl

theorem bridge_afterCallback {outcome : Except ErrorCode Value × TeamClientNode World}
    {send : Value → TeamClientNode World → Nodes World Message → Nodes World Message}
    (kept : ∀ value node nodes, (send value node nodes).bridge = nodes.bridge) :
    (nodes.afterCallback outcome send).bridge = nodes.bridge := by
  obtain ⟨error | value, node⟩ := outcome
  · rfl
  · exact kept value node _

theorem sendStatus_kept (status : ConnectionStatus) (node : TeamClientNode World) :
    (sendStatus status node nodes).bridge = nodes.bridge ∧
      (sendStatus status node nodes).requests = nodes.requests ∧
      (sendStatus status node nodes).client = nodes.client := by
  unfold sendStatus
  split
  · exact ⟨rfl, rfl, rfl⟩
  · exact ⟨rfl, rfl, rfl⟩

end Nodes

/-! ## Steps -/

inductive NodesEvent (World : Type) where
  | startBridge
  | startClient (parameters : ClientParameters) (world : World)
  | connectAtStart
  | networkMoves (world : World)
  | timePasses (duration : Nat)
  | userSetsParameters (parameters : ClientParameters)
  | userReconnects (serverAddress : String)
  | userRequests (request : ServiceRequest)
  | pingTick
  | handleRequest (index : Nat)
  | refereePacket (senderAddress : String) (buffer : List UInt8) (serviceIsReady : Bool)
  | deliverStatus
  | deliverResponse (index : Nat)
  | resume
  | giveUp

section Steps

variable {World : Type} (platform : NodePlatform World) (bridgePlatform : BridgePlatform)

open Nodes GCMulticastBridgeNode in
/-- The address of a packet's sender is never empty. -/
inductive NodesStep : Nodes World bridgePlatform.Message → NodesEvent World →
    Nodes World bridgePlatform.Message → Prop where
  | startBridge (nodes) :
      NodesStep nodes .startBridge { nodes with bridge := some {}, statuses := [] }
  | startClient (nodes parameters world) :
      NodesStep nodes (.startClient parameters world)
        { nodes with client := .constructing (.initial parameters world), requests := [] }
  | connectAtStart {nodes node} (constructing : nodes.client = .constructing node) :
      NodesStep nodes .connectAtStart
        (nodes.afterCallback ((nodeConnect platform).result node) sendNothing)
  | networkMoves {nodes node} (world) (running : nodes.client = .running node) :
      NodesStep nodes (.networkMoves world)
        (nodes.clientRuns (node.withClient { node.teamClient with world := world }))
  | timePasses (nodes duration) :
      NodesStep nodes (.timePasses duration) { nodes with time := nodes.time + duration }
  | userSetsParameters {nodes node} (parameters) (running : nodes.client = .running node) :
      NodesStep nodes (.userSetsParameters parameters)
        (nodes.clientRuns (node.setParameters parameters))
  | userReconnects {nodes node} (serverAddress) (running : nodes.client = .running node) :
      NodesStep nodes (.userReconnects serverAddress)
        (nodes.afterCallback ((handleReconnectTeamClient platform serverAddress).result node)
          sendNothing)
  | userRequests {nodes node} (request) (running : nodes.client = .running node) :
      NodesStep nodes (.userRequests request)
        (nodes.afterCallback ((handleService platform request).result node) sendNothing)
  | pingTick {nodes node} (running : nodes.client = .running node) :
      NodesStep nodes .pingTick
        (nodes.afterCallback ((pingCallback platform).result node) sendStatus)
  | handleRequest {nodes node request} (index) (running : nodes.client = .running node)
      (arrives : nodes.requests[index]? = some request) :
      NodesStep nodes (.handleRequest index)
        (afterCallback { nodes with requests := nodes.requests.eraseIdx index }
          ((handleReconnectTeamClient platform request.serverAddress).result node)
          (sendResponse request.number))
  | refereePacket {nodes node senderAddress request next} (buffer serviceIsReady)
      (running : nodes.bridge = some node) (idle : node.waiting = none)
      (named : senderAddress ≠ "")
      (callback : publishMulticastMessage bridgePlatform node nodes.time nodes.nextNumber
        serviceIsReady senderAddress buffer = (request, next)) :
      NodesStep nodes (.refereePacket senderAddress buffer serviceIsReady)
        ((nodes.sendReconnect request).withBridge next)
  | deliverStatus {nodes node message later} (running : nodes.bridge = some node)
      (arrives : nodes.statuses = message :: later) :
      NodesStep nodes .deliverStatus
        (withBridge { nodes with statuses := later }
          (node.teamClientConnectionStatusCallback message.status))
  | deliverResponse {nodes node response} (index) (running : nodes.bridge = some node)
      (arrives : nodes.responses[index]? = some response) :
      NodesStep nodes (.deliverResponse index)
        (withBridge { nodes with responses := nodes.responses.eraseIdx index }
          (node.receiveResponse response))
  | resume {nodes node future response} (running : nodes.bridge = some node)
      (waiting : node.waiting = some future) (answered : future.response = some response) :
      NodesStep nodes .resume (nodes.withBridge (node.resume response))
  | giveUp {nodes node future} (running : nodes.bridge = some node)
      (waiting : node.waiting = some future) (unanswered : future.response = none)
      (late : future.deadline ≤ nodes.time) :
      NodesStep nodes .giveUp (nodes.withBridge node.giveUp)

variable {platform bridgePlatform} {nodes : Nodes World bridgePlatform.Message}
variable {node next : TeamClientNode World}

theorem connectAtStart_returns {success : Bool} (constructing : nodes.client = .constructing node)
    (connects : (nodeConnect platform).result node = (.ok success, next)) :
    NodesStep platform bridgePlatform nodes .connectAtStart (nodes.clientRuns next) := by
  have step : NodesStep platform bridgePlatform nodes _ _ := .connectAtStart constructing
  rwa [nodes.afterCallback_ok connects] at step

theorem pingTick_returns {status : ConnectionStatus} (running : nodes.client = .running node)
    (pings : (pingCallback platform).result node = (.ok status, next)) :
    NodesStep platform bridgePlatform nodes .pingTick
      (Nodes.sendStatus status next (nodes.clientRuns next)) := by
  have step : NodesStep platform bridgePlatform nodes _ _ := .pingTick running
  rwa [nodes.afterCallback_ok pings] at step

variable (platform bridgePlatform)

/-- A run of the two nodes from the state in which neither has started. -/
abbrev NodesRun (transitions : List (Transition (Nodes World bridgePlatform.Message)
    (NodesEvent World))) (last : Nodes World bridgePlatform.Message) : Prop :=
  Execution (NodesStep platform bridgePlatform) {} transitions last

end Steps

end SslRosBridge.GameControllerBridge
