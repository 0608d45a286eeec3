import SslRosBridge.GameControllerBridge.TeamClient
import SslRosBridge.GameControllerBridge.WireFormat

/-!
# The team client node

The service handlers and the timer callback of `team_client_node.cpp`.  A
handler returns its response and the timer callback the status it publishes;
an exception leaves the handler and takes the node down.
-/

namespace SslRosBridge.GameControllerBridge

open Library

/-- The node also parses addresses, and reads two locals that it does not
always assign. -/
structure NodePlatform (World : Type) extends Platform World where
  addressFromString : String → Option Address
  unassignedColor : TeamColor
  unassignedChoice : AdvantageChoiceOption

structure TeamClientNode (World : Type) where
  teamClient : TeamClient World
  gcIpAddress : String := ""
  gcPort : Int64 := 10008
  teamName : String := "Test Team"
  teamColor : String := "auto"

abbrev NodeAction (World Value : Type) := Computation (TeamClientNode World) ErrorCode Value

structure ServiceResponse where
  success : Bool
  reason : String := ""
  deriving DecidableEq, Repr

structure ConnectionStatus where
  connected : Bool
  ping : Nat := 0
  deriving DecidableEq, Repr

namespace TeamClientNode

variable {World Value : Type}

def withClient (node : TeamClientNode World) (client : TeamClient World) : TeamClientNode World :=
  { node with teamClient := client }

/-- A call of a member function of `team_client_`. -/
def onClient (action : Action World Value) : NodeAction World Value :=
  Computation.attempt fun node =>
    ((action.result node.teamClient).1, node.withClient (action.result node.teamClient).2)

def isConnected : NodeAction World Bool :=
  Computation.step fun node => (node.teamClient.connected, node)

/-- `set_parameter` of `gc_ip_address`, unless the address is empty. -/
def overwriteAddress (address : String) : NodeAction World Unit :=
  Computation.step fun node =>
    ((), if address = "" then node else { node with gcIpAddress := address })

def self : NodeAction World (TeamClientNode World) := Computation.step fun node => (node, node)

end TeamClientNode

section Handlers

variable {World : Type} (platform : NodePlatform World)

/-- The chain of comparisons of `team_color`, which has no last `else`. -/
def teamColorOf (name : String) : TeamColor :=
  if name = "auto" then .auto
  else if name = "blue" then .blue
  else if name = "yellow" then .yellow
  else platform.unassignedColor

/-- The parameter `gc_port` is a 64-bit integer. -/
def connectionParameters (node : TeamClientNode World) (address : Address) :
    ConnectionParameters where
  address := address
  port := node.gcPort.toUInt64.toUInt16
  teamName := node.teamName
  teamColor := teamColorOf platform node.teamColor

def nodeConnect : NodeAction World Bool := do
  let node ← TeamClientNode.self
  if node.gcIpAddress = "" then
    pure true
  else
    match platform.addressFromString node.gcIpAddress with
    | none => throw .invalidArgument
    | some address =>
      TeamClientNode.onClient
        (connect platform.toPlatform (connectionParameters platform node address))

/-- The common shape of the three request handlers. -/
def whenConnected (request : Action World Result) : NodeAction World ServiceResponse := do
  match ← TeamClientNode.isConnected with
  | false => pure ⟨false, "Team client is not connected to the Game Controller."⟩
  | true => do
      let result ← TeamClientNode.onClient request
      pure ⟨result.accepted, result.reason⟩

def handleSetDesiredKeeper (desiredKeeper : Int32) : NodeAction World ServiceResponse :=
  whenConnected (setDesiredKeeper platform.toPlatform desiredKeeper)

def handleSubstituteBot : NodeAction World ServiceResponse :=
  whenConnected (requestBotSubstitution platform.toPlatform)

/-- The switch over the request's choice, which has no default. -/
def choiceOf (choice : UInt8) : AdvantageChoiceOption :=
  if choice = 0 then .stop
  else if choice = 1 then .continue
  else platform.unassignedChoice

def handleSetAdvantageChoice (choice : UInt8) : NodeAction World ServiceResponse :=
  whenConnected (setAdvantageChoice platform.toPlatform (choiceOf platform choice))

/-- The response is whether `Connect` returned true. -/
def handleReconnectTeamClient (serverAddress : String) : NodeAction World Bool := do
  TeamClientNode.overwriteAddress serverAddress
  nodeConnect platform

def pingCallback : NodeAction World ConnectionStatus := do
  match ← TeamClientNode.isConnected with
  | false => pure { connected := false }
  | true => do
      let result ← TeamClientNode.onClient (ping platform.toPlatform)
      match result.requestResult.accepted with
      | true => pure ⟨true, result.ping⟩
      | false => do
          TeamClientNode.onClient (disconnect platform.toPlatform)
          pure ⟨false, result.ping⟩

/-! ## What the handlers leave alone -/

theorem nodeConnect_without_address {node : TeamClientNode World}
    (empty : node.gcIpAddress = "") : (nodeConnect platform).result node = (.ok true, node) := by
  unfold nodeConnect TeamClientNode.self
  rw [Computation.result_bind, Computation.result_step]
  simp only [if_pos empty, Computation.result_pure]

theorem nodeConnect_with_address {node : TeamClientNode World}
    (nonempty : node.gcIpAddress ≠ "") :
    (nodeConnect platform).result node =
      match platform.addressFromString node.gcIpAddress with
      | none => (.error .invalidArgument, node)
      | some address =>
          (TeamClientNode.onClient (connect platform.toPlatform
            (connectionParameters platform node address))).result node := by
  unfold nodeConnect TeamClientNode.self
  rw [Computation.result_bind, Computation.result_step]
  simp only [if_neg nonempty]
  cases platform.addressFromString node.gcIpAddress <;> rfl

theorem nodeConnect_of_literal {node : TeamClientNode World} {address : Address}
    (nonempty : node.gcIpAddress ≠ "")
    (literal : platform.addressFromString node.gcIpAddress = some address) :
    (nodeConnect platform).result node =
      (TeamClientNode.onClient (connect platform.toPlatform
        (connectionParameters platform node address))).result node := by
  rw [nodeConnect_with_address platform nonempty, literal]

theorem handleReconnectTeamClient_eq (serverAddress : String) (node : TeamClientNode World) :
    (handleReconnectTeamClient platform serverAddress).result node =
      (nodeConnect platform).result
        (if serverAddress = "" then node else { node with gcIpAddress := serverAddress }) := by
  unfold handleReconnectTeamClient TeamClientNode.overwriteAddress
  rw [Computation.result_bind, Computation.result_step]

/-- Without an address the request does nothing and succeeds. -/
theorem handleReconnectTeamClient_without_address {node : TeamClientNode World}
    (unconfigured : node.gcIpAddress = "") :
    (handleReconnectTeamClient platform "").result node = (.ok true, node) := by
  rw [handleReconnectTeamClient_eq, if_pos rfl]
  exact nodeConnect_without_address platform unconfigured

theorem isConnected_disconnected {node : TeamClientNode World}
    (disconnected : node.teamClient.connected = false) :
    (TeamClientNode.isConnected : NodeAction World Bool).result node = (.ok false, node) := by
  rw [TeamClientNode.isConnected, Computation.result_step, disconnected]

theorem whenConnected_disconnected {node : TeamClientNode World}
    (disconnected : node.teamClient.connected = false) (request : Action World Result) :
    (whenConnected request).result node =
      (.ok ⟨false, "Team client is not connected to the Game Controller."⟩, node) := by
  unfold whenConnected
  rw [Computation.result_bind_ok (isConnected_disconnected disconnected), Computation.result_pure]

theorem pingCallback_disconnected {node : TeamClientNode World}
    (disconnected : node.teamClient.connected = false) :
    (pingCallback platform).result node = (.ok { connected := false }, node) := by
  unfold pingCallback
  rw [Computation.result_bind_ok (isConnected_disconnected disconnected), Computation.result_pure]

end Handlers

/-- The scripted platform of a node; the only address that parses is 10.0.0.1. -/
def scriptedNode : NodePlatform Script where
  toPlatform := scripted
  addressFromString := fun text => if text = "10.0.0.1" then some ⟨[10, 0, 0, 1]⟩ else none
  unassignedColor := .unnamed 7
  unassignedChoice := .unnamed 7

end SslRosBridge.GameControllerBridge
