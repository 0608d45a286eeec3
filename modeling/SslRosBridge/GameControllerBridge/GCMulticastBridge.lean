import SslRosBridge.GameControllerBridge.TeamClientNode

/-!
# The multicast bridge node

`GCMulticastBridgeNode` of `gc_multicast_bridge_node.cpp`.  The callback of the
multicast receiver runs in a thread of its own and waits there for the response
of the reconnect service, so it is cut at that wait; the other callbacks run in
the executor meanwhile.  Messages carry the client that sent them, which no
callback reads.
-/

namespace SslRosBridge.GameControllerBridge

/-- The referee protobuf, its conversion and the ticks of a second are not
looked into. -/
structure BridgePlatform where
  Referee : Type
  Message : Type
  parseReferee : List UInt8 → Option Referee
  fromProto : Referee → Message
  second : Nat

/-! ## Messages -/

/-- The number is the one by which the middleware finds the pending request. -/
structure ReconnectRequest where
  number : Nat
  serverAddress : String
  deriving DecidableEq, Repr

structure ReconnectResponse (Sender : Type) where
  number : Nat
  success : Bool
  sender : Sender
  deriving Repr

structure StatusMessage (Sender : Type) where
  status : ConnectionStatus
  sender : Sender
  deriving Repr

/-! ## The node -/

/-- A request whose future the receiver thread waits for. -/
structure ServiceFuture (Sender : Type) where
  number : Nat
  deadline : Nat
  response : Option (ReconnectResponse Sender) := none
  deriving Repr

structure GCMulticastBridgeNode (Message Sender : Type) where
  teamClientConnected : Bool := false
  lastReconnectAttemptTime : Nat := 0
  published : List Message := []
  waiting : Option (ServiceFuture Sender) := none
  deriving Repr

namespace GCMulticastBridgeNode

variable (platform : BridgePlatform) {Sender : Type}

def kReconnectTimeout : Nat := 2 * platform.second

def kReconnectRetryTime : Nat := platform.second

variable (node : GCMulticastBridgeNode platform.Message Sender)

def publish (referee : platform.Referee) : GCMulticastBridgeNode platform.Message Sender :=
  { node with published := node.published ++ [platform.fromProto referee] }

/-- The packet leads to a request: it parses, the client is not believed to be
connected, its service has been found and the last attempt is long enough ago. -/
def reconnects (now : Nat) (serviceIsReady : Bool) (buffer : List UInt8) : Bool :=
  (platform.parseReferee buffer).isSome && !node.teamClientConnected && serviceIsReady &&
    kReconnectRetryTime platform ≤ now - node.lastReconnectAttemptTime

/-- `PublishMulticastMessage` up to the wait for the future. -/
def publishMulticastMessage (now number : Nat) (serviceIsReady : Bool) (senderAddress : String)
    (buffer : List UInt8) :
    Option ReconnectRequest × GCMulticastBridgeNode platform.Message Sender :=
  match platform.parseReferee buffer with
  | none => (none, node)
  | some referee =>
    if node.teamClientConnected || !serviceIsReady then (none, node.publish platform referee)
    else if now - node.lastReconnectAttemptTime < kReconnectRetryTime platform then
      (none, node.publish platform referee)
    else
      (some ⟨number, senderAddress⟩,
        { node.publish platform referee with
          lastReconnectAttemptTime := now
          waiting := some { number := number, deadline := now + kReconnectTimeout platform } })

/-- A packet sends a request exactly when the bridge wants to reconnect, and the
bridge then waits for the response. -/
theorem publishMulticastMessage_cases {now number : Nat} {serviceIsReady : Bool}
    {senderAddress : String} {buffer : List UInt8} {request : Option ReconnectRequest}
    {next : GCMulticastBridgeNode platform.Message Sender}
    (callback : node.publishMulticastMessage platform now number serviceIsReady senderAddress
      buffer = (request, next)) :
    next.teamClientConnected = node.teamClientConnected ∧
    ((node.reconnects platform now serviceIsReady buffer = false ∧ request = none ∧
        next.waiting = node.waiting ∧
        next.lastReconnectAttemptTime = node.lastReconnectAttemptTime) ∨
      (node.reconnects platform now serviceIsReady buffer = true ∧
        request = some ⟨number, senderAddress⟩ ∧
        next.waiting =
          some { number := number, deadline := now + kReconnectTimeout platform } ∧
        next.lastReconnectAttemptTime = now)) := by
  unfold publishMulticastMessage at callback
  unfold reconnects
  cases parsed : platform.parseReferee buffer with
  | none =>
      simp only [parsed] at callback
      cases callback
      exact ⟨rfl, Or.inl ⟨rfl, rfl, rfl, rfl⟩⟩
  | some referee =>
      simp only [parsed] at callback
      split at callback
      · next skipped =>
          cases callback
          refine ⟨rfl, Or.inl ⟨?_, rfl, rfl, rfl⟩⟩
          rcases Bool.or_eq_true_iff.mp skipped with connected | notReady
          · simp [connected]
          · simp_all
      · next wanted =>
          split at callback
          · next early =>
              cases callback
              exact ⟨rfl, Or.inl ⟨by simp [early], rfl, rfl, rfl⟩⟩
          · next late =>
              cases callback
              exact ⟨rfl, Or.inr ⟨by simp_all, rfl, rfl, rfl⟩⟩

variable {platform} {Message : Type} (node : GCMulticastBridgeNode Message Sender)

/-- The rest of `PublishMulticastMessage` when the future has a value. -/
def resume (response : ReconnectResponse Sender) : GCMulticastBridgeNode Message Sender :=
  if response.success then { node with waiting := none, teamClientConnected := true }
  else { node with waiting := none }

/-- The rest of `PublishMulticastMessage` after the timeout. -/
def giveUp : GCMulticastBridgeNode Message Sender := { node with waiting := none }

/-- The middleware sets the future; a late response finds none. -/
def receiveResponse (response : ReconnectResponse Sender) : GCMulticastBridgeNode Message Sender :=
  match node.waiting with
  | none => node
  | some future =>
      if future.number = response.number then
        { node with waiting := some { future with response := some response } }
      else node

theorem receiveResponse_teamClientConnected (response : ReconnectResponse Sender) :
    (node.receiveResponse response).teamClientConnected = node.teamClientConnected := by
  unfold receiveResponse
  split
  · rfl
  · split <;> rfl

def teamClientConnectionStatusCallback (status : ConnectionStatus) :
    GCMulticastBridgeNode Message Sender :=
  { node with teamClientConnected := status.connected }

end GCMulticastBridgeNode

/-- A referee message with its required fields, all of them zero or empty. -/
def bareReferee : List UInt8 :=
  let team : List UInt8 := [0x0a, 0, 0x10, 0, 0x18, 0, 0x28, 0, 0x30, 0, 0x38, 0, 0x40, 0]
  [0x08, 0, 0x10, 0, 0x20, 0, 0x28, 0, 0x30, 0] ++ 0x3a :: 14 :: team ++ 0x42 :: 14 :: team

/-- The bare message is published as it is; no other packet is looked at. -/
def scriptedBridge : BridgePlatform where
  Referee := List UInt8
  Message := List UInt8
  parseReferee := fun packet => if packet = bareReferee then some packet else none
  fromProto := id
  second := 10

end SslRosBridge.GameControllerBridge
