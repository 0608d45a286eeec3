import SslRosBridge.GameControllerBridge.GCMulticastBridge
import SslRosBridge.Library.Execution
import SslRosBridge.VisionBridge.SSLVisionBridgeNode

/-!
# The stream of referee messages

The multicast receiver of `GCMulticastBridgeNode`.  Its handler starts the next
receive when the callback returns, which can be after a wait for the reconnect
service.
-/

namespace SslRosBridge.GameControllerBridge

open Library SslRosBridge.Core

/-- The node with what its callback reads and the requests it has sent. -/
structure BridgeHost (Message Sender : Type) where
  node : GCMulticastBridgeNode Message Sender := {}
  now : Nat := 0
  serviceIsReady : Bool := false
  requests : List ReconnectRequest := []

abbrev BridgeReceiver (platform : BridgePlatform) (Sender : Type) :=
  MulticastReceiver (BridgeHost platform.Message Sender)

/-- What happens to the node. -/
inductive BridgeEvent (Sender : Type) where
  | datagram (datagram : Datagram)
  | clock (now : Nat)
  | service (isReady : Bool)
  | status (status : ConnectionStatus)
  | response (response : ReconnectResponse Sender)
  | resume
  | giveUp

namespace BridgeHost

variable {Message Sender : Type} (host : BridgeHost Message Sender)

/-- `PublishMulticastMessage` as the callback of the receiver. -/
def publishMulticastMessage (platform : BridgePlatform) (call : Call)
    (host : BridgeHost platform.Message Sender) : BridgeHost platform.Message Sender :=
  let (request, node) := host.node.publishMulticastMessage platform host.now
    host.requests.length host.serviceIsReady call.senderAddress call.data
  { host with node := node, requests := host.requests ++ request.toList }

end BridgeHost

namespace BridgeReceiver

variable {platform : BridgePlatform} {Sender : Type}

def defaultParameters : MulticastParameters where
  address := "224.5.23.1"
  port := 10003

/-- The receiver of a node that is being constructed. -/
def construct (platform : BridgePlatform) (Sender : Type) (multicast : MulticastPlatform)
    (parameters : MulticastParameters) (memory : Buffer) :
    Except SystemError (BridgeReceiver platform Sender) :=
  MulticastReceiver.ofParameters multicast parameters
    (BridgeHost.publishMulticastMessage platform) {} memory

def withHost (receiver : BridgeReceiver platform Sender)
    (update : BridgeHost platform.Message Sender → BridgeHost platform.Message Sender) :
    BridgeReceiver platform Sender :=
  { receiver with owner := update receiver.owner }

def withNode (receiver : BridgeReceiver platform Sender)
    (update : GCMulticastBridgeNode platform.Message Sender →
      GCMulticastBridgeNode platform.Message Sender) : BridgeReceiver platform Sender :=
  receiver.withHost fun host => { host with node := update host.node }

/-- A datagram is received only while a receive is outstanding; the wait of its
callback ends with a response or, after the deadline, without one. -/
def step (receiver : BridgeReceiver platform Sender) :
    BridgeEvent Sender → Option (BridgeReceiver platform Sender)
  | .datagram datagram =>
      if receiver.outstanding = 0 then none
      else
        let called := (receiver.receiveDatagram datagram).invokeCallback
          (min datagram.payload.length receiveBufferSize)
        if called.owner.node.waiting.isSome then some called else some called.asyncReceiveFrom
  | .clock now => some (receiver.withHost fun host => { host with now := now })
  | .service isReady =>
      some (receiver.withHost fun host => { host with serviceIsReady := isReady })
  | .status status =>
      some (receiver.withNode fun node => node.teamClientConnectionStatusCallback status)
  | .response response => some (receiver.withNode fun node => node.receiveResponse response)
  | .resume =>
      match receiver.owner.node.waiting.bind (·.response) with
      | none => none
      | some response =>
          some (receiver.withNode fun node => node.resume response).asyncReceiveFrom
  | .giveUp =>
      match receiver.owner.node.waiting with
      | none => none
      | some future =>
          if future.response.isNone && future.deadline ≤ receiver.owner.now then
            some (receiver.withNode fun node => node.giveUp).asyncReceiveFrom
          else none

def published (receiver : BridgeReceiver platform Sender) : List platform.Message :=
  receiver.owner.node.published

/-- The messages published before and after an event: those of a datagram are
published faithfully and nothing else is published. -/
def FaithfulStep (platform : BridgePlatform) (before after : List platform.Message) :
    BridgeEvent Sender → Prop
  | .datagram datagram =>
      Faithful platform.parseReferee platform.fromProto datagram before after
  | _ => after = before

/-- The datagram of an event is intact. -/
def IntactEvent (platform : BridgePlatform) : BridgeEvent Sender → Prop
  | .datagram datagram => Intact platform.parseReferee datagram
  | _ => True

theorem publishMulticastMessage_publishes :
    Publishes platform.parseReferee platform.fromProto (·.node.published)
      (@BridgeHost.publishMulticastMessage Sender platform) := by
  intro call host
  simp only [BridgeHost.publishMulticastMessage, converted]
  unfold GCMulticastBridgeNode.publishMulticastMessage
  cases platform.parseReferee call.data with
  | none => exact (List.append_nil _).symm
  | some referee =>
      dsimp only
      split
      · rfl
      · split <;> rfl

theorem receiveResponse_published {Message : Type} (node : GCMulticastBridgeNode Message Sender)
    (response : ReconnectResponse Sender) :
    (node.receiveResponse response).published = node.published := by
  unfold GCMulticastBridgeNode.receiveResponse
  split
  · rfl
  · split <;> rfl

theorem resume_published {Message : Type} (node : GCMulticastBridgeNode Message Sender)
    (response : ReconnectResponse Sender) :
    (node.resume response).published = node.published := by
  unfold GCMulticastBridgeNode.resume
  split <;> rfl

/-- The messages that an event publishes. -/
def received (platform : BridgePlatform) : BridgeEvent Sender → List platform.Message
  | .datagram datagram =>
      converted platform.parseReferee platform.fromProto (datagram.payload.take receiveBufferSize)
  | _ => []

/-- What an event does to the published messages. -/
theorem step_published {before after : BridgeReceiver platform Sender}
    (callback : before.receiveCallback = BridgeHost.publishMulticastMessage platform)
    {event : BridgeEvent Sender} (taken : before.step event = some after) :
    after.receiveCallback = before.receiveCallback ∧
      after.published = before.published ++ received platform event := by
  cases event with
  | datagram datagram =>
      have publishes : Publishes platform.parseReferee platform.fromProto (·.node.published)
          before.receiveCallback := by
        rw [callback]
        exact publishMulticastMessage_publishes
      have received := published_invokeCallback publishes datagram
      simp only [step] at taken
      split at taken
      · cases taken
      · split at taken <;> cases taken
        · exact ⟨rfl, received⟩
        · exact ⟨rfl, received⟩
  | clock now =>
      cases taken
      exact ⟨rfl, (List.append_nil _).symm⟩
  | service isReady =>
      cases taken
      exact ⟨rfl, (List.append_nil _).symm⟩
  | status status =>
      cases taken
      exact ⟨rfl, (List.append_nil _).symm⟩
  | response response =>
      cases taken
      exact ⟨rfl, (receiveResponse_published _ response).trans (List.append_nil _).symm⟩
  | resume =>
      simp only [step] at taken
      split at taken
      · cases taken
      · cases taken
        exact ⟨rfl, (resume_published _ _).trans (List.append_nil _).symm⟩
  | giveUp =>
      simp only [step] at taken
      split at taken
      · cases taken
      · split at taken
        · cases taken
          exact ⟨rfl, (List.append_nil _).symm⟩
        · cases taken

/-- An event is faithful exactly when it is intact. -/
theorem faithfulStep_iff {before after : BridgeReceiver platform Sender}
    (callback : before.receiveCallback = BridgeHost.publishMulticastMessage platform)
    {event : BridgeEvent Sender} (taken : before.step event = some after) :
    FaithfulStep platform before.published after.published event ↔
      IntactEvent platform event := by
  obtain ⟨-, published⟩ := step_published callback taken
  cases event with
  | datagram datagram =>
      rw [published]
      exact faithful_received_iff datagram before.published
  | _ =>
      rw [published]
      exact iff_of_true (List.append_nil _) trivial

/-- The events that can happen. -/
def Step (before : BridgeReceiver platform Sender) (event : BridgeEvent Sender)
    (after : BridgeReceiver platform Sender) : Prop :=
  before.step event = some after

/-- All events of an execution are faithful exactly when all are intact. -/
theorem faithful_execution_iff {start last : BridgeReceiver platform Sender}
    (callback : start.receiveCallback = BridgeHost.publishMulticastMessage platform)
    {transitions : List (Transition (BridgeReceiver platform Sender) (BridgeEvent Sender))}
    (execution : Execution Step start transitions last) :
    (∀ transition ∈ transitions, FaithfulStep platform transition.before.published
        transition.after.published transition.label) ↔
      ∀ transition ∈ transitions, IntactEvent platform transition.label := by
  obtain ⟨-, callbacks⟩ := execution.invariant
    (fun receiver => receiver.receiveCallback = BridgeHost.publishMulticastMessage platform)
    (fun _ _ => True)
    (fun callback _ taken => (step_published callback taken).1.trans callback) callback
    (fun _ _ => trivial)
  refine forall₂_congr fun transition mem => ?_
  exact faithfulStep_iff (callbacks transition mem) (execution.steps transition mem)

end BridgeReceiver

/-! ## Both bridges -/

section Bridges

open VisionBridge MessageConversion MessageConversion.Proto

variable {ros : RosLibrary} {parseVision : List UInt8 → Option SSLWrapperPacket}
  {multicast : MulticastPlatform} {visionParameters refereeParameters : MulticastParameters}
  {visionMemory refereeMemory : Buffer}

/--
The vision bridge publishes every datagram of a run faithfully exactly when all
of them are intact, and so does the referee bridge, whatever happens between
its datagrams.
-/
theorem datagrams_faithful_iff {vision : MulticastReceiver SSLVisionBridgeNode}
    (visionConstructed : SSLVisionBridgeNode.construct ros parseVision multicast
      visionParameters visionMemory = .ok vision) (datagrams : List Datagram)
    {platform : BridgePlatform} {Sender : Type} {referee last : BridgeReceiver platform Sender}
    (refereeConstructed : BridgeReceiver.construct platform Sender multicast refereeParameters
      refereeMemory = .ok referee)
    {transitions : List (Transition (BridgeReceiver platform Sender) (BridgeEvent Sender))}
    (execution : Execution BridgeReceiver.Step referee transitions last) :
    ((∀ before datagram after, datagrams = before ++ datagram :: after →
        Faithful parseVision (SSLWrapperPacket.fromProto ros) datagram
          (vision.run (before.map .datagram)).owner.published
          (vision.run ((before ++ [datagram]).map .datagram)).owner.published) ↔
      ∀ datagram ∈ datagrams, Intact parseVision datagram) ∧
    ((∀ transition ∈ transitions, BridgeReceiver.FaithfulStep platform
        transition.before.published transition.after.published transition.label) ↔
      ∀ transition ∈ transitions, BridgeReceiver.IntactEvent platform transition.label) := by
  obtain ⟨visionCallback, -, visionArmed, -⟩ :=
    MulticastReceiver.construct_eq_ok visionConstructed
  obtain ⟨refereeCallback, -, -, -⟩ := MulticastReceiver.construct_eq_ok refereeConstructed
  exact ⟨SSLVisionBridgeNode.faithful_run_iff visionCallback visionArmed datagrams,
    BridgeReceiver.faithful_execution_iff refereeCallback execution⟩

/-! ## A datagram that is cut -/

/-- The parser on packets that repeat one unknown field of three bytes. -/
def parseRepeated (bytes : List UInt8) : Option SSLWrapperPacket :=
  if bytes.length % 3 = 0 then some {} else none

/-- A vision bridge that has just been constructed. -/
def idleVision : MulticastReceiver SSLVisionBridgeNode :=
  MulticastReceiver.asyncReceiveFrom
    { receiveCallback := SSLVisionBridgeNode.multicastCallback .sample parseRepeated
      owner := {}
      buffer := zeroMemory }

theorem construct_idleVision :
    SSLVisionBridgeNode.construct .sample parseRepeated loopback
      SSLVisionBridgeNode.defaultParameters zeroMemory = .ok idleVision := rfl

/-- A referee bridge whose packets lack required fields. -/
def incompleteBridge : BridgePlatform := { scriptedBridge with parseReferee := fun _ => none }

def idleReferee : BridgeReceiver incompleteBridge Unit :=
  MulticastReceiver.asyncReceiveFrom
    { receiveCallback := BridgeHost.publishMulticastMessage incompleteBridge
      owner := {}
      buffer := zeroMemory }

theorem construct_idleReferee :
    BridgeReceiver.construct incompleteBridge Unit loopback BridgeReceiver.defaultParameters
      zeroMemory = .ok idleReferee := rfl

/-- The varint field number 3 with the value 128, again and again. -/
def repeatedField (count : Nat) : List UInt8 :=
  (List.replicate count [0x18, 0x80, 0x01]).flatten

theorem length_repeatedField (count : Nat) : (repeatedField count).length = 3 * count := by
  induction count with
  | zero => rfl
  | succ count ih =>
      rw [repeatedField, List.replicate_succ, List.flatten_cons, List.length_append]
      change 3 + (repeatedField count).length = _
      omega

def wholeDatagram : Datagram where
  sender := { address := "192.168.1.5", port := 10006 }
  payload := repeatedField 2
  fits := by decide

/-- The idle referee bridge receives it on its own group. -/
def wholeReceived : Transition (BridgeReceiver incompleteBridge Unit) (BridgeEvent Unit) where
  before := idleReferee
  label := .datagram wholeDatagram
  after := ((idleReferee.receiveDatagram wholeDatagram).invokeCallback 6).asyncReceiveFrom

/-- The vision bridge publishes the datagram and the referee bridge does not. -/
theorem datagrams_faithful_iff_whole :
    (idleVision.run [.datagram wholeDatagram]).owner.published =
      [SSLWrapperPacket.fromProto .sample {}] ∧
    BridgeReceiver.FaithfulStep incompleteBridge wholeReceived.before.published
      wholeReceived.after.published wholeReceived.label := by
  have execution : Execution BridgeReceiver.Step idleReferee [wholeReceived] _ :=
    .step rfl (.stop _)
  have theorems := datagrams_faithful_iff construct_idleVision [wholeDatagram]
    construct_idleReferee execution
  have fits : wholeDatagram.payload.length ≤ receiveBufferSize := by decide
  constructor
  · have faithful := theorems.1.mpr (List.forall_mem_singleton.mpr (Or.inl fits))
      [] wholeDatagram [] rfl
    exact faithful.1
  · exact theorems.2.mpr (List.forall_mem_singleton.mpr (Or.inl fits)) wholeReceived
      List.mem_cons_self

def longDatagram : Datagram where
  sender := { address := "192.168.1.5", port := 10006 }
  payload := repeatedField 1366
  fits := by
    rw [length_repeatedField]
    decide

/-- A datagram that parses is dropped because it was cut. -/
theorem longDatagram_dropped :
    parseRepeated longDatagram.payload = some {} ∧
      (idleVision.run [.datagram longDatagram]).owner.published = [] := by
  have length : longDatagram.payload.length = 4098 := length_repeatedField 1366
  have whole : parseRepeated longDatagram.payload = some {} := by
    rw [parseRepeated, length, if_pos (by decide)]
  have cut : parseRepeated (longDatagram.payload.take receiveBufferSize) = none := by
    rw [parseRepeated, List.length_take, length, if_neg (by decide)]
  refine ⟨whole, ?_⟩
  have callback : idleVision.receiveCallback =
      SSLVisionBridgeNode.multicastCallback .sample parseRepeated := rfl
  have published := SSLVisionBridgeNode.published_run_snoc callback rfl [] longDatagram
  rw [converted, cut] at published
  exact published

end Bridges

end SslRosBridge.GameControllerBridge
