import SslRosBridge.Core.DatagramFidelity
import SslRosBridge.MessageConversion.Vision

/-!
# The vision bridge node

`SSLVisionBridgeNode` of `ssl_vision_bridge_node.cpp`.  Parsing a packet is a
parameter.
-/

namespace SslRosBridge.VisionBridge

open SslRosBridge.Core MessageConversion MessageConversion.Proto

structure SSLVisionBridgeNode where
  published : List Msg.VisionWrapper := []

namespace SSLVisionBridgeNode

variable (ros : RosLibrary) (parseFromArray : List UInt8 → Option SSLWrapperPacket)

def multicastCallback (call : Call) (node : SSLVisionBridgeNode) : SSLVisionBridgeNode :=
  match parseFromArray call.data with
  | none => node
  | some visionProto => { node with published := node.published ++ [visionProto.fromProto ros] }

def defaultParameters : MulticastParameters where
  address := "224.5.23.2"
  port := 10020

/-- The receiver of a node that is being constructed. -/
def construct (platform : MulticastPlatform) (parameters : MulticastParameters)
    (memory : Buffer) : Except SystemError (MulticastReceiver SSLVisionBridgeNode) :=
  MulticastReceiver.ofParameters platform parameters (multicastCallback ros parseFromArray) {}
    memory

variable {ros parseFromArray}

theorem multicastCallback_publishes :
    Publishes parseFromArray (SSLWrapperPacket.fromProto ros) (·.published)
      (multicastCallback ros parseFromArray) := by
  intro call node
  unfold multicastCallback converted
  cases parseFromArray call.data with
  | none => simp
  | some visionProto => rfl

/-- What the node has published when the next datagram has been handled. -/
theorem published_run_snoc {start : MulticastReceiver SSLVisionBridgeNode}
    (callback : start.receiveCallback = multicastCallback ros parseFromArray)
    (armed : start.outstanding = 1) (before : List Datagram) (datagram : Datagram) :
    (start.run ((before ++ [datagram]).map .datagram)).owner.published =
      (start.run (before.map .datagram)).owner.published ++
        converted parseFromArray (SSLWrapperPacket.fromProto ros)
          (datagram.payload.take receiveBufferSize) := by
  obtain ⟨armed', callback'⟩ := MulticastReceiver.run_datagrams start armed before
  have last : start.run ((before ++ [datagram]).map .datagram) =
      (start.run (before.map .datagram)).complete (.datagram datagram) := by
    rw [List.map_append, MulticastReceiver.run_append]
    change (start.run (before.map .datagram)).arrive (.datagram datagram) = _
    rw [MulticastReceiver.arrive, if_neg (by omega)]
  have publishes : Publishes parseFromArray (SSLWrapperPacket.fromProto ros) (·.published)
      (start.run (before.map .datagram)).receiveCallback := by
    rw [callback', callback]
    exact multicastCallback_publishes
  rw [last]
  exact published_invokeCallback publishes datagram

/-- The node publishes every datagram of a run faithfully exactly when all of
them are intact. -/
theorem faithful_run_iff {start : MulticastReceiver SSLVisionBridgeNode}
    (callback : start.receiveCallback = multicastCallback ros parseFromArray)
    (armed : start.outstanding = 1) (datagrams : List Datagram) :
    (∀ before datagram after, datagrams = before ++ datagram :: after →
        Faithful parseFromArray (SSLWrapperPacket.fromProto ros) datagram
          (start.run (before.map .datagram)).owner.published
          (start.run ((before ++ [datagram]).map .datagram)).owner.published) ↔
      ∀ datagram ∈ datagrams, Intact parseFromArray datagram := by
  simp only [published_run_snoc callback armed, faithful_received_iff]
  constructor
  · intro faithful datagram mem
    obtain ⟨before, after, split⟩ := List.append_of_mem mem
    exact faithful before datagram after split
  · rintro intact before datagram after rfl
    exact intact datagram (by simp)

end SSLVisionBridgeNode

end SslRosBridge.VisionBridge
