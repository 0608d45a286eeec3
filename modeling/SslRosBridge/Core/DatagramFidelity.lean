import SslRosBridge.Core.MulticastReceiver

/-!
# From datagrams to published messages

Both bridges give the receiver a callback that parses the data and publishes
the converted message.  A datagram that does not fit the buffer is parsed as
far as it was received.
-/

namespace SslRosBridge.Core

section Publishing

variable {Packet Message Owner : Type} (parse : List UInt8 → Option Packet)
  (fromProto : Packet → Message)

/-- The message for some bytes, if they parse. -/
def converted (bytes : List UInt8) : List Message := ((parse bytes).map fromProto).toList

/-- The messages published before and after a datagram: the whole datagram was
published if it parses, and nothing was published from a part of it. -/
def Faithful (datagram : Datagram) (before after : List Message) : Prop :=
  after = before ++ converted parse fromProto datagram.payload ∧
    (receiveBufferSize < datagram.payload.length → after = before)

/-- The datagram fits the buffer, or it parses neither whole nor cut. -/
def Intact (datagram : Datagram) : Prop :=
  datagram.payload.length ≤ receiveBufferSize ∨
    parse datagram.payload = none ∧ parse (datagram.payload.take receiveBufferSize) = none

/-- A callback that publishes what it parses and nothing else. -/
def Publishes (published : Owner → List Message) (receiveCallback : Call → Owner → Owner) :
    Prop :=
  ∀ call owner, published (receiveCallback call owner) =
    published owner ++ converted parse fromProto call.data

variable {parse fromProto}

theorem converted_eq_nil_iff (bytes : List UInt8) :
    converted parse fromProto bytes = [] ↔ parse bytes = none := by
  simp [converted]

/-- Publishing what was received is faithful exactly to intact datagrams. -/
theorem faithful_received_iff (datagram : Datagram) (before : List Message) :
    Faithful parse fromProto datagram before
        (before ++ converted parse fromProto (datagram.payload.take receiveBufferSize)) ↔
      Intact parse datagram := by
  by_cases fits : datagram.payload.length ≤ receiveBufferSize
  · rw [List.take_of_length_le fits]
    refine iff_of_true ⟨rfl, ?_⟩ (Or.inl fits)
    intro large
    omega
  · have large : receiveBufferSize < datagram.payload.length := by omega
    simp only [Faithful, Intact, fits, large, false_or, forall_const, List.append_cancel_left_eq]
    constructor
    · rintro ⟨same, nothing⟩
      have cut : converted parse fromProto (datagram.payload.take receiveBufferSize) = [] :=
        List.append_right_eq_self.mp nothing
      rw [cut] at same
      exact ⟨(converted_eq_nil_iff _).mp same.symm, (converted_eq_nil_iff _).mp cut⟩
    · rintro ⟨whole, cut⟩
      simp [converted, whole, cut]

/-- What a receive publishes. -/
theorem published_invokeCallback {published : Owner → List Message}
    {receiver : MulticastReceiver Owner}
    (publishes : Publishes parse fromProto published receiver.receiveCallback)
    (datagram : Datagram) :
    published ((receiver.receiveDatagram datagram).invokeCallback
        (min datagram.payload.length receiveBufferSize)).owner =
      published receiver.owner ++
        converted parse fromProto (datagram.payload.take receiveBufferSize) := by
  rw [MulticastReceiver.invokeCallback_owner, MulticastReceiver.call_receiveDatagram,
    MulticastReceiver.receiveDatagram_receiveCallback, MulticastReceiver.receiveDatagram_owner,
    publishes]

end Publishing

end SslRosBridge.Core
