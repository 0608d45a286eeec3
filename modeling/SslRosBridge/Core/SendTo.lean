import SslRosBridge.Core.MulticastReceiver
import SslRosBridge.Library.Execution
import SslRosBridge.Library.Overwrite

/-!
# Overlapping sends of the multicast receiver

All sends of a receiver go through one buffer.  `SendTo` copies the data there
and starts an asynchronous send, which reads the buffer at some later moment,
at the latest before its handler runs.  A call in between writes over the data.
-/

namespace SslRosBridge.Core

open Library

/-! ## Sending -/

/-- The arguments of `SendTo`; the data has `length` bytes. -/
structure SendRequest where
  address : String
  port : UInt16
  data : List UInt8
  deriving DecidableEq, Repr

structure SendEndpoint (Address : Type) where
  address : Address
  port : UInt16
  deriving DecidableEq, Repr

/-- An asynchronous send, with the number of the call that started it. -/
structure SendOperation (Address : Type) where
  number : Nat
  endpoint : SendEndpoint Address
  length : Nat
  deriving DecidableEq, Repr

/-- A datagram as the receiver puts it on the wire. -/
structure SentDatagram (Address : Type) where
  endpoint : SendEndpoint Address
  data : List UInt8
  deriving DecidableEq, Repr

/-- The receiver with what it sends.  The calls of `SendTo` are counted, and
both buffers have the same size. -/
structure SendingReceiver (Owner Address : Type) extends MulticastReceiver Owner where
  sendBuffer : Buffer
  sendCalls : Nat := 0
  /-- The sends that are still to read the buffer. -/
  unsent : List (SendOperation Address) := []
  /-- The numbers of the sends whose handler is still to run. -/
  sent : List Nat := []
  numbered : ∀ operation ∈ unsent, operation.number ≤ sendCalls

inductive SendEvent (Address : Type) where
  | sendTo (request : SendRequest)
  | transmits (number : Nat) (datagram : SentDatagram Address)
  | handles (number : Nat) (error : Option String)
  | receives (completion : Completion)

namespace SendingReceiver

variable {Owner Address : Type} (receiver : SendingReceiver Owner Address)

def warningHandler (message : String) : SendingReceiver Owner Address :=
  { receiver with
    toMulticastReceiver := receiver.toMulticastReceiver.warningHandler message }

def countCall : SendingReceiver Owner Address :=
  { receiver with
    sendCalls := receiver.sendCalls + 1
    numbered := fun operation member => Nat.le_succ_of_le (receiver.numbered operation member) }

/-- The `memcpy` of `SendTo`. -/
def copy (data : List UInt8) : SendingReceiver Owner Address :=
  { receiver with sendBuffer := receiver.sendBuffer.fill data }

def asyncSendTo (length : Nat) (endpoint : SendEndpoint Address) :
    SendingReceiver Owner Address :=
  { receiver with
    unsent := receiver.unsent ++ [⟨receiver.sendCalls, endpoint, length⟩]
    numbered := by
      intro operation member
      rcases List.mem_append.mp member with old | new
      · exact receiver.numbered operation old
      · exact Nat.le_of_eq (congrArg SendOperation.number (List.mem_singleton.mp new)) }

/-- The address is only parsed after the data was copied, and may throw. -/
def sendTo (fromString : String → Except SystemError Address) (request : SendRequest) :
    Except SystemError Unit × SendingReceiver Owner Address :=
  if receiveBufferSize ≤ request.data.length then
    (.ok (), receiver.warningHandler
      "Cannot send data. UDP send data length is larger than buffer.")
  else
    match fromString request.address with
    | .error error => (.error error, receiver.copy request.data)
    | .ok address =>
        (.ok (), (receiver.copy request.data).asyncSendTo request.data.length
          ⟨address, request.port⟩)

def handleUDPSendTo (error : Option String) : SendingReceiver Owner Address :=
  match error with
  | some message => receiver.warningHandler ("Failure while sending UDP data: " ++ message)
  | none => receiver

/-- What a send reads from the buffer when its turn comes. -/
def read (operation : SendOperation Address) : SentDatagram Address where
  endpoint := operation.endpoint
  data := receiver.sendBuffer.bytes.take operation.length

/-- The send with that number is over. -/
def finish (number : Nat) : SendingReceiver Owner Address :=
  { receiver with
    unsent := receiver.unsent.filter (·.number ≠ number)
    sent := receiver.sent.filter (· ≠ number)
    numbered := fun operation member =>
      receiver.numbered operation (List.mem_filter.mp member).1 }

/-- The send with that number has read the buffer. -/
def transmit (number : Nat) : SendingReceiver Owner Address :=
  { receiver.finish number with sent := number :: receiver.sent }

def receive (completion : Completion) : SendingReceiver Owner Address :=
  { receiver with
    toMulticastReceiver := receiver.toMulticastReceiver.arrive completion }

end SendingReceiver

section Moves

variable {Owner Address : Type} (fromString : String → Except SystemError Address)

/-- Sends read the buffer in any order.  The handler of one that did not fail
runs after that. -/
inductive SendMove :
    SendingReceiver Owner Address → SendEvent Address → SendingReceiver Owner Address → Prop where
  | called (receiver : SendingReceiver Owner Address) (request : SendRequest) :
      SendMove receiver (.sendTo request) (receiver.countCall.sendTo fromString request).2
  | transmitted {receiver : SendingReceiver Owner Address} {operation : SendOperation Address}
      (waits : operation ∈ receiver.unsent) :
      SendMove receiver (.transmits operation.number (receiver.read operation))
        (receiver.transmit operation.number)
  | succeeded {receiver : SendingReceiver Owner Address} {number : Nat}
      (done : number ∈ receiver.sent) :
      SendMove receiver (.handles number none) ((receiver.finish number).handleUDPSendTo none)
  | failed {receiver : SendingReceiver Owner Address} {operation : SendOperation Address}
      (waits : operation ∈ receiver.unsent) (message : String) :
      SendMove receiver (.handles operation.number (some message))
        ((receiver.finish operation.number).handleUDPSendTo (some message))
  | received (receiver : SendingReceiver Owner Address) (completion : Completion) :
      SendMove receiver (.receives completion) (receiver.receive completion)

/-- The datagram of a call in a run, and what happens before it is read. -/
structure Transmission
    (transitions : List (Transition (SendingReceiver Owner Address) (SendEvent Address)))
    (request : SendRequest)
    (meanwhile : List (Transition (SendingReceiver Owner Address) (SendEvent Address)))
    (datagram : SentDatagram Address) : Prop where
  order : ∃ front called sent back, transitions = front ++ called :: (meanwhile ++ sent :: back) ∧
    called.label = .sendTo request ∧
    sent.label = .transmits (called.before.sendCalls + 1) datagram

/-- The datagram is what was passed to the call and goes where the call says. -/
structure SentDatagram.IsOf (datagram : SentDatagram Address) (request : SendRequest) : Prop where
  address : fromString request.address = .ok datagram.endpoint.address
  port : datagram.endpoint.port = request.port
  data : datagram.data = request.data

/-- What an event copies to the buffer. -/
def SendEvent.copied : SendEvent Address → List (List UInt8)
  | .sendTo request => if receiveBufferSize ≤ request.data.length then [] else [request.data]
  | .transmits _ _ | .handles _ _ | .receives _ => []

/-- The data of the calls that pass the length check, in their order. -/
def copiedData
    (transitions : List (Transition (SendingReceiver Owner Address) (SendEvent Address))) :
    List (List UInt8) :=
  transitions.flatMap fun transition => transition.label.copied

/-! ## What a step does to the sends -/

/-- The send that a call starts. -/
structure SendOperation.IsOf (operation : SendOperation Address) (number : Nat)
    (request : SendRequest) : Prop where
  number : operation.number = number
  fits : request.data.length < receiveBufferSize
  address : fromString request.address = .ok operation.endpoint.address
  port : operation.endpoint.port = request.port
  length : operation.length = request.data.length

variable {fromString}

variable (fromString) in
/-- A call copies its data when it passes the length check, also when it throws.
It starts one send or none. -/
theorem sendTo_cases (receiver : SendingReceiver Owner Address) (request : SendRequest) :
    (receiver.sendTo fromString request).2.sendBuffer.bytes =
        overwriteAll receiver.sendBuffer.bytes
          (SendEvent.sendTo request : SendEvent Address).copied ∧
      (receiver.sendTo fromString request).2.sendCalls = receiver.sendCalls ∧
      ((receiver.sendTo fromString request).2.unsent = receiver.unsent ∨
        ∃ operation : SendOperation Address,
          operation.IsOf fromString receiver.sendCalls request ∧
            (receiver.sendTo fromString request).2.unsent = receiver.unsent ++ [operation]) := by
  by_cases long : receiveBufferSize ≤ request.data.length
  · have nothing : (SendEvent.sendTo request : SendEvent Address).copied = [] := if_pos long
    rw [SendingReceiver.sendTo, if_pos long, nothing]
    exact ⟨rfl, rfl, Or.inl rfl⟩
  · have data : (SendEvent.sendTo request : SendEvent Address).copied = [request.data] :=
      if_neg long
    have copied : (receiver.copy request.data).sendBuffer.bytes =
        overwriteAll receiver.sendBuffer.bytes [request.data] := by
      change request.data.take receiveBufferSize ++ _ = request.data ++ _
      rw [List.take_of_length_le (Nat.le_of_not_le long)]
    rw [SendingReceiver.sendTo, if_neg long, data]
    split
    · exact ⟨copied, rfl, Or.inl rfl⟩
    · next address parsed =>
        exact ⟨copied, rfl, Or.inr ⟨_, ⟨rfl, Nat.lt_of_not_le long, parsed, rfl, rfl⟩, rfl⟩⟩

/-- Only a call changes the buffer, and only a call adds a send. -/
theorem sendMove_cases {before after : SendingReceiver Owner Address} {event : SendEvent Address}
    (step : SendMove fromString before event after) :
    after.sendBuffer.bytes = overwriteAll before.sendBuffer.bytes event.copied ∧
      before.sendCalls ≤ after.sendCalls ∧
      ∀ operation ∈ after.unsent, operation ∈ before.unsent ∨ ∃ request,
        event = .sendTo request ∧
          operation.IsOf fromString (before.sendCalls + 1) request := by
  cases step with
  | called request =>
      obtain ⟨buffer, calls, unsent⟩ := sendTo_cases fromString before.countCall request
      refine ⟨buffer, Nat.le_trans (Nat.le_succ _) (Nat.le_of_eq calls.symm), ?_⟩
      intro operation member
      rcases unsent with same | ⟨started, isOf, added⟩
      · rw [same] at member
        exact Or.inl member
      · rw [added] at member
        rcases List.mem_append.mp member with old | new
        · exact Or.inl old
        · cases List.mem_singleton.mp new
          exact Or.inr ⟨request, rfl, isOf⟩
  | transmitted =>
      exact ⟨rfl, Nat.le_refl _, fun _ member => Or.inl (List.mem_filter.mp member).1⟩
  | succeeded =>
      exact ⟨rfl, Nat.le_refl _, fun _ member => Or.inl (List.mem_filter.mp member).1⟩
  | failed =>
      exact ⟨rfl, Nat.le_refl _, fun _ member => Or.inl (List.mem_filter.mp member).1⟩
  | received => exact ⟨rfl, Nat.le_refl _, fun _ member => Or.inl member⟩

/-- The buffer holds what the calls of a run have put there. -/
theorem sendBuffer_of_execution {first last : SendingReceiver Owner Address}
    {transitions : List (Transition (SendingReceiver Owner Address) (SendEvent Address))}
    (run : Execution (SendMove fromString) first transitions last) :
    last.sendBuffer.bytes = overwriteAll first.sendBuffer.bytes (copiedData transitions) := by
  induction run with
  | stop => rfl
  | @step before after last event transitions taken later ih =>
      calc last.sendBuffer.bytes
          = overwriteAll after.sendBuffer.bytes (copiedData transitions) := ih
        _ = overwriteAll (overwriteAll before.sendBuffer.bytes event.copied)
              (copiedData transitions) := by rw [(sendMove_cases taken).1]
        _ = overwriteAll before.sendBuffer.bytes
              (event.copied ++ copiedData transitions) := (overwriteAll_append _ _ _).symm

/-- A send with that number can only be the one of that call. -/
def Numbers (fromString : String → Except SystemError Address) (number : Nat)
    (request : SendRequest) (receiver : SendingReceiver Owner Address) : Prop :=
  number ≤ receiver.sendCalls ∧ ∀ operation ∈ receiver.unsent, operation.number = number →
    operation.IsOf fromString number request

theorem numbers_of_call {before after : SendingReceiver Owner Address} {request : SendRequest}
    (step : SendMove fromString before (.sendTo request) after) :
    Numbers fromString (before.sendCalls + 1) request after := by
  have added := (sendMove_cases step).2.2
  constructor
  · cases step with
    | called => exact Nat.le_of_eq (sendTo_cases fromString before.countCall request).2.1.symm
  · intro operation member number
    rcases added operation member with old | ⟨_, ⟨⟩, isOf⟩
    · have bound := before.numbered operation old
      omega
    · exact isOf

theorem numbers_step {number : Nat} {request : SendRequest}
    {before after : SendingReceiver Owner Address} {event : SendEvent Address}
    (numbers : Numbers fromString number request before)
    (step : SendMove fromString before event after) :
    Numbers fromString number request after := by
  obtain ⟨-, calls, added⟩ := sendMove_cases step
  refine ⟨Nat.le_trans numbers.1 calls, ?_⟩
  intro operation member same
  rcases added operation member with old | ⟨other, -, isOf⟩
  · exact numbers.2 operation old same
  · have later := isOf.number
    have bound := numbers.1
    omega

/-- What a transmission carries is what its call and those after it left in the
first bytes of the buffer. -/
theorem Transmission.data_eq {first last : SendingReceiver Owner Address}
    {transitions meanwhile :
      List (Transition (SendingReceiver Owner Address) (SendEvent Address))}
    {request : SendRequest} {datagram : SentDatagram Address}
    (run : Execution (SendMove fromString) first transitions last)
    (transmission : Transmission transitions request meanwhile datagram) :
    fromString request.address = .ok datagram.endpoint.address ∧
      datagram.endpoint.port = request.port ∧
      ∃ memory, datagram.data =
        (overwriteAll (overwrite memory request.data) (copiedData meanwhile)).take
          request.data.length := by
  obtain ⟨front, ⟨before, event, after⟩, ⟨reading, reads, read⟩, back, rfl, called, sent⟩ :=
    transmission.order
  dsimp only at called sent
  subst called sent
  obtain ⟨_, -, fromCall⟩ := run.split
  cases fromCall with
  | step calledTaken later =>
  obtain ⟨_, between, fromRead⟩ := later.split
  cases fromRead with
  | step readTaken _ =>
  obtain ⟨⟨-, numbers⟩, -⟩ := between.invariant (Numbers fromString _ request)
    (fun _ _ => True) (fun numbers _ step => numbers_step numbers step)
    (numbers_of_call calledTaken) (fun _ _ => trivial)
  generalize number_eq : before.sendCalls + 1 = number at readTaken numbers
  cases readTaken with
  | @transmitted operation waits =>
      have isOf := numbers operation waits rfl
      refine ⟨isOf.address, isOf.port, before.sendBuffer.bytes, ?_⟩
      have copied : (SendEvent.sendTo request : SendEvent Address).copied = [request.data] :=
        if_neg (Nat.not_le_of_lt isOf.fits)
      have atCall : after.sendBuffer.bytes = overwrite before.sendBuffer.bytes request.data := by
        rw [(sendMove_cases calledTaken).1, copied]
        rfl
      change reading.sendBuffer.bytes.take operation.length = _
      rw [sendBuffer_of_execution between, atCall, isOf.length]

/--
However calls and sends overlap, a datagram goes where its call says.  It
carries the bytes passed to that call exactly when, at each place that calls
reach before the buffer is read, the last of them has the same byte.
-/
theorem transmission_isOf_iff {first last : SendingReceiver Owner Address}
    {transitions meanwhile :
      List (Transition (SendingReceiver Owner Address) (SendEvent Address))}
    {request : SendRequest} {datagram : SentDatagram Address}
    (run : Execution (SendMove fromString) first transitions last)
    (transmission : Transmission transitions request meanwhile datagram) :
    datagram.IsOf fromString request ↔ Spares (copiedData meanwhile) request.data := by
  obtain ⟨address, port, memory, data⟩ := transmission.data_eq run
  rw [← take_overwriteAll_eq_iff memory, ← data]
  exact ⟨fun isOf => isOf.data, fun same => ⟨address, port, same⟩⟩

/-- The call of every send that is still to read the buffer has been made. -/
def CallsMade (past : List (Transition (SendingReceiver Owner Address) (SendEvent Address)))
    (receiver : SendingReceiver Owner Address) : Prop :=
  ∀ operation ∈ receiver.unsent, ∃ front called meanwhile request,
    past = front ++ called :: meanwhile ∧ called.label = .sendTo request ∧
      operation.number = called.before.sendCalls + 1

theorem callsMade_step
    {past : List (Transition (SendingReceiver Owner Address) (SendEvent Address))}
    {before after : SendingReceiver Owner Address} {event : SendEvent Address}
    (made : CallsMade past before) (step : SendMove fromString before event after) :
    CallsMade (past ++ [⟨before, event, after⟩]) after := by
  intro operation member
  rcases (sendMove_cases step).2.2 operation member with old | ⟨request, event_eq, isOf⟩
  · obtain ⟨front, called, meanwhile, request, rfl, call⟩ := made operation old
    exact ⟨front, called, meanwhile ++ [⟨before, event, after⟩], request, by simp, call⟩
  · exact ⟨past, _, [], request, rfl, event_eq, isOf.number⟩

/-- Every datagram of a run is the datagram of one of its calls. -/
theorem transmission_of_transmits {first last : SendingReceiver Owner Address}
    {transitions : List (Transition (SendingReceiver Owner Address) (SendEvent Address))}
    (run : Execution (SendMove fromString) first transitions last) (idle : first.unsent = [])
    {sent : Transition (SendingReceiver Owner Address) (SendEvent Address)}
    (member : sent ∈ transitions) {number : Nat} {datagram : SentDatagram Address}
    (transmits : sent.label = .transmits number datagram) :
    ∃ request meanwhile, Transmission transitions request meanwhile datagram := by
  obtain ⟨front, back, rfl⟩ := List.append_of_mem member
  have start : CallsMade [] first := by
    intro operation waits
    rw [idle] at waits
    exact absurd waits List.not_mem_nil
  have made := run.invariant_of_past CallsMade callsMade_step start front sent back rfl
  have taken := run.steps sent member
  obtain ⟨reading, event, read⟩ := sent
  dsimp only at transmits taken made
  subst transmits
  cases taken with
  | @transmitted operation waits =>
      obtain ⟨earlier, called, meanwhile, request, past, call, same⟩ := made operation waits
      have cut : front = earlier ++ called :: meanwhile := past
      refine ⟨request, meanwhile, ⟨earlier, called,
        ⟨reading, .transmits operation.number (reading.read operation),
          reading.transmit operation.number⟩, back, ?_, call, ?_⟩⟩
      · rw [cut, List.append_assoc, List.cons_append]
      · exact congrArg (SendEvent.transmits · (reading.read operation)) same

end Moves

/-! ## A call that writes over an unsent datagram -/

namespace OverlappingSends

/-- Addresses are kept as they are written. -/
def fromString (address : String) : Except SystemError String :=
  if address = "" then .error ⟨22, "Invalid argument"⟩ else .ok address

def start : SendingReceiver Unit String where
  toMulticastReceiver := .idle
  sendBuffer := zeroMemory
  numbered _ waits := absurd waits List.not_mem_nil

def first : SendRequest := ⟨"224.5.23.1", 10003, [1]⟩

def operation : SendOperation String := ⟨1, ⟨"224.5.23.1", 10003⟩, 1⟩

def called : SendingReceiver Unit String := (start.countCall.sendTo fromString first).2

def calledAgain (second : SendRequest) : SendingReceiver Unit String :=
  (called.countCall.sendTo fromString second).2

def meanwhile (second : SendRequest) :
    List (Transition (SendingReceiver Unit String) (SendEvent String)) :=
  [⟨called, .sendTo second, calledAgain second⟩]

def datagram (second : SendRequest) : SentDatagram String := (calledAgain second).read operation

def transitions (second : SendRequest) :
    List (Transition (SendingReceiver Unit String) (SendEvent String)) :=
  ⟨start, .sendTo first, called⟩ :: (meanwhile second ++
    [⟨calledAgain second, .transmits 1 (datagram second), (calledAgain second).transmit 1⟩])

theorem operation_unsent (second : SendRequest) : operation ∈ (calledAgain second).unsent := by
  have waits : operation ∈ called.unsent := List.mem_singleton.mpr rfl
  rcases (sendTo_cases fromString called.countCall second).2.2 with
    same | ⟨_, -, added⟩
  · exact same.symm ▸ waits
  · exact added.symm ▸ List.mem_append_left _ waits

theorem run (second : SendRequest) :
    Execution (SendMove fromString) start (transitions second)
      ((calledAgain second).transmit 1) :=
  .step (.called _ _) (.step (.called _ _)
    (.step (.transmitted (operation_unsent second)) (.stop _)))

theorem transmission (second : SendRequest) :
    Transmission (transitions second) first (meanwhile second) (datagram second) where
  order := ⟨[], _, _, [], rfl, rfl, rfl⟩

end OverlappingSends

/-- A longer call in between is harmless when it starts with the same byte. -/
theorem transmission_isOf_iff_prefix :
    (OverlappingSends.datagram ⟨"224.5.23.2", 10020, [1, 2]⟩).IsOf OverlappingSends.fromString
      OverlappingSends.first := by
  refine (transmission_isOf_iff (OverlappingSends.run _) (OverlappingSends.transmission _)).mpr ?_
  intro place reached last found
  obtain rfl : place = 0 := Nat.lt_one_iff.mp reached
  obtain rfl : [1, 2] = last := Option.some.inj found
  rfl

/-- The datagram of a call whose send waits carries the byte of the next call. -/
theorem not_all_transmissions_isOf :
    ¬ ∀ (first last : SendingReceiver Unit String) transitions,
      Execution (SendMove OverlappingSends.fromString) first transitions last →
        ∀ request meanwhile datagram, Transmission transitions request meanwhile datagram →
          datagram.IsOf OverlappingSends.fromString request := by
  intro intact
  let second : SendRequest := ⟨"224.5.23.2", 10020, [2]⟩
  have isOf := intact _ _ _ (OverlappingSends.run second) _ _ _
    (OverlappingSends.transmission second)
  have carried : (OverlappingSends.datagram second).data = [2] := rfl
  exact absurd (carried.symm.trans isOf.data) (by decide)

end SslRosBridge.Core
