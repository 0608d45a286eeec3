import Mathlib.Data.List.Induction
import Mathlib.Data.List.TakeDrop

/-!
# The multicast receiver

`MulticastReceiver` of `multicast_receiver.cpp`.  One asynchronous receive is
started by the constructor and one after each datagram; a datagram that arrives
while none is outstanding reaches no callback.  What the callback does to the
node that owns the receiver is a parameter.
-/

namespace SslRosBridge.Core

/-! ## The network -/

structure Endpoint where
  address : String := "0.0.0.0"
  port : UInt16 := 0
  deriving DecidableEq, Repr

/-- A datagram as its sender put it on the wire. -/
structure Datagram where
  sender : Endpoint
  payload : List UInt8
  fits : payload.length ≤ 65507

/-- How an asynchronous receive completes. -/
inductive Completion where
  | datagram (datagram : Datagram)
  | error (message : String)

structure SystemError where
  code : Int
  what : String
  deriving DecidableEq, Repr

/-- What the constructor uses of Boost.Asio and of `GetIpAdresses`. -/
structure MulticastPlatform where
  Address : Type
  /-- `make_address` and `to_v4`. -/
  makeAddress : String → Except SystemError Address
  /-- Opens the socket, sets `reuse_address` and binds it. -/
  bind : Address → UInt16 → Except SystemError Unit
  /-- `make_address_v4` and the option `join_group`. -/
  joinGroup : Address → String → Except SystemError Unit
  /-- `GetIpAdresses(false)`. -/
  ipAddresses : List String

/-- The parameters that a bridge node declares for its receiver. -/
structure MulticastParameters where
  address : String
  port : Int64
  netInterfaceAddress : String := ""
  deriving DecidableEq, Repr

/-! ## The receiver -/

def receiveBufferSize : Nat := 4096

/-- The receive buffer, an array of `receiveBufferSize` bytes. -/
structure Buffer where
  bytes : List UInt8
  length_bytes : bytes.length = receiveBufferSize

/-- The buffer after a receive; bytes that do not fit are discarded. -/
def Buffer.fill (buffer : Buffer) (payload : List UInt8) : Buffer where
  bytes := payload.take receiveBufferSize ++ buffer.bytes.drop payload.length
  length_bytes := by
    have full := buffer.length_bytes
    simp only [List.length_append, List.length_take, List.length_drop]
    omega

/-- The arguments of the receive callback; the data has `data_length` bytes. -/
structure Call where
  senderAddress : String
  senderPort : UInt16
  data : List UInt8
  deriving DecidableEq, Repr

/-- The calls made so far are kept beside the members of the class. -/
structure MulticastReceiver (Owner : Type) where
  receiveCallback : Call → Owner → Owner
  owner : Owner
  buffer : Buffer
  senderEndpoint : Endpoint := {}
  outstanding : Nat := 0
  warnings : List String := []
  calls : List Call := []

namespace MulticastReceiver

variable {Owner : Type} (receiver : MulticastReceiver Owner)

def warningHandler (message : String) : MulticastReceiver Owner :=
  { receiver with warnings := receiver.warnings ++ [message] }

def asyncReceiveFrom : MulticastReceiver Owner :=
  { receiver with outstanding := receiver.outstanding + 1 }

/-- The datagram is put into the buffer and the receive is over. -/
def receiveDatagram (datagram : Datagram) : MulticastReceiver Owner :=
  { receiver with
    buffer := receiver.buffer.fill datagram.payload
    senderEndpoint := datagram.sender
    outstanding := receiver.outstanding - 1 }

def receiveError : MulticastReceiver Owner :=
  { receiver with outstanding := receiver.outstanding - 1 }

def call (bytesReceived : Nat) : Call where
  senderAddress := receiver.senderEndpoint.address
  senderPort := receiver.senderEndpoint.port
  data := receiver.buffer.bytes.take bytesReceived

def invokeCallback (bytesReceived : Nat) : MulticastReceiver Owner :=
  { receiver with
    owner := receiver.receiveCallback (receiver.call bytesReceived) receiver.owner
    calls := receiver.calls ++ [receiver.call bytesReceived] }

def handleMulticastReceiveFrom (error : Option String) (bytesReceived : Nat) :
    MulticastReceiver Owner :=
  match error with
  | some message => receiver.warningHandler ("Failure while receiving data: " ++ message)
  | none => (receiver.invokeCallback bytesReceived).asyncReceiveFrom

/-- A receive completes and its handler runs. -/
def complete : Completion → MulticastReceiver Owner
  | .datagram datagram =>
      (receiver.receiveDatagram datagram).handleMulticastReceiveFrom none
        (min datagram.payload.length receiveBufferSize)
  | .error message => receiver.receiveError.handleMulticastReceiveFrom (some message) 0

/-- What comes next on the socket completes a receive if one is outstanding. -/
def arrive (completion : Completion) : MulticastReceiver Owner :=
  if receiver.outstanding = 0 then receiver else receiver.complete completion

def run (arrivals : List Completion) : MulticastReceiver Owner :=
  arrivals.foldl arrive receiver

/-! ## The constructor -/

/-- `EADDRINUSE`. -/
def addressInUse : Int := 98

def joinWarning (address : String) (error : SystemError) : String :=
  "Failed to join multicast group on interface with address " ++ address ++ ": " ++ error.what

variable (platform : MulticastPlatform)

/-- The warning for an interface of the loop over all interfaces. -/
def joinAvailable (multicastAddress : platform.Address) (address : String) : Option String :=
  match platform.joinGroup multicastAddress address with
  | .ok _ => none
  | .error error => if error.code = addressInUse then none else some (joinWarning address error)

/-- The warning for the configured interface, where no error is ignored. -/
def joinConfigured (multicastAddress : platform.Address) (address : String) : Option String :=
  match platform.joinGroup multicastAddress address with
  | .ok _ => none
  | .error error => some (joinWarning address error)

/-- The constructor; the buffer is not initialised. -/
def construct (multicastAddressString : String) (multicastPort : UInt16)
    (receiveCallback : Call → Owner → Owner) (owner : Owner) (memory : Buffer)
    (interfaceAddress : String) : Except SystemError (MulticastReceiver Owner) := do
  let multicastAddress ← platform.makeAddress multicastAddressString
  platform.bind multicastAddress multicastPort
  let warnings :=
    if interfaceAddress.isEmpty then
      platform.ipAddresses.filterMap (joinAvailable platform multicastAddress)
    else (joinConfigured platform multicastAddress interfaceAddress).toList
  return asyncReceiveFrom { receiveCallback, owner, buffer := memory, warnings }

/-- A bridge node constructs its receiver; the port is narrowed. -/
def ofParameters (parameters : MulticastParameters) (receiveCallback : Call → Owner → Owner)
    (owner : Owner) (memory : Buffer) : Except SystemError (MulticastReceiver Owner) :=
  construct platform parameters.address parameters.port.toUInt64.toUInt16 receiveCallback owner
    memory parameters.netInterfaceAddress

end MulticastReceiver

/-! ## What a receive hands to the callback -/

namespace Buffer

theorem take_fill (buffer : Buffer) (payload : List UInt8) :
    (buffer.fill payload).bytes.take (min payload.length receiveBufferSize) =
      payload.take receiveBufferSize := by
  apply List.take_left'
  rw [List.length_take, Nat.min_comm]

end Buffer

/-- The call that a completion leads to when the datagram fits the buffer. -/
def Completion.call? : Completion → Option Call
  | .datagram packet => some ⟨packet.sender.address, packet.sender.port, packet.payload⟩
  | .error _ => none

/-- A datagram that fits the buffer. -/
def Completion.sound : Completion → Prop
  | .datagram packet => packet.payload.length ≤ receiveBufferSize
  | .error _ => False

namespace MulticastReceiver

variable {Owner : Type} (receiver : MulticastReceiver Owner)

@[simp] theorem asyncReceiveFrom_outstanding :
    receiver.asyncReceiveFrom.outstanding = receiver.outstanding + 1 := rfl

@[simp] theorem asyncReceiveFrom_calls : receiver.asyncReceiveFrom.calls = receiver.calls := rfl

@[simp] theorem asyncReceiveFrom_owner : receiver.asyncReceiveFrom.owner = receiver.owner := rfl

@[simp] theorem asyncReceiveFrom_receiveCallback :
    receiver.asyncReceiveFrom.receiveCallback = receiver.receiveCallback := rfl

@[simp] theorem invokeCallback_receiveCallback (bytesReceived : Nat) :
    (receiver.invokeCallback bytesReceived).receiveCallback = receiver.receiveCallback := rfl

@[simp] theorem invokeCallback_outstanding (bytesReceived : Nat) :
    (receiver.invokeCallback bytesReceived).outstanding = receiver.outstanding := rfl

@[simp] theorem invokeCallback_calls (bytesReceived : Nat) :
    (receiver.invokeCallback bytesReceived).calls =
      receiver.calls ++ [receiver.call bytesReceived] := rfl

@[simp] theorem invokeCallback_owner (bytesReceived : Nat) :
    (receiver.invokeCallback bytesReceived).owner =
      receiver.receiveCallback (receiver.call bytesReceived) receiver.owner := rfl

@[simp] theorem receiveDatagram_outstanding (datagram : Datagram) :
    (receiver.receiveDatagram datagram).outstanding = receiver.outstanding - 1 := rfl

@[simp] theorem receiveDatagram_owner (datagram : Datagram) :
    (receiver.receiveDatagram datagram).owner = receiver.owner := rfl

@[simp] theorem receiveDatagram_receiveCallback (datagram : Datagram) :
    (receiver.receiveDatagram datagram).receiveCallback = receiver.receiveCallback := rfl

@[simp] theorem receiveDatagram_calls (datagram : Datagram) :
    (receiver.receiveDatagram datagram).calls = receiver.calls := rfl

/-- The callback gets the datagram, cut to the size of the buffer. -/
theorem call_receiveDatagram (datagram : Datagram) :
    (receiver.receiveDatagram datagram).call (min datagram.payload.length receiveBufferSize) =
      ⟨datagram.sender.address, datagram.sender.port,
        datagram.payload.take receiveBufferSize⟩ := by
  simp only [call, receiveDatagram, Buffer.take_fill]

theorem complete_datagram (datagram : Datagram) (armed : receiver.outstanding = 1) :
    (receiver.complete (.datagram datagram)).outstanding = 1 ∧
      (receiver.complete (.datagram datagram)).calls = receiver.calls ++
        [⟨datagram.sender.address, datagram.sender.port,
          datagram.payload.take receiveBufferSize⟩] := by
  constructor
  · simp [complete, handleMulticastReceiveFrom, armed]
  · simp [complete, handleMulticastReceiveFrom, call_receiveDatagram]

theorem complete_error (message : String) (armed : receiver.outstanding = 1) :
    (receiver.complete (.error message)).outstanding = 0 := by
  simp [complete, handleMulticastReceiveFrom, warningHandler, receiveError, armed]

theorem run_append (before after : List Completion) :
    receiver.run (before ++ after) = (receiver.run before).run after :=
  List.foldl_append

/-- Datagrams keep a receive outstanding, whatever their size. -/
theorem run_datagrams (armed : receiver.outstanding = 1) (datagrams : List Datagram) :
    (receiver.run (datagrams.map .datagram)).outstanding = 1 ∧
      (receiver.run (datagrams.map .datagram)).receiveCallback = receiver.receiveCallback := by
  induction datagrams generalizing receiver with
  | nil => exact ⟨armed, rfl⟩
  | cons datagram rest ih =>
      have next : receiver.run ((datagram :: rest).map .datagram) =
          (receiver.complete (.datagram datagram)).run (rest.map .datagram) := by
        change (receiver.arrive (.datagram datagram)).run _ = _
        rw [arrive, if_neg (by omega)]
      obtain ⟨armed', callback⟩ := ih (receiver.complete (.datagram datagram))
        (complete_datagram receiver datagram armed).1
      rw [next]
      refine ⟨armed', callback.trans ?_⟩
      simp [complete, handleMulticastReceiveFrom]

/-- A receiver without an outstanding receive is dead. -/
theorem run_dead (dead : receiver.outstanding = 0) (arrivals : List Completion) :
    receiver.run arrivals = receiver := by
  induction arrivals with
  | nil => rfl
  | cons completion rest ih =>
      change (receiver.arrive completion).run rest = receiver
      rw [arrive, if_pos dead]
      exact ih

/-- One receive is outstanding, and the calls are those for the arrivals. -/
def Alive (start : MulticastReceiver Owner) (arrivals : List Completion) : Prop :=
  (start.run arrivals).outstanding = 1 ∧
    (start.run arrivals).calls = start.calls ++ arrivals.filterMap Completion.call?

/-- A sound completion keeps a receiver alive, any other one does not. -/
theorem alive_snoc_iff {start : MulticastReceiver Owner} {arrivals : List Completion}
    (alive : start.Alive arrivals) (completion : Completion) :
    start.Alive (arrivals ++ [completion]) ↔ completion.sound := by
  obtain ⟨armed, called⟩ := alive
  have last : start.run (arrivals ++ [completion]) =
      (start.run arrivals).complete completion := by
    rw [run_append]
    change (start.run arrivals).arrive completion = _
    rw [arrive, if_neg (by omega)]
  rw [Alive, last, List.filterMap_append, ← List.append_assoc, ← called]
  cases completion with
  | datagram datagram =>
      obtain ⟨armed', called'⟩ := complete_datagram (start.run arrivals) datagram armed
      rw [called']
      simp [armed', Completion.call?, Completion.sound]
  | error message =>
      simp [complete_error _ message armed, Completion.sound]

/-- A receiver is alive after every completion of a run exactly when each of
them is sound. -/
theorem alive_iff {start : MulticastReceiver Owner} (armed : start.outstanding = 1)
    (arrivals : List Completion) :
    (∀ before, before <+: arrivals → start.Alive before) ↔
      ∀ completion ∈ arrivals, completion.sound := by
  constructor
  · intro alive completion mem
    obtain ⟨before, after, rfl⟩ := List.append_of_mem mem
    have reached : start.Alive before := alive before (List.prefix_append _ _)
    apply (alive_snoc_iff reached completion).mp
    apply alive
    exact ⟨after, by simp⟩
  · intro sound before within
    have soundBefore : ∀ completion ∈ before, completion.sound :=
      fun completion mem => sound completion (within.subset mem)
    clear within
    -- induction from the right: the last completion is handled by a live receiver
    induction before using List.reverseRecOn with
    | nil => exact ⟨armed, by simp [run]⟩
    | append_singleton before completion ih =>
        have alive : start.Alive before := by
          apply ih
          intro earlier mem
          exact soundBefore earlier (by simp [mem])
        exact (alive_snoc_iff alive completion).mpr (soundBefore completion (by simp))

/-! ## Constructed receivers -/

section Constructed

variable {platform : MulticastPlatform} {multicastAddressString interfaceAddress : String}
  {multicastPort : UInt16} {receiveCallback : Call → Owner → Owner} {owner : Owner}
  {memory : Buffer} {start : MulticastReceiver Owner}

/-- A constructor that returns has parsed the address and starts a receive. -/
theorem construct_start
    (constructed : construct platform multicastAddressString multicastPort receiveCallback owner
      memory interfaceAddress = .ok start) :
    ∃ multicastAddress, platform.makeAddress multicastAddressString = .ok multicastAddress ∧
      start = asyncReceiveFrom { receiveCallback, owner, buffer := memory, warnings :=
        if interfaceAddress.isEmpty then
          platform.ipAddresses.filterMap (joinAvailable platform multicastAddress)
        else (joinConfigured platform multicastAddress interfaceAddress).toList } := by
  cases made : platform.makeAddress multicastAddressString with
  | error error => simp [construct, made, bind, Except.bind] at constructed
  | ok multicastAddress =>
      cases bound : platform.bind multicastAddress multicastPort with
      | error error => simp [construct, made, bound, bind, Except.bind] at constructed
      | ok =>
          simp only [construct, made, bound, bind, Except.bind, pure, Except.pure,
            Except.ok.injEq] at constructed
          exact ⟨multicastAddress, rfl, constructed.symm⟩

/-- A constructor that returns leaves one receive outstanding. -/
theorem construct_eq_ok
    (constructed : construct platform multicastAddressString multicastPort receiveCallback owner
      memory interfaceAddress = .ok start) :
    start.receiveCallback = receiveCallback ∧ start.owner = owner ∧ start.outstanding = 1 ∧
      start.calls = [] := by
  obtain ⟨_, -, rfl⟩ := construct_start constructed
  exact ⟨rfl, rfl, rfl, rfl⟩

/--
A constructed receiver stays alive through a run, with one receive outstanding
and one call for each datagram so far, exactly when every completion of the run
is a datagram that fits the buffer.
-/
theorem stays_alive_iff
    (constructed : construct platform multicastAddressString multicastPort receiveCallback owner
      memory interfaceAddress = .ok start) (arrivals : List Completion) :
    (∀ before, before <+: arrivals → (start.run before).outstanding = 1 ∧
        (start.run before).calls = before.filterMap Completion.call?) ↔
      ∀ completion ∈ arrivals, completion.sound := by
  obtain ⟨-, -, armed, none⟩ := construct_eq_ok constructed
  rw [← alive_iff armed]
  simp only [Alive, none, List.nil_append]

end Constructed

end MulticastReceiver

/-! ## A receiver that dies -/

/-- A host with one interface. -/
def loopback : MulticastPlatform where
  Address := String
  makeAddress address := .ok address
  bind _ _ := .ok ()
  joinGroup _ _ := .ok ()
  ipAddresses := ["127.0.0.1"]

def zeroMemory : Buffer where
  bytes := List.replicate receiveBufferSize 0
  length_bytes := List.length_replicate

/-- A receiver that is owned by nothing. -/
def MulticastReceiver.idle : MulticastReceiver Unit :=
  asyncReceiveFrom { receiveCallback := fun _ _ => (), owner := (), buffer := zeroMemory }

def Datagram.short : Datagram where
  sender := { address := "192.168.1.5", port := 10006 }
  payload := [18, 0]
  fits := by decide

namespace MulticastReceiver

theorem construct_idle :
    construct loopback "224.5.23.2" 10020 (fun _ _ => ()) () zeroMemory "127.0.0.1" = .ok idle :=
  rfl

theorem stays_alive_iff_short :
    (idle.run [.datagram .short]).outstanding = 1 ∧
      (idle.run [.datagram .short]).calls =
        [Completion.datagram .short].filterMap Completion.call? :=
  (stays_alive_iff construct_idle [.datagram .short]).mpr
    (List.forall_mem_singleton.mpr (show Datagram.short.payload.length ≤ _ by decide)) _
    (List.prefix_refl _)

/-- After a transient error no receive is outstanding and the next datagram is
not delivered. -/
theorem dead_after_error :
    (idle.run [.error "Connection refused"]).outstanding = 0 ∧
      (idle.run [.error "Connection refused", .datagram .short]).calls = [] := by
  have armed : idle.outstanding = 1 := rfl
  have failed : idle.run [.error "Connection refused"] =
      idle.complete (.error "Connection refused") := by
    change idle.arrive (.error "Connection refused") = _
    rw [arrive, if_neg (by omega)]
  have dead : (idle.run [.error "Connection refused"]).outstanding = 0 := by
    rw [failed]
    exact complete_error idle _ armed
  have deaf : idle.run [.error "Connection refused", .datagram .short] =
      idle.run [.error "Connection refused"] :=
    (run_append idle [.error "Connection refused"] [.datagram .short]).trans (run_dead _ dead _)
  refine ⟨dead, ?_⟩
  rw [deaf, failed]
  rfl

end MulticastReceiver

end SslRosBridge.Core
