import SslRosBridge.Library.Delimited
import SslRosBridge.MessageConversion.Proto

/-!
# What the team client calls

The messages of `ssl_gc_rcon_team.proto` and `ssl_gc_rcon.proto`, and the
operations outside the repository: the protobuf codec, the socket operations
of Boost.Asio and the steady clock.  The world behind them, the peer and the
operating system included, is an arbitrary state.
-/

namespace SslRosBridge.GameControllerBridge

open Library

open MessageConversion.Proto (Team)

/-! ## Messages -/

inductive StatusCode where
  | unknownStatusCode
  | ok
  | rejected
  deriving DecidableEq, Repr

inductive Verification where
  | unknownVerification
  | verified
  | unverified
  deriving DecidableEq, Repr

structure ControllerReply where
  statusCode : Option StatusCode := none
  reason : Option String := none
  nextToken : Option String := none
  verification : Option Verification := none
  deriving DecidableEq, Repr

/-- The oneof has a single member. -/
structure ControllerToTeam where
  controllerReply : Option ControllerReply := none
  deriving DecidableEq, Repr

inductive AdvantageChoice where
  | stop
  | continue
  deriving DecidableEq, Repr

/-- The oneof `msg`. -/
inductive TeamToController.Msg where
  | desiredKeeper (id : Int32)
  | advantageChoice (choice : AdvantageChoice)
  | substituteBot (value : Bool)
  | ping (value : Bool)
  deriving DecidableEq, Repr

structure TeamToController where
  msg : Option TeamToController.Msg := none
  deriving DecidableEq, Repr

structure TeamRegistration where
  teamName : String
  team : Option Team := none
  deriving DecidableEq, Repr

/-! ## Sockets -/

inductive ErrorCode where
  | eof
  | badDescriptor
  | invalidArgument
  | other (value : Nat)
  deriving DecidableEq, Repr

/-- An IP address as its four or sixteen bytes. -/
structure Address where
  bytes : List UInt8
  deriving DecidableEq, Repr

structure Endpoint where
  address : Address
  port : UInt16
  deriving DecidableEq, Repr

/--
The operations are those of an open socket, except `openSocket`.  Times are in
ticks of the steady clock, of which a second has `second`.  Its laws are that it
never runs backwards while the socket is polled, and that a sleep takes time.
-/
structure Platform (World : Type) where
  serializeRegistration : TeamRegistration → List UInt8
  serializeToController : TeamToController → List UInt8
  parseToTeam : List UInt8 → Option ControllerToTeam
  second : Nat
  now : World → Nat
  sleep : World → World
  openSocket : World → Option ErrorCode × World
  connect : Endpoint → World → Option ErrorCode × World
  close : World → Option ErrorCode × World
  write : List UInt8 → World → Option ErrorCode × World
  available : World → (Nat × Option ErrorCode) × World
  read : (capacity atLeast : Nat) → World → (List UInt8 × Option ErrorCode) × World
  now_available : ∀ world, now world ≤ now (available world).2
  now_sleep : ∀ world, now world < now (sleep world)

/-- `ParseDelimitedFromZeroCopyStream`: the first frame is parsed. -/
def Platform.parseDelimited {World : Type} (platform : Platform World) (bytes : List UInt8) :
    Option ControllerToTeam :=
  (firstFrame bytes).bind platform.parseToTeam

end SslRosBridge.GameControllerBridge
