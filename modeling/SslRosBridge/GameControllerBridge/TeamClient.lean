import SslRosBridge.Library.Computation
import SslRosBridge.GameControllerBridge.Platform

/-!
# The team client

`TeamClient` of `team_client.hpp` and `team_client.cpp`.  An exception of
Boost.Asio leaves the client in the state it has reached.  The receive buffer
is not part of the state: every read overwrites it, and only the bytes of that
read are parsed.  `history` is a record of the calls and of the socket steps;
no operation reads it.
-/

namespace SslRosBridge.GameControllerBridge

open Library

/-- Unnamed values stand for the bits of a variable that was never assigned. -/
inductive TeamColor where
  | auto
  | blue
  | yellow
  | unnamed (value : Int32)
  deriving DecidableEq, Repr

inductive AdvantageChoiceOption where
  | stop
  | continue
  | unnamed (value : Int32)
  deriving DecidableEq, Repr

structure ConnectionParameters where
  address : Address
  port : UInt16
  teamName : String
  teamColor : TeamColor
  deriving DecidableEq, Repr

structure Result where
  accepted : Bool
  reason : String := ""
  deriving DecidableEq, Repr

structure PingResult where
  requestResult : Result
  ping : Nat
  deriving DecidableEq, Repr

inductive Event where
  | connectCalled (parameters : ConnectionParameters)
  | disconnectCalled
  | closed (error : Option ErrorCode)
  | tcpConnected (error : Option ErrorCode)
  | wrote (bytes : List UInt8) (error : Option ErrorCode)
  | received (reply : Option ControllerToTeam)
  deriving DecidableEq, Repr

structure TeamClient (World : Type) where
  connected : Bool := false
  nextToken : String := ""
  isOpen : Bool := false
  world : World
  history : List Event := []

abbrev Action (World Value : Type) := Computation (TeamClient World) ErrorCode Value

namespace TeamClient

variable {World : Type}

def record (client : TeamClient World) (event : Event) : TeamClient World :=
  { client with history := client.history ++ [event] }

def setConnected (value : Bool) : Action World Unit :=
  Computation.step fun client => ((), { client with connected := value })

def called (event : Event) : Action World Unit :=
  Computation.step fun client => ((), client.record event)

def isOpenSocket : Action World Bool := Computation.step fun client => (client.isOpen, client)

/-- `next_token_` is overwritten when the reply has a token. -/
def storeToken (reply : ControllerReply) : Action World Unit :=
  Computation.step fun client =>
    match reply.nextToken with
    | none => ((), client)
    | some token => ((), { client with nextToken := token })

end TeamClient

/-- A status code is set and it is not `OK`. -/
def ControllerReply.badStatus (reply : ControllerReply) : Bool :=
  match reply.statusCode with
  | none => false
  | some code => code ≠ .ok

/-- What `SendRequest` makes of the reply. -/
def Result.ofReply (reply : ControllerReply) : Result where
  accepted := reply.statusCode = some .ok
  reason := reply.reason.getD ""

def clientError : Result := ⟨false, "Client error."⟩

section Operations

variable {World : Type} (platform : Platform World)

/-! ## Socket steps -/

/-- `socket_.close()`: the socket is closed even when it throws. -/
def close : Action World Unit :=
  Computation.attempt fun client =>
    match if client.isOpen then platform.close client.world else (none, client.world) with
    | (error, world) =>
      let client := { client.record (.closed error) with isOpen := false, world := world }
      match error with
      | none => (.ok (), client)
      | some error => (.error error, client)

def closeIfOpen : Action World Unit := do
  match ← TeamClient.isOpenSocket with
  | true => close platform
  | false => pure ()

/-- `socket_.connect(endpoint, error_code)`, which opens a closed socket first. -/
def connectSocket (endpoint : Endpoint) : Action World (Option ErrorCode) :=
  Computation.step fun client =>
    match if client.isOpen then (none, client.world) else platform.openSocket client.world with
    | (some error, world) =>
        (some error, { client.record (.tcpConnected (some error)) with world := world })
    | (none, world) =>
        match platform.connect endpoint world with
        | (error, world) =>
            (error, { client.record (.tcpConnected error) with isOpen := true, world := world })

/-- `boost::asio::write` with `transfer_all`, which throws. -/
def write (bytes : List UInt8) : Action World Unit :=
  Computation.attempt fun client =>
    match if client.isOpen then platform.write bytes client.world
        else (some .badDescriptor, client.world) with
    | (error, world) =>
      let client := { client.record (.wrote bytes error) with world := world }
      match error with
      | none => (.ok (), client)
      | some error => (.error error, client)

/-! ## Waiting for a reply -/

def bufferSize : Nat := 1024

inductive Received where
  | timedOut
  | failed (error : ErrorCode)
  | bytes (data : List UInt8)
  deriving DecidableEq, Repr

/-- An end of file is not an error here. -/
def fatal (error : Option ErrorCode) : Option ErrorCode := error.filter (· ≠ .eof)

def availableBytes (isOpen : Bool) (world : World) : (Nat × Option ErrorCode) × World :=
  if isOpen then platform.available world else ((0, some .badDescriptor), world)

/-- One read of at least the available bytes, as far as the buffer holds them. -/
def readAvailable (bytesAvailable : Nat) (world : World) : Received × World :=
  match platform.read bufferSize bytesAvailable world with
  | ((data, error), world) =>
    match fatal error with
    | some error => (.failed error, world)
    | none => (.bytes data, world)

/--
The loop of `WaitForReply`.  Each round that does not leave the loop sleeps, so
the time left until the deadline bounds the number of rounds.
-/
def poll (isOpen : Bool) (deadline : Nat) : Nat → World → Received × World
  | 0, world => (.timedOut, world)
  | rounds + 1, world =>
      if deadline ≤ platform.now world then (.timedOut, world)
      else
        match availableBytes platform isOpen world with
        | ((bytesAvailable, error), world) =>
          match fatal error with
          | some error => (.failed error, world)
          | none =>
            if bytesAvailable = 0 then poll isOpen deadline rounds (platform.sleep world)
            else readAvailable platform bytesAvailable world

/-- All rounds of one call, with a deadline one second ahead. -/
def receive (isOpen : Bool) (world : World) : Received × World :=
  poll platform isOpen (platform.now world + platform.second) (platform.second + 1) world

def replyOf : Received → Option ControllerToTeam
  | .bytes data => platform.parseDelimited data
  | _ => none

/-- `WaitForReply`; `none` is the result `false`. -/
def waitForReply : Action World (Option ControllerToTeam) :=
  Computation.step fun client =>
    match receive platform client.isOpen client.world with
    | (received, world) =>
        let reply := replyOf platform received
        (reply, { client.record (.received reply) with world := world })

/-! ## Connecting -/

def attemptToConnectSocket (address : Address) (port : UInt16) : Action World Bool := do
  closeIfOpen platform
  match ← connectSocket platform ⟨address, port⟩ with
  | some _ => pure false
  | none =>
    match ← waitForReply platform with
    | none => pure false
    | some message =>
      match message.controllerReply with
      | none => pure false
      | some reply =>
        match reply.badStatus with
        | true => do
            close platform
            pure false
        | false => do
            TeamClient.storeToken reply
            pure true

/-- `set_team` is called for two of the colours. -/
def registration (teamName : String) (teamColor : TeamColor) : TeamRegistration where
  teamName := teamName
  team :=
    match teamColor with
    | .blue => some .blue
    | .yellow => some .yellow
    | _ => none

/-- `SerializeDelimitedToOstream` of the registration. -/
def registrationBytes (teamName : String) (teamColor : TeamColor) : List UInt8 :=
  delimited (platform.serializeRegistration (registration teamName teamColor))

def attemptToRegister (teamName : String) (teamColor : TeamColor) : Action World Bool := do
  write platform (registrationBytes platform teamName teamColor)
  match ← waitForReply platform with
  | none => pure false
  | some message =>
    match message.controllerReply with
    | none => pure false
    | some reply =>
      match reply.badStatus with
      | true => pure false
      | false => pure true

def connect (parameters : ConnectionParameters) : Action World Bool := do
  TeamClient.called (.connectCalled parameters)
  TeamClient.setConnected false
  match ← attemptToConnectSocket platform parameters.address parameters.port with
  | false => pure false
  | true =>
    match ← attemptToRegister platform parameters.teamName parameters.teamColor with
    | false => do
        close platform
        pure false
    | true => do
        TeamClient.setConnected true
        pure true

def disconnect : Action World Unit := do
  TeamClient.called .disconnectCalled
  TeamClient.setConnected false
  close platform

/-! ## Requests -/

/-- `SerializeDelimitedToOstream` of a request. -/
def requestBytes (request : TeamToController) : List UInt8 :=
  delimited (platform.serializeToController request)

def sendRequest (request : TeamToController) : Action World Result := do
  write platform (requestBytes platform request)
  match ← waitForReply platform with
  | none => pure clientError
  | some message =>
    match message.controllerReply with
    | none => pure clientError
    | some reply => do
        TeamClient.storeToken reply
        pure (.ofReply reply)

def setDesiredKeeper (keeperId : Int32) : Action World Result :=
  sendRequest platform { msg := some (.desiredKeeper keeperId) }

def requestBotSubstitution : Action World Result :=
  sendRequest platform { msg := some (.substituteBot true) }

/-- The message of `SetAdvantageChoice`; the switch has no default. -/
def advantageChoiceRequest : AdvantageChoiceOption → TeamToController
  | .stop => { msg := some (.advantageChoice .stop) }
  | .continue => { msg := some (.advantageChoice .continue) }
  | .unnamed _ => {}

def setAdvantageChoice (choice : AdvantageChoiceOption) : Action World Result :=
  sendRequest platform (advantageChoiceRequest choice)

/-- The steady clock. -/
def steadyNow : Action World Nat :=
  Computation.step fun client => (platform.now client.world, client)

def ping : Action World PingResult := do
  let sendTime ← steadyNow platform
  let requestResult ← sendRequest platform { msg := some (.ping true) }
  let replyTime ← steadyNow platform
  pure ⟨requestResult, replyTime - sendTime⟩

/-! ## Runs -/

inductive Operation where
  | connect (parameters : ConnectionParameters)
  | disconnect
  | setDesiredKeeper (keeperId : Int32)
  | requestBotSubstitution
  | setAdvantageChoice (choice : AdvantageChoiceOption)
  | ping
  deriving DecidableEq, Repr

/-- What an operation returns. -/
inductive Reported where
  | connected (success : Bool)
  | disconnected
  | result (result : Result)
  | pinged (result : PingResult)
  deriving DecidableEq, Repr

def perform : Operation → Action World Reported
  | .connect parameters => do
      let success ← connect platform parameters
      pure (.connected success)
  | .disconnect => do
      disconnect platform
      pure .disconnected
  | .setDesiredKeeper keeperId => do
      let result ← setDesiredKeeper platform keeperId
      pure (.result result)
  | .requestBotSubstitution => do
      let result ← requestBotSubstitution platform
      pure (.result result)
  | .setAdvantageChoice choice => do
      let result ← setAdvantageChoice platform choice
      pure (.result result)
  | .ping => do
      let result ← ping platform
      pure (.pinged result)

/-- The client as the constructor makes it. -/
def TeamClient.initial (world : World) : TeamClient World := { world := world }

/-- A run of operations with what each of them returned or threw.  Between two
operations the world moves on by itself. -/
inductive Run : TeamClient World → List (Except ErrorCode Reported) → TeamClient World → Prop where
  | stop (client : TeamClient World) : Run client [] client
  | wait {client last : TeamClient World} {results : List (Except ErrorCode Reported)}
      (world : World) (later : Run { client with world := world } results last) :
      Run client results last
  | perform {client last : TeamClient World} {results : List (Except ErrorCode Reported)}
      (operation : Operation)
      (later : Run ((perform platform operation).result client).2 results last) :
      Run client (((perform platform operation).result client).1 :: results) last

end Operations

end SslRosBridge.GameControllerBridge
