import SslRosBridge.Library.Execution
import SslRosBridge.GameControllerBridge.Steps

/-!
# What a failed `Connect` leaves behind

Some exits of the handshake close the socket themselves, one relies on its
caller, and some do neither.  Where the network lets the handshake stop decides
between them.
-/

namespace SslRosBridge.GameControllerBridge

open Library Library.Computation

/-- Where `AttemptToConnectSocket` stops. -/
inductive Dialled (World : Type) where
  | closed
  | leftOpen
  | greeted (world : World)

section FailedConnect

variable {World : Type} (platform : Platform World)

/-- What closing the previous connection does, if there is one. -/
def closing (client : TeamClient World) : Option ErrorCode × World :=
  if client.isOpen then platform.close client.world else (none, client.world)

/-- On a connected socket the greeting decides.  A missing one leaves the socket
open, one with a bad status does not. -/
def greet (world : World) : Dialled World :=
  match receive platform true world with
  | (received, world) =>
    match (replyOf platform received).bind (·.controllerReply) with
    | none => .leftOpen
    | some reply => if reply.badStatus then .closed else .greeted world

/-- How far the network lets the attempt come; asio leaves a refused socket open. -/
def dial (client : TeamClient World) (endpoint : Endpoint) : Dialled World :=
  match closing platform client with
  | (some _, _) => .closed
  | (none, world) =>
    match platform.openSocket world with
    | (some _, _) => .closed
    | (none, world) =>
      match platform.connect endpoint world with
      | (some _, _) => .leftOpen
      | (none, world) => greet platform world

/-- The attempt stops where the socket stays open: the connection is refused, no
greeting with a `ControllerReply` comes, or the registration cannot be written. -/
def leavesOpen (client : TeamClient World) (parameters : ConnectionParameters) : Bool :=
  match dial platform client ⟨parameters.address, parameters.port⟩ with
  | .closed => false
  | .leftOpen => true
  | .greeted world =>
      (platform.write (registrationBytes platform parameters.teamName parameters.teamColor)
        world).1.isSome

/-- Unless it succeeds, `Connect` leaves no connection and a closed socket. -/
def FailsClosed (client : TeamClient World) (parameters : ConnectionParameters) : Prop :=
  ∀ outcome next, (connect platform parameters).result client = (outcome, next) →
    outcome ≠ .ok true → next.connected = false ∧ next.isOpen = false

/-! ## Socket steps and the world -/

/-- The socket and the world behind it. -/
structure TeamClient.At (client : TeamClient World) (isOpen : Bool) (world : World) : Prop where
  isOpen : client.isOpen = isOpen
  world : client.world = world

variable {thrown : ErrorCode → TeamClient World → Prop} (isOpen : Bool) (world : World)

theorem close_at :
    Triple (fun client => client.At isOpen world) (close platform)
      (fun _ client => client.isOpen = false ∧
        (if isOpen then platform.close world else (none, world)) = (none, client.world))
      (fun error client => client.isOpen = false ∧
        (if isOpen then platform.close world else (none, world)) = (some error, client.world)) := by
  apply Triple.attempt
  rintro client ⟨rfl, rfl⟩
  generalize (if client.isOpen then platform.close client.world
    else (none, client.world)) = outcome
  obtain ⟨_ | error, world⟩ := outcome
  · exact ⟨rfl, rfl⟩
  · exact ⟨rfl, rfl⟩

theorem close_isOpen :
    Triple (fun _ => True) (close platform) (fun _ client => client.isOpen = false)
      (fun _ client => client.isOpen = false) := by
  intro client _
  exact (close_at platform client.isOpen client.world client ⟨rfl, rfl⟩).imp
    (fun _ _ closed => closed.1) fun _ _ closed => closed.1

theorem closeIfOpen_at (before : TeamClient World) :
    Triple (fun client => client.At before.isOpen before.world) (closeIfOpen platform)
      (fun _ client => client.isOpen = false ∧ closing platform before = (none, client.world))
      (fun error client => client.isOpen = false ∧
        closing platform before = (some error, client.world)) := by
  refine Triple.bind (fun value client =>
    client.At before.isOpen before.world ∧ value = before.isOpen)
    (Triple.step fun client there => ⟨there, there.isOpen⟩) ?_
  intro value
  apply Triple.of_fact
  intro same
  subst same
  unfold closing
  cases wasOpen : before.isOpen with
  | false => exact Triple.pure fun client there => ⟨there.isOpen, by rw [there.world]; rfl⟩
  | true => exact close_at platform true before.world

theorem waitForReply_at :
    Triple (fun client => client.At true world) (waitForReply platform)
      (fun reply client => client.At true (receive platform true world).2 ∧
        reply = replyOf platform (receive platform true world).1) thrown := by
  apply Triple.step
  intro client there
  rw [there.isOpen, there.world]
  exact ⟨⟨there.isOpen, rfl⟩, rfl⟩

theorem storeToken_at (reply : ControllerReply) :
    Triple (fun client => client.At isOpen world)
      (TeamClient.storeToken reply : Action World Unit)
      (fun _ client => client.At isOpen world) thrown := by
  apply Triple.step
  intro client there
  cases reply.nextToken with
  | none => exact there
  | some token => exact ⟨there.isOpen, there.world⟩

theorem write_at (bytes : List UInt8) :
    Triple (fun client => client.At true world) (write platform bytes)
      (fun _ client => client.isOpen = true ∧ (platform.write bytes world).1 = none)
      (fun error client => client.isOpen = true ∧
        (platform.write bytes world).1 = some error) := by
  apply Triple.attempt
  intro client there
  rw [there.isOpen, there.world, if_pos rfl]
  generalize platform.write bytes world = outcome
  obtain ⟨_ | error, world⟩ := outcome
  · exact ⟨there.isOpen, rfl⟩
  · exact ⟨there.isOpen, rfl⟩

/-! ## The handshake -/

/-- The attempt has stopped there with this result. -/
def Dialled.Left (success : Bool) (client : TeamClient World) : Dialled World → Prop
  | .closed => success = false ∧ client.isOpen = false
  | .leftOpen => success = false ∧ client.isOpen = true
  | .greeted world => success = true ∧ client.At true world

/-- The part of `AttemptToConnectSocket` behind the connection. -/
def awaitGreeting : Action World Bool := do
  match ← waitForReply platform with
  | none => pure false
  | some message =>
    match message.controllerReply with
    | none => pure false
    | some reply =>
      match reply.badStatus with
      | true => do
          close platform
          pure false
      | false => do
          TeamClient.storeToken reply
          pure true

theorem awaitGreeting_left :
    Triple (fun client => client.At true world) (awaitGreeting platform)
      (fun success client => (greet platform world).Left success client)
      (fun _ client => (greet platform world).Left false client) := by
  refine Triple.bind _ (waitForReply_at platform world) ?_
  intro reply
  apply Triple.of_fact
  intro same
  unfold greet
  generalize receive platform true world = outcome at same ⊢
  obtain ⟨received, later⟩ := outcome
  simp only [← same]
  cases reply with
  | none => exact Triple.pure fun client there => ⟨rfl, there.isOpen⟩
  | some message =>
      cases body : message.controllerReply with
      | none =>
          simp only [body, Option.bind_some]
          exact Triple.pure fun client there => ⟨rfl, there.isOpen⟩
      | some reply =>
          cases bad : reply.badStatus with
          | true =>
              simp only [body, bad, Option.bind_some, if_true]
              refine Triple.bind _ ((close_isOpen platform).weaken (fun _ _ => trivial)
                (fun _ _ => id) fun _ _ closed => ⟨rfl, closed⟩) fun _ => ?_
              exact Triple.pure fun client closed => ⟨rfl, closed⟩
          | false =>
              simp only [body, bad, Option.bind_some, Bool.false_eq_true, if_false]
              refine Triple.bind _ (storeToken_at true later reply) fun _ => ?_
              exact Triple.pure fun client there => ⟨rfl, there⟩

theorem attemptToConnectSocket_eq (address : Address) (port : UInt16) :
    attemptToConnectSocket platform address port = (do
      closeIfOpen platform
      let error ← connectSocket platform ⟨address, port⟩
      if error.isSome then pure false else awaitGreeting platform) := by
  unfold attemptToConnectSocket awaitGreeting
  refine congrArg _ (funext fun _ => congrArg _ (funext fun error => ?_))
  cases error <;> rfl

/-- A closed socket is opened and connected. -/
theorem connectSocket_at (endpoint : Endpoint) :
    Triple (fun client => client.At false world) (connectSocket platform endpoint)
      (fun error client =>
        (∃ reason later, platform.openSocket world = (some reason, later) ∧
          error = some reason ∧ client.isOpen = false) ∨
        ∃ opened, platform.openSocket world = (none, opened) ∧
          error = (platform.connect endpoint opened).1 ∧
          client.At true (platform.connect endpoint opened).2) thrown := by
  apply Triple.step
  intro client there
  rw [there.isOpen, there.world, if_neg Bool.false_ne_true]
  generalize platform.openSocket world = opening
  obtain ⟨_ | reason, opened⟩ := opening
  · exact Or.inr ⟨opened, rfl, rfl, rfl, rfl⟩
  · exact Or.inl ⟨reason, opened, rfl, rfl, there.isOpen⟩

theorem attemptToConnectSocket_left (before : TeamClient World) (address : Address)
    (port : UInt16) :
    Triple (fun client => client.At before.isOpen before.world)
      (attemptToConnectSocket platform address port)
      (fun success client => (dial platform before ⟨address, port⟩).Left success client)
      (fun _ client => (dial platform before ⟨address, port⟩).Left false client) := by
  rw [attemptToConnectSocket_eq]
  unfold dial
  refine Triple.bind (fun _ client => client.isOpen = false ∧
    closing platform before = (none, client.world)) ((closeIfOpen_at platform before).weaken
      (fun _ => id) (fun _ _ => id) ?_) fun _ client ⟨isClosed, closed⟩ => ?_
  · rintro error client ⟨isClosed, failed⟩
    rw [failed]
    exact ⟨rfl, isClosed⟩
  · simp only [closed]
    refine Triple.bind _ (connectSocket_at platform client.world ⟨address, port⟩) ?_ client
      ⟨isClosed, rfl⟩
    rintro error next (⟨reason, later, failed, rfl, closed⟩ | ⟨opened, opening, rfl, there⟩)
    · rw [failed]
      exact ⟨rfl, closed⟩
    · simp only [opening]
      generalize platform.connect ⟨address, port⟩ opened = connecting at there ⊢
      obtain ⟨_ | reason, connected⟩ := connecting
      · exact awaitGreeting_left platform connected next there
      · exact ⟨rfl, there.isOpen⟩

/-- The registration throws only out of its write, over an open socket. -/
theorem attemptToRegister_at (teamName : String) (teamColor : TeamColor) :
    Triple (fun client => client.At true world) (attemptToRegister platform teamName teamColor)
      (fun _ _ => (platform.write (registrationBytes platform teamName teamColor) world).1 = none)
      (fun error client => client.isOpen = true ∧
        (platform.write (registrationBytes platform teamName teamColor) world).1 =
          some error) := by
  refine Triple.bind _ (write_at platform world _) fun _ => ?_
  apply Triple.of_fact
  intro written
  refine Triple.bind (fun _ _ => True) (Triple.step fun _ _ => trivial) ?_
  intro reply
  cases reply with
  | none => exact Triple.pure fun _ _ => written
  | some message =>
      cases body : message.controllerReply with
      | none =>
          simp only [body]
          exact Triple.pure fun _ _ => written
      | some reply =>
          cases bad : reply.badStatus with
          | true =>
              simp only [body, bad]
              exact Triple.pure fun _ _ => written
          | false =>
              simp only [body, bad]
              exact Triple.pure fun _ _ => written

/-- The socket stays open without a connection exactly where the attempt leaves it so. -/
theorem connect_isOpen (before : TeamClient World) (parameters : ConnectionParameters) :
    Ends (fun success client =>
        leavesOpen platform before parameters = (client.isOpen && !success))
      (fun _ client => leavesOpen platform before parameters = client.isOpen)
      ((connect platform parameters).result before) := by
  refine Triple.bind (fun _ client => client.At before.isOpen before.world)
    (Triple.step fun client there => there) (fun _ => ?_) before ⟨rfl, rfl⟩
  refine Triple.bind (fun _ client => client.At before.isOpen before.world)
    (Triple.step fun client there => ⟨there.isOpen, there.world⟩) fun _ => ?_
  have attempt := attemptToConnectSocket_left platform before parameters.address parameters.port
  unfold leavesOpen
  generalize dial platform before ⟨parameters.address, parameters.port⟩ = dialled at attempt ⊢
  cases dialled with
  | closed =>
      refine Triple.bind _ (attempt.weaken (fun _ => id) (fun _ _ => id)
        fun error client left => left.2.symm) ?_
      rintro success client ⟨rfl, isClosed⟩
      change false = (client.isOpen && true)
      rw [isClosed, Bool.false_and]
  | leftOpen =>
      refine Triple.bind _ (attempt.weaken (fun _ => id) (fun _ _ => id)
        fun error client left => left.2.symm) ?_
      rintro success client ⟨rfl, isOpen⟩
      change true = (client.isOpen && true)
      rw [isOpen, Bool.and_true]
  | greeted world =>
      dsimp only
      refine Triple.bind _ (attempt.weaken (fun _ => id) (fun _ _ => id)
        fun error client left => absurd left.1 nofun) ?_
      rintro success client ⟨rfl, there⟩
      have registers := attemptToRegister_at platform world parameters.teamName
        parameters.teamColor
      refine Triple.bind _ (registers.weaken (fun _ => id) (fun _ _ => id) ?_) ?_ client there
      · rintro error next ⟨isOpen, failed⟩
        rw [isOpen, failed]
        rfl
      rintro success next written
      rw [written]
      cases success with
      | true =>
          change false = (next.isOpen && false)
          rw [Bool.and_false]
      | false =>
          refine Triple.bind (fun _ client => client.isOpen = false)
            ((close_isOpen platform).weaken (fun _ => id) (fun _ _ => id)
              fun _ _ isClosed => isClosed.symm) (fun _ => Triple.pure ?_) next trivial
          intro client isClosed
          rw [isClosed]
          rfl

/-- Whatever the state and the parameters. -/
theorem failsClosed_iff (client : TeamClient World) (parameters : ConnectionParameters) :
    FailsClosed platform client parameters ↔ leavesOpen platform client parameters = false := by
  have returns := connect_returns platform parameters client trivial
  have leaves := connect_isOpen platform client parameters
  unfold FailsClosed
  generalize (connect platform parameters).result client = result at returns leaves ⊢
  obtain ⟨error | success, last⟩ := result
  · rw [show leavesOpen platform client parameters = last.isOpen from leaves]
    constructor
    · exact fun closes => (closes _ _ rfl nofun).2
    · rintro isClosed outcome next ⟨⟩ -
      exact ⟨returns, isClosed⟩
  · rw [show leavesOpen platform client parameters = (last.isOpen && !success) from leaves]
    have connected : last.connected = success := returns
    cases success with
    | true =>
        refine iff_of_true ?_ (Bool.and_false _)
        rintro outcome next ⟨⟩ failed
        exact absurd rfl failed
    | false =>
        rw [Bool.not_false, Bool.and_true]
        constructor
        · exact fun closes => (closes _ _ rfl nofun).2
        · rintro isClosed outcome next ⟨⟩ -
          exact ⟨connected, isClosed⟩

/-! ## Runs -/

inductive ClientEvent (World : Type) where
  | networkMoves (world : World)
  | performs (operation : Operation)

/-- The client after an event, whether its operation returns or throws. -/
def TeamClient.after (client : TeamClient World) : ClientEvent World → TeamClient World
  | .networkMoves world => { client with world := world }
  | .performs operation => ((perform platform operation).result client).2

inductive ClientStep : TeamClient World → ClientEvent World → TeamClient World → Prop where
  | happens (client : TeamClient World) (event : ClientEvent World) :
      ClientStep client event (client.after platform event)

/-- The socket is open exactly while the client is connected. -/
def TeamClient.Settled (client : TeamClient World) : Prop := client.isOpen = client.connected

/-- A `Connect` is called where its attempt does not leave the socket open. -/
def ClosingStep (client : TeamClient World) (event : ClientEvent World) : Prop :=
  ∀ parameters, event = .performs (.connect parameters) →
    leavesOpen platform client parameters = false

theorem settled_connect {client : TeamClient World} {parameters : ConnectionParameters}
    (closes : leavesOpen platform client parameters = false) :
    ((connect platform parameters).result client).2.Settled := by
  have returns := connect_spec platform client.connected client.isOpen client.history parameters
    client ⟨rfl, rfl, rfl⟩
  have leaves := connect_isOpen platform client parameters
  rw [closes] at leaves
  generalize (connect platform parameters).result client = result at returns leaves ⊢
  obtain ⟨error | success, last⟩ := result
  · obtain ⟨nowOpen, events, shows, -⟩ := returns
    exact (leaves : false = last.isOpen).symm.trans shows.connected.symm
  · obtain ⟨nowOpen, events, shows, -, succeeds⟩ := returns
    have isOpen : false = (last.isOpen && !success) := leaves
    unfold TeamClient.Settled
    rw [shows.connected]
    cases success with
    | true => exact shows.isOpen.trans (succeeds rfl).1
    | false => rwa [Bool.not_false, Bool.and_true, eq_comm] at isOpen

theorem settled_disconnect : Keeps TeamClient.Settled (disconnect platform) := by
  intro client _
  refine (disconnect_spec platform client.connected client.isOpen client.history client
    ⟨rfl, rfl, rfl⟩).imp ?_ ?_
  · exact fun _ next shows => shows.isOpen.trans shows.connected.symm
  · exact fun _ next shows => shows.isOpen.trans shows.connected.symm

theorem settled_sendRequest (request : TeamToController) :
    Keeps TeamClient.Settled (sendRequest platform request) := by
  intro client settled
  refine (sendRequest_spec platform client.connected client.isOpen client.history request client
    ⟨rfl, rfl, rfl⟩).imp ?_ ?_
  · rintro result next ⟨reply, shows, -⟩
    exact shows.isOpen.trans (settled.trans shows.connected.symm)
  · exact fun error next shows => shows.isOpen.trans (settled.trans shows.connected.symm)

theorem settled_ping : Keeps TeamClient.Settled (ping platform) := by
  refine (Keeps.look _).bind ?_
  intro sendTime
  refine (settled_sendRequest platform _).bind ?_
  intro requestResult
  exact (Keeps.look _).bind fun replyTime => .pure _

theorem settled_after {client : TeamClient World} {event : ClientEvent World}
    (settled : client.Settled) (closes : ClosingStep platform client event) :
    (client.after platform event).Settled := by
  cases event with
  | networkMoves world => exact settled
  | performs operation =>
      cases operation with
      | connect parameters =>
          have connects := settled_connect platform (closes parameters rfl)
          change ((connect platform parameters >>= fun success =>
            pure (Reported.connected success)).result client).2.Settled
          rw [result_bind]
          generalize (connect platform parameters).result client = result at connects ⊢
          obtain ⟨error | success, last⟩ := result
          · exact connects
          · exact connects
      | disconnect => exact ((settled_disconnect platform).bind fun _ => .pure _).result settled
      | setDesiredKeeper keeperId =>
          exact ((settled_sendRequest platform _).bind fun _ => .pure _).result settled
      | requestBotSubstitution =>
          exact ((settled_sendRequest platform _).bind fun _ => .pure _).result settled
      | setAdvantageChoice choice =>
          exact ((settled_sendRequest platform _).bind fun _ => .pure _).result settled
      | ping => exact ((settled_ping platform).bind fun _ => .pure _).result settled

/--
Whatever the state, the parameters and the network, a `Connect` that does not
succeed leaves nothing open exactly when its attempt does not stop at a refused
connection, a missing greeting or a registration that cannot be written.  In a
run that calls `Connect` only so, the socket is never open without a connection.
-/
theorem failsClosed_iff_and_settled :
    (∀ client parameters,
      FailsClosed platform client parameters ↔ leavesOpen platform client parameters = false) ∧
    ∀ world transitions last, Execution (ClientStep platform) (.initial world) transitions last →
      (∀ transition ∈ transitions, ClosingStep platform transition.before transition.label) →
        last.Settled ∧ ∀ transition ∈ transitions, transition.before.Settled := by
  refine ⟨failsClosed_iff platform, ?_⟩
  intro world transitions last run closes
  refine run.invariant TeamClient.Settled (ClosingStep platform) ?_ rfl closes
  rintro before event after settled closes ⟨⟩
  exact settled_after platform settled closes

/-- The game controller rejects the team in its greeting. -/
theorem failsClosed_iff_and_settled_rejected :
    let parameters : ConnectionParameters := ⟨⟨[10, 0, 0, 1]⟩, 10008, "A-Team", .blue⟩
    let client : TeamClient Script := .initial { incoming := [(0, StatusCode.rejected.reply)] }
    FailsClosed scripted client parameters ∧
      (client.after scripted (.performs (.connect parameters))).Settled := by
  intro parameters client
  have theorems := failsClosed_iff_and_settled scripted
  have closes : leavesOpen scripted client parameters = false := by decide +kernel
  refine ⟨(theorems.1 _ _).mpr closes, ?_⟩
  refine (theorems.2 _ _ _ (.step (.happens client (.performs (.connect parameters)))
    (.stop _)) ?_).1
  rintro transition (_ | ⟨_, ⟨⟩⟩) parameters ⟨⟩
  exact closes

/-- The game controller accepts the connection and greets a second later. -/
theorem not_failsClosed_late_greeting :
    ¬ FailsClosed scripted (.initial { incoming := [(10, StatusCode.ok.reply)] })
      ⟨⟨[10, 0, 0, 1]⟩, 10008, "A-Team", .blue⟩ := by
  intro closes
  have isClosed := (closes _ _ rfl (by decide +kernel)).2
  exact absurd isClosed (by decide +kernel)

end FailedConnect

end SslRosBridge.GameControllerBridge
