import SslRosBridge.GameControllerBridge.TeamClientNode

/-!
# What each operation records

One triple for each operation of the client: the connection flag, the state of
the socket and the events it appends, for every value it can return and for an
exception.  Everything about runs is derived from these.
-/

namespace SslRosBridge.GameControllerBridge

open Library Library.Computation

open MessageConversion.Proto (Team)

/-- The client's flag, socket and record. -/
structure TeamClient.Shows {World : Type} (client : TeamClient World) (connected isOpen : Bool)
    (history : List Event) : Prop where
  connected : client.connected = connected
  isOpen : client.isOpen = isOpen
  history : client.history = history

/-- A throwing socket step that reported an error. -/
def Event.failed : Event → Bool
  | .closed error => error.isSome
  | .wrote _ error => error.isSome
  | _ => false

def Quiet (events : List Event) : Prop := ∀ event ∈ events, event.failed = false

instance (events : List Event) : Decidable (Quiet events) :=
  inferInstanceAs (Decidable (∀ event ∈ events, event.failed = false))

@[simp] theorem quiet_nil : Quiet [] := nofun

@[simp] theorem quiet_cons {event : Event} {events : List Event} :
    Quiet (event :: events) ↔ event.failed = false ∧ Quiet events :=
  List.forall_mem_cons

@[simp] theorem quiet_append {front back : List Event} :
    Quiet (front ++ back) ↔ Quiet front ∧ Quiet back :=
  List.forall_mem_append

/-- A reply with no status other than `OK`. -/
def Accepted (message : ControllerToTeam) : Prop :=
  ∃ reply, message.controllerReply = some reply ∧ reply.badStatus = false

/-- Nothing, or one successful close. -/
def Closing (events : List Event) : Prop := events = [] ∨ events = [.closed none]

theorem Closing.quiet {events : List Event} (closes : Closing events) : Quiet events := by
  rcases closes with rfl | rfl <;> simp [Event.failed]

/-- The socket was connected and the greeting accepted. -/
def Greeted (events : List Event) : Prop :=
  ∃ closing greeting, Closing closing ∧ Accepted greeting ∧
    events = closing ++ [.tcpConnected none, .received (some greeting)]

/-- The team that a colour stands for, if it stands for one. -/
def TeamColor.team : TeamColor → Option Team
  | .auto => none
  | .blue => some .blue
  | .yellow => some .yellow
  | .unnamed _ => none

theorem registration_eq (teamName : String) (teamColor : TeamColor) :
    registration teamName teamColor = { teamName := teamName, team := teamColor.team } := by
  cases teamColor <;> rfl

/-- What `SendRequest` returns for the outcome of `WaitForReply`. -/
def Result.ofMessage (message : Option ControllerToTeam) : Result :=
  match message.bind ControllerToTeam.controllerReply with
  | none => clientError
  | some reply => .ofReply reply

section Steps

variable {World : Type} (platform : Platform World)
variable (connected isOpen : Bool) (history : List Event)
variable {thrown : ErrorCode → TeamClient World → Prop}

/-- The registration with this name and the team of this colour was sent and
accepted. -/
def RegisteredFor (teamName : String) (teamColor : TeamColor) (events : List Event) : Prop :=
  ∃ answer, Accepted answer ∧
    events = [.wrote (delimited (platform.serializeRegistration
        { teamName := teamName, team := teamColor.team })) none,
      .received (some answer)]

/-- The whole handshake of one successful `Connect`. -/
def Handshake (parameters : ConnectionParameters) (events : List Event) : Prop :=
  ∃ greeting registering, Greeted greeting ∧
    RegisteredFor platform parameters.teamName parameters.teamColor registering ∧
    events = greeting ++ registering

/-! ## Socket steps -/

theorem close_spec :
    Triple (fun client => client.Shows connected isOpen history) (close platform)
      (fun _ client => client.Shows connected false (history ++ [.closed none]))
      (fun error client => client.Shows connected false (history ++ [.closed (some error)])) := by
  apply Triple.attempt
  intro client shows
  generalize (if client.isOpen then platform.close client.world else (none, client.world)) = outcome
  obtain ⟨_ | error, world⟩ := outcome
  · exact ⟨shows.connected, rfl, by simp [TeamClient.record, shows.history]⟩
  · exact ⟨shows.connected, rfl, by simp [TeamClient.record, shows.history]⟩

theorem closeIfOpen_spec :
    Triple (fun client => client.Shows connected isOpen history) (closeIfOpen platform)
      (fun _ client => ∃ closing, client.Shows connected false (history ++ closing) ∧
        Closing closing)
      (fun error client => client.Shows connected false (history ++ [.closed (some error)])) := by
  refine Triple.bind (fun value client =>
    client.Shows connected isOpen history ∧ value = isOpen)
    (Triple.step fun client shows => ⟨shows, shows.isOpen⟩) ?_
  intro value
  apply Triple.of_fact
  intro same
  subst same
  cases value with
  | false => exact Triple.pure fun client shows => ⟨[], by simpa using shows, Or.inl rfl⟩
  | true =>
      exact (close_spec platform connected true history).weaken (fun _ => id)
        (fun _ client shows => ⟨_, shows, Or.inr rfl⟩) (fun _ _ => id)

theorem connectSocket_spec (endpoint : Endpoint) :
    Triple (fun client => client.Shows connected isOpen history)
      (connectSocket platform endpoint)
      (fun error client => ∃ nowOpen,
        client.Shows connected nowOpen (history ++ [.tcpConnected error]) ∧
          (error = none → nowOpen = true))
      thrown := by
  apply Triple.step
  intro client shows
  generalize (if client.isOpen then (none, client.world)
    else platform.openSocket client.world) = opened
  obtain ⟨_ | error, world⟩ := opened
  · generalize platform.connect endpoint world = outcome
    obtain ⟨error, world⟩ := outcome
    exact ⟨true, ⟨shows.connected, rfl, by simp [TeamClient.record, shows.history]⟩, fun _ => rfl⟩
  · exact ⟨client.isOpen, ⟨shows.connected, rfl, by simp [TeamClient.record, shows.history]⟩, nofun⟩

theorem write_spec (bytes : List UInt8) :
    Triple (fun client => client.Shows connected isOpen history) (write platform bytes)
      (fun _ client => client.Shows connected isOpen (history ++ [.wrote bytes none]))
      (fun error client =>
        client.Shows connected isOpen (history ++ [.wrote bytes (some error)])) := by
  apply Triple.attempt
  intro client shows
  generalize (if client.isOpen then platform.write bytes client.world
    else (some .badDescriptor, client.world)) = outcome
  obtain ⟨_ | error, world⟩ := outcome
  · exact ⟨shows.connected, shows.isOpen, by simp [TeamClient.record, shows.history]⟩
  · exact ⟨shows.connected, shows.isOpen, by simp [TeamClient.record, shows.history]⟩

theorem waitForReply_spec :
    Triple (fun client => client.Shows connected isOpen history) (waitForReply platform)
      (fun reply client => client.Shows connected isOpen (history ++ [.received reply]))
      thrown := by
  apply Triple.step
  intro client shows
  generalize receive platform client.isOpen client.world = outcome
  obtain ⟨received, world⟩ := outcome
  exact ⟨shows.connected, shows.isOpen, by simp [TeamClient.record, shows.history]⟩

theorem storeToken_spec (reply : ControllerReply) :
    Triple (fun client => client.Shows connected isOpen history)
      (TeamClient.storeToken reply : Action World Unit)
      (fun _ client => client.Shows connected isOpen history) thrown := by
  apply Triple.step
  intro client shows
  cases reply.nextToken with
  | none => exact shows
  | some token => exact ⟨shows.connected, shows.isOpen, shows.history⟩

theorem setConnected_spec (value : Bool) :
    Triple (fun client => client.Shows connected isOpen history)
      (TeamClient.setConnected value : Action World Unit)
      (fun _ client => client.Shows value isOpen history) thrown :=
  Triple.step fun _ shows => ⟨rfl, shows.isOpen, shows.history⟩

theorem called_spec (event : Event) :
    Triple (fun client => client.Shows connected isOpen history)
      (TeamClient.called event : Action World Unit)
      (fun _ client => client.Shows connected isOpen (history ++ [event])) thrown :=
  Triple.step fun _ shows =>
    ⟨shows.connected, shows.isOpen, by simp [TeamClient.record, shows.history]⟩

/-! ## Requests -/

theorem sendRequest_spec (request : TeamToController) :
    Triple (fun client => client.Shows connected isOpen history) (sendRequest platform request)
      (fun result client => ∃ reply, client.Shows connected isOpen
          (history ++ [.wrote (requestBytes platform request) none, .received reply]) ∧
        result = .ofMessage reply)
      (fun error client => client.Shows connected isOpen
        (history ++ [.wrote (requestBytes platform request) (some error)])) := by
  refine Triple.bind _ (write_spec platform connected isOpen history _) fun _ => ?_
  refine Triple.bind _ (waitForReply_spec platform connected isOpen _) ?_
  intro reply
  rw [List.append_assoc]
  cases reply with
  | none => exact Triple.pure fun client shows => ⟨none, shows, rfl⟩
  | some message =>
      cases body : message.controllerReply with
      | none =>
          simp only [body]
          exact Triple.pure fun client shows => ⟨_, shows, by simp [Result.ofMessage, body]⟩
      | some reply =>
          simp only [body]
          refine Triple.bind _ (storeToken_spec connected isOpen _ reply) fun _ => ?_
          exact Triple.pure fun client shows => ⟨_, shows, by simp [Result.ofMessage, body]⟩

theorem ping_spec :
    Triple (fun client => client.Shows connected isOpen history) (ping platform)
      (fun result client => ∃ reply, client.Shows connected isOpen
          (history ++ [.wrote (requestBytes platform { msg := some (.ping true) }) none,
            .received reply]) ∧
        result.requestResult = .ofMessage reply)
      (fun error client => client.Shows connected isOpen (history ++
        [.wrote (requestBytes platform { msg := some (.ping true) }) (some error)])) := by
  refine Triple.bind (fun _ client => client.Shows connected isOpen history)
    (Triple.step fun _ shows => shows) ?_
  intro sendTime
  refine Triple.bind _ (sendRequest_spec platform connected isOpen history _) ?_
  intro result
  apply Triple.of_exists
  intro reply
  apply Triple.of_fact
  intro same
  subst same
  exact Triple.bind _ (Triple.step fun _ shows => shows) fun replyTime =>
    Triple.pure fun client shows => ⟨reply, shows, rfl⟩

/-! ## Connecting and disconnecting -/

theorem disconnect_spec :
    Triple (fun client => client.Shows connected isOpen history) (disconnect platform)
      (fun _ client => client.Shows false false (history ++ [.disconnectCalled, .closed none]))
      (fun error client =>
        client.Shows false false (history ++ [.disconnectCalled, .closed (some error)])) := by
  refine Triple.bind _ (called_spec connected isOpen history _) fun _ => ?_
  refine Triple.bind _ (setConnected_spec connected isOpen _ false) fun _ => ?_
  have closes := close_spec platform false isOpen (history ++ [.disconnectCalled])
  simp only [List.append_assoc] at closes
  exact closes

theorem attemptToConnectSocket_spec (address : Address) (port : UInt16) :
    Triple (fun client => client.Shows connected isOpen history)
      (attemptToConnectSocket platform address port)
      (fun value client => ∃ nowOpen events, client.Shows connected nowOpen (history ++ events) ∧
        Quiet events ∧ (value = true → nowOpen = true ∧ Greeted events))
      (fun _ client => ∃ events, client.Shows connected false (history ++ events) ∧
        ¬ Quiet events) := by
  refine Triple.bind _ ((closeIfOpen_spec platform connected isOpen history).weaken (fun _ => id)
    (fun _ _ => id) fun error client shows => ⟨_, shows, by simp [Event.failed]⟩) fun _ => ?_
  apply Triple.of_exists
  intro closing
  apply Triple.of_fact
  intro closes
  refine Triple.bind _ (connectSocket_spec platform connected false _ ⟨address, port⟩) ?_
  intro error
  apply Triple.of_exists
  intro nowOpen
  apply Triple.of_fact
  intro opened
  rw [List.append_assoc]
  cases error with
  | some error =>
      exact Triple.pure fun client shows =>
        ⟨nowOpen, _, shows, by simp [closes.quiet, Event.failed], nofun⟩
  | none =>
      obtain rfl := opened rfl
      refine Triple.bind _ (waitForReply_spec platform connected true _) ?_
      intro reply
      rw [List.append_assoc, List.append_assoc]
      have quiet : Quiet (closing ++ ([.tcpConnected none] ++ [.received reply])) := by
        simp [closes.quiet, Event.failed]
      cases reply with
      | none => exact Triple.pure fun client shows => ⟨true, _, shows, quiet, nofun⟩
      | some message =>
          cases body : message.controllerReply with
          | none =>
              simp only [body]
              exact Triple.pure fun client shows => ⟨true, _, shows, quiet, nofun⟩
          | some reply =>
              cases bad : reply.badStatus with
              | true =>
                  simp only [body, bad]
                  have closed := close_spec platform connected true
                    (history ++ (closing ++ ([.tcpConnected none] ++ [.received (some message)])))
                  rw [List.append_assoc] at closed
                  refine Triple.bind _ (closed.weaken (fun _ => id) (fun _ _ => id)
                    fun error client shows => ?_) fun _ => Triple.pure fun client shows => ?_
                  · exact ⟨_, by rwa [List.append_assoc] at shows, by simp [Event.failed]⟩
                  · exact ⟨false, _, shows, by simp [closes.quiet, Event.failed], nofun⟩
              | false =>
                  simp only [body, bad]
                  refine Triple.bind _ (storeToken_spec connected true _ reply) fun _ => ?_
                  exact Triple.pure fun client shows => ⟨true, _, shows, quiet, fun _ =>
                    ⟨rfl, closing, message, closes, ⟨reply, body, bad⟩, rfl⟩⟩

theorem attemptToRegister_spec (teamName : String) (teamColor : TeamColor) :
    Triple (fun client => client.Shows connected isOpen history)
      (attemptToRegister platform teamName teamColor)
      (fun value client => ∃ events, client.Shows connected isOpen (history ++ events) ∧
        Quiet events ∧ (value = true → RegisteredFor platform teamName teamColor events))
      (fun _ client => ∃ events, client.Shows connected isOpen (history ++ events) ∧
        ¬ Quiet events) := by
  refine Triple.bind _ ((write_spec platform connected isOpen history _).weaken (fun _ => id)
    (fun _ _ => id) fun error client shows => ⟨_, shows, by simp [Event.failed]⟩) fun _ => ?_
  refine Triple.bind _ (waitForReply_spec platform connected isOpen _) ?_
  intro reply
  rw [List.append_assoc]
  have quiet : Quiet ([.wrote (registrationBytes platform teamName teamColor) none] ++
      [.received reply]) := by
    simp [Event.failed]
  cases reply with
  | none => exact Triple.pure fun client shows => ⟨_, shows, quiet, nofun⟩
  | some message =>
      cases body : message.controllerReply with
      | none =>
          simp only [body]
          exact Triple.pure fun client shows => ⟨_, shows, quiet, nofun⟩
      | some reply =>
          cases bad : reply.badStatus with
          | true =>
              simp only [body, bad]
              exact Triple.pure fun client shows => ⟨_, shows, quiet, nofun⟩
          | false =>
              simp only [body, bad]
              exact Triple.pure fun client shows => ⟨_, shows, quiet, fun _ =>
                ⟨message, ⟨reply, body, bad⟩,
                  by rw [registrationBytes, registration_eq, List.singleton_append]⟩⟩

theorem connect_spec (parameters : ConnectionParameters) :
    Triple (fun client => client.Shows connected isOpen history) (connect platform parameters)
      (fun value client => ∃ nowOpen events,
        client.Shows value nowOpen (history ++ .connectCalled parameters :: events) ∧
        Quiet events ∧ (value = true → nowOpen = true ∧ Handshake platform parameters events))
      (fun _ client => ∃ nowOpen events,
        client.Shows false nowOpen (history ++ .connectCalled parameters :: events) ∧
        ¬ Quiet events) := by
  refine Triple.bind _ (called_spec connected isOpen history _) fun _ => ?_
  refine Triple.bind _ (setConnected_spec connected isOpen _ false) fun _ => ?_
  refine Triple.bind _ ((attemptToConnectSocket_spec platform false isOpen _ _ _).weaken
    (fun _ => id) (fun _ _ => id) fun error client ⟨events, shows, loud⟩ =>
      ⟨false, events, by rwa [List.append_assoc] at shows, loud⟩) ?_
  intro value
  apply Triple.of_exists
  intro nowOpen
  apply Triple.of_exists
  intro events
  apply Triple.of_fact
  rintro ⟨quiet, success⟩
  rw [List.append_assoc, List.singleton_append]
  cases value with
  | false => exact Triple.pure fun client shows => ⟨nowOpen, events, shows, quiet, nofun⟩
  | true =>
      obtain ⟨rfl, greeted⟩ := success rfl
      refine Triple.bind _ ((attemptToRegister_spec platform false true _ _ _).weaken (fun _ => id)
        (fun _ _ => id) fun error client ⟨registering, shows, loud⟩ =>
          ⟨true, events ++ registering, by rwa [List.append_assoc, List.cons_append] at shows,
            by simp [loud]⟩) ?_
      intro value
      apply Triple.of_exists
      intro registering
      apply Triple.of_fact
      rintro ⟨quiet', registered⟩
      cases value with
      | false =>
          have closed := close_spec platform false true
            (history ++ .connectCalled parameters :: events ++ registering)
          simp only [List.append_assoc, List.cons_append] at closed ⊢
          refine Triple.bind _ (closed.weaken (fun _ => id) (fun _ _ => id)
            fun error client shows => ?_) fun _ => Triple.pure fun client shows => ?_
          · exact ⟨false, events ++ (registering ++ [.closed (some error)]), shows,
              by simp [Event.failed]⟩
          · exact ⟨false, events ++ (registering ++ [.closed none]), shows,
              by simp [quiet, quiet', Event.failed], nofun⟩
      | true =>
          refine Triple.bind _ (setConnected_spec false true _ true) fun _ => ?_
          exact Triple.pure fun client shows => ⟨true, events ++ registering,
            by rwa [List.append_assoc, List.cons_append] at shows,
            quiet_append.mpr ⟨quiet, quiet'⟩,
            fun _ => ⟨rfl, events, registering, greeted, registered rfl, rfl⟩⟩

/-! ## The timer callback -/

theorem onClient_spec {Value : Type} {pre : TeamClient World → Prop}
    {post : Value → TeamClient World → Prop} {action : Action World Value}
    (triple : Triple pre action post thrown) :
    Triple (fun node => pre node.teamClient) (TeamClientNode.onClient action)
      (fun value node => post value node.teamClient)
      (fun error node => thrown error node.teamClient) := by
  apply Triple.attempt
  intro node ready
  have ends := triple node.teamClient ready
  generalize action.result node.teamClient = outcome at ends
  obtain ⟨exception | value, client⟩ := outcome
  · exact ends
  · exact ends

theorem onClient_result {Value : Type} {pre post : TeamClient World → Prop}
    {action : Action World Value}
    (triple : Triple pre action (fun _ => post) (fun _ => post)) {node : TeamClientNode World}
    (ready : pre node.teamClient) :
    post ((TeamClientNode.onClient action).result node).2.teamClient :=
  Triple.result triple ready

/-- `Connect` returns the connection flag, and throws only without a connection. -/
theorem connect_returns (parameters : ConnectionParameters) :
    Triple (fun _ => True) (connect platform parameters)
      (fun success client => client.connected = success)
      (fun _ client => client.connected = false) := by
  intro client _
  refine (connect_spec platform client.connected client.isOpen client.history parameters client
    ⟨rfl, rfl, rfl⟩).imp ?_ ?_
  · rintro success next ⟨nowOpen, events, shows, -⟩
    exact shows.connected
  · rintro error next ⟨nowOpen, events, shows, -⟩
    exact shows.connected

/-- With an address, the node's `Connect` returns the connection flag too. -/
theorem nodeConnect_returns (platform : NodePlatform World) :
    Triple (fun node => node.gcIpAddress ≠ "") (nodeConnect platform)
      (fun success node => node.teamClient.connected = success) (fun _ _ => True) := by
  intro node nonempty
  rw [nodeConnect_with_address platform nonempty]
  cases platform.addressFromString node.gcIpAddress with
  | none => trivial
  | some address =>
      have returns := onClient_spec (connect_returns platform.toPlatform
        (connectionParameters platform node address))
      exact (returns node trivial).imp (fun _ _ => id) fun _ _ _ => trivial

/-- The events of a ping whose request was written. -/
def pingEvents (reply : Option ControllerToTeam) : List Event :=
  [.wrote (requestBytes platform { msg := some (.ping true) }) none, .received reply]

theorem pingCallback_spec (platform : NodePlatform World) :
    Triple (fun node => node.teamClient.Shows true isOpen history) (pingCallback platform)
      (fun status node => ∃ reply,
        (Result.ofMessage reply).accepted = status.connected ∧
        if status.connected = true then
          node.teamClient.Shows true isOpen (history ++ pingEvents platform.toPlatform reply)
        else
          node.teamClient.Shows false false (history ++
            (pingEvents platform.toPlatform reply ++ [.disconnectCalled, .closed none])))
      (fun _ node => ∃ events, node.teamClient.history = history ++ events ∧ ¬ Quiet events) := by
  refine Triple.bind (fun value node =>
    node.teamClient.Shows true isOpen history ∧ value = true)
    (Triple.step fun node shows => ⟨shows, shows.connected⟩) ?_
  intro value
  apply Triple.of_fact
  intro isTrue
  subst isTrue
  refine Triple.bind _ ((onClient_spec (ping_spec platform.toPlatform true isOpen history)).weaken
    (fun _ => id) (fun _ _ => id) fun error node shows =>
      ⟨_, shows.history, by simp [Event.failed]⟩) ?_
  intro result
  apply Triple.of_exists
  intro reply
  apply Triple.of_fact
  intro same
  cases accepted : result.requestResult.accepted with
  | true =>
      exact Triple.pure fun node shows => ⟨reply, by rw [← same, accepted], shows⟩
  | false =>
      have disconnects := disconnect_spec platform.toPlatform true isOpen
        (history ++ pingEvents platform.toPlatform reply)
      simp only [List.append_assoc] at disconnects
      refine Triple.bind _ ((onClient_spec disconnects).weaken (fun _ => id) (fun _ _ => id)
        fun error node shows => ?_) fun _ => ?_
      · exact ⟨_, shows.history, by simp [Event.failed]⟩
      · exact Triple.pure fun node shows => ⟨reply, by rw [← same, accepted], by simpa using shows⟩

end Steps

end SslRosBridge.GameControllerBridge
