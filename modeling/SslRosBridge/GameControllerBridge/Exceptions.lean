import SslRosBridge.GameControllerBridge.Polling
import SslRosBridge.GameControllerBridge.Steps

/-!
# Which network outcomes escape as exceptions

An operation returns normally exactly when none of its throwing socket steps,
the writes and the closes, reports an error.  Every other failure is reported
as `false` or as a result that is not accepted.
-/

namespace SslRosBridge.GameControllerBridge

open Library Library.Computation

section Exceptions

variable {World : Type} (platform : Platform World)

/-- A result is only accepted after a reply with the status `OK`. -/
def ResultShown (result : Result) (events : List Event) : Prop :=
  result.accepted = true →
    ∃ bytes message reply, events = [.wrote bytes none, .received (some message)] ∧
      message.controllerReply = some reply ∧ reply.statusCode = some .ok

/-- A success is only reported for events that show it. -/
def Reports : Reported → List Event → Prop
  | .connected success, events => success = true →
      ∃ parameters handshake, events = .connectCalled parameters :: handshake ∧
        Handshake platform parameters handshake
  | .disconnected, _ => True
  | .result result, events => ResultShown result events
  | .pinged result, events => ResultShown result.requestResult events

theorem resultShown_ofMessage (bytes : List UInt8) (message : Option ControllerToTeam) :
    ResultShown (.ofMessage message) [.wrote bytes none, .received message] := by
  intro accepted
  cases message with
  | none => cases accepted
  | some whole =>
      cases body : whole.controllerReply with
      | none => simp [Result.ofMessage, body, clientError] at accepted
      | some reply =>
          have ok : reply.statusCode = some .ok := by
            simpa [Result.ofMessage, body, Result.ofReply] using accepted
          exact ⟨bytes, whole, reply, rfl, body, ok⟩

/-- The record after an operation is the record before it and some events. -/
def Appends (history : List Event) (holds : List Event → Prop) (client : TeamClient World) : Prop :=
  ∃ events, client.history = history ++ events ∧ holds events

/-- An operation that returns has appended quiet events that its report shows,
and one that throws a failed step. -/
abbrev Outcomes {Value : Type} (history : List Event) (action : Action World Value)
    (shown : Value → List Event → Prop) : Prop :=
  Triple (fun client => client.history = history) action
    (fun value => Appends history fun events => Quiet events ∧ shown value events)
    (fun _ => Appends history fun events => ¬ Quiet events)

theorem sendRequest_outcomes (history : List Event) (request : TeamToController) :
    Outcomes history (sendRequest platform request) ResultShown := by
  rintro client rfl
  refine (sendRequest_spec platform client.connected client.isOpen client.history request client
    ⟨rfl, rfl, rfl⟩).imp ?_ ?_
  · rintro result next ⟨reply, shows, rfl⟩
    exact ⟨_, shows.history, by simp [Event.failed], resultShown_ofMessage _ reply⟩
  · exact fun error next shows => ⟨_, shows.history, by simp [Event.failed]⟩

theorem ping_outcomes (history : List Event) :
    Outcomes history (ping platform) fun result => ResultShown result.requestResult := by
  rintro client rfl
  refine (ping_spec platform client.connected client.isOpen client.history client
    ⟨rfl, rfl, rfl⟩).imp ?_ ?_
  · rintro result next ⟨reply, shows, same⟩
    exact ⟨_, shows.history, by simp [Event.failed], by
      change ResultShown result.requestResult _
      rw [same]
      exact resultShown_ofMessage _ reply⟩
  · exact fun error next shows => ⟨_, shows.history, by simp [Event.failed]⟩

theorem disconnect_outcomes (history : List Event) :
    Outcomes history (disconnect platform) fun _ _ => True := by
  rintro client rfl
  refine (disconnect_spec platform client.connected client.isOpen client.history client
    ⟨rfl, rfl, rfl⟩).imp ?_ ?_
  · exact fun _ next shows => ⟨_, shows.history, by simp [Event.failed], trivial⟩
  · exact fun error next shows => ⟨_, shows.history, by simp [Event.failed]⟩

theorem connect_outcomes (history : List Event) (parameters : ConnectionParameters) :
    Outcomes history (connect platform parameters) fun success =>
      Reports platform (.connected success) := by
  rintro client rfl
  refine (connect_spec platform client.connected client.isOpen client.history parameters client
    ⟨rfl, rfl, rfl⟩).imp ?_ ?_
  · rintro success next ⟨nowOpen, events, shows, quiet, complete⟩
    exact ⟨_, shows.history, by simpa [Event.failed] using quiet, fun isTrue =>
      ⟨parameters, events, rfl, (complete isTrue).2⟩⟩
  · rintro error next ⟨nowOpen, events, shows, loud⟩
    exact ⟨_, shows.history, by simpa [Event.failed] using loud⟩

theorem perform_outcomes (history : List Event) (operation : Operation) :
    Outcomes history (perform platform operation) (Reports platform) := by
  cases operation with
  | connect parameters =>
      exact Triple.bind _ (connect_outcomes platform history parameters) fun _ =>
        Triple.pure fun _ => id
  | disconnect =>
      exact Triple.bind _ (disconnect_outcomes platform history) fun _ => Triple.pure fun _ => id
  | setDesiredKeeper keeperId =>
      exact Triple.bind _ (sendRequest_outcomes platform history _) fun _ => Triple.pure fun _ => id
  | requestBotSubstitution =>
      exact Triple.bind _ (sendRequest_outcomes platform history _) fun _ => Triple.pure fun _ => id
  | setAdvantageChoice choice =>
      exact Triple.bind _ (sendRequest_outcomes platform history _) fun _ => Triple.pure fun _ => id
  | ping =>
      exact Triple.bind _ (ping_outcomes platform history) fun _ => Triple.pure fun _ => id

/-- Outcomes of either kind, read as an equivalence. -/
theorem Outcomes.returns_iff {Value : Type} {action : Action World Value}
    {shown : Value → List Event → Prop} {client : TeamClient World}
    (outcomes : Outcomes client.history action shown) :
    ∃ events, (action.result client).2.history = client.history ++ events ∧
      ((∃ value, (action.result client).1 = .ok value) ↔ Quiet events) ∧
      ∀ value, (action.result client).1 = .ok value → shown value events := by
  have ends := outcomes client rfl
  generalize action.result client = outcome at ends
  obtain ⟨exception | value, next⟩ := outcome
  · obtain ⟨events, history, loud⟩ := ends
    exact ⟨events, history, ⟨nofun, fun quiet => absurd quiet loud⟩, nofun⟩
  · obtain ⟨events, history, quiet, shows⟩ := ends
    exact ⟨events, history, ⟨fun _ => quiet, fun _ => ⟨value, rfl⟩⟩, fun _ same => by
      cases same
      exact shows⟩

/-- The induction over the operations of a run. -/
theorem run_returns_iff {client last : TeamClient World}
    {results : List (Except ErrorCode Reported)} (run : Run platform client results last) :
    ∃ events, last.history = client.history ++ events ∧
      ((∀ result ∈ results, ∃ reported, result = .ok reported) ↔ Quiet events) := by
  induction run with
  | stop client => exact ⟨[], by simp, by simp⟩
  | wait world later ih => exact ih
  | @perform client last results operation later ih =>
      obtain ⟨events, history, returns, -⟩ :=
        Outcomes.returns_iff (perform_outcomes platform client.history operation)
      obtain ⟨events', history', returns'⟩ := ih
      refine ⟨events ++ events', by rw [history', history, List.append_assoc], ?_⟩
      rw [List.forall_mem_cons, returns, returns', quiet_append]

/-! ## A dropped connection -/

/-- States in which no byte becomes available, whatever is written and however
long one waits. -/
structure Silent (silent : World → Prop) : Prop where
  write : ∀ bytes world, silent world → silent (platform.write bytes world).2
  sleep : ∀ world, silent world → silent (platform.sleep world)
  available : ∀ world, silent world → silent (platform.available world).2
  nothing : ∀ world, silent world →
    (platform.available world).1.1 = 0 ∨ (fatal (platform.available world).1.2).isSome

/-- The controller has dropped the connection and nothing is left to read. -/
def Dropped (world : World) : Prop := ∃ silent, Silent platform silent ∧ silent world

theorem PollEnds.dropped {silent : World → Prop} (never : Silent platform silent) {isOpen : Bool}
    {world : World} {outcome : Received × World} (ends : PollEnds platform isOpen world outcome)
    (now : silent world) : replyOf platform outcome.1 = none := by
  induction ends with
  | timedOut => rfl
  | unavailable => rfl
  | @idle world next report outcome checked later ih =>
      apply ih
      cases isOpen with
      | false =>
          cases checked
          exact never.sleep world now
      | true =>
          have after := never.available world now
          rw [show platform.available world = _ from checked] at after
          exact never.sleep next after
  | @read world next bytesAvailable report checked available something =>
      cases isOpen with
      | false =>
          cases checked
          exact absurd rfl something
      | true =>
          have nothing := never.nothing world now
          rw [show platform.available world = _ from checked] at nothing
          exact absurd (nothing.resolve_right (by simp [available])) something

theorem sendRequest_dropped (request : TeamToController) :
    Triple (fun client => Dropped platform client.world) (sendRequest platform request)
      (fun result _ => result = clientError) (fun _ _ => True) := by
  refine Triple.bind (fun _ client => Dropped platform client.world)
    (Triple.attempt ?_) fun _ => ?_
  · rintro client ⟨silent, never, now⟩
    cases isOpen : client.isOpen with
    | false => simp [Ends]
    | true =>
        have after := never.write (requestBytes platform request) client.world now
        simp only [if_true]
        generalize platform.write (requestBytes platform request) client.world = outcome at after
        obtain ⟨_ | error, world⟩ := outcome
        · exact ⟨silent, never, after⟩
        · trivial
  · refine Triple.bind (fun reply _ => reply = none) (Triple.step ?_) fun reply => ?_
    · rintro client ⟨silent, never, now⟩
      exact (receive_ends platform client.isOpen client.world).dropped platform never now
    · rintro client rfl
      rfl

theorem ping_dropped :
    Triple (fun client => Dropped platform client.world) (ping platform)
      (fun result _ => result.requestResult = clientError) (fun _ _ => True) := by
  refine Triple.bind (fun _ client => Dropped platform client.world)
    (Triple.step fun _ => id) ?_
  intro sendTime
  refine Triple.bind _ (sendRequest_dropped platform _) ?_
  intro result
  refine Triple.bind (fun _ _ => result = clientError)
    (Triple.step fun _ => id) ?_
  intro replyTime
  exact Triple.pure fun _ same => same

theorem pingCallback_dropped (platform : NodePlatform World) :
    Triple (fun node => Dropped platform.toPlatform node.teamClient.world) (pingCallback platform)
      (fun status _ => status.connected = false) (fun _ _ => True) := by
  refine Triple.bind (fun _ node => Dropped platform.toPlatform node.teamClient.world)
    (Triple.step fun _ => id) ?_
  intro connected
  cases connected with
  | false => exact Triple.pure fun _ _ => rfl
  | true =>
      refine Triple.bind _ (onClient_spec (ping_dropped platform.toPlatform)) ?_
      intro result
      cases accepted : result.requestResult.accepted with
      | true =>
          intro node same
          exact absurd (accepted.symm.trans (congrArg Result.accepted same)) nofun
      | false => exact Triple.bind _ (Triple.ends _) fun _ => Triple.pure fun _ _ => rfl

/-- The timer callback publishes that there is no connection, and there is none
after it. -/
def PublishesDisconnected (platform : NodePlatform World) (node : TeamClientNode World) : Prop :=
  ∃ status, ((pingCallback platform).result node).1 = .ok status ∧ status.connected = false ∧
    ((pingCallback platform).result node).2.teamClient.connected = false

/-- A dropped connection is reported and closed unless the ping throws. -/
theorem pingCallback_dropped_iff (platform : NodePlatform World) {node : TeamClientNode World}
    (connected : node.teamClient.connected = true)
    (dropped : Dropped platform.toPlatform node.teamClient.world) :
    ∃ events, ((pingCallback platform).result node).2.teamClient.history =
        node.teamClient.history ++ events ∧
      (PublishesDisconnected platform node ↔ Quiet events) := by
  have ends := (pingCallback_spec node.teamClient.isOpen node.teamClient.history platform node
    ⟨connected, rfl, rfl⟩).and (pingCallback_dropped platform node dropped)
  unfold PublishesDisconnected
  generalize (pingCallback platform).result node = outcome at ends
  obtain ⟨exception | status, next⟩ := outcome
  · obtain ⟨⟨events, history, loud⟩, -⟩ := ends
    exact ⟨events, history, nofun, fun quiet => absurd quiet loud⟩
  · obtain ⟨⟨reply, -, shows⟩, refused⟩ := ends
    rw [refused, if_neg nofun] at shows
    exact ⟨_, shows.history, fun _ => by simp [pingEvents, Event.failed],
      fun _ => ⟨status, rfl, refused, shows.connected⟩⟩

/-! ## The timer callback -/

/-- No reply with the status `OK` is among the events. -/
def NothingAccepted (events : List Event) : Prop :=
  ∀ message reply, .received (some message) ∈ events → message.controllerReply = some reply →
    reply.statusCode ≠ some .ok

theorem nothingAccepted_iff {events : List Event} {received : Option ControllerToTeam}
    (only : ∀ reply, .received reply ∈ events ↔ reply = received) :
    NothingAccepted events ↔ (Result.ofMessage received).accepted = false := by
  cases received with
  | none =>
      refine ⟨fun _ => rfl, fun _ message reply member => ?_⟩
      cases (only _).mp member
  | some message =>
      cases body : message.controllerReply with
      | none =>
          refine ⟨fun _ => by simp [Result.ofMessage, body, clientError], ?_⟩
          rintro - other reply member replied
          obtain rfl := Option.some.inj ((only _).mp member)
          cases body.symm.trans replied
      | some reply =>
          have result : (Result.ofMessage (some message)).accepted = false ↔
              reply.statusCode ≠ some .ok := by
            simp [Result.ofMessage, body, Result.ofReply]
          rw [result]
          constructor
          · exact fun nothing => nothing message reply ((only _).mpr rfl) body
          · rintro status other reply' member replied
            obtain rfl := Option.some.inj ((only _).mp member)
            obtain rfl := Option.some.inj (body.symm.trans replied)
            exact status

/-- A connected client is disconnected unless the ping throws or is accepted. -/
theorem pingCallback_disconnects_iff (platform : NodePlatform World) {node : TeamClientNode World}
    (connected : node.teamClient.connected = true) :
    ∃ events, ((pingCallback platform).result node).2.teamClient.history =
        node.teamClient.history ++ events ∧
      (PublishesDisconnected platform node ↔ Quiet events ∧ NothingAccepted events) := by
  have ends := pingCallback_spec node.teamClient.isOpen node.teamClient.history platform node
    ⟨connected, rfl, rfl⟩
  unfold PublishesDisconnected
  generalize (pingCallback platform).result node = outcome at ends
  obtain ⟨exception | status, next⟩ := outcome
  · obtain ⟨events, history, loud⟩ := ends
    exact ⟨events, history, nofun, fun both => absurd both.1 loud⟩
  obtain ⟨reply, accepted, shows⟩ := ends
  cases answer : status.connected with
  | true =>
      rw [answer, if_pos rfl] at shows
      have nothing : NothingAccepted (pingEvents platform.toPlatform reply) ↔
          (Result.ofMessage reply).accepted = false :=
        nothingAccepted_iff (by simp [pingEvents])
      refine ⟨_, shows.history, ?_, fun both => ?_⟩
      · rintro ⟨other, ok, refused, -⟩
        cases ok
        exact absurd (answer.symm.trans refused) nofun
      · exact absurd ((nothing.mp both.2).symm.trans (accepted.trans answer)) nofun
  | false =>
      rw [answer, if_neg nofun] at shows
      have nothing : NothingAccepted
          (pingEvents platform.toPlatform reply ++ [.disconnectCalled, .closed none]) ↔
          (Result.ofMessage reply).accepted = false :=
        nothingAccepted_iff (by simp [pingEvents])
      refine ⟨_, shows.history, fun _ => ⟨by simp [pingEvents, Event.failed], ?_⟩, fun _ => ?_⟩
      · exact nothing.mpr (accepted.trans answer)
      · exact ⟨status, rfl, answer, shows.connected⟩

/--
An operation returns normally, with a report that its events bear out, exactly
when no write and no close in it reports an error; so does a whole run.  The
timer callback publishes that there is no connection and disconnects exactly
when, besides, no reply accepts its ping, which on a dropped connection none
does.
-/
theorem returns_iff_quiet (platform : NodePlatform World) :
    (∀ operation (client : TeamClient World), ∃ events,
      ((perform platform.toPlatform operation).result client).2.history =
        client.history ++ events ∧
      ((∃ reported, ((perform platform.toPlatform operation).result client).1 = .ok reported ∧
        Reports platform.toPlatform reported events) ↔ Quiet events)) ∧
    (∀ world results last, Run platform.toPlatform (.initial world) results last →
      ((∀ result ∈ results, ∃ reported, result = .ok reported) ↔ Quiet last.history)) ∧
    ∀ node : TeamClientNode World, node.teamClient.connected = true → ∃ events,
      ((pingCallback platform).result node).2.teamClient.history =
        node.teamClient.history ++ events ∧
      (PublishesDisconnected platform node ↔ Quiet events ∧ NothingAccepted events) ∧
      (Dropped platform.toPlatform node.teamClient.world →
        (PublishesDisconnected platform node ↔ Quiet events)) := by
  refine ⟨fun operation client => ?_, fun world results last run => ?_, fun node connected => ?_⟩
  · obtain ⟨events, history, returns, shown⟩ := Outcomes.returns_iff
      (perform_outcomes platform.toPlatform client.history operation)
    refine ⟨events, history, fun ⟨reported, ok, _⟩ => returns.mp ⟨reported, ok⟩, fun quiet => ?_⟩
    obtain ⟨reported, ok⟩ := returns.mpr quiet
    exact ⟨reported, ok, shown reported ok⟩
  · obtain ⟨events, history, returns⟩ := run_returns_iff platform.toPlatform run
    rw [returns, history]
    rfl
  · obtain ⟨events, history, disconnects⟩ := pingCallback_disconnects_iff platform connected
    refine ⟨events, history, disconnects, fun dropped => ?_⟩
    obtain ⟨others, same, quiet⟩ := pingCallback_dropped_iff platform connected dropped
    obtain rfl := List.append_cancel_left (history.symm.trans same)
    exact quiet

end Exceptions

/-! ## A controller that resets the connection -/

def teamParameters : ConnectionParameters := ⟨⟨[10, 0, 0, 1]⟩, 10008, "A-Team", .blue⟩

/-- A client that connects, after which the world changes to the given one. -/
def clientIn (world : Script) : TeamClient Script :=
  { ((perform scripted (.connect teamParameters)).result (.initial admitting)).2 with
    world := world }

theorem run_clientIn (world : Script) :
    ∃ start results, Run scripted (.initial start) results (clientIn world) :=
  ⟨_, _, .perform (.connect teamParameters) (.wait world (.stop _))⟩

theorem silent_scripted :
    Silent scripted fun script => script.incoming = [] ∧ script.answers = [] where
  write := by
    rintro bytes script ⟨incoming, answers⟩
    cases failure : script.writeError with
    | none => simp [scripted, failure, Script.answer, incoming, answers]
    | some error => simp [scripted, failure, incoming, answers]
  sleep := fun script holds => holds
  available := fun script holds => holds
  nothing := fun script holds => by simp [scripted, Script.arrived, holds.1]

/-- A silent controller: the run returns, and the timer callback disconnects. -/
theorem returns_iff_quiet_silent :
    (∀ results last, Run scripted (.initial {}) results last →
      ((∀ result ∈ results, ∃ reported, result = .ok reported) ↔ Quiet last.history)) ∧
    ∃ status, ((pingCallback scriptedNode).result { teamClient := clientIn {} }).1 = .ok status ∧
      status.connected = false := by
  have theorems := returns_iff_quiet scriptedNode
  refine ⟨theorems.2.1 {}, ?_⟩
  obtain ⟨events, history, -, dropped⟩ := theorems.2.2 { teamClient := clientIn {} }
    (by decide +kernel)
  have quiet : Quiet ((pingCallback scriptedNode).result
      { teamClient := clientIn {} }).2.teamClient.history := by decide +kernel
  rw [history, quiet_append] at quiet
  obtain ⟨status, ok, refused, -⟩ := (dropped ⟨_, silent_scripted, rfl, rfl⟩).mpr quiet.2
  exact ⟨status, ok, refused⟩

/-- A connected client pings over a connection that was reset: the exception of
the write leaves the operation and the timer callback, which publishes nothing. -/
theorem reset_write_escapes :
    let client := clientIn { writeError := some (.other 104) }
    (∃ start results, Run scripted (.initial start) results client) ∧
      client.connected = true ∧
      ((perform scripted .ping).result client).1 = .error (.other 104) ∧
      ((pingCallback scriptedNode).result { teamClient := client }).1 = .error (.other 104) :=
  ⟨run_clientIn _, by decide +kernel, eq_error_of_exception? (by decide +kernel),
    eq_error_of_exception? (by decide +kernel)⟩

end SslRosBridge.GameControllerBridge
