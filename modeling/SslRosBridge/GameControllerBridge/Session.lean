import SslRosBridge.Library.Protocol
import SslRosBridge.GameControllerBridge.Registered
import SslRosBridge.GameControllerBridge.RequestStream

/-!
# The session that users see

What the client node promises to those who only see its parameters, its
responses and its statuses: a protocol over their observations that knows
nothing of sockets, replies or clocks.  The node follows it, and the protocol's
state then tells which registration the connection stands for.
-/

namespace SslRosBridge.GameControllerBridge

open Library Library.Computation

/-! ## The protocol -/

/-- What is seen of a callback that returns.  The constructor connects as a
reconnect request without an address does. -/
inductive Observation where
  | configures (parameters : ClientParameters)
  | connects (serverAddress : String) (success : Bool)
  | serves (request : ServiceRequest) (response : ServiceResponse)
  | publishes (status : ConnectionStatus)
  deriving DecidableEq, Repr

/-- The parameters of the node, and those that the controller has accepted. -/
structure Session where
  configured : ClientParameters := {}
  registered : Option ConnectionParameters := none
  deriving DecidableEq, Repr

/-- The response of a service without a connection. -/
def notConnected : ServiceResponse :=
  ⟨false, "Team client is not connected to the Game Controller."⟩

namespace Session

variable {World : Type} (platform : NodePlatform World)

/-- A connection for the configured parameters. -/
def connection (session : Session) (address : Address) : ConnectionParameters where
  address := address
  port := session.configured.gcPort.toUInt64.toUInt16
  teamName := session.configured.teamName
  teamColor := teamColorOf platform session.configured.teamColor

/-- A reconnect request may carry an address. -/
def directed (session : Session) (serverAddress : String) : Session :=
  if serverAddress = "" then session
  else { session with configured.gcIpAddress := serverAddress }

/-- An attempt to connect ends an earlier connection.  Without an address there
is no attempt and the answer is positive; an address that does not parse is not
answered. -/
def attempt (session : Session) (success : Bool) : Option Session :=
  if session.configured.gcIpAddress = "" then
    if success then some session else none
  else
    (platform.addressFromString session.configured.gcIpAddress).map fun address =>
      { session with
        registered := if success then some (session.connection platform address) else none }

/-- Without a connection there is a single response and a single status; a
negative status ends the connection. -/
def observe (session : Session) : Observation → Option Session
  | .configures parameters => some { session with configured := parameters }
  | .connects serverAddress success => (session.directed serverAddress).attempt platform success
  | .serves _ response =>
      if session.registered.isSome || response = notConnected then some session else none
  | .publishes status =>
      match session.registered with
      | none => if status = { connected := false } then some session else none
      | some parameters =>
          some { session with registered := if status.connected then some parameters else none }

def protocol : Protocol Session Observation where
  next? := observe platform

end Session

/-! ## What is seen of the node -/

section Observation

variable {World : Type} (platform : NodePlatform World)

/-- The exception that a callback throws. -/
def TeamClientNode.thrown (node : TeamClientNode World) : NodeEvent World → Option ErrorCode
  | .connectAtStart => exception? ((nodeConnect platform).result node).1
  | .networkMoves _ => none
  | .userSetsParameters _ => none
  | .userRequests request => exception? ((handleService platform request).result node).1
  | .userReconnects serverAddress =>
      exception? ((handleReconnectTeamClient platform serverAddress).result node).1
  | .pingTick => exception? ((pingCallback platform).result node).1

/-- What is seen of an event, if its callback returns. -/
def TeamClientNode.seen (node : TeamClientNode World) : NodeEvent World → Option Observation
  | .connectAtStart => ((nodeConnect platform).result node).1.toOption.map (.connects "")
  | .networkMoves _ => none
  | .userSetsParameters parameters => some (.configures parameters)
  | .userRequests request =>
      ((handleService platform request).result node).1.toOption.map (.serves request)
  | .userReconnects serverAddress =>
      ((handleReconnectTeamClient platform serverAddress).result node).1.toOption.map
        (.connects serverAddress)
  | .pingTick => ((pingCallback platform).result node).1.toOption.map .publishes

/-- What is seen of a transition. -/
def observationsOf (transition : Transition (TeamClientNode World) (NodeEvent World)) :
    List Observation :=
  (transition.before.seen platform transition.label).toList

/-- The callback of the transition returns. -/
def Returns (transition : Transition (TeamClientNode World) (NodeEvent World)) : Prop :=
  transition.before.thrown platform transition.label = none

instance (transition : Transition (TeamClientNode World) (NodeEvent World)) :
    Decidable (Returns platform transition) :=
  inferInstanceAs (Decidable (_ = none))

theorem ok_of_exception? {State Value : Type} {outcome : Except ErrorCode Value × State}
    (quiet : exception? outcome.1 = none) :
    ∃ value, outcome.1 = .ok value ∧ outcome = (.ok value, outcome.2) := by
  obtain ⟨error | value, next⟩ := outcome
  · cases quiet
  · exact ⟨value, rfl, rfl⟩

end Observation

/-! ## The connection that a session stands for -/

section Tracking

variable {World : Type} (platform : NodePlatform World)

/-- The last `Connect` of the record was with these parameters and completed its
handshake, and only requests and replies came after it. -/
structure RegisteredWith (parameters : ConnectionParameters) (client : TeamClient World) :
    Prop where
  isOpen : client.isOpen = true
  handshake : ∃ before events traffic,
    client.history = before ++ .connectCalled parameters :: (events ++ traffic) ∧
      Handshake platform.toPlatform parameters events ∧
      ∀ event ∈ traffic, event.isTraffic = true

/-- The client has a connection exactly if the session has one, and it is that one. -/
structure StandsFor (registered : Option ConnectionParameters) (client : TeamClient World) :
    Prop where
  connected : client.connected = registered.isSome
  registration : ∀ parameters, registered = some parameters →
    RegisteredWith platform parameters client

def TeamClientNode.parameters (node : TeamClientNode World) : ClientParameters where
  gcIpAddress := node.gcIpAddress
  gcPort := node.gcPort
  teamName := node.teamName
  teamColor := node.teamColor

structure Session.Tracks (session : Session) (node : TeamClientNode World) : Prop where
  configured : node.parameters = session.configured
  connection : StandsFor platform session.registered node.teamClient

variable {platform} {registered : Option ConnectionParameters}

theorem standsFor_none {client : TeamClient World} (disconnected : client.connected = false) :
    StandsFor platform none client :=
  ⟨disconnected, nofun⟩

/-- More traffic over the connection does not change what it stands for. -/
theorem StandsFor.traffic {before after : TeamClient World} {events : List Event}
    (stands : StandsFor platform registered before)
    (shows : after.Shows before.connected before.isOpen (before.history ++ events))
    (traffic : ∀ event ∈ events, event.isTraffic = true) : StandsFor platform registered after := by
  refine ⟨shows.connected.trans stands.connected, fun parameters isRegistered => ?_⟩
  have registration := stands.registration parameters isRegistered
  obtain ⟨earlier, handshake, more, layout, complete, quiet⟩ := registration.handshake
  refine ⟨shows.isOpen.trans registration.isOpen, earlier, handshake, more ++ events, ?_,
    complete, List.forall_mem_append.mpr ⟨quiet, traffic⟩⟩
  rw [shows.history, layout]
  simp only [List.append_assoc, List.cons_append]

/-! ## Each callback -/

theorem standsFor_sendRequest (request : TeamToController) :
    Keeps (StandsFor platform registered) (sendRequest platform.toPlatform request) := by
  intro client stands
  refine (sendRequest_spec platform.toPlatform client.connected client.isOpen client.history request
    client ⟨rfl, rfl, rfl⟩).imp ?_ ?_
  · rintro result next ⟨reply, shows, -⟩
    exact stands.traffic shows (by simp [Event.isTraffic])
  · exact fun error next shows => stands.traffic shows (by simp [Event.isTraffic])

/-- A call of the client leaves the parameters of the node alone. -/
theorem tracks_onClient {Value : Type} {session : Session} {action : Action World Value}
    (post : Value → Option ConnectionParameters)
    (triple : Triple (StandsFor platform session.registered) action
      (fun value => StandsFor platform (post value)) fun _ _ => True) :
    Triple (session.Tracks platform) (TeamClientNode.onClient action)
      (fun value => Session.Tracks platform { session with registered := post value })
      fun _ _ => True := by
  apply Triple.attempt
  intro node tracks
  have ends := triple node.teamClient tracks.connection
  generalize action.result node.teamClient = outcome at ends
  obtain ⟨error | value, client⟩ := outcome
  · trivial
  · exact ⟨tracks.configured, ends⟩

variable (platform) in
theorem standsFor_connect (parameters : ConnectionParameters) :
    Triple (fun _ => True) (connect platform.toPlatform parameters)
      (fun success => StandsFor platform (if success then some parameters else none))
      fun _ _ => True := by
  intro client _
  refine (connect_spec platform.toPlatform client.connected client.isOpen client.history parameters
    client ⟨rfl, rfl, rfl⟩).imp ?_ fun _ _ _ => trivial
  rintro success next ⟨nowOpen, events, shows, -, complete⟩
  cases success with
  | false => exact standsFor_none shows.connected
  | true =>
      obtain ⟨isOpen, handshake⟩ := complete rfl
      refine ⟨shows.connected, ?_⟩
      rintro _ ⟨⟩
      exact ⟨shows.isOpen.trans isOpen, client.history, events, [],
        by rw [shows.history, List.append_nil], handshake, nofun⟩

/-- The node's `Connect` is an attempt of the session. -/
theorem tracks_nodeConnect {session : Session} {node next : TeamClientNode World} {success : Bool}
    (tracks : session.Tracks platform node)
    (returned : (nodeConnect platform).result node = (.ok success, next)) :
    ∃ after, session.attempt platform success = some after ∧ after.Tracks platform next := by
  have address : node.gcIpAddress = session.configured.gcIpAddress :=
    congrArg ClientParameters.gcIpAddress tracks.configured
  unfold Session.attempt
  by_cases empty : node.gcIpAddress = ""
  · rw [nodeConnect_without_address platform empty] at returned
    cases returned
    rw [if_pos (address.symm.trans empty), if_pos rfl]
    exact ⟨session, rfl, tracks⟩
  rw [nodeConnect_with_address platform empty] at returned
  rw [if_neg (address ▸ empty), ← address]
  cases parses : platform.addressFromString node.gcIpAddress with
  | none =>
      rw [parses] at returned
      cases returned
  | some parsed =>
      simp only [parses] at returned
      have connection : connectionParameters platform node parsed =
          session.connection platform parsed := by
        rw [Session.connection, ← tracks.configured]
        rfl
      have ends := tracks_onClient _ ((standsFor_connect platform
        (connectionParameters platform node parsed)).weaken (fun _ _ => trivial) (fun _ _ => id)
          fun _ _ => id) node tracks
      rw [returned, connection] at ends
      exact ⟨_, rfl, ends⟩

theorem tracks_handleReconnectTeamClient {session : Session} {node next : TeamClientNode World}
    {serverAddress : String} {success : Bool} (tracks : session.Tracks platform node)
    (returned : (handleReconnectTeamClient platform serverAddress).result node =
      (.ok success, next)) :
    ∃ after, (session.directed serverAddress).attempt platform success = some after ∧
      after.Tracks platform next := by
  rw [handleReconnectTeamClient_eq] at returned
  refine tracks_nodeConnect ?_ returned
  unfold Session.directed
  split
  · exact tracks
  · exact ⟨by rw [← tracks.configured]; rfl, tracks.connection⟩

theorem tracks_handleService {session : Session} {node next : TeamClientNode World}
    {request : ServiceRequest} {response : ServiceResponse} (tracks : session.Tracks platform node)
    (returned : (handleService platform request).result node = (.ok response, next)) :
    ∃ after, session.observe platform (.serves request response) = some after ∧
      after.Tracks platform next := by
  cases connected : node.teamClient.connected with
  | false =>
      rw [handleService_disconnected platform connected] at returned
      cases returned
      exact ⟨session, if_pos (Bool.or_eq_true_iff.mpr (Or.inr (decide_eq_true rfl))), tracks⟩
  | true =>
      have registered := tracks.connection.connected.symm.trans connected
      refine ⟨session, if_pos (by rw [registered]; rfl), ?_⟩
      have served : Triple (session.Tracks platform) (handleService platform request)
          (fun _ => session.Tracks platform) fun _ _ => True := by
        rw [handleService_eq]
        refine (Keeps.look _).before (fun _ _ _ => trivial) fun isConnected => ?_
        cases isConnected with
        | false => exact Triple.pure fun _ => id
        | true =>
            refine Triple.bind _ (tracks_onClient (fun _ => session.registered)
              ((standsFor_sendRequest _).weaken (fun _ => id) (fun _ _ => id)
                fun _ _ _ => trivial)) fun _ => ?_
            exact Triple.pure fun _ => id
      have ends := served node tracks
      rwa [returned] at ends

theorem standsFor_ping : Keeps (StandsFor platform registered) (ping platform.toPlatform) := by
  refine (Keeps.look _).bind fun sendTime => ?_
  refine (standsFor_sendRequest _).bind fun requestResult => ?_
  exact (Keeps.look _).bind fun replyTime => .pure _

theorem standsFor_disconnect :
    Triple (fun _ => True) (disconnect platform.toPlatform)
      (fun _ => StandsFor platform none) fun _ _ => True := by
  intro client _
  refine (disconnect_spec platform.toPlatform client.connected client.isOpen client.history
    client ⟨rfl, rfl, rfl⟩).imp ?_ fun _ _ _ => trivial
  exact fun _ next shows => standsFor_none shows.connected

/-- A connection outlives exactly the pings that are published as answered. -/
theorem tracks_ping {session : Session} (registered : session.registered.isSome = true) :
    Triple (session.Tracks platform) (pingCallback platform)
      (fun status => Session.Tracks platform
        { session with registered := if status.connected then session.registered else none })
      fun _ _ => True := by
  refine Triple.bind (fun value node => session.Tracks platform node ∧ value = true)
    (Triple.step fun node tracks =>
      ⟨tracks, tracks.connection.connected.trans registered⟩) fun value => ?_
  apply Triple.of_fact
  rintro rfl
  refine Triple.bind _ (tracks_onClient (fun _ => session.registered)
    (standsFor_ping.weaken (fun _ => id) (fun _ _ => id) fun _ _ _ => trivial)) fun result => ?_
  cases accepted : result.requestResult.accepted with
  | true => exact Triple.pure fun _ => id
  | false =>
      refine Triple.bind _ (tracks_onClient (fun _ => none)
        (standsFor_disconnect.weaken (fun _ _ => trivial) (fun _ _ => id) fun _ _ => id))
        fun _ => ?_
      exact Triple.pure fun _ => id

theorem tracks_pingCallback {session : Session} {node next : TeamClientNode World}
    {status : ConnectionStatus} (tracks : session.Tracks platform node)
    (returned : (pingCallback platform).result node = (.ok status, next)) :
    ∃ after, session.observe platform (.publishes status) = some after ∧
      after.Tracks platform next := by
  cases connection : session.registered with
  | none =>
      have disconnected : node.teamClient.connected = false := by
        rw [tracks.connection.connected, connection]
        rfl
      rw [pingCallback_disconnected platform disconnected] at returned
      cases returned
      exact ⟨session, by simp only [Session.observe, connection, if_true], tracks⟩
  | some parameters =>
      have ends := tracks_ping (Option.isSome_iff_exists.mpr ⟨parameters, connection⟩) node tracks
      rw [returned, connection] at ends
      exact ⟨_, by simp only [Session.observe, connection], ends⟩

/-! ## Runs -/

/-- A single observation is made, and the session allows it. -/
theorem run_seen {session next : Session}
    {transition : Transition (TeamClientNode World) (NodeEvent World)} (observation : Observation)
    (seen : transition.before.seen platform transition.label = some observation)
    (allowed : session.observe platform observation = some next) :
    (Session.protocol platform).run session (observationsOf platform transition) = some next := by
  rw [observationsOf, seen, Option.toList_some, Protocol.run_singleton]
  exact allowed

/-- The node follows its session, one case for each kind of event. -/
theorem tracks_step {node after : TeamClientNode World} {event : NodeEvent World}
    {session : Session} (tracks : session.Tracks platform node)
    (step : NodeStep platform node event after) (returns : Returns platform ⟨node, event, after⟩) :
    ∃ next, (Session.protocol platform).run session
        (observationsOf platform ⟨node, event, after⟩) = some next ∧
      next.Tracks platform after := by
  obtain rfl := step.eq
  cases event with
  | networkMoves world =>
      exact ⟨session, rfl, tracks.configured, tracks.connection.connected, fun parameters same =>
        ⟨(tracks.connection.registration parameters same).isOpen,
          (tracks.connection.registration parameters same).handshake⟩⟩
  | userSetsParameters parameters => exact ⟨_, rfl, rfl, tracks.connection⟩
  | connectAtStart =>
      obtain ⟨success, ok, returned⟩ := ok_of_exception? returns
      obtain ⟨next, allowed, later⟩ := tracks_nodeConnect tracks returned
      refine ⟨next, run_seen (.connects "" success) ?_ allowed, later⟩
      simp only [TeamClientNode.seen, ok]
      rfl
  | userRequests request =>
      obtain ⟨response, ok, returned⟩ := ok_of_exception? returns
      obtain ⟨next, allowed, later⟩ := tracks_handleService tracks returned
      refine ⟨next, run_seen _ ?_ allowed, later⟩
      simp only [TeamClientNode.seen, ok]
      rfl
  | userReconnects serverAddress =>
      obtain ⟨success, ok, returned⟩ := ok_of_exception? returns
      obtain ⟨next, allowed, later⟩ := tracks_handleReconnectTeamClient tracks returned
      refine ⟨next, run_seen (.connects serverAddress success) ?_ allowed, later⟩
      simp only [TeamClientNode.seen, ok]
      rfl
  | pingTick =>
      obtain ⟨status, ok, returned⟩ := ok_of_exception? returns
      obtain ⟨next, allowed, later⟩ := tracks_pingCallback tracks returned
      refine ⟨next, run_seen _ ?_ allowed, later⟩
      simp only [TeamClientNode.seen, ok]
      rfl

variable (platform) in
def sessionSimulation : Simulation (NodeStep platform) (Session.protocol platform)
    (observationsOf platform) (Returns platform) where
  related := fun node session => session.Tracks platform node
  matched := tracks_step

theorem tracks_initial (parameters : ClientParameters) (world : World) :
    Session.Tracks platform { configured := parameters } (.initial parameters world) :=
  ⟨rfl, standsFor_none rfl⟩

/--
In every run whose callbacks return, what is seen of the node is allowed by the
protocol of its session, and the state of the protocol then tells whether the
client is connected, and for which parameters the controller has registered it.
-/
theorem seen_follows_session {parameters : ClientParameters} {world : World}
    {transitions : List (Transition (TeamClientNode World) (NodeEvent World))}
    {last : TeamClientNode World} (run : NodeRun platform parameters world transitions last)
    (returns : ∀ transition ∈ transitions, Returns platform transition) :
    ∃ session, (Session.protocol platform).run { configured := parameters }
        (transitions.flatMap (observationsOf platform)) = some session ∧
      session.Tracks platform last :=
  (sessionSimulation platform).execution run returns (tracks_initial parameters world)

/-! ## Without a connection -/

/-- The observation tells that there is no connection. -/
def Observation.loses : Observation → Bool
  | .connects _ success => !success
  | .publishes status => !status.connected
  | _ => false

def Observation.recovers : Observation → Bool
  | .connects _ success => success
  | _ => false

/-- The observation is one of those without a connection. -/
def Observation.Refused : Observation → Prop
  | .serves _ response => response = notConnected
  | .publishes status => status = { connected := false }
  | _ => True

namespace Session

variable {session next : Session} {observation : Observation}

theorem attempt_failed (allowed : session.attempt platform false = some next) :
    next.registered = none := by
  unfold attempt at allowed
  split at allowed
  · cases allowed
  · obtain ⟨address, -, rfl⟩ := Option.map_eq_some_iff.mp allowed
    rfl

theorem lost_of_loses (allowed : session.observe platform observation = some next)
    (loses : observation.loses = true) : next.registered = none := by
  cases observation with
  | configures => cases loses
  | serves => cases loses
  | connects serverAddress success =>
      obtain rfl : success = false := by simpa [Observation.loses] using loses
      exact attempt_failed allowed
  | publishes status =>
      have negative : status.connected = false := by simpa [Observation.loses] using loses
      unfold Session.observe at allowed
      cases connection : session.registered with
      | none =>
          simp only [connection] at allowed
          split at allowed <;> cases allowed
          exact connection
      | some parameters =>
          simp only [connection, negative] at allowed
          cases allowed
          rfl

/-- Without a connection there is nothing else to see, and it stays so. -/
theorem refused_of_lost (lost : session.registered = none)
    (allowed : session.observe platform observation = some next) :
    observation.Refused ∧ (observation.recovers = false → next.registered = none) := by
  cases observation with
  | configures parameters =>
      cases allowed
      exact ⟨trivial, fun _ => lost⟩
  | connects serverAddress success =>
      refine ⟨trivial, fun failed => ?_⟩
      obtain rfl : success = false := failed
      exact attempt_failed allowed
  | serves request response =>
      simp only [Session.observe, lost, Option.isSome_none, Bool.false_or] at allowed
      split at allowed
      · next refusal =>
          cases allowed
          exact ⟨show response = notConnected from of_decide_eq_true refusal, fun _ => lost⟩
      · cases allowed
  | publishes status =>
      simp only [Session.observe, lost] at allowed
      split at allowed
      · next negative =>
          cases allowed
          exact ⟨negative, fun _ => lost⟩
      · cases allowed

end Session

/--
Once a status or a failed attempt has told that there is no connection, every
request is refused and every status is negative until an attempt succeeds, in
every run whose callbacks return.
-/
theorem refused_until_recovered {parameters : ClientParameters} {world : World}
    {transitions : List (Transition (TeamClientNode World) (NodeEvent World))}
    {last : TeamClientNode World} (run : NodeRun platform parameters world transitions last)
    (returns : ∀ transition ∈ transitions, Returns platform transition)
    {front middle back : List Observation} {lost seen : Observation}
    (observations : transitions.flatMap (observationsOf platform) =
      front ++ lost :: (middle ++ seen :: back))
    (loses : lost.loses = true)
    (unrecovered : ∀ observation ∈ middle, observation.recovers = false) :
    seen.Refused := by
  obtain ⟨session, allowed, -⟩ :=
    (sessionSimulation platform).execution run returns (tracks_initial parameters world)
  rw [observations] at allowed
  obtain ⟨before, after, -, losing, rest⟩ := Protocol.run_split allowed
  obtain ⟨still, next, reached, shown, -⟩ := Protocol.run_split rest
  have lost := Protocol.run_invariant (fun session => session.registered = none)
    (fun observation => observation.recovers = false)
    (fun lost unrecovered allowed => (Session.refused_of_lost lost allowed).2 unrecovered)
    reached (Session.lost_of_loses losing loses) unrecovered
  exact (Session.refused_of_lost lost shown).1

end Tracking

/-! ## A ping without an answer -/

/-- The controller accepts the client and answers no ping. -/
def lostRun : List (Transition (TeamClientNode Script) (NodeEvent Script)) :=
  let connected := acceptedNode.after scriptedNode .connectAtStart
  let lost := connected.after scriptedNode .pingTick
  [⟨acceptedNode, .connectAtStart, connected⟩, ⟨connected, .pingTick, lost⟩,
    ⟨lost, .userRequests .substituteBot, lost.after scriptedNode (.userRequests .substituteBot)⟩]

theorem nodeRun_lostRun :
    NodeRun scriptedNode { gcIpAddress := "10.0.0.1" } admitting lostRun
      (acceptedNode.afterAll scriptedNode
        [.connectAtStart, .pingTick, .userRequests .substituteBot]) :=
  .step (.happens _ _) (.step (.happens _ _) (.step (.happens _ _) (.stop _)))

theorem returns_lostRun : ∀ transition ∈ lostRun, Returns scriptedNode transition := by
  decide +kernel

theorem observationsOf_lostRun : lostRun.flatMap (observationsOf scriptedNode) =
    [.connects "" true, .publishes ⟨false, 10⟩, .serves .substituteBot notConnected] := by
  decide +kernel

theorem seen_follows_session_lost :
    ∃ session, (Session.protocol scriptedNode).run { configured := { gcIpAddress := "10.0.0.1" } }
        (lostRun.flatMap (observationsOf scriptedNode)) = some session ∧
      session.Tracks scriptedNode (acceptedNode.afterAll scriptedNode
        [.connectAtStart, .pingTick, .userRequests .substituteBot]) :=
  seen_follows_session nodeRun_lostRun returns_lostRun

/-- What is observed last, after the status that tells the loss. -/
theorem refused_until_recovered_lost :
    ∃ front lost seen, lostRun.flatMap (observationsOf scriptedNode) = front ++ [lost, seen] ∧
      lost.loses = true ∧ seen.Refused := by
  have observations : lostRun.flatMap (observationsOf scriptedNode) =
      [.connects "" true] ++ .publishes ⟨false, 10⟩ ::
        ([] ++ .serves .substituteBot notConnected :: []) := observationsOf_lostRun
  exact ⟨_, _, _, observations, rfl,
    refused_until_recovered nodeRun_lostRun returns_lostRun observations rfl nofun⟩

end SslRosBridge.GameControllerBridge
