import SslRosBridge.GameControllerBridge.Steps

/-!
# A connected client is registered

The connection flag is only true over an open socket whose last `Connect` went
through the whole handshake, with nothing but requests and replies since.
-/

namespace SslRosBridge.GameControllerBridge

open Library Library.Computation

/-- A request that was written or attempted, or the outcome of a wait for a reply. -/
def Event.isTraffic : Event → Bool
  | .wrote _ _ => true
  | .received _ => true
  | _ => false

section Registered

variable {World : Type} (platform : Platform World)

/-- The last `Connect` of the record completed its handshake, and neither
`Disconnect` nor any close came after it. -/
structure Registered (client : TeamClient World) : Prop where
  isOpen : client.isOpen = true
  handshake : ∃ before parameters events traffic,
    client.history = before ++ .connectCalled parameters :: (events ++ traffic) ∧
      Handshake platform parameters events ∧ ∀ event ∈ traffic, event.isTraffic = true

def Consistent (client : TeamClient World) : Prop :=
  client.connected = true → Registered platform client

theorem consistent_of_disconnected {client : TeamClient World}
    (disconnected : client.connected = false) : Consistent platform client :=
  fun connected => absurd (disconnected.symm.trans connected) nofun

/-- More traffic leaves a registered client registered. -/
theorem Consistent.traffic {before after : TeamClient World} {events : List Event}
    (consistent : Consistent platform before)
    (shows : after.Shows before.connected before.isOpen (before.history ++ events))
    (traffic : ∀ event ∈ events, event.isTraffic = true) : Consistent platform after := by
  intro connected
  have registered := consistent (shows.connected.symm.trans connected)
  obtain ⟨earlier, parameters, handshake, more, layout, complete, quiet⟩ := registered.handshake
  refine ⟨shows.isOpen.trans registered.isOpen,
    earlier, parameters, handshake, more ++ events, ?_, complete, ?_⟩
  · rw [shows.history, layout]
    simp only [List.append_assoc, List.cons_append]
  · exact List.forall_mem_append.mpr ⟨quiet, traffic⟩

/-! ## Each operation keeps the invariant -/

theorem consistent_connect (parameters : ConnectionParameters) :
    Keeps (Consistent platform) (connect platform parameters) := by
  intro client _
  refine (connect_spec platform client.connected client.isOpen client.history parameters client
    ⟨rfl, rfl, rfl⟩).imp ?_ ?_
  · rintro value next ⟨nowOpen, events, shows, -, success⟩ connected
    obtain ⟨isOpen, handshake⟩ := success (shows.connected.symm.trans connected)
    exact ⟨shows.isOpen.trans isOpen, client.history, parameters, events, [],
      by rw [shows.history, List.append_nil], handshake, nofun⟩
  · rintro error next ⟨nowOpen, events, shows, -⟩
    exact consistent_of_disconnected platform shows.connected

theorem consistent_disconnect :
    Keeps (Consistent platform) (disconnect platform) := by
  intro client _
  refine (disconnect_spec platform client.connected client.isOpen client.history client
    ⟨rfl, rfl, rfl⟩).imp ?_ ?_
  · exact fun _ next shows => consistent_of_disconnected platform shows.connected
  · exact fun _ next shows => consistent_of_disconnected platform shows.connected

theorem consistent_sendRequest (request : TeamToController) :
    Keeps (Consistent platform) (sendRequest platform request) := by
  intro client consistent
  refine (sendRequest_spec platform client.connected client.isOpen client.history request client
    ⟨rfl, rfl, rfl⟩).imp ?_ ?_
  · rintro result next ⟨reply, shows, -⟩
    exact consistent.traffic platform shows (by simp [Event.isTraffic])
  · exact fun error next shows => consistent.traffic platform shows (by simp [Event.isTraffic])

theorem consistent_ping : Keeps (Consistent platform) (ping platform) := by
  refine (Keeps.look _).bind ?_
  intro sendTime
  refine (consistent_sendRequest platform _).bind ?_
  intro requestResult
  exact (Keeps.look _).bind fun replyTime => .pure _

theorem consistent_perform (operation : Operation) :
    Keeps (Consistent platform) (perform platform operation) := by
  cases operation with
  | connect parameters => exact (consistent_connect platform parameters).bind fun _ => .pure _
  | disconnect => exact (consistent_disconnect platform).bind fun _ => .pure _
  | setDesiredKeeper keeperId => exact (consistent_sendRequest platform _).bind fun _ => .pure _
  | requestBotSubstitution => exact (consistent_sendRequest platform _).bind fun _ => .pure _
  | setAdvantageChoice choice => exact (consistent_sendRequest platform _).bind fun _ => .pure _
  | ping => exact (consistent_ping platform).bind fun _ => .pure _

/-- The induction over the operations of a run. -/
theorem consistent_run {client last : TeamClient World}
    {results : List (Except ErrorCode Reported)} (run : Run platform client results last)
    (consistent : Consistent platform client) : Consistent platform last := by
  induction run with
  | stop => exact consistent
  | wait world later ih =>
      exact ih fun connected => ⟨(consistent connected).isOpen, (consistent connected).handshake⟩
  | perform operation later ih =>
      exact ih ((consistent_perform platform operation).result consistent)

/-! ## The callbacks of the node -/

/-- The invariant of the node's client. -/
def TeamClientNode.ConsistentClient (platform : NodePlatform World)
    (node : TeamClientNode World) : Prop :=
  Consistent platform.toPlatform node.teamClient

theorem consistent_onClient {Value : Type} (platform : NodePlatform World)
    {action : Action World Value} (keeps : Keeps (Consistent platform.toPlatform) action) :
    Keeps (TeamClientNode.ConsistentClient platform) (TeamClientNode.onClient action) :=
  onClient_spec keeps

theorem consistent_nodeConnect (platform : NodePlatform World) :
    Keeps (TeamClientNode.ConsistentClient platform) (nodeConnect platform) := by
  intro node consistent
  by_cases empty : node.gcIpAddress = ""
  · rw [nodeConnect_without_address platform empty]
    exact consistent
  rw [nodeConnect_with_address platform empty]
  cases platform.addressFromString node.gcIpAddress with
  | none => exact consistent
  | some address =>
      exact consistent_onClient platform (consistent_connect platform.toPlatform _) node consistent

theorem consistent_handleReconnectTeamClient (platform : NodePlatform World)
    (serverAddress : String) :
    Keeps (TeamClientNode.ConsistentClient platform)
      (handleReconnectTeamClient platform serverAddress) := by
  intro node consistent
  rw [handleReconnectTeamClient_eq]
  refine consistent_nodeConnect platform _ ?_
  split <;> exact consistent

theorem consistent_whenConnected (platform : NodePlatform World) {request : Action World Result}
    (keeps : Keeps (Consistent platform.toPlatform) request) :
    Keeps (TeamClientNode.ConsistentClient platform) (whenConnected request) := by
  refine (Keeps.look _).bind ?_
  intro connected
  cases connected with
  | false => exact .pure _
  | true => exact (consistent_onClient platform keeps).bind fun _ => .pure _

theorem consistent_pingCallback (platform : NodePlatform World) :
    Keeps (TeamClientNode.ConsistentClient platform) (pingCallback platform) := by
  refine (Keeps.look _).bind ?_
  intro connected
  cases connected with
  | false => exact .pure _
  | true =>
      have pings := consistent_onClient platform (consistent_ping platform.toPlatform)
      have disconnects := consistent_onClient platform (consistent_disconnect platform.toPlatform)
      apply pings.bind
      intro result
      cases result.requestResult.accepted with
      | true => exact .pure _
      | false => exact disconnects.bind fun _ => .pure _

/-- The status that is published shows the flag as it is then. -/
theorem pingCallback_published (platform : NodePlatform World) {node next : TeamClientNode World}
    {status : ConnectionStatus}
    (published : (pingCallback platform).result node = (.ok status, next)) :
    status.connected = next.teamClient.connected := by
  cases connected : node.teamClient.connected with
  | false =>
      rw [pingCallback_disconnected platform connected] at published
      cases published
      exact connected.symm
  | true =>
      have ends := pingCallback_spec node.teamClient.isOpen node.teamClient.history platform node
        ⟨connected, rfl, rfl⟩
      rw [published] at ends
      obtain ⟨reply, -, shows⟩ := ends
      split at shows
      · next isTrue => exact isTrue.trans shows.connected.symm
      · next isFalse => exact (Bool.eq_false_iff.mpr isFalse).trans shows.connected.symm

/--
In every state that a run of operations reaches, whatever the network did, a
connected client is registered; and every status that the timer callback
publishes has the flag of that moment.
-/
theorem connected_registered_and_published (platform : NodePlatform World) (world : World) :
    (∀ results client, Run platform.toPlatform (.initial world) results client →
      client.connected = true → Registered platform.toPlatform client) ∧
    ∀ node status next, (pingCallback platform).result node = (.ok status, next) →
      status.connected = next.teamClient.connected :=
  ⟨fun _ _ run => consistent_run platform.toPlatform run
      (consistent_of_disconnected platform.toPlatform rfl),
    fun _ _ _ => pingCallback_published platform⟩

end Registered

/-- A greeting and a registration reply, both `OK`, and no answer to a ping. -/
theorem connected_registered_scripted :
    let parameters : ConnectionParameters := ⟨⟨[10, 0, 0, 1]⟩, 10008, "A-Team", .blue⟩
    let world : Script :=
      { incoming := [(3, StatusCode.ok.reply)], answers := [(4, StatusCode.ok.reply)] }
    let client := ((perform scripted (.connect parameters)).result (.initial world)).2
    Registered scripted client ∧
      ∃ next,
        (pingCallback scriptedNode).result { teamClient := client } = (.ok ⟨false, 10⟩, next) ∧
        next.teamClient.connected = false := by
  intro parameters world client
  have both := connected_registered_and_published scriptedNode world
  have published := result_eq_of_toOption (pingCallback scriptedNode)
    { teamClient := client } ⟨false, 10⟩ (by decide +kernel)
  refine ⟨both.1 _ client (.perform (.connect parameters) (.stop _)) (by decide +kernel), _,
    published, ?_⟩
  exact (both.2 _ _ _ published).symm

end SslRosBridge.GameControllerBridge
