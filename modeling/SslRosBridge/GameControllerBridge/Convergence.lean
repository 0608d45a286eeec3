import SslRosBridge.GameControllerBridge.Correspondence

/-!
# When the bridge's belief is right again

The belief lags behind the connection: statuses are under way, and a late
response can overtake the status of a connection that has been lost since.  A
ping puts it right, as soon as its status has arrived.
-/

namespace SslRosBridge.GameControllerBridge

open Library Library.Computation

section Convergence

variable {World Message : Type}

/-- What the bridge will believe when the statuses under way have arrived. -/
def Nodes.expected (nodes : Nodes World Message)
    (bridge : GCMulticastBridgeNode Message (TeamClient World)) : Bool :=
  nodes.statuses.foldl (fun _ message => message.status.connected) bridge.teamClientConnected

/-- The last status under way decides, so another belief in front of them makes
no difference unless there is none. -/
theorem foldl_status {statuses : List (StatusMessage (TeamClient World))}
    {belief other connected : Bool}
    (expected : statuses.foldl (fun _ message => message.status.connected) belief = connected)
    (same : other = belief ∨ other = connected) :
    statuses.foldl (fun _ message => message.status.connected) other = connected := by
  cases statuses with
  | nil =>
      rcases same with rfl | rfl
      · exact expected
      · rfl
  | cons message later => exact expected

/-! ## What a step does to the belief -/

/-- A status is published with the flag of that moment, one arrives, a positive
response is taken, or nothing happens to statuses and belief. -/
inductive FlagMove (before : Nodes World Message)
    (bridge : GCMulticastBridgeNode Message (TeamClient World)) (after : Nodes World Message)
    (next : GCMulticastBridgeNode Message (TeamClient World)) : Prop where
  | keeps (statuses : after.statuses = before.statuses)
      (belief : next.teamClientConnected = bridge.teamClientConnected)
  | publishes {message : StatusMessage (TeamClient World)}
      (statuses : after.statuses = before.statuses ++ [message])
      (belief : next.teamClientConnected = bridge.teamClientConnected)
      (truthful : message.status.connected = after.client.isConnected)
  | arrives {message : StatusMessage (TeamClient World)}
      (statuses : before.statuses = message :: after.statuses)
      (belief : next.teamClientConnected = message.status.connected)
  | raises {awaited : ServiceFuture (TeamClient World)}
      {response : ReconnectResponse (TeamClient World)}
      (waiting : before.waiting? = some awaited) (answered : awaited.response = some response)
      (success : response.success = true) (statuses : after.statuses = before.statuses)
      (belief : next.teamClientConnected = true)

/-- A callback of the client that publishes nothing. -/
theorem flagMove_callback {Value : Type} {before nodes : Nodes World Message}
    {bridge : GCMulticastBridgeNode Message (TeamClient World)}
    (running : nodes.bridge = some bridge) (statuses : nodes.statuses = before.statuses)
    (outcome : Except ErrorCode Value × TeamClientNode World)
    {send : Value → TeamClientNode World → Nodes World Message → Nodes World Message}
    (kept : ∀ value node nodes, (send value node nodes).bridge = nodes.bridge ∧
      (send value node nodes).statuses = nodes.statuses) :
    ∃ next, (nodes.afterCallback outcome send).bridge = some next ∧
      FlagMove before bridge (nodes.afterCallback outcome send) next := by
  obtain ⟨error | value, node⟩ := outcome
  · exact ⟨bridge, running, .keeps statuses rfl⟩
  · obtain ⟨same, quiet⟩ := kept value node (nodes.clientRuns node)
    exact ⟨bridge, same.trans running, .keeps (quiet.trans statuses) rfl⟩

variable {platform : NodePlatform World} {bridgePlatform : BridgePlatform}

/-- The status of a ping that returns is under way, with the client's flag. -/
theorem flagMove_pingTick {nodes : Nodes World Message} {node : TeamClientNode World}
    {bridge : GCMulticastBridgeNode Message (TeamClient World)}
    (running : nodes.bridge = some bridge) :
    (nodes.afterCallback ((pingCallback platform).result node) Nodes.sendStatus).bridge =
        some bridge ∧
      FlagMove nodes bridge
        (nodes.afterCallback ((pingCallback platform).result node) Nodes.sendStatus) bridge := by
  generalize published : (pingCallback platform).result node = outcome
  obtain ⟨error | status, next⟩ := outcome
  · exact ⟨running, .keeps rfl rfl⟩
  · have truthful := pingCallback_published platform published
    have sent : nodes.afterCallback (.ok status, next) Nodes.sendStatus =
        { nodes.clientRuns next with
          statuses := nodes.statuses ++ [⟨status, next.teamClient⟩] } := by
      simp only [Nodes.afterCallback, Nodes.sendStatus, Nodes.clientRuns, running]
    rw [sent]
    exact ⟨running, .publishes rfl rfl truthful⟩

theorem flag_move {before after : Nodes World bridgePlatform.Message} {event : NodesEvent World}
    (step : NodesStep platform bridgePlatform before event after) (same : event ≠ .startBridge)
    {bridge : GCMulticastBridgeNode bridgePlatform.Message (TeamClient World)}
    (running : before.bridge = some bridge) :
    ∃ next, after.bridge = some next ∧ FlagMove before bridge after next := by
  cases step with
  | startBridge => exact absurd rfl same
  | startClient => exact ⟨bridge, running, .keeps rfl rfl⟩
  | connectAtStart => exact flagMove_callback running rfl _ fun _ _ _ => ⟨rfl, rfl⟩
  | networkMoves => exact ⟨bridge, running, .keeps rfl rfl⟩
  | timePasses => exact ⟨bridge, running, .keeps rfl rfl⟩
  | userSetsParameters => exact ⟨bridge, running, .keeps rfl rfl⟩
  | userReconnects => exact flagMove_callback running rfl _ fun _ _ _ => ⟨rfl, rfl⟩
  | userRequests => exact flagMove_callback running rfl _ fun _ _ _ => ⟨rfl, rfl⟩
  | pingTick => exact ⟨bridge, flagMove_pingTick running⟩
  | handleRequest index =>
      have taken : ({ before with requests := before.requests.eraseIdx index } :
        Nodes World bridgePlatform.Message).bridge = some bridge := running
      refine flagMove_callback taken ?_ _ ?_
      · rfl
      · exact fun _ _ _ => ⟨rfl, rfl⟩
  | @refereePacket _ _ request _ buffer serviceIsReady up idle named callback =>
      obtain rfl := Option.some.inj (running.symm.trans up)
      have belief := (GCMulticastBridgeNode.publishMulticastMessage_cases _ _ callback).1
      refine ⟨_, rfl, .keeps ?_ belief⟩
      cases request <;> rfl
  | deliverStatus up arrives =>
      obtain rfl := Option.some.inj (running.symm.trans up)
      exact ⟨_, rfl, .arrives arrives rfl⟩
  | deliverResponse index up arrives =>
      obtain rfl := Option.some.inj (running.symm.trans up)
      exact ⟨_, rfl, .keeps rfl (bridge.receiveResponse_teamClientConnected _)⟩
  | @resume bridge' awaited response up waiting answered =>
      obtain rfl := Option.some.inj (running.symm.trans up)
      refine ⟨_, rfl, ?_⟩
      cases success : response.success with
      | false =>
          refine .keeps rfl ?_
          rw [GCMulticastBridgeNode.resume, success]
          rfl
      | true =>
          refine .raises (by rw [Nodes.waiting?, running]; exact waiting) answered success rfl ?_
          rw [GCMulticastBridgeNode.resume, success]
          rfl
  | giveUp up waiting unanswered late =>
      obtain rfl := Option.some.inj (running.symm.trans up)
      exact ⟨_, rfl, .keeps rfl rfl⟩

/-! ## Towards the connection flag -/

/-- The statuses under way lead to this belief, and only responses to requests
from this number on can still be taken, none of which leads away from it. -/
structure Settles (connected : Bool) (start : Nat) (nodes : Nodes World Message) : Prop where
  numbered : nodes.Numbered
  started : start ≤ nodes.nextNumber
  bridge : ∃ bridge, nodes.bridge = some bridge ∧ nodes.expected bridge = connected
  responses : ∀ response ∈ nodes.responses, start ≤ response.number →
    response.success = true → connected = true
  waiting : ∀ future, nodes.waiting? = some future →
    (connected = false → start ≤ future.number) ∧
    ∀ response, future.response = some response → response.success = true → connected = true

section Moves

variable {connected : Bool} {start : Nat} {before after : Nodes World Message}
variable {event : NodesEvent World}

/-- What is said of the responses survives a step of the mail, since a response
shows the flag that it leaves behind. -/
theorem Settles.mail (settles : Settles connected start before)
    (move : MailMove platform before event after)
    (steady : after.client.isConnected = connected) :
    start ≤ after.nextNumber ∧
    (∀ response ∈ after.responses, start ≤ response.number → response.success = true →
      connected = true) ∧
    ∀ future, after.waiting? = some future →
      (connected = false → start ≤ future.number) ∧
      ∀ response, future.response = some response → response.success = true →
        connected = true := by
  have started := settles.started
  cases move with
  | rests number requests responses waiting =>
      refine ⟨by omega, responses ▸ settles.responses, fun future waits => ?_⟩
      exact settles.waiting future (waiting future waits).1
  | sends named number requests responses waiting =>
      refine ⟨by omega, responses ▸ settles.responses, fun future waits => ?_⟩
      obtain rfl := Option.some.inj (waiting.symm.trans waits)
      exact ⟨fun _ => started, nofun⟩
  | @executes index request node next success running arrives returned =>
      refine ⟨started, List.forall_mem_append.mpr ⟨settles.responses,
        List.forall_mem_singleton.mpr fun _ positive => ?_⟩, settles.waiting⟩
      obtain rfl : success = true := positive
      have nonempty := (settles.numbered.requests request (List.mem_of_getElem? arrives)).2
      exact steady.symm.trans (connected_of_reconnected nonempty returned)
  | @delivers index response bridge running arrives =>
      have inside := List.mem_of_getElem? arrives
      refine ⟨started, fun other member =>
        settles.responses other (List.mem_of_mem_eraseIdx member), fun future waits => ?_⟩
      obtain ⟨earlier, waited, number, answer⟩ := receiveResponse_waiting waits
      have waits_before : before.waiting? = some earlier := by
        rw [Nodes.waiting?, running]
        exact waited
      obtain ⟨own, answered⟩ := settles.waiting earlier waits_before
      rw [number] at own
      refine ⟨own, fun got has positive => ?_⟩
      rcases answer with same | ⟨new, theirs⟩
      · exact answered got (same.symm.trans has) positive
      · obtain rfl := Option.some.inj (new.symm.trans has)
        cases connected with
        | true => rfl
        | false => exact settles.responses _ inside (theirs ▸ own rfl) positive

/-- What is said of the belief survives a step of the belief. -/
theorem Settles.flag (settles : Settles connected start before)
    {bridge next : GCMulticastBridgeNode Message (TeamClient World)}
    (expected : before.expected bridge = connected) (move : FlagMove before bridge after next)
    (steady : after.client.isConnected = connected) : after.expected next = connected := by
  unfold Nodes.expected at expected ⊢
  cases move with
  | keeps statuses belief => rwa [statuses, belief]
  | publishes statuses belief truthful =>
      rw [statuses, List.foldl_append]
      exact truthful.trans steady
  | arrives statuses belief =>
      rw [statuses] at expected
      rw [belief]
      exact expected
  | raises waiting answered success statuses belief =>
      rw [statuses, belief]
      have positive := (settles.waiting _ waiting).2 _ answered success
      exact foldl_status expected (Or.inr positive.symm)

end Moves

/-- The bridge stays up, and the client's connection as it is. -/
def Steady (connected : Bool) (transition : Transition (Nodes World Message) (NodesEvent World)) :
    Prop :=
  transition.label ≠ .startBridge ∧ transition.after.client.isConnected = connected

theorem settles_step {connected : Bool} {start : Nat}
    {before after : Nodes World bridgePlatform.Message} {event : NodesEvent World}
    (settles : Settles connected start before)
    (step : NodesStep platform bridgePlatform before event after)
    (steady : Steady connected ⟨before, event, after⟩) : Settles connected start after := by
  obtain ⟨same, flag⟩ := steady
  have move := mail_move step
  obtain ⟨started, responses, waiting⟩ := settles.mail move flag
  obtain ⟨bridge, running, expected⟩ := settles.bridge
  obtain ⟨next, runs, belief⟩ := flag_move step same running
  exact ⟨numbered_move settles.numbered move, started,
    ⟨next, runs, settles.flag expected belief flag⟩, responses, waiting⟩

/-- A ping that returns leaves its own status as the last one under way. -/
theorem settles_of_ping {before after : Nodes World bridgePlatform.Message}
    {node : TeamClientNode World}
    {bridge : GCMulticastBridgeNode bridgePlatform.Message (TeamClient World)}
    (numbered : before.Numbered) (step : NodesStep platform bridgePlatform before .pingTick after)
    (running : after.client = .running node) (up : after.bridge = some bridge)
    (idle : node.teamClient.connected = false → bridge.waiting = none) :
    Settles node.teamClient.connected after.nextNumber after := by
  have fresh := numbered_move numbered (mail_move step)
  refine ⟨fresh, Nat.le_refl _, ⟨bridge, up, ?_⟩, ?_, ?_⟩
  · cases step with
    | @pingTick earlier runs =>
        generalize published : (pingCallback platform).result earlier = outcome at running up ⊢
        obtain ⟨error | status, next⟩ := outcome
        · cases running
        · have kept := Nodes.sendStatus_kept (before.clientRuns next) status next
          have there : before.bridge = some bridge := kept.1.symm.trans up
          obtain rfl := ClientProcess.running.inj (kept.2.2.symm.trans running)
          have truthful := pingCallback_published platform published
          simpa [Nodes.expected, Nodes.afterCallback, Nodes.sendStatus, Nodes.clientRuns, there]
            using truthful
  · intro response member late
    exact absurd (fresh.responses response member) (Nat.not_lt_of_le late)
  · intro future waits
    rw [Nodes.waiting?, up] at waits
    cases connected : node.teamClient.connected with
    | true => exact ⟨by rintro ⟨⟩, fun _ _ _ => rfl⟩
    | false => cases (idle connected).symm.trans waits

/--
After a ping that returns, as long as the client's connection stays as it is
and the bridge stays up, the bridge believes what is true whenever no status is
under way: in every run, if it does not wait for a response when the ping finds
no connection.
-/
theorem belief_converges {past later :
      List (Transition (Nodes World bridgePlatform.Message) (NodesEvent World))}
    {ping : Transition (Nodes World bridgePlatform.Message) (NodesEvent World)}
    {last : Nodes World bridgePlatform.Message} {node : TeamClientNode World}
    {bridge : GCMulticastBridgeNode bridgePlatform.Message (TeamClient World)}
    (run : NodesRun platform bridgePlatform (past ++ ping :: later) last)
    (ticks : ping.label = .pingTick) (running : ping.after.client = .running node)
    (up : ping.after.bridge = some bridge)
    (idle : node.teamClient.connected = false → bridge.waiting = none)
    (steady : ∀ transition ∈ later, Steady node.teamClient.connected transition)
    (arrived : last.statuses = []) :
    ∃ next, last.bridge = some next ∧
      next.teamClientConnected = node.teamClient.connected := by
  obtain ⟨middle, before, fromPing⟩ := run.split
  have numbered := before.invariant_along Nodes.Numbered (fun _ => True)
    (fun numbered step _ => numbered_move numbered (mail_move step))
    ⟨List.forall_mem_nil _, List.forall_mem_nil _⟩ fun _ _ => trivial
  cases fromPing with
  | step taken afterwards =>
      obtain rfl := ticks
      have settled := settles_of_ping numbered taken running up idle
      have settles := afterwards.invariant_along
        (Settles node.teamClient.connected _) (Steady node.teamClient.connected)
        settles_step settled steady
      obtain ⟨next, runs, expected⟩ := settles.bridge
      rw [Nodes.expected, arrived] at expected
      exact ⟨next, runs, expected⟩

end Convergence

/-- The client connects at the start, which the bridge learns from the status of
its ping. -/
theorem belief_converges_after_connect :
    ∃ past ping later last stale next,
      NodesRun scriptedNode scriptedBridge (past ++ ping :: later) last ∧
      ping.label = .pingTick ∧
      ping.before.bridge = some stale ∧ stale.teamClientConnected = false ∧
      last.bridge = some next ∧ next.teamClientConnected = true := by
  let parameters : ClientParameters := { gcIpAddress := "10.0.0.1" }
  let world : Script :=
    { incoming := [(0, StatusCode.ok.reply)]
      answers := [(0, StatusCode.ok.reply), (2, StatusCode.ok.reply)] }
  have connects := result_eq_of_toOption (nodeConnect scriptedNode) (.initial parameters world) true
    (by decide +kernel)
  have pings := result_eq_of_toOption (pingCallback scriptedNode)
    ((nodeConnect scriptedNode).result (.initial parameters world)).2 ⟨true, 2⟩ (by decide +kernel)
  have run : NodesRun scriptedNode scriptedBridge ([_, _, _] ++ _ :: [_]) _ :=
    .step (.startBridge _) (.step (.startClient _ parameters world)
      (.step (connectAtStart_returns rfl connects) (.step (pingTick_returns rfl pings)
        (.step (.deliverStatus rfl rfl) (.stop _)))))
  have connected : ((pingCallback scriptedNode).result
      ((nodeConnect scriptedNode).result (.initial parameters world)).2).2.teamClient.connected =
      true := by decide +kernel
  obtain ⟨next, runs, belief⟩ := belief_converges run rfl rfl rfl
    (fun disconnected => absurd (connected.symm.trans disconnected) nofun)
    (List.forall_mem_singleton.mpr ⟨nofun, rfl⟩) rfl
  exact ⟨_, _, _, _, _, next, run, rfl, rfl, rfl, runs, belief.trans connected⟩

end SslRosBridge.GameControllerBridge
