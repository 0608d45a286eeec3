import SslRosBridge.Library.Elapsed
import SslRosBridge.GameControllerBridge.NodeRuns
import SslRosBridge.GameControllerBridge.Polling
import SslRosBridge.GameControllerBridge.Steps

/-!
# How long callbacks block

The callbacks of the team client node wait for the game controller.  Whatever
it does, a callback makes at most two waits of a second, and a few socket calls
besides.
-/

namespace SslRosBridge.GameControllerBridge

open Library Library.Computation

section Blocking

variable {World : Type}

/-- No socket call takes longer than `call`, and no sleep longer than `nap`. -/
structure Platform.Prompt (platform : Platform World) (call nap : Nat) : Prop where
  openSocket : ∀ world, platform.now (platform.openSocket world).2 ≤ platform.now world + call
  connect : ∀ endpoint world,
    platform.now (platform.connect endpoint world).2 ≤ platform.now world + call
  close : ∀ world, platform.now (platform.close world).2 ≤ platform.now world + call
  write : ∀ bytes world, platform.now (platform.write bytes world).2 ≤ platform.now world + call
  available : ∀ world, platform.now (platform.available world).2 ≤ platform.now world + call
  read : ∀ capacity atLeast world,
    platform.now (platform.read capacity atLeast world).2 ≤ platform.now world + call
  sleep : ∀ world, platform.now (platform.sleep world) ≤ platform.now world + nap

/-- The time of a call of `WaitForReply`: its second, and the round that crosses the deadline. -/
def Platform.waitTime (platform : Platform World) (call nap : Nat) : Nat :=
  platform.second + 2 * call + nap

variable {platform : Platform World} {call nap : Nat}

def clientClock (platform : Platform World) (client : TeamClient World) : Nat :=
  platform.now client.world

/-! ## The wait -/

theorem Platform.Prompt.availableBytes (prompt : platform.Prompt call nap) (isOpen : Bool)
    (world : World) :
    platform.now (availableBytes platform isOpen world).2 ≤ platform.now world + call := by
  cases isOpen with
  | false => exact Nat.le_add_right _ _
  | true => exact prompt.available world

theorem Platform.Prompt.readAvailable (prompt : platform.Prompt call nap) (bytesAvailable : Nat)
    (world : World) :
    platform.now (readAvailable platform bytesAvailable world).2 ≤ platform.now world + call := by
  have read := prompt.read bufferSize bytesAvailable world
  generalize outcome : platform.read bufferSize bytesAvailable world = result at read
  obtain ⟨⟨data, report⟩, last⟩ := result
  rw [readAvailable_eq platform outcome]
  exact read

/-- The last round starts before the deadline. -/
theorem Platform.Prompt.poll (prompt : platform.Prompt call nap) (isOpen : Bool)
    (deadline rounds : Nat) (world : World) :
    platform.now (poll platform isOpen deadline rounds world).2 ≤
      max (platform.now world) (deadline + 2 * call + nap) := by
  induction rounds generalizing world with
  | zero => exact Nat.le_max_left _ _
  | succ rounds ih =>
      rw [GameControllerBridge.poll]
      by_cases late : deadline ≤ platform.now world
      · rw [if_pos late]
        exact Nat.le_max_left _ _
      rw [if_neg late]
      have checked := prompt.availableBytes isOpen world
      generalize GameControllerBridge.availableBytes platform isOpen world = outcome at checked
      obtain ⟨⟨bytesAvailable, report⟩, next⟩ := outcome
      cases available : fatal report with
      | some error =>
          simp only [available] at checked ⊢
          omega
      | none =>
          simp only [available] at checked ⊢
          by_cases nothing : bytesAvailable = 0
          · rw [if_pos nothing]
            have slept := prompt.sleep next
            have later := ih (platform.sleep next)
            omega
          · rw [if_neg nothing]
            have read := prompt.readAvailable bytesAvailable next
            omega

theorem Platform.Prompt.waitForReply (prompt : platform.Prompt call nap) :
    Within (clientClock platform) (platform.waitTime call nap) (waitForReply platform) := by
  intro client
  rw [result_waitForReply]
  have waited := prompt.poll client.isOpen (platform.now client.world + platform.second)
    (platform.second + 1) client.world
  simp only [clientClock, Platform.waitTime, receive] at waited ⊢
  omega

/-! ## Socket calls -/

section Calls

variable (prompt : platform.Prompt call nap)

include prompt

theorem within_close : Within (clientClock platform) call (close platform) := by
  intro client
  unfold close
  rw [result_attempt]
  cases opened : client.isOpen with
  | false => exact Nat.le_add_right _ _
  | true =>
      have closed := prompt.close client.world
      generalize platform.close client.world = outcome at closed
      obtain ⟨error | error, world⟩ := outcome
      · exact closed
      · exact closed

theorem within_closeIfOpen : Within (clientClock platform) call (closeIfOpen platform) := by
  refine (Within.still fun _ => rfl).instant_bind fun isOpen => ?_
  cases isOpen with
  | false => exact .pure ()
  | true => exact within_close prompt

theorem within_connectSocket (endpoint : Endpoint) :
    Within (clientClock platform) (2 * call) (connectSocket platform endpoint) := by
  intro client
  unfold connectSocket
  rw [result_step]
  have opens : platform.now (if client.isOpen then (none, client.world)
      else platform.openSocket client.world).2 ≤ platform.now client.world + call := by
    cases client.isOpen with
    | false => exact prompt.openSocket client.world
    | true => exact Nat.le_add_right _ _
  generalize (if client.isOpen then (none, client.world)
    else platform.openSocket client.world) = outcome at opens
  obtain ⟨error | error, world⟩ := outcome
  · have connects := prompt.connect endpoint world
    rcases connected : platform.connect endpoint world with ⟨error, later⟩
    rw [connected] at connects
    simp only [connected, clientClock] at opens connects ⊢
    omega
  · simp only [clientClock] at opens ⊢
    omega

theorem within_write (bytes : List UInt8) :
    Within (clientClock platform) call (write platform bytes) := by
  intro client
  unfold write
  rw [result_attempt]
  cases opened : client.isOpen with
  | false => exact Nat.le_add_right _ _
  | true =>
      have written := prompt.write bytes client.world
      generalize platform.write bytes client.world = outcome at written
      obtain ⟨error | error, world⟩ := outcome
      · exact written
      · exact written

omit prompt in
theorem within_storeToken (reply : ControllerReply) :
    Within (clientClock platform) 0 (TeamClient.storeToken reply) := by
  refine .still fun client => ?_
  cases reply.nextToken with
  | none => rfl
  | some token => rfl

theorem within_sendRequest (request : TeamToController) :
    Within (clientClock platform) (platform.waitTime call nap + call)
      (sendRequest platform request) := by
  have sent : Within (clientClock platform) (call + (platform.waitTime call nap + 0))
      (sendRequest platform request) := by
    refine (within_write prompt _).bind fun _ => prompt.waitForReply.bind fun reply => ?_
    cases reply with
    | none => exact .pure _
    | some message =>
        cases body : message.controllerReply with
        | none =>
            simp only [body]
            exact .pure _
        | some reply =>
            simp only [body]
            exact (within_storeToken reply).bind_instant fun _ => .pure _
  exact sent.mono (by omega)

theorem within_ping :
    Within (clientClock platform) (platform.waitTime call nap + call) (ping platform) :=
  (Within.still fun _ => rfl).instant_bind fun _ =>
    (within_sendRequest prompt _).bind_instant fun _ =>
      (Within.still fun _ => rfl).instant_bind fun _ => .pure _

theorem within_disconnect : Within (clientClock platform) call (disconnect platform) :=
  (Within.still fun _ => rfl).instant_bind fun _ =>
    (Within.still fun _ => rfl).instant_bind fun _ => within_close prompt

theorem within_attemptToConnectSocket (address : Address) (port : UInt16) :
    Within (clientClock platform) (platform.waitTime call nap + 4 * call)
      (attemptToConnectSocket platform address port) := by
  have connected : Within (clientClock platform)
      (call + (2 * call + (platform.waitTime call nap + call)))
      (attemptToConnectSocket platform address port) := by
    refine (within_closeIfOpen prompt).bind fun _ =>
      (within_connectSocket prompt _).bind fun error => ?_
    cases error with
    | some error => exact .pure _
    | none =>
        refine prompt.waitForReply.bind fun reply => ?_
        cases reply with
        | none => exact .pure _
        | some message =>
            cases body : message.controllerReply with
            | none =>
                simp only [body]
                exact .pure _
            | some reply =>
                cases bad : reply.badStatus with
                | true =>
                    simp only [body, bad]
                    exact (within_close prompt).bind_instant fun _ => .pure _
                | false =>
                    simp only [body, bad]
                    exact (within_storeToken reply).instant_bind fun _ => .pure _
  exact connected.mono (by omega)

theorem within_attemptToRegister (teamName : String) (teamColor : TeamColor) :
    Within (clientClock platform) (platform.waitTime call nap + call)
      (attemptToRegister platform teamName teamColor) := by
  have registered : Within (clientClock platform) (call + (platform.waitTime call nap + 0))
      (attemptToRegister platform teamName teamColor) := by
    refine (within_write prompt _).bind fun _ => prompt.waitForReply.bind fun reply => ?_
    cases reply with
    | none => exact .pure _
    | some message =>
        cases body : message.controllerReply with
        | none =>
            simp only [body]
            exact .pure _
        | some reply =>
            cases bad : reply.badStatus <;> simp only [body, bad] <;> exact .pure _
  exact registered.mono (by omega)

theorem within_connect (parameters : ConnectionParameters) :
    Within (clientClock platform) (2 * platform.waitTime call nap + 6 * call)
      (connect platform parameters) := by
  have connected : Within (clientClock platform)
      (platform.waitTime call nap + 4 * call + (platform.waitTime call nap + call + call))
      (connect platform parameters) := by
    refine (Within.still fun _ => rfl).instant_bind fun _ =>
      (Within.still fun _ => rfl).instant_bind fun _ =>
        (within_attemptToConnectSocket prompt _ _).bind fun success => ?_
    cases success with
    | false => exact .pure _
    | true =>
        refine (within_attemptToRegister prompt _ _).bind fun registered => ?_
        cases registered with
        | false => exact (within_close prompt).bind_instant fun _ => .pure _
        | true => exact (Within.still fun _ => rfl).instant_bind fun _ => .pure _
  exact connected.mono (by omega)

/-- The duration of a ping is a time that has passed. -/
theorem ping_measured : Triple (fun _ => True) (ping platform)
    (fun result _ => result.ping ≤ platform.waitTime call nap + call) (fun _ _ => True) := by
  refine Triple.bind (fun sendTime client => clientClock platform client = sendTime)
    (Triple.step fun _ _ => rfl) fun sendTime => ?_
  refine Triple.bind _ ((within_sendRequest prompt _).triple sendTime) fun result => ?_
  refine Triple.bind (fun replyTime _ =>
      replyTime ≤ sendTime + (platform.waitTime call nap + call))
    (Triple.step fun _ => id) fun replyTime => Triple.pure fun _ measured => ?_
  exact Nat.sub_le_iff_le_add'.mpr measured

end Calls

/-! ## Callbacks -/

def nodeClock (platform : NodePlatform World) (node : TeamClientNode World) : Nat :=
  platform.now node.teamClient.world

/-- What a callback may take; the network moves between callbacks. -/
def NodeEvent.allowance (platform : NodePlatform World) (call nap : Nat) : NodeEvent World → Nat
  | .connectAtStart => 2 * platform.waitTime call nap + 6 * call
  | .userReconnects _ => 2 * platform.waitTime call nap + 6 * call
  | .userRequests _ => platform.waitTime call nap + call
  | .pingTick => platform.waitTime call nap + 2 * call
  | .userSetsParameters _ => 0
  | .networkMoves _ => 0

def NodeEvent.isCallback : NodeEvent World → Bool
  | .networkMoves _ => false
  | _ => true

/-- The time that has passed in the callbacks of a run. -/
def timeBlocked (platform : NodePlatform World) :
    List (Transition (TeamClientNode World) (NodeEvent World)) → Nat
  | [] => 0
  | transition :: later =>
      (if transition.label.isCallback then
        nodeClock platform transition.after - nodeClock platform transition.before
      else 0) + timeBlocked platform later

/-- The time that the callbacks of a run may take. -/
def timeAllowed (platform : NodePlatform World) (call nap : Nat) :
    List (Transition (TeamClientNode World) (NodeEvent World)) → Nat
  | [] => 0
  | transition :: later =>
      transition.label.allowance platform call nap + timeAllowed platform call nap later

section Node

variable {platform : NodePlatform World} (prompt : platform.Prompt call nap)

include prompt

omit prompt in
theorem within_onClient {Value : Type} {bound : Nat} {action : Action World Value}
    (within : Within (clientClock platform.toPlatform) bound action) :
    Within (nodeClock platform) bound (TeamClientNode.onClient action) :=
  fun node => within node.teamClient

theorem within_nodeConnect :
    Within (nodeClock platform) (2 * platform.waitTime call nap + 6 * call)
      (nodeConnect platform) := by
  refine (Within.still fun _ => rfl).instant_bind fun node => ?_
  by_cases empty : node.gcIpAddress = ""
  · rw [if_pos empty]
    exact .pure _
  · rw [if_neg empty]
    cases platform.addressFromString node.gcIpAddress with
    | none => exact .throw _
    | some address => exact within_onClient (within_connect prompt _)

theorem within_handleReconnectTeamClient (serverAddress : String) :
    Within (nodeClock platform) (2 * platform.waitTime call nap + 6 * call)
      (handleReconnectTeamClient platform serverAddress) := by
  refine (Within.still fun node => ?_).instant_bind fun _ => within_nodeConnect prompt
  by_cases empty : serverAddress = ""
  · rw [if_pos empty]
  · rw [if_neg empty]
    rfl

omit prompt in
theorem within_whenConnected {bound : Nat} {request : Action World Result}
    (within : Within (clientClock platform.toPlatform) bound request) :
    Within (nodeClock platform) bound (whenConnected request) := by
  refine (Within.still fun _ => rfl).instant_bind fun connected => ?_
  cases connected with
  | false => exact .pure _
  | true => exact (within_onClient within).bind_instant fun _ => .pure _

theorem within_handleService (request : ServiceRequest) :
    Within (nodeClock platform) (platform.waitTime call nap + call)
      (handleService platform request) := by
  cases request with
  | setDesiredKeeper keeper => exact within_whenConnected (within_sendRequest prompt _)
  | substituteBot => exact within_whenConnected (within_sendRequest prompt _)
  | setAdvantageChoice choice => exact within_whenConnected (within_sendRequest prompt _)

theorem within_pingCallback :
    Within (nodeClock platform) (platform.waitTime call nap + 2 * call)
      (pingCallback platform) := by
  have both : Within (nodeClock platform) (platform.waitTime call nap + call + call)
      (pingCallback platform) := by
    refine (Within.still fun _ => rfl).instant_bind fun connected => ?_
    cases connected with
    | false => exact .pure _
    | true =>
        refine (within_onClient (within_ping prompt)).bind fun result => ?_
        cases accepted : result.requestResult.accepted with
        | true => exact .pure _
        | false =>
            exact (within_onClient (within_disconnect prompt)).bind_instant fun _ => .pure _
  exact both.mono (by omega)

theorem pingCallback_measured : Triple (fun _ => True) (pingCallback platform)
    (fun status _ => status.ping ≤ platform.waitTime call nap + call) (fun _ _ => True) := by
  refine Triple.bind (fun _ _ => True) (Triple.step fun _ _ => trivial) fun connected => ?_
  cases connected with
  | false => exact Triple.pure fun _ _ => Nat.zero_le _
  | true =>
      refine Triple.bind _ (onClient_spec (ping_measured prompt)) fun result => ?_
      cases accepted : result.requestResult.accepted with
      | true => exact Triple.pure fun _ => id
      | false =>
          intro node measured
          rw [result_bind]
          generalize (TeamClientNode.onClient (disconnect platform.toPlatform)).result node =
            outcome
          obtain ⟨exception | value, last⟩ := outcome
          · trivial
          · exact measured

/-- One callback. -/
theorem after_callback (node : TeamClientNode World) {event : NodeEvent World}
    (callback : event.isCallback = true) :
    nodeClock platform (node.after platform event) ≤
      nodeClock platform node + event.allowance platform call nap := by
  cases event with
  | connectAtStart => exact within_nodeConnect prompt node
  | networkMoves world => cases callback
  | userSetsParameters parameters => exact Nat.le_refl _
  | userRequests request => exact within_handleService prompt request node
  | userReconnects serverAddress =>
      exact within_handleReconnectTeamClient prompt serverAddress node
  | pingTick => exact within_pingCallback prompt node

end Node

/--
Whatever the game controller does, the callbacks of a run take no longer than
their waits of a second, two for each connection attempt and one for each
request and ping, and a few socket calls.  No published ping is longer than
one wait and a socket call.
-/
theorem callbacks_return_soon {platform : NodePlatform World} (prompt : platform.Prompt call nap)
    {first last : TeamClientNode World}
    {transitions : List (Transition (TeamClientNode World) (NodeEvent World))}
    (run : Execution (NodeStep platform) first transitions last) :
    timeBlocked platform transitions ≤ timeAllowed platform call nap transitions ∧
      ∀ transition ∈ transitions, transition.label = .pingTick → ∀ status,
        ((pingCallback platform).result transition.before).1 = .ok status →
          status.ping ≤ platform.waitTime call nap + call := by
  constructor
  · induction run with
    | stop => exact Nat.le_refl _
    | @step before after last event transitions taken later ih =>
        obtain rfl := taken.eq
        simp only [timeBlocked, timeAllowed]
        cases callback : event.isCallback with
        | false =>
            rw [if_neg Bool.false_ne_true]
            omega
        | true =>
            have blocked := after_callback prompt before callback
            rw [if_pos rfl]
            omega
  · intro transition _ _ status returned
    have measured := pingCallback_measured prompt transition.before trivial
    generalize (pingCallback platform).result transition.before = outcome at returned measured
    obtain ⟨exception | shown, after⟩ := outcome
    · cases returned
    · cases returned
      exact measured

/-! ## A ping without an answer -/

theorem prompt_scripted : scripted.Prompt 0 1 where
  openSocket _ := Nat.le_refl _
  connect _ _ := Nat.le_refl _
  close _ := Nat.le_refl _
  write bytes script := by
    obtain ⟨clock, incoming, answers, writeError, closeError⟩ := script
    cases writeError with
    | none =>
        cases answers with
        | nil => exact Nat.le_refl _
        | cons answer later => exact Nat.le_refl _
    | some error => exact Nat.le_refl _
  available _ := Nat.le_refl _
  read _ _ _ := Nat.le_refl _
  sleep _ := Nat.le_refl _

/-- The controller accepts the client and answers no ping. -/
theorem callbacks_return_soon_unanswered :
    let node : TeamClientNode Script := .initial { gcIpAddress := "10.0.0.1" } admitting
    let connected := node.after scriptedNode .connectAtStart
    timeBlocked scriptedNode
      [⟨node, .connectAtStart, connected⟩,
        ⟨connected, .pingTick, connected.after scriptedNode .pingTick⟩] ≤ 33 := by
  intro node connected
  have prompt : scriptedNode.Prompt 0 1 := prompt_scripted
  have blocked := callbacks_return_soon prompt
    (.step (.happens node .connectAtStart) (.step (.happens connected .pingTick) (.stop _)))
  exact blocked.1

end Blocking

end SslRosBridge.GameControllerBridge
