import SslRosBridge.GameControllerBridge.Polling
import SslRosBridge.GameControllerBridge.StepInvariants
import SslRosBridge.GameControllerBridge.Written

/-!
# The configured connection

Which endpoint and which registration a node's parameters lead to.  The
endpoints are observed where the platform is asked to connect; the port is
narrowed on the way there, and a colour that no comparison matches leaves the
team's colour unassigned.
-/

namespace SslRosBridge.GameControllerBridge

open Library Library.Computation

/-! ## Watching a platform -/

/-- A world beside which the endpoints are kept that were connected to. -/
structure Watched (World : Type) where
  world : World
  endpoints : List Endpoint := []

section Watch

variable {World : Type}

def Watched.lift {Value : Type} (operation : World → Value × World) (watched : Watched World) :
    Value × Watched World :=
  ((operation watched.world).1, { watched with world := (operation watched.world).2 })

/-- The same platform, with each call of `connect` kept. -/
def Platform.watch (platform : Platform World) : Platform (Watched World) where
  serializeRegistration := platform.serializeRegistration
  serializeToController := platform.serializeToController
  parseToTeam := platform.parseToTeam
  second := platform.second
  now := fun watched => platform.now watched.world
  sleep := fun watched => { watched with world := platform.sleep watched.world }
  openSocket := Watched.lift platform.openSocket
  connect := fun endpoint watched =>
    Watched.lift (platform.connect endpoint)
      { watched with endpoints := watched.endpoints ++ [endpoint] }
  close := Watched.lift platform.close
  write := fun bytes => Watched.lift (platform.write bytes)
  available := Watched.lift platform.available
  read := fun capacity atLeast => Watched.lift (platform.read capacity atLeast)
  now_available := fun watched => platform.now_available watched.world
  now_sleep := fun watched => platform.now_sleep watched.world

def NodePlatform.watch (platform : NodePlatform World) : NodePlatform (Watched World) where
  toPlatform := platform.toPlatform.watch
  addressFromString := platform.addressFromString
  unassignedColor := platform.unassignedColor
  unassignedChoice := platform.unassignedChoice

variable (platform : Platform World)

def TeamClient.endpoints (client : TeamClient (Watched World)) : List Endpoint :=
  client.world.endpoints

/-- The action connects to no endpoint, or only to this one. -/
abbrev KeepsEndpoints {Value : Type} (allowed : Endpoint → Prop)
    (action : Action (Watched World) Value) : Prop :=
  Keeps (fun client => ∀ endpoint ∈ client.endpoints, allowed endpoint) action

variable {allowed : Endpoint → Prop}

theorem close_endpoints : KeepsEndpoints allowed (close platform.watch) := by
  refine Triple.attempt fun client kept => ?_
  cases client.isOpen with
  | false => exact kept
  | true =>
      simp only [if_true, Platform.watch, Watched.lift]
      cases (platform.close client.world.world).1 with
      | none => exact kept
      | some error => exact kept

theorem write_endpoints (bytes : List UInt8) :
    KeepsEndpoints allowed (write platform.watch bytes) := by
  refine Triple.attempt fun client kept => ?_
  cases client.isOpen with
  | false => exact kept
  | true =>
      simp only [if_true, Platform.watch, Watched.lift]
      cases (platform.write bytes client.world.world).1 with
      | none => exact kept
      | some error => exact kept

theorem connectSocket_endpoints {endpoint : Endpoint} (isAllowed : allowed endpoint) :
    KeepsEndpoints allowed (connectSocket platform.watch endpoint) := by
  refine Triple.step fun client kept => ?_
  have added : ∀ other ∈ client.endpoints ++ [endpoint], allowed other :=
    List.forall_mem_append.mpr ⟨kept, List.forall_mem_singleton.mpr isAllowed⟩
  cases client.isOpen with
  | true => exact added
  | false =>
      simp only [Bool.false_eq_true, if_false, Platform.watch, Watched.lift]
      cases (platform.openSocket client.world.world).1 with
      | none => exact added
      | some error => exact kept

/-- Waiting connects to nothing; the induction is over the rounds of the loop. -/
theorem PollEnds.endpoints {isOpen : Bool} {watched : Watched World}
    {outcome : Received × Watched World}
    (ends : PollEnds platform.watch isOpen watched outcome) :
    outcome.2.endpoints = watched.endpoints := by
  have unchanged : ∀ {before next : Watched World} {report : Nat × Option ErrorCode},
      availableBytes platform.watch isOpen before = (report, next) →
        next.endpoints = before.endpoints := by
    intro before next report checked
    unfold availableBytes at checked
    split at checked <;> cases checked <;> rfl
  induction ends with
  | timedOut => rfl
  | unavailable checked => exact unchanged checked
  | idle checked later ih =>
      have same := unchanged checked
      exact ih.trans same
  | read checked =>
      have same := unchanged checked
      rw [readAvailable_eq platform.watch rfl]
      exact same

theorem waitForReply_endpoints : KeepsEndpoints allowed (waitForReply platform.watch) := by
  refine Triple.step fun client kept => ?_
  have unchanged := (receive_ends platform.watch client.isOpen client.world).endpoints
  intro endpoint member
  exact kept endpoint (by rwa [TeamClient.endpoints, ← unchanged])

theorem storeToken_endpoints (reply : ControllerReply) :
    KeepsEndpoints allowed (TeamClient.storeToken reply : Action (Watched World) Unit) := by
  refine Triple.step fun client kept => ?_
  cases reply.nextToken with
  | none => exact kept
  | some token => exact kept

theorem setConnected_endpoints (value : Bool) :
    KeepsEndpoints allowed (TeamClient.setConnected value : Action (Watched World) Unit) :=
  Triple.step fun _ kept => kept

theorem called_endpoints (event : Event) :
    KeepsEndpoints allowed (TeamClient.called event : Action (Watched World) Unit) :=
  Triple.step fun _ kept => kept

theorem endpoints_keptBySteps :
    KeptBySteps platform.watch allowed (fun _ => True)
      (fun client => ∀ endpoint ∈ client.endpoints, allowed endpoint) where
  close := close_endpoints platform
  connectSocket := fun _ => connectSocket_endpoints platform
  write := fun bytes _ => write_endpoints platform bytes
  waitForReply := waitForReply_endpoints platform
  storeToken := storeToken_endpoints
  setConnected := setConnected_endpoints
  called := fun _ => called_endpoints _

/-- `Connect` connects to the endpoint of its parameters only. -/
theorem connect_endpoints {parameters : ConnectionParameters}
    (isAllowed : allowed ⟨parameters.address, parameters.port⟩) :
    KeepsEndpoints allowed (connect platform.watch parameters) :=
  (endpoints_keptBySteps platform).connect isAllowed trivial

end Watch

/-! ## What the parameters ask for -/

open MessageConversion.Proto (Team)

/-- The team that a colour stands for, which `auto` leaves unset. -/
def configuredTeam (teamColor : String) : Option (Option Team) :=
  if teamColor = "auto" then some none
  else if teamColor = "blue" then some (some .blue)
  else if teamColor = "yellow" then some (some .yellow)
  else none

/-- The parameters name a port and a team. -/
structure ClientParameters.InDomain (parameters : ClientParameters) : Prop where
  port : 0 ≤ parameters.gcPort.toInt ∧ parameters.gcPort.toInt < 65536
  team : configuredTeam parameters.teamColor ≠ none

section Configuration

variable (addressFromString : String → Option Address) {parameters : ClientParameters}
variable {address : Address}

/-- The node of a client with these parameters. -/
def ClientParameters.node {World : Type} (parameters : ClientParameters)
    (client : TeamClient World) : TeamClientNode World :=
  TeamClientNode.setParameters { teamClient := client } parameters

/-- `Connect` of this client: its endpoint, its registration, and the refusal
of parameters that name none. -/
structure HonouredBy {World : Type} (platform : NodePlatform World) (parameters : ClientParameters)
    (address : Address) (client : TeamClient (Watched World))
    (outcome : Except ErrorCode Bool × TeamClientNode (Watched World)) : Prop where
  endpoint : ∀ endpoint ∈ outcome.2.teamClient.endpoints,
    endpoint.address = address ∧ (endpoint.port.toNat : Int) = parameters.gcPort.toInt
  registration : ∀ team, configuredTeam parameters.teamColor = some team →
    outcome.2.teamClient.sent = client.sent ∨ outcome.2.teamClient.sent = client.sent ++
      [delimited (platform.serializeRegistration ⟨parameters.teamName, team⟩)]
  refused : ¬ parameters.InDomain → outcome.1 = .ok false ∧
    outcome.2.teamClient.endpoints = [] ∧ outcome.2.teamClient.sent = client.sent

/-- The parameters are honoured or refused on every platform that parses
addresses so, whatever the state of the client. -/
def Honoured (parameters : ClientParameters) (address : Address) : Prop :=
  ∀ (World : Type) (platform : NodePlatform World) (client : TeamClient (Watched World)),
    platform.addressFromString = addressFromString → client.endpoints = [] →
      HonouredBy platform parameters address client
        ((nodeConnect platform.watch).result (parameters.node client))

/-- A port is narrowed to 16 bits without a change where it has no more. -/
theorem toNat_toUInt16 {port : Int64} (lower : 0 ≤ port.toInt) (upper : port.toInt < 65536) :
    (port.toUInt64.toUInt16.toNat : Int) = port.toInt := by
  have signed : port.toInt = if 2 * port.toBitVec.toNat < 2 ^ 64 then (port.toBitVec.toNat : Int)
      else port.toBitVec.toNat - (2 ^ 64 : Nat) := BitVec.toInt_eq_toNat_cond port.toBitVec
  have narrowed : port.toUInt64.toUInt16.toNat = port.toBitVec.toNat % 65536 := by
    rw [UInt64.toNat_toUInt16]
    rfl
  split at signed <;> omega

theorem registration_teamColorOf {World : Type} (platform : NodePlatform World)
    (teamName : String) {teamColor : String} {team : Option Team}
    (configured : configuredTeam teamColor = some team) :
    registration teamName (teamColorOf platform teamColor) = ⟨teamName, team⟩ := by
  unfold configuredTeam at configured
  unfold teamColorOf
  by_cases auto : teamColor = "auto"
  · rw [if_pos auto] at configured ⊢
    cases configured
    rfl
  rw [if_neg auto] at configured ⊢
  by_cases blue : teamColor = "blue"
  · rw [if_pos blue] at configured ⊢
    cases configured
    rfl
  rw [if_neg blue] at configured ⊢
  by_cases yellow : teamColor = "yellow"
  · rw [if_pos yellow] at configured ⊢
    cases configured
    rfl
  · rw [if_neg yellow] at configured
    cases configured

variable {addressFromString}

theorem honoured_of_inDomain (nonempty : parameters.gcIpAddress ≠ "")
    (literal : addressFromString parameters.gcIpAddress = some address)
    (inDomain : parameters.InDomain) : Honoured addressFromString parameters address := by
  rintro World platform client rfl fresh
  have connects : (nodeConnect platform.watch).result (parameters.node client) = _ :=
    nodeConnect_of_literal platform.watch nonempty literal
  rw [connects]
  refine ⟨?_, fun team configured => ?_, fun outside => absurd inDomain outside⟩
  · have none : ∀ endpoint ∈ client.endpoints,
        endpoint = ⟨address, parameters.gcPort.toUInt64.toUInt16⟩ := by
      rw [fresh]
      exact List.forall_mem_nil _
    have only : KeepsEndpoints (· = ⟨address, parameters.gcPort.toUInt64.toUInt16⟩)
        (connect platform.toPlatform.watch
          (connectionParameters platform.watch (parameters.node client) address)) :=
      connect_endpoints platform.toPlatform rfl
    intro endpoint member
    rw [onClient_result only none endpoint member]
    exact ⟨rfl, toNat_toUInt16 inDomain.port.1 inDomain.port.2⟩
  · rw [← registration_teamColorOf platform.watch parameters.teamName configured]
    exact onClient_result (connect_writes platform.toPlatform.watch _ client.sent) rfl

/-- A platform on which every connection is refused. -/
def refusing (addressFromString : String → Option Address) : NodePlatform Script where
  toPlatform := { scripted with connect := fun _ script => (some (.other 111), script) }
  addressFromString := addressFromString
  unassignedColor := .unnamed 7
  unassignedChoice := .unnamed 7

/-- `Connect` of a fresh client asks it for a connection, whatever the port
and the colour are. -/
theorem refusing_endpoints (nonempty : parameters.gcIpAddress ≠ "")
    (literal : addressFromString parameters.gcIpAddress = some address) :
    ((nodeConnect (refusing addressFromString).watch).result
      (parameters.node (.initial ⟨{}, []⟩))).2.teamClient.endpoints =
        [⟨address, parameters.gcPort.toUInt64.toUInt16⟩] := by
  have connects : (nodeConnect (refusing addressFromString).watch).result
      (parameters.node (.initial ⟨{}, []⟩)) = _ :=
    nodeConnect_of_literal (refusing addressFromString).watch nonempty literal
  rw [connects]
  rfl

theorem inDomain_of_honoured (nonempty : parameters.gcIpAddress ≠ "")
    (literal : addressFromString parameters.gcIpAddress = some address)
    (honoured : Honoured addressFromString parameters address) : parameters.InDomain := by
  by_contra outside
  have refused := (honoured Script (refusing addressFromString) (.initial ⟨{}, []⟩) rfl rfl).refused
    outside
  rw [refusing_endpoints nonempty literal] at refused
  exact absurd refused.2.1 nofun

/--
For an address that parses, the parameters are honoured or refused on every
platform and from every state of the client exactly when the port fits 16 bits
and the colour is one of the three that stand for a team.
-/
theorem honoured_iff_inDomain (nonempty : parameters.gcIpAddress ≠ "")
    (literal : addressFromString parameters.gcIpAddress = some address) :
    Honoured addressFromString parameters address ↔ parameters.InDomain :=
  ⟨inDomain_of_honoured nonempty literal, honoured_of_inDomain nonempty literal⟩

end Configuration

/-- The default port and a colour. -/
theorem honoured_iff_inDomain_blue :
    Honoured scriptedNode.addressFromString { gcIpAddress := "10.0.0.1", teamColor := "blue" }
      ⟨[10, 0, 0, 1]⟩ :=
  (honoured_iff_inDomain (by decide) rfl).mpr ⟨by decide, by decide⟩

/-- A port that wraps to the default one, and a colour with a capital letter. -/
theorem not_honoured_outside :
    ¬ Honoured scriptedNode.addressFromString { gcIpAddress := "10.0.0.1", gcPort := 75544 }
      ⟨[10, 0, 0, 1]⟩ ∧
    ¬ Honoured scriptedNode.addressFromString { gcIpAddress := "10.0.0.1", teamColor := "Blue" }
      ⟨[10, 0, 0, 1]⟩ := by
  constructor
  · intro honoured
    have inDomain := inDomain_of_honoured (by decide) rfl honoured
    exact absurd inDomain.port.2 (by decide)
  · intro honoured
    have inDomain := inDomain_of_honoured (by decide) rfl honoured
    exact absurd inDomain.team (by decide)

end SslRosBridge.GameControllerBridge
