import SslRosBridge.GameControllerBridge.NodeRuns
import SslRosBridge.GameControllerBridge.Steps

/-!
# What a reconnect request does

Without any address `Connect` succeeds at once, which is meant for the set-up.
A text that is no address has replaced the parameter by the time it is parsed,
and its exception leaves the handler.
-/

namespace SslRosBridge.GameControllerBridge

open Library Library.Computation

section Reconnect

variable {World : Type} (platform : NodePlatform World)

/-! ## The answer -/

/-- An answer is the connection flag that the request leaves behind. -/
def AnswersTruthfully (node : TeamClientNode World) (serverAddress : String) : Prop :=
  ∀ success next, (handleReconnectTeamClient platform serverAddress).result node =
    (.ok success, next) → (success = true ↔ next.teamClient.connected = true)

/-- There is an address to connect to, or a connection already. -/
def HasTarget (node : TeamClientNode World) (serverAddress : String) : Prop :=
  serverAddress ≠ "" ∨ node.gcIpAddress ≠ "" ∨ node.teamClient.connected = true

/-- The request leaves a configured address, its own or that of the parameter. -/
theorem handleReconnectTeamClient_configured {node : TeamClientNode World}
    {serverAddress : String} (address : serverAddress ≠ "" ∨ node.gcIpAddress ≠ "") :
    ∃ configured : TeamClientNode World, configured.gcIpAddress ≠ "" ∧
      (handleReconnectTeamClient platform serverAddress).result node =
        (nodeConnect platform).result configured := by
  rw [handleReconnectTeamClient_eq]
  by_cases empty : serverAddress = ""
  · rw [if_pos empty]
    exact ⟨node, address.resolve_left (absurd empty), rfl⟩
  · rw [if_neg empty]
    exact ⟨_, empty, rfl⟩

theorem answersTruthfully_iff (node : TeamClientNode World) (serverAddress : String) :
    AnswersTruthfully platform node serverAddress ↔ HasTarget node serverAddress := by
  by_cases address : serverAddress ≠ "" ∨ node.gcIpAddress ≠ ""
  · refine ⟨fun _ => by rwa [HasTarget, ← or_assoc, or_iff_left_of_imp (fun _ => address)],
      fun _ success next returned => ?_⟩
    obtain ⟨configured, nonempty, same⟩ :=
      handleReconnectTeamClient_configured platform address
    have ends := nodeConnect_returns platform configured nonempty
    rw [← same, returned] at ends
    rw [show next.teamClient.connected = success from ends]
  · obtain ⟨rfl, unconfigured⟩ : serverAddress = "" ∧ node.gcIpAddress = "" := by
      simpa only [not_or, not_not] using address
    have returned := handleReconnectTeamClient_without_address platform unconfigured
    constructor
    · intro truthful
      exact Or.inr (Or.inr ((truthful true node returned).mp rfl))
    · rintro target success next again
      have connected := (target.resolve_left (absurd rfl)).resolve_left (absurd unconfigured)
      obtain ⟨⟨⟩, ⟨⟩⟩ := Prod.mk.inj (returned.symm.trans again)
      exact ⟨fun _ => connected, fun _ => rfl⟩

/-- A reconnect request of a run is answered truthfully. -/
def TruthfulStep (transition : Transition (TeamClientNode World) (NodeEvent World)) : Prop :=
  ∀ serverAddress, transition.label = .userReconnects serverAddress →
    AnswersTruthfully platform transition.before serverAddress

/-- A reconnect request of a run has a target. -/
def TargetedStep (transition : Transition (TeamClientNode World) (NodeEvent World)) : Prop :=
  ∀ serverAddress, transition.label = .userReconnects serverAddress →
    HasTarget transition.before serverAddress

/--
A reconnect request is answered with the connection flag, in whatever state of
the node, exactly when there is an address to connect to or a connection; and
in any run all of them are exactly when this holds for each.
-/
theorem reconnect_truthful_iff :
    (∀ node serverAddress,
      AnswersTruthfully platform node serverAddress ↔ HasTarget node serverAddress) ∧
    ∀ parameters world transitions last, NodeRun platform parameters world transitions last →
      ((∀ transition ∈ transitions, TruthfulStep platform transition) ↔
        ∀ transition ∈ transitions, TargetedStep transition) := by
  refine ⟨answersTruthfully_iff platform, fun _ _ _ _ _ => ?_⟩
  simp only [TruthfulStep, TargetedStep, answersTruthfully_iff platform]

/-- A fresh node is given an address, which it answers for. -/
theorem reconnect_truthful_iff_address :
    AnswersTruthfully scriptedNode (.initial {} {}) "10.0.0.1" ∧
    ∀ transition ∈ [Transition.mk (TeamClientNode.initial {} ({} : Script)) .pingTick
      ((TeamClientNode.initial {} {}).after scriptedNode .pingTick)],
      TruthfulStep scriptedNode transition := by
  have theorems := reconnect_truthful_iff scriptedNode
  constructor
  · exact (theorems.1 _ _).mpr (Or.inl (by decide))
  · apply (theorems.2 {} {} _ _ (.step (.happens _ _) (.stop _))).mpr
    rintro transition (_ | ⟨_, ⟨⟩⟩) serverAddress ⟨⟩

/-- A node with the default parameters is started and asked to reconnect. -/
theorem reconnect_without_address_untruthful :
    ∃ last, NodeRun scriptedNode {} {} [⟨.initial {} {}, .connectAtStart, last⟩] last ∧
      ¬ AnswersTruthfully scriptedNode last "" := by
  refine ⟨_, .step (.happens _ _) (.stop _), fun truthful => ?_⟩
  have unconfigured : ((TeamClientNode.initial {} {}).after scriptedNode
      .connectAtStart).gcIpAddress = "" := rfl
  have returned := handleReconnectTeamClient_without_address scriptedNode unconfigured
  exact absurd ((truthful _ _ returned).mp rfl) (by decide)

/-! ## A malformed address -/

/-- The request is answered with a failure and leaves no trace, in a later
reconnect request of any further run either. -/
structure RejectedAtomically (node : TeamClientNode World) (serverAddress : String) : Prop where
  answer : ((handleReconnectTeamClient platform serverAddress).result node).1 = .ok false
  parameter : (node.after platform (.userReconnects serverAddress)).gcIpAddress = node.gcIpAddress
  client : (node.after platform (.userReconnects serverAddress)).teamClient = node.teamClient
  later : ∀ events : List (NodeEvent World),
    (handleReconnectTeamClient platform "").result
        ((node.after platform (.userReconnects serverAddress)).afterAll platform events) =
      (handleReconnectTeamClient platform "").result (node.afterAll platform events)

theorem nodeConnect_malformed {node : TeamClientNode World} (nonempty : node.gcIpAddress ≠ "")
    (malformed : platform.addressFromString node.gcIpAddress = none) :
    (nodeConnect platform).result node = (.error .invalidArgument, node) := by
  rw [nodeConnect_with_address platform nonempty, malformed]

theorem handleReconnectTeamClient_malformed {node : TeamClientNode World} {serverAddress : String}
    (nonempty : serverAddress ≠ "")
    (malformed : platform.addressFromString serverAddress = none) :
    (handleReconnectTeamClient platform serverAddress).result node =
      (.error .invalidArgument, { node with gcIpAddress := serverAddress }) := by
  rw [handleReconnectTeamClient_eq, if_neg nonempty]
  exact nodeConnect_malformed platform nonempty malformed

/--
No malformed address is rejected atomically.  In every state the exception
leaves the handler behind the new parameter, on which the next reconnect
request without an address throws again; only the client is as it was.
-/
theorem malformed_address_escapes (node : TeamClientNode World) (serverAddress : String)
    (nonempty : serverAddress ≠ "")
    (malformed : platform.addressFromString serverAddress = none) :
    ¬ RejectedAtomically platform node serverAddress ∧
    ∃ next, (handleReconnectTeamClient platform serverAddress).result node =
        (.error .invalidArgument, next) ∧
      next.gcIpAddress = serverAddress ∧ next.teamClient = node.teamClient ∧
      (handleReconnectTeamClient platform "").result next = (.error .invalidArgument, next) := by
  have threw : (handleReconnectTeamClient platform serverAddress).result node = _ :=
    handleReconnectTeamClient_malformed platform nonempty malformed
  constructor
  · intro rejected
    have answer := rejected.answer
    rw [threw] at answer
    cases answer
  · refine ⟨_, threw, rfl, rfl, ?_⟩
    rw [handleReconnectTeamClient_eq, if_pos rfl]
    exact nodeConnect_malformed platform nonempty malformed

/-- The default node is sent a host name. -/
theorem malformed_address_escapes_default :
    ¬ RejectedAtomically scriptedNode (.initial {} {}) "localhost" :=
  (malformed_address_escapes scriptedNode (.initial {} {}) "localhost" (by decide) (by decide)).1

/-- A connected node is sent it. -/
theorem hostname_escapes :
    let parameters : ClientParameters := { gcIpAddress := "10.0.0.1" }
    ∃ node, NodeRun scriptedNode parameters admitting
        [⟨.initial parameters admitting, .connectAtStart, node⟩] node ∧
      node.teamClient.connected = true ∧ ¬ RejectedAtomically scriptedNode node "localhost" := by
  refine ⟨_, .step (.happens _ _) (.stop _), by decide +kernel, fun rejected => ?_⟩
  have answer := rejected.answer
  rw [handleReconnectTeamClient_malformed scriptedNode (by decide) (by decide)] at answer
  cases answer

end Reconnect

end SslRosBridge.GameControllerBridge
