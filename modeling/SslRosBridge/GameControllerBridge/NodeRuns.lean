import SslRosBridge.Library.Execution
import SslRosBridge.GameControllerBridge.Nodes

/-!
# Runs of the team client node

The node on its own, with any users of its services and of its parameters.  A
callback that throws leaves the node in the state it has reached.  The process
ends there; a run may also go on.
-/

namespace SslRosBridge.GameControllerBridge

open Library

inductive NodeEvent (World : Type) where
  | connectAtStart
  | networkMoves (world : World)
  | userSetsParameters (parameters : ClientParameters)
  | userRequests (request : ServiceRequest)
  | userReconnects (serverAddress : String)
  | pingTick

section NodeRuns

variable {World : Type} (platform : NodePlatform World)

/-- The node after an event, whether its callback returns or throws. -/
def TeamClientNode.after (node : TeamClientNode World) : NodeEvent World → TeamClientNode World
  | .connectAtStart => ((nodeConnect platform).result node).2
  | .networkMoves world => node.withClient { node.teamClient with world := world }
  | .userSetsParameters parameters => node.setParameters parameters
  | .userRequests request => ((handleService platform request).result node).2
  | .userReconnects serverAddress =>
      ((handleReconnectTeamClient platform serverAddress).result node).2
  | .pingTick => ((pingCallback platform).result node).2

def TeamClientNode.afterAll (node : TeamClientNode World) (events : List (NodeEvent World)) :
    TeamClientNode World :=
  events.foldl (TeamClientNode.after platform) node

inductive NodeStep : TeamClientNode World → NodeEvent World → TeamClientNode World → Prop where
  | happens (node : TeamClientNode World) (event : NodeEvent World) :
      NodeStep node event (node.after platform event)

variable {platform} in
theorem NodeStep.eq {before after : TeamClientNode World} {event : NodeEvent World}
    (step : NodeStep platform before event after) : after = before.after platform event := by
  cases step with
  | happens => rfl

variable {platform} in
/-- Every transition of a run is an event and what the node makes of it. -/
theorem transition_of_execution {first last : TeamClientNode World}
    {transitions : List (Transition (TeamClientNode World) (NodeEvent World))}
    (run : Execution (NodeStep platform) first transitions last) :
    ∀ transition ∈ transitions, ∃ node event,
      transition = ⟨node, event, node.after platform event⟩ := by
  rintro ⟨before, event, after⟩ member
  exact ⟨before, event, by rw [← (run.steps _ member).eq]⟩

/-- A run of a node that was constructed with these parameters. -/
abbrev NodeRun (parameters : ClientParameters) (world : World)
    (transitions : List (Transition (TeamClientNode World) (NodeEvent World)))
    (last : TeamClientNode World) : Prop :=
  Execution (NodeStep platform) (.initial parameters world) transitions last

end NodeRuns

end SslRosBridge.GameControllerBridge
