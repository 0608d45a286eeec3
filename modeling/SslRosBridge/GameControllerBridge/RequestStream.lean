import SslRosBridge.GameControllerBridge.Written

/-!
# The requests on the wire

What a request puts on the wire, and what a run of requests and pings does.  The
controller's parser undoes the serialization of a request, which is small.  A
choice that the service does not define is sent all the same, as whatever the
local holds that the switch left unassigned.
-/

namespace SslRosBridge.GameControllerBridge

open Library Library.Computation

/-! ## How the controller reads a request -/

/-- A parser of the requests that the client serializes. -/
structure ControllerCodec (serialize : TeamToController → List UInt8) where
  parse : List UInt8 → Option TeamToController
  parse_serialize : ∀ message, parse (serialize message) = some message
  small : ∀ message, (serialize message).length < 2 ^ 31

/-- The bytes are one frame, which the controller reads as this message. -/
def ControllerCodec.Carries {serialize : TeamToController → List UInt8}
    (codec : ControllerCodec serialize) (bytes : List UInt8) (message : TeamToController) : Prop :=
  ∃ body, bytes = delimited body ∧ firstFrame bytes = some body ∧ codec.parse body = some message

theorem ControllerCodec.carries_requestBytes {World : Type} {platform : Platform World}
    (codec : ControllerCodec platform.serializeToController) (message : TeamToController) :
    codec.Carries (requestBytes platform message) message := by
  refine ⟨_, rfl, ?_, codec.parse_serialize message⟩
  have read := firstFrame_delimited (codec.small message) []
  rwa [List.append_nil] at read

/-- The wire format of the controller's messages. -/
def protobufCodec : ControllerCodec TeamToController.encode where
  parse := TeamToController.decode
  parse_serialize := TeamToController.decode_encode
  small := fun message => Nat.lt_of_le_of_lt message.length_encode_le (by decide)

/-! ## What the handlers send -/

/-- The message that a request asks for; an advantage choice is one of the two
constants of the service. -/
def ServiceRequest.asked : ServiceRequest → Option TeamToController
  | .setDesiredKeeper desiredKeeper => some { msg := some (.desiredKeeper desiredKeeper) }
  | .substituteBot => some { msg := some (.substituteBot true) }
  | .setAdvantageChoice choice =>
      if choice = 0 then some { msg := some (.advantageChoice .stop) }
      else if choice = 1 then some { msg := some (.advantageChoice .continue) }
      else none

section RequestStream

variable {World : Type} (platform : NodePlatform World)

/-- The message that the handler of a request sends. -/
def ServiceRequest.message : ServiceRequest → TeamToController
  | .setDesiredKeeper desiredKeeper => { msg := some (.desiredKeeper desiredKeeper) }
  | .substituteBot => { msg := some (.substituteBot true) }
  | .setAdvantageChoice choice => advantageChoiceRequest (choiceOf platform choice)

theorem handleService_eq (request : ServiceRequest) :
    handleService platform request =
      whenConnected (sendRequest platform.toPlatform (request.message platform)) := by
  cases request <;> rfl

/-- A message that is asked for has a member set, and it is the one sent. -/
theorem ServiceRequest.message_of_asked {request : ServiceRequest} {message : TeamToController}
    (asked : request.asked = some message) :
    message.msg.isSome = true ∧ request.message platform = message := by
  cases request with
  | setDesiredKeeper desiredKeeper =>
      cases asked
      exact ⟨rfl, rfl⟩
  | substituteBot =>
      cases asked
      exact ⟨rfl, rfl⟩
  | setAdvantageChoice choice =>
      simp only [ServiceRequest.asked] at asked
      split at asked
      · next stop =>
          cases asked
          simp only [ServiceRequest.message, choiceOf, if_pos stop]
          exact ⟨rfl, rfl⟩
      · next notStop =>
          split at asked
          · next goOn =>
              cases asked
              simp only [ServiceRequest.message, choiceOf, if_neg notStop, if_pos goOn]
              exact ⟨rfl, rfl⟩
          · cases asked

/-! ## One callback -/

theorem onClient_writes {Value : Type} {action : Action World Value} {frames : List (List UInt8)}
    (writes : Writes action frames) (sent : List (List UInt8)) :
    Triple (fun node => node.teamClient.sent = sent) (TeamClientNode.onClient action)
      (fun _ node => node.teamClient.sent = sent ++ frames)
      (fun _ node => node.teamClient.sent = sent ++ frames) :=
  onClient_spec (writes sent)

theorem whenConnected_sent {node : TeamClientNode World}
    (connected : node.teamClient.connected = true) (message : TeamToController) :
    ((whenConnected (sendRequest platform.toPlatform message)).result node).2.teamClient.sent =
      node.teamClient.sent ++ [requestBytes platform.toPlatform message] := by
  unfold whenConnected
  rw [result_bind, TeamClientNode.isConnected, result_step, connected]
  have sends := onClient_writes (sendRequest_writes platform.toPlatform message)
    node.teamClient.sent
  exact Triple.result (Triple.bind _ sends fun _ => Triple.pure fun _ => id) rfl

theorem pingCallback_sent {node : TeamClientNode World}
    (connected : node.teamClient.connected = true) :
    ((pingCallback platform).result node).2.teamClient.sent =
      node.teamClient.sent ++ [requestBytes platform.toPlatform pingRequest] := by
  unfold pingCallback
  rw [result_bind, TeamClientNode.isConnected, result_step, connected]
  have sends := onClient_writes (ping_writes platform.toPlatform) node.teamClient.sent
  refine Triple.result (Triple.bind _ sends fun result => ?_) rfl
  cases result.requestResult.accepted with
  | true => exact Triple.pure fun _ => id
  | false =>
      have quiet := onClient_writes (disconnect_writes platform.toPlatform)
        (node.teamClient.sent ++ [requestBytes platform.toPlatform pingRequest])
      rw [List.append_nil] at quiet
      exact Triple.bind _ quiet fun _ => Triple.pure fun _ => id

variable (codec : ControllerCodec platform.serializeToController)

/-- What a request is to put on the wire, and what is to be answered where it
puts nothing there. -/
structure OnWire (node : TeamClientNode World) (request : ServiceRequest) : Prop where
  disconnected : node.teamClient.connected = false →
    (node.after platform (.userRequests request)).teamClient.sent = node.teamClient.sent ∧
    ∃ response, ((handleService platform request).result node).1 = .ok response ∧
      response.success = false
  defined : node.teamClient.connected = true → ∀ message, request.asked = some message →
    message.msg.isSome = true ∧
    ∃ bytes, (node.after platform (.userRequests request)).teamClient.sent =
        node.teamClient.sent ++ [bytes] ∧ codec.Carries bytes message
  undefined : node.teamClient.connected = true → request.asked = none →
    (node.after platform (.userRequests request)).teamClient.sent = node.teamClient.sent ∧
    ∃ response, ((handleService platform request).result node).1 = .ok response ∧
      response.success = false

/-- The client is not connected, or the request has a value that is defined. -/
def ServiceRequest.Defined (request : ServiceRequest) (node : TeamClientNode World) : Prop :=
  node.teamClient.connected = true → request.asked ≠ none

theorem sent_userRequests {node : TeamClientNode World}
    (connected : node.teamClient.connected = true) (request : ServiceRequest) :
    (node.after platform (.userRequests request)).teamClient.sent =
      node.teamClient.sent ++ [requestBytes platform.toPlatform (request.message platform)] := by
  rw [TeamClientNode.after, handleService_eq]
  exact whenConnected_sent platform connected _

theorem onWire_iff (node : TeamClientNode World) (request : ServiceRequest) :
    OnWire platform codec node request ↔ request.Defined node := by
  constructor
  · intro onWire connected asked
    have quiet := (onWire.undefined connected asked).1
    rw [sent_userRequests platform connected] at quiet
    exact absurd quiet (by simp)
  · intro defined
    refine ⟨fun disconnected => ?_, fun connected message asked => ?_, fun connected asked => ?_⟩
    · have refused := handleService_disconnected platform disconnected request
      rw [TeamClientNode.after, refused]
      exact ⟨rfl, _, rfl, rfl⟩
    · obtain ⟨set, same⟩ := request.message_of_asked platform asked
      refine ⟨set, _, sent_userRequests platform connected request, ?_⟩
      rw [same]
      exact codec.carries_requestBytes message
    · exact absurd asked (defined connected)

/-! ## Runs -/

/-- The messages of a step that is made while connected. -/
def messagesOf (messages : ServiceRequest → List TeamToController)
    (transition : Transition (TeamClientNode World) (NodeEvent World)) : List TeamToController :=
  match transition.before.teamClient.connected with
  | false => []
  | true =>
    match transition.label with
    | .userRequests request => messages request
    | .pingTick => [pingRequest]
    | _ => []

/-- The valid requests and the pings made while connected. -/
def requestsMade : Transition (TeamClientNode World) (NodeEvent World) → List TeamToController :=
  messagesOf fun request => request.asked.toList

/-- The requests and the pings that the handlers send. -/
def requestsHandled : Transition (TeamClientNode World) (NodeEvent World) → List TeamToController :=
  messagesOf fun request => [request.message platform]

def NodeEvent.connects : NodeEvent World → Bool
  | .connectAtStart => true
  | .userReconnects _ => true
  | _ => false

/-- What a step writes, unless it connects. -/
def requestFrames (transition : Transition (TeamClientNode World) (NodeEvent World)) :
    List (List UInt8) :=
  match transition.label.connects with
  | true => []
  | false => transition.after.teamClient.sent.drop transition.before.teamClient.sent.length

/-- A connecting step writes a registration or nothing. -/
def WritesRegistration (transition : Transition (TeamClientNode World) (NodeEvent World)) : Prop :=
  transition.after.teamClient.sent = transition.before.teamClient.sent ∨
  transition.after.teamClient.sent = transition.before.teamClient.sent ++
    [registrationBytes platform.toPlatform transition.before.teamName
      (teamColorOf platform transition.before.teamColor)]

/-- The controller reads the requests made, one by one, between registrations. -/
structure RunOnWire
    (transitions : List (Transition (TeamClientNode World) (NodeEvent World))) : Prop where
  registrations : ∀ transition ∈ transitions, transition.label.connects = true →
    WritesRegistration platform transition
  requests : List.Forall₂ codec.Carries (transitions.flatMap requestFrames)
    (transitions.flatMap requestsMade)

/-- A request of a run has a value that is defined, or is made without a connection. -/
def DefinedStep (transition : Transition (TeamClientNode World) (NodeEvent World)) : Prop :=
  ∀ request, transition.label = .userRequests request → request.Defined transition.before

theorem nodeConnect_sent (node : TeamClientNode World) :
    ((nodeConnect platform).result node).2.teamClient.sent = node.teamClient.sent ∨
    ((nodeConnect platform).result node).2.teamClient.sent = node.teamClient.sent ++
      [registrationBytes platform.toPlatform node.teamName
        (teamColorOf platform node.teamColor)] := by
  by_cases empty : node.gcIpAddress = ""
  · rw [nodeConnect_without_address platform empty]
    exact Or.inl rfl
  rw [nodeConnect_with_address platform empty]
  cases platform.addressFromString node.gcIpAddress with
  | none => exact Or.inl rfl
  | some address =>
      exact Triple.result (onClient_spec (connect_writes platform.toPlatform
        (connectionParameters platform node address) node.teamClient.sent)) rfl

theorem writesRegistration_of_connects (node : TeamClientNode World) {event : NodeEvent World}
    (connects : event.connects = true) :
    WritesRegistration platform ⟨node, event, node.after platform event⟩ := by
  cases event with
  | connectAtStart => exact nodeConnect_sent platform node
  | userReconnects serverAddress =>
      have sent := nodeConnect_sent platform
        (if serverAddress = "" then node else { node with gcIpAddress := serverAddress })
      rw [← handleReconnectTeamClient_eq] at sent
      split at sent <;> exact sent
  | networkMoves => cases connects
  | userSetsParameters => cases connects
  | userRequests => cases connects
  | pingTick => cases connects

/-- A step that does not connect writes the messages that its handler sends. -/
theorem requestFrames_eq (node : TeamClientNode World) (event : NodeEvent World) :
    requestFrames ⟨node, event, node.after platform event⟩ =
      (requestsHandled platform ⟨node, event, node.after platform event⟩).map
        (requestBytes platform.toPlatform) := by
  unfold requestFrames requestsHandled messagesOf
  cases connected : node.teamClient.connected with
  | false =>
      cases event with
      | userRequests request =>
          simp [NodeEvent.connects, TeamClientNode.after,
            handleService_disconnected platform connected]
      | pingTick =>
          simp [NodeEvent.connects, TeamClientNode.after,
            pingCallback_disconnected platform connected]
      | networkMoves world => exact List.drop_length
      | userSetsParameters parameters => exact List.drop_length
      | connectAtStart => rfl
      | userReconnects serverAddress => rfl
  | true =>
      cases event with
      | userRequests request =>
          simp [NodeEvent.connects, sent_userRequests platform connected]
      | pingTick =>
          simp [NodeEvent.connects, TeamClientNode.after, pingCallback_sent platform connected]
      | networkMoves world => exact List.drop_length
      | userSetsParameters parameters => exact List.drop_length
      | connectAtStart => rfl
      | userReconnects serverAddress => rfl

/-- Only a request with an undefined value is handled but not made. -/
theorem requestsMade_cases (transition : Transition (TeamClientNode World) (NodeEvent World)) :
    DefinedStep transition ∧ requestsMade transition = requestsHandled platform transition ∨
    ¬ DefinedStep transition ∧
      (requestsMade transition).length < (requestsHandled platform transition).length := by
  obtain ⟨before, event, after⟩ := transition
  unfold requestsMade requestsHandled messagesOf
  cases connected : before.teamClient.connected with
  | false => exact Or.inl ⟨fun _ _ isTrue => absurd (connected.symm.trans isTrue) nofun, rfl⟩
  | true =>
      cases event with
      | userRequests request =>
          cases asked : request.asked with
          | none =>
              refine Or.inr ⟨fun defined => defined request rfl connected asked, ?_⟩
              simp only [asked, Option.toList_none, List.length_nil, List.length_singleton,
                Nat.zero_lt_one]
          | some message =>
              refine Or.inl ⟨?_, ?_⟩
              · rintro _ ⟨⟩ _ nothing
                exact absurd (asked.symm.trans nothing) nofun
              · simp only [asked, Option.toList_some, (request.message_of_asked platform asked).2]
      | pingTick => exact Or.inl ⟨nofun, rfl⟩
      | networkMoves => exact Or.inl ⟨nofun, rfl⟩
      | userSetsParameters => exact Or.inl ⟨nofun, rfl⟩
      | connectAtStart => exact Or.inl ⟨nofun, rfl⟩
      | userReconnects => exact Or.inl ⟨nofun, rfl⟩

/-- The induction over the steps: where all are defined the two sequences are
one, and any other step makes the sequence of the handled requests longer. -/
theorem requestsMade_flatMap
    (transitions : List (Transition (TeamClientNode World) (NodeEvent World))) :
    ((∀ transition ∈ transitions, DefinedStep transition) →
      transitions.flatMap requestsMade = transitions.flatMap (requestsHandled platform)) ∧
    (transitions.flatMap requestsMade).length ≤
      (transitions.flatMap (requestsHandled platform)).length ∧
    ((transitions.flatMap requestsMade).length =
        (transitions.flatMap (requestsHandled platform)).length →
      ∀ transition ∈ transitions, DefinedStep transition) := by
  induction transitions with
  | nil =>
      simp only [List.flatMap_nil, List.length_nil, Nat.le_refl, true_and]
      exact ⟨fun _ => trivial, fun _ => List.forall_mem_nil _⟩
  | cons transition transitions ih =>
      obtain ⟨same, le, defined⟩ := ih
      simp only [List.flatMap_cons, List.length_append, List.forall_mem_cons]
      rcases requestsMade_cases platform transition with ⟨now, equal⟩ | ⟨undefined, fewer⟩
      · rw [equal]
        exact ⟨fun all => by rw [same all.2], by omega, fun lengths => ⟨now, defined (by omega)⟩⟩
      · exact ⟨fun all => absurd all.1 undefined, by omega, fun lengths => by omega⟩

theorem runOnWire_iff {first last : TeamClientNode World}
    {transitions : List (Transition (TeamClientNode World) (NodeEvent World))}
    (run : Execution (NodeStep platform) first transitions last) :
    RunOnWire platform codec transitions ↔
      ∀ transition ∈ transitions, DefinedStep transition := by
  have frames : transitions.flatMap requestFrames =
      (transitions.flatMap (requestsHandled platform)).map (requestBytes platform.toPlatform) := by
    rw [List.map_flatMap]
    refine List.flatMap_congr fun transition member => ?_
    obtain ⟨node, event, rfl⟩ := transition_of_execution run transition member
    exact requestFrames_eq platform node event
  obtain ⟨same, -, defined⟩ := requestsMade_flatMap platform transitions
  constructor
  · intro onWire
    have lengths := onWire.requests.length_eq
    rw [frames, List.length_map] at lengths
    exact defined lengths.symm
  · intro all
    refine ⟨fun transition member connects => ?_, ?_⟩
    · obtain ⟨node, event, rfl⟩ := transition_of_execution run transition member
      exact writesRegistration_of_connects platform node connects
    · rw [frames, same all, List.forall₂_map_left_iff, List.forall₂_same]
      exact fun message _ => codec.carries_requestBytes message

/--
A request puts on the wire what the service says, in whatever state of the
node, exactly when it has a defined value or there is no connection; and in any
run the controller reads the requests and pings made exactly when this holds of
each.
-/
theorem on_wire_iff_defined :
    (∀ node request, OnWire platform codec node request ↔ request.Defined node) ∧
    ∀ parameters world transitions last, NodeRun platform parameters world transitions last →
      (RunOnWire platform codec transitions ↔
        ∀ transition ∈ transitions, DefinedStep transition) :=
  ⟨onWire_iff platform codec, fun _ _ _ _ => runOnWire_iff platform codec⟩

end RequestStream

/-- A node that connects when it starts, to a controller that accepts it. -/
def acceptedNode : TeamClientNode Script :=
  .initial { gcIpAddress := "10.0.0.1" } admitting

/-- It then changes the keeper. -/
def keeperRun : List (Transition (TeamClientNode Script) (NodeEvent Script)) :=
  let node := acceptedNode.after scriptedNode .connectAtStart
  let event := NodeEvent.userRequests (.setDesiredKeeper (-3))
  [⟨acceptedNode, .connectAtStart, node⟩, ⟨node, event, node.after scriptedNode event⟩]

theorem connected_acceptedNode :
    (acceptedNode.after scriptedNode .connectAtStart).teamClient.connected = true := by
  decide +kernel

/-- The controller reads the keeper's number. -/
theorem on_wire_keeper :
    OnWire scriptedNode protobufCodec acceptedNode .substituteBot ∧
    RunOnWire scriptedNode protobufCodec keeperRun ∧
    keeperRun.flatMap requestsMade = [{ msg := some (.desiredKeeper (-3)) }] := by
  have theorems := on_wire_iff_defined scriptedNode protobufCodec
  refine ⟨(theorems.1 _ _).mpr fun _ => nofun, ?_, ?_⟩
  · have run : NodeRun scriptedNode _ _ keeperRun _ :=
      .step (.happens _ _) (.step (.happens _ _) (.stop _))
    refine (theorems.2 _ _ keeperRun _ run).mpr ?_
    rintro transition (_ | ⟨_, _ | ⟨_, ⟨⟩⟩⟩) request ⟨⟩
    exact fun _ => nofun
  · simp only [keeperRun, List.flatMap_cons, requestsMade, messagesOf, connected_acceptedNode]
    rfl

/-- Over the same connection the choice 2 is sent, as an empty message here. -/
theorem undefined_choice_sent :
    ∃ parameters world node, NodeRun scriptedNode parameters world
        [⟨acceptedNode, .connectAtStart, node⟩] node ∧
      node.teamClient.connected = true ∧
      ¬ OnWire scriptedNode protobufCodec node (.setAdvantageChoice 2) := by
  refine ⟨_, _, _, .step (.happens acceptedNode _) (.stop _), connected_acceptedNode,
    fun onWire => ?_⟩
  have quiet := (onWire.undefined connected_acceptedNode rfl).1
  rw [sent_userRequests scriptedNode connected_acceptedNode] at quiet
  exact absurd quiet (by simp)

end SslRosBridge.GameControllerBridge
