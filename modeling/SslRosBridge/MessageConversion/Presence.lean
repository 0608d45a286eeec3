import SslRosBridge.MessageConversion.PayloadFields
import SslRosBridge.MessageConversion.Referee
import SslRosBridge.MessageConversion.Vision

/-!
# Presence of optional fields

An optional field that is mirrored by an array shows whether it is present.
One that is mirrored by a plain field is converted to the default of its type
when it is absent, and the values that are converted alike are hidden.
-/

namespace SslRosBridge.MessageConversion

open Library

namespace Proto

/-! ## Fields mirrored by arrays -/

def TeamInfo.optionalArrays : List (MirroredField TeamInfo Msg.TeamInfo) :=
  [.optional "foul_counter" (·.foulCounter)
      (fun msg value => { msg with foulCounter := value }) id (·.foulCounter),
    .optional "ball_placement_failures" (·.ballPlacementFailures)
      (fun msg value => { msg with ballPlacementFailures := value }) id (·.ballPlacementFailures),
    .optional "can_place_ball" (·.canPlaceBall)
      (fun msg value => { msg with canPlaceBall := value }) id (·.canPlaceBall),
    .optional "max_allowed_bots" (·.maxAllowedBots)
      (fun msg value => { msg with maxAllowedBots := value }) id (·.maxAllowedBots),
    .optional "bot_substitution_intent" (·.botSubstitutionIntent)
      (fun msg value => { msg with botSubstitutionIntent := value }) id (·.botSubstitutionIntent),
    .optional "ball_placement_failures_reached" (·.ballPlacementFailuresReached)
      (fun msg value => { msg with ballPlacementFailuresReached := value }) id
      (·.ballPlacementFailuresReached),
    .optional "bot_substitution_allowed" (·.botSubstitutionAllowed)
      (fun msg value => { msg with botSubstitutionAllowed := value }) id
      (·.botSubstitutionAllowed),
    .optional "bot_substitutions_left" (·.botSubstitutionsLeft)
      (fun msg value => { msg with botSubstitutionsLeft := value }) id (·.botSubstitutionsLeft),
    .optional "bot_substitution_time_left" (·.botSubstitutionTimeLeft)
      (fun msg value => { msg with botSubstitutionTimeLeft := value }) id
      (·.botSubstitutionTimeLeft)]

def Referee.optionalArrays : List (MirroredField Referee Msg.Referee) :=
  [.optional "source_identifier" (·.sourceIdentifier)
      (fun msg value => { msg with sourceIdentifier := value }) id (·.sourceIdentifier),
    .optional "match_type" (·.matchType)
      (fun msg value => { msg with matchType := value }) MatchType.number (·.matchType),
    .optional "stage_time_left" (·.stageTimeLeft)
      (fun msg value => { msg with stageTimeLeft := value }) id (·.stageTimeLeft),
    .optional "designated_position" (·.designatedPosition)
      (fun msg value => { msg with designatedPosition := value }) Point.fromProto
      (·.designatedPosition),
    .optional "blue_team_on_positive_half" (·.blueTeamOnPositiveHalf)
      (fun msg value => { msg with blueTeamOnPositiveHalf := value }) id
      (·.blueTeamOnPositiveHalf),
    .optional "next_command" (·.nextCommand)
      (fun msg value => { msg with nextCommand := value }) Command.number (·.nextCommand),
    .optional "current_action_time_remaining" (·.currentActionTimeRemaining)
      (fun msg value => { msg with currentActionTimeRemaining := value }) id
      (·.currentActionTimeRemaining),
    .optional "status_message" (·.statusMessage)
      (fun msg value => { msg with statusMessage := value }) id (·.statusMessage)]

def GameEventProposalGroup.optionalArrays :
    List (MirroredField GameEventProposalGroup Msg.GameEventProposalGroup) :=
  [.optional "id" (·.id) (fun msg value => { msg with id := value }) (fun value => value)
      (·.id)]

def RobotId.optionalArrays : List (MirroredField RobotId Msg.RobotId) :=
  [.optional "id" (·.id) (fun msg value => { msg with id := value }) (fun value => value)
      (·.id),
    .optional "team" (·.team) (fun msg value => { msg with team := value }) Team.fromProto
      (·.team)]

def SSLWrapperPacket.optionalArrays (ros : RosLibrary) :
    List (MirroredField SSLWrapperPacket Msg.VisionWrapper) :=
  [.optional "detection" (·.detection)
      (fun msg value => { msg with detection := value }) (SSLDetectionFrame.fromProto ros)
      (·.detection),
    .optional "geometry" (·.geometry)
      (fun msg value => { msg with geometry := value }) SSLGeometryData.fromProto (·.geometry)]

/-! ## Fields mirrored by plain fields -/

/-- The members of the oneof share one field; those marked `deprecated` have no
copy line. -/
def GameEvent.plainFields : List (OptionalField GameEvent) :=
  [⟨"id", String, fun msg value => { msg with id := value }, (· = "")⟩,
    ⟨"type", GameEventType, fun msg value => { msg with type := value },
      (· = .unknownGameEventType)⟩,
    ⟨"created_timestamp", UInt64, fun msg value => { msg with createdTimestamp := value },
      (· = 0)⟩,
    ⟨"event", Event, fun msg value => { msg with event := value },
      fun event => event.case.deprecated = true⟩]

def GameEventProposalGroup.plainFields : List (OptionalField GameEventProposalGroup) :=
  [⟨"accepted", Bool, fun msg value => { msg with accepted := value }, (· = false)⟩]

def SSLDetectionBall.plainFields : List (OptionalField SSLDetectionBall) :=
  [⟨"area", UInt32, fun msg value => { msg with area := value }, (· = 0)⟩,
    ⟨"z", Float32Bits, fun msg value => { msg with z := value }, (· ≤ 499)⟩]

def SSLDetectionRobot.plainFields (ros : RosLibrary) : List (OptionalField SSLDetectionRobot) :=
  [⟨"robot_id", UInt32, fun msg value => { msg with robotId := value }, (· = 0)⟩,
    ⟨"orientation", Float32Bits, fun msg value => { msg with orientation := value },
      fun angle => ros.rotationAboutZ angle = ros.rotationAboutZ 0⟩,
    ⟨"height", Float32Bits, fun msg value => { msg with height := value }, (· = 0)⟩]

def SSLDetectionFrame.plainFields (ros : RosLibrary) : List (OptionalField SSLDetectionFrame) :=
  [⟨"t_capture_camera", Float64Bits, fun msg value => { msg with tCaptureCamera := value },
      fun seconds => ros.time seconds.nanoseconds = ros.time (Float64Bits.nanoseconds 0)⟩]

def SSLGeometryFieldSize.plainFields : List (OptionalField SSLGeometryFieldSize) :=
  [⟨"penalty_area_depth", Int32, fun msg value => { msg with penaltyAreaDepth := value },
      (· = 0)⟩,
    ⟨"penalty_area_width", Int32, fun msg value => { msg with penaltyAreaWidth := value },
      (· = 0)⟩,
    ⟨"center_circle_radius", Int32, fun msg value => { msg with centerCircleRadius := value },
      (· = 0)⟩,
    ⟨"line_thickness", Int32, fun msg value => { msg with lineThickness := value }, (· = 0)⟩,
    ⟨"goal_center_to_penalty_mark", Int32,
      fun msg value => { msg with goalCenterToPenaltyMark := value }, (· = 0)⟩,
    ⟨"goal_height", Int32, fun msg value => { msg with goalHeight := value }, (· = 0)⟩,
    ⟨"ball_radius", Float32Bits, fun msg value => { msg with ballRadius := value }, (· ≤ 499)⟩,
    ⟨"max_robot_radius", Float32Bits, fun msg value => { msg with maxRobotRadius := value },
      (· ≤ 499)⟩]

def SSLGeometryCameraCalibration.plainFields :
    List (OptionalField SSLGeometryCameraCalibration) :=
  [⟨"derived_camera_world_tx", Float32Bits,
      fun msg value => { msg with derivedCameraWorldTx := value }, (· ≤ 499)⟩,
    ⟨"derived_camera_world_ty", Float32Bits,
      fun msg value => { msg with derivedCameraWorldTy := value }, (· ≤ 499)⟩,
    ⟨"derived_camera_world_tz", Float32Bits,
      fun msg value => { msg with derivedCameraWorldTz := value }, (· ≤ 499)⟩]

/-! ## Each converter -/

theorem TeamInfo.faithful :
    MirroredField.Faithful TeamInfo.optionalArrays [] TeamInfo.fromProto := by
  apply MirroredField.Faithful.of_kept <;> simp [optionalArrays, fromProto, copyOptional]

theorem Referee.faithful (ros : RosLibrary) :
    MirroredField.Faithful Referee.optionalArrays [] (Referee.fromProto ros) := by
  apply MirroredField.Faithful.of_kept <;>
    simp [optionalArrays, fromProto, copyOptional, copyOptionalEnum, copyOptionalStruct]

theorem RobotId.faithful :
    MirroredField.Faithful RobotId.optionalArrays [] RobotId.fromProto := by
  apply MirroredField.Faithful.of_kept <;>
    simp [optionalArrays, fromProto, copyOptional, copyOptionalStruct]

theorem GameEventProposalGroup.faithful :
    MirroredField.Faithful GameEventProposalGroup.optionalArrays []
      GameEventProposalGroup.fromProto := by
  apply MirroredField.Faithful.of_kept <;> simp [optionalArrays, fromProto, copyOptional]

theorem SSLWrapperPacket.faithful (ros : RosLibrary) :
    MirroredField.Faithful (SSLWrapperPacket.optionalArrays ros) []
      (SSLWrapperPacket.fromProto ros) := by
  apply MirroredField.Faithful.of_kept <;> simp [optionalArrays, fromProto]

/-- A member of the oneof shows unless it is deprecated. -/
theorem GameEvent.event_shown :
    OptionalField.Shown ⟨"event", Event, fun msg value => { msg with event := value },
      fun event => event.case.deprecated = true⟩ GameEvent.fromProto := by
  have different (source : GameEvent) (event : Event) :
      case? { source with event := none } ≠ case? { source with event := some event } := by
    simp [case?]
  refine .of_reading (·.toPayloadArrays) ?_ ?_
  · intro source event visible
    have current : GameEvent.current { source with event := some event } = true := by
      simpa [GameEvent.current] using visible
    exact (arrays_ne_iff (different source event)).mpr (Or.inr current)
  · intro source event deprecated
    have same : arrays { source with event := none } =
        arrays { source with event := some event } := by
      by_contra distinct
      rcases (arrays_ne_iff (different source event)).mp distinct with current | current
      · cases current
      · have kept : event.case.deprecated = false := by
          simpa [GameEvent.current] using current
        rw [deprecated] at kept
        cases kept
    exact congrArg (fun arrays : Msg.PayloadArrays =>
      ({ arrays with
        id := source.id.getD ""
        type := (source.type.getD .unknownGameEventType).number
        origin := source.origin
        createdTimestamp := source.createdTimestamp.getD 0 } : Msg.GameEvent)) same

theorem GameEventType.number_eq_zero_iff (type : GameEventType) :
    type.number = 0 ↔ type = .unknownGameEventType := by
  cases type <;> simp [number]

theorem GameEvent.plainFields_shown :
    ∀ field ∈ plainFields, field.Shown GameEvent.fromProto := by
  simp only [plainFields, List.forall_mem_cons, List.not_mem_nil, false_implies, implies_true,
    and_true]
  and_intros
  · exact .of_image (fun value => value) ""
      (fun msg value => { fromProto msg with id := value }) (·.id)
      (fun _ => rfl) (fun _ _ => rfl) (fun _ _ => rfl) (fun _ => Iff.rfl)
  · exact .of_image GameEventType.number 0
      (fun msg value => { fromProto msg with type := value }) (·.type)
      (fun _ => rfl) (fun _ _ => rfl) (fun _ _ => rfl) GameEventType.number_eq_zero_iff
  · exact .of_image (fun value => value) 0
      (fun msg value => { fromProto msg with createdTimestamp := value }) (·.createdTimestamp)
      (fun _ => rfl) (fun _ _ => rfl) (fun _ _ => rfl) (fun _ => Iff.rfl)
  · exact event_shown

theorem GameEventProposalGroup.plainFields_shown :
    ∀ field ∈ plainFields, field.Shown GameEventProposalGroup.fromProto := by
  simp only [plainFields, List.forall_mem_cons, List.not_mem_nil, false_implies, implies_true,
    and_true]
  exact .of_image (fun value => value) false
    (fun msg value => { fromProto msg with accepted := value }) (·.accepted)
    (fun _ => rfl) (fun _ _ => rfl) (fun _ _ => rfl) (fun _ => Iff.rfl)

theorem SSLDetectionBall.plainFields_shown :
    ∀ field ∈ plainFields, field.Shown SSLDetectionBall.fromProto := by
  simp only [plainFields, List.forall_mem_cons, List.not_mem_nil, false_implies, implies_true,
    and_true]
  and_intros
  · exact .of_image (fun value => value) 0
      (fun msg value => { fromProto msg with area := value }) (·.area)
      (fun _ => rfl) (fun _ _ => rfl) (fun _ _ => rfl) (fun _ => Iff.rfl)
  · exact .of_image Float32Bits.toMeters (Float32Bits.toMeters 0)
      (fun msg value => { fromProto msg with pos := { (fromProto msg).pos with z := value } })
      (·.pos.z) (fun _ => rfl) (fun _ _ => rfl) (fun _ _ => rfl)
      Float32Bits.toMeters_eq_toMeters_zero_iff

theorem SSLDetectionRobot.plainFields_shown (ros : RosLibrary) :
    ∀ field ∈ plainFields ros, field.Shown (SSLDetectionRobot.fromProto ros) := by
  simp only [plainFields, List.forall_mem_cons, List.not_mem_nil, false_implies, implies_true,
    and_true]
  and_intros
  · exact .of_image (fun value => value) 0
      (fun msg value => { fromProto ros msg with robotId := value }) (·.robotId)
      (fun _ => rfl) (fun _ _ => rfl) (fun _ _ => rfl) (fun _ => Iff.rfl)
  · exact .of_image ros.rotationAboutZ (ros.rotationAboutZ 0)
      (fun msg value => { fromProto ros msg with
        pose := { (fromProto ros msg).pose with orientation := value } })
      (·.pose.orientation) (fun _ => rfl) (fun _ _ => rfl) (fun _ _ => rfl) (fun _ => Iff.rfl)
  · exact .of_image (fun value => value) 0
      (fun msg value => { fromProto ros msg with height := value }) (·.height)
      (fun _ => rfl) (fun _ _ => rfl) (fun _ _ => rfl) (fun _ => Iff.rfl)

theorem SSLDetectionFrame.plainFields_shown (ros : RosLibrary) :
    ∀ field ∈ plainFields ros, field.Shown (SSLDetectionFrame.fromProto ros) := by
  simp only [plainFields, List.forall_mem_cons, List.not_mem_nil, false_implies, implies_true,
    and_true]
  exact .of_image (fun seconds => ros.time seconds.nanoseconds)
    (ros.time (Float64Bits.nanoseconds 0))
    (fun msg value => { fromProto ros msg with tCaptureCamera := value }) (·.tCaptureCamera)
    (fun _ => rfl) (fun _ _ => rfl) (fun _ _ => rfl) (fun _ => Iff.rfl)

theorem SSLGeometryFieldSize.plainFields_shown :
    ∀ field ∈ plainFields, field.Shown SSLGeometryFieldSize.fromProto := by
  simp only [plainFields, List.forall_mem_cons, List.not_mem_nil, false_implies, implies_true,
    and_true]
  and_intros
  · exact .of_image toMeters (toMeters 0)
      (fun msg value => { fromProto msg with penaltyAreaDepth := value }) (·.penaltyAreaDepth)
      (fun _ => rfl) (fun _ _ => rfl) (fun _ _ => rfl) toMeters_eq_toMeters_zero_iff
  · exact .of_image toMeters (toMeters 0)
      (fun msg value => { fromProto msg with penaltyAreaWidth := value }) (·.penaltyAreaWidth)
      (fun _ => rfl) (fun _ _ => rfl) (fun _ _ => rfl) toMeters_eq_toMeters_zero_iff
  · exact .of_image toMeters (toMeters 0)
      (fun msg value => { fromProto msg with centerCircleRadius := value }) (·.centerCircleRadius)
      (fun _ => rfl) (fun _ _ => rfl) (fun _ _ => rfl) toMeters_eq_toMeters_zero_iff
  · exact .of_image toMeters (toMeters 0)
      (fun msg value => { fromProto msg with lineThickness := value }) (·.lineThickness)
      (fun _ => rfl) (fun _ _ => rfl) (fun _ _ => rfl) toMeters_eq_toMeters_zero_iff
  · exact .of_image toMeters (toMeters 0)
      (fun msg value => { fromProto msg with goalCenterToPenaltyMark := value })
      (·.goalCenterToPenaltyMark)
      (fun _ => rfl) (fun _ _ => rfl) (fun _ _ => rfl) toMeters_eq_toMeters_zero_iff
  · exact .of_image toMeters (toMeters 0)
      (fun msg value => { fromProto msg with goalHeight := value }) (·.goalHeight)
      (fun _ => rfl) (fun _ _ => rfl) (fun _ _ => rfl) toMeters_eq_toMeters_zero_iff
  · exact .of_image Float32Bits.toMeters (Float32Bits.toMeters 0)
      (fun msg value => { fromProto msg with ballRadius := value }) (·.ballRadius)
      (fun _ => rfl) (fun _ _ => rfl) (fun _ _ => rfl) Float32Bits.toMeters_eq_toMeters_zero_iff
  · exact .of_image Float32Bits.toMeters (Float32Bits.toMeters 0)
      (fun msg value => { fromProto msg with maxRobotRadius := value }) (·.maxRobotRadius)
      (fun _ => rfl) (fun _ _ => rfl) (fun _ _ => rfl) Float32Bits.toMeters_eq_toMeters_zero_iff

theorem SSLGeometryCameraCalibration.plainFields_shown :
    ∀ field ∈ plainFields, field.Shown SSLGeometryCameraCalibration.fromProto := by
  simp only [plainFields, List.forall_mem_cons, List.not_mem_nil, false_implies, implies_true,
    and_true]
  and_intros
  · exact .of_image Float32Bits.toMeters (Float32Bits.toMeters 0)
      (fun msg value => { fromProto msg with
        derivedCameraWorldT := { (fromProto msg).derivedCameraWorldT with x := value } })
      (·.derivedCameraWorldT.x) (fun _ => rfl) (fun _ _ => rfl) (fun _ _ => rfl)
      Float32Bits.toMeters_eq_toMeters_zero_iff
  · exact .of_image Float32Bits.toMeters (Float32Bits.toMeters 0)
      (fun msg value => { fromProto msg with
        derivedCameraWorldT := { (fromProto msg).derivedCameraWorldT with y := value } })
      (·.derivedCameraWorldT.y) (fun _ => rfl) (fun _ _ => rfl) (fun _ _ => rfl)
      Float32Bits.toMeters_eq_toMeters_zero_iff
  · exact .of_image Float32Bits.toMeters (Float32Bits.toMeters 0)
      (fun msg value => { fromProto msg with
        derivedCameraWorldT := { (fromProto msg).derivedCameraWorldT with z := value } })
      (·.derivedCameraWorldT.z) (fun _ => rfl) (fun _ _ => rfl) (fun _ _ => rfl)
      Float32Bits.toMeters_eq_toMeters_zero_iff

/-! ## All converters -/

/-- An overload of `fromProto` with the optional fields that its ROS message
mirrors. -/
structure Overload : Type 1 where
  ProtoType : Type
  RosType : Type
  fromProto : ProtoType → RosType
  optionalFields : List (OptionalField ProtoType)

/-- The optional fields among mirrored ones, none of them forgotten. -/
def optionalOf {ProtoType RosType : Type} (fields : List (MirroredField ProtoType RosType)) :
    List (OptionalField ProtoType) :=
  fields.filterMap (·.optional? [])

def PayloadOverload.overload (payload : PayloadOverload) : Overload where
  ProtoType := payload.ProtoType
  RosType := payload.RosType
  fromProto := payload.fromProto
  optionalFields := payload.mirroredFields.filterMap (·.optional? payload.forgotten)

/-- The overloads for the messages that have optional fields. -/
def overloads (ros : RosLibrary) : List Overload :=
  [⟨Referee, _, Referee.fromProto ros, optionalOf Referee.optionalArrays⟩,
    ⟨TeamInfo, _, TeamInfo.fromProto, optionalOf TeamInfo.optionalArrays⟩,
    ⟨GameEvent, _, GameEvent.fromProto, GameEvent.plainFields⟩,
    ⟨GameEventProposalGroup, _, GameEventProposalGroup.fromProto,
      optionalOf GameEventProposalGroup.optionalArrays ++ GameEventProposalGroup.plainFields⟩,
    ⟨RobotId, _, RobotId.fromProto, optionalOf RobotId.optionalArrays⟩,
    ⟨SSLDetectionBall, _, SSLDetectionBall.fromProto, SSLDetectionBall.plainFields⟩,
    ⟨SSLDetectionRobot, _, SSLDetectionRobot.fromProto ros, SSLDetectionRobot.plainFields ros⟩,
    ⟨SSLDetectionFrame, _, SSLDetectionFrame.fromProto ros, SSLDetectionFrame.plainFields ros⟩,
    ⟨SSLGeometryFieldSize, _, SSLGeometryFieldSize.fromProto, SSLGeometryFieldSize.plainFields⟩,
    ⟨SSLGeometryCameraCalibration, _, SSLGeometryCameraCalibration.fromProto,
      SSLGeometryCameraCalibration.plainFields⟩,
    ⟨SSLWrapperPacket, _, SSLWrapperPacket.fromProto ros,
      optionalOf (SSLWrapperPacket.optionalArrays ros)⟩] ++
    payloadOverloads.map PayloadOverload.overload

theorem optionalOf_shown {ProtoType RosType : Type}
    {fields : List (MirroredField ProtoType RosType)} {fromProto : ProtoType → RosType}
    (faithful : MirroredField.Faithful fields [] fromProto) :
    ∀ field ∈ optionalOf fields, field.Shown fromProto := by
  intro field listed
  exact faithful.shown listed

/-- The presence of an optional field shows in the ROS message exactly when its
value is not hidden. -/
theorem presence_shown_iff (ros : RosLibrary) : ∀ overload ∈ overloads ros,
    ∀ field ∈ overload.optionalFields, ∀ protoMsg value,
      overload.fromProto (field.put protoMsg none) ≠
          overload.fromProto (field.put protoMsg (some value)) ↔
        ¬ field.hidden value := by
  change ∀ overload ∈ overloads ros, ∀ field ∈ overload.optionalFields,
    field.Shown overload.fromProto
  simp only [overloads, List.forall_mem_append, List.forall_mem_cons, List.not_mem_nil,
    false_implies, implies_true, and_true]
  refine ⟨⟨?_, ?_, ?_, ?_, ?_, ?_, ?_, ?_, ?_, ?_, ?_⟩, ?_⟩
  · exact optionalOf_shown (Referee.faithful ros)
  · exact optionalOf_shown TeamInfo.faithful
  · exact GameEvent.plainFields_shown
  · exact ⟨optionalOf_shown GameEventProposalGroup.faithful,
      GameEventProposalGroup.plainFields_shown⟩
  · exact optionalOf_shown RobotId.faithful
  · exact SSLDetectionBall.plainFields_shown
  · exact SSLDetectionRobot.plainFields_shown ros
  · exact SSLDetectionFrame.plainFields_shown ros
  · exact SSLGeometryFieldSize.plainFields_shown
  · exact SSLGeometryCameraCalibration.plainFields_shown
  · exact optionalOf_shown (SSLWrapperPacket.faithful ros)
  · intro overload listed field optional
    obtain ⟨payload, mem, rfl⟩ := List.mem_map.mp listed
    exact (payloadOverloads_faithful payload mem).shown optional

theorem presence_shown_iff_id :
    GameEvent.fromProto { id := none } ≠ GameEvent.fromProto { id := some "17" } :=
  (presence_shown_iff .sample
    ⟨GameEvent, _, GameEvent.fromProto, GameEvent.plainFields⟩ (by simp [overloads])
    ⟨"id", String, fun msg value => { msg with id := value }, (· = "")⟩
    (by simp [GameEvent.plainFields]) {} "17").mpr (by decide)

/-- An empty id is taken for an absent one. -/
theorem empty_id_hidden :
    ({ id := none } : GameEvent) ≠ { id := some "" } ∧
      GameEvent.fromProto { id := none } = GameEvent.fromProto { id := some "" } := by
  refine ⟨?_, rfl⟩
  intro same
  cases same

end Proto

end SslRosBridge.MessageConversion
