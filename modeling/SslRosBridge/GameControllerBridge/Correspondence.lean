import SslRosBridge.GameControllerBridge.BridgeFlag
import SslRosBridge.GameControllerBridge.Session

/-!
# Which packet a response answers

Requests and responses arrive in any order, and a late response may meet a
later wait.  The numbers keep them apart: a wait ends with the response to the
request that its own packet sent, which the client executed in between.
-/

namespace SslRosBridge.GameControllerBridge

open Library Library.Computation

/-- The wait of the bridge, if it runs and waits. -/
def Nodes.waiting? {World Message : Type} (nodes : Nodes World Message) :
    Option (ServiceFuture (TeamClient World)) :=
  nodes.bridge.bind (·.waiting)

section Correspondence

variable {World : Type} (platform : NodePlatform World)

/-! ## What a step does to the messages under way -/

/-- A step leaves the requests, the responses and the wait for one alone, apart
from losses, or it does one of three things to them. -/
inductive MailMove {Message : Type} :
    Nodes World Message → NodesEvent World → Nodes World Message → Prop where
  | rests {before after : Nodes World Message} {event : NodesEvent World}
      (number : after.nextNumber = before.nextNumber)
      (requests : after.requests ⊆ before.requests)
      (responses : after.responses = before.responses)
      (waiting : ∀ future, after.waiting? = some future →
        before.waiting? = some future ∧ event ≠ .startBridge) :
      MailMove before event after
  | sends {before after : Nodes World Message} {senderAddress : String} {buffer : List UInt8}
      {serviceIsReady : Bool} {deadline : Nat} (named : senderAddress ≠ "")
      (number : after.nextNumber = before.nextNumber + 1)
      (requests : after.requests ⊆ before.requests ++ [⟨before.nextNumber, senderAddress⟩])
      (responses : after.responses = before.responses)
      (waiting : after.waiting? = some { number := before.nextNumber, deadline }) :
      MailMove before (.refereePacket senderAddress buffer serviceIsReady) after
  | executes {before : Nodes World Message} {index : Nat} {request : ReconnectRequest}
      {node next : TeamClientNode World} {success : Bool} (running : before.client = .running node)
      (arrives : before.requests[index]? = some request)
      (returned : (handleReconnectTeamClient platform request.serverAddress).result node =
        (.ok success, next)) :
      MailMove before (.handleRequest index)
        (Nodes.sendResponse request.number success next
          (Nodes.clientRuns { before with requests := before.requests.eraseIdx index } next))
  | delivers {before : Nodes World Message} {index : Nat}
      {response : ReconnectResponse (TeamClient World)}
      {bridge : GCMulticastBridgeNode Message (TeamClient World)}
      (running : before.bridge = some bridge) (arrives : before.responses[index]? = some response) :
      MailMove before (.deliverResponse index)
        (Nodes.withBridge { before with responses := before.responses.eraseIdx index }
          (bridge.receiveResponse response))

/-- A step after which the bridge waits for what it waited for before. -/
theorem MailMove.keeps {Message : Type} {before after : Nodes World Message}
    {event : NodesEvent World} (number : after.nextNumber = before.nextNumber)
    (requests : after.requests ⊆ before.requests) (responses : after.responses = before.responses)
    (waiting : after.waiting? = before.waiting?) (same : event ≠ .startBridge) :
    MailMove platform before event after :=
  .rests number requests responses fun _ waits => ⟨waiting ▸ waits, same⟩

/-- A callback of the client that sends no response. -/
theorem mailMove_callback {Message Value : Type} {nodes : Nodes World Message}
    {outcome : Except ErrorCode Value × TeamClientNode World} {event : NodesEvent World}
    {send : Value → TeamClientNode World → Nodes World Message → Nodes World Message}
    (same : event ≠ .startBridge)
    (kept : ∀ value node nodes, (send value node nodes).nextNumber = nodes.nextNumber ∧
      (send value node nodes).requests = nodes.requests ∧
      (send value node nodes).responses = nodes.responses ∧
      (send value node nodes).bridge = nodes.bridge) :
    MailMove platform nodes event (nodes.afterCallback outcome send) := by
  obtain ⟨error | value, node⟩ := outcome
  · exact .keeps platform rfl (List.nil_subset _) rfl rfl same
  · obtain ⟨number, requests, responses, bridge⟩ := kept value node (nodes.clientRuns node)
    exact .keeps platform number (requests ▸ List.Subset.refl _) responses
      (congrArg (·.bind (·.waiting)) bridge) same

theorem sendNothing_kept {Message Value : Type} (value : Value) (node : TeamClientNode World)
    (nodes : Nodes World Message) :
    (Nodes.sendNothing value node nodes).nextNumber = nodes.nextNumber ∧
      (Nodes.sendNothing value node nodes).requests = nodes.requests ∧
      (Nodes.sendNothing value node nodes).responses = nodes.responses ∧
      (Nodes.sendNothing value node nodes).bridge = nodes.bridge :=
  ⟨rfl, rfl, rfl, rfl⟩

theorem sendStatus_mail {Message : Type} (status : ConnectionStatus) (node : TeamClientNode World)
    (nodes : Nodes World Message) :
    (Nodes.sendStatus status node nodes).nextNumber = nodes.nextNumber ∧
      (Nodes.sendStatus status node nodes).requests = nodes.requests ∧
      (Nodes.sendStatus status node nodes).responses = nodes.responses ∧
      (Nodes.sendStatus status node nodes).bridge = nodes.bridge := by
  unfold Nodes.sendStatus
  split
  · exact ⟨rfl, rfl, rfl, rfl⟩
  · exact ⟨rfl, rfl, rfl, rfl⟩

variable {platform} {bridgePlatform : BridgePlatform}

theorem mail_move {before after : Nodes World bridgePlatform.Message} {event : NodesEvent World}
    (step : NodesStep platform bridgePlatform before event after) :
    MailMove platform before event after := by
  cases step with
  | startBridge => exact .rests rfl (List.Subset.refl _) rfl (by rintro _ ⟨⟩)
  | startClient => exact .keeps platform rfl (List.nil_subset _) rfl rfl (by rintro ⟨⟩)
  | connectAtStart => exact mailMove_callback platform (by rintro ⟨⟩) sendNothing_kept
  | networkMoves => exact .keeps platform rfl (List.Subset.refl _) rfl rfl (by rintro ⟨⟩)
  | timePasses => exact .keeps platform rfl (List.Subset.refl _) rfl rfl (by rintro ⟨⟩)
  | userSetsParameters => exact .keeps platform rfl (List.Subset.refl _) rfl rfl (by rintro ⟨⟩)
  | userReconnects => exact mailMove_callback platform (by rintro ⟨⟩) sendNothing_kept
  | userRequests => exact mailMove_callback platform (by rintro ⟨⟩) sendNothing_kept
  | pingTick => exact mailMove_callback platform (by rintro ⟨⟩) sendStatus_mail
  | @handleRequest node request index running arrives =>
      generalize returned :
        (handleReconnectTeamClient platform request.serverAddress).result node = outcome
      obtain ⟨error | success, next⟩ := outcome
      · exact .keeps platform rfl (List.nil_subset _) rfl rfl (by rintro ⟨⟩)
      · exact .executes running arrives returned
  | @refereePacket node senderAddress request next buffer serviceIsReady running idle named
      callback =>
      rcases (GCMulticastBridgeNode.publishMulticastMessage_cases bridgePlatform _ callback).2 with
        ⟨-, rfl, waiting, -⟩ | ⟨-, rfl, waiting, -⟩
      · refine .keeps platform rfl (List.Subset.refl _) rfl ?_ (by rintro ⟨⟩)
        rw [Nodes.waiting?, Nodes.waiting?, running]
        exact waiting
      · refine .sends named rfl ?_ rfl waiting
        simp only [Nodes.sendReconnect, Nodes.withBridge]
        split
        · exact List.Subset.refl _
        · exact List.subset_append_left _ _
  | deliverStatus running arrives =>
      refine .keeps platform rfl (List.Subset.refl _) rfl ?_ (by rintro ⟨⟩)
      rw [Nodes.waiting?, Nodes.waiting?, running]
      rfl
  | deliverResponse index running arrives => exact .delivers running arrives
  | @resume bridge future response running waiting answered =>
      refine .rests rfl (List.Subset.refl _) rfl fun future waits => ?_
      have nothing : (bridge.resume response).waiting = none := by
        unfold GCMulticastBridgeNode.resume
        split <;> rfl
      cases nothing.symm.trans waits
  | giveUp => exact .rests rfl (List.Subset.refl _) rfl (by rintro _ ⟨⟩)

/-! ## Numbers -/

/-- The numbers under way have been used, and every request names an address. -/
structure Nodes.Numbered {Message : Type} (nodes : Nodes World Message) : Prop where
  requests : ∀ request ∈ nodes.requests,
    request.number < nodes.nextNumber ∧ request.serverAddress ≠ ""
  responses : ∀ response ∈ nodes.responses, response.number < nodes.nextNumber

theorem numbered_move {Message : Type} {before after : Nodes World Message}
    {event : NodesEvent World} (numbered : before.Numbered)
    (move : MailMove platform before event after) : after.Numbered := by
  cases move with
  | rests number requests responses =>
      constructor
      · intro request member
        rw [number]
        exact numbered.requests request (requests member)
      · rw [number, responses]
        exact numbered.responses
  | sends named number requests responses =>
      constructor
      · intro request member
        rw [number]
        rcases List.mem_append.mp (requests member) with earlier | new
        · have used := numbered.requests request earlier
          exact ⟨Nat.lt_succ_of_lt used.1, used.2⟩
        · obtain rfl := List.mem_singleton.mp new
          exact ⟨Nat.lt_succ_self _, named⟩
      · rw [number, responses]
        exact fun response member => Nat.lt_succ_of_lt (numbered.responses response member)
  | executes running arrives returned =>
      have used := numbered.requests _ (List.mem_of_getElem? arrives)
      exact ⟨fun other member => numbered.requests other (List.mem_of_mem_eraseIdx member),
        List.forall_mem_append.mpr ⟨numbered.responses, List.forall_mem_singleton.mpr used.1⟩⟩
  | delivers running arrives =>
      exact ⟨numbered.requests,
        fun other member => numbered.responses other (List.mem_of_mem_eraseIdx member)⟩

/-! ## The chain behind a response -/

section Chain

variable {Message : Type}

/-- The client executes the request, or fails to. -/
def Executes (transition : Transition (Nodes World Message) (NodesEvent World))
    (request : ReconnectRequest) : Prop :=
  ∃ index, transition.label = .handleRequest index ∧
    transition.before.requests[index]? = some request

variable (platform) in
/-- The client answers the request with this response. -/
structure RespondsTo (transition : Transition (Nodes World Message) (NodesEvent World))
    (request : ReconnectRequest) (response : ReconnectResponse (TeamClient World)) : Prop where
  executes : Executes transition request
  number : request.number = response.number
  returned : ∃ node next, transition.before.client = .running node ∧
    (handleReconnectTeamClient platform request.serverAddress).result node =
      (.ok response.success, next) ∧ response.sender = next.teamClient

variable (platform) in
def AnsweredIn (past : List (Transition (Nodes World Message) (NodesEvent World)))
    (response : ReconnectResponse (TeamClient World)) : Prop :=
  ∃ transition ∈ past, ∃ request, RespondsTo platform transition request response

/-- The packet for which the bridge waits.  Its number was not executed before,
and what is executed under this number names the packet's sender. -/
structure AwaitsFrom (past : List (Transition (Nodes World Message) (NodesEvent World)))
    (nodes : Nodes World Message) (number : Nat) (senderAddress : String)
    (front back : List (Transition (Nodes World Message) (NodesEvent World)))
    (packet : Transition (Nodes World Message) (NodesEvent World)) : Prop where
  layout : past = front ++ packet :: back
  received : ∃ buffer serviceIsReady,
    packet.label = .refereePacket senderAddress buffer serviceIsReady
  sent : packet.before.nextNumber = number
  fresh : ∀ transition ∈ front, ∀ request, Executes transition request → request.number ≠ number
  executed : ∀ transition ∈ back, ∀ request, Executes transition request →
    request.number = number → request.serverAddress = senderAddress
  underWay : ∀ request ∈ nodes.requests, request.number = number →
    request.serverAddress = senderAddress
  uninterrupted : ∀ transition ∈ back, transition.label ≠ .startBridge

variable (platform) in
structure Awaits (past : List (Transition (Nodes World Message) (NodesEvent World)))
    (nodes : Nodes World Message) (future : ServiceFuture (TeamClient World)) : Prop where
  packet : ∃ senderAddress front back packet,
    AwaitsFrom past nodes future.number senderAddress front back packet
  answered : ∀ response, future.response = some response →
    response.number = future.number ∧ AnsweredIn platform past response

variable (platform) in
/-- What is known of the messages under way, from the transitions taken so far. -/
structure Traced (past : List (Transition (Nodes World Message) (NodesEvent World)))
    (nodes : Nodes World Message) : Prop where
  numbered : nodes.Numbered
  executed : ∀ transition ∈ past, ∀ request, Executes transition request →
    request.number < nodes.nextNumber
  responses : ∀ response ∈ nodes.responses, AnsweredIn platform past response
  waiting : ∀ future, nodes.waiting? = some future → Awaits platform past nodes future

variable {past : List (Transition (Nodes World Message) (NodesEvent World))}

theorem AnsweredIn.later {response : ReconnectResponse (TeamClient World)}
    (answered : AnsweredIn platform past response)
    (more : List (Transition (Nodes World Message) (NodesEvent World))) :
    AnsweredIn platform (past ++ more) response := by
  obtain ⟨transition, member, answers⟩ := answered
  exact ⟨transition, List.mem_append_left more member, answers⟩

variable {before after : Nodes World Message} {event : NodesEvent World}

/-- The wait goes on behind a step that adds no request. -/
theorem Awaits.later {future : ServiceFuture (TeamClient World)}
    (awaits : Awaits platform past before future) (requests : after.requests ⊆ before.requests)
    (same : event ≠ .startBridge) :
    Awaits platform (past ++ [⟨before, event, after⟩]) after future := by
  obtain ⟨senderAddress, front, back, packet, sender⟩ := awaits.packet
  refine ⟨⟨senderAddress, front, back ++ [⟨before, event, after⟩], packet, ?_⟩,
    fun response answered =>
      ⟨(awaits.answered response answered).1, (awaits.answered response answered).2.later _⟩⟩
  refine
    { layout := by rw [sender.layout, List.append_assoc, List.cons_append]
      received := sender.received
      sent := sender.sent
      fresh := sender.fresh
      executed := List.forall_mem_append.mpr ⟨sender.executed, List.forall_mem_singleton.mpr ?_⟩
      underWay := fun request member => sender.underWay request (requests member)
      uninterrupted := List.forall_mem_append.mpr
        ⟨sender.uninterrupted, List.forall_mem_singleton.mpr same⟩ }
  rintro request ⟨index, -, arrives⟩
  exact sender.underWay request (List.mem_of_getElem? arrives)

/-- A step executes requests that are under way in front of it. -/
theorem Traced.executed_later (traced : Traced platform past before)
    (number : before.nextNumber ≤ after.nextNumber) :
    ∀ transition ∈ past ++ [⟨before, event, after⟩], ∀ request, Executes transition request →
      request.number < after.nextNumber := by
  refine List.forall_mem_append.mpr ⟨fun transition member request executes =>
    Nat.lt_of_lt_of_le (traced.executed transition member request executes) number,
      List.forall_mem_singleton.mpr ?_⟩
  rintro request ⟨index, -, arrives⟩
  exact Nat.lt_of_lt_of_le (traced.numbered.requests request (List.mem_of_getElem? arrives)).1
    number

/-- A packet that sends a request starts a wait of its own. -/
theorem awaits_of_sends {senderAddress : String} {buffer : List UInt8} {serviceIsReady : Bool}
    {deadline : Nat} (traced : Traced platform past before)
    (requests : after.requests ⊆ before.requests ++ [⟨before.nextNumber, senderAddress⟩]) :
    Awaits platform
      (past ++ [⟨before, .refereePacket senderAddress buffer serviceIsReady, after⟩]) after
      { number := before.nextNumber, deadline } := by
  refine ⟨⟨senderAddress, past, [],
    ⟨before, .refereePacket senderAddress buffer serviceIsReady, after⟩, ?_⟩, nofun⟩
  refine
    { layout := rfl
      received := ⟨buffer, serviceIsReady, rfl⟩
      sent := rfl
      fresh := fun transition member request executes =>
        Nat.ne_of_lt (traced.executed transition member request executes)
      executed := List.forall_mem_nil _
      underWay := ?_
      uninterrupted := List.forall_mem_nil _ }
  intro request member same
  rcases List.mem_append.mp (requests member) with earlier | new
  · exact absurd same (Nat.ne_of_lt (traced.numbered.requests request earlier).1)
  · obtain rfl := List.mem_singleton.mp new
    rfl

/-- The middleware puts a response into the wait for its number only. -/
theorem receiveResponse_waiting {bridge : GCMulticastBridgeNode Message (TeamClient World)}
    {response : ReconnectResponse (TeamClient World)} {future : ServiceFuture (TeamClient World)}
    (waits : (bridge.receiveResponse response).waiting = some future) :
    ∃ earlier, bridge.waiting = some earlier ∧ earlier.number = future.number ∧
      (future.response = earlier.response ∨
        future.response = some response ∧ response.number = future.number) := by
  unfold GCMulticastBridgeNode.receiveResponse at waits
  cases waiting : bridge.waiting with
  | none =>
      simp only [waiting] at waits
      exact absurd waits nofun
  | some earlier =>
      simp only [waiting] at waits
      split at waits
      · next number =>
          obtain rfl := Option.some.inj waits
          exact ⟨earlier, rfl, rfl, Or.inr ⟨rfl, number.symm⟩⟩
      · obtain rfl := Option.some.inj (waiting.symm.trans waits)
        exact ⟨earlier, rfl, rfl, Or.inl rfl⟩

theorem traced_step (traced : Traced platform past before)
    (move : MailMove platform before event after) :
    Traced platform (past ++ [⟨before, event, after⟩]) after := by
  have numbered := numbered_move traced.numbered move
  cases move with
  | rests number requests responses waiting =>
      refine ⟨numbered, traced.executed_later (Nat.le_of_eq number.symm), ?_, ?_⟩
      · rw [responses]
        exact fun response member => (traced.responses response member).later _
      · intro future waits
        obtain ⟨waited, same⟩ := waiting future waits
        exact (traced.waiting future waited).later requests same
  | sends named number requests responses waiting =>
      refine ⟨numbered, traced.executed_later (by omega), ?_, ?_⟩
      · rw [responses]
        exact fun response member => (traced.responses response member).later _
      · intro future waits
        obtain rfl := Option.some.inj (waiting.symm.trans waits)
        exact awaits_of_sends traced requests
  | executes running arrives returned =>
      refine ⟨numbered, traced.executed_later (Nat.le_refl _),
        List.forall_mem_append.mpr ⟨fun response member =>
          (traced.responses response member).later _, List.forall_mem_singleton.mpr ?_⟩, ?_⟩
      · exact ⟨_, List.mem_append_right past List.mem_cons_self, _,
          ⟨_, rfl, arrives⟩, rfl, _, _, running, returned, rfl⟩
      · intro future waits
        exact (traced.waiting future waits).later (fun _ => List.mem_of_mem_eraseIdx) nofun
  | @delivers index response bridge running arrives =>
      refine ⟨numbered, traced.executed_later (Nat.le_refl _), ?_, ?_⟩
      · exact fun other member =>
          (traced.responses other (List.mem_of_mem_eraseIdx member)).later _
      · intro future waits
        obtain ⟨earlier, waited, number, answer⟩ := receiveResponse_waiting waits
        have before_waits : before.waiting? = some earlier := by
          rw [Nodes.waiting?, running]
          exact waited
        have kept : (Nodes.withBridge { before with responses := before.responses.eraseIdx index }
            (bridge.receiveResponse response)).requests ⊆ before.requests := List.Subset.refl _
        have awaits := (traced.waiting earlier before_waits).later kept
          (nofun : (.deliverResponse index : NodesEvent World) ≠ .startBridge)
        refine ⟨number ▸ awaits.packet, fun answered has => ?_⟩
        rcases answer with same | ⟨new, own⟩
        · rw [← number]
          exact awaits.answered answered (same.symm.trans has)
        · obtain rfl := Option.some.inj (new.symm.trans has)
          exact ⟨own, (traced.responses _ (List.mem_of_getElem? arrives)).later _⟩

/-! ## The sender of the packet -/

variable (platform) in
/-- A packet came from an address, and then the client executed the request for
it, connected there and was registered, while the bridge stayed up. -/
inductive ReachesSender : List (Transition (Nodes World Message) (NodesEvent World)) → Prop where
  | chain {front middle back : List (Transition (Nodes World Message) (NodesEvent World))}
      {packet executed : Transition (Nodes World Message) (NodesEvent World)}
      {senderAddress : String} {buffer : List UInt8} {serviceIsReady : Bool} {index : Nat}
      {node next : TeamClientNode World} {address : Address}
      (received : packet.label = .refereePacket senderAddress buffer serviceIsReady)
      (executes : executed.label = .handleRequest index)
      (own : executed.before.requests[index]? = some ⟨packet.before.nextNumber, senderAddress⟩)
      (running : executed.before.client = .running node)
      (returned : (handleReconnectTeamClient platform senderAddress).result node =
        (.ok true, next))
      (parses : platform.addressFromString senderAddress = some address)
      (registered : StandsFor platform (some (connectionParameters platform node address))
        next.teamClient)
      (uninterrupted : ∀ transition ∈ middle ++ executed :: back,
        transition.label ≠ .startBridge) :
      ReachesSender (front ++ packet :: (middle ++ executed :: back))

/-- A reconnect that succeeds connects to the address that it carries. -/
theorem standsFor_reconnected {node next : TeamClientNode World} {serverAddress : String}
    (nonempty : serverAddress ≠ "")
    (returned : (handleReconnectTeamClient platform serverAddress).result node = (.ok true, next)) :
    ∃ address, platform.addressFromString serverAddress = some address ∧
      StandsFor platform (some (connectionParameters platform node address)) next.teamClient := by
  have configured :
      ({ node with gcIpAddress := serverAddress } : TeamClientNode World).gcIpAddress ≠ "" :=
    nonempty
  rw [handleReconnectTeamClient_eq, if_neg nonempty, nodeConnect_with_address platform configured]
    at returned
  cases parses : platform.addressFromString serverAddress with
  | none =>
      rw [parses] at returned
      cases returned
  | some address =>
      simp only [parses] at returned
      have connects := onClient_spec (standsFor_connect platform
        (connectionParameters platform node address)) { node with gcIpAddress := serverAddress }
          trivial
      rw [show connectionParameters platform { node with gcIpAddress := serverAddress } address =
        connectionParameters platform node address from rfl] at returned
      rw [returned] at connects
      exact ⟨address, rfl, connects⟩

/-- The response that a wait has got leads back to the packet that began it. -/
theorem Awaits.reachesSender {future : ServiceFuture (TeamClient World)}
    {nodes : Nodes World Message} (awaits : Awaits platform past nodes future)
    (named : ∀ transition ∈ past, ∀ senderAddress buffer serviceIsReady,
      transition.label = .refereePacket senderAddress buffer serviceIsReady → senderAddress ≠ "")
    {response : ReconnectResponse (TeamClient World)}
    (answered : future.response = some response) (success : response.success = true) :
    ReachesSender platform past := by
  obtain ⟨senderAddress, front, back, packet, sender⟩ := awaits.packet
  obtain ⟨number, executed, member, request, responds⟩ := awaits.answered response answered
  obtain ⟨buffer, serviceIsReady, received⟩ := sender.received
  obtain ⟨node, next, running, returned, -⟩ := responds.returned
  have own : request.number = future.number := responds.number.trans number
  have layout := sender.layout
  subst layout
  have later : executed ∈ back := by
    rcases List.mem_append.mp member with early | late
    · exact absurd own (sender.fresh executed early request responds.executes)
    · refine (List.mem_cons.mp late).resolve_left ?_
      rintro rfl
      obtain ⟨index, label, -⟩ := responds.executes
      exact absurd (received.symm.trans label) nofun
  have address := sender.executed executed later request responds.executes own
  have nonempty := named packet (by simp) _ _ _ received
  obtain ⟨middle, rest, rfl⟩ := List.append_of_mem later
  obtain ⟨index, label, arrives⟩ := responds.executes
  rw [address, success] at returned
  obtain ⟨parsed, parses, registered⟩ := standsFor_reconnected nonempty returned
  refine .chain received label ?_ running returned parses registered sender.uninterrupted
  rw [arrives, sender.sent, ← own, ← address]

end Chain

/--
In every run, each time a response makes the bridge believe that the client is
connected, the bridge has asked for that connection because of a packet, and
has not been started again; the client has executed this very request since,
and was then connected to the sender of that packet and registered there.
-/
theorem resume_reaches_sender
    {past future : List (Transition (Nodes World bridgePlatform.Message) (NodesEvent World))}
    {transition : Transition (Nodes World bridgePlatform.Message) (NodesEvent World)}
    {last : Nodes World bridgePlatform.Message}
    (run : NodesRun platform bridgePlatform (past ++ transition :: future) last)
    (resumes : transition.label = .resume) (raises : Raises transition) :
    ReachesSender platform past := by
  have started : Traced platform [] ({} : Nodes World bridgePlatform.Message) :=
    ⟨⟨List.forall_mem_nil _, List.forall_mem_nil _⟩, List.forall_mem_nil _, List.forall_mem_nil _,
      by rintro _ ⟨⟩⟩
  have traced := run.invariant_of_past (Traced platform)
    (fun traced step => traced_step traced (mail_move step)) started past transition future rfl
  have named : ∀ earlier ∈ past, ∀ senderAddress buffer serviceIsReady,
      earlier.label = .refereePacket senderAddress buffer serviceIsReady → senderAddress ≠ "" := by
    rintro ⟨before, _, after⟩ member senderAddress buffer serviceIsReady rfl
    have step : NodesStep platform bridgePlatform before
        (.refereePacket senderAddress buffer serviceIsReady) after :=
      run.steps _ (List.mem_append_left _ member)
    cases step with
    | refereePacket _ _ _ _ named => exact named
  obtain ⟨before, _, after⟩ := transition
  obtain rfl := resumes
  have step : NodesStep platform bridgePlatform before .resume after :=
    run.steps _ (List.mem_append_right past List.mem_cons_self)
  cases step with
  | @resume bridge awaited response running waiting answered =>
      have waits : before.waiting? = some awaited := by
        rw [Nodes.waiting?, running]
        exact waiting
      refine (traced.waiting awaited waits).reachesSender named answered ?_
      obtain ⟨_, _, running', ⟨⟩, lowered, raised⟩ := raises
      obtain rfl := Option.some.inj (running.symm.trans running')
      cases success : response.success with
      | true => rfl
      | false =>
          rw [GCMulticastBridgeNode.resume, success] at raised
          cases lowered.symm.trans raised

end Correspondence

/-! ## A packet that finds a controller -/

/-- The client starts without an address, and the controller behind the first
packet accepts it. -/
theorem resume_reaches_sender_first :
    ∃ past transition last,
      NodesRun scriptedNode scriptedBridge (past ++ [transition]) last ∧
        ReachesSender scriptedNode past := by
  have connects : (nodeConnect scriptedNode).result (.initial {} admitting) =
      (.ok true, .initial {} admitting) := nodeConnect_without_address scriptedNode rfl
  have reconnects := result_eq_of_toOption (handleReconnectTeamClient scriptedNode "10.0.0.1")
    (.initial {} admitting) true (by decide +kernel)
  let next := ((handleReconnectTeamClient scriptedNode "10.0.0.1").result (.initial {} admitting)).2
  let later : Nodes Script scriptedBridge.Message :=
    { time := 10, bridge := some {}, client := .running (.initial {} admitting) }
  let requested : Nodes Script scriptedBridge.Message :=
    { later with
      nextNumber := 1
      bridge := some { lastReconnectAttemptTime := 10, published := [bareReferee],
                       waiting := some { number := 0, deadline := 30 } }
      requests := [⟨0, "10.0.0.1"⟩] }
  have sends : NodesStep scriptedNode scriptedBridge later
      (.refereePacket "10.0.0.1" bareReferee true) requested :=
    @NodesStep.refereePacket _ _ _ _ {} "10.0.0.1" (some ⟨0, "10.0.0.1"⟩) _
      bareReferee true rfl rfl (by decide) rfl
  have executes : NodesStep scriptedNode scriptedBridge requested (.handleRequest 0)
      (Nodes.sendResponse 0 true next
        (Nodes.clientRuns { requested with requests := [] } next)) := by
    have step : NodesStep scriptedNode scriptedBridge requested _ _ := .handleRequest 0 rfl rfl
    rwa [Nodes.afterCallback_ok _ reconnects] at step
  have run : NodesRun scriptedNode scriptedBridge ([_, _, _, _, _, _, _] ++ [_]) _ :=
    .step (.startBridge _) (.step (.startClient _ {} admitting)
      (.step (connectAtStart_returns rfl connects) (.step (.timePasses _ 10) (.step sends
        (.step executes (.step (.deliverResponse 0 rfl rfl) (.step (.resume rfl rfl rfl)
          (.stop _))))))))
  exact ⟨_, _, _, run, resume_reaches_sender run rfl ⟨_, _, rfl, rfl, rfl, rfl⟩⟩

end SslRosBridge.GameControllerBridge
