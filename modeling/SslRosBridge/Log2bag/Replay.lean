import SslRosBridge.GameControllerBridge.RefereeStream
import SslRosBridge.Log2bag.Decoding

/-!
# Recorded and live

The bridges publish what they receive, and `log2bag` writes what was recorded.
Both go through the same parsers and conversions, so a log of the packets of
both feeds gives the messages that the bridges have published meanwhile.
-/

namespace SslRosBridge.Log2bag

open Library SslRosBridge.Core GameControllerBridge VisionBridge MessageConversion
open MessageConversion.Proto

/-! ## Traffic -/

inductive Feed where
  | vision
  | referee
  deriving DecidableEq, Repr

/-- A datagram of one of the multicast groups, with the time at which it came. -/
structure Packet where
  feed : Feed
  time : Int64
  datagram : Datagram

def Feed.type : Feed → EntryType
  | .vision => .vision2014
  | .referee => .refbox2013

def Feed.topic : Feed → String
  | .vision => "/vision_messages"
  | .referee => "/referee_messages"

def Feed.typeName : Feed → String
  | .vision => "ssl_league_msgs/msg/VisionWrapper"
  | .referee => "ssl_league_msgs/msg/Referee"

/-- The entry of a packet that is recorded in full. -/
def Packet.entry (packet : Packet) : LoggedEntry where
  type := packet.feed.type
  time := packet.time
  payload := packet.datagram.payload
  small := Nat.lt_of_le_of_lt packet.datagram.fits (by decide)

/-- The datagrams of a feed, in their order. -/
def datagramsOf (feed : Feed) (traffic : List Packet) : List Datagram :=
  (traffic.filter (·.feed = feed)).map (·.datagram)

/-- The log of the traffic. -/
def recording (traffic : List Packet) : List UInt8 :=
  encodeLog ((traffic.map Packet.entry).map LoggedEntry.framed)

section Replay

variable (platform : BridgePlatform) (ros : RosLibrary)
variable (parseVision : List UInt8 → Option SSLWrapperPacket) (allocates : Nat → Bool)

/-- `log2bag` with the parsers of the bridges. -/
def bridgeHost : Host platform.Referee SSLWrapperPacket where
  parseReferee := platform.parseReferee
  parseWrapper := parseVision
  allocates := allocates

/-- `log2bag` with the conversions of the bridges. -/
def bridgeFromProto : FromProto platform.Referee SSLWrapperPacket platform.Message
    Msg.VisionWrapper where
  referee := platform.fromProto
  wrapperPacket := SSLWrapperPacket.fromProto ros

/-- The contents of the messages on a topic. -/
def contentsOn {RosReferee RosWrapper : Type} (topic : String)
    (bag : List (BagMessage RosReferee RosWrapper)) : List (Content RosReferee RosWrapper) :=
  (bag.filter (·.topic = topic)).map (·.content)

/-- The bag of a recording. -/
def recordedBag (traffic : List Packet) :
    List (BagMessage platform.Message Msg.VisionWrapper) :=
  bagOf (bridgeHost platform parseVision allocates) (bridgeFromProto platform ros)
    ((traffic.map Packet.entry).map LoggedEntry.toScannedEntry)

/-! ## What is recorded -/

variable {allocates}

theorem convertsTo_recording {traffic : List Packet}
    (granted : ∀ packet ∈ traffic, allocates packet.datagram.payload.length = true) :
    ConvertsTo (bridgeHost platform parseVision allocates) (bridgeFromProto platform ros)
      (recording traffic) (recordedBag platform ros parseVision allocates traffic)
      (fun type => (traffic.map Packet.entry).countP fun entry => entry.type = type) := by
  have scanned := scanLog_encodeEntries (bridgeHost platform parseVision allocates)
    (traffic.map Packet.entry) (by
      intro entry member
      obtain ⟨packet, sent, rfl⟩ := List.mem_map.mp member
      exact Or.inr (granted packet sent)) []
  have nothing : scanLog (bridgeHost platform parseVision allocates) [] = ⟨[], [], false⟩ :=
    (logScanner _).run_waits rfl
  rw [List.append_nil, nothing] at scanned
  have converts := convertsTo_scan (bridgeHost platform parseVision allocates)
    (bridgeFromProto platform ros)
    (encodeEntries ((traffic.map Packet.entry).map LoggedEntry.framed))
  rw [scanned, Scanned.outputs_prepend, List.append_nil] at converts
  have counted : headersOf (Scanned.prepend ⟨[], [], false⟩
      ((traffic.map Packet.entry).map LoggedEntry.toScannedEntry)) =
      fun type => (traffic.map Packet.entry).countP fun entry => entry.type = type := by
    funext type
    rw [headersOf_prepend, headersOf_nil, unreadHeader_short (by decide), List.countP_map]
    rfl
  rw [counted] at converts
  exact converts

variable (allocates)

/-- What one packet adds to the bag. -/
def Packet.messages (packet : Packet) : List (BagMessage platform.Message Msg.VisionWrapper) :=
  (packet.entry.toScannedEntry.bagMessage? (bridgeHost platform parseVision allocates)
    (bridgeFromProto platform ros)).toList

theorem recordedBag_cons (packet : Packet) (traffic : List Packet) :
    recordedBag platform ros parseVision allocates (packet :: traffic) =
      packet.messages platform ros parseVision allocates ++
        recordedBag platform ros parseVision allocates traffic := by
  simp only [recordedBag, bagOf, List.map_cons, List.filterMap_cons, Packet.messages]
  cases packet.entry.toScannedEntry.bagMessage? (bridgeHost platform parseVision allocates)
    (bridgeFromProto platform ros) with
  | none => rfl
  | some message => rfl

/-- The messages that a bridge publishes when it receives the packet. -/
def Packet.shown (packet : Packet) : List (Content platform.Message Msg.VisionWrapper) :=
  let received := packet.datagram.payload.take receiveBufferSize
  match packet.feed with
  | .vision => (converted parseVision (SSLWrapperPacket.fromProto ros) received).map .visionWrapper
  | .referee => (converted platform.parseReferee platform.fromProto received).map .referee

/-- What is received of the packet parses as all of it does. -/
def Packet.Whole (packet : Packet) : Prop :=
  let received := packet.datagram.payload.take receiveBufferSize
  match packet.feed with
  | .vision => parseVision received = parseVision packet.datagram.payload
  | .referee => platform.parseReferee received = platform.parseReferee packet.datagram.payload

/-- The message of the bag that shows a packet. -/
def Packet.message {RosReferee RosWrapper : Type} (packet : Packet)
    (content : Content RosReferee RosWrapper) : BagMessage RosReferee RosWrapper where
  content := content
  topic := packet.feed.topic
  typeName := packet.feed.typeName
  time := packet.time

variable {platform parseVision}

theorem messages_of_whole {packet : Packet} (whole : packet.Whole platform parseVision) :
    packet.messages platform ros parseVision allocates =
      (packet.shown platform ros parseVision).map packet.message := by
  obtain ⟨feed, time, datagram⟩ := packet
  cases feed with
  | vision =>
      have same : parseVision (datagram.payload.take receiveBufferSize) =
        parseVision datagram.payload := whole
      simp only [Packet.shown, converted, same]
      cases parsed : parseVision datagram.payload <;>
        simp [Packet.messages, ScannedEntry.bagMessage?, Packet.entry, Feed.type, bridgeHost,
          bridgeFromProto, parsed, Packet.message, Feed.topic, Feed.typeName]
  | referee =>
      have same : platform.parseReferee (datagram.payload.take receiveBufferSize) =
        platform.parseReferee datagram.payload := whole
      simp only [Packet.shown, converted, same]
      cases parsed : platform.parseReferee datagram.payload <;>
        simp [Packet.messages, ScannedEntry.bagMessage?, Packet.entry, Feed.type, bridgeHost,
          bridgeFromProto, parsed, Packet.message, Feed.topic, Feed.typeName]

theorem recordedBag_of_whole {traffic : List Packet}
    (whole : ∀ packet ∈ traffic, packet.Whole platform parseVision) :
    recordedBag platform ros parseVision allocates traffic =
      traffic.flatMap fun packet =>
        (packet.shown platform ros parseVision).map packet.message := by
  induction traffic with
  | nil => rfl
  | cons packet traffic ih =>
      obtain ⟨first, later⟩ := List.forall_mem_cons.mp whole
      rw [recordedBag_cons, messages_of_whole ros allocates first, ih later, List.flatMap_cons]

theorem topic_inj {feed other : Feed} (same : feed.topic = other.topic) : feed = other := by
  cases feed <;> cases other
  · rfl
  · simp [Feed.topic] at same
  · simp [Feed.topic] at same
  · rfl

/-- A topic of the bag has what is shown of the packets of its feed. -/
theorem contentsOn_shown (feed : Feed) (traffic : List Packet) :
    contentsOn feed.topic (traffic.flatMap fun packet =>
        (packet.shown platform ros parseVision).map packet.message) =
      (traffic.filter (·.feed = feed)).flatMap (Packet.shown platform ros parseVision) := by
  induction traffic with
  | nil => rfl
  | cons packet traffic ih =>
      have split : ∀ front back : List (BagMessage platform.Message Msg.VisionWrapper),
          contentsOn feed.topic (front ++ back) =
            contentsOn feed.topic front ++ contentsOn feed.topic back := by
        intro front back
        rw [contentsOn, List.filter_append, List.map_append]
        rfl
      rw [List.flatMap_cons, split, ih]
      by_cases same : packet.feed = feed
      · have kept : ((packet.shown platform ros parseVision).map packet.message).filter
            (·.topic = feed.topic) = (packet.shown platform ros parseVision).map packet.message :=
          List.filter_eq_self.mpr (by simp [Packet.message, same])
        rw [contentsOn, kept, List.map_map, List.filter_cons_of_pos (by simpa using same),
          List.flatMap_cons]
        exact congrArg (· ++ _) (List.map_id _)
      · have other : packet.feed.topic ≠ feed.topic := fun topics => same (topic_inj topics)
        have dropped : ((packet.shown platform ros parseVision).map packet.message).filter
            (·.topic = feed.topic) = [] :=
          List.filter_eq_nil_iff.mpr (by simp [Packet.message, other])
        rw [contentsOn, dropped, List.filter_cons_of_neg (by simpa using same)]
        rfl

/-! ## What is published -/

variable {ros} in
theorem published_vision {start : MulticastReceiver SSLVisionBridgeNode}
    (callback : start.receiveCallback = SSLVisionBridgeNode.multicastCallback ros parseVision)
    (armed : start.outstanding = 1) (fresh : start.owner.published = [])
    (datagrams : List Datagram) :
    (start.run (datagrams.map .datagram)).owner.published =
      datagrams.flatMap fun datagram => converted parseVision (SSLWrapperPacket.fromProto ros)
        (datagram.payload.take receiveBufferSize) := by
  -- induction from the right: the last datagram is added to what was published before
  induction datagrams using List.reverseRecOn with
  | nil => exact fresh
  | append_singleton before datagram ih =>
      rw [SSLVisionBridgeNode.published_run_snoc callback armed, ih, List.flatMap_append,
        List.flatMap_singleton]

/-- The datagrams that reach the referee bridge in an execution. -/
def arrivals {Receiver Sender : Type}
    (transitions : List (Transition Receiver (BridgeEvent Sender))) : List Datagram :=
  transitions.filterMap fun transition =>
    match transition.label with
    | .datagram datagram => some datagram
    | _ => none

theorem published_referee {Sender : Type} {first last : BridgeReceiver platform Sender}
    {transitions : List (Transition (BridgeReceiver platform Sender) (BridgeEvent Sender))}
    (callback : first.receiveCallback = BridgeHost.publishMulticastMessage platform)
    (execution : Execution BridgeReceiver.Step first transitions last) :
    last.published = first.published ++ (arrivals transitions).flatMap fun datagram =>
      converted platform.parseReferee platform.fromProto
        (datagram.payload.take receiveBufferSize) := by
  induction execution with
  | stop => exact (List.append_nil _).symm
  | @step before after last label transitions taken later ih =>
      obtain ⟨kept, published⟩ := BridgeReceiver.step_published callback taken
      rw [ih (kept.trans callback), published, List.append_assoc]
      cases label <;> rfl

/-- What the bridges have published on a feed. -/
def publishedOn {Sender : Type} (vision : MulticastReceiver SSLVisionBridgeNode)
    (referee : BridgeReceiver platform Sender) :
    Feed → List (Content platform.Message Msg.VisionWrapper)
  | .vision => vision.owner.published.map .visionWrapper
  | .referee => referee.published.map .referee

/-- The datagrams of a feed converted one by one are what is shown of it. -/
theorem shown_feed {Message : Type} {feed : Feed} {convert : List UInt8 → List Message}
    {wrap : Message → Content platform.Message Msg.VisionWrapper}
    (shows : ∀ packet : Packet, packet.feed = feed → packet.shown platform ros parseVision =
      (convert (packet.datagram.payload.take receiveBufferSize)).map wrap)
    (traffic : List Packet) :
    ((datagramsOf feed traffic).flatMap fun datagram =>
        convert (datagram.payload.take receiveBufferSize)).map wrap =
      (traffic.filter (·.feed = feed)).flatMap (Packet.shown platform ros parseVision) := by
  rw [datagramsOf, List.flatMap_map, List.map_flatMap]
  refine List.flatMap_congr fun packet member => (shows packet ?_).symm
  simpa using (List.mem_filter.mp member).2

/-! ## Both together -/

theorem count_type (feed : Feed) (traffic : List Packet) :
    (traffic.map Packet.entry).countP (fun entry => entry.type = feed.type) =
      (datagramsOf feed traffic).length := by
  have same : ∀ other : Feed, other.type = feed.type ↔ other = feed := by
    intro other
    cases other <;> cases feed <;> decide
  rw [datagramsOf, List.length_map, ← List.countP_eq_length_filter, List.countP_map]
  exact List.countP_congr fun packet _ => by simp [Packet.entry, same]

variable {ros allocates}
variable {multicast : MulticastPlatform} {visionParameters refereeParameters : MulticastParameters}
variable {visionMemory refereeMemory : Buffer}

/--
The log of all packets of both feeds converts to the messages that the two
bridges have published from them, each with the time of its packet and on either
topic in the same order, whatever else has happened to the referee bridge: if
what the bridges receive of every packet parses as all of it does, and the
allocator grants its payload.
-/
theorem recording_converts_to_published {vision : MulticastReceiver SSLVisionBridgeNode}
    (visionConstructed : SSLVisionBridgeNode.construct ros parseVision multicast
      visionParameters visionMemory = .ok vision)
    {Sender : Type} {referee last : BridgeReceiver platform Sender}
    (refereeConstructed : BridgeReceiver.construct platform Sender multicast refereeParameters
      refereeMemory = .ok referee)
    {transitions : List (Transition (BridgeReceiver platform Sender) (BridgeEvent Sender))}
    (execution : Execution BridgeReceiver.Step referee transitions last) {traffic : List Packet}
    (received : arrivals transitions = datagramsOf .referee traffic)
    (granted : ∀ packet ∈ traffic, allocates packet.datagram.payload.length = true)
    (whole : ∀ packet ∈ traffic, packet.Whole platform parseVision) :
    let ended := vision.run ((datagramsOf .vision traffic).map .datagram)
    ∃ bag counts, ConvertsTo (bridgeHost platform parseVision allocates)
        (bridgeFromProto platform ros) (recording traffic) bag counts ∧
      bag.map (fun message => (message.content, message.time)) =
        traffic.flatMap (fun packet =>
          (packet.shown platform ros parseVision).map fun content => (content, packet.time)) ∧
      ∀ feed, contentsOn feed.topic bag = publishedOn ended last feed ∧
        publishedOn ended last feed =
          (traffic.filter (·.feed = feed)).flatMap (Packet.shown platform ros parseVision) ∧
        counts feed.type = (datagramsOf feed traffic).length := by
  intro ended
  obtain ⟨visionCallback, visionOwner, armed, -⟩ :=
    MulticastReceiver.construct_eq_ok visionConstructed
  obtain ⟨refereeCallback, refereeOwner, -, -⟩ :=
    MulticastReceiver.construct_eq_ok refereeConstructed
  have visionFresh : vision.owner.published = [] := by rw [visionOwner]
  have refereeFresh : referee.published = [] := by
    rw [BridgeReceiver.published, refereeOwner]
  have bag := recordedBag_of_whole ros allocates whole
  have published : ∀ feed, publishedOn ended last feed =
      (traffic.filter (·.feed = feed)).flatMap (Packet.shown platform ros parseVision) := by
    intro feed
    cases feed with
    | vision =>
        rw [publishedOn, published_vision visionCallback armed visionFresh]
        exact shown_feed ros (fun packet vision => by rw [Packet.shown, vision]) traffic
    | referee =>
        rw [publishedOn, published_referee refereeCallback execution, refereeFresh, received,
          List.nil_append]
        exact shown_feed ros (fun packet referee => by rw [Packet.shown, referee]) traffic
  refine ⟨_, _, convertsTo_recording platform ros parseVision granted, ?_, fun feed =>
    ⟨?_, published feed, count_type feed traffic⟩⟩
  · rw [bag, List.map_flatMap]
    exact List.flatMap_congr fun packet _ => by rw [List.map_map]; rfl
  · rw [bag, contentsOn_shown, published]

end Replay

/-! ## One packet of either feed -/

/-- A field that a wrapper packet does not know, again and again. -/
def repeatedUnknown (count : Nat) : List UInt8 := (List.replicate count [0x18, 1]).flatten

theorem length_repeatedUnknown (count : Nat) : (repeatedUnknown count).length = 2 * count := by
  induction count with
  | zero => rfl
  | succ count ih =>
      rw [repeatedUnknown, List.replicate_succ, List.flatten_cons, List.length_append]
      change 2 + (repeatedUnknown count).length = _
      omega

theorem unknownFields_repeatedUnknown (count : Nat) :
    unknownFields (repeatedUnknown count) = true := by
  induction count with
  | zero => rfl
  | succ count ih =>
      rw [repeatedUnknown, List.replicate_succ, List.flatten_cons]
      exact ih

/-- A cut between two fields leaves a packet of fewer fields. -/
theorem take_repeatedUnknown (count more : Nat) :
    (repeatedUnknown (count + more)).take (2 * count) = repeatedUnknown count := by
  rw [repeatedUnknown, List.replicate_add, List.flatten_append]
  exact List.take_left' (length_repeatedUnknown count)

/-- Two bytes more than the buffer holds. -/
def oversized : Datagram where
  sender := { address := "192.168.1.5", port := 10006 }
  payload := repeatedUnknown 2049
  fits := by
    rw [length_repeatedUnknown]
    decide

def bareDatagram : Datagram where
  sender := { address := "192.168.1.5", port := 10003 }
  payload := bareReferee
  fits := by decide

/-- The vision packet is cut between two fields, and the referee packet reaches
the bridge while its service is not ready. -/
theorem recording_converts_to_published_two :
    let parseVision : List UInt8 → Option SSLWrapperPacket :=
      fun payload => if unknownFields payload then some {} else none
    let traffic : List Packet := [⟨.vision, 5, oversized⟩, ⟨.referee, 7, bareDatagram⟩]
    ∃ bag counts, ConvertsTo (bridgeHost scriptedBridge parseVision fun _ => true)
        (bridgeFromProto scriptedBridge .sample) (recording traffic) bag counts ∧
      bag.map (fun message => (message.content, message.time)) =
        [(.visionWrapper (SSLWrapperPacket.fromProto .sample {}), 5),
          (.referee bareReferee, 7)] := by
  intro parseVision traffic
  let referee : BridgeReceiver scriptedBridge Unit := MulticastReceiver.asyncReceiveFrom
    { receiveCallback := BridgeHost.publishMulticastMessage scriptedBridge
      owner := {}
      buffer := zeroMemory }
  have refereeConstructed : BridgeReceiver.construct scriptedBridge Unit loopback
      BridgeReceiver.defaultParameters zeroMemory = .ok referee := rfl
  have visionConstructed : SSLVisionBridgeNode.construct .sample parseVision loopback
      SSLVisionBridgeNode.defaultParameters zeroMemory = .ok _ := rfl
  have execution : Execution BridgeReceiver.Step referee
      [⟨referee, .datagram bareDatagram, _⟩] _ := .step rfl (.stop _)
  have received : oversized.payload.take receiveBufferSize = repeatedUnknown 2048 :=
    take_repeatedUnknown 2048 1
  have cut : parseVision (oversized.payload.take receiveBufferSize) = some {} := by
    rw [received]
    exact if_pos (unknownFields_repeatedUnknown 2048)
  have all : parseVision oversized.payload = some {} :=
    if_pos (unknownFields_repeatedUnknown 2049)
  have whole : ∀ packet ∈ traffic, packet.Whole scriptedBridge parseVision :=
    List.forall_mem_cons.mpr ⟨cut.trans all.symm, List.forall_mem_singleton.mpr rfl⟩
  obtain ⟨bag, counts, converts, contents, -⟩ :=
    @recording_converts_to_published scriptedBridge .sample parseVision (fun _ => true) loopback
      _ _ _ _ _ visionConstructed _ _ _ refereeConstructed _ execution traffic rfl
      (fun _ _ => rfl) whole
  refine ⟨bag, counts, converts, contents.trans ?_⟩
  simp only [traffic, List.flatMap_cons, List.flatMap_nil, Packet.shown, converted, cut]
  rfl

end SslRosBridge.Log2bag
