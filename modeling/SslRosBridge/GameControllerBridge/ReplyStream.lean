import SslRosBridge.GameControllerBridge.Polling
import SslRosBridge.GameControllerBridge.WireFormat

/-!
# The stream of replies

Each call of `WaitForReply` makes one read and parses the first frame of it.
Nothing is kept for the next call, so successive calls return the messages of
the stream exactly when the bytes arrive frame by frame: whenever a call first
finds bytes, a whole frame and nothing else has arrived.
-/

namespace SslRosBridge.GameControllerBridge

open Library Library.Computation

section ReplyStream

variable {World : Type} (platform : Platform World)

/-! ## What arrives -/

/-- TCP hands over the bytes that the controller sends, in order.  `pending`
holds those that have not been read yet, and `arrived` those of them that the
socket has received; more may come in while their number is asked for. -/
structure ByteStream (pending arrived : World → List UInt8) : Prop where
  sleep : ∀ world, pending (platform.sleep world) = pending world
  available : ∀ world, (platform.available world).1 = ((arrived world).length, none)
  counting : ∀ world, pending (platform.available world).2 = pending world ∧
    arrived world <+: arrived (platform.available world).2
  read : ∀ capacity atLeast world, 0 < atLeast → atLeast ≤ (arrived world).length →
    (platform.read capacity atLeast world).1 = ((arrived world).take capacity, none) ∧
      pending world =
        (arrived world).take capacity ++ pending (platform.read capacity atLeast world).2

/-- Of the polls that begin at a world, the first that finds bytes is at `found`,
before the deadline; a poll that finds nothing is followed by a sleep. -/
inductive FirstFinds (arrived : World → List UInt8) (deadline : Nat) : World → World → Prop where
  | here {world : World} (early : platform.now world < deadline) (something : arrived world ≠ []) :
      FirstFinds arrived deadline world world
  | later {world found : World} (early : platform.now world < deadline)
      (nothing : arrived world = [])
      (rest : FirstFinds arrived deadline (platform.sleep (platform.available world).2) found) :
      FirstFinds arrived deadline world found

/-- The bytes arrive in these pieces: at the first poll of each call that finds
bytes, before its timeout, what has arrived by the read is one of them, as far
as the buffer holds it. -/
inductive ArrivesIn (arrived : World → List UInt8) : World → List (List UInt8) → Prop where
  | nil (world : World) : ArrivesIn arrived world []
  | cons {world found : World} {piece : List UInt8} {pieces : List (List UInt8)}
      (first : FirstFinds platform arrived (platform.now world + platform.second) world found)
      (whole : (arrived (platform.available found).2).take bufferSize = piece)
      (later : ArrivesIn arrived
        (platform.read bufferSize (arrived found).length (platform.available found).2).2 pieces) :
      ArrivesIn arrived world (piece :: pieces)

/-- Successive calls of `WaitForReply` that return these messages. -/
inductive Replies : TeamClient World → List ControllerToTeam → TeamClient World → Prop where
  | nil (client : TeamClient World) : Replies client [] client
  | cons {client middle last : TeamClient World} {message : ControllerToTeam}
      {messages : List ControllerToTeam}
      (call : (waitForReply platform).result client = (.ok (some message), middle))
      (later : Replies middle messages last) : Replies client (message :: messages) last

variable {platform} {pending arrived : World → List UInt8}

/-! ## One wait -/

theorem ByteStream.read_found (stream : ByteStream platform pending arrived) {found : World}
    (something : arrived found ≠ []) :
    let next := (platform.available found).2
    (platform.read bufferSize (arrived found).length next).1 =
        ((arrived next).take bufferSize, none) ∧
      pending found = (arrived next).take bufferSize ++
        pending (platform.read bufferSize (arrived found).length next).2 := by
  intro next
  obtain ⟨kept, grown⟩ := stream.counting found
  obtain ⟨bytes, rest⟩ := stream.read bufferSize (arrived found).length next
    (List.length_pos_iff.mpr something) grown.length_le
  exact ⟨bytes, kept ▸ rest⟩

/-- One round of the loop over a stream. -/
theorem ByteStream.poll_succ (stream : ByteStream platform pending arrived)
    (deadline rounds : Nat) (world : World) :
    poll platform true deadline (rounds + 1) world =
      if deadline ≤ platform.now world then (.timedOut, world)
      else if arrived world = [] then
        poll platform true deadline rounds (platform.sleep (platform.available world).2)
      else
        (.bytes ((arrived (platform.available world).2).take bufferSize),
          (platform.read bufferSize (arrived world).length (platform.available world).2).2) := by
  have checked : availableBytes platform true world =
      (((arrived world).length, none), (platform.available world).2) :=
    Prod.ext (stream.available world) rfl
  rw [poll, checked]
  by_cases late : deadline ≤ platform.now world
  · rw [if_pos late, if_pos late]
  rw [if_neg late, if_neg late]
  by_cases nothing : arrived world = []
  · rw [if_pos nothing]
    simp [fatal, nothing]
  · have read := (stream.read_found nothing).1
    have some : (arrived world).length ≠ 0 := fun none => nothing (List.length_eq_zero_iff.mp none)
    simp only [fatal, Option.filter_none, if_neg nothing, if_neg some]
    exact readAvailable_eq platform (Prod.ext read rfl)

/-- The rounds suffice, since every sleep takes time. -/
theorem poll_of_firstFinds (stream : ByteStream platform pending arrived) {deadline : Nat}
    {world found : World} (first : FirstFinds platform arrived deadline world found)
    {rounds : Nat} (enough : deadline < platform.now world + rounds) :
    poll platform true deadline rounds world =
      (.bytes ((arrived (platform.available found).2).take bufferSize),
        (platform.read bufferSize (arrived found).length (platform.available found).2).2) := by
  induction first generalizing rounds with
  | here early something =>
      obtain ⟨rounds, rfl⟩ : ∃ n, rounds = n + 1 := ⟨rounds - 1, by omega⟩
      rw [stream.poll_succ, if_neg (Nat.not_le.mpr early), if_neg something]
  | @later world found early nothing rest ih =>
      obtain ⟨rounds, rfl⟩ : ∃ n, rounds = n + 1 := ⟨rounds - 1, by omega⟩
      have asked := platform.now_available world
      have slept := platform.now_sleep (platform.available world).2
      rw [stream.poll_succ, if_neg (Nat.not_le.mpr early), if_pos nothing]
      exact ih (by omega)

theorem firstFinds_of_poll (stream : ByteStream platform pending arrived) {deadline rounds : Nat}
    {world after : World} {chunk : List UInt8}
    (received : poll platform true deadline rounds world = (.bytes chunk, after)) :
    ∃ found, FirstFinds platform arrived deadline world found ∧
      (arrived (platform.available found).2).take bufferSize = chunk ∧
      (platform.read bufferSize (arrived found).length (platform.available found).2).2 = after := by
  induction rounds generalizing world with
  | zero => cases received
  | succ rounds ih =>
      rw [stream.poll_succ] at received
      by_cases late : deadline ≤ platform.now world
      · rw [if_pos late] at received
        cases received
      rw [if_neg late] at received
      by_cases nothing : arrived world = []
      · rw [if_pos nothing] at received
        obtain ⟨found, rest, read⟩ := ih received
        exact ⟨found, .later (Nat.lt_of_not_le late) nothing rest, read⟩
      · rw [if_neg nothing] at received
        obtain ⟨bytes, rfl⟩ := Prod.mk.inj received
        exact ⟨world, .here (Nat.lt_of_not_le late) nothing, Received.bytes.inj bytes, rfl⟩

theorem FirstFinds.something {deadline : Nat} {world found : World}
    (first : FirstFinds platform arrived deadline world found) : arrived found ≠ [] := by
  induction first with
  | here early something => exact something
  | later early nothing rest ih => exact ih

theorem FirstFinds.pending_eq (stream : ByteStream platform pending arrived) {deadline : Nat}
    {world found : World} (first : FirstFinds platform arrived deadline world found) :
    pending found = pending world := by
  induction first with
  | here early something => rfl
  | later early nothing rest ih => rw [ih, stream.sleep, (stream.counting _).1]

/-- The pieces are the front of the stream. -/
theorem ArrivesIn.front (stream : ByteStream platform pending arrived) {world : World}
    {pieces : List (List UInt8)} (arrives : ArrivesIn platform arrived world pieces) :
    ∃ rest, pending world = pieces.flatten ++ rest := by
  induction arrives with
  | nil world => exact ⟨pending world, rfl⟩
  | cons first whole later ih =>
      obtain ⟨rest, behind⟩ := ih
      have taken := (stream.read_found first.something).2
      rw [first.pending_eq stream, whole, behind] at taken
      exact ⟨rest, by rw [taken, List.flatten_cons, List.append_assoc]⟩

/-! ## One call -/

/-- What a call makes of the bytes that it finds. -/
theorem waitForReply_of_firstFinds (stream : ByteStream platform pending arrived)
    {client : TeamClient World} (isOpen : client.isOpen = true) {found : World}
    (first : FirstFinds platform arrived (platform.now client.world + platform.second)
      client.world found) :
    ∃ after : TeamClient World, after.isOpen = true ∧
      after.world = (platform.read bufferSize (arrived found).length
        (platform.available found).2).2 ∧
      (waitForReply platform).result client = (.ok (platform.parseDelimited
        ((arrived (platform.available found).2).take bufferSize)), after) := by
  have call := result_waitForReply platform client
  rw [isOpen, receive, poll_of_firstFinds stream first (by omega)] at call
  let chunk := (arrived (platform.available found).2).take bufferSize
  exact ⟨{ client.record (.received (platform.parseDelimited chunk)) with world := _ }, isOpen,
    rfl, call⟩

/-- A call that returns a message has found bytes that start with its frame. -/
theorem firstFinds_of_waitForReply (stream : ByteStream platform pending arrived)
    {client after : TeamClient World} (isOpen : client.isOpen = true)
    {message : ControllerToTeam}
    (call : (waitForReply platform).result client = (.ok (some message), after)) :
    ∃ found, FirstFinds platform arrived (platform.now client.world + platform.second)
        client.world found ∧
      platform.parseDelimited ((arrived (platform.available found).2).take bufferSize) =
        some message ∧
      (platform.read bufferSize (arrived found).length (platform.available found).2).2 =
        after.world ∧
      after.isOpen = true := by
  rw [result_waitForReply, isOpen] at call
  generalize received : receive platform true client.world = outcome at call
  obtain ⟨kind, next⟩ := outcome
  obtain ⟨reply, rfl⟩ := Prod.mk.inj call
  cases kind with
  | timedOut => cases reply
  | failed error => cases reply
  | bytes chunk =>
      obtain ⟨found, first, rfl, read⟩ := firstFinds_of_poll stream received
      exact ⟨found, first, Except.ok.inj reply, read, isOpen⟩

/-! ## Successive calls -/

/-- A message on the wire: a body that parses to it. -/
structure Sent (platform : Platform World) where
  message : ControllerToTeam
  body : List UInt8
  small : body.length < 2 ^ 31
  parses : platform.parseToTeam body = some message

def Sent.frame (sent : Sent platform) : List UInt8 := delimited sent.body

theorem Sent.parseDelimited_frame (sent : Sent platform) :
    platform.parseDelimited sent.frame = some sent.message := by
  have frame := firstFrame_delimited sent.small []
  rw [List.append_nil] at frame
  rw [Platform.parseDelimited, Sent.frame, frame]
  exact sent.parses

/-- No shorter body parses to the same message. -/
def Sent.Shortest (sent : Sent platform) : Prop :=
  ∀ body, platform.parseToTeam body = some sent.message → sent.body.length ≤ body.length

theorem replies_of_arrivesIn (stream : ByteStream platform pending arrived)
    {sent : List (Sent platform)} {client : TeamClient World} (isOpen : client.isOpen = true)
    (arrives : ArrivesIn platform arrived client.world (sent.map Sent.frame)) :
    ∃ after, Replies platform client (sent.map Sent.message) after := by
  induction sent generalizing client with
  | nil => exact ⟨client, .nil client⟩
  | cons each sent ih =>
      cases arrives with
      | cons first whole later =>
          obtain ⟨middle, isOpen', world, call⟩ := waitForReply_of_firstFinds stream isOpen first
          rw [whole, each.parseDelimited_frame] at call
          obtain ⟨after, replies⟩ := ih isOpen' (world ▸ later)
          exact ⟨after, .cons call replies⟩

/-- The pieces that arrive for calls that return the messages are at least as
long as the frames, one by one. -/
theorem arrivesIn_of_replies (stream : ByteStream platform pending arrived)
    {sent : List (Sent platform)} {client after : TeamClient World}
    (isOpen : client.isOpen = true) (shortest : ∀ each ∈ sent, each.Shortest)
    (replies : Replies platform client (sent.map Sent.message) after) :
    ∃ pieces, ArrivesIn platform arrived client.world pieces ∧
      List.Forall₂ (fun frame piece => frame.length ≤ piece.length)
        (sent.map Sent.frame) pieces := by
  induction sent generalizing client with
  | nil => exact ⟨[], .nil client.world, .nil⟩
  | cons each sent ih =>
      cases replies with
      | cons call later =>
          obtain ⟨found, first, parses, world, isOpen'⟩ :=
            firstFinds_of_waitForReply stream isOpen call
          obtain ⟨pieces, arrives, longer⟩ :=
            ih isOpen' (fun other member => shortest other (List.mem_cons_of_mem _ member)) later
          obtain ⟨body, frame, parses⟩ := Option.bind_eq_some_iff.mp parses
          exact ⟨_, .cons first rfl (world ▸ arrives), .cons
            (length_delimited_le frame (shortest each List.mem_cons_self body parses)) longer⟩

/--
Over a stream of delimited messages, successive calls return exactly the
messages when the bytes arrive frame by frame, and, for messages sent as
briefly as they can be, only then.
-/
theorem replies_iff_arrivesIn (stream : ByteStream platform pending arrived)
    (sent : List (Sent platform)) {client : TeamClient World} (isOpen : client.isOpen = true)
    (coming : pending client.world = (sent.map Sent.frame).flatten) :
    (ArrivesIn platform arrived client.world (sent.map Sent.frame) →
      ∃ after, Replies platform client (sent.map Sent.message) after) ∧
    ((∀ each ∈ sent, each.Shortest) →
      ((∃ after, Replies platform client (sent.map Sent.message) after) ↔
        ArrivesIn platform arrived client.world (sent.map Sent.frame))) := by
  have enough : ArrivesIn platform arrived client.world (sent.map Sent.frame) →
      ∃ after, Replies platform client (sent.map Sent.message) after :=
    replies_of_arrivesIn stream isOpen
  refine ⟨enough, fun shortest => ⟨?_, enough⟩⟩
  rintro ⟨after, replies⟩
  obtain ⟨pieces, arrives, longer⟩ := arrivesIn_of_replies stream isOpen shortest replies
  obtain ⟨rest, front⟩ := arrives.front stream
  rw [coming] at front
  exact chunks_eq_pieces longer front ▸ arrives

end ReplyStream

/-! ## Segments of the scripted platform -/

theorem byteStream_scripted :
    ByteStream scripted (fun script => script.incoming.flatMap Prod.snd) Script.arrived where
  sleep := fun _ => rfl
  available := fun _ => rfl
  counting := fun _ => ⟨rfl, List.prefix_refl _⟩
  read := by
    intro capacity atLeast script _ _
    refine ⟨rfl, ?_⟩
    have layout : script.incoming.flatMap Prod.snd =
        script.arrived ++ script.underway.flatMap Prod.snd := by
      rw [Script.arrived, Script.underway, ← List.flatMap_append, List.takeWhile_append_dropWhile]
    by_cases fits : script.arrived.length ≤ capacity
    · simp [scripted, Script.read, layout, fits, List.take_of_length_le]
    · simp [scripted, Script.read, layout, fits, ← List.append_assoc]

def accepting : Sent scripted :=
  ⟨_, StatusCode.ok.encodeReply, by decide, ControllerToTeam.decode_encodeReply .ok⟩

def rejecting : Sent scripted :=
  ⟨_, StatusCode.rejected.encodeReply, by decide, ControllerToTeam.decode_encodeReply .rejected⟩

/-- A client over an open connection on which these segments arrive. -/
def receiving (incoming : List (Nat × List UInt8)) : TeamClient Script :=
  { isOpen := true, world := { incoming := incoming } }

/-- The frames arrive one after the other. -/
theorem replies_frame_by_frame :
    ∃ after, Replies scripted (receiving [(0, accepting.frame), (5, rejecting.frame)])
      [accepting.message, rejecting.message] after := by
  have shortest : ∀ each ∈ [accepting, rejecting], each.Shortest := by
    intro each member body parses
    rcases List.mem_pair.mp member with rfl | rfl
    · exact ControllerToTeam.length_encodeReply_le parses
    · exact ControllerToTeam.length_encodeReply_le parses
  have second : FirstFinds scripted Script.arrived 10 { incoming := [(5, rejecting.frame)] }
      { clock := 5, incoming := [(5, rejecting.frame)] } := by
    iterate 5 refine .later (by decide) (by decide +kernel) ?_
    exact .here (by decide) (by decide +kernel)
  refine ((replies_iff_arrivesIn byteStream_scripted [accepting, rejecting] rfl rfl).2
    shortest).mpr ?_
  exact .cons (.here (by decide) (by decide +kernel)) (by decide +kernel)
    (.cons second (by decide +kernel) (.nil _))

/-- Two frames in one segment: the second is lost.  One frame in two segments:
the first call reports a failure.  All bytes arrive in time. -/
theorem replies_depend_on_segments :
    (¬ ∃ after, Replies scripted (receiving [(0, accepting.frame ++ rejecting.frame)])
      [accepting.message, rejecting.message] after) ∧
    ¬ ∃ after, Replies scripted
      (receiving [(0, accepting.frame.take 1), (1, accepting.frame.drop 1)])
      [accepting.message] after := by
  constructor
  · rintro ⟨after, replies⟩
    cases replies with
    | cons call later =>
        obtain rfl := congrArg Prod.snd call
        cases later with
        | cons call' later =>
            have timeout : ((waitForReply scripted).result ((waitForReply scripted).result
                (receiving [(0, accepting.frame ++ rejecting.frame)])).2).1.toOption =
                some none := by decide +kernel
            rw [call'] at timeout
            cases timeout
  · rintro ⟨after, replies⟩
    cases replies with
    | cons call later =>
        have unparsed : ((waitForReply scripted).result
            (receiving [(0, accepting.frame.take 1), (1, accepting.frame.drop 1)])).1.toOption =
            some none := by decide +kernel
        rw [call] at unparsed
        cases unparsed

end SslRosBridge.GameControllerBridge
