import SslRosBridge.GameControllerBridge.Polling
import SslRosBridge.GameControllerBridge.WireFormat

/-!
# Which reply answers a request

A reply carries no number, so a request takes the oldest reply that has not
been read.  That is its own reply exactly when nothing is left from earlier
requests when it is sent.
-/

namespace SslRosBridge.GameControllerBridge

open Library Library.Computation

/-- The requests that return a result. -/
def Operation.isRequest : Operation → Bool
  | .connect _ | .disconnect => false
  | _ => true

def Reported.result? : Reported → Option Result
  | .result returned => some returned
  | .pinged returned => some returned.requestResult
  | _ => none

section Correlation

variable {World : Type} (platform : Platform World)

/--
The controller answers every message with one reply, in order and after any
delay.  Messages are numbered by the order in which they are sent; `unread`
holds the numbers of the replies that the client has not read, the oldest
first, whether or not they have arrived.
-/
structure Conversation where
  reply : Nat → ControllerReply
  frame : Nat → List UInt8
  sent : World → Nat
  unread : World → List Nat
  parses : ∀ number, platform.parseDelimited (frame number) =
    some { controllerReply := some (reply number) }
  short : ∀ number, (frame number).length ≤ bufferSize
  sleep : ∀ world, sent (platform.sleep world) = sent world ∧
    unread (platform.sleep world) = unread world
  available : ∀ world, sent (platform.available world).2 = sent world ∧
    unread (platform.available world).2 = unread world
  arrived : ∀ world, (platform.available world).1.1 ≠ 0 → unread world ≠ []
  write : ∀ bytes world, (platform.write bytes world).1 = none →
    sent (platform.write bytes world).2 = sent world + 1 ∧
      unread (platform.write bytes world).2 = unread world ++ [sent world]
  read : ∀ bytesAvailable world number later, bytesAvailable ≠ 0 →
    unread world = number :: later → ∃ last,
      platform.read bufferSize bytesAvailable world = ((frame number, none), last) ∧
        sent last = sent world ∧ unread last = later

variable {platform}

/-- Every unread reply is to an earlier message. -/
def Conversation.Ordered (conversation : Conversation platform) (world : World) : Prop :=
  ∀ number ∈ conversation.unread world, number < conversation.sent world

/-! ## One request -/

theorem availableBytes_numbers (conversation : Conversation platform) {isOpen : Bool}
    {world next : World} {bytesAvailable : Nat} {report : Option ErrorCode}
    (checked : availableBytes platform isOpen world = ((bytesAvailable, report), next)) :
    conversation.sent next = conversation.sent world ∧
      conversation.unread next = conversation.unread world ∧
      (bytesAvailable ≠ 0 → conversation.unread world ≠ []) := by
  cases isOpen with
  | false =>
      cases checked
      exact ⟨rfl, rfl, fun something => absurd rfl something⟩
  | true =>
      have same := conversation.available world
      have arrived := conversation.arrived world
      rw [show platform.available world = _ from checked] at same arrived
      exact ⟨same.1, same.2, arrived⟩

/-- A wait yields at most the oldest unread reply. -/
theorem PollEnds.oldest (conversation : Conversation platform) {isOpen : Bool} {world : World}
    {outcome : Received × World} (ends : PollEnds platform isOpen world outcome) :
    (∀ message, replyOf platform outcome.1 = some message → ∃ number,
      (conversation.unread world).head? = some number ∧
        message = { controllerReply := some (conversation.reply number) }) ∧
    conversation.sent outcome.2 = conversation.sent world ∧
    ∀ number ∈ conversation.unread outcome.2, number ∈ conversation.unread world := by
  induction ends with
  | timedOut => exact ⟨nofun, rfl, fun _ => id⟩
  | unavailable checked failure =>
      obtain ⟨sent, unread, -⟩ := availableBytes_numbers conversation checked
      exact ⟨nofun, sent, fun number member => unread ▸ member⟩
  | @idle world next report outcome checked later ih =>
      obtain ⟨sent, unread, -⟩ := availableBytes_numbers conversation checked
      obtain ⟨sleptSent, sleptUnread⟩ := conversation.sleep next
      rw [sleptSent, sent, sleptUnread, unread] at ih
      exact ih
  | @read world next bytesAvailable report checked _ something =>
      obtain ⟨sent, unread, arrived⟩ := availableBytes_numbers conversation checked
      obtain ⟨number, later, layout⟩ := List.exists_cons_of_ne_nil (arrived something)
      obtain ⟨last, read, sameSent, rest⟩ := conversation.read bytesAvailable next number later
        something (unread.trans layout)
      have received : readAvailable platform bytesAvailable next =
          (.bytes (conversation.frame number), last) := readAvailable_eq platform read
      rw [received]
      refine ⟨fun message reply => ⟨number, by rw [layout]; rfl, ?_⟩, sameSent.trans sent, ?_⟩
      · exact Option.some.inj (reply.symm.trans (conversation.parses number))
      · rw [rest, layout]
        exact fun number member => List.mem_cons_of_mem _ member

/-- A message was sent, and at most its reply is newly unread. -/
def Conversation.Sending (conversation : Conversation platform) (sent : Nat) (unread : List Nat)
    (client : TeamClient World) : Prop :=
  conversation.sent client.world = sent + 1 ∧
    ∀ number ∈ conversation.unread client.world, number ∈ unread ++ [sent]

/-- What a request returns and leaves, from the numbers in front of it. -/
def Conversation.Answered (conversation : Conversation platform) (sent : Nat) (unread : List Nat)
    (returned : Result) (after : TeamClient World) : Prop :=
  (returned = clientError ∨ ∃ number, (unread ++ [sent]).head? = some number ∧
    returned = .ofReply (conversation.reply number)) ∧ conversation.Sending sent unread after

theorem write_numbers (conversation : Conversation platform) (sent : Nat)
    (unread : List Nat) (bytes : List UInt8) :
    Triple (fun client => conversation.sent client.world = sent ∧
        conversation.unread client.world = unread)
      (write platform bytes)
      (fun _ client => conversation.sent client.world = sent + 1 ∧
        conversation.unread client.world = unread ++ [sent])
      (fun _ _ => True) := by
  refine Triple.attempt ?_
  rintro client ⟨rfl, rfl⟩
  cases isOpen : client.isOpen with
  | false => simp [Ends]
  | true =>
      have wrote := conversation.write bytes client.world
      simp only [if_true]
      generalize platform.write bytes client.world = outcome at wrote
      obtain ⟨_ | error, world⟩ := outcome
      · exact wrote rfl
      · trivial

theorem waitForReply_numbers (conversation : Conversation platform) (sent : Nat)
    (unread : List Nat) {thrown : ErrorCode → TeamClient World → Prop} :
    Triple (fun client => conversation.sent client.world = sent ∧
        conversation.unread client.world = unread)
      (waitForReply platform)
      (fun reply client =>
        ((∀ message, reply = some message → ∃ number, unread.head? = some number ∧
          message = { controllerReply := some (conversation.reply number) }) ∧
        conversation.sent client.world = sent) ∧
        ∀ number ∈ conversation.unread client.world, number ∈ unread) thrown := by
  rintro client ⟨rfl, rfl⟩
  rw [result_waitForReply]
  obtain ⟨oldest, sent, unread⟩ :=
    (receive_ends platform client.isOpen client.world).oldest conversation
  exact ⟨⟨oldest, sent⟩, unread⟩

theorem sendRequest_numbers (conversation : Conversation platform) (sent : Nat)
    (unread : List Nat) (request : TeamToController) :
    Triple (fun client => conversation.sent client.world = sent ∧
        conversation.unread client.world = unread)
      (sendRequest platform request) (conversation.Answered sent unread) (fun _ _ => True) := by
  refine Triple.bind _ (write_numbers conversation sent unread _) fun _ => ?_
  refine Triple.bind _ (waitForReply_numbers conversation (sent + 1) (unread ++ [sent]))
    fun reply => ?_
  cases reply with
  | none => exact Triple.pure fun client numbers => ⟨Or.inl rfl, numbers.1.2, numbers.2⟩
  | some message =>
      rintro client ⟨⟨oldest, sentNow⟩, unreadNow⟩
      obtain ⟨number, head, rfl⟩ := oldest message rfl
      have stores : Triple (conversation.Sending sent unread)
          (TeamClient.storeToken (conversation.reply number) : Action World Unit)
          (fun _ => conversation.Sending sent unread) (fun _ _ => True) := by
        apply Triple.step
        intro client numbers
        cases (conversation.reply number).nextToken <;> exact numbers
      refine Triple.bind _ stores (fun _ => Triple.pure ?_) client ⟨sentNow, unreadNow⟩
      exact fun client numbers => ⟨Or.inr ⟨number, head, rfl⟩, numbers⟩

theorem perform_numbers (conversation : Conversation platform) (sent : Nat)
    (unread : List Nat) {operation : Operation} (isRequest : operation.isRequest = true) :
    Triple (fun client => conversation.sent client.world = sent ∧
        conversation.unread client.world = unread)
      (perform platform operation)
      (fun reported client => ∃ returned, reported.result? = some returned ∧
        conversation.Answered sent unread returned client)
      (fun _ _ => True) := by
  have request := sendRequest_numbers conversation sent unread
  cases operation with
  | connect parameters => cases isRequest
  | disconnect => cases isRequest
  | setDesiredKeeper keeperId =>
      exact Triple.bind _ (request _) fun returned =>
        Triple.pure fun client answered => ⟨returned, rfl, answered⟩
  | requestBotSubstitution =>
      exact Triple.bind _ (request _) fun returned =>
        Triple.pure fun client answered => ⟨returned, rfl, answered⟩
  | setAdvantageChoice choice =>
      exact Triple.bind _ (request _) fun returned =>
        Triple.pure fun client answered => ⟨returned, rfl, answered⟩
  | ping =>
      refine Triple.bind (fun pinged =>
        conversation.Answered sent unread pinged.requestResult) ?_ fun pinged =>
          Triple.pure fun client answered => ⟨pinged.requestResult, rfl, answered⟩
      refine Triple.bind (fun _ client => conversation.sent client.world = sent ∧
        conversation.unread client.world = unread)
        (Triple.step fun _ numbers => numbers) ?_
      intro sendTime
      refine Triple.bind _ (request _) ?_
      intro returned
      exact Triple.bind _ (Triple.step fun _ answered => answered) fun replyTime =>
        Triple.pure fun client answered => answered

/-! ## Runs of requests -/

/-- A request that returned, with the numbers in front of it. -/
structure Exchange where
  operation : Operation
  sent : Nat
  unread : List Nat
  returned : Result

/-- The reply whose number the request itself has is the one it returns. -/
def Exchange.Own (conversation : Conversation platform) (exchange : Exchange) : Prop :=
  exchange.returned = clientError ∨ exchange.returned = .ofReply (conversation.reply exchange.sent)

/--
A run of requests over one connection.  Between two requests time passes and
replies arrive.  An exception ends the run.
-/
inductive Requests (conversation : Conversation platform) :
    TeamClient World → List Exchange → TeamClient World → Prop where
  | stop (client : TeamClient World) : Requests conversation client [] client
  | wait {client last : TeamClient World} {exchanges : List Exchange} (world : World)
      (sent : conversation.sent world = conversation.sent client.world)
      (unread : conversation.unread world = conversation.unread client.world)
      (later : Requests conversation { client with world := world } exchanges last) :
      Requests conversation client exchanges last
  | request {client next last : TeamClient World} {exchanges : List Exchange}
      {operation : Operation} {reported : Reported} {returned : Result}
      (isRequest : operation.isRequest = true)
      (call : (perform platform operation).result client = (.ok reported, next))
      (result : reported.result? = some returned)
      (later : Requests conversation next exchanges last) :
      Requests conversation client
        (⟨operation, conversation.sent client.world, conversation.unread client.world, returned⟩ ::
          exchanges) last

/-- What one request of a run returns, and that the numbers stay in order. -/
theorem answered_of_request (conversation : Conversation platform) {client next : TeamClient World}
    {operation : Operation} {reported : Reported} {returned : Result}
    (isRequest : operation.isRequest = true)
    (call : (perform platform operation).result client = (.ok reported, next))
    (result : reported.result? = some returned) :
    conversation.Answered (conversation.sent client.world) (conversation.unread client.world)
      returned next := by
  have ends := perform_numbers conversation _ _ isRequest client ⟨rfl, rfl⟩
  rw [call] at ends
  obtain ⟨other, same, answered⟩ := ends
  obtain rfl := Option.some.inj (same.symm.trans result)
  exact answered

theorem Conversation.Answered.ordered {conversation : Conversation platform} {sent : Nat}
    {unread : List Nat} {returned : Result} {next : TeamClient World}
    (answered : conversation.Answered sent unread returned next)
    (ordered : ∀ number ∈ unread, number < sent) : conversation.Ordered next.world := by
  obtain ⟨-, sentNow, unreadNow⟩ := answered
  intro number member
  rw [sentNow]
  rcases List.mem_append.mp (unreadNow number member) with earlier | own
  · exact Nat.lt_succ_of_lt (ordered number earlier)
  · exact Nat.lt_succ_of_le (Nat.le_of_eq (List.mem_singleton.mp own))

/-- The oldest reply is not a later one, and a request's own exactly when it is
the only one. -/
theorem head_own_iff {sent number : Nat} {unread : List Nat}
    (ordered : ∀ number ∈ unread, number < sent)
    (head : (unread ++ [sent]).head? = some number) :
    number ≤ sent ∧ (number = sent ↔ unread = []) := by
  cases unread with
  | nil =>
      obtain rfl := Option.some.inj head
      exact ⟨Nat.le_refl _, fun _ => rfl, fun _ => rfl⟩
  | cons first later =>
      obtain rfl := Option.some.inj head
      have earlier := ordered first List.mem_cons_self
      refine ⟨Nat.le_of_lt earlier, ?_, nofun⟩
      intro same
      exact absurd same (Nat.ne_of_lt earlier)

theorem answered_of_run (conversation : Conversation platform)
    {client last : TeamClient World} {exchanges : List Exchange}
    (run : Requests conversation client exchanges last)
    (ordered : conversation.Ordered client.world) :
    ∀ exchange ∈ exchanges, exchange.returned = clientError ∨
      ∃ number ≤ exchange.sent, exchange.returned = .ofReply (conversation.reply number) ∧
        (number = exchange.sent ↔ exchange.unread = []) := by
  induction run with
  | stop => exact nofun
  | wait world sent unread later ih =>
      apply ih
      intro number member
      rw [unread] at member
      rw [sent]
      exact ordered number member
  | request isRequest call result later ih =>
      have answered := answered_of_request conversation isRequest call result
      refine List.forall_mem_cons.mpr ⟨?_, ih (answered.ordered ordered)⟩
      rcases answered.1 with error | ⟨number, head, returned⟩
      · exact Or.inl error
      · obtain ⟨before, own⟩ := head_own_iff ordered head
        exact Or.inr ⟨number, before, returned, own⟩

/--
In every run of requests, if no earlier reply is unread whenever a request is
sent, each of them returns its own reply or the client error; and one that
returns a reply while others are unread returns that of an earlier request.
-/
theorem own_reply_of_nothing_unread (conversation : Conversation platform)
    {client last : TeamClient World} {exchanges : List Exchange}
    (run : Requests conversation client exchanges last)
    (ordered : conversation.Ordered client.world) :
    ((∀ exchange ∈ exchanges, exchange.unread = []) →
      ∀ exchange ∈ exchanges, exchange.Own conversation) ∧
    ∀ exchange ∈ exchanges, exchange.returned = clientError ∨
      ∃ number ≤ exchange.sent, exchange.returned = .ofReply (conversation.reply number) ∧
        (number = exchange.sent ↔ exchange.unread = []) := by
  have answered := answered_of_run conversation run ordered
  constructor
  · intro nothing exchange member
    rcases answered exchange member with error | ⟨number, -, returned, own⟩
    · exact Or.inl error
    · obtain rfl := own.mpr (nothing exchange member)
      exact Or.inr returned
  · exact answered

end Correlation

/-! ## A controller that answers late -/

/-- The replies on their way are kept with the times at which they arrive. -/
structure Correspondence where
  clock : Nat := 0
  sent : Nat := 0
  underway : List (Nat × Nat) := []

def answerCode (accepts : Nat → Bool) (number : Nat) : StatusCode :=
  if accepts number then .ok else .rejected

/-- The controller answers each message after its own delay. -/
def corresponding (accepts : Nat → Bool) (delay : Nat → Nat) : Platform Correspondence where
  serializeRegistration := scripted.serializeRegistration
  serializeToController := scripted.serializeToController
  parseToTeam := scripted.parseToTeam
  second := 10
  now := Correspondence.clock
  sleep := fun world => { world with clock := world.clock + 1 }
  openSocket := fun world => (none, world)
  connect := fun _ world => (none, world)
  close := fun world => (none, world)
  write := fun _ world =>
    (none, { world with
      sent := world.sent + 1
      underway := world.underway ++ [(world.sent, world.clock + delay world.sent)] })
  available := fun world =>
    match world.underway with
    | [] => ((0, none), world)
    | (number, time) :: _ =>
        ((if time ≤ world.clock then (answerCode accepts number).reply.length else 0, none), world)
  read := fun _ _ world =>
    match world.underway with
    | [] => (([], none), world)
    | (number, _) :: later =>
        (((answerCode accepts number).reply, none), { world with underway := later })
  now_available := fun world => by
    obtain ⟨clock, sent, _ | ⟨⟨number, time⟩, later⟩⟩ := world <;> exact Nat.le_refl _
  now_sleep := fun world => Nat.lt_succ_self world.clock

def correspondence (accepts : Nat → Bool) (delay : Nat → Nat) :
    Conversation (corresponding accepts delay) where
  reply := fun number => { statusCode := some (answerCode accepts number) }
  frame := fun number => (answerCode accepts number).reply
  sent := Correspondence.sent
  unread := fun world => world.underway.map Prod.fst
  parses := fun number => by
    unfold answerCode
    cases accepts number <;> rfl
  short := fun number => by
    unfold answerCode
    cases accepts number <;> decide
  sleep := fun _ => ⟨rfl, rfl⟩
  available := fun world => by
    obtain ⟨clock, sent, _ | ⟨⟨number, time⟩, later⟩⟩ := world <;> exact ⟨rfl, rfl⟩
  arrived := fun world => by
    obtain ⟨clock, sent, _ | ⟨⟨number, time⟩, later⟩⟩ := world
    · exact fun something => absurd rfl something
    · exact fun _ => nofun
  write := fun _ world _ => ⟨rfl, List.map_append⟩
  read := fun bytesAvailable world number later _ layout => by
    obtain ⟨clock, sent, _ | ⟨⟨first, time⟩, rest⟩⟩ := world
    · cases layout
    · obtain ⟨rfl, rfl⟩ := List.cons.inj layout
      exact ⟨⟨clock, sent, rest⟩, rfl, rfl, rfl⟩

/-- Only the second request is accepted. -/
def pingAccepted : Nat → Bool := fun number => number = 1

/-- The client of an open connection, before its first request. -/
def opened : TeamClient Correspondence := { isOpen := true, world := {} }

/-- The keeper is refused and the ping accepted, both in time. -/
theorem own_replies_in_time :
    ∃ refused pinged last,
      Requests (correspondence pingAccepted fun _ => 3) opened [refused, pinged] last ∧
        refused.returned = ⟨false, ""⟩ ∧ pinged.returned = ⟨true, ""⟩ ∧
        refused.Own (correspondence pingAccepted fun _ => 3) ∧
        pinged.Own (correspondence pingAccepted fun _ => 3) := by
  let platform := corresponding pingAccepted fun _ => 3
  have first := result_eq_of_toOption (perform platform (.setDesiredKeeper 1)) opened
    (.result ⟨false, ""⟩) (by decide +kernel)
  have second := result_eq_of_toOption (perform platform .ping)
    ((perform platform (.setDesiredKeeper 1)).result opened).2 (.pinged ⟨⟨true, ""⟩, 3⟩)
    (by decide +kernel)
  have run : Requests (correspondence pingAccepted fun _ => 3) opened _ _ :=
    .request rfl first rfl (.request rfl second rfl (.stop _))
  have own := (own_reply_of_nothing_unread _ run nofun).1
    (List.forall_mem_cons.mpr ⟨rfl, List.forall_mem_cons.mpr ⟨by decide +kernel, nofun⟩⟩)
  obtain ⟨refused, pinged⟩ := List.forall_mem_cons.mp own
  exact ⟨_, _, _, run, rfl, rfl, refused, pinged _ List.mem_cons_self⟩

/-- The first reply takes longer than a second, and the next request returns it. -/
theorem late_reply_answers_next_request :
    ∃ exchanges last,
      Requests (correspondence pingAccepted fun number => if number = 0 then 12 else 3) opened
        exchanges last ∧
      ¬ ∀ exchange ∈ exchanges,
        exchange.Own (correspondence pingAccepted fun number => if number = 0 then 12 else 3) := by
  let platform := corresponding pingAccepted fun number => if number = 0 then 12 else 3
  have first := result_eq_of_toOption (perform platform (.setDesiredKeeper 1)) opened
    (.result clientError) (by decide +kernel)
  have second := result_eq_of_toOption (perform platform .ping)
    ((perform platform (.setDesiredKeeper 1)).result opened).2 (.pinged ⟨⟨false, ""⟩, 2⟩)
    (by decide +kernel)
  refine ⟨_, _, .request rfl first rfl (.request rfl second rfl (.stop _)), fun own => ?_⟩
  rcases own _ (List.mem_cons_of_mem _ List.mem_cons_self) with error | reply
  · revert error
    decide +kernel
  · revert reply
    decide +kernel

end SslRosBridge.GameControllerBridge
