import SslRosBridge.GameControllerBridge.NodeRuns
import SslRosBridge.GameControllerBridge.StepInvariants
import SslRosBridge.GameControllerBridge.Steps

/-!
# What is written to the socket

The byte strings that the client has handed to the socket, in order, whether
the write then reported an error or not.
-/

namespace SslRosBridge.GameControllerBridge

open Library Library.Computation

def Event.written : Event → Option (List UInt8)
  | .wrote bytes _ => some bytes
  | _ => none

def TeamClient.sent {World : Type} (client : TeamClient World) : List (List UInt8) :=
  client.history.filterMap Event.written

section Written

variable {World : Type} (platform : Platform World)

theorem TeamClient.Shows.sent {client : TeamClient World} {connected isOpen : Bool}
    {history events : List Event} (shows : client.Shows connected isOpen (history ++ events)) :
    client.sent = history.filterMap Event.written ++ events.filterMap Event.written := by
  rw [TeamClient.sent, shows.history, List.filterMap_append]

/-- The action hands these to the socket, whether it returns or throws. -/
def Writes {Value : Type} (action : Action World Value) (frames : List (List UInt8)) : Prop :=
  ∀ sent, Triple (fun client => client.sent = sent) action
    (fun _ client => client.sent = sent ++ frames) (fun _ client => client.sent = sent ++ frames)

/-- An action that writes nothing keeps what holds of the bytes written. -/
theorem Writes.keeps {Value : Type} {action : Action World Value} (writes : Writes action [])
    (holds : List (List UInt8) → Prop) : Keeps (fun client => holds client.sent) action := by
  intro client now
  have same : ∀ next : TeamClient World, next.sent = client.sent ++ [] → holds next.sent := by
    intro next sent
    rwa [sent, List.append_nil]
  exact (writes client.sent client rfl).imp (fun _ => same) fun _ => same

theorem Writes.silent {Value : Type} {action : Action World Value} {frames : List (List UInt8)}
    (first : Writes action frames) {Next : Type} {rest : Value → Action World Next}
    (later : ∀ value, Writes (rest value) []) : Writes (action >>= rest) frames := by
  intro sent
  refine Triple.bind _ (first sent) fun value => ?_
  have quiet := later value (sent ++ frames)
  rwa [List.append_nil] at quiet

theorem Writes.pure {Value : Type} (value : Value) :
    Writes (Pure.pure value : Action World Value) [] := by
  intro sent
  exact Triple.pure fun client same => by rw [same, List.append_nil]

/-! ## Socket steps -/

theorem close_writes : Writes (close platform) [] := by
  rintro _ client rfl
  refine (close_spec platform client.connected client.isOpen client.history client
    ⟨rfl, rfl, rfl⟩).imp ?_ ?_
  · exact fun _ next shows => shows.sent
  · exact fun error next shows => shows.sent

theorem connectSocket_writes (endpoint : Endpoint) :
    Writes (connectSocket platform endpoint) [] := by
  rintro _ client rfl
  refine (connectSocket_spec platform client.connected client.isOpen client.history endpoint client
    ⟨rfl, rfl, rfl⟩).imp ?_ fun _ _ => id
  rintro error next ⟨nowOpen, shows, -⟩
  exact shows.sent

theorem waitForReply_writes : Writes (waitForReply platform) [] := by
  rintro _ client rfl
  exact (waitForReply_spec platform client.connected client.isOpen client.history client
    ⟨rfl, rfl, rfl⟩).imp (fun _ next shows => shows.sent) fun _ _ => id

theorem storeToken_writes (reply : ControllerReply) :
    Writes (TeamClient.storeToken reply : Action World Unit) [] := by
  rintro _ client rfl
  cases token : reply.nextToken <;>
    simp [TeamClient.storeToken, token, TeamClient.sent, Ends]

theorem setConnected_writes (value : Bool) :
    Writes (TeamClient.setConnected value : Action World Unit) [] := by
  rintro _ client rfl
  exact (List.append_nil _).symm

theorem called_writes {event : Event} (unwritten : event.written = none) :
    Writes (TeamClient.called event : Action World Unit) [] := by
  rintro _ client rfl
  simp [TeamClient.called, TeamClient.record, TeamClient.sent, unwritten, Ends]

theorem write_writes (bytes : List UInt8) : Writes (write platform bytes) [bytes] := by
  rintro _ client rfl
  refine (write_spec platform client.connected client.isOpen client.history bytes client
    ⟨rfl, rfl, rfl⟩).imp ?_ ?_
  · exact fun _ next shows => shows.sent
  · exact fun error next shows => shows.sent

/-! ## Operations -/

theorem sendRequest_writes (request : TeamToController) :
    Writes (sendRequest platform request) [requestBytes platform request] := by
  refine (write_writes platform _).silent fun _ => ?_
  refine (waitForReply_writes platform).silent fun reply => ?_
  cases reply with
  | none => exact .pure _
  | some message =>
      cases body : message.controllerReply with
      | none =>
          simp only [body]
          exact .pure _
      | some reply =>
          simp only [body]
          exact (storeToken_writes reply).silent fun _ => .pure _

/-- The request of a ping. -/
def pingRequest : TeamToController := { msg := some (.ping true) }

theorem steadyNow_writes : Writes (steadyNow platform) [] := by
  rintro _ client rfl
  exact (List.append_nil _).symm

theorem ping_writes : Writes (ping platform) [requestBytes platform pingRequest] := by
  intro sent
  refine Triple.bind (fun _ client => client.sent = sent) (Triple.step fun _ same => same) ?_
  intro sendTime
  refine ((sendRequest_writes platform pingRequest).silent fun result => ?_) sent
  exact (steadyNow_writes platform).silent fun _ => .pure _

theorem disconnect_writes : Writes (disconnect platform) [] :=
  (called_writes rfl).silent fun _ => (setConnected_writes false).silent fun _ =>
    close_writes platform

/-- Every step but a write leaves the bytes written as they are. -/
theorem sent_keptBySteps (holds : List (List UInt8) → Prop) :
    KeptBySteps platform (fun _ => True) (fun _ => False) (fun client => holds client.sent) where
  close := (close_writes platform).keeps holds
  connectSocket := fun endpoint _ => (connectSocket_writes platform endpoint).keeps holds
  write := fun _ => False.elim
  waitForReply := (waitForReply_writes platform).keeps holds
  storeToken := fun reply => (storeToken_writes reply).keeps holds
  setConnected := fun value => (setConnected_writes value).keeps holds
  called := fun _ => (called_writes rfl).keeps holds

theorem attemptToRegister_writes (teamName : String) (teamColor : TeamColor) :
    Writes (attemptToRegister platform teamName teamColor)
      [registrationBytes platform teamName teamColor] := by
  refine (write_writes platform _).silent fun _ => ?_
  refine (waitForReply_writes platform).silent fun reply => ?_
  cases reply with
  | none => exact .pure _
  | some message =>
      cases body : message.controllerReply with
      | none =>
          simp only [body]
          exact .pure _
      | some reply =>
          cases bad : reply.badStatus <;> simp only [body, bad] <;> exact .pure _

/-- The bytes of a connect attempt are those of at most one registration. -/
theorem connect_writes (parameters : ConnectionParameters) (sent : List (List UInt8)) :
    Triple (fun client => client.sent = sent) (connect platform parameters)
      (fun _ client => client.sent = sent ∨ client.sent = sent ++
        [registrationBytes platform parameters.teamName parameters.teamColor])
      (fun _ client => client.sent = sent ∨ client.sent = sent ++
        [registrationBytes platform parameters.teamName parameters.teamColor]) := by
  have kept := sent_keptBySteps platform (· = sent)
  refine (kept.called parameters).before (fun _ _ => Or.inl) fun _ => ?_
  refine (kept.setConnected false).before (fun _ _ => Or.inl) fun _ => ?_
  refine (kept.attemptToConnectSocket trivial).before (fun _ _ => Or.inl) fun success => ?_
  cases success with
  | false => exact Triple.pure fun _ => Or.inl
  | true =>
      refine ((attemptToRegister_writes platform _ _).silent (fun registered => ?_) sent).weaken
        (fun _ => id) (fun _ _ => Or.inr) fun _ _ => Or.inr
      cases registered with
      | false => exact (close_writes platform).silent fun _ => .pure _
      | true => exact (setConnected_writes true).silent fun _ => .pure _

end Written

end SslRosBridge.GameControllerBridge
