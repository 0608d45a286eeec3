import SslRosBridge.GameControllerBridge.TeamClient

/-!
# Waiting for bytes

What the polling loop can do, one constructor for each way a round goes on.
The number of rounds never decides the outcome: a wait that times out has
passed its deadline.
-/

namespace SslRosBridge.GameControllerBridge

open Library

section Polling

variable {World : Type} (platform : Platform World)

/-- The outcomes of the loop; `idle` is a round that sleeps. -/
inductive PollEnds (isOpen : Bool) : World → Received × World → Prop where
  | timedOut (world : World) : PollEnds isOpen world (.timedOut, world)
  | unavailable {world next : World} {bytesAvailable : Nat} {report : Option ErrorCode}
      {error : ErrorCode}
      (checked : availableBytes platform isOpen world = ((bytesAvailable, report), next))
      (failure : fatal report = some error) : PollEnds isOpen world (.failed error, next)
  | idle {world next : World} {report : Option ErrorCode} {outcome : Received × World}
      (checked : availableBytes platform isOpen world = ((0, report), next))
      (later : PollEnds isOpen (platform.sleep next) outcome) : PollEnds isOpen world outcome
  | read {world next : World} {bytesAvailable : Nat} {report : Option ErrorCode}
      (checked : availableBytes platform isOpen world = ((bytesAvailable, report), next))
      (available : fatal report = none) (something : bytesAvailable ≠ 0) :
      PollEnds isOpen world (readAvailable platform bytesAvailable next)

theorem poll_ends (isOpen : Bool) (deadline rounds : Nat) (world : World) :
    PollEnds platform isOpen world (poll platform isOpen deadline rounds world) := by
  induction rounds generalizing world with
  | zero => exact .timedOut world
  | succ rounds ih =>
      rw [poll]
      by_cases late : deadline ≤ platform.now world
      · rw [if_pos late]
        exact .timedOut world
      rw [if_neg late]
      generalize checked : availableBytes platform isOpen world = outcome
      obtain ⟨⟨bytesAvailable, report⟩, next⟩ := outcome
      cases available : fatal report with
      | some error => simpa only [available] using .unavailable checked available
      | none =>
          simp only [available]
          by_cases nothing : bytesAvailable = 0
          · subst nothing
            rw [if_pos rfl]
            exact .idle checked (ih _)
          · rw [if_neg nothing]
            exact .read checked available nothing

/-- A read is what its error code makes of the bytes. -/
theorem readAvailable_eq {bytesAvailable : Nat} {world last : World} {data : List UInt8}
    {report : Option ErrorCode}
    (read : platform.read bufferSize bytesAvailable world = ((data, report), last)) :
    readAvailable platform bytesAvailable world =
      ((fatal report).elim (.bytes data) .failed, last) := by
  unfold readAvailable
  rw [read]
  cases failure : fatal report <;> simp only [failure] <;> rfl

theorem receive_ends (isOpen : Bool) (world : World) :
    PollEnds platform isOpen world (receive platform isOpen world) :=
  poll_ends platform isOpen _ _ world

theorem now_availableBytes (isOpen : Bool) (world : World) :
    platform.now world ≤ platform.now (availableBytes platform isOpen world).2 := by
  cases isOpen with
  | false => exact Nat.le_refl _
  | true => exact platform.now_available world

/-- Each idle round takes time, so the rounds last until the deadline. -/
theorem poll_timedOut {isOpen : Bool} {deadline rounds : Nat} {world last : World}
    (enough : deadline < platform.now world + rounds)
    (timedOut : poll platform isOpen deadline rounds world = (.timedOut, last)) :
    deadline ≤ platform.now last := by
  induction rounds generalizing world with
  | zero =>
      cases timedOut
      omega
  | succ rounds ih =>
      rw [poll] at timedOut
      by_cases late : deadline ≤ platform.now world
      · rw [if_pos late] at timedOut
        cases timedOut
        exact late
      rw [if_neg late] at timedOut
      have checked := now_availableBytes platform isOpen world
      generalize availableBytes platform isOpen world = outcome at timedOut checked
      obtain ⟨⟨bytesAvailable, report⟩, next⟩ := outcome
      have slept := platform.now_sleep next
      cases available : fatal report with
      | some error =>
          simp only [available] at timedOut
          cases timedOut
      | none =>
          simp only [available] at timedOut checked
          by_cases nothing : bytesAvailable = 0
          · rw [if_pos nothing] at timedOut
            exact ih (by omega) timedOut
          · rw [if_neg nothing] at timedOut
            generalize read : platform.read bufferSize bytesAvailable next = outcome
            obtain ⟨⟨data, readReport⟩, after⟩ := outcome
            rw [readAvailable_eq platform read] at timedOut
            cases failure : fatal readReport <;> simp [failure] at timedOut

/-- `WaitForReply` reports a timeout only after a second has passed. -/
theorem receive_timedOut {isOpen : Bool} {world last : World}
    (timedOut : receive platform isOpen world = (.timedOut, last)) :
    platform.now world + platform.second ≤ platform.now last :=
  poll_timedOut platform (by omega) timedOut

/-- A call of `WaitForReply` in terms of the wait. -/
theorem result_waitForReply (client : TeamClient World) :
    (waitForReply platform).result client =
      (.ok (replyOf platform (receive platform client.isOpen client.world).1),
        { client.record (.received (replyOf platform
            (receive platform client.isOpen client.world).1)) with
          world := (receive platform client.isOpen client.world).2 }) := by
  unfold waitForReply
  rw [Computation.result_step]

end Polling

end SslRosBridge.GameControllerBridge
