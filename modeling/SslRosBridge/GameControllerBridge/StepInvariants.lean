import SslRosBridge.GameControllerBridge.TeamClient

/-!
# Invariants of the socket steps

An invariant of the client that every step of `Connect` keeps, as long as it
connects to a given kind of endpoint and writes a given kind of bytes, is kept
by the whole of `Connect`.
-/

namespace SslRosBridge.GameControllerBridge

open Library Library.Computation

section StepInvariants

variable {World : Type} (platform : Platform World)

/-- The invariant is kept by every step, with these endpoints and these bytes. -/
structure KeptBySteps (endpoints : Endpoint → Prop) (frames : List UInt8 → Prop)
    (invariant : TeamClient World → Prop) : Prop where
  close : Keeps invariant (close platform)
  connectSocket : ∀ endpoint, endpoints endpoint → Keeps invariant (connectSocket platform endpoint)
  write : ∀ bytes, frames bytes → Keeps invariant (write platform bytes)
  waitForReply : Keeps invariant (waitForReply platform)
  storeToken : ∀ reply, Keeps invariant (TeamClient.storeToken reply)
  setConnected : ∀ value, Keeps invariant (TeamClient.setConnected value)
  called : ∀ parameters, Keeps invariant (TeamClient.called (.connectCalled parameters))

namespace KeptBySteps

variable {platform} {endpoints : Endpoint → Prop} {frames : List UInt8 → Prop}
variable {invariant : TeamClient World → Prop}
variable (kept : KeptBySteps platform endpoints frames invariant)

include kept

theorem closeIfOpen : Keeps invariant (closeIfOpen platform) := by
  refine (Keeps.look _).bind fun isOpen => ?_
  cases isOpen with
  | false => exact .pure _
  | true => exact kept.close

theorem attemptToConnectSocket {address : Address} {port : UInt16}
    (isAllowed : endpoints ⟨address, port⟩) :
    Keeps invariant (attemptToConnectSocket platform address port) := by
  refine kept.closeIfOpen.bind fun _ => ?_
  refine (kept.connectSocket _ isAllowed).bind fun error => ?_
  cases error with
  | some error => exact .pure _
  | none =>
      refine kept.waitForReply.bind fun reply => ?_
      cases reply with
      | none => exact .pure _
      | some message =>
          cases body : message.controllerReply with
          | none =>
              simp only [body]
              exact .pure _
          | some reply =>
              cases bad : reply.badStatus with
              | true =>
                  simp only [body, bad]
                  exact kept.close.bind fun _ => .pure _
              | false =>
                  simp only [body, bad]
                  exact (kept.storeToken reply).bind fun _ => .pure _

theorem attemptToRegister {teamName : String} {teamColor : TeamColor}
    (isAllowed : frames (registrationBytes platform teamName teamColor)) :
    Keeps invariant (attemptToRegister platform teamName teamColor) := by
  refine (kept.write _ isAllowed).bind fun _ => ?_
  refine kept.waitForReply.bind fun reply => ?_
  cases reply with
  | none => exact .pure _
  | some message =>
      cases body : message.controllerReply with
      | none =>
          simp only [body]
          exact .pure _
      | some reply =>
          cases bad : reply.badStatus <;> simp only [body, bad] <;> exact .pure _

theorem connect {parameters : ConnectionParameters}
    (endpointAllowed : endpoints ⟨parameters.address, parameters.port⟩)
    (framesAllowed : frames (registrationBytes platform parameters.teamName parameters.teamColor)) :
    Keeps invariant (connect platform parameters) := by
  refine (kept.called parameters).bind fun _ => ?_
  refine (kept.setConnected false).bind fun _ => ?_
  refine (kept.attemptToConnectSocket endpointAllowed).bind fun success => ?_
  cases success with
  | false => exact .pure _
  | true =>
      refine (kept.attemptToRegister framesAllowed).bind fun registered => ?_
      cases registered with
      | false => exact kept.close.bind fun _ => .pure _
      | true => exact (kept.setConnected true).bind fun _ => .pure _

end KeptBySteps

end StepInvariants

end SslRosBridge.GameControllerBridge
