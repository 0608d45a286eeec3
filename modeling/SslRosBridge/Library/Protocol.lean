import SslRosBridge.Library.Execution

/-!
# Protocols and the systems that follow them

A protocol is a deterministic acceptor of observations: it says which ones a
state allows and what each of them makes of it.  A system follows it when every
transition, seen through its observations, is one that the protocol allows;
then all executions do, and what the protocol guarantees holds of them.
-/

namespace SslRosBridge.Library

structure Protocol (State Observation : Type) where
  next? : State → Observation → Option State

namespace Protocol

variable {State Observation : Type} (protocol : Protocol State Observation)

/-- The state behind a sequence of observations, if all of them are allowed. -/
def run : State → List Observation → Option State
  | state, [] => some state
  | state, observation :: later =>
      (protocol.next? state observation).bind fun next => run next later

@[simp] theorem run_nil (state : State) : protocol.run state [] = some state := rfl

theorem run_cons (state : State) (observation : Observation) (later : List Observation) :
    protocol.run state (observation :: later) =
      (protocol.next? state observation).bind fun next => protocol.run next later := rfl

theorem run_singleton (state : State) (observation : Observation) :
    protocol.run state [observation] = protocol.next? state observation :=
  Option.bind_fun_some _

theorem run_append (state : State) (front back : List Observation) :
    protocol.run state (front ++ back) =
      (protocol.run state front).bind fun next => protocol.run next back := by
  induction front generalizing state with
  | nil => rfl
  | cons observation front ih =>
      rw [List.cons_append, run_cons, run_cons, Option.bind_assoc]
      exact congrArg _ (funext fun next => ih next)

variable {protocol}

/-- An allowed sequence is cut at any of its observations. -/
theorem run_split {first last : State} {front back : List Observation} {observation : Observation}
    (allowed : protocol.run first (front ++ observation :: back) = some last) :
    ∃ before after, protocol.run first front = some before ∧
      protocol.next? before observation = some after ∧ protocol.run after back = some last := by
  rw [run_append] at allowed
  obtain ⟨before, reached, rest⟩ := Option.bind_eq_some_iff.mp allowed
  obtain ⟨after, next, later⟩ := Option.bind_eq_some_iff.mp rest
  exact ⟨before, after, reached, next, later⟩

/-- The induction over the observations: what each of them keeps, if it meets
the guard, all of them keep. -/
theorem run_invariant (invariant : State → Prop) (guard : Observation → Prop)
    (kept : ∀ {before observation after}, invariant before → guard observation →
      protocol.next? before observation = some after → invariant after)
    {first last : State} {observations : List Observation}
    (allowed : protocol.run first observations = some last) (holds : invariant first)
    (guarded : ∀ observation ∈ observations, guard observation) : invariant last := by
  induction observations generalizing first with
  | nil => exact Option.some.inj allowed ▸ holds
  | cons observation later ih =>
      obtain ⟨next, taken, rest⟩ := Option.bind_eq_some_iff.mp allowed
      obtain ⟨now, after⟩ := List.forall_mem_cons.mp guarded
      exact ih rest (kept holds now taken) after

end Protocol

/-! ## Simulations -/

section Simulation

variable {State Label Abstract Observation : Type}

/-- Every transition that meets the guard is matched by the protocol on what is
observed of it, and related states stay related. -/
structure Simulation (allowed : State → Label → State → Prop)
    (protocol : Protocol Abstract Observation)
    (observe : Transition State Label → List Observation)
    (guard : Transition State Label → Prop) where
  related : State → Abstract → Prop
  matched : ∀ {before label after abstract}, related before abstract →
    allowed before label after → guard ⟨before, label, after⟩ →
      ∃ next, protocol.run abstract (observe ⟨before, label, after⟩) = some next ∧
        related after next

variable {allowed : State → Label → State → Prop} {protocol : Protocol Abstract Observation}
variable {observe : Transition State Label → List Observation}
variable {guard : Transition State Label → Prop}

/-- The induction over the execution. -/
theorem Simulation.execution (simulation : Simulation allowed protocol observe guard)
    {first last : State} {transitions : List (Transition State Label)}
    (execution : Execution allowed first transitions last)
    (guarded : ∀ transition ∈ transitions, guard transition) {abstract : Abstract}
    (related : simulation.related first abstract) :
    ∃ final, protocol.run abstract (transitions.flatMap observe) = some final ∧
      simulation.related last final := by
  induction execution generalizing abstract with
  | stop => exact ⟨abstract, rfl, related⟩
  | step taken _ ih =>
      obtain ⟨now, later⟩ := List.forall_mem_cons.mp guarded
      obtain ⟨next, allowed, related⟩ := simulation.matched related taken now
      obtain ⟨final, rest, related⟩ := ih later related
      refine ⟨final, ?_, related⟩
      rw [List.flatMap_cons, Protocol.run_append, allowed]
      exact rest

end Simulation

end SslRosBridge.Library
