/-!
# Executions of a labelled transition system

The transitions of a finite execution are kept in order, each with the states
around it, so that a property of an execution is one of its transitions.
-/

namespace SslRosBridge.Library

structure Transition (State Label : Type) where
  before : State
  label : Label
  after : State

section Execution

variable {State Label : Type} (allowed : State → Label → State → Prop)

inductive Execution : State → List (Transition State Label) → State → Prop where
  | stop (state : State) : Execution state [] state
  | step {before after last : State} {label : Label} {transitions : List (Transition State Label)}
      (taken : allowed before label after) (later : Execution after transitions last) :
      Execution before (⟨before, label, after⟩ :: transitions) last

variable {allowed}

theorem Execution.steps {first last : State} {transitions : List (Transition State Label)}
    (execution : Execution allowed first transitions last) :
    ∀ transition ∈ transitions, allowed transition.before transition.label transition.after := by
  induction execution with
  | stop => exact nofun
  | step taken _ ih => exact List.forall_mem_cons.mpr ⟨taken, ih⟩

/-- An execution is cut in front of any of its transitions. -/
theorem Execution.split {first last : State} {front back : List (Transition State Label)}
    (execution : Execution allowed first (front ++ back) last) :
    ∃ middle, Execution allowed first front middle ∧ Execution allowed middle back last := by
  induction front generalizing first with
  | nil => exact ⟨first, .stop first, execution⟩
  | cons transition front ih =>
      cases execution with
      | step taken later =>
          obtain ⟨middle, before, after⟩ := ih later
          exact ⟨middle, .step taken before, after⟩

/--
An invariant that every guarded transition keeps holds in all states of an
execution whose transitions meet the guard.
-/
theorem Execution.invariant (invariant : State → Prop) (guard : State → Label → Prop)
    (kept : ∀ {before label after}, invariant before → guard before label →
      allowed before label after → invariant after)
    {first last : State} {transitions : List (Transition State Label)}
    (execution : Execution allowed first transitions last) (holds : invariant first)
    (guarded : ∀ transition ∈ transitions, guard transition.before transition.label) :
    invariant last ∧ ∀ transition ∈ transitions, invariant transition.before := by
  induction execution with
  | stop => exact ⟨holds, nofun⟩
  | step taken _ ih =>
      obtain ⟨now, later⟩ := List.forall_mem_cons.mp guarded
      obtain ⟨atEnd, before⟩ := ih (kept holds now taken) later
      exact ⟨atEnd, List.forall_mem_cons.mpr ⟨holds, before⟩⟩

/-- The guard of an invariant may also speak of the state behind a transition. -/
theorem Execution.invariant_along (invariant : State → Prop)
    (guard : Transition State Label → Prop)
    (kept : ∀ {before label after}, invariant before → allowed before label after →
      guard ⟨before, label, after⟩ → invariant after)
    {first last : State} {transitions : List (Transition State Label)}
    (execution : Execution allowed first transitions last) (holds : invariant first)
    (guarded : ∀ transition ∈ transitions, guard transition) : invariant last := by
  induction execution with
  | stop => exact holds
  | step taken _ ih =>
      obtain ⟨now, later⟩ := List.forall_mem_cons.mp guarded
      exact ih (kept holds taken now) later

/--
An invariant may also speak of the transitions taken so far.  It then holds in
front of every transition, of those before it.
-/
theorem Execution.invariant_of_past (invariant : List (Transition State Label) → State → Prop)
    (kept : ∀ {past before label after}, invariant past before → allowed before label after →
      invariant (past ++ [⟨before, label, after⟩]) after)
    {first last : State} {transitions : List (Transition State Label)}
    (execution : Execution allowed first transitions last)
    {past : List (Transition State Label)} (holds : invariant past first) :
    ∀ front transition back, transitions = front ++ transition :: back →
      invariant (past ++ front) transition.before := by
  induction execution generalizing past with
  | stop =>
      intro front transition back split
      cases front <;> cases split
  | step taken _ ih =>
      intro front transition back split
      cases front with
      | nil =>
          cases split
          rw [List.append_nil]
          exact holds
      | cons next front =>
          obtain ⟨rfl, later⟩ := List.cons.inj split
          have inside := ih (kept holds taken) front transition back later
          rwa [List.append_assoc] at inside

end Execution

end SslRosBridge.Library
