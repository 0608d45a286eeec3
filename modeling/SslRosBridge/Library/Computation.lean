/-!
# Computations with state and exceptions

A computation keeps the state it has reached when it throws.  A triple says
what holds of the state, and of the value or the exception, at the end.
-/

namespace SslRosBridge.Library

abbrev Computation (State Exception Value : Type) := ExceptT Exception (StateM State) Value

namespace Computation

variable {State Exception Value Next : Type}

/-- The result of a computation and the state it leaves. -/
def result (computation : Computation State Exception Value) (state : State) :
    Except Exception Value × State :=
  computation.run.run state

/-- A total step that never throws. -/
def step (next : State → Value × State) : Computation State Exception Value :=
  ExceptT.lift next

/-- A step that may throw, and that changes the state either way. -/
def attempt (next : State → Except Exception Value × State) :
    Computation State Exception Value :=
  ExceptT.mk next

@[simp] theorem result_pure (value : Value) (state : State) :
    (pure value : Computation State Exception Value).result state = (.ok value, state) := rfl

@[simp] theorem result_step (next : State → Value × State) (state : State) :
    (step next : Computation State Exception Value).result state =
      (.ok (next state).1, (next state).2) := rfl

@[simp] theorem result_attempt (next : State → Except Exception Value × State) (state : State) :
    (attempt next).result state = next state := rfl

theorem result_bind (first : Computation State Exception Value)
    (rest : Value → Computation State Exception Next) (state : State) :
    (first >>= rest).result state =
      match first.result state with
      | (.ok value, middle) => (rest value).result middle
      | (.error exception, middle) => (.error exception, middle) := by
  change (match first.result state with
    | (outcome, middle) => (ExceptT.bindCont rest outcome).run middle) = _
  generalize first.result state = outcome
  obtain ⟨outcome | outcome, middle⟩ := outcome <;> rfl

theorem result_bind_ok {first : Computation State Exception Value}
    {rest : Value → Computation State Exception Next} {state middle : State} {value : Value}
    (ok : first.result state = (.ok value, middle)) :
    (first >>= rest).result state = (rest value).result middle := by
  rw [result_bind, ok]

/-- A computation whose returned value is known has returned. -/
theorem result_eq_of_toOption (computation : Computation State Exception Value) (state : State)
    (value : Value) (returned : (computation.result state).1.toOption = some value) :
    computation.result state = (.ok value, (computation.result state).2) := by
  generalize computation.result state = outcome at returned ⊢
  obtain ⟨exception | other, next⟩ := outcome
  · cases returned
  · cases returned
    rfl

/-- The exception of an outcome that threw. -/
def exception? : Except Exception Value → Option Exception
  | .ok _ => none
  | .error exception => some exception

theorem eq_error_of_exception? {outcome : Except Exception Value} {exception : Exception}
    (threw : exception? outcome = some exception) : outcome = .error exception := by
  cases outcome with
  | ok value => cases threw
  | error other =>
      cases threw
      rfl

/-! ## Triples -/

/-- What holds at the end of a computation, whether it returns or throws. -/
def Ends (post : Value → State → Prop) (thrown : Exception → State → Prop) :
    Except Exception Value × State → Prop
  | (.ok value, state) => post value state
  | (.error exception, state) => thrown exception state

def Triple (pre : State → Prop) (computation : Computation State Exception Value)
    (post : Value → State → Prop) (thrown : Exception → State → Prop) : Prop :=
  ∀ state, pre state → Ends post thrown (computation.result state)

variable {pre : State → Prop} {thrown : Exception → State → Prop}

theorem Triple.pure {post : Value → State → Prop} {value : Value}
    (holds : ∀ state, pre state → post value state) :
    Triple pre (Pure.pure value : Computation State Exception Value) post thrown :=
  holds

theorem Triple.step {post : Value → State → Prop} {next : State → Value × State}
    (holds : ∀ state, pre state → post (next state).1 (next state).2) :
    Triple pre (Computation.step next : Computation State Exception Value) post thrown :=
  holds

theorem Triple.attempt {post : Value → State → Prop}
    {next : State → Except Exception Value × State}
    (holds : ∀ state, pre state → Ends post thrown (next state)) :
    Triple pre (Computation.attempt next) post thrown :=
  holds

/-- Every computation ends somehow. -/
theorem Triple.ends (computation : Computation State Exception Value) :
    Triple pre computation (fun _ _ => True) (fun _ _ => True) := by
  intro state _
  generalize computation.result state = outcome
  obtain ⟨exception | value, next⟩ := outcome <;> trivial

theorem Triple.bind (middle : Value → State → Prop) {post : Next → State → Prop}
    {first : Computation State Exception Value}
    {rest : Value → Computation State Exception Next}
    (start : Triple pre first middle thrown)
    (finish : ∀ value, Triple (middle value) (rest value) post thrown) :
    Triple pre (first >>= rest) post thrown := by
  intro state ready
  have reached := start state ready
  rw [result_bind]
  generalize first.result state = outcome at reached
  obtain ⟨exception | value, next⟩ := outcome
  · exact reached
  · exact finish value next reached

theorem Ends.imp {post weak : Value → State → Prop} {weakThrown : Exception → State → Prop}
    {outcome : Except Exception Value × State} (ends : Ends post thrown outcome)
    (after : ∀ value state, post value state → weak value state)
    (afterThrown : ∀ exception state, thrown exception state → weakThrown exception state) :
    Ends weak weakThrown outcome := by
  obtain ⟨exception | value, state⟩ := outcome
  · exact afterThrown exception state ends
  · exact after value state ends

theorem Ends.and {post other : Value → State → Prop} {otherThrown : Exception → State → Prop}
    {outcome : Except Exception Value × State} (ends : Ends post thrown outcome)
    (alsoEnds : Ends other otherThrown outcome) :
    Ends (fun value state => post value state ∧ other value state)
      (fun exception state => thrown exception state ∧ otherThrown exception state) outcome := by
  obtain ⟨exception | value, state⟩ := outcome
  · exact ⟨ends, alsoEnds⟩
  · exact ⟨ends, alsoEnds⟩

theorem Triple.weaken {strong : State → Prop} {post weak : Value → State → Prop}
    {weakThrown : Exception → State → Prop}
    {computation : Computation State Exception Value}
    (triple : Triple pre computation post thrown)
    (before : ∀ state, strong state → pre state)
    (after : ∀ value state, post value state → weak value state)
    (afterThrown : ∀ exception state, thrown exception state → weakThrown exception state) :
    Triple strong computation weak weakThrown :=
  fun state ready => (triple state (before state ready)).imp after afterThrown

/-- What holds at either end holds of the state that is left. -/
theorem Triple.result {post : State → Prop} {computation : Computation State Exception Value}
    (triple : Triple pre computation (fun _ => post) (fun _ => post)) {state : State}
    (ready : pre state) : post (computation.result state).2 := by
  have ends := triple state ready
  generalize computation.result state = outcome at ends
  obtain ⟨exception | value, next⟩ := outcome
  · exact ends
  · exact ends

/-- The computation keeps an invariant, whether it returns or throws. -/
abbrev Keeps (invariant : State → Prop) (computation : Computation State Exception Value) : Prop :=
  Triple invariant computation (fun _ => invariant) (fun _ => invariant)

theorem Keeps.pure {invariant : State → Prop} (value : Value) :
    Keeps invariant (Pure.pure value : Computation State Exception Value) :=
  Triple.pure fun _ => id

/-- A step that only looks at the state. -/
theorem Keeps.look {invariant : State → Prop} (value : State → Value) :
    Keeps invariant (Computation.step fun state => (value state, state) :
      Computation State Exception Value) :=
  Triple.step fun _ => id

theorem Keeps.bind {invariant : State → Prop} {first : Computation State Exception Value}
    {rest : Value → Computation State Exception Next} (start : Keeps invariant first)
    (finish : ∀ value, Keeps invariant (rest value)) : Keeps invariant (first >>= rest) :=
  Triple.bind _ start finish

/-- An invariant that the first part keeps is there for the rest. -/
theorem Keeps.before {post : Next → State → Prop} {first : Computation State Exception Value}
    {rest : Value → Computation State Exception Next} (start : Keeps pre first)
    (escapes : ∀ exception state, pre state → thrown exception state)
    (finish : ∀ value, Triple pre (rest value) post thrown) :
    Triple pre (first >>= rest) post thrown :=
  Triple.bind (fun _ => pre) (start.weaken (fun _ => id) (fun _ _ => id) escapes) finish

theorem Keeps.result {invariant : State → Prop}
    {computation : Computation State Exception Value} (keeps : Keeps invariant computation)
    {state : State} (holds : invariant state) : invariant (computation.result state).2 :=
  Triple.result keeps holds

/-- A precondition with a witness is used at each witness. -/
theorem Triple.of_exists {Witness : Type} {each : Witness → State → Prop}
    {post : Value → State → Prop} {computation : Computation State Exception Value}
    (triple : ∀ witness, Triple (each witness) computation post thrown) :
    Triple (fun state => ∃ witness, each witness state) computation post thrown := by
  rintro state ⟨witness, ready⟩
  exact triple witness state ready

/-- A fact that does not depend on the state is taken out of a precondition. -/
theorem Triple.of_fact {fact : Prop} {post : Value → State → Prop}
    {computation : Computation State Exception Value}
    (triple : fact → Triple pre computation post thrown) :
    Triple (fun state => pre state ∧ fact) computation post thrown := by
  rintro state ⟨ready, holds⟩
  exact triple holds state ready

end Computation

end SslRosBridge.Library
