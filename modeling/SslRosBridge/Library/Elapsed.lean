import SslRosBridge.Library.Computation

/-!
# The time that a computation takes

A clock is read off the state.  Bounds of what it moves on by add up along a
computation, whether this returns or throws.
-/

namespace SslRosBridge.Library

namespace Computation

variable {State Exception Value Next : Type} {clock : State → Nat} {bound : Nat}

/-- The computation moves the clock on by no more than the bound. -/
def Within (clock : State → Nat) (bound : Nat) (computation : Computation State Exception Value) :
    Prop :=
  ∀ state, clock (computation.result state).2 ≤ clock state + bound

theorem Within.mono {more : Nat} {computation : Computation State Exception Value}
    (within : Within clock bound computation) (le : bound ≤ more) :
    Within clock more computation := by
  intro state
  exact Nat.le_trans (within state) (Nat.add_le_add_left le _)

theorem Within.pure (value : Value) :
    Within clock bound (Pure.pure value : Computation State Exception Value) := by
  intro state
  exact Nat.le_add_right _ _

theorem Within.throw (exception : Exception) :
    Within clock bound (throw exception : Computation State Exception Value) := by
  intro state
  exact Nat.le_add_right _ _

/-- A step that leaves the clock alone. -/
theorem Within.still {next : State → Value × State}
    (same : ∀ state, clock (next state).2 = clock state) :
    Within clock bound (Computation.step next : Computation State Exception Value) := by
  intro state
  rw [result_step, same]
  exact Nat.le_add_right _ _

theorem Within.bind {first : Computation State Exception Value}
    {rest : Value → Computation State Exception Next} {later : Nat}
    (start : Within clock bound first) (finish : ∀ value, Within clock later (rest value)) :
    Within clock (bound + later) (first >>= rest) := by
  intro state
  have reached := start state
  rw [result_bind]
  generalize first.result state = outcome at reached
  obtain ⟨exception | value, middle⟩ := outcome
  · exact Nat.le_trans reached (Nat.add_le_add_left (Nat.le_add_right _ _) _)
  · have ended := finish value middle
    simp only at reached ended ⊢
    omega

theorem Within.instant_bind {first : Computation State Exception Value}
    {rest : Value → Computation State Exception Next} (start : Within clock 0 first)
    (finish : ∀ value, Within clock bound (rest value)) : Within clock bound (first >>= rest) := by
  have both := start.bind finish
  rwa [Nat.zero_add] at both

theorem Within.bind_instant {first : Computation State Exception Value}
    {rest : Value → Computation State Exception Next} (start : Within clock bound first)
    (finish : ∀ value, Within clock 0 (rest value)) : Within clock bound (first >>= rest) :=
  start.bind finish

/-- A computation that starts at a time ends before a later one. -/
theorem Within.triple {computation : Computation State Exception Value}
    (within : Within clock bound computation) (start : Nat) :
    Triple (fun state => clock state = start) computation
      (fun _ state => clock state ≤ start + bound) (fun _ _ => True) := by
  rintro state rfl
  have ended := within state
  generalize computation.result state = outcome at ended
  obtain ⟨exception | value, last⟩ := outcome
  · trivial
  · exact ended

end Computation

end SslRosBridge.Library
