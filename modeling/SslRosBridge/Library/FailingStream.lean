import SslRosBridge.Library.InputStream

/-!
# Sources that fail

A source that fails only behind its end reads as one that never fails.  Over
one that fails before its end a stream breaks instead of reporting the end.
-/

namespace SslRosBridge.Library

namespace InputStream

/-- The source does not fail before its end. -/
def Clear (stream : InputStream) : Prop :=
  ∀ readable, stream.fault = some readable → stream.rest.length < readable

/-- The same stream over a source that never fails. -/
def erase (stream : InputStream) : InputStream := { stream with fault := none }

/-- A good stream over a source that fails before its end. -/
structure Failing (stream : InputStream) : Prop where
  good : stream.good = true
  fault : ∃ readable, stream.fault = some readable ∧ readable ≤ stream.rest.length

/-- A stream that has failed without reporting its end. -/
structure Broken (stream : InputStream) : Prop where
  eof : stream.eof = false
  badbit : stream.badbit = true

variable {stream : InputStream}

theorem Clear.faults_eq (clear : stream.Clear) (count : Nat) : stream.faults count = false := by
  unfold faults
  cases fault : stream.fault with
  | none => rfl
  | some readable =>
      have behind := clear readable fault
      simp only [Bool.and_eq_false_iff, decide_eq_false_iff_not]
      omega

theorem Clear.advance (clear : stream.Clear) {count : Nat} (enough : count ≤ stream.rest.length) :
    (stream.advance count).Clear := by
  intro readable moved
  obtain ⟨before, fault, rfl⟩ := Option.map_eq_some_iff.mp moved
  have behind := clear before fault
  rw [rest_advance, List.length_drop]
  omega

/-- A source that fails behind its end is read as one that never fails. -/
theorem Clear.read (clear : stream.Clear) (count : Nat) :
    stream.erase.read count = ((stream.read count).1, (stream.read count).2.erase) ∧
      (stream.read count).2.Clear := by
  have faults : stream.erase.faults count = false := rfl
  unfold InputStream.read
  rw [faults, clear.faults_eq]
  change (if !stream.good then _ else _) = _ ∧ _
  by_cases stopped : (!stream.good) = true
  · rw [if_pos stopped, if_pos stopped]
    exact ⟨rfl, clear⟩
  rw [if_neg stopped, if_neg stopped]
  simp only [Bool.false_eq_true, if_false]
  change (if stream.rest.length < count then _ else _) = _ ∧ _
  by_cases short : stream.rest.length < count
  · rw [if_pos short, if_pos short]
    exact ⟨rfl, clear.advance (Nat.le_refl _)⟩
  · rw [if_neg short, if_neg short]
    exact ⟨rfl, clear.advance (Nat.le_of_not_lt short)⟩

theorem agrees_erase :
    Agrees fun erased stream => erased = stream.erase ∧ stream.Clear := by
  constructor
  · rintro _ stream ⟨rfl, -⟩
    rfl
  · rintro _ stream ⟨rfl, clear⟩ count
    obtain ⟨erased, behind⟩ := clear.read count
    rw [erased]
    exact ⟨rfl, rfl, behind⟩

/-- A broken stream stores nothing and stays broken. -/
theorem Broken.read (broken : stream.Broken) (count : Nat) :
    (stream.read count).1 = [] ∧ (stream.read count).2.Broken := by
  have stopped : (!stream.good) = true := by simp [good, broken.badbit]
  unfold InputStream.read
  rw [if_pos stopped]
  exact ⟨rfl, broken.eof, broken.badbit⟩

theorem Failing.eof_eq (failing : stream.Failing) : stream.eof = false := by
  have good := failing.good
  simp only [InputStream.good, Bool.not_eq_true', Bool.or_eq_false_iff] at good
  exact good.1.1

/-- A read breaks a stream over a failing source, or ends in front of the
failure. -/
theorem Failing.read (failing : stream.Failing) (count : Nat) :
    (0 < count ∧ (stream.read count).1 = [] ∧ (stream.read count).2.Broken) ∨
    (count ≤ stream.rest.length ∧
      stream.read count = (stream.rest.take count, stream.advance count) ∧
      (stream.advance count).Failing) := by
  obtain ⟨readable, fault, inside⟩ := failing.fault
  have notStopped : ¬ (!stream.good) = true := by simp [failing.good]
  unfold InputStream.read
  rw [if_neg notStopped]
  by_cases beyond : readable < count
  · have faults : stream.faults count = true := by simp [InputStream.faults, fault, beyond, inside]
    rw [if_pos faults]
    exact Or.inl ⟨by omega, rfl, failing.eof_eq, rfl⟩
  · have faults : ¬ stream.faults count = true := by simp [InputStream.faults, fault, beyond]
    rw [if_neg faults, if_neg (by omega)]
    refine Or.inr ⟨by omega, rfl, failing.good, readable - count, ?_, ?_⟩
    · simp [InputStream.advance, fault]
    · rw [rest_advance, List.length_drop]
      omega

end InputStream

end SslRosBridge.Library
