import Mathlib.Algebra.Order.Group.Nat
import Mathlib.Data.List.Basic

/-!
# Unformatted input from a byte source

The part of `std::istream` that a reader of binary data uses: `read`, `gcount`,
the three state bits and `tellg`.  The source holds finitely many bytes.  It
may also stop being readable before its end: `fault` then counts the bytes
that can still be taken before the underlying read fails.
-/

namespace SslRosBridge.Library

structure InputStream where
  rest : List UInt8
  position : Nat := 0
  eofbit : Bool := false
  failbit : Bool := false
  badbit : Bool := false
  fault : Option Nat := none

namespace InputStream

def eof (stream : InputStream) : Bool := stream.eofbit

def fail (stream : InputStream) : Bool := stream.failbit || stream.badbit

def good (stream : InputStream) : Bool :=
  !(stream.eofbit || stream.failbit || stream.badbit)

/-- The position for the next read, or `-1` when the stream has failed. -/
def tellg (stream : InputStream) : Int :=
  if stream.fail then -1 else stream.position

/-- Whether taking `count` bytes runs into the failing part of the source. -/
def faults (stream : InputStream) (count : Nat) : Bool :=
  match stream.fault with
  | none => false
  | some readable => readable < count && readable ≤ stream.rest.length

/-- Move `count` bytes out of the source. -/
def advance (stream : InputStream) (count : Nat) : InputStream :=
  { stream with
    rest := stream.rest.drop count
    position := stream.position + count
    fault := stream.fault.map (· - count) }

/--
`read(buffer, count)` with the bytes it stored; their number is `gcount()`.
A stream that is not good stores nothing and fails.  A failing source sets
`badbit` and counts nothing; a source that ends early sets `eofbit` and
`failbit` and keeps the bytes it had.
-/
def read (stream : InputStream) (count : Nat) : List UInt8 × InputStream :=
  if !stream.good then
    ([], { stream with failbit := true })
  else if stream.faults count then
    ([], { stream with badbit := true })
  else if stream.rest.length < count then
    (stream.rest,
      { stream.advance stream.rest.length with eofbit := true, failbit := true })
  else
    (stream.rest.take count, stream.advance count)

/-- A good stream over a source that stays readable to its end. -/
structure Ready (stream : InputStream) : Prop where
  good : stream.good = true
  sound : stream.fault = none

/-- A stream that has reported its end with nothing left in the source. -/
structure Exhausted (stream : InputStream) : Prop where
  eof : stream.eof = true
  rest : stream.rest = []

/-- The open stream on a whole byte string. -/
def ofBytes (bytes : List UInt8) : InputStream := { rest := bytes }

theorem ready_ofBytes (bytes : List UInt8) : (ofBytes bytes).Ready := ⟨rfl, rfl⟩

@[simp] theorem rest_ofBytes (bytes : List UInt8) : (ofBytes bytes).rest = bytes := rfl

@[simp] theorem rest_advance (stream : InputStream) (count : Nat) :
    (stream.advance count).rest = stream.rest.drop count := rfl

theorem Ready.advance {stream : InputStream} (ready : stream.Ready) (count : Nat) :
    (stream.advance count).Ready := by
  refine ⟨ready.good, ?_⟩
  simp [InputStream.advance, ready.sound]

theorem Ready.eof_eq {stream : InputStream} (ready : stream.Ready) : stream.eof = false := by
  have good := ready.good
  simp only [InputStream.good, Bool.not_eq_true', Bool.or_eq_false_iff] at good
  exact good.1.1

theorem Ready.faults_eq {stream : InputStream} (ready : stream.Ready) (count : Nat) :
    stream.faults count = false := by
  simp [faults, ready.sound]

/-- A ready stream with enough bytes yields exactly the next `count`. -/
theorem Ready.read_full {stream : InputStream} (ready : stream.Ready) {count : Nat}
    (enough : count ≤ stream.rest.length) :
    stream.read count = (stream.rest.take count, stream.advance count) := by
  simp [read, ready.good, ready.faults_eq, Nat.not_lt.mpr enough]

/-- A ready stream with too few bytes yields them all and is at its end. -/
theorem Ready.read_short {stream : InputStream} (ready : stream.Ready) {count : Nat}
    (short : stream.rest.length < count) :
    stream.read count =
      (stream.rest,
        { stream.advance stream.rest.length with eofbit := true, failbit := true }) := by
  simp [read, ready.good, ready.faults_eq, short]

/-- A short read exhausts a ready stream. -/
theorem Ready.read_short_exhausted {stream : InputStream} (ready : stream.Ready) {count : Nat}
    (short : stream.rest.length < count) : (stream.read count).2.Exhausted := by
  rw [ready.read_short short]
  exact ⟨rfl, List.drop_length⟩

/-- Reading the bytes that stand in front of a suffix leaves the suffix. -/
theorem Ready.read_append {stream : InputStream} (ready : stream.Ready)
    {front after : List UInt8} (layout : stream.rest = front ++ after) :
    stream.read front.length = (front, stream.advance front.length) := by
  rw [ready.read_full (by simp [layout]), layout, List.take_left]

/-! ## Streams that a reader cannot tell apart -/

/-- Related streams report their ends together, and every read yields the same
bytes from both and leaves them related. -/
structure Agrees (related : InputStream → InputStream → Prop) : Prop where
  eof : ∀ left right, related left right → left.eof = right.eof
  read : ∀ left right, related left right → ∀ count,
    (left.read count).1 = (right.read count).1 ∧
      related (left.read count).2 (right.read count).2

theorem Agrees.flip {related : InputStream → InputStream → Prop} (agrees : Agrees related) :
    Agrees fun left right => related right left := by
  constructor
  · intro left right same
    exact (agrees.eof right left same).symm
  · intro left right same count
    obtain ⟨bytes, behind⟩ := agrees.read right left same count
    exact ⟨bytes.symm, behind⟩

end InputStream

end SslRosBridge.Library
