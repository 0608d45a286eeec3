import Mathlib.Algebra.Order.Group.Nat
import Mathlib.Data.List.Basic

/-!
# Fixed-width words in byte strings

A word of a fixed number of bytes is written most significant byte first and
read back by a little-endian host, which copies the bytes in reverse into the
word's memory.  The value of the copied bytes is the word again.
-/

namespace SslRosBridge.Library.ByteOrder

/-- The low `width` bytes of a number, least significant byte first. -/
def littleEndianBytes : Nat → Nat → List UInt8
  | 0, _ => []
  | width + 1, value => UInt8.ofNat value :: littleEndianBytes width (value / 256)

/-- The low `width` bytes of a number, most significant byte first. -/
def bigEndianBytes (width value : Nat) : List UInt8 :=
  (littleEndianBytes width value).reverse

/-- The number that a little-endian host reads from consecutive bytes. -/
def littleEndianValue (bytes : List UInt8) : Nat :=
  bytes.foldr (fun byte rest => byte.toNat + 256 * rest) 0

/-- The `count` bytes that end before index `stop`, read backwards. -/
def reversedSlice (bytes : List UInt8) (stop count : Nat) : List UInt8 :=
  (bytes.take stop).reverse.take count

@[simp] theorem length_littleEndianBytes (width value : Nat) :
    (littleEndianBytes width value).length = width := by
  induction width generalizing value with
  | zero => rfl
  | succ width ih => simp [littleEndianBytes, ih]

@[simp] theorem length_bigEndianBytes (width value : Nat) :
    (bigEndianBytes width value).length = width := by
  simp [bigEndianBytes]

/-- Reading the low bytes back loses only what does not fit in the width. -/
theorem littleEndianValue_littleEndianBytes (width value : Nat) :
    littleEndianValue (littleEndianBytes width value) = value % 256 ^ width := by
  induction width generalizing value with
  | zero => simp [littleEndianBytes, littleEndianValue, Nat.mod_one]
  | succ width ih =>
      have inner : littleEndianValue (littleEndianBytes width (value / 256)) =
          value / 256 % 256 ^ width := ih (value / 256)
      have split : value % 256 ^ (width + 1) =
          value % 256 + 256 * (value / 256 % 256 ^ width) := by
        rw [Nat.pow_succ', Nat.mod_mul]
      simp only [littleEndianValue] at inner
      simp only [littleEndianBytes, littleEndianValue, List.foldr_cons, inner, split,
        UInt8.toNat_ofNat', Nat.reducePow]

/-- A big-endian word between two byte strings is read back by copying its
bytes in reverse. -/
theorem littleEndianValue_reversedSlice (before after : List UInt8) (stop width value : Nat)
    (stop_eq : stop = before.length + width) :
    littleEndianValue
        (reversedSlice (before ++ (bigEndianBytes width value ++ after)) stop width) =
      value % 256 ^ width := by
  have front : (before ++ (bigEndianBytes width value ++ after)).take stop =
      before ++ bigEndianBytes width value := by
    rw [← List.append_assoc]
    apply List.take_left'
    simp [stop_eq]
  have backwards : reversedSlice (before ++ (bigEndianBytes width value ++ after)) stop width =
      littleEndianBytes width value := by
    rw [reversedSlice, front, List.reverse_append, bigEndianBytes, List.reverse_reverse]
    exact List.take_left' (length_littleEndianBytes width value)
  rw [backwards, littleEndianValue_littleEndianBytes]

end SslRosBridge.Library.ByteOrder
