import Mathlib.Algebra.Order.Group.Nat
import Mathlib.Data.List.Forall2

/-!
# Length-delimited frames

A frame is the length of its body as a base-128 varint, followed by the body.
The reader takes the first frame of a byte string and ignores what follows it.
-/

namespace SslRosBridge.Library

/-! ## Varints -/

/-- At most `limit` groups of seven bits, the lowest first. -/
def writeGroups : Nat → Nat → List UInt8
  | 0, _ => []
  | limit + 1, value =>
      if value < 128 then [.ofNat value]
      else .ofNat (value % 128 + 128) :: writeGroups limit (value / 128)

def writeVarint32 (value : Nat) : List UInt8 := writeGroups 5 value

/-- The value of the groups up to the first byte without continuation bit. -/
def readGroups : Nat → List UInt8 → Option (Nat × List UInt8)
  | 0, _ => none
  | _ + 1, [] => none
  | limit + 1, byte :: rest =>
      if byte.toNat < 128 then some (byte.toNat, rest)
      else
        match readGroups limit rest with
        | none => none
        | some (value, after) => some (byte.toNat - 128 + 128 * value, after)

/-- At most ten bytes are read and the upper bits are dropped. -/
def readVarint32 (bytes : List UInt8) : Option (Nat × List UInt8) :=
  (readGroups 10 bytes).map fun (value, rest) => (value % 2 ^ 32, rest)

theorem readGroups_writeGroups {limit more value : Nat} (fits : value < 128 ^ limit)
    (positive : 0 < limit) (le : limit ≤ more) (rest : List UInt8) :
    readGroups more (writeGroups limit value ++ rest) = some (value, rest) := by
  induction limit generalizing more value with
  | zero => omega
  | succ limit ih =>
      obtain ⟨more, rfl⟩ : ∃ n, more = n + 1 := ⟨more - 1, by omega⟩
      rw [writeGroups]
      by_cases small : value < 128
      · have byte : (UInt8.ofNat value).toNat = value := by
          rw [UInt8.toNat_ofNat']
          omega
        rw [if_pos small, List.singleton_append, readGroups, byte, if_pos small]
      · have byte : (UInt8.ofNat (value % 128 + 128)).toNat = value % 128 + 128 := by
          rw [UInt8.toNat_ofNat']
          omega
        have fits' : value / 128 < 128 ^ limit :=
          Nat.div_lt_of_lt_mul (by rwa [← Nat.pow_succ'])
        have positive' : 0 < limit := by
          rcases Nat.eq_zero_or_pos limit with rfl | positive
          · omega
          · exact positive
        rw [if_neg small, List.cons_append, readGroups, byte, if_neg (by omega),
          ih fits' positive' (Nat.le_of_succ_le_succ le)]
        simp only [Option.some.injEq, Prod.mk.injEq, and_true]
        omega

/-- As many bytes as are taken bound the value that is read. -/
theorem readGroups_bound {limit : Nat} {bytes rest : List UInt8} {value : Nat}
    (read : readGroups limit bytes = some (value, rest)) :
    ∃ width, 0 < width ∧ value < 128 ^ width ∧ bytes.length = width + rest.length := by
  induction limit generalizing bytes value with
  | zero => cases read
  | succ limit ih =>
      cases bytes with
      | nil => cases read
      | cons byte bytes =>
          have bound := byte.toNat_lt
          rw [readGroups] at read
          by_cases last : byte.toNat < 128
          · rw [if_pos last] at read
            cases read
            exact ⟨1, Nat.one_pos, by omega, by rw [List.length_cons]; omega⟩
          · rw [if_neg last] at read
            cases inner : readGroups limit bytes with
            | none => simp [inner] at read
            | some result =>
                obtain ⟨higher, after⟩ := result
                simp only [inner, Option.some.injEq, Prod.mk.injEq] at read
                obtain ⟨rfl, rfl⟩ := read
                obtain ⟨width, positive, fits, length⟩ := ih inner
                refine ⟨width + 1, Nat.succ_pos width, ?_, by rw [List.length_cons]; omega⟩
                rw [Nat.pow_succ']
                omega

/-- A written varint is as short as its value allows. -/
theorem length_writeGroups_le {width value : Nat} (positive : 0 < width)
    (fits : value < 128 ^ width) (limit : Nat) : (writeGroups limit value).length ≤ width := by
  induction limit generalizing width value with
  | zero => exact Nat.zero_le width
  | succ limit ih =>
      rw [writeGroups]
      by_cases small : value < 128
      · rw [if_pos small]
        exact positive
      · obtain ⟨width, rfl⟩ : ∃ n, width = n + 1 := ⟨width - 1, by omega⟩
        have fits' : value / 128 < 128 ^ width :=
          Nat.div_lt_of_lt_mul (by rwa [← Nat.pow_succ'])
        have positive' : 0 < width := by
          rcases Nat.eq_zero_or_pos width with rfl | positive
          · omega
          · exact positive
        rw [if_neg small, List.length_cons]
        exact Nat.succ_le_succ (ih positive' fits')

theorem length_writeVarint32_le_of_read {bytes rest : List UInt8} {value smaller : Nat}
    (read : readVarint32 bytes = some (value, rest)) (le : smaller ≤ value) :
    (writeVarint32 smaller).length + rest.length ≤ bytes.length := by
  obtain ⟨⟨whole, after⟩, groups, same⟩ := Option.map_eq_some_iff.mp read
  simp only [Prod.mk.injEq] at same
  obtain ⟨rfl, rfl⟩ := same
  obtain ⟨width, positive, fits, length⟩ := readGroups_bound groups
  have fits' : smaller < 128 ^ width :=
    Nat.lt_of_le_of_lt (Nat.le_trans le (Nat.mod_le whole (2 ^ 32))) fits
  have shortest := length_writeGroups_le positive fits' 5
  unfold writeVarint32
  omega

/-! ## Frames -/

/-- The frame of a body. -/
def delimited (body : List UInt8) : List UInt8 := writeVarint32 body.length ++ body

/-- The body of the first frame, if the frame is complete. -/
def firstFrame (bytes : List UInt8) : Option (List UInt8) :=
  match readVarint32 bytes with
  | none => none
  | some (size, rest) =>
      if 2 ^ 31 ≤ size ∨ rest.length < size then none else some (rest.take size)

theorem firstFrame_delimited {body : List UInt8} (small : body.length < 2 ^ 31)
    (after : List UInt8) : firstFrame (delimited body ++ after) = some body := by
  have fits : body.length < 128 ^ 5 := by omega
  have read : readVarint32 (delimited body ++ after) = some (body.length, body ++ after) := by
    rw [readVarint32, delimited, writeVarint32, List.append_assoc,
      readGroups_writeGroups fits (by omega) (by omega)]
    simp only [Option.map_some, Option.some.injEq, Prod.mk.injEq, and_true]
    omega
  rw [firstFrame, read]
  simp only [List.length_append, List.take_left]
  rw [if_neg (by omega)]

/-- A frame is no longer than any bytes whose first frame has a body at least
as long. -/
theorem length_delimited_le {bytes body shorter : List UInt8}
    (frame : firstFrame bytes = some body) (le : shorter.length ≤ body.length) :
    (delimited shorter).length ≤ bytes.length := by
  unfold firstFrame at frame
  cases read : readVarint32 bytes with
  | none => simp [read] at frame
  | some result =>
      obtain ⟨size, rest⟩ := result
      simp only [read] at frame
      split at frame
      · cases frame
      · next complete =>
        cases frame
        have inside : shorter.length ≤ size := by
          rw [List.length_take] at le
          omega
        have prefixLength := length_writeVarint32_le_of_read read inside
        rw [delimited, List.length_append]
        rw [List.length_take] at le
        omega

/-! ## Cutting a stream -/

theorem length_flatten_le_of_longer {Element : Type} {pieces chunks : List (List Element)}
    (longer : List.Forall₂ (fun piece chunk => piece.length ≤ chunk.length) pieces chunks) :
    pieces.flatten.length ≤ chunks.flatten.length := by
  induction longer with
  | nil => exact Nat.le_refl _
  | cons first later ih =>
      simp only [List.flatten_cons, List.length_append]
      omega

/-- Chunks of a stream that are at least as long as its pieces are its pieces. -/
theorem chunks_eq_pieces {Element : Type} {pieces chunks : List (List Element)}
    {rest : List Element}
    (longer : List.Forall₂ (fun piece chunk => piece.length ≤ chunk.length) pieces chunks)
    (same : pieces.flatten = chunks.flatten ++ rest) : chunks = pieces := by
  induction longer with
  | nil => rfl
  | @cons piece chunk pieces chunks first later ih =>
      have total := congrArg List.length same
      have behind := length_flatten_le_of_longer later
      simp only [List.flatten_cons, List.length_append] at total
      have equal : piece.length = chunk.length := by omega
      rw [List.flatten_cons, List.flatten_cons, List.append_assoc] at same
      obtain ⟨rfl, tails⟩ := List.append_inj same equal
      rw [ih tails]

end SslRosBridge.Library
