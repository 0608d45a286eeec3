import SslRosBridge.Log2bag.LogReader

/-!
# What one call of `ExtractNextEntry` can do

On a good stream over a source that stays readable the call has five outcomes.
Each names the bytes it took and the reader it leaves.
-/

namespace SslRosBridge.Log2bag

open Library

/-- The reader after a header of the given type has been taken and counted. -/
def LogReader.pastHeader (reader : LogReader) (type : EntryType) : LogReader :=
  (reader.withStream (reader.inputStream.advance headerSize)).count type

/-- The reader behind a counted header and `length` bytes of payload. -/
def LogReader.pastPayload (reader : LogReader) (type : EntryType) (length : Nat) : LogReader :=
  (reader.pastHeader type).withStream ((reader.pastHeader type).inputStream.advance length)

namespace LogReader

variable {reader : LogReader} {header data after : List UInt8}

theorem rest_advance_header (layout : reader.inputStream.rest = header ++ after)
    (length : header.length = headerSize) :
    (reader.inputStream.advance headerSize).rest = after := by
  rw [InputStream.rest_advance, layout, List.drop_left' length]

theorem rest_pastPayload (layout : reader.inputStream.rest = header ++ (data ++ after))
    (length : header.length = headerSize) (type : EntryType) :
    (reader.pastPayload type data.length).inputStream.rest = after := by
  change (reader.inputStream.advance headerSize).rest.drop data.length = after
  rw [rest_advance_header layout length, List.drop_left]

theorem ready_pastPayload (ready : reader.inputStream.Ready) (type : EntryType) (length : Nat) :
    (reader.pastPayload type length).inputStream.Ready :=
  (ready.advance headerSize).advance length

end LogReader

section Extraction

variable {Referee Wrapper : Type} (host : Host Referee Wrapper)

/--
The outcomes of `ExtractNextEntry`.  Only `complete` moves past a payload:
`unrecognised` and `refused` leave the stream right behind the header, the
first by an early return and the second by an exception.
-/
inductive Extraction (reader : LogReader) :
    Except StdException (LogEntry Referee Wrapper) × LogReader → Prop where
  | endOfLog {stream : InputStream} (short : reader.inputStream.rest.length < headerSize)
      (exhausted : stream.Exhausted) :
      Extraction reader (.ok {}, reader.withStream stream)
  | unrecognised {header after : List UInt8}
      (layout : reader.inputStream.rest = header ++ after)
      (length : header.length = headerSize)
      (type_eq : EntryType.ofRaw? (entryTypeRaw header) = none) :
      Extraction reader (.ok {}, reader.withStream (reader.inputStream.advance headerSize))
  | refused {header after : List UInt8} {type : EntryType} {exception : StdException}
      (layout : reader.inputStream.rest = header ++ after)
      (length : header.length = headerSize)
      (type_eq : EntryType.ofRaw? (entryTypeRaw header) = some type)
      (reserve_eq : reserve host (dataSize header) = .error exception) :
      Extraction reader (.error exception, reader.pastHeader type)
  | truncated {header after : List UInt8} {type : EntryType} {stream : InputStream}
      (layout : reader.inputStream.rest = header ++ after)
      (length : header.length = headerSize)
      (type_eq : EntryType.ofRaw? (entryTypeRaw header) = some type)
      (reserve_eq : reserve host (dataSize header) = .ok ())
      (short : after.length < (dataSize header).toInt.toNat)
      (exhausted : stream.Exhausted) :
      Extraction reader (.ok {}, (reader.pastHeader type).withStream stream)
  | complete {header data after : List UInt8} {type : EntryType}
      (layout : reader.inputStream.rest = header ++ (data ++ after))
      (length : header.length = headerSize)
      (type_eq : EntryType.ofRaw? (entryTypeRaw header) = some type)
      (reserve_eq : reserve host (dataSize header) = .ok ())
      (size : (data.length : Int) = (dataSize header).toInt) :
      Extraction reader
        (.ok ⟨receivedTime header, parsePayload host type data⟩,
          (reader.pastHeader type).withStream
            ((reader.pastHeader type).inputStream.advance data.length))

/-! ## Reserving the payload -/

/-- A negative size converts to one that no vector can have. -/
theorem reserve_of_neg {size : Int32} (negative : size.toInt < 0) :
    reserve host size = .error .lengthError := by
  have low := Int32.le_toInt size
  have wrapped : vectorMaxSize < (size.toInt % 2 ^ 64).toNat := by
    unfold vectorMaxSize
    omega
  unfold reserve
  dsimp only
  rw [if_pos wrapped]

/-- Any other size is reserved unless the allocator refuses it. -/
theorem reserve_of_nonneg {size : Int32} (nonneg : 0 ≤ size.toInt) :
    reserve host size =
      if size.toInt.toNat = 0 || host.allocates size.toInt.toNat then .ok ()
      else .error .badAlloc := by
  have high := Int32.toInt_lt size
  have plain : (size.toInt % 2 ^ 64).toNat = size.toInt.toNat := by omega
  have fits : ¬ vectorMaxSize < size.toInt.toNat := by
    unfold vectorMaxSize
    omega
  unfold reserve
  dsimp only
  rw [plain, if_neg fits]

/-- A reservation that succeeds is for a size that is not negative. -/
theorem nonneg_of_reserve {size : Int32} (reserved : reserve host size = .ok ()) :
    0 ≤ size.toInt := by
  by_contra negative
  rw [reserve_of_neg host (Int.not_le.mp negative)] at reserved
  cases reserved

/-- A refused reservation is for a negative size, or for a size that the
allocator does not grant. -/
theorem reserve_error {size : Int32} {exception : StdException}
    (refused : reserve host size = .error exception) :
    size.toInt < 0 ∨ (0 < size.toInt ∧ host.allocates size.toInt.toNat = false) := by
  by_cases negative : size.toInt < 0
  · exact Or.inl negative
  · rw [reserve_of_nonneg host (Int.not_lt.mp negative)] at refused
    split at refused
    · cases refused
    · next denied =>
      simp only [Bool.or_eq_true, decide_eq_true_eq, not_or, Bool.not_eq_true] at denied
      exact Or.inr ⟨by omega, denied.2⟩

/-! ## One result for each path through the call -/

theorem extractNextEntry_short {reader : LogReader} (ready : reader.inputStream.Ready)
    (short : reader.inputStream.rest.length < headerSize) :
    extractNextEntry host reader =
      (.ok {}, reader.withStream (reader.inputStream.read headerSize).2) := by
  simp only [extractNextEntry, ready.read_short short]
  by_cases empty : reader.inputStream.rest.length = 0
  · rw [if_pos empty]
  · rw [if_neg empty, if_pos (Nat.ne_of_lt short)]

section Header

variable {reader : LogReader} {header after : List UInt8}

theorem header_nonempty (length : header.length = headerSize) : header.length ≠ 0 := by
  rw [length]
  decide

theorem read_header (ready : reader.inputStream.Ready)
    (layout : reader.inputStream.rest = header ++ after) (length : header.length = headerSize) :
    reader.inputStream.read headerSize = (header, reader.inputStream.advance headerSize) := by
  rw [← length]
  exact ready.read_append layout

theorem extractNextEntry_unrecognised (ready : reader.inputStream.Ready)
    (layout : reader.inputStream.rest = header ++ after) (length : header.length = headerSize)
    (type_eq : EntryType.ofRaw? (entryTypeRaw header) = none) :
    extractNextEntry host reader =
      (.ok {}, reader.withStream (reader.inputStream.advance headerSize)) := by
  simp only [extractNextEntry, read_header ready layout length, type_eq]
  rw [if_neg (header_nonempty length), if_neg (not_not_intro length)]

theorem extractNextEntry_refused (ready : reader.inputStream.Ready)
    (layout : reader.inputStream.rest = header ++ after) (length : header.length = headerSize)
    {type : EntryType} (type_eq : EntryType.ofRaw? (entryTypeRaw header) = some type)
    {exception : StdException}
    (reserve_eq : reserve host (dataSize header) = .error exception) :
    extractNextEntry host reader = (.error exception, reader.pastHeader type) := by
  simp only [extractNextEntry, read_header ready layout length, type_eq, reserve_eq]
  rw [if_neg (header_nonempty length), if_neg (not_not_intro length)]
  rfl

/-- Behind a whole header whose payload is granted, the call reads the payload. -/
theorem extractNextEntry_granted (ready : reader.inputStream.Ready)
    (layout : reader.inputStream.rest = header ++ after) (length : header.length = headerSize)
    {type : EntryType} (type_eq : EntryType.ofRaw? (entryTypeRaw header) = some type)
    (reserve_eq : reserve host (dataSize header) = .ok ())
    {data : List UInt8} {stream : InputStream}
    (read_eq : (reader.pastHeader type).inputStream.read (dataSize header).toInt.toNat =
      (data, stream)) :
    extractNextEntry host reader =
      if (data.length : Int) ≠ (dataSize header).toInt then
        (.ok {}, (reader.pastHeader type).withStream stream)
      else
        (.ok ⟨receivedTime header, parsePayload host type data⟩,
          (reader.pastHeader type).withStream stream) := by
  simp only [LogReader.pastHeader] at read_eq
  simp only [extractNextEntry, read_header ready layout length, type_eq, reserve_eq, read_eq]
  rw [if_neg (header_nonempty length), if_neg (not_not_intro length)]
  rfl

/-- A whole payload is read and parsed. -/
theorem extractNextEntry_complete {data : List UInt8} (ready : reader.inputStream.Ready)
    (layout : reader.inputStream.rest = header ++ (data ++ after))
    (length : header.length = headerSize)
    {type : EntryType} (type_eq : EntryType.ofRaw? (entryTypeRaw header) = some type)
    (reserve_eq : reserve host (dataSize header) = .ok ())
    (size : (data.length : Int) = (dataSize header).toInt) :
    extractNextEntry host reader =
      (.ok ⟨receivedTime header, parsePayload host type data⟩,
        (reader.pastHeader type).withStream
          ((reader.pastHeader type).inputStream.advance data.length)) := by
  have payload : (reader.pastHeader type).inputStream.rest = data ++ after :=
    LogReader.rest_advance_header layout length
  have ready' : (reader.pastHeader type).inputStream.Ready := ready.advance headerSize
  have taken := ready'.read_append payload
  rw [show data.length = (dataSize header).toInt.toNat by omega] at taken
  rw [extractNextEntry_granted host ready layout length type_eq reserve_eq taken,
    if_neg (not_not_intro size), show (dataSize header).toInt.toNat = data.length by omega]

/-- A payload that the log does not hold in full exhausts the stream. -/
theorem extractNextEntry_truncated (ready : reader.inputStream.Ready)
    (layout : reader.inputStream.rest = header ++ after) (length : header.length = headerSize)
    {type : EntryType} (type_eq : EntryType.ofRaw? (entryTypeRaw header) = some type)
    (reserve_eq : reserve host (dataSize header) = .ok ())
    (short : after.length < (dataSize header).toInt.toNat) :
    ∃ stream : InputStream, stream.Exhausted ∧
      extractNextEntry host reader = (.ok {}, (reader.pastHeader type).withStream stream) := by
  have payload : (reader.pastHeader type).inputStream.rest = after :=
    LogReader.rest_advance_header layout length
  have ready' : (reader.pastHeader type).inputStream.Ready := ready.advance headerSize
  have taken := ready'.read_short (payload.symm ▸ short)
  have stopped := ready'.read_short_exhausted (payload.symm ▸ short)
  have differs : (after.length : Int) ≠ (dataSize header).toInt := by omega
  refine ⟨_, stopped, ?_⟩
  rw [extractNextEntry_granted host ready layout length type_eq reserve_eq taken, payload,
    if_pos differs, taken, payload]

end Header

/-- Every call on a ready stream is one of the five outcomes. -/
theorem extractNextEntry_cases {reader : LogReader} (ready : reader.inputStream.Ready) :
    Extraction host reader (extractNextEntry host reader) := by
  by_cases short : reader.inputStream.rest.length < headerSize
  · rw [extractNextEntry_short host ready short]
    exact .endOfLog short (ready.read_short_exhausted short)
  obtain ⟨header, after, layout, length⟩ :
      ∃ header after, reader.inputStream.rest = header ++ after ∧ header.length = headerSize :=
    ⟨_, _, (List.take_append_drop headerSize _).symm,
      List.length_take_of_le (Nat.le_of_not_lt short)⟩
  cases type_eq : EntryType.ofRaw? (entryTypeRaw header) with
  | none =>
      rw [extractNextEntry_unrecognised host ready layout length type_eq]
      exact .unrecognised layout length type_eq
  | some type =>
      cases reserve_eq : reserve host (dataSize header) with
      | error exception =>
          rw [extractNextEntry_refused host ready layout length type_eq reserve_eq]
          exact .refused layout length type_eq reserve_eq
      | ok granted =>
          have nonneg := nonneg_of_reserve host reserve_eq
          by_cases shortPayload : after.length < (dataSize header).toInt.toNat
          · obtain ⟨stream, exhausted, result⟩ := extractNextEntry_truncated host ready layout
              length type_eq reserve_eq shortPayload
            rw [result]
            exact .truncated layout length type_eq reserve_eq shortPayload exhausted
          · obtain ⟨data, behind, rfl, dataLength⟩ : ∃ data behind,
                after = data ++ behind ∧ data.length = (dataSize header).toInt.toNat :=
              ⟨_, _, (List.take_append_drop _ _).symm,
                List.length_take_of_le (Nat.le_of_not_lt shortPayload)⟩
            have size : (data.length : Int) = (dataSize header).toInt := by omega
            rw [extractNextEntry_complete host ready layout length type_eq reserve_eq size]
            exact .complete layout length type_eq reserve_eq size

end Extraction

end SslRosBridge.Log2bag
