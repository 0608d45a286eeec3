import Mathlib.Algebra.Order.Group.Int
import SslRosBridge.Library.ByteOrder
import SslRosBridge.Library.InputStream

/-!
# The SSL log reader

`LogReader` of `log_reader.hpp` and `log_reader.cpp`.  The protobuf parsers are
arbitrary partial functions on bytes and the allocator may refuse any request;
both are carried by a `Host`.  A reader keeps the stream it reads from, so the
stream left behind by an exception is part of every result.
-/

namespace SslRosBridge.Log2bag

open Library Library.ByteOrder

inductive EntryType where
  | blank
  | unknown
  | vision2010
  | refbox2013
  | vision2014
  | visionTracker2020
  | index2021
  deriving DecidableEq, Repr

namespace EntryType

/-- The enumerator's value in the log. -/
def value : EntryType → Int32
  | .blank => 0
  | .unknown => 1
  | .vision2010 => 2
  | .refbox2013 => 3
  | .vision2014 => 4
  | .visionTracker2020 => 5
  | .index2021 => 6

/-- The range check on the raw type followed by the cast to the enumeration. -/
def ofRaw? (raw : Int32) : Option EntryType :=
  if raw < 0 || raw > 6 then none
  else
    match raw.toInt.toNat with
    | 0 => some .blank
    | 1 => some .unknown
    | 2 => some .vision2010
    | 3 => some .refbox2013
    | 4 => some .vision2014
    | 5 => some .visionTracker2020
    | _ => some .index2021

@[simp] theorem ofRaw?_value (type : EntryType) : ofRaw? type.value = some type := by
  cases type <;> decide

/-- A raw type is recognised exactly when it is an enumerator's value. -/
theorem ofRaw?_eq_some_iff (raw : Int32) (type : EntryType) :
    ofRaw? raw = some type ↔ raw = type.value := by
  constructor
  · intro recognised
    unfold ofRaw? at recognised
    split at recognised
    · cases recognised
    · next inRange =>
      simp only [Bool.or_eq_true, decide_eq_true_eq, not_or, gt_iff_lt, Int32.lt_iff_toInt_lt,
        Int.not_lt, Int32.reduceToInt] at inRange
      apply Int32.toInt_inj.mp
      split at recognised <;> cases recognised <;>
        simp only [value, Int32.reduceToInt, imp_false] at * <;> omega
  · rintro rfl
    exact ofRaw?_value type

/-- The raw types that are recognised are those from 0 to 6. -/
theorem isSome_ofRaw? (raw : Int32) :
    (ofRaw? raw).isSome ↔ 0 ≤ raw.toInt ∧ raw.toInt ≤ 6 := by
  unfold ofRaw?
  split
  · next outside =>
    simp only [Bool.or_eq_true, decide_eq_true_eq, gt_iff_lt, Int32.lt_iff_toInt_lt,
      Int32.reduceToInt] at outside
    simp only [Option.isSome_none, Bool.false_eq_true, false_iff]
    omega
  · next inside =>
    simp only [Bool.or_eq_true, decide_eq_true_eq, not_or, gt_iff_lt, Int32.lt_iff_toInt_lt,
      Int.not_lt, Int32.reduceToInt] at inside
    split <;> simp <;> omega

end EntryType

/-- `std::variant<std::monostate, Referee, SSL_WrapperPacket>`. -/
inductive Message (Referee Wrapper : Type) where
  | monostate
  | referee (message : Referee)
  | wrapperPacket (message : Wrapper)
  deriving DecidableEq, Repr

structure LogEntry (Referee Wrapper : Type) where
  receivedTimeNs : Int64 := 0
  message : Message Referee Wrapper := .monostate
  deriving DecidableEq

/-- What the reader calls outside its own code. -/
structure Host (Referee Wrapper : Type) where
  parseReferee : List UInt8 → Option Referee
  parseWrapper : List UInt8 → Option Wrapper
  allocates : Nat → Bool

inductive StdException where
  | lengthError
  | badAlloc
  deriving DecidableEq, Repr

structure LogReader where
  inputStream : InputStream
  entryTypeCounts : EntryType → Nat

namespace LogReader

/-- `entry_type_counts[entry_type]++`. -/
def count (reader : LogReader) (type : EntryType) : LogReader :=
  { reader with
    entryTypeCounts := fun other =>
      if other = type then reader.entryTypeCounts type + 1 else reader.entryTypeCounts other }

def withStream (reader : LogReader) (stream : InputStream) : LogReader :=
  { reader with inputStream := stream }

@[simp] theorem inputStream_count (reader : LogReader) (type : EntryType) :
    (reader.count type).inputStream = reader.inputStream := rfl

@[simp] theorem inputStream_withStream (reader : LogReader) (stream : InputStream) :
    (reader.withStream stream).inputStream = stream := rfl

end LogReader

def headerSize : Nat := 16

def expectedHeader : List UInt8 :=
  [0x53, 0x53, 0x4C, 0x5F, 0x4C, 0x4F, 0x47, 0x5F, 0x46, 0x49, 0x4C, 0x45, 0, 0, 0, 1]

/-- The constructor: the file header is checked and every count starts at zero. -/
def openLog (input : InputStream) : Except String LogReader :=
  match input.read headerSize with
  | (headerBuffer, stream) =>
      if headerBuffer.length ≠ headerSize then
        .error "Not enough bytes for a valid header"
      else if headerBuffer ≠ expectedHeader then
        .error "Unsupported file format based on header bytes."
      else
        .ok ⟨stream, fun _ => 0⟩

/-! ## Fields of an entry header -/

def int32At (buffer : List UInt8) (stop : Nat) : Int32 :=
  .ofBitVec (.ofNat 32 (littleEndianValue (reversedSlice buffer stop 4)))

def int64At (buffer : List UInt8) (stop : Nat) : Int64 :=
  .ofBitVec (.ofNat 64 (littleEndianValue (reversedSlice buffer stop 8)))

def entryTypeRaw (headerBuffer : List UInt8) : Int32 := int32At headerBuffer 12

def receivedTime (headerBuffer : List UInt8) : Int64 := int64At headerBuffer 8

def dataSize (headerBuffer : List UInt8) : Int32 := int32At headerBuffer 16

/-! ## One entry -/

/-- The largest size of a vector of characters. -/
def vectorMaxSize : Nat := 2 ^ 63 - 1

section Reading

variable {Referee Wrapper : Type} (host : Host Referee Wrapper)

/-- `data.reserve(data_size)`, which converts the signed size to `size_t`. -/
def reserve (size : Int32) : Except StdException Unit :=
  let capacity := (size.toInt % 2 ^ 64).toNat
  if vectorMaxSize < capacity then .error .lengthError
  else if capacity = 0 || host.allocates capacity then .ok ()
  else .error .badAlloc

/-- The switch over the entry type. -/
def parsePayload (type : EntryType) (data : List UInt8) : Message Referee Wrapper :=
  match type with
  | .refbox2013 =>
      match host.parseReferee data with
      | none => .monostate
      | some message => .referee message
  | .vision2014 =>
      match host.parseWrapper data with
      | none => .monostate
      | some message => .wrapperPacket message
  | _ => .monostate

def extractNextEntry (reader : LogReader) :
    Except StdException (LogEntry Referee Wrapper) × LogReader :=
  match reader.inputStream.read headerSize with
  | (headerBuffer, stream) =>
    let reader := reader.withStream stream
    if headerBuffer.length = 0 then (.ok {}, reader)
    else if headerBuffer.length ≠ headerSize then (.ok {}, reader)
    else
      match EntryType.ofRaw? (entryTypeRaw headerBuffer) with
      -- an unrecognised type returns before the payload is read
      | none => (.ok {}, reader)
      | some type =>
        let reader := reader.count type
        match reserve host (dataSize headerBuffer) with
        | .error exception => (.error exception, reader)
        | .ok () =>
          match reader.inputStream.read (dataSize headerBuffer).toInt.toNat with
          | (data, stream) =>
            let reader := reader.withStream stream
            if (data.length : Int) ≠ (dataSize headerBuffer).toInt then (.ok {}, reader)
            else (.ok ⟨receivedTime headerBuffer, parsePayload host type data⟩, reader)

/--
`GetNextMessage`, whose loop runs until the stream reports its end.  `none`
stands for a loop that is still running when the fuel is used up; otherwise
the result is the returned optional.
-/
def getNextMessage :
    Nat → LogReader → Option (Option (LogEntry Referee Wrapper) × LogReader)
  | 0, _ => none
  | fuel + 1, reader =>
      if reader.inputStream.eof then some (none, reader)
      else
        match extractNextEntry host reader with
        | (.ok entry, reader) =>
            match entry.message with
            | .monostate => getNextMessage fuel reader
            | _ => some (some entry, reader)
        | (.error _, reader) => some (none, reader)

end Reading

end SslRosBridge.Log2bag
