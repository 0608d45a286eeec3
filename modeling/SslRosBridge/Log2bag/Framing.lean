import SslRosBridge.Log2bag.Messages

/-!
# Well-framed entries

An entry of a well-framed log and its bytes: receive time, type and payload
length as big-endian words, then the payload.  The reader recovers every field
of such a header.
-/

namespace SslRosBridge.Log2bag

open Library Library.ByteOrder

/-- An entry whose payload length fits the length field. -/
structure FramedEntry where
  time : Int64
  type : Int32
  payload : List UInt8
  small : payload.length < 2 ^ 31

namespace FramedEntry

def header (entry : FramedEntry) : List UInt8 :=
  bigEndianBytes 8 entry.time.toBitVec.toNat ++
    (bigEndianBytes 4 entry.type.toBitVec.toNat ++ bigEndianBytes 4 entry.payload.length)

def encode (entry : FramedEntry) : List UInt8 := entry.header ++ entry.payload

@[simp] theorem length_header (entry : FramedEntry) : entry.header.length = headerSize := by
  simp [header, headerSize]

@[simp] theorem length_encode (entry : FramedEntry) :
    entry.encode.length = headerSize + entry.payload.length := by
  simp [encode]

theorem receivedTime_header (entry : FramedEntry) : receivedTime entry.header = entry.time := by
  have bound := entry.time.toBitVec.isLt
  have value := littleEndianValue_reversedSlice []
    (bigEndianBytes 4 entry.type.toBitVec.toNat ++ bigEndianBytes 4 entry.payload.length)
    8 8 entry.time.toBitVec.toNat rfl
  simp only [List.nil_append] at value
  unfold receivedTime int64At header
  rw [value, Nat.mod_eq_of_lt (by omega), BitVec.ofNat_toNat, BitVec.setWidth_eq,
    Int64.ofBitVec_toBitVec]

theorem entryTypeRaw_header (entry : FramedEntry) : entryTypeRaw entry.header = entry.type := by
  have bound := entry.type.toBitVec.isLt
  have value := littleEndianValue_reversedSlice (bigEndianBytes 8 entry.time.toBitVec.toNat)
    (bigEndianBytes 4 entry.payload.length) 12 4 entry.type.toBitVec.toNat
    (by simp)
  unfold entryTypeRaw int32At header
  rw [value, Nat.mod_eq_of_lt (by omega), BitVec.ofNat_toNat, BitVec.setWidth_eq,
    Int32.ofBitVec_toBitVec]

theorem dataSize_header (entry : FramedEntry) :
    (dataSize entry.header).toInt = entry.payload.length := by
  have bound := entry.small
  have value := littleEndianValue_reversedSlice
    (bigEndianBytes 8 entry.time.toBitVec.toNat ++ bigEndianBytes 4 entry.type.toBitVec.toNat) []
    16 4 entry.payload.length (by simp)
  simp only [List.append_nil, List.append_assoc] at value
  unfold dataSize int32At header
  rw [value, Nat.mod_eq_of_lt (by omega)]
  change (BitVec.ofNat 32 entry.payload.length).toInt = entry.payload.length
  rw [BitVec.toInt_eq_toNat_of_lt (by rw [BitVec.toNat_ofNat]; omega), BitVec.toNat_ofNat]
  omega

end FramedEntry

def encodeEntries (entries : List FramedEntry) : List UInt8 :=
  entries.flatMap FramedEntry.encode

@[simp] theorem encodeEntries_nil : encodeEntries [] = [] := rfl

@[simp] theorem encodeEntries_cons (entry : FramedEntry) (entries : List FramedEntry) :
    encodeEntries (entry :: entries) = entry.encode ++ encodeEntries entries := rfl

/-- A whole log: the file header and its entries. -/
def encodeLog (entries : List FramedEntry) : List UInt8 := expectedHeader ++ encodeEntries entries

section Reading

variable {Referee Wrapper : Type} (host : Host Referee Wrapper)

/-- The entry as the reader delivers it once its payload has been read. -/
def FramedEntry.logEntry (entry : FramedEntry) (type : EntryType) : LogEntry Referee Wrapper :=
  ⟨entry.time, parsePayload host type entry.payload⟩

/-- The allocator grants the payload; an empty payload needs no memory. -/
def FramedEntry.granted (entry : FramedEntry) : Prop :=
  entry.payload = [] ∨ host.allocates entry.payload.length = true

theorem FramedEntry.reserve_header {entry : FramedEntry} (granted : entry.granted host) :
    reserve host (dataSize entry.header) = .ok () := by
  have size := entry.dataSize_header
  rw [reserve_of_nonneg host (by omega), size, Int.toNat_natCast]
  rcases granted with empty | granted
  · simp [empty]
  · simp [granted]

/-- The reader behind a well-framed entry. -/
def LogReader.pastEntry (reader : LogReader) (type : EntryType) (entry : FramedEntry) :
    LogReader :=
  (reader.pastHeader type).withStream
    ((reader.pastHeader type).inputStream.advance entry.payload.length)

theorem LogReader.rest_pastEntry {reader : LogReader} {entry : FramedEntry} {after : List UInt8}
    (layout : reader.inputStream.rest = entry.encode ++ after) (type : EntryType) :
    (reader.pastEntry type entry).inputStream.rest = after := by
  rw [FramedEntry.encode, List.append_assoc] at layout
  exact LogReader.rest_pastPayload layout entry.length_header type

theorem LogReader.ready_pastEntry {reader : LogReader} (ready : reader.inputStream.Ready)
    (type : EntryType) (entry : FramedEntry) :
    (reader.pastEntry type entry).inputStream.Ready :=
  LogReader.ready_pastPayload ready type entry.payload.length

/-- A well-framed entry of a recognised type is read whole. -/
theorem extractNextEntry_framed {reader : LogReader} (ready : reader.inputStream.Ready)
    {entry : FramedEntry} {after : List UInt8} {type : EntryType}
    (layout : reader.inputStream.rest = entry.encode ++ after)
    (type_eq : EntryType.ofRaw? entry.type = some type) (granted : entry.granted host) :
    extractNextEntry host reader =
      (.ok (entry.logEntry host type), reader.pastEntry type entry) := by
  have whole : reader.inputStream.rest = entry.header ++ (entry.payload ++ after) := by
    rw [layout, FramedEntry.encode, List.append_assoc]
  have result := extractNextEntry_complete host ready whole entry.length_header
    (by rw [entry.entryTypeRaw_header, type_eq]) (entry.reserve_header host granted)
    entry.dataSize_header.symm
  rw [result, entry.receivedTime_header]
  rfl

end Reading

/-- Varints of the field number 3, which a wrapper packet does not know, each of
one byte. -/
def unknownFields : List UInt8 → Bool
  | [] => true
  | tag :: value :: rest => tag = 0x18 && value < 128 && unknownFields rest
  | _ => false

/-- The host of the concrete runs, where all fields of a packet are unknown.  A
parsed wrapper packet is its bytes, a referee message lacks its required fields,
and every allocation is granted. -/
def byteHost : Host (List UInt8) (List UInt8) where
  parseReferee := fun _ => none
  parseWrapper := fun payload => if unknownFields payload then some payload else none
  allocates := fun _ => true

end SslRosBridge.Log2bag
