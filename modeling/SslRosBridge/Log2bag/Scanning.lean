import SslRosBridge.Library.Scanner
import SslRosBridge.Log2bag.EntryCounts
import SslRosBridge.Log2bag.TruncatedLog

/-!
# A log as a sequence of entries

The bytes behind the file header, of whatever kind, stand for the entries that
an incremental scanner takes from them.  The stateful reader and the conversion
loop produce exactly what this scan says.
-/

namespace SslRosBridge.Log2bag

open Library

/-- An entry of a known type whose payload is there in full. -/
structure ScannedEntry where
  type : EntryType
  time : Int64
  payload : List UInt8
  deriving DecidableEq

section Scanning

variable {Referee Wrapper : Type} (host : Host Referee Wrapper)

/-- What stands at the front of the bytes. -/
def scanEntry (bytes : List UInt8) : Scan UInt8 ScannedEntry :=
  if bytes.length < headerSize then .waits
  else
    match headerType? bytes with
    | none => .takes none (bytes.drop headerSize)
    | some type =>
      match reserve host (payloadSize bytes) with
      | .error _ => .halts
      | .ok () =>
        let size := (payloadSize bytes).toInt.toNat
        let behind := bytes.drop headerSize
        if behind.length < size then .waits
        else .takes (some ⟨type, receivedTime (bytes.take headerSize), behind.take size⟩)
          (behind.drop size)

section Header

variable {header after : List UInt8} (length : header.length = headerSize)

include length

theorem scanEntry_unrecognised (type_eq : EntryType.ofRaw? (entryTypeRaw header) = none) :
    scanEntry host (header ++ after) = .takes none after := by
  have unknown := (headerType?_append length after).trans type_eq
  rw [scanEntry, if_neg (Nat.not_lt.mpr (whole_append length after))]
  simp only [unknown, List.drop_left' length]

variable {type : EntryType} (type_eq : EntryType.ofRaw? (entryTypeRaw header) = some type)

include type_eq

theorem scanEntry_refused {exception : StdException}
    (reserve_eq : reserve host (dataSize header) = .error exception) :
    scanEntry host (header ++ after) = .halts := by
  have known := (headerType?_append length after).trans type_eq
  rw [scanEntry, if_neg (Nat.not_lt.mpr (whole_append length after))]
  simp only [known, payloadSize_append length, reserve_eq]

theorem scanEntry_truncated (reserve_eq : reserve host (dataSize header) = .ok ())
    (short : after.length < (dataSize header).toInt.toNat) :
    scanEntry host (header ++ after) = .waits := by
  have known := (headerType?_append length after).trans type_eq
  rw [scanEntry, if_neg (Nat.not_lt.mpr (whole_append length after))]
  simp only [known, payloadSize_append length, reserve_eq, List.drop_left' length, if_pos short]

theorem scanEntry_complete {data : List UInt8}
    (reserve_eq : reserve host (dataSize header) = .ok ())
    (size : (data.length : Int) = (dataSize header).toInt) :
    scanEntry host (header ++ (data ++ after)) =
      .takes (some ⟨type, receivedTime header, data⟩) after := by
  have known := (headerType?_append length (data ++ after)).trans type_eq
  have count : (dataSize header).toInt.toNat = data.length := by omega
  have present : ¬ (data ++ after).length < data.length := by
    rw [List.length_append]
    omega
  rw [scanEntry, if_neg (Nat.not_lt.mpr (whole_append length _))]
  simp only [known, payloadSize_append length, reserve_eq, List.drop_left' length,
    List.take_left' length, count, if_neg present, List.take_left, List.drop_left]

end Header

/-- The ways in which bytes are scanned, with the layout that each of them found. -/
inductive Scanning : List UInt8 → Scan UInt8 ScannedEntry → Prop where
  | short {bytes : List UInt8} (short : bytes.length < headerSize) : Scanning bytes .waits
  | unrecognised {header after : List UInt8} (length : header.length = headerSize)
      (type_eq : EntryType.ofRaw? (entryTypeRaw header) = none) :
      Scanning (header ++ after) (.takes none after)
  | refused {header after : List UInt8} {type : EntryType} {exception : StdException}
      (length : header.length = headerSize)
      (type_eq : EntryType.ofRaw? (entryTypeRaw header) = some type)
      (reserve_eq : reserve host (dataSize header) = .error exception) :
      Scanning (header ++ after) .halts
  | truncated {header after : List UInt8} {type : EntryType} (length : header.length = headerSize)
      (type_eq : EntryType.ofRaw? (entryTypeRaw header) = some type)
      (reserve_eq : reserve host (dataSize header) = .ok ())
      (short : after.length < (dataSize header).toInt.toNat) :
      Scanning (header ++ after) .waits
  | complete {header data after : List UInt8} {type : EntryType}
      (length : header.length = headerSize)
      (type_eq : EntryType.ofRaw? (entryTypeRaw header) = some type)
      (reserve_eq : reserve host (dataSize header) = .ok ())
      (size : (data.length : Int) = (dataSize header).toInt) :
      Scanning (header ++ (data ++ after)) (.takes (some ⟨type, receivedTime header, data⟩) after)

theorem scanning (bytes : List UInt8) : Scanning host bytes (scanEntry host bytes) := by
  by_cases short : bytes.length < headerSize
  · rw [scanEntry, if_pos short]
    exact .short short
  obtain ⟨header, after, rfl, length⟩ :
      ∃ header after, bytes = header ++ after ∧ header.length = headerSize :=
    ⟨_, _, (List.take_append_drop headerSize bytes).symm,
      List.length_take_of_le (Nat.le_of_not_lt short)⟩
  cases type_eq : EntryType.ofRaw? (entryTypeRaw header) with
  | none =>
      rw [scanEntry_unrecognised host length type_eq]
      exact .unrecognised length type_eq
  | some type =>
      cases reserve_eq : reserve host (dataSize header) with
      | error exception =>
          rw [scanEntry_refused host length type_eq reserve_eq]
          exact .refused length type_eq reserve_eq
      | ok granted =>
          by_cases shortPayload : after.length < (dataSize header).toInt.toNat
          · rw [scanEntry_truncated host length type_eq reserve_eq shortPayload]
            exact .truncated length type_eq reserve_eq shortPayload
          · obtain ⟨data, behind, rfl, dataLength⟩ : ∃ data behind,
                after = data ++ behind ∧ data.length = (dataSize header).toInt.toNat :=
              ⟨_, _, (List.take_append_drop _ _).symm,
                List.length_take_of_le (Nat.le_of_not_lt shortPayload)⟩
            have nonneg := nonneg_of_reserve host reserve_eq
            have size : (data.length : Int) = (dataSize header).toInt := by omega
            rw [scanEntry_complete host length type_eq reserve_eq size]
            exact .complete length type_eq reserve_eq size

theorem length_lt_of_scanEntry {input after : List UInt8} {output : Option ScannedEntry}
    (takes : scanEntry host input = .takes output after) : after.length < input.length := by
  have found := scanning host input
  rw [takes] at found
  cases found with
  | unrecognised length type_eq => simp [length, headerSize]
  | complete length type_eq reserve_eq size =>
      simp [length, headerSize]
      omega

theorem scanEntry_takes_append {input after : List UInt8} {output : Option ScannedEntry}
    (more : List UInt8) (takes : scanEntry host input = .takes output after) :
    scanEntry host (input ++ more) = .takes output (after ++ more) := by
  have found := scanning host input
  rw [takes] at found
  cases found with
  | unrecognised length type_eq =>
      rw [List.append_assoc]
      exact scanEntry_unrecognised host length type_eq
  | complete length type_eq reserve_eq size =>
      rw [List.append_assoc, List.append_assoc]
      exact scanEntry_complete host length type_eq reserve_eq size

theorem scanEntry_halts_append {input : List UInt8} (more : List UInt8)
    (halts : scanEntry host input = .halts) : scanEntry host (input ++ more) = .halts := by
  have found := scanning host input
  rw [halts] at found
  cases found with
  | refused length type_eq reserve_eq =>
      rw [List.append_assoc]
      exact scanEntry_refused host length type_eq reserve_eq

/-- The scanner of the bytes behind a file header. -/
def logScanner : Scanner UInt8 ScannedEntry where
  scan := scanEntry host
  shorter := length_lt_of_scanEntry host
  takes_append := scanEntry_takes_append host
  halts_append := scanEntry_halts_append host

theorem logScanner_scan : (logScanner host).scan = scanEntry host := rfl

/-- The entry as `GetNextMessage` would deliver it. -/
def ScannedEntry.logEntry (entry : ScannedEntry) : LogEntry Referee Wrapper :=
  ⟨entry.time, parsePayload host entry.type entry.payload⟩

/-- The bytes that are left over may start with a header that was counted, in
front of a payload that is refused or cut off. -/
def unreadHeader (leftover : List UInt8) (type : EntryType) : Nat :=
  if headerSize ≤ leftover.length ∧ headerType? leftover = some type then 1 else 0

/-- The headers of a type that a scan has come across. -/
def headersOf (scanned : Scanned UInt8 ScannedEntry) (type : EntryType) : Nat :=
  scanned.outputs.countP (fun entry => entry.type = type) + unreadHeader scanned.leftover type

theorem headersOf_nil (bytes : List UInt8) (halted : Bool) (type : EntryType) :
    headersOf ⟨[], bytes, halted⟩ type = unreadHeader bytes type := Nat.zero_add _

theorem headersOf_prepend (scanned : Scanned UInt8 ScannedEntry) (earlier : List ScannedEntry)
    (type : EntryType) :
    headersOf (scanned.prepend earlier) type =
      earlier.countP (fun entry => entry.type = type) + headersOf scanned type := by
  unfold headersOf
  rw [Scanned.outputs_prepend, List.countP_append]
  exact Nat.add_assoc _ _ _

theorem unreadHeader_short {bytes : List UInt8} (short : bytes.length < headerSize)
    (type : EntryType) : unreadHeader bytes type = 0 :=
  if_neg fun counted => absurd counted.1 (Nat.not_le.mpr short)

theorem unreadHeader_append {header : List UInt8} (after : List UInt8)
    (length : header.length = headerSize) {type : EntryType}
    (type_eq : EntryType.ofRaw? (entryTypeRaw header) = some type) (other : EntryType) :
    unreadHeader (header ++ after) other = if other = type then 1 else 0 := by
  simp only [unreadHeader, whole_append length after, true_and, headerType?_append length after,
    type_eq, Option.some.injEq, @eq_comm _ type]

section Converting

variable {RosReferee RosWrapper : Type}
variable (fromProto : FromProto Referee Wrapper RosReferee RosWrapper)

/-- The message that a scanned entry contributes to the bag. -/
def ScannedEntry.bagMessage? (entry : ScannedEntry) : Option (BagMessage RosReferee RosWrapper) :=
  match entry.type with
  | .refbox2013 =>
      (host.parseReferee entry.payload).map fun message =>
        { content := .referee (fromProto.referee message)
          topic := "/referee_messages"
          typeName := "ssl_league_msgs/msg/Referee"
          time := entry.time }
  | .vision2014 =>
      (host.parseWrapper entry.payload).map fun message =>
        { content := .visionWrapper (fromProto.wrapperPacket message)
          topic := "/vision_messages"
          typeName := "ssl_league_msgs/msg/VisionWrapper"
          time := entry.time }
  | _ => none

theorem writeEntry_scanned (entry : ScannedEntry) (bag : List (BagMessage RosReferee RosWrapper)) :
    writeEntry fromProto (entry.logEntry host) bag =
      bag ++ (entry.bagMessage? host fromProto).toList := by
  obtain ⟨type, time, payload⟩ := entry
  cases type with
  | refbox2013 =>
      cases parsed : host.parseReferee payload <;>
        simp [ScannedEntry.bagMessage?, parsed, ScannedEntry.logEntry, parsePayload, writeEntry,
          writeMessageIfExists, Message.referee?, Message.wrapperPacket?]
  | vision2014 =>
      cases parsed : host.parseWrapper payload <;>
        simp [ScannedEntry.bagMessage?, parsed, ScannedEntry.logEntry, parsePayload, writeEntry,
          writeMessageIfExists, Message.referee?, Message.wrapperPacket?]
  | _ =>
      simp [ScannedEntry.bagMessage?, ScannedEntry.logEntry, parsePayload, writeEntry,
        writeMessageIfExists, Message.referee?, Message.wrapperPacket?]

/-- A skipped entry contributes nothing. -/
theorem ScannedEntry.bagMessage?_skipped {entry : ScannedEntry}
    (skipped : (entry.logEntry host).skipped) : entry.bagMessage? host fromProto = none := by
  have written := writeEntry_scanned host fromProto entry []
  have monostate : (entry.logEntry host).message = .monostate := skipped
  simp only [writeEntry, writeMessageIfExists, monostate, Message.referee?, Message.wrapperPacket?,
    List.nil_append] at written
  exact Option.toList_eq_nil_iff.mp written.symm

/-- The loop ends with the messages and the headers of a scan added. -/
def AddsScan (logFileSize : Nat) (reader : LogReader) (done : Conversion RosReferee RosWrapper)
    (scanned : Scanned UInt8 ScannedEntry) : Prop :=
  ∃ result, Converts host fromProto logFileSize reader done result ∧
    result.1.bag = done.bag ++
      scanned.outputs.filterMap (ScannedEntry.bagMessage? host fromProto) ∧
    ∀ type, result.2.entryTypeCounts type = reader.entryTypeCounts type + headersOf scanned type

section Entry

variable {host fromProto}
variable {logFileSize : Nat} {reader : LogReader} {done : Conversion RosReferee RosWrapper}

/-- The loop ends at bytes that are left over. -/
theorem AddsScan.ends {next : LogReader} {leftover : List UInt8} {halted : Bool}
    (converts : Converts host fromProto logFileSize reader done (done, next))
    (counts : ∀ type, next.entryTypeCounts type =
      reader.entryTypeCounts type + unreadHeader leftover type) :
    AddsScan host fromProto logFileSize reader done ⟨[], leftover, halted⟩ := by
  refine ⟨_, converts, (List.append_nil _).symm, ?_⟩
  intro type
  rw [headersOf_nil]
  exact counts type

/-- An entry that is read in full comes before what the loop adds behind it. -/
theorem AddsScan.complete {entry : ScannedEntry} {next : LogReader}
    {scanned : Scanned UInt8 ScannedEntry} (nonempty : logFileSize ≠ 0)
    (ready : reader.inputStream.Ready)
    (extracted : extractNextEntry host reader = (.ok (entry.logEntry host), next))
    (counted : ∀ other, next.entryTypeCounts other =
      reader.entryTypeCounts other + if other = entry.type then 1 else 0)
    (adds : ∀ done, AddsScan host fromProto logFileSize next done scanned) :
    AddsScan host fromProto logFileSize reader done (scanned.prepend [entry]) := by
  have headers : ∀ other, next.entryTypeCounts other + headersOf scanned other =
      reader.entryTypeCounts other + headersOf (scanned.prepend [entry]) other := by
    intro other
    simp only [counted, headersOf_prepend, List.countP_singleton, decide_eq_true_eq,
      @eq_comm _ entry.type]
    omega
  by_cases skipped : (entry.logEntry host).skipped
  · obtain ⟨result, converts, bag, counts⟩ := adds done
    have nothing : entry.bagMessage? host fromProto = none :=
      ScannedEntry.bagMessage?_skipped host fromProto skipped
    refine ⟨result, converts.skip host fromProto ready extracted skipped, bag.trans ?_,
      fun other => (counts other).trans (headers other)⟩
    exact congrArg (done.bag ++ ·) (List.filterMap_cons_none nothing).symm
  · obtain ⟨bar, rendered⟩ := renderProgressBar_isSome nonempty (bytesRead next.inputStream)
    obtain ⟨result, converts, bag, counts⟩ := adds
      { bag := writeEntry fromProto (entry.logEntry host) done.bag
        console := done.console ++ [bar] }
    refine ⟨result,
      .write 1 (getNextMessage_deliver host ready.eof_eq extracted skipped 0) rendered
        converts, ?_, fun other => (counts other).trans (headers other)⟩
    rw [bag, writeEntry_scanned host fromProto]
    cases message : entry.bagMessage? host fromProto <;> simp [message]

end Entry

/--
The loop writes what the scan of the remaining bytes puts out, and counts the
headers that it comes across.
-/
theorem converts_scan {logFileSize : Nat} (nonempty : logFileSize ≠ 0) (bytes : List UInt8)
    {reader : LogReader} (ready : reader.inputStream.Ready)
    (layout : reader.inputStream.rest = bytes) (done : Conversion RosReferee RosWrapper) :
    AddsScan host fromProto logFileSize reader done ((logScanner host).run bytes) := by
  induction bytes using (logScanner host).run_induction generalizing reader done with
  | waits bytes waits =>
      have found := scanning host bytes
      rw [show scanEntry host bytes = .waits from waits] at found
      rw [(logScanner host).run_waits waits]
      cases found with
      | short short =>
          rw [← layout] at short
          apply AddsScan.ends (.skip host fromProto ready
            (extractNextEntry_short host ready short) rfl
            (converts_exhausted host fromProto (ready.read_short_exhausted short) done))
          intro type
          rw [unreadHeader_short (layout ▸ short)]
          rfl
      | @truncated header after type length type_eq reserve_eq short =>
          obtain ⟨stream, exhausted, extracted⟩ :=
            extractNextEntry_truncated host ready layout length type_eq reserve_eq short
          apply AddsScan.ends (.skip host fromProto ready extracted rfl
            (converts_exhausted host fromProto exhausted done))
          intro other
          rw [unreadHeader_append after length type_eq]
          exact entryTypeCounts_pastHeader reader type other
  | halts bytes halts =>
      have found := scanning host bytes
      rw [show scanEntry host bytes = .halts from halts] at found
      rw [(logScanner host).run_halts halts]
      cases found with
      | @refused header after type exception length type_eq reserve_eq =>
          have extracted := extractNextEntry_refused host ready layout length type_eq reserve_eq
          apply AddsScan.ends (.stop 1 (getNextMessage_error host ready.eof_eq extracted 0))
          intro other
          rw [unreadHeader_append after length type_eq]
          exact entryTypeCounts_pastHeader reader type other
  | takes bytes output behind takes ih =>
      have found := scanning host bytes
      rw [show scanEntry host bytes = .takes output behind from takes] at found
      rw [(logScanner host).run_takes takes]
      cases found with
      | unrecognised length type_eq =>
          obtain ⟨result, converts, bag, counts⟩ := @ih (reader.withStream _)
            (ready.advance headerSize) (LogReader.rest_advance_header layout length) done
          have extracted := extractNextEntry_unrecognised host ready layout length type_eq
          exact ⟨result, converts.skip host fromProto ready extracted rfl, bag, counts⟩
      | @complete header data after type length type_eq reserve_eq size =>
          have ready' := LogReader.ready_pastPayload ready type data.length
          have rest' := LogReader.rest_pastPayload layout length type
          let entry : ScannedEntry := ⟨type, receivedTime header, data⟩
          have extracted : extractNextEntry host reader =
              (.ok (entry.logEntry host), reader.pastPayload type data.length) :=
            extractNextEntry_complete host ready layout length type_eq reserve_eq size
          exact AddsScan.complete nonempty ready extracted
            (entryTypeCounts_pastHeader reader type) (ih ready' rest')

end Converting

end Scanning

end SslRosBridge.Log2bag
