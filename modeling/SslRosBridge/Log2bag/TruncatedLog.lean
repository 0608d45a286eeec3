import SslRosBridge.Log2bag.Framing
import SslRosBridge.Log2bag.Rounds

/-!
# Converting a log that is cut off

The conversion of the first bytes of a well-framed log writes one message for
each delivered entry that lies in them completely.
-/

namespace SslRosBridge.Log2bag

open Library

section Converting

variable {Referee Wrapper RosReferee RosWrapper : Type}
variable (host : Host Referee Wrapper)
variable (fromProto : FromProto Referee Wrapper RosReferee RosWrapper)

/-! ## What the bag has to hold -/

/-- The message that a complete entry contributes to the bag. -/
def FramedEntry.bagMessage? (entry : FramedEntry) : Option (BagMessage RosReferee RosWrapper) :=
  if entry.type = EntryType.refbox2013.value then
    (host.parseReferee entry.payload).map fun message =>
      { content := .referee (fromProto.referee message)
        topic := "/referee_messages"
        typeName := "ssl_league_msgs/msg/Referee"
        time := entry.time }
  else if entry.type = EntryType.vision2014.value then
    (host.parseWrapper entry.payload).map fun message =>
      { content := .visionWrapper (fromProto.wrapperPacket message)
        topic := "/vision_messages"
        typeName := "ssl_league_msgs/msg/VisionWrapper"
        time := entry.time }
  else none

/-- The entries that lie completely within the first `room` bytes. -/
def completeWithin : Nat → List FramedEntry → List FramedEntry
  | _, [] => []
  | room, entry :: entries =>
      if entry.encode.length ≤ room then
        entry :: completeWithin (room - entry.encode.length) entries
      else []

/-- Writing the delivered entry appends exactly its bag message. -/
theorem writeEntry_logEntry {entry : FramedEntry} {type : EntryType}
    (type_eq : EntryType.ofRaw? entry.type = some type)
    (bag : List (BagMessage RosReferee RosWrapper)) :
    writeEntry fromProto (entry.logEntry host type) bag =
      bag ++ (entry.bagMessage? host fromProto).toList := by
  have raw := (EntryType.ofRaw?_eq_some_iff entry.type type).mp type_eq
  cases type with
  | refbox2013 =>
      cases parsed : host.parseReferee entry.payload <;>
        simp [FramedEntry.bagMessage?, raw, parsed, FramedEntry.logEntry, parsePayload, writeEntry,
          writeMessageIfExists, Message.referee?, Message.wrapperPacket?]
  | vision2014 =>
      have other : EntryType.vision2014.value ≠ EntryType.refbox2013.value := by decide
      cases parsed : host.parseWrapper entry.payload <;>
        simp [FramedEntry.bagMessage?, raw, other, parsed, FramedEntry.logEntry, parsePayload,
          writeEntry, writeMessageIfExists, Message.referee?, Message.wrapperPacket?]
  | _ =>
      simp [FramedEntry.bagMessage?, raw, EntryType.value, FramedEntry.logEntry, parsePayload,
        writeEntry, writeMessageIfExists, Message.referee?, Message.wrapperPacket?]

/-- An entry that is stepped over contributes nothing. -/
theorem bagMessage?_of_skipped {entry : FramedEntry} {type : EntryType}
    (type_eq : EntryType.ofRaw? entry.type = some type)
    (skipped : (entry.logEntry host type).skipped) : entry.bagMessage? host fromProto = none := by
  have written := writeEntry_logEntry host fromProto type_eq []
  have monostate : (entry.logEntry host type).message = .monostate := skipped
  simp only [writeEntry, writeMessageIfExists, monostate, Message.referee?, Message.wrapperPacket?,
    List.nil_append] at written
  cases message : entry.bagMessage? host fromProto with
  | none => rfl
  | some value => simp [message] at written

/-! ## The conversion of a cut log -/

/-- An entry that is cut off is reported and ends the log. -/
theorem extractNextEntry_cut {reader : LogReader} (ready : reader.inputStream.Ready)
    {entry : FramedEntry} {type : EntryType} (type_eq : EntryType.ofRaw? entry.type = some type)
    (granted : entry.granted host) {room : Nat} (cut : room < entry.encode.length)
    (layout : reader.inputStream.rest = entry.encode.take room) :
    ∃ next : LogReader, next.inputStream.Exhausted ∧
      extractNextEntry host reader = (.ok {}, next) := by
  by_cases short : room < headerSize
  · have fewer : reader.inputStream.rest.length < headerSize := by
      rw [layout, List.length_take]
      omega
    exact ⟨_, ready.read_short_exhausted fewer, extractNextEntry_short host ready fewer⟩
  · have split : reader.inputStream.rest =
        entry.header ++ entry.payload.take (room - headerSize) := by
      rw [layout, FramedEntry.encode, List.take_append, entry.length_header,
        List.take_of_length_le (by rw [entry.length_header]; omega)]
    have missing : (entry.payload.take (room - headerSize)).length <
        (dataSize entry.header).toInt.toNat := by
      rw [entry.dataSize_header, List.length_take, Int.toNat_natCast]
      rw [entry.length_encode] at cut
      omega
    obtain ⟨stream, exhausted, result⟩ := extractNextEntry_truncated host ready split
      entry.length_header (by rw [entry.entryTypeRaw_header, type_eq])
      (entry.reserve_header host granted) missing
    exact ⟨_, exhausted, result⟩

/--
The induction over the entries.  `room` is the number of bytes of them that
the cut leaves; each complete entry takes its share of it.
-/
theorem converts_cut_entries {logFileSize : Nat} (nonempty : logFileSize ≠ 0)
    {entries : List FramedEntry}
    (known : ∀ entry ∈ entries, ∃ type, EntryType.ofRaw? entry.type = some type)
    (granted : ∀ entry ∈ entries, entry.granted host) {room : Nat} {reader : LogReader}
    (ready : reader.inputStream.Ready)
    (layout : reader.inputStream.rest = (encodeEntries entries).take room)
    (done : Conversion RosReferee RosWrapper) :
    ∃ result, Converts host fromProto logFileSize reader done result ∧
      result.1.bag =
        done.bag ++
          (completeWithin room entries).filterMap (FramedEntry.bagMessage? host fromProto) := by
  induction entries generalizing room reader done with
  | nil =>
      have empty : reader.inputStream.rest.length < headerSize := by simp [layout, headerSize]
      refine ⟨_, .skip host fromProto ready (extractNextEntry_short host ready empty) rfl
        (converts_exhausted host fromProto (ready.read_short_exhausted empty) done), ?_⟩
      simp [completeWithin]
  | cons entry entries ih =>
      obtain ⟨type, type_eq⟩ := known entry List.mem_cons_self
      have entryGranted := granted entry List.mem_cons_self
      have known' := fun other member => known other (List.mem_cons_of_mem _ member)
      have granted' := fun other member => granted other (List.mem_cons_of_mem _ member)
      by_cases fits : entry.encode.length ≤ room
      · have split : reader.inputStream.rest =
            entry.encode ++ (encodeEntries entries).take (room - entry.encode.length) := by
          rw [layout, encodeEntries_cons, List.take_append, List.take_of_length_le fits]
        have extracted := extractNextEntry_framed host ready split type_eq entryGranted
        have ready' := LogReader.ready_pastEntry ready type entry
        have rest' := LogReader.rest_pastEntry split type
        rw [completeWithin, if_pos fits, List.filterMap_cons]
        by_cases skipped : (entry.logEntry host type).skipped
        · obtain ⟨result, converts, bag⟩ := ih known' granted' ready' rest' done
          refine ⟨result, converts.skip host fromProto ready extracted skipped, ?_⟩
          rw [bagMessage?_of_skipped host fromProto type_eq skipped]
          exact bag
        · obtain ⟨bar, rendered⟩ := renderProgressBar_isSome nonempty
            (bytesRead (reader.pastEntry type entry).inputStream)
          obtain ⟨result, converts, bag⟩ := ih known' granted' ready' rest'
            { bag := writeEntry fromProto (entry.logEntry host type) done.bag
              console := done.console ++ [bar] }
          refine ⟨result,
            .write 1 (getNextMessage_deliver host ready.eof_eq extracted skipped 0) rendered
              converts, ?_⟩
          rw [bag, writeEntry_logEntry host fromProto type_eq]
          cases entry.bagMessage? host fromProto <;> simp
      · have cut : room < entry.encode.length := Nat.lt_of_not_le fits
        have partialEntry : reader.inputStream.rest = entry.encode.take room := by
          rw [layout, encodeEntries_cons, List.take_append_of_le_length (Nat.le_of_lt cut)]
        obtain ⟨next, exhausted, extracted⟩ :=
          extractNextEntry_cut host ready type_eq entryGranted cut partialEntry
        refine ⟨_, .skip host fromProto ready extracted rfl
          (converts_exhausted host fromProto exhausted done), ?_⟩
        rw [completeWithin, if_neg fits, List.filterMap_nil, List.append_nil]

/--
The first `cut` bytes of a well-framed log convert to exactly one message for
each complete entry of a translated type whose payload parses, in log order.
-/
theorem runLog2bag_cut_log (memory : ∀ size, host.allocates size = true)
    (entries : List FramedEntry)
    (types : ∀ entry ∈ entries, 0 ≤ entry.type.toInt ∧ entry.type.toInt ≤ 6) (cut : Nat)
    (low : 16 ≤ cut) (high : cut ≤ (encodeLog entries).length) :
    ∃ done reader least, ∀ fuel, least ≤ fuel →
      runLog2bag host fromProto fuel ((encodeLog entries).take cut) =
          .ok (.finished (done, reader)) ∧
        done.bag = (completeWithin (cut - 16) entries).filterMap
          (FramedEntry.bagMessage? host fromProto) := by
  have known : ∀ entry ∈ entries, ∃ type, EntryType.ofRaw? entry.type = some type :=
    fun entry member =>
      Option.isSome_iff_exists.mp ((EntryType.isSome_ofRaw? entry.type).mpr (types entry member))
  have header : expectedHeader.length = 16 := rfl
  have bytes : (encodeLog entries).take cut =
      expectedHeader ++ (encodeEntries entries).take (cut - 16) := by
    rw [encodeLog, List.take_append, header, List.take_of_length_le (by rw [header]; exact low)]
  have nonempty : ((encodeLog entries).take cut).length ≠ 0 := by
    rw [List.length_take_of_le high]
    omega
  obtain ⟨⟨done, reader⟩, converts, bag⟩ := converts_cut_entries host fromProto nonempty known
    (fun entry _ => Or.inr (memory entry.payload.length)) (ready_openedReader _)
    (rest_openedReader _) {}
  obtain ⟨least, finishes⟩ := converts.finishes
  refine ⟨done, reader, least, fun fuel enough => ⟨?_, by simpa using bag⟩⟩
  have finished := finishes fuel enough
  rw [bytes] at finished ⊢
  simp only [runLog2bag, openLog_expectedHeader]
  exact congrArg Except.ok finished

end Converting

/-- Two entries cut inside the header of the second. -/
theorem runLog2bag_cut_log_inside_header :
    let entries : List FramedEntry := [⟨5, 4, [0x18, 1], by decide⟩, ⟨-7, 4, [], by decide⟩]
    let fromProto : FromProto (List UInt8) (List UInt8) (List UInt8) (List UInt8) := ⟨id, id⟩
    ∃ done reader least, ∀ fuel, least ≤ fuel →
      runLog2bag byteHost fromProto fuel ((encodeLog entries).take 40) =
          .ok (.finished (done, reader)) ∧
        done.bag = [⟨.visionWrapper [0x18, 1], "/vision_messages",
          "ssl_league_msgs/msg/VisionWrapper", 5⟩] := by
  intro entries fromProto
  exact runLog2bag_cut_log byteHost fromProto (fun _ => rfl) entries (by decide) 40 (by decide)
    (by decide)

end SslRosBridge.Log2bag
