import SslRosBridge.Log2bag.Scanning

/-!
# Converting arbitrary bytes

`log2bag` computes one function of the bytes of its log, corrupted or not.  It
only adds to the bag when the log grows at its end, and a well-framed front of
a log converts on its own.
-/

namespace SslRosBridge.Log2bag

open Library

section Decoding

variable {Referee Wrapper RosReferee RosWrapper : Type}
variable (host : Host Referee Wrapper)
variable (fromProto : FromProto Referee Wrapper RosReferee RosWrapper)

/-- The conversion of these bytes ends with this bag and these counts. -/
def ConvertsTo (bytes : List UInt8) (bag : List (BagMessage RosReferee RosWrapper))
    (counts : EntryType → Nat) : Prop :=
  ∃ done reader least, ∀ fuel, least ≤ fuel →
    runLog2bag host fromProto fuel bytes = .ok (.finished (done, reader)) ∧
      done.bag = bag ∧ reader.entryTypeCounts = counts

/-- The messages of the scanned entries, in their order. -/
def bagOf (entries : List ScannedEntry) : List (BagMessage RosReferee RosWrapper) :=
  entries.filterMap (ScannedEntry.bagMessage? host fromProto)

/-- What the bytes behind a file header stand for. -/
def scanLog (after : List UInt8) : Scanned UInt8 ScannedEntry := (logScanner host).run after

theorem convertsTo_scan (after : List UInt8) :
    ConvertsTo host fromProto (expectedHeader ++ after)
      (bagOf host fromProto (scanLog host after).outputs) (headersOf (scanLog host after)) := by
  have nonempty : (expectedHeader ++ after).length ≠ 0 := by simp [expectedHeader]
  obtain ⟨⟨done, reader⟩, converts, bag, counts⟩ := converts_scan host fromProto nonempty after
    (ready_openedReader after) (rest_openedReader after) {}
  obtain ⟨least, finishes⟩ := converts.finishes
  refine ⟨done, reader, least, fun fuel enough => ⟨?_, bag, ?_⟩⟩
  · simp only [runLog2bag, openLog_expectedHeader]
    exact congrArg Except.ok (finishes fuel enough)
  · funext type
    exact (counts type).trans (Nat.zero_add _)

/-- A conversion has one result. -/
theorem ConvertsTo.unique {bytes : List UInt8} {bag bag' : List (BagMessage RosReferee RosWrapper)}
    {counts counts' : EntryType → Nat} (converts : ConvertsTo host fromProto bytes bag counts)
    (converts' : ConvertsTo host fromProto bytes bag' counts') : bag = bag' ∧ counts = counts' := by
  obtain ⟨done, reader, least, finishes⟩ := converts
  obtain ⟨done', reader', least', finishes'⟩ := converts'
  obtain ⟨result, rfl, rfl⟩ := finishes (max least least') (Nat.le_max_left _ _)
  obtain ⟨result', rfl, rfl⟩ := finishes' (max least least') (Nat.le_max_right _ _)
  cases result.symm.trans result'
  exact ⟨rfl, rfl⟩

/-! ## Bytes without a file header -/

theorem openLog_refused {bytes : List UInt8} (foreign : ¬ expectedHeader <+: bytes) :
    openLog (.ofBytes bytes) =
      .error (if bytes.length < headerSize then "Not enough bytes for a valid header"
        else "Unsupported file format based on header bytes.") := by
  have ready := InputStream.ready_ofBytes bytes
  unfold openLog
  by_cases short : bytes.length < headerSize
  · have taken := InputStream.Ready.read_short ready short
    rw [taken, if_pos short]
    exact if_pos (Nat.ne_of_lt short)
  · obtain ⟨header, after, rfl, length⟩ :
        ∃ header after, bytes = header ++ after ∧ header.length = headerSize :=
      ⟨_, _, (List.take_append_drop headerSize bytes).symm,
        List.length_take_of_le (Nat.le_of_not_lt short)⟩
    have taken := ready.read_append (rfl : (InputStream.ofBytes (header ++ after)).rest = _)
    have other : header ≠ expectedHeader := by
      rintro rfl
      exact foreign (List.prefix_append _ _)
    rw [length] at taken
    rw [taken, if_neg short]
    simp only [length, ne_eq, not_true_eq_false, if_false, other, not_false_eq_true, if_true]

/--
`log2bag` on any file contents.  Behind a file header it writes the messages of
the scanned entries and counts the headers that were come across; other
contents are refused.
-/
theorem runLog2bag_decodes (bytes : List UInt8) :
    (∃ after, bytes = expectedHeader ++ after ∧
      ConvertsTo host fromProto bytes (bagOf host fromProto (scanLog host after).outputs)
        (headersOf (scanLog host after))) ∨
      (¬ expectedHeader <+: bytes ∧ ∀ fuel, runLog2bag host fromProto fuel bytes =
        .error (if bytes.length < headerSize then "Not enough bytes for a valid header"
          else "Unsupported file format based on header bytes.")) := by
  by_cases headed : expectedHeader <+: bytes
  · obtain ⟨after, rfl⟩ := headed
    exact Or.inl ⟨after, rfl, convertsTo_scan host fromProto after⟩
  · refine Or.inr ⟨headed, fun fuel => ?_⟩
    simp only [runLog2bag, openLog_refused headed]
    rfl

/-! ## A log that grows at its end -/

theorem unreadHeader_mono (front back : List UInt8) (type : EntryType) :
    unreadHeader front type ≤ unreadHeader (front ++ back) type := by
  by_cases short : front.length < headerSize
  · rw [unreadHeader_short short]
    exact Nat.zero_le _
  · obtain ⟨header, after, rfl, length⟩ :
        ∃ header after, front = header ++ after ∧ header.length = headerSize :=
      ⟨_, _, (List.take_append_drop headerSize front).symm,
        List.length_take_of_le (Nat.le_of_not_lt short)⟩
    rw [List.append_assoc]
    simp only [unreadHeader, headerType?_append length, whole_append length, true_and, le_refl]

/-- A whole header of a known type is counted, whatever stands behind it. -/
theorem unreadHeader_le_headersOf (bytes : List UInt8) (type : EntryType) :
    unreadHeader bytes type ≤ headersOf (scanLog host bytes) type := by
  have found := scanning host bytes
  generalize scanned : scanEntry host bytes = outcome at found
  cases found with
  | short short =>
      rw [unreadHeader_short short]
      exact Nat.zero_le _
  | unrecognised length type_eq =>
      simp [unreadHeader, headerType?_append length, type_eq]
  | refused length type_eq reserve_eq =>
      rw [scanLog, (logScanner host).run_halts scanned, headersOf_nil]
  | truncated length type_eq reserve_eq short =>
      rw [scanLog, (logScanner host).run_waits scanned, headersOf_nil]
  | complete length type_eq reserve_eq size =>
      rw [scanLog, (logScanner host).run_takes scanned, headersOf_prepend,
        unreadHeader_append _ length type_eq]
      simp only [Option.toList_some, List.countP_singleton, decide_eq_true_eq, @eq_comm _ type]
      exact Nat.le_add_right _ _

theorem headersOf_append (front back : List UInt8) (type : EntryType) :
    headersOf (scanLog host front) type ≤ headersOf (scanLog host (front ++ back)) type := by
  cases halted : (scanLog host front).halted with
  | false =>
      have grown := unreadHeader_mono (scanLog host front).leftover back type
      have counted := unreadHeader_le_headersOf host ((scanLog host front).leftover ++ back) type
      have resumed : scanLog host (front ++ back) = _ :=
        (logScanner host).run_append front back halted
      rw [resumed, headersOf_prepend]
      exact Nat.add_le_add_left (Nat.le_trans grown counted) _
  | true =>
      obtain ⟨outputs, leftover⟩ := (logScanner host).run_append_of_halted front back halted
      unfold headersOf scanLog
      rw [outputs, leftover]
      exact Nat.add_le_add_left (unreadHeader_mono _ back type) _

/--
The conversion of a log that was cut off anywhere, and corrupted in any way,
gives the first messages of the conversion of the longer log, and no larger
count.
-/
theorem convertsTo_prefix (front back : List UInt8) :
    ∃ bag bag' counts counts',
      ConvertsTo host fromProto (expectedHeader ++ front) bag counts ∧
      ConvertsTo host fromProto (expectedHeader ++ (front ++ back)) bag' counts' ∧
      bag <+: bag' ∧ ∀ type, counts type ≤ counts' type :=
  ⟨_, _, _, _, convertsTo_scan host fromProto front, convertsTo_scan host fromProto (front ++ back),
    ((logScanner host).outputs_append front back).filterMap _, headersOf_append host front back⟩

/-! ## A well-framed front -/

/-- An entry of a known type whose payload length fits the length field. -/
structure LoggedEntry extends ScannedEntry where
  small : payload.length < 2 ^ 31

def LoggedEntry.framed (entry : LoggedEntry) : FramedEntry :=
  ⟨entry.time, entry.type.value, entry.payload, entry.small⟩

/-- Encoded entries are scanned back, and the bytes behind them as they are. -/
theorem scanLog_encodeEntries (entries : List LoggedEntry)
    (granted : ∀ entry ∈ entries, entry.framed.granted host) (back : List UInt8) :
    scanLog host (encodeEntries (entries.map LoggedEntry.framed) ++ back) =
      (scanLog host back).prepend (entries.map LoggedEntry.toScannedEntry) := by
  rw [encodeEntries, List.flatMap_map]
  refine (logScanner host).run_flatMap _ _ entries back fun entry member behind => ?_
  have type_eq : EntryType.ofRaw? (entryTypeRaw entry.framed.header) = some entry.type := by
    rw [entry.framed.entryTypeRaw_header]
    exact EntryType.ofRaw?_value entry.type
  have reserve_eq := entry.framed.reserve_header host (granted entry member)
  rw [logScanner_scan, FramedEntry.encode, List.append_assoc,
    scanEntry_complete host entry.framed.length_header type_eq reserve_eq
      entry.framed.dataSize_header.symm, entry.framed.receivedTime_header]
  rfl

/--
A well-framed front of a log converts on its own: its messages and counts are
added in front of those of the bytes behind it, whatever these are.
-/
theorem convertsTo_append (entries : List LoggedEntry)
    (granted : ∀ entry ∈ entries, entry.framed.granted host) {back : List UInt8}
    {bag : List (BagMessage RosReferee RosWrapper)} {counts : EntryType → Nat}
    (behind : ConvertsTo host fromProto (expectedHeader ++ back) bag counts) :
    ConvertsTo host fromProto (encodeLog (entries.map LoggedEntry.framed) ++ back)
      (bagOf host fromProto (entries.map LoggedEntry.toScannedEntry) ++ bag)
      (fun type => entries.countP (fun entry => entry.type = type) + counts type) := by
  obtain ⟨rfl, rfl⟩ := behind.unique host fromProto (convertsTo_scan host fromProto back)
  have whole := convertsTo_scan host fromProto
    (encodeEntries (entries.map LoggedEntry.framed) ++ back)
  rw [scanLog_encodeEntries host entries granted back, ← List.append_assoc] at whole
  have counted : headersOf ((scanLog host back).prepend
      (entries.map LoggedEntry.toScannedEntry)) =
      fun type => entries.countP (fun entry => entry.type = type) +
        headersOf (scanLog host back) type := by
    funext type
    rw [headersOf_prepend, List.countP_map]
    rfl
  rw [counted] at whole
  simpa only [bagOf, encodeLog, Scanned.outputs_prepend, List.filterMap_append] using whole

/-- A vision entry in front of a header that is cut off. -/
theorem convertsTo_append_cut_header :
    let fromProto : FromProto (List UInt8) (List UInt8) (List UInt8) (List UInt8) := ⟨id, id⟩
    let entries : List LoggedEntry := [⟨⟨.vision2014, 5, [0x18, 1]⟩, by decide⟩]
    ConvertsTo byteHost fromProto (encodeLog (entries.map LoggedEntry.framed) ++ [7])
      (bagOf byteHost fromProto (entries.map LoggedEntry.toScannedEntry) ++
        bagOf byteHost fromProto (scanLog byteHost [7]).outputs)
      (fun type => entries.countP (fun entry => entry.type = type) +
        headersOf (scanLog byteHost [7]) type) := by
  intro fromProto entries
  exact convertsTo_append byteHost fromProto entries (fun _ _ => Or.inr rfl)
    (convertsTo_scan byteHost fromProto [7])

end Decoding

end SslRosBridge.Log2bag
