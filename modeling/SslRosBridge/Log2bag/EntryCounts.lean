import SslRosBridge.Log2bag.Framing
import SslRosBridge.Log2bag.Rounds

/-!
# The counts of the conversion report

A header of a known type is counted before its payload is read.  The counts of
the two translated types are those of the messages delivered and written as
long as no such header stands in front of a payload that is not delivered.
-/

namespace SslRosBridge.Log2bag

open Library

/-! ## Counting messages -/

def EntryType.Translated (type : EntryType) : Prop := type = .refbox2013 ∨ type = .vision2014

/-- The type of the entries that hold such a message. -/
def Message.entryType? {Referee Wrapper : Type} : Message Referee Wrapper → Option EntryType
  | .monostate => none
  | .referee _ => some .refbox2013
  | .wrapperPacket _ => some .vision2014

def Content.entryType {RosReferee RosWrapper : Type} : Content RosReferee RosWrapper → EntryType
  | .referee _ => .refbox2013
  | .visionWrapper _ => .vision2014

def messagesOf {Referee Wrapper : Type} (type : EntryType)
    (entries : List (LogEntry Referee Wrapper)) : Nat :=
  entries.countP fun entry => entry.message.entryType? = some type

def writtenOf {RosReferee RosWrapper : Type} (type : EntryType)
    (bag : List (BagMessage RosReferee RosWrapper)) : Nat :=
  bag.countP fun message => message.content.entryType = type

section Counts

variable {Referee Wrapper : Type} (host : Host Referee Wrapper)

/-! ## The headers of a log -/

def headerType? (bytes : List UInt8) : Option EntryType :=
  EntryType.ofRaw? (entryTypeRaw (bytes.take headerSize))

def payloadSize (bytes : List UInt8) : Int32 := dataSize (bytes.take headerSize)

/-- The bytes in front of which the reader takes a header. -/
inductive Reaches : List UInt8 → List UInt8 → Prop where
  | here (bytes : List UInt8) : Reaches bytes bytes
  | unrecognised {bytes reached : List UInt8} (whole : headerSize ≤ bytes.length)
      (unknown : headerType? bytes = none)
      (later : Reaches (bytes.drop headerSize) reached) : Reaches bytes reached
  | complete {bytes reached : List UInt8} {type : EntryType} (whole : headerSize ≤ bytes.length)
      (known : headerType? bytes = some type)
      (reserved : reserve host (payloadSize bytes) = .ok ())
      (present : (payloadSize bytes).toInt.toNat ≤ (bytes.drop headerSize).length)
      (later : Reaches ((bytes.drop headerSize).drop (payloadSize bytes).toInt.toNat) reached) :
      Reaches bytes reached

/-- A header of a translated type in front of a payload that is refused, cut
off or not parsed. -/
structure Lost (bytes : List UInt8) : Prop where
  whole : headerSize ≤ bytes.length
  undelivered : ∃ type, headerType? bytes = some type ∧ type.Translated ∧
    (reserve host (payloadSize bytes) ≠ .ok () ∨
      (bytes.drop headerSize).length < (payloadSize bytes).toInt.toNat ∨
      parsePayload host type ((bytes.drop headerSize).take (payloadSize bytes).toInt.toNat) =
        .monostate)

def NothingLost (bytes : List UInt8) : Prop :=
  ∀ reached, Reaches host bytes reached → ¬ Lost host reached

variable {host}

theorem nothingLost_short {bytes : List UInt8} (short : bytes.length < headerSize) :
    NothingLost host bytes := by
  intro reached reaches lost
  cases reaches with
  | here => exact absurd lost.whole (Nat.not_le.mpr short)
  | unrecognised whole => exact absurd whole (Nat.not_le.mpr short)
  | complete whole => exact absurd whole (Nat.not_le.mpr short)

section Header

variable {header after : List UInt8}

theorem headerType?_append (length : header.length = headerSize) (after : List UInt8) :
    headerType? (header ++ after) = EntryType.ofRaw? (entryTypeRaw header) := by
  rw [headerType?, List.take_left' length]

theorem payloadSize_append (length : header.length = headerSize) (after : List UInt8) :
    payloadSize (header ++ after) = dataSize header := by
  rw [payloadSize, List.take_left' length]

theorem whole_append (length : header.length = headerSize) (after : List UInt8) :
    headerSize ≤ (header ++ after).length := by
  rw [List.length_append, length]
  exact Nat.le_add_right _ _

theorem nothingLost_unrecognised (length : header.length = headerSize)
    (type_eq : EntryType.ofRaw? (entryTypeRaw header) = none) :
    NothingLost host (header ++ after) ↔ NothingLost host after := by
  have unknown := (headerType?_append length after).trans type_eq
  constructor
  · intro nothing reached reaches
    refine nothing reached (.unrecognised (whole_append length _) unknown ?_)
    rwa [List.drop_left' length]
  · intro nothing reached reaches
    cases reaches with
    | here =>
        rintro ⟨-, type, known, -⟩
        exact absurd (unknown.symm.trans known) nofun
    | unrecognised whole unknown later =>
        rw [List.drop_left' length] at later
        exact nothing reached later
    | complete whole known => exact absurd (unknown.symm.trans known) nofun

/-- Behind a header whose payload is not read the reader takes no other. -/
theorem nothingLost_unread (length : header.length = headerSize) {type : EntryType}
    (type_eq : EntryType.ofRaw? (entryTypeRaw header) = some type)
    (unread : reserve host (dataSize header) ≠ .ok () ∨
      after.length < (dataSize header).toInt.toNat) :
    NothingLost host (header ++ after) ↔ ¬ type.Translated := by
  have known := (headerType?_append length after).trans type_eq
  have size := payloadSize_append length after
  constructor
  · intro nothing translated
    refine nothing _ (.here _) ⟨whole_append length _, type, known, translated, ?_⟩
    rw [size, List.drop_left' length]
    exact unread.imp_right Or.inl
  · intro other reached reaches
    cases reaches with
    | here =>
        rintro ⟨-, type', known', translated, -⟩
        cases known.symm.trans known'
        exact other translated
    | unrecognised whole unknown => exact absurd (known.symm.trans unknown) nofun
    | complete whole known' reserved present =>
        rw [size] at reserved
        rw [size, List.drop_left' length] at present
        rcases unread with refused | short
        · exact absurd reserved refused
        · exact absurd present (Nat.not_le.mpr short)

theorem nothingLost_complete {data : List UInt8} (length : header.length = headerSize)
    {type : EntryType} (type_eq : EntryType.ofRaw? (entryTypeRaw header) = some type)
    (reserve_eq : reserve host (dataSize header) = .ok ())
    (data_eq : (data.length : Int) = (dataSize header).toInt) :
    NothingLost host (header ++ (data ++ after)) ↔
      (type.Translated → parsePayload host type data ≠ .monostate) ∧ NothingLost host after := by
  have known := (headerType?_append length (data ++ after)).trans type_eq
  have size := payloadSize_append length (data ++ after)
  have count : (dataSize header).toInt.toNat = data.length := by omega
  constructor
  · intro nothing
    constructor
    · intro translated empty
      refine nothing _ (.here _) ⟨whole_append length _, type, known, translated, ?_⟩
      rw [size, List.drop_left' length, count, List.take_left]
      exact Or.inr (Or.inr empty)
    · intro reached reaches
      refine nothing reached (.complete (whole_append length _) known ?_ ?_ ?_)
      · rwa [size]
      · rw [size, List.drop_left' length, count, List.length_append]
        exact Nat.le_add_right _ _
      · rwa [size, List.drop_left' length, count, List.drop_left]
  · rintro ⟨parsed, nothing⟩ reached reaches
    cases reaches with
    | here =>
        rintro ⟨-, type', known', translated, undelivered⟩
        cases known.symm.trans known'
        rw [size, List.drop_left' length, count, List.take_left] at undelivered
        rcases undelivered with refused | short | empty
        · exact refused reserve_eq
        · rw [List.length_append] at short
          omega
        · exact parsed translated empty
    | unrecognised whole unknown => exact absurd (known.symm.trans unknown) nofun
    | complete whole known' reserved present later =>
        rw [size, List.drop_left' length, count, List.drop_left] at later
        exact nothing reached later

end Header

/-! ## What a call counts -/

theorem entryTypeCounts_count (reader : LogReader) (type other : EntryType) :
    (reader.count type).entryTypeCounts other =
      reader.entryTypeCounts other + if other = type then 1 else 0 := by
  simp only [LogReader.count]
  split
  · next same => rw [same]
  · rfl

theorem entryTypeCounts_pastHeader (reader : LogReader) (type other : EntryType) :
    (reader.pastHeader type).entryTypeCounts other =
      reader.entryTypeCounts other + if other = type then 1 else 0 :=
  entryTypeCounts_count _ type other

theorem messagesOf_cons (type : EntryType) (entry : LogEntry Referee Wrapper)
    (entries : List (LogEntry Referee Wrapper)) :
    messagesOf type (entry :: entries) =
      messagesOf type entries + if entry.message.entryType? = some type then 1 else 0 := by
  simp only [messagesOf, List.countP_cons, decide_eq_true_eq]

/-- A payload is parsed to a message of its own type or to none. -/
theorem entryType?_parsePayload (type : EntryType) (data : List UInt8) :
    parsePayload host type data = .monostate ∨
      (type.Translated ∧ (parsePayload host type data).entryType? = some type) := by
  cases type with
  | refbox2013 =>
      unfold parsePayload
      cases host.parseReferee data with
      | none => exact Or.inl rfl
      | some message => exact Or.inr ⟨Or.inl rfl, rfl⟩
  | vision2014 =>
      unfold parsePayload
      cases host.parseWrapper data with
      | none => exact Or.inl rfl
      | some message => exact Or.inr ⟨Or.inr rfl, rfl⟩
  | _ => exact Or.inl rfl

variable (host) in
/-- A call adds to the counts at least what it delivers, and no more exactly
when it comes across no lost entry. -/
structure CallTally (reader : LogReader) (result : Option (LogEntry Referee Wrapper))
    (next : LogReader) : Prop where
  least : ∀ type : EntryType, type.Translated →
    reader.entryTypeCounts type + messagesOf type result.toList ≤ next.entryTypeCounts type
  exact : ((∀ type : EntryType, type.Translated → next.entryTypeCounts type =
        reader.entryTypeCounts type + messagesOf type result.toList) ∧
      (result ≠ none → NothingLost host next.inputStream.rest)) ↔
    NothingLost host reader.inputStream.rest

theorem callTally_end {reader next : LogReader}
    (short : reader.inputStream.rest.length < headerSize)
    (counts : next.entryTypeCounts = reader.entryTypeCounts) :
    CallTally host reader (none : Option (LogEntry Referee Wrapper)) next where
  least := fun type _ => Nat.le_of_eq (congrFun counts.symm type)
  exact := ⟨fun _ => nothingLost_short short,
    fun _ => ⟨fun type _ => congrFun counts type, absurd rfl⟩⟩

/-- A header is counted whose payload is not read. -/
theorem callTally_unread {reader next : LogReader} {header after : List UInt8}
    (layout : reader.inputStream.rest = header ++ after) (length : header.length = headerSize)
    {type : EntryType} (type_eq : EntryType.ofRaw? (entryTypeRaw header) = some type)
    (unread : reserve host (dataSize header) ≠ .ok () ∨
      after.length < (dataSize header).toInt.toNat)
    (counts : next.entryTypeCounts = (reader.pastHeader type).entryTypeCounts) :
    CallTally host reader (none : Option (LogEntry Referee Wrapper)) next := by
  have counted : ∀ other, next.entryTypeCounts other =
      reader.entryTypeCounts other + if other = type then 1 else 0 := by
    intro other
    rw [counts, entryTypeCounts_pastHeader]
  refine ⟨fun other _ => ?_, ?_⟩
  · rw [counted]
    exact Nat.le_add_right _ _
  · rw [layout, nothingLost_unread length type_eq unread]
    constructor
    · rintro ⟨same, -⟩ translated
      have once := counted type
      rw [if_pos rfl, same type translated] at once
      exact absurd once (by simp [messagesOf])
    · intro other
      refine ⟨fun type' translated => ?_, absurd rfl⟩
      rw [counted, if_neg (by rintro rfl; exact other translated)]
      rfl

section Payload

variable {reader : LogReader} {header data after : List UInt8} {type : EntryType}
  (layout : reader.inputStream.rest = header ++ (data ++ after))
  (length : header.length = headerSize)
  (type_eq : EntryType.ofRaw? (entryTypeRaw header) = some type)
  (reserve_eq : reserve host (dataSize header) = .ok ())
  (size : (data.length : Int) = (dataSize header).toInt)

include layout length type_eq reserve_eq size

/-- An entry that carries no message is counted and stepped over. -/
theorem CallTally.skip {last : LogReader} {result : Option (LogEntry Referee Wrapper)}
    (skipped : parsePayload host type data = .monostate)
    (tally : CallTally host (reader.pastPayload type data.length) result last) :
    CallTally host reader result last := by
  have counted : ∀ other, (reader.pastPayload type data.length).entryTypeCounts other =
      reader.entryTypeCounts other + if other = type then 1 else 0 :=
    entryTypeCounts_pastHeader reader type
  have rest := LogReader.rest_pastPayload layout length type
  refine ⟨fun other translated => ?_, ?_⟩
  · have least := tally.least other translated
    rw [counted] at least
    omega
  · rw [layout, nothingLost_complete length type_eq reserve_eq size, ← rest, ← tally.exact,
      ← and_assoc]
    refine and_congr_left fun _ => ?_
    constructor
    · intro same
      refine ⟨fun translated => ?_, fun other translated => ?_⟩
      · have least := tally.least type translated
        rw [counted, if_pos rfl, same type translated] at least
        omega
      · have least := tally.least other translated
        rw [same other translated] at least ⊢
        rw [counted] at least ⊢
        omega
    · rintro ⟨parsed, same⟩ other translated
      have differs : other ≠ type := by
        rintro rfl
        exact parsed translated skipped
      rw [same other translated, counted, if_neg differs, Nat.add_zero]

theorem callTally_deliver {time : Int64} (delivered : parsePayload host type data ≠ .monostate) :
    CallTally host reader (some ⟨time, parsePayload host type data⟩)
      (reader.pastPayload type data.length) := by
  obtain ⟨-, own⟩ := (entryType?_parsePayload type data).resolve_left delivered
  have counted : ∀ other, (reader.pastPayload type data.length).entryTypeCounts other =
      reader.entryTypeCounts other +
        messagesOf other [(⟨time, parsePayload host type data⟩ : LogEntry Referee Wrapper)] := by
    intro other
    rw [messagesOf_cons, own]
    refine (entryTypeCounts_pastHeader reader type other).trans ?_
    simp only [messagesOf, List.countP_nil, Nat.zero_add, Option.some.injEq, @eq_comm _ type other]
  have rest := LogReader.rest_pastPayload layout length type
  refine ⟨fun other _ => Nat.le_of_eq (counted other).symm, ?_⟩
  rw [layout, nothingLost_complete length type_eq reserve_eq size, ← rest]
  constructor
  · rintro ⟨-, nothing⟩
    exact ⟨fun _ => delivered, nothing (Option.some_ne_none _)⟩
  · rintro ⟨-, nothing⟩
    exact ⟨fun other _ => counted other, fun _ => nothing⟩

end Payload

/-- The induction over the rounds of one call. -/
theorem CallRounds.tally {reader next : LogReader} {result : Option (LogEntry Referee Wrapper)}
    (rounds : CallRounds host reader result next) : CallTally host reader result next := by
  induction rounds with
  | exhausted exhausted => exact callTally_end (by rw [exhausted.rest]; decide) rfl
  | endOfLog short exhausted => exact callTally_end short rfl
  | unrecognised ready layout length type_eq later tally =>
      refine ⟨tally.least, ?_⟩
      rw [layout, nothingLost_unrecognised length type_eq,
        ← LogReader.rest_advance_header layout length]
      exact tally.exact
  | refused ready layout length type_eq reserve_eq =>
      exact callTally_unread layout length type_eq (Or.inl (by rw [reserve_eq]; exact nofun)) rfl
  | truncated layout length type_eq short exhausted =>
      exact callTally_unread layout length type_eq (Or.inr short) rfl
  | skip ready layout length type_eq reserve_eq size skipped later tally =>
      exact tally.skip layout length type_eq reserve_eq size skipped
  | deliver ready layout length type_eq reserve_eq size delivered =>
      exact callTally_deliver layout length type_eq reserve_eq size delivered

theorem getNextMessage_tally {reader next : LogReader} (sound : reader.Sound) {fuel : Nat}
    {result : Option (LogEntry Referee Wrapper)}
    (call : getNextMessage host fuel reader = some (result, next)) :
    CallTally host reader result next :=
  (callRounds_of_call host sound call).tally

/-! ## What a whole conversion counts -/

/-- The induction over the calls; both bounds of the counts add up. -/
theorem Calls.tally {reader last : LogReader} {entries : List (LogEntry Referee Wrapper)}
    (sound : reader.Sound) (calls : Calls host reader (entries.map some ++ [none]) last) :
    (∀ type : EntryType, type.Translated →
      reader.entryTypeCounts type + messagesOf type entries ≤ last.entryTypeCounts type) ∧
    ((∀ type : EntryType, type.Translated → last.entryTypeCounts type =
        reader.entryTypeCounts type + messagesOf type entries) ↔
      NothingLost host reader.inputStream.rest) := by
  induction entries generalizing reader with
  | nil =>
      cases calls with
      | cons fuel call later =>
          cases later
          have tally := getNextMessage_tally sound call
          exact ⟨tally.least, ⟨fun same => tally.exact.mp ⟨same, absurd rfl⟩,
            fun nothing => (tally.exact.mpr nothing).1⟩⟩
  | cons entry entries ih =>
      cases calls with
      | @cons _ middle _ _ _ fuel call later =>
          have tally := getNextMessage_tally sound call
          obtain ⟨least, exact⟩ := ih (getNextMessage_result host sound call).sound later
          have split : ∀ type, messagesOf type (entry :: entries) =
              messagesOf type [entry] + messagesOf type entries := by
            intro type
            rw [← List.singleton_append, messagesOf, List.countP_append]
            rfl
          refine ⟨fun type translated => ?_, ?_⟩
          · have first := tally.least type translated
            have rest := least type translated
            rw [Option.toList_some] at first
            rw [split]
            omega
          · rw [← tally.exact]
            constructor
            · intro same
              have both : ∀ type : EntryType, type.Translated →
                  middle.entryTypeCounts type =
                      reader.entryTypeCounts type + messagesOf type [entry] ∧
                    last.entryTypeCounts type =
                      middle.entryTypeCounts type + messagesOf type entries := by
                intro type translated
                have first := tally.least type translated
                have rest := least type translated
                have total := same type translated
                rw [Option.toList_some] at first
                rw [split] at total
                exact ⟨by omega, by omega⟩
              exact ⟨fun type translated => (both type translated).1,
                fun _ => exact.mp fun type translated => (both type translated).2⟩
            · rintro ⟨first, nothing⟩ type translated
              have now := first type translated
              have rest := exact.mpr (nothing (Option.some_ne_none _)) type translated
              rw [Option.toList_some] at now
              rw [split]
              omega

end Counts

section Report

variable {Referee Wrapper RosReferee RosWrapper : Type} (host : Host Referee Wrapper)
variable (fromProto : FromProto Referee Wrapper RosReferee RosWrapper)

theorem writtenOf_concat (type : EntryType) (bag : List (BagMessage RosReferee RosWrapper))
    (message : BagMessage RosReferee RosWrapper) :
    writtenOf type (bag ++ [message]) =
      writtenOf type bag + if message.content.entryType = type then 1 else 0 := by
  simp only [writtenOf, List.countP_append, List.countP_cons, List.countP_nil, Nat.zero_add,
    decide_eq_true_eq]

theorem writtenOf_writeEntry {type : EntryType} (entry : LogEntry Referee Wrapper)
    (bag : List (BagMessage RosReferee RosWrapper)) :
    writtenOf type (writeEntry fromProto entry bag) =
      writtenOf type bag + if entry.message.entryType? = some type then 1 else 0 := by
  unfold writeEntry writeMessageIfExists
  cases entry.message with
  | monostate => rfl
  | referee value =>
      simp only [Message.entryType?, Option.some.injEq]
      exact writtenOf_concat type bag _
  | wrapperPacket value =>
      simp only [Message.entryType?, Option.some.injEq]
      exact writtenOf_concat type bag _

variable {host fromProto}

/-- The rounds deliver some messages and write each of them. -/
theorem Converts.delivered {logFileSize : Nat} {reader : LogReader}
    {done : Conversion RosReferee RosWrapper}
    {result : Conversion RosReferee RosWrapper × LogReader}
    (converts : Converts host fromProto logFileSize reader done result) :
    ∃ entries, Calls host reader (entries.map some ++ [none]) result.2 ∧
      ∀ type, writtenOf type result.1.bag = writtenOf type done.bag + messagesOf type entries := by
  induction converts with
  | stop fuel call => exact ⟨[], .cons fuel call (.nil _), fun _ => rfl⟩
  | @write _ _ _ _ entry _ fuel call _ _ ih =>
      obtain ⟨entries, later, written⟩ := ih
      refine ⟨entry :: entries, .cons fuel call later, fun type => ?_⟩
      rw [written, writtenOf_writeEntry, messagesOf_cons]
      omega

variable (host fromProto)

/-- The counts printed for the translated entries are those of the messages
delivered and written. -/
structure ReportTrue (entries : List (LogEntry Referee Wrapper))
    (bag : List (BagMessage RosReferee RosWrapper)) (printed : Statistics) : Prop where
  delivered : printed.translatedEntries = translatedLines fun type => messagesOf type entries
  written : printed.translatedEntries = translatedLines fun type => writtenOf type bag

theorem translatedLines_eq_iff (first second : EntryType → Nat) :
    translatedLines first = translatedLines second ↔
      ∀ type : EntryType, type.Translated → first type = second type := by
  simp only [translatedLines, List.cons.injEq, Prod.mk.injEq, true_and, and_true]
  constructor
  · rintro ⟨referee, vision⟩ type (rfl | rfl)
    · exact referee
    · exact vision
  · intro same
    exact ⟨same .refbox2013 (Or.inl rfl), same .vision2014 (Or.inr rfl)⟩

/--
Over any bytes behind the file header the conversion ends, and its report is
true exactly when the reader comes to no header of a translated type whose
payload is refused, cut off or not parsed.
-/
theorem report_true_iff (after : List UInt8) :
    ∃ entries done last least,
      (∀ fuel, least ≤ fuel →
        runLog2bag host fromProto fuel (expectedHeader ++ after) = .ok (.finished (done, last))) ∧
      Calls host (openedReader after) (entries.map some ++ [none]) last ∧
      (ReportTrue entries done.bag (statistics last) ↔ NothingLost host after) := by
  have sound : (openedReader after).Sound := Or.inl (ready_openedReader after)
  have nonempty : (expectedHeader ++ after).length ≠ 0 := by simp [expectedHeader]
  obtain ⟨⟨done, last⟩, converts⟩ := converts_total host fromProto nonempty sound {}
  obtain ⟨least, finishes⟩ := converts.finishes
  obtain ⟨entries, calls, written⟩ := converts.delivered
  obtain ⟨-, exact⟩ := calls.tally sound
  have started : ∀ type, (openedReader after).entryTypeCounts type = 0 := fun _ => rfl
  simp only [started, Nat.zero_add, rest_openedReader] at exact
  have bag : (fun type => writtenOf type done.bag) = fun type => messagesOf type entries := by
    funext type
    exact (written type).trans (Nat.zero_add _)
  refine ⟨entries, done, last, least, fun fuel enough => ?_, calls, ?_⟩
  · simp only [runLog2bag, openLog_expectedHeader]
    exact congrArg Except.ok (finishes fuel enough)
  · rw [← exact, ← translatedLines_eq_iff]
    constructor
    · exact fun report => report.delivered
    · exact fun same => ⟨same, by rw [bag]; exact same⟩

end Report

/-- A `Refbox2013` entry of five bytes of which two are there: it is reported
as translated, and nothing is delivered or written. -/
theorem cut_entry_reported :
    let bytes := [0, 0, 0, 0, 0, 0, 0, 4, 0, 0, 0, 3, 0, 0, 0, 5, 1, 2]
    let fromProto : FromProto (List UInt8) (List UInt8) (List UInt8) (List UInt8) := ⟨id, id⟩
    ∃ done last,
      runLog2bag byteHost fromProto 2 (expectedHeader ++ bytes) = .ok (.finished (done, last)) ∧
      Calls byteHost (openedReader bytes) [none] last ∧ done.bag = [] ∧
      (statistics last).translatedEntries = [("Refbox 2013", 1), ("Vision 2014", 0)] ∧
      ∀ entries : List (LogEntry (List UInt8) (List UInt8)),
        ¬ ReportTrue entries done.bag (statistics last) := by
  intro bytes fromProto
  have results : (getNextMessage byteHost 2 (openedReader bytes)).map
      (fun call => (call.1, translatedLines call.2.entryTypeCounts)) =
        some (none, [("Refbox 2013", 1), ("Vision 2014", 0)]) := by
    decide +kernel
  obtain ⟨⟨result, last⟩, call, results⟩ := Option.map_eq_some_iff.mp results
  simp only [Prod.mk.injEq] at results
  obtain ⟨rfl, printed⟩ := results
  refine ⟨{}, last, ?_, .cons 2 call (.nil _), rfl, printed, fun entries report => ?_⟩
  · simp only [runLog2bag, openLog_expectedHeader]
    refine congrArg Except.ok ?_
    rw [convertLoop, call]
  · have none : [("Refbox 2013", 1), ("Vision 2014", 0)] =
        [("Refbox 2013", 0), ("Vision 2014", 0)] := printed.symm.trans report.written
    simp at none

end SslRosBridge.Log2bag
