import SslRosBridge.Log2bag.EntryCounts

/-!
# The progress bar over a whole run

The size of the log is sampled before the loop, and the log may grow while it
is converted.  The bar is drawn from the position behind each message and that
size, in unsigned arithmetic.
-/

namespace SslRosBridge.Log2bag

open Library

/-! ## One rendering -/

/-- The position is one, it is converted and scaled without loss, the division
is defined, and the bar has its width. -/
structure SafeRendering (stream : InputStream) (logFileSize : Nat) : Prop where
  positioned : stream.fail = false
  converted : (bytesRead stream : Int) = stream.tellg
  scaled : bytesRead stream * 100 < 18446744073709551616
  nonzero : logFileSize ≠ 0
  bar : ∃ bar, renderProgressBar (bytesRead stream) logFileSize = some bar ∧
    bar.filled + bar.blank = barWidth

/-- The percentage is so large that twenty times it starts again from zero. -/
def WrapsRound (logFileSize position : Nat) : Prop :=
  18446744073709551616 ≤ 100 * position / logFileSize * 20 ∧
    100 * position / logFileSize * 20 % 18446744073709551616 < 2100

/-- The position is less than five percent behind the sampled size, and can be
multiplied by a hundred. -/
def FitsBar (logFileSize position : Nat) : Prop :=
  100 * position < 18446744073709551616 ∧
    (100 * position < 105 * logFileSize ∨ WrapsRound logFileSize position)

theorem filled_add_blank_iff {filled : Nat} (small : filled < 18446744073709551616) :
    filled + (barWidth + 18446744073709551616 - filled) % 18446744073709551616 = barWidth ↔
      filled ≤ 20 := by
  unfold barWidth
  omega

/-- The difference underflows from 105 percent on. -/
theorem twentieths_small_iff (percent : Nat) :
    percent * 20 % 18446744073709551616 / 100 ≤ 20 ↔
      percent < 105 ∨ (18446744073709551616 ≤ percent * 20 ∧
        percent * 20 % 18446744073709551616 < 2100) := by
  rcases Nat.lt_or_ge (percent * 20) 18446744073709551616 with small | large
  · rw [Nat.mod_eq_of_lt small]
    omega
  · omega

theorem renderProgressBar_width_iff {logFileSize position : Nat} (nonzero : logFileSize ≠ 0)
    (scaled : position * 100 < 18446744073709551616) :
    (∃ bar, renderProgressBar position logFileSize = some bar ∧
      bar.filled + bar.blank = barWidth) ↔
      100 * position < 105 * logFileSize ∨ WrapsRound logFileSize position := by
  have percent : position * 100 % 2 ^ 64 / logFileSize = 100 * position / logFileSize := by
    rw [Nat.mod_eq_of_lt (by omega), Nat.mul_comm]
  have below : 100 * position / logFileSize < 105 ↔ 100 * position < 105 * logFileSize :=
    Nat.div_lt_iff_lt_mul (Nat.pos_of_ne_zero nonzero)
  unfold renderProgressBar WrapsRound
  rw [if_neg nonzero, ← below, ← twentieths_small_iff]
  simp only [percent, Option.some.injEq, exists_eq_left']
  exact filled_add_blank_iff (Nat.lt_of_le_of_lt (Nat.div_le_self _ _) (Nat.mod_lt _ (by decide)))

/-- On a stream that has not failed the position decides. -/
theorem safeRendering_iff {stream : InputStream} (positioned : stream.fail = false)
    (logFileSize : Nat) :
    SafeRendering stream logFileSize ↔ FitsBar logFileSize stream.position := by
  have position : stream.tellg = stream.position := by
    rw [InputStream.tellg, positioned]
    rfl
  have wrapped : bytesRead stream = stream.position % 18446744073709551616 := by
    rw [bytesRead, position]
    omega
  constructor
  · rintro ⟨-, converted, scaled, nonzero, bar⟩
    have same : bytesRead stream = stream.position := by omega
    rw [same] at scaled bar
    exact ⟨by omega, (renderProgressBar_width_iff nonzero scaled).mp bar⟩
  · rintro ⟨scaled, fits⟩
    have same : bytesRead stream = stream.position := by omega
    have nonzero : logFileSize ≠ 0 := by
      rintro rfl
      rcases fits with small | ⟨large, -⟩
      · omega
      · rw [Nat.div_zero] at large
        omega
    refine ⟨positioned, by omega, by omega, nonzero, ?_⟩
    rw [same]
    exact (renderProgressBar_width_iff nonzero (by omega)).mpr fits

section Progress

variable {Referee Wrapper : Type} (host : Host Referee Wrapper)

/-! ## The messages of a log -/

/-- A whole entry stands here whose payload is granted and parsed. -/
structure HoldsMessage (bytes : List UInt8) : Prop where
  whole : headerSize ≤ bytes.length
  present : (payloadSize bytes).toInt.toNat ≤ (bytes.drop headerSize).length
  reserved : reserve host (payloadSize bytes) = .ok ()
  parsed : ∃ type, headerType? bytes = some type ∧
    parsePayload host type ((bytes.drop headerSize).take (payloadSize bytes).toInt.toNat) ≠
      .monostate

/-- The reader comes to a message there. -/
def Upcoming (bytes reached : List UInt8) : Prop :=
  Reaches host bytes reached ∧ HoldsMessage host reached

/-- The position behind the entry that stands there in the log. -/
def messageEnd (log reached : List UInt8) : Nat :=
  log.length - reached.length + (headerSize + (payloadSize reached).toInt.toNat)

variable {host}

theorem Reaches.length_le {bytes reached : List UInt8} (reaches : Reaches host bytes reached) :
    reached.length ≤ bytes.length := by
  induction reaches with
  | here => exact Nat.le_refl _
  | unrecognised whole unknown later ih => exact Nat.le_trans ih (List.drop_sublist _ _).length_le
  | complete whole known reserved present later ih =>
      exact Nat.le_trans ih
        ((List.drop_sublist _ _).trans (List.drop_sublist _ _)).length_le

theorem not_upcoming_short {bytes : List UInt8} (short : bytes.length < headerSize)
    (reached : List UInt8) : ¬ Upcoming host bytes reached := by
  rintro ⟨reaches, holds⟩
  have whole := Nat.le_trans holds.whole reaches.length_le
  exact absurd short (Nat.not_lt.mpr whole)

section Header

variable {header after reached : List UInt8} (length : header.length = headerSize)

include length

theorem upcoming_unrecognised (type_eq : EntryType.ofRaw? (entryTypeRaw header) = none) :
    Upcoming host (header ++ after) reached ↔ Upcoming host after reached := by
  have unknown := (headerType?_append length after).trans type_eq
  refine and_congr_left fun holds => ?_
  constructor
  · intro reaches
    cases reaches with
    | here =>
        obtain ⟨type, known, -⟩ := holds.parsed
        exact absurd (unknown.symm.trans known) nofun
    | unrecognised whole unknown later => rwa [List.drop_left' length] at later
    | complete whole known => exact absurd (unknown.symm.trans known) nofun
  · intro reaches
    refine .unrecognised (whole_append length _) unknown ?_
    rwa [List.drop_left' length]

/-- Behind a header whose payload is not read there is no message. -/
theorem not_upcoming_unread {type : EntryType}
    (type_eq : EntryType.ofRaw? (entryTypeRaw header) = some type)
    (unread : reserve host (dataSize header) ≠ .ok () ∨
      after.length < (dataSize header).toInt.toNat) :
    ¬ Upcoming host (header ++ after) reached := by
  have known := (headerType?_append length after).trans type_eq
  have size := payloadSize_append length after
  have read : reserve host (payloadSize (header ++ after)) = .ok () →
      (payloadSize (header ++ after)).toInt.toNat ≤ ((header ++ after).drop headerSize).length →
        False := by
    rw [size, List.drop_left' length]
    intro reserved present
    rcases unread with refused | short
    · exact refused reserved
    · exact absurd short (Nat.not_lt.mpr present)
  rintro ⟨reaches, holds⟩
  cases reaches with
  | here => exact read holds.reserved holds.present
  | unrecognised whole unknown => exact absurd (known.symm.trans unknown) nofun
  | complete whole known' reserved present => exact read reserved present

theorem upcoming_complete {data : List UInt8} {type : EntryType}
    (type_eq : EntryType.ofRaw? (entryTypeRaw header) = some type)
    (reserve_eq : reserve host (dataSize header) = .ok ())
    (data_eq : (data.length : Int) = (dataSize header).toInt) :
    Upcoming host (header ++ (data ++ after)) reached ↔
      (reached = header ++ (data ++ after) ∧ parsePayload host type data ≠ .monostate) ∨
        Upcoming host after reached := by
  have known := (headerType?_append length (data ++ after)).trans type_eq
  have size := payloadSize_append length (data ++ after)
  have count : (dataSize header).toInt.toNat = data.length := by omega
  have whole := whole_append length (data ++ after)
  have present : (payloadSize (header ++ (data ++ after))).toInt.toNat ≤
      ((header ++ (data ++ after)).drop headerSize).length := by
    rw [size, List.drop_left' length, count, List.length_append]
    exact Nat.le_add_right _ _
  constructor
  · rintro ⟨reaches, holds⟩
    cases reaches with
    | here =>
        obtain ⟨type', known', parsed⟩ := holds.parsed
        cases known.symm.trans known'
        rw [size, List.drop_left' length, count, List.take_left] at parsed
        exact Or.inl ⟨rfl, parsed⟩
    | unrecognised whole unknown => exact absurd (known.symm.trans unknown) nofun
    | complete whole known' reserved present later =>
        rw [size, List.drop_left' length, count, List.drop_left] at later
        exact Or.inr ⟨later, holds⟩
  · rintro (⟨rfl, parsed⟩ | ⟨reaches, holds⟩)
    · refine ⟨.here _, whole, present, by rwa [size], type, known, ?_⟩
      rwa [size, List.drop_left' length, count, List.take_left]
    · refine ⟨.complete whole known (by rwa [size]) present ?_, holds⟩
      rwa [size, List.drop_left' length, count, List.drop_left]

end Header

/-! ## What a call leaves in front of the reader -/

/-- The position behind all bytes that the reader has left. -/
def LogReader.endPosition (reader : LogReader) : Nat :=
  reader.inputStream.position + reader.inputStream.rest.length

variable (host) in
/-- A call has taken the bytes up to the end of this message, the first that was
upcoming, whatever the log gains later. -/
structure Takes (reader next : LogReader) (gained reached : List UInt8) : Prop where
  ready : next.inputStream.Ready
  endPosition : next.endPosition = reader.endPosition
  length : reached.length = headerSize + (payloadSize reached).toInt.toNat +
    (next.inputStream.rest ++ gained).length
  upcoming : ∀ other, Upcoming host (reader.inputStream.rest ++ gained) other ↔
    other = reached ∨ Upcoming host (next.inputStream.rest ++ gained) other

theorem Takes.skip {reader middle next : LogReader} {gained reached : List UInt8}
    (takes : Takes host middle next gained reached)
    (same : middle.endPosition = reader.endPosition)
    (skipped : ∀ other, Upcoming host (reader.inputStream.rest ++ gained) other ↔
      Upcoming host (middle.inputStream.rest ++ gained) other) :
    Takes host reader next gained reached where
  ready := takes.ready
  endPosition := takes.endPosition.trans same
  length := takes.length
  upcoming other := (skipped other).trans (takes.upcoming other)

theorem endPosition_pastPayload {reader : LogReader} {header data after : List UInt8}
    (layout : reader.inputStream.rest = header ++ (data ++ after))
    (length : header.length = headerSize) (type : EntryType) :
    (reader.pastPayload type data.length).endPosition = reader.endPosition := by
  have position : (reader.pastPayload type data.length).inputStream.position =
      reader.inputStream.position + headerSize + data.length := rfl
  unfold LogReader.endPosition
  rw [LogReader.rest_pastPayload layout length, layout, position, List.length_append,
    List.length_append, length]
  omega

theorem CallRounds.takes_next {reader next : LogReader} {result : Option (LogEntry Referee Wrapper)}
    (rounds : CallRounds host reader result next) (delivered : result ≠ none)
    (gained : List UInt8) : ∃ reached, Takes host reader next gained reached := by
  induction rounds with
  | exhausted => exact absurd rfl delivered
  | endOfLog => exact absurd rfl delivered
  | refused => exact absurd rfl delivered
  | truncated => exact absurd rfl delivered
  | @unrecognised reader next result header after ready layout length type_eq later ih =>
      obtain ⟨reached, takes⟩ := ih delivered
      have rest :
          (reader.withStream (reader.inputStream.advance headerSize)).inputStream.rest = after :=
        LogReader.rest_advance_header layout length
      refine ⟨reached, takes.skip ?_ fun other => ?_⟩
      · unfold LogReader.endPosition
        rw [rest, layout, List.length_append, length]
        exact Nat.add_assoc _ _ _
      · rw [rest, layout, List.append_assoc, upcoming_unrecognised length type_eq]
  | @skip reader next result header data after type ready layout length type_eq reserve_eq size
      skipped later ih =>
      obtain ⟨reached, takes⟩ := ih delivered
      refine ⟨reached, takes.skip (endPosition_pastPayload layout length type) fun other => ?_⟩
      rw [LogReader.rest_pastPayload layout length, layout, List.append_assoc, List.append_assoc,
        upcoming_complete length type_eq reserve_eq size]
      exact or_iff_right fun here => here.2 skipped
  | @deliver reader header data after type ready layout length type_eq reserve_eq size parsed =>
      have rest := LogReader.rest_pastPayload layout length type
      refine ⟨header ++ (data ++ (after ++ gained)), {
        ready := LogReader.ready_pastPayload ready type _
        endPosition := endPosition_pastPayload layout length type
        length := ?_
        upcoming := fun other => ?_ }⟩
      · rw [rest, payloadSize_append length, List.length_append, List.length_append, length]
        omega
      · rw [rest, layout, List.append_assoc, List.append_assoc,
          upcoming_complete length type_eq reserve_eq size]
        exact or_congr_left (and_iff_left parsed)

theorem CallRounds.nothing_upcoming {reader next : LogReader}
    {result : Option (LogEntry Referee Wrapper)} (rounds : CallRounds host reader result next)
    (nothing : result = none) (reached : List UInt8) :
    ¬ Upcoming host reader.inputStream.rest reached := by
  induction rounds with
  | exhausted exhausted =>
      rw [exhausted.rest]
      exact not_upcoming_short (by decide) reached
  | endOfLog short => exact not_upcoming_short short reached
  | @unrecognised reader next result header after ready layout length type_eq later ih =>
      rw [layout, upcoming_unrecognised length type_eq]
      rw [← LogReader.rest_advance_header layout length]
      exact ih nothing
  | refused ready layout length type_eq reserve_eq =>
      rw [layout]
      exact not_upcoming_unread length type_eq (Or.inl (by rw [reserve_eq]; nofun))
  | truncated layout length type_eq short =>
      rw [layout]
      exact not_upcoming_unread length type_eq (Or.inr short)
  | @skip reader next result header data after type ready layout length type_eq reserve_eq size
      skipped later ih =>
      rw [layout, upcoming_complete length type_eq reserve_eq size]
      rw [← LogReader.rest_pastPayload layout length type]
      exact not_or_intro (fun here => here.2 skipped) (ih nothing)
  | deliver => cases nothing

/-! ## Positions -/

theorem read_forward (stream : InputStream) (count : Nat) :
    stream.position ≤ (stream.read count).2.position := by
  unfold InputStream.read
  split
  · exact Nat.le_refl _
  · split
    · exact Nat.le_refl _
    · split
      · exact Nat.le_add_right _ _
      · exact Nat.le_add_right _ _

theorem extractNextEntry_forward (reader : LogReader) :
    reader.inputStream.position ≤ (extractNextEntry host reader).2.inputStream.position := by
  have header := read_forward reader.inputStream headerSize
  unfold extractNextEntry
  generalize reader.inputStream.read headerSize = outcome at header ⊢
  obtain ⟨headerBuffer, stream⟩ := outcome
  dsimp only
  split
  · exact header
  · split
    · exact header
    · split
      · exact header
      · split
        · exact header
        · split
          · exact Nat.le_trans header (read_forward stream _)
          · exact Nat.le_trans header (read_forward stream _)

theorem getNextMessage_forward {fuel : Nat} {reader next : LogReader}
    {result : Option (LogEntry Referee Wrapper)}
    (call : getNextMessage host fuel reader = some (result, next)) :
    reader.inputStream.position ≤ next.inputStream.position := by
  induction fuel generalizing reader with
  | zero => cases call
  | succ fuel ih =>
      have forward : reader.inputStream.position ≤
          (extractNextEntry host reader).2.inputStream.position := extractNextEntry_forward reader
      rw [getNextMessage] at call
      split at call
      · cases call
        exact Nat.le_refl _
      · split at call
        · next entry between extracted =>
            rw [extracted] at forward
            split at call
            · exact Nat.le_trans forward (ih call)
            · cases call
              exact forward
        · next exception between extracted =>
            rw [extracted] at forward
            cases call
            exact forward

/-! ## Runs on a growing log -/

/-- The log gains bytes behind those that it has. -/
def LogReader.gain (reader : LogReader) (bytes : List UInt8) : LogReader :=
  reader.withStream
    { reader.inputStream with rest := reader.inputStream.rest ++ bytes }

variable (host) in
/--
The loop of `main` as far as it has come, with the bytes that the log gains on
the way and the streams whose positions are rendered.  What is gained during a
call might as well have been there before it: only its last read can come up
short, and then the call ends the loop.
-/
inductive GrowingRun (logFileSize : Nat) :
    LogReader → List UInt8 → List InputStream → LogReader → Prop where
  | running (reader : LogReader) : GrowingRun logFileSize reader [] [] reader
  | grow {reader last : LogReader} {gained : List UInt8} {rendered : List InputStream}
      (bytes : List UInt8)
      (later : GrowingRun logFileSize (reader.gain bytes) gained rendered last) :
      GrowingRun logFileSize reader (bytes ++ gained) rendered last
  | stop {reader next : LogReader} (fuel : Nat)
      (call : getNextMessage host fuel reader = some (none, next)) :
      GrowingRun logFileSize reader [] [] next
  | trap {reader next : LogReader} {entry : LogEntry Referee Wrapper} (fuel : Nat)
      (call : getNextMessage host fuel reader = some (some entry, next))
      (trapped : renderProgressBar (bytesRead next.inputStream) logFileSize = none) :
      GrowingRun logFileSize reader [] [next.inputStream] next
  | render {reader next last : LogReader} {entry : LogEntry Referee Wrapper} {bar : ProgressBar}
      {gained : List UInt8} {rendered : List InputStream} (fuel : Nat)
      (call : getNextMessage host fuel reader = some (some entry, next))
      (drawn : renderProgressBar (bytesRead next.inputStream) logFileSize = some bar)
      (later : GrowingRun logFileSize next gained rendered last) :
      GrowingRun logFileSize reader gained (next.inputStream :: rendered) last

theorem LogReader.ready_gain {reader : LogReader} (ready : reader.inputStream.Ready)
    (bytes : List UInt8) : (reader.gain bytes).inputStream.Ready :=
  ⟨ready.good, ready.sound⟩

theorem fail_of_ready {stream : InputStream} (ready : stream.Ready) : stream.fail = false := by
  have good := ready.good
  simp only [InputStream.good, Bool.not_eq_true', Bool.or_eq_false_iff] at good
  rw [InputStream.fail, good.1.2, good.2]
  rfl

/-- The message that a call takes ends at its position. -/
theorem Takes.messageEnd_eq {reader next : LogReader} {gained reached log : List UInt8}
    (takes : Takes host reader next gained reached)
    (length : log.length = reader.endPosition + gained.length) :
    messageEnd log reached = next.inputStream.position := by
  have same := takes.endPosition
  have whole := takes.length
  have shorter := ((takes.upcoming reached).mpr (Or.inl rfl)).1.length_le
  unfold messageEnd
  unfold LogReader.endPosition at same length
  rw [List.length_append] at whole shorter
  omega

/-- Upcoming messages end behind the reader's position. -/
theorem position_lt_messageEnd {reader : LogReader} {gained reached log : List UInt8}
    (upcoming : Upcoming host (reader.inputStream.rest ++ gained) reached)
    (length : log.length = reader.endPosition + gained.length) :
    reader.inputStream.position < messageEnd log reached := by
  have shorter := upcoming.1.length_le
  have header : 0 < headerSize := by decide
  unfold messageEnd
  unfold LogReader.endPosition at length
  rw [List.length_append] at shorter
  omega

/-- The messages that end up to that position fit the bar. -/
def FitsUpTo (host : Host Referee Wrapper) (logFileSize : Nat) (log bytes : List UInt8)
    (position : Nat) : Prop :=
  ∀ reached, Upcoming host bytes reached → messageEnd log reached ≤ position →
    FitsBar logFileSize (messageEnd log reached)

/-- One more message is rendered. -/
theorem fitsUpTo_takes {logFileSize position : Nat} {reader next : LogReader}
    {gained reached log : List UInt8} (takes : Takes host reader next gained reached)
    (length : log.length = reader.endPosition + gained.length)
    (within : next.inputStream.position ≤ position) :
    FitsUpTo host logFileSize log (reader.inputStream.rest ++ gained) position ↔
      SafeRendering next.inputStream logFileSize ∧
        FitsUpTo host logFileSize log (next.inputStream.rest ++ gained) position := by
  have ends := takes.messageEnd_eq length
  rw [safeRendering_iff (fail_of_ready takes.ready), ← ends]
  unfold FitsUpTo
  simp only [takes.upcoming]
  constructor
  · intro fits
    exact ⟨fits reached (Or.inl rfl) (ends ▸ within),
      fun other upcoming => fits other (Or.inr upcoming)⟩
  · rintro ⟨here, behind⟩ other (rfl | upcoming) le
    · exact here
    · exact behind other upcoming le

theorem fitsUpTo_position {logFileSize : Nat} {reader : LogReader} {gained log : List UInt8}
    (length : log.length = reader.endPosition + gained.length) :
    FitsUpTo host logFileSize log (reader.inputStream.rest ++ gained)
      reader.inputStream.position := by
  intro reached upcoming within
  have behind := position_lt_messageEnd upcoming length
  omega

/-- The induction over the rounds. -/
theorem GrowingRun.safe_iff {logFileSize : Nat} {reader last : LogReader}
    {gained log : List UInt8} {rendered : List InputStream}
    (run : GrowingRun host logFileSize reader gained rendered last)
    (ready : reader.inputStream.Ready) (length : log.length = reader.endPosition + gained.length) :
    reader.inputStream.position ≤ last.inputStream.position ∧
      ((∀ stream ∈ rendered, SafeRendering stream logFileSize) ↔
        FitsUpTo host logFileSize log (reader.inputStream.rest ++ gained)
          last.inputStream.position) := by
  induction run with
  | running reader =>
      exact ⟨Nat.le_refl _, iff_of_true nofun (fitsUpTo_position length)⟩
  | @grow reader last gained rendered bytes later ih =>
      have length' : log.length = (reader.gain bytes).endPosition + gained.length := by
        have longer : (reader.gain bytes).endPosition = reader.endPosition + bytes.length := by
          unfold LogReader.endPosition LogReader.gain
          simp only [LogReader.inputStream_withStream, List.length_append]
          exact (Nat.add_assoc _ _ _).symm
        rw [longer, length, List.length_append, Nat.add_assoc]
      rw [← List.append_assoc]
      exact ih (LogReader.ready_gain ready bytes) length'
  | @stop reader next fuel call =>
      have rounds := callRounds_of_call host (Or.inl ready) call
      refine ⟨getNextMessage_forward call, iff_of_true nofun ?_⟩
      rw [List.append_nil]
      exact fun reached upcoming => absurd upcoming (rounds.nothing_upcoming rfl reached)
  | @trap reader next entry fuel call trapped =>
      obtain ⟨reached, takes⟩ :=
        (callRounds_of_call host (Or.inl ready) call).takes_next nofun []
      have length' : log.length = next.endPosition + ([] : List UInt8).length := by
        rw [takes.endPosition, length]
      refine ⟨getNextMessage_forward call, ?_⟩
      rw [fitsUpTo_takes takes length (Nat.le_refl _), and_iff_left (fitsUpTo_position length')]
      exact List.forall_mem_singleton
  | @render reader next last entry bar gained rendered fuel call drawn later ih =>
      obtain ⟨reached, takes⟩ :=
        (callRounds_of_call host (Or.inl ready) call).takes_next nofun gained
      obtain ⟨forward, safe⟩ := ih takes.ready (by rw [takes.endPosition, length])
      refine ⟨Nat.le_trans (getNextMessage_forward call) forward, ?_⟩
      rw [fitsUpTo_takes takes length forward, List.forall_mem_cons, safe]

/--
Over any log and any growth of it, the renderings of a run are safe exactly
when every message that it has come to ends less than five percent behind the
sampled size, at a position that can be multiplied by a hundred.
-/
theorem renderings_safe_iff {logFileSize : Nat} {after gained : List UInt8}
    {rendered : List InputStream} {last : LogReader}
    (run : GrowingRun host logFileSize (openedReader after) gained rendered last) :
    (∀ stream ∈ rendered, SafeRendering stream logFileSize) ↔
      FitsUpTo host logFileSize (expectedHeader ++ (after ++ gained)) (after ++ gained)
        last.inputStream.position := by
  refine (run.safe_iff (ready_openedReader after) ?_).2
  unfold LogReader.endPosition
  rw [rest_openedReader, List.length_append, List.length_append, ← Nat.add_assoc]
  rfl

/-- A message ends within its log. -/
theorem messageEnd_le {log bytes reached : List UInt8} (upcoming : Upcoming host bytes reached)
    (within : bytes.length ≤ log.length) : messageEnd log reached ≤ log.length := by
  have shorter := upcoming.1.length_le
  have whole := upcoming.2.whole
  have present := upcoming.2.present
  rw [List.length_drop] at present
  unfold messageEnd
  omega

/-- A log that has all its bytes when the size is sampled. -/
theorem fitsUpTo_sampled {logFileSize : Nat} {log bytes : List UInt8}
    (sampled : log.length ≤ logFileSize) (scaled : 100 * log.length < 18446744073709551616)
    (within : bytes.length ≤ log.length) (position : Nat) :
    FitsUpTo host logFileSize log bytes position := by
  intro reached upcoming _
  have inside := messageEnd_le upcoming within
  have header : 0 < headerSize := by decide
  have behind : headerSize ≤ messageEnd log reached := by
    unfold messageEnd
    omega
  exact ⟨by omega, Or.inl (by omega)⟩

variable (host) in
/-- The loop of a log that does not grow is such a run. -/
theorem Converts.growingRun {RosReferee RosWrapper : Type}
    {fromProto : FromProto Referee Wrapper RosReferee RosWrapper} {logFileSize : Nat}
    {reader : LogReader} {done : Conversion RosReferee RosWrapper}
    {result : Conversion RosReferee RosWrapper × LogReader}
    (converts : Converts host fromProto logFileSize reader done result) :
    ∃ rendered, GrowingRun host logFileSize reader [] rendered result.2 ∧
      result.1.console.map some = done.console.map some ++
        rendered.map fun stream => renderProgressBar (bytesRead stream) logFileSize := by
  induction converts with
  | stop fuel call => exact ⟨[], .stop fuel call, (List.append_nil _).symm⟩
  | write fuel call drawn later ih =>
      obtain ⟨rendered, run, console⟩ := ih
      refine ⟨_, .render fuel call drawn run, ?_⟩
      rw [console]
      simp only [List.map_append, List.map_cons, List.map_nil, drawn, List.append_assoc,
        List.singleton_append]

end Progress

/-! ## A log that grows -/

theorem getNextMessage_emptyVision {reader : LogReader} (ready : reader.inputStream.Ready)
    {entry : FramedEntry} (type : entry.type = 4) (empty : entry.payload = [])
    {after : List UInt8} (layout : reader.inputStream.rest = entry.encode ++ after) :
    getNextMessage byteHost 1 reader = some (some (entry.logEntry byteHost .vision2014),
      reader.pastEntry .vision2014 entry) := by
  have known : EntryType.ofRaw? entry.type = some .vision2014 := by
    rw [type]
    decide
  have extracted := extractNextEntry_framed byteHost ready layout known (Or.inr rfl)
  have delivered : entry.logEntry byteHost .vision2014 = ⟨entry.time, .wrapperPacket []⟩ := by
    rw [FramedEntry.logEntry, empty]
    rfl
  rw [delivered] at extracted ⊢
  exact getNextMessage_deliver byteHost ready.eof_eq extracted nofun 0

/-- A log of one empty packet has all its bytes from the start. -/
theorem renderings_safe_iff_sampled :
    let entry : FramedEntry := ⟨4, 4, [], by decide⟩
    ∃ rendered last, GrowingRun byteHost 32 (openedReader entry.encode) [] rendered last ∧
      rendered.length = 1 ∧ ∀ stream ∈ rendered, SafeRendering stream 32 := by
  intro entry
  have call := getNextMessage_emptyVision (ready_openedReader entry.encode) rfl rfl
    (List.append_nil entry.encode).symm
  have drawn : renderProgressBar (bytesRead ((openedReader entry.encode).pastEntry .vision2014
      entry).inputStream) 32 = some ⟨20, 0, 100⟩ := by decide +kernel
  have run := GrowingRun.render 1 call drawn (.running _)
  refine ⟨_, _, run, rfl, (renderings_safe_iff run).mpr ?_⟩
  exact fitsUpTo_sampled (by decide) (by decide) (by decide) _

/-- The size is sampled with one empty packet in the log, and another one comes
before the second call. -/
theorem grown_log_underflows :
    let entry : FramedEntry := ⟨4, 4, [], by decide⟩
    renderProgressBar 48 32 = some ⟨30, 18446744073709551606, 150⟩ ∧
    (expectedHeader ++ entry.encode).length = 32 ∧
    ∃ rendered last, GrowingRun byteHost 32 (openedReader entry.encode) entry.encode rendered last ∧
      ¬ ∀ stream ∈ rendered, SafeRendering stream 32 := by
  intro entry
  have ready := ready_openedReader entry.encode
  have call := getNextMessage_emptyVision ready rfl rfl (List.append_nil entry.encode).symm
  let grown := ((openedReader entry.encode).pastEntry .vision2014 entry).gain entry.encode
  have readyAgain : grown.inputStream.Ready :=
    LogReader.ready_gain (LogReader.ready_pastEntry ready .vision2014 entry) entry.encode
  have layout : grown.inputStream.rest = entry.encode ++ [] := by decide +kernel
  have callAgain := getNextMessage_emptyVision readyAgain rfl rfl layout
  have drawn : renderProgressBar (bytesRead ((openedReader entry.encode).pastEntry .vision2014
      entry).inputStream) 32 = some ⟨20, 0, 100⟩ := by decide +kernel
  have drawnAgain : renderProgressBar (bytesRead (grown.pastEntry .vision2014
      entry).inputStream) 32 = some ⟨30, 18446744073709551606, 150⟩ := by decide +kernel
  have run := GrowingRun.render 1 call drawn
    (.grow entry.encode (.render 1 callAgain drawnAgain (.running _)))
  rw [List.append_nil] at run
  refine ⟨by decide +kernel, by decide +kernel, _, _, run, fun safe => ?_⟩
  have second := safe (grown.pastEntry .vision2014 entry).inputStream (.tail _ (.head _))
  obtain ⟨bar, rendered, width⟩ := second.bar
  cases drawnAgain.symm.trans rendered
  exact absurd width (by decide)

end SslRosBridge.Log2bag
