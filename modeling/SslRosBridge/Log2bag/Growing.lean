import SslRosBridge.Log2bag.Decoding
import SslRosBridge.Log2bag.Progress

/-!
# Converting a log that grows

Another process may append to the log while it is converted.  When that happens
does not matter: the conversion is the one of the bytes that the log has when
the loop stops.
-/

namespace SslRosBridge.Log2bag

open Library

section Growing

variable {Referee Wrapper : Type} (host : Host Referee Wrapper)

/-! ## Bytes that arrive early -/

theorem gain_nil (reader : LogReader) : reader.gain [] = reader := by
  unfold LogReader.gain
  rw [List.append_nil]
  rfl

theorem gain_gain (reader : LogReader) (first second : List UInt8) :
    (reader.gain first).gain second = reader.gain (first ++ second) := by
  unfold LogReader.gain
  simp only [LogReader.inputStream_withStream, List.append_assoc]
  rfl

theorem advance_append {stream : InputStream} {count : Nat} (within : count ≤ stream.rest.length)
    (bytes : List UInt8) :
    ({ stream with rest := stream.rest ++ bytes } : InputStream).advance count =
      { stream.advance count with rest := (stream.advance count).rest ++ bytes } := by
  simp only [InputStream.advance, List.drop_append_of_le_length within]

variable {reader : LogReader} {header data after : List UInt8}

theorem pastUnrecognised_gain (layout : reader.inputStream.rest = header ++ after)
    (length : header.length = headerSize) (bytes : List UInt8) :
    (reader.gain bytes).withStream ((reader.gain bytes).inputStream.advance headerSize) =
      (reader.withStream (reader.inputStream.advance headerSize)).gain bytes := by
  have within : headerSize ≤ reader.inputStream.rest.length := by
    rw [layout]
    exact whole_append length after
  simp only [LogReader.gain, LogReader.inputStream_withStream, advance_append within]
  rfl

theorem pastPayload_gain (layout : reader.inputStream.rest = header ++ (data ++ after))
    (length : header.length = headerSize) (type : EntryType) (bytes : List UInt8) :
    (reader.gain bytes).pastPayload type data.length =
      (reader.pastPayload type data.length).gain bytes := by
  have header_within : headerSize ≤ reader.inputStream.rest.length := by
    rw [layout]
    exact whole_append length _
  have between : (reader.inputStream.advance headerSize).rest = data ++ after :=
    LogReader.rest_advance_header layout length
  have payload_within : data.length ≤ (reader.inputStream.advance headerSize).rest.length := by
    rw [between, List.length_append]
    exact Nat.le_add_right _ _
  have stream : ((reader.gain bytes).inputStream.advance headerSize).advance data.length =
      { (reader.inputStream.advance headerSize).advance data.length with
        rest := ((reader.inputStream.advance headerSize).advance data.length).rest ++ bytes } := by
    simp only [LogReader.gain, LogReader.inputStream_withStream, advance_append header_within,
      advance_append payload_within]
  exact congrArg ((reader.pastHeader type).withStream ·) stream

/-- A message is delivered from the bytes in front of those gained later. -/
theorem getNextMessage_gain {fuel : Nat} {next : LogReader} {entry : LogEntry Referee Wrapper}
    (ready : reader.inputStream.Ready)
    (call : getNextMessage host fuel reader = some (some entry, next)) (bytes : List UInt8) :
    getNextMessage host fuel (reader.gain bytes) = some (some entry, next.gain bytes) := by
  induction fuel generalizing reader with
  | zero => cases call
  | succ fuel ih =>
      have ready' := LogReader.ready_gain ready bytes
      have exhausted : ∀ {stopped : LogReader}, stopped.inputStream.Exhausted →
          getNextMessage host fuel stopped ≠ some (some entry, next) := by
        intro stopped ended call
        cases fuel with
        | zero => cases call
        | succ fuel => cases (getNextMessage_exhausted host ended fuel).symm.trans call
      have cases := extractNextEntry_cases host ready
      generalize extracted : extractNextEntry host reader = outcome at cases
      cases cases with
      | endOfLog short ended =>
          rw [getNextMessage_skip host ready.eof_eq extracted rfl] at call
          exact absurd call (exhausted ended)
      | @unrecognised header after layout length type_eq =>
          rw [getNextMessage_skip host ready.eof_eq extracted rfl] at call
          have layout' : (reader.gain bytes).inputStream.rest = header ++ (after ++ bytes) := by
            rw [← List.append_assoc, ← layout]
            rfl
          have extracted' := extractNextEntry_unrecognised host ready' layout' length type_eq
          rw [pastUnrecognised_gain layout length] at extracted'
          rw [getNextMessage_skip host ready'.eof_eq extracted' rfl]
          exact ih (ready.advance headerSize) call
      | refused layout length type_eq reserve_eq =>
          rw [getNextMessage_error host ready.eof_eq extracted] at call
          cases call
      | truncated layout length type_eq reserve_eq short ended =>
          rw [getNextMessage_skip host ready.eof_eq extracted rfl] at call
          exact absurd call (exhausted ended)
      | @complete header data after type layout length type_eq reserve_eq size =>
          have layout' : (reader.gain bytes).inputStream.rest =
              header ++ (data ++ (after ++ bytes)) := by
            rw [← List.append_assoc data, ← List.append_assoc, ← layout]
            rfl
          have extracted' :=
            extractNextEntry_complete host ready' layout' length type_eq reserve_eq size
          have past := pastPayload_gain layout length type bytes
          simp only [LogReader.pastPayload] at past
          rw [past] at extracted'
          by_cases skipped : parsePayload host type data = .monostate
          · rw [getNextMessage_skip host ready.eof_eq extracted skipped] at call
            rw [getNextMessage_skip host ready'.eof_eq extracted' skipped]
            exact ih (LogReader.ready_pastPayload ready type _) call
          · rw [getNextMessage_deliver host ready.eof_eq extracted skipped] at call
            rw [getNextMessage_deliver host ready'.eof_eq extracted' skipped]
            cases call
            rfl

section Converting

variable {RosReferee RosWrapper : Type}
variable (fromProto : FromProto Referee Wrapper RosReferee RosWrapper)

/--
The loop of `main` on a log that gains bytes between the calls.  Bytes that it
gains during a call count as gained before it.
-/
inductive GrowingConversion (logFileSize : Nat) :
    LogReader → Conversion RosReferee RosWrapper → List UInt8 →
      Conversion RosReferee RosWrapper × LogReader → Prop where
  | grow {reader : LogReader} {done : Conversion RosReferee RosWrapper} {gained : List UInt8}
      {result : Conversion RosReferee RosWrapper × LogReader} (bytes : List UInt8)
      (later : GrowingConversion logFileSize (reader.gain bytes) done gained result) :
      GrowingConversion logFileSize reader done (bytes ++ gained) result
  | stop {reader next : LogReader} {done : Conversion RosReferee RosWrapper} (fuel : Nat)
      (call : getNextMessage host fuel reader = some (none, next)) :
      GrowingConversion logFileSize reader done [] (done, next)
  | write {reader next : LogReader} {done : Conversion RosReferee RosWrapper}
      {gained : List UInt8} {result : Conversion RosReferee RosWrapper × LogReader}
      {entry : LogEntry Referee Wrapper} {bar : ProgressBar} (fuel : Nat)
      (call : getNextMessage host fuel reader = some (some entry, next))
      (rendered : renderProgressBar (bytesRead next.inputStream) logFileSize = some bar)
      (later : GrowingConversion logFileSize next
        { bag := writeEntry fromProto entry done.bag, console := done.console ++ [bar] }
        gained result) :
      GrowingConversion logFileSize reader done gained result

/-- The whole growth can be moved in front of the run. -/
theorem GrowingConversion.converts {logFileSize : Nat} {done : Conversion RosReferee RosWrapper}
    {gained : List UInt8} {result : Conversion RosReferee RosWrapper × LogReader}
    (run : GrowingConversion host fromProto logFileSize reader done gained result)
    (ready : reader.inputStream.Ready) :
    Converts host fromProto logFileSize (reader.gain gained) done result := by
  induction run with
  | @grow reader done gained result bytes later ih =>
      rw [← gain_gain]
      exact ih (LogReader.ready_gain ready bytes)
  | stop fuel call =>
      rw [gain_nil]
      exact .stop fuel call
  | @write reader next done gained result entry bar fuel call rendered later ih =>
      have called := callRounds_of_call host (Or.inl ready) call
      obtain ⟨reached, takes⟩ := called.takes_next nofun gained
      exact .write fuel (getNextMessage_gain host ready call gained) rendered (ih takes.ready)

theorem Converts.unique {logFileSize : Nat} {done : Conversion RosReferee RosWrapper}
    {result result' : Conversion RosReferee RosWrapper × LogReader}
    (converts : Converts host fromProto logFileSize reader done result)
    (converts' : Converts host fromProto logFileSize reader done result') : result = result' := by
  obtain ⟨least, finishes⟩ := converts.finishes
  obtain ⟨least', finishes'⟩ := converts'.finishes
  have first := finishes (max least least') (Nat.le_max_left _ _)
  have second := finishes' (max least least') (Nat.le_max_right _ _)
  cases first.symm.trans second
  rfl

theorem openedReader_gain (after bytes : List UInt8) :
    (openedReader after).gain bytes = openedReader (after ++ bytes) := rfl

/-- A loop that has ended with a zero size has drawn nothing. -/
theorem Converts.of_zero {done : Conversion RosReferee RosWrapper}
    {result : Conversion RosReferee RosWrapper × LogReader}
    (converts : Converts host fromProto 0 reader done result) :
    Converts host fromProto 1 reader done result := by
  cases converts with
  | stop fuel call => exact .stop fuel call
  | write fuel call rendered later => cases rendered

/-- A finished loop has written what the scan of the log puts out. -/
theorem Converts.convertsTo {logFileSize : Nat} {after : List UInt8}
    {result : Conversion RosReferee RosWrapper × LogReader}
    (converts : Converts host fromProto logFileSize (openedReader after) {} result) :
    ConvertsTo host fromProto (expectedHeader ++ after) result.1.bag
      result.2.entryTypeCounts := by
  have sized : ∃ size, size ≠ 0 ∧ Converts host fromProto size (openedReader after) {} result := by
    by_cases empty : logFileSize = 0
    · subst empty
      exact ⟨1, Nat.one_ne_zero, converts.of_zero host fromProto⟩
    · exact ⟨logFileSize, empty, converts⟩
  obtain ⟨size, nonempty, converts⟩ := sized
  obtain ⟨other, converts', bag, counts⟩ := converts_scan host fromProto nonempty after
    (ready_openedReader after) (rest_openedReader after) {}
  cases converts.unique host fromProto converts'
  have scanned := convertsTo_scan host fromProto after
  have counted : result.2.entryTypeCounts = headersOf (scanLog host after) :=
    funext fun type => (counts type).trans (Nat.zero_add _)
  rw [counted, show result.1.bag = bagOf host fromProto (scanLog host after).outputs from bag]
  exact scanned

/--
Whenever the log gains its bytes, the conversion gives the bag and the counts
that the final log gives when it is converted at once.
-/
theorem growing_converts_at_once {logFileSize : Nat} {after gained : List UInt8}
    {result : Conversion RosReferee RosWrapper × LogReader}
    (run : GrowingConversion host fromProto logFileSize (openedReader after) {} gained result) :
    ConvertsTo host fromProto (expectedHeader ++ (after ++ gained)) result.1.bag
      result.2.entryTypeCounts := by
  have converts := run.converts host fromProto (ready_openedReader after)
  rw [openedReader_gain] at converts
  exact converts.convertsTo host fromProto

/-- The log of one entry that gains another before the second call. -/
theorem growing_two_entries :
    let entry : FramedEntry := ⟨4, 4, [], by decide⟩
    let fromProto : FromProto (List UInt8) (List UInt8) (List UInt8) (List UInt8) := ⟨id, id⟩
    ∃ result, GrowingConversion byteHost fromProto 48 (openedReader entry.encode) {} entry.encode
      result ∧ result.1.console = [⟨13, 7, 66⟩, ⟨20, 0, 100⟩] := by
  intro entry fromProto
  have ready := ready_openedReader entry.encode
  have call := getNextMessage_emptyVision ready rfl rfl (List.append_nil entry.encode).symm
  let grown := ((openedReader entry.encode).pastEntry .vision2014 entry).gain entry.encode
  have readyAgain : grown.inputStream.Ready :=
    LogReader.ready_gain (LogReader.ready_pastEntry ready .vision2014 entry) entry.encode
  have layout : grown.inputStream.rest = entry.encode ++ [] := by decide +kernel
  have callAgain := getNextMessage_emptyVision readyAgain rfl rfl layout
  have drawn : renderProgressBar (bytesRead ((openedReader entry.encode).pastEntry .vision2014
      entry).inputStream) 48 = some ⟨13, 7, 66⟩ := by decide +kernel
  have drawnAgain : renderProgressBar (bytesRead (grown.pastEntry .vision2014
      entry).inputStream) 48 = some ⟨20, 0, 100⟩ := by decide +kernel
  have atEnd : (grown.pastEntry .vision2014 entry).inputStream.rest = [] :=
    LogReader.rest_pastEntry layout .vision2014
  have readyAtEnd := LogReader.ready_pastEntry readyAgain .vision2014 entry
  have short : (grown.pastEntry .vision2014 entry).inputStream.rest.length < headerSize := by
    rw [atEnd]
    decide
  have last := (getNextMessage_skip byteHost readyAtEnd.eof_eq
    (extractNextEntry_short byteHost readyAtEnd short) rfl 1).trans
    (getNextMessage_exhausted byteHost (readyAtEnd.read_short_exhausted short) 0)
  have run : GrowingConversion byteHost fromProto 48 (openedReader entry.encode) {}
      (entry.encode ++ []) _ :=
    .write 1 call drawn (.grow entry.encode (.write 1 callAgain drawnAgain (.stop 2 last)))
  rw [List.append_nil] at run
  exact ⟨_, run, rfl⟩

theorem growing_converts_at_once_two_entries :
    let entry : FramedEntry := ⟨4, 4, [], by decide⟩
    let fromProto : FromProto (List UInt8) (List UInt8) (List UInt8) (List UInt8) := ⟨id, id⟩
    ∃ result, GrowingConversion byteHost fromProto 48 (openedReader entry.encode) {} entry.encode
        result ∧
      ConvertsTo byteHost fromProto (expectedHeader ++ (entry.encode ++ entry.encode))
        result.1.bag result.2.entryTypeCounts := by
  intro entry fromProto
  obtain ⟨result, run, -⟩ := growing_two_entries
  exact ⟨result, run, growing_converts_at_once byteHost fromProto run⟩

/-! ## The bars of a run -/

theorem position_lt_of_takes {next : LogReader} {reached : List UInt8}
    (takes : Takes host reader next [] reached) :
    reader.inputStream.position < next.inputStream.position := by
  have same := takes.endPosition
  have whole := takes.length
  have shorter := ((takes.upcoming reached).mpr (Or.inl rfl)).1.length_le
  have header : 0 < headerSize := by decide
  unfold LogReader.endPosition at same
  rw [List.append_nil] at whole shorter
  omega

theorem bytesRead_of_ready {stream : InputStream} (ready : stream.Ready)
    (small : stream.position < 18446744073709551616) : bytesRead stream = stream.position := by
  rw [bytesRead, InputStream.tellg, fail_of_ready ready]
  simp only [Bool.false_eq_true, if_false]
  omega

/-- The bars are drawn for growing positions within the log. -/
theorem Converts.positions {logFileSize : Nat} {done : Conversion RosReferee RosWrapper}
    {result : Conversion RosReferee RosWrapper × LogReader}
    (converts : Converts host fromProto logFileSize reader done result)
    (ready : reader.inputStream.Ready) (small : reader.endPosition < 18446744073709551616) :
    ∃ positions : List Nat, positions.Pairwise (· < ·) ∧
      (∀ position ∈ positions,
        reader.inputStream.position < position ∧ position ≤ reader.endPosition) ∧
      result.1.console.map some = done.console.map some ++
        positions.map (renderProgressBar · logFileSize) := by
  induction converts with
  | stop fuel call => exact ⟨[], .nil, nofun, (List.append_nil _).symm⟩
  | @write reader next done result entry bar fuel call rendered later ih =>
      obtain ⟨reached, takes⟩ := (callRounds_of_call host (Or.inl ready) call).takes_next nofun []
      have forward := position_lt_of_takes host takes
      have same := takes.endPosition
      have within : next.inputStream.position ≤ next.endPosition := Nat.le_add_right _ _
      obtain ⟨positions, sorted, bounds, console⟩ := ih takes.ready (same ▸ small)
      refine ⟨next.inputStream.position :: positions, ?_, ?_, ?_⟩
      · exact .cons (fun position member => (bounds position member).1) sorted
      · refine List.forall_mem_cons.mpr ⟨⟨forward, same ▸ within⟩, fun position member => ?_⟩
        have bound := bounds position member
        omega
      · rw [bytesRead_of_ready takes.ready (by omega)] at rendered
        rw [console]
        simp only [List.map_append, List.map_cons, List.map_nil, rendered, List.append_assoc,
          List.singleton_append]

/-- The percentage of a position that can be multiplied by a hundred. -/
theorem percent_of_scaled {logFileSize position : Nat} {bar : ProgressBar}
    (scaled : position * 100 < 18446744073709551616)
    (rendered : renderProgressBar position logFileSize = some bar) :
    bar.percent = position * 100 / logFileSize := by
  unfold renderProgressBar at rendered
  split at rendered
  · cases rendered
  · cases rendered
    exact congrArg (· / logFileSize) (Nat.mod_eq_of_lt scaled)

/-- A position within the sampled size is drawn as part of the whole bar. -/
theorem bar_of_within {logFileSize position : Nat} {bar : ProgressBar}
    (scaled : position * 100 < 18446744073709551616) (within : position ≤ logFileSize)
    (rendered : renderProgressBar position logFileSize = some bar) :
    bar.percent ≤ 100 ∧ bar.filled = bar.percent / 5 ∧ bar.filled + bar.blank = barWidth := by
  have percent := percent_of_scaled scaled rendered
  have nonzero : logFileSize ≠ 0 := by
    rintro rfl
    cases rendered
  have most : bar.percent ≤ 100 := by
    rw [percent]
    exact Nat.div_le_of_le_mul (Nat.mul_le_mul_right 100 within)
  unfold renderProgressBar at rendered
  rw [if_neg nonzero] at rendered
  cases rendered
  dsimp only at most ⊢
  generalize position * 100 % 2 ^ 64 / logFileSize = percent at most ⊢
  have marks : percent * 20 % 18446744073709551616 = percent * 20 :=
    Nat.mod_eq_of_lt (by omega)
  have few : percent * 20 % 18446744073709551616 / 100 ≤ 20 := by omega
  refine ⟨most, ?_, (filled_add_blank_iff (by omega)).mpr few⟩
  change percent * 20 % 18446744073709551616 / 100 = percent / 5
  omega

theorem endPosition_openedReader (after : List UInt8) :
    (openedReader after).endPosition = (expectedHeader ++ after).length := by
  unfold LogReader.endPosition
  rw [rest_openedReader, List.length_append]
  rfl

/--
The percentages of a run never fall, even if the log grows meanwhile.  While
all its bytes are within the sampled size none exceeds a hundred, and each bar
has its width with one mark for every five percent.
-/
theorem percents_ascend {logFileSize : Nat} {after gained : List UInt8}
    {result : Conversion RosReferee RosWrapper × LogReader}
    (run : GrowingConversion host fromProto logFileSize (openedReader after) {} gained result)
    (scaled : (expectedHeader ++ (after ++ gained)).length * 100 < 18446744073709551616) :
    result.1.console.Pairwise (fun earlier later => earlier.percent ≤ later.percent) ∧
      ((expectedHeader ++ (after ++ gained)).length ≤ logFileSize →
        ∀ bar ∈ result.1.console, bar.percent ≤ 100 ∧ bar.filled = bar.percent / 5 ∧
          bar.filled + bar.blank = barWidth) := by
  have converts := run.converts host fromProto (ready_openedReader after)
  rw [openedReader_gain] at converts
  have ends := endPosition_openedReader (after ++ gained)
  obtain ⟨positions, sorted, bounds, console⟩ :=
    converts.positions host fromProto (ready_openedReader _) (by omega)
  have drawn : result.1.console.map some = positions.map (renderProgressBar · logFileSize) :=
    console
  have small : ∀ position ∈ positions, position * 100 < 18446744073709551616 := by
    intro position member
    have bound := (bounds position member).2
    omega
  constructor
  · have ascending : (positions.map (renderProgressBar · logFileSize)).Pairwise
        fun earlier later => ∀ bar bar', earlier = some bar → later = some bar' →
          bar.percent ≤ bar'.percent := by
      refine List.pairwise_map.mpr (sorted.imp_of_mem ?_)
      intro earlier later inside inside' before bar bar' rendered rendered'
      rw [percent_of_scaled (small _ inside) rendered,
        percent_of_scaled (small _ inside') rendered']
      exact Nat.div_le_div_right (Nat.mul_le_mul_right 100 (Nat.le_of_lt before))
    rw [← drawn] at ascending
    exact (List.pairwise_map.mp ascending).imp fun rising => rising _ _ rfl rfl
  · intro within bar member
    have listed : some bar ∈ positions.map (renderProgressBar · logFileSize) :=
      drawn ▸ List.mem_map_of_mem member
    obtain ⟨position, inside, rendered⟩ := List.mem_map.mp listed
    have bound := (bounds position inside).2
    exact bar_of_within (small position inside) (by omega) rendered

theorem percents_ascend_two_entries :
    let entry : FramedEntry := ⟨4, 4, [], by decide⟩
    let fromProto : FromProto (List UInt8) (List UInt8) (List UInt8) (List UInt8) := ⟨id, id⟩
    ∃ result, GrowingConversion byteHost fromProto 48 (openedReader entry.encode) {} entry.encode
        result ∧ result.1.console.length = 2 ∧
      result.1.console.Pairwise (fun earlier later => earlier.percent ≤ later.percent) ∧
      ∀ bar ∈ result.1.console, bar.percent ≤ 100 ∧ bar.filled = bar.percent / 5 ∧
        bar.filled + bar.blank = barWidth := by
  intro entry fromProto
  obtain ⟨result, run, console⟩ := growing_two_entries
  obtain ⟨ascending, bars⟩ := percents_ascend byteHost fromProto run (by decide)
  exact ⟨result, run, by rw [console]; rfl, ascending, bars (by decide)⟩

end Converting

end Growing

end SslRosBridge.Log2bag
