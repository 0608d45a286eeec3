import SslRosBridge.Log2bag.Extraction

/-!
# Successive calls of `GetNextMessage`

One call steps over the entries that carry no message.  Its result does not
depend on the fuel, and it ends on every source that stays readable.
-/

namespace SslRosBridge.Log2bag

open Library

/-- A reader over a source that stays readable: good, or at its end. -/
def LogReader.Sound (reader : LogReader) : Prop :=
  reader.inputStream.Ready ∨ reader.inputStream.Exhausted

/-- The reader that the constructor makes behind a valid file header. -/
def openedReader (after : List UInt8) : LogReader :=
  ⟨(InputStream.ofBytes (expectedHeader ++ after)).advance headerSize, fun _ => 0⟩

theorem openLog_expectedHeader (after : List UInt8) :
    openLog (.ofBytes (expectedHeader ++ after)) = .ok (openedReader after) := by
  have ready := InputStream.ready_ofBytes (expectedHeader ++ after)
  have taken : (InputStream.ofBytes (expectedHeader ++ after)).read headerSize =
      (expectedHeader, (InputStream.ofBytes (expectedHeader ++ after)).advance headerSize) :=
    ready.read_append rfl
  unfold openLog
  rw [taken]
  rfl

theorem ready_openedReader (after : List UInt8) : (openedReader after).inputStream.Ready :=
  (InputStream.ready_ofBytes _).advance headerSize

@[simp] theorem rest_openedReader (after : List UInt8) :
    (openedReader after).inputStream.rest = after := rfl

section Calls

variable {Referee Wrapper : Type} (host : Host Referee Wrapper)

/-- An entry that holds neither kind of message is stepped over. -/
def LogEntry.skipped (entry : LogEntry Referee Wrapper) : Prop := entry.message = .monostate

theorem getNextMessage_exhausted {reader : LogReader} (exhausted : reader.inputStream.Exhausted)
    (fuel : Nat) : getNextMessage host (fuel + 1) reader = some (none, reader) := by
  rw [getNextMessage, if_pos exhausted.eof]

theorem getNextMessage_skip {reader next : LogReader} {entry : LogEntry Referee Wrapper}
    (going : reader.inputStream.eof = false)
    (extracted : extractNextEntry host reader = (.ok entry, next)) (skipped : entry.skipped)
    (fuel : Nat) : getNextMessage host (fuel + 1) reader = getNextMessage host fuel next := by
  have skip : entry.message = .monostate := skipped
  rw [getNextMessage, if_neg (by simp [going]), extracted]
  simp only [skip]

theorem getNextMessage_deliver {reader next : LogReader} {entry : LogEntry Referee Wrapper}
    (going : reader.inputStream.eof = false)
    (extracted : extractNextEntry host reader = (.ok entry, next)) (delivered : ¬ entry.skipped)
    (fuel : Nat) : getNextMessage host (fuel + 1) reader = some (some entry, next) := by
  rw [getNextMessage, if_neg (by simp [going]), extracted]
  cases message : entry.message with
  | monostate => exact absurd message delivered
  | referee value => simp only [message]
  | wrapperPacket value => simp only [message]

theorem getNextMessage_error {reader next : LogReader} {exception : StdException}
    (going : reader.inputStream.eof = false)
    (extracted : extractNextEntry host reader = (.error exception, next)) (fuel : Nat) :
    getNextMessage host (fuel + 1) reader = some (none, next) := by
  rw [getNextMessage, if_neg (by simp [going]), extracted]

/-- More fuel does not change a result. -/
theorem getNextMessage_mono {fuel more : Nat} (le : fuel ≤ more) {reader : LogReader}
    {result : Option (LogEntry Referee Wrapper) × LogReader}
    (call : getNextMessage host fuel reader = some result) :
    getNextMessage host more reader = some result := by
  induction fuel generalizing more reader with
  | zero => cases call
  | succ fuel ih =>
      obtain ⟨more, rfl⟩ : ∃ n, more = n + 1 := ⟨more - 1, by omega⟩
      rw [getNextMessage] at call ⊢
      split
      · next eof => rwa [if_pos eof] at call
      · next notEof =>
        rw [if_neg notEof] at call
        split at call
        · split at call
          · exact ih (Nat.le_of_succ_le_succ le) call
          · exact call
        · exact call

/-- Two results of the same call agree, whatever the fuel. -/
theorem getNextMessage_unique {fuel fuel' : Nat} {reader : LogReader}
    {result result' : Option (LogEntry Referee Wrapper) × LogReader}
    (call : getNextMessage host fuel reader = some result)
    (call' : getNextMessage host fuel' reader = some result') : result = result' := by
  have first := getNextMessage_mono host (Nat.le_max_left fuel fuel') call
  have second := getNextMessage_mono host (Nat.le_max_right fuel fuel') call'
  exact Option.some.inj (first.symm.trans second)

/-- A header whose payload reservation throws stands in front of `after`. -/
structure RefusedHeader (before after : List UInt8) : Prop where
  refused : ∃ taken header, before = taken ++ (header ++ after) ∧ header.length = headerSize ∧
    (EntryType.ofRaw? (entryTypeRaw header)).isSome ∧
    ((dataSize header).toInt < 0 ∨
      (0 < (dataSize header).toInt ∧ host.allocates (dataSize header).toInt.toNat = false))

theorem RefusedHeader.prepend {before after : List UInt8}
    (refused : RefusedHeader host before after) (front : List UInt8) :
    RefusedHeader host (front ++ before) after := by
  obtain ⟨taken, header, layout, rest⟩ := refused.refused
  exact ⟨front ++ taken, header, by rw [layout, List.append_assoc], rest⟩

/-- What one call leaves behind: it moves forward in the source, it delivers
a message only from bytes it has taken, and it returns nothing only at the end
or behind a refused header. -/
structure CallResult (before : List UInt8) (result : Option (LogEntry Referee Wrapper))
    (next : LogReader) : Prop where
  sound : next.Sound
  forward : ∃ taken, before = taken ++ next.inputStream.rest
  progress : result ≠ none → next.inputStream.rest.length < before.length
  message : ∀ entry, result = some entry → ¬ entry.skipped
  stop : result = none →
    next.inputStream.Exhausted ∨
      (next.inputStream.Ready ∧ RefusedHeader host before next.inputStream.rest)

theorem CallResult.prepend {before : List UInt8} {result : Option (LogEntry Referee Wrapper)}
    {next : LogReader} (done : CallResult host before result next) (front : List UInt8) :
    CallResult host (front ++ before) result next where
  sound := done.sound
  forward := by
    obtain ⟨taken, layout⟩ := done.forward
    exact ⟨front ++ taken, by rw [layout, List.append_assoc]⟩
  progress := fun delivered => by
    have shorter := done.progress delivered
    rw [List.length_append]
    omega
  message := done.message
  stop := fun stopped => (done.stop stopped).imp id fun ⟨ready, refused⟩ =>
    ⟨ready, refused.prepend host front⟩

theorem callResult_exhausted {reader : LogReader} (exhausted : reader.inputStream.Exhausted)
    (before : List UInt8) :
    CallResult host before (none : Option (LogEntry Referee Wrapper)) reader where
  sound := Or.inr exhausted
  forward := ⟨before, by rw [exhausted.rest, List.append_nil]⟩
  progress := fun delivered => absurd rfl delivered
  message := nofun
  stop := fun _ => Or.inl exhausted

/-! ## The rounds of a call -/

/-- The rounds of one call on a readable source, with what each of them takes. -/
inductive CallRounds :
    LogReader → Option (LogEntry Referee Wrapper) → LogReader → Prop where
  | exhausted {reader : LogReader} (exhausted : reader.inputStream.Exhausted) :
      CallRounds reader none reader
  | endOfLog {reader : LogReader} {stream : InputStream}
      (short : reader.inputStream.rest.length < headerSize) (exhausted : stream.Exhausted) :
      CallRounds reader none (reader.withStream stream)
  | unrecognised {reader next : LogReader} {result : Option (LogEntry Referee Wrapper)}
      {header after : List UInt8} (ready : reader.inputStream.Ready)
      (layout : reader.inputStream.rest = header ++ after) (length : header.length = headerSize)
      (type_eq : EntryType.ofRaw? (entryTypeRaw header) = none)
      (later : CallRounds (reader.withStream (reader.inputStream.advance headerSize)) result next) :
      CallRounds reader result next
  | refused {reader : LogReader} {header after : List UInt8} {type : EntryType}
      {exception : StdException} (ready : reader.inputStream.Ready)
      (layout : reader.inputStream.rest = header ++ after) (length : header.length = headerSize)
      (type_eq : EntryType.ofRaw? (entryTypeRaw header) = some type)
      (reserve_eq : reserve host (dataSize header) = .error exception) :
      CallRounds reader none (reader.pastHeader type)
  | truncated {reader : LogReader} {header after : List UInt8} {type : EntryType}
      {stream : InputStream} (layout : reader.inputStream.rest = header ++ after)
      (length : header.length = headerSize)
      (type_eq : EntryType.ofRaw? (entryTypeRaw header) = some type)
      (short : after.length < (dataSize header).toInt.toNat) (exhausted : stream.Exhausted) :
      CallRounds reader none ((reader.pastHeader type).withStream stream)
  | skip {reader next : LogReader} {result : Option (LogEntry Referee Wrapper)}
      {header data after : List UInt8} {type : EntryType} (ready : reader.inputStream.Ready)
      (layout : reader.inputStream.rest = header ++ (data ++ after))
      (length : header.length = headerSize)
      (type_eq : EntryType.ofRaw? (entryTypeRaw header) = some type)
      (reserve_eq : reserve host (dataSize header) = .ok ())
      (size : (data.length : Int) = (dataSize header).toInt)
      (skipped : parsePayload host type data = .monostate)
      (later : CallRounds (reader.pastPayload type data.length) result next) :
      CallRounds reader result next
  | deliver {reader : LogReader} {header data after : List UInt8} {type : EntryType}
      (ready : reader.inputStream.Ready)
      (layout : reader.inputStream.rest = header ++ (data ++ after))
      (length : header.length = headerSize)
      (type_eq : EntryType.ofRaw? (entryTypeRaw header) = some type)
      (reserve_eq : reserve host (dataSize header) = .ok ())
      (size : (data.length : Int) = (dataSize header).toInt)
      (delivered : parsePayload host type data ≠ .monostate) :
      CallRounds reader (some ⟨receivedTime header, parsePayload host type data⟩)
        (reader.pastPayload type data.length)

/-- The induction over the fuel: a round that goes on takes at least a header. -/
theorem callRounds_total {reader : LogReader} (sound : reader.Sound) {fuel : Nat}
    (enough : reader.inputStream.rest.length / 16 + 2 ≤ fuel) :
    ∃ result next, getNextMessage host fuel reader = some (result, next) ∧
      CallRounds host reader result next := by
  induction fuel generalizing reader with
  | zero => omega
  | succ fuel ih =>
      rcases sound with ready | exhausted
      · have cases := extractNextEntry_cases host ready
        generalize extracted : extractNextEntry host reader = outcome at cases
        cases cases with
        | endOfLog short exhausted =>
            rw [getNextMessage_skip host ready.eof_eq extracted rfl]
            obtain ⟨fuel, rfl⟩ : ∃ n, fuel = n + 1 := ⟨fuel - 1, by omega⟩
            exact ⟨none, _, getNextMessage_exhausted host exhausted fuel, .endOfLog short exhausted⟩
        | @unrecognised header after layout length type_eq =>
            rw [getNextMessage_skip host ready.eof_eq extracted rfl]
            have rest :
                (reader.withStream
                  (reader.inputStream.advance headerSize)).inputStream.rest = after :=
              LogReader.rest_advance_header layout length
            have shorter : after.length / 16 + 2 ≤ fuel := by
              simp only [layout, List.length_append, length, headerSize] at enough ⊢
              omega
            obtain ⟨result, next, call, later⟩ :=
              ih (Or.inl (ready.advance headerSize)) (rest.symm ▸ shorter)
            exact ⟨result, next, call, .unrecognised ready layout length type_eq later⟩
        | refused layout length type_eq reserve_eq =>
            exact ⟨none, _, getNextMessage_error host ready.eof_eq extracted fuel,
              .refused ready layout length type_eq reserve_eq⟩
        | truncated layout length type_eq reserve_eq short exhausted =>
            rw [getNextMessage_skip host ready.eof_eq extracted rfl]
            obtain ⟨fuel, rfl⟩ : ∃ n, fuel = n + 1 := ⟨fuel - 1, by omega⟩
            exact ⟨none, _, getNextMessage_exhausted host exhausted fuel,
              .truncated layout length type_eq short exhausted⟩
        | @complete header data after type layout length type_eq reserve_eq size =>
            by_cases skipped : parsePayload host type data = .monostate
            · rw [getNextMessage_skip host ready.eof_eq extracted skipped]
              have rest := LogReader.rest_pastPayload layout length type
              have shorter : after.length / 16 + 2 ≤ fuel := by
                simp only [layout, List.length_append, length, headerSize] at enough ⊢
                omega
              obtain ⟨result, next, call, later⟩ :=
                ih (Or.inl (LogReader.ready_pastPayload ready type _)) (rest.symm ▸ shorter)
              exact ⟨result, next, call,
                .skip ready layout length type_eq reserve_eq size skipped later⟩
            · exact ⟨_, _, getNextMessage_deliver host ready.eof_eq extracted skipped fuel,
                .deliver ready layout length type_eq reserve_eq size skipped⟩
      · exact ⟨none, reader, getNextMessage_exhausted host exhausted fuel, .exhausted exhausted⟩

/-- A call on a readable source went through such rounds, whatever the fuel. -/
theorem callRounds_of_call {reader next : LogReader} (sound : reader.Sound) {fuel : Nat}
    {result : Option (LogEntry Referee Wrapper)}
    (call : getNextMessage host fuel reader = some (result, next)) :
    CallRounds host reader result next := by
  obtain ⟨result', next', call', rounds⟩ := callRounds_total host sound (Nat.le_refl _)
  cases getNextMessage_unique host call call'
  exact rounds

theorem CallRounds.callResult {reader next : LogReader} {result : Option (LogEntry Referee Wrapper)}
    (rounds : CallRounds host reader result next) :
    CallResult host reader.inputStream.rest result next := by
  induction rounds with
  | exhausted exhausted => exact callResult_exhausted host exhausted _
  | endOfLog short exhausted => exact callResult_exhausted host exhausted _
  | truncated layout length type_eq short exhausted => exact callResult_exhausted host exhausted _
  | @unrecognised reader next result header after ready layout length type_eq later ih =>
      rw [LogReader.inputStream_withStream, LogReader.rest_advance_header layout length] at ih
      rw [layout]
      exact ih.prepend host header
  | @refused reader header after type exception ready layout length type_eq reserve_eq =>
      have rest : (reader.pastHeader type).inputStream.rest = after :=
        LogReader.rest_advance_header layout length
      have ready' : (reader.pastHeader type).inputStream.Ready := ready.advance headerSize
      refine ⟨Or.inl ready', ⟨header, by rw [rest, layout]⟩, absurd rfl, nofun, fun _ => ?_⟩
      refine Or.inr ⟨ready', [], header, by rw [rest, layout, List.nil_append], length, ?_,
        reserve_error host reserve_eq⟩
      rw [type_eq]
      rfl
  | @skip reader next result header data after type ready layout length _ _ _ _ later ih =>
      rw [LogReader.rest_pastPayload layout length] at ih
      rw [layout, ← List.append_assoc]
      exact ih.prepend host (header ++ data)
  | @deliver reader header data after type ready layout length _ _ _ delivered =>
      have rest := LogReader.rest_pastPayload layout length type
      have shorter : after.length < reader.inputStream.rest.length := by
        simp only [layout, List.length_append, length, headerSize]
        omega
      exact ⟨Or.inl (LogReader.ready_pastPayload ready type _),
        ⟨header ++ data, by rw [rest, layout, List.append_assoc]⟩, fun _ => rest.symm ▸ shorter,
        fun entry same => Option.some.inj same ▸ delivered, nofun⟩

/-- Every call on a readable source ends, within one round per 16 bytes. -/
theorem getNextMessage_total {reader : LogReader} (sound : reader.Sound) {fuel : Nat}
    (enough : reader.inputStream.rest.length / 16 + 2 ≤ fuel) :
    ∃ result next, getNextMessage host fuel reader = some (result, next) ∧
      CallResult host reader.inputStream.rest result next := by
  obtain ⟨result, next, call, rounds⟩ := callRounds_total host sound enough
  exact ⟨result, next, call, rounds.callResult host⟩

/-- The result of a call has the properties of every call, whatever the fuel. -/
theorem getNextMessage_result {reader next : LogReader} (sound : reader.Sound) {fuel : Nat}
    {result : Option (LogEntry Referee Wrapper)}
    (call : getNextMessage host fuel reader = some (result, next)) :
    CallResult host reader.inputStream.rest result next :=
  (callRounds_of_call host sound call).callResult host

/-! ## Successive calls -/

/-- Successive calls, with the optional that each of them returned. -/
inductive Calls : LogReader → List (Option (LogEntry Referee Wrapper)) → LogReader → Prop where
  | nil (reader : LogReader) : Calls reader [] reader
  | cons {reader middle next : LogReader} {result : Option (LogEntry Referee Wrapper)}
      {results : List (Option (LogEntry Referee Wrapper))} (fuel : Nat)
      (call : getNextMessage host fuel reader = some (result, middle))
      (later : Calls middle results next) : Calls reader (result :: results) next

theorem Calls.sound {reader next : LogReader} {results : List (Option (LogEntry Referee Wrapper))}
    (calls : Calls host reader results next) (sound : reader.Sound) : next.Sound := by
  induction calls with
  | nil => exact sound
  | cons fuel call later ih => exact ih (getNextMessage_result host sound call).sound

/-- Once the stream has reported its end, every call returns nothing. -/
theorem Calls.of_exhausted {reader next : LogReader}
    {results : List (Option (LogEntry Referee Wrapper))} (calls : Calls host reader results next)
    (exhausted : reader.inputStream.Exhausted) : ∀ result ∈ results, result = none := by
  induction calls with
  | nil => exact nofun
  | cons fuel call later ih =>
      have stop := getNextMessage_unique host call (getNextMessage_exhausted host exhausted 0)
      cases stop
      intro result member
      rcases List.mem_cons.mp member with rfl | member
      · rfl
      · exact ih exhausted result member

end Calls

end SslRosBridge.Log2bag
