import SslRosBridge.Library.FailingStream
import SslRosBridge.Log2bag.Agreement
import SslRosBridge.Log2bag.Framing

/-!
# A source that stops being readable

The loop of `GetNextMessage` looks at the end of the stream only.  A source
that fails before its end never reports it, so some call does not return.
-/

namespace SslRosBridge.Log2bag

open Library

section Failing

variable {Referee Wrapper : Type} (host : Host Referee Wrapper)

/-! ## A source that fails behind its end -/

def LogReader.erase (reader : LogReader) : LogReader :=
  reader.withStream reader.inputStream.erase

/-! ## A source that fails before its end -/

/-- No number of rounds ends the call. -/
def Diverges (reader : LogReader) : Prop := ∀ fuel, getNextMessage host fuel reader = none

/-- On a broken stream every round takes nothing and leaves it broken. -/
theorem diverges_of_broken {reader : LogReader} (broken : reader.inputStream.Broken) :
    Diverges host reader := by
  intro fuel
  induction fuel generalizing reader with
  | zero => rfl
  | succ fuel ih =>
      obtain ⟨nothing, still⟩ := broken.read headerSize
      have extracted : extractNextEntry host reader =
          (.ok {}, reader.withStream (reader.inputStream.read headerSize).2) := by
        unfold extractNextEntry
        simp only [nothing, List.length_nil, if_true]
      rw [getNextMessage_skip host broken.eof extracted rfl]
      exact ih still

theorem Diverges.skip {reader next : LogReader} {entry : LogEntry Referee Wrapper}
    (going : reader.inputStream.eof = false)
    (extracted : extractNextEntry host reader = (.ok entry, next)) (skipped : entry.skipped)
    (diverges : Diverges host next) : Diverges host reader := by
  intro fuel
  cases fuel with
  | zero => rfl
  | succ fuel => exact (getNextMessage_skip host going extracted skipped fuel).trans (diverges fuel)

/-- A round breaks the stream, or takes at least a header and stays in front
of the failure. -/
theorem extractNextEntry_failing {reader : LogReader} (failing : reader.inputStream.Failing) :
    (∃ next, extractNextEntry host reader = (.ok {}, next) ∧ next.inputStream.Broken) ∨
    ((extractNextEntry host reader).2.inputStream.Failing ∧
      (extractNextEntry host reader).2.inputStream.rest.length <
        reader.inputStream.rest.length) := by
  rcases failing.read headerSize with ⟨-, nothing, broken⟩ | ⟨enough, read, behind⟩
  · refine Or.inl ⟨reader.withStream (reader.inputStream.read headerSize).2, ?_, broken⟩
    unfold extractNextEntry
    simp only [nothing, List.length_nil, if_true]
  have length : (reader.inputStream.rest.take headerSize).length = headerSize :=
    List.length_take_of_le enough
  have shorter : (reader.inputStream.advance headerSize).rest.length <
      reader.inputStream.rest.length := by
    rw [InputStream.rest_advance, List.length_drop]
    unfold headerSize at enough ⊢
    omega
  simp only [extractNextEntry, read]
  rw [if_neg (header_nonempty length), if_neg (not_not_intro length)]
  cases EntryType.ofRaw? (entryTypeRaw (reader.inputStream.rest.take headerSize)) with
  | none => exact Or.inr ⟨behind, shorter⟩
  | some type =>
      cases reserved : reserve host (dataSize (reader.inputStream.rest.take headerSize)) with
      | error exception => exact Or.inr ⟨behind, shorter⟩
      | ok granted =>
          have nonneg := nonneg_of_reserve host reserved
          generalize dataSize (reader.inputStream.rest.take headerSize) = size at nonneg ⊢
          rcases behind.read size.toInt.toNat with
            ⟨positive, nothing, broken⟩ | ⟨present, readPayload, after⟩
          · generalize readPayload : (reader.inputStream.advance headerSize).read size.toInt.toNat =
              payload at nothing broken
            obtain ⟨data, last⟩ := payload
            obtain rfl : data = [] := nothing
            simp only [LogReader.inputStream_count, LogReader.inputStream_withStream, readPayload]
            have missing : (([] : List UInt8).length : Int) ≠ size.toInt := by
              rw [List.length_nil]
              omega
            rw [if_pos missing]
            exact Or.inl ⟨_, rfl, broken⟩
          · simp only [LogReader.inputStream_count, LogReader.inputStream_withStream, readPayload]
            have whole : ((((reader.inputStream.advance headerSize).rest.take
                size.toInt.toNat).length : Nat) : Int) = size.toInt := by
              rw [List.length_take_of_le present]
              omega
            rw [if_neg (not_not_intro whole)]
            refine Or.inr ⟨after, Nat.lt_of_le_of_lt ?_ shorter⟩
            change ((reader.inputStream.advance headerSize).rest.drop _).length ≤ _
            rw [List.length_drop]
            exact Nat.sub_le _ _

/-- The induction over the bytes that are left: every call that returns takes
a header, and the last one breaks the stream. -/
theorem diverges_of_failing {reader : LogReader} (failing : reader.inputStream.Failing) :
    ∃ results next, Calls host reader results next ∧ Diverges host next := by
  induction left : reader.inputStream.rest.length using Nat.strong_induction_on
    generalizing reader with
  | _ length ih =>
      have going := failing.eof_eq
      rcases extractNextEntry_failing host failing with
        ⟨next, extracted, broken⟩ | ⟨behind, shorter⟩
      · exact ⟨[], reader, .nil _,
          .skip host going extracted rfl (diverges_of_broken host broken)⟩
      obtain ⟨results, last, calls, diverges⟩ := ih _ (left ▸ shorter) behind rfl
      generalize extracted : extractNextEntry host reader = outcome at calls
      obtain ⟨exception | entry, next⟩ := outcome
      · exact ⟨none :: results, last,
          .cons 1 (getNextMessage_error host going extracted 0) calls, diverges⟩
      by_cases skipped : entry.skipped
      · -- the call goes on, as the first call from the next header does
        cases calls with
        | nil => exact ⟨[], reader, .nil _, .skip host going extracted skipped diverges⟩
        | cons fuel call later =>
            have step := getNextMessage_skip host going extracted skipped fuel
            exact ⟨_, last, .cons (fuel + 1) (step.trans call) later, diverges⟩
      · exact ⟨some entry :: results, last,
          .cons 1 (getNextMessage_deliver host going extracted skipped 0) calls, diverges⟩

/-! ## How many messages a source holds -/

/-- A delivered message takes at least a header. -/
theorem CallRounds.takes {reader next : LogReader} {result : Option (LogEntry Referee Wrapper)}
    (rounds : CallRounds host reader result next) (delivered : result ≠ none) :
    next.inputStream.rest.length + headerSize ≤ reader.inputStream.rest.length := by
  induction rounds with
  | exhausted => exact absurd rfl delivered
  | endOfLog => exact absurd rfl delivered
  | refused => exact absurd rfl delivered
  | truncated => exact absurd rfl delivered
  | unrecognised ready layout length type_eq later ih =>
      have taken := ih delivered
      rw [LogReader.inputStream_withStream, LogReader.rest_advance_header layout length] at taken
      rw [layout, List.length_append]
      omega
  | skip ready layout length type_eq reserve_eq size skipped later ih =>
      have taken := ih delivered
      rw [LogReader.rest_pastPayload layout length] at taken
      rw [layout, List.length_append, List.length_append]
      omega
  | deliver ready layout length =>
      rw [LogReader.rest_pastPayload layout length, layout, List.length_append, List.length_append,
        length]
      omega

theorem Calls.messages_le {reader next : LogReader} {entries : List (LogEntry Referee Wrapper)}
    (sound : reader.Sound) (calls : Calls host reader (entries.map some) next) :
    entries.length * headerSize + next.inputStream.rest.length ≤
      reader.inputStream.rest.length := by
  induction entries generalizing reader with
  | nil =>
      cases calls
      simp
  | cons entry entries ih =>
      cases calls with
      | cons fuel call later =>
          have taken := (callRounds_of_call host sound call).takes host (Option.some_ne_none _)
          have rest := ih (getNextMessage_result host sound call).sound later
          rw [List.length_cons, Nat.succ_mul]
          omega

/-! ## Reading to the end -/

/-- Every call returns, and at most one in 16 of the remaining bytes returns a
message before one returns nothing. -/
structure ReadingEnds (reader : LogReader) (remaining : Nat) : Prop where
  returns : ∀ (results : List (Option (LogEntry Referee Wrapper))) next,
    Calls host reader results next → ∃ fuel call, getNextMessage host fuel next = some call
  bounded : ∀ (entries : List (LogEntry Referee Wrapper)) next,
    Calls host reader (entries.map some) next →
      entries.length ≤ remaining / 16

theorem readingEnds_of_clear {reader : LogReader} (good : reader.inputStream.good = true)
    (clear : reader.inputStream.Clear) :
    ReadingEnds host reader reader.inputStream.rest.length := by
  have sound : reader.erase.Sound := Or.inl ⟨good, rfl⟩
  have start : reader.erase.inputStream = reader.inputStream.erase ∧ reader.inputStream.Clear :=
    ⟨rfl, clear⟩
  constructor
  · intro results next calls
    obtain ⟨erased, calls', same⟩ := calls.transfer host InputStream.agrees_erase.flip start
    obtain ⟨result, after, call, -⟩ :=
      getNextMessage_total host (calls'.sound host sound) (Nat.le_refl _)
    obtain ⟨after', call', -⟩ := getNextMessage_agrees host InputStream.agrees_erase same call
    exact ⟨_, (result, after'), call'⟩
  · intro entries next calls
    obtain ⟨erased, calls', -⟩ := calls.transfer host InputStream.agrees_erase.flip start
    have bound := calls'.messages_le host sound
    change _ ≤ reader.inputStream.rest.length at bound
    rw [headerSize] at bound
    omega

theorem not_readingEnds_of_failing {reader : LogReader} (failing : reader.inputStream.Failing)
    (remaining : Nat) : ¬ ReadingEnds host reader remaining := by
  intro ends
  obtain ⟨results, next, calls, diverges⟩ := diverges_of_failing host failing
  obtain ⟨fuel, call, returned⟩ := ends.returns results next calls
  rw [diverges fuel] at returned
  cases returned

/-- The constructor accepts good streams only, and leaves them behind the file
header. -/
theorem openLog_ok {stream : InputStream} {reader : LogReader}
    (opened : openLog stream = .ok reader) :
    stream.good = true ∧ reader.inputStream = stream.advance headerSize := by
  have positive : ([] : List UInt8).length ≠ headerSize := by decide
  unfold openLog InputStream.read at opened
  by_cases stopped : (!stream.good) = true
  · rw [if_pos stopped] at opened
    simp only [if_pos positive] at opened
    cases opened
  rw [if_neg stopped] at opened
  by_cases faulty : stream.faults headerSize = true
  · rw [if_pos faulty] at opened
    simp only [if_pos positive] at opened
    cases opened
  rw [if_neg faulty] at opened
  by_cases short : stream.rest.length < headerSize
  · rw [if_pos short] at opened
    simp only [if_pos (Nat.ne_of_lt short)] at opened
    cases opened
  rw [if_neg short] at opened
  refine ⟨by simpa using stopped, ?_⟩
  simp only at opened
  split at opened
  · cases opened
  · split at opened
    · cases opened
    · cases opened
      rfl

/--
On every stream that holds a valid file header reading ends, within one message
per 16 bytes, exactly when the source does not fail before its end.
-/
theorem reading_ends_iff {stream : InputStream} {reader : LogReader} {after : List UInt8}
    (holds : stream.rest = expectedHeader ++ after) (opened : openLog stream = .ok reader) :
    ReadingEnds host reader after.length ↔ stream.Clear := by
  obtain ⟨good, same⟩ := openLog_ok opened
  have header : expectedHeader.length = headerSize := rfl
  have rest : reader.inputStream.rest = after := by
    rw [same, InputStream.rest_advance, holds, List.drop_left' header]
  have good' : reader.inputStream.good = true := by
    rw [same]
    exact good
  constructor
  · intro ends readable fault
    by_contra inside
    refine not_readingEnds_of_failing host ⟨good', readable - headerSize, ?_, ?_⟩ _ ends
    · rw [same]
      simp [InputStream.advance, fault]
    · rw [same, InputStream.rest_advance, List.length_drop]
      omega
  · intro clear
    rw [← rest]
    apply readingEnds_of_clear host good'
    rw [same]
    apply clear.advance
    rw [holds, List.length_append, header]
    exact Nat.le_add_right _ _

end Failing

/-- A log of one entry on a source that never fails. -/
theorem reading_ends_entry :
    let entry : FramedEntry := ⟨5, 4, [0x18, 1], by decide⟩
    ReadingEnds byteHost (openedReader entry.encode) entry.encode.length := by
  intro entry
  exact (reading_ends_iff byteHost rfl (openLog_expectedHeader entry.encode)).mpr nofun

/-- A source that fails right behind the file header, in front of its last
byte: the first call does not return. -/
theorem call_diverges_on_failure :
    let stream : InputStream := { rest := expectedHeader ++ [0], fault := some 16 }
    ∃ reader, openLog stream = .ok reader ∧ Diverges byteHost reader ∧
      ¬ ReadingEnds byteHost reader 1 := by
  intro stream
  have failing : (stream.advance headerSize).Failing := ⟨rfl, 0, rfl, by decide⟩
  refine ⟨⟨stream.advance headerSize, fun _ => 0⟩, rfl, fun fuel => ?_,
    not_readingEnds_of_failing byteHost failing 1⟩
  cases fuel with
  | zero => rfl
  | succ fuel => exact diverges_of_broken byteHost ⟨rfl, rfl⟩ fuel

end SslRosBridge.Log2bag
