import SslRosBridge.Log2bag.Conversion
import SslRosBridge.Log2bag.Messages

/-!
# Rounds of the conversion loop

The loop is described without fuel.  Every such description is a run of the
loop, and every readable source has one.
-/

namespace SslRosBridge.Log2bag

open Library

section Rounds

variable {Referee Wrapper RosReferee RosWrapper : Type}
variable (host : Host Referee Wrapper)
variable (fromProto : FromProto Referee Wrapper RosReferee RosWrapper)

/-- The rounds of the conversion loop, with the calls that they make. -/
inductive Converts (logFileSize : Nat) :
    LogReader → Conversion RosReferee RosWrapper → Conversion RosReferee RosWrapper × LogReader →
      Prop where
  | stop {reader next : LogReader} {done : Conversion RosReferee RosWrapper} (fuel : Nat)
      (call : getNextMessage host fuel reader = some (none, next)) :
      Converts logFileSize reader done (done, next)
  | write {reader next : LogReader} {done : Conversion RosReferee RosWrapper}
      {result : Conversion RosReferee RosWrapper × LogReader} {entry : LogEntry Referee Wrapper}
      {bar : ProgressBar} (fuel : Nat)
      (call : getNextMessage host fuel reader = some (some entry, next))
      (rendered : renderProgressBar (bytesRead next.inputStream) logFileSize = some bar)
      (later : Converts logFileSize next
        { bag := writeEntry fromProto entry done.bag, console := done.console ++ [bar] } result) :
      Converts logFileSize reader done result

/-- Enough fuel runs the loop to its end. -/
theorem Converts.finishes {logFileSize : Nat} {reader : LogReader}
    {done : Conversion RosReferee RosWrapper}
    {result : Conversion RosReferee RosWrapper × LogReader}
    (converts : Converts host fromProto logFileSize reader done result) :
    ∃ least, ∀ fuel, least ≤ fuel →
      convertLoop host fromProto logFileSize fuel reader done = .finished result := by
  induction converts with
  | stop needed call =>
      refine ⟨needed + 1, fun fuel enough => ?_⟩
      obtain ⟨fuel, rfl⟩ : ∃ n, fuel = n + 1 := ⟨fuel - 1, by omega⟩
      rw [convertLoop, getNextMessage_mono host (by omega) call]
  | write needed call rendered later ih =>
      obtain ⟨least, ih⟩ := ih
      refine ⟨max needed least + 1, fun fuel enough => ?_⟩
      obtain ⟨fuel, rfl⟩ : ∃ n, fuel = n + 1 := ⟨fuel - 1, by omega⟩
      rw [convertLoop, getNextMessage_mono host (by omega) call]
      simp only [rendered]
      exact ih fuel (by omega)

/-- An entry that carries no message does not show in the conversion. -/
theorem Converts.skip {logFileSize : Nat} {reader next : LogReader}
    {done : Conversion RosReferee RosWrapper}
    {result : Conversion RosReferee RosWrapper × LogReader} {entry : LogEntry Referee Wrapper}
    (ready : reader.inputStream.Ready)
    (extracted : extractNextEntry host reader = (.ok entry, next)) (skipped : entry.skipped)
    (converts : Converts host fromProto logFileSize next done result) :
    Converts host fromProto logFileSize reader done result := by
  have step := fun fuel => getNextMessage_skip host ready.eof_eq extracted skipped fuel
  cases converts with
  | stop fuel call => exact .stop (fuel + 1) ((step fuel).trans call)
  | write fuel call rendered later =>
      exact .write (fuel + 1) ((step fuel).trans call) rendered later

/-- At the end of the log the loop stops with what it has. -/
theorem converts_exhausted {logFileSize : Nat} {reader : LogReader}
    (exhausted : reader.inputStream.Exhausted) (done : Conversion RosReferee RosWrapper) :
    Converts host fromProto logFileSize reader done (done, reader) :=
  .stop 1 (getNextMessage_exhausted host exhausted 0)

theorem renderProgressBar_isSome {logFileSize : Nat} (nonempty : logFileSize ≠ 0) (bytes : Nat) :
    ∃ bar, renderProgressBar bytes logFileSize = some bar := by
  simp [renderProgressBar, nonempty]

/-- The calls that the rounds make: some messages, then nothing. -/
theorem Converts.calls {logFileSize : Nat} {reader : LogReader}
    {done : Conversion RosReferee RosWrapper}
    {result : Conversion RosReferee RosWrapper × LogReader}
    (converts : Converts host fromProto logFileSize reader done result) :
    ∃ results, Calls host reader (results ++ [none]) result.2 := by
  induction converts with
  | stop fuel call => exact ⟨[], .cons fuel call (.nil _)⟩
  | @write _ _ _ _ entry _ fuel call _ _ ih =>
      obtain ⟨results, later⟩ := ih
      exact ⟨some entry :: results, .cons fuel call later⟩

/-- Every delivered message shortens the source, so the loop ends. -/
theorem converts_total {logFileSize : Nat} (nonempty : logFileSize ≠ 0) {reader : LogReader}
    (sound : reader.Sound) (done : Conversion RosReferee RosWrapper) :
    ∃ result, Converts host fromProto logFileSize reader done result := by
  induction left : reader.inputStream.rest.length using Nat.strong_induction_on
    generalizing reader done with
  | _ length ih =>
      obtain ⟨delivered, next, call, called⟩ := getNextMessage_total host sound (Nat.le_refl _)
      cases delivered with
      | none => exact ⟨_, .stop _ call⟩
      | some entry =>
          have shorter := called.progress nofun
          obtain ⟨bar, rendered⟩ := renderProgressBar_isSome nonempty (bytesRead next.inputStream)
          obtain ⟨result, later⟩ := ih _ (left ▸ shorter) called.sound
            { bag := writeEntry fromProto entry done.bag, console := done.console ++ [bar] } rfl
          exact ⟨result, .write _ call rendered later⟩

end Rounds

end SslRosBridge.Log2bag
