import SslRosBridge.Log2bag.Framing
import SslRosBridge.Log2bag.Rounds

/-!
# The end of a log

A call returns nothing at the end of the source, and then for good, or right
behind a header whose payload reservation threw.  Only the second leaves
messages for further calls.
-/

namespace SslRosBridge.Log2bag

open Library

section Ending

variable {Referee Wrapper : Type} (host : Host Referee Wrapper)

/-- The whole source is consumed and no later call delivers a message. -/
structure Final (reader : LogReader) : Prop where
  consumed : reader.inputStream.rest = []
  nothing : ∀ results next, Calls host reader results next → ∀ result ∈ results, result = none

theorem Final.of_exhausted {reader : LogReader} (exhausted : reader.inputStream.Exhausted) :
    Final host reader where
  consumed := exhausted.rest
  nothing := fun _ _ calls => calls.of_exhausted host exhausted

theorem RefusedHeader.of_forward {before middle after : List UInt8}
    (forward : ∃ taken, before = taken ++ middle) (refused : RefusedHeader host middle after) :
    RefusedHeader host before after := by
  obtain ⟨taken, rfl⟩ := forward
  exact refused.prepend host taken

/-- The induction over the calls in front of the one that returned nothing. -/
theorem Calls.stopped {reader last : LogReader}
    {results : List (Option (LogEntry Referee Wrapper))} (sound : reader.Sound)
    (calls : Calls host reader (results ++ [none]) last) :
    Final host last ∨
      (last.inputStream.Ready ∧
        RefusedHeader host reader.inputStream.rest last.inputStream.rest) := by
  induction results generalizing reader with
  | nil =>
      cases calls with
      | cons fuel call later =>
          cases later
          exact ((getNextMessage_result host sound call).stop rfl).imp (.of_exhausted host) id
  | cons result results ih =>
      cases calls with
      | cons fuel call later =>
          have called := getNextMessage_result host sound call
          exact (ih called.sound later).imp id fun ⟨ready, refused⟩ =>
            ⟨ready, refused.of_forward host called.forward⟩

/--
Over any bytes behind the file header: when a call has returned nothing, the
source is consumed for good or the stream stands behind a refused header; and
the conversion loop ends in one of these two states.
-/
theorem stopped_final_or_refused {RosReferee RosWrapper : Type}
    (fromProto : FromProto Referee Wrapper RosReferee RosWrapper) (after : List UInt8) :
    (∀ results last, Calls host (openedReader after) (results ++ [none]) last →
      Final host last ∨ (last.inputStream.Ready ∧
        RefusedHeader host after last.inputStream.rest)) ∧
    ∃ done last least,
      (∀ fuel, least ≤ fuel →
        runLog2bag host fromProto fuel (expectedHeader ++ after) = .ok (.finished (done, last))) ∧
      (Final host last ∨ (last.inputStream.Ready ∧
        RefusedHeader host after last.inputStream.rest)) := by
  have sound : (openedReader after).Sound := Or.inl (ready_openedReader after)
  have stopped := fun results last
    (calls : Calls host (openedReader after) (results ++ [none]) last) => calls.stopped host sound
  have nonempty : (expectedHeader ++ after).length ≠ 0 := by simp [expectedHeader]
  obtain ⟨⟨done, last⟩, converts⟩ := converts_total host fromProto nonempty sound {}
  obtain ⟨least, finishes⟩ := converts.finishes
  obtain ⟨results, calls⟩ := converts.calls
  refine ⟨stopped, done, last, least, fun fuel enough => ?_, stopped results last calls⟩
  simp only [runLog2bag, openLog_expectedHeader]
  exact congrArg Except.ok (finishes fuel enough)

end Ending

/-- A `Vision2014` header with length -1 in front of a complete entry: the
first call returns nothing, the second delivers the entry, and the conversion
ends with an empty bag. -/
theorem negative_length_ends_early :
    let negative := [0, 0, 0, 0, 0, 0, 0, 4, 0, 0, 0, 4, 255, 255, 255, 255]
    let entry : FramedEntry := ⟨5, 4, [0x18, 1], by decide⟩
    let fromProto : FromProto (List UInt8) (List UInt8) (List UInt8) (List UInt8) := ⟨id, id⟩
    ∃ middle last,
      Calls byteHost (openedReader (negative ++ entry.encode)) [none] middle ∧
      middle.inputStream.rest = entry.encode ∧
      Calls byteHost middle [some ⟨5, .wrapperPacket [0x18, 1]⟩] last ∧
      ∃ done, done.bag = [] ∧
        runLog2bag byteHost fromProto 1 (expectedHeader ++ (negative ++ entry.encode)) =
          .ok (.finished (done, middle)) := by
  intro negative entry fromProto
  have results : ((getNextMessage byteHost 1 (openedReader (negative ++ entry.encode))).bind
      fun first => (getNextMessage byteHost 1 first.2).map
        fun second => (first.1, first.2.inputStream.rest, second.1)) =
      some (none, entry.encode, some ⟨5, .wrapperPacket [0x18, 1]⟩) := by decide +kernel
  obtain ⟨⟨first, middle⟩, firstCall, results⟩ := Option.bind_eq_some_iff.mp results
  obtain ⟨⟨second, last⟩, secondCall, results⟩ := Option.map_eq_some_iff.mp results
  simp only [Prod.mk.injEq] at results
  obtain ⟨rfl, rest, rfl⟩ := results
  refine ⟨middle, last, .cons 1 firstCall (.nil _), rest, .cons 1 secondCall (.nil _), {}, rfl,
    ?_⟩
  have stopped : convertLoop byteHost fromProto
      (expectedHeader ++ (negative ++ entry.encode)).length 1
      (openedReader (negative ++ entry.encode)) {} = .finished ({}, middle) := by
    rw [convertLoop, firstCall]
  simp only [runLog2bag, openLog_expectedHeader]
  exact congrArg Except.ok stopped

end SslRosBridge.Log2bag
