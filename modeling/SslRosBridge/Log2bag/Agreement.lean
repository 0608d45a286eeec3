import SslRosBridge.Log2bag.Messages

/-!
# Readers over streams that agree

A call looks at its stream through reads and through the end of the file only,
so readers over two streams that agree in these return the same results.
-/

namespace SslRosBridge.Log2bag

open Library

section Agreement

variable {Referee Wrapper : Type} (host : Host Referee Wrapper)
variable {related : InputStream → InputStream → Prop} (agrees : InputStream.Agrees related)

include agrees

theorem extractNextEntry_agrees {left right : LogReader}
    (same : related left.inputStream right.inputStream) :
    (extractNextEntry host left).1 = (extractNextEntry host right).1 ∧
      related (extractNextEntry host left).2.inputStream
        (extractNextEntry host right).2.inputStream := by
  obtain ⟨headers, behind⟩ := agrees.read _ _ same headerSize
  generalize leftRead : left.inputStream.read headerSize = leftHeader at headers behind
  generalize rightRead : right.inputStream.read headerSize = rightHeader at headers behind
  obtain ⟨header, leftStream⟩ := leftHeader
  obtain ⟨otherHeader, rightStream⟩ := rightHeader
  obtain rfl : header = otherHeader := headers
  simp only [extractNextEntry, leftRead, rightRead]
  by_cases empty : header.length = 0
  · rw [if_pos empty, if_pos empty]
    exact ⟨rfl, behind⟩
  by_cases short : header.length ≠ headerSize
  · rw [if_neg empty, if_pos short, if_neg empty, if_pos short]
    exact ⟨rfl, behind⟩
  rw [if_neg empty, if_neg short, if_neg empty, if_neg short]
  cases EntryType.ofRaw? (entryTypeRaw header) with
  | none => exact ⟨rfl, behind⟩
  | some type =>
      cases reserve host (dataSize header) with
      | error exception => exact ⟨rfl, behind⟩
      | ok granted =>
          obtain ⟨payloads, after⟩ := agrees.read _ _ behind (dataSize header).toInt.toNat
          generalize leftPayload : leftStream.read (dataSize header).toInt.toNat = leftData
            at payloads after
          generalize rightPayload : rightStream.read (dataSize header).toInt.toNat = rightData
            at payloads after
          obtain ⟨data, leftLast⟩ := leftData
          obtain ⟨otherData, rightLast⟩ := rightData
          obtain rfl : data = otherData := payloads
          simp only [LogReader.inputStream_count, LogReader.inputStream_withStream, leftPayload,
            rightPayload]
          by_cases missing : (data.length : Int) ≠ (dataSize header).toInt
          · rw [if_pos missing, if_pos missing]
            exact ⟨rfl, after⟩
          · rw [if_neg missing, if_neg missing]
            exact ⟨rfl, after⟩

theorem getNextMessage_agrees {left right leftNext : LogReader}
    (same : related left.inputStream right.inputStream) {fuel : Nat}
    {result : Option (LogEntry Referee Wrapper)}
    (call : getNextMessage host fuel left = some (result, leftNext)) :
    ∃ rightNext, getNextMessage host fuel right = some (result, rightNext) ∧
      related leftNext.inputStream rightNext.inputStream := by
  induction fuel generalizing left right with
  | zero => cases call
  | succ fuel ih =>
      have eof : left.inputStream.eof = right.inputStream.eof := agrees.eof _ _ same
      obtain ⟨results, behind⟩ := extractNextEntry_agrees host agrees same
      generalize leftExtract : extractNextEntry host left = leftOutcome at results behind
      generalize rightExtract : extractNextEntry host right = rightOutcome at results behind
      obtain ⟨outcome, leftMiddle⟩ := leftOutcome
      obtain ⟨otherOutcome, rightMiddle⟩ := rightOutcome
      obtain rfl : outcome = otherOutcome := results
      simp only [getNextMessage, leftExtract, rightExtract, eof] at call ⊢
      split
      · next stopped =>
        rw [if_pos stopped] at call
        cases call
        exact ⟨right, rfl, same⟩
      · next going =>
        rw [if_neg going] at call
        cases outcome with
        | error exception =>
            cases call
            exact ⟨rightMiddle, rfl, behind⟩
        | ok entry =>
            simp only at call ⊢
            split at call
            · exact ih behind call
            · cases call
              exact ⟨rightMiddle, rfl, behind⟩

theorem Calls.transfer {left right leftNext : LogReader}
    {results : List (Option (LogEntry Referee Wrapper))}
    (calls : Calls host left results leftNext)
    (same : related left.inputStream right.inputStream) :
    ∃ rightNext, Calls host right results rightNext ∧
      related leftNext.inputStream rightNext.inputStream := by
  induction calls generalizing right with
  | nil => exact ⟨right, .nil right, same⟩
  | cons fuel call later ih =>
      obtain ⟨middle, call', same'⟩ := getNextMessage_agrees host agrees same call
      obtain ⟨next, calls', last⟩ := ih same'
      exact ⟨next, .cons fuel call' calls', last⟩

end Agreement

end SslRosBridge.Log2bag
