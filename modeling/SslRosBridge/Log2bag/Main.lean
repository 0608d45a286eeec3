import SslRosBridge.Log2bag.Decoding

/-!
# The program `log2bag`

`main` of `log2bag.cpp` from its arguments to its exit code.  The file system
and the bag writer's `open` are arbitrary; a file that opens stays readable.
-/

namespace SslRosBridge.Log2bag

open Library

/-! ## The machine -/

/-- The size is what `std::filesystem::file_size` reports, which need not be
the number of bytes that the stream will deliver. -/
structure Machine where
  openFile : String → Option (List UInt8)
  fileSize : String → Except String Nat
  openBag : String → Except String Unit

/-- `std::filesystem::path::filename`. -/
def fileName (path : String) : List Char :=
  (path.toList.reverse.takeWhile (· ≠ '/')).reverse

/-- `std::filesystem::path::stem`: a name keeps a dot at its front, and a name
of two dots is kept. -/
def stem (path : String) : String :=
  let name := fileName path
  match name.reverse.dropWhile (· ≠ '.') with
  | [] => .ofList name
  | [_] => .ofList name
  | _ :: front => if name = ['.', '.'] then .ofList name else .ofList front.reverse

inductive Output where
  | out (text : String)
  | err (text : String)
  | progress (bar : ProgressBar)
  | report (statistics : Statistics)
  deriving DecidableEq

/-- `terminated` is an exception that leaves `main`. -/
inductive Ending where
  | running
  | trapped
  | terminated (what : String)
  | exited (code : Nat)
  deriving DecidableEq

/-- What a process has shown, and the bag it has opened with its messages. -/
structure Process (RosReferee RosWrapper : Type) where
  ending : Ending
  output : List Output := []
  bag : Option (String × List (BagMessage RosReferee RosWrapper)) := none

def usage : String :=
  "\nUsage: log2bag FILE\nConvert SSL log file to ROS bag.\n\n" ++
    "FILE - The SSL log file to convert\n"

section Main

variable {Referee Wrapper RosReferee RosWrapper : Type} (machine : Machine)
variable (host : Host Referee Wrapper)
variable (fromProto : FromProto Referee Wrapper RosReferee RosWrapper)

/-- What `CheckHeader` prints before it throws. -/
def headerOutput (bytes : List UInt8) : List Output :=
  if bytes.length < headerSize then [.out ("Read " ++ toString bytes.length ++ " bytes.\n")] else []

/-- The loop of `main` and what follows it.  A zero size traps in front of the
first message, so the bag is empty then. -/
def convertAndReport (uri : String) (logFileSize fuel : Nat) (reader : LogReader) :
    Process RosReferee RosWrapper :=
  match convertLoop host fromProto logFileSize fuel reader {} with
  | .running => { ending := .running, bag := some (uri, []) }
  | .trapped => { ending := .trapped, bag := some (uri, []) }
  | .finished (done, reader) =>
      { ending := .exited 0
        output := done.console.map .progress ++ [.out "\n\n", .report (statistics reader)]
        bag := some (uri, done.bag) }

def main (fuel : Nat) (argv : List String) : Process RosReferee RosWrapper :=
  if argv.length ≠ 2 then { ending := .exited 1, output := [.out usage] }
  else
    let logPath := argv.getD 1 ""
    match machine.openFile logPath with
    | none => { ending := .exited 1, output := [.err "Could not open log file.\n"] }
    | some bytes =>
      match machine.fileSize logPath with
      | .error message =>
          { ending := .exited 1
            output := [.err ("Could not determine log file size: " ++ message ++ "\n")] }
      | .ok logFileSize =>
        match openLog (.ofBytes bytes) with
        | .error what => { ending := .terminated what, output := headerOutput bytes }
        | .ok reader =>
          -- the bag is opened behind the check of the header
          match machine.openBag (stem logPath) with
          | .error what => { ending := .terminated what }
          | .ok () => convertAndReport host fromProto (stem logPath) logFileSize fuel reader

/-! ## The conversion loop for any size -/

theorem Converts.bag_prefix {logFileSize : Nat} {reader : LogReader}
    {done : Conversion RosReferee RosWrapper}
    {result : Conversion RosReferee RosWrapper × LogReader}
    (converts : Converts host fromProto logFileSize reader done result) :
    done.bag <+: result.1.bag := by
  induction converts with
  | stop fuel call => exact List.prefix_rfl
  | @write reader next done result entry bar fuel call rendered later ih =>
      refine List.IsPrefix.trans ?_ ih
      unfold writeEntry writeMessageIfExists
      cases entry.message.referee? <;> cases entry.message.wrapperPacket? <;> simp

theorem writeEntry_ne_nil {entry : LogEntry Referee Wrapper} (delivered : ¬ entry.skipped) :
    writeEntry fromProto entry [] ≠ [] := by
  obtain ⟨time, message⟩ := entry
  cases message with
  | monostate => exact absurd rfl delivered
  | referee message => exact nofun
  | wrapperPacket message => exact nofun

/-- With a zero size the loop ends normally only if it has nothing to write. -/
theorem convertLoop_zero (after : List UInt8) :
    ∃ outcome least, (∀ fuel, least ≤ fuel →
        convertLoop host fromProto 0 fuel (openedReader after) {} = outcome) ∧
      ((bagOf host fromProto (scanLog host after).outputs ≠ [] ∧ outcome = .trapped) ∨
        (bagOf host fromProto (scanLog host after).outputs = [] ∧
          ∃ reader, outcome = .finished ({}, reader) ∧
            reader.entryTypeCounts = headersOf (scanLog host after))) := by
  obtain ⟨result, converts, bag, counts⟩ := converts_scan host fromProto Nat.one_ne_zero after
    (ready_openedReader after) (rest_openedReader after) {}
  have written : result.1.bag = bagOf host fromProto (scanLog host after).outputs := bag
  cases converts with
  | @stop _ next _ needed call =>
      obtain ⟨least, finishes⟩ := Converts.finishes host fromProto
        (.stop needed call : Converts host fromProto 0 _ {} _)
      exact ⟨_, least, finishes, Or.inr ⟨written.symm, next, rfl,
        funext fun type => (counts type).trans (Nat.zero_add _)⟩⟩
  | @write _ next _ _ entry bar needed call rendered later =>
      have called := callRounds_of_call host (Or.inl (ready_openedReader after)) call
      have delivered := (called.callResult host).message entry rfl
      refine ⟨.trapped, needed + 1, fun fuel enough => ?_, Or.inl ⟨?_, rfl⟩⟩
      · obtain ⟨fuel, rfl⟩ : ∃ n, fuel = n + 1 := ⟨fuel - 1, by omega⟩
        rw [convertLoop, getNextMessage_mono host (by omega) call]
        rfl
      · rw [← written]
        intro empty
        have grows := later.bag_prefix host fromProto
        rw [empty, List.prefix_nil] at grows
        exact writeEntry_ne_nil fromProto delivered grows

/-! ## How `main` ends -/

/-- The arguments name a log that opens, has a size and starts with the file
header, and its bag can be created. -/
structure Accepts (argv : List String) (path : String) (after : List UInt8) (size : Nat) :
    Prop where
  arguments : argv.length = 2
  named : argv.getD 1 "" = path
  contents : machine.openFile path = some (expectedHeader ++ after)
  size : machine.fileSize path = .ok size
  bag : machine.openBag (stem path) = .ok ()

/-- The printed statistics, from the headers of the log. -/
def reportOf (scanned : Scanned UInt8 ScannedEntry) : Statistics where
  translatedEntries := translatedLines (headersOf scanned)
  skippedEntries := skippedLines (headersOf scanned)

/-- How the process ends without a bag: `main` returns 1, or it is left by the
exception of the header check or by that of the bag writer. -/
inductive Refusal (argv : List String) : Ending → Prop where
  | call (arguments : argv.length ≠ 2) : Refusal argv (.exited 1)
  | noFile (closed : machine.openFile (argv.getD 1 "") = none) : Refusal argv (.exited 1)
  | noSize {message : String} (unknown : machine.fileSize (argv.getD 1 "") = .error message) :
      Refusal argv (.exited 1)
  | shortHeader {bytes : List UInt8} (opened : machine.openFile (argv.getD 1 "") = some bytes)
      (short : bytes.length < headerSize) :
      Refusal argv (.terminated "Not enough bytes for a valid header")
  | foreignHeader {bytes : List UInt8} (opened : machine.openFile (argv.getD 1 "") = some bytes)
      (long : headerSize ≤ bytes.length) (foreign : ¬ expectedHeader <+: bytes) :
      Refusal argv (.terminated "Unsupported file format based on header bytes.")
  | noBag {after : List UInt8} {what : String}
      (opened : machine.openFile (argv.getD 1 "") = some (expectedHeader ++ after))
      (refused : machine.openBag (stem (argv.getD 1 "")) = .error what) :
      Refusal argv (.terminated what)

inductive Concludes (argv : List String) : Process RosReferee RosWrapper → Prop where
  | refused {process : Process RosReferee RosWrapper}
      (refused : ∀ path after size, ¬ Accepts machine argv path after size)
      (failed : Refusal machine argv process.ending)
      (nothing : process.bag = none) : Concludes argv process
  | converted {process : Process RosReferee RosWrapper} {path : String} {after : List UInt8}
      {size : Nat} (accepts : Accepts machine argv path after size)
      (sized : size ≠ 0 ∨ bagOf host fromProto (scanLog host after).outputs = [])
      (ending : process.ending = .exited 0)
      (bag : process.bag = some (stem path, bagOf host fromProto (scanLog host after).outputs))
      (report : process.output.getLast? = some (.report (reportOf (scanLog host after)))) :
      Concludes argv process
  | trapped {process : Process RosReferee RosWrapper} {path : String} {after : List UInt8}
      (accepts : Accepts machine argv path after 0)
      (messages : bagOf host fromProto (scanLog host after).outputs ≠ [])
      (ending : process.ending = .trapped) (bag : process.bag = some (stem path, [])) :
      Concludes argv process

theorem convertAndReport_finished {uri : String} {logFileSize fuel : Nat} {reader next : LogReader}
    {done : Conversion RosReferee RosWrapper}
    (finished : convertLoop host fromProto logFileSize fuel reader {} = .finished (done, next)) :
    convertAndReport host fromProto uri logFileSize fuel reader =
      { ending := .exited 0
        output := done.console.map .progress ++ [.out "\n\n", .report (statistics next)]
        bag := some (uri, done.bag) } := by
  rw [convertAndReport, finished]

theorem report_last (console : List ProgressBar) {reader : LogReader}
    {scanned : Scanned UInt8 ScannedEntry} (counts : reader.entryTypeCounts = headersOf scanned) :
    (console.map Output.progress ++
      [Output.out "\n\n", Output.report (statistics reader)]).getLast? =
      some (.report (reportOf scanned)) := by
  have same : statistics reader = reportOf scanned := by
    unfold statistics reportOf
    rw [counts]
  rw [same, List.getLast?_append]
  rfl

/-- The loop on an accepted log, and what is left of the process behind it. -/
theorem convertAndReport_concludes {argv : List String} {path : String} {after : List UInt8}
    {size : Nat} (accepts : Accepts machine argv path after size) :
    ∃ process least, (∀ fuel, least ≤ fuel →
        convertAndReport host fromProto (stem path) size fuel (openedReader after) = process) ∧
      Concludes machine host fromProto argv process := by
  by_cases empty : size = 0
  · subst empty
    obtain ⟨outcome, least, loop, ending⟩ := convertLoop_zero host fromProto after
    rcases ending with ⟨messages, rfl⟩ | ⟨nothing, reader, rfl, counts⟩
    · refine ⟨{ ending := .trapped, bag := some (stem path, []) }, least, fun fuel enough => ?_,
        .trapped accepts messages rfl rfl⟩
      rw [convertAndReport, loop fuel enough]
    · exact ⟨_, least, fun fuel enough => convertAndReport_finished host fromProto
        (loop fuel enough), .converted accepts (Or.inr nothing) rfl
          (congrArg (fun bag => some (stem path, bag)) nothing.symm) (report_last _ counts)⟩
  · obtain ⟨⟨done, reader⟩, converts, bag, counts⟩ := converts_scan host fromProto empty after
      (ready_openedReader after) (rest_openedReader after) {}
    obtain ⟨least, finishes⟩ := converts.finishes
    have counted : reader.entryTypeCounts = headersOf (scanLog host after) :=
      funext fun type => (counts type).trans (Nat.zero_add _)
    exact ⟨_, least, fun fuel enough => convertAndReport_finished host fromProto
      (finishes fuel enough), .converted accepts (Or.inl empty) rfl
        (congrArg (fun bag => some (stem path, bag)) bag) (report_last _ counted)⟩

/-- The exception of the header check. -/
theorem openLog_refusal {argv : List String} {bytes : List UInt8}
    (opened : machine.openFile (argv.getD 1 "") = some bytes)
    (foreign : ¬ expectedHeader <+: bytes) :
    ∃ what, openLog (.ofBytes bytes) = .error what ∧
      Refusal machine argv (.terminated what) := by
  have refused := openLog_refused foreign
  by_cases short : bytes.length < headerSize
  · rw [if_pos short] at refused
    exact ⟨_, refused, .shortHeader opened short⟩
  · rw [if_neg short] at refused
    exact ⟨_, refused, .foreignHeader opened (Nat.le_of_not_lt short) foreign⟩

/--
However it is called and whatever the file holds, `log2bag` ends.  A bag is
opened only for a log that is accepted, and then it holds the messages of the
scanned entries, and the report their counts, unless the size of the file was
zero when there is something to write.
-/
theorem main_concludes (argv : List String) :
    ∃ process least, (∀ fuel, least ≤ fuel →
        main machine host fromProto fuel argv = process) ∧
      Concludes machine host fromProto argv process := by
  by_cases arguments : argv.length = 2
  swap
  · refine ⟨_, 0, fun fuel _ => if_pos arguments, .refused ?_ (.call arguments) rfl⟩
    exact fun path after size accepts => arguments accepts.arguments
  have called : ¬ argv.length ≠ 2 := not_not_intro arguments
  cases contents : machine.openFile (argv.getD 1 "") with
  | none =>
      refine ⟨{ ending := .exited 1, output := [.err "Could not open log file.\n"] }, 0,
        fun fuel _ => ?_, .refused ?_ (.noFile contents) rfl⟩
      · simp only [main, if_neg called, contents]
      · rintro path after size ⟨-, rfl, opened, -, -⟩
        cases contents.symm.trans opened
  | some bytes =>
      cases sized : machine.fileSize (argv.getD 1 "") with
      | error message =>
          refine ⟨{ ending := .exited 1, output := [.err
              ("Could not determine log file size: " ++ message ++ "\n")] }, 0,
            fun fuel _ => ?_, .refused ?_ (.noSize sized) rfl⟩
          · simp only [main, if_neg called, contents, sized]
          · rintro path after size ⟨-, rfl, -, known, -⟩
            cases sized.symm.trans known
      | ok size =>
          by_cases headed : expectedHeader <+: bytes
          swap
          · obtain ⟨what, refusal, failed⟩ := openLog_refusal machine contents headed
            refine ⟨{ ending := .terminated what, output := headerOutput bytes }, 0,
              fun fuel _ => ?_, .refused ?_ failed rfl⟩
            · simp only [main, if_neg called, contents, sized, refusal]
            · rintro path after size' ⟨-, rfl, opened, -, -⟩
              cases contents.symm.trans opened
              exact headed (List.prefix_append _ _)
          obtain ⟨after, rfl⟩ := headed
          cases created : machine.openBag (stem (argv.getD 1 "")) with
          | error what =>
              refine ⟨{ ending := .terminated what }, 0, fun fuel _ => ?_,
                .refused ?_ (.noBag contents created) rfl⟩
              · simp only [main, if_neg called, contents, sized, openLog_expectedHeader, created]
              · rintro path after' size' ⟨-, rfl, -, -, opened⟩
                cases created.symm.trans opened
          | ok opened =>
              obtain ⟨process, least, ends, concludes⟩ :=
                convertAndReport_concludes machine host fromProto
                  ⟨arguments, rfl, contents, sized, created⟩
              refine ⟨process, least, fun fuel enough => ?_, concludes⟩
              simp only [main, if_neg called, contents, sized, openLog_expectedHeader, created]
              exact ends fuel enough

end Main

end SslRosBridge.Log2bag
