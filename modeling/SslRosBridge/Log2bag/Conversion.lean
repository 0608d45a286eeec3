import SslRosBridge.Log2bag.LogReader

/-!
# The conversion loop of `log2bag`

`WriteMessageIfExists`, `RenderProgressBar`, the loop of `main` in
`log2bag.cpp` and the statistics that it prints.  The conversion to ROS messages
is a pair of functions; a bag is the list of messages handed to the writer.
-/

namespace SslRosBridge.Log2bag

open Library

/-- The two overloads of `message_conversion::fromProto` that the loop uses. -/
structure FromProto (Referee Wrapper RosReferee RosWrapper : Type) where
  referee : Referee → RosReferee
  wrapperPacket : Wrapper → RosWrapper

inductive Content (RosReferee RosWrapper : Type) where
  | referee (message : RosReferee)
  | visionWrapper (message : RosWrapper)
  deriving DecidableEq

structure BagMessage (RosReferee RosWrapper : Type) where
  content : Content RosReferee RosWrapper
  topic : String
  typeName : String
  time : Int64
  deriving DecidableEq

namespace Message

variable {Referee Wrapper : Type}

/-- `std::holds_alternative<Referee>` followed by `std::get<Referee>`. -/
def referee? : Message Referee Wrapper → Option Referee
  | .referee message => some message
  | _ => none

/-- `std::holds_alternative<SSL_WrapperPacket>` followed by `std::get`. -/
def wrapperPacket? : Message Referee Wrapper → Option Wrapper
  | .wrapperPacket message => some message
  | _ => none

end Message

/-! ## Progress bar -/

def barWidth : Nat := 20

structure ProgressBar where
  filled : Nat
  blank : Nat
  percent : Nat
  deriving DecidableEq, Repr

/-- `RenderProgressBar` in `uintmax_t` arithmetic; a zero total traps. -/
def renderProgressBar (bytesRead bytesTotal : Nat) : Option ProgressBar :=
  if bytesTotal = 0 then none
  else
    let percent := bytesRead * 100 % 2 ^ 64 / bytesTotal
    let numFilledChars := percent * barWidth % 2 ^ 64 / 100
    some
      { filled := numFilledChars
        blank := (barWidth + 2 ^ 64 - numFilledChars) % 2 ^ 64
        percent := percent }

/-- The stream position as the `uintmax_t` argument of the progress bar. -/
def bytesRead (stream : InputStream) : Nat := (stream.tellg % 2 ^ 64).toNat

/-! ## Writing and converting -/

section Converting

variable {Referee Wrapper RosReferee RosWrapper : Type}
variable (host : Host Referee Wrapper)
variable (fromProto : FromProto Referee Wrapper RosReferee RosWrapper)

def writeMessageIfExists {ProtoType RosType : Type}
    (get? : Message Referee Wrapper → Option ProtoType) (convert : ProtoType → RosType)
    (serialize : RosType → Content RosReferee RosWrapper)
    (entry : LogEntry Referee Wrapper) (topic typeName : String)
    (bag : List (BagMessage RosReferee RosWrapper)) :
    List (BagMessage RosReferee RosWrapper) :=
  match get? entry.message with
  | none => bag
  | some message => bag ++ [⟨serialize (convert message), topic, typeName, entry.receivedTimeNs⟩]

/-- The two calls of `WriteMessageIfExists` in the loop body. -/
def writeEntry (entry : LogEntry Referee Wrapper)
    (bag : List (BagMessage RosReferee RosWrapper)) :
    List (BagMessage RosReferee RosWrapper) :=
  writeMessageIfExists Message.wrapperPacket? fromProto.wrapperPacket .visionWrapper entry
    "/vision_messages" "ssl_league_msgs/msg/VisionWrapper"
    (writeMessageIfExists Message.referee? fromProto.referee .referee entry
      "/referee_messages" "ssl_league_msgs/msg/Referee" bag)

/-- What the loop has produced so far. -/
structure Conversion (RosReferee RosWrapper : Type) where
  bag : List (BagMessage RosReferee RosWrapper) := []
  console : List ProgressBar := []

inductive Outcome (Result : Type) where
  | running
  | trapped
  | finished (result : Result)

/--
The `while` loop of `main`.  `running` stands for a loop, or a call of
`GetNextMessage` in it, that has not ended when the fuel is used up; `trapped`
for a division by zero in the progress bar.
-/
def convertLoop (logFileSize : Nat) :
    Nat → LogReader → Conversion RosReferee RosWrapper →
      Outcome (Conversion RosReferee RosWrapper × LogReader)
  | 0, _, _ => .running
  | fuel + 1, reader, done =>
      match getNextMessage host (fuel + 1) reader with
      | none => .running
      | some (none, reader) => .finished (done, reader)
      | some (some entry, reader) =>
          match renderProgressBar (bytesRead reader.inputStream) logFileSize with
          | none => .trapped
          | some bar =>
              convertLoop logFileSize fuel reader
                { bag := writeEntry fromProto entry done.bag, console := done.console ++ [bar] }

/-- `main` on a log file: the size is sampled, the header checked, and the
loop run.  The error is the exception that leaves the constructor. -/
def runLog2bag (fuel : Nat) (bytes : List UInt8) :
    Except String (Outcome (Conversion RosReferee RosWrapper × LogReader)) := do
  let reader ← openLog (.ofBytes bytes)
  return convertLoop host fromProto bytes.length fuel reader {}

end Converting

/-! ## Statistics -/

/-- What is printed after the loop, each line with its label and its count. -/
structure Statistics where
  translatedEntries : List (String × Nat)
  skippedEntries : List (String × Nat)
  deriving DecidableEq, Repr

/-- The lines below `Translated entries`. -/
def translatedLines (count : EntryType → Nat) : List (String × Nat) :=
  [("Refbox 2013", count .refbox2013), ("Vision 2014", count .vision2014)]

/-- The lines below `Skipped entries`. -/
def skippedLines (count : EntryType → Nat) : List (String × Nat) :=
  [("Blank", count .blank), ("Unknown", count .unknown), ("Vision 2010", count .vision2010),
    ("Vision Tracker 2020", count .visionTracker2020), ("Index 2021", count .index2021)]

def statistics (reader : LogReader) : Statistics where
  translatedEntries := translatedLines reader.entryTypeCounts
  skippedEntries := skippedLines reader.entryTypeCounts

end SslRosBridge.Log2bag
