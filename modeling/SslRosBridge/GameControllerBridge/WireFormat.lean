import SslRosBridge.GameControllerBridge.Platform

/-!
# The wire format

The messages of the controller in the wire format of protobuf, and a platform
whose peer speaks it.  A field is its tag and a varint, or the length of its
bytes and these bytes; a negative integer is written as 64 bits.
-/

namespace SslRosBridge.GameControllerBridge

open Library

open MessageConversion.Proto (Team)

/-! ## Requests -/

/-- A varint of at most 64 bits. -/
def writeVarint64 (value : Nat) : List UInt8 := writeGroups 10 value

/-- An integer as the 64 bits of its sign extension. -/
def signExtended (value : Int32) : Nat := (value.toInt % 0x10000000000000000).toNat

def AdvantageChoice.number : AdvantageChoice → Nat
  | .stop => 0
  | .continue => 1

/-- A set member of the oneof as its tag and its value. -/
def TeamToController.encode (message : TeamToController) : List UInt8 :=
  match message.msg with
  | none => []
  | some (.desiredKeeper id) => 0x10 :: writeVarint64 (signExtended id)
  | some (.advantageChoice choice) => 0x18 :: writeVarint64 choice.number
  | some (.substituteBot value) => 0x20 :: writeVarint64 value.toNat
  | some (.ping value) => 0x28 :: writeVarint64 value.toNat

/-- The member that a tag and its value set. -/
def TeamToController.Msg.ofField (tag : UInt8) (value : Nat) : Option TeamToController.Msg :=
  if tag = 0x10 then some (.desiredKeeper (Int32.ofInt value))
  else if tag = 0x18 then
    if value = 0 then some (.advantageChoice .stop)
    else if value = 1 then some (.advantageChoice .continue)
    else none
  else if tag = 0x20 then some (.substituteBot (value ≠ 0))
  else if tag = 0x28 then some (.ping (value ≠ 0))
  else none

/-- Messages of no field or of one. -/
def TeamToController.decode : List UInt8 → Option TeamToController
  | [] => some {}
  | tag :: rest =>
      match readGroups 10 rest with
      | some (value, []) => (Msg.ofField tag value).map fun msg => { msg := some msg }
      | _ => none

theorem signExtended_lt (value : Int32) : signExtended value < 2 ^ 64 := by
  unfold signExtended
  omega

theorem ofInt_signExtended (value : Int32) : Int32.ofInt (signExtended value) = value := by
  have lower := value.le_toInt
  have upper := value.toInt_lt
  apply Int32.toInt_inj.mp
  have unsigned : (signExtended value : Int) = value.toInt % 0x10000000000000000 :=
    Int.toNat_of_nonneg (Int.emod_nonneg _ (by decide))
  rw [Int32.toInt_ofInt, unsigned, Int.bmod_def, Int32.size]
  split <;> omega

theorem readGroups_writeVarint64 {value : Nat} (fits : value < 2 ^ 64) :
    readGroups 10 (writeVarint64 value) = some (value, []) := by
  have fits' : value < 128 ^ 10 := by omega
  have read := readGroups_writeGroups fits' (by omega) (Nat.le_refl 10) []
  rwa [List.append_nil] at read

theorem length_writeVarint64_le {value : Nat} (fits : value < 2 ^ 64) :
    (writeVarint64 value).length ≤ 10 :=
  length_writeGroups_le (by omega) (by omega) 10

theorem TeamToController.decode_field {tag : UInt8} {value : Nat} {msg : Msg}
    (fits : value < 2 ^ 64) (field : Msg.ofField tag value = some msg) :
    decode (tag :: writeVarint64 value) = some { msg := some msg } := by
  rw [decode, readGroups_writeVarint64 fits]
  simp only [field, Option.map_some]

theorem TeamToController.decode_encode (message : TeamToController) :
    decode (encode message) = some message := by
  rcases message with ⟨_ | msg⟩
  · rfl
  cases msg with
  | desiredKeeper id =>
      apply decode_field (signExtended_lt id)
      rw [Msg.ofField, if_pos rfl, ofInt_signExtended]
  | advantageChoice choice => cases choice <;> exact decode_field (by decide) (by decide)
  | substituteBot value => cases value <;> exact decode_field (by decide) (by decide)
  | ping value => cases value <;> exact decode_field (by decide) (by decide)

theorem TeamToController.length_encode_le (message : TeamToController) :
    (encode message).length ≤ 11 := by
  rcases message with ⟨_ | msg⟩
  · exact Nat.zero_le 11
  cases msg with
  | desiredKeeper id => exact Nat.succ_le_succ (length_writeVarint64_le (signExtended_lt id))
  | advantageChoice choice => cases choice <;> decide
  | substituteBot value => cases value <;> decide
  | ping value => cases value <;> decide

/-! ## Registrations and replies -/

def teamNumber : Team → UInt8
  | .unknown => 0
  | .yellow => 1
  | .blue => 2

def TeamRegistration.encode (message : TeamRegistration) : List UInt8 :=
  0x0a :: delimited message.teamName.toUTF8.toList ++
    match message.team with
    | none => []
    | some team => [0x18, teamNumber team]

def StatusCode.number : StatusCode → UInt8
  | .unknownStatusCode => 0
  | .ok => 1
  | .rejected => 2

/-- Other numbers are unknown to the enumeration, and the field is not set. -/
def StatusCode.ofNumber (number : UInt8) : Option StatusCode :=
  if number = 0 then some .unknownStatusCode
  else if number = 1 then some .ok
  else if number = 2 then some .rejected
  else none

/-- The message whose reply has this status code and no other field. -/
def StatusCode.encodeReply (code : StatusCode) : List UInt8 := [0x0a, 2, 0x08, code.number]

/-- Messages without a reply, or whose reply has no other field than its
status code. -/
def ControllerToTeam.decode : List UInt8 → Option ControllerToTeam
  | [] => some {}
  | [0x0a, 0] => some { controllerReply := some {} }
  | [0x0a, 2, 0x08, number] =>
      if number < 128 then
        some { controllerReply := some { statusCode := StatusCode.ofNumber number } }
      else none
  | _ => none

theorem ControllerToTeam.decode_encodeReply (code : StatusCode) :
    decode code.encodeReply = some { controllerReply := some { statusCode := some code } } := by
  cases code <;> rfl

/-- No shorter message has a status code. -/
theorem ControllerToTeam.length_encodeReply_le {code : StatusCode} {body : List UInt8}
    (parses : decode body = some { controllerReply := some { statusCode := some code } }) :
    code.encodeReply.length ≤ body.length := by
  unfold decode at parses
  split at parses
  · cases parses
  · cases parses
  · exact Nat.le_refl 4
  · cases parses

/-! ## A scripted platform -/

/-- Segments that arrive at given times, one behind the other, and the
controller's answers to the next writes with their delays. -/
structure Script where
  clock : Nat := 0
  incoming : List (Nat × List UInt8) := []
  answers : List (Nat × List UInt8) := []
  writeError : Option ErrorCode := none
  closeError : Option ErrorCode := none
  deriving DecidableEq, Repr

namespace Script

/-- The bytes before the first segment that is still on its way. -/
def arrived (script : Script) : List UInt8 :=
  (script.incoming.takeWhile fun segment => segment.1 ≤ script.clock).flatMap Prod.snd

def underway (script : Script) : List (Nat × List UInt8) :=
  script.incoming.dropWhile fun segment => segment.1 ≤ script.clock

/-- What is left over has arrived already. -/
def read (script : Script) (capacity : Nat) : List UInt8 × Script :=
  (script.arrived.take capacity,
    { script with
      incoming :=
        if script.arrived.length ≤ capacity then script.underway
        else (script.clock, script.arrived.drop capacity) :: script.underway })

/-- The controller answers a written message. -/
def answer (script : Script) : Script :=
  match script.answers with
  | [] => script
  | (delay, segment) :: later =>
      { script with
        incoming := script.incoming ++ [(script.clock + delay, segment)]
        answers := later }

end Script

def scripted : Platform Script where
  serializeRegistration := TeamRegistration.encode
  serializeToController := TeamToController.encode
  parseToTeam := ControllerToTeam.decode
  second := 10
  now := Script.clock
  sleep := fun script => { script with clock := script.clock + 1 }
  openSocket := fun script => (none, script)
  connect := fun _ script => (none, script)
  close := fun script => (script.closeError, script)
  write := fun _ script =>
    match script.writeError with
    | none => (none, script.answer)
    | some error => (some error, script)
  available := fun script => ((script.arrived.length, none), script)
  read := fun capacity _ script => (((script.read capacity).1, none), (script.read capacity).2)
  now_available := fun _ => Nat.le_refl _
  now_sleep := fun script => Nat.lt_succ_self script.clock

/-- A reply with this status code, as one frame. -/
def StatusCode.reply (code : StatusCode) : List UInt8 := delimited code.encodeReply

/-- The controller greets a client and accepts its registration, and answers
nothing more. -/
def admitting : Script where
  incoming := [(0, StatusCode.ok.reply)]
  answers := [(0, StatusCode.ok.reply)]

end SslRosBridge.GameControllerBridge
