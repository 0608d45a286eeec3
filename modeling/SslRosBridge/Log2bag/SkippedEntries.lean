import SslRosBridge.Log2bag.Agreement
import SslRosBridge.Log2bag.Framing

/-!
# Skipped entries

An entry of a recognised type is read to its end before it is skipped.  An
entry of an unrecognised type is left behind its header, so its payload is read
as the next entry.  Inserting an entry into a well-framed log is transparent
exactly when the entries up to it do not run into that early return.
-/

namespace SslRosBridge.Log2bag

open Library

/-! ## Reads do not depend on the position -/

/-- Two streams that differ in their positions only. -/
structure SameSource (left right : InputStream) : Prop where
  rest : left.rest = right.rest
  eofbit : left.eofbit = right.eofbit
  failbit : left.failbit = right.failbit
  badbit : left.badbit = right.badbit
  fault : left.fault = right.fault

namespace SameSource

variable {left right : InputStream}

theorem of_ready (readyLeft : left.Ready) (readyRight : right.Ready)
    (rest : left.rest = right.rest) : SameSource left right := by
  have goodLeft := readyLeft.good
  have goodRight := readyRight.good
  simp only [InputStream.good, Bool.not_eq_true', Bool.or_eq_false_iff] at goodLeft goodRight
  obtain ⟨⟨eofLeft, failLeft⟩, badLeft⟩ := goodLeft
  obtain ⟨⟨eofRight, failRight⟩, badRight⟩ := goodRight
  exact ⟨rest, eofLeft.trans eofRight.symm, failLeft.trans failRight.symm,
    badLeft.trans badRight.symm, readyLeft.sound.trans readyRight.sound.symm⟩

/-- Two streams over the same source yield the same bytes. -/
theorem read (same : SameSource left right) (count : Nat) :
    (left.read count).1 = (right.read count).1 ∧
      SameSource (left.read count).2 (right.read count).2 := by
  have good : right.good = left.good := by
    simp only [InputStream.good, same.eofbit, same.failbit, same.badbit]
  have faults : right.faults count = left.faults count := by
    simp only [InputStream.faults, same.fault, same.rest]
  unfold InputStream.read
  rw [good, faults, ← same.rest]
  by_cases stopped : (!left.good) = true
  · rw [if_pos stopped, if_pos stopped]
    exact ⟨rfl, rfl, same.eofbit, rfl, same.badbit, same.fault⟩
  rw [if_neg stopped, if_neg stopped]
  by_cases faulty : left.faults count = true
  · rw [if_pos faulty, if_pos faulty]
    exact ⟨rfl, rfl, same.eofbit, same.failbit, rfl, same.fault⟩
  rw [if_neg faulty, if_neg faulty]
  by_cases short : left.rest.length < count
  · rw [if_pos short, if_pos short]
    exact ⟨rfl, congrArg (List.drop _) same.rest, rfl, rfl, same.badbit,
      congrArg (Option.map _) same.fault⟩
  · rw [if_neg short, if_neg short]
    exact ⟨rfl, congrArg (List.drop _) same.rest, same.eofbit, same.failbit, same.badbit,
      congrArg (Option.map _) same.fault⟩

theorem agrees : InputStream.Agrees SameSource where
  eof := fun _ _ same => same.eofbit
  read := fun _ _ same => same.read

end SameSource

section Skipping

variable {Referee Wrapper : Type} (host : Host Referee Wrapper)

/-- The results that successive calls can return from a reader on. -/
def Observes (reader : LogReader) (results : List (Option (LogEntry Referee Wrapper))) : Prop :=
  ∃ next, Calls host reader results next

theorem Observes.congr {left right : LogReader}
    {results : List (Option (LogEntry Referee Wrapper))}
    (same : SameSource left.inputStream right.inputStream) (observes : Observes host left results) :
    Observes host right results := by
  obtain ⟨next, calls⟩ := observes
  obtain ⟨next', calls', -⟩ := calls.transfer host SameSource.agrees same
  exact ⟨next', calls'⟩

theorem observes_of_rest {left right : LogReader} (readyLeft : left.inputStream.Ready)
    (readyRight : right.inputStream.Ready)
    (rest : left.inputStream.rest = right.inputStream.rest)
    (results : List (Option (LogEntry Referee Wrapper))) :
    Observes host left results ↔ Observes host right results :=
  ⟨.congr host (.of_ready readyLeft readyRight rest),
    .congr host (.of_ready readyRight readyLeft rest.symm)⟩

/-- Stepping over an entry changes no result. -/
theorem observes_skip {reader next : LogReader} {entry : LogEntry Referee Wrapper}
    (ready : reader.inputStream.Ready)
    (extracted : extractNextEntry host reader = (.ok entry, next)) (skipped : entry.skipped)
    (results : List (Option (LogEntry Referee Wrapper))) :
    Observes host reader results ↔ Observes host next results := by
  have step := fun fuel => getNextMessage_skip host ready.eof_eq extracted skipped fuel
  constructor
  · rintro ⟨last, calls⟩
    cases calls with
    | nil => exact ⟨next, .nil next⟩
    | cons fuel call later =>
        cases fuel with
        | zero => cases call
        | succ fuel => exact ⟨last, .cons fuel ((step fuel).symm.trans call) later⟩
  · rintro ⟨last, calls⟩
    cases calls with
    | nil => exact ⟨reader, .nil reader⟩
    | cons fuel call later => exact ⟨last, .cons (fuel + 1) ((step fuel).trans call) later⟩

/-- A delivered entry is the next result. -/
theorem observes_deliver {reader next : LogReader} {entry : LogEntry Referee Wrapper}
    (ready : reader.inputStream.Ready)
    (extracted : extractNextEntry host reader = (.ok entry, next)) (delivered : ¬ entry.skipped)
    (results : List (Option (LogEntry Referee Wrapper))) :
    Observes host reader results ↔
      results = [] ∨ ∃ later, results = some entry :: later ∧ Observes host next later := by
  have step := fun fuel => getNextMessage_deliver host ready.eof_eq extracted delivered fuel
  constructor
  · rintro ⟨last, calls⟩
    cases calls with
    | nil => exact Or.inl rfl
    | cons fuel call later =>
        cases getNextMessage_unique host call (step 0)
        exact Or.inr ⟨_, rfl, last, later⟩
  · rintro (rfl | ⟨later, rfl, last, calls⟩)
    · exact ⟨reader, .nil reader⟩
    · exact ⟨last, .cons 1 (step 0) calls⟩

/-! ## Entries that are read to their end -/

/-- The reader gets past the entry's payload: there is none, or the type is one
of the seven and the memory for the payload is granted. -/
def FramedEntry.passable (entry : FramedEntry) : Prop :=
  entry.payload = [] ∨
    ((0 ≤ entry.type.toInt ∧ entry.type.toInt ≤ 6) ∧
      host.allocates entry.payload.length = true)

/-- The type is neither of the two that are translated. -/
def FramedEntry.skippedType (entry : FramedEntry) : Prop :=
  entry.type ≠ EntryType.refbox2013.value ∧ entry.type ≠ EntryType.vision2014.value

/-- A passable entry leaves the reader at the next entry, with a result that
depends on the entry only. -/
theorem FramedEntry.passable.extract {entry : FramedEntry} (passable : entry.passable host) :
    ∃ result : LogEntry Referee Wrapper, (entry.skippedType → result.skipped) ∧
      ∀ reader after, reader.inputStream.Ready →
        reader.inputStream.rest = entry.encode ++ after →
        ∃ next : LogReader, extractNextEntry host reader = (.ok result, next) ∧
          next.inputStream.Ready ∧ next.inputStream.rest = after := by
  cases type_eq : EntryType.ofRaw? entry.type with
  | none =>
      have unrecognised := mt (EntryType.isSome_ofRaw? entry.type).mpr (by rw [type_eq]; nofun)
      have empty : entry.payload = [] := passable.resolve_right fun known => unrecognised known.1
      refine ⟨{}, fun _ => rfl, fun reader after ready layout => ?_⟩
      have header : reader.inputStream.rest = entry.header ++ after := by
        rw [layout, FramedEntry.encode, empty, List.append_nil]
      refine ⟨_, extractNextEntry_unrecognised host ready header entry.length_header
        (by rw [entry.entryTypeRaw_header, type_eq]), ready.advance headerSize, ?_⟩
      simp only [LogReader.inputStream_withStream, InputStream.rest_advance, header]
      exact List.drop_left' entry.length_header
  | some type =>
      have granted : entry.granted host := passable.imp id And.right
      have raw := (EntryType.ofRaw?_eq_some_iff entry.type type).mp type_eq
      refine ⟨entry.logEntry host type, fun skippedType => ?_, fun reader after ready layout => ?_⟩
      · cases type with
        | refbox2013 => exact absurd raw skippedType.1
        | vision2014 => exact absurd raw skippedType.2
        | _ => rfl
      · exact ⟨_, extractNextEntry_framed host ready layout type_eq granted,
          LogReader.ready_pastEntry ready type entry, LogReader.rest_pastEntry layout type⟩

/-- An entry that is not passable leaves its payload in front of the reader. -/
theorem FramedEntry.rest_of_not_passable {entry : FramedEntry} (stuck : ¬ entry.passable host)
    {reader : LogReader} {after : List UInt8} (ready : reader.inputStream.Ready)
    (layout : reader.inputStream.rest = entry.encode ++ after) :
    entry.payload ≠ [] ∧
      (extractNextEntry host reader).2.inputStream.rest = entry.payload ++ after := by
  obtain ⟨nonempty, stuck⟩ := not_or.mp stuck
  have header : reader.inputStream.rest = entry.header ++ (entry.payload ++ after) := by
    rw [layout, FramedEntry.encode, List.append_assoc]
  have behind : reader.inputStream.rest.drop headerSize = entry.payload ++ after := by
    rw [header]
    exact List.drop_left' entry.length_header
  refine ⟨nonempty, ?_⟩
  cases type_eq : EntryType.ofRaw? entry.type with
  | none =>
      rw [extractNextEntry_unrecognised host ready header entry.length_header
        (by rw [entry.entryTypeRaw_header, type_eq])]
      exact behind
  | some type =>
      have known := (EntryType.isSome_ofRaw? entry.type).mp (by rw [type_eq]; rfl)
      have refused : reserve host (dataSize entry.header) = .error .badAlloc := by
        have length : entry.payload.length ≠ 0 := fun zero =>
          nonempty (List.length_eq_zero_iff.mp zero)
        rw [reserve_of_nonneg host (by rw [entry.dataSize_header]; omega), entry.dataSize_header,
          Int.toNat_natCast, if_neg]
        simp only [Bool.or_eq_true, decide_eq_true_eq, length, false_or]
        exact fun granted => stuck ⟨known, granted⟩
      rw [extractNextEntry_refused host ready header entry.length_header
        (by rw [entry.entryTypeRaw_header, type_eq]) refused]
      exact behind

/-! ## Inserting a skipped entry -/

/--
Inserting `entry` between `before` and `after` is transparent: successive calls
return the same results, and reading any entry up to the inserted one positions
the stream exactly at the next entry.
-/
structure Transparent (before : List FramedEntry) (entry : FramedEntry)
    (after : List FramedEntry) : Prop where
  sameResults : ∀ results,
    Observes host (openedReader (encodeEntries (before ++ entry :: after))) results ↔
      Observes host (openedReader (encodeEntries (before ++ after))) results
  positioned : ∀ front current back, before ++ [entry] = front ++ current :: back →
    ∀ reader : LogReader, reader.inputStream.Ready →
      reader.inputStream.rest = current.encode ++ encodeEntries (back ++ after) →
      (extractNextEntry host reader).2.inputStream.rest = encodeEntries (back ++ after)

/-- The two runs go through the entries in front of the insertion together. -/
theorem observes_insert {before : List FramedEntry} {entry : FramedEntry}
    {after : List FramedEntry} (skippedType : entry.skippedType)
    (entryPassable : entry.passable host) (passable : ∀ other ∈ before, other.passable host)
    {inserted original : LogReader} (readyInserted : inserted.inputStream.Ready)
    (readyOriginal : original.inputStream.Ready)
    (restInserted : inserted.inputStream.rest = encodeEntries (before ++ entry :: after))
    (restOriginal : original.inputStream.rest = encodeEntries (before ++ after))
    (results : List (Option (LogEntry Referee Wrapper))) :
    Observes host inserted results ↔ Observes host original results := by
  induction before generalizing inserted original results with
  | nil =>
      obtain ⟨result, skipped, extract⟩ := entryPassable.extract
      obtain ⟨next, extracted, ready, rest⟩ := extract inserted _ readyInserted restInserted
      rw [observes_skip host readyInserted extracted (skipped skippedType)]
      exact observes_of_rest host ready readyOriginal (rest.trans restOriginal.symm) results
  | cons first before ih =>
      have passable' := fun other member => passable other (List.mem_cons_of_mem _ member)
      obtain ⟨result, -, extract⟩ := (passable first List.mem_cons_self).extract
      obtain ⟨next, extracted, ready, rest⟩ := extract inserted _ readyInserted restInserted
      obtain ⟨next', extracted', ready', rest'⟩ := extract original _ readyOriginal restOriginal
      have both := ih passable' ready ready' rest rest'
      by_cases skipped : result.skipped
      · rw [observes_skip host readyInserted extracted skipped,
          observes_skip host readyOriginal extracted' skipped]
        exact both results
      · rw [observes_deliver host readyInserted extracted skipped,
          observes_deliver host readyOriginal extracted' skipped]
        exact or_congr_right (exists_congr fun later => and_congr_right fun _ => both later)

/--
Inserting an entry of a type that is not translated is transparent exactly when
the reader gets past the payloads of all entries up to the inserted one.
-/
theorem transparent_iff_passable (before : List FramedEntry) (entry : FramedEntry)
    (after : List FramedEntry) (skippedType : entry.skippedType) :
    Transparent host before entry after ↔
      ∀ current ∈ before ++ [entry], current.passable host := by
  constructor
  · intro transparent current member
    by_contra stuck
    obtain ⟨front, back, split⟩ := List.append_of_mem member
    let reader := openedReader (current.encode ++ encodeEntries (back ++ after))
    have ready : reader.inputStream.Ready := ready_openedReader _
    have positioned := transparent.positioned front current back split reader ready rfl
    obtain ⟨nonempty, rest⟩ := current.rest_of_not_passable host stuck ready rfl
    rw [rest] at positioned
    exact nonempty (List.append_left_eq_self.mp positioned)
  · intro passable
    have entryPassable := passable entry (by simp)
    have beforePassable : ∀ other ∈ before, other.passable host := fun other member =>
      passable other (List.mem_append_left _ member)
    refine ⟨fun results => observes_insert host skippedType entryPassable beforePassable
      (ready_openedReader _) (ready_openedReader _) rfl rfl results, ?_⟩
    intro front current back split reader ready layout
    have member : current ∈ before ++ [entry] := by
      rw [split]
      exact List.mem_append_right _ List.mem_cons_self
    obtain ⟨result, -, extract⟩ := (passable current member).extract
    obtain ⟨next, extracted, -, rest⟩ := extract reader _ ready layout
    rw [extracted]
    exact rest

end Skipping

/-- A tracker entry between two vision entries. -/
theorem transparent_tracker_entry :
    Transparent byteHost [⟨1, 4, [0x18, 1], by decide⟩] ⟨2, 5, [9], by decide⟩
      [⟨3, 4, [], by decide⟩] := by
  refine (transparent_iff_passable byteHost _ _ _ ⟨by decide, by decide⟩).mpr ?_
  intro current member
  rcases List.mem_append.mp member with first | inserted
  · obtain rfl := List.mem_singleton.mp first
    exact Or.inr ⟨by decide, rfl⟩
  · obtain rfl := List.mem_singleton.mp inserted
    exact Or.inr ⟨by decide, rfl⟩

/-- An entry of type 7 with a payload of one byte, inserted in front of an empty
vision packet: the packet is no longer delivered. -/
theorem not_transparent_unrecognised :
    let vision : FramedEntry := ⟨5, 4, [], by decide⟩
    let unrecognised : FramedEntry := ⟨4, 7, [1], by decide⟩
    unrecognised.skippedType ∧
      Observes byteHost (openedReader (encodeEntries ([] ++ [vision])))
        [some ⟨5, .wrapperPacket []⟩] ∧
      ¬ Observes byteHost (openedReader (encodeEntries ([] ++ unrecognised :: [vision])))
        [some ⟨5, .wrapperPacket []⟩] ∧
      ¬ Transparent byteHost [] unrecognised [vision] := by
  intro vision unrecognised
  have delivered : Observes byteHost (openedReader (encodeEntries ([] ++ [vision])))
      [some ⟨5, .wrapperPacket []⟩] := by
    have result : (getNextMessage byteHost 1 (openedReader (encodeEntries [vision]))).map
        Prod.fst = some (some ⟨5, .wrapperPacket []⟩) := by decide +kernel
    obtain ⟨⟨_, next⟩, call, rfl⟩ := Option.map_eq_some_iff.mp result
    exact ⟨next, .cons 1 call (.nil next)⟩
  have lost : ¬ Observes byteHost (openedReader (encodeEntries ([] ++ unrecognised :: [vision])))
      [some ⟨5, .wrapperPacket []⟩] := by
    rintro ⟨last, calls⟩
    have result : (getNextMessage byteHost 4
        (openedReader (encodeEntries (unrecognised :: [vision])))).map Prod.fst =
        some none := by decide +kernel
    obtain ⟨⟨_, next⟩, exhausted, rfl⟩ := Option.map_eq_some_iff.mp result
    cases calls with
    | cons fuel call later => cases getNextMessage_unique byteHost call exhausted
  exact ⟨⟨by decide, by decide⟩, delivered, lost, fun transparent =>
    lost ((transparent.sameResults _).mpr delivered)⟩

end SslRosBridge.Log2bag
