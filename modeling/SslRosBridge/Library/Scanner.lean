import Mathlib.Data.List.Basic

/-!
# Incremental scanners

A scanner looks at the front of a finite input.  It takes a piece of it, waits
for more input, or halts.  A piece that it takes, and a halt, do not depend on
what follows, so a longer input is scanned to the same outputs and perhaps more.
-/

namespace SslRosBridge.Library

inductive Scan (Symbol Output : Type) where
  | waits
  | halts
  | takes (output : Option Output) (after : List Symbol)
  deriving DecidableEq

structure Scanner (Symbol Output : Type) where
  scan : List Symbol → Scan Symbol Output
  shorter : ∀ {input after : List Symbol} {output : Option Output},
    scan input = .takes output after → after.length < input.length
  takes_append : ∀ {input after : List Symbol} {output : Option Output} (more : List Symbol),
    scan input = .takes output after → scan (input ++ more) = .takes output (after ++ more)
  halts_append : ∀ {input : List Symbol} (more : List Symbol),
    scan input = .halts → scan (input ++ more) = .halts

/-- What a scan of a whole input has put out, and what it has not taken. -/
structure Scanned (Symbol Output : Type) where
  outputs : List Output
  leftover : List Symbol
  halted : Bool
  deriving DecidableEq

section Scanned

variable {Symbol Output : Type}

def Scanned.prepend (scanned : Scanned Symbol Output) (earlier : List Output) :
    Scanned Symbol Output :=
  { scanned with outputs := earlier ++ scanned.outputs }

@[simp] theorem Scanned.outputs_prepend (scanned : Scanned Symbol Output) (earlier : List Output) :
    (scanned.prepend earlier).outputs = earlier ++ scanned.outputs := rfl

@[simp] theorem Scanned.leftover_prepend (scanned : Scanned Symbol Output)
    (earlier : List Output) : (scanned.prepend earlier).leftover = scanned.leftover := rfl

@[simp] theorem Scanned.halted_prepend (scanned : Scanned Symbol Output) (earlier : List Output) :
    (scanned.prepend earlier).halted = scanned.halted := rfl

@[simp] theorem Scanned.prepend_nil (scanned : Scanned Symbol Output) :
    scanned.prepend [] = scanned := rfl

theorem Scanned.prepend_prepend (scanned : Scanned Symbol Output) (first second : List Output) :
    (scanned.prepend second).prepend first = scanned.prepend (first ++ second) := by
  simp only [Scanned.prepend, List.append_assoc]

end Scanned

namespace Scanner

variable {Symbol Output : Type} (scanner : Scanner Symbol Output)

/-- Pieces are taken until the scanner waits or halts. -/
def run (input : List Symbol) : Scanned Symbol Output :=
  match _taken : scanner.scan input with
  | .waits => ⟨[], input, false⟩
  | .halts => ⟨[], input, true⟩
  | .takes output after => (run after).prepend output.toList
termination_by input.length
decreasing_by exact scanner.shorter _taken

theorem run_waits {input : List Symbol} (waits : scanner.scan input = .waits) :
    scanner.run input = ⟨[], input, false⟩ := by
  rw [run]
  split <;> simp_all

theorem run_halts {input : List Symbol} (halts : scanner.scan input = .halts) :
    scanner.run input = ⟨[], input, true⟩ := by
  rw [run]
  split <;> simp_all

theorem run_takes {input after : List Symbol} {output : Option Output}
    (takes : scanner.scan input = .takes output after) :
    scanner.run input = (scanner.run after).prepend output.toList := by
  rw [run]
  split <;> simp_all

/-- The three ways in which a scan goes on. -/
theorem run_induction {motive : List Symbol → Prop}
    (waits : ∀ input, scanner.scan input = .waits → motive input)
    (halts : ∀ input, scanner.scan input = .halts → motive input)
    (takes : ∀ input output after, scanner.scan input = .takes output after → motive after →
      motive input)
    (input : List Symbol) : motive input := by
  induction input using run.induct scanner with
  | case1 input taken => exact waits input taken
  | case2 input taken => exact halts input taken
  | case3 input output after taken ih => exact takes input output after taken ih

/-- A scan that waits goes on with what it has left over. -/
theorem run_append (input more : List Symbol) (waiting : (scanner.run input).halted = false) :
    scanner.run (input ++ more) =
      (scanner.run ((scanner.run input).leftover ++ more)).prepend
        (scanner.run input).outputs := by
  induction input using scanner.run_induction with
  | waits input waits =>
      rw [scanner.run_waits waits]
      rfl
  | halts input halts =>
      rw [scanner.run_halts halts] at waiting
      cases waiting
  | takes input output after takes ih =>
      rw [scanner.run_takes takes] at waiting ⊢
      rw [scanner.run_takes (scanner.takes_append more takes), ih waiting,
        Scanned.prepend_prepend]
      rfl

/-- A scan that has halted ignores what follows. -/
theorem run_append_of_halted (input more : List Symbol)
    (halted : (scanner.run input).halted = true) :
    (scanner.run (input ++ more)).outputs = (scanner.run input).outputs ∧
      (scanner.run (input ++ more)).leftover = (scanner.run input).leftover ++ more := by
  induction input using scanner.run_induction with
  | waits input waits =>
      rw [scanner.run_waits waits] at halted
      cases halted
  | halts input halts =>
      rw [scanner.run_halts halts, scanner.run_halts (scanner.halts_append more halts)]
      exact ⟨rfl, rfl⟩
  | takes input output after takes ih =>
      rw [scanner.run_takes takes] at halted ⊢
      rw [scanner.run_takes (scanner.takes_append more takes)]
      obtain ⟨outputs, leftover⟩ := ih halted
      exact ⟨congrArg (output.toList ++ ·) outputs, leftover⟩

/-- What has been put out stays as more input arrives. -/
theorem outputs_append (input more : List Symbol) :
    (scanner.run input).outputs <+: (scanner.run (input ++ more)).outputs := by
  cases halted : (scanner.run input).halted with
  | false =>
      rw [scanner.run_append input more halted]
      exact List.prefix_append _ _
  | true =>
      have same := (scanner.run_append_of_halted input more halted).1
      exact ⟨[], (List.append_nil _).trans same.symm⟩

/-- Encoded outputs are scanned back, whatever stands behind them. -/
theorem run_flatMap {Source : Type} (encode : Source → List Symbol) (decoded : Source → Output)
    (sources : List Source) (more : List Symbol)
    (reads : ∀ source ∈ sources, ∀ behind,
      scanner.scan (encode source ++ behind) = .takes (some (decoded source)) behind) :
    scanner.run (sources.flatMap encode ++ more) =
      (scanner.run more).prepend (sources.map decoded) := by
  induction sources with
  | nil => rfl
  | cons source sources ih =>
      obtain ⟨first, others⟩ := List.forall_mem_cons.mp reads
      rw [List.flatMap_cons, List.append_assoc, scanner.run_takes (first _), ih others,
        Scanned.prepend_prepend]
      rfl

end Scanner

end SslRosBridge.Library
