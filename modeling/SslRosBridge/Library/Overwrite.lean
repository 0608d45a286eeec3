import Mathlib.Data.List.Induction
import Mathlib.Data.List.TakeDrop

/-!
# Memory that is overwritten from its start

A write replaces the front of the memory and leaves what it does not reach.
After several writes each place holds what the last one that reaches it left
there.
-/

namespace SslRosBridge.Library

section Overwrite

variable {Cell : Type}

def overwrite (memory written : List Cell) : List Cell :=
  written ++ memory.drop written.length

def overwriteAll (memory : List Cell) (writes : List (List Cell)) : List Cell :=
  writes.foldl overwrite memory

/-- The last of the writes that reaches a place. -/
def lastReaching (writes : List (List Cell)) (place : Nat) : Option (List Cell) :=
  writes.reverse.find? fun written => place < written.length

/-- Wherever later writes reach, the last of them puts there what was there. -/
def Spares (writes : List (List Cell)) (written : List Cell) : Prop :=
  ∀ place < written.length, ∀ last, lastReaching writes place = some last →
    last[place]? = written[place]?

theorem getElem?_overwrite (memory written : List Cell) (place : Nat) :
    (overwrite memory written)[place]? =
      if place < written.length then written[place]? else memory[place]? := by
  unfold overwrite
  split
  · next reached => exact List.getElem?_append_left reached
  · next beyond =>
      rw [List.getElem?_append_right (Nat.le_of_not_lt beyond), List.getElem?_drop,
        Nat.add_sub_cancel' (Nat.le_of_not_lt beyond)]

theorem overwriteAll_append (memory : List Cell) (writes later : List (List Cell)) :
    overwriteAll memory (writes ++ later) = overwriteAll (overwriteAll memory writes) later :=
  List.foldl_append

theorem lastReaching_snoc (writes : List (List Cell)) (written : List Cell) (place : Nat) :
    lastReaching (writes ++ [written]) place =
      if place < written.length then some written else lastReaching writes place := by
  unfold lastReaching
  rw [List.reverse_append, List.reverse_singleton, List.singleton_append]
  split
  · next reached => exact List.find?_cons_of_pos (decide_eq_true reached)
  · next beyond => exact List.find?_cons_of_neg (by simpa using beyond)

theorem getElem?_overwriteAll (memory : List Cell) (writes : List (List Cell)) (place : Nat) :
    (overwriteAll memory writes)[place]? = ((lastReaching writes place).getD memory)[place]? := by
  induction writes using List.reverseRecOn with
  | nil => rfl
  | append_singleton writes written ih =>
      rw [overwriteAll_append, lastReaching_snoc]
      change (overwrite _ written)[place]? = _
      rw [getElem?_overwrite]
      split
      · rfl
      · exact ih

/-- What was written is read back after later writes exactly when they spare it. -/
theorem take_overwriteAll_eq_iff (memory written : List Cell) (writes : List (List Cell)) :
    (overwriteAll (overwrite memory written) writes).take written.length = written ↔
      Spares writes written := by
  have inside (place : Nat) (reached : place < written.length) :
      ((overwriteAll (overwrite memory written) writes).take written.length)[place]? =
        ((lastReaching writes place).getD written)[place]? := by
    rw [List.getElem?_take_of_lt reached, getElem?_overwriteAll]
    cases lastReaching writes place with
    | none => exact (getElem?_overwrite memory written place).trans (if_pos reached)
    | some last => rfl
  constructor
  · intro same place reached last found
    have read := inside place reached
    rw [same, found] at read
    exact read.symm
  · intro spares
    apply List.ext_getElem?
    intro place
    by_cases reached : place < written.length
    · rw [inside place reached]
      cases found : lastReaching writes place with
      | none => rfl
      | some last => exact spares place reached last found
    · have short : ((overwriteAll (overwrite memory written) writes).take
          written.length).length ≤ written.length := List.length_take_le _ _
      rw [List.getElem?_eq_none (by omega), List.getElem?_eq_none (by omega)]

end Overwrite

end SslRosBridge.Library
