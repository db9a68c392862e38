import Mathlib.Data.List.Basic
import Mathlib.Data.Nat.ModEq

/-! Rings of slots: the last part of a history, each entry in the slot of its position modulo the
number of slots. -/

set_option autoImplicit false

namespace VdrSuite.Library.Ring

variable {Entry : Type}

def Holds (slots history : List Entry) (oldest : Nat) : Prop :=
  ∀ position, oldest ≤ position → position < history.length →
    slots[position % slots.length]? = history[position]?

theorem holds_empty (slots : List Entry) (oldest : Nat) : Holds slots [] oldest := by
  intro position _ bounded
  exact absurd bounded (Nat.not_lt_zero position)

theorem slot_ne {count early late : Nat} (earlier : early < late) (near : late < early + count) :
    early % count ≠ late % count := by
  intro same
  have divides : count ∣ late - early := (Nat.modEq_iff_dvd' earlier.le).mp same
  exact absurd (Nat.le_of_dvd (by omega) divides) (by omega)

theorem Holds.later {slots history : List Entry} {oldest later : Nat}
    (holds : Holds slots history oldest) (forward : oldest ≤ later) : Holds slots history later :=
  fun position from_ bounded => holds position (forward.trans from_) bounded

theorem Holds.push {slots history : List Entry} {oldest : Nat}
    (holds : Holds slots history oldest) (entry : Entry)
    (room : history.length < oldest + slots.length) (known : oldest ≤ history.length) :
    Holds (slots.set (history.length % slots.length) entry) (history ++ [entry]) oldest := by
  intro position from_ bounded
  rw [List.length_set]
  have occupied : 0 < slots.length := by omega
  by_cases last : position = history.length
  · subst last
    rw [List.getElem?_set_self (Nat.mod_lt _ occupied), List.getElem?_concat_length]
  · rw [List.length_append, List.length_singleton] at bounded
    have before : position < history.length := by omega
    rw [List.getElem?_set_ne (slot_ne before (by omega)).symm, List.getElem?_append_left before]
    exact holds position from_ before

end VdrSuite.Library.Ring
