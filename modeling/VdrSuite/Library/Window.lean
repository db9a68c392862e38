import Mathlib.Data.List.Basic

/-! Windows of a sequence: how adjacent windows join, and where a window of a concatenation
lies. -/

set_option autoImplicit false

namespace VdrSuite.Library

variable {α : Type}

def window (offset count : Nat) (content : List α) : List α := (content.drop offset).take count

@[simp] theorem window_zero (offset : Nat) (content : List α) : window offset 0 content = [] :=
  List.take_zero

theorem window_length (offset count : Nat) (content : List α) :
    (window offset count content).length = min count (content.length - offset) := by
  simp [window]

theorem window_append_window (offset first second : Nat) (content : List α) :
    window offset first content ++ window (offset + first) second content =
      window offset (first + second) content := by
  rw [window, window, window, List.take_add, List.drop_drop]

theorem window_self_length (offset count : Nat) (content : List α) :
    window offset (window offset count content).length content = window offset count content := by
  rw [window, window, List.length_take, ← List.take_take, List.take_length]

theorem window_eq_drop {offset count : Nat} {content : List α}
    (reaches : content.length ≤ offset + count) : window offset count content = content.drop offset := by
  rw [window, List.take_of_length_le]
  simp only [List.length_drop]
  omega

theorem window_middle (before middle after : List α) {offset count : Nat}
    (inside : offset + count ≤ middle.length) :
    window (before.length + offset) count (before ++ (middle ++ after)) =
      window offset count middle := by
  have skipped : (before ++ (middle ++ after)).drop (before.length + offset) =
      (middle ++ after).drop offset := by
    rw [← List.drop_drop, List.drop_left]
  have short : count ≤ (middle.drop offset).length := by
    simp only [List.length_drop]
    omega
  rw [window, window, skipped, List.drop_append_of_le_length (by omega),
    List.take_append_of_le_length short]

end VdrSuite.Library
