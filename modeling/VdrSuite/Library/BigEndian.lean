import VdrSuite.Library.Bytes
import Mathlib.Data.List.Induction

/-! Numbers of a fixed width in big-endian bytes, and fields at fixed offsets. -/

set_option autoImplicit false

namespace VdrSuite.Library.BigEndian

@[grind =] def bytes : Nat → Nat → Bytes
  | 0, _ => []
  | width + 1, number => bytes width (number / 256) ++ [UInt8.ofNat number]

@[grind =] def value (field : Bytes) : Nat :=
  field.foldl (fun number byte => 256 * number + byte.toNat) 0

@[simp] theorem bytes_length (width number : Nat) : (bytes width number).length = width := by
  induction width generalizing number with
  | zero => rfl
  | succ width ih => simp [bytes, ih]

theorem value_concat (field : Bytes) (byte : UInt8) :
    value (field ++ [byte]) = 256 * value field + byte.toNat := by
  simp [value]

theorem value_bytes {width number : Nat} (fits : number < 256 ^ width) :
    value (bytes width number) = number := by
  induction width generalizing number with
  | zero => simp_all [bytes, value]
  | succ width ih =>
    rw [bytes, value_concat, ih (by rw [pow_succ] at fits; omega)]
    have last : (UInt8.ofNat number).toNat = number % 256 := by simp
    omega

theorem value_lt (field : Bytes) : value field < 256 ^ field.length := by
  induction field using List.reverseRecOn with
  | nil => simp [value]
  | append_singleton field byte ih =>
    have small : byte.toNat < 256 := byte.toNat_lt
    rw [value_concat, List.length_append, List.length_singleton, pow_succ]
    omega

theorem bytes_value (field : Bytes) : bytes field.length (value field) = field := by
  induction field using List.reverseRecOn with
  | nil => rfl
  | append_singleton field byte ih =>
    have small : byte.toNat < 256 := byte.toNat_lt
    rw [value_concat, List.length_append, List.length_singleton, bytes]
    have rest : (256 * value field + byte.toNat) / 256 = value field := by omega
    have last : UInt8.ofNat (256 * value field + byte.toNat) = byte := by
      apply UInt8.toNat_inj.mp
      rw [UInt8.toNat_ofNat']
      omega
    rw [rest, last, ih]

theorem bytes_add (high low number : Nat) :
    bytes (high + low) number = bytes high (number / 256 ^ low) ++ bytes low number := by
  induction low generalizing number with
  | zero => simp [bytes]
  | succ low ih =>
    rw [← Nat.add_assoc, bytes, bytes, ih, Nat.div_div_eq_div_mul, ← pow_succ', List.append_assoc]

theorem bytes_mod (width number : Nat) : bytes width (number % 256 ^ width) = bytes width number := by
  induction width generalizing number with
  | zero => rfl
  | succ width ih =>
    have rest : number % 256 ^ (width + 1) / 256 = number / 256 % 256 ^ width := by
      rw [pow_succ', Nat.mod_mul_right_div_self]
    have last : UInt8.ofNat (number % 256 ^ (width + 1)) = UInt8.ofNat number := by
      apply UInt8.toNat_inj.mp
      rw [UInt8.toNat_ofNat', UInt8.toNat_ofNat']
      exact Nat.mod_mod_of_dvd number (dvd_pow_self 256 (Nat.succ_ne_zero width))
    rw [bytes, bytes, rest, last, ih]

/-! ## Fields -/

@[grind =] def field (data : Bytes) (offset width : Nat) : Option Bytes :=
  if offset + width ≤ data.length then some ((data.drop offset).take width) else none

theorem field_start (front rest : Bytes) : field (front ++ rest) 0 front.length = some front := by
  rw [field, if_pos (by simp), List.drop_zero, List.take_left]

theorem field_skip {front rest : Bytes} {offset width : Nat} (past : front.length ≤ offset) :
    field (front ++ rest) offset width = field rest (offset - front.length) width := by
  have reaches : offset + width ≤ (front ++ rest).length ↔
      offset - front.length + width ≤ rest.length := by
    rw [List.length_append]
    omega
  simp only [field, reaches, List.drop_append, List.drop_eq_nil_of_le past, List.nil_append]

theorem drop_eq_of_field {data middle : Bytes} {offset width : Nat}
    (found : field data offset width = some middle) :
    middle.length = width ∧ data.drop offset = middle ++ data.drop (offset + width) := by
  unfold field at found
  split at found
  case isFalse => cases found
  case isTrue inside =>
    cases found
    constructor
    · rw [List.length_take, List.length_drop]
      omega
    · rw [← List.drop_drop, List.take_append_drop]

end VdrSuite.Library.BigEndian
