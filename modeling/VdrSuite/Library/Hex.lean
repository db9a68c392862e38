import Mathlib.Tactic.IntervalCases
import VdrSuite.Library.Bytes

/-! Lower-case hexadecimal text. -/

set_option autoImplicit false

namespace VdrSuite.Library.Hex

def hexDigit (value : Nat) : UInt8 :=
  if value < 10 then UInt8.ofNat (48 + value) else UInt8.ofNat (87 + value)

def hexValue (byte : UInt8) : Option Nat :=
  if 48 ≤ byte ∧ byte ≤ 57 then some (byte.toNat - 48)
  else if 97 ≤ byte ∧ byte ≤ 102 then some (byte.toNat - 87)
  else none

def encode (value : Bytes) : Bytes :=
  value.flatMap fun byte => [hexDigit (byte.toNat / 16), hexDigit (byte.toNat % 16)]

def decode : Bytes → Option Bytes
  | [] => some []
  | [_] => none
  | high :: low :: rest =>
    match hexValue high, hexValue low with
    | some upper, some lower =>
      match decode rest with
      | none => none
      | some value => some (UInt8.ofNat (upper * 16 + lower) :: value)
    | _, _ => none

def word64 (value : Nat) : Bytes :=
  (List.range 16).map fun index => hexDigit (value / 16 ^ (15 - index) % 16)

theorem hexValue_hexDigit (value : Nat) (small : value < 16) :
    hexValue (hexDigit value) = some value := by
  interval_cases value <;> rfl

theorem decode_encode (value : Bytes) : decode (encode value) = some value := by
  induction value with
  | nil => rfl
  | cons byte rest ih =>
    have upper : hexValue (hexDigit (byte.toNat / 16)) = some (byte.toNat / 16) :=
      hexValue_hexDigit _ (by have := byte.toNat_lt; omega)
    have lower : hexValue (hexDigit (byte.toNat % 16)) = some (byte.toNat % 16) :=
      hexValue_hexDigit _ (by omega)
    have joined : UInt8.ofNat (byte.toNat / 16 * 16 + byte.toNat % 16) = byte := by
      rw [Nat.div_add_mod']
      exact UInt8.ofNat_toNat
    rw [encode, List.flatMap_cons, ← encode]
    simp only [List.cons_append, List.nil_append, decode, upper, lower, ih, joined]

theorem encode_length (value : Bytes) : (encode value).length = 2 * value.length := by
  induction value with
  | nil => rfl
  | cons byte rest ih =>
    rw [encode, List.flatMap_cons, ← encode]
    simp only [List.length_append, List.length_cons, List.length_nil, ih]
    omega

/-- Every byte of the text is a digit or one of the letters `a` to `f`. -/
theorem hexValue_of_mem_encode (value : Bytes) :
    ∀ byte ∈ encode value, (hexValue byte).isSome := by
  intro byte member
  simp only [encode, List.mem_flatMap, List.mem_cons, List.not_mem_nil, or_false] at member
  obtain ⟨source, -, rfl | rfl⟩ := member
  · rw [hexValue_hexDigit _ (by have := source.toNat_lt; omega)]
    rfl
  · rw [hexValue_hexDigit _ (by omega)]
    rfl

theorem notMem_encode (value : Bytes) (byte : UInt8) (foreign : hexValue byte = none) :
    byte ∉ encode value := by
  intro member
  have := hexValue_of_mem_encode value byte member
  rw [foreign] at this
  exact absurd this (by decide)

theorem notMem_word64 (value : Nat) (byte : UInt8) (foreign : hexValue byte = none) :
    byte ∉ word64 value := by
  intro member
  obtain ⟨index, -, rfl⟩ := List.mem_map.mp member
  rw [hexValue_hexDigit _ (by omega)] at foreign
  simp at foreign

end VdrSuite.Library.Hex
