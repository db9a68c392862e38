import VdrSuite.Library.Bytes

/-! Standard Base64 with padding: symbols of six bits, and texts of groups of four symbols. -/

set_option autoImplicit false

namespace VdrSuite.Library.Base64

def alphabet : Bytes := text "ABCDEFGHIJKLMNOPQRSTUVWXYZabcdefghijklmnopqrstuvwxyz0123456789+/"

def padding : UInt8 := 61

def symbol (bits : Nat) : UInt8 := alphabet.getD bits padding

/-- The text of some bytes. Three bytes make four symbols; one or two bytes at the end are filled up
with zero bits and padding. -/
def encode : Bytes → Bytes
  | [] => []
  | [first] => [symbol (first.toNat / 4), symbol (first.toNat % 4 * 16), padding, padding]
  | [first, second] =>
    [symbol (first.toNat / 4), symbol (first.toNat % 4 * 16 + second.toNat / 16),
      symbol (second.toNat % 16 * 4), padding]
  | first :: second :: third :: rest =>
    symbol (first.toNat / 4) :: symbol (first.toNat % 4 * 16 + second.toNat / 16) ::
      symbol (second.toNat % 16 * 4 + third.toNat / 64) :: symbol (third.toNat % 64) ::
      encode rest

/-! ## Symbols -/

theorem symbol_upper : ∀ bits < 26, symbol bits = UInt8.ofNat (65 + bits) := by decide

theorem symbol_lower : ∀ bits < 26, symbol (26 + bits) = UInt8.ofNat (97 + bits) := by decide

theorem symbol_digit : ∀ bits < 10, symbol (52 + bits) = UInt8.ofNat (48 + bits) := by decide

theorem symbol_ne_padding : ∀ bits < 64, symbol bits ≠ padding := by decide

/-! ## Texts -/

theorem encode_eq_nil_iff {bytes : Bytes} : encode bytes = [] ↔ bytes = [] := by
  cases bytes using encode.fun_cases with
  | case1 => exact iff_of_true rfl rfl
  | case2 => exact iff_of_false (by simp [encode]) (by simp)
  | case3 => exact iff_of_false (by simp [encode]) (by simp)
  | case4 => exact iff_of_false (by simp [encode]) (by simp)

theorem encode_length (bytes : Bytes) : (encode bytes).length = (bytes.length + 2) / 3 * 4 := by
  induction bytes using encode.induct with
  | case1 => rfl
  | case2 => simp [encode]
  | case3 => simp [encode]
  | case4 first second third rest ih =>
    simp only [encode, List.length_cons, ih]
    omega

end VdrSuite.Library.Base64
