import VdrSuite.Library.Bytes

/-! Well-formed UTF-8: the encodings of sequences of Unicode scalar values, and the byte ranges
of one encoded character. -/

set_option autoImplicit false

namespace VdrSuite.Library.Utf8

def encode (characters : List Char) : Bytes := characters.flatMap String.utf8EncodeChar

def WellFormed (bytes : Bytes) : Prop := ∃ characters, bytes = encode characters

def Continuation (byte : UInt8) : Prop := 0x80 ≤ byte ∧ byte ≤ 0xbf

/-- The bytes of one character: nothing overlong, no surrogate and nothing above U+10FFFF. -/
inductive Sequence : Bytes → Prop where
  | one {first : UInt8} (ascii : first ≤ 0x7f) : Sequence [first]
  | two {first second : UInt8} (least : 0xc2 ≤ first) (most : first ≤ 0xdf)
      (one : Continuation second) : Sequence [first, second]
  | three {first second third : UInt8} (least : 0xe0 ≤ first) (most : first ≤ 0xef)
      (one : Continuation second) (two : Continuation third)
      (overlong : first = 0xe0 → 0xa0 ≤ second) (surrogate : first = 0xed → second ≤ 0x9f) :
      Sequence [first, second, third]
  | four {first second third fourth : UInt8} (least : 0xf0 ≤ first) (most : first ≤ 0xf4)
      (one : Continuation second) (two : Continuation third) (three : Continuation fourth)
      (overlong : first = 0xf0 → 0x90 ≤ second) (beyond : first = 0xf4 → second ≤ 0x8f) :
      Sequence [first, second, third, fourth]

/-! ## One character -/

theorem toNat_ofNat {number : Nat} (small : number < 256) : (UInt8.ofNat number).toNat = number :=
  UInt8.toNat_ofNat_of_lt' small

theorem ofNat_le {number : Nat} {byte : UInt8} (below : number ≤ byte.toNat) :
    UInt8.ofNat number ≤ byte := by
  rw [UInt8.le_iff_toNat_le, UInt8.toNat_ofNat']
  exact (Nat.mod_le _ _).trans below

theorem le_ofNat {number : Nat} {byte : UInt8} (small : number < 256)
    (above : byte.toNat ≤ number) : byte ≤ UInt8.ofNat number := by
  rw [UInt8.le_iff_toNat_le, toNat_ofNat small]
  exact above

theorem eq_of_ofNat {number : Nat} {byte : UInt8} (small : number < 256)
    (same : UInt8.ofNat number = byte) : number = byte.toNat := by
  rw [← same, toNat_ofNat small]

theorem continuation_ofNat (number : Nat) :
    Continuation (UInt8.ofNat (number % 64 + 128)) := by
  constructor
  · exact le_ofNat (by omega) (show 128 ≤ number % 64 + 128 by omega)
  · exact ofNat_le (show number % 64 + 128 ≤ 191 by omega)

theorem scalar_bounds (character : Char) :
    character.val.toNat < 0xd800 ∨
      0xdfff < character.val.toNat ∧ character.val.toNat < 0x110000 :=
  character.valid

theorem sequence_utf8EncodeChar (character : Char) :
    Sequence (String.utf8EncodeChar character) := by
  have scalar := scalar_bounds character
  unfold String.utf8EncodeChar
  generalize character.val.toNat = number at scalar
  dsimp only
  by_cases one : number ≤ 0x7f
  · rw [if_pos one]
    exact .one (ofNat_le one)
  · rw [if_neg one]
    by_cases two : number ≤ 0x7ff
    · rw [if_pos two]
      refine .two (le_ofNat (by omega) ?_) (ofNat_le ?_) (continuation_ofNat number)
      · change 0xc2 ≤ _
        omega
      · change _ ≤ 0xdf
        omega
    · rw [if_neg two]
      by_cases three : number ≤ 0xffff
      · rw [if_pos three]
        refine .three (le_ofNat (by omega) ?_) (ofNat_le ?_) (continuation_ofNat (number / 64))
          (continuation_ofNat number) (fun least => le_ofNat (by omega) ?_)
          (fun surrogate => ofNat_le ?_)
        · change 0xe0 ≤ _
          omega
        · change _ ≤ 0xef
          omega
        · have top : _ = 0xe0 := eq_of_ofNat (by omega) least
          change 0xa0 ≤ _
          omega
        · have top : _ = 0xed := eq_of_ofNat (by omega) surrogate
          change _ ≤ 0x9f
          omega
      · rw [if_neg three]
        refine .four (le_ofNat (by omega) ?_) (ofNat_le ?_) (continuation_ofNat (number / 4096))
          (continuation_ofNat (number / 64)) (continuation_ofNat number)
          (fun least => le_ofNat (by omega) ?_) (fun most => ofNat_le ?_)
        · change 0xf0 ≤ _
          omega
        · change _ ≤ 0xf4
          omega
        · have top : _ = 0xf0 := eq_of_ofNat (by omega) least
          change 0x90 ≤ _
          omega
        · have top : _ = 0xf4 := eq_of_ofNat (by omega) most
          change _ ≤ 0x8f
          omega

def scalar (number : Nat) (valid : number.isValidChar) : Char :=
  ⟨UInt32.ofNat number, by
    have small : number < 2 ^ 32 := by
      obtain low | high := valid
      · omega
      · omega
    change (UInt32.ofNat number).toNat.isValidChar
    rwa [UInt32.toNat_ofNat', Nat.mod_eq_of_lt small]⟩

theorem scalar_toNat {number : Nat} (valid : number.isValidChar) :
    (scalar number valid).val.toNat = number := by
  have small : number < 2 ^ 32 := by
    obtain low | high := valid
    · omega
    · omega
  change (UInt32.ofNat number).toNat = number
  rw [UInt32.toNat_ofNat', Nat.mod_eq_of_lt small]

theorem eq_ofNat {byte : UInt8} {number : Nat} (same : byte.toNat = number) :
    byte = UInt8.ofNat number := by
  rw [← same, UInt8.ofNat_toNat]

theorem Continuation.toNat {byte : UInt8} (continuation : Continuation byte) :
    128 ≤ byte.toNat ∧ byte.toNat ≤ 191 :=
  ⟨UInt8.le_iff_toNat_le.mp continuation.1, UInt8.le_iff_toNat_le.mp continuation.2⟩

theorem exists_of_sequence {bytes : Bytes} (sequence : Sequence bytes) :
    ∃ character, bytes = String.utf8EncodeChar character := by
  cases sequence with
  | @one first ascii =>
    have small : first.toNat ≤ 127 := UInt8.le_iff_toNat_le.mp ascii
    refine ⟨scalar first.toNat (.inl (by omega)), ?_⟩
    simp only [String.utf8EncodeChar, scalar_toNat]
    rw [if_pos small, UInt8.ofNat_toNat]
  | @two first second least most one =>
    have low : 194 ≤ first.toNat := UInt8.le_iff_toNat_le.mp least
    have high : first.toNat ≤ 223 := UInt8.le_iff_toNat_le.mp most
    obtain ⟨lowOne, highOne⟩ := one.toNat
    refine ⟨scalar ((first.toNat - 192) * 64 + (second.toNat - 128)) (.inl (by omega)), ?_⟩
    simp only [String.utf8EncodeChar, scalar_toNat]
    rw [if_neg (by omega), if_pos (by omega)]
    simp only [List.cons.injEq, and_true]
    exact ⟨eq_ofNat (by omega), eq_ofNat (by omega)⟩
  | @three first second third least most one two overlong surrogate =>
    have low : 224 ≤ first.toNat := UInt8.le_iff_toNat_le.mp least
    have high : first.toNat ≤ 239 := UInt8.le_iff_toNat_le.mp most
    obtain ⟨lowOne, highOne⟩ := one.toNat
    obtain ⟨lowTwo, highTwo⟩ := two.toNat
    have canonical : first.toNat = 224 → 160 ≤ second.toNat := fun same =>
      UInt8.le_iff_toNat_le.mp (overlong (UInt8.toNat_inj.mp same))
    have unpaired : first.toNat = 237 → second.toNat ≤ 159 := fun same =>
      UInt8.le_iff_toNat_le.mp (surrogate (UInt8.toNat_inj.mp same))
    refine ⟨scalar ((first.toNat - 224) * 4096 + (second.toNat - 128) * 64 +
      (third.toNat - 128)) ?_, ?_⟩
    · by_cases below : first.toNat ≤ 237
      · by_cases top : first.toNat = 237
        · have := unpaired top
          exact .inl (by omega)
        · exact .inl (by omega)
      · exact .inr ⟨by omega, by omega⟩
    · simp only [String.utf8EncodeChar, scalar_toNat]
      rw [if_neg (by omega), if_neg (by omega), if_pos (by omega)]
      simp only [List.cons.injEq, and_true]
      exact ⟨eq_ofNat (by omega), eq_ofNat (by omega), eq_ofNat (by omega)⟩
  | @four first second third fourth least most one two three overlong beyond =>
    have low : 240 ≤ first.toNat := UInt8.le_iff_toNat_le.mp least
    have high : first.toNat ≤ 244 := UInt8.le_iff_toNat_le.mp most
    obtain ⟨lowOne, highOne⟩ := one.toNat
    obtain ⟨lowTwo, highTwo⟩ := two.toNat
    obtain ⟨lowThree, highThree⟩ := three.toNat
    have canonical : first.toNat = 240 → 144 ≤ second.toNat := fun same =>
      UInt8.le_iff_toNat_le.mp (overlong (UInt8.toNat_inj.mp same))
    have last : first.toNat = 244 → second.toNat ≤ 143 := fun same =>
      UInt8.le_iff_toNat_le.mp (beyond (UInt8.toNat_inj.mp same))
    refine ⟨scalar ((first.toNat - 240) * 262144 + (second.toNat - 128) * 4096 +
      (third.toNat - 128) * 64 + (fourth.toNat - 128)) (.inr ⟨by omega, by omega⟩), ?_⟩
    simp only [String.utf8EncodeChar, scalar_toNat]
    rw [if_neg (by omega), if_neg (by omega), if_neg (by omega)]
    simp only [List.cons.injEq, and_true]
    exact ⟨eq_ofNat (by omega), eq_ofNat (by omega), eq_ofNat (by omega), eq_ofNat (by omega)⟩

/-! ## Texts -/

theorem wellFormed_nil : WellFormed [] := ⟨[], rfl⟩

/-- A text is well formed if it is empty or begins with a character before a well-formed text. -/
theorem wellFormed_iff {bytes : Bytes} :
    WellFormed bytes ↔
      bytes = [] ∨ ∃ leading rest, Sequence leading ∧ WellFormed rest ∧ bytes = leading ++ rest := by
  constructor
  · rintro ⟨characters, rfl⟩
    cases characters with
    | nil => exact .inl rfl
    | cons character characters =>
      exact .inr ⟨_, _, sequence_utf8EncodeChar character, ⟨characters, rfl⟩, rfl⟩
  · rintro (rfl | ⟨leading, rest, sequence, ⟨characters, rfl⟩, rfl⟩)
    · exact wellFormed_nil
    · obtain ⟨character, rfl⟩ := exists_of_sequence sequence
      exact ⟨character :: characters, rfl⟩

end VdrSuite.Library.Utf8
