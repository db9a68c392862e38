import VdrSuite.Library.Json
import VdrSuite.Library.Utf8
import Mathlib.Data.List.Basic

/-! The check for valid UTF-8 that the readers of commands, of channels, of channel observations and
of OSD texts each have a copy of: it accepts the encodings of Unicode scalar values and nothing
else. -/

set_option autoImplicit false

namespace VdrSuite.Agent.Utf8Validation

open Library Library.Json

def continuations : Nat → Nat → Bytes → Option (Nat × Bytes)
  | 0, codePoint, rest => some (codePoint, rest)
  | _ + 1, _, [] => none
  | count + 1, codePoint, next :: rest =>
    if next &&& 0xc0 ≠ 0x80 then none
    else continuations count (codePoint <<< 6 ||| (next &&& 0x3f).toNat) rest

/-- One round of the outer loop: the code point that begins with a byte, and what is left. -/
def readCodePoint (first : UInt8) (rest : Bytes) : Option (Nat × Bytes) :=
  if first ≤ 0x7f then some (first.toNat, rest)
  else
    match utf8Lead first with
    | none => none
    | some (count, bits) =>
      if rest.length < count then none
      else
        match continuations count bits rest with
        | none => none
        | some (codePoint, remaining) =>
          if utf8CodePointValid count codePoint then some (codePoint, remaining) else none

theorem continuations_length {count codePoint result : Nat} {input remaining : Bytes}
    (read : continuations count codePoint input = some (result, remaining)) :
    remaining.length ≤ input.length := by
  induction input generalizing count codePoint with
  | nil =>
    cases count with
    | zero =>
      cases read
      exact Nat.le_refl _
    | succ count => cases read
  | cons next rest ih =>
    cases count with
    | zero =>
      cases read
      exact Nat.le_refl _
    | succ count =>
      rw [continuations] at read
      split at read
      · cases read
      · exact (ih read).trans (Nat.le_succ _)

theorem readCodePoint_length {first : UInt8} {rest remaining : Bytes} {codePoint : Nat}
    (read : readCodePoint first rest = some (codePoint, remaining)) :
    remaining.length ≤ rest.length := by
  unfold readCodePoint at read
  split at read
  · cases read
    exact Nat.le_refl _
  · split at read
    · cases read
    · split at read
      · cases read
      · split at read
        · cases read
        · next continued =>
          split at read
          · cases read
            exact continuations_length continued
          · cases read

def validUtf8Loop : Bytes → Bool
  | [] => true
  | first :: rest =>
    match read : readCodePoint first rest with
    | none => false
    | some (_, remaining) =>
      have : remaining.length ≤ rest.length := readCodePoint_length read
      validUtf8Loop remaining
termination_by value => value.length

def codePoints : Bytes → Option (List Nat)
  | [] => some []
  | first :: rest =>
    match read : readCodePoint first rest with
    | none => none
    | some (codePoint, remaining) =>
      have : remaining.length ≤ rest.length := readCodePoint_length read
      (codePoints remaining).map (codePoint :: ·)
termination_by value => value.length

end VdrSuite.Agent.Utf8Validation

/-! The copies. -/

namespace VdrSuite.Agent

open Library

def BackendAgentCommandJson.validUtf8 (value : Bytes) : Bool := Utf8Validation.validUtf8Loop value

def BackendAgentChannelObservation.validUtf8 (value : Bytes) : Bool :=
  Utf8Validation.validUtf8Loop value

def BackendAgentChannelObservationJson.validUtf8 (value : Bytes) : Bool :=
  Utf8Validation.validUtf8Loop value

def OsdJsonCursor.validUtf8 (value : Bytes) : Bool := Utf8Validation.validUtf8Loop value

end VdrSuite.Agent

namespace VdrSuite.Agent.Utf8Validation

open Library Library.Json

/-! ## Bits of one byte -/

theorem forall_byte {Property : UInt8 → Prop}
    (all : ∀ number < 256, Property (UInt8.ofNat number)) (byte : UInt8) : Property byte := by
  have holds := all byte.toNat byte.toNat_lt
  rwa [UInt8.ofNat_toNat] at holds

section
set_option maxRecDepth 4096

theorem continuation_iff : ∀ byte : UInt8, byte &&& 0xc0 = 0x80 ↔ byte.toNat / 64 = 2 :=
  forall_byte (by decide)

theorem leadTwo_iff : ∀ byte : UInt8, byte &&& 0xe0 = 0xc0 ↔ byte.toNat / 32 = 6 :=
  forall_byte (by decide)

theorem leadThree_iff : ∀ byte : UInt8, byte &&& 0xf0 = 0xe0 ↔ byte.toNat / 16 = 14 :=
  forall_byte (by decide)

theorem leadFour_iff : ∀ byte : UInt8, byte &&& 0xf8 = 0xf0 ↔ byte.toNat / 8 = 30 :=
  forall_byte (by decide)

end

theorem low_bits (byte mask : UInt8) (width : Nat) (all : mask.toNat = 2 ^ width - 1) :
    (byte &&& mask).toNat = byte.toNat % 2 ^ width := by
  rw [UInt8.toNat_and, all, Nat.and_two_pow_sub_one_eq_mod]

/-- What a first byte announces: the number of continuation bytes, and its own bits. -/
inductive Lead (first : UInt8) : Nat → Nat → Prop where
  | two (begins : first.toNat / 32 = 6) : Lead first 1 (first.toNat % 32)
  | three (begins : first.toNat / 16 = 14) : Lead first 2 (first.toNat % 16)
  | four (begins : first.toNat / 8 = 30) : Lead first 3 (first.toNat % 8)

theorem Lead.large {first : UInt8} {count bits : Nat} (lead : Lead first count bits) :
    127 < first.toNat := by
  cases lead with
  | two begins => omega
  | three begins => omega
  | four begins => omega

theorem utf8Lead_iff {first : UInt8} {count bits : Nat} :
    utf8Lead first = some (count, bits) ↔ Lead first count bits := by
  have five : (first &&& 0x1f).toNat = first.toNat % 32 := low_bits first 0x1f 5 rfl
  have four : (first &&& 0x0f).toNat = first.toNat % 16 := low_bits first 0x0f 4 rfl
  have three : (first &&& 0x07).toNat = first.toNat % 8 := low_bits first 0x07 3 rfl
  rw [utf8Lead, five, four, three]
  simp only [leadTwo_iff, leadThree_iff, leadFour_iff]
  constructor
  · intro read
    split at read
    · next begins =>
      cases read
      exact .two begins
    · split at read
      · next begins =>
        cases read
        exact .three begins
      · split at read
        · next begins =>
          cases read
          exact .four begins
        · cases read
  · intro lead
    cases lead with
    | two begins => rw [if_pos begins]
    | three begins => rw [if_neg (by omega), if_pos begins]
    | four begins => rw [if_neg (by omega), if_neg (by omega), if_pos begins]

def shifted (codePoint : Nat) (next : UInt8) : Nat := codePoint * 64 + next.toNat % 64

theorem shifted_eq (codePoint : Nat) (next : UInt8) :
    codePoint <<< 6 ||| (next &&& 0x3f).toNat = shifted codePoint next := by
  have six : (next &&& 0x3f).toNat = next.toNat % 64 := low_bits next 0x3f 6 rfl
  rw [six, ← Nat.shiftLeft_add_eq_or_of_lt (show next.toNat % 64 < 2 ^ 6 by omega),
    Nat.shiftLeft_eq, shifted]

theorem continuations_iff {count codePoint result : Nat} {input remaining : Bytes} :
    continuations count codePoint input = some (result, remaining) ↔
      ∃ following : Bytes, input = following ++ remaining ∧ following.length = count ∧
        (∀ next ∈ following, next.toNat / 64 = 2) ∧ result = following.foldl shifted codePoint := by
  induction count generalizing codePoint input with
  | zero =>
    constructor
    · intro read
      cases read
      exact ⟨[], rfl, rfl, by simp, rfl⟩
    · rintro ⟨following, rfl, none, -, rfl⟩
      obtain rfl := List.length_eq_zero_iff.mp none
      rfl
  | succ count ih =>
    constructor
    · intro read
      cases input with
      | nil => cases read
      | cons next rest =>
        rw [continuations, shifted_eq] at read
        split at read
        · cases read
        · next continuing =>
          rw [not_not, continuation_iff] at continuing
          obtain ⟨following, rfl, length, all, rfl⟩ := ih.mp read
          refine ⟨next :: following, rfl, by rw [List.length_cons, length], ?_, rfl⟩
          exact List.forall_mem_cons.mpr ⟨continuing, all⟩
    · rintro ⟨following, rfl, length, all, rfl⟩
      cases following with
      | nil => cases length
      | cons next following =>
        obtain ⟨continuing, all⟩ := List.forall_mem_cons.mp all
        rw [List.cons_append, continuations, shifted_eq,
          if_neg (by rwa [not_not, continuation_iff])]
        exact ih.mpr ⟨following, rfl, by simpa using length, all, rfl⟩

theorem utf8CodePointValid_iff {count codePoint : Nat} :
    utf8CodePointValid count codePoint = true ↔
      (count = 1 → 0x80 ≤ codePoint) ∧ (count = 2 → 0x800 ≤ codePoint) ∧
      (count = 3 → 0x10000 ≤ codePoint) ∧ codePoint ≤ 0x10ffff ∧
      ¬(0xd800 ≤ codePoint ∧ codePoint ≤ 0xdfff) := by
  simp only [utf8CodePointValid, Bool.not_eq_true', Bool.or_eq_false_iff, Bool.and_eq_false_iff,
    beq_eq_false_iff_ne, decide_eq_false_iff_not, ne_eq, not_lt, not_le]
  constructor
  · rintro ⟨⟨⟨⟨two, three⟩, four⟩, last⟩, surrogate⟩
    omega
  · rintro ⟨two, three, four, last, surrogate⟩
    refine ⟨⟨⟨⟨?_, ?_⟩, ?_⟩, last⟩, ?_⟩ <;> omega

/-! ## One character -/

inductive Round (first : UInt8) : Bytes → Nat → Bytes → Prop where
  | ascii {rest : Bytes} (small : first.toNat ≤ 127) : Round first rest first.toNat rest
  | more {following remaining : Bytes} {bits : Nat}
      (lead : Lead first following.length bits)
      (continuing : ∀ next ∈ following, next.toNat / 64 = 2)
      (valid : utf8CodePointValid following.length (following.foldl shifted bits) = true) :
      Round first (following ++ remaining) (following.foldl shifted bits) remaining

theorem readCodePoint_iff {first : UInt8} {rest remaining : Bytes} {codePoint : Nat} :
    readCodePoint first rest = some (codePoint, remaining) ↔
      Round first rest codePoint remaining := by
  unfold readCodePoint
  constructor
  · intro read
    split at read
    · next small =>
      cases read
      exact .ascii (UInt8.le_iff_toNat_le.mp small)
    · split at read
      · cases read
      · next count bits lead =>
        split at read
        · cases read
        · split at read
          · cases read
          · next result left continued =>
            split at read
            · next valid =>
              cases read
              obtain ⟨following, rfl, rfl, continuing, rfl⟩ := (continuations_iff).mp continued
              exact .more ((utf8Lead_iff).mp lead) continuing valid
            · cases read
  · intro round
    cases round with
    | ascii small => rw [if_pos (UInt8.le_iff_toNat_le.mpr small)]
    | @more following _ bits lead continuing valid =>
      have large : ¬first ≤ 0x7f := fun small =>
        Nat.not_le.mpr lead.large (UInt8.le_iff_toNat_le.mp small)
      have continued : continuations following.length bits (following ++ remaining) =
          some (following.foldl shifted bits, remaining) :=
        (continuations_iff).mpr ⟨following, rfl, rfl, continuing, rfl⟩
      rw [if_neg large, (utf8Lead_iff).mpr lead]
      simp only [continued, valid, List.length_append, if_true]
      rw [if_neg (by omega)]

theorem round_iff_encoded {first : UInt8} {rest remaining : Bytes} {codePoint : Nat} :
    Round first rest codePoint remaining ↔
      ∃ character : Char, codePoint = character.val.toNat ∧
        first :: rest = String.utf8EncodeChar character ++ remaining := by
  constructor
  · intro round
    cases round with
    | ascii small =>
      refine ⟨Utf8.scalar first.toNat (.inl (by omega)), (Utf8.scalar_toNat _).symm, ?_⟩
      simp only [String.utf8EncodeChar, Utf8.scalar_toNat]
      rw [if_pos small, UInt8.ofNat_toNat]
      rfl
    | @more following _ bits lead continuing valid =>
      obtain ⟨two, three, four, last, surrogate⟩ := (utf8CodePointValid_iff).mp valid
      generalize computed : following.foldl shifted bits = number at two three four last surrogate
      have scalar : number.isValidChar := by
        by_cases low : number < 0xd800
        · exact .inl low
        · exact .inr ⟨by omega, by omega⟩
      refine ⟨Utf8.scalar number scalar, (Utf8.scalar_toNat scalar).symm, ?_⟩
      simp only [String.utf8EncodeChar, Utf8.scalar_toNat]
      generalize announced : following.length = count at lead two three four
      cases lead with
      | two begins =>
        obtain ⟨second, rfl⟩ := List.length_eq_one_iff.mp announced
        have one : second.toNat / 64 = 2 := continuing second (by simp)
        have least := two rfl
        simp only [List.foldl_cons, List.foldl_nil, shifted] at computed
        rw [if_neg (by omega), if_pos (by omega)]
        simp only [List.cons_append, List.nil_append, List.cons.injEq, and_true]
        exact ⟨Utf8.eq_ofNat (by omega), Utf8.eq_ofNat (by omega)⟩
      | three begins =>
        obtain ⟨second, third, rfl⟩ := List.length_eq_two.mp announced
        have one : second.toNat / 64 = 2 := continuing second (by simp)
        have other : third.toNat / 64 = 2 := continuing third (by simp)
        have least := three rfl
        simp only [List.foldl_cons, List.foldl_nil, shifted] at computed
        rw [if_neg (by omega), if_neg (by omega), if_pos (by omega)]
        simp only [List.cons_append, List.nil_append, List.cons.injEq, and_true]
        exact ⟨Utf8.eq_ofNat (by omega), Utf8.eq_ofNat (by omega), Utf8.eq_ofNat (by omega)⟩
      | four begins =>
        obtain ⟨second, third, fourth, rfl⟩ := List.length_eq_three.mp announced
        have one : second.toNat / 64 = 2 := continuing second (by simp)
        have other : third.toNat / 64 = 2 := continuing third (by simp)
        have another : fourth.toNat / 64 = 2 := continuing fourth (by simp)
        have least := four rfl
        simp only [List.foldl_cons, List.foldl_nil, shifted] at computed
        rw [if_neg (by omega), if_neg (by omega), if_neg (by omega)]
        simp only [List.cons_append, List.nil_append, List.cons.injEq, and_true]
        exact ⟨Utf8.eq_ofNat (by omega), Utf8.eq_ofNat (by omega), Utf8.eq_ofNat (by omega),
          Utf8.eq_ofNat (by omega)⟩
  · rintro ⟨character, rfl, encoded⟩
    have scalar := Utf8.scalar_bounds character
    revert encoded
    unfold String.utf8EncodeChar
    generalize character.val.toNat = number at scalar
    dsimp only
    intro encoded
    by_cases one : number ≤ 0x7f
    · rw [if_pos one] at encoded
      obtain ⟨begins, ends⟩ := List.cons.inj encoded
      have same : first.toNat = number := by rw [begins, Utf8.toNat_ofNat (by omega)]
      have round : Round first rest first.toNat rest := .ascii (by omega)
      rw [same] at round
      have ends : rest = remaining := ends
      rwa [← ends]
    · rw [if_neg one] at encoded
      by_cases two : number ≤ 0x7ff
      · rw [if_pos two] at encoded
        obtain ⟨begins, rfl⟩ := List.cons.inj encoded
        have begins : first.toNat = number / 64 % 32 + 192 := by
          rw [begins, Utf8.toNat_ofNat (by omega)]
        have next : (UInt8.ofNat (number % 64 + 128)).toNat = number % 64 + 128 :=
          Utf8.toNat_ofNat (by omega)
        have computed : [UInt8.ofNat (number % 64 + 128)].foldl shifted (first.toNat % 32) =
            number := by
          simp only [List.foldl_cons, List.foldl_nil, shifted, next]
          omega
        have round := @Round.more first [UInt8.ofNat (number % 64 + 128)] remaining _
          (.two (by omega)) (by simp only [List.mem_singleton, forall_eq, next]; omega)
          ((utf8CodePointValid_iff).mpr (by rw [computed]; simp; omega))
        rwa [computed] at round
      · rw [if_neg two] at encoded
        by_cases three : number ≤ 0xffff
        · rw [if_pos three] at encoded
          obtain ⟨begins, rfl⟩ := List.cons.inj encoded
          have begins : first.toNat = number / 4096 % 16 + 224 := by
            rw [begins, Utf8.toNat_ofNat (by omega)]
          have next : (UInt8.ofNat (number / 64 % 64 + 128)).toNat = number / 64 % 64 + 128 :=
            Utf8.toNat_ofNat (by omega)
          have last : (UInt8.ofNat (number % 64 + 128)).toNat = number % 64 + 128 :=
            Utf8.toNat_ofNat (by omega)
          have computed : [UInt8.ofNat (number / 64 % 64 + 128),
              UInt8.ofNat (number % 64 + 128)].foldl shifted (first.toNat % 16) = number := by
            simp only [List.foldl_cons, List.foldl_nil, shifted, next, last]
            omega
          have continuing : ∀ byte ∈ [UInt8.ofNat (number / 64 % 64 + 128),
              UInt8.ofNat (number % 64 + 128)], byte.toNat / 64 = 2 := by
            simp only [List.forall_mem_cons, next, last]
            exact ⟨by omega, by omega, by simp⟩
          have round := @Round.more first _ remaining _ (.three (by omega)) continuing
            ((utf8CodePointValid_iff).mpr (by rw [computed]; simp; omega))
          rwa [computed] at round
        · rw [if_neg three] at encoded
          obtain ⟨begins, rfl⟩ := List.cons.inj encoded
          have begins : first.toNat = number / 262144 % 8 + 240 := by
            rw [begins, Utf8.toNat_ofNat (by omega)]
          have second : (UInt8.ofNat (number / 4096 % 64 + 128)).toNat =
              number / 4096 % 64 + 128 := Utf8.toNat_ofNat (by omega)
          have third : (UInt8.ofNat (number / 64 % 64 + 128)).toNat = number / 64 % 64 + 128 :=
            Utf8.toNat_ofNat (by omega)
          have last : (UInt8.ofNat (number % 64 + 128)).toNat = number % 64 + 128 :=
            Utf8.toNat_ofNat (by omega)
          have computed : [UInt8.ofNat (number / 4096 % 64 + 128),
              UInt8.ofNat (number / 64 % 64 + 128),
              UInt8.ofNat (number % 64 + 128)].foldl shifted (first.toNat % 8) = number := by
            simp only [List.foldl_cons, List.foldl_nil, shifted, second, third, last]
            omega
          have continuing : ∀ byte ∈ [UInt8.ofNat (number / 4096 % 64 + 128),
              UInt8.ofNat (number / 64 % 64 + 128), UInt8.ofNat (number % 64 + 128)],
              byte.toNat / 64 = 2 := by
            simp only [List.forall_mem_cons, second, third, last]
            exact ⟨by omega, by omega, by omega, by simp⟩
          have round := @Round.more first _ remaining _ (.four (by omega)) continuing
            ((utf8CodePointValid_iff).mpr (by rw [computed]; simp; omega))
          rwa [computed] at round

/-! ## Texts -/

theorem codePoints_cons (first : UInt8) (rest : Bytes) :
    codePoints (first :: rest) =
      (readCodePoint first rest).bind fun (codePoint, remaining) =>
        (codePoints remaining).map (codePoint :: ·) := by
  rw [codePoints]
  split
  · next refused => rw [refused, Option.bind_none]
  · next read => simp only [read, Option.bind_some]

theorem scalar_injective : Function.Injective fun character : Char => character.val.toNat :=
  fun _ _ same => Char.ext (UInt32.toNat_inj.mp same)

theorem eq_nil_of_encode {characters : List Char} (empty : [] = Utf8.encode characters) :
    characters = [] := by
  cases characters with
  | nil => rfl
  | cons character characters =>
    rw [Utf8.encode, List.flatMap_cons] at empty
    have sequence := Utf8.sequence_utf8EncodeChar character
    rw [(List.append_eq_nil_iff.mp empty.symm).1] at sequence
    cases sequence

theorem readCodePoint_of_encode {first : UInt8} {rest : Bytes} {character : Char}
    {characters : List Char} (encoded : first :: rest = Utf8.encode (character :: characters)) :
    readCodePoint first rest = some (character.val.toNat, Utf8.encode characters) :=
  (readCodePoint_iff).mpr ((round_iff_encoded).mpr ⟨character, rfl, encoded⟩)

theorem codePoints_iff {value : Bytes} {numbers : List Nat} :
    codePoints value = some numbers ↔
      ∃ characters : List Char, numbers = characters.map (·.val.toNat) ∧
        value = Utf8.encode characters := by
  induction value using codePoints.induct generalizing numbers with
  | case1 =>
    rw [codePoints]
    constructor
    · intro read
      cases read
      exact ⟨[], rfl, rfl⟩
    · rintro ⟨characters, rfl, empty⟩
      rw [eq_nil_of_encode empty]
      rfl
  | case2 first rest refused =>
    rw [codePoints_cons, refused]
    constructor
    · intro read
      cases read
    · rintro ⟨characters, rfl, encoded⟩
      cases characters with
      | nil => cases encoded
      | cons character characters =>
        rw [readCodePoint_of_encode encoded] at refused
        cases refused
  | case3 first rest codePoint remaining read shorter ih =>
    rw [codePoints_cons, read, Option.bind_some, Option.map_eq_some_iff]
    constructor
    · rintro ⟨numbers, later, rfl⟩
      obtain ⟨characters, rfl, rfl⟩ := ih.mp later
      obtain ⟨character, rfl, encoded⟩ := (round_iff_encoded).mp ((readCodePoint_iff).mp read)
      exact ⟨character :: characters, rfl, encoded⟩
    · rintro ⟨characters, rfl, encoded⟩
      cases characters with
      | nil => cases encoded
      | cons character characters =>
        rw [readCodePoint_of_encode encoded] at read
        cases read
        exact ⟨_, ih.mpr ⟨characters, rfl, rfl⟩, rfl⟩

theorem validUtf8Loop_eq (value : Bytes) : validUtf8Loop value = (codePoints value).isSome := by
  induction value using codePoints.induct with
  | case1 => rw [validUtf8Loop, codePoints]; rfl
  | case2 first rest refused =>
    rw [validUtf8Loop, codePoints]
    split
    · rfl
    · next read =>
      rw [refused] at read
      cases read
  | case3 first rest codePoint remaining read shorter ih =>
    rw [validUtf8Loop, codePoints]
    split
    · next refused =>
      rw [refused] at read
      cases read
    · next found =>
      rw [read] at found
      cases found
      rw [ih, Option.isSome_map]

theorem validUtf8Loop_iff {value : Bytes} :
    validUtf8Loop value = true ↔ Utf8.WellFormed value := by
  rw [validUtf8Loop_eq, Option.isSome_iff_exists]
  constructor
  · rintro ⟨numbers, read⟩
    obtain ⟨characters, -, encoded⟩ := (codePoints_iff).mp read
    exact ⟨characters, encoded⟩
  · rintro ⟨characters, encoded⟩
    exact ⟨_, (codePoints_iff).mpr ⟨characters, rfl, encoded⟩⟩

/-- The four copies accept the encodings of sequences of scalar values, and such a text is the
encoding of exactly the code points that the loop reads. -/
theorem validUtf8_exact (value : Bytes) :
    (BackendAgentCommandJson.validUtf8 value = true ↔ Utf8.WellFormed value) ∧
    (BackendAgentChannelObservation.validUtf8 value = true ↔ Utf8.WellFormed value) ∧
    (BackendAgentChannelObservationJson.validUtf8 value = true ↔ Utf8.WellFormed value) ∧
    (OsdJsonCursor.validUtf8 value = true ↔ Utf8.WellFormed value) ∧
    ∀ characters : List Char,
      value = Utf8.encode characters ↔ codePoints value = some (characters.map (·.val.toNat)) := by
  refine ⟨validUtf8Loop_iff, validUtf8Loop_iff, validUtf8Loop_iff, validUtf8Loop_iff, ?_⟩
  intro characters
  constructor
  · intro encoded
    exact (codePoints_iff).mpr ⟨characters, rfl, encoded⟩
  · intro read
    obtain ⟨others, same, encoded⟩ := (codePoints_iff).mp read
    rw [List.map_injective_iff.mpr scalar_injective same]
    exact encoded

end VdrSuite.Agent.Utf8Validation
