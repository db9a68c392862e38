import VdrSuite.Agent.LocalProvider
import VdrSuite.Library.Base64
import VdrSuite.Library.SeparatedList

/-! The credentials of an agent's HTTP request: what is read from the text of its `Authorization`
header, and that no two texts mean the same credentials. -/

set_option autoImplicit false

namespace VdrSuite.Agent.HttpAuthorization

open Library

/-- `none` stands for the value -1. -/
def base64Value (character : UInt8) : Option Nat :=
  if 65 ≤ character ∧ character ≤ 90 then some (character.toNat - 65)
  else if 97 ≤ character ∧ character ≤ 122 then some (character.toNat - 97 + 26)
  else if 48 ≤ character ∧ character ≤ 57 then some (character.toNat - 48 + 52)
  else if character = 43 then some 62
  else if character = 47 then some 63
  else none

inductive Trailing where
  | foreign
  | padding
  | value (bits : Nat)
  deriving DecidableEq

/-- The values -1 and -2 are `foreign` and `padding`. -/
def trailing (character : UInt8) : Trailing :=
  if character = 61 then .padding
  else
    match base64Value character with
    | none => .foreign
    | some bits => .value bits

def decodeBlock (finalBlock : Bool) (first second : Nat) : Trailing → Trailing → Option Bytes
  | .foreign, _ => none
  | _, .foreign => none
  | .padding, fourth =>
    if finalBlock = false ∨ fourth ≠ .padding ∨ second &&& 0x0f ≠ 0 then none
    else some [UInt8.ofNat (first <<< 2 ||| second >>> 4)]
  | .value third, .padding =>
    if finalBlock = false ∨ third &&& 0x03 ≠ 0 then none
    else
      some [UInt8.ofNat (first <<< 2 ||| second >>> 4),
        UInt8.ofNat ((second &&& 0x0f) <<< 4 ||| third >>> 2)]
  | .value third, .value fourth =>
    some [UInt8.ofNat (first <<< 2 ||| second >>> 4),
      UInt8.ofNat ((second &&& 0x0f) <<< 4 ||| third >>> 2),
      UInt8.ofNat ((third &&& 0x03) <<< 6 ||| fourth)]

/-- The loop over the blocks; a text of another length than a multiple of four does not reach it. -/
def decodeBlocks : Bytes → Option Bytes
  | [] => some []
  | first :: second :: third :: fourth :: rest => do
      let firstBits ← base64Value first
      let secondBits ← base64Value second
      let block ← decodeBlock rest.isEmpty firstBits secondBits (trailing third) (trailing fourth)
      let decoded ← decodeBlocks rest
      some (block ++ decoded)
  | _ => none

def decodeBase64 (encoded : Bytes) : Option Bytes :=
  if encoded.isEmpty ∨ 8192 < encoded.length ∨ encoded.length % 4 ≠ 0 then none
  else decodeBlocks encoded

def parseBasic (authorization : Bytes) : Option (Bytes × Bytes) :=
  if authorization.length < 7 ∨ (authorization.take 5).map lowerCase ≠ text "basic" ∨
      authorization[5]? ≠ some 32 then none
  else
    match decodeBase64 (authorization.drop 6) with
    | none => none
    | some decoded =>
      match splitAtFirst [58] decoded with
      | none => none
      | some (login, secret) =>
        if safeIdentifier login ∧ 32 ≤ secret.length ∧ secret.length ≤ 1024 then
          some (login, secret)
        else none

/-! ## Symbols -/

set_option maxRecDepth 2048 in
theorem base64Value_symbol : ∀ bits < 64, base64Value (Base64.symbol bits) = some bits := by
  decide

theorem base64Value_some {character : UInt8} {bits : Nat}
    (valued : base64Value character = some bits) : bits < 64 ∧ character = Base64.symbol bits := by
  have back : UInt8.ofNat character.toNat = character := UInt8.ofNat_toNat
  unfold base64Value at valued
  split at valued
  · next upper =>
    cases valued
    have low : 65 ≤ character.toNat := UInt8.le_iff_toNat_le.mp upper.1
    have high : character.toNat ≤ 90 := UInt8.le_iff_toNat_le.mp upper.2
    refine ⟨by omega, ?_⟩
    rw [Base64.symbol_upper _ (by omega), Nat.add_sub_cancel' low, back]
  · split at valued
    · next lower =>
      cases valued
      have low : 97 ≤ character.toNat := UInt8.le_iff_toNat_le.mp lower.1
      have high : character.toNat ≤ 122 := UInt8.le_iff_toNat_le.mp lower.2
      refine ⟨by omega, ?_⟩
      rw [Nat.add_comm, Base64.symbol_lower _ (by omega), Nat.add_sub_cancel' low, back]
    · split at valued
      · next digit =>
        cases valued
        have low : 48 ≤ character.toNat := UInt8.le_iff_toNat_le.mp digit.1
        have high : character.toNat ≤ 57 := UInt8.le_iff_toNat_le.mp digit.2
        refine ⟨by omega, ?_⟩
        rw [Nat.add_comm, Base64.symbol_digit _ (by omega), Nat.add_sub_cancel' low, back]
      · split at valued
        · next plus =>
          cases valued
          exact ⟨by decide, plus.trans (by decide)⟩
        · split at valued
          · next slash =>
            cases valued
            exact ⟨by decide, slash.trans (by decide)⟩
          · cases valued

theorem trailing_padding : trailing Base64.padding = .padding := rfl

theorem trailing_symbol {bits : Nat} (small : bits < 64) :
    trailing (Base64.symbol bits) = .value bits := by
  have symbol : Base64.symbol bits ≠ 61 := Base64.symbol_ne_padding bits small
  rw [trailing, if_neg symbol, base64Value_symbol bits small]

theorem eq_of_trailing_padding {character : UInt8} (padded : trailing character = .padding) :
    character = Base64.padding := by
  unfold trailing at padded
  split at padded
  · next same => exact same
  · split at padded
    · cases padded
    · cases padded

theorem eq_of_trailing_value {character : UInt8} {bits : Nat}
    (valued : trailing character = .value bits) :
    bits < 64 ∧ character = Base64.symbol bits := by
  unfold trailing at valued
  split at valued
  · cases valued
  · split at valued
    · cases valued
    · next found =>
      cases valued
      exact base64Value_some found

/-! ## Blocks -/

theorem and_three (bits : Nat) : bits &&& 0x03 = bits % 4 := Nat.and_two_pow_sub_one_eq_mod bits 2

theorem and_fifteen (bits : Nat) : bits &&& 0x0f = bits % 16 :=
  Nat.and_two_pow_sub_one_eq_mod bits 4

theorem leading_bits (first : Nat) {second : Nat} (small : second < 64) :
    first <<< 2 ||| second >>> 4 = first * 4 + second / 16 := by
  rw [← Nat.shiftLeft_add_eq_or_of_lt (by rw [Nat.shiftRight_eq_div_pow]; omega),
    Nat.shiftLeft_eq, Nat.shiftRight_eq_div_pow]

theorem middle_bits (second : Nat) {third : Nat} (small : third < 64) :
    (second &&& 0x0f) <<< 4 ||| third >>> 2 = second % 16 * 16 + third / 4 := by
  rw [and_fifteen, ← Nat.shiftLeft_add_eq_or_of_lt (by rw [Nat.shiftRight_eq_div_pow]; omega),
    Nat.shiftLeft_eq, Nat.shiftRight_eq_div_pow]

theorem last_bits (third : Nat) {fourth : Nat} (small : fourth < 64) :
    (third &&& 0x03) <<< 6 ||| fourth = third % 4 * 64 + fourth := by
  rw [and_three, ← Nat.shiftLeft_add_eq_or_of_lt (show fourth < 2 ^ 6 by omega), Nat.shiftLeft_eq]

/-- What a block stands for: three bytes, or at the end of a text two or one, whose unused bits are
zero. -/
inductive Block (finalBlock : Bool) (first second : Nat) : Trailing → Trailing → Bytes → Prop where
  | three {third fourth : Nat} :
      Block finalBlock first second (.value third) (.value fourth)
        [UInt8.ofNat (first * 4 + second / 16), UInt8.ofNat (second % 16 * 16 + third / 4),
          UInt8.ofNat (third % 4 * 64 + fourth)]
  | two {third : Nat} (final : finalBlock = true) (unused : third % 4 = 0) :
      Block finalBlock first second (.value third) .padding
        [UInt8.ofNat (first * 4 + second / 16), UInt8.ofNat (second % 16 * 16 + third / 4)]
  | one (final : finalBlock = true) (unused : second % 16 = 0) :
      Block finalBlock first second .padding .padding [UInt8.ofNat (first * 4 + second / 16)]

def Trailing.Small : Trailing → Prop
  | .value bits => bits < 64
  | _ => True

theorem trailing_small (character : UInt8) : (trailing character).Small := by
  cases read : trailing character with
  | foreign => trivial
  | padding => trivial
  | value bits => exact (eq_of_trailing_value read).1

theorem decodeBlock_iff {finalBlock : Bool} {first second : Nat} {third fourth : Trailing}
    {block : Bytes} (small : second < 64) (smallThird : third.Small) (smallFourth : fourth.Small) :
    decodeBlock finalBlock first second third fourth = some block ↔
      Block finalBlock first second third fourth block := by
  constructor
  · intro decoded
    cases third with
    | foreign => cases decoded
    | padding =>
      cases fourth with
      | foreign => cases decoded
      | padding =>
        rw [decodeBlock, leading_bits first small, and_fifteen] at decoded
        · split at decoded
          · cases decoded
          · next accepted =>
            simp only [not_or, Bool.not_eq_false, ne_eq, not_not] at accepted
            cases decoded
            exact .one accepted.1 accepted.2.2
        · simp
      | value fourth =>
        rw [decodeBlock, if_pos (.inr (.inl (by simp)))] at decoded
        · cases decoded
        · simp
    | value third =>
      cases fourth with
      | foreign => cases decoded
      | padding =>
        rw [decodeBlock, leading_bits first small, middle_bits second smallThird, and_three]
          at decoded
        split at decoded
        · cases decoded
        · next accepted =>
          simp only [not_or, Bool.not_eq_false, ne_eq, not_not] at accepted
          cases decoded
          exact .two accepted.1 accepted.2
      | value fourth =>
        rw [decodeBlock, leading_bits first small, middle_bits second smallThird,
          last_bits third smallFourth] at decoded
        cases decoded
        exact .three
  · intro block
    cases block with
    | three =>
      rw [decodeBlock, leading_bits first small, middle_bits second smallThird,
        last_bits _ smallFourth]
    | two final unused =>
      rw [decodeBlock, leading_bits first small, middle_bits second smallThird, and_three,
        if_neg (by simp [final, unused])]
    | one final unused =>
      rw [decodeBlock, leading_bits first small, and_fifteen, if_neg (by simp [final, unused])]
      simp

/-! ## Texts -/

theorem byte_eq {number : Nat} {byte : UInt8} (same : number = byte.toNat) :
    UInt8.ofNat number = byte := by
  rw [same, UInt8.ofNat_toNat]

namespace Block

/-! The blocks that stand for given bytes. -/

theorem of_one (first : UInt8) :
    Block true (first.toNat / 4) (first.toNat % 4 * 16) .padding .padding [first] := by
  have small := first.toNat_lt
  have block : Block true (first.toNat / 4) (first.toNat % 4 * 16) .padding .padding
      [UInt8.ofNat (first.toNat / 4 * 4 + first.toNat % 4 * 16 / 16)] := .one rfl (by omega)
  rwa [@byte_eq _ first (by omega)] at block

theorem of_two (first second : UInt8) :
    Block true (first.toNat / 4) (first.toNat % 4 * 16 + second.toNat / 16)
      (.value (second.toNat % 16 * 4)) .padding [first, second] := by
  have small := first.toNat_lt
  have smallSecond := second.toNat_lt
  have block := @Block.two true (first.toNat / 4) (first.toNat % 4 * 16 + second.toNat / 16)
    (second.toNat % 16 * 4) rfl (by omega)
  rwa [@byte_eq _ first (by omega), @byte_eq _ second (by omega)] at block

theorem of_three (finalBlock : Bool) (first second third : UInt8) :
    Block finalBlock (first.toNat / 4) (first.toNat % 4 * 16 + second.toNat / 16)
      (.value (second.toNat % 16 * 4 + third.toNat / 64)) (.value (third.toNat % 64))
      [first, second, third] := by
  have small := first.toNat_lt
  have smallSecond := second.toNat_lt
  have smallThird := third.toNat_lt
  have block := @Block.three finalBlock (first.toNat / 4)
    (first.toNat % 4 * 16 + second.toNat / 16) (second.toNat % 16 * 4 + third.toNat / 64)
    (third.toNat % 64)
  rwa [@byte_eq _ first (by omega), @byte_eq _ second (by omega),
    @byte_eq _ third (by omega)] at block

end Block

theorem decodeBlocks_cons {first second third fourth : UInt8} {firstBits secondBits : Nat}
    {rest block decoded : Bytes} (firstValue : base64Value first = some firstBits)
    (secondValue : base64Value second = some secondBits)
    (stands : Block rest.isEmpty firstBits secondBits (trailing third) (trailing fourth) block)
    (later : decodeBlocks rest = some decoded) :
    decodeBlocks (first :: second :: third :: fourth :: rest) = some (block ++ decoded) := by
  have read := (decodeBlock_iff (base64Value_some secondValue).1 (trailing_small third)
    (trailing_small fourth)).mpr stands
  rw [decodeBlocks, firstValue, secondValue]
  simp [read, later]

theorem decodeBlocks_encode (bytes : Bytes) : decodeBlocks (Base64.encode bytes) = some bytes := by
  induction bytes using Base64.encode.induct with
  | case1 => rfl
  | case2 first =>
    have small := first.toNat_lt
    have firstValue := base64Value_symbol (first.toNat / 4) (by omega)
    have secondValue := base64Value_symbol (first.toNat % 4 * 16) (by omega)
    rw [Base64.encode]
    change _ = some ([first] ++ [])
    refine decodeBlocks_cons firstValue secondValue ?_ rfl
    rw [trailing_padding]
    exact .of_one first
  | case3 first second =>
    have small := first.toNat_lt
    have smallSecond := second.toNat_lt
    have firstValue := base64Value_symbol (first.toNat / 4) (by omega)
    have secondValue := base64Value_symbol (first.toNat % 4 * 16 + second.toNat / 16) (by omega)
    rw [Base64.encode]
    change _ = some ([first, second] ++ [])
    refine decodeBlocks_cons firstValue secondValue ?_ rfl
    rw [trailing_padding, trailing_symbol (by omega)]
    exact .of_two first second
  | case4 first second third rest ih =>
    have small := first.toNat_lt
    have smallSecond := second.toNat_lt
    have smallThird := third.toNat_lt
    have firstValue := base64Value_symbol (first.toNat / 4) (by omega)
    have secondValue := base64Value_symbol (first.toNat % 4 * 16 + second.toNat / 16) (by omega)
    rw [Base64.encode]
    change _ = some ([first, second, third] ++ rest)
    refine decodeBlocks_cons firstValue secondValue ?_ ih
    rw [trailing_symbol (by omega), trailing_symbol (by omega)]
    exact .of_three _ first second third

theorem Block.encode {finalBlock : Bool} {first second : Nat} {third fourth : UInt8}
    {block decoded : Bytes} (smallFirst : first < 64) (smallSecond : second < 64)
    (stands : Block finalBlock first second (trailing third) (trailing fourth) block)
    (ends : finalBlock = true → decoded = []) :
    Base64.encode (block ++ decoded) =
      Base64.symbol first :: Base64.symbol second :: third :: fourth :: Base64.encode decoded := by
  generalize thirdRead : trailing third = readThird at stands
  generalize fourthRead : trailing fourth = readFourth at stands
  cases stands with
  | @three thirdBits fourthBits =>
    obtain ⟨smallThird, rfl⟩ := eq_of_trailing_value thirdRead
    obtain ⟨smallFourth, rfl⟩ := eq_of_trailing_value fourthRead
    have leading : first * 4 + second / 16 < 256 := by omega
    have middle : second % 16 * 16 + thirdBits / 4 < 256 := by omega
    have last : thirdBits % 4 * 64 + fourthBits < 256 := by omega
    have first_bits : (first * 4 + second / 16) / 4 = first := by omega
    have second_bits : (first * 4 + second / 16) % 4 * 16 +
        (second % 16 * 16 + thirdBits / 4) / 16 = second := by omega
    have third_bits : (second % 16 * 16 + thirdBits / 4) % 16 * 4 +
        (thirdBits % 4 * 64 + fourthBits) / 64 = thirdBits := by omega
    have fourth_bits : (thirdBits % 4 * 64 + fourthBits) % 64 = fourthBits := by omega
    simp only [List.cons_append, List.nil_append, Base64.encode, UInt8.toNat_ofNat_of_lt' leading,
      UInt8.toNat_ofNat_of_lt' middle, UInt8.toNat_ofNat_of_lt' last, first_bits, second_bits, third_bits, fourth_bits]
  | @two thirdBits final unused =>
    obtain ⟨smallThird, rfl⟩ := eq_of_trailing_value thirdRead
    obtain rfl := eq_of_trailing_padding fourthRead
    obtain rfl := ends final
    have leading : first * 4 + second / 16 < 256 := by omega
    have middle : second % 16 * 16 + thirdBits / 4 < 256 := by omega
    have first_bits : (first * 4 + second / 16) / 4 = first := by omega
    have second_bits : (first * 4 + second / 16) % 4 * 16 +
        (second % 16 * 16 + thirdBits / 4) / 16 = second := by omega
    have third_bits : (second % 16 * 16 + thirdBits / 4) % 16 * 4 = thirdBits := by omega
    simp only [List.append_nil, Base64.encode, UInt8.toNat_ofNat_of_lt' leading, UInt8.toNat_ofNat_of_lt' middle, first_bits,
      second_bits, third_bits]
  | one final unused =>
    obtain rfl := eq_of_trailing_padding thirdRead
    obtain rfl := eq_of_trailing_padding fourthRead
    obtain rfl := ends final
    have leading : first * 4 + second / 16 < 256 := by omega
    have first_bits : (first * 4 + second / 16) / 4 = first := by omega
    have second_bits : (first * 4 + second / 16) % 4 * 16 = second := by omega
    simp only [List.append_nil, Base64.encode, UInt8.toNat_ofNat_of_lt' leading, first_bits, second_bits]

/-- The other direction: the only text that is read as some bytes is the one that is written for
them. -/
theorem eq_encode_of_decodeBlocks {encoded decoded : Bytes}
    (read : decodeBlocks encoded = some decoded) : encoded = Base64.encode decoded := by
  induction encoded using decodeBlocks.induct generalizing decoded with
  | case1 =>
    cases read
    rfl
  | case2 first second third fourth rest ih =>
    rw [decodeBlocks] at read
    cases firstValue : base64Value first with
    | none => simp [firstValue] at read
    | some firstBits =>
      cases secondValue : base64Value second with
      | none => simp [firstValue, secondValue] at read
      | some secondBits =>
        simp only [firstValue, secondValue, Option.bind_eq_bind, Option.bind_some,
          Option.bind_eq_some_iff, Option.some.injEq] at read
        obtain ⟨block, readBlock, later, readLater, rfl⟩ := read
        obtain ⟨smallFirst, rfl⟩ := base64Value_some firstValue
        obtain ⟨smallSecond, rfl⟩ := base64Value_some secondValue
        have stands := (decodeBlock_iff smallSecond (trailing_small third)
          (trailing_small fourth)).mp readBlock
        have ends : rest.isEmpty = true → later = [] := fun empty => by
          rw [List.isEmpty_iff.mp empty] at readLater
          cases readLater
          rfl
        rw [stands.encode smallFirst smallSecond ends, ← ih readLater]
  | case3 encoded someBytes group =>
    rw [decodeBlocks] at read
    · cases read
    · exact someBytes
    · exact group

/-! ## Credentials -/

theorem decodeBase64_iff {encoded decoded : Bytes} :
    decodeBase64 encoded = some decoded ↔
      0 < decoded.length ∧ decoded.length ≤ 6144 ∧ encoded = Base64.encode decoded := by
  unfold decodeBase64
  constructor
  · intro read
    split at read
    · cases read
    · next accepted =>
      simp only [not_or, Bool.not_eq_true, List.isEmpty_eq_false_iff, not_lt, ne_eq, not_not]
        at accepted
      obtain rfl := eq_encode_of_decodeBlocks read
      obtain ⟨some, short, -⟩ := accepted
      have length := Base64.encode_length decoded
      refine ⟨List.length_pos_of_ne_nil fun none => some (Base64.encode_eq_nil_iff.mpr none), ?_, rfl⟩
      omega
  · rintro ⟨some, short, rfl⟩
    have length := Base64.encode_length decoded
    have nonempty : Base64.encode decoded ≠ [] := fun none =>
      List.ne_nil_of_length_pos some (Base64.encode_eq_nil_iff.mp none)
    rw [if_neg, decodeBlocks_encode]
    simp only [List.isEmpty_iff, nonempty, false_or, not_or, not_lt, ne_eq, not_not]
    exact ⟨by omega, by omega⟩

theorem scheme_length {scheme : Bytes} (named : scheme.map lowerCase = text "basic") :
    scheme.length = 5 := by
  rw [← List.length_map, named]
  rfl

/-- The text of an accepted authorization: the scheme in any case, a blank, and the only encoding of
the login, a colon and the secret. -/
theorem parseBasic_iff {authorization login secret : Bytes} :
    parseBasic authorization = some (login, secret) ↔
      ∃ scheme : Bytes, scheme.map lowerCase = text "basic" ∧
        authorization = scheme ++ 32 :: Base64.encode (login ++ 58 :: secret) ∧
        (58 : UInt8) ∉ login ∧ safeIdentifier login = true ∧
        32 ≤ secret.length ∧ secret.length ≤ 1024 := by
  constructor
  · intro read
    rw [parseBasic] at read
    split at read
    · cases read
    · next begins =>
      simp only [not_or, not_lt, ne_eq, not_not] at begins
      obtain ⟨long, scheme, blank⟩ := begins
      split at read
      · cases read
      · next decoded decodes =>
        split at read
        · cases read
        · next login secret separated =>
          split at read
          · next accepted =>
            cases read
            obtain ⟨rfl, outside⟩ := splitAtFirst_singleton_iff.mp separated
            obtain ⟨-, -, canonical⟩ := (decodeBase64_iff).mp decodes
            refine ⟨authorization.take 5, scheme, ?_, outside, accepted⟩
            rw [← canonical]
            obtain ⟨inside, found⟩ := List.getElem?_eq_some_iff.mp blank
            rw [← found, ← List.drop_eq_getElem_cons inside, List.take_append_drop]
          · cases read
  · rintro ⟨scheme, named, rfl, outside, safe, long, short⟩
    have five : scheme.length = 5 := scheme_length named
    have bounded : login.length ≤ 128 := by
      simp only [safeIdentifier, Bool.and_eq_true, decide_eq_true_eq] at safe
      exact safe.1.2
    have decodes : decodeBase64 (Base64.encode (login ++ 58 :: secret)) =
        some (login ++ 58 :: secret) := by
      refine (decodeBase64_iff).mpr ⟨by simp, ?_, rfl⟩
      rw [List.length_append, List.length_cons]
      omega
    have more : 0 < (Base64.encode (login ++ 58 :: secret)).length := by
      rw [Base64.encode_length, List.length_append, List.length_cons]
      omega
    have credentials : (scheme ++ 32 :: Base64.encode (login ++ 58 :: secret)).drop 6 =
        Base64.encode (login ++ 58 :: secret) := by
      rw [List.append_cons, List.drop_left' (by rw [List.length_append, five]; rfl)]
    have separated : splitAtFirst [58] (login ++ 58 :: secret) = some (login, secret) :=
      splitAtFirst_singleton_iff.mpr ⟨rfl, outside⟩
    rw [parseBasic, if_neg, credentials, decodes]
    · simp only [separated]
      rw [if_pos ⟨safe, long, short⟩]
    · simp only [not_or, not_lt, ne_eq, not_not]
      refine ⟨?_, ?_, ?_⟩
      · rw [List.length_append, List.length_cons]
        omega
      · rw [List.take_left' five, named]
      · rw [← five, List.getElem?_append_right (Nat.le_refl _), Nat.sub_self]
        rfl

def SameButSchemeCase (first second : Bytes) : Prop :=
  (first.take 5).map lowerCase = (second.take 5).map lowerCase ∧ first.drop 5 = second.drop 5

theorem basic_credentials_exact :
    (∀ bytes : Bytes, 0 < bytes.length → bytes.length ≤ 6144 →
      decodeBase64 (Base64.encode bytes) = some bytes) ∧
    (∀ encoded decoded : Bytes, decodeBase64 encoded = some decoded →
      encoded = Base64.encode decoded) ∧
    ∀ (first second : Bytes) (credentials : Bytes × Bytes),
      parseBasic first = some credentials → parseBasic second = some credentials →
      SameButSchemeCase first second := by
  refine ⟨fun bytes some short => (decodeBase64_iff).mpr ⟨some, short, rfl⟩,
    fun encoded decoded read => ((decodeBase64_iff).mp read).2.2, ?_⟩
  rintro first second ⟨login, secret⟩ readFirst readSecond
  obtain ⟨scheme, named, rfl, -⟩ := (parseBasic_iff).mp readFirst
  obtain ⟨other, otherNamed, rfl, -⟩ := (parseBasic_iff).mp readSecond
  constructor
  · rw [List.take_left' (scheme_length named), List.take_left' (scheme_length otherNamed), named,
      otherNamed]
  · rw [List.drop_left' (scheme_length named), List.drop_left' (scheme_length otherNamed)]

end VdrSuite.Agent.HttpAuthorization
