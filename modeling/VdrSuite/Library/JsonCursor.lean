import VdrSuite.Library.Hex
import VdrSuite.Library.Json
import VdrSuite.Library.Netstring

/-! A cursor over JSON text: each reader takes one token, reports the first thing that is wrong, and
leaves the rest of the input. -/

set_option autoImplicit false

namespace VdrSuite.Library.JsonCursor

open Json (validUtf8)

abbrev Reader (α : Type) : Type := Bytes → Except Bytes (α × Bytes)

/-! ## Tokens -/

def isWhitespace (byte : UInt8) : Bool := byte == 32 || byte == 9 || byte == 13 || byte == 10

def skipWhitespace (input : Bytes) : Bytes := input.dropWhile isWhitespace

def consume (expected : UInt8) (input : Bytes) : Except Bytes Bytes :=
  match skipWhitespace input with
  | byte :: rest =>
    if byte = expected then .ok rest else .error (text "expected '" ++ [expected] ++ text "'")
  | [] => .error (text "expected '" ++ [expected] ++ text "'")

def consumeIf (expected : UInt8) (input : Bytes) : Option Bytes :=
  match skipWhitespace input with
  | byte :: rest => if byte = expected then some rest else none
  | [] => none

def finished (input : Bytes) : Bool := (skipWhitespace input).isEmpty

/-! ## Strings -/

def hexValue (character : UInt8) : Option Nat :=
  if 48 ≤ character ∧ character ≤ 57 then some (character.toNat - 48)
  else if 97 ≤ character ∧ character ≤ 102 then some (10 + (character.toNat - 97))
  else if 65 ≤ character ∧ character ≤ 70 then some (10 + (character.toNat - 65))
  else none

def appendUtf8 (codePoint : Nat) : Bytes :=
  if codePoint ≤ 0x7f then [UInt8.ofNat codePoint]
  else if codePoint ≤ 0x7ff then
    [UInt8.ofNat (0xc0 + codePoint / 64), UInt8.ofNat (0x80 + codePoint % 64)]
  else
    [UInt8.ofNat (0xe0 + codePoint / 4096), UInt8.ofNat (0x80 + codePoint / 64 % 64),
      UInt8.ofNat (0x80 + codePoint % 64)]

def unescape (escaped : UInt8) : Option UInt8 :=
  if escaped = 34 ∨ escaped = 92 ∨ escaped = 47 then some escaped
  else if escaped = 98 then some 8
  else if escaped = 102 then some 12
  else if escaped = 110 then some 10
  else if escaped = 114 then some 13
  else if escaped = 116 then some 9
  else none

def unicodeEscapeError (digits : Bytes) : Bytes :=
  if (digits.take 4).all fun digit => (hexValue digit).isSome then text "incomplete Unicode escape"
  else text "invalid Unicode escape"

def characters (limit : Nat) : Bytes → Bytes → Except Bytes (Bytes × Bytes)
  | _, [] => .error (text "unterminated JSON string")
  | output, character :: rest =>
    if character = 34 then
      if output.length ≤ limit ∧ validUtf8 output = true then .ok (output, rest)
      else .error (text "invalid or oversized JSON string")
    else if character < 0x20 then .error (text "control character in JSON string")
    else if character ≠ 92 then
      if limit < (output ++ [character]).length then
        .error (text "JSON string exceeds bounded size")
      else characters limit (output ++ [character]) rest
    else
      match rest with
      | [] => .error (text "unterminated JSON escape")
      | escaped :: following =>
        if escaped = 117 then
          match following with
          | first :: second :: third :: fourth :: remaining =>
            match hexValue first, hexValue second, hexValue third, hexValue fourth with
            | some a, some b, some c, some d =>
              let codePoint := ((a * 16 + b) * 16 + c) * 16 + d
              if 0xd800 ≤ codePoint ∧ codePoint ≤ 0xdfff then
                .error (text "surrogate Unicode escape unsupported")
              else if limit < (output ++ appendUtf8 codePoint).length then
                .error (text "JSON string exceeds bounded size")
              else characters limit (output ++ appendUtf8 codePoint) remaining
            | _, _, _, _ => .error (unicodeEscapeError following)
          | _ => .error (unicodeEscapeError following)
        else
          match unescape escaped with
          | none => .error (text "invalid JSON escape")
          | some character =>
            if limit < (output ++ [character]).length then
              .error (text "JSON string exceeds bounded size")
            else characters limit (output ++ [character]) following

def string (limit : Nat) : Reader Bytes := fun input =>
  match skipWhitespace input with
  | character :: rest =>
    if character = 34 then characters limit [] rest else .error (text "expected JSON string")
  | [] => .error (text "expected JSON string")

def key (expected : String) (input : Bytes) : Except Bytes Bytes := do
  let (actual, rest) ← string 64 input
  if actual ≠ text expected then .error [] else consume 58 rest

def member {α : Type} (expected : String) (value : Reader α) : Reader α := fun input => do
  let rest ← key expected input
  value rest

def following {α : Type} (expected : String) (value : Reader α) : Reader α := fun input => do
  let rest ← consume 44 input
  member expected value rest

/-! ## Numbers and booleans -/

def boolean : Reader Bool := fun input =>
  let input := skipWhitespace input
  if (text "true").isPrefixOf input then .ok (true, input.drop 4)
  else if (text "false").isPrefixOf input then .ok (false, input.drop 5)
  else .error (text "expected boolean")

def unsignedInteger : Reader Nat := fun input =>
  let digits := (skipWhitespace input).takeWhile isDigit
  if digits.isEmpty then .error (text "expected unsigned integer")
  else if digits.head? = some 48 ∧ 1 < digits.length then .error (text "leading zero in integer")
  else
    match parseDecimal Netstring.uint64Max digits with
    | none => .error (text "unsigned integer overflow")
    | some value => .ok (value, (skipWhitespace input).drop digits.length)

def negate (negative : Bool) (magnitude : Nat) : Int := if negative then -magnitude else magnitude

def signedInteger : Reader Int := fun input => do
  let input := skipWhitespace input
  let negative := input.head? == some 45
  let (magnitude, rest) ← unsignedInteger (if negative then input.tail else input)
  if (negative = false ∧ int64Max < magnitude) ∨ (negative = true ∧ int64Max + 1 < magnitude) then
    .error (text "signed integer overflow")
  else .ok (negate negative magnitude, rest)

/-! ## Writing -/

def escapeByte (character : UInt8) : Bytes :=
  if character = 34 then [92, 34]
  else if character = 92 then [92, 92]
  else if character = 8 then [92, 98]
  else if character = 12 then [92, 102]
  else if character = 10 then [92, 110]
  else if character = 13 then [92, 114]
  else if character = 9 then [92, 116]
  else if character < 0x20 then
    [92, 117, 48, 48, Hex.hexDigit (character.toNat / 16), Hex.hexDigit (character.toNat % 16)]
  else [character]

def quoted (value : Bytes) : Bytes := 34 :: (value.flatMap escapeByte ++ [34])

def booleanText (value : Bool) : Bytes := if value then text "true" else text "false"

def keyText (name : String) : Bytes := quoted (text name) ++ [58]

/-! ## Reading what was written -/

theorem skipWhitespace_cons {byte : UInt8} (solid : isWhitespace byte = false) (rest : Bytes) :
    skipWhitespace (byte :: rest) = byte :: rest := by
  rw [skipWhitespace, List.dropWhile_cons_of_neg (by simp [solid])]

theorem consume_cons {expected : UInt8} (solid : isWhitespace expected = false) (rest : Bytes) :
    consume expected (expected :: rest) = .ok rest := by
  rw [consume, skipWhitespace_cons solid]
  exact if_pos rfl

theorem consumeIf_cons {expected : UInt8} (solid : isWhitespace expected = false) (rest : Bytes) :
    consumeIf expected (expected :: rest) = some rest := by
  rw [consumeIf, skipWhitespace_cons solid]
  exact if_pos rfl

theorem consumeIf_other {expected byte : UInt8} (solid : isWhitespace byte = false)
    (other : byte ≠ expected) (rest : Bytes) : consumeIf expected (byte :: rest) = none := by
  rw [consumeIf, skipWhitespace_cons solid]
  exact if_neg other

theorem hexValue_hexDigit (value : Nat) (small : value < 16) :
    hexValue (Hex.hexDigit value) = some value := by
  interval_cases value <;> rfl

theorem characters_control {limit : Nat} {character : UInt8} (control : character < 0x20)
    (output rest : Bytes) :
    characters limit output ([92, 117, 48, 48, Hex.hexDigit (character.toNat / 16),
        Hex.hexDigit (character.toNat % 16)] ++ rest) =
      if limit < (output ++ [character]).length then .error (text "JSON string exceeds bounded size")
      else characters limit (output ++ [character]) rest := by
  have small : character.toNat < 32 := UInt8.lt_iff_toNat_lt.mp control
  have upper := hexValue_hexDigit (character.toNat / 16) (by omega)
  have lower := hexValue_hexDigit (character.toNat % 16) (Nat.mod_lt _ (by decide))
  have zero : hexValue 48 = some 0 := rfl
  have codePoint : ((0 * 16 + 0) * 16 + character.toNat / 16) * 16 + character.toNat % 16 =
      character.toNat := by omega
  have byte : appendUtf8 character.toNat = [character] := by
    rw [appendUtf8, if_pos (by omega), UInt8.ofNat_toNat]
  have plain : ¬ (0xd800 ≤ character.toNat ∧ character.toNat ≤ 0xdfff) := by omega
  have quote : ¬ (92 : UInt8) = 34 := by decide
  have printable : ¬ (92 : UInt8) < 0x20 := by decide
  rw [characters.eq_def]
  simp only [List.cons_append, List.nil_append, quote, printable, if_false, ne_eq, not_true,
    if_true, zero, upper, lower, codePoint, plain, byte]

theorem characters_escape {limit : Nat} {escaped character : UInt8}
    (means : unescape escaped = some character) (output rest : Bytes) :
    characters limit output (92 :: escaped :: rest) =
      if limit < (output ++ [character]).length then .error (text "JSON string exceeds bounded size")
      else characters limit (output ++ [character]) rest := by
  have quote : ¬ (92 : UInt8) = 34 := by decide
  have printable : ¬ (92 : UInt8) < 0x20 := by decide
  have unicode : ¬ escaped = 117 := by
    rintro rfl
    cases means
  rw [characters.eq_def]
  simp only [quote, printable, if_false, ne_eq, not_true, unicode, means]

theorem characters_escapeByte (limit : Nat) (output rest : Bytes) (character : UInt8) :
    characters limit output (escapeByte character ++ rest) =
      if limit < (output ++ [character]).length then .error (text "JSON string exceeds bounded size")
      else characters limit (output ++ [character]) rest := by
  unfold escapeByte
  split
  case isTrue same => subst same; exact characters_escape rfl output rest
  case isFalse quote =>
  split
  case isTrue same => subst same; exact characters_escape rfl output rest
  case isFalse backslash =>
  split
  case isTrue same => subst same; exact characters_escape rfl output rest
  case isFalse =>
  split
  case isTrue same => subst same; exact characters_escape rfl output rest
  case isFalse =>
  split
  case isTrue same => subst same; exact characters_escape rfl output rest
  case isFalse =>
  split
  case isTrue same => subst same; exact characters_escape rfl output rest
  case isFalse =>
  split
  case isTrue same => subst same; exact characters_escape rfl output rest
  case isFalse =>
  split
  case isTrue control => exact characters_control control output rest
  case isFalse printable =>
    rw [List.singleton_append, characters.eq_def]
    dsimp only
    rw [if_neg quote, if_neg printable, if_pos backslash]

theorem characters_quoted {limit : Nat} (output value rest : Bytes)
    (short : (output ++ value).length ≤ limit) :
    characters limit output (value.flatMap escapeByte ++ 34 :: rest) =
      if validUtf8 (output ++ value) = true then .ok (output ++ value, rest)
      else .error (text "invalid or oversized JSON string") := by
  induction value generalizing output with
  | nil =>
    rw [List.append_nil] at short ⊢
    rw [List.flatMap_nil, List.nil_append, characters.eq_def]
    simp only [if_true, short, true_and]
  | cons character value ih =>
    have shifted : output ++ character :: value = output ++ [character] ++ value := by simp
    rw [shifted] at short ⊢
    have room : ¬ limit < (output ++ [character]).length := by
      rw [List.length_append] at short
      omega
    rw [List.flatMap_cons, List.append_assoc, characters_escapeByte, if_neg room, ih _ short]

theorem string_quoted {limit : Nat} (value rest : Bytes) (short : value.length ≤ limit) :
    string limit (quoted value ++ rest) =
      if validUtf8 value = true then .ok (value, rest)
      else .error (text "invalid or oversized JSON string") := by
  have inside := @characters_quoted limit [] value rest short
  rw [List.nil_append] at inside
  rw [string, quoted, List.cons_append, skipWhitespace_cons (by decide), List.append_assoc,
    List.singleton_append]
  simp only [if_true, inside]

structure Name (name : String) : Prop where
  ascii : ∀ byte ∈ text name, byte ≤ 0x7f
  short : (text name).length ≤ 64

instance (name : String) : Decidable (Name name) :=
  decidable_of_iff ((∀ byte ∈ text name, byte ≤ 0x7f) ∧ (text name).length ≤ 64)
    ⟨fun ⟨ascii, short⟩ => ⟨ascii, short⟩, fun ⟨ascii, short⟩ => ⟨ascii, short⟩⟩

theorem key_keyText {name : String} (named : Name name) (rest : Bytes) :
    key name (keyText name ++ rest) = .ok rest := by
  have read := string_quoted (text name) (58 :: rest) named.short
  rw [if_pos (Json.validUtf8_of_ascii named.ascii)] at read
  simp only [key, keyText, List.append_assoc, List.singleton_append, read, bind, Except.bind,
    ne_eq, not_true, if_false]
  exact consume_cons (by decide) rest

theorem member_keyText {α : Type} {name : String} (named : Name name) (value : Reader α)
    (rest : Bytes) : member name value (keyText name ++ rest) = value rest := by
  simp only [member, key_keyText named, bind, Except.bind]

theorem following_keyText {α : Type} {name : String} (named : Name name) (value : Reader α)
    (rest : Bytes) : following name value (44 :: (keyText name ++ rest)) = value rest := by
  have comma : consume 44 (44 :: (keyText name ++ rest)) = .ok (keyText name ++ rest) :=
    consume_cons (by decide) _
  simp only [following, comma, member_keyText named, bind, Except.bind]

theorem boolean_booleanText (value : Bool) (rest : Bytes) :
    boolean (booleanText value ++ rest) = .ok (value, rest) := by
  cases value with
  | true => rfl
  | false => rfl

def NoDigit (rest : Bytes) : Prop := ∀ byte, rest.head? = some byte → isDigit byte = false

theorem noDigit_cons {byte : UInt8} (other : isDigit byte = false) (rest : Bytes) :
    NoDigit (byte :: rest) := by
  intro first head
  obtain rfl := Option.some.inj head
  exact other

theorem takeWhile_decimal {number : Nat} {rest : Bytes} (ends : NoDigit rest) :
    (decimal number ++ rest).takeWhile isDigit = decimal number := by
  rw [List.takeWhile_append_of_pos (isDigit_of_mem_decimal number)]
  cases rest with
  | nil => simp
  | cons byte rest =>
    rw [List.takeWhile_cons_of_neg (by simp [ends byte rfl]), List.append_nil]

theorem isWhitespace_of_isDigit {byte : UInt8} (digit : isDigit byte = true) :
    isWhitespace byte = false := by
  cases space : isWhitespace byte with
  | false => rfl
  | true =>
    simp only [isWhitespace, Bool.or_eq_true, beq_iff_eq] at space
    obtain ((rfl | rfl) | rfl) | rfl := space <;> cases digit

theorem skipWhitespace_decimal (number : Nat) (rest : Bytes) :
    skipWhitespace (decimal number ++ rest) = decimal number ++ rest := by
  cases digits : decimal number with
  | nil => exact absurd digits (decimal_ne_nil number)
  | cons digit more =>
    have numeral := isDigit_of_mem_decimal number digit (by rw [digits]; exact List.mem_cons_self)
    exact skipWhitespace_cons (isWhitespace_of_isDigit numeral) (more ++ rest)

theorem unsignedInteger_decimal {number : Nat} {rest : Bytes} (bounded : number ≤ Netstring.uint64Max)
    (ends : NoDigit rest) : unsignedInteger (decimal number ++ rest) = .ok (number, rest) := by
  have nonempty : (decimal number).isEmpty = false := by simp [decimal_ne_nil]
  have canonical : ¬ ((decimal number).head? = some 48 ∧ 1 < (decimal number).length) := by
    rintro ⟨leading, long⟩
    cases number with
    | zero => exact absurd long (by decide)
    | succ number => exact head_decimal_ne_zero (number + 1) (Nat.succ_pos number) leading
  simp only [unsignedInteger, skipWhitespace_decimal, takeWhile_decimal ends, nonempty,
    Bool.false_eq_true, if_false, canonical, parseDecimal_decimal _ number bounded, List.drop_left]

theorem signedInteger_signedDecimal {number : Int} {rest : Bytes}
    (lower : -(int64Max : Int) - 1 ≤ number) (upper : number ≤ int64Max) (ends : NoDigit rest) :
    signedInteger (signedDecimal number ++ rest) = .ok (number, rest) := by
  have wide : int64Max + 1 ≤ Netstring.uint64Max := by decide
  rw [signedDecimal]
  split
  case isTrue negative =>
    have read := @unsignedInteger_decimal number.natAbs rest (by omega) ends
    have back : negate true number.natAbs = number := by
      rw [negate, if_pos rfl]
      omega
    have fits : ¬ int64Max + 1 < number.natAbs := by omega
    rw [List.cons_append, signedInteger, skipWhitespace_cons (by decide)]
    simp only [List.head?_cons, beq_self_eq_true, if_true, List.tail_cons, read, bind, Except.bind,
      back, fits, reduceCtorEq, false_and, and_false, or_self, if_false]
  case isFalse nonneg =>
    have read := @unsignedInteger_decimal number.natAbs rest (by omega) ends
    have head : ((decimal number.natAbs ++ rest).head? == some 45) = false := by
      cases digits : decimal number.natAbs with
      | nil => exact absurd digits (decimal_ne_nil _)
      | cons digit more =>
        have numeral := isDigit_of_mem_decimal number.natAbs digit
          (by rw [digits]; exact List.mem_cons_self)
        rw [List.cons_append, List.head?_cons, beq_eq_false_iff_ne]
        intro minus
        rw [Option.some.inj minus] at numeral
        cases numeral
    have back : negate false number.natAbs = number := by
      rw [negate, if_neg (by decide)]
      omega
    have fits : ¬ int64Max < number.natAbs := by omega
    rw [signedInteger, skipWhitespace_decimal]
    simp only [head, Bool.false_eq_true, if_false, read, bind, Except.bind, back, fits, and_false,
      false_and, or_self]

end VdrSuite.Library.JsonCursor
