import Mathlib.Data.List.TakeWhile
import Mathlib.Data.Nat.Digits.Defs

/-! Byte strings, C-string truncation and bounded decimal numerals. -/

set_option autoImplicit false

namespace VdrSuite.Library

abbrev Bytes := List UInt8

def int64Max : Nat := 9223372036854775807

instance decidableMem (value : Bytes) (values : List Bytes) : Decidable (value ∈ values) :=
  inferInstanceAs (Decidable (value ∈ values))

instance decidableForallMem (value : Bytes) (p : UInt8 → Prop) [DecidablePred p] :
    Decidable (∀ byte ∈ value, p byte) :=
  List.decidableBAll p value

def text (literal : String) : Bytes :=
  literal.toList.map fun character => UInt8.ofNat character.toNat

/-- Read from the characters, the bytes of a long literal are cheap to compute. -/
theorem text_ofList (characters : List Char) :
    text (String.ofList characters) = characters.map fun character => UInt8.ofNat character.toNat :=
  congrArg (List.map _) String.toList_ofList

def lowerCase (byte : UInt8) : UInt8 := if 65 ≤ byte && byte ≤ 90 then byte + 32 else byte

def cString (bytes : Bytes) : Bytes :=
  bytes.takeWhile (· != 0)

def afterHeading (heading input : Bytes) : Option Bytes :=
  if heading.isPrefixOf input then some (input.drop heading.length) else none

def enclosed (heading ending input : Bytes) : Option Bytes :=
  match afterHeading heading input with
  | none => none
  | some rest =>
    if ending.isSuffixOf rest then some (rest.take (rest.length - ending.length)) else none

@[grind =] def splitAtFirst (needle : Bytes) : Bytes → Option (Bytes × Bytes)
  | [] => if needle.isEmpty then some ([], []) else none
  | byte :: rest =>
    if needle.isPrefixOf (byte :: rest) then some ([], (byte :: rest).drop needle.length)
    else
      match splitAtFirst needle rest with
      | none => none
      | some (before, after) => some (byte :: before, after)

/-! ## C strings -/

theorem cString_eq_self_iff (bytes : Bytes) : cString bytes = bytes ↔ (0 : UInt8) ∉ bytes := by
  simp only [cString, List.takeWhile_eq_self_iff, bne_iff_ne]
  constructor
  · intro nonzero member
    exact nonzero 0 member rfl
  · rintro absent byte member rfl
    exact absent member

@[simp] theorem cString_idempotent (bytes : Bytes) : cString (cString bytes) = cString bytes :=
  List.takeWhile_idem

theorem cString_length_le (bytes : Bytes) : (cString bytes).length ≤ bytes.length :=
  (List.takeWhile_sublist _).length_le

theorem zero_notMem_cString (bytes : Bytes) : (0 : UInt8) ∉ cString bytes :=
  (cString_eq_self_iff _).mp (cString_idempotent bytes)

/-! ## Headings and endings -/

theorem afterHeading_append (heading rest : Bytes) : afterHeading heading (heading ++ rest) = some rest := by
  simp [afterHeading]

theorem enclosed_append (heading content ending : Bytes) :
    enclosed heading ending (heading ++ content ++ ending) = some content := by
  rw [enclosed, List.append_assoc, afterHeading_append]
  simp

/-! ## Decimal numerals -/

def digitByte (digit : Nat) : UInt8 := UInt8.ofNat (48 + digit)

def isDigit (byte : UInt8) : Bool := 48 ≤ byte && byte ≤ 57

def digitValue (byte : UInt8) : Nat := byte.toNat - 48

def decimal (value : Nat) : Bytes :=
  if value = 0 then [digitByte 0] else (Nat.digits 10 value).reverse.map digitByte

def signedDecimal (value : Int) : Bytes :=
  if value < 0 then 45 :: decimal value.natAbs else decimal value.natAbs

def accumulateDigit (limit accumulated : Nat) (byte : UInt8) : Option Nat :=
  if isDigit byte = false then none
  else if accumulated > (limit - digitValue byte) / 10 then none
  else some (accumulated * 10 + digitValue byte)

/-- Left-to-right accumulation that stops before `limit` would be exceeded. -/
def parseDecimal (limit : Nat) (bytes : Bytes) : Option Nat :=
  if bytes.isEmpty then none else bytes.foldlM (accumulateDigit limit) 0

theorem digitByte_toNat (digit : Nat) (small : digit < 10) : (digitByte digit).toNat = 48 + digit := by
  simp only [digitByte, UInt8.toNat_ofNat']
  omega

theorem isDigit_digitByte (digit : Nat) (small : digit < 10) : isDigit (digitByte digit) = true := by
  simp only [isDigit, Bool.and_eq_true, decide_eq_true_eq, UInt8.le_iff_toNat_le,
    digitByte_toNat digit small]
  refine ⟨?_, ?_⟩
  · exact Nat.le_add_right 48 digit
  · change 48 + digit ≤ 57
    omega

theorem digitValue_digitByte (digit : Nat) (small : digit < 10) :
    digitValue (digitByte digit) = digit := by
  simp [digitValue, digitByte_toNat digit small]

theorem decimal_of_lt_ten (value : Nat) (small : value < 10) : decimal value = [digitByte value] := by
  by_cases zero : value = 0
  · simp [decimal, zero]
  · simp [decimal, zero, Nat.digits_of_lt 10 value zero small]

theorem decimal_of_ten_le (value : Nat) (large : 10 ≤ value) :
    decimal value = decimal (value / 10) ++ [digitByte (value % 10)] := by
  have positive : 0 < value := by omega
  have quotient : value / 10 ≠ 0 := by omega
  simp [decimal, positive.ne', quotient, Nat.digits_def' (by decide : 1 < 10) positive]

theorem decimal_ne_nil (value : Nat) : decimal value ≠ [] := by
  by_cases small : value < 10
  · simp [decimal_of_lt_ten value small]
  · simp [decimal_of_ten_le value (by omega)]

theorem isDigit_of_mem_decimal (value : Nat) :
    ∀ byte ∈ decimal value, isDigit byte = true := by
  induction value using Nat.strong_induction_on with
  | _ value ih =>
    by_cases small : value < 10
    · simpa [decimal_of_lt_ten value small] using isDigit_digitByte value small
    · rw [decimal_of_ten_le value (by omega)]
      intro byte member
      rcases List.mem_append.mp member with leading | trailing
      · exact ih (value / 10) (by omega) byte leading
      · rw [List.mem_singleton.mp trailing]
        exact isDigit_digitByte _ (Nat.mod_lt _ (by decide))

private theorem accumulateDigit_digitByte (limit accumulated digit : Nat) (small : digit < 10)
    (bounded : accumulated * 10 + digit ≤ limit) :
    accumulateDigit limit accumulated (digitByte digit) = some (accumulated * 10 + digit) := by
  have room : ¬ accumulated > (limit - digit) / 10 := by omega
  simp [accumulateDigit, isDigit_digitByte digit small, digitValue_digitByte digit small, room]

theorem parseDecimal_decimal (limit value : Nat) (bounded : value ≤ limit) :
    parseDecimal limit (decimal value) = some value := by
  have accumulated : (decimal value).foldlM (accumulateDigit limit) 0 = some value := by
    induction value using Nat.strong_induction_on with
    | _ value ih =>
      by_cases small : value < 10
      · simpa [decimal_of_lt_ten value small] using
          accumulateDigit_digitByte limit 0 value small (by omega)
      · rw [decimal_of_ten_le value (by omega), List.foldlM_append,
          ih (value / 10) (by omega) (by omega)]
        have step := accumulateDigit_digitByte limit (value / 10) (value % 10)
          (Nat.mod_lt _ (by decide)) (by omega)
        simpa [Nat.div_add_mod'] using step
  simp [parseDecimal, decimal_ne_nil, accumulated]

theorem decimal_injective {left right : Nat} (same : decimal left = decimal right) :
    left = right := by
  have read := parseDecimal_decimal (max left right) left (Nat.le_max_left _ _)
  rw [same, parseDecimal_decimal _ right (Nat.le_max_right _ _)] at read
  exact (Option.some.inj read).symm

theorem parseDecimal_le (limit : Nat) (bytes : Bytes) (value : Nat)
    (parsed : parseDecimal limit bytes = some value) (room : 9 ≤ limit) : value ≤ limit := by
  have bounded : ∀ (tail : Bytes) (start : Nat), start ≤ limit →
      tail.foldlM (accumulateDigit limit) start = some value → value ≤ limit := by
    intro tail
    induction tail with
    | nil =>
      intro start small result
      simp only [List.foldlM_nil, Option.pure_def, Option.some.injEq] at result
      omega
    | cons byte tail ih =>
      intro start _ result
      simp only [List.foldlM_cons, Option.bind_eq_bind, Option.bind_eq_some_iff] at result
      obtain ⟨next, accumulated, rest⟩ := result
      refine ih next ?_ rest
      simp only [accumulateDigit] at accumulated
      split at accumulated
      · simp at accumulated
      · rename_i digit
        split at accumulated
        · simp at accumulated
        · have : digitValue byte ≤ 9 := by
            simp only [isDigit, Bool.not_eq_false, Bool.and_eq_true, decide_eq_true_eq,
              UInt8.le_iff_toNat_le] at digit
            have : byte.toNat ≤ 57 := digit.2
            simp only [digitValue]
            omega
          simp only [Option.some.injEq] at accumulated
          omega
  simp only [parseDecimal] at parsed
  split at parsed
  · simp at parsed
  · exact bounded bytes 0 (by omega) parsed

theorem parseDecimal_lt_pow (limit : Nat) (bytes : Bytes) (value : Nat)
    (parsed : parseDecimal limit bytes = some value) : value < 10 ^ bytes.length := by
  have bounded : ∀ (tail : Bytes) (start digits : Nat), start < 10 ^ digits →
      tail.foldlM (accumulateDigit limit) start = some value →
      value < 10 ^ (digits + tail.length) := by
    intro tail
    induction tail with
    | nil =>
      intro start digits small result
      simp only [List.foldlM_nil, Option.pure_def, Option.some.injEq] at result
      simpa [← result] using small
    | cons byte tail ih =>
      intro start digits small result
      simp only [List.foldlM_cons, Option.bind_eq_bind, Option.bind_eq_some_iff] at result
      obtain ⟨next, accumulated, rest⟩ := result
      have step : next < 10 ^ (digits + 1) := by
        simp only [accumulateDigit] at accumulated
        split at accumulated
        · simp at accumulated
        · next digit =>
          split at accumulated
          · simp at accumulated
          · have ones : digitValue byte ≤ 9 := by
              simp only [isDigit, Bool.not_eq_false, Bool.and_eq_true, decide_eq_true_eq,
                UInt8.le_iff_toNat_le] at digit
              have : byte.toNat ≤ 57 := digit.2
              simp only [digitValue]
              omega
            simp only [Option.some.injEq] at accumulated
            rw [pow_succ]
            omega
      have later := ih next (digits + 1) step rest
      rwa [Nat.add_right_comm, Nat.add_assoc] at later
  simp only [parseDecimal] at parsed
  split at parsed
  · simp at parsed
  · simpa using bounded bytes 0 0 (by simp) parsed

theorem of_parseDecimal_decimal (limit value result : Nat) (room : 9 ≤ limit)
    (parsed : parseDecimal limit (decimal value) = some result) :
    result = value ∧ value ≤ limit := by
  have exact : ∀ result, (decimal value).foldlM (accumulateDigit limit) 0 = some result →
      result = value := by
    clear parsed
    induction value using Nat.strong_induction_on with
    | _ value ih =>
      intro result folded
      by_cases small : value < 10
      · simp only [decimal_of_lt_ten value small, List.foldlM_cons, List.foldlM_nil,
          accumulateDigit, isDigit_digitByte value small, digitValue_digitByte value small]
          at folded
        simpa using folded.symm
      · have digit : value % 10 < 10 := Nat.mod_lt _ (by decide)
        rw [decimal_of_ten_le value (by omega), List.foldlM_append, Option.bind_eq_bind,
          Option.bind_eq_some_iff] at folded
        obtain ⟨quotient, leading, trailing⟩ := folded
        rw [ih (value / 10) (by omega) quotient leading] at trailing
        simp only [List.foldlM_cons, List.foldlM_nil, accumulateDigit,
          isDigit_digitByte _ digit, digitValue_digitByte _ digit] at trailing
        split at trailing
        · simp at trailing
        · split at trailing
          · simp at trailing
          · simp only [Option.bind_eq_bind, Option.bind_some, Option.pure_def,
              Option.some.injEq] at trailing
            omega
  have bounded := parseDecimal_le limit _ _ parsed room
  simp only [parseDecimal] at parsed
  split at parsed
  · simp at parsed
  · have := exact result parsed
    exact ⟨this, this ▸ bounded⟩

theorem decimal_length_le (value digits : Nat) (bounded : value < 10 ^ (digits + 1)) :
    (decimal value).length ≤ digits + 1 := by
  induction digits generalizing value with
  | zero =>
    rw [decimal_of_lt_ten value (by simpa using bounded)]
    simp
  | succ digits ih =>
    by_cases small : value < 10
    · rw [decimal_of_lt_ten value small]
      simp
    · have quotient : value / 10 < 10 ^ (digits + 1) := by
        rw [Nat.div_lt_iff_lt_mul (by decide)]
        rwa [pow_succ] at bounded
      rw [decimal_of_ten_le value (by omega), List.length_append, List.length_singleton]
      have := ih (value / 10) quotient
      omega

theorem head_decimal_ne_zero (value : Nat) (positive : 0 < value) :
    (decimal value).head? ≠ some 48 := by
  induction value using Nat.strong_induction_on with
  | _ value ih =>
    by_cases small : value < 10
    · rw [decimal_of_lt_ten value small, List.head?_cons]
      intro zero
      have same := congrArg UInt8.toNat (Option.some.inj zero)
      rw [digitByte_toNat value small] at same
      simp at same
      omega
    · rw [decimal_of_ten_le value (by omega), List.head?_append]
      simp only [ne_eq, Option.or_eq_some_iff, List.head?_eq_none_iff, decimal_ne_nil, false_and,
        or_false]
      exact ih (value / 10) (by omega) (by omega)

theorem notMem_decimal (value : Nat) (byte : UInt8) (foreign : isDigit byte = false) :
    byte ∉ decimal value := by
  intro member
  rw [isDigit_of_mem_decimal value byte member] at foreign
  exact absurd foreign (by decide)

theorem notMem_signedDecimal (value : Int) (byte : UInt8) (foreign : isDigit byte = false)
    (notSign : byte ≠ 45) : byte ∉ signedDecimal value := by
  have digits := notMem_decimal value.natAbs byte foreign
  simp only [signedDecimal]
  split
  · simp [notSign, digits]
  · exact digits

theorem signedDecimal_of_nonneg (value : Int) (nonneg : 0 ≤ value) :
    signedDecimal value = decimal value.toNat := by
  rw [signedDecimal, if_neg (by omega)]
  congr 1
  omega

theorem signedDecimal_injective {left right : Int}
    (same : signedDecimal left = signedDecimal right) : left = right := by
  have unsigned (value : Nat) : (45 : UInt8) ∉ decimal value :=
    notMem_decimal value 45 (by decide)
  unfold signedDecimal at same
  split at same <;> split at same
  · have := decimal_injective (List.cons.inj same).2
    omega
  · exact absurd (same ▸ List.mem_cons_self) (unsigned _)
  · exact absurd (same ▸ List.mem_cons_self) (unsigned _)
  · have := decimal_injective same
    omega

theorem signedDecimal_inj {left right : Int} :
    signedDecimal left = signedDecimal right ↔ left = right :=
  ⟨signedDecimal_injective, congrArg signedDecimal⟩

theorem parseDecimal_signedDecimal_neg (limit : Nat) (value : Int) (negative : value < 0) :
    parseDecimal limit (signedDecimal value) = none := by
  rw [signedDecimal, if_pos negative]
  rfl

end VdrSuite.Library
