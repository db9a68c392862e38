import VdrSuite.Library.Bytes
import Mathlib.Data.List.Induction
import Mathlib.Tactic.Ring

/-! Runs of digits: the numbers that they stand for, and numerals padded with zeros. -/

set_option autoImplicit false

namespace VdrSuite.Library

def digitsValue (digits : Bytes) : Nat :=
  digits.foldl (fun number digit => number * 10 + digitValue digit) 0

def zeroPadded (width number : Nat) : Bytes := (decimal number).leftpad width 48

theorem digitsValue_concat (digits : Bytes) (digit : UInt8) :
    digitsValue (digits ++ [digit]) = digitsValue digits * 10 + digitValue digit := by
  simp [digitsValue]

theorem digitsValue_append (front back : Bytes) :
    digitsValue (front ++ back) = digitsValue front * 10 ^ back.length + digitsValue back := by
  induction back using List.reverseRecOn with
  | nil => simp [digitsValue]
  | append_singleton back digit ih =>
    rw [← List.append_assoc, digitsValue_concat, digitsValue_concat, ih, List.length_append,
      List.length_singleton, Nat.pow_succ]
    ring

theorem digitsValue_decimal (number : Nat) : digitsValue (decimal number) = number := by
  induction number using Nat.strong_induction_on with
  | _ number ih =>
    by_cases small : number < 10
    · rw [decimal_of_lt_ten number small]
      simp [digitsValue, digitValue_digitByte number small]
    · rw [decimal_of_ten_le number (by omega), digitsValue_concat, ih _ (by omega),
        digitValue_digitByte _ (Nat.mod_lt _ (by decide))]
      omega

theorem digitsValue_zeros (count : Nat) : digitsValue (List.replicate count 48) = 0 := by
  induction count with
  | zero => rfl
  | succ count ih => rw [List.replicate_succ', digitsValue_concat, ih]; rfl

theorem digitsValue_zeroPadded (width number : Nat) :
    digitsValue (zeroPadded width number) = number := by
  rw [zeroPadded, List.leftpad, digitsValue_append, digitsValue_zeros, digitsValue_decimal]
  omega

theorem zeroPadded_length {width number : Nat} (fits : number < 10 ^ (width + 1)) :
    (zeroPadded (width + 1) number).length = width + 1 := by
  have short := decimal_length_le number width fits
  rw [zeroPadded, List.length_leftpad]
  omega

/-! ## Which digit runs are read below a limit -/

private theorem le_foldl_digits (digits : Bytes) (start : Nat) :
    start ≤ digits.foldl (fun number digit => number * 10 + digitValue digit) start := by
  induction digits generalizing start with
  | nil => exact Nat.le_refl _
  | cons digit digits ih =>
    rw [List.foldl_cons]
    exact Nat.le_trans (by omega) (ih _)

theorem accumulateDigit_iff {limit accumulated value : Nat} {byte : UInt8} (room : 9 ≤ limit) :
    accumulateDigit limit accumulated byte = some value ↔
      isDigit byte = true ∧ accumulated * 10 + digitValue byte = value ∧ value ≤ limit := by
  rw [accumulateDigit]
  cases digit : isDigit byte with
  | false => simp
  | true =>
    have ones : digitValue byte ≤ 9 := by
      simp only [isDigit, Bool.and_eq_true, decide_eq_true_eq, UInt8.le_iff_toNat_le] at digit
      have upper : byte.toNat ≤ 57 := digit.2
      rw [digitValue]
      omega
    split
    · simp_all
    · split
      · simp only [reduceCtorEq, true_and, false_iff]
        omega
      · simp only [Option.some.injEq, true_and]
        omega

private theorem foldlM_accumulateDigit_iff {limit : Nat} (room : 9 ≤ limit) (digits : Bytes)
    (start value : Nat) (small : start ≤ limit) :
    digits.foldlM (accumulateDigit limit) start = some value ↔
      (∀ byte ∈ digits, isDigit byte = true) ∧
      digits.foldl (fun number digit => number * 10 + digitValue digit) start = value ∧
      value ≤ limit := by
  induction digits generalizing start with
  | nil =>
    simp only [List.foldlM_nil, List.foldl_nil, Option.pure_def, Option.some.injEq,
      List.not_mem_nil, false_implies, implies_true, true_and]
    exact ⟨fun same => ⟨same, same ▸ small⟩, And.left⟩
  | cons digit digits ih =>
    rw [List.foldlM_cons, Option.bind_eq_bind, Option.bind_eq_some_iff, List.foldl_cons,
      List.forall_mem_cons]
    constructor
    · rintro ⟨next, step, rest⟩
      obtain ⟨leading, rfl, bounded⟩ := (accumulateDigit_iff room).mp step
      obtain ⟨all, total, fits⟩ := (ih _ bounded).mp rest
      exact ⟨⟨leading, all⟩, total, fits⟩
    · rintro ⟨⟨leading, all⟩, total, fits⟩
      have bounded : start * 10 + digitValue digit ≤ limit :=
        Nat.le_trans (total ▸ le_foldl_digits digits _) fits
      exact ⟨_, (accumulateDigit_iff room).mpr ⟨leading, rfl, bounded⟩,
        (ih _ bounded).mpr ⟨all, total, fits⟩⟩

def Numeral (written : Bytes) (number : Nat) : Prop :=
  written ≠ [] ∧ (∀ byte ∈ written, isDigit byte = true) ∧ digitsValue written = number

theorem parseDecimal_iff {limit value : Nat} {bytes : Bytes} (room : 9 ≤ limit) :
    parseDecimal limit bytes = some value ↔ Numeral bytes value ∧ value ≤ limit := by
  cases bytes with
  | nil => simp [parseDecimal, Numeral]
  | cons digit digits =>
    have read := foldlM_accumulateDigit_iff room (digit :: digits) 0 value (Nat.zero_le _)
    simpa [parseDecimal, digitsValue, Numeral, and_assoc] using read

theorem Numeral.notMem {written : Bytes} {number : Nat} (numeral : Numeral written number)
    {byte : UInt8} (foreign : isDigit byte = false) : byte ∉ written := by
  intro member
  rw [numeral.2.1 byte member] at foreign
  exact absurd foreign (by decide)

/-! ## Digits compared from the left -/

/-- The order in which one run of digits comes before another when they are compared from the left:
by as many leading digits as both have, and then by their lengths. -/
def LeadingLess (left right : Bytes) : Prop :=
  digitsValue (left.take (min left.length right.length)) <
      digitsValue (right.take (min left.length right.length)) ∨
    digitsValue (left.take (min left.length right.length)) =
        digitsValue (right.take (min left.length right.length)) ∧
      left.length < right.length

theorem digitValue_lt_ten {byte : UInt8} (digit : isDigit byte = true) : digitValue byte < 10 := by
  simp only [isDigit, Bool.and_eq_true, decide_eq_true_eq, UInt8.le_iff_toNat_le] at digit
  have upper : byte.toNat ≤ 57 := digit.2
  rw [digitValue]
  omega

theorem digitValue_lt_iff {left right : UInt8} (leftDigit : isDigit left = true)
    (rightDigit : isDigit right = true) : left < right ↔ digitValue left < digitValue right := by
  simp only [isDigit, Bool.and_eq_true, decide_eq_true_eq, UInt8.le_iff_toNat_le] at leftDigit rightDigit
  have leftLower : 48 ≤ left.toNat := leftDigit.1
  have rightLower : 48 ≤ right.toNat := rightDigit.1
  rw [UInt8.lt_iff_toNat_lt, digitValue, digitValue]
  omega

theorem digitValue_inj {left right : UInt8} (leftDigit : isDigit left = true)
    (rightDigit : isDigit right = true) : digitValue left = digitValue right ↔ left = right := by
  simp only [isDigit, Bool.and_eq_true, decide_eq_true_eq, UInt8.le_iff_toNat_le] at leftDigit rightDigit
  have leftLower : 48 ≤ left.toNat := leftDigit.1
  have rightLower : 48 ≤ right.toNat := rightDigit.1
  constructor
  · intro same
    rw [digitValue, digitValue] at same
    exact UInt8.toNat_inj.mp (by omega)
  · rintro rfl
    rfl

theorem digitsValue_lt_pow {digits : Bytes} (all : ∀ byte ∈ digits, isDigit byte = true) :
    digitsValue digits < 10 ^ digits.length := by
  induction digits using List.reverseRecOn with
  | nil => decide
  | append_singleton digits digit ih =>
    have last := digitValue_lt_ten (all digit (by simp))
    have front := ih fun byte member => all byte (by simp [member])
    rw [digitsValue_concat, List.length_append, List.length_singleton, Nat.pow_succ]
    omega

theorem digitsValue_cons (digit : UInt8) (digits : Bytes) :
    digitsValue (digit :: digits) = digitValue digit * 10 ^ digits.length + digitsValue digits := by
  rw [← List.singleton_append, digitsValue_append]
  simp [digitsValue]

theorem lt_iff_leadingLess {left right : Bytes} (leftDigits : ∀ byte ∈ left, isDigit byte = true)
    (rightDigits : ∀ byte ∈ right, isDigit byte = true) : left < right ↔ LeadingLess left right := by
  induction left generalizing right with
  | nil => cases right <;> simp [LeadingLess]
  | cons first left ih =>
    cases right with
    | nil => simp [LeadingLess]
    | cons second right =>
      rw [List.forall_mem_cons] at leftDigits rightDigits
      have width : min (first :: left).length (second :: right).length =
          min left.length right.length + 1 := by
        simp only [List.length_cons]
        omega
      have leftTake : (left.take (min left.length right.length)).length =
          min left.length right.length := by
        rw [List.length_take]
        omega
      have rightTake : (right.take (min left.length right.length)).length =
          min left.length right.length := by
        rw [List.length_take]
        omega
      have leftSmall := @digitsValue_lt_pow (left.take (min left.length right.length))
        fun byte member => leftDigits.2 byte (List.mem_of_mem_take member)
      have rightSmall := @digitsValue_lt_pow (right.take (min left.length right.length))
        fun byte member => rightDigits.2 byte (List.mem_of_mem_take member)
      rw [leftTake] at leftSmall
      rw [rightTake] at rightSmall
      rw [List.cons_lt_cons_iff, ih leftDigits.2 rightDigits.2, LeadingLess, LeadingLess, width,
        List.take_succ_cons, List.take_succ_cons, digitsValue_cons, digitsValue_cons, leftTake,
        rightTake, digitValue_lt_iff leftDigits.1 rightDigits.1,
        ← digitValue_inj leftDigits.1 rightDigits.1, List.length_cons, List.length_cons]
      have carried : ∀ {small large : Nat}, small < large →
          small * 10 ^ min left.length right.length + 10 ^ min left.length right.length ≤
            large * 10 ^ min left.length right.length := by
        intro small large less
        rw [← Nat.succ_mul]
        exact Nat.mul_le_mul_right _ less
      rcases Nat.lt_trichotomy (digitValue first) (digitValue second) with less | same | more
      · have := carried less
        omega
      · rw [same]
        omega
      · have := carried more
        omega

end VdrSuite.Library
