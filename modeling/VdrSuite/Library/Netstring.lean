import VdrSuite.Library.Bytes

/-! Length-prefixed fields: `length:value|`, and records that are sequences of them. -/

set_option autoImplicit false

namespace VdrSuite.Library.Netstring

def uint64Max : Nat := 18446744073709551615

def field (value : Bytes) : Bytes :=
  decimal value.length ++ text ":" ++ value ++ text "|"

def record (fields : List Bytes) : Bytes :=
  fields.flatMap field

/-- The digits up to the colon; `limit` bounds the length they may denote. -/
def readLength (limit : Nat) : Nat → Bool → Bytes → Option (Nat × Bytes)
  | _, _, [] => none
  | length, digitSeen, byte :: rest =>
    if byte = 58 then if digitSeen then some (length, rest) else none
    else
      match accumulateDigit limit length byte with
      | none => none
      | some next => readLength limit next true rest

def readField (limit : Nat) (input : Bytes) : Option (Bytes × Bytes) :=
  match readLength limit 0 false input with
  | none => none
  | some (length, rest) =>
    if rest.length < length then none
    else
      match rest.drop length with
      | [] => none
      | byte :: remaining => if byte = 124 then some (rest.take length, remaining) else none

/-- All fields of the input, at most `count` of them. -/
def readFields (limit : Nat) : Nat → Bytes → Option (List Bytes)
  | _, [] => some []
  | 0, _ :: _ => none
  | count + 1, input@(_ :: _) =>
    match readField limit input with
    | none => none
    | some (value, rest) =>
      match readFields limit count rest with
      | none => none
      | some values => some (value :: values)

def readDocument (limit count : Nat) (heading encoded : Bytes) : Option (List Bytes) :=
  if heading.isPrefixOf encoded then readFields limit count (encoded.drop heading.length) else none

def parseUnsigned (limit : Nat) (positive : Bool) (token : Bytes) : Option Nat :=
  match parseDecimal limit token with
  | none => none
  | some value => if positive && value == 0 then none else some value

def boolField (value : Bool) : Bytes := if value then text "1" else text "0"

def parseBool (token : Bytes) : Option Bool :=
  if token = text "0" then some false else if token = text "1" then some true else none

/-! ## Counted texts: `length:value`, with no terminator -/

def counted (value : Bytes) : Bytes :=
  decimal value.length ++ text ":" ++ value

def countedList (values : List Bytes) : Bytes :=
  values.flatMap counted

/-- The counted texts of the whole input, at most `count` of them. -/
def readCounted (limit : Nat) : Nat → Bytes → Option (List Bytes)
  | _, [] => some []
  | 0, _ :: _ => none
  | count + 1, input@(_ :: _) =>
    match readLength limit 0 false input with
    | none => none
    | some (length, rest) =>
      if rest.length < length then none
      else
        match readCounted limit count (rest.drop length) with
        | none => none
        | some values => some (rest.take length :: values)

/-! ## Reading back -/

private theorem readLength_digits (limit length : Nat) (seen : Bool) (digits rest : Bytes)
    (numeral : ∀ byte ∈ digits, isDigit byte = true) :
    readLength limit length seen (digits ++ 58 :: rest) =
      (digits.foldlM (accumulateDigit limit) length).bind fun total =>
        if seen || !digits.isEmpty then some (total, rest) else none := by
  induction digits generalizing length seen with
  | nil => simp [readLength]
  | cons byte digits ih =>
    have notColon : byte ≠ 58 := by
      rintro rfl
      exact absurd (numeral 58 List.mem_cons_self) (by decide)
    rw [List.cons_append, readLength, if_neg notColon, List.foldlM_cons]
    cases accumulateDigit limit length byte with
    | none => rfl
    | some next => simp [ih next true fun other member => numeral other (by simp [member])]

theorem readField_field (limit : Nat) (value rest : Bytes) (bounded : value.length ≤ limit) :
    readField limit (field value ++ rest) = some (value, rest) := by
  have numeral : (decimal value.length).foldlM (accumulateDigit limit) 0 = some value.length := by
    simpa [parseDecimal, decimal_ne_nil] using parseDecimal_decimal limit value.length bounded
  have shape : field value ++ rest =
      decimal value.length ++ 58 :: (value ++ 124 :: rest) := by
    simp [field, text]
  rw [readField, shape, readLength_digits _ _ _ _ _ (isDigit_of_mem_decimal _), numeral]
  simp [decimal_ne_nil]

theorem readFields_record (limit count : Nat) (fields : List Bytes)
    (few : fields.length ≤ count) (bounded : ∀ value ∈ fields, value.length ≤ limit) :
    readFields limit count (record fields) = some fields := by
  have nonempty (value : Bytes) : field value ≠ [] := by
    simp [field, text]
  induction fields generalizing count with
  | nil => rw [record, List.flatMap_nil, readFields]
  | cons value fields ih =>
    cases count with
    | zero => simp at few
    | succ count =>
      have rest := ih count (by simpa using few) fun other member =>
        bounded other (by simp [member])
      obtain ⟨byte, tail, shape⟩ := List.exists_cons_of_ne_nil
        (List.append_ne_nil_of_left_ne_nil (nonempty value) (record fields))
      rw [record, List.flatMap_cons, ← record, shape, readFields, ← shape,
        readField_field limit value _ (bounded value List.mem_cons_self)]
      simp only [rest]

theorem readDocument_record (limit count : Nat) (heading : Bytes) (fields : List Bytes)
    (few : fields.length ≤ count) (bounded : ∀ value ∈ fields, value.length ≤ limit) :
    readDocument limit count heading (heading ++ record fields) = some fields := by
  have headed : heading.isPrefixOf (heading ++ record fields) = true := by simp
  rw [readDocument, if_pos headed, List.drop_left, readFields_record _ _ _ few bounded]

theorem counted_length_pos (value : Bytes) : 0 < (counted value).length := by
  simp only [counted, text, List.length_append]
  have := List.length_pos_iff.mpr (decimal_ne_nil value.length)
  omega

theorem readCounted_countedList (limit count : Nat) (values : List Bytes)
    (few : values.length ≤ count) (bounded : ∀ value ∈ values, value.length ≤ limit) :
    readCounted limit count (countedList values) = some values := by
  induction values generalizing count with
  | nil => rw [countedList, List.flatMap_nil, readCounted]
  | cons value values ih =>
    cases count with
    | zero => simp at few
    | succ count =>
      have rest := ih count (by simpa using few) fun other member =>
        bounded other (by simp [member])
      have small := bounded value List.mem_cons_self
      have numeral : (decimal value.length).foldlM (accumulateDigit limit) 0 =
          some value.length := by
        simpa [parseDecimal, decimal_ne_nil] using parseDecimal_decimal limit value.length small
      have shape : countedList (value :: values) =
          decimal value.length ++ 58 :: (value ++ countedList values) := by
        simp [countedList, counted, text]
      have length : readLength limit 0 false (countedList (value :: values)) =
          some (value.length, value ++ countedList values) := by
        rw [shape, readLength_digits _ _ _ _ _ (isDigit_of_mem_decimal _), numeral]
        simp [decimal_ne_nil]
      obtain ⟨byte, tail, split⟩ := List.exists_cons_of_ne_nil (l := countedList (value :: values))
        (by rw [shape]; simp)
      rw [split, readCounted, ← split]
      simp only [length, List.length_append, List.drop_left, List.take_left, rest]
      rw [if_neg (by omega)]

theorem length_le_countedList (values : List Bytes) :
    values.length ≤ (countedList values).length := by
  induction values with
  | nil => simp
  | cons value values ih =>
    have := counted_length_pos value
    simp only [countedList, List.flatMap_cons, List.length_append, List.length_cons] at ih ⊢
    omega

theorem length_le_of_mem_fields {fields : List Bytes} {value : Bytes} (member : value ∈ fields) :
    value.length ≤ (record fields).length := by
  induction fields with
  | nil => simp at member
  | cons other fields ih =>
    obtain rfl | later := List.mem_cons.mp member
    · simp only [record, List.flatMap_cons, field, List.length_append]
      omega
    · have := ih later
      simp only [record, List.flatMap_cons, List.length_append] at this ⊢
      omega

theorem parseUnsigned_decimal (limit value : Nat) (positive : Bool) (bounded : value ≤ limit)
    (nonzero : positive = true → 0 < value) :
    parseUnsigned limit positive (decimal value) = some value := by
  rw [parseUnsigned, parseDecimal_decimal limit value bounded]
  cases positive with
  | false => simp
  | true => simp [(nonzero rfl).ne']

theorem length_field_le {value : Bytes} {bound : Nat} (small : bound < 10 ^ 20)
    (bounded : value.length ≤ bound) : (field value).length ≤ bound + 22 := by
  have digits := decimal_length_le value.length 19 (by omega)
  have colon : (text ":").length = 1 := by decide
  have bar : (text "|").length = 1 := by decide
  simp only [field, List.length_append, colon, bar]
  omega

theorem length_record_le {fields : List Bytes} {bound : Nat} (small : bound < 10 ^ 20)
    (bounded : ∀ value ∈ fields, value.length ≤ bound) :
    (record fields).length ≤ fields.length * (bound + 22) := by
  induction fields with
  | nil => simp [record]
  | cons value fields ih =>
    have first := length_field_le small (bounded value List.mem_cons_self)
    have rest := ih fun other member => bounded other (List.mem_cons_of_mem _ member)
    simp only [record, List.flatMap_cons, List.length_append, List.length_cons,
      Nat.succ_mul] at rest ⊢
    omega

/-! ## Unique readability -/

theorem terminated_append_inj {left right : Bytes} {stop : UInt8} {restLeft restRight : Bytes}
    (leftOpen : stop ∉ left) (rightOpen : stop ∉ right)
    (same : left ++ [stop] ++ restLeft = right ++ [stop] ++ restRight) :
    left = right ∧ restLeft = restRight := by
  induction left generalizing right with
  | nil =>
    cases right with
    | nil => exact ⟨rfl, (List.cons.inj same).2⟩
    | cons byte right => exact absurd ((List.cons.inj same).1 ▸ List.mem_cons_self) rightOpen
  | cons byte left ih =>
    cases right with
    | nil => exact absurd ((List.cons.inj same).1 ▸ List.mem_cons_self) leftOpen
    | cons other right =>
      obtain ⟨rfl, tails⟩ := List.cons.inj same
      obtain ⟨rfl, rest⟩ := ih (List.not_mem_of_not_mem_cons leftOpen)
        (List.not_mem_of_not_mem_cons rightOpen) tails
      exact ⟨rfl, rest⟩

theorem field_append_inj {left right restLeft restRight : Bytes}
    (same : field left ++ restLeft = field right ++ restRight) :
    left = right ∧ restLeft = restRight := by
  have colonFree (value : Nat) : (58 : UInt8) ∉ decimal value :=
    notMem_decimal value 58 (by decide)
  have terminated (value rest : Bytes) : field value ++ rest =
      decimal value.length ++ [58] ++ (value ++ ([124] ++ rest)) := by
    simp only [field, List.append_assoc]
    rfl
  rw [terminated, terminated] at same
  obtain ⟨lengths, values⟩ := terminated_append_inj (colonFree _) (colonFree _) same
  obtain ⟨equal, rest⟩ := List.append_inj values (decimal_injective lengths)
  exact ⟨equal, List.append_cancel_left rest⟩

theorem field_injective {left right : Bytes} (same : field left = field right) : left = right :=
  (field_append_inj (congrArg (· ++ ([] : Bytes)) same)).1

theorem record_injective {left right : List Bytes} (same : record left = record right) :
    left = right := by
  have nonempty (value : Bytes) : field value ≠ [] := by
    simp [field, text]
  simp only [record] at same
  induction left generalizing right with
  | nil =>
    cases right with
    | nil => rfl
    | cons value right => simp [nonempty] at same
  | cons value left ih =>
    cases right with
    | nil => simp [nonempty] at same
    | cons other right =>
      obtain ⟨rfl, rest⟩ := field_append_inj (by simpa using same)
      rw [ih rest]

theorem boolField_injective {left right : Bool} (same : boolField left = boolField right) :
    left = right := by
  cases left <;> cases right <;> revert same <;> decide

theorem boolField_inj {left right : Bool} : boolField left = boolField right ↔ left = right :=
  ⟨boolField_injective, congrArg boolField⟩

theorem parseBool_boolField (value : Bool) : parseBool (boolField value) = some value := by
  cases value <;> decide

theorem boolField_length (value : Bool) : (boolField value).length = 1 := by
  cases value <;> decide

theorem counted_append_inj {left right restLeft restRight : Bytes}
    (same : counted left ++ restLeft = counted right ++ restRight) :
    left = right ∧ restLeft = restRight := by
  have colonFree (value : Nat) : (58 : UInt8) ∉ decimal value :=
    notMem_decimal value 58 (by decide)
  have terminated (value rest : Bytes) :
      counted value ++ rest = decimal value.length ++ [58] ++ (value ++ rest) := by
    simp only [counted, List.append_assoc]
    rfl
  rw [terminated, terminated] at same
  obtain ⟨lengths, values⟩ := terminated_append_inj (colonFree _) (colonFree _) same
  exact List.append_inj values (decimal_injective lengths)

theorem countedList_injective {left right : List Bytes}
    (same : countedList left = countedList right) : left = right := by
  have nonempty (value : Bytes) : counted value ≠ [] :=
    List.length_pos_iff.mp (counted_length_pos value)
  simp only [countedList] at same
  induction left generalizing right with
  | nil =>
    cases right with
    | nil => rfl
    | cons value right => simp [nonempty] at same
  | cons value left ih =>
    cases right with
    | nil => simp [nonempty] at same
    | cons other right =>
      obtain ⟨rfl, rest⟩ := counted_append_inj (by simpa using same)
      rw [ih rest]

theorem decimal_append_inj {left right : Nat} {restLeft restRight : Bytes}
    (same : decimal left ++ (text "|" ++ restLeft) = decimal right ++ (text "|" ++ restRight)) :
    left = right ∧ restLeft = restRight := by
  rw [← List.append_assoc, ← List.append_assoc] at same
  have barFree (value : Nat) : (124 : UInt8) ∉ decimal value :=
    notMem_decimal value 124 (by decide)
  obtain ⟨numerals, rest⟩ := terminated_append_inj (barFree left) (barFree right) same
  exact ⟨decimal_injective numerals, rest⟩

theorem signedDecimal_append_inj {left right : Int} {restLeft restRight : Bytes}
    (same : signedDecimal left ++ (text "|" ++ restLeft) =
      signedDecimal right ++ (text "|" ++ restRight)) :
    left = right ∧ restLeft = restRight := by
  rw [← List.append_assoc, ← List.append_assoc] at same
  have barFree (value : Int) : (124 : UInt8) ∉ signedDecimal value :=
    notMem_signedDecimal value 124 (by decide) (by decide)
  obtain ⟨numerals, rest⟩ := terminated_append_inj (barFree left) (barFree right) same
  exact ⟨signedDecimal_injective numerals, rest⟩

end VdrSuite.Library.Netstring
