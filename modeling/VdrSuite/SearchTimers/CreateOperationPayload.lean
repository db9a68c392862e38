import VdrSuite.Library.Hex
import VdrSuite.Library.Netstring

/-! The stored request of a search timer creation: its validity, its text and its fingerprint. -/

set_option autoImplicit false

namespace VdrSuite.SearchTimers

open Library

structure SearchTimerCreateOperationPayload where
  name : Bytes := []
  query : Bytes := []
  active : Bool := true
  matchMode : Int := 0
  matchTolerance : Int := 0
  compareTitle : Bool := true
  compareSubtitle : Bool := false
  compareSummary : Bool := false
  marginStartMinutes : Int := 0
  marginStopMinutes : Int := 0
  deriving DecidableEq

def kPrefix : Bytes := text "searchtimer-create-payload/2|"

def kMaxText : Nat := 240

/-! ## Validity -/

def sequenceLength (first : UInt8) : Option Nat :=
  if 0xc2 ≤ first ∧ first ≤ 0xdf then some 2
  else if 0xe0 ≤ first ∧ first ≤ 0xef then some 3
  else if 0xf0 ≤ first ∧ first ≤ 0xf4 then some 4
  else none

def secondAllowed (first second : UInt8) : Bool :=
  !((first == 0xe0 && second < 0xa0) || (first == 0xed && 0x9f < second) ||
    (first == 0xf0 && second < 0x90) || (first == 0xf4 && 0x8f < second))

def safeUtf8Within : Nat → Bytes → Bool
  | _, [] => true
  | 0, _ => false
  | fuel + 1, first :: rest =>
    if 0x20 ≤ first ∧ first ≤ 0x7e then safeUtf8Within fuel rest
    else
      match sequenceLength first with
      | none => false
      | some count =>
        let following := rest.take (count - 1)
        following.length == count - 1 &&
        following.all (fun byte => 0x80 ≤ byte && byte ≤ 0xbf) &&
        following.head?.all (secondAllowed first) &&
        safeUtf8Within fuel (rest.drop (count - 1))

def safeUtf8Text (input : Bytes) : Bool :=
  !input.isEmpty && input.length ≤ kMaxText &&
  input.head? != some 32 && input.getLast? != some 32 &&
  safeUtf8Within input.length input

def allowedMode (mode : Int) : Bool :=
  mode == 0 || mode == 1 || mode == 2 || mode == 3 || mode == 5

def searchTimerCreateOperationPayloadValid (payload : SearchTimerCreateOperationPayload) : Bool :=
  safeUtf8Text payload.name &&
  safeUtf8Text payload.query && 2 ≤ payload.query.length &&
  allowedMode payload.matchMode &&
  0 ≤ payload.matchTolerance && payload.matchTolerance ≤ 3 &&
  (payload.matchMode == 5 || payload.matchTolerance == 0) &&
  (payload.compareTitle || payload.compareSubtitle || payload.compareSummary) &&
  0 ≤ payload.marginStartMinutes && payload.marginStartMinutes ≤ 1440 &&
  0 ≤ payload.marginStopMinutes && payload.marginStopMinutes ≤ 1440

/-! ## Text -/

def payloadFields (payload : SearchTimerCreateOperationPayload) : List Bytes :=
  [payload.name,
   payload.query,
   Netstring.boolField payload.active,
   signedDecimal payload.matchMode,
   signedDecimal payload.matchTolerance,
   Netstring.boolField payload.compareTitle,
   Netstring.boolField payload.compareSubtitle,
   Netstring.boolField payload.compareSummary,
   signedDecimal payload.marginStartMinutes,
   signedDecimal payload.marginStopMinutes]

def serializeSearchTimerCreateOperationPayload (payload : SearchTimerCreateOperationPayload) :
    Bytes :=
  if searchTimerCreateOperationPayloadValid payload then
    kPrefix ++ Netstring.record (payloadFields payload)
  else []

def parseDigit : Bytes → Option Int
  | [byte] => if isDigit byte then some (digitValue byte) else none
  | _ => none

def parseMargin (value : Bytes) : Option Int :=
  if value.isEmpty || 4 < value.length then none
  else
    match parseDecimal 1440 value with
    | none => none
    | some count => if decimal count = value then some count else none

def decodeFields : List Bytes → Option SearchTimerCreateOperationPayload
  | [name, query, active, matchMode, matchTolerance, compareTitle, compareSubtitle, compareSummary,
      marginStart, marginStop] => do
      let active ← Netstring.parseBool active
      let matchMode ← parseDigit matchMode
      let matchTolerance ← parseDigit matchTolerance
      let compareTitle ← Netstring.parseBool compareTitle
      let compareSubtitle ← Netstring.parseBool compareSubtitle
      let compareSummary ← Netstring.parseBool compareSummary
      let marginStartMinutes ← parseMargin marginStart
      let marginStopMinutes ← parseMargin marginStop
      some
        { name := name
          query := query
          active := active
          matchMode := matchMode
          matchTolerance := matchTolerance
          compareTitle := compareTitle
          compareSubtitle := compareSubtitle
          compareSummary := compareSummary
          marginStartMinutes := marginStartMinutes
          marginStopMinutes := marginStopMinutes }
  | _ => none

def parseSearchTimerCreateOperationPayload (serialized : Bytes) :
    Option SearchTimerCreateOperationPayload :=
  match Netstring.readDocument Netstring.uint64Max 10 kPrefix serialized with
  | none => none
  | some fields =>
    match decodeFields fields with
    | none => none
    | some decoded =>
      if serializeSearchTimerCreateOperationPayload decoded = serialized then some decoded
      else none

/-- `sha256` is the digest of the cryptographic library, `none` when it reports a failure. -/
def searchTimerCreateOperationPayloadFingerprint (sha256 : Bytes → Option Bytes)
    (payload : SearchTimerCreateOperationPayload) : Bytes :=
  let serialized := serializeSearchTimerCreateOperationPayload payload
  if serialized.isEmpty then []
  else
    match sha256 serialized with
    | none => []
    | some digest => text "sha256:" ++ Hex.encode digest

/-! ## Reading back -/

theorem parseDigit_signedDecimal {value : Int} (nonneg : 0 ≤ value) (small : value < 10) :
    parseDigit (signedDecimal value) = some value := by
  obtain ⟨count, rfl⟩ := Int.eq_ofNat_of_zero_le nonneg
  have below : count < 10 := by omega
  rw [signedDecimal_of_nonneg _ nonneg, Int.toNat_natCast, decimal_of_lt_ten count below, parseDigit,
    if_pos (isDigit_digitByte count below), digitValue_digitByte count below]

theorem parseMargin_signedDecimal {value : Int} (nonneg : 0 ≤ value) (bounded : value ≤ 1440) :
    parseMargin (signedDecimal value) = some value := by
  obtain ⟨count, rfl⟩ := Int.eq_ofNat_of_zero_le nonneg
  have below : count ≤ 1440 := by omega
  have short := decimal_length_le count 3 (by omega)
  have fits : ¬ 4 < (decimal count).length := by omega
  rw [signedDecimal_of_nonneg _ nonneg, Int.toNat_natCast, parseMargin,
    parseDecimal_decimal 1440 count below]
  simp [fits, decimal_ne_nil]

structure SmallNumbers (payload : SearchTimerCreateOperationPayload) : Prop where
  mode : 0 ≤ payload.matchMode ∧ payload.matchMode < 10
  tolerance : 0 ≤ payload.matchTolerance ∧ payload.matchTolerance < 10
  start : 0 ≤ payload.marginStartMinutes ∧ payload.marginStartMinutes ≤ 1440
  stop : 0 ≤ payload.marginStopMinutes ∧ payload.marginStopMinutes ≤ 1440

theorem smallNumbers_of_valid {payload : SearchTimerCreateOperationPayload}
    (valid : searchTimerCreateOperationPayloadValid payload = true) : SmallNumbers payload := by
  simp only [searchTimerCreateOperationPayloadValid, allowedMode, Bool.and_eq_true, Bool.or_eq_true,
    decide_eq_true_eq, beq_iff_eq] at valid
  constructor
  · omega
  · omega
  · omega
  · omega

theorem decodeFields_payloadFields {payload : SearchTimerCreateOperationPayload}
    (small : SmallNumbers payload) : decodeFields (payloadFields payload) = some payload := by
  simp only [payloadFields, decodeFields, Option.bind_eq_bind, Option.bind_some,
    Netstring.parseBool_boolField, parseDigit_signedDecimal small.mode.1 small.mode.2,
    parseDigit_signedDecimal small.tolerance.1 small.tolerance.2,
    parseMargin_signedDecimal small.start.1 small.start.2,
    parseMargin_signedDecimal small.stop.1 small.stop.2]

theorem length_payloadFields {payload : SearchTimerCreateOperationPayload}
    (valid : searchTimerCreateOperationPayloadValid payload = true) :
    ∀ value ∈ payloadFields payload, value.length ≤ kMaxText := by
  have small := smallNumbers_of_valid valid
  have short {number : Int} (nonneg : 0 ≤ number) (bounded : number ≤ 1440) :
      (signedDecimal number).length ≤ 4 := by
    rw [signedDecimal_of_nonneg _ nonneg]
    exact decimal_length_le _ 3 (by omega)
  simp only [searchTimerCreateOperationPayloadValid, safeUtf8Text, Bool.and_eq_true,
    decide_eq_true_eq] at valid
  have mode := short small.mode.1 (by have := small.mode.2; omega)
  have tolerance := short small.tolerance.1 (by have := small.tolerance.2; omega)
  have start := short small.start.1 small.start.2
  have stop := short small.stop.1 small.stop.2
  simp only [kMaxText] at valid ⊢
  simp only [payloadFields, List.forall_mem_cons, List.not_mem_nil, false_implies, implies_true,
    and_true, Netstring.boolField_length]
  omega

theorem parseSearchTimerCreateOperationPayload_eq_some_iff (serialized : Bytes)
    (payload : SearchTimerCreateOperationPayload) :
    parseSearchTimerCreateOperationPayload serialized = some payload ↔
      searchTimerCreateOperationPayloadValid payload = true ∧
        serialized = serializeSearchTimerCreateOperationPayload payload := by
  constructor
  · intro parsed
    unfold parseSearchTimerCreateOperationPayload at parsed
    split at parsed
    · cases parsed
    · next fields read =>
      split at parsed
      · cases parsed
      · next decoded decodedSome =>
        split at parsed
        · next same =>
          cases parsed
          refine ⟨?_, same.symm⟩
          by_contra invalid
          rw [serializeSearchTimerCreateOperationPayload, if_neg invalid] at same
          subst same
          cases read
        · cases parsed
  · rintro ⟨valid, rfl⟩
    have written : serializeSearchTimerCreateOperationPayload payload =
        kPrefix ++ Netstring.record (payloadFields payload) := if_pos valid
    have read : Netstring.readDocument Netstring.uint64Max 10 kPrefix
        (kPrefix ++ Netstring.record (payloadFields payload)) = some (payloadFields payload) := by
      apply Netstring.readDocument_record
      · exact Nat.le_refl 10
      · intro value member
        exact (length_payloadFields valid value member).trans (by decide)
    rw [parseSearchTimerCreateOperationPayload, written, read]
    simp only [decodeFields_payloadFields (smallNumbers_of_valid valid), written, if_true]

end VdrSuite.SearchTimers
