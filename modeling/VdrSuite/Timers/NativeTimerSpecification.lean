import VdrSuite.Agent.NativeTimerCreatePayload

/-! Native timer specifications and the canonical text in which an assignment keeps the desired one. -/

set_option autoImplicit false

namespace VdrSuite.Timers

open Library Agent

structure NativeTimerSpecification where
  channelId : Bytes := []
  title : Bytes := []
  directory : Bytes := []
  day : Bytes := []
  weekdays : Bytes := text "-------"
  startTime : Bytes := []
  endTime : Bytes := []
  priority : Int := 50
  lifetime : Int := 99
  enabled : Bool := true
  vps : Bool := false
  deriving DecidableEq

def bounded (value : Bytes) (maximum : Nat) : Bool := value.length ≤ maximum

def nonEmptyBounded (value : Bytes) (maximum : Nat) : Bool :=
  !value.isEmpty && bounded value maximum

def validWeekdays (value : Bytes) : Bool :=
  value.length == 7 && value.all fun byte => byte == 45 || isAlphabetic byte

def nativeTimerSpecificationValid (specification : NativeTimerSpecification) : Bool :=
  nonEmptyBounded specification.channelId 160 &&
  bounded specification.title 1024 &&
  bounded specification.directory 1024 &&
  bounded specification.day 160 &&
  validWeekdays specification.weekdays &&
  validHhmm specification.startTime &&
  validHhmm specification.endTime &&
  decide (0 ≤ specification.priority) && decide (specification.priority ≤ 99) &&
  decide (0 ≤ specification.lifetime) && decide (specification.lifetime ≤ 99)

/-! ## The text of a desired specification -/

def desiredSpecificationHeading : Bytes := text "timer-assignment-native-specification/1|"

def desiredSpecificationFields (specification : NativeTimerSpecification) : List Bytes :=
  [specification.channelId, specification.title, specification.directory, specification.day,
    specification.weekdays, specification.startTime, specification.endTime,
    signedDecimal specification.priority, signedDecimal specification.lifetime,
    Netstring.boolField specification.enabled, Netstring.boolField specification.vps]

def serializeTimerAssignmentDesiredNativeTimerSpecification
    (specification : NativeTimerSpecification) : Bytes :=
  if nativeTimerSpecificationValid specification = false then []
  else desiredSpecificationHeading ++ Netstring.record (desiredSpecificationFields specification)

def desiredSpecificationOfFields : List Bytes → Option NativeTimerSpecification
  | [channelId, title, directory, day, weekdays, startTime, endTime, priority, lifetime, enabled,
      vps] => do
      let priority ← parseDecimal 99 priority
      let lifetime ← parseDecimal 99 lifetime
      let enabled ← Netstring.parseBool enabled
      let vps ← Netstring.parseBool vps
      some
        { channelId, title, directory, day, weekdays, startTime, endTime
          priority := (priority : Int), lifetime := (lifetime : Int), enabled, vps }
  | _ => none

def parseTimerAssignmentDesiredNativeTimerSpecification (encoded : Bytes) :
    Option NativeTimerSpecification := do
  let fields ← Netstring.readDocument Netstring.uint64Max 11 desiredSpecificationHeading encoded
  let specification ← desiredSpecificationOfFields fields
  if nativeTimerSpecificationValid specification = false then none
  else if serializeTimerAssignmentDesiredNativeTimerSpecification specification = encoded then
    some specification
  else none

/-! ## Round trip -/

theorem bounded_iff (value : Bytes) (maximum : Nat) :
    bounded value maximum = true ↔ value.length ≤ maximum :=
  decide_eq_true_iff

theorem nonEmptyBounded_iff (value : Bytes) (maximum : Nat) :
    nonEmptyBounded value maximum = true ↔ value ≠ [] ∧ value.length ≤ maximum := by
  simp [nonEmptyBounded, bounded_iff]

theorem length_le_of_validHhmm {value : Bytes} (valid : validHhmm value = true) :
    value.length ≤ 4 := by
  unfold validHhmm at valid
  split at valid
  · cases valid
  · next shape =>
    have := (not_or.mp (not_or.mp shape).2).1
    omega

theorem signedDecimal_of_percent {value : Int} (lower : 0 ≤ value) (upper : value ≤ 99) :
    signedDecimal value = decimal value.toNat ∧ value.toNat ≤ 99 ∧ ((value.toNat : Nat) : Int) = value :=
  ⟨signedDecimal_of_nonneg value lower, by omega, by omega⟩

theorem length_le_of_mem_desiredFields {specification : NativeTimerSpecification}
    (valid : nativeTimerSpecificationValid specification = true) :
    ∀ value ∈ desiredSpecificationFields specification, value.length ≤ Netstring.uint64Max := by
  simp only [nativeTimerSpecificationValid, Bool.and_eq_true, nonEmptyBounded_iff, bounded_iff,
    validWeekdays, beq_iff_eq, decide_eq_true_eq] at valid
  obtain ⟨⟨⟨⟨⟨⟨⟨⟨⟨⟨channelId, title⟩, directory⟩, day⟩, weekdays⟩, startTime⟩, endTime⟩,
    priorityLower⟩, priorityUpper⟩, lifetimeLower⟩, lifetimeUpper⟩ := valid
  have flag (value : Bool) : (Netstring.boolField value).length = 1 := by cases value <;> rfl
  have numeral (value : Int) (lower : 0 ≤ value) (upper : value ≤ 99) :
      (signedDecimal value).length ≤ 2 := by
    obtain ⟨written, small, -⟩ := signedDecimal_of_percent lower upper
    rw [written]
    exact decimal_length_le value.toNat 1 (by omega)
  have start := length_le_of_validHhmm startTime
  have stop := length_le_of_validHhmm endTime
  have first := numeral _ priorityLower priorityUpper
  have second := numeral _ lifetimeLower lifetimeUpper
  simp only [desiredSpecificationFields, List.forall_mem_cons, List.not_mem_nil, false_imp_iff,
    implies_true, and_true, flag, Netstring.uint64Max]
  omega

theorem desiredSpecificationOfFields_fields {specification : NativeTimerSpecification}
    (valid : nativeTimerSpecificationValid specification = true) :
    desiredSpecificationOfFields (desiredSpecificationFields specification) =
      some specification := by
  simp only [nativeTimerSpecificationValid, Bool.and_eq_true, decide_eq_true_eq] at valid
  obtain ⟨⟨⟨⟨-, priorityLower⟩, priorityUpper⟩, lifetimeLower⟩, lifetimeUpper⟩ := valid
  obtain ⟨priority, priorityBound, priorityBack⟩ :=
    signedDecimal_of_percent priorityLower priorityUpper
  obtain ⟨lifetime, lifetimeBound, lifetimeBack⟩ :=
    signedDecimal_of_percent lifetimeLower lifetimeUpper
  simp only [desiredSpecificationFields, desiredSpecificationOfFields, priority, lifetime,
    parseDecimal_decimal 99 _ priorityBound, parseDecimal_decimal 99 _ lifetimeBound,
    Netstring.parseBool_boolField, Option.bind_eq_bind, Option.bind_some, priorityBack, lifetimeBack]

theorem desiredSpecification_parse_serialize {specification : NativeTimerSpecification}
    (valid : nativeTimerSpecificationValid specification = true) :
    parseTimerAssignmentDesiredNativeTimerSpecification
      (serializeTimerAssignmentDesiredNativeTimerSpecification specification) =
        some specification := by
  have written : serializeTimerAssignmentDesiredNativeTimerSpecification specification =
      desiredSpecificationHeading ++
        Netstring.record (desiredSpecificationFields specification) :=
    if_neg (by simp [valid])
  have fields : Netstring.readDocument Netstring.uint64Max 11 desiredSpecificationHeading
      (desiredSpecificationHeading ++ Netstring.record (desiredSpecificationFields specification)) =
        some (desiredSpecificationFields specification) :=
    Netstring.readDocument_record _ _ _ _ (by simp [desiredSpecificationFields])
      (length_le_of_mem_desiredFields valid)
  simp only [parseTimerAssignmentDesiredNativeTimerSpecification, written, fields,
    desiredSpecificationOfFields_fields valid, Option.bind_eq_bind, Option.bind_some, valid,
    Bool.true_eq_false, if_false, if_true]

theorem serialize_ne_nil {specification : NativeTimerSpecification}
    (valid : nativeTimerSpecificationValid specification = true) :
    serializeTimerAssignmentDesiredNativeTimerSpecification specification ≠ [] := by
  rw [serializeTimerAssignmentDesiredNativeTimerSpecification, if_neg (by simp [valid])]
  simp [desiredSpecificationHeading, text]

end VdrSuite.Timers
