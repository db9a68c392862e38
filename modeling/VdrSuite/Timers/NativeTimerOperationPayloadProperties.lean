import VdrSuite.Timers.NativeTimerOperationPayload

/-! What the codecs of native timer operations keep: everything except the zeros before a time. -/

set_option autoImplicit false

namespace VdrSuite.Timers

open Library Agent

def NativeTimerSpecification.normalized (specification : NativeTimerSpecification) :
    NativeTimerSpecification :=
  { specification with
    startTime := normalizedHhmm specification.startTime
    endTime := normalizedHhmm specification.endTime }

def NativeTimerCreateOperationPayload.normalized (payload : NativeTimerCreateOperationPayload) :
    NativeTimerCreateOperationPayload :=
  { payload with expectedSpecification := payload.expectedSpecification.normalized }

def NativeTimerModifyOperationPayload.normalized (payload : NativeTimerModifyOperationPayload) :
    NativeTimerModifyOperationPayload :=
  { payload with expectedSpecification := payload.expectedSpecification.normalized }

/-! ## Specifications -/

section Specification

variable {specification : NativeTimerSpecification}

theorem nativeTimerSpecificationValid_times
    (valid : nativeTimerSpecificationValid specification = true) :
    validHhmm specification.startTime = true ∧ validHhmm specification.endTime = true := by
  simp only [nativeTimerSpecificationValid, Bool.and_eq_true] at valid
  exact ⟨valid.1.1.1.1.1.2, valid.1.1.1.1.2⟩

theorem nativeTimerSpecificationValid_normalized
    (valid : nativeTimerSpecificationValid specification = true) :
    nativeTimerSpecificationValid specification.normalized = true := by
  obtain ⟨start, ending⟩ := nativeTimerSpecificationValid_times valid
  simp only [nativeTimerSpecificationValid, NativeTimerSpecification.normalized, Bool.and_eq_true,
    start, ending, validHhmm_normalizedHhmm start, validHhmm_normalizedHhmm ending,
    and_true] at valid ⊢
  exact valid

theorem operationSpecificationFields_eq (specification : NativeTimerSpecification) :
    operationSpecificationFields specification =
      desiredSpecificationFields specification.normalized :=
  rfl

theorem NativeTimerSpecification.normalized_normalized
    (valid : nativeTimerSpecificationValid specification = true) :
    specification.normalized.normalized = specification.normalized := by
  obtain ⟨start, ending⟩ := nativeTimerSpecificationValid_times valid
  simp only [NativeTimerSpecification.normalized, normalizedHhmm_normalizedHhmm start,
    normalizedHhmm_normalizedHhmm ending]

theorem operationSpecificationFields_normalized
    (valid : nativeTimerSpecificationValid specification = true) :
    operationSpecificationFields specification.normalized =
      operationSpecificationFields specification := by
  rw [operationSpecificationFields_eq, operationSpecificationFields_eq,
    NativeTimerSpecification.normalized_normalized valid]

theorem length_operationSpecificationFields
    (valid : nativeTimerSpecificationValid specification = true) :
    ∀ field ∈ operationSpecificationFields specification, field.length ≤ Netstring.uint64Max :=
  length_le_of_mem_desiredFields (nativeTimerSpecificationValid_normalized valid)

theorem smallIntOfWidth_signedDecimal {width : Nat} {value : Int} (wide : 2 ≤ width)
    (nonneg : 0 ≤ value) (small : value ≤ 99) :
    smallIntOfWidth width (signedDecimal value) = some value := by
  obtain ⟨written, bound, back⟩ := signedDecimal_of_percent nonneg small
  have short := decimal_length_le value.toNat 1 (by omega)
  have nonempty : (decimal value.toNat).isEmpty = false := by simp [decimal_ne_nil]
  have digits : (decimal value.toNat).all isDigit = true :=
    List.all_eq_true.mpr (isDigit_of_mem_decimal value.toNat)
  rw [written, smallIntOfWidth, if_neg (by simp only [nonempty, digits]; simp; omega),
    digitsValue_decimal, if_neg (by omega), back]

theorem operationSpecificationOfFields_fields {width : Nat} (wide : 2 ≤ width)
    (valid : nativeTimerSpecificationValid specification = true) :
    operationSpecificationOfFields width (operationSpecificationFields specification) =
      some specification.normalized := by
  simp only [nativeTimerSpecificationValid, Bool.and_eq_true, decide_eq_true_eq] at valid
  obtain ⟨⟨⟨⟨-, priorityLower⟩, priorityUpper⟩, lifetimeLower⟩, lifetimeUpper⟩ := valid
  simp only [operationSpecificationFields, operationSpecificationOfFields,
    smallIntOfWidth_signedDecimal wide priorityLower priorityUpper,
    smallIntOfWidth_signedDecimal wide lifetimeLower lifetimeUpper,
    Netstring.parseBool_boolField, Option.bind_eq_bind, Option.bind_some]
  rfl

theorem unsignedValue_decimal {value : UInt64} (positive : value > 0) :
    unsignedValue (decimal value.toNat) = some value := by
  have bounded : value.toNat ≤ Netstring.uint64Max := by
    have := value.toNat_lt
    rw [Netstring.uint64Max]
    omega
  have nonzero : 0 < value.toNat := UInt64.lt_iff_toNat_lt.mp positive
  rw [unsignedValue, Netstring.parseUnsigned_decimal _ _ _ bounded fun _ => nonzero,
    Option.map_some, UInt64.ofNat_toNat]

theorem length_decimal_toNat (value : UInt64) :
    (decimal value.toNat).length ≤ Netstring.uint64Max := by
  have short := decimal_length_le value.toNat 19 (by have := value.toNat_lt; omega)
  rw [Netstring.uint64Max]
  omega

theorem length_of_nonEmptyBounded {value : Bytes} {maximum : Nat}
    (small : maximum ≤ Netstring.uint64Max) (valid : nonEmptyBounded value maximum = true) :
    value.length ≤ Netstring.uint64Max :=
  ((nonEmptyBounded_iff value maximum).mp valid).2.trans small

theorem length_of_validIdentity {value : Bytes} (valid : validIdentity value = true) :
    value.length ≤ Netstring.uint64Max :=
  length_of_nonEmptyBounded (by decide) valid

end Specification

/-! ## Create operations -/

section Create

variable {payload : NativeTimerCreateOperationPayload}

theorem createPayloadValid_normalized
    (valid : nativeTimerCreateOperationPayloadValid payload = true) :
    nativeTimerCreateOperationPayloadValid payload.normalized = true := by
  simp only [nativeTimerCreateOperationPayloadValid, Bool.and_eq_true] at valid
  obtain ⟨rest, specification⟩ := valid
  simp only [nativeTimerCreateOperationPayloadValid, NativeTimerCreateOperationPayload.normalized,
    Bool.and_eq_true]
  exact ⟨rest, nativeTimerSpecificationValid_normalized specification⟩

theorem createPayloadFields_normalized
    (valid : nativeTimerCreateOperationPayloadValid payload = true) :
    createPayloadFields payload.normalized = createPayloadFields payload := by
  simp only [nativeTimerCreateOperationPayloadValid, Bool.and_eq_true] at valid
  simp only [createPayloadFields, NativeTimerCreateOperationPayload.normalized,
    operationSpecificationFields_normalized valid.2]

theorem length_createPayloadFields
    (valid : nativeTimerCreateOperationPayloadValid payload = true) :
    ∀ field ∈ createPayloadFields payload, field.length ≤ Netstring.uint64Max := by
  simp only [nativeTimerCreateOperationPayloadValid, Bool.and_eq_true] at valid
  obtain ⟨⟨⟨⟨⟨⟨⟨assignment, revision⟩, intent⟩, -⟩, binding⟩, backend⟩, -⟩, specification⟩ := valid
  intro field member
  obtain own | inherited := List.mem_append.mp member
  · have bounds : ∀ field ∈ [payload.timerAssignmentId, payload.expectedAssignmentRevision,
        payload.expectedIntentRevision, decimal payload.assignmentEpoch.toNat,
        payload.nativeTimerBindingId, payload.backendId, decimal payload.backendGeneration.toNat],
        field.length ≤ Netstring.uint64Max := by
      simp only [List.forall_mem_cons, List.not_mem_nil, false_implies, implies_true, and_true,
        length_of_validIdentity assignment, length_of_validIdentity revision,
        length_of_validIdentity intent, length_of_validIdentity binding,
        length_of_validIdentity backend, length_decimal_toNat]
    exact bounds field own
  · exact length_operationSpecificationFields specification field inherited

theorem createPayloadOfFields_fields
    (valid : nativeTimerCreateOperationPayloadValid payload = true) :
    createPayloadOfFields (createPayloadFields payload) = some payload.normalized := by
  simp only [nativeTimerCreateOperationPayloadValid, Bool.and_eq_true, decide_eq_true_eq] at valid
  obtain ⟨⟨⟨⟨⟨⟨⟨-, -⟩, -⟩, epoch⟩, -⟩, -⟩, generation⟩, specification⟩ := valid
  simp only [createPayloadFields, List.cons_append, List.nil_append, createPayloadOfFields,
    unsignedValue_decimal epoch, unsignedValue_decimal generation,
    operationSpecificationOfFields_fields (by decide : 2 ≤ 3) specification, Option.bind_eq_bind,
    Option.bind_some]
  rfl

theorem createCanonicalBody_eq
    (valid : nativeTimerCreateOperationPayloadValid payload = true) :
    createCanonicalBody payload = Netstring.record (createPayloadFields payload) :=
  if_neg (by simp [valid])

theorem record_createPayloadFields_isEmpty (payload : NativeTimerCreateOperationPayload) :
    (Netstring.record (createPayloadFields payload)).isEmpty = false := by
  simp [createPayloadFields, Netstring.record, Netstring.field, text]

theorem serializeNativeTimerCreateOperationPayload_eq
    (valid : nativeTimerCreateOperationPayloadValid payload = true) :
    serializeNativeTimerCreateOperationPayload payload =
      createPayloadPrefix ++ Netstring.record (createPayloadFields payload) := by
  simp only [serializeNativeTimerCreateOperationPayload, createCanonicalBody_eq valid,
    record_createPayloadFields_isEmpty, Bool.false_eq_true, if_false]

theorem nativeTimerCreateOperationPayloadFingerprint_eq
    (valid : nativeTimerCreateOperationPayloadValid payload = true) :
    nativeTimerCreateOperationPayloadFingerprint payload =
      createFingerprintPrefix ++ Netstring.record (createPayloadFields payload) := by
  simp only [nativeTimerCreateOperationPayloadFingerprint, createCanonicalBody_eq valid,
    record_createPayloadFields_isEmpty, Bool.false_eq_true, if_false]

theorem nativeTimerCreateOperationPayload_exact :
    Codec.Exact nativeTimerCreateOperationPayloadValid NativeTimerCreateOperationPayload.normalized
      serializeNativeTimerCreateOperationPayload parseNativeTimerCreateOperationPayload := by
  apply Codec.exact_readCanonical
  case written =>
    intro payload valid _
    exact serializeNativeTimerCreateOperationPayload_eq valid
  case few => exact fun _ => Nat.le_refl 18
  case short => exact fun _ valid => length_createPayloadFields valid
  case back => exact fun _ valid => createPayloadOfFields_fields valid
  case normalValid => exact fun _ valid => createPayloadValid_normalized valid
  case normalText =>
    intro payload valid
    rw [serializeNativeTimerCreateOperationPayload_eq (createPayloadValid_normalized valid),
      serializeNativeTimerCreateOperationPayload_eq valid, createPayloadFields_normalized valid]

end Create

/-! ## Modify operations -/

section Modify

variable {payload : NativeTimerModifyOperationPayload}

theorem modifyPayloadValid_normalized
    (valid : nativeTimerModifyOperationPayloadValid payload = true) :
    nativeTimerModifyOperationPayloadValid payload.normalized = true := by
  simp only [nativeTimerModifyOperationPayloadValid, Bool.and_eq_true] at valid
  obtain ⟨rest, specification⟩ := valid
  simp only [nativeTimerModifyOperationPayloadValid, NativeTimerModifyOperationPayload.normalized,
    Bool.and_eq_true]
  exact ⟨rest, nativeTimerSpecificationValid_normalized specification⟩

theorem modifyPayloadFields_normalized
    (valid : nativeTimerModifyOperationPayloadValid payload = true) :
    modifyPayloadFields payload.normalized = modifyPayloadFields payload := by
  simp only [nativeTimerModifyOperationPayloadValid, Bool.and_eq_true] at valid
  simp only [modifyPayloadFields, NativeTimerModifyOperationPayload.normalized,
    operationSpecificationFields_normalized valid.2]

theorem length_modifyKindName (kind : NativeTimerModifyKind) :
    (nativeTimerModifyKindName kind).length ≤ Netstring.uint64Max := by
  cases kind <;> decide

theorem length_modifyPayloadFields
    (valid : nativeTimerModifyOperationPayloadValid payload = true) :
    ∀ field ∈ modifyPayloadFields payload, field.length ≤ Netstring.uint64Max := by
  simp only [nativeTimerModifyOperationPayloadValid, Bool.and_eq_true] at valid
  obtain ⟨⟨⟨⟨⟨⟨⟨⟨⟨⟨⟨-, assignment⟩, revision⟩, intent⟩, -⟩, binding⟩, bindingRevision⟩, backend⟩, -⟩,
    native⟩, fingerprint⟩, specification⟩ := valid
  have current : payload.expectedCurrentFingerprint.length ≤ Netstring.uint64Max :=
    length_of_nonEmptyBounded (by decide) fingerprint
  intro field member
  obtain own | inherited := List.mem_append.mp member
  · have bounds : ∀ field ∈ [nativeTimerModifyKindName payload.kind, payload.timerAssignmentId,
        payload.expectedAssignmentRevision, payload.expectedIntentRevision,
        decimal payload.assignmentEpoch.toNat, payload.nativeTimerBindingId,
        payload.expectedBindingRevision, payload.backendId,
        decimal payload.backendGeneration.toNat, payload.backendNativeTimerId,
        payload.expectedCurrentFingerprint], field.length ≤ Netstring.uint64Max := by
      simp only [List.forall_mem_cons, List.not_mem_nil, false_implies, implies_true, and_true,
        length_modifyKindName, length_of_validIdentity assignment,
        length_of_validIdentity revision, length_of_validIdentity intent,
        length_of_validIdentity binding, length_of_validIdentity bindingRevision,
        length_of_validIdentity backend, length_of_validIdentity native, current,
        length_decimal_toNat]
    exact bounds field own
  · exact length_operationSpecificationFields specification field inherited

theorem kindValue_name (kind : NativeTimerModifyKind) :
    kindValue (nativeTimerModifyKindName kind) = some kind := by
  cases kind <;> decide

theorem modifyPayloadOfFields_fields
    (valid : nativeTimerModifyOperationPayloadValid payload = true) :
    modifyPayloadOfFields (modifyPayloadFields payload) = some payload.normalized := by
  simp only [nativeTimerModifyOperationPayloadValid, Bool.and_eq_true, decide_eq_true_eq] at valid
  obtain ⟨⟨⟨⟨⟨⟨⟨⟨-, epoch⟩, -⟩, -⟩, -⟩, generation⟩, -⟩, -⟩, specification⟩ := valid
  simp only [modifyPayloadFields, List.cons_append, List.nil_append, modifyPayloadOfFields,
    kindValue_name, unsignedValue_decimal epoch, unsignedValue_decimal generation,
    operationSpecificationOfFields_fields (Nat.le_refl 2) specification, Option.bind_eq_bind,
    Option.bind_some]
  rfl

theorem modifyCanonical_eq (valid : nativeTimerModifyOperationPayloadValid payload = true) :
    modifyCanonical payload = Netstring.record (modifyPayloadFields payload) :=
  if_neg (by simp [valid])

theorem record_modifyPayloadFields_isEmpty (payload : NativeTimerModifyOperationPayload) :
    (Netstring.record (modifyPayloadFields payload)).isEmpty = false := by
  simp [modifyPayloadFields, Netstring.record, Netstring.field, text]

theorem serializeNativeTimerModifyOperationPayload_eq
    (valid : nativeTimerModifyOperationPayloadValid payload = true) :
    serializeNativeTimerModifyOperationPayload payload =
      modifyPayloadPrefix ++ Netstring.record (modifyPayloadFields payload) := by
  simp only [serializeNativeTimerModifyOperationPayload, modifyCanonical_eq valid,
    record_modifyPayloadFields_isEmpty, Bool.false_eq_true, if_false]

theorem nativeTimerModifyOperationPayloadFingerprint_eq
    (valid : nativeTimerModifyOperationPayloadValid payload = true) :
    nativeTimerModifyOperationPayloadFingerprint payload =
      modifyFingerprintPrefix ++ Netstring.record (modifyPayloadFields payload) := by
  simp only [nativeTimerModifyOperationPayloadFingerprint, modifyCanonical_eq valid,
    record_modifyPayloadFields_isEmpty, Bool.false_eq_true, if_false]

theorem nativeTimerModifyOperationPayload_exact :
    Codec.Exact nativeTimerModifyOperationPayloadValid NativeTimerModifyOperationPayload.normalized
      serializeNativeTimerModifyOperationPayload parseNativeTimerModifyOperationPayload := by
  apply Codec.exact_readCanonical
  case written =>
    intro payload valid _
    exact serializeNativeTimerModifyOperationPayload_eq valid
  case few => exact fun _ => Nat.le_refl 22
  case short => exact fun _ valid => length_modifyPayloadFields valid
  case back => exact fun _ valid => modifyPayloadOfFields_fields valid
  case normalValid => exact fun _ valid => modifyPayloadValid_normalized valid
  case normalText =>
    intro payload valid
    rw [serializeNativeTimerModifyOperationPayload_eq (modifyPayloadValid_normalized valid),
      serializeNativeTimerModifyOperationPayload_eq valid, modifyPayloadFields_normalized valid]

end Modify

/-! ## Command reservations -/

section Reference

variable {reference : NativeTimerCreateCommandReservationReference}

theorem serializeReference_cases
    (valid : nativeTimerCreateCommandReservationReferenceValid reference = true) :
    serializeNativeTimerCreateCommandReservationReference reference =
      if (referencePrefix ++ Netstring.record (referenceFields reference)).length ≤
          maxEvidenceReferenceLength then
        referencePrefix ++ Netstring.record (referenceFields reference)
      else [] :=
  if_neg (by simp [valid])

theorem serializeReference_length
    (reference : NativeTimerCreateCommandReservationReference) :
    (serializeNativeTimerCreateCommandReservationReference reference).length ≤
      maxEvidenceReferenceLength := by
  rw [serializeNativeTimerCreateCommandReservationReference]
  split
  case isTrue => exact Nat.zero_le _
  case isFalse =>
    dsimp only
    split
    case isTrue fits => exact fits
    case isFalse => exact Nat.zero_le _

theorem length_referenceFields
    (valid : nativeTimerCreateCommandReservationReferenceValid reference = true) :
    ∀ field ∈ referenceFields reference, field.length ≤ Netstring.uint64Max := by
  rw [nativeTimerCreateCommandReservationReferenceValid, Bool.and_eq_true] at valid
  have fingerprint : reference.requestFingerprint.length ≤ Netstring.uint64Max :=
    length_of_nonEmptyBounded (by decide) valid.2
  simp only [referenceFields, List.forall_mem_cons, List.not_mem_nil, false_implies, implies_true,
    and_true, length_of_validIdentity valid.1, fingerprint]

theorem canonicalReference_exact :
    Codec.Exact nativeTimerCreateCommandReservationReferenceValid id
      serializeNativeTimerCreateCommandReservationReference
      (Codec.readCanonical Netstring.uint64Max 2 referencePrefix referenceOfFields
        nativeTimerCreateCommandReservationReferenceValid
        serializeNativeTimerCreateCommandReservationReference) := by
  apply Codec.exact_readCanonical
  case written =>
    intro reference valid produced
    rw [serializeReference_cases valid] at produced ⊢
    split at produced
    case isTrue fits => exact if_pos fits
    case isFalse => exact absurd rfl produced
  case few => exact fun _ => Nat.le_refl 2
  case short => exact fun _ valid => length_referenceFields valid
  case back => exact fun _ _ => rfl
  case normalValid => exact fun _ valid => valid
  case normalText => exact fun _ _ => rfl

theorem nativeTimerCreateCommandReservationReference_exact :
    Codec.Exact nativeTimerCreateCommandReservationReferenceValid id
      serializeNativeTimerCreateCommandReservationReference
      parseNativeTimerCreateCommandReservationReference := by
  obtain ⟨reads, only, separates⟩ := canonicalReference_exact
  constructor
  · intro reference valid produced
    rw [parseNativeTimerCreateCommandReservationReference,
      if_neg (Nat.not_lt.mpr (serializeReference_length reference))]
    exact reads reference valid produced
  · intro encoded reference accepted
    rw [parseNativeTimerCreateCommandReservationReference] at accepted
    split at accepted
    case isTrue => cases accepted
    case isFalse => exact only encoded reference accepted
  · exact separates

end Reference

/-! ## Desired specifications -/

theorem desiredSpecification_parse_eq (encoded : Bytes) :
    parseTimerAssignmentDesiredNativeTimerSpecification encoded =
      Codec.readCanonical Netstring.uint64Max 11 desiredSpecificationHeading
        desiredSpecificationOfFields nativeTimerSpecificationValid
        serializeTimerAssignmentDesiredNativeTimerSpecification encoded := by
  simp only [parseTimerAssignmentDesiredNativeTimerSpecification, Codec.readCanonical]
  congr 1
  funext fields
  congr 1
  funext specification
  split
  case isTrue invalid => rw [if_pos (Or.inl invalid)]
  case isFalse valid =>
    split
    case isTrue same => rw [if_neg (by simp [valid, same])]
    case isFalse other => rw [if_pos (Or.inr other)]

theorem timerAssignmentDesiredNativeTimerSpecification_exact :
    Codec.Exact nativeTimerSpecificationValid id
      serializeTimerAssignmentDesiredNativeTimerSpecification
      parseTimerAssignmentDesiredNativeTimerSpecification := by
  rw [funext desiredSpecification_parse_eq]
  apply Codec.exact_readCanonical
  case written => exact fun _ valid _ => if_neg (by simp [valid])
  case few => exact fun _ => Nat.le_refl 11
  case short => exact fun _ valid => length_le_of_mem_desiredFields valid
  case back => exact fun _ valid => desiredSpecificationOfFields_fields valid
  case normalValid => exact fun _ valid => valid
  case normalText => exact fun _ _ => rfl

/-! ## All codecs -/

/-- Which valid values have a text: all of them, but for references that are too long for one. -/
structure TextsProduced : Prop where
  create : ∀ payload, nativeTimerCreateOperationPayloadValid payload = true →
    serializeNativeTimerCreateOperationPayload payload ≠ []
  modify : ∀ payload, nativeTimerModifyOperationPayloadValid payload = true →
    serializeNativeTimerModifyOperationPayload payload ≠ []
  reference : ∀ reference, nativeTimerCreateCommandReservationReferenceValid reference = true →
    (serializeNativeTimerCreateCommandReservationReference reference ≠ [] ↔
      (referencePrefix ++ Netstring.record (referenceFields reference)).length ≤
        maxEvidenceReferenceLength)
  desired : ∀ specification, nativeTimerSpecificationValid specification = true →
    serializeTimerAssignmentDesiredNativeTimerSpecification specification ≠ []

theorem texts_produced : TextsProduced := by
  constructor
  case create =>
    intro payload valid
    rw [serializeNativeTimerCreateOperationPayload_eq valid]
    simp [createPayloadPrefix, text]
  case modify =>
    intro payload valid
    rw [serializeNativeTimerModifyOperationPayload_eq valid]
    simp [modifyPayloadPrefix, text]
  case reference =>
    intro reference valid
    rw [serializeReference_cases valid]
    split
    case isTrue fits => exact iff_of_true (by simp [referencePrefix, text]) fits
    case isFalse long => exact iff_of_false (by simp) long
  case desired => exact fun _ valid => serialize_ne_nil valid

/-- The codecs of native timer operations are exact up to the zeros before a time, and so are the
fingerprints that are built from the same fields. -/
theorem native_timer_operation_codecs :
    TextsProduced ∧
    Codec.Exact nativeTimerCreateOperationPayloadValid NativeTimerCreateOperationPayload.normalized
      serializeNativeTimerCreateOperationPayload parseNativeTimerCreateOperationPayload ∧
    Codec.Separates nativeTimerCreateOperationPayloadValid
      NativeTimerCreateOperationPayload.normalized nativeTimerCreateOperationPayloadFingerprint ∧
    Codec.Exact nativeTimerModifyOperationPayloadValid NativeTimerModifyOperationPayload.normalized
      serializeNativeTimerModifyOperationPayload parseNativeTimerModifyOperationPayload ∧
    Codec.Separates nativeTimerModifyOperationPayloadValid
      NativeTimerModifyOperationPayload.normalized nativeTimerModifyOperationPayloadFingerprint ∧
    Codec.Exact nativeTimerCreateCommandReservationReferenceValid id
      serializeNativeTimerCreateCommandReservationReference
      parseNativeTimerCreateCommandReservationReference ∧
    Codec.Exact nativeTimerSpecificationValid id
      serializeTimerAssignmentDesiredNativeTimerSpecification
      parseTimerAssignmentDesiredNativeTimerSpecification ∧
    Codec.Separates nativeTimerSpecificationValid NativeTimerSpecification.normalized
      nativeTimerSpecificationFingerprint := by
  refine ⟨texts_produced, nativeTimerCreateOperationPayload_exact, ?_,
    nativeTimerModifyOperationPayload_exact, ?_,
    nativeTimerCreateCommandReservationReference_exact,
    timerAssignmentDesiredNativeTimerSpecification_exact, ?_⟩
  · exact Codec.separates_record (fun _ valid => nativeTimerCreateOperationPayloadFingerprint_eq valid)
      fun _ valid => createPayloadOfFields_fields valid
  · exact Codec.separates_record (fun _ valid => nativeTimerModifyOperationPayloadFingerprint_eq valid)
      fun _ valid => modifyPayloadOfFields_fields valid
  · exact Codec.separates_record (fun _ valid => if_neg (by simp [valid]))
      fun _ valid => operationSpecificationOfFields_fields (Nat.le_refl 2) valid

end VdrSuite.Timers
