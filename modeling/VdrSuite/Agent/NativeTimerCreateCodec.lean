import VdrSuite.Agent.NativeResultEvidence

/-! Payloads and local states of timer creations: what is written is read back, and nothing else is
read. -/

set_option autoImplicit false

namespace VdrSuite.Agent

open Library

/-! ## Specifications -/

def BackendAgentNativeTimerCreateSpecification.normalized
    (specification : BackendAgentNativeTimerCreateSpecification) :
    BackendAgentNativeTimerCreateSpecification :=
  { specification with
    startTime := normalizedHhmm specification.startTime
    endTime := normalizedHhmm specification.endTime }

theorem validHhmm_spec {value : Bytes} (valid : validHhmm value = true) :
    value.length ≤ 4 ∧ value.all isDigit = true := by
  unfold validHhmm at valid
  split at valid
  · cases valid
  · rename_i shaped
    simp only [not_or, Bool.not_eq_false, Nat.not_lt] at shaped
    exact shaped.2

theorem length_normalizedHhmm {value : Bytes} (valid : validHhmm value = true) :
    (normalizedHhmm value).length = 4 := by
  have short := (validHhmm_spec valid).1
  simp only [normalizedHhmm, List.length_append, List.length_replicate]
  omega

theorem normalizedHhmm_normalizedHhmm {value : Bytes} (valid : validHhmm value = true) :
    normalizedHhmm (normalizedHhmm value) = normalizedHhmm value := by
  rw [normalizedHhmm, length_normalizedHhmm valid]
  rfl

theorem validHhmm_normalizedHhmm {value : Bytes} (valid : validHhmm value = true) :
    validHhmm (normalizedHhmm value) = true := by
  have long := length_normalizedHhmm valid
  have numeral : (normalizedHhmm value).all isDigit = true := by
    have zero : isDigit 48 = true := by decide
    simp [normalizedHhmm, List.all_append, List.all_replicate, zero, (validHhmm_spec valid).2]
  have nonempty : (normalizedHhmm value).isEmpty = false := by
    cases listed : normalizedHhmm value with
    | nil => simp [listed] at long
    | cons => rfl
  unfold validHhmm at valid ⊢
  rw [if_neg (by simp [nonempty, long, numeral]), normalizedHhmm_normalizedHhmm valid]
  split at valid
  · cases valid
  · exact valid

theorem specificationValid_times {specification : BackendAgentNativeTimerCreateSpecification}
    (valid : backendAgentNativeTimerCreateSpecificationValid specification = true) :
    validHhmm specification.startTime = true ∧ validHhmm specification.endTime = true := by
  simp only [backendAgentNativeTimerCreateSpecificationValid, Bool.and_eq_true] at valid
  exact ⟨valid.1.1.1.1.1.1.2, valid.1.1.1.1.1.2⟩

theorem specificationValid_normalized
    {specification : BackendAgentNativeTimerCreateSpecification}
    (valid : backendAgentNativeTimerCreateSpecificationValid specification = true) :
    backendAgentNativeTimerCreateSpecificationValid specification.normalized = true := by
  obtain ⟨start, ending⟩ := specificationValid_times valid
  simp only [backendAgentNativeTimerCreateSpecificationValid,
    BackendAgentNativeTimerCreateSpecification.normalized, Bool.and_eq_true,
    validHhmm_normalizedHhmm start, validHhmm_normalizedHhmm ending, and_true] at valid ⊢
  tauto

theorem specificationFields_normalized
    {specification : BackendAgentNativeTimerCreateSpecification}
    (valid : backendAgentNativeTimerCreateSpecificationValid specification = true) :
    specificationFields specification.normalized = specificationFields specification := by
  obtain ⟨start, ending⟩ := specificationValid_times valid
  simp only [specificationFields, BackendAgentNativeTimerCreateSpecification.normalized,
    normalizedHhmm_normalizedHhmm start, normalizedHhmm_normalizedHhmm ending]

theorem specificationFingerprint_normalized
    {specification : BackendAgentNativeTimerCreateSpecification}
    (valid : backendAgentNativeTimerCreateSpecificationValid specification = true) :
    backendAgentNativeTimerCreateSpecificationFingerprint specification.normalized =
      backendAgentNativeTimerCreateSpecificationFingerprint specification := by
  rw [backendAgentNativeTimerCreateSpecificationFingerprint,
    if_neg (by simp [specificationValid_normalized valid]), specificationFields_normalized valid,
    backendAgentNativeTimerCreateSpecificationFingerprint, if_neg (by simp [valid])]

theorem parseSmallInt_signedDecimal {value : Int} (nonneg : 0 ≤ value) (small : value ≤ 99) :
    parseSmallInt (signedDecimal value) = some value := by
  rw [parseSmallInt, signedDecimal_of_nonneg value nonneg,
    Netstring.parseUnsigned_decimal _ _ _ (by simp only [Netstring.uint64Max]; omega) (by simp)]
  dsimp only
  rw [if_neg (by omega), Int.toNat_of_nonneg nonneg]

theorem parseSpecification_fields {specification : BackendAgentNativeTimerCreateSpecification}
    (valid : backendAgentNativeTimerCreateSpecificationValid specification = true) :
    parseSpecification (specificationFields specification) = some specification.normalized := by
  simp only [backendAgentNativeTimerCreateSpecificationValid, Bool.and_eq_true,
    decide_eq_true_eq] at valid
  obtain ⟨⟨⟨⟨⟨-, priorityNonneg⟩, prioritySmall⟩, lifetimeNonneg⟩, lifetimeSmall⟩, -⟩ := valid
  simp only [specificationFields, parseSpecification, Option.bind_eq_bind, Option.bind_some,
    parseSmallInt_signedDecimal priorityNonneg prioritySmall,
    parseSmallInt_signedDecimal lifetimeNonneg lifetimeSmall,
    Netstring.parseBool_boolField]
  rfl

theorem length_specificationFields {specification : BackendAgentNativeTimerCreateSpecification}
    (valid : backendAgentNativeTimerCreateSpecificationValid specification = true) :
    ∀ value ∈ specificationFields specification, value.length ≤ 1024 := by
  obtain ⟨start, ending⟩ := specificationValid_times valid
  have startLength := length_normalizedHhmm start
  have endLength := length_normalizedHhmm ending
  simp only [backendAgentNativeTimerCreateSpecificationValid, backendAgentCommandSafeText,
    Bool.and_eq_true, decide_eq_true_eq, beq_iff_eq] at valid
  obtain ⟨⟨⟨⟨⟨⟨⟨⟨⟨⟨⟨⟨-, channelId⟩, title⟩, directory⟩, day⟩, weekdays⟩, -⟩, -⟩, priorityNonneg⟩,
    prioritySmall⟩, lifetimeNonneg⟩, lifetimeSmall⟩, -⟩ := valid
  have priority : (signedDecimal specification.priority).length ≤ 2 := by
    rw [signedDecimal_of_nonneg _ priorityNonneg]
    exact decimal_length_le _ 1 (by omega)
  have lifetime : (signedDecimal specification.lifetime).length ≤ 2 := by
    rw [signedDecimal_of_nonneg _ lifetimeNonneg]
    exact decimal_length_le _ 1 (by omega)
  have enabled := Netstring.boolField_length specification.enabled
  have vps := Netstring.boolField_length specification.vps
  simp only [specificationFields, List.forall_mem_cons, List.not_mem_nil, false_implies,
    implies_true, and_true]
  omega

/-! ## Selections -/

def SelectionRepresentable (selection : BackendAgentLocalProviderSelection) : Prop :=
  selection.ownershipGeneration ≤ Netstring.uint64Max ∧
  selection.providerGeneration ≤ Netstring.uint64Max ∧
  selection.capabilityRevision ≤ Netstring.uint64Max

theorem positiveUnsigned_decimal {value : Nat} (positive : 0 < value)
    (bounded : value ≤ Netstring.uint64Max) : positiveUnsigned (decimal value) = some value :=
  Netstring.parseUnsigned_decimal _ _ _ bounded fun _ => positive

theorem parseSelection_fields {selection : BackendAgentLocalProviderSelection}
    (valid : backendAgentLocalProviderValidSelection selection = true)
    (representable : SelectionRepresentable selection) :
    parseSelection positiveUnsigned (selectionFields selection) = some selection := by
  simp only [backendAgentLocalProviderValidSelection, Bool.and_eq_true, decide_eq_true_eq] at valid
  obtain ⟨⟨⟨⟨⟨-, ownership⟩, -⟩, generation⟩, revision⟩, -⟩ := valid
  simp only [selectionFields, parseSelection, Option.bind_eq_bind, Option.bind_some,
    positiveUnsigned_decimal ownership representable.1,
    positiveUnsigned_decimal generation representable.2.1,
    positiveUnsigned_decimal revision representable.2.2]

theorem length_decimal_uint64 {value : Nat} (bounded : value ≤ Netstring.uint64Max) :
    (decimal value).length ≤ 20 :=
  decimal_length_le value 19 (by simp only [Netstring.uint64Max] at bounded; omega)

theorem length_selectionFields {selection : BackendAgentLocalProviderSelection}
    (valid : backendAgentLocalProviderValidSelection selection = true)
    (representable : SelectionRepresentable selection) :
    ∀ value ∈ selectionFields selection, value.length ≤ 128 := by
  simp only [backendAgentLocalProviderValidSelection, Bool.and_eq_true, decide_eq_true_eq] at valid
  obtain ⟨⟨⟨⟨⟨⟨⟨⟨backend, domain⟩, provider⟩, kind⟩, -⟩, epoch⟩, -⟩, -⟩, capability⟩ := valid
  have ownership := length_decimal_uint64 representable.1
  have generation := length_decimal_uint64 representable.2.1
  have revision := length_decimal_uint64 representable.2.2
  have known : selection.providerKind.length ≤ 128 := by
    simp only [backendAgentLocalProviderKnownKind, Bool.or_eq_true, beq_iff_eq] at kind
    obtain (kind | kind) | kind := kind <;> rw [kind] <;> decide
  have backendLength := (safeIdentifier_spec _ backend).2.1
  have domainLength := (safeIdentifier_spec _ domain).2.1
  have providerLength := (safeIdentifier_spec _ provider).2.1
  have epochLength := (safeIdentifier_spec _ epoch).2.1
  have capabilityLength := (safeIdentifier_spec _ capability).2.1
  simp only [selectionFields, List.forall_mem_cons, List.not_mem_nil, false_implies, implies_true,
    and_true]
  omega

/-! ## Payloads -/

def BackendAgentNativeTimerCreatePayload.normalized
    (payload : BackendAgentNativeTimerCreatePayload) : BackendAgentNativeTimerCreatePayload :=
  { payload with specification := payload.specification.normalized }

def PayloadRepresentable (payload : BackendAgentNativeTimerCreatePayload) : Prop :=
  payload.assignmentEpoch ≤ Netstring.uint64Max ∧ payload.controlPlaneClaimedAt ≤ int64Max ∧
  SelectionRepresentable payload.localProviderSelection

def payloadFields (payload : BackendAgentNativeTimerCreatePayload) : List Bytes :=
  [payload.operationRevision, payload.timerAssignmentId, payload.expectedAssignmentRevision,
      payload.expectedIntentRevision, decimal payload.assignmentEpoch,
      payload.nativeTimerBindingId, signedDecimal payload.controlPlaneClaimedAt,
      payload.expectedSpecificationFingerprint] ++
    specificationFields payload.specification ++
    selectionFields payload.localProviderSelection

theorem payload_eq {payload : BackendAgentNativeTimerCreatePayload}
    (valid : backendAgentNativeTimerCreatePayloadValid payload = true) :
    backendAgentNativeTimerCreatePayload payload =
      text "native-timer-create-agent-payload/1|" ++ Netstring.record (payloadFields payload) :=
  if_neg (by simp [valid])

structure PayloadFacts (payload : BackendAgentNativeTimerCreatePayload) : Prop where
  operationRevision : safeIdentifier payload.operationRevision = true
  timerAssignmentId : safeIdentifier payload.timerAssignmentId = true
  expectedAssignmentRevision : safeIdentifier payload.expectedAssignmentRevision = true
  expectedIntentRevision : safeIdentifier payload.expectedIntentRevision = true
  assignmentEpoch : 0 < payload.assignmentEpoch
  nativeTimerBindingId : safeIdentifier payload.nativeTimerBindingId = true
  controlPlaneClaimedAt : 0 < payload.controlPlaneClaimedAt
  specification : backendAgentNativeTimerCreateSpecificationValid payload.specification = true
  fingerprint : payload.expectedSpecificationFingerprint =
    backendAgentNativeTimerCreateSpecificationFingerprint payload.specification
  selection : nativeTimerCreateExactProviderSelection payload.localProviderSelection = true

theorem payloadValid_iff {payload : BackendAgentNativeTimerCreatePayload} :
    backendAgentNativeTimerCreatePayloadValid payload = true ↔ PayloadFacts payload := by
  simp only [backendAgentNativeTimerCreatePayloadValid, backendAgentCommandSafeIdentifier,
    Bool.and_eq_true, decide_eq_true_eq, beq_iff_eq]
  constructor
  · rintro ⟨⟨⟨⟨⟨⟨⟨⟨⟨operation, assignment⟩, assignmentRevision⟩, intent⟩, epoch⟩, binding⟩, claimed⟩,
      specification⟩, fingerprint⟩, selection⟩
    exact ⟨operation, assignment, assignmentRevision, intent, epoch, binding, claimed,
      specification, fingerprint, selection⟩
  · intro facts
    exact ⟨⟨⟨⟨⟨⟨⟨⟨⟨facts.operationRevision, facts.timerAssignmentId⟩,
      facts.expectedAssignmentRevision⟩, facts.expectedIntentRevision⟩, facts.assignmentEpoch⟩,
      facts.nativeTimerBindingId⟩, facts.controlPlaneClaimedAt⟩, facts.specification⟩,
      facts.fingerprint⟩, facts.selection⟩

theorem PayloadFacts.normalized {payload : BackendAgentNativeTimerCreatePayload}
    (facts : PayloadFacts payload) : PayloadFacts payload.normalized :=
  { facts with
    specification := specificationValid_normalized facts.specification
    fingerprint :=
      facts.fingerprint.trans (specificationFingerprint_normalized facts.specification).symm }

theorem payload_normalized {payload : BackendAgentNativeTimerCreatePayload}
    (valid : backendAgentNativeTimerCreatePayloadValid payload = true) :
    backendAgentNativeTimerCreatePayload payload.normalized =
      backendAgentNativeTimerCreatePayload payload := by
  have facts := (payloadValid_iff).mp valid
  rw [payload_eq ((payloadValid_iff).mpr facts.normalized), payload_eq valid]
  simp only [payloadFields, BackendAgentNativeTimerCreatePayload.normalized,
    specificationFields_normalized facts.specification]

theorem exactSelection_valid {selection : BackendAgentLocalProviderSelection}
    (exact : nativeTimerCreateExactProviderSelection selection = true) :
    backendAgentLocalProviderValidSelection selection = true := by
  simp only [nativeTimerCreateExactProviderSelection, exactProviderSelection,
    Bool.and_eq_true] at exact
  exact exact.1.1.1.1

theorem length_fingerprint {specification : BackendAgentNativeTimerCreateSpecification}
    (valid : backendAgentNativeTimerCreateSpecificationValid specification = true) :
    (backendAgentNativeTimerCreateSpecificationFingerprint specification).length ≤ 16384 := by
  rw [backendAgentNativeTimerCreateSpecificationFingerprint, if_neg (by simp [valid])]
  have fields := Netstring.length_record_le (by omega) (length_specificationFields valid)
  have heading : (text "native-timer-specification/1|").length = 29 := by decide
  have count : (specificationFields specification).length = 11 := rfl
  rw [List.length_append, heading]
  rw [count] at fields
  omega

theorem length_payloadFields {payload : BackendAgentNativeTimerCreatePayload}
    (facts : PayloadFacts payload) (representable : PayloadRepresentable payload) :
    ∀ value ∈ payloadFields payload, value.length ≤ 16384 := by
  obtain ⟨epochFits, claimedFits, selectionFits⟩ := representable
  have operation := (safeIdentifier_spec _ facts.operationRevision).2.1
  have assignment := (safeIdentifier_spec _ facts.timerAssignmentId).2.1
  have assignmentRevision := (safeIdentifier_spec _ facts.expectedAssignmentRevision).2.1
  have intent := (safeIdentifier_spec _ facts.expectedIntentRevision).2.1
  have binding := (safeIdentifier_spec _ facts.nativeTimerBindingId).2.1
  have epoch := length_decimal_uint64 epochFits
  have claimed : (signedDecimal payload.controlPlaneClaimedAt).length ≤ 20 := by
    rw [signedDecimal_of_nonneg _ facts.controlPlaneClaimedAt.le]
    refine length_decimal_uint64 ?_
    simp only [int64Max, Netstring.uint64Max] at claimedFits ⊢
    omega
  have fingerprint := length_fingerprint facts.specification
  rw [← facts.fingerprint] at fingerprint
  have specification := length_specificationFields facts.specification
  have selection := length_selectionFields (exactSelection_valid facts.selection) selectionFits
  simp only [payloadFields, List.forall_mem_append, List.forall_mem_cons, List.not_mem_nil,
    false_implies, implies_true, and_true]
  refine ⟨⟨by omega, fun value member => ?_⟩, fun value member => ?_⟩
  · exact (specification value member).trans (by omega)
  · exact (selection value member).trans (by omega)

theorem parsePayload_payload {payload : BackendAgentNativeTimerCreatePayload}
    (valid : backendAgentNativeTimerCreatePayloadValid payload = true)
    (representable : PayloadRepresentable payload) :
    backendAgentNativeTimerCreateParsePayload (backendAgentNativeTimerCreatePayload payload) =
      some payload.normalized := by
  have facts := (payloadValid_iff).mp valid
  have readable : Netstring.readDocument Netstring.uint64Max 28
      (text "native-timer-create-agent-payload/1|")
      (text "native-timer-create-agent-payload/1|" ++ Netstring.record (payloadFields payload)) =
      some (payloadFields payload) := by
    refine Netstring.readDocument_record _ _ _ _ (le_refl 28) ?_
    intro value member
    exact (length_payloadFields facts representable value member).trans
      (by simp only [Netstring.uint64Max]; omega)
  obtain ⟨epochFits, claimedFits, selectionFits⟩ := representable
  have specification := parseSpecification_fields facts.specification
  have selection := parseSelection_fields (exactSelection_valid facts.selection) selectionFits
  have same := payload_normalized valid
  have normalized := (payloadValid_iff).mpr facts.normalized
  rw [backendAgentNativeTimerCreateParsePayload, payload_eq valid, readable]
  have taken : (specificationFields payload.specification ++
      selectionFields payload.localProviderSelection).take 11 =
      specificationFields payload.specification := List.take_left' rfl
  have dropped : (specificationFields payload.specification ++
      selectionFields payload.localProviderSelection).drop 11 =
      selectionFields payload.localProviderSelection := List.drop_left' rfl
  simp only [payloadFields, List.cons_append, List.nil_append, taken, dropped, specification,
    selection, positiveUnsigned_decimal facts.assignmentEpoch epochFits,
    parseTime_signedDecimal true _ facts.controlPlaneClaimedAt.le claimedFits
      (fun _ => facts.controlPlaneClaimedAt), Option.bind_eq_bind, Option.bind_some]
  have written : backendAgentNativeTimerCreatePayload payload.normalized =
      text "native-timer-create-agent-payload/1|" ++ Netstring.record (payloadFields payload) :=
    same.trans (payload_eq valid)
  refine if_neg (not_or.mpr ⟨?_, not_not.mpr written⟩)
  exact fun refused => absurd (normalized.symm.trans refused) (by decide)

theorem payload_of_parsePayload {encoded : Bytes} {payload : BackendAgentNativeTimerCreatePayload}
    (parsed : backendAgentNativeTimerCreateParsePayload encoded = some payload) :
    backendAgentNativeTimerCreatePayload payload = encoded := by
  unfold backendAgentNativeTimerCreateParsePayload at parsed
  split at parsed
  · simp only [Option.bind_eq_bind, Option.bind_eq_some_iff] at parsed
    obtain ⟨_, -, _, -, _, -, _, -, checked⟩ := parsed
    split at checked
    · cases checked
    · rename_i canonical
      cases checked
      exact not_not.mp (not_or.mp canonical).2
  · cases parsed

/-! ## Local states -/

def LocalStateRepresentable (state : BackendAgentNativeTimerCreateLocalState) : Prop :=
  PayloadRepresentable (nativeTimerCreatePayloadFromCommand state.command) ∧
  state.command.claimEpoch ≤ Netstring.uint64Max ∧
  state.command.backendGeneration ≤ Netstring.uint64Max ∧
  state.localStartingPersistedAt ≤ int64Max ∧ state.evidence.completedAt ≤ int64Max

def durableState (state : BackendAgentNativeTimerCreateLocalState) :
    BackendAgentNativeTimerCreateLocalState :=
  match state.phase with
  | .starting => { state with evidence := { identity := {} } }
  | .completed => state

def envelopeFields (state : BackendAgentNativeTimerCreateLocalState) : List Bytes :=
  [phaseName state.phase,
    backendAgentNativeTimerCreatePayload (nativeTimerCreatePayloadFromCommand state.command),
    state.command.commandId, state.command.requestFingerprint, state.command.operationId,
    state.command.jobId, state.command.attemptId, decimal state.command.claimEpoch,
    state.command.backendId, state.command.agentId, state.command.agentInstanceId,
    decimal state.command.backendGeneration, signedDecimal state.localStartingPersistedAt]

def durableEvidenceFields (state : BackendAgentNativeTimerCreateLocalState) : List Bytes :=
  match state.phase with
  | .starting => []
  | .completed =>
    [outcomeName state.evidence.outcome, signedDecimal state.evidence.dispatchStartedAt,
      signedDecimal state.evidence.completedAt, state.evidence.evidenceReference]

def localStateText (state : BackendAgentNativeTimerCreateLocalState) : Bytes :=
  text "native-timer-create-local-state/1|" ++
    Netstring.record (envelopeFields state ++ durableEvidenceFields state)

theorem serialize_eq {state : BackendAgentNativeTimerCreateLocalState}
    (valid : backendAgentNativeTimerCreateLocalStateValid state = .ok ()) :
    backendAgentNativeTimerCreateSerializeLocalState state =
      if backendAgentNativeTimerCreatePayload
          (nativeTimerCreatePayloadFromCommand state.command) = [] then
        .error "invalid_native_timer_create_local_state_payload"
      else if (localStateText state).length > 32768 then
        .error "native_timer_create_local_state_too_large"
      else .ok (localStateText state) := by
  unfold backendAgentNativeTimerCreateSerializeLocalState
  rw [valid]
  rfl

theorem serialize_eq_ok {state : BackendAgentNativeTimerCreateLocalState} {encoded : Bytes}
    (serialized : backendAgentNativeTimerCreateSerializeLocalState state = .ok encoded) :
    backendAgentNativeTimerCreateLocalStateValid state = .ok () ∧
      encoded = localStateText state ∧ encoded.length ≤ 32768 := by
  cases valid : backendAgentNativeTimerCreateLocalStateValid state with
  | error reason =>
    rw [backendAgentNativeTimerCreateSerializeLocalState, valid] at serialized
    cases serialized
  | ok done =>
    rw [serialize_eq valid] at serialized
    split at serialized
    · cases serialized
    · split at serialized
      · cases serialized
      · rename_i fits
        cases serialized
        exact ⟨rfl, rfl, Nat.not_lt.mp fits⟩

theorem localStateValid_spec {state : BackendAgentNativeTimerCreateLocalState}
    (valid : backendAgentNativeTimerCreateLocalStateValid state = .ok ()) :
    state.schemaVersion = 1 ∧ backendAgentNativeTimerCreateValidCommand state.command = true ∧
      0 < state.localStartingPersistedAt ∧
      (state.phase = .completed →
        backendAgentNativeTimerCreateEvidenceMatches state.evidence state.command = true ∧
        state.evidence.localStartingPersistedAt = state.localStartingPersistedAt) := by
  unfold backendAgentNativeTimerCreateLocalStateValid at valid
  split at valid
  · cases valid
  · rename_i contract
    simp only [not_or, not_not, Bool.not_eq_false, not_le] at contract
    refine ⟨contract.1, contract.2.1, contract.2.2.1, ?_⟩
    intro completed
    rw [completed] at valid
    dsimp only at valid
    split at valid
    · cases valid
    · rename_i evidence
      simpa [not_or] using evidence

theorem payloadValid_of_command {command : BackendAgentNativeTimerCreateCommand}
    (valid : backendAgentNativeTimerCreateValidCommand command = true) :
    backendAgentNativeTimerCreatePayloadValid (nativeTimerCreatePayloadFromCommand command) = true ∧
      0 < command.claimEpoch ∧ 0 < command.backendGeneration := by
  simp only [backendAgentNativeTimerCreateValidCommand, backendAgentCommandSafeIdentifier,
    Bool.and_eq_true, decide_eq_true_eq, Bool.not_eq_true', beq_iff_eq] at valid
  obtain ⟨⟨⟨⟨⟨⟨⟨⟨⟨⟨⟨⟨⟨⟨⟨⟨⟨⟨⟨⟨-, -⟩, -⟩, operationRevision⟩, timerAssignmentId⟩, assignmentRevision⟩,
    intentRevision⟩, assignmentEpoch⟩, binding⟩, written⟩, fingerprint⟩, -⟩, -⟩, claimEpoch⟩, -⟩, -⟩,
    -⟩, backendGeneration⟩, claimedAt⟩, selection⟩, -⟩ := valid
  have specification :
      backendAgentNativeTimerCreateSpecificationValid command.specification = true := by
    by_contra invalid
    rw [backendAgentNativeTimerCreateSpecificationFingerprint,
      if_pos (Bool.not_eq_true _ ▸ invalid)] at written
    cases written
  refine ⟨(payloadValid_iff).mpr ?_, claimEpoch, backendGeneration⟩
  exact ⟨operationRevision, timerAssignmentId, assignmentRevision, intentRevision, assignmentEpoch,
    binding, claimedAt, specification, fingerprint, selection⟩

theorem parsePhase_phaseName (phase : NativeLocalPhase) :
    parsePhase (phaseName phase) = some phase := by
  cases phase <;> decide

theorem parseEvidence_fields {state : BackendAgentNativeTimerCreateLocalState}
    (valid : backendAgentNativeTimerCreateLocalStateValid state = .ok ())
    (bounded : state.evidence.completedAt ≤ int64Max) :
    parseNativeTimerCreateEvidence state.phase state.command state.localStartingPersistedAt
      (durableEvidenceFields state) = some (durableState state).evidence := by
  obtain ⟨-, -, -, completion⟩ := localStateValid_spec valid
  unfold durableEvidenceFields durableState
  cases phase : state.phase with
  | starting => rfl
  | completed =>
    obtain ⟨fits, started⟩ := completion phase
    have times := nativeTimerCreate_evidenceTimes fits bounded
    simp only [backendAgentNativeTimerCreateEvidenceMatches, Bool.and_eq_true, beq_iff_eq] at fits
    obtain ⟨⟨⟨⟨⟨⟨⟨-, identity⟩, -⟩, -⟩, -⟩, -⟩, -⟩, reference⟩ := fits
    have dispatchedBefore := times.dispatchedBefore
    have startedBefore := times.startedBefore
    have startedPositive := times.started
    simp only [parseNativeTimerCreateEvidence, parseOutcome_outcomeName,
      parseTime_signedDecimal false _ times.dispatched (by omega) (by simp),
      parseTime_signedDecimal true state.evidence.completedAt (by omega) bounded
        (fun _ => by omega), Option.bind_eq_bind, Option.bind_some, reference,
      Bool.true_eq_false, if_false, ← identity, ← started]

theorem localStateValid_durable {state : BackendAgentNativeTimerCreateLocalState}
    (valid : backendAgentNativeTimerCreateLocalStateValid state = .ok ()) :
    backendAgentNativeTimerCreateLocalStateValid (durableState state) = .ok () := by
  unfold durableState
  cases phase : state.phase with
  | starting =>
    unfold backendAgentNativeTimerCreateLocalStateValid at valid ⊢
    rw [phase] at valid
    dsimp only at valid ⊢
    split at valid
    · cases valid
    · rename_i contract
      rw [if_neg contract]
      rfl
  | completed => exact valid

theorem serialize_durable {state : BackendAgentNativeTimerCreateLocalState} {encoded : Bytes}
    (serialized : backendAgentNativeTimerCreateSerializeLocalState state = .ok encoded) :
    backendAgentNativeTimerCreateSerializeLocalState (durableState state) = .ok encoded := by
  obtain ⟨valid, -, -⟩ := serialize_eq_ok serialized
  have sameCommand : (durableState state).command = state.command := by
    unfold durableState
    cases state.phase <;> rfl
  have sameText : localStateText (durableState state) = localStateText state := by
    unfold durableState localStateText envelopeFields durableEvidenceFields
    cases phase : state.phase with
    | starting => rfl
    | completed => simp only [phase]
  rw [serialize_eq (localStateValid_durable valid), sameCommand, sameText, ← serialize_eq valid]
  exact serialized

/-- A written local state is read back, up to the evidence that a starting state does not have. -/
theorem parseLocalState_serialized {state : BackendAgentNativeTimerCreateLocalState}
    {encoded : Bytes}
    (serialized : backendAgentNativeTimerCreateSerializeLocalState state = .ok encoded)
    (representable : LocalStateRepresentable state)
    (normalized : state.command.specification.normalized = state.command.specification) :
    backendAgentNativeTimerCreateParseLocalState encoded = some (durableState state) := by
  obtain ⟨valid, shape, short⟩ := serialize_eq_ok serialized
  obtain ⟨schema, commandValid, started, -⟩ := localStateValid_spec valid
  obtain ⟨payloadValid, claimEpoch, backendGeneration⟩ := payloadValid_of_command commandValid
  obtain ⟨payloadFits, claimEpochFits, generationFits, startedFits, completedFits⟩ := representable
  have payload := parsePayload_payload payloadValid payloadFits
  have same : (nativeTimerCreatePayloadFromCommand state.command).normalized =
      nativeTimerCreatePayloadFromCommand state.command := by
    simp only [BackendAgentNativeTimerCreatePayload.normalized,
      nativeTimerCreatePayloadFromCommand, normalized]
  rw [same] at payload
  have evidence := parseEvidence_fields valid completedFits
  have readable : Netstring.readDocument Netstring.uint64Max 17
      (text "native-timer-create-local-state/1|") encoded =
      some (envelopeFields state ++ durableEvidenceFields state) := by
    rw [shape, localStateText]
    refine Netstring.readDocument_record _ _ _ _ ?_ ?_
    · unfold durableEvidenceFields
      cases state.phase <;> simp [envelopeFields]
    · intro value member
      have inside := Netstring.length_le_of_mem_fields member
      rw [shape, localStateText, List.length_append] at short
      simp only [Netstring.uint64Max]
      omega
  have durable : durableState state =
      { phase := state.phase, command := state.command
        localStartingPersistedAt := state.localStartingPersistedAt
        evidence := (durableState state).evidence } := by
    unfold durableState
    cases phase : state.phase <;> simp [← phase, ← schema]
  have written := serialize_durable serialized
  rw [backendAgentNativeTimerCreateParseLocalState, if_neg (Nat.not_lt.mpr short), readable]
  simp only [envelopeFields, List.cons_append, List.nil_append, parsePhase_phaseName, payload,
    positiveUnsigned_decimal claimEpoch claimEpochFits,
    positiveUnsigned_decimal backendGeneration generationFits,
    parseTime_signedDecimal true _ started.le startedFits (fun _ => started),
    Option.bind_eq_bind, Option.bind_some]
  change (parseNativeTimerCreateEvidence state.phase state.command state.localStartingPersistedAt
    (durableEvidenceFields state)).bind _ = _
  rw [evidence, Option.bind_some]
  rw [durable] at written
  simp only [nativeTimerCreateEnvelope, nativeTimerCreatePayloadFromCommand]
  rw [written]
  simp only [if_true]
  exact congrArg some durable.symm

theorem serialize_of_parseLocalState {encoded : Bytes}
    {state : BackendAgentNativeTimerCreateLocalState}
    (parsed : backendAgentNativeTimerCreateParseLocalState encoded = some state) :
    backendAgentNativeTimerCreateSerializeLocalState state = .ok encoded := by
  unfold backendAgentNativeTimerCreateParseLocalState at parsed
  split at parsed
  · cases parsed
  · split at parsed
    · simp only [Option.bind_eq_bind, Option.bind_eq_some_iff] at parsed
      obtain ⟨_, -, _, -, _, -, _, -, _, -, _, -, checked⟩ := parsed
      split at checked
      · cases checked
      · rename_i canonical serialized
        split at checked
        · rename_i same
          cases checked
          rw [serialized, same]
        · cases checked
    · cases parsed

theorem serialize_of_fits {state : BackendAgentNativeTimerCreateLocalState}
    (valid : backendAgentNativeTimerCreateLocalStateValid state = .ok ())
    (fits : (localStateText state).length ≤ 32768) :
    backendAgentNativeTimerCreateSerializeLocalState state = .ok (localStateText state) := by
  obtain ⟨-, commandValid, -, -⟩ := localStateValid_spec valid
  have nonempty : backendAgentNativeTimerCreatePayload
      (nativeTimerCreatePayloadFromCommand state.command) ≠ [] := by
    rw [payload_eq (payloadValid_of_command commandValid).1]
    exact List.append_ne_nil_of_left_ne_nil (by decide) _
  rw [serialize_eq valid, if_neg nonempty, if_neg (Nat.not_lt.mpr fits)]

/-- Payloads and local states of timer creations are read exactly as they are written. -/
theorem nativeTimerCreate_codec {payload : BackendAgentNativeTimerCreatePayload}
    {state : BackendAgentNativeTimerCreateLocalState}
    (payloadValid : backendAgentNativeTimerCreatePayloadValid payload = true)
    (payloadFits : PayloadRepresentable payload)
    (stateValid : backendAgentNativeTimerCreateLocalStateValid state = .ok ())
    (stateFits : LocalStateRepresentable state)
    (normalized : state.command.specification.normalized = state.command.specification)
    (short : (localStateText state).length ≤ 32768) :
    backendAgentNativeTimerCreateParsePayload (backendAgentNativeTimerCreatePayload payload) =
        some payload.normalized ∧
      (∀ encoded parsed, backendAgentNativeTimerCreateParsePayload encoded = some parsed →
        backendAgentNativeTimerCreatePayload parsed = encoded) ∧
      (∃ encoded, backendAgentNativeTimerCreateSerializeLocalState state = .ok encoded ∧
        backendAgentNativeTimerCreateParseLocalState encoded = some (durableState state)) ∧
      (∀ encoded parsed, backendAgentNativeTimerCreateParseLocalState encoded = some parsed →
        backendAgentNativeTimerCreateSerializeLocalState parsed = .ok encoded) := by
  refine ⟨parsePayload_payload payloadValid payloadFits, fun _ _ => payload_of_parsePayload, ?_,
    fun _ _ => serialize_of_parseLocalState⟩
  have serialized := serialize_of_fits stateValid short
  exact ⟨_, serialized, parseLocalState_serialized serialized stateFits normalized⟩

def morningTimer (startTime : String) : BackendAgentNativeTimerCreateSpecification :=
  { channelId := text "C-1-2-3"
    title := text "News|4:late"
    day := text "2026-01-01"
    startTime := text startTime
    endTime := text "1015" }

def morningSelection : BackendAgentLocalProviderSelection :=
  { backendId := text "backend-1"
    authorityDomain := text "vdr.timer"
    providerId := text "suitebridge:local"
    providerKind := text "suitebridge"
    ownershipGeneration := 1
    providerInstanceEpoch := text "epoch-1"
    providerGeneration := 1
    capabilityRevision := 1
    requiredCapability := text "vdr.timer.create" }

def morningPayload (startTime : String) : BackendAgentNativeTimerCreatePayload :=
  { operationRevision := text "revision-1"
    timerAssignmentId := text "timer-1"
    expectedAssignmentRevision := text "revision-1"
    expectedIntentRevision := text "revision-1"
    assignmentEpoch := 1
    nativeTimerBindingId := text "binding-1"
    controlPlaneClaimedAt := 5
    expectedSpecificationFingerprint :=
      backendAgentNativeTimerCreateSpecificationFingerprint (morningTimer startTime)
    specification := morningTimer startTime
    localProviderSelection := morningSelection }

def morningState (outcome : NativeOutcomeCategory) : BackendAgentNativeTimerCreateLocalState :=
  { command :=
      nativeTimerCreateEnvelope (text "command-1") (text "fingerprint-1") (text "operation-1")
        (text "job-1") (text "attempt-1") 1 (text "backend-1") (text "agent-1")
        (text "instance-1") 1 (morningPayload "0930")
    localStartingPersistedAt := 6
    evidence := { identity := {}, outcome } }

theorem nativeTimerCreate_codec_morning :
    backendAgentNativeTimerCreateParsePayload
        (backendAgentNativeTimerCreatePayload (morningPayload "930")) =
        some (morningPayload "930").normalized ∧
      (∀ encoded parsed, backendAgentNativeTimerCreateParsePayload encoded = some parsed →
        backendAgentNativeTimerCreatePayload parsed = encoded) ∧
      (∃ encoded,
        backendAgentNativeTimerCreateSerializeLocalState (morningState .outcomeUnknown) =
          .ok encoded ∧
        backendAgentNativeTimerCreateParseLocalState encoded =
          some (durableState (morningState .outcomeUnknown))) ∧
      (∀ encoded parsed, backendAgentNativeTimerCreateParseLocalState encoded = some parsed →
        backendAgentNativeTimerCreateSerializeLocalState parsed = .ok encoded) :=
  nativeTimerCreate_codec (by decide)
    ⟨by decide, by decide, by decide, by decide, by decide⟩
    (by decide)
    ⟨⟨by decide, by decide, by decide, by decide,
      by decide⟩, by decide, by decide, by decide,
      by decide⟩
    (by decide) (by decide +kernel)

/-- The outcome that a starting state happens to carry is not written. -/
theorem starting_outcome_not_read_back :
    backendAgentNativeTimerCreateLocalStateValid (morningState .acceptedUnverified) = .ok () ∧
    (morningState .acceptedUnverified).command.specification.normalized =
      (morningState .acceptedUnverified).command.specification ∧
    ∃ encoded,
      backendAgentNativeTimerCreateSerializeLocalState (morningState .acceptedUnverified) =
        .ok encoded ∧
      backendAgentNativeTimerCreateParseLocalState encoded ≠
        some (morningState .acceptedUnverified) := by
  have valid : backendAgentNativeTimerCreateLocalStateValid (morningState .acceptedUnverified) =
      .ok () := by
    decide
  have serialized := serialize_of_fits valid (by decide +kernel)
  have representable : LocalStateRepresentable (morningState .acceptedUnverified) :=
    ⟨⟨by decide, by decide, by decide, by decide,
      by decide⟩, by decide, by decide, by decide,
      by decide⟩
  refine ⟨valid, by decide, _, serialized, ?_⟩
  rw [parseLocalState_serialized serialized representable (by decide)]
  intro same
  have outcome := congrArg (fun state => state.evidence.outcome) (Option.some.inj same)
  revert outcome
  decide

end VdrSuite.Agent
