import VdrSuite.Agent.NativeLocalRecord

/-! `vdr.timer.delete`: the command, its evidence, its durable local state and its result evidence. -/

set_option autoImplicit false

namespace VdrSuite.Agent

open Library

/-! ## Command -/

structure BackendAgentNativeTimerDeleteCommand extends NativeCommandEnvelope where
  nativeTimerBindingId : Bytes := []
  expectedBindingRevision : Bytes := []
  expectedNativeTimerFingerprint : Bytes := []
  timerAssignmentId : Bytes := []
  backendNativeTimerId : Bytes := []
  deriving DecidableEq

abbrev BackendAgentNativeTimerDeleteEvidence := NativeEvidence NativeCommandIdentity

abbrev BackendAgentNativeTimerDeleteLocalState :=
  NativeLocalState BackendAgentNativeTimerDeleteCommand NativeCommandIdentity

def backendAgentNativeTimerDeleteValidCommand (command : BackendAgentNativeTimerDeleteCommand) :
    Bool :=
  boundedIdentity 192 command.commandId &&
  boundedIdentity 512 command.requestFingerprint &&
  boundedIdentity 192 command.operationId &&
  boundedIdentity 192 command.operationRevision &&
  boundedIdentity 192 command.nativeTimerBindingId &&
  boundedIdentity 192 command.expectedBindingRevision &&
  backendAgentNativeTimerDeleteFingerprintTokenValid command.expectedNativeTimerFingerprint &&
  boundedIdentity 192 command.timerAssignmentId &&
  boundedIdentity 192 command.backendNativeTimerId &&
  boundedIdentity 192 command.jobId &&
  boundedIdentity 192 command.attemptId && 0 < command.claimEpoch &&
  boundedIdentity 192 command.backendId &&
  boundedIdentity 192 command.agentId &&
  boundedIdentity 192 command.agentInstanceId && 0 < command.backendGeneration &&
  decide (0 < command.controlPlaneClaimedAt) &&
  nativeTimerDeleteExactProviderSelection command.localProviderSelection &&
  command.localProviderSelection.backendId == command.backendId

def backendAgentNativeTimerDeleteEvidenceMatches
    (evidence : BackendAgentNativeTimerDeleteEvidence)
    (command : BackendAgentNativeTimerDeleteCommand) : Bool :=
  backendAgentNativeTimerDeleteValidCommand command &&
  evidence.identity == command.toNativeCommandEnvelope.identity &&
  decide (command.controlPlaneClaimedAt ≤ evidence.localStartingPersistedAt) &&
  decide (evidence.localStartingPersistedAt ≤ evidence.completedAt) &&
  boundedIdentity 512 evidence.evidenceReference &&
  dispatchTimesValid evidence

def backendAgentNativeTimerDeleteCommandFromAssignment
    (assignment : BackendAgentCommandAssignment) :
    Except String BackendAgentNativeTimerDeleteCommand :=
  if backendAgentCommandValidAssignment assignment = false ∨
      assignment.commandType ≠ nativeTimerDeleteCommandType ∨
      nativeMutationShape assignment = false then
    .error "invalid_native_timer_delete_assignment"
  else
    match backendAgentNativeTimerDeleteParsePayload assignment.payload with
    | none => .error "invalid_native_timer_delete_assignment_payload"
    | some payload =>
      let candidate : BackendAgentNativeTimerDeleteCommand :=
        { commandId := assignment.commandId
          requestFingerprint := assignment.requestFingerprint
          operationId := assignment.operationId
          operationRevision := payload.operationRevision
          nativeTimerBindingId := payload.nativeTimerBindingId
          expectedBindingRevision := payload.expectedBindingRevision
          expectedNativeTimerFingerprint := payload.expectedNativeTimerFingerprint
          timerAssignmentId := payload.timerAssignmentId
          backendNativeTimerId := payload.backendNativeTimerId
          jobId := assignment.jobId
          attemptId := assignment.attemptId
          claimEpoch := assignment.claimEpoch
          backendId := assignment.backendId
          agentId := assignment.agentId
          agentInstanceId := assignment.agentInstanceId
          backendGeneration := assignment.backendGeneration
          controlPlaneClaimedAt := payload.controlPlaneClaimedAt
          localProviderSelection := payload.localProviderSelection }
      if backendAgentNativeTimerDeleteValidCommand candidate then .ok candidate
      else .error "invalid_native_timer_delete_command_envelope"

/-! ## Local state -/

def backendAgentNativeTimerDeleteLocalStateValid
    (state : BackendAgentNativeTimerDeleteLocalState) : Except String Unit :=
  if state.schemaVersion ≠ 1 ∨ backendAgentNativeTimerDeleteValidCommand state.command = false ∨
      state.localStartingPersistedAt < state.command.controlPlaneClaimedAt then
    .error "invalid_native_timer_delete_local_state"
  else
    match state.phase with
    | .starting =>
      if state.evidence ≠ { identity := {} } then
        .error "starting_native_timer_delete_has_outcome_evidence"
      else .ok ()
    | .completed =>
      if backendAgentCommandSafeText state.evidence.evidenceReference 512 = false ∨
          state.evidence.localStartingPersistedAt ≠ state.localStartingPersistedAt ∨
          backendAgentNativeTimerDeleteEvidenceMatches state.evidence state.command = false then
        .error "invalid_native_timer_delete_completed_state"
      else .ok ()

def backendAgentNativeTimerDeletePrepareLocalStarting :
    BackendAgentCommandAssignment → Int →
      Except String BackendAgentNativeTimerDeleteLocalState :=
  prepareLocalStarting (fun command => command.toNativeCommandEnvelope)
    backendAgentNativeTimerDeleteLocalStateValid
    backendAgentNativeTimerDeleteCommandFromAssignment
    "native_timer_delete_starting_time_fenced" true

def nativeTimerDeleteCompletionMatches (evidence : BackendAgentNativeTimerDeleteEvidence)
    (command : BackendAgentNativeTimerDeleteCommand) : Bool :=
  backendAgentCommandSafeText evidence.evidenceReference 512 &&
  backendAgentNativeTimerDeleteEvidenceMatches evidence command

def backendAgentNativeTimerDeleteCompleteLocalState :
    BackendAgentNativeTimerDeleteLocalState → BackendAgentNativeTimerDeleteEvidence →
      Except String BackendAgentNativeTimerDeleteLocalState :=
  completeLocalState backendAgentNativeTimerDeleteLocalStateValid
    nativeTimerDeleteCompletionMatches
    "native_timer_delete_local_state_not_starting"
    "native_timer_delete_completion_evidence_mismatch"

def backendAgentNativeTimerDeleteRecoverLocalState :
    BackendAgentNativeTimerDeleteLocalState → NativeCommandContext → Int →
      NativeRecovery NativeCommandIdentity :=
  recoverLocalState (fun command => command.toNativeCommandEnvelope)
    (fun command => command.toNativeCommandEnvelope.identity)
    backendAgentNativeTimerDeleteLocalStateValid backendAgentNativeTimerDeleteEvidenceMatches
    backendAgentCommandSafeIdentifier
    { stateInvalid := "native_timer_delete_recovery_state_invalid"
      contextInvalid := "native_timer_delete_recovery_context_invalid"
      completedCurrent := "native_timer_delete_completed_evidence_replay"
      completedDrifted := "native_timer_delete_completed_evidence_survives_context_drift"
      evidenceInvalid := "native_timer_delete_recovery_evidence_invalid"
      startingCurrent := "native_timer_delete_starting_recovery_reconcile_only"
      startingFenced := "native_timer_delete_starting_context_fenced_reconcile_only" }

def nativeTimerDeleteLocalStateKeys : List Bytes :=
  ["schema", "phase", "command_id", "request_fingerprint", "operation_id", "operation_revision",
    "native_timer_binding_id", "expected_binding_revision", "expected_native_timer_fingerprint",
    "timer_assignment_id", "backend_native_timer_id", "job_id", "attempt_id", "claim_epoch",
    "backend_id", "agent_id", "agent_instance_id", "backend_generation",
    "control_plane_claimed_at", "provider_backend_id", "provider_authority_domain", "provider_id",
    "provider_kind", "ownership_generation", "provider_instance_epoch", "provider_generation",
    "capability_revision", "required_capability", "local_starting_persisted_at", "outcome",
    "dispatch_started_at", "completed_at", "evidence_reference"].map text

def backendAgentNativeTimerDeleteSerializeLocalState
    (state : BackendAgentNativeTimerDeleteLocalState) : Except String Bytes :=
  match backendAgentNativeTimerDeleteLocalStateValid state with
  | .error reason => .error reason
  | .ok _ =>
    let command := state.command
    let (outcome, dispatchStartedAt, completedAt, reference) := evidenceColumns "none" state
    let encoded := LineRecord.write (nativeTimerDeleteLocalStateKeys.zip
      ([text "1", phaseName state.phase, command.commandId, command.requestFingerprint,
          command.operationId, command.operationRevision, command.nativeTimerBindingId,
          command.expectedBindingRevision, command.expectedNativeTimerFingerprint,
          command.timerAssignmentId, command.backendNativeTimerId, command.jobId,
          command.attemptId, decimal command.claimEpoch, command.backendId, command.agentId,
          command.agentInstanceId, decimal command.backendGeneration,
          signedDecimal command.controlPlaneClaimedAt] ++
        selectionFields command.localProviderSelection ++
        [signedDecimal state.localStartingPersistedAt, outcome, dispatchStartedAt, completedAt,
          reference]))
    if encoded.length > 16384 then .error "native_timer_delete_local_state_too_large"
    else .ok encoded

def backendAgentNativeTimerDeleteParseLocalState (encoded : Bytes) :
    Option BackendAgentNativeTimerDeleteLocalState :=
  if encoded.isEmpty ∨ encoded.length > 16384 then none
  else do
    let values ← LineRecord.read encoded
    let value := fun key : String => LineRecord.get values (text key)
    if LineRecord.exactKeys values nativeTimerDeleteLocalStateKeys = false ∨
        value "schema" ≠ text "1" then none
    else
      let phase ← parsePhase (value "phase")
      let claimEpoch ← parseNumber (value "claim_epoch")
      let backendGeneration ← parseNumber (value "backend_generation")
      let controlPlaneClaimedAt ← parseNumber (value "control_plane_claimed_at")
      let ownershipGeneration ← parseNumber (value "ownership_generation")
      let providerGeneration ← parseNumber (value "provider_generation")
      let capabilityRevision ← parseNumber (value "capability_revision")
      let localStartingPersistedAt ← parseNumber (value "local_starting_persisted_at")
      let dispatchStartedAt ← parseNumber (value "dispatch_started_at")
      let completedAt ← parseNumber (value "completed_at")
      let command : BackendAgentNativeTimerDeleteCommand :=
        { commandId := value "command_id"
          requestFingerprint := value "request_fingerprint"
          operationId := value "operation_id"
          operationRevision := value "operation_revision"
          nativeTimerBindingId := value "native_timer_binding_id"
          expectedBindingRevision := value "expected_binding_revision"
          expectedNativeTimerFingerprint := value "expected_native_timer_fingerprint"
          timerAssignmentId := value "timer_assignment_id"
          backendNativeTimerId := value "backend_native_timer_id"
          jobId := value "job_id"
          attemptId := value "attempt_id"
          claimEpoch
          backendId := value "backend_id"
          agentId := value "agent_id"
          agentInstanceId := value "agent_instance_id"
          backendGeneration, controlPlaneClaimedAt
          localProviderSelection :=
            { backendId := value "provider_backend_id"
              authorityDomain := value "provider_authority_domain"
              providerId := value "provider_id"
              providerKind := value "provider_kind"
              ownershipGeneration
              providerInstanceEpoch := value "provider_instance_epoch"
              providerGeneration, capabilityRevision
              requiredCapability := value "required_capability" } }
      let evidence ← parseEvidenceColumns "none" {} command.toNativeCommandEnvelope.identity phase
        localStartingPersistedAt (value "outcome") dispatchStartedAt completedAt
        (value "evidence_reference")
      let candidate : BackendAgentNativeTimerDeleteLocalState :=
        { phase, command, localStartingPersistedAt, evidence }
      if (backendAgentNativeTimerDeleteLocalStateValid candidate).toBool then some candidate
      else none

/-! ## Result evidence -/

def backendAgentNativeTimerDeleteResultEvidence
    (evidence : BackendAgentNativeTimerDeleteEvidence)
    (assignment : BackendAgentCommandAssignment) : Bytes :=
  match backendAgentNativeTimerDeleteCommandFromAssignment assignment with
  | .error _ => []
  | .ok command =>
    if backendAgentNativeTimerDeleteEvidenceMatches evidence command = false then []
    else resultEvidence "native-timer-delete-result-evidence/1|" evidence

end VdrSuite.Agent
