import VdrSuite.Agent.NativeLocalRecord

/-! `vdr.timer.update` and `vdr.timer.toggle`: the command, its evidence, its durable local state and
its result evidence. -/

set_option autoImplicit false

namespace VdrSuite.Agent

open Library

/-! ## Command -/

structure BackendAgentNativeTimerModifyCommand extends NativeCommandEnvelope where
  kind : BackendAgentNativeTimerModifyKind := .update
  timerAssignmentId : Bytes := []
  expectedAssignmentRevision : Bytes := []
  expectedIntentRevision : Bytes := []
  assignmentEpoch : Nat := 0
  nativeTimerBindingId : Bytes := []
  expectedBindingRevision : Bytes := []
  backendNativeTimerId : Bytes := []
  expectedCurrentFingerprint : Bytes := []
  expectedSpecificationFingerprint : Bytes := []
  specification : BackendAgentNativeTimerCreateSpecification := {}
  deriving DecidableEq

abbrev BackendAgentNativeTimerModifyEvidence := NativeEvidence NativeCommandIdentity

abbrev BackendAgentNativeTimerModifyLocalState :=
  NativeLocalState BackendAgentNativeTimerModifyCommand NativeCommandIdentity

def backendAgentNativeTimerModifyValidCommand (command : BackendAgentNativeTimerModifyCommand) :
    Bool :=
  boundedIdentity 192 command.commandId &&
  boundedIdentity 512 command.requestFingerprint &&
  boundedIdentity 192 command.operationId &&
  boundedIdentity 192 command.operationRevision &&
  boundedIdentity 192 command.timerAssignmentId &&
  boundedIdentity 192 command.expectedAssignmentRevision &&
  boundedIdentity 192 command.expectedIntentRevision &&
  0 < command.assignmentEpoch &&
  boundedIdentity 192 command.nativeTimerBindingId &&
  boundedIdentity 192 command.expectedBindingRevision &&
  boundedIdentity 192 command.backendNativeTimerId &&
  backendAgentNativeTimerDeleteFingerprintTokenValid command.expectedCurrentFingerprint &&
  backendAgentNativeTimerCreateSpecificationValid command.specification &&
  command.expectedSpecificationFingerprint ==
    backendAgentNativeTimerCreateSpecificationFingerprint command.specification &&
  boundedIdentity 192 command.jobId &&
  boundedIdentity 192 command.attemptId && 0 < command.claimEpoch &&
  boundedIdentity 192 command.backendId &&
  boundedIdentity 192 command.agentId &&
  boundedIdentity 192 command.agentInstanceId && 0 < command.backendGeneration &&
  decide (0 < command.controlPlaneClaimedAt) &&
  nativeTimerModifyExactProviderSelection command.kind command.backendId
    command.localProviderSelection

def backendAgentNativeTimerModifyEvidenceMatches
    (evidence : BackendAgentNativeTimerModifyEvidence)
    (command : BackendAgentNativeTimerModifyCommand) : Bool :=
  backendAgentNativeTimerModifyValidCommand command &&
  evidence.identity == command.toNativeCommandEnvelope.identity &&
  decide (command.controlPlaneClaimedAt ≤ evidence.localStartingPersistedAt) &&
  decide (evidence.localStartingPersistedAt ≤ evidence.completedAt) &&
  boundedIdentity 512 evidence.evidenceReference &&
  dispatchTimesValid evidence

def nativeTimerModifyCommandFor (commandId requestFingerprint operationId jobId attemptId : Bytes)
    (claimEpoch : Nat) (agentId agentInstanceId : Bytes)
    (payload : BackendAgentNativeTimerModifyPayload) : BackendAgentNativeTimerModifyCommand :=
  { kind := payload.kind
    commandId, requestFingerprint, operationId
    operationRevision := payload.operationRevision
    timerAssignmentId := payload.timerAssignmentId
    expectedAssignmentRevision := payload.expectedAssignmentRevision
    expectedIntentRevision := payload.expectedIntentRevision
    assignmentEpoch := payload.assignmentEpoch
    nativeTimerBindingId := payload.nativeTimerBindingId
    expectedBindingRevision := payload.expectedBindingRevision
    backendNativeTimerId := payload.backendNativeTimerId
    expectedCurrentFingerprint := payload.expectedCurrentFingerprint
    expectedSpecificationFingerprint := payload.expectedSpecificationFingerprint
    specification := payload.specification
    jobId, attemptId, claimEpoch
    backendId := payload.backendId
    agentId, agentInstanceId
    backendGeneration := payload.backendGeneration
    controlPlaneClaimedAt := payload.controlPlaneClaimedAt
    localProviderSelection := payload.localProviderSelection }

def nativeTimerModifyPayloadFor (command : BackendAgentNativeTimerModifyCommand) :
    BackendAgentNativeTimerModifyPayload :=
  { kind := command.kind
    operationRevision := command.operationRevision
    timerAssignmentId := command.timerAssignmentId
    expectedAssignmentRevision := command.expectedAssignmentRevision
    expectedIntentRevision := command.expectedIntentRevision
    assignmentEpoch := command.assignmentEpoch
    nativeTimerBindingId := command.nativeTimerBindingId
    expectedBindingRevision := command.expectedBindingRevision
    backendId := command.backendId
    backendGeneration := command.backendGeneration
    backendNativeTimerId := command.backendNativeTimerId
    expectedCurrentFingerprint := command.expectedCurrentFingerprint
    expectedSpecificationFingerprint := command.expectedSpecificationFingerprint
    specification := command.specification
    controlPlaneClaimedAt := command.controlPlaneClaimedAt
    localProviderSelection := command.localProviderSelection }

def backendAgentNativeTimerModifyCommandFromAssignment
    (assignment : BackendAgentCommandAssignment) :
    Except String BackendAgentNativeTimerModifyCommand :=
  if backendAgentCommandValidAssignment assignment = false ∨
      (assignment.commandType ≠ nativeTimerUpdateCommandType ∧
        assignment.commandType ≠ nativeTimerToggleCommandType) ∨
      nativeMutationShape assignment = false then
    .error "invalid_native_timer_modify_assignment"
  else
    match backendAgentNativeTimerModifyParsePayload assignment.payload with
    | none => .error "invalid_native_timer_modify_assignment_payload"
    | some payload =>
      if decide (assignment.commandType = nativeTimerUpdateCommandType) ≠
            decide (payload.kind = .update) ∨
          payload.backendId ≠ assignment.backendId ∨
          payload.backendGeneration ≠ assignment.backendGeneration then
        .error "invalid_native_timer_modify_assignment_payload"
      else
        let command := nativeTimerModifyCommandFor assignment.commandId
          assignment.requestFingerprint assignment.operationId assignment.jobId
          assignment.attemptId assignment.claimEpoch assignment.agentId
          assignment.agentInstanceId payload
        if backendAgentNativeTimerModifyValidCommand command then .ok command
        else .error "invalid_native_timer_modify_command_envelope"

/-! ## Local state -/

def nativeTimerModifyEmptyEvidence (evidence : BackendAgentNativeTimerModifyEvidence) : Bool :=
  evidence.identity.commandId.isEmpty && evidence.evidenceReference.isEmpty &&
  decide (evidence.completedAt = 0) && decide (evidence.localStartingPersistedAt = 0) &&
  decide (evidence.dispatchStartedAt = 0)

def backendAgentNativeTimerModifyLocalStateValid
    (state : BackendAgentNativeTimerModifyLocalState) : Except String Unit :=
  if state.schemaVersion ≠ 1 ∨ backendAgentNativeTimerModifyValidCommand state.command = false ∨
      state.localStartingPersistedAt < state.command.controlPlaneClaimedAt then
    .error "invalid_native_timer_modify_local_state"
  else
    match state.phase with
    | .starting =>
      if nativeTimerModifyEmptyEvidence state.evidence = false then
        .error "starting_native_timer_modify_has_evidence"
      else .ok ()
    | .completed =>
      if backendAgentNativeTimerModifyEvidenceMatches state.evidence state.command = false ∨
          state.evidence.localStartingPersistedAt ≠ state.localStartingPersistedAt then
        .error "invalid_native_timer_modify_completed_state"
      else .ok ()

def backendAgentNativeTimerModifyPrepareLocalStarting :
    BackendAgentCommandAssignment → Int →
      Except String BackendAgentNativeTimerModifyLocalState :=
  prepareLocalStarting (fun command => command.toNativeCommandEnvelope)
    backendAgentNativeTimerModifyLocalStateValid
    backendAgentNativeTimerModifyCommandFromAssignment
    "native_timer_modify_starting_time_fenced" false

def backendAgentNativeTimerModifyCompleteLocalState :
    BackendAgentNativeTimerModifyLocalState → BackendAgentNativeTimerModifyEvidence →
      Except String BackendAgentNativeTimerModifyLocalState :=
  completeLocalState backendAgentNativeTimerModifyLocalStateValid
    backendAgentNativeTimerModifyEvidenceMatches
    "native_timer_modify_completion_evidence_mismatch"
    "native_timer_modify_completion_evidence_mismatch"

def backendAgentNativeTimerModifyRecoverLocalState :
    BackendAgentNativeTimerModifyLocalState → NativeCommandContext → Int →
      NativeRecovery NativeCommandIdentity :=
  recoverLocalState (fun command => command.toNativeCommandEnvelope)
    (fun command => command.toNativeCommandEnvelope.identity)
    backendAgentNativeTimerModifyLocalStateValid backendAgentNativeTimerModifyEvidenceMatches
    (fun value => !value.isEmpty)
    { stateInvalid := "native_timer_modify_recovery_invalid"
      contextInvalid := "native_timer_modify_recovery_invalid"
      completedCurrent := "native_timer_modify_completed_evidence_replay"
      completedDrifted := "native_timer_modify_completed_evidence_replay"
      evidenceInvalid := "native_timer_modify_recovery_evidence_invalid"
      startingCurrent := "native_timer_modify_starting_recovery_reconcile_only"
      startingFenced := "native_timer_modify_starting_context_fenced_reconcile_only" }

def nativeTimerModifyRecordShape : NativeRecordShape :=
  { maximumBytes := 40960
    fingerprintKey := "request_fingerprint"
    referenceKey := "evidence_reference"
    writeText := id
    readText := some
    undecided := "none" }

def backendAgentNativeTimerModifySerializeLocalState
    (state : BackendAgentNativeTimerModifyLocalState) : Except String Bytes :=
  match backendAgentNativeTimerModifyLocalStateValid state with
  | .error reason => .error reason
  | .ok _ =>
    -- A valid command has a specification that can be written.
    let payload :=
      (backendAgentNativeTimerModifyPayload (nativeTimerModifyPayloadFor state.command)).getD []
    let encoded :=
      nativeTimerModifyRecordShape.write state.command.toNativeCommandEnvelope payload state
    if encoded.length > nativeTimerModifyRecordShape.maximumBytes then
      .error "native_timer_modify_state_too_large"
    else .ok encoded

def backendAgentNativeTimerModifyParseLocalState (encoded : Bytes) :
    Option BackendAgentNativeTimerModifyLocalState := do
  let fields ← nativeTimerModifyRecordShape.read encoded
  let payload ← backendAgentNativeTimerModifyParsePayload fields.payload
  let command := nativeTimerModifyCommandFor fields.commandId fields.requestFingerprint
    fields.operationId fields.jobId fields.attemptId fields.claimEpoch fields.agentId
    fields.agentInstanceId payload
  let evidence ← parseEvidenceColumns nativeTimerModifyRecordShape.undecided {}
    command.toNativeCommandEnvelope.identity fields.phase fields.localStartingPersistedAt
    fields.outcome fields.dispatchStartedAt fields.completedAt fields.evidenceReference
  let candidate : BackendAgentNativeTimerModifyLocalState :=
    { phase := fields.phase, command
      localStartingPersistedAt := fields.localStartingPersistedAt, evidence }
  if (backendAgentNativeTimerModifyLocalStateValid candidate).toBool then some candidate else none

/-! ## Result evidence -/

def backendAgentNativeTimerModifyResultEvidence
    (evidence : BackendAgentNativeTimerModifyEvidence)
    (assignment : BackendAgentCommandAssignment) : Bytes :=
  match backendAgentNativeTimerModifyCommandFromAssignment assignment with
  | .error _ => []
  | .ok command =>
    if backendAgentNativeTimerModifyEvidenceMatches evidence command = false then []
    else resultEvidence "native-timer-modify-result-evidence/1|" evidence

def backendAgentNativeTimerModifyParseResultEvidence (encoded : Bytes)
    (assignment : BackendAgentCommandAssignment) : Option BackendAgentNativeTimerModifyEvidence :=
  match backendAgentNativeTimerModifyCommandFromAssignment assignment with
  | .error _ => none
  | .ok command => do
      let parsed ← parseResultFields "native-timer-modify-result-evidence/1|"
        command.toNativeCommandEnvelope.identity encoded
      if backendAgentNativeTimerModifyResultEvidence parsed assignment ≠ encoded then none
      else some parsed

end VdrSuite.Agent
