import VdrSuite.Agent.Command

/-! `vdr.timer.create`: the command, its evidence, its durable local state and its result evidence. -/

set_option autoImplicit false

namespace VdrSuite.Agent

open Library

/-! ## Command -/

structure BackendAgentNativeTimerCreateCommand extends NativeCommandEnvelope where
  timerAssignmentId : Bytes := []
  expectedAssignmentRevision : Bytes := []
  expectedIntentRevision : Bytes := []
  assignmentEpoch : Nat := 0
  nativeTimerBindingId : Bytes := []
  expectedSpecificationFingerprint : Bytes := []
  specification : BackendAgentNativeTimerCreateSpecification := {}
  deriving DecidableEq

/-- Evidence of a creation also names the assignment and the binding of the timer. -/
structure NativeTimerCreateIdentity extends NativeCommandIdentity where
  timerAssignmentId : Bytes := []
  nativeTimerBindingId : Bytes := []
  deriving DecidableEq

def BackendAgentNativeTimerCreateCommand.evidenceIdentity
    (command : BackendAgentNativeTimerCreateCommand) : NativeTimerCreateIdentity :=
  { command.toNativeCommandEnvelope.identity with
    timerAssignmentId := command.timerAssignmentId
    nativeTimerBindingId := command.nativeTimerBindingId }

abbrev BackendAgentNativeTimerCreateEvidence := NativeEvidence NativeTimerCreateIdentity

abbrev BackendAgentNativeTimerCreateLocalState :=
  NativeLocalState BackendAgentNativeTimerCreateCommand NativeTimerCreateIdentity

def backendAgentNativeTimerCreateValidCommand (command : BackendAgentNativeTimerCreateCommand) :
    Bool :=
  let fingerprint := backendAgentNativeTimerCreateSpecificationFingerprint command.specification
  backendAgentCommandSafeIdentifier command.commandId &&
  backendAgentCommandSafeIdentifier command.requestFingerprint &&
  backendAgentCommandSafeIdentifier command.operationId &&
  backendAgentCommandSafeIdentifier command.operationRevision &&
  backendAgentCommandSafeIdentifier command.timerAssignmentId &&
  backendAgentCommandSafeIdentifier command.expectedAssignmentRevision &&
  backendAgentCommandSafeIdentifier command.expectedIntentRevision &&
  0 < command.assignmentEpoch &&
  backendAgentCommandSafeIdentifier command.nativeTimerBindingId &&
  !fingerprint.isEmpty && command.expectedSpecificationFingerprint == fingerprint &&
  backendAgentCommandSafeIdentifier command.jobId &&
  backendAgentCommandSafeIdentifier command.attemptId &&
  0 < command.claimEpoch &&
  backendAgentCommandSafeIdentifier command.backendId &&
  backendAgentCommandSafeIdentifier command.agentId &&
  backendAgentCommandSafeIdentifier command.agentInstanceId &&
  0 < command.backendGeneration && decide (0 < command.controlPlaneClaimedAt) &&
  nativeTimerCreateExactProviderSelection command.localProviderSelection &&
  command.localProviderSelection.backendId == command.backendId

def backendAgentNativeTimerCreateEvidenceMatches
    (evidence : BackendAgentNativeTimerCreateEvidence)
    (command : BackendAgentNativeTimerCreateCommand) : Bool :=
  backendAgentNativeTimerCreateValidCommand command &&
  evidence.identity == command.evidenceIdentity &&
  decide (0 < evidence.localStartingPersistedAt) && decide (0 < evidence.completedAt) &&
  decide (evidence.localStartingPersistedAt ≤ evidence.completedAt) &&
  (decide (evidence.dispatchStartedAt ≤ 0) ||
    (decide (evidence.localStartingPersistedAt ≤ evidence.dispatchStartedAt) &&
      decide (evidence.dispatchStartedAt ≤ evidence.completedAt))) &&
  (if evidence.outcome = .rejectedWithoutEffect then decide (evidence.dispatchStartedAt = 0)
    else decide (0 < evidence.dispatchStartedAt)) &&
  backendAgentCommandSafeText evidence.evidenceReference 1024

def nativeTimerCreateEnvelope (commandId requestFingerprint operationId jobId attemptId : Bytes)
    (claimEpoch : Nat) (backendId agentId agentInstanceId : Bytes) (backendGeneration : Nat)
    (payload : BackendAgentNativeTimerCreatePayload) : BackendAgentNativeTimerCreateCommand :=
  { commandId, requestFingerprint, operationId
    operationRevision := payload.operationRevision
    jobId, attemptId, claimEpoch, backendId, agentId, agentInstanceId, backendGeneration
    controlPlaneClaimedAt := payload.controlPlaneClaimedAt
    localProviderSelection := payload.localProviderSelection
    timerAssignmentId := payload.timerAssignmentId
    expectedAssignmentRevision := payload.expectedAssignmentRevision
    expectedIntentRevision := payload.expectedIntentRevision
    assignmentEpoch := payload.assignmentEpoch
    nativeTimerBindingId := payload.nativeTimerBindingId
    expectedSpecificationFingerprint := payload.expectedSpecificationFingerprint
    specification := payload.specification }

def backendAgentNativeTimerCreateCommandFromAssignment
    (assignment : BackendAgentCommandAssignment) :
    Except String BackendAgentNativeTimerCreateCommand :=
  if backendAgentCommandValidAssignment assignment = false ∨
      assignment.commandType ≠ nativeTimerCreateCommandType ∨
      nativeMutationShape assignment = false then
    .error "invalid_native_timer_create_assignment"
  else
    match backendAgentNativeTimerCreateParsePayload assignment.payload with
    | none => .error "invalid_native_timer_create_assignment_payload"
    | some payload =>
      let candidate := nativeTimerCreateEnvelope assignment.commandId
        assignment.requestFingerprint assignment.operationId assignment.jobId
        assignment.attemptId assignment.claimEpoch assignment.backendId assignment.agentId
        assignment.agentInstanceId assignment.backendGeneration payload
      if backendAgentNativeTimerCreateValidCommand candidate then .ok candidate
      else .error "invalid_native_timer_create_assignment_contract"

/-! ## Local state -/

def backendAgentNativeTimerCreateLocalStateValid
    (state : BackendAgentNativeTimerCreateLocalState) : Except String Unit :=
  if state.schemaVersion ≠ 1 ∨ backendAgentNativeTimerCreateValidCommand state.command = false ∨
      state.localStartingPersistedAt ≤ 0 ∨
      state.localStartingPersistedAt < state.command.controlPlaneClaimedAt then
    .error "invalid_native_timer_create_local_state"
  else
    match state.phase with
    | .starting =>
      if state.evidence.completedAt ≠ 0 ∨ state.evidence.dispatchStartedAt ≠ 0 ∨
          state.evidence.evidenceReference ≠ [] then
        .error "invalid_native_timer_create_starting_evidence"
      else .ok ()
    | .completed =>
      if backendAgentNativeTimerCreateEvidenceMatches state.evidence state.command = false ∨
          state.evidence.localStartingPersistedAt ≠ state.localStartingPersistedAt then
        .error "invalid_native_timer_create_completed_evidence"
      else .ok ()

def backendAgentNativeTimerCreatePrepareLocalStarting
    (command : BackendAgentNativeTimerCreateCommand) (persistedAt : Int) :
    Except String BackendAgentNativeTimerCreateLocalState :=
  if backendAgentNativeTimerCreateValidCommand command = false ∨ persistedAt ≤ 0 ∨
      persistedAt < command.controlPlaneClaimedAt then
    .error "invalid_native_timer_create_local_starting"
  else
    let candidate : BackendAgentNativeTimerCreateLocalState :=
      { command := command, localStartingPersistedAt := persistedAt, evidence := { identity := {} } }
    match backendAgentNativeTimerCreateLocalStateValid candidate with
    | .error reason => .error reason
    | .ok _ => .ok candidate

def backendAgentNativeTimerCreateCompleteLocalState :
    BackendAgentNativeTimerCreateLocalState → BackendAgentNativeTimerCreateEvidence →
      Except String BackendAgentNativeTimerCreateLocalState :=
  completeLocalState backendAgentNativeTimerCreateLocalStateValid
    backendAgentNativeTimerCreateEvidenceMatches
    "invalid_native_timer_create_completion" "invalid_native_timer_create_completion"

def backendAgentNativeTimerCreateRecoverLocalState :
    BackendAgentNativeTimerCreateLocalState → NativeCommandContext → Int →
      NativeRecovery NativeTimerCreateIdentity :=
  recoverLocalState (fun command => command.toNativeCommandEnvelope)
    BackendAgentNativeTimerCreateCommand.evidenceIdentity
    backendAgentNativeTimerCreateLocalStateValid backendAgentNativeTimerCreateEvidenceMatches
    backendAgentCommandSafeIdentifier
    { stateInvalid := "native_timer_create_recovery_state_invalid"
      contextInvalid := "native_timer_create_recovery_context_invalid"
      completedCurrent := "native_timer_create_completed_evidence_replay"
      completedDrifted := "native_timer_create_completed_evidence_survives_context_drift"
      evidenceInvalid := "native_timer_create_recovery_evidence_invalid"
      startingCurrent := "native_timer_create_starting_recovery_reconcile_only"
      startingFenced := "native_timer_create_starting_context_fenced_reconcile_only" }

def nativeTimerCreatePayloadFromCommand (command : BackendAgentNativeTimerCreateCommand) :
    BackendAgentNativeTimerCreatePayload :=
  { operationRevision := command.operationRevision
    timerAssignmentId := command.timerAssignmentId
    expectedAssignmentRevision := command.expectedAssignmentRevision
    expectedIntentRevision := command.expectedIntentRevision
    assignmentEpoch := command.assignmentEpoch
    nativeTimerBindingId := command.nativeTimerBindingId
    controlPlaneClaimedAt := command.controlPlaneClaimedAt
    expectedSpecificationFingerprint := command.expectedSpecificationFingerprint
    specification := command.specification
    localProviderSelection := command.localProviderSelection }

def backendAgentNativeTimerCreateSerializeLocalState
    (state : BackendAgentNativeTimerCreateLocalState) : Except String Bytes :=
  match backendAgentNativeTimerCreateLocalStateValid state with
  | .error reason => .error reason
  | .ok _ =>
    let command := state.command
    let payload := backendAgentNativeTimerCreatePayload (nativeTimerCreatePayloadFromCommand command)
    if payload = [] then .error "invalid_native_timer_create_local_state_payload"
    else
      let encoded := text "native-timer-create-local-state/1|" ++ Netstring.record
        ([phaseName state.phase, payload, command.commandId, command.requestFingerprint,
            command.operationId, command.jobId, command.attemptId, decimal command.claimEpoch,
            command.backendId, command.agentId, command.agentInstanceId,
            decimal command.backendGeneration, signedDecimal state.localStartingPersistedAt] ++
          match state.phase with
          | .starting => []
          | .completed =>
            [outcomeName state.evidence.outcome, signedDecimal state.evidence.dispatchStartedAt,
              signedDecimal state.evidence.completedAt, state.evidence.evidenceReference])
      if encoded.length > 32768 then .error "native_timer_create_local_state_too_large"
      else .ok encoded

def parseNativeTimerCreateEvidence (phase : NativeLocalPhase)
    (command : BackendAgentNativeTimerCreateCommand) (localStartingPersistedAt : Int)
    (fields : List Bytes) : Option BackendAgentNativeTimerCreateEvidence :=
  match phase, fields with
  | .starting, [] => some { identity := {} }
  | .completed, [outcome, dispatchStartedAt, completedAt, evidenceReference] => do
      let outcome ← parseOutcome outcome
      let dispatchStartedAt ← parseTime false dispatchStartedAt
      let completedAt ← parseTime true completedAt
      if backendAgentCommandSafeText evidenceReference 1024 = false then none
      else
        some
          { identity := command.evidenceIdentity, localStartingPersistedAt, outcome
            dispatchStartedAt, completedAt, evidenceReference }
  | _, _ => none

def backendAgentNativeTimerCreateParseLocalState (encoded : Bytes) :
    Option BackendAgentNativeTimerCreateLocalState :=
  if encoded.length > 32768 then none
  else
    match Netstring.readDocument Netstring.uint64Max 17 (text "native-timer-create-local-state/1|")
        encoded with
    | some (phase :: payload :: commandId :: requestFingerprint :: operationId :: jobId ::
        attemptId :: claimEpoch :: backendId :: agentId :: agentInstanceId :: backendGeneration ::
        localStartingPersistedAt :: evidence) => do
        let phase ← parsePhase phase
        let payload ← backendAgentNativeTimerCreateParsePayload payload
        let claimEpoch ← positiveUnsigned claimEpoch
        let backendGeneration ← positiveUnsigned backendGeneration
        let localStartingPersistedAt ← parseTime true localStartingPersistedAt
        let command := nativeTimerCreateEnvelope commandId requestFingerprint operationId jobId
          attemptId claimEpoch backendId agentId agentInstanceId backendGeneration payload
        let evidence ←
          parseNativeTimerCreateEvidence phase command localStartingPersistedAt evidence
        let candidate : BackendAgentNativeTimerCreateLocalState :=
          { phase, command, localStartingPersistedAt, evidence }
        match backendAgentNativeTimerCreateSerializeLocalState candidate with
        | .error _ => none
        | .ok canonical => if canonical = encoded then some candidate else none
    | _ => none

/-! ## Result evidence -/

def backendAgentNativeTimerCreateResultEvidence
    (evidence : BackendAgentNativeTimerCreateEvidence)
    (assignment : BackendAgentCommandAssignment) : Bytes :=
  match backendAgentNativeTimerCreateCommandFromAssignment assignment with
  | .error _ => []
  | .ok command =>
    if backendAgentNativeTimerCreateEvidenceMatches evidence command = false then []
    else resultEvidence "native-timer-create-result-evidence/1|" evidence

def backendAgentNativeTimerCreateParseResultEvidence (encoded : Bytes)
    (assignment : BackendAgentCommandAssignment) : Option BackendAgentNativeTimerCreateEvidence :=
  if encoded.length > 4096 ∨ backendAgentCommandSafeText encoded 4096 = false then none
  else
    match Netstring.readDocument Netstring.uint64Max 5
        (text "native-timer-create-result-evidence/1|") encoded,
        backendAgentNativeTimerCreateCommandFromAssignment assignment with
    | some [outcome, localStartingPersistedAt, dispatchStartedAt, completedAt, evidenceReference],
        .ok command => do
        let outcome ← parseOutcome outcome
        let localStartingPersistedAt ← parseTime true localStartingPersistedAt
        let dispatchStartedAt ← parseTime false dispatchStartedAt
        let completedAt ← parseTime true completedAt
        let candidate : BackendAgentNativeTimerCreateEvidence :=
          { identity := command.evidenceIdentity, localStartingPersistedAt, outcome
            dispatchStartedAt, completedAt, evidenceReference }
        let canonical := backendAgentNativeTimerCreateResultEvidence candidate assignment
        if canonical = [] ∨ canonical ≠ encoded then none else some candidate
    | _, _ => none

end VdrSuite.Agent
