import VdrSuite.Agent.NativeLocalRecord

/-! `vdr.recording.marks.modify` and `vdr.recording.cut`: the commands, their evidence and their
durable local states. -/

set_option autoImplicit false

namespace VdrSuite.Agent

open Library

/-! ## Rules of both families -/

section Rules

variable {Command : Type} (envelope : Command → NativeCommandEnvelope)
  (validCommand : Command → Bool)

abbrev RecordingEvidence := NativeEvidence NativeCommandIdentity

/-- The envelope of a recording command; its request fingerprint need not be an identifier. -/
def recordingEnvelopeValid (envelope : NativeCommandEnvelope) : Bool :=
  backendAgentCommandSafeIdentifier envelope.commandId &&
  backendAgentCommandSafeText envelope.requestFingerprint 512 &&
  backendAgentCommandSafeIdentifier envelope.operationId &&
  backendAgentCommandSafeIdentifier envelope.operationRevision &&
  backendAgentCommandSafeIdentifier envelope.jobId &&
  backendAgentCommandSafeIdentifier envelope.attemptId &&
  0 < envelope.claimEpoch &&
  backendAgentCommandSafeIdentifier envelope.backendId &&
  backendAgentCommandSafeIdentifier envelope.agentId &&
  backendAgentCommandSafeIdentifier envelope.agentInstanceId &&
  0 < envelope.backendGeneration && decide (0 < envelope.controlPlaneClaimedAt)

def recordingEvidenceMatches (evidence : RecordingEvidence) (command : Command) : Bool :=
  validCommand command &&
  evidence.identity == (envelope command).identity &&
  decide ((envelope command).controlPlaneClaimedAt ≤ evidence.localStartingPersistedAt) &&
  decide (0 < evidence.localStartingPersistedAt) &&
  decide (evidence.localStartingPersistedAt ≤ evidence.completedAt) &&
  dispatchTimesValid evidence &&
  !evidence.evidenceReference.isEmpty &&
  backendAgentCommandSafeText evidence.evidenceReference 512

structure RecordingStateReasons where
  stateInvalid : String
  startingEvidence : String
  completedInvalid : String

def recordingLocalStateValid (reasons : RecordingStateReasons)
    (state : NativeLocalState Command NativeCommandIdentity) : Except String Unit :=
  if state.schemaVersion ≠ 1 ∨ validCommand state.command = false ∨
      state.localStartingPersistedAt < (envelope state.command).controlPlaneClaimedAt ∨
      state.localStartingPersistedAt ≤ 0 then
    .error reasons.stateInvalid
  else
    match state.phase with
    | .starting =>
      -- The outcome is not looked at here: it means nothing before a completion.
      if state.evidence ≠ { identity := {}, outcome := state.evidence.outcome } then
        .error reasons.startingEvidence
      else .ok ()
    | .completed =>
      if recordingEvidenceMatches envelope validCommand state.evidence state.command = false ∨
          state.evidence.localStartingPersistedAt ≠ state.localStartingPersistedAt then
        .error reasons.completedInvalid
      else .ok ()

end Rules

/-! ## Marks -/

structure BackendAgentRecordingMarksModifyCommand extends NativeCommandEnvelope where
  kind : BackendAgentRecordingMarksModifyKind := .add
  recordingKey : Bytes := []
  expectedMarksRevision : Bytes := []
  sourceFrame : Int := -1
  targetFrame : Int := -1
  replacementFrames : List Int := []
  deriving DecidableEq

abbrev BackendAgentRecordingMarksModifyLocalState :=
  NativeLocalState BackendAgentRecordingMarksModifyCommand NativeCommandIdentity

def backendAgentRecordingMarksModifyValidCommand
    (command : BackendAgentRecordingMarksModifyCommand) : Bool :=
  recordingEnvelopeValid command.toNativeCommandEnvelope &&
  recordingRevisionTokenValid command.recordingKey &&
  recordingRevisionTokenValid command.expectedMarksRevision &&
  backendAgentRecordingMarksModifyFrameShapeValid command.kind command.sourceFrame
    command.targetFrame command.replacementFrames &&
  recordingMarksModifyExactSelection command.backendId command.localProviderSelection

def backendAgentRecordingMarksModifyEvidenceMatches :
    RecordingEvidence → BackendAgentRecordingMarksModifyCommand → Bool :=
  recordingEvidenceMatches (fun command => command.toNativeCommandEnvelope)
    backendAgentRecordingMarksModifyValidCommand

def recordingMarksModifyCommandFor (commandId requestFingerprint operationId jobId attemptId : Bytes)
    (claimEpoch : Nat) (agentId agentInstanceId : Bytes)
    (payload : BackendAgentRecordingMarksModifyPayload) : BackendAgentRecordingMarksModifyCommand :=
  { kind := payload.kind
    commandId, requestFingerprint, operationId
    operationRevision := payload.operationRevision
    recordingKey := payload.recordingKey
    expectedMarksRevision := payload.expectedMarksRevision
    sourceFrame := payload.sourceFrame
    targetFrame := payload.targetFrame
    replacementFrames := payload.replacementFrames
    jobId, attemptId, claimEpoch
    backendId := payload.backendId
    agentId, agentInstanceId
    backendGeneration := payload.backendGeneration
    controlPlaneClaimedAt := payload.controlPlaneClaimedAt
    localProviderSelection := payload.localProviderSelection }

def recordingMarksModifyPayloadFor (command : BackendAgentRecordingMarksModifyCommand) :
    BackendAgentRecordingMarksModifyPayload :=
  { kind := command.kind
    operationRevision := command.operationRevision
    recordingKey := command.recordingKey
    expectedMarksRevision := command.expectedMarksRevision
    sourceFrame := command.sourceFrame
    targetFrame := command.targetFrame
    replacementFrames := command.replacementFrames
    backendId := command.backendId
    backendGeneration := command.backendGeneration
    controlPlaneClaimedAt := command.controlPlaneClaimedAt
    localProviderSelection := command.localProviderSelection }

def backendAgentRecordingMarksModifyCommandFromAssignment
    (assignment : BackendAgentCommandAssignment) :
    Except String BackendAgentRecordingMarksModifyCommand :=
  if backendAgentCommandValidAssignment assignment = false ∨
      assignment.commandType ≠ recordingMarksModifyCommandType ∨
      nativeMutationShape assignment = false then
    .error "invalid_recording_marks_modify_assignment"
  else
    match backendAgentRecordingMarksModifyParsePayload assignment.payload with
    | none => .error "invalid_recording_marks_modify_assignment_payload"
    | some payload =>
      if payload.backendId ≠ assignment.backendId ∨
          payload.backendGeneration ≠ assignment.backendGeneration then
        .error "invalid_recording_marks_modify_assignment_payload"
      else
        let candidate := recordingMarksModifyCommandFor assignment.commandId
          assignment.requestFingerprint assignment.operationId assignment.jobId
          assignment.attemptId assignment.claimEpoch assignment.agentId
          assignment.agentInstanceId payload
        if backendAgentRecordingMarksModifyValidCommand candidate then .ok candidate
        else .error "invalid_recording_marks_modify_command_envelope"

def backendAgentRecordingMarksModifyLocalStateValid :
    BackendAgentRecordingMarksModifyLocalState → Except String Unit :=
  recordingLocalStateValid (fun command => command.toNativeCommandEnvelope)
    backendAgentRecordingMarksModifyValidCommand
    { stateInvalid := "invalid_recording_marks_modify_local_state"
      startingEvidence := "starting_recording_marks_modify_has_evidence"
      completedInvalid := "invalid_recording_marks_modify_completed_state" }

def backendAgentRecordingMarksModifyPrepareLocalStarting :
    BackendAgentCommandAssignment → Int →
      Except String BackendAgentRecordingMarksModifyLocalState :=
  prepareLocalStarting (fun command => command.toNativeCommandEnvelope)
    backendAgentRecordingMarksModifyLocalStateValid
    backendAgentRecordingMarksModifyCommandFromAssignment
    "recording_marks_modify_starting_time_fenced" false

def backendAgentRecordingMarksModifyCompleteLocalState :
    BackendAgentRecordingMarksModifyLocalState → RecordingEvidence →
      Except String BackendAgentRecordingMarksModifyLocalState :=
  completeLocalState backendAgentRecordingMarksModifyLocalStateValid
    backendAgentRecordingMarksModifyEvidenceMatches
    "recording_marks_modify_completion_evidence_mismatch"
    "recording_marks_modify_completion_evidence_mismatch"

def backendAgentRecordingMarksModifyRecoverLocalState :
    BackendAgentRecordingMarksModifyLocalState → NativeCommandContext → Int →
      NativeRecovery NativeCommandIdentity :=
  recoverLocalState (fun command => command.toNativeCommandEnvelope)
    (fun command => command.toNativeCommandEnvelope.identity)
    backendAgentRecordingMarksModifyLocalStateValid
    backendAgentRecordingMarksModifyEvidenceMatches (fun value => !value.isEmpty)
    { stateInvalid := "recording_marks_modify_recovery_invalid"
      contextInvalid := "recording_marks_modify_recovery_invalid"
      completedCurrent := "recording_marks_modify_completed_evidence_replay"
      completedDrifted := "recording_marks_modify_completed_evidence_replay"
      evidenceInvalid := "recording_marks_modify_recovery_evidence_invalid"
      startingCurrent := "recording_marks_modify_starting_recovery_reconcile_only"
      startingFenced := "recording_marks_modify_starting_context_fenced_reconcile_only" }

def recordingMarksModifyRecordShape : NativeRecordShape :=
  { maximumBytes := 65536
    fingerprintKey := "request_fingerprint_hex"
    referenceKey := "evidence_reference_hex"
    writeText := Hex.encode
    readText := Hex.decode
    undecided := "none" }

def backendAgentRecordingMarksModifySerializeLocalState
    (state : BackendAgentRecordingMarksModifyLocalState) : Except String Bytes :=
  match backendAgentRecordingMarksModifyLocalStateValid state with
  | .error reason => .error reason
  | .ok _ =>
    let payload :=
      backendAgentRecordingMarksModifyPayload (recordingMarksModifyPayloadFor state.command)
    if payload = [] then .error "recording_marks_modify_state_payload_invalid"
    else
      let encoded :=
        recordingMarksModifyRecordShape.write state.command.toNativeCommandEnvelope payload state
      if encoded.length > recordingMarksModifyRecordShape.maximumBytes then
        .error "recording_marks_modify_state_too_large"
      else .ok encoded

def backendAgentRecordingMarksModifyParseLocalState (encoded : Bytes) :
    Option BackendAgentRecordingMarksModifyLocalState := do
  let fields ← recordingMarksModifyRecordShape.read encoded
  let payload ← backendAgentRecordingMarksModifyParsePayload fields.payload
  let command := recordingMarksModifyCommandFor fields.commandId fields.requestFingerprint
    fields.operationId fields.jobId fields.attemptId fields.claimEpoch fields.agentId
    fields.agentInstanceId payload
  let evidence ← parseEvidenceColumns recordingMarksModifyRecordShape.undecided {}
    command.toNativeCommandEnvelope.identity fields.phase fields.localStartingPersistedAt
    fields.outcome fields.dispatchStartedAt fields.completedAt fields.evidenceReference
  let candidate : BackendAgentRecordingMarksModifyLocalState :=
    { phase := fields.phase, command
      localStartingPersistedAt := fields.localStartingPersistedAt, evidence }
  if (backendAgentRecordingMarksModifyLocalStateValid candidate).toBool then some candidate
  else none

/-! ## Cut -/

structure BackendAgentRecordingCutCommand extends NativeCommandEnvelope where
  recordingKey : Bytes := []
  expectedMarksRevision : Bytes := []
  deriving DecidableEq

abbrev BackendAgentRecordingCutLocalState :=
  NativeLocalState BackendAgentRecordingCutCommand NativeCommandIdentity

def backendAgentRecordingCutValidCommand (command : BackendAgentRecordingCutCommand) : Bool :=
  recordingEnvelopeValid command.toNativeCommandEnvelope &&
  recordingRevisionTokenValid command.recordingKey &&
  recordingRevisionTokenValid command.expectedMarksRevision &&
  recordingCutExactSelection command.backendId command.localProviderSelection

def backendAgentRecordingCutEvidenceMatches :
    RecordingEvidence → BackendAgentRecordingCutCommand → Bool :=
  recordingEvidenceMatches (fun command => command.toNativeCommandEnvelope)
    backendAgentRecordingCutValidCommand

def recordingCutCommandFor (commandId requestFingerprint operationId jobId attemptId : Bytes)
    (claimEpoch : Nat) (agentId agentInstanceId : Bytes)
    (payload : BackendAgentRecordingCutPayload) : BackendAgentRecordingCutCommand :=
  { commandId, requestFingerprint, operationId
    operationRevision := payload.operationRevision
    recordingKey := payload.recordingKey
    expectedMarksRevision := payload.expectedMarksRevision
    jobId, attemptId, claimEpoch
    backendId := payload.backendId
    agentId, agentInstanceId
    backendGeneration := payload.backendGeneration
    controlPlaneClaimedAt := payload.controlPlaneClaimedAt
    localProviderSelection := payload.localProviderSelection }

def recordingCutPayloadFor (command : BackendAgentRecordingCutCommand) :
    BackendAgentRecordingCutPayload :=
  { operationRevision := command.operationRevision
    recordingKey := command.recordingKey
    expectedMarksRevision := command.expectedMarksRevision
    backendId := command.backendId
    backendGeneration := command.backendGeneration
    controlPlaneClaimedAt := command.controlPlaneClaimedAt
    localProviderSelection := command.localProviderSelection }

def backendAgentRecordingCutCommandFromAssignment (assignment : BackendAgentCommandAssignment) :
    Except String BackendAgentRecordingCutCommand :=
  if backendAgentCommandValidAssignment assignment = false ∨
      assignment.commandType ≠ recordingCutCommandType ∨
      nativeMutationShape assignment = false then
    .error "invalid_recording_cut_assignment"
  else
    match backendAgentRecordingCutParsePayload assignment.payload with
    | none => .error "invalid_recording_cut_assignment_payload"
    | some payload =>
      if payload.backendId ≠ assignment.backendId ∨
          payload.backendGeneration ≠ assignment.backendGeneration then
        .error "invalid_recording_cut_assignment_payload"
      else
        let candidate := recordingCutCommandFor assignment.commandId
          assignment.requestFingerprint assignment.operationId assignment.jobId
          assignment.attemptId assignment.claimEpoch assignment.agentId
          assignment.agentInstanceId payload
        if backendAgentRecordingCutValidCommand candidate then .ok candidate
        else .error "invalid_recording_cut_command_envelope"

def backendAgentRecordingCutLocalStateValid :
    BackendAgentRecordingCutLocalState → Except String Unit :=
  recordingLocalStateValid (fun command => command.toNativeCommandEnvelope)
    backendAgentRecordingCutValidCommand
    { stateInvalid := "invalid_recording_cut_local_state"
      startingEvidence := "starting_recording_cut_has_evidence"
      completedInvalid := "invalid_recording_cut_completed_state" }

def backendAgentRecordingCutPrepareLocalStarting :
    BackendAgentCommandAssignment → Int → Except String BackendAgentRecordingCutLocalState :=
  prepareLocalStarting (fun command => command.toNativeCommandEnvelope)
    backendAgentRecordingCutLocalStateValid backendAgentRecordingCutCommandFromAssignment
    "recording_cut_starting_time_fenced" false

def backendAgentRecordingCutCompleteLocalState :
    BackendAgentRecordingCutLocalState → RecordingEvidence →
      Except String BackendAgentRecordingCutLocalState :=
  completeLocalState backendAgentRecordingCutLocalStateValid
    backendAgentRecordingCutEvidenceMatches
    "recording_cut_completion_evidence_mismatch" "recording_cut_completion_evidence_mismatch"

def backendAgentRecordingCutRecoverLocalState :
    BackendAgentRecordingCutLocalState → NativeCommandContext → Int →
      NativeRecovery NativeCommandIdentity :=
  recoverLocalState (fun command => command.toNativeCommandEnvelope)
    (fun command => command.toNativeCommandEnvelope.identity)
    backendAgentRecordingCutLocalStateValid backendAgentRecordingCutEvidenceMatches
    (fun value => !value.isEmpty)
    { stateInvalid := "recording_cut_recovery_invalid"
      contextInvalid := "recording_cut_recovery_invalid"
      completedCurrent := "recording_cut_completed_evidence_replay"
      completedDrifted := "recording_cut_completed_evidence_replay"
      evidenceInvalid := "recording_cut_recovery_evidence_invalid"
      startingCurrent := "recording_cut_starting_recovery_reconcile_only"
      startingFenced := "recording_cut_starting_context_fenced_reconcile_only" }

def recordingCutRecordShape : NativeRecordShape :=
  { recordingMarksModifyRecordShape with undecided := "-" }

def backendAgentRecordingCutSerializeLocalState (state : BackendAgentRecordingCutLocalState) :
    Except String Bytes :=
  match backendAgentRecordingCutLocalStateValid state with
  | .error reason => .error reason
  | .ok _ =>
    let payload := backendAgentRecordingCutPayload (recordingCutPayloadFor state.command)
    if payload = [] then .error "recording_cut_state_payload_invalid"
    else
      let encoded :=
        recordingCutRecordShape.write state.command.toNativeCommandEnvelope payload state
      if encoded.length > recordingCutRecordShape.maximumBytes then
        .error "recording_cut_local_state_too_large"
      else .ok encoded

def backendAgentRecordingCutParseLocalState (encoded : Bytes) :
    Option BackendAgentRecordingCutLocalState := do
  let fields ← recordingCutRecordShape.read encoded
  let payload ← backendAgentRecordingCutParsePayload fields.payload
  let command := recordingCutCommandFor fields.commandId fields.requestFingerprint
    fields.operationId fields.jobId fields.attemptId fields.claimEpoch fields.agentId
    fields.agentInstanceId payload
  let evidence ← parseEvidenceColumns recordingCutRecordShape.undecided {}
    command.toNativeCommandEnvelope.identity fields.phase fields.localStartingPersistedAt
    fields.outcome fields.dispatchStartedAt fields.completedAt fields.evidenceReference
  let candidate : BackendAgentRecordingCutLocalState :=
    { phase := fields.phase, command
      localStartingPersistedAt := fields.localStartingPersistedAt, evidence }
  if fields.claimEpoch = 0 ∨ fields.localStartingPersistedAt = 0 ∨
      (fields.phase = .completed ∧ fields.completedAt = 0) then none
  else
    match backendAgentRecordingCutSerializeLocalState candidate with
    | .error _ => none
    | .ok canonical => if canonical = encoded then some candidate else none

end VdrSuite.Agent
