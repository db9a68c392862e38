import VdrSuite.Core.CommandDelivery

/-! Read-back of recording commands: a marks or cut command that its executor accepted is completed
by an observation of the result. -/

set_option autoImplicit false

namespace VdrSuite.Core

open Library Agent

/-! ## The two families -/

/-- An observation; `observed` is the canonical marks revision or, of a cut, the edited key. -/
structure ReadbackRequest where
  commandId : Bytes
  requestFingerprint : Bytes
  recordingKey : Bytes
  expectedMarksRevision : Bytes
  observed : Bytes
  observedAt : Int
  deriving DecidableEq

/-- A row of `backend_agent_recording_marks_modify_readbacks` or of
`backend_agent_recording_cut_readbacks`. -/
structure RecordingVerification where
  commandId : Bytes
  requestFingerprint : Bytes
  operationId : Bytes
  backendId : Bytes
  recordingKey : Bytes
  expectedMarksRevision : Bytes
  observed : Bytes
  verifiedAt : Int
  deriving DecidableEq

structure RecordingPayload where
  recordingKey : Bytes
  expectedMarksRevision : Bytes
  backendId : Bytes
  backendGeneration : Nat
  controlPlaneClaimedAt : Int
  localProviderSelection : BackendAgentLocalProviderSelection

structure ReadbackReasons where
  invalid : String
  repositoryError : String
  replayed : String
  conflict : String
  candidateNotFound : String
  candidateConflict : String
  stateMismatch : String
  selectionRequired : String
  selectionMismatch : String
  selectionStale : String
  verified : String

structure RecordingReconciliation where
  commandType : Bytes
  authorityDomain : Bytes
  providerId : Bytes
  providerKind : Bytes
  capability : Bytes
  /-- What the executor's diagnostics say before the evidence token. -/
  evidence : Bytes
  /-- What an observation must differ from, given the recording key and the expected revision. -/
  replaced : Bytes → Bytes → Bytes
  parsePayload : Bytes → Option RecordingPayload
  /-- Whether the recorded selection must be the payload's too. -/
  payloadFence : Bool
  reasons : ReadbackReasons

def recordingMarksModifyReconciliation : RecordingReconciliation where
  commandType := recordingMarksModifyCommandType
  authorityDomain := text "vdr.recording.marks"
  providerId := text "suitebridge:recording-marks"
  providerKind := text "suitebridge"
  capability := text "vdr.recording.marks.modify"
  evidence := text "recording marks modify accepted; readback reconciliation required; " ++
    text "evidence=nmarks:vdr:postrev:"
  replaced := fun _ expectedMarksRevision => expectedMarksRevision
  parsePayload := fun encoded => (backendAgentRecordingMarksModifyParsePayload encoded).map
    fun payload =>
      { recordingKey := payload.recordingKey
        expectedMarksRevision := payload.expectedMarksRevision
        backendId := payload.backendId
        backendGeneration := payload.backendGeneration
        controlPlaneClaimedAt := payload.controlPlaneClaimedAt
        localProviderSelection := payload.localProviderSelection }
  payloadFence := false
  reasons :=
    { invalid := "recording_marks_modify_readback_invalid"
      repositoryError := "recording_marks_modify_readback_repository_error"
      replayed := "recording_marks_modify_readback_replayed"
      conflict := "recording_marks_modify_readback_conflict"
      candidateNotFound := "recording_marks_modify_readback_candidate_not_found"
      candidateConflict := "recording_marks_modify_readback_candidate_conflict"
      stateMismatch := "recording_marks_modify_readback_state_mismatch"
      selectionRequired := "recording_marks_modify_provider_selection_required"
      selectionMismatch := "recording_marks_modify_provider_selection_mismatch"
      selectionStale := "recording_marks_modify_provider_selection_stale"
      verified := "recording_marks_modify_readback_verified" }

def recordingCutReconciliation : RecordingReconciliation where
  commandType := recordingCutCommandType
  authorityDomain := text "vdr.recording.cut"
  providerId := text "suitebridge:recording-cut"
  providerKind := text "suitebridge"
  capability := text "vdr.recording.cut"
  evidence := text "recording cut accepted; native result reconciliation required; " ++
    text "evidence=ncut:vdr:queued:"
  replaced := fun recordingKey _ => recordingKey
  parsePayload := fun encoded => (backendAgentRecordingCutParsePayload encoded).map
    fun payload =>
      { recordingKey := payload.recordingKey
        expectedMarksRevision := payload.expectedMarksRevision
        backendId := payload.backendId
        backendGeneration := payload.backendGeneration
        controlPlaneClaimedAt := payload.controlPlaneClaimedAt
        localProviderSelection := payload.localProviderSelection }
  payloadFence := true
  reasons :=
    { invalid := "recording_cut_readback_invalid"
      repositoryError := "recording_cut_readback_repository_error"
      replayed := "recording_cut_readback_replayed"
      conflict := "recording_cut_readback_conflict"
      candidateNotFound := "recording_cut_readback_candidate_not_found"
      candidateConflict := "recording_cut_readback_candidate_conflict"
      stateMismatch := "recording_cut_readback_state_mismatch"
      selectionRequired := "recording_cut_provider_selection_required"
      selectionMismatch := "recording_cut_provider_selection_mismatch"
      selectionStale := "recording_cut_provider_selection_stale"
      verified := "recording_cut_readback_verified" }

/-! ## Reading -/

section Family

variable (family : RecordingReconciliation)

def readbackRequestValid (request : ReadbackRequest) : Bool :=
  backendAgentCommandSafeIdentifier request.commandId &&
  backendAgentCommandSafeIdentifier request.requestFingerprint &&
  recordingRevisionTokenValid request.recordingKey &&
  recordingRevisionTokenValid request.expectedMarksRevision &&
  recordingRevisionTokenValid request.observed &&
  request.observed != family.replaced request.recordingKey request.expectedMarksRevision &&
  decide (0 < request.observedAt)

def readVerification (row : RecordingVerification) : Bool :=
  backendAgentCommandSafeIdentifier row.commandId &&
  backendAgentCommandSafeIdentifier row.requestFingerprint &&
  backendAgentCommandSafeIdentifier row.operationId &&
  backendAgentCommandSafeIdentifier row.backendId &&
  recordingRevisionTokenValid row.recordingKey &&
  recordingRevisionTokenValid row.expectedMarksRevision &&
  recordingRevisionTokenValid row.observed &&
  row.observed != family.replaced row.recordingKey row.expectedMarksRevision &&
  decide (0 < row.verifiedAt)

def exactVerificationRequest (row : RecordingVerification) (request : ReadbackRequest) : Bool :=
  row.commandId == request.commandId && row.requestFingerprint == request.requestFingerprint &&
  row.recordingKey == request.recordingKey &&
  row.expectedMarksRevision == request.expectedMarksRevision && row.observed == request.observed

/-- The evidence token in the diagnostics of an accepted command, between the family's text and
the command's identifier. -/
def expectedEvidence (diagnostics commandId : Bytes) : Option Bytes :=
  let suffix := text ":" ++ commandId
  if diagnostics.length ≠ family.evidence.length + 32 + suffix.length ∨
      diagnostics.take family.evidence.length ≠ family.evidence ∨
      diagnostics.drop (diagnostics.length - suffix.length) ≠ suffix then none
  else
    let token := (diagnostics.drop family.evidence.length).take 32
    if recordingRevisionTokenValid token then some token else none

/-- A command that awaits its readback, with its result, its payload and its evidence token. -/
structure ReadbackCandidate where
  command : CommandRow
  result : ResultRow
  payload : RecordingPayload
  token : Bytes

def awaitsReadback (command : CommandRow) (result : ResultRow) (request : ReadbackRequest) : Bool :=
  backendAgentCommandValidAssignment command.assignment &&
  command.assignment.commandType == family.commandType &&
  command.assignment.verificationPolicy == text "readback_required" &&
  command.assignment.requestFingerprint == request.requestFingerprint &&
  command.state == .waitingReconciliation &&
  result.dispatchState == text "accepted_by_executor" &&
  result.verificationState == text "outcome_unknown" &&
  result.resultCategory == text "outcome_unknown" &&
  result.retryClassification == text "reconcile_only"

def payloadFitsReadback (command : CommandRow) (result : ResultRow) (payload : RecordingPayload)
    (request : ReadbackRequest) : Bool :=
  payload.recordingKey == request.recordingKey &&
  payload.expectedMarksRevision == request.expectedMarksRevision &&
  payload.backendId == command.assignment.backendId &&
  payload.backendGeneration == command.assignment.backendGeneration &&
  decide (result.completedAt ≤ request.observedAt) &&
  decide (payload.controlPlaneClaimedAt ≤ request.observedAt)

def readbackCandidate (command : CommandRow) (result : ResultRow) (request : ReadbackRequest) :
    Option ReadbackCandidate :=
  if awaitsReadback family command result request = false then none
  else
    match family.parsePayload command.assignment.payload with
    | none => none
    | some payload =>
      if payloadFitsReadback command result payload request = false then none
      else
        match expectedEvidence family result.boundedDiagnostics command.assignment.commandId with
        | none => none
        | some token => some { command, result, payload, token }

/-- Whether the provider recorded for a candidate is the family's and still the selected one. -/
def readbackProvider (ledger : Ledger) (candidate : ReadbackCandidate)
    (commandId : Bytes) : Except String Unit :=
  let assignment := candidate.command.assignment
  match localProviderSelectionForCommand ledger commandId with
  | none => .error family.reasons.selectionRequired
  | some selected =>
    if (family.payloadFence = true ∧ backendAgentLocalProviderSameFence selected
          candidate.payload.localProviderSelection = false) ∨
        selected.backendId ≠ assignment.backendId ∨
        selected.authorityDomain ≠ family.authorityDomain ∨
        selected.providerId ≠ family.providerId ∨ selected.providerKind ≠ family.providerKind ∨
        selected.requiredCapability ≠ family.capability then
      .error family.reasons.selectionMismatch
    else
      match selectLocalProvider ledger.ownership ledger.facts assignment.backendId
          assignment.agentId assignment.agentInstanceId assignment.backendGeneration
          family.authorityDomain family.capability with
      | .error reason =>
        .error (if reason = "" then family.reasons.selectionStale else reason)
      | .ok current =>
        if backendAgentLocalProviderSameFence selected current then .ok ()
        else .error family.reasons.selectionStale

/-! ## Writing -/

def RecordingVerification.collides (row other : RecordingVerification) : Bool :=
  other.commandId == row.commandId ||
  (other.backendId == row.backendId && other.operationId == row.operationId)

def verificationFor (assignment : BackendAgentCommandAssignment) (request : ReadbackRequest) :
    RecordingVerification :=
  { commandId := assignment.commandId
    requestFingerprint := assignment.requestFingerprint
    operationId := assignment.operationId
    backendId := assignment.backendId
    recordingKey := request.recordingKey
    expectedMarksRevision := request.expectedMarksRevision
    observed := request.observed
    verifiedAt := request.observedAt }

def RecordingVerification.bound (verification : RecordingVerification) : RecordingVerification :=
  { verification with
    commandId := cString verification.commandId
    requestFingerprint := cString verification.requestFingerprint
    operationId := cString verification.operationId
    backendId := cString verification.backendId
    recordingKey := cString verification.recordingKey
    expectedMarksRevision := cString verification.expectedMarksRevision
    observed := cString verification.observed }

def waitingCommand (commandId : Bytes) (row : CommandRow) : Bool :=
  row.assignment.commandId == cString commandId && row.state == .waitingReconciliation

def completeWaiting (commandId : Bytes) (observedAt : Int) (row : CommandRow) : CommandRow :=
  if waitingCommand commandId row then { row with state := .completed, updatedAt := observedAt }
  else row

def Ledger.completeWaiting (ledger : Ledger) (commandId : Bytes) (observedAt : Int) : Ledger :=
  { ledger with commands := ledger.commands.map (Core.completeWaiting commandId observedAt) }

def persistReadback (persists : Bool) (ledger : Ledger) (rows : List RecordingVerification)
    (verification : RecordingVerification) : Option (Ledger × List RecordingVerification) :=
  if persists = false ∨ rows.any verification.bound.collides = true ∨
      (ledger.commands.filter (waitingCommand verification.commandId)).length ≠ 1 then none
  else
    some (ledger.completeWaiting verification.commandId verification.verifiedAt,
      rows ++ [verification.bound])

/-- Which statements the database prepares and steps. A lookup that is prepared and then fails
looks like one that finds no row. -/
structure ReadbackStorage where
  existingPrepared : Bool := true
  existingRead : Bool := true
  candidatePrepared : Bool := true
  candidateRead : Bool := true
  persists : Bool := true
  deriving DecidableEq

abbrev ReadbackAnswer := Except String (RecordingVerification × String)

def verifyCandidate (storage : ReadbackStorage) (ledger : Ledger)
    (rows : List RecordingVerification) (request : ReadbackRequest) :
    (Ledger × List RecordingVerification) × ReadbackAnswer :=
  let refuse := fun reason : String => ((ledger, rows), (.error reason : ReadbackAnswer))
  match localProviderSelectionCurrent ledger request.commandId with
  | .error reason => refuse (if reason = "" then family.reasons.selectionStale else reason)
  | .ok _ =>
    if storage.candidatePrepared = false then refuse family.reasons.repositoryError
    else if storage.candidateRead = false then refuse family.reasons.candidateNotFound
    else
      match ledger.command request.commandId, ledger.result request.commandId with
      | some command, some result =>
        match readbackCandidate family command result request with
        | none => refuse family.reasons.candidateConflict
        | some candidate =>
          if candidate.token =
                family.replaced request.recordingKey request.expectedMarksRevision ∨
              request.observed ≠ candidate.token then
            refuse family.reasons.stateMismatch
          else
            match readbackProvider family ledger candidate request.commandId with
            | .error reason => refuse reason
            | .ok _ =>
              let verification := verificationFor command.assignment request
              match persistReadback storage.persists ledger rows verification with
              | none => refuse family.reasons.repositoryError
              | some updated => (updated, .ok (verification, family.reasons.verified))
      | _, _ => refuse family.reasons.candidateNotFound

def verifyReadback (storage : ReadbackStorage) (ledger : Ledger)
    (rows : List RecordingVerification) (request : ReadbackRequest) :
    (Ledger × List RecordingVerification) × ReadbackAnswer :=
  if readbackRequestValid family request = false then
    ((ledger, rows), .error family.reasons.invalid)
  else if storage.existingPrepared = false then
    ((ledger, rows), .error family.reasons.repositoryError)
  else if storage.existingRead = false then verifyCandidate family storage ledger rows request
  else
    match rows.find? fun row => row.commandId == cString request.commandId with
    | none => verifyCandidate family storage ledger rows request
    | some row =>
      if readVerification family row = true ∧ exactVerificationRequest row request = true then
        ((ledger, rows), .ok (row, family.reasons.replayed))
      else ((ledger, rows), .error family.reasons.conflict)

end Family

def verifyRecordingMarksModifyReadback :=
  verifyReadback recordingMarksModifyReconciliation

def verifyRecordingCutResult :=
  verifyReadback recordingCutReconciliation

/-! ## Runs -/

inductive RecordingCommandKind where
  | marksModify
  | cut
  deriving DecidableEq

def RecordingCommandKind.family : RecordingCommandKind → RecordingReconciliation
  | .marksModify => recordingMarksModifyReconciliation
  | .cut => recordingCutReconciliation

structure ReconciliationState where
  ledger : Ledger := {}
  marksReadbacks : List RecordingVerification := []
  cutReadbacks : List RecordingVerification := []
  deriving DecidableEq

def ReconciliationState.readbacks (state : ReconciliationState) :
    RecordingCommandKind → List RecordingVerification
  | .marksModify => state.marksReadbacks
  | .cut => state.cutReadbacks

inductive ReconciliationCall where
  | verify (kind : RecordingCommandKind) (storage : ReadbackStorage) (request : ReadbackRequest)
  | ledger (call : LedgerCall)

inductive ReconciliationAnswer where
  | readback (answer : ReadbackAnswer)
  | ledger (answer : LedgerAnswer)
  deriving DecidableEq

def reconciliationStep (state : ReconciliationState) :
    ReconciliationCall → ReconciliationState × ReconciliationAnswer
  | .verify .marksModify storage request =>
    let ((ledger, rows), answer) :=
      verifyRecordingMarksModifyReadback storage state.ledger state.marksReadbacks request
    ({ state with ledger := ledger, marksReadbacks := rows }, .readback answer)
  | .verify .cut storage request =>
    let ((ledger, rows), answer) :=
      verifyRecordingCutResult storage state.ledger state.cutReadbacks request
    ({ state with ledger := ledger, cutReadbacks := rows }, .readback answer)
  | .ledger call =>
    let (ledger, answer) := ledgerStep state.ledger call
    ({ state with ledger := ledger }, .ledger answer)

end VdrSuite.Core
