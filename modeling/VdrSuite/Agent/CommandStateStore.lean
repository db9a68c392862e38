import VdrSuite.Agent.CommandStateExtension

/-! The durable state of the one command an agent holds: its file and the checks on both ways. -/

set_option autoImplicit false

namespace VdrSuite.Agent

open Library

/-- The state of a command. Result and extension are present or absent as a whole. -/
structure LocalState where
  assignment : BackendAgentCommandAssignment := {}
  receipt : BackendAgentCommandReceipt := {}
  result : Option BackendAgentCommandResult := none
  receiptAcknowledged : Bool := false
  resultAcknowledged : Bool := false
  dispatchState : Bytes := text "not_started"
  nativeCapabilityEvidence : Bytes := []
  pluginInstanceEpoch : Bytes := []
  probeNonce : Bytes := []
  nativeExecutionSequence : Nat := 0
  nativeReceiptEvidence : Bytes := []
  nativeResultEvidence : Bytes := []
  nativeReadbackEvidence : Bytes := []
  stateExtension : Option BackendAgentCommandStateExtension := none
  deriving DecidableEq

def maximumStateBytes : Nat := 65536

/-! ## Keys -/

def legacyKeys : List Bytes :=
  ["version", "protocol_version", "request_id", "correlation_id", "operation_id", "job_id",
    "attempt_id", "claim_epoch", "command_id", "backend_id", "agent_id", "agent_instance_id",
    "backend_generation", "command_type", "payload_version", "payload", "request_fingerprint",
    "verification_policy", "assigned_at", "deadline", "receipt_category", "received_at",
    "receipt_reason", "receipt_acknowledged", "dispatch_state", "result_present",
    "result_acknowledged", "verification_state", "result_category", "error_category",
    "retry_classification", "bounded_diagnostics", "completed_at"].map text

def currentKeys : List Bytes :=
  legacyKeys ++
    ["native_capability_evidence", "plugin_instance_epoch", "probe_nonce",
      "native_execution_sequence", "native_receipt_evidence", "native_result_evidence",
      "native_readback_evidence"].map text

def extendedKeys : List Bytes := currentKeys ++ [text "state_extension"]

def mediaImportKeys : List Bytes := extendedKeys ++ [text "media_import_recording_evidence"]

/-! ## Evidence of results -/

def validImportEvidenceForAssignment (assignment : BackendAgentCommandAssignment)
    (evidence : Bytes) : Bool :=
  evidence.isEmpty || (parseMediaImportResultEvidence evidence).isSome ||
  match parseMediaImportSelection assignment.payload with
  | none => false
  | some (sourceId, choice) => evidence == mediaImportMarkerEvidence sourceId choice

def validCleanupEvidence (evidence : Bytes) : Bool :=
  evidence.isEmpty || evidence == text "media-tools-cleanup:removed" ||
  evidence == text "media-tools-cleanup:already-absent" ||
  evidence == text "media-tools-cleanup:not-performed" ||
  evidence == text "media-tools-cleanup:failed"

def isMediaImport (assignment : BackendAgentCommandAssignment) : Bool :=
  assignment.commandType == mediaImportCommandType ||
  assignment.commandType == mediaImportReadbackCommandType

def validMediaEvidence (assignment : BackendAgentCommandAssignment) (evidence : Bytes) : Bool :=
  if assignment.commandType = mediaImportCommandType then
    validImportEvidenceForAssignment assignment evidence
  else if assignment.commandType = mediaImportReadbackCommandType then
    validCleanupEvidence evidence
  else true

/-- The one deletion result without native evidence: the deadline passed before any durable start. -/
def deleteExpiredBeforeDispatch (state : LocalState) (result : BackendAgentCommandResult) : Bool :=
  state.receiptAcknowledged && state.stateExtension.isNone &&
  state.dispatchState == text "not_started" &&
  result.dispatchState == text "not_started" &&
  result.verificationState == text "outcome_unknown" &&
  result.resultCategory == text "rejected" &&
  result.errorCategory == text "expired" &&
  result.retryClassification == text "none" &&
  result.boundedDiagnostics == text "command deadline expired before native dispatch" &&
  result.resultEvidence.isEmpty &&
  decide (state.assignment.deadline ≤ result.completedAt)

def completedEvidence {Command Identity : Type}
    (parse : Bytes → Option (NativeLocalState Command Identity))
    (resultEvidence : NativeEvidence Identity → BackendAgentCommandAssignment → Bytes)
    (assignment : BackendAgentCommandAssignment)
    (extension : Option BackendAgentCommandStateExtension) : Option Bytes :=
  match extension with
  | none => none
  | some extension =>
    match parse extension.payload with
    | none => none
    | some localState =>
      if localState.phase = .completed then
        some (resultEvidence localState.evidence assignment)
      else none

def createEvidence : BackendAgentCommandAssignment → Option BackendAgentCommandStateExtension →
    Option Bytes :=
  completedEvidence backendAgentNativeTimerCreateParseLocalState
    backendAgentNativeTimerCreateResultEvidence

def deleteEvidence : BackendAgentCommandAssignment → Option BackendAgentCommandStateExtension →
    Option Bytes :=
  completedEvidence backendAgentNativeTimerDeleteParseLocalState
    backendAgentNativeTimerDeleteResultEvidence

def modifyEvidence : BackendAgentCommandAssignment → Option BackendAgentCommandStateExtension →
    Option Bytes :=
  completedEvidence backendAgentNativeTimerModifyParseLocalState
    backendAgentNativeTimerModifyResultEvidence

def checkResultEvidence (invalid conflict : String) (expected : Option Bytes)
    (result : BackendAgentCommandResult) : Except String Unit :=
  match expected with
  | none => .error invalid
  | some evidence =>
    if evidence = [] ∨ result.resultEvidence ≠ evidence then .error conflict else .ok ()

def checkTimerResult (state : LocalState) (result : BackendAgentCommandResult) :
    Except String Unit :=
  let assignment := state.assignment
  if assignment.commandType = nativeTimerCreateCommandType then
    checkResultEvidence "command_state_invalid_create_result_evidence"
      "command_state_create_result_evidence_conflict"
      (createEvidence assignment state.stateExtension) result
  else if assignment.commandType = nativeTimerDeleteCommandType then
    if state.stateExtension.isNone then
      if deleteExpiredBeforeDispatch state result then .ok ()
      else .error "command_state_invalid_delete_result_evidence"
    else
      checkResultEvidence "command_state_invalid_delete_result_evidence"
        "command_state_delete_result_evidence_conflict"
        (deleteEvidence assignment state.stateExtension) result
  else if assignment.commandType = nativeTimerUpdateCommandType ∨
      assignment.commandType = nativeTimerToggleCommandType then
    checkResultEvidence "command_state_invalid_modify_result_evidence"
      "command_state_modify_result_evidence_conflict"
      (modifyEvidence assignment state.stateExtension) result
  else .ok ()

def checkPersistedResult (state : LocalState) (result : BackendAgentCommandResult) :
    Except String Unit :=
  match checkTimerResult state result with
  | .error reason => .error reason
  | .ok _ =>
    if validMediaEvidence state.assignment result.resultEvidence then .ok ()
    else .error "command_state_invalid_media_recording_evidence"

/-! ## Writing -/

def boolText (value : Bool) : Bytes := if value then text "1" else text "0"

def stateKeys (assignment : BackendAgentCommandAssignment) : List Bytes :=
  if isMediaImport assignment then mediaImportKeys else extendedKeys

def stateValues (state : LocalState) (stateExtension : Bytes) : List Bytes :=
  let assignment := state.assignment
  let column := fun project : BackendAgentCommandResult → Bytes =>
    (state.result.map project).getD []
  [if isMediaImport assignment then text "4" else text "3", assignment.protocolVersion,
    assignment.requestId, assignment.correlationId, assignment.operationId, assignment.jobId,
    assignment.attemptId, decimal assignment.claimEpoch, assignment.commandId,
    assignment.backendId, assignment.agentId, assignment.agentInstanceId,
    decimal assignment.backendGeneration, assignment.commandType,
    decimal assignment.payloadVersion, assignment.payload, assignment.requestFingerprint,
    assignment.verificationPolicy, signedDecimal assignment.assignedAt,
    signedDecimal assignment.deadline, state.receipt.receiptCategory,
    signedDecimal state.receipt.receivedAt, state.receipt.reasonCode,
    boolText state.receiptAcknowledged, state.dispatchState, boolText state.result.isSome,
    boolText state.resultAcknowledged, column (·.verificationState), column (·.resultCategory),
    column (·.errorCategory), column (·.retryClassification), column (·.boundedDiagnostics),
    signedDecimal ((state.result.map (·.completedAt)).getD 0), state.nativeCapabilityEvidence,
    state.pluginInstanceEpoch, state.probeNonce, decimal state.nativeExecutionSequence,
    state.nativeReceiptEvidence, state.nativeResultEvidence, state.nativeReadbackEvidence,
    stateExtension] ++
  (if isMediaImport assignment then [column (·.resultEvidence)] else [])

def stateEntries (state : LocalState) (stateExtension : Bytes) : List (Bytes × Bytes) :=
  (stateKeys state.assignment).zip (stateValues state stateExtension)

def extensionColumn (state : LocalState) : Option Bytes :=
  match state.stateExtension with
  | none => some []
  | some extension =>
    if backendAgentCommandStateExtensionValidateSupported extension state.assignment = false then
      none
    else backendAgentCommandStateExtensionSerialize extension state.assignment

/-- The content `persist` writes to a path, or the reason why it writes nothing. -/
def stateContent (path : Bytes) (state : LocalState) : Except String Bytes :=
  match extensionColumn state with
  | none => .error "command_state_invalid_extension"
  | some stateExtension =>
    let checked : Except String Unit :=
      match state.result with
      | none => .ok ()
      | some result => checkPersistedResult state result
    match checked with
    | .error reason => .error reason
    | .ok _ =>
      let content := LineRecord.write (stateEntries state stateExtension)
      if path.isEmpty ∨ path.head? ≠ some 47 ∨ content.length > maximumStateBytes then
        .error "invalid_command_state_path"
      else .ok content

/-! ## Reading -/

def stateNumber (token : Bytes) : Option Nat :=
  if token.length > 19 then none else parseDecimal int64Max token

def readStateFile (content : Option Bytes) : Except String (List (Bytes × Bytes)) :=
  match content with
  | none => .error "command_state_not_found"
  | some content =>
    if content.length > maximumStateBytes then .error "command_state_unprotected"
    else
      match LineRecord.read content with
      | none => .error "command_state_invalid"
      | some values => .ok values

structure StateNumbers where
  claim : Nat
  generation : Nat
  payloadVersion : Nat
  assigned : Nat
  deadline : Nat
  received : Nat
  completed : Nat
  nativeSequence : Nat
  deriving DecidableEq

def readStateNumbers (value : String → Bytes) (nativeState : Bool) : Option StateNumbers := do
  let claim ← stateNumber (value "claim_epoch")
  let generation ← stateNumber (value "backend_generation")
  let payloadVersion ← stateNumber (value "payload_version")
  let assigned ← stateNumber (value "assigned_at")
  let deadline ← stateNumber (value "deadline")
  let received ← stateNumber (value "received_at")
  let completed ← stateNumber (value "completed_at")
  let nativeSequence ← if nativeState then stateNumber (value "native_execution_sequence") else some 0
  some
    { claim, generation, payloadVersion, assigned, deadline, received, completed, nativeSequence }

def readStateAssignment (value : String → Bytes) (numbers : StateNumbers) :
    BackendAgentCommandAssignment :=
  { present := true
    protocolVersion := value "protocol_version"
    requestId := value "request_id"
    correlationId := value "correlation_id"
    operationId := value "operation_id"
    jobId := value "job_id"
    attemptId := value "attempt_id"
    claimEpoch := numbers.claim
    commandId := value "command_id"
    backendId := value "backend_id"
    agentId := value "agent_id"
    agentInstanceId := value "agent_instance_id"
    backendGeneration := numbers.generation
    commandType := value "command_type"
    payloadVersion := numbers.payloadVersion
    payload := value "payload"
    requestFingerprint := value "request_fingerprint"
    verificationPolicy := value "verification_policy"
    assignedAt := numbers.assigned
    deadline := numbers.deadline }

/-- A receipt of an assignment: everything but category, time and reason is the assignment's. -/
def receiptFor (assignment : BackendAgentCommandAssignment) (receiptCategory : Bytes)
    (receivedAt : Int) (reasonCode : Bytes) : BackendAgentCommandReceipt :=
  { commandId := assignment.commandId
    requestFingerprint := assignment.requestFingerprint
    jobId := assignment.jobId
    attemptId := assignment.attemptId
    claimEpoch := assignment.claimEpoch
    backendId := assignment.backendId
    agentId := assignment.agentId
    agentInstanceId := assignment.agentInstanceId
    backendGeneration := assignment.backendGeneration
    receiptCategory, receivedAt, reasonCode }

def resultFor (assignment : BackendAgentCommandAssignment) (dispatchState verificationState
    resultCategory errorCategory retryClassification boundedDiagnostics : Bytes)
    (completedAt : Int) : BackendAgentCommandResult :=
  { commandId := assignment.commandId
    requestFingerprint := assignment.requestFingerprint
    jobId := assignment.jobId
    attemptId := assignment.attemptId
    claimEpoch := assignment.claimEpoch
    backendId := assignment.backendId
    agentId := assignment.agentId
    agentInstanceId := assignment.agentInstanceId
    backendGeneration := assignment.backendGeneration
    dispatchState, verificationState, resultCategory, errorCategory, retryClassification
    boundedDiagnostics, completedAt }

def nativeEvidenceLoadable (state : LocalState) : Bool :=
  backendAgentCommandSafeText state.nativeCapabilityEvidence 4096 &&
  backendAgentCommandSafeText state.nativeReceiptEvidence 4096 &&
  backendAgentCommandSafeText state.nativeResultEvidence 4096 &&
  backendAgentCommandSafeText state.nativeReadbackEvidence 4096 &&
  (state.pluginInstanceEpoch.isEmpty ||
    backendAgentCommandSafeIdentifier state.pluginInstanceEpoch) &&
  (state.probeNonce.isEmpty || backendAgentCommandSafeIdentifier state.probeNonce)

def evidenceOf (invalid : String) (expected : Option Bytes) : Except String Bytes :=
  match expected with
  | none => .error invalid
  | some evidence => if evidence = [] then .error invalid else .ok evidence

def loadResultEvidence (state : LocalState) (result : BackendAgentCommandResult) :
    Except String Bytes :=
  let assignment := state.assignment
  if assignment.commandType = nativeTimerCreateCommandType then
    evidenceOf "command_state_invalid_create_result_evidence"
      (createEvidence assignment state.stateExtension)
  else if assignment.commandType = nativeTimerDeleteCommandType then
    if state.stateExtension.isNone then
      if deleteExpiredBeforeDispatch state result then .ok result.resultEvidence
      else .error "command_state_invalid_delete_result_evidence"
    else
      evidenceOf "command_state_invalid_delete_result_evidence"
        (deleteEvidence assignment state.stateExtension)
  else if assignment.commandType = nativeTimerUpdateCommandType ∨
      assignment.commandType = nativeTimerToggleCommandType then
    evidenceOf "command_state_invalid_modify_result_evidence"
      (modifyEvidence assignment state.stateExtension)
  else .ok result.resultEvidence

def loadExtension (encoded : Bytes) (assignment : BackendAgentCommandAssignment) :
    Except String (Option BackendAgentCommandStateExtension) :=
  if encoded = [] then .ok none
  else
    match backendAgentCommandStateExtensionParse encoded assignment with
    | none => .error "command_state_invalid_extension"
    | some extension =>
      if backendAgentCommandStateExtensionValidateSupported extension assignment then
        .ok (some extension)
      else .error "command_state_invalid_extension"

def readResult (state : LocalState) (value : String → Bytes) (completed : Nat)
    (mediaVersion : Bool) : BackendAgentCommandResult :=
  let result := resultFor state.assignment state.dispatchState (value "verification_state")
    (value "result_category") (value "error_category") (value "retry_classification")
    (value "bounded_diagnostics") completed
  if mediaVersion then { result with resultEvidence := value "media_import_recording_evidence" }
  else result

def loadResult (state : LocalState) (value : String → Bytes) (completed : Nat) (mediaVersion : Bool) :
    Except String BackendAgentCommandResult :=
  let assignment := state.assignment
  let result := readResult state value completed mediaVersion
  if mediaVersion = true ∧
      (if assignment.commandType = mediaImportCommandType then
        validImportEvidenceForAssignment assignment result.resultEvidence
      else validCleanupEvidence result.resultEvidence) = false then
    .error "command_state_invalid_media_recording_evidence"
  else
    match loadResultEvidence state result with
    | .error reason => .error reason
    | .ok resultEvidence =>
      let result := { result with resultEvidence := resultEvidence }
      if backendAgentCommandValidResult result then .ok result
      else .error "command_state_invalid_result"

def resetReceipt (nativeState : Bool) (state : LocalState) : LocalState :=
  if nativeState = true ∧ state.assignment.commandType = nativeProbeCommandType ∧
      state.assignment.payloadVersion = 2 ∧ state.result.isNone ∧
      state.receiptAcknowledged = true then
    { state with receiptAcknowledged := false }
  else state

def readColumns (value : String → Bytes) (nativeState : Bool) (numbers : StateNumbers) :
    LocalState :=
  let assignment := readStateAssignment value numbers
  let native := fun key : String => if nativeState then value key else []
  { assignment
    receipt := receiptFor assignment (value "receipt_category") numbers.received
      (value "receipt_reason")
    receiptAcknowledged := value "receipt_acknowledged" == text "1"
    resultAcknowledged := value "result_acknowledged" == text "1"
    dispatchState := value "dispatch_state"
    nativeCapabilityEvidence := native "native_capability_evidence"
    pluginInstanceEpoch := native "plugin_instance_epoch"
    probeNonce := native "probe_nonce"
    nativeExecutionSequence := numbers.nativeSequence
    nativeReceiptEvidence := native "native_receipt_evidence"
    nativeResultEvidence := native "native_result_evidence"
    nativeReadbackEvidence := native "native_readback_evidence" }

def loadColumns (value : String → Bytes) (nativeState extended mediaVersion : Bool) :
    Except String LocalState :=
  match readStateNumbers value nativeState with
  | none => .error "command_state_invalid"
  | some numbers =>
    let state := readColumns value nativeState numbers
    if backendAgentCommandValidAssignment state.assignment = false then
      .error "command_state_invalid_assignment"
    else if mediaVersion = true ∧ isMediaImport state.assignment = false then
      .error "command_state_invalid_media_version"
    else if nativeState = true ∧ nativeEvidenceLoadable state = false then
      .error "command_state_invalid_native_evidence"
    else
      let encoded := if extended || mediaVersion then value "state_extension" else []
      match loadExtension encoded state.assignment with
      | .error reason => .error reason
      | .ok stateExtension =>
        let state := { state with stateExtension := stateExtension }
        if value "result_present" = text "1" then
          match loadResult state value numbers.completed mediaVersion with
          | .error reason => .error reason
          | .ok result => .ok (resetReceipt nativeState { state with result := some result })
        else if mediaVersion = true ∧ value "media_import_recording_evidence" ≠ [] then
          .error "command_state_unexpected_media_recording_evidence"
        else .ok (resetReceipt nativeState state)

def load (content : Option Bytes) : Except String LocalState :=
  match readStateFile content with
  | .error reason => .error reason
  | .ok values =>
    let value := fun key : String => LineRecord.get values (text key)
    let legacy := value "version" == text "1"
    let current := value "version" == text "2"
    let extended := value "version" == text "3"
    let mediaVersion := value "version" == text "4"
    let expectedKeys :=
      if legacy then legacyKeys else if current then currentKeys
      else if extended then extendedKeys else mediaImportKeys
    if (legacy || current || extended || mediaVersion) = false ∨
        LineRecord.exactKeys values expectedKeys = false then .error "command_state_invalid"
    else loadColumns value (current || extended || mediaVersion) extended mediaVersion

end VdrSuite.Agent
