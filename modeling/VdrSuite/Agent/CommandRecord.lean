import VdrSuite.Agent.LocalProvider
import VdrSuite.Library.Hex

/-! Command assignments, receipts and results, their identities and the checks on their fields. -/

set_option autoImplicit false

namespace VdrSuite.Agent

open Library

structure BackendAgentCommandAssignment where
  present : Bool := false
  protocolVersion : Bytes := text "vdr-suite-agent/1"
  requestId : Bytes := []
  correlationId : Bytes := []
  operationId : Bytes := []
  jobId : Bytes := []
  attemptId : Bytes := []
  claimEpoch : Nat := 0
  commandId : Bytes := []
  backendId : Bytes := []
  agentId : Bytes := []
  agentInstanceId : Bytes := []
  backendGeneration : Nat := 0
  commandType : Bytes := []
  payloadVersion : Nat := 0
  payload : Bytes := []
  requestFingerprint : Bytes := []
  verificationPolicy : Bytes := []
  assignedAt : Int := 0
  deadline : Int := 0
  deriving DecidableEq

structure BackendAgentCommandReceipt where
  protocolVersion : Bytes := text "vdr-suite-agent/1"
  commandId : Bytes := []
  requestFingerprint : Bytes := []
  jobId : Bytes := []
  attemptId : Bytes := []
  claimEpoch : Nat := 0
  backendId : Bytes := []
  agentId : Bytes := []
  agentInstanceId : Bytes := []
  backendGeneration : Nat := 0
  receiptCategory : Bytes := []
  receivedAt : Int := 0
  reasonCode : Bytes := []
  deriving DecidableEq

structure BackendAgentCommandResult where
  protocolVersion : Bytes := text "vdr-suite-agent/1"
  commandId : Bytes := []
  requestFingerprint : Bytes := []
  jobId : Bytes := []
  attemptId : Bytes := []
  claimEpoch : Nat := 0
  backendId : Bytes := []
  agentId : Bytes := []
  agentInstanceId : Bytes := []
  backendGeneration : Nat := 0
  dispatchState : Bytes := []
  verificationState : Bytes := []
  resultCategory : Bytes := []
  errorCategory : Bytes := []
  retryClassification : Bytes := []
  boundedDiagnostics : Bytes := []
  resultEvidence : Bytes := []
  completedAt : Int := 0
  deriving DecidableEq

/-- What an assignment, a receipt and a result say about the command they belong to. -/
structure CommandFence where
  commandId : Bytes
  requestFingerprint : Bytes
  jobId : Bytes
  attemptId : Bytes
  claimEpoch : Nat
  backendId : Bytes
  agentId : Bytes
  agentInstanceId : Bytes
  backendGeneration : Nat
  deriving DecidableEq

def BackendAgentCommandAssignment.fence (assignment : BackendAgentCommandAssignment) :
    CommandFence :=
  { commandId := assignment.commandId
    requestFingerprint := assignment.requestFingerprint
    jobId := assignment.jobId
    attemptId := assignment.attemptId
    claimEpoch := assignment.claimEpoch
    backendId := assignment.backendId
    agentId := assignment.agentId
    agentInstanceId := assignment.agentInstanceId
    backendGeneration := assignment.backendGeneration }

def BackendAgentCommandReceipt.fence (receipt : BackendAgentCommandReceipt) : CommandFence :=
  { commandId := receipt.commandId
    requestFingerprint := receipt.requestFingerprint
    jobId := receipt.jobId
    attemptId := receipt.attemptId
    claimEpoch := receipt.claimEpoch
    backendId := receipt.backendId
    agentId := receipt.agentId
    agentInstanceId := receipt.agentInstanceId
    backendGeneration := receipt.backendGeneration }

def BackendAgentCommandResult.fence (result : BackendAgentCommandResult) : CommandFence :=
  { commandId := result.commandId
    requestFingerprint := result.requestFingerprint
    jobId := result.jobId
    attemptId := result.attemptId
    claimEpoch := result.claimEpoch
    backendId := result.backendId
    agentId := result.agentId
    agentInstanceId := result.agentInstanceId
    backendGeneration := result.backendGeneration }

def backendAgentCommandSafeIdentifier (value : Bytes) : Bool := safeIdentifier value

/-- No control character and at most `maximumBytes` bytes. -/
def backendAgentCommandSafeText (value : Bytes) (maximumBytes : Nat) : Bool :=
  value.length ≤ maximumBytes && value.all fun byte => 32 ≤ byte && byte != 127

/-! ## Identities -/

def stableIdentity (value : Bytes) : Bytes :=
  let hash := value.foldl
    (fun hash byte => ((hash ^^^ byte.toNat) * 1099511628211) % 18446744073709551616)
    1469598103934665603
  text "fp1_" ++ Hex.word64 hash

def appendField (value : Bytes) : Bytes := Netstring.field value

def appendUnsigned (value : Nat) : Bytes := decimal value ++ text "|"

def appendSigned (value : Int) : Bytes := signedDecimal value ++ text "|"

def BackendAgentCommandAssignment.canonical (assignment : BackendAgentCommandAssignment) : Bytes :=
  appendField assignment.protocolVersion ++
  appendField assignment.requestId ++
  appendField assignment.correlationId ++
  appendField assignment.operationId ++
  appendField assignment.jobId ++
  appendField assignment.attemptId ++
  appendUnsigned assignment.claimEpoch ++
  appendField assignment.commandId ++
  appendField assignment.backendId ++
  appendField assignment.agentId ++
  appendField assignment.agentInstanceId ++
  appendUnsigned assignment.backendGeneration ++
  appendField assignment.commandType ++
  appendUnsigned assignment.payloadVersion ++
  appendField assignment.payload ++
  appendField assignment.verificationPolicy ++
  appendSigned assignment.assignedAt ++
  appendSigned assignment.deadline

theorem canonical_injective {left right : BackendAgentCommandAssignment}
    (same : left.canonical = right.canonical) :
    right = { left with present := right.present, requestFingerprint := right.requestFingerprint } := by
  unfold BackendAgentCommandAssignment.canonical at same
  simp only [appendField, appendUnsigned, appendSigned, List.append_assoc] at same
  obtain ⟨protocolVersion, same⟩ := Netstring.field_append_inj same
  obtain ⟨requestId, same⟩ := Netstring.field_append_inj same
  obtain ⟨correlationId, same⟩ := Netstring.field_append_inj same
  obtain ⟨operationId, same⟩ := Netstring.field_append_inj same
  obtain ⟨jobId, same⟩ := Netstring.field_append_inj same
  obtain ⟨attemptId, same⟩ := Netstring.field_append_inj same
  obtain ⟨claimEpoch, same⟩ := Netstring.decimal_append_inj same
  obtain ⟨commandId, same⟩ := Netstring.field_append_inj same
  obtain ⟨backendId, same⟩ := Netstring.field_append_inj same
  obtain ⟨agentId, same⟩ := Netstring.field_append_inj same
  obtain ⟨agentInstanceId, same⟩ := Netstring.field_append_inj same
  obtain ⟨backendGeneration, same⟩ := Netstring.decimal_append_inj same
  obtain ⟨commandType, same⟩ := Netstring.field_append_inj same
  obtain ⟨payloadVersion, same⟩ := Netstring.decimal_append_inj same
  obtain ⟨payload, same⟩ := Netstring.field_append_inj same
  obtain ⟨verificationPolicy, same⟩ := Netstring.field_append_inj same
  obtain ⟨assignedAt, same⟩ := Netstring.signedDecimal_append_inj same
  have deadline := signedDecimal_injective (List.append_cancel_right same)
  cases left
  cases right
  rw [BackendAgentCommandAssignment.mk.injEq]
  exact ⟨rfl, protocolVersion.symm, requestId.symm, correlationId.symm, operationId.symm,
    jobId.symm, attemptId.symm, claimEpoch.symm, commandId.symm, backendId.symm, agentId.symm,
    agentInstanceId.symm, backendGeneration.symm, commandType.symm, payloadVersion.symm,
    payload.symm, rfl, verificationPolicy.symm, assignedAt.symm, deadline.symm⟩

def backendAgentCommandFingerprint (assignment : BackendAgentCommandAssignment) : Bytes :=
  stableIdentity assignment.canonical

def BackendAgentCommandReceipt.canonical (receipt : BackendAgentCommandReceipt) : Bytes :=
  appendField receipt.protocolVersion ++
  appendField receipt.commandId ++
  appendField receipt.requestFingerprint ++
  appendField receipt.jobId ++
  appendField receipt.attemptId ++
  appendUnsigned receipt.claimEpoch ++
  appendField receipt.backendId ++
  appendField receipt.agentId ++
  appendField receipt.agentInstanceId ++
  appendUnsigned receipt.backendGeneration ++
  appendField receipt.receiptCategory ++
  appendSigned receipt.receivedAt ++
  appendField receipt.reasonCode

def backendAgentCommandReceiptIdentity (receipt : BackendAgentCommandReceipt) : Bytes :=
  stableIdentity receipt.canonical

def BackendAgentCommandResult.canonical (result : BackendAgentCommandResult) : Bytes :=
  appendField result.protocolVersion ++
  appendField result.commandId ++
  appendField result.requestFingerprint ++
  appendField result.jobId ++
  appendField result.attemptId ++
  appendUnsigned result.claimEpoch ++
  appendField result.backendId ++
  appendField result.agentId ++
  appendField result.agentInstanceId ++
  appendUnsigned result.backendGeneration ++
  appendField result.dispatchState ++
  appendField result.verificationState ++
  appendField result.resultCategory ++
  appendField result.errorCategory ++
  appendField result.retryClassification ++
  appendField result.boundedDiagnostics ++
  (if result.resultEvidence.isEmpty then [] else appendField result.resultEvidence) ++
  appendSigned result.completedAt

def backendAgentCommandResultIdentity (result : BackendAgentCommandResult) : Bytes :=
  stableIdentity result.canonical

/-! ## Validity -/

def allowed (value : Bytes) (values : List String) : Bool :=
  values.any fun candidate => value == text candidate

def backendAgentCommandValidReceipt (value : BackendAgentCommandReceipt) : Bool :=
  value.protocolVersion == text "vdr-suite-agent/1" &&
  backendAgentCommandSafeIdentifier value.commandId &&
  backendAgentCommandSafeIdentifier value.requestFingerprint &&
  backendAgentCommandSafeIdentifier value.jobId &&
  backendAgentCommandSafeIdentifier value.attemptId && 0 < value.claimEpoch &&
  backendAgentCommandSafeIdentifier value.backendId &&
  backendAgentCommandSafeIdentifier value.agentId &&
  backendAgentCommandSafeIdentifier value.agentInstanceId &&
  0 < value.backendGeneration && decide (0 < value.receivedAt) &&
  allowed value.receiptCategory
    ["accepted", "duplicate", "rejected", "expired", "stale", "unsupported", "conflict"] &&
  backendAgentCommandSafeText value.reasonCode 256

def backendAgentCommandValidResult (value : BackendAgentCommandResult) : Bool :=
  value.protocolVersion == text "vdr-suite-agent/1" &&
  backendAgentCommandSafeIdentifier value.commandId &&
  backendAgentCommandSafeIdentifier value.requestFingerprint &&
  backendAgentCommandSafeIdentifier value.jobId &&
  backendAgentCommandSafeIdentifier value.attemptId && 0 < value.claimEpoch &&
  backendAgentCommandSafeIdentifier value.backendId &&
  backendAgentCommandSafeIdentifier value.agentId &&
  backendAgentCommandSafeIdentifier value.agentInstanceId &&
  0 < value.backendGeneration &&
  allowed value.dispatchState
    ["not_started", "starting", "accepted_by_executor", "effect_reported"] &&
  allowed value.verificationState ["not_required", "verified", "outcome_unknown"] &&
  allowed value.resultCategory ["succeeded", "rejected", "outcome_unknown"] &&
  allowed value.errorCategory ["none", "fenced", "expired", "unsupported", "executor_unknown"] &&
  allowed value.retryClassification ["none", "reconcile_only"] &&
  backendAgentCommandSafeText value.boundedDiagnostics 1024 &&
  backendAgentCommandSafeText value.resultEvidence 4096 &&
  decide (0 < value.completedAt)

end VdrSuite.Agent
