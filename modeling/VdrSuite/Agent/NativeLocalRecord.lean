import VdrSuite.Agent.Command
import VdrSuite.Library.LineRecord

/-! Line records of native local states: what the families that use them share. -/

set_option autoImplicit false

namespace VdrSuite.Agent

open Library

def boundedIdentity (maximum : Nat) (value : Bytes) : Bool :=
  !value.isEmpty && value.length ≤ maximum

/-! ## Starting -/

section Starting

variable {Command : Type} (envelope : Command → NativeCommandEnvelope)
  (valid : NativeLocalState Command NativeCommandIdentity → Except String Unit)

def prepareLocalStarting (commandFromAssignment : BackendAgentCommandAssignment → Except String Command)
    (timeFenced : String) (positiveTime : Bool) (assignment : BackendAgentCommandAssignment)
    (now : Int) : Except String (NativeLocalState Command NativeCommandIdentity) :=
  match commandFromAssignment assignment with
  | .error reason => .error reason
  | .ok command =>
    if (positiveTime = true ∧ now ≤ 0) ∨ now < (envelope command).controlPlaneClaimedAt ∨
        now > assignment.deadline then .error timeFenced
    else
      let candidate : NativeLocalState Command NativeCommandIdentity :=
        { command := command, localStartingPersistedAt := now, evidence := { identity := {} } }
      match valid candidate with
      | .error reason => .error reason
      | .ok _ => .ok candidate

end Starting

/-! ## Evidence columns -/

/-- Outcome, dispatch, completion and reference of a state; a starting one has none of them. -/
def evidenceColumns {Command Identity : Type} (undecided : String)
    (state : NativeLocalState Command Identity) : Bytes × Bytes × Bytes × Bytes :=
  match state.phase with
  | .starting => (text undecided, text "0", text "0", [])
  | .completed =>
    (outcomeName state.evidence.outcome, signedDecimal state.evidence.dispatchStartedAt,
      signedDecimal state.evidence.completedAt, state.evidence.evidenceReference)

def parseEvidenceColumns {Identity : Type} (undecided : String) (unset identity : Identity)
    (phase : NativeLocalPhase) (localStartingPersistedAt : Int) (outcome : Bytes)
    (dispatchStartedAt completedAt : Int) (evidenceReference : Bytes) :
    Option (NativeEvidence Identity) :=
  match phase with
  | .starting =>
    if outcome ≠ text undecided ∨ dispatchStartedAt ≠ 0 ∨ completedAt ≠ 0 ∨
        evidenceReference ≠ [] then none
    else some { identity := unset }
  | .completed =>
    match parseOutcome outcome with
    | none => none
    | some outcome =>
      some
        { identity, localStartingPersistedAt, outcome, dispatchStartedAt, completedAt
          evidenceReference }

/-! ## Records with an encoded payload -/

/-- How a family writes its record: under which keys and in which form the texts stand that need
not be identifiers. -/
structure NativeRecordShape where
  maximumBytes : Nat
  fingerprintKey : String
  referenceKey : String
  writeText : Bytes → Bytes
  readText : Bytes → Option Bytes
  undecided : String

def NativeRecordShape.keys (shape : NativeRecordShape) : List Bytes :=
  ["schema", "phase", "command_id", shape.fingerprintKey, "operation_id", "payload_hex", "job_id",
    "attempt_id", "claim_epoch", "agent_id", "agent_instance_id", "local_starting_persisted_at",
    "outcome", "dispatch_started_at", "completed_at", shape.referenceKey].map text

def NativeRecordShape.write {Command Identity : Type} (shape : NativeRecordShape)
    (envelope : NativeCommandEnvelope) (payload : Bytes)
    (state : NativeLocalState Command Identity) : Bytes :=
  let (outcome, dispatchStartedAt, completedAt, reference) := evidenceColumns shape.undecided state
  LineRecord.write (shape.keys.zip
    [text "1", phaseName state.phase, envelope.commandId,
      shape.writeText envelope.requestFingerprint, envelope.operationId, Hex.encode payload,
      envelope.jobId, envelope.attemptId, decimal envelope.claimEpoch, envelope.agentId,
      envelope.agentInstanceId, signedDecimal state.localStartingPersistedAt, outcome,
      dispatchStartedAt, completedAt, shape.writeText reference])

structure NativeRecordFields where
  phase : NativeLocalPhase
  commandId : Bytes
  requestFingerprint : Bytes
  operationId : Bytes
  payload : Bytes
  jobId : Bytes
  attemptId : Bytes
  claimEpoch : Nat
  agentId : Bytes
  agentInstanceId : Bytes
  localStartingPersistedAt : Int
  outcome : Bytes
  dispatchStartedAt : Int
  completedAt : Int
  evidenceReference : Bytes
  deriving DecidableEq

def NativeRecordShape.read (shape : NativeRecordShape) (encoded : Bytes) :
    Option NativeRecordFields :=
  if encoded.isEmpty ∨ encoded.length > shape.maximumBytes then none
  else do
    let values ← LineRecord.read encoded
    let value := fun key : String => LineRecord.get values (text key)
    if LineRecord.exactKeys values shape.keys = false ∨ value "schema" ≠ text "1" then none
    else
      let phase ← parsePhase (value "phase")
      let requestFingerprint ← shape.readText (value shape.fingerprintKey)
      let payload ← Hex.decode (value "payload_hex")
      let claimEpoch ← parseDecimal int64Max (value "claim_epoch")
      let localStartingPersistedAt ←
        parseDecimal int64Max (value "local_starting_persisted_at")
      let dispatchStartedAt ← parseDecimal int64Max (value "dispatch_started_at")
      let completedAt ← parseDecimal int64Max (value "completed_at")
      let evidenceReference ← shape.readText (value shape.referenceKey)
      some
        { phase
          commandId := value "command_id"
          requestFingerprint
          operationId := value "operation_id"
          payload
          jobId := value "job_id"
          attemptId := value "attempt_id"
          claimEpoch
          agentId := value "agent_id"
          agentInstanceId := value "agent_instance_id"
          localStartingPersistedAt
          outcome := value "outcome"
          dispatchStartedAt, completedAt, evidenceReference }

/-! ## Result evidence -/

/-- Like `parseDecimal`, with at most nineteen digits and no leading zero. -/
def parseNumber (token : Bytes) : Option Nat :=
  if token.length > 19 ∨ (token.length > 1 ∧ token.head? = some 48) then none
  else parseDecimal int64Max token

def parseResultTime (positive : Bool) (token : Bytes) : Option Int :=
  match parseNumber token with
  | none => none
  | some value => if positive && value == 0 then none else some value

def parseResultFields {Identity : Type} (heading : String) (identity : Identity) (encoded : Bytes) :
    Option (NativeEvidence Identity) :=
  if encoded.length > 4096 ∨ backendAgentCommandSafeText encoded 4096 = false then none
  else
    match Netstring.readDocument 4096 5 (text heading) encoded with
    | some [outcome, localStartingPersistedAt, dispatchStartedAt, completedAt,
        evidenceReference] => do
        let outcome ← parseOutcome outcome
        let localStartingPersistedAt ← parseResultTime true localStartingPersistedAt
        let dispatchStartedAt ← parseResultTime false dispatchStartedAt
        let completedAt ← parseResultTime true completedAt
        some
          { identity, localStartingPersistedAt, outcome, dispatchStartedAt, completedAt
            evidenceReference }
    | _ => none

end VdrSuite.Agent
