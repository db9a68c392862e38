import VdrSuite.Agent.CommandRecord

/-! What the native command families share: outcomes, evidence, the durable local state of one
execution and the rules by which it is completed and recovered. -/

set_option autoImplicit false

namespace VdrSuite.Agent

open Library

inductive NativeOutcomeCategory where
  | rejectedWithoutEffect
  | acceptedUnverified
  | outcomeUnknown
  deriving DecidableEq

inductive NativeLocalPhase where
  | starting
  | completed
  deriving DecidableEq

def outcomeName : NativeOutcomeCategory → Bytes
  | .rejectedWithoutEffect => text "rejected_without_effect"
  | .acceptedUnverified => text "accepted_unverified"
  | .outcomeUnknown => text "outcome_unknown"

def parseOutcome (token : Bytes) : Option NativeOutcomeCategory :=
  if token = text "rejected_without_effect" then some .rejectedWithoutEffect
  else if token = text "accepted_unverified" then some .acceptedUnverified
  else if token = text "outcome_unknown" then some .outcomeUnknown
  else none

def phaseName : NativeLocalPhase → Bytes
  | .starting => text "starting"
  | .completed => text "completed"

def parsePhase (token : Bytes) : Option NativeLocalPhase :=
  if token = text "starting" then some .starting
  else if token = text "completed" then some .completed
  else none

structure NativeCommandIdentity where
  commandId : Bytes := []
  requestFingerprint : Bytes := []
  operationId : Bytes := []
  operationRevision : Bytes := []
  jobId : Bytes := []
  attemptId : Bytes := []
  claimEpoch : Nat := 0
  backendId : Bytes := []
  agentId : Bytes := []
  agentInstanceId : Bytes := []
  backendGeneration : Nat := 0
  providerInstanceEpoch : Bytes := []
  deriving DecidableEq

structure NativeCommandEnvelope where
  commandId : Bytes := []
  requestFingerprint : Bytes := []
  operationId : Bytes := []
  operationRevision : Bytes := []
  jobId : Bytes := []
  attemptId : Bytes := []
  claimEpoch : Nat := 0
  backendId : Bytes := []
  agentId : Bytes := []
  agentInstanceId : Bytes := []
  backendGeneration : Nat := 0
  controlPlaneClaimedAt : Int := 0
  localProviderSelection : BackendAgentLocalProviderSelection := {}
  deriving DecidableEq

def NativeCommandEnvelope.identity (envelope : NativeCommandEnvelope) : NativeCommandIdentity :=
  { commandId := envelope.commandId
    requestFingerprint := envelope.requestFingerprint
    operationId := envelope.operationId
    operationRevision := envelope.operationRevision
    jobId := envelope.jobId
    attemptId := envelope.attemptId
    claimEpoch := envelope.claimEpoch
    backendId := envelope.backendId
    agentId := envelope.agentId
    agentInstanceId := envelope.agentInstanceId
    backendGeneration := envelope.backendGeneration
    providerInstanceEpoch := envelope.localProviderSelection.providerInstanceEpoch }

/-- The agent that executes commands: the fields of the client context that identify it. -/
structure NativeCommandContext where
  backendId : Bytes
  agentId : Bytes
  agentInstanceId : Bytes
  backendGeneration : Nat
  deriving DecidableEq

def NativeCommandEnvelope.sameContext (envelope : NativeCommandEnvelope)
    (context : NativeCommandContext) : Bool :=
  envelope.backendId == context.backendId &&
  envelope.agentId == context.agentId &&
  envelope.agentInstanceId == context.agentInstanceId &&
  envelope.backendGeneration == context.backendGeneration

structure NativeEvidence (Identity : Type) where
  identity : Identity
  localStartingPersistedAt : Int := 0
  outcome : NativeOutcomeCategory := .outcomeUnknown
  dispatchStartedAt : Int := 0
  completedAt : Int := 0
  evidenceReference : Bytes := []
  deriving DecidableEq

structure NativeLocalState (Command Identity : Type) where
  schemaVersion : Nat := 1
  phase : NativeLocalPhase := .starting
  command : Command
  localStartingPersistedAt : Int := 0
  evidence : NativeEvidence Identity
  deriving DecidableEq

inductive NativeRecovery (Identity : Type) where
  | failClosed (reasonCode : String)
  | reconcileOnly (evidence : NativeEvidence Identity) (reasonCode : String)
  | returnPersistedEvidence (evidence : NativeEvidence Identity) (reasonCode : String)

/-- Outcome and times of an execution agree: nothing is dispatched without effect, and a dispatch
lies between the durable start and the completion. -/
def dispatchTimesValid {Identity : Type} (evidence : NativeEvidence Identity) : Bool :=
  if evidence.outcome = .rejectedWithoutEffect then decide (evidence.dispatchStartedAt = 0)
  else
    decide (evidence.localStartingPersistedAt ≤ evidence.dispatchStartedAt) &&
    decide (evidence.dispatchStartedAt ≤ evidence.completedAt)

def exactProviderSelection
    (authorityDomain providerId providerKind requiredCapability : Bytes)
    (selection : BackendAgentLocalProviderSelection) : Bool :=
  backendAgentLocalProviderValidSelection selection &&
  selection.authorityDomain == authorityDomain &&
  selection.providerId == providerId &&
  selection.providerKind == providerKind &&
  selection.requiredCapability == requiredCapability

/-! ## Completion and recovery of a local state -/

section LocalState

variable {Command Identity : Type} (envelope : Command → NativeCommandEnvelope)
  (identity : Command → Identity)
  (valid : NativeLocalState Command Identity → Except String Unit)
  (matchesCommand : NativeEvidence Identity → Command → Bool)

def completeLocalState (notStarting mismatch : String)
    (state : NativeLocalState Command Identity) (evidence : NativeEvidence Identity) :
    Except String (NativeLocalState Command Identity) :=
  if (valid state).toBool = false ∨ state.phase ≠ .starting then .error notStarting
  else if matchesCommand evidence state.command = false ∨
      evidence.localStartingPersistedAt ≠ state.localStartingPersistedAt then .error mismatch
  else
    let candidate := { state with phase := .completed, evidence := evidence }
    match valid candidate with
    | .error reason => .error reason
    | .ok _ => .ok candidate

structure NativeRecoveryReasons where
  stateInvalid : String
  contextInvalid : String
  completedCurrent : String
  completedDrifted : String
  evidenceInvalid : String
  startingCurrent : String
  startingFenced : String

/-- A completed state gives its evidence back. A starting one may have been dispatched already, so
it is never executed again: the outcome is unknown from the durable start on. -/
def recoverLocalState (identifier : Bytes → Bool) (reasons : NativeRecoveryReasons)
    (state : NativeLocalState Command Identity) (context : NativeCommandContext) (now : Int) :
    NativeRecovery Identity :=
  if (valid state).toBool = false then .failClosed reasons.stateInvalid
  else if (identifier context.backendId && identifier context.agentId &&
      identifier context.agentInstanceId) = false ∨ context.backendGeneration = 0 ∨ now ≤ 0 then
    .failClosed reasons.contextInvalid
  else
    let contextCurrent := (envelope state.command).sameContext context
    match state.phase with
    | .completed =>
      .returnPersistedEvidence state.evidence
        (if contextCurrent then reasons.completedCurrent else reasons.completedDrifted)
    | .starting =>
      let evidence : NativeEvidence Identity :=
        { identity := identity state.command
          localStartingPersistedAt := state.localStartingPersistedAt
          outcome := .outcomeUnknown
          dispatchStartedAt := state.localStartingPersistedAt
          completedAt := max now state.localStartingPersistedAt
          evidenceReference := text "local-recovery:" ++ (envelope state.command).commandId }
      if matchesCommand evidence state.command = false then .failClosed reasons.evidenceInvalid
      else
        .reconcileOnly evidence
          (if contextCurrent then reasons.startingCurrent else reasons.startingFenced)

end LocalState

/-! ## Fields of provider selections and result evidence -/

def selectionFields (selection : BackendAgentLocalProviderSelection) : List Bytes :=
  [selection.backendId, selection.authorityDomain, selection.providerId, selection.providerKind,
    decimal selection.ownershipGeneration, selection.providerInstanceEpoch,
    decimal selection.providerGeneration, decimal selection.capabilityRevision,
    selection.requiredCapability]

def parseSelection (positive : Bytes → Option Nat) :
    List Bytes → Option BackendAgentLocalProviderSelection
  | [backendId, authorityDomain, providerId, providerKind, ownershipGeneration,
      providerInstanceEpoch, providerGeneration, capabilityRevision, requiredCapability] => do
      let ownershipGeneration ← positive ownershipGeneration
      let providerGeneration ← positive providerGeneration
      let capabilityRevision ← positive capabilityRevision
      some
        { backendId, authorityDomain, providerId, providerKind, ownershipGeneration
          providerInstanceEpoch, providerGeneration, capabilityRevision, requiredCapability }
  | _ => none

def parseTime (positive : Bool) (token : Bytes) : Option Int :=
  (Netstring.parseUnsigned int64Max positive token).map Int.ofNat

def resultEvidence {Identity : Type} (heading : String) (evidence : NativeEvidence Identity) :
    Bytes :=
  let encoded := text heading ++ Netstring.record
    [outcomeName evidence.outcome, signedDecimal evidence.localStartingPersistedAt,
      signedDecimal evidence.dispatchStartedAt, signedDecimal evidence.completedAt,
      evidence.evidenceReference]
  if encoded.length > 4096 ∨ backendAgentCommandSafeText encoded 4096 = false then []
  else encoded

end VdrSuite.Agent
