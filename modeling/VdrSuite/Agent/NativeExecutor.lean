import VdrSuite.Agent.CommandStateExtension
import VdrSuite.Library.Program

/-! Fresh execution of native commands: the fences before the transport is called, and the evidence
of what came back. -/

set_option autoImplicit false

namespace VdrSuite.Agent

open Library

/-! ## Effects -/

structure NativeTransportRequest (Command : Type) where
  command : Command
  localStartingPersistedAt : Int
  deriving DecidableEq

/-- `other` is a value of the enumeration's type that is none of its enumerators. -/
inductive NativeTransportDisposition where
  | rejectedWithoutEffect
  | acceptedUnverified
  | outcomeUnknown
  | other
  deriving DecidableEq

/-- What a call of the transport's operation gives: a reply or an exception. -/
inductive TransportOutcome where
  | replied (disposition : NativeTransportDisposition) (evidenceReference : Bytes)
  | thrown
  deriving DecidableEq

inductive ProviderDiscovery where
  | found (facts : BackendAgentLocalProviderFacts)
  | refused
  | thrown
  deriving DecidableEq

/-- How a protected write of the state file ends; only a missing directory sync fails after the
file has been replaced. -/
inductive WriteOutcome where
  | openFailed
  | notReplaced
  | notSynchronized
  | persisted
  deriving DecidableEq

/-- What the handlers of a native command do outside: look at the clock, ask the transport and
replace the state file. -/
inductive NativeEffect (Command : Type) where
  | clock
  | discoverProvider
  | dispatch (request : NativeTransportRequest Command)
  | write (content : Bytes)
  deriving DecidableEq

abbrev ClockTime : Type := { time : Int // -int64Max - 1 ≤ time ∧ time ≤ int64Max }

def NativeReply {Command : Type} : NativeEffect Command → Type
  | .clock => ClockTime
  | .discoverProvider => ProviderDiscovery
  | .dispatch _ => TransportOutcome
  | .write _ => WriteOutcome

abbrev NativeProgram (Command Result : Type) : Type :=
  Program (NativeEffect Command) NativeReply Result

/-! ## Execution -/

structure NativeExecutor (Command Identity : Type) where
  label : String
  envelope : Command → NativeCommandEnvelope
  evidenceIdentity : Command → Identity
  localStateValid : NativeLocalState Command Identity → Except String Unit
  commandFromAssignment : BackendAgentCommandAssignment → Except String Command
  sameCommand : Command → Command → Bool
  evidenceMatches : NativeEvidence Identity → Command → Bool

def selectedProviderStillCurrent (selection : BackendAgentLocalProviderSelection)
    (facts : BackendAgentLocalProviderFacts) : Bool :=
  backendAgentLocalProviderValidSelection selection &&
  backendAgentLocalProviderValidFacts facts && facts.available &&
  selection.providerId == facts.providerId &&
  selection.providerKind == facts.providerKind &&
  selection.providerInstanceEpoch == facts.providerInstanceEpoch &&
  selection.providerGeneration == facts.providerGeneration &&
  selection.capabilityRevision == facts.capabilityRevision &&
  decide (selection.requiredCapability ∈ facts.capabilities)

def safeEvidenceReference (value : Bytes) : Bool :=
  !value.isEmpty && backendAgentCommandSafeText value 512

section Execution

variable {Command Identity : Type} (executor : NativeExecutor Command Identity)

def NativeExecutor.evidenceFor (localState : NativeLocalState Command Identity)
    (outcome : NativeOutcomeCategory) (dispatchStartedAt completedAt : Int)
    (evidenceReference : Bytes) : NativeEvidence Identity :=
  { identity := executor.evidenceIdentity localState.command
    localStartingPersistedAt := localState.localStartingPersistedAt
    outcome, dispatchStartedAt, completedAt, evidenceReference }

def NativeExecutor.finish (localState : NativeLocalState Command Identity)
    (outcome : NativeOutcomeCategory) (dispatchStartedAt completedAt : Int) (reference : Bytes) :
    Except String (NativeEvidence Identity) :=
  let candidate :=
    executor.evidenceFor localState outcome dispatchStartedAt completedAt reference
  if executor.evidenceMatches candidate localState.command then .ok candidate
  else .error (executor.label ++ "_executor_evidence_invalid")

def NativeExecutor.rejectWithoutEffect (localState : NativeLocalState Command Identity)
    (now : Int) (reference : Bytes) : Except String (NativeEvidence Identity) :=
  executor.finish localState .rejectedWithoutEffect 0
    (max now localState.localStartingPersistedAt) reference

def NativeExecutor.conclude (localState : NativeLocalState Command Identity) (now : Int) :
    TransportOutcome → Except String (NativeEvidence Identity)
  | .thrown =>
    executor.finish localState .outcomeUnknown now now (text "executor:dispatch-exception")
  | .replied .rejectedWithoutEffect reference =>
    executor.rejectWithoutEffect localState now
      (if safeEvidenceReference reference then reference
        else text "executor:transport-rejected")
  | .replied .acceptedUnverified reference =>
    if safeEvidenceReference reference = false then
      executor.finish localState .outcomeUnknown now now
        (text "executor:accepted-evidence-invalid")
    else executor.finish localState .acceptedUnverified now now reference
  | .replied .outcomeUnknown reference =>
    executor.finish localState .outcomeUnknown now now
      (if safeEvidenceReference reference then reference
        else text "executor:transport-outcome-unknown")
  | .replied .other _ =>
    executor.finish localState .outcomeUnknown now now
      (text "executor:transport-disposition-invalid")

/-- Whether a local state may be executed at all: it is a valid start of the assigned command. -/
def NativeExecutor.freshStateValid (assignment : BackendAgentCommandAssignment)
    (localState : NativeLocalState Command Identity) (now : Int) : Bool :=
  (executor.localStateValid localState).toBool && localState.phase == .starting &&
  (match executor.commandFromAssignment assignment with
    | .error _ => false
    | .ok expected => executor.sameCommand expected localState.command) &&
  decide (0 < now) && decide (localState.localStartingPersistedAt ≤ now)

def NativeExecutor.executeFreshStartingOnce (assignment : BackendAgentCommandAssignment)
    (localState : NativeLocalState Command Identity) (context : NativeCommandContext) (now : Int) :
    NativeProgram Command (Except String (NativeEvidence Identity)) :=
  let reject := fun reference : String =>
    Program.done (executor.rejectWithoutEffect localState now (text reference))
  if executor.freshStateValid assignment localState now = false then
    .done (.error (executor.label ++ "_executor_fresh_state_invalid"))
  else if (executor.envelope localState.command).sameContext context = false then
    reject "executor-fence:agent-generation"
  else if assignment.deadline ≤ now then reject "executor-fence:deadline"
  else
    .perform .discoverProvider fun discovery : ProviderDiscovery =>
      match discovery with
      | .refused => reject "executor-fence:provider-discovery"
      | .thrown => reject "executor-fence:provider-discovery-exception"
      | .found facts =>
        if selectedProviderStillCurrent
            (executor.envelope localState.command).localProviderSelection facts = false then
          reject "executor-fence:provider-changed"
        else
          .perform
            (.dispatch
              { command := localState.command
                localStartingPersistedAt := localState.localStartingPersistedAt })
            fun outcome : TransportOutcome => .done (executor.conclude localState now outcome)

end Execution

/-! ## The command families -/

def sameEnvelope (left right : NativeCommandEnvelope) : Bool :=
  { left with localProviderSelection := {} } == { right with localProviderSelection := {} } &&
  backendAgentLocalProviderSameFence left.localProviderSelection right.localProviderSelection

def nativeTimerCreateExecutor :
    NativeExecutor BackendAgentNativeTimerCreateCommand NativeTimerCreateIdentity :=
  { label := "native_timer_create"
    envelope := fun command => command.toNativeCommandEnvelope
    evidenceIdentity := BackendAgentNativeTimerCreateCommand.evidenceIdentity
    localStateValid := backendAgentNativeTimerCreateLocalStateValid
    commandFromAssignment := backendAgentNativeTimerCreateCommandFromAssignment
    sameCommand := fun left right =>
      sameEnvelope left.toNativeCommandEnvelope right.toNativeCommandEnvelope &&
      left.timerAssignmentId == right.timerAssignmentId &&
      left.expectedAssignmentRevision == right.expectedAssignmentRevision &&
      left.expectedIntentRevision == right.expectedIntentRevision &&
      left.assignmentEpoch == right.assignmentEpoch &&
      left.nativeTimerBindingId == right.nativeTimerBindingId &&
      left.expectedSpecificationFingerprint == right.expectedSpecificationFingerprint &&
      left.specification == right.specification
    evidenceMatches := backendAgentNativeTimerCreateEvidenceMatches }

def nativeTimerDeleteExecutor :
    NativeExecutor BackendAgentNativeTimerDeleteCommand NativeCommandIdentity :=
  { label := "native_timer_delete"
    envelope := fun command => command.toNativeCommandEnvelope
    evidenceIdentity := fun command => command.toNativeCommandEnvelope.identity
    localStateValid := backendAgentNativeTimerDeleteLocalStateValid
    commandFromAssignment := backendAgentNativeTimerDeleteCommandFromAssignment
    sameCommand := fun left right =>
      sameEnvelope left.toNativeCommandEnvelope right.toNativeCommandEnvelope &&
      left.nativeTimerBindingId == right.nativeTimerBindingId &&
      left.expectedBindingRevision == right.expectedBindingRevision &&
      left.timerAssignmentId == right.timerAssignmentId &&
      left.backendNativeTimerId == right.backendNativeTimerId
    evidenceMatches := backendAgentNativeTimerDeleteEvidenceMatches }

/-- Modifications are compared by the fingerprint of their specification, not field by field. -/
def nativeTimerModifyExecutor :
    NativeExecutor BackendAgentNativeTimerModifyCommand NativeCommandIdentity :=
  { label := "native_timer_modify"
    envelope := fun command => command.toNativeCommandEnvelope
    evidenceIdentity := fun command => command.toNativeCommandEnvelope.identity
    localStateValid := backendAgentNativeTimerModifyLocalStateValid
    commandFromAssignment := backendAgentNativeTimerModifyCommandFromAssignment
    sameCommand := fun left right =>
      sameEnvelope left.toNativeCommandEnvelope right.toNativeCommandEnvelope &&
      left.kind == right.kind &&
      left.timerAssignmentId == right.timerAssignmentId &&
      left.expectedAssignmentRevision == right.expectedAssignmentRevision &&
      left.expectedIntentRevision == right.expectedIntentRevision &&
      left.assignmentEpoch == right.assignmentEpoch &&
      left.nativeTimerBindingId == right.nativeTimerBindingId &&
      left.expectedBindingRevision == right.expectedBindingRevision &&
      left.backendNativeTimerId == right.backendNativeTimerId &&
      left.expectedCurrentFingerprint == right.expectedCurrentFingerprint &&
      left.expectedSpecificationFingerprint == right.expectedSpecificationFingerprint
    evidenceMatches := backendAgentNativeTimerModifyEvidenceMatches }

def recordingMarksModifyExecutor :
    NativeExecutor BackendAgentRecordingMarksModifyCommand NativeCommandIdentity :=
  { label := "recording_marks_modify"
    envelope := fun command => command.toNativeCommandEnvelope
    evidenceIdentity := fun command => command.toNativeCommandEnvelope.identity
    localStateValid := backendAgentRecordingMarksModifyLocalStateValid
    commandFromAssignment := backendAgentRecordingMarksModifyCommandFromAssignment
    sameCommand := fun left right =>
      sameEnvelope left.toNativeCommandEnvelope right.toNativeCommandEnvelope &&
      left.kind == right.kind &&
      left.recordingKey == right.recordingKey &&
      left.expectedMarksRevision == right.expectedMarksRevision &&
      left.sourceFrame == right.sourceFrame &&
      left.targetFrame == right.targetFrame &&
      left.replacementFrames == right.replacementFrames
    evidenceMatches := backendAgentRecordingMarksModifyEvidenceMatches }

def recordingCutExecutor : NativeExecutor BackendAgentRecordingCutCommand NativeCommandIdentity :=
  { label := "recording_cut"
    envelope := fun command => command.toNativeCommandEnvelope
    evidenceIdentity := fun command => command.toNativeCommandEnvelope.identity
    localStateValid := backendAgentRecordingCutLocalStateValid
    commandFromAssignment := backendAgentRecordingCutCommandFromAssignment
    sameCommand := fun left right =>
      sameEnvelope left.toNativeCommandEnvelope right.toNativeCommandEnvelope &&
      left.recordingKey == right.recordingKey &&
      left.expectedMarksRevision == right.expectedMarksRevision
    evidenceMatches := backendAgentRecordingCutEvidenceMatches }

def backendAgentNativeTimerCreateExecuteFreshStartingOnce :=
  nativeTimerCreateExecutor.executeFreshStartingOnce

def backendAgentNativeTimerDeleteExecuteFreshStartingOnce :=
  nativeTimerDeleteExecutor.executeFreshStartingOnce

def backendAgentNativeTimerModifyExecuteFreshStartingOnce :=
  nativeTimerModifyExecutor.executeFreshStartingOnce

def backendAgentRecordingMarksModifyExecuteFreshStartingOnce :=
  recordingMarksModifyExecutor.executeFreshStartingOnce

def backendAgentRecordingCutExecuteFreshStartingOnce :=
  recordingCutExecutor.executeFreshStartingOnce

end VdrSuite.Agent
