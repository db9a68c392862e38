import VdrSuite.Timers.NativeTimerBindingRepository
import VdrSuite.Timers.TimerAssignmentScheduling

/-! Reassignment: an owner is replaced once its native outcome is known, and the same request is
answered again from the evidence that was recorded. -/

set_option autoImplicit false

namespace VdrSuite.Timers

open Library Library.Transaction Operations

/-! ## Requests and results -/

inductive TimerAssignmentReassignmentStatus
  | persisted
  | alreadyPersisted
  | invalidRequest
  | replacementIdConflict
  | intentNotFound
  | intentRevisionConflict
  | assignmentNotFound
  | assignmentRevisionConflict
  | assignmentEpochConflict
  | assignmentStateConflict
  | backendConflict
  | generationConflict
  | assignmentSetConflict
  | nativeOutcomeUnsafe
  | bindingNotFound
  | bindingConflict
  | operationNotFound
  | operationConflict
  | planningInvalid
  | noEligibleBackend
  | ownershipConflict
  | repositoryError
  deriving DecidableEq

structure TimerAssignmentReassignmentRequest where
  replacementTimerAssignmentId : Bytes := []
  oldTimerAssignmentId : Bytes := []
  expectedOldAssignmentRevision : Bytes := []
  expectedOldAssignmentEpoch : Nat := 0
  expectedIntentRevision : Bytes := []
  expectedOldBackendId : Bytes := []
  expectedOldBackendGeneration : Nat := 0
  oldNativeOutcome : TimerAssignmentReassignmentNativeOutcome := .beforeDispatch
  oldOperationId : Bytes := []
  expectedOldOperationRevision : Bytes := []
  oldNativeTimerBindingId : Bytes := []
  expectedOldBindingRevision : Bytes := []
  reason : Bytes := []
  createdAt : Int := 0
  candidates : List TimerAssignmentPlanningBackendCandidate := []
  deriving DecidableEq

structure TimerAssignmentReassignmentResult where
  status : TimerAssignmentReassignmentStatus := .repositoryError
  decision : TimerAssignmentPlanningDecision := {}
  oldAssignment : TimerAssignment := {}
  replacementAssignment : TimerAssignment := {}
  evidence : TimerAssignmentReassignmentEvidence := {}
  deriving DecidableEq

def reassignmentStatus (status : TimerAssignmentReassignmentStatus) :
    TimerAssignmentReassignmentResult :=
  { status := status }

def validReassignmentRequest (request : TimerAssignmentReassignmentRequest) : Bool :=
  safeIdentity request.replacementTimerAssignmentId &&
  safeIdentity request.oldTimerAssignmentId &&
  safeIdentity request.expectedOldAssignmentRevision &&
  request.expectedOldAssignmentEpoch != 0 &&
  safeIdentity request.expectedIntentRevision &&
  safeIdentity request.expectedOldBackendId &&
  request.expectedOldBackendGeneration != 0 &&
  nonEmptyBounded request.reason 256 &&
  decide (0 < request.createdAt) &&
  match request.oldNativeOutcome with
  | .beforeDispatch =>
    request.oldOperationId.isEmpty && request.expectedOldOperationRevision.isEmpty &&
    request.oldNativeTimerBindingId.isEmpty && request.expectedOldBindingRevision.isEmpty
  | .verifiedAbsent =>
    safeIdentity request.oldOperationId && safeIdentity request.expectedOldOperationRevision &&
    safeIdentity request.oldNativeTimerBindingId && safeIdentity request.expectedOldBindingRevision

/-- The request is compared with the recorded evidence, and with the replacement as it is now. -/
def replayMatches (existing : TimerAssignmentControlledReplacementResult)
    (request : TimerAssignmentReassignmentRequest) : Bool :=
  let evidence := existing.evidence
  existing.replacementAssignment.timerIntentId == existing.oldAssignment.timerIntentId &&
  existing.replacementAssignment.intentRevision == request.expectedIntentRevision &&
  existing.replacementAssignment.createdAt == request.createdAt &&
  evidence.replacementTimerAssignmentId == request.replacementTimerAssignmentId &&
  evidence.oldTimerAssignmentId == request.oldTimerAssignmentId &&
  evidence.oldAssignmentRevision == request.expectedOldAssignmentRevision &&
  evidence.oldAssignmentEpoch == request.expectedOldAssignmentEpoch &&
  evidence.oldBackendId == request.expectedOldBackendId &&
  evidence.oldBackendGeneration == request.expectedOldBackendGeneration &&
  evidence.oldNativeOutcome == request.oldNativeOutcome &&
  evidence.oldOperationId == request.oldOperationId &&
  evidence.oldOperationRevision == request.expectedOldOperationRevision &&
  evidence.oldNativeTimerBindingId == request.oldNativeTimerBindingId &&
  evidence.oldBindingRevision == request.expectedOldBindingRevision &&
  evidence.reason == request.reason

def replacementFromDecision (request : TimerAssignmentReassignmentRequest)
    (decision : TimerAssignmentPlanningDecision) : TimerAssignment :=
  { timerAssignmentId := request.replacementTimerAssignmentId
    timerIntentId := decision.timerIntentId
    intentRevision := decision.intentRevision
    backendId := decision.selectedBackendId
    backendGeneration := decision.selectedBackendGeneration
    state := .selected
    role := .replacement
    channelBinding := decision.selectedChannelBinding
    capabilityRevision := decision.selectedCapabilityRevision
    backendHealthRevision := decision.selectedBackendHealthRevision
    desiredNativeTimerSpecification := decision.selectedNativeTimerSpecification
    decisionPolicyVersion := decision.decisionPolicyVersion
    decisionEvidence := decision.decisionEvidence
    createdAt := request.createdAt
    updatedAt := request.createdAt }

def evidenceFor (request : TimerAssignmentReassignmentRequest) (replacement : TimerAssignment) :
    TimerAssignmentReassignmentEvidence :=
  { oldTimerAssignmentId := request.oldTimerAssignmentId
    oldAssignmentRevision := request.expectedOldAssignmentRevision
    oldAssignmentEpoch := request.expectedOldAssignmentEpoch
    oldBackendId := request.expectedOldBackendId
    oldBackendGeneration := request.expectedOldBackendGeneration
    oldNativeOutcome := request.oldNativeOutcome
    oldOperationId := request.oldOperationId
    oldOperationRevision := request.expectedOldOperationRevision
    oldNativeTimerBindingId := request.oldNativeTimerBindingId
    oldBindingRevision := request.expectedOldBindingRevision
    reason := request.reason
    replacementTimerAssignmentId := request.replacementTimerAssignmentId
    newBackendId := replacement.backendId
    newBackendGeneration := replacement.backendGeneration
    createdAt := request.createdAt }

/-! ## Calls -/

/-- `NativeTimerBindingRepository::findById`. -/
def findBindingById (carriedOut : Bool) (nativeTimerBindingId : Bytes)
    (store : NativeTimerBindingStore) : NativeTimerBindingRepositoryResult :=
  if !safeIdentity nativeTimerBindingId then bindingStatus .invalid
  else
    match selectOne carriedOut (sameId nativeTimerBindingId) store with
    | .error _ => bindingStatus .storageError
    | .ok none => bindingStatus .notFound
    | .ok (some binding) => bindingResult .ok binding

inductive ReassignmentCall
  | findControlledReplacement (replacementTimerAssignmentId : Bytes)
  | findById (timerAssignmentId : Bytes)
  | findIntent (timerIntentId : Bytes)
  | findBinding (nativeTimerBindingId : Bytes)
  | findOperation (operationId : Bytes)
  | assignmentSetRevisionForIntent (timerIntentId : Bytes)
  | listForIntent (timerIntentId : Bytes)
  | createControlledReplacement (replacement : TimerAssignment)
      (expectedAssignmentSetRevision : Bytes) (evidence : TimerAssignmentReassignmentEvidence)

def ReassignmentReply : ReassignmentCall → Type
  | .findById _ => TimerAssignmentRepositoryResult
  | .findIntent _ => TimerIntentRepositoryResult
  | .findBinding _ => NativeTimerBindingRepositoryResult
  | .findOperation _ => MutationOperationRepositoryResult
  | .assignmentSetRevisionForIntent _ => TimerAssignmentRepositorySetRevisionResult
  | .listForIntent _ => TimerAssignmentRepositoryListResult
  | .findControlledReplacement _ | .createControlledReplacement _ _ _ =>
    TimerAssignmentControlledReplacementResult

abbrev Reassigning (Result : Type) : Type := Program ReassignmentCall ReassignmentReply Result

def Reassigning.findControlledReplacement (replacementTimerAssignmentId : Bytes) :
    Reassigning TimerAssignmentControlledReplacementResult :=
  Program.request (ReassignmentCall.findControlledReplacement replacementTimerAssignmentId)

def Reassigning.findById (timerAssignmentId : Bytes) :
    Reassigning TimerAssignmentRepositoryResult :=
  Program.request (ReassignmentCall.findById timerAssignmentId)

def Reassigning.findIntent (timerIntentId : Bytes) : Reassigning TimerIntentRepositoryResult :=
  Program.request (ReassignmentCall.findIntent timerIntentId)

def Reassigning.findBinding (nativeTimerBindingId : Bytes) :
    Reassigning NativeTimerBindingRepositoryResult :=
  Program.request (ReassignmentCall.findBinding nativeTimerBindingId)

def Reassigning.findOperation (operationId : Bytes) :
    Reassigning MutationOperationRepositoryResult :=
  Program.request (ReassignmentCall.findOperation operationId)

def Reassigning.assignmentSetRevisionForIntent (timerIntentId : Bytes) :
    Reassigning TimerAssignmentRepositorySetRevisionResult :=
  Program.request (ReassignmentCall.assignmentSetRevisionForIntent timerIntentId)

def Reassigning.listForIntent (timerIntentId : Bytes) :
    Reassigning TimerAssignmentRepositoryListResult :=
  Program.request (ReassignmentCall.listForIntent timerIntentId)

def Reassigning.createControlledReplacement (replacement : TimerAssignment)
    (expectedAssignmentSetRevision : Bytes) (evidence : TimerAssignmentReassignmentEvidence) :
    Reassigning TimerAssignmentControlledReplacementResult :=
  Program.request (ReassignmentCall.createControlledReplacement replacement
    expectedAssignmentSetRevision evidence)

/-! ## The service -/

def replayResult (request : TimerAssignmentReassignmentRequest)
    (replay : TimerAssignmentControlledReplacementResult) : TimerAssignmentReassignmentResult :=
  if !replayMatches replay request then reassignmentStatus .replacementIdConflict
  else
    { status := .alreadyPersisted
      oldAssignment := replay.oldAssignment
      replacementAssignment := replay.replacementAssignment
      evidence := replay.evidence }

/-- The first respect in which the old owner or its intent is not what the request expects. -/
def oldOwnerConflict (request : TimerAssignmentReassignmentRequest) (old : TimerAssignment)
    (intent : TimerIntent) : Option TimerAssignmentReassignmentStatus :=
  if intent.intentRevision ≠ request.expectedIntentRevision ∨
      old.intentRevision ≠ request.expectedIntentRevision then some .intentRevisionConflict
  else if old.assignmentRevision ≠ request.expectedOldAssignmentRevision then
    some .assignmentRevisionConflict
  else if old.assignmentEpoch ≠ request.expectedOldAssignmentEpoch then
    some .assignmentEpochConflict
  else if old.backendId ≠ request.expectedOldBackendId then some .backendConflict
  else if old.backendGeneration ≠ request.expectedOldBackendGeneration then
    some .generationConflict
  else if old.role ≠ .primary ∧ old.role ≠ .replacement then some .assignmentStateConflict
  else none

def bindingConflict (request : TimerAssignmentReassignmentRequest) (old : TimerAssignment)
    (binding : NativeTimerBinding) : Option TimerAssignmentReassignmentStatus :=
  if binding.bindingRevision ≠ request.expectedOldBindingRevision ∨
      binding.timerAssignmentId ≠ old.timerAssignmentId ∨ binding.backendId ≠ old.backendId ∨
      binding.backendGeneration ≠ old.backendGeneration then some .bindingConflict
  else if managedOwnership binding.ownership = false ∨ binding.missingSince = 0 ∨
      binding.driftState ≠ .expectedTransition ∨ binding.observedState.recording = true ∨
      binding.lastVerifiedOperationId ≠ request.oldOperationId then some .nativeOutcomeUnsafe
  else none

def operationConflict (request : TimerAssignmentReassignmentRequest) (old : TimerAssignment)
    (binding : NativeTimerBinding) (operation : MutationOperation) : Bool :=
  operation.operationRevision != request.expectedOldOperationRevision ||
  operation.state != .succeeded ||
  operation.actionFamily != text "timer.delete" ||
  operation.resourceType != text "NativeTimerBinding" ||
  operation.resourceId != binding.nativeTimerBindingId ||
  operation.backendId != old.backendId ||
  operation.backendGeneration != old.backendGeneration

def nativeOutcomeConflict (request : TimerAssignmentReassignmentRequest) (old : TimerAssignment) :
    Reassigning (Option TimerAssignmentReassignmentStatus) :=
  match request.oldNativeOutcome with
  | .beforeDispatch =>
    if old.state ≠ .selected ∨ old.nativeTimerBindingId ≠ [] then
      pure (some .nativeOutcomeUnsafe)
    else pure none
  | .verifiedAbsent =>
    if (old.state ≠ .bound ∧ old.state ≠ .reconciling) ∨
        old.nativeTimerBindingId ≠ request.oldNativeTimerBindingId then
      pure (some .nativeOutcomeUnsafe)
    else do
      let found ← Reassigning.findBinding request.oldNativeTimerBindingId
      if found.status = .notFound then pure (some .bindingNotFound)
      else if found.ok = false then pure (some .repositoryError)
      else
        match bindingConflict request old found.binding with
        | some status => pure (some status)
        | none =>
          let operation ← Reassigning.findOperation request.oldOperationId
          if operation.status = .notFound then pure (some .operationNotFound)
          else if operation.status ≠ .ok then pure (some .repositoryError)
          else if operationConflict request old found.binding operation.operation then
            pure (some .operationConflict)
          else pure none

def replacementPlanning (request : TimerAssignmentReassignmentRequest) (intent : TimerIntent)
    (listed : List TimerAssignment) : TimerAssignmentPlanningRequest :=
  { intent := intent
    role := .replacement
    currentAssignments := activeAssignments listed
    candidates := request.candidates }

def mapReplacementStatus :
    TimerAssignmentRepositoryStatus → TimerAssignmentReassignmentStatus
  | .conflict => .assignmentSetConflict
  | .ownershipConflict => .ownershipConflict
  | .alreadyExists => .replacementIdConflict
  | _ => .repositoryError

/-- The replacement is planned over the listing, and created against the set revision before it. -/
def replaceOwner (request : TimerAssignmentReassignmentRequest) (old : TimerAssignment)
    (intent : TimerIntent) : Reassigning TimerAssignmentReassignmentResult := do
  let setRevision ← Reassigning.assignmentSetRevisionForIntent old.timerIntentId
  if setRevision.status ≠ .ok then pure (reassignmentStatus .repositoryError)
  else
    let listed ← Reassigning.listForIntent old.timerIntentId
    if listed.ok = false then pure (reassignmentStatus .repositoryError)
    else
      let decision := planTimerAssignment (replacementPlanning request intent listed.assignments)
      if decision.outcome = .invalid then
        pure { status := .planningInvalid, decision := decision }
      else if decision.outcome ≠ .selected then
        pure { status := .noEligibleBackend, decision := decision }
      else
        let replacement := replacementFromDecision request decision
        let persisted ← Reassigning.createControlledReplacement replacement
          setRevision.assignmentSetRevision (evidenceFor request replacement)
        if persisted.ok = false then
          pure { status := mapReplacementStatus persisted.status, decision := decision }
        else
          pure
            { status := .persisted
              decision := decision
              oldAssignment := persisted.oldAssignment
              replacementAssignment := persisted.replacementAssignment
              evidence := persisted.evidence }

def reassign (request : TimerAssignmentReassignmentRequest) :
    Reassigning TimerAssignmentReassignmentResult :=
  if validReassignmentRequest request = false then pure (reassignmentStatus .invalidRequest)
  else do
    let replay ← Reassigning.findControlledReplacement request.replacementTimerAssignmentId
    if replay.ok then pure (replayResult request replay)
    else if replay.status ≠ .notFound then pure (reassignmentStatus .repositoryError)
    else
      let oldFound ← Reassigning.findById request.oldTimerAssignmentId
      if oldFound.status = .notFound then pure (reassignmentStatus .assignmentNotFound)
      else if oldFound.ok = false then pure (reassignmentStatus .repositoryError)
      else
        let intentFound ← Reassigning.findIntent oldFound.assignment.timerIntentId
        if intentFound.status = .notFound then pure (reassignmentStatus .intentNotFound)
        else if intentFound.ok = false then pure (reassignmentStatus .repositoryError)
        else
          match oldOwnerConflict request oldFound.assignment intentFound.intent with
          | some status => pure (reassignmentStatus status)
          | none =>
            let refused ← nativeOutcomeConflict request oldFound.assignment
            match refused with
            | some status => pure (reassignmentStatus status)
            | none => replaceOwner request oldFound.assignment intentFound.intent

/-! ## Reassignments side by side -/

structure ReassignmentStore where
  tables : NativeTimerBindingStore := {}
  intents : List TimerIntent := []

def ReassignmentStore.timers (store : ReassignmentStore) : TimerStore := store.tables.timers

def ReassignmentStore.withTimers (store : ReassignmentStore) (timers : TimerStore) :
    ReassignmentStore :=
  { store with tables := { store.tables with timers := timers } }

structure ReassignmentOracle where
  works : Stage → CarriedOut := fun _ _ => true
  selectsBinding : Bool := true
  environment : Environment := {}

def carryOutReassignment (oracle : ReassignmentOracle) : (call : ReassignmentCall) →
    ReassignmentStore → ReassignmentReply call × ReassignmentStore
  | .findControlledReplacement replacementTimerAssignmentId, store =>
    (Timers.findControlledReplacement oracle.works replacementTimerAssignmentId store.timers,
      store)
  | .findById timerAssignmentId, store =>
    (Timers.findById (oracle.works .calling) timerAssignmentId store.timers, store)
  | .findIntent timerIntentId, store =>
    (findIntentById (oracle.works .calling) timerIntentId store.intents, store)
  | .findBinding nativeTimerBindingId, store =>
    (findBindingById oracle.selectsBinding nativeTimerBindingId store.tables, store)
  | .findOperation operationId, store =>
    (Operations.findById oracle.environment { operations := store.timers.operations } operationId,
      store)
  | .assignmentSetRevisionForIntent timerIntentId, store =>
    let (result, timers) :=
      Timers.assignmentSetRevisionForIntent (oracle.works .calling) timerIntentId store.timers
    (result, store.withTimers timers)
  | .listForIntent timerIntentId, store =>
    (Timers.listForIntent (oracle.works .calling) timerIntentId store.timers, store)
  | .createControlledReplacement replacement expectedAssignmentSetRevision evidence, store =>
    let (result, timers) := Timers.createControlledReplacement oracle.works replacement
      expectedAssignmentSetRevision evidence store.timers
    (result, store.withTimers timers)

/-- What others do meanwhile: a call of the assignment repository or a change of the tables it only
reads, the refresh of a bound assignment by its binding, a read of a set revision, or a change of
the intents or the bindings. -/
inductive ReassignmentChange
  | call (call : TimerAssignmentCall)
  | refresh (reads writes : Bool) (binding : NativeTimerBinding) (generation : UInt64)
      (observedAt : Int)
  | observe (works : CarriedOut) (timerIntentId : Bytes)
  | intents (intents : List TimerIntent)
  | bindings (bindings : List NativeTimerBindingRecord)

def applyReassignmentChange : ReassignmentChange → ReassignmentStore → ReassignmentStore
  | .call call, store => store.withTimers (perform store.timers call).1
  | .refresh reads writes binding generation observedAt, store =>
    match refreshBoundAssignmentGeneration reads writes binding generation.toNat observedAt
        store.timers with
    | .error _ => store
    | .ok timers => store.withTimers timers
  | .observe works timerIntentId, store =>
    store.withTimers (Timers.assignmentSetRevisionForIntent works timerIntentId store.timers).2
  | .intents intents, store => { store with intents := intents }
  | .bindings bindings, store => { store with tables := { store.tables with bindings := bindings } }

abbrev AnsweredRequest : Type :=
  TimerAssignmentReassignmentRequest × TimerAssignmentReassignmentResult

abbrev ReassignmentSystem : Type :=
  Interleaving.System ReassignmentCall ReassignmentReply AnsweredRequest ReassignmentStore

/-- A client calls `reassign`, one of the calls under way goes on, or something else happens. -/
inductive ReassignmentMove
  | request (request : TimerAssignmentReassignmentRequest)
  | advance (index : Nat) (oracle : ReassignmentOracle)
  | change (change : ReassignmentChange)

def reassignmentMove : ReassignmentMove →
    Interleaving.Move ReassignmentCall ReassignmentReply AnsweredRequest ReassignmentOracle
      ReassignmentChange
  | .request request => .start (reassign request >>= fun result => pure (request, result))
  | .advance index oracle => .advance index oracle
  | .change change => .change change

def reassignmentStep : ReassignmentSystem → ReassignmentMove →
    ReassignmentSystem × Option (Interleaving.Event ReassignmentReply) :=
  Interleaving.machine carryOutReassignment applyReassignmentChange reassignmentMove

def reassignmentsAfter (moves : List ReassignmentMove) : ReassignmentSystem :=
  Run.final reassignmentStep { state := {} } moves

def answerOf (system : ReassignmentSystem) (index : Nat) : Option AnsweredRequest :=
  match system.processes[index]? with
  | some ⟨_, .done answer⟩ => some answer
  | _ => none

end VdrSuite.Timers
