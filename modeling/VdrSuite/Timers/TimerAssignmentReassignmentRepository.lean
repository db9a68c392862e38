import VdrSuite.Timers.TimerAssignmentRepository

/-! Controlled replacement: one statement closes the old owner, creates the new one and links them. -/

set_option autoImplicit false

namespace VdrSuite.Timers

open Library Library.Transaction

structure TimerAssignmentReassignmentEvidence where
  oldTimerAssignmentId : Bytes := []
  oldAssignmentRevision : Bytes := []
  oldAssignmentEpoch : Nat := 0
  oldBackendId : Bytes := []
  oldBackendGeneration : Nat := 0
  oldNativeOutcome : TimerAssignmentReassignmentNativeOutcome := .beforeDispatch
  oldOperationId : Bytes := []
  oldOperationRevision : Bytes := []
  oldNativeTimerBindingId : Bytes := []
  oldBindingRevision : Bytes := []
  reason : Bytes := []
  replacementTimerAssignmentId : Bytes := []
  newBackendId : Bytes := []
  newBackendGeneration : Nat := 0
  newAssignmentEpoch : Nat := 0
  createdAt : Int := 0
  deriving DecidableEq

structure TimerAssignmentControlledReplacementResult where
  status : TimerAssignmentRepositoryStatus := .storageError
  oldAssignment : TimerAssignment := {}
  replacementAssignment : TimerAssignment := {}
  evidence : TimerAssignmentReassignmentEvidence := {}
  deriving DecidableEq

def TimerAssignmentControlledReplacementResult.ok
    (result : TimerAssignmentControlledReplacementResult) : Bool :=
  result.status == .ok

def replacementStatus (status : TimerAssignmentRepositoryStatus) :
    TimerAssignmentControlledReplacementResult :=
  { status := status }

def evidenceShapeValid (evidence : TimerAssignmentReassignmentEvidence) : Bool :=
  safeIdentity evidence.oldTimerAssignmentId &&
  safeIdentity evidence.oldAssignmentRevision &&
  evidence.oldAssignmentEpoch != 0 &&
  safeIdentity evidence.oldBackendId &&
  evidence.oldBackendGeneration != 0 &&
  safeIdentity evidence.replacementTimerAssignmentId &&
  safeIdentity evidence.newBackendId &&
  evidence.newBackendGeneration != 0 &&
  evidence.newAssignmentEpoch == 0 &&
  nonEmptyBounded evidence.reason 256 &&
  decide (0 < evidence.createdAt) &&
  match evidence.oldNativeOutcome with
  | .beforeDispatch =>
    evidence.oldOperationId.isEmpty && evidence.oldOperationRevision.isEmpty &&
    evidence.oldNativeTimerBindingId.isEmpty && evidence.oldBindingRevision.isEmpty
  | .verifiedAbsent =>
    safeIdentity evidence.oldOperationId && safeIdentity evidence.oldOperationRevision &&
    safeIdentity evidence.oldNativeTimerBindingId && safeIdentity evidence.oldBindingRevision

/-- The shape checks on the arguments of `createControlledReplacement`. -/
def replacementArgumentsValid (replacement : TimerAssignment)
    (evidence : TimerAssignmentReassignmentEvidence) : Bool :=
  replacement.timerAssignmentId == evidence.replacementTimerAssignmentId &&
  replacement.backendId == evidence.newBackendId &&
  replacement.backendGeneration == evidence.newBackendGeneration &&
  replacement.createdAt == evidence.createdAt &&
  replacement.role == .replacement &&
  replacement.state == .selected &&
  evidenceShapeValid evidence

/-! ## The expectation -/

def removeExpectation (works : CarriedOut) (store : TimerStore) : TimerStore :=
  (executeAll
    [attempt (works .dropBeforeTrigger) fun store =>
        .ok { store with reassignmentBeforeTrigger := false },
      attempt (works .dropAfterTrigger) fun store =>
        .ok { store with reassignmentAfterTrigger := false },
      attempt (works .dropExpectations) fun store =>
        .ok { store with reassignmentExpectations := none }]
    store).2

def createReassignmentExpectations (works : CarriedOut) : Statement TimerStore :=
  attempt (works .createExpectations) fun store =>
    if store.reassignmentExpectations.isSome then .error .error
    else .ok { store with reassignmentExpectations := some none }

def reassignmentExpectationStatements (works : CarriedOut) (expected : ReassignmentExpectation) :
    List (Statement TimerStore) :=
  [attempt (works .insertExpectation) fun store =>
      .ok { store with reassignmentExpectations := some (some expected) },
    attempt (works .createBeforeTrigger) fun store =>
      if store.reassignmentBeforeTrigger then .error .error
      else .ok { store with reassignmentBeforeTrigger := true },
    attempt (works .createAfterTrigger) fun store =>
      if store.reassignmentAfterTrigger then .error .error
      else .ok { store with reassignmentAfterTrigger := true }]

def expectationOf (evidence : TimerAssignmentReassignmentEvidence) (setRevision oldRevision : Nat) :
    ReassignmentExpectation :=
  { replacementAssignmentId := evidence.replacementTimerAssignmentId
    expectedSetRevision := setRevision
    oldAssignmentId := evidence.oldTimerAssignmentId
    oldAssignmentRevision := oldRevision
    oldAssignmentEpoch := asInt64 evidence.oldAssignmentEpoch
    oldBackendId := evidence.oldBackendId
    oldBackendGeneration := asInt64 evidence.oldBackendGeneration
    oldNativeOutcome := evidence.oldNativeOutcome
    oldOperationId := evidence.oldOperationId
    oldOperationRevision := evidence.oldOperationRevision
    oldBindingId := evidence.oldNativeTimerBindingId
    oldBindingRevision := evidence.oldBindingRevision
    reason := evidence.reason
    createdAt := evidence.createdAt }

def installExpectation (works : Stage → CarriedOut) (expectedSetRevision : Bytes)
    (evidence : TimerAssignmentReassignmentEvidence) (store : TimerStore) : Bool × TimerStore :=
  match parseUnsignedToken expectedSetRevision,
      parseUnsignedToken evidence.oldAssignmentRevision with
  | some setRevision, some oldRevision =>
    let cleared := removeExpectation (works .clearing) store
    match createReassignmentExpectations (works .calling) cleared with
    | .error _ => (false, cleared)
    | .ok created =>
      match executeAll (reassignmentExpectationStatements (works .calling)
          (expectationOf evidence setRevision oldRevision)) created with
      | (true, reached) => (true, reached)
      | (false, reached) => (false, removeExpectation (works .removing) reached)
  | _, _ => (false, store)

/-! ## Reading a replacement back -/

def evidenceOfRow (replacementTimerAssignmentId : Bytes) (row : TimerAssignmentReassignmentRow) :
    TimerAssignmentReassignmentEvidence :=
  { oldTimerAssignmentId := cString row.oldAssignmentId
    oldAssignmentRevision := cString row.oldAssignmentRevision
    oldAssignmentEpoch := row.oldAssignmentEpoch.toNat
    oldBackendId := cString row.oldBackendId
    oldBackendGeneration := row.oldBackendGeneration.toNat
    oldNativeOutcome := row.oldNativeOutcome
    oldOperationId := cString row.oldOperationId
    oldOperationRevision := cString row.oldOperationRevision
    oldNativeTimerBindingId := cString row.oldBindingId
    oldBindingRevision := cString row.oldBindingRevision
    reason := cString row.reason
    replacementTimerAssignmentId := replacementTimerAssignmentId
    newBackendId := cString row.newBackendId
    newBackendGeneration := row.newBackendGeneration
    newAssignmentEpoch := row.newAssignmentEpoch
    createdAt := row.createdAt }

def findControlledReplacement (works : Stage → CarriedOut) (replacementTimerAssignmentId : Bytes)
    (store : TimerStore) : TimerAssignmentControlledReplacementResult :=
  if !safeIdentity replacementTimerAssignmentId then replacementStatus .invalid
  else if works .readingBack .assignmentSchema = false ∨
      works .readingBack .reassignmentSchema = false ∨
      works .readingBack .selectReassignment = false then replacementStatus .storageError
  else
    match store.reassignments.find? fun row =>
        row.replacementAssignmentId == replacementTimerAssignmentId with
    | none => replacementStatus .notFound
    | some row =>
      let evidence := evidenceOfRow replacementTimerAssignmentId row
      let oldAssignment := findById (works .readingOld) evidence.oldTimerAssignmentId store
      let replacement :=
        findById (works .readingReplacement) replacementTimerAssignmentId store
      if !oldAssignment.ok || !replacement.ok then replacementStatus .storageError
      else
        { status := .ok
          oldAssignment := oldAssignment.assignment
          replacementAssignment := replacement.assignment
          evidence := evidence }

/-! ## Controlled replacement -/

def afterCreation (works : Stage → CarriedOut) (replacement : TimerAssignment)
    (expectedAssignmentSetRevision : Bytes) (result : TimerAssignmentRepositoryResult)
    (store : TimerStore) : TimerAssignmentControlledReplacementResult × TimerStore :=
  if result.ok then (findControlledReplacement works replacement.timerAssignmentId store, store)
  else
    let (afterFailure, reached) :=
      assignmentSetRevisionForIntent (works .rechecking) replacement.timerIntentId store
    if afterFailure.status == .ok &&
        afterFailure.assignmentSetRevision != expectedAssignmentSetRevision then
      (replacementStatus .conflict, reached)
    else (replacementStatus result.status, reached)

def createControlledReplacement (works : Stage → CarriedOut) (replacement : TimerAssignment)
    (expectedAssignmentSetRevision : Bytes) (evidence : TimerAssignmentReassignmentEvidence)
    (store : TimerStore) : TimerAssignmentControlledReplacementResult × TimerStore :=
  if !replacementArgumentsValid replacement evidence then (replacementStatus .invalid, store)
  else
    let (currentSet, observed) :=
      assignmentSetRevisionForIntent (works .observing) replacement.timerIntentId store
    if currentSet.status != .ok then (replacementStatus currentSet.status, observed)
    else if currentSet.assignmentSetRevision ≠ expectedAssignmentSetRevision then
      (replacementStatus .conflict, observed)
    else if works .calling .reassignmentSchema = false then
      (replacementStatus .storageError, observed)
    else
      match installExpectation works expectedAssignmentSetRevision evidence observed with
      | (false, reached) => (replacementStatus .storageError, reached)
      | (true, installed) =>
        let (result, created) := create (works .calling) replacement installed
        afterCreation works replacement expectedAssignmentSetRevision result
          (removeExpectation (works .removing) created)

end VdrSuite.Timers
