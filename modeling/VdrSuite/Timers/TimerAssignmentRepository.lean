import VdrSuite.Timers.TimerAssignmentStore

/-! The timer assignment repository: creation, optimistic update and set revisions. -/

set_option autoImplicit false

namespace VdrSuite.Timers

open Library Library.Transaction

inductive TimerAssignmentRepositoryStatus
  | ok
  | invalid
  | notFound
  | conflict
  | alreadyExists
  | ownershipConflict
  | intentNotFound
  | intentRevisionConflict
  | storageError
  deriving DecidableEq

structure TimerAssignmentRepositoryResult where
  status : TimerAssignmentRepositoryStatus := .storageError
  assignment : TimerAssignment := {}
  deriving DecidableEq

def TimerAssignmentRepositoryResult.ok (result : TimerAssignmentRepositoryResult) : Bool :=
  result.status == .ok

inductive SqlStatement
  | assignmentSchema
  | begin
  | selectAssignment
  | selectIntentRevision
  | selectMaximumEpoch
  | selectExpectation
  | selectActiveOwner
  | insertAssignment
  | updateAssignment
  | commit
  | createSetRevisions
  | fillSetRevisions
  | createInsertTrigger
  | createUpdateTrigger
  | createDeleteTrigger
  | selectIntent
  | selectSetRevision
  | createExpectations
  | insertExpectation
  | createBeforeTrigger
  | createAfterTrigger
  | dropBeforeTrigger
  | dropAfterTrigger
  | dropExpectations
  | reassignmentSchema
  | selectReassignment
  deriving DecidableEq

abbrev CarriedOut : Type := SqlStatement → Bool

def safeIdentity (value : Bytes) : Bool := nonEmptyBounded value 160

def statusResult (status : TimerAssignmentRepositoryStatus) : TimerAssignmentRepositoryResult :=
  { status := status }

def assignmentResult (status : TimerAssignmentRepositoryStatus) (assignment : TimerAssignment) :
    TimerAssignmentRepositoryResult :=
  { status := status, assignment := assignment }

def refuseIf {Result : Type} (condition : Bool) (result : Result) : Except Result Unit :=
  if condition then .error result else .ok ()

/-! ## Lookups -/

def findRow (timerAssignmentId : Bytes) (store : TimerStore) : Option TimerAssignmentRow :=
  store.assignments.find? fun row => row.timerAssignmentId == timerAssignmentId

def selectById (works : CarriedOut) (timerAssignmentId : Bytes) (store : TimerStore) :
    Except TimerAssignmentRepositoryResult (Option TimerAssignment) :=
  if works .selectAssignment = false then .error (statusResult .storageError)
  else
    match findRow timerAssignmentId store with
    | none => .ok none
    | some row =>
      match readAssignment row with
      | none => .error (statusResult .storageError)
      | some assignment => .ok (some assignment)

def validateIntentRevision (works : CarriedOut) (assignment : TimerAssignment)
    (store : TimerStore) : Except TimerAssignmentRepositoryResult Unit :=
  if !safeIdentity assignment.timerIntentId || assignment.intentRevision.isEmpty then
    .error (statusResult .invalid)
  else if works .selectIntentRevision = false then .error (statusResult .storageError)
  else
    match store.intents.find? fun intent => intent.timerIntentId == assignment.timerIntentId with
    | none => .error (statusResult .intentNotFound)
    | some intent =>
      refuseIf (decimal intent.intentRevision != assignment.intentRevision)
        (statusResult .intentRevisionConflict)

def nextAssignmentEpoch (works : CarriedOut) (timerIntentId : Bytes) (store : TimerStore) :
    Except TimerAssignmentRepositoryResult Nat :=
  if works .selectMaximumEpoch = false then .error (statusResult .invalid)
  else if maximumEpoch timerIntentId store.assignments = int64Max then
    .error (statusResult .invalid)
  else .ok (maximumEpoch timerIntentId store.assignments + 1)

def controlledReplacementExpected (works : CarriedOut) (timerAssignmentId : Bytes)
    (store : TimerStore) : Bool :=
  works .selectExpectation &&
  match store.reassignmentExpectations with
  | some (some expected) => expected.replacementAssignmentId == timerAssignmentId
  | _ => false

def noOtherActivePrimary (works : CarriedOut) (timerIntentId excludedAssignmentId : Bytes)
    (store : TimerStore) : Except TimerAssignmentRepositoryResult Unit :=
  if works .selectActiveOwner = false then .error (statusResult .storageError)
  else
    refuseIf (store.assignments.any fun row =>
        row.timerIntentId == timerIntentId && activeExclusiveOwner row &&
        row.timerAssignmentId != excludedAssignmentId)
      (statusResult .ownershipConflict)

def exclusiveOwnership (assignment : TimerAssignment) : Bool :=
  (assignment.role == .primary || assignment.role == .replacement) &&
  timerAssignmentActiveOwnershipState assignment.state

/-! ## Creation -/

/-- The assignment that `createImpl` inserts, after all its checks. -/
def createDurable (works : CarriedOut) (assignment : TimerAssignment) (store : TimerStore) :
    Except TimerAssignmentRepositoryResult TimerAssignment := do
  let existing ← selectById works assignment.timerAssignmentId store
  refuseIf existing.isSome (statusResult .alreadyExists)
  validateIntentRevision works assignment store
  let epoch ← nextAssignmentEpoch works assignment.timerIntentId store
  let durable : TimerAssignment :=
    { assignment with
      assignmentRevision := text "1"
      assignmentEpoch := epoch
      updatedAt := assignment.createdAt }
  refuseIf (!timerAssignmentValid durable) (statusResult .invalid)
  if exclusiveOwnership durable then
    if durable.role = .replacement then
      refuseIf (!controlledReplacementExpected works durable.timerAssignmentId store)
        (statusResult .ownershipConflict)
    else noOtherActivePrimary works durable.timerIntentId [] store
  pure durable

def refusalResult : Refusal → TimerAssignmentRepositoryResult
  | .constraint => statusResult .ownershipConflict
  | .error => statusResult .storageError

def writeDurable (durable : TimerAssignment)
    (statement : TimerAssignmentRow → Statement TimerStore) (store : TimerStore) :
    TimerAssignmentRepositoryResult × TimerStore :=
  match bindAssignmentColumns durable with
  | none => (statusResult .storageError, store)
  | some row =>
    match statement row store with
    | .error refusal => (refusalResult refusal, store)
    | .ok next => (assignmentResult .ok durable, next)

/-- The part of `createImpl` between `BEGIN` and `COMMIT`; its early returns roll back. -/
def createInTransaction (works : CarriedOut) (assignment : TimerAssignment) (store : TimerStore) :
    TimerAssignmentRepositoryResult × TimerStore :=
  match createDurable works assignment store with
  | .error result => (result, store)
  | .ok durable =>
    writeDurable durable
      (fun row => attempt (works .insertAssignment) (insertAssignment row)) store

def create (works : CarriedOut) (assignment : TimerAssignment) (store : TimerStore) :
    TimerAssignmentRepositoryResult × TimerStore :=
  if !assignment.assignmentRevision.isEmpty || assignment.assignmentEpoch != 0 ||
      !safeIdentity assignment.timerAssignmentId || !safeIdentity assignment.timerIntentId ||
      !desiredNativeTimerSpecificationValidForAssignment assignment then
    (statusResult .invalid, store)
  else if works .assignmentSchema = false then (statusResult .storageError, store)
  else
    transaction (works .begin) (works .commit) (statusResult .storageError)
      TimerAssignmentRepositoryResult.ok (createInTransaction works assignment) store

def findById (works : CarriedOut) (timerAssignmentId : Bytes) (store : TimerStore) :
    TimerAssignmentRepositoryResult :=
  if !safeIdentity timerAssignmentId then statusResult .invalid
  else if works .assignmentSchema = false then statusResult .storageError
  else
    match selectById works timerAssignmentId store with
    | .error result => result
    | .ok none => statusResult .notFound
    | .ok (some assignment) => assignmentResult .ok assignment

/-! ## Update -/

/-- The assignment that an update writes. The revision after 2^63-1 is not a valid token, so it
cannot be bound. -/
def updateDurable (works : CarriedOut) (next : TimerAssignment) (expectedRevision : Bytes)
    (store : TimerStore) : Except TimerAssignmentRepositoryResult (TimerAssignment × Nat) := do
  match parseRevisionToken expectedRevision with
  | none => .error (statusResult .invalid)
  | some expectedRevisionNumber =>
    refuseIf (next.assignmentRevision != expectedRevision ||
      !safeIdentity next.timerAssignmentId) (statusResult .invalid)
    match ← selectById works next.timerAssignmentId store with
    | none => .error (statusResult .notFound)
    | some current =>
      refuseIf (!timerAssignmentRevisionMatches expectedRevision current.assignmentRevision)
        (assignmentResult .conflict current)
      refuseIf (timerAssignmentTerminal current.state ||
        next.timerIntentId != current.timerIntentId ||
        next.assignmentEpoch != current.assignmentEpoch ||
        next.role != current.role ||
        next.createdAt != current.createdAt ||
        decide (next.updatedAt ≤ current.updatedAt) ||
        !desiredNativeTimerSpecificationValidForAssignment next ||
        !desiredNativeTimerSpecificationImmutable current next ||
        (!current.backendId.isEmpty && next.backendId != current.backendId) ||
        (next.state != current.state &&
          !timerAssignmentCanTransition current.state next.state)) (statusResult .invalid)
      validateIntentRevision works next store
      let durable : TimerAssignment :=
        { next with assignmentRevision := decimal (expectedRevisionNumber + 1) }
      refuseIf (!timerAssignmentValid durable) (statusResult .invalid)
      if exclusiveOwnership durable then
        noOtherActivePrimary works durable.timerIntentId durable.timerAssignmentId store
      pure (durable, expectedRevisionNumber)

def updateInCurrentTransaction (works : CarriedOut) (next : TimerAssignment)
    (expectedRevision : Bytes) (store : TimerStore) :
    TimerAssignmentRepositoryResult × TimerStore :=
  match updateDurable works next expectedRevision store with
  | .error result => (result, store)
  | .ok (durable, expectedRevisionNumber) =>
    writeDurable durable
      (fun row => attempt (works .updateAssignment)
        (updateAssignment row expectedRevisionNumber)) store

def update (works : CarriedOut) (next : TimerAssignment) (expectedRevision : Bytes)
    (store : TimerStore) : TimerAssignmentRepositoryResult × TimerStore :=
  if works .assignmentSchema = false then (statusResult .storageError, store)
  else
    transaction (works .begin) (works .commit) (statusResult .storageError)
      TimerAssignmentRepositoryResult.ok
      (updateInCurrentTransaction works next expectedRevision) store

/-! ## Set revisions -/

/-- `INSERT OR IGNORE … SELECT …,COALESCE(MAX(assignment_epoch),0) … GROUP BY timer_intent_id`. -/
def fillSetRevisions (store : TimerStore) : TimerStore :=
  { store with
    setRevisions := fun timerIntentId =>
      match store.setRevisions timerIntentId with
      | some revision => some revision
      | none =>
        if store.assignments.any fun row => row.timerIntentId == timerIntentId then
          some (maximumEpoch timerIntentId store.assignments)
        else none }

def setRevisionSchema (works : CarriedOut) : List (Statement TimerStore) :=
  [attempt (works .createSetRevisions) .ok,
    attempt (works .fillSetRevisions) fun store => .ok (fillSetRevisions store),
    attempt (works .createInsertTrigger) fun store =>
      .ok { store with setRevisionInsertTrigger := true },
    attempt (works .createUpdateTrigger) fun store =>
      .ok { store with setRevisionUpdateTrigger := true },
    attempt (works .createDeleteTrigger) fun store =>
      .ok { store with setRevisionDeleteTrigger := true }]

def ensureAssignmentSetRevisionSchema (works : CarriedOut) (store : TimerStore) :
    Bool × TimerStore :=
  executeAll (setRevisionSchema works) store

structure TimerAssignmentRepositorySetRevisionResult where
  status : TimerAssignmentRepositoryStatus := .storageError
  assignmentSetRevision : Bytes := []
  deriving DecidableEq

def readCurrentSetRevision (works : CarriedOut) (timerIntentId : Bytes) (store : TimerStore) :
    Option Nat :=
  if works .selectSetRevision = false then none
  else some ((store.setRevisions timerIntentId).getD 0)

def assignmentSetRevisionForIntent (works : CarriedOut) (timerIntentId : Bytes)
    (store : TimerStore) : TimerAssignmentRepositorySetRevisionResult × TimerStore :=
  if !safeIdentity timerIntentId then ({ status := .invalid }, store)
  else if works .assignmentSchema = false then ({ status := .storageError }, store)
  else
    match ensureAssignmentSetRevisionSchema works store with
    | (false, reached) => ({ status := .storageError }, reached)
    | (true, reached) =>
      if works .selectIntent = false then ({ status := .storageError }, reached)
      else if reached.intents.any fun intent => intent.timerIntentId == timerIntentId then
        match readCurrentSetRevision works timerIntentId reached with
        | none => ({ status := .storageError }, reached)
        | some revision => ({ status := .ok, assignmentSetRevision := decimal revision }, reached)
      else ({ status := .intentNotFound }, reached)

/-! ## Creation against a set revision -/

inductive Stage
  | observing
  | clearing
  | calling
  | removing
  | rechecking
  | readingBack
  | readingOld
  | readingReplacement
  deriving DecidableEq

def removeTemporaryExpectationFence (works : CarriedOut) (store : TimerStore) : TimerStore :=
  (executeAll
    [attempt (works .dropBeforeTrigger) fun store =>
        .ok { store with setExpectationTrigger := false },
      attempt (works .dropExpectations) fun store => .ok { store with setExpectations := none }]
    store).2

def createSetExpectations (works : CarriedOut) : Statement TimerStore :=
  attempt (works .createExpectations) fun store =>
    if store.setExpectations.isSome then .error .error
    else .ok { store with setExpectations := some none }

def setExpectationStatements (works : CarriedOut) (expected : SetExpectation) :
    List (Statement TimerStore) :=
  [attempt (works .insertExpectation) fun store =>
      .ok { store with setExpectations := some (some expected) },
    attempt (works .createBeforeTrigger) fun store =>
      if store.setExpectationTrigger then .error .error
      else .ok { store with setExpectationTrigger := true }]

def installTemporaryExpectationFence (works : Stage → CarriedOut) (assignment : TimerAssignment)
    (expectedRevision : Nat) (store : TimerStore) : Bool × TimerStore :=
  let cleared := removeTemporaryExpectationFence (works .clearing) store
  let expected : SetExpectation :=
    { timerAssignmentId := assignment.timerAssignmentId
      timerIntentId := assignment.timerIntentId
      expectedSetRevision := expectedRevision }
  match createSetExpectations (works .calling) cleared with
  | .error _ => (false, cleared)
  | .ok created =>
    match executeAll (setExpectationStatements (works .calling) expected) created with
    | (true, reached) => (true, reached)
    | (false, reached) => (false, removeTemporaryExpectationFence (works .removing) reached)

def createAgainstAssignmentSetRevision (works : Stage → CarriedOut) (assignment : TimerAssignment)
    (expectedAssignmentSetRevision : Bytes) (store : TimerStore) :
    TimerAssignmentRepositoryResult × TimerStore :=
  if !safeIdentity assignment.timerAssignmentId || !safeIdentity assignment.timerIntentId then
    (statusResult .invalid, store)
  else
    match parseUnsignedToken expectedAssignmentSetRevision with
    | none => (statusResult .invalid, store)
    | some expectedRevision =>
      if works .observing .assignmentSchema = false then (statusResult .storageError, store)
      else
        match ensureAssignmentSetRevisionSchema (works .observing) store with
        | (false, reached) => (statusResult .storageError, reached)
        | (true, reached) =>
          match installTemporaryExpectationFence works assignment expectedRevision reached with
          | (false, reached) => (statusResult .storageError, reached)
          | (true, installed) =>
            let (result, created) := create (works .calling) assignment installed
            let current :=
              readCurrentSetRevision (works .rechecking) assignment.timerIntentId created
            let removed := removeTemporaryExpectationFence (works .removing) created
            if !result.ok && current.isSome && current != some expectedRevision &&
                (result.status == .ownershipConflict ||
                  result.status == .storageError) then
              ({ result with status := .conflict }, removed)
            else (result, removed)

end VdrSuite.Timers
