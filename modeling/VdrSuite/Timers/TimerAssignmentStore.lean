import VdrSuite.Library.Transaction
import VdrSuite.Operations.MutationOperationRepository
import VdrSuite.Timers.TimerAssignmentRow

/-! The tables around timer assignments, and the writes to them with their triggers. -/

set_option autoImplicit false

namespace VdrSuite.Timers

open Library Library.Transaction Operations

/-! ## Tables -/

/-- The columns of `timer_intents` that assignments depend on. -/
structure TimerIntentRow where
  timerIntentId : Bytes
  intentRevision : Nat
  assignmentAllowFailover : Bool
  state : Bytes
  deriving DecidableEq

/-- The columns of `native_timer_bindings` that a replacement depends on. -/
structure NativeTimerBindingRow where
  nativeTimerBindingId : Bytes
  bindingRevision : Nat
  timerAssignmentId : Bytes
  backendId : Bytes
  backendGeneration : Int
  ownership : Bytes
  missingSince : Int
  driftState : Bytes
  observedRecording : Bool
  lastVerifiedOperationId : Bytes
  deriving DecidableEq

inductive TimerAssignmentReassignmentNativeOutcome
  | beforeDispatch
  | verifiedAbsent
  deriving DecidableEq

/-- A row of `timer_assignment_reassignments`. -/
structure TimerAssignmentReassignmentRow where
  replacementAssignmentId : Bytes
  oldAssignmentId : Bytes
  oldAssignmentRevision : Bytes
  oldAssignmentEpoch : Int
  oldBackendId : Bytes
  oldBackendGeneration : Int
  oldNativeOutcome : TimerAssignmentReassignmentNativeOutcome
  oldOperationId : Bytes
  oldOperationRevision : Bytes
  oldBindingId : Bytes
  oldBindingRevision : Bytes
  reason : Bytes
  newBackendId : Bytes
  newBackendGeneration : Nat
  newAssignmentEpoch : Nat
  createdAt : Int
  deriving DecidableEq

/-- A row of the temporary table `timer_assignment_set_expectation`. -/
structure SetExpectation where
  timerAssignmentId : Bytes
  timerIntentId : Bytes
  expectedSetRevision : Nat
  deriving DecidableEq

/-- A row of the temporary table `timer_assignment_reassignment_expectation`. -/
structure ReassignmentExpectation where
  replacementAssignmentId : Bytes
  expectedSetRevision : Nat
  oldAssignmentId : Bytes
  oldAssignmentRevision : Nat
  oldAssignmentEpoch : Int
  oldBackendId : Bytes
  oldBackendGeneration : Int
  oldNativeOutcome : TimerAssignmentReassignmentNativeOutcome
  oldOperationId : Bytes
  oldOperationRevision : Bytes
  oldBindingId : Bytes
  oldBindingRevision : Bytes
  reason : Bytes
  createdAt : Int
  deriving DecidableEq

/-- The tables and triggers. A temporary table that does not exist is `none`; one that exists gets
at most one row, right after it is created. -/
structure TimerStore where
  assignments : List TimerAssignmentRow := []
  setRevisions : Bytes → Option Nat := fun _ => none
  setRevisionInsertTrigger : Bool := false
  setRevisionUpdateTrigger : Bool := false
  setRevisionDeleteTrigger : Bool := false
  reassignments : List TimerAssignmentReassignmentRow := []
  intents : List TimerIntentRow := []
  bindings : List NativeTimerBindingRow := []
  operations : List MutationOperationRow := []
  setExpectations : Option (Option SetExpectation) := none
  setExpectationTrigger : Bool := false
  reassignmentExpectations : Option (Option ReassignmentExpectation) := none
  reassignmentBeforeTrigger : Bool := false
  reassignmentAfterTrigger : Bool := false

/-- `static_cast<sqlite3_int64>` of an unsigned 64-bit number. -/
def asInt64 (value : Nat) : Int :=
  if value ≤ int64Max then value else value - 18446744073709551616

/-! ## Queries -/

def activeExclusiveOwner (row : TimerAssignmentRow) : Bool :=
  row.role ∈ [.primary, .replacement] && timerAssignmentActiveOwnershipState row.state

/-- `COALESCE(MAX(assignment_epoch),0)` over the assignments of an intent. -/
def maximumEpoch (timerIntentId : Bytes) : List TimerAssignmentRow → Nat
  | [] => 0
  | row :: rest =>
    if row.timerIntentId = timerIntentId then max row.assignmentEpoch (maximumEpoch timerIntentId rest)
    else maximumEpoch timerIntentId rest

/-- The set revision that a reader gets: a missing row is first filled with the largest epoch. -/
def observedSetRevision (store : TimerStore) (timerIntentId : Bytes) : Nat :=
  (store.setRevisions timerIntentId).getD (maximumEpoch timerIntentId store.assignments)

/-! ## Triggers -/

/-- `RAISE(ABORT,…)` under a condition. -/
def abortIf (condition : Bool) : Except Refusal Unit :=
  if condition then .error .constraint else .ok ()

/-- `INSERT … VALUES (…,1) ON CONFLICT DO UPDATE SET set_revision=set_revision+1`. -/
def advanceSetRevision (timerIntentId : Bytes) (store : TimerStore) : TimerStore :=
  { store with
    setRevisions := fun other =>
      if other = timerIntentId then
        some (match store.setRevisions timerIntentId with
          | none => 1
          | some revision => revision + 1)
      else store.setRevisions other }

/-- The `AFTER UPDATE` trigger of the set revisions. -/
def afterUpdate (timerIntentId : Bytes) (store : TimerStore) : TimerStore :=
  if store.setRevisionUpdateTrigger then advanceSetRevision timerIntentId store else store

/-- The `AFTER INSERT` trigger of the set revisions. -/
def afterInsert (timerIntentId : Bytes) (store : TimerStore) : TimerStore :=
  if store.setRevisionInsertTrigger then advanceSetRevision timerIntentId store else store

/-- The `AFTER DELETE` trigger of the set revisions. -/
def afterDelete (timerIntentId : Bytes) (store : TimerStore) : TimerStore :=
  if store.setRevisionDeleteTrigger then advanceSetRevision timerIntentId store else store

/-- The temporary `BEFORE INSERT` trigger of set expectations. -/
def checkSetExpectation (row : TimerAssignmentRow) (store : TimerStore) : Except Refusal Unit :=
  if store.setExpectationTrigger = false then .ok ()
  else
    match store.setExpectations with
    | none => .error .error
    | some none => .ok ()
    | some (some expected) =>
      if row.timerAssignmentId ≠ expected.timerAssignmentId then .ok ()
      else abortIf (expected.timerIntentId != row.timerIntentId ||
        expected.expectedSetRevision != (store.setRevisions row.timerIntentId).getD 0)

def oldOwnerMatches (expected : ReassignmentExpectation) (row old : TimerAssignmentRow) : Bool :=
  expected.oldAssignmentId == old.timerAssignmentId &&
  old.timerIntentId == row.timerIntentId &&
  old.assignmentRevision == expected.oldAssignmentRevision &&
  (old.assignmentEpoch : Int) == expected.oldAssignmentEpoch &&
  old.backendId == expected.oldBackendId &&
  (old.backendGeneration : Int) == expected.oldBackendGeneration &&
  old.role ∈ [.primary, .replacement] &&
  old.state ∈ [.selected, .provisioning, .bound, .reconciling] &&
  (match expected.oldNativeOutcome with
    | .beforeDispatch => old.state == .selected && old.nativeTimerBindingId.isEmpty
    | .verifiedAbsent => old.state ∈ [.bound, .reconciling] &&
        old.nativeTimerBindingId == expected.oldBindingId) &&
  old.updatedAt < row.createdAt

def intentMatches (row : TimerAssignmentRow) (intent : TimerIntentRow) : Bool :=
  intent.timerIntentId == row.timerIntentId &&
  decimal intent.intentRevision == row.intentRevision &&
  intent.assignmentAllowFailover

def bindingMatches (expected : ReassignmentExpectation) (binding : NativeTimerBindingRow) : Bool :=
  expected.oldBindingId == binding.nativeTimerBindingId &&
  decimal binding.bindingRevision == expected.oldBindingRevision &&
  binding.timerAssignmentId == expected.oldAssignmentId &&
  binding.backendId == expected.oldBackendId &&
  binding.backendGeneration == expected.oldBackendGeneration &&
  binding.ownership ∈ [text "managed", text "adopted"] &&
  decide (0 < binding.missingSince) &&
  binding.driftState == text "expected_transition" &&
  !binding.observedRecording &&
  binding.lastVerifiedOperationId == expected.oldOperationId

def operationMatches (expected : ReassignmentExpectation) (operation : MutationOperationRow) :
    Bool :=
  expected.oldOperationId == operation.operationId &&
  decimal operation.operationRevision == expected.oldOperationRevision &&
  operation.state == text "succeeded" &&
  operation.actionFamily == text "timer.delete" &&
  operation.resourceType == text "NativeTimerBinding" &&
  operation.resourceId == expected.oldBindingId &&
  operation.backendId == expected.oldBackendId &&
  (operation.backendGeneration : Int) == expected.oldBackendGeneration

/-- The old owner after the trigger's `UPDATE`; a revision of 2^63 would be read as 2^63-1. -/
def supersededRow (updatedAt : Int) (old : TimerAssignmentRow) : TimerAssignmentRow :=
  { old with
    state := .superseded
    assignmentRevision := min (old.assignmentRevision + 1) int64Max
    updatedAt := updatedAt }

/-- `UPDATE timer_assignments SET state='superseded',…`, with the trigger it fires in turn. -/
def supersede (oldAssignmentId : Bytes) (updatedAt : Int) (store : TimerStore) : TimerStore :=
  match store.assignments.find? (fun row => row.timerAssignmentId == oldAssignmentId) with
  | none => store
  | some old =>
    afterUpdate old.timerIntentId
      { store with
        assignments := store.assignments.map fun row =>
          if row.timerAssignmentId = oldAssignmentId then supersededRow updatedAt row else row }

def replacementChecks (expected : ReassignmentExpectation) (row : TimerAssignmentRow)
    (store : TimerStore) : Except Refusal Unit := do
  abortIf (row.role != .replacement || row.state != .selected)
  abortIf (row.backendId == expected.oldBackendId)
  abortIf ((store.setRevisions row.timerIntentId).getD 0 != expected.expectedSetRevision)
  abortIf (!store.assignments.any (oldOwnerMatches expected row))
  abortIf (!store.intents.any (intentMatches row))
  abortIf (expected.oldNativeOutcome == .verifiedAbsent &&
    !store.bindings.any (bindingMatches expected))
  abortIf (expected.oldNativeOutcome == .verifiedAbsent &&
    !store.operations.any (operationMatches expected))

/-- The temporary `BEFORE INSERT` trigger of a controlled replacement. -/
def reassignmentBefore (row : TimerAssignmentRow) (store : TimerStore) :
    Except Refusal TimerStore :=
  if store.reassignmentBeforeTrigger = false then .ok store
  else
    match store.reassignmentExpectations with
    | none => .error .error
    | some none => .ok store
    | some (some expected) =>
      if row.timerAssignmentId ≠ expected.replacementAssignmentId then .ok store
      else do
        replacementChecks expected row store
        pure (supersede expected.oldAssignmentId row.createdAt store)

def reassignmentRow (row : TimerAssignmentRow) (expected : ReassignmentExpectation) :
    TimerAssignmentReassignmentRow :=
  { replacementAssignmentId := row.timerAssignmentId
    oldAssignmentId := expected.oldAssignmentId
    oldAssignmentRevision := decimal expected.oldAssignmentRevision
    oldAssignmentEpoch := expected.oldAssignmentEpoch
    oldBackendId := expected.oldBackendId
    oldBackendGeneration := expected.oldBackendGeneration
    oldNativeOutcome := expected.oldNativeOutcome
    oldOperationId := expected.oldOperationId
    oldOperationRevision := expected.oldOperationRevision
    oldBindingId := expected.oldBindingId
    oldBindingRevision := expected.oldBindingRevision
    reason := expected.reason
    newBackendId := row.backendId
    newBackendGeneration := row.backendGeneration
    newAssignmentEpoch := row.assignmentEpoch
    createdAt := expected.createdAt }

def insertReassignment (link : TimerAssignmentReassignmentRow) (store : TimerStore) :
    Except Refusal TimerStore :=
  if (store.reassignments.any fun other =>
        other.replacementAssignmentId == link.replacementAssignmentId ||
        other.oldAssignmentId == link.oldAssignmentId) ||
      decide (link.oldAssignmentEpoch ≤ 0) || decide (link.oldBackendGeneration ≤ 0) ||
      link.newBackendGeneration == 0 || link.newAssignmentEpoch == 0 ||
      decide (link.createdAt ≤ 0) then .error .constraint
  else .ok { store with reassignments := store.reassignments ++ [link] }

/-- The temporary `AFTER INSERT` trigger of a controlled replacement. -/
def reassignmentAfter (row : TimerAssignmentRow) (store : TimerStore) :
    Except Refusal TimerStore :=
  if store.reassignmentAfterTrigger = false then .ok store
  else
    match store.reassignmentExpectations with
    | none => .error .error
    | some none => .ok store
    | some (some expected) =>
      if row.timerAssignmentId ≠ expected.replacementAssignmentId then .ok store
      else insertReassignment (reassignmentRow row expected) store

/-! ## Writes -/

def clashes (row other : TimerAssignmentRow) : Bool :=
  other.timerAssignmentId == row.timerAssignmentId ||
  (other.timerIntentId == row.timerIntentId &&
    (other.assignmentEpoch == row.assignmentEpoch ||
      (activeExclusiveOwner other && activeExclusiveOwner row)))

/-- `INSERT INTO timer_assignments` with its triggers; a refusal undoes the whole statement. -/
def insertAssignment (row : TimerAssignmentRow) : Statement TimerStore := fun store => do
  checkSetExpectation row store
  let superseding ← reassignmentBefore row store
  if superseding.assignments.any (clashes row) then .error .constraint
  else
    reassignmentAfter row (afterInsert row.timerIntentId
      { superseding with assignments := superseding.assignments ++ [row] })

/-- `UPDATE timer_assignments … WHERE timer_assignment_id=? AND assignment_revision=?`; a statement
that changes no row counts as refused. -/
def updateAssignment (row : TimerAssignmentRow) (expectedRevision : Nat) :
    Statement TimerStore := fun store =>
  if !store.assignments.any fun current =>
      current.timerAssignmentId == row.timerAssignmentId &&
      current.assignmentRevision == expectedRevision then .error .error
  else if store.assignments.any fun other =>
      other.timerAssignmentId != row.timerAssignmentId && clashes row other then .error .constraint
  else
    .ok (afterUpdate row.timerIntentId
      { store with
        assignments := store.assignments.map fun current =>
          if current.timerAssignmentId = row.timerAssignmentId then row else current })

/-- `DELETE FROM timer_assignments WHERE timer_assignment_id=?`: no statement of the sources, but
the set revisions have a trigger for it. -/
def deleteAssignment (timerAssignmentId : Bytes) : Statement TimerStore := fun store =>
  match store.assignments.find? (fun row => row.timerAssignmentId == timerAssignmentId) with
  | none => .ok store
  | some old =>
    .ok (afterDelete old.timerIntentId
      { store with
        assignments := store.assignments.filter fun row =>
          row.timerAssignmentId != timerAssignmentId })

end VdrSuite.Timers
