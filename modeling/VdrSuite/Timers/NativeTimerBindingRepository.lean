import VdrSuite.Library.Table
import VdrSuite.Timers.BoundAssignmentRefresh

/-! The native timer binding repository: creation, observation updates and verified renames. -/

set_option autoImplicit false

namespace VdrSuite.Timers

open Library Library.Transaction Operations

/-! ## Rows -/

/-- A row of `native_timer_bindings`; only the names of ownerships and drift states are written. -/
structure NativeTimerBindingRecord where
  nativeTimerBindingId : Bytes
  bindingRevision : Nat
  backendId : Bytes
  backendGeneration : Nat
  backendNativeTimerId : Bytes
  timerAssignmentId : Bytes
  ownership : NativeTimerBindingOwnership
  observedFingerprint : Bytes
  observedState : NativeTimerObservedState
  lastObservedAt : Int
  lastVerifiedOperationId : Bytes
  missingSince : Int
  driftState : NativeTimerBindingDriftState
  deriving DecidableEq

/-- The table of bindings, and the tables that the repository reads or writes beside it. -/
structure NativeTimerBindingStore where
  bindings : List NativeTimerBindingRecord := []
  timers : TimerStore := {}

def bindingOfRecord (row : NativeTimerBindingRecord) : NativeTimerBinding :=
  { nativeTimerBindingId := row.nativeTimerBindingId
    bindingRevision := decimal row.bindingRevision
    backendId := row.backendId
    backendGeneration := row.backendGeneration
    backendNativeTimerId := row.backendNativeTimerId
    timerAssignmentId := row.timerAssignmentId
    ownership := row.ownership
    observedFingerprint := row.observedFingerprint
    observedState := row.observedState
    lastObservedAt := row.lastObservedAt
    lastVerifiedOperationId := row.lastVerifiedOperationId
    missingSince := row.missingSince
    driftState := row.driftState }

def recordOfBinding (binding : NativeTimerBinding) (revision : Nat) : NativeTimerBindingRecord :=
  { nativeTimerBindingId := binding.nativeTimerBindingId
    bindingRevision := revision
    backendId := binding.backendId
    backendGeneration := binding.backendGeneration
    backendNativeTimerId := binding.backendNativeTimerId
    timerAssignmentId := binding.timerAssignmentId
    ownership := binding.ownership
    observedFingerprint := binding.observedFingerprint
    observedState := binding.observedState
    lastObservedAt := binding.lastObservedAt
    lastVerifiedOperationId := binding.lastVerifiedOperationId
    missingSince := binding.missingSince
    driftState := binding.driftState }

/-- The columns that an `UPDATE` sets. -/
def withMutableColumns (binding : NativeTimerBinding) (revision : Nat)
    (row : NativeTimerBindingRecord) : NativeTimerBindingRecord :=
  { row with
    bindingRevision := revision
    backendGeneration := binding.backendGeneration
    observedFingerprint := binding.observedFingerprint
    observedState := binding.observedState
    lastObservedAt := binding.lastObservedAt
    lastVerifiedOperationId := binding.lastVerifiedOperationId
    missingSince := binding.missingSince
    driftState := binding.driftState }

def bindRevision (binding : NativeTimerBinding) : Option Nat :=
  if binding.backendGeneration > int64Max then none else parseRevisionToken binding.bindingRevision

def readBinding (row : NativeTimerBindingRecord) : Option NativeTimerBinding :=
  if row.bindingRevision = 0 ∨ row.backendGeneration = 0 then none
  else if nativeTimerBindingValid (bindingOfRecord row) then some (bindingOfRecord row)
  else none

/-! ## Statements -/

inductive NativeTimerBindingStatement
  | begin
  | selectById
  | selectByNativeIdentity
  | selectManagedForAssignment
  | insert
  | selectOpenOperation
  | update
  | selectBoundAssignment
  | updateBoundAssignment
  | prepareUpdateOperation
  | selectUpdateOperation
  | prepareRename
  | rename
  | commit
  deriving DecidableEq

def selectOne (carriedOut : Bool) (selected : NativeTimerBindingRecord → Bool)
    (store : NativeTimerBindingStore) : Except Refusal (Option NativeTimerBinding) :=
  if carriedOut = false then .error .error
  else
    match store.bindings.find? selected with
    | none => .ok none
    | some row =>
      match readBinding row with
      | none => .error .error
      | some binding => .ok (some binding)

def sameId (nativeTimerBindingId : Bytes) (row : NativeTimerBindingRecord) : Bool :=
  row.nativeTimerBindingId == nativeTimerBindingId

def sameNativeIdentity (backendId backendNativeTimerId : Bytes) (row : NativeTimerBindingRecord) :
    Bool :=
  row.backendId == backendId && row.backendNativeTimerId == backendNativeTimerId

def managedForAssignment (timerAssignmentId : Bytes) (row : NativeTimerBindingRecord) : Bool :=
  row.timerAssignmentId == timerAssignmentId && managedOwnership row.ownership

def bindingsClash (row other : NativeTimerBindingRecord) : Bool :=
  sameId row.nativeTimerBindingId other ||
  sameNativeIdentity row.backendId row.backendNativeTimerId other ||
  (!row.timerAssignmentId.isEmpty && managedOwnership row.ownership &&
    managedForAssignment row.timerAssignmentId other)

def nativeBindingInsert (binding : NativeTimerBinding) : Statement NativeTimerBindingStore :=
  fun store =>
    match bindRevision binding with
    | none => .error .error
    | some revision =>
      let row := recordOfBinding binding revision
      if store.bindings.any (bindingsClash row) then .error .constraint
      else .ok { store with bindings := store.bindings ++ [row] }

/-- A row as an `UPDATE` selects it. -/
def atRevision (nativeTimerBindingId : Bytes) (revision : Nat) (row : NativeTimerBindingRecord) :
    Bool :=
  row.nativeTimerBindingId == nativeTimerBindingId && row.bindingRevision == revision

def nativeBindingUpdate (binding : NativeTimerBinding) (expectedRevision : Nat) :
    Statement NativeTimerBindingStore := fun store =>
  match bindRevision binding with
  | none => .error .error
  | some revision =>
    if store.bindings.any (atRevision binding.nativeTimerBindingId expectedRevision) then
      .ok { store with
        bindings := Table.update (atRevision binding.nativeTimerBindingId expectedRevision)
          (withMutableColumns binding revision) store.bindings }
    else .error .error

def renames (current : NativeTimerBinding) (revision : Nat) (row : NativeTimerBindingRecord) : Bool :=
  atRevision (cString current.nativeTimerBindingId) revision row &&
  row.backendNativeTimerId == cString current.backendNativeTimerId

def renameNativeIdentity (current : NativeTimerBinding) (revision : Nat)
    (backendNativeTimerId : Bytes) : Statement NativeTimerBindingStore := fun store =>
  match store.bindings.find? (renames current revision) with
  | none => .error .error
  | some row =>
    if store.bindings.any fun other => !sameId row.nativeTimerBindingId other &&
        sameNativeIdentity row.backendId (cString backendNativeTimerId) other then
      .error .constraint
    else
      .ok { store with
        bindings := Table.update (renames current revision)
          (fun row => { row with backendNativeTimerId := cString backendNativeTimerId })
          store.bindings }

/-! ## Results -/

inductive NativeTimerBindingRepositoryStatus
  | ok
  | invalid
  | notFound
  | conflict
  | alreadyExists
  | nativeIdentityConflict
  | assignmentBindingConflict
  | immutableConflict
  | generationConflict
  | observationConflict
  | storageError
  deriving DecidableEq

structure NativeTimerBindingRepositoryResult where
  status : NativeTimerBindingRepositoryStatus := .storageError
  binding : NativeTimerBinding := {}
  deriving DecidableEq

def NativeTimerBindingRepositoryResult.ok (result : NativeTimerBindingRepositoryResult) : Bool :=
  result.status == .ok

def bindingStatus (status : NativeTimerBindingRepositoryStatus) :
    NativeTimerBindingRepositoryResult :=
  { status := status }

def bindingResult (status : NativeTimerBindingRepositoryStatus) (binding : NativeTimerBinding) :
    NativeTimerBindingRepositoryResult :=
  { status := status, binding := binding }

def orStorageError {Value : Type} (found : Except Refusal Value) :
    Except NativeTimerBindingRepositoryResult Value :=
  match found with
  | .error _ => .error (bindingStatus .storageError)
  | .ok value => .ok value

def refuseFound (status : NativeTimerBindingRepositoryStatus) :
    Option NativeTimerBinding → Except NativeTimerBindingRepositoryResult Unit
  | none => .ok ()
  | some existing => .error (bindingResult status existing)

/-! ## Creation -/

def createChecks (works : NativeTimerBindingStatement → Bool) (durable : NativeTimerBinding)
    (store : NativeTimerBindingStore) : Except NativeTimerBindingRepositoryResult Unit := do
  let existing ← orStorageError
    (selectOne (works .selectById) (sameId durable.nativeTimerBindingId) store)
  refuseFound .alreadyExists existing
  let existing ← orStorageError (selectOne (works .selectByNativeIdentity)
    (sameNativeIdentity durable.backendId durable.backendNativeTimerId) store)
  refuseFound .nativeIdentityConflict existing
  if managedOwnership durable.ownership then
    let existing ← orStorageError (selectOne (works .selectManagedForAssignment)
      (managedForAssignment durable.timerAssignmentId) store)
    refuseFound .assignmentBindingConflict existing

def writeBinding (durable : NativeTimerBinding) (statement : Statement NativeTimerBindingStore)
    (store : NativeTimerBindingStore) :
    NativeTimerBindingRepositoryResult × NativeTimerBindingStore :=
  match statement store with
  | .error _ => (bindingStatus .storageError, store)
  | .ok next => (bindingResult .ok durable, next)

def createBinding (works : NativeTimerBindingStatement → Bool) (binding : NativeTimerBinding)
    (store : NativeTimerBindingStore) :
    NativeTimerBindingRepositoryResult × NativeTimerBindingStore :=
  let durable : NativeTimerBinding := { binding with bindingRevision := text "1" }
  if !safeIdentity binding.nativeTimerBindingId || !binding.bindingRevision.isEmpty ||
      decide (binding.backendGeneration > int64Max) || !nativeTimerBindingValid durable then
    (bindingStatus .invalid, store)
  else
    transaction (works .begin) (works .commit) (bindingStatus .storageError)
      NativeTimerBindingRepositoryResult.ok
      (fun store =>
        match createChecks works durable store with
        | .error result => (result, store)
        | .ok () => writeBinding durable
            (attempt (works .insert) (nativeBindingInsert durable)) store)
      store

/-! ## Update -/

def passivelyRefreshable (current next : NativeTimerBinding) : Bool :=
  managedOwnership current.ownership &&
  current.missingSince == 0 &&
  current.driftState == .none &&
  !current.observedState.recording && !current.observedState.pending &&
  decide (current.backendGeneration ≤ next.backendGeneration) &&
  (current.observedFingerprint == next.observedFingerprint ||
    nativeTimerObservedStateSameExceptEventId current.observedState next.observedState) &&
  current.lastVerifiedOperationId == next.lastVerifiedOperationId &&
  current.missingSince == next.missingSince &&
  current.driftState == next.driftState &&
  decide (current.lastObservedAt < next.lastObservedAt)

def terminalStateNames : List Bytes :=
  [text "rejected", text "conflict", text "succeeded", text "failed_before_dispatch",
    text "failed_verified", text "cancelled"]

/-- An operation that is not finished, on the binding or on its assignment; the ids are compared as C
strings. -/
def openOperationOn (current : NativeTimerBinding) (operation : MutationOperationRow) : Bool :=
  ((operation.resourceType == text "NativeTimerBinding" &&
      operation.resourceId == cString current.nativeTimerBindingId) ||
    (operation.resourceType == text "TimerAssignment" &&
      operation.resourceId == cString current.timerAssignmentId)) &&
  !decide (operation.state ∈ terminalStateNames)

def passiveChecks (works : NativeTimerBindingStatement → Bool) (current next : NativeTimerBinding)
    (store : NativeTimerBindingStore) : Except NativeTimerBindingRepositoryResult Unit := do
  refuseIf (!passivelyRefreshable current next) (bindingResult .conflict current)
  refuseIf (!works .selectOpenOperation) (bindingStatus .storageError)
  refuseIf (store.timers.operations.any (openOperationOn current)) (bindingResult .conflict current)

def updateChecks (works : NativeTimerBindingStatement → Bool) (next : NativeTimerBinding)
    (expectedRevision : Bytes) (expected : Nat) (passiveFreshnessRefresh : Bool)
    (store : NativeTimerBindingStore) :
    Except NativeTimerBindingRepositoryResult NativeTimerBinding := do
  match ← orStorageError
      (selectOne (works .selectById) (sameId next.nativeTimerBindingId) store) with
  | none => .error (bindingStatus .notFound)
  | some current =>
    refuseIf (!nativeTimerBindingRevisionMatches expectedRevision current.bindingRevision)
      (bindingResult .conflict current)
    refuseIf (next.backendId != current.backendId ||
      next.backendNativeTimerId != current.backendNativeTimerId ||
      next.timerAssignmentId != current.timerAssignmentId ||
      next.ownership != current.ownership) (bindingResult .immutableConflict current)
    refuseIf (decide (next.backendGeneration < current.backendGeneration))
      (bindingResult .generationConflict current)
    refuseIf (decide (next.lastObservedAt < current.lastObservedAt))
      (bindingResult .observationConflict current)
    if passiveFreshnessRefresh then passiveChecks works current next store
    refuseIf (expected == int64Max) (bindingResult .conflict current)
    pure current

def refreshAssignment (works : NativeTimerBindingStatement → Bool) (current durable : NativeTimerBinding)
    (store : NativeTimerBindingStore) :
    NativeTimerBindingRepositoryResult × NativeTimerBindingStore :=
  match refreshBoundAssignmentGeneration (works .selectBoundAssignment)
      (works .updateBoundAssignment) current durable.backendGeneration durable.lastObservedAt
      store.timers with
  | .error _ => (bindingStatus .conflict, store)
  | .ok timers => (bindingResult .ok durable, { store with timers := timers })

def updateInTransaction (works : NativeTimerBindingStatement → Bool) (next : NativeTimerBinding)
    (expectedRevision : Bytes) (expected : Nat) (passiveFreshnessRefresh : Bool)
    (store : NativeTimerBindingStore) :
    NativeTimerBindingRepositoryResult × NativeTimerBindingStore :=
  match updateChecks works next expectedRevision expected passiveFreshnessRefresh store with
  | .error result => (result, store)
  | .ok current =>
    let durable : NativeTimerBinding := { next with bindingRevision := decimal (expected + 1) }
    if !nativeTimerBindingValid durable then (bindingStatus .storageError, store)
    else
      match attempt (works .update) (nativeBindingUpdate durable expected) store with
      | .error _ => (bindingStatus .storageError, store)
      | .ok written =>
        if passiveFreshnessRefresh then refreshAssignment works current durable written
        else (bindingResult .ok durable, written)

def updateBinding (works : NativeTimerBindingStatement → Bool) (next : NativeTimerBinding)
    (expectedRevision : Bytes) (passiveFreshnessRefresh : Bool) (store : NativeTimerBindingStore) :
    NativeTimerBindingRepositoryResult × NativeTimerBindingStore :=
  match parseRevisionToken expectedRevision with
  | none => (bindingStatus .invalid, store)
  | some expected =>
    if !safeIdentity next.nativeTimerBindingId || next.bindingRevision != expectedRevision ||
        decide (next.backendGeneration > int64Max) || !nativeTimerBindingValid next then
      (bindingStatus .invalid, store)
    else
      transaction (works .begin) (works .commit) (bindingStatus .storageError)
        NativeTimerBindingRepositoryResult.ok
        (updateInTransaction works next expectedRevision expected passiveFreshnessRefresh) store

/-! ## Verified renames -/

def renameable (current next : NativeTimerBinding) : Bool :=
  next.backendNativeTimerId != current.backendNativeTimerId &&
  next.backendId == current.backendId &&
  next.timerAssignmentId == current.timerAssignmentId &&
  next.ownership == current.ownership &&
  managedOwnership current.ownership &&
  current.missingSince == 0 &&
  current.driftState == .none &&
  current.backendGeneration == next.backendGeneration &&
  decide (current.lastObservedAt ≤ next.lastObservedAt) &&
  next.observedFingerprint != current.observedFingerprint &&
  !current.observedState.recording && !current.observedState.pending &&
  !next.observedState.recording && !next.observedState.pending &&
  next.missingSince == 0 &&
  next.driftState == .none &&
  next.lastVerifiedOperationId != current.lastVerifiedOperationId

/-- The dispatched update whose predecessor is still current; the texts are compared as C strings. -/
def authorizesRename (operationId : Bytes) (current : NativeTimerBinding) (expectedRevision : Bytes)
    (operation : MutationOperationRow) : Bool :=
  operation.operationId == cString operationId &&
  operation.actionFamily == text "timer.update" &&
  operation.resourceType == text "NativeTimerBinding" &&
  operation.resourceId == cString current.nativeTimerBindingId &&
  operation.backendId == cString current.backendId &&
  operation.backendGeneration == current.backendGeneration &&
  operation.expectedRevision == cString expectedRevision &&
  operation.expectedResourceFingerprint == cString current.observedFingerprint &&
  (operation.state == text "executed_unverified" || operation.state == text "outcome_unknown")

def renameChecks (works : NativeTimerBindingStatement → Bool) (next : NativeTimerBinding)
    (expectedRevision : Bytes) (store : NativeTimerBindingStore) :
    Except NativeTimerBindingRepositoryResult NativeTimerBinding := do
  match ← orStorageError
      (selectOne (works .selectById) (sameId next.nativeTimerBindingId) store) with
  | none => .error (bindingStatus .conflict)
  | some current =>
    refuseIf (current.bindingRevision != expectedRevision) (bindingStatus .conflict)
    refuseIf (!renameable current next) (bindingStatus .immutableConflict)
    refuseIf (!works .prepareUpdateOperation) (bindingStatus .storageError)
    refuseIf (!works .selectUpdateOperation ||
      !store.timers.operations.any
        (authorizesRename next.lastVerifiedOperationId current expectedRevision))
      (bindingStatus .conflict)
    refuseIf (!works .prepareRename) (bindingStatus .storageError)
    pure current

def renameInTransaction (works : NativeTimerBindingStatement → Bool) (next : NativeTimerBinding)
    (expectedRevision : Bytes) (revision : Nat) (store : NativeTimerBindingStore) :
    NativeTimerBindingRepositoryResult × NativeTimerBindingStore :=
  match renameChecks works next expectedRevision store with
  | .error result => (result, store)
  | .ok current =>
    match attempt (works .rename)
        (renameNativeIdentity current revision next.backendNativeTimerId) store with
    | .error _ => (bindingStatus .nativeIdentityConflict, store)
    | .ok renamed =>
      let durable : NativeTimerBinding := { next with bindingRevision := decimal (revision + 1) }
      writeBinding durable (attempt (works .update) (nativeBindingUpdate durable revision)) renamed

def updateVerifiedNativeIdentity (works : NativeTimerBindingStatement → Bool)
    (next : NativeTimerBinding) (expectedRevision : Bytes) (store : NativeTimerBindingStore) :
    NativeTimerBindingRepositoryResult × NativeTimerBindingStore :=
  match parseRevisionToken expectedRevision with
  | none => (bindingStatus .invalid, store)
  | some revision =>
    if revision == int64Max || next.bindingRevision != expectedRevision ||
        !nativeTimerBindingValid next || !safeIdentity next.backendNativeTimerId ||
        next.lastVerifiedOperationId.isEmpty || decide (next.backendGeneration > int64Max) then
      (bindingStatus .invalid, store)
    else
      transaction (works .begin) (works .commit) (bindingStatus .storageError)
        NativeTimerBindingRepositoryResult.ok
        (renameInTransaction works next expectedRevision revision) store

end VdrSuite.Timers
