import VdrSuite.Library.Run
import VdrSuite.Operations.MutationOperation

/-! The SQLite repository of mutation operations: rows, reservations and revision-fenced transitions. -/

set_option autoImplicit false

namespace VdrSuite.Operations

open Library

structure MutationOperationPayload where
  operationId : Bytes := []
  payloadType : Bytes := []
  payloadVersion : UInt32 := 0
  payload : Bytes := []
  payloadFingerprint : Bytes := []
  deriving DecidableEq

inductive MutationOperationRepositoryStatus where
  | ok
  | invalid
  | notFound
  | idempotentReplay
  | idempotencyConflict
  | operationConflict
  | maintenanceBlocked
  | revisionConflict
  | stateConflict
  | storageError
  deriving DecidableEq

structure MutationOperationRepositoryResult where
  status : MutationOperationRepositoryStatus := .storageError
  operation : MutationOperation := {}
  deriving DecidableEq

structure MutationOperationPayloadRepositoryResult where
  status : MutationOperationRepositoryStatus := .storageError
  payload : MutationOperationPayload := {}
  deriving DecidableEq

def kMaxPayloadLength : Nat := 64 * 1024
def kMaxPayloadFingerprintLength : Nat := 4096

def validPayload (payload : MutationOperationPayload) : Bool :=
  safeIdentity payload.operationId &&
  safeIdentity payload.payloadType &&
  0 < payload.payloadVersion &&
  !payload.payload.isEmpty &&
  payload.payload.length ≤ kMaxPayloadLength &&
  !payload.payloadFingerprint.isEmpty &&
  payload.payloadFingerprint.length ≤ kMaxPayloadFingerprintLength

/-! ## Tables -/

/-- A row of `mutation_operations`; text columns hold the C string that was bound. -/
structure MutationOperationRow where
  operationId : Bytes
  operationRevision : Nat
  idempotencyKey : Bytes
  actorId : Bytes
  backendId : Bytes
  backendGeneration : Nat
  resourceType : Bytes
  resourceId : Bytes
  expectedRevision : Bytes
  expectedResourceFingerprint : Bytes
  actionFamily : Bytes
  requestFingerprint : Bytes
  requestedAt : Int
  deadline : Int
  verificationPolicy : Bytes
  state : Bytes
  resultReference : Bytes
  updatedAt : Int
  deriving DecidableEq

/-- A row of `mutation_operation_payloads`. -/
structure MutationOperationPayloadRow where
  operationId : Bytes
  payloadType : Bytes
  payloadVersion : Nat
  payload : Bytes
  payloadFingerprint : Bytes
  deriving DecidableEq

structure Store where
  operations : List MutationOperationRow := []
  payloads : List MutationOperationPayloadRow := []
  deriving DecidableEq

/-- A row of `addon_media_import_maintenance`; a column that is no integer reads as `none`. -/
structure MaintenanceRow where
  frozen : Option Int
  revision : Option Int
  deriving DecidableEq

inductive AdmissionGate where
  | permitted
  | frozen
  | unavailable
  deriving DecidableEq

/-- What one call meets outside the two tables: the maintenance rows (`none` when they cannot be
read) and the SQLite statements that fail. -/
structure Environment where
  maintenance : Option (List MaintenanceRow) := some []
  beginFails : Bool := false
  selectByIdFails : Bool := false
  selectPayloadFails : Bool := false
  selectByScopeFails : Bool := false
  insertOperationFails : Bool := false
  insertPayloadFails : Bool := false
  updateFails : Bool := false
  commitFails : Bool := false
  deriving DecidableEq

inductive Lookup (Record : Type) where
  | failed
  | absent
  | found (record : Record)
  deriving DecidableEq

def statusResult (status : MutationOperationRepositoryStatus) : MutationOperationRepositoryResult :=
  { status := status }

def operationResult (status : MutationOperationRepositoryStatus) (operation : MutationOperation) :
    MutationOperationRepositoryResult :=
  { status := status, operation := operation }

def readOperation (row : MutationOperationRow) : Option MutationOperation :=
  if row.backendGeneration = 0 then none
  else match mutationOperationVerificationPolicyFromName row.verificationPolicy,
      mutationOperationStateFromName row.state with
    | some verificationPolicy, some state =>
      let operation : MutationOperation :=
        { operationId := row.operationId
          operationRevision := decimal row.operationRevision
          idempotencyKey := row.idempotencyKey
          actorId := row.actorId
          backendId := row.backendId
          backendGeneration := row.backendGeneration
          resourceType := row.resourceType
          resourceId := row.resourceId
          expectedRevision := row.expectedRevision
          expectedResourceFingerprint := row.expectedResourceFingerprint
          actionFamily := row.actionFamily
          requestFingerprint := row.requestFingerprint
          requestedAt := row.requestedAt
          deadline := row.deadline
          verificationPolicy := verificationPolicy
          state := state
          resultReference := row.resultReference
          updatedAt := row.updatedAt }
      if mutationOperationValidDurable operation then some operation else none
    | _, _ => none

def readPayload (row : MutationOperationPayloadRow) : Option MutationOperationPayload :=
  if row.payloadVersion = 0 ∨ row.payloadVersion > UInt32.size - 1 then none
  else
    let payload : MutationOperationPayload :=
      { operationId := row.operationId
        payloadType := row.payloadType
        payloadVersion := UInt32.ofNat row.payloadVersion
        payload := row.payload
        payloadFingerprint := row.payloadFingerprint }
    if validPayload payload then some payload else none

def lookupRow {Row Record : Type} (failed : Bool) (rows : List Row) (selects : Row → Bool)
    (read : Row → Option Record) : Lookup Record :=
  if failed then .failed
  else match rows.find? selects with
    | none => .absent
    | some row =>
      match read row with
      | some record => .found record
      | none => .failed

def selectById (environment : Environment) (store : Store) (operationId : Bytes) :
    Lookup MutationOperation :=
  lookupRow environment.selectByIdFails store.operations
    (fun row => row.operationId == cString operationId) readOperation

def selectPayloadByOperationId (environment : Environment) (store : Store) (operationId : Bytes) :
    Lookup MutationOperationPayload :=
  lookupRow environment.selectPayloadFails store.payloads
    (fun row => row.operationId == cString operationId) readPayload

def selectByScope (environment : Environment) (store : Store) (operation : MutationOperation) :
    Lookup MutationOperation :=
  lookupRow environment.selectByScopeFails store.operations
    (fun row =>
      row.actorId == cString operation.actorId &&
      row.backendId == cString operation.backendId &&
      row.resourceType == cString operation.resourceType &&
      row.resourceId == cString operation.resourceId &&
      row.actionFamily == cString operation.actionFamily &&
      row.idempotencyKey == cString operation.idempotencyKey)
    readOperation

def sameLogicalOperation (left right : MutationOperation) : Bool :=
  left.operationId == right.operationId &&
  left.idempotencyKey == right.idempotencyKey &&
  left.actorId == right.actorId &&
  left.backendId == right.backendId &&
  left.backendGeneration == right.backendGeneration &&
  left.resourceType == right.resourceType &&
  left.resourceId == right.resourceId &&
  left.expectedRevision == right.expectedRevision &&
  left.expectedResourceFingerprint == right.expectedResourceFingerprint &&
  left.actionFamily == right.actionFamily &&
  left.requestFingerprint == right.requestFingerprint &&
  left.requestedAt == right.requestedAt &&
  left.deadline == right.deadline &&
  left.verificationPolicy == right.verificationPolicy

def samePayload (left right : MutationOperationPayload) : Bool :=
  left.operationId == right.operationId &&
  left.payloadType == right.payloadType &&
  left.payloadVersion == right.payloadVersion &&
  left.payload == right.payload &&
  left.payloadFingerprint == right.payloadFingerprint

def mediaToolsAdmissionGate (environment : Environment) : AdmissionGate :=
  match environment.maintenance with
  | none => .unavailable
  | some [] => .permitted
  | some [{ frozen := some frozen, revision := some revision }] =>
    if (frozen = 0 ∨ frozen = 1) ∧ 0 < revision then
      if frozen = 0 then .permitted else .frozen
    else .unavailable
  | some _ => .unavailable

/-- The row `insertOperation` binds for an operation. -/
def operationRow (durable : MutationOperation) : MutationOperationRow :=
  { operationId := cString durable.operationId
    operationRevision := 1
    idempotencyKey := cString durable.idempotencyKey
    actorId := cString durable.actorId
    backendId := cString durable.backendId
    backendGeneration := durable.backendGeneration
    resourceType := cString durable.resourceType
    resourceId := cString durable.resourceId
    expectedRevision := cString durable.expectedRevision
    expectedResourceFingerprint := cString durable.expectedResourceFingerprint
    actionFamily := cString durable.actionFamily
    requestFingerprint := cString durable.requestFingerprint
    requestedAt := durable.requestedAt
    deadline := durable.deadline
    verificationPolicy := mutationOperationVerificationPolicyName durable.verificationPolicy
    state := mutationOperationStateName durable.state
    resultReference := cString durable.resultReference
    updatedAt := durable.updatedAt }

/-- The row `insertPayload` binds for a payload. -/
def payloadRow (payload : MutationOperationPayload) : MutationOperationPayloadRow :=
  { operationId := cString payload.operationId
    payloadType := cString payload.payloadType
    payloadVersion := payload.payloadVersion.toNat
    payload := cString payload.payload
    payloadFingerprint := cString payload.payloadFingerprint }

def MutationOperationRow.scope (row : MutationOperationRow) : List Bytes :=
  [row.actorId, row.backendId, row.resourceType, row.resourceId, row.actionFamily,
    row.idempotencyKey]

/-- `INSERT` under the primary key, the unique scope index and the `CHECK` on the generation. -/
def insertOperation (environment : Environment) (store : Store) (durable : MutationOperation) :
    Option Store :=
  let row := operationRow durable
  if environment.insertOperationFails then none
  else if store.operations.any (fun other => other.operationId == row.operationId) then none
  else if store.operations.any (fun other => other.scope == row.scope) then none
  else if row.backendGeneration = 0 then none
  else some { store with operations := store.operations ++ [row] }

def insertPayload (environment : Environment) (store : Store) (payload : MutationOperationPayload) :
    Option Store :=
  let row := payloadRow payload
  if environment.insertPayloadFails then none
  else if store.payloads.any (fun other => other.operationId == row.operationId) then none
  else if row.payloadVersion = 0 then none
  else some { store with payloads := store.payloads ++ [row] }

/-! ## Calls -/

def insertReservation (environment : Environment) (working : Store) (durable : MutationOperation)
    (payload : Option MutationOperationPayload) : Store × MutationOperationRepositoryResult :=
  match insertOperation environment working durable with
  | none => (working, statusResult .storageError)
  | some inserted =>
    match payload with
    | none => (inserted, operationResult .ok durable)
    | some payload =>
      match insertPayload environment inserted payload with
      | none => (inserted, statusResult .storageError)
      | some complete => (complete, operationResult .ok durable)

def replayReservation (environment : Environment) (working : Store) (existing durable : MutationOperation)
    (payload : Option MutationOperationPayload) : MutationOperationRepositoryResult :=
  if sameLogicalOperation existing durable = false then operationResult .operationConflict existing
  else match payload with
    | none => operationResult .idempotentReplay existing
    | some payload =>
      match selectPayloadByOperationId environment working durable.operationId with
      | .failed => statusResult .storageError
      | .absent => operationResult .operationConflict existing
      | .found existingPayload =>
        if samePayload existingPayload payload then operationResult .idempotentReplay existing
        else operationResult .operationConflict existing

def isMediaToolsFamily (actionFamily : Bytes) : Bool :=
  actionFamily == text "media.import" ||
  actionFamily == text "media.shrink.stage" ||
  actionFamily == text "media.shrink.publish"

def reservationAdmissible (operation : MutationOperation) :
    Option MutationOperationPayload → Bool
  | none => mutationOperationValidForCreate operation
  | some payload =>
    mutationOperationValidForCreate operation &&
    validPayload payload && payload.operationId == operation.operationId

def durableOperation (operation : MutationOperation) : MutationOperation :=
  { operation with operationRevision := text "1" }

def reserveInCurrentTransactionInternal (environment : Environment) (working : Store)
    (operation : MutationOperation) (payload : Option MutationOperationPayload) :
    Store × MutationOperationRepositoryResult :=
  if reservationAdmissible operation payload = false then (working, statusResult .invalid)
  else match selectById environment working operation.operationId with
    | .failed => (working, statusResult .storageError)
    | .found existing =>
      (working,
        replayReservation environment working existing (durableOperation operation) payload)
    | .absent =>
      match selectByScope environment working operation with
      | .failed => (working, statusResult .storageError)
      | .found existing => (working, operationResult .idempotencyConflict existing)
      | .absent =>
        match isMediaToolsFamily operation.actionFamily, mediaToolsAdmissionGate environment with
        | true, .frozen => (working, statusResult .maintenanceBlocked)
        | true, .unavailable => (working, statusResult .storageError)
        | _, _ => insertReservation environment working (durableOperation operation) payload

/-- `BEGIN IMMEDIATE`, then `COMMIT` after an `ok` body and `ROLLBACK` after any other. -/
def inTransaction (environment : Environment) (store : Store)
    (body : Store → Store × MutationOperationRepositoryResult) :
    Store × MutationOperationRepositoryResult :=
  if environment.beginFails then (store, statusResult .storageError)
  else
    let (working, result) := body store
    if result.status ≠ .ok then (store, result)
    else if environment.commitFails then (store, statusResult .storageError)
    else (working, result)

def reserveInternal (environment : Environment) (store : Store) (operation : MutationOperation)
    (payload : Option MutationOperationPayload) : Store × MutationOperationRepositoryResult :=
  inTransaction environment store fun working =>
    reserveInCurrentTransactionInternal environment working operation payload

def reserve (environment : Environment) (store : Store) (operation : MutationOperation) :
    Store × MutationOperationRepositoryResult :=
  reserveInternal environment store operation none

def reserveWithPayload (environment : Environment) (store : Store) (operation : MutationOperation)
    (payload : MutationOperationPayload) : Store × MutationOperationRepositoryResult :=
  reserveInternal environment store operation (some payload)

def findById (environment : Environment) (store : Store) (operationId : Bytes) :
    MutationOperationRepositoryResult :=
  if safeIdentity operationId = false then statusResult .invalid
  else match selectById environment store operationId with
    | .failed => statusResult .storageError
    | .absent => statusResult .notFound
    | .found operation => operationResult .ok operation

def findPayloadByOperationId (environment : Environment) (store : Store) (operationId : Bytes) :
    MutationOperationPayloadRepositoryResult :=
  if safeIdentity operationId = false then { status := .invalid }
  else match selectPayloadByOperationId environment store operationId with
    | .failed => { status := .storageError }
    | .absent => { status := .notFound }
    | .found payload => { status := .ok, payload := payload }

structure TransitionArguments where
  operationId : Bytes
  expectedOperationRevision : Bytes
  expectedState : MutationOperationState
  nextState : MutationOperationState
  resultReference : Bytes
  updatedAt : Int
  deriving DecidableEq

/-- The row the `UPDATE` of a transition leaves. -/
def transitionedRow (arguments : TransitionArguments) (expectedRevision : Nat)
    (row : MutationOperationRow) : MutationOperationRow :=
  { row with
    operationRevision := expectedRevision + 1
    state := mutationOperationStateName arguments.nextState
    resultReference := cString arguments.resultReference
    updatedAt := arguments.updatedAt }

def addressedBy (arguments : TransitionArguments) (expectedRevision : Nat)
    (row : MutationOperationRow) : Bool :=
  row.operationId == cString arguments.operationId && row.operationRevision == expectedRevision

/-- `UPDATE … WHERE operation_id=? AND operation_revision=?`, accepted when one row changes. -/
def updateOperation (environment : Environment) (store : Store) (arguments : TransitionArguments)
    (expectedRevision : Nat) : Option Store :=
  if environment.updateFails then none
  else if (store.operations.filter (addressedBy arguments expectedRevision)).length ≠ 1 then none
  else some
    { store with operations := store.operations.map fun row =>
        if addressedBy arguments expectedRevision row then
          transitionedRow arguments expectedRevision row
        else row }

def transitionInTransaction (environment : Environment) (working : Store)
    (arguments : TransitionArguments) (expectedRevision : Nat) :
    Store × MutationOperationRepositoryResult :=
  match selectById environment working arguments.operationId with
  | .failed => (working, statusResult .storageError)
  | .absent => (working, statusResult .notFound)
  | .found current =>
    if current.state = arguments.nextState ∧ current.resultReference = arguments.resultReference then
      (working, operationResult .idempotentReplay current)
    else if current.operationRevision ≠ arguments.expectedOperationRevision then
      (working, operationResult .revisionConflict current)
    else if current.state ≠ arguments.expectedState ∨
        mutationOperationTransitionAllowed current.state arguments.nextState = false then
      (working, operationResult .stateConflict current)
    else if arguments.updatedAt < current.updatedAt ∨ expectedRevision = int64Max then
      (working, statusResult .invalid)
    else match updateOperation environment working arguments expectedRevision with
      | none => (working, operationResult .revisionConflict current)
      | some updated =>
        (updated, operationResult .ok
          { current with
            operationRevision := decimal (expectedRevision + 1)
            state := arguments.nextState
            resultReference := arguments.resultReference
            updatedAt := arguments.updatedAt })

def transition (environment : Environment) (store : Store) (arguments : TransitionArguments) :
    Store × MutationOperationRepositoryResult :=
  match parseRevision arguments.expectedOperationRevision with
  | none => (store, statusResult .invalid)
  | some expectedRevision =>
    if safeIdentity arguments.operationId = false ∨
        arguments.resultReference.length > kMaxResultReferenceLength ∨
        arguments.updatedAt ≤ 0 then
      (store, statusResult .invalid)
    else inTransaction environment store fun working =>
      transitionInTransaction environment working arguments expectedRevision

/-! ## Runs -/

inductive Call where
  | reserve (operation : MutationOperation)
  | reserveWithPayload (operation : MutationOperation) (payload : MutationOperationPayload)
  | transition (arguments : TransitionArguments)
  deriving DecidableEq

structure Request where
  environment : Environment
  call : Call
  deriving DecidableEq

def step (store : Store) (request : Request) : Store × MutationOperationRepositoryResult :=
  match request.call with
  | .reserve operation => reserve request.environment store operation
  | .reserveWithPayload operation payload =>
    reserveWithPayload request.environment store operation payload
  | .transition arguments => transition request.environment store arguments

def runStore (requests : List Request) : Store := Run.final step {} requests

def runJournal (requests : List Request) : List (Request × MutationOperationRepositoryResult) :=
  Run.journal step {} requests

end VdrSuite.Operations
