import VdrSuite.Library.Interleaving
import VdrSuite.Operations.MutationOperationRepository
import VdrSuite.SearchTimers.CreateOperationPayload
import VdrSuite.SearchTimers.SearchTimer

/-! Creating a search timer at its backend: the one-shot dispatch, the recovery of an orphaned
operation, and callers of both that run at the same time. -/

set_option autoImplicit false

namespace VdrSuite.SearchTimers

open Library Operations

/-! ## What is asked of the backend -/

/-- The options that a dispatch sets; it leaves every other one at its default. -/
structure SearchTimerCreateRequest where
  backendId : Bytes := text "default"
  name : Bytes := []
  query : Bytes := []
  active : Bool := true
  marginStartMinutes : Int := 0
  marginStopMinutes : Int := 0
  compareTitle : Bool := false
  compareSubtitle : Bool := false
  compareSummary : Bool := false
  matchMode : Int := 0
  matchTolerance : Int := 0
  deriving DecidableEq

structure SearchTimerCreateResult where
  success : Bool := false
  searchTimer : SearchTimer := { id := ⟨[], []⟩, name := [], query := [] }
  deriving DecidableEq

structure SearchTimerResult where
  items : List SearchTimer := []
  totalCount : Int := 0
  available : Bool := true
  deriving DecidableEq

inductive Outcome (Value : Type)
  | threw
  | returned (value : Value)
  deriving DecidableEq

inductive CreateCall
  | findById (operationId : Bytes)
  | findPayloadByOperationId (operationId : Bytes)
  | transition (arguments : TransitionArguments)
  | currentGeneration (backendId : Bytes)
  | list (backendId : Bytes)
  | create (command : SearchTimerCreateRequest)
  deriving DecidableEq

def CreateReply : CreateCall → Type
  | .findById _ | .transition _ => MutationOperationRepositoryResult
  | .findPayloadByOperationId _ => MutationOperationPayloadRepositoryResult
  | .currentGeneration _ => Outcome (Option Nat)
  | .list _ => Outcome SearchTimerResult
  | .create _ => Outcome SearchTimerCreateResult

abbrev Creating (Result : Type) : Type := Program CreateCall CreateReply Result

namespace Creating

def findById (operationId : Bytes) : Creating MutationOperationRepositoryResult :=
  Program.request (CreateCall.findById operationId)

def findPayloadByOperationId (operationId : Bytes) :
    Creating MutationOperationPayloadRepositoryResult :=
  Program.request (CreateCall.findPayloadByOperationId operationId)

def transition (operationId expectedOperationRevision : Bytes)
    (expectedState nextState : MutationOperationState) (resultReference : Bytes) (updatedAt : Int) :
    Creating MutationOperationRepositoryResult :=
  Program.request (CreateCall.transition
    { operationId := operationId
      expectedOperationRevision := expectedOperationRevision
      expectedState := expectedState
      nextState := nextState
      resultReference := resultReference
      updatedAt := updatedAt })

def currentGeneration (backendId : Bytes) : Creating (Outcome (Option Nat)) :=
  Program.request (CreateCall.currentGeneration backendId)

def list (backendId : Bytes) : Creating (Outcome SearchTimerResult) :=
  Program.request (CreateCall.list backendId)

def create (command : SearchTimerCreateRequest) : Creating (Outcome SearchTimerCreateResult) :=
  Program.request (CreateCall.create command)

end Creating

/-! ## Checks -/

inductive SearchTimerCreateDispatchStatus
  | verified
  | outcomeUnknown
  | notReady
  | denied
  | stale
  | conflict
  | unavailable
  deriving DecidableEq

structure SearchTimerCreateDispatchRequest where
  operationId : Bytes := []
  actorId : Bytes := []
  backendId : Bytes := []
  backendGeneration : Nat := 0
  now : Int := 0
  operatorConfirmed : Bool := false
  backendWriteAllowed : Bool := false
  executorOptIn : Bool := false
  deriving DecidableEq

structure SearchTimerCreateDispatchResult where
  status : SearchTimerCreateDispatchStatus := .unavailable
  operation : MutationOperation := {}
  deriving DecidableEq

def completeInventory (inventory : SearchTimerResult) : Bool :=
  inventory.available && 0 ≤ inventory.totalCount &&
  inventory.totalCount.toNat == inventory.items.length

def matchesRequested (timer : SearchTimer) (request : SearchTimerCreateRequest) : Bool :=
  timer.backendId == request.backendId &&
  !timer.backendNativeId.isEmpty &&
  timer.name == request.name &&
  timer.query == request.query &&
  timer.state == (if request.active then .active else .inactive) &&
  timer.matchOptions.mode == request.matchMode &&
  timer.matchOptions.tolerance == request.matchTolerance &&
  timer.comparisonOptions.compareTitle == request.compareTitle &&
  timer.comparisonOptions.compareSubtitle == request.compareSubtitle &&
  timer.comparisonOptions.compareSummary == request.compareSummary &&
  timer.scheduleOptions.marginStartMinutes == request.marginStartMinutes &&
  timer.scheduleOptions.marginStopMinutes == request.marginStopMinutes

def commandFor (operation : MutationOperation) (payload : SearchTimerCreateOperationPayload) :
    SearchTimerCreateRequest :=
  { backendId := operation.backendId
    name := payload.name
    query := payload.query
    active := payload.active
    matchMode := payload.matchMode
    matchTolerance := payload.matchTolerance
    compareTitle := payload.compareTitle
    compareSubtitle := payload.compareSubtitle
    compareSummary := payload.compareSummary
    marginStartMinutes := payload.marginStartMinutes
    marginStopMinutes := payload.marginStopMinutes }

/-- The operation is the creation of a search timer that a request names. Dispatch and recovery each
have this check, under `correctOperation` and `exactCreate`. -/
def namesCreate (operation : MutationOperation) (operationId actorId backendId : Bytes)
    (backendGeneration : Nat) : Bool :=
  operation.operationId == operationId &&
  operation.actorId == actorId &&
  operation.backendId == backendId &&
  operation.backendGeneration == backendGeneration &&
  operation.resourceType == text "SearchTimer" &&
  operation.resourceId == text "new" &&
  operation.expectedRevision == text "new" &&
  operation.actionFamily == text "searchtimer.create" &&
  operation.verificationPolicy == .readbackRequired

def correctOperation (operation : MutationOperation) (request : SearchTimerCreateDispatchRequest) :
    Bool :=
  namesCreate operation request.operationId request.actorId request.backendId
    request.backendGeneration

def dispatchAllowed (request : SearchTimerCreateDispatchRequest) : Bool :=
  !request.operationId.isEmpty && !request.actorId.isEmpty && !request.backendId.isEmpty &&
  request.backendGeneration != 0 && 0 < request.now && request.operatorConfirmed &&
  request.backendWriteAllowed && request.executorOptIn

/-- The payload of an operation, if it is stored in the expected form under the fingerprint that the
operation was admitted with. -/
def storedPayload (sha256 : Bytes → Option Bytes) (operation : MutationOperation)
    (stored : MutationOperationPayloadRepositoryResult) : Option SearchTimerCreateOperationPayload :=
  if stored.status ≠ .ok ∨ stored.payload.payloadType ≠ text "searchtimer.create" ∨
      stored.payload.payloadVersion ≠ 2 then none
  else
    match parseSearchTimerCreateOperationPayload stored.payload.payload with
    | none => none
    | some payload =>
      if stored.payload.payloadFingerprint ≠
            searchTimerCreateOperationPayloadFingerprint sha256 payload ∨
          stored.payload.payloadFingerprint ≠ operation.requestFingerprint ∨
          stored.payload.payloadFingerprint ≠ operation.expectedResourceFingerprint then none
      else some payload

def collectIds (backendId : Bytes) : List Bytes → List SearchTimer → Option (List Bytes)
  | seen, [] => some seen
  | seen, timer :: rest =>
    if timer.backendId ≠ backendId ∨ timer.backendNativeId.isEmpty ∨
        timer.backendNativeId ∈ seen then none
    else collectIds backendId (timer.backendNativeId :: seen) rest

def existingIds (operation : MutationOperation) : Outcome SearchTimerResult → Option (List Bytes)
  | .threw => none
  | .returned baseline =>
    if completeInventory baseline = false then none
    else collectIds operation.backendId [] baseline.items

/-- The created timer, if the answer of the executor can be a fresh one with the requested text. -/
def createdTimer (operation : MutationOperation) (payload : SearchTimerCreateOperationPayload)
    (existing : List Bytes) : Outcome SearchTimerCreateResult → Option SearchTimer
  | .threw => none
  | .returned created =>
    if created.success = false ∨
        created.searchTimer.backendNativeId.isEmpty ∨
        created.searchTimer.backendNativeId ∈ existing ∨
        created.searchTimer.backendId ≠ operation.backendId ∨
        created.searchTimer.name ≠ payload.name ∨
        created.searchTimer.query ≠ payload.query ∨
        decide (created.searchTimer.state = .active) ≠ payload.active then none
    else some created.searchTimer

def verifiedBy (command : SearchTimerCreateRequest) (created : SearchTimer) :
    Outcome SearchTimerResult → Bool
  | .threw => false
  | .returned inventory =>
    let named := inventory.items.filter fun timer =>
      timer.backendNativeId == created.backendNativeId
    completeInventory inventory && named.length == 1 &&
    named.countP (fun timer => matchesRequested timer command) == 1

def generationIs (operation : MutationOperation) : Outcome (Option Nat) → Bool
  | .returned (some live) => live == operation.backendGeneration
  | _ => false

/-! ## Dispatch -/

def dispatchResult (status : SearchTimerCreateDispatchStatus) (operation : MutationOperation) :
    SearchTimerCreateDispatchResult :=
  { status := status, operation := operation }

def unknown (request : SearchTimerCreateDispatchRequest) (current : MutationOperation) :
    Creating SearchTimerCreateDispatchResult := do
  let transitioned ← Creating.transition current.operationId current.operationRevision current.state
    .outcomeUnknown [] request.now
  pure (dispatchResult .outcomeUnknown
    (if transitioned.status = .ok then transitioned.operation else current))

def blockActive (request : SearchTimerCreateDispatchRequest) (operation : MutationOperation) :
    Creating SearchTimerCreateDispatchResult := do
  let blocked ← Creating.transition operation.operationId operation.operationRevision .accepted
    .failedBeforeDispatch (text "searchtimer-active-create-disallowed") request.now
  pure (if blocked.status = .ok then dispatchResult .denied blocked.operation
    else dispatchResult .unavailable operation)

def verifyCreated (request : SearchTimerCreateDispatchRequest) (operation : MutationOperation)
    (payload : SearchTimerCreateOperationPayload) (created : SearchTimer)
    (unverified : MutationOperation) : Creating SearchTimerCreateDispatchResult := do
  let after ← Creating.list operation.backendId
  if verifiedBy (commandFor operation payload) created after = false then unknown request unverified
  else
    let live ← Creating.currentGeneration operation.backendId
    if generationIs operation live = false then unknown request unverified
    else
      let completed ← Creating.transition operation.operationId unverified.operationRevision
        .executedUnverified .succeeded (text "searchtimer-create-verified") request.now
      pure (if completed.status = .ok then dispatchResult .verified completed.operation
        else dispatchResult .outcomeUnknown unverified)

/-- The single creation, by the caller whose transition to dispatching has been committed. -/
def createLocked (request : SearchTimerCreateDispatchRequest) (operation : MutationOperation)
    (payload : SearchTimerCreateOperationPayload) (existing : List Bytes)
    (locked : MutationOperation) : Creating SearchTimerCreateDispatchResult := do
  let answer ← Creating.create (commandFor operation payload)
  match createdTimer operation payload existing answer with
  | none => unknown request locked
  | some created =>
    let unverified ← Creating.transition operation.operationId locked.operationRevision .dispatching
      .executedUnverified [] request.now
    if unverified.status ≠ .ok then pure (dispatchResult .outcomeUnknown locked)
    else verifyCreated request operation payload created unverified.operation

def dispatchInactive (request : SearchTimerCreateDispatchRequest) (operation : MutationOperation)
    (payload : SearchTimerCreateOperationPayload) : Creating SearchTimerCreateDispatchResult := do
  let live ← Creating.currentGeneration operation.backendId
  if generationIs operation live = false then pure (dispatchResult .unavailable operation)
  else
    let baseline ← Creating.list operation.backendId
    match existingIds operation baseline with
    | none => pure (dispatchResult .notReady operation)
    | some existing =>
      let live ← Creating.currentGeneration operation.backendId
      if generationIs operation live = false then pure (dispatchResult .unavailable operation)
      else
        let locked ← Creating.transition operation.operationId operation.operationRevision .accepted
          .dispatching [] request.now
        if locked.status ≠ .ok then pure (dispatchResult .conflict locked.operation)
        else createLocked request operation payload existing locked.operation

def dispatchOnce (sha256 : Bytes → Option Bytes) (request : SearchTimerCreateDispatchRequest) :
    Creating SearchTimerCreateDispatchResult :=
  if dispatchAllowed request = false then pure (dispatchResult .denied {})
  else do
    let found ← Creating.findById request.operationId
    if found.status ≠ .ok then pure (dispatchResult .unavailable {})
    else if correctOperation found.operation request = false then
      pure (dispatchResult .denied found.operation)
    else if found.operation.state ≠ .accepted then pure (dispatchResult .conflict found.operation)
    else if request.now < found.operation.updatedAt then pure (dispatchResult .stale found.operation)
    else
      let stored ← Creating.findPayloadByOperationId found.operation.operationId
      match storedPayload sha256 found.operation stored with
      | none => pure (dispatchResult .unavailable found.operation)
      | some payload =>
        if payload.active then blockActive request found.operation
        else dispatchInactive request found.operation payload

/-! ## Recovery -/

inductive SearchTimerCreateRecoveryStatus
  | markedUnknown
  | alreadyUnknown
  | notExpired
  | denied
  | conflict
  | unavailable
  deriving DecidableEq

structure SearchTimerCreateRecoveryRequest where
  operationId : Bytes := []
  actorId : Bytes := []
  backendId : Bytes := []
  backendGeneration : Nat := 0
  now : Int := 0
  staleAfterSeconds : Int := 0
  dispatcherStopped : Bool := false
  deriving DecidableEq

structure SearchTimerCreateRecoveryResult where
  status : SearchTimerCreateRecoveryStatus := .unavailable
  operation : MutationOperation := {}
  deriving DecidableEq

def exactCreate (operation : MutationOperation) (request : SearchTimerCreateRecoveryRequest) : Bool :=
  namesCreate operation request.operationId request.actorId request.backendId
    request.backendGeneration

def recoveryAllowed (request : SearchTimerCreateRecoveryRequest) : Bool :=
  request.dispatcherStopped && !request.operationId.isEmpty && !request.actorId.isEmpty &&
  !request.backendId.isEmpty && request.backendGeneration != 0 &&
  request.backendGeneration ≤ int64Max && 0 < request.now && 60 ≤ request.staleAfterSeconds &&
  request.staleAfterSeconds ≤ 86400

def recoveryResult (status : SearchTimerCreateRecoveryStatus) (operation : MutationOperation) :
    SearchTimerCreateRecoveryResult :=
  { status := status, operation := operation }

def markOrphanedUnknown (request : SearchTimerCreateRecoveryRequest) :
    Creating SearchTimerCreateRecoveryResult :=
  if recoveryAllowed request = false then pure (recoveryResult .denied {})
  else do
    let found ← Creating.findById request.operationId
    if found.status ≠ .ok then pure (recoveryResult .unavailable {})
    else if exactCreate found.operation request = false then
      pure (recoveryResult .denied found.operation)
    else if found.operation.state = .outcomeUnknown then
      pure (recoveryResult .alreadyUnknown found.operation)
    else if found.operation.state ≠ .dispatching ∧ found.operation.state ≠ .executedUnverified then
      pure (recoveryResult .conflict found.operation)
    else if request.now < found.operation.updatedAt ∨
        request.now - found.operation.updatedAt < request.staleAfterSeconds then
      pure (recoveryResult .notExpired found.operation)
    else
      let changed ← Creating.transition found.operation.operationId found.operation.operationRevision
        found.operation.state .outcomeUnknown found.operation.resultReference request.now
      pure (if changed.status = .ok then recoveryResult .markedUnknown changed.operation
        else if changed.status = .revisionConflict ∨ changed.status = .stateConflict ∨
            changed.status = .idempotentReplay then recoveryResult .conflict changed.operation
        else recoveryResult .unavailable {})

/-! ## Callers side by side -/

/-- What one call meets: the statements of the repository that fail, and what is answered from
outside. -/
structure CreateOracle where
  environment : Environment := {}
  generation : Outcome (Option Nat) := .threw
  inventory : Outcome SearchTimerResult := .threw
  created : Outcome SearchTimerCreateResult := .threw

def carryOut (oracle : CreateOracle) : (call : CreateCall) → Store → CreateReply call × Store
  | .findById operationId, store => (Operations.findById oracle.environment store operationId, store)
  | .findPayloadByOperationId operationId, store =>
    (Operations.findPayloadByOperationId oracle.environment store operationId, store)
  | .transition arguments, store =>
    let (after, result) := Operations.transition oracle.environment store arguments
    (result, after)
  | .currentGeneration _, store => (oracle.generation, store)
  | .list _, store => (oracle.inventory, store)
  | .create _, store => (oracle.created, store)

def applyOther (request : Request) (store : Store) : Store := (Operations.step store request).1

abbrev CreateOutcome : Type := SearchTimerCreateDispatchResult ⊕ SearchTimerCreateRecoveryResult

abbrev CreateSystem : Type := Interleaving.System CreateCall CreateReply CreateOutcome Store

/-- A caller of either service starts or goes on, or others call the repository. A caller that
crashes does not go on. -/
inductive CreateMove
  | dispatch (request : SearchTimerCreateDispatchRequest)
  | recover (request : SearchTimerCreateRecoveryRequest)
  | advance (index : Nat) (oracle : CreateOracle)
  | other (request : Request)

def toMove (sha256 : Bytes → Option Bytes) :
    CreateMove → Interleaving.Move CreateCall CreateReply CreateOutcome CreateOracle Request
  | .dispatch request => .start (dispatchOnce sha256 request >>= fun result => pure (.inl result))
  | .recover request => .start (markOrphanedUnknown request >>= fun result => pure (.inr result))
  | .advance index oracle => .advance index oracle
  | .other request => .change request

def createStep (sha256 : Bytes → Option Bytes) :
    CreateSystem → CreateMove → CreateSystem × Option (Interleaving.Event CreateReply) :=
  Interleaving.machine carryOut applyOther (toMove sha256)

end VdrSuite.SearchTimers
