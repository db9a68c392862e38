import VdrSuite.Core.CommandDelivery

/-! Reserved commands, and the activation that hands them to the command ledger. -/

set_option autoImplicit false

namespace VdrSuite.Core

open Library Agent

inductive BackendAgentCommandReservationStatus where
  | reserved
  | alreadyReserved
  | activated
  | alreadyActivated
  | notFound
  | conflict
  | storageError
  | invalid
  deriving DecidableEq

/-- The selection is there exactly when `localProviderSelectionPresent` is set. -/
structure BackendAgentCommandReservation where
  assignment : BackendAgentCommandAssignment := {}
  localProviderSelection : Option BackendAgentLocalProviderSelection := none
  assignmentFingerprint : Bytes := []
  localProviderSelectionIdentity : Bytes := []
  deriving DecidableEq

structure BackendAgentCommandReservationResult where
  status : BackendAgentCommandReservationStatus := .storageError
  reservation : BackendAgentCommandReservation := {}
  deriving DecidableEq

structure BackendAgentCommandActivationResult where
  status : BackendAgentCommandReservationStatus := .storageError
  assignment : BackendAgentCommandAssignment := {}
  deriving DecidableEq

def BackendAgentCommandActivationResult.ok (result : BackendAgentCommandActivationResult) : Bool :=
  result.status == .activated || result.status == .alreadyActivated

/-! ## The reservation table -/

def validReservationInput (assignment : BackendAgentCommandAssignment)
    (selection : Option BackendAgentLocalProviderSelection) : Bool :=
  backendAgentCommandValidAssignment assignment &&
  match selection with
  | none => true
  | some selection =>
    backendAgentLocalProviderValidSelection selection &&
    selection.backendId == assignment.backendId &&
    selection.requiredCapability == assignment.commandType &&
    !(backendAgentLocalProviderSelectionIdentity selection).isEmpty

def makeReservation (assignment : BackendAgentCommandAssignment)
    (selection : Option BackendAgentLocalProviderSelection) : BackendAgentCommandReservation :=
  { assignment := { assignment with present := true }
    localProviderSelection := selection
    assignmentFingerprint := backendAgentCommandFingerprint assignment
    localProviderSelectionIdentity :=
      (selection.map backendAgentLocalProviderSelectionIdentity).getD [] }

def sameReservation (left right : BackendAgentCommandReservation) : Bool :=
  left.assignment.commandId == right.assignment.commandId &&
  left.assignmentFingerprint == right.assignmentFingerprint &&
  left.localProviderSelection.isSome == right.localProviderSelection.isSome &&
  left.localProviderSelectionIdentity == right.localProviderSelectionIdentity

/-- A reservation as its row gives it back, before the reader checks it. The table has no column
for the backend of the selection. -/
def reservationRow (reservation : BackendAgentCommandReservation) :
    BackendAgentCommandReservation :=
  { assignment := boundAssignment reservation.assignment
    localProviderSelection := reservation.localProviderSelection.map fun selection =>
      { backendId := cString reservation.assignment.backendId
        authorityDomain := cString selection.authorityDomain
        providerId := cString selection.providerId
        providerKind := cString selection.providerKind
        ownershipGeneration := selection.ownershipGeneration
        providerInstanceEpoch := cString selection.providerInstanceEpoch
        providerGeneration := selection.providerGeneration
        capabilityRevision := selection.capabilityRevision
        requiredCapability := cString selection.requiredCapability }
    assignmentFingerprint := cString reservation.assignmentFingerprint
    localProviderSelectionIdentity := cString reservation.localProviderSelectionIdentity }

def readReservation (row : BackendAgentCommandReservation) :
    Option BackendAgentCommandReservation :=
  if backendAgentCommandValidAssignment row.assignment = false ∨
      row.assignmentFingerprint ≠ backendAgentCommandFingerprint row.assignment then none
  else
    let selectionReadable :=
      match row.localProviderSelection with
      | none => row.localProviderSelectionIdentity.isEmpty
      | some selection =>
        backendAgentLocalProviderValidSelection selection &&
        selection.backendId == row.assignment.backendId &&
        selection.requiredCapability == row.assignment.commandType &&
        row.localProviderSelectionIdentity ==
          backendAgentLocalProviderSelectionIdentity selection
    if selectionReadable then some row else none

def selectReservation (rows : List BackendAgentCommandReservation)
    (whereClause : BackendAgentCommandReservation → Bool) :
    Except Unit (Option BackendAgentCommandReservation) :=
  match rows.find? whereClause with
  | none => .ok none
  | some row =>
    match readReservation row with
    | none => .error ()
    | some reservation => .ok (some reservation)

def forOperation (backendId operationId commandType : Bytes)
    (assignment : BackendAgentCommandAssignment) : Bool :=
  assignment.backendId == cString backendId && assignment.operationId == cString operationId &&
  assignment.commandType == cString commandType

def storedPositive (value : Nat) : Bool := 0 < value && value ≤ int64Max

def insertReservation (rows : List BackendAgentCommandReservation)
    (reservation : BackendAgentCommandReservation) : Option (List BackendAgentCommandReservation) :=
  let assignment := reservation.assignment
  let taken := rows.any fun row =>
    row.assignment.commandId == cString assignment.commandId ||
    forOperation assignment.backendId assignment.operationId assignment.commandType row.assignment
  if taken || !storedPositive assignment.claimEpoch ||
      !storedPositive assignment.backendGeneration || !storedPositive assignment.payloadVersion then
    none
  else some (rows ++ [reservationRow reservation])

/-- `works` says, here and in the other calls, whether the SQLite statements of the call succeed. -/
def reserve (works : Bool) (rows : List BackendAgentCommandReservation)
    (assignment : BackendAgentCommandAssignment)
    (selection : Option BackendAgentLocalProviderSelection) :
    List BackendAgentCommandReservation × BackendAgentCommandReservationResult :=
  let requested := makeReservation assignment selection
  let answer := fun (existing : BackendAgentCommandReservation) =>
    (rows,
      { status := if sameReservation existing requested then .alreadyReserved else .conflict
        reservation := existing : BackendAgentCommandReservationResult })
  if validReservationInput assignment selection = false then (rows, { status := .invalid })
  else if works = false then (rows, { status := .storageError })
  else
    match selectReservation rows fun row =>
        forOperation assignment.backendId assignment.operationId assignment.commandType
          row.assignment with
    | .error _ => (rows, { status := .storageError })
    | .ok (some existing) => answer existing
    | .ok none =>
      match selectReservation rows fun row =>
          row.assignment.commandId == cString assignment.commandId with
      | .error _ => (rows, { status := .storageError })
      | .ok (some existing) => answer existing
      | .ok none =>
        match insertReservation rows requested with
        | none => (rows, { status := .storageError })
        | some updated => (updated, { status := .reserved, reservation := requested })

def findByCommandId (works : Bool) (rows : List BackendAgentCommandReservation)
    (commandId : Bytes) : BackendAgentCommandReservationResult :=
  if backendAgentCommandSafeIdentifier commandId = false then { status := .invalid }
  else if works = false then { status := .storageError }
  else
    match selectReservation rows fun row => row.assignment.commandId == cString commandId with
    | .error _ => { status := .storageError }
    | .ok none => { status := .notFound }
    | .ok (some reservation) => { status := .reserved, reservation := reservation }

/-! ## Active commands -/

/-- `ORDER BY assigned_at,command_id LIMIT 1`. -/
def firstAssigned : List CommandRow → Option CommandRow
  | [] => none
  | row :: rest =>
    match firstAssigned rest with
    | none => some row
    | some other =>
      let earlier := other.assignment.assignedAt < row.assignment.assignedAt ∨
        (other.assignment.assignedAt = row.assignment.assignedAt ∧
          other.assignment.commandId < row.assignment.commandId)
      if earlier then some other else some row

def findAssignmentForOperation (works : Bool) (ledger : Ledger)
    (backendId operationId commandType : Bytes) : Option BackendAgentCommandAssignment :=
  if (backendAgentCommandSafeIdentifier backendId &&
      backendAgentCommandSafeIdentifier operationId &&
      backendAgentCommandSafeIdentifier commandType) = false ∨ works = false then none
  else
    (firstAssigned (ledger.commands.filter fun row =>
      forOperation backendId operationId commandType row.assignment)).map (·.assignment)

/-! ## Activation -/

/-- How far a call of `activate` has got. Each stage but the last is one repository call that is
still to be made; `inserted` marks the look after an insertion that failed. -/
inductive ActivationStage where
  | findReservation
  | findActive (reservation : BackendAgentCommandReservation) (inserted : Bool)
  | readSelection (reservation : BackendAgentCommandReservation) (inserted : Bool)
      (active : BackendAgentCommandAssignment)
  | findExisting (reservation : BackendAgentCommandReservation)
  | insert (reservation : BackendAgentCommandReservation)
  | done (result : BackendAgentCommandActivationResult)
  deriving DecidableEq

/-- Where `activate` goes on when `activeMatchesReservation` is false. -/
def afterMismatch (reservation : BackendAgentCommandReservation) (inserted : Bool) :
    ActivationStage :=
  if inserted then .done { status := .storageError } else .findExisting reservation

def selectionMatches (reservation : BackendAgentCommandReservation)
    (selection : Option BackendAgentLocalProviderSelection) : Bool :=
  match reservation.localProviderSelection with
  | none => selection.isNone
  | some _ =>
    selection.any fun found =>
      backendAgentLocalProviderSelectionIdentity found ==
        reservation.localProviderSelectionIdentity

/-- Where `activate` goes on after `findByCommandId`. -/
def afterFinding (found : BackendAgentCommandReservationResult) : ActivationStage :=
  match found.status with
  | .notFound => .done { status := .notFound }
  | .reserved | .alreadyReserved => .findActive found.reservation false
  | .invalid => .done { status := .invalid }
  | _ => .done { status := .storageError }

/-- `localProviderSelectionForCommand`, which gives nothing when its statement fails. -/
def readActiveSelection (works : Bool) (ledger : Ledger) (commandId : Bytes) :
    Option BackendAgentLocalProviderSelection :=
  if works then localProviderSelectionForCommand ledger commandId else none

def activationStep (works : Bool) (rows : List BackendAgentCommandReservation) (ledger : Ledger)
    (commandId : Bytes) : ActivationStage → Ledger × ActivationStage
  | .findReservation => (ledger, afterFinding (findByCommandId works rows commandId))
  | .findActive reservation inserted =>
    match findAssignmentForOperation works ledger reservation.assignment.backendId
        reservation.assignment.operationId reservation.assignment.commandType with
    | none => (ledger, afterMismatch reservation inserted)
    | some active =>
      if active.commandId ≠ reservation.assignment.commandId ∨
          backendAgentCommandFingerprint active ≠ reservation.assignmentFingerprint then
        (ledger, afterMismatch reservation inserted)
      else (ledger, .readSelection reservation inserted active)
  | .readSelection reservation inserted active =>
    if selectionMatches reservation (readActiveSelection works ledger active.commandId) then
      (ledger, .done { status := .alreadyActivated, assignment := active })
    else (ledger, afterMismatch reservation inserted)
  | .findExisting reservation =>
    match findAssignmentForOperation works ledger reservation.assignment.backendId
        reservation.assignment.operationId reservation.assignment.commandType with
    | some existing => (ledger, .done { status := .conflict, assignment := existing })
    | none => (ledger, .insert reservation)
  | .insert reservation =>
    let inserted := insertAssignment works ledger reservation.assignment
      reservation.localProviderSelection
    (inserted.1,
      if inserted.2 then .done { status := .activated, assignment := reservation.assignment }
      else .findActive reservation true)
  | .done result => (ledger, .done result)

structure Activation where
  commandId : Bytes
  stage : ActivationStage := .findReservation
  deriving DecidableEq

/-- Both repositories, and the calls of `activate` that have begun. -/
structure ReservationState where
  reservations : List BackendAgentCommandReservation := []
  ledger : Ledger := {}
  activations : List Activation := []
  deriving DecidableEq

inductive ReservationRequest where
  | reserve (works : Bool) (assignment : BackendAgentCommandAssignment)
      (selection : Option BackendAgentLocalProviderSelection)
  | activate (commandId : Bytes)
  | advance (works : Bool) (index : Nat)
  deriving DecidableEq

/-- One call of `reserve`, the start of an activation or the next repository call of one. -/
def reservationStep (state : ReservationState) :
    ReservationRequest → ReservationState × Option BackendAgentCommandReservationResult
  | .reserve works assignment selection =>
    let (rows, result) := reserve works state.reservations assignment selection
    ({ state with reservations := rows }, some result)
  | .activate commandId =>
    ({ state with activations := state.activations ++ [{ commandId := commandId }] }, none)
  | .advance works index =>
    match state.activations[index]? with
    | none => (state, none)
    | some activation =>
      let (ledger, stage) := activationStep works state.reservations state.ledger
        activation.commandId activation.stage
      ({ state with
          ledger := ledger
          activations := state.activations.set index { activation with stage := stage } },
        none)

end VdrSuite.Core
