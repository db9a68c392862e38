import VdrSuite.Library.Interleaving
import VdrSuite.Timers.TimerAssignmentOwnership
import VdrSuite.Timers.TimerAssignmentPlanner

/-! Scheduling: reading the owners of an intent, planning, and persisting the decision, by schedulers
that run at the same time. -/

set_option autoImplicit false

namespace VdrSuite.Timers

open Library Library.Transaction

/-! ## Listings -/

structure TimerAssignmentRepositoryListResult where
  status : TimerAssignmentRepositoryStatus := .storageError
  assignments : List TimerAssignment := []
  deriving DecidableEq

def TimerAssignmentRepositoryListResult.ok (result : TimerAssignmentRepositoryListResult) : Bool :=
  result.status == .ok

/-- `ORDER BY assignment_epoch,timer_assignment_id`. -/
def listedBefore (left right : TimerAssignmentRow) : Prop :=
  left.assignmentEpoch < right.assignmentEpoch ∨
    left.assignmentEpoch = right.assignmentEpoch ∧ left.timerAssignmentId ≤ right.timerAssignmentId

instance : DecidableRel listedBefore := fun _ _ => inferInstanceAs (Decidable (_ ∨ _))

def rowsForIntent (timerIntentId : Bytes) (store : TimerStore) : List TimerAssignmentRow :=
  (store.assignments.filter fun row => row.timerIntentId == timerIntentId).insertionSort listedBefore

def listForIntent (works : CarriedOut) (timerIntentId : Bytes) (store : TimerStore) :
    TimerAssignmentRepositoryListResult :=
  if !safeIdentity timerIntentId then { status := .invalid }
  else if works .assignmentSchema = false ∨ works .selectAssignment = false then
    { status := .storageError }
  else
    match (rowsForIntent timerIntentId store).mapM readAssignment with
    | none => { status := .storageError }
    | some assignments => { status := .ok, assignments := assignments }

def findActivePrimaryForIntent (works : CarriedOut) (timerIntentId : Bytes) (store : TimerStore) :
    TimerAssignmentRepositoryResult :=
  if !safeIdentity timerIntentId then statusResult .invalid
  else if works .assignmentSchema = false ∨ works .selectActiveOwner = false then
    statusResult .storageError
  else
    match (rowsForIntent timerIntentId store).filter activeExclusiveOwner with
    | [] => statusResult .notFound
    | [row] =>
      match readAssignment row with
      | none => statusResult .storageError
      | some assignment => assignmentResult .ok assignment
    | _ => statusResult .storageError

/-! ## Intents -/

inductive TimerIntentRepositoryStatus
  | ok
  | invalid
  | notFound
  | conflict
  | alreadyExists
  | storageError
  deriving DecidableEq

structure TimerIntentRepositoryResult where
  status : TimerIntentRepositoryStatus := .storageError
  intent : TimerIntent := {}
  deriving DecidableEq

def TimerIntentRepositoryResult.ok (result : TimerIntentRepositoryResult) : Bool :=
  result.status == .ok

/-- `TimerIntentRepository::findById`. -/
def findIntentById (works : CarriedOut) (timerIntentId : Bytes) (intents : List TimerIntent) :
    TimerIntentRepositoryResult :=
  if timerIntentId.isEmpty then { status := .invalid }
  else if works .selectIntent = false then { status := .storageError }
  else
    match intents.find? fun intent => intent.timerIntentId == timerIntentId with
    | none => { status := .notFound }
    | some intent => { status := .ok, intent := intent }

/-! ## The calls of a scheduler -/

inductive SchedulingCall
  | findIntent (timerIntentId : Bytes)
  | findById (timerAssignmentId : Bytes)
  | assignmentSetRevisionForIntent (timerIntentId : Bytes)
  | listForIntent (timerIntentId : Bytes)
  | findActivePrimaryForIntent (timerIntentId : Bytes)
  | create (assignment : TimerAssignment)
  | createAgainstAssignmentSetRevision (assignment : TimerAssignment)
      (expectedAssignmentSetRevision : Bytes)

def SchedulingReply : SchedulingCall → Type
  | .findIntent _ => TimerIntentRepositoryResult
  | .assignmentSetRevisionForIntent _ => TimerAssignmentRepositorySetRevisionResult
  | .listForIntent _ => TimerAssignmentRepositoryListResult
  | .findById _ | .findActivePrimaryForIntent _ | .create _
  | .createAgainstAssignmentSetRevision _ _ => TimerAssignmentRepositoryResult

abbrev Scheduling (Result : Type) : Type := Program SchedulingCall SchedulingReply Result

def Scheduling.findIntent (timerIntentId : Bytes) : Scheduling TimerIntentRepositoryResult :=
  Program.request (SchedulingCall.findIntent timerIntentId)

def Scheduling.findById (timerAssignmentId : Bytes) : Scheduling TimerAssignmentRepositoryResult :=
  Program.request (SchedulingCall.findById timerAssignmentId)

def Scheduling.assignmentSetRevisionForIntent (timerIntentId : Bytes) :
    Scheduling TimerAssignmentRepositorySetRevisionResult :=
  Program.request (SchedulingCall.assignmentSetRevisionForIntent timerIntentId)

def Scheduling.listForIntent (timerIntentId : Bytes) :
    Scheduling TimerAssignmentRepositoryListResult :=
  Program.request (SchedulingCall.listForIntent timerIntentId)

def Scheduling.findActivePrimaryForIntent (timerIntentId : Bytes) :
    Scheduling TimerAssignmentRepositoryResult :=
  Program.request (SchedulingCall.findActivePrimaryForIntent timerIntentId)

def Scheduling.create (assignment : TimerAssignment) : Scheduling TimerAssignmentRepositoryResult :=
  Program.request (SchedulingCall.create assignment)

def Scheduling.createAgainstAssignmentSetRevision (assignment : TimerAssignment)
    (expectedAssignmentSetRevision : Bytes) : Scheduling TimerAssignmentRepositoryResult :=
  Program.request (SchedulingCall.createAgainstAssignmentSetRevision assignment expectedAssignmentSetRevision)

/-! ## Requests and results -/

inductive TimerAssignmentSchedulingStatus
  | persisted
  | alreadyPersisted
  | activePrimaryExists
  | replicaTargetSatisfied
  | invalidRequest
  | assignmentIdConflict
  | intentNotFound
  | intentRevisionConflict
  | planningInvalid
  | ownershipConflict
  | assignmentSetConflict
  | repositoryConflict
  | storageError
  deriving DecidableEq

structure TimerAssignmentSchedulingRequest where
  timerAssignmentId : Bytes := []
  timerIntentId : Bytes := []
  expectedIntentRevision : Bytes := []
  createdAt : Int := 0
  candidates : List TimerAssignmentPlanningBackendCandidate := []
  deriving DecidableEq

structure TimerAssignmentSchedulingResult where
  status : TimerAssignmentSchedulingStatus := .storageError
  decision : TimerAssignmentPlanningDecision := {}
  assignment : TimerAssignment := {}
  deriving DecidableEq

def validSchedulingRequest (request : TimerAssignmentSchedulingRequest) : Bool :=
  safeIdentity request.timerAssignmentId && safeIdentity request.timerIntentId &&
  safeIdentity request.expectedIntentRevision && decide (0 < request.createdAt)

def idempotentAssignmentMatches (assignment : TimerAssignment)
    (request : TimerAssignmentSchedulingRequest) (role : TimerAssignmentRole) : Bool :=
  assignment.timerAssignmentId == request.timerAssignmentId &&
  assignment.timerIntentId == request.timerIntentId &&
  assignment.intentRevision == request.expectedIntentRevision &&
  assignment.role == role &&
  assignment.createdAt == request.createdAt &&
  (assignment.state == .selected || assignment.state == .unassigned) &&
  assignment.decisionPolicyVersion == timerAssignmentPlanningPolicyVersion

def activeAssignments (assignments : List TimerAssignment) : List TimerAssignment :=
  assignments.filter fun assignment => timerAssignmentActiveOwnershipState assignment.state

def decisionHasReason (decision : TimerAssignmentPlanningDecision) (reason : Bytes) : Bool :=
  decision.decisionEvidence.reasons.contains reason

def assignmentFromDecision (request : TimerAssignmentSchedulingRequest) (role : TimerAssignmentRole)
    (decision : TimerAssignmentPlanningDecision) : TimerAssignment :=
  let assignment : TimerAssignment :=
    { timerAssignmentId := request.timerAssignmentId
      timerIntentId := decision.timerIntentId
      intentRevision := decision.intentRevision
      state := .unassigned
      role := role
      createdAt := request.createdAt
      updatedAt := request.createdAt
      decisionPolicyVersion := decision.decisionPolicyVersion
      decisionEvidence := decision.decisionEvidence }
  if decision.outcome = .selected then
    { assignment with
      state := .selected
      backendId := decision.selectedBackendId
      backendGeneration := decision.selectedBackendGeneration
      channelBinding := decision.selectedChannelBinding
      capabilityRevision := decision.selectedCapabilityRevision
      backendHealthRevision := decision.selectedBackendHealthRevision
      desiredNativeTimerSpecification := decision.selectedNativeTimerSpecification }
  else assignment

def mapRepositoryStatus : TimerAssignmentRepositoryStatus → TimerAssignmentSchedulingStatus
  | .ownershipConflict => .ownershipConflict
  | .intentNotFound => .intentNotFound
  | .intentRevisionConflict => .intentRevisionConflict
  | .invalid => .planningInvalid
  | .conflict | .notFound => .repositoryConflict
  | .storageError => .storageError
  | .alreadyExists => .assignmentIdConflict
  | .ok => .persisted

def mapIntentReadStatus : TimerIntentRepositoryStatus → TimerAssignmentSchedulingStatus
  | .notFound => .intentNotFound
  | .invalid => .invalidRequest
  | .storageError => .storageError
  | .conflict | .alreadyExists => .repositoryConflict
  | .ok => .persisted

/-! ## Schedulers -/

def existingAssignmentResult (request : TimerAssignmentSchedulingRequest)
    (role : TimerAssignmentRole) : Scheduling (Option TimerAssignmentSchedulingResult) := do
  let existing ← Scheduling.findById request.timerAssignmentId
  if existing.ok then
    if idempotentAssignmentMatches existing.assignment request role then
      pure (some { status := .alreadyPersisted, assignment := existing.assignment })
    else pure (some { status := .assignmentIdConflict, assignment := existing.assignment })
  else if existing.status ≠ .notFound then
    pure (some { status := mapRepositoryStatus existing.status })
  else pure none

def applyCreateResult (request : TimerAssignmentSchedulingRequest) (role : TimerAssignmentRole)
    (decision : TimerAssignmentPlanningDecision) (assignmentSetFenced : Bool)
    (created : TimerAssignmentRepositoryResult) : Scheduling TimerAssignmentSchedulingResult :=
  if created.ok then
    pure { status := .persisted, decision := decision, assignment := created.assignment }
  else if created.status = .alreadyExists then do
    let retry ← Scheduling.findById request.timerAssignmentId
    if retry.ok && idempotentAssignmentMatches retry.assignment request role then
      pure { status := .alreadyPersisted, decision := decision, assignment := retry.assignment }
    else
      pure
        { status := .assignmentIdConflict
          decision := decision
          assignment := if retry.ok then retry.assignment else {} }
  else if assignmentSetFenced ∧ created.status = .conflict then
    pure { status := .assignmentSetConflict, decision := decision, assignment := created.assignment }
  else
    pure
      { status := mapRepositoryStatus created.status
        decision := decision
        assignment := created.assignment }

def planningRequest (intent : TimerIntent) (role : TimerAssignmentRole)
    (listed : List TimerAssignment) (request : TimerAssignmentSchedulingRequest) :
    TimerAssignmentPlanningRequest :=
  { intent := intent
    role := role
    currentAssignments := activeAssignments listed
    candidates := request.candidates }

/-- A primary is planned over a listing, and created without a fence around it. In a current
transaction the same calls run, with a creation that opens no transaction of its own. -/
def schedulePrimary (request : TimerAssignmentSchedulingRequest) :
    Scheduling TimerAssignmentSchedulingResult :=
  if validSchedulingRequest request = false then pure { status := .invalidRequest }
  else do
    let existing ← existingAssignmentResult request .primary
    match existing with
    | some result => pure result
    | none =>
      let found ← Scheduling.findIntent request.timerIntentId
      if found.ok = false then pure { status := mapIntentReadStatus found.status }
      else if found.intent.intentRevision ≠ request.expectedIntentRevision then
        pure { status := .intentRevisionConflict }
      else
        let listed ← Scheduling.listForIntent request.timerIntentId
        if listed.ok = false then pure { status := mapRepositoryStatus listed.status }
        else
          let decision :=
            planTimerAssignment (planningRequest found.intent .primary listed.assignments request)
          if decision.outcome = .invalid then
            pure { status := .planningInvalid, decision := decision }
          else if decision.outcome = .unassigned ∧
              decisionHasReason decision (text "active_primary_exists") = true then
            let active ← Scheduling.findActivePrimaryForIntent request.timerIntentId
            if active.ok then
              pure
                { status := .activePrimaryExists
                  decision := decision
                  assignment := active.assignment }
            else if active.status = .storageError then
              pure { status := .storageError, decision := decision }
            else pure { status := .repositoryConflict, decision := decision }
          else
            let created ← Scheduling.create (assignmentFromDecision request .primary decision)
            applyCreateResult request .primary decision false created

/-- The set revision is read before the listing, so that any write in between makes the creation
stale. -/
def scheduleReplica (request : TimerAssignmentSchedulingRequest) :
    Scheduling TimerAssignmentSchedulingResult :=
  if validSchedulingRequest request = false then pure { status := .invalidRequest }
  else do
    let existing ← existingAssignmentResult request .replica
    match existing with
    | some result => pure result
    | none =>
      let found ← Scheduling.findIntent request.timerIntentId
      if found.ok = false then pure { status := mapIntentReadStatus found.status }
      else if found.intent.intentRevision ≠ request.expectedIntentRevision then
        pure { status := .intentRevisionConflict }
      else
        let setRevision ← Scheduling.assignmentSetRevisionForIntent request.timerIntentId
        if setRevision.status ≠ .ok then
          pure { status := mapRepositoryStatus setRevision.status }
        else
          let listed ← Scheduling.listForIntent request.timerIntentId
          if listed.ok = false then pure { status := mapRepositoryStatus listed.status }
          else
            let decision := planTimerAssignment
              (planningRequest found.intent .replica listed.assignments request)
            if decision.outcome = .invalid then
              pure { status := .planningInvalid, decision := decision }
            else if decision.outcome = .unassigned ∧
                decisionHasReason decision (text "replica_target_satisfied") = true then
              pure { status := .replicaTargetSatisfied, decision := decision }
            else
              let created ← Scheduling.createAgainstAssignmentSetRevision
                (assignmentFromDecision request .replica decision)
                setRevision.assignmentSetRevision
              applyCreateResult request .replica decision true created

/-! ## Schedulers side by side -/

structure SchedulingStore where
  timers : TimerStore := {}
  intents : List TimerIntent := []

def carryOut (works : Stage → CarriedOut) : (call : SchedulingCall) → SchedulingStore →
    SchedulingReply call × SchedulingStore
  | .findIntent timerIntentId, store =>
    (findIntentById (works .calling) timerIntentId store.intents, store)
  | .findById timerAssignmentId, store =>
    (findById (works .calling) timerAssignmentId store.timers, store)
  | .assignmentSetRevisionForIntent timerIntentId, store =>
    let (result, timers) :=
      Timers.assignmentSetRevisionForIntent (works .calling) timerIntentId store.timers
    (result, { store with timers := timers })
  | .listForIntent timerIntentId, store =>
    (Timers.listForIntent (works .calling) timerIntentId store.timers, store)
  | .findActivePrimaryForIntent timerIntentId, store =>
    (Timers.findActivePrimaryForIntent (works .calling) timerIntentId store.timers, store)
  | .create assignment, store =>
    let (result, timers) := Timers.create (works .calling) assignment store.timers
    (result, { store with timers := timers })
  | .createAgainstAssignmentSetRevision assignment expectedAssignmentSetRevision, store =>
    let (result, timers) := Timers.createAgainstAssignmentSetRevision works assignment
      expectedAssignmentSetRevision store.timers
    (result, { store with timers := timers })

/-- What others do meanwhile: a call of the assignment repository, such as the update that a
lifecycle step is, or a change of the intents. -/
inductive SchedulingChange
  | call (call : TimerAssignmentCall)
  | intents (intents : List TimerIntent)

def applyChange : SchedulingChange → SchedulingStore → SchedulingStore
  | .call call, store => { store with timers := (perform store.timers call).1 }
  | .intents intents, store => { store with intents := intents }

abbrev SchedulingSystem : Type :=
  Interleaving.System SchedulingCall SchedulingReply TimerAssignmentSchedulingResult SchedulingStore

abbrev SchedulingMove : Type :=
  Interleaving.Move SchedulingCall SchedulingReply TimerAssignmentSchedulingResult
    (Stage → CarriedOut) SchedulingChange

def schedulingStep (system : SchedulingSystem) (move : SchedulingMove) :
    SchedulingSystem × Option (Interleaving.Event SchedulingReply) :=
  Interleaving.step carryOut applyChange system move

end VdrSuite.Timers
