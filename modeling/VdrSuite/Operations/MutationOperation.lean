import Mathlib.Logic.Basic
import Mathlib.Tactic.Tauto
import VdrSuite.Library.Bytes

/-! Mutation operations, their lifecycle states and the checks made before they are stored. -/

set_option autoImplicit false

namespace VdrSuite.Operations

open Library

inductive MutationOperationState where
  | accepted
  | rejected
  | conflict
  | queued
  | dispatching
  | executedUnverified
  | succeeded
  | failedBeforeDispatch
  | failedVerified
  | outcomeUnknown
  | cancelled
  deriving DecidableEq

inductive MutationOperationVerificationPolicy where
  | none
  | readbackRequired
  | eventConfirmation
  | reconciliationRequired
  deriving DecidableEq

structure MutationOperation where
  operationId : Bytes := []
  idempotencyKey : Bytes := []
  actorId : Bytes := []
  backendId : Bytes := []
  backendGeneration : Nat := 0
  resourceType : Bytes := []
  resourceId : Bytes := []
  expectedRevision : Bytes := []
  expectedResourceFingerprint : Bytes := []
  actionFamily : Bytes := []
  requestFingerprint : Bytes := []
  requestedAt : Int := 0
  deadline : Int := 0
  verificationPolicy : MutationOperationVerificationPolicy := .readbackRequired
  state : MutationOperationState := .accepted
  resultReference : Bytes := []
  updatedAt : Int := 0
  operationRevision : Bytes := []
  deriving DecidableEq

def kMaxIdentityLength : Nat := 160
def kMaxFingerprintLength : Nat := 512
def kMaxResourceFingerprintLength : Nat := 4096
def kMaxResultReferenceLength : Nat := 512

def safeIdentity (value : Bytes) : Bool :=
  !value.isEmpty && value.length ≤ kMaxIdentityLength

def validRevisionToken (value : Bytes) : Bool :=
  safeIdentity value

def parseRevision (token : Bytes) : Option Nat :=
  match parseDecimal int64Max token with
  | some value => if 0 < value then some value else none
  | none => none

def parseOperationRevision (value : Bytes) : Bool :=
  (parseRevision value).isSome

def commonValid (operation : MutationOperation) : Bool :=
  safeIdentity operation.operationId &&
  safeIdentity operation.idempotencyKey &&
  safeIdentity operation.actorId &&
  safeIdentity operation.backendId &&
  operation.backendGeneration != 0 &&
  operation.backendGeneration ≤ int64Max &&
  safeIdentity operation.resourceType &&
  safeIdentity operation.resourceId &&
  validRevisionToken operation.expectedRevision &&
  operation.expectedResourceFingerprint.length ≤ kMaxResourceFingerprintLength &&
  safeIdentity operation.actionFamily &&
  !operation.requestFingerprint.isEmpty &&
  operation.requestFingerprint.length ≤ kMaxFingerprintLength &&
  0 < operation.requestedAt &&
  operation.requestedAt ≤ operation.updatedAt &&
  (operation.deadline == 0 || operation.requestedAt ≤ operation.deadline) &&
  operation.resultReference.length ≤ kMaxResultReferenceLength

def mutationOperationStateName : MutationOperationState → Bytes
  | .accepted => text "accepted"
  | .rejected => text "rejected"
  | .conflict => text "conflict"
  | .queued => text "queued"
  | .dispatching => text "dispatching"
  | .executedUnverified => text "executed_unverified"
  | .succeeded => text "succeeded"
  | .failedBeforeDispatch => text "failed_before_dispatch"
  | .failedVerified => text "failed_verified"
  | .outcomeUnknown => text "outcome_unknown"
  | .cancelled => text "cancelled"

def mutationOperationStateFromName (value : Bytes) : Option MutationOperationState :=
  if value = text "accepted" then some .accepted
  else if value = text "rejected" then some .rejected
  else if value = text "conflict" then some .conflict
  else if value = text "queued" then some .queued
  else if value = text "dispatching" then some .dispatching
  else if value = text "executed_unverified" then some .executedUnverified
  else if value = text "succeeded" then some .succeeded
  else if value = text "failed_before_dispatch" then some .failedBeforeDispatch
  else if value = text "failed_verified" then some .failedVerified
  else if value = text "outcome_unknown" then some .outcomeUnknown
  else if value = text "cancelled" then some .cancelled
  else none

def mutationOperationVerificationPolicyName : MutationOperationVerificationPolicy → Bytes
  | .none => text "none"
  | .readbackRequired => text "readback_required"
  | .eventConfirmation => text "event_confirmation"
  | .reconciliationRequired => text "reconciliation_required"

def mutationOperationVerificationPolicyFromName (value : Bytes) :
    Option MutationOperationVerificationPolicy :=
  if value = text "none" then some .none
  else if value = text "readback_required" then some .readbackRequired
  else if value = text "event_confirmation" then some .eventConfirmation
  else if value = text "reconciliation_required" then some .reconciliationRequired
  else none

def mutationOperationStateTerminal (state : MutationOperationState) : Bool :=
  state == .rejected ||
  state == .conflict ||
  state == .succeeded ||
  state == .failedBeforeDispatch ||
  state == .failedVerified ||
  state == .cancelled

def mutationOperationTransitionAllowed (source target : MutationOperationState) : Bool :=
  if source = target then true
  else match source with
    | .accepted =>
      target == .rejected || target == .conflict || target == .queued ||
      target == .dispatching || target == .failedBeforeDispatch || target == .cancelled
    | .queued =>
      target == .dispatching || target == .failedBeforeDispatch || target == .cancelled
    | .dispatching =>
      target == .executedUnverified || target == .failedBeforeDispatch ||
      target == .outcomeUnknown || target == .failedVerified
    | .executedUnverified =>
      target == .succeeded || target == .failedVerified || target == .outcomeUnknown
    | .outcomeUnknown =>
      target == .executedUnverified || target == .succeeded || target == .failedVerified
    | .rejected | .conflict | .succeeded | .failedBeforeDispatch | .failedVerified | .cancelled =>
      false

def mutationOperationValidForCreate (operation : MutationOperation) : Bool :=
  commonValid operation &&
  operation.operationRevision.isEmpty &&
  operation.state == .accepted &&
  operation.resultReference.isEmpty &&
  operation.updatedAt == operation.requestedAt

def mutationOperationValidDurable (operation : MutationOperation) : Bool :=
  commonValid operation && parseOperationRevision operation.operationRevision

/-! ## Lifecycle facts -/

@[simp] theorem mutationOperationStateFromName_stateName (state : MutationOperationState) :
    mutationOperationStateFromName (mutationOperationStateName state) = some state := by
  cases state <;> decide

theorem mutationOperationStateFromName_eq_some_iff (value : Bytes) (state : MutationOperationState) :
    mutationOperationStateFromName value = some state ↔ value = mutationOperationStateName state := by
  constructor
  · intro named
    unfold mutationOperationStateFromName at named
    iterate 11
      rcases ite_eq_iff.mp named with ⟨same, found⟩ | ⟨-, named⟩
      · cases found
        exact same
    cases named
  · rintro rfl
    exact mutationOperationStateFromName_stateName state

theorem mutationOperationStateName_injective (left right : MutationOperationState)
    (same : mutationOperationStateName left = mutationOperationStateName right) : left = right := by
  have names := congrArg mutationOperationStateFromName same
  simpa using names

@[simp] theorem cString_stateName (state : MutationOperationState) :
    cString (mutationOperationStateName state) = mutationOperationStateName state := by
  cases state <;> decide

@[simp] theorem mutationOperationVerificationPolicyFromName_policyName
    (policy : MutationOperationVerificationPolicy) :
    mutationOperationVerificationPolicyFromName (mutationOperationVerificationPolicyName policy) =
      some policy := by
  cases policy <;> decide

@[simp] theorem cString_policyName (policy : MutationOperationVerificationPolicy) :
    cString (mutationOperationVerificationPolicyName policy) =
      mutationOperationVerificationPolicyName policy := by
  cases policy <;> decide

theorem mutationOperationTransitionAllowed_of_terminal (source target : MutationOperationState)
    (terminal : mutationOperationStateTerminal source = true) :
    mutationOperationTransitionAllowed source target = true ↔ source = target := by
  cases source <;> simp [mutationOperationStateTerminal] at terminal <;>
    simp [mutationOperationTransitionAllowed]

theorem commonValid_backendGeneration (operation : MutationOperation)
    (valid : commonValid operation = true) : operation.backendGeneration ≠ 0 := by
  simp only [commonValid, Bool.and_eq_true, bne_iff_ne] at valid
  tauto

theorem parseRevision_decimal (value : Nat) (positive : 0 < value) (bounded : value ≤ int64Max) :
    parseRevision (decimal value) = some value := by
  simp [parseRevision, parseDecimal_decimal int64Max value bounded, positive]

end VdrSuite.Operations
