import VdrSuite.Timers.NativeTimerSpecification

/-! Timer assignments: who records an intent, in which state, and on which evidence. -/

set_option autoImplicit false

namespace VdrSuite.Timers

open Library

inductive TimerAssignmentState
  | proposed
  | selected
  | provisioning
  | bound
  | reconciling
  | unassigned
  | superseding
  | superseded
  | cancelRequested
  | cancelled
  | failed
  deriving DecidableEq

inductive TimerAssignmentRole
  | primary
  | replica
  | replacement
  deriving DecidableEq

structure TimerAssignmentChannelBinding where
  canonicalChannelId : Bytes := []
  backendChannelId : Bytes := []
  mappingSource : Bytes := []
  mappingRevision : Bytes := []
  deriving DecidableEq

structure TimerAssignmentDecisionEvidence where
  reasons : List Bytes := []
  warnings : List Bytes := []
  exclusions : List Bytes := []
  conflictFacts : List Bytes := []
  decisionScore : Int := 0
  deriving DecidableEq

structure TimerAssignment where
  timerAssignmentId : Bytes := []
  assignmentRevision : Bytes := []
  timerIntentId : Bytes := []
  intentRevision : Bytes := []
  assignmentEpoch : Nat := 0
  backendId : Bytes := []
  backendGeneration : Nat := 0
  state : TimerAssignmentState := .proposed
  role : TimerAssignmentRole := .primary
  channelBinding : TimerAssignmentChannelBinding := {}
  capabilityRevision : Bytes := []
  backendHealthRevision : Bytes := []
  decisionPolicyVersion : Bytes := []
  decisionEvidence : TimerAssignmentDecisionEvidence := {}
  desiredNativeTimerSpecification : Option NativeTimerSpecification := none
  nativeTimerBindingId : Bytes := []
  createdAt : Int := 0
  updatedAt : Int := 0
  deriving DecidableEq

/-! ## Validity -/

def boundedEvidence (values : List Bytes) : Bool :=
  decide (values.length ≤ 32) && values.all fun value => nonEmptyBounded value 256

def decisionEvidenceValid (evidence : TimerAssignmentDecisionEvidence) : Bool :=
  !evidence.reasons.isEmpty &&
  boundedEvidence evidence.reasons &&
  boundedEvidence evidence.warnings &&
  boundedEvidence evidence.exclusions &&
  boundedEvidence evidence.conflictFacts &&
  decide (-1000000 ≤ evidence.decisionScore) && decide (evidence.decisionScore ≤ 1000000)

def channelBindingPresent (binding : TimerAssignmentChannelBinding) : Bool :=
  !binding.canonicalChannelId.isEmpty || !binding.backendChannelId.isEmpty ||
  !binding.mappingSource.isEmpty || !binding.mappingRevision.isEmpty

def channelBindingValid (binding : TimerAssignmentChannelBinding) : Bool :=
  channelBindingPresent binding &&
  bounded binding.canonicalChannelId 160 &&
  nonEmptyBounded binding.backendChannelId 160 &&
  nonEmptyBounded binding.mappingSource 160 &&
  nonEmptyBounded binding.mappingRevision 160

def unassignedShapeValid (assignment : TimerAssignment) : Bool :=
  assignment.backendId.isEmpty &&
  assignment.backendGeneration == 0 &&
  !channelBindingPresent assignment.channelBinding &&
  assignment.capabilityRevision.isEmpty &&
  assignment.backendHealthRevision.isEmpty &&
  assignment.desiredNativeTimerSpecification.isNone &&
  assignment.nativeTimerBindingId.isEmpty

def assignedShapeValid (assignment : TimerAssignment) : Bool :=
  nonEmptyBounded assignment.backendId 160 &&
  decide (0 < assignment.backendGeneration) &&
  channelBindingValid assignment.channelBinding &&
  nonEmptyBounded assignment.capabilityRevision 160 &&
  nonEmptyBounded assignment.backendHealthRevision 160

def assignmentFieldsValid (assignment : TimerAssignment) : Bool :=
  nonEmptyBounded assignment.timerAssignmentId 160 &&
  nonEmptyBounded assignment.assignmentRevision 160 &&
  nonEmptyBounded assignment.timerIntentId 160 &&
  nonEmptyBounded assignment.intentRevision 160 &&
  assignment.assignmentEpoch != 0 &&
  nonEmptyBounded assignment.decisionPolicyVersion 160 &&
  decisionEvidenceValid assignment.decisionEvidence &&
  bounded assignment.nativeTimerBindingId 160 &&
  decide (0 < assignment.createdAt) &&
  decide (assignment.createdAt ≤ assignment.updatedAt)

def timerAssignmentValid (assignment : TimerAssignment) : Bool :=
  assignmentFieldsValid assignment &&
  match assignment.state with
  | .unassigned => unassignedShapeValid assignment
  | .bound => assignedShapeValid assignment && nonEmptyBounded assignment.nativeTimerBindingId 160
  | _ => assignedShapeValid assignment

def timerAssignmentRevisionMatches (expectedRevision currentRevision : Bytes) : Bool :=
  !expectedRevision.isEmpty && !currentRevision.isEmpty && expectedRevision == currentRevision

def desiredNativeTimerSpecificationValidForAssignment (assignment : TimerAssignment) : Bool :=
  match assignment.desiredNativeTimerSpecification with
  | none => true
  | some specification =>
    assignment.state != .unassigned &&
    nativeTimerSpecificationValid specification &&
    specification.channelId == assignment.channelBinding.backendChannelId

def desiredNativeTimerSpecificationImmutable (current next : TimerAssignment) : Bool :=
  current.desiredNativeTimerSpecification == next.desiredNativeTimerSpecification

/-! ## States -/

def timerAssignmentSuccessors : TimerAssignmentState → List TimerAssignmentState
  | .proposed => [.selected, .unassigned, .cancelRequested, .failed]
  | .selected => [.provisioning, .unassigned, .superseding, .cancelRequested, .failed]
  | .provisioning => [.bound, .reconciling, .unassigned, .superseding, .cancelRequested, .failed]
  | .bound => [.reconciling, .superseding, .cancelRequested, .failed]
  | .reconciling => [.bound, .unassigned, .superseding, .cancelRequested, .failed]
  | .unassigned => [.proposed, .selected, .cancelRequested, .failed]
  | .superseding => [.superseded, .reconciling, .cancelRequested, .failed]
  | .cancelRequested => [.cancelled, .failed]
  | .superseded => []
  | .cancelled => []
  | .failed => []

def timerAssignmentCanTransition (source target : TimerAssignmentState) : Bool :=
  source != target && target ∈ timerAssignmentSuccessors source

def timerAssignmentActiveOwnershipState (state : TimerAssignmentState) : Bool :=
  state ∈ [.selected, .provisioning, .bound, .reconciling, .superseding]

def timerAssignmentTerminal (state : TimerAssignmentState) : Bool :=
  state ∈ [.superseded, .cancelled, .failed]

theorem timerAssignmentTerminal_iff (state : TimerAssignmentState) :
    timerAssignmentTerminal state = true ↔
      ∀ target, timerAssignmentCanTransition state target = false := by
  cases state with
  | superseded | cancelled | failed =>
    refine ⟨fun _ target => ?_, fun _ => rfl⟩
    cases target <;> rfl
  | proposed | selected | provisioning | bound | reconciling | unassigned | superseding
    | cancelRequested =>
      constructor
      · intro terminal
        cases terminal
      · intro closed
        have := closed .failed
        cases this

theorem not_terminal_of_active {state : TimerAssignmentState}
    (active : timerAssignmentActiveOwnershipState state = true) :
    timerAssignmentTerminal state = false := by
  cases state <;> first | rfl | cases active

theorem assignedShape_of_valid {assignment : TimerAssignment}
    (valid : timerAssignmentValid assignment = true) (assigned : assignment.state ≠ .unassigned) :
    assignedShapeValid assignment = true := by
  rw [timerAssignmentValid, Bool.and_eq_true] at valid
  obtain ⟨-, shape⟩ := valid
  split at shape
  · next unassigned => exact absurd unassigned assigned
  · exact (Bool.and_eq_true _ _ ▸ shape).1
  · exact shape

/-- Superseding an assigned assignment keeps it valid: only unassigned ones have another shape. -/
theorem timerAssignmentValid_superseded {assignment : TimerAssignment}
    (valid : timerAssignmentValid assignment = true)
    (active : timerAssignmentActiveOwnershipState assignment.state = true) {revision : Nat}
    {updatedAt : Int} (small : (decimal revision).length ≤ 160)
    (later : assignment.updatedAt < updatedAt) :
    timerAssignmentValid { assignment with
      state := .superseded, assignmentRevision := decimal revision, updatedAt := updatedAt } =
        true := by
  have assigned : assignedShapeValid assignment = true := by
    apply assignedShape_of_valid valid
    intro unassigned
    rw [unassigned] at active
    cases active
  simp only [timerAssignmentValid, assignmentFieldsValid, Bool.and_eq_true, decide_eq_true_eq,
    nonEmptyBounded_iff] at valid ⊢
  obtain ⟨fields, -⟩ := valid
  obtain ⟨⟨⟨⟨⟨⟨⟨⟨⟨id, -⟩, intent⟩, intentRevision⟩, epoch⟩, policy⟩, evidence⟩, binding⟩, created⟩,
    updated⟩ := fields
  exact ⟨⟨⟨⟨⟨⟨⟨⟨⟨⟨id, decimal_ne_nil revision, small⟩, intent⟩, intentRevision⟩, epoch⟩, policy⟩,
    evidence⟩, binding⟩, created⟩, by omega⟩, assigned⟩

end VdrSuite.Timers
