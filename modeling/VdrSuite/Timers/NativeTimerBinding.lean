import VdrSuite.Timers.NativeTimerSpecification

/-! Native timer bindings: the observed state of a native timer, its fingerprint, and validity. -/

set_option autoImplicit false

namespace VdrSuite.Timers

open Library Agent

inductive NativeTimerBindingOwnership
  | managed
  | adopted
  | external
  | orphanedManaged
  | ambiguous
  deriving DecidableEq

inductive NativeTimerBindingDriftState
  | none
  | expectedTransition
  | externalFieldChange
  | externalDisable
  | externalDelete
  | nativeIdentityChanged
  | ambiguous
  deriving DecidableEq

structure NativeTimerObservedState where
  channelId : Bytes := []
  eventId : Bytes := []
  title : Bytes := []
  directory : Bytes := []
  day : Bytes := []
  weekdays : Bytes := []
  startTime : Bytes := []
  endTime : Bytes := []
  flags : Int := 0
  priority : Int := 50
  lifetime : Int := 99
  enabled : Bool := true
  vps : Bool := false
  recording : Bool := false
  pending : Bool := false
  deriving DecidableEq

structure NativeTimerBinding where
  nativeTimerBindingId : Bytes := []
  bindingRevision : Bytes := []
  backendId : Bytes := []
  backendGeneration : Nat := 0
  backendNativeTimerId : Bytes := []
  timerAssignmentId : Bytes := []
  ownership : NativeTimerBindingOwnership := .external
  observedFingerprint : Bytes := []
  observedState : NativeTimerObservedState := {}
  lastObservedAt : Int := 0
  lastVerifiedOperationId : Bytes := []
  missingSince : Int := 0
  driftState : NativeTimerBindingDriftState := .none
  deriving DecidableEq

def managedOwnership (ownership : NativeTimerBindingOwnership) : Bool :=
  ownership == .managed || ownership == .adopted

/-! ## Observed states -/

def nativeTimerObservedStateValid (state : NativeTimerObservedState) : Bool :=
  nonEmptyBounded state.channelId 160 &&
  bounded state.eventId 160 &&
  bounded state.title 1024 &&
  bounded state.directory 1024 &&
  bounded state.day 160 &&
  validWeekdays state.weekdays &&
  validHhmm state.startTime &&
  validHhmm state.endTime &&
  decide (0 ≤ state.flags) &&
  decide (0 ≤ state.priority) && decide (state.priority ≤ 99) &&
  decide (0 ≤ state.lifetime) && decide (state.lifetime ≤ 99)

def observedStateFields (state : NativeTimerObservedState) : List Bytes :=
  [state.channelId, state.eventId, state.title, state.directory, state.day, state.weekdays,
    normalizedHhmm state.startTime, normalizedHhmm state.endTime, signedDecimal state.flags,
    signedDecimal state.priority, signedDecimal state.lifetime, Netstring.boolField state.enabled,
    Netstring.boolField state.vps, Netstring.boolField state.recording,
    Netstring.boolField state.pending]

def nativeTimerObservedStateFingerprint (state : NativeTimerObservedState) : Bytes :=
  if nativeTimerObservedStateValid state = false then []
  else text "native-timer-observed-state/1|" ++ Netstring.record (observedStateFields state)

def nativeTimerObservedStateSameExceptEventId (prior observed : NativeTimerObservedState) : Bool :=
  nativeTimerObservedStateValid prior && nativeTimerObservedStateValid observed &&
  nativeTimerObservedStateFingerprint prior ==
    nativeTimerObservedStateFingerprint { observed with eventId := prior.eventId }

/-! ## Validity -/

def assignmentOwnershipShapeValid (binding : NativeTimerBinding) : Bool :=
  match binding.ownership with
  | .managed | .adopted => nonEmptyBounded binding.timerAssignmentId 160
  | .external => binding.timerAssignmentId.isEmpty && binding.lastVerifiedOperationId.isEmpty
  | .orphanedManaged | .ambiguous => bounded binding.timerAssignmentId 160

def missingDriftShapeValid (binding : NativeTimerBinding) : Bool :=
  if binding.missingSince = 0 then binding.driftState != .externalDelete
  else if binding.missingSince < 0 ∨ binding.missingSince > binding.lastObservedAt then false
  else
    binding.driftState == .expectedTransition || binding.driftState == .externalDelete ||
      binding.driftState == .ambiguous

def nativeTimerBindingValid (binding : NativeTimerBinding) : Bool :=
  nonEmptyBounded binding.nativeTimerBindingId 160 &&
  nonEmptyBounded binding.bindingRevision 160 &&
  nonEmptyBounded binding.backendId 160 &&
  binding.backendGeneration != 0 &&
  nonEmptyBounded binding.backendNativeTimerId 160 &&
  bounded binding.timerAssignmentId 160 &&
  nonEmptyBounded binding.observedFingerprint 4096 &&
  nativeTimerObservedStateValid binding.observedState &&
  decide (0 < binding.lastObservedAt) &&
  bounded binding.lastVerifiedOperationId 160 &&
  binding.observedFingerprint == nativeTimerObservedStateFingerprint binding.observedState &&
  assignmentOwnershipShapeValid binding &&
  missingDriftShapeValid binding &&
  !(binding.driftState == .externalDisable &&
    (binding.missingSince != 0 || binding.observedState.enabled))

def nativeTimerBindingRevisionMatches (expectedRevision currentRevision : Bytes) : Bool :=
  !expectedRevision.isEmpty && !currentRevision.isEmpty && expectedRevision == currentRevision

/-! ## Equal configurations -/

/-- The same native timer but for the event of the guide; clock times may be spelled with or without
leading zeros. -/
structure SameConfiguration (prior observed : NativeTimerObservedState) : Prop where
  startTime : normalizedHhmm observed.startTime = normalizedHhmm prior.startTime
  endTime : normalizedHhmm observed.endTime = normalizedHhmm prior.endTime
  others : observed = { prior with
    eventId := observed.eventId
    startTime := observed.startTime
    endTime := observed.endTime }

theorem observedStateFields_injective {left right : NativeTimerObservedState}
    (same : observedStateFields left = observedStateFields right) :
    right.eventId = left.eventId ∧ SameConfiguration left right := by
  simp only [observedStateFields, List.cons.injEq, and_true] at same
  obtain ⟨channel, event, title, directory, day, weekdays, startTime, endTime, flags, priority,
    lifetime, enabled, vps, recording, pending⟩ := same
  refine ⟨event.symm, startTime.symm, endTime.symm, ?_⟩
  have flags := signedDecimal_injective flags
  have priority := signedDecimal_injective priority
  have lifetime := signedDecimal_injective lifetime
  have enabled := Netstring.boolField_injective enabled
  have vps := Netstring.boolField_injective vps
  have recording := Netstring.boolField_injective recording
  have pending := Netstring.boolField_injective pending
  cases left
  cases right
  simp_all only

/-- A fingerprint determines the state it was taken of, up to the spelling of clock times. -/
theorem observedStateFingerprint_injective {left right : NativeTimerObservedState}
    (valid : nativeTimerObservedStateValid left = true)
    (same : nativeTimerObservedStateFingerprint left = nativeTimerObservedStateFingerprint right) :
    right.eventId = left.eventId ∧ SameConfiguration left right := by
  rw [nativeTimerObservedStateFingerprint, if_neg (by simp [valid]),
    nativeTimerObservedStateFingerprint] at same
  split at same
  · rw [text, List.append_eq_nil_iff] at same
    exact absurd same.1 (by decide)
  · exact observedStateFields_injective (Netstring.record_injective (List.append_cancel_left same))

theorem sameConfiguration_of_sameExceptEventId {prior observed : NativeTimerObservedState}
    (same : nativeTimerObservedStateSameExceptEventId prior observed = true) :
    SameConfiguration prior observed := by
  simp only [nativeTimerObservedStateSameExceptEventId, Bool.and_eq_true, beq_iff_eq] at same
  obtain ⟨⟨valid, -⟩, fingerprints⟩ := same
  obtain ⟨-, startTime, endTime, others⟩ := observedStateFingerprint_injective valid fingerprints
  refine ⟨startTime, endTime, ?_⟩
  cases prior
  cases observed
  simp_all

end VdrSuite.Timers
