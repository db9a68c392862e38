import VdrSuite.Operations.MutationOperationRepositoryProperties

/-! The state of one stored operation: what a call can change it to, and who must have asked for it. -/

set_option autoImplicit false

namespace VdrSuite.Operations

open Library

def Store.HasState (store : Store) (operationId : Bytes) (state : MutationOperationState) : Prop :=
  ∃ row ∈ store.operations, row.operationId = operationId ∧
    row.state = mutationOperationStateName state

instance (store : Store) (operationId : Bytes) (state : MutationOperationState) :
    Decidable (store.HasState operationId state) :=
  inferInstanceAs (Decidable (∃ _ ∈ _, _))

/-- A transition names the operation and moves it from one state to another that may follow. -/
structure TransitionArguments.Moves (arguments : TransitionArguments) (operationId : Bytes)
    (source target : MutationOperationState) : Prop where
  addressed : cString arguments.operationId = operationId
  leaves : arguments.expectedState = source
  enters : arguments.nextState = target
  allowed : mutationOperationTransitionAllowed source target = true

variable {operationId : Bytes} {source target : MutationOperationState}

theorem Store.Valid.state_unique {store : Store} (valid : store.Valid)
    (first : store.HasState operationId source) (second : store.HasState operationId target) :
    source = target := by
  obtain ⟨left, leftMember, leftId, leftState⟩ := first
  obtain ⟨right, rightMember, rightId, rightState⟩ := second
  have same := valid.row_unique leftMember rightMember (leftId.trans rightId.symm)
  rw [same, rightState] at leftState
  exact (mutationOperationStateName_injective target source leftState).symm

theorem Store.Continues.hasState {before after : Store} (continued : before.Continues after)
    (valid : after.Valid) (stored : before.HasState operationId source) :
    ∃ state, after.HasState operationId state := by
  obtain ⟨row, member, named, -⟩ := stored
  obtain ⟨successor, later, same, -⟩ := continued.operations row member
  obtain ⟨state, spelled⟩ := (valid.lifecycles successor later).named
  exact ⟨state, successor, later, (MutationOperationRow.operationId_of_identity same).trans named,
    spelled⟩

/-- A successful transition moves its operation from the state that it expects to the next one. -/
theorem Transitioned.moves {environment : Environment} {store : Store}
    {arguments : TransitionArguments} {row : MutationOperationRow} {current : MutationOperation}
    {outcome : Store × MutationOperationRepositoryResult}
    (transitioned : Transitioned environment store arguments row current outcome) :
    store.HasState row.operationId arguments.expectedState ∧
      outcome.1.HasState row.operationId arguments.nextState ∧
      arguments.Moves row.operationId arguments.expectedState arguments.nextState := by
  have expected := transitioned.expectedState
  refine ⟨⟨row, transitioned.member, rfl, ?_⟩, ?_, ?_⟩
  · rw [← expected]
    exact (readOperation_some row current transitioned.readable).state
  · rw [transitioned.updated]
    refine ⟨transitionedRow arguments row.operationRevision row, ?_, rfl, rfl⟩
    exact (mem_transitionedRows _ _ _ _ _).mpr (.inr ⟨row, transitioned.member, rfl, rfl⟩)
  · exact ⟨transitioned.addressed.symm, rfl, rfl, expected ▸ transitioned.allowed⟩

/-- After a transition, the state of an operation is the one before it or the one asked for. -/
theorem Transitioned.hasState {environment : Environment} {store : Store}
    {arguments : TransitionArguments} {row : MutationOperationRow} {current : MutationOperation}
    {outcome : Store × MutationOperationRepositoryResult}
    (transitioned : Transitioned environment store arguments row current outcome)
    (reached : outcome.1.HasState operationId target) :
    store.HasState operationId target ∨
      ∃ source, store.HasState operationId source ∧ arguments.Moves operationId source target := by
  obtain ⟨after, member, named, spelled⟩ := reached
  rw [transitioned.updated] at member
  rcases (mem_transitionedRows _ _ _ _ _).mp member with ⟨old, -⟩ | ⟨previous, old, here, rfl⟩
  · exact .inl ⟨after, old, named, spelled⟩
  · obtain ⟨stored, -, moves⟩ := transitioned.moves
    have same : row.operationId = operationId := here.symm.trans named
    have next : arguments.nextState = target := mutationOperationStateName_injective _ _ spelled
    subst same
    subst next
    exact .inr ⟨_, stored, moves⟩

/-- After a call, the state of an operation is the one before it, that of a reservation, or the one
that the call asks for. -/
theorem step_hasState {store : Store} (valid : store.Valid) (request : Request)
    (reached : (step store request).1.HasState operationId target) :
    store.HasState operationId target ∨
      (target = .accepted ∧ ∀ source, ¬ store.HasState operationId source) ∨
      ∃ arguments source, request.call = .transition arguments ∧
        store.HasState operationId source ∧ arguments.Moves operationId source target := by
  cases step_effect store valid request with
  | unchanged same _ =>
    rw [same] at reached
    exact .inl reached
  | reserved operation payload _ reserved =>
    obtain ⟨row, member, named, spelled⟩ := reached
    rw [reserved.inserted] at member
    rcases List.mem_append.mp member with old | fresh
    · exact .inl ⟨row, old, named, spelled⟩
    · have created := List.mem_singleton.mp fresh
      have accepted : operation.state = .accepted := by
        have admissible := reserved.validOperation
        simp only [mutationOperationValidForCreate, Bool.and_eq_true, beq_iff_eq] at admissible
        exact admissible.1.1.2
      rw [created] at named spelled
      refine .inr (.inl ⟨?_, ?_⟩)
      · refine (mutationOperationStateName_injective _ _ ?_).symm
        rw [← spelled, ← accepted]
        rfl
      · rintro source ⟨other, stored, same, -⟩
        exact reserved.freshId other stored (same.trans named.symm)
  | transitioned arguments row current call transitioned =>
    rcases transitioned.hasState reached with old | ⟨source, stored, moves⟩
    · exact .inl old
    · exact .inr (.inr ⟨arguments, source, call, stored, moves⟩)

end VdrSuite.Operations
