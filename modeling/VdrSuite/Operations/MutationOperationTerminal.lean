import VdrSuite.Operations.MutationOperationRepositoryProperties

/-! Terminal operations: exactly which transition calls leave them as they are. -/

set_option autoImplicit false

namespace VdrSuite.Operations

open Library

/-! ## Transitions that go through -/

theorem Store.Valid.find_id {store : Store} (valid : store.Valid) (row : MutationOperationRow)
    (member : row ∈ store.operations) :
    store.operations.find? (fun other => other.operationId == row.operationId) = some row := by
  cases selected : store.operations.find? fun other => other.operationId == row.operationId with
  | none =>
    have excluded := List.find?_eq_none.mp selected row member
    simp at excluded
  | some other =>
    have same : other.operationId = row.operationId := by simpa using List.find?_some selected
    rw [valid.row_unique (List.mem_of_find?_eq_some selected) member same]

theorem selectById_of_row (environment : Environment) {store : Store} (valid : store.Valid)
    (operationId : Bytes) (row : MutationOperationRow) (current : MutationOperation)
    (available : environment.selectByIdFails = false) (member : row ∈ store.operations)
    (addressed : row.operationId = cString operationId) (readable : readOperation row = some current) :
    selectById environment store operationId = .found current := by
  simp [selectById, lookupRow, available, ← addressed, valid.find_id row member, readable]

private theorem filter_addressedBy {store : Store} (valid : store.Valid)
    (arguments : TransitionArguments) (row : MutationOperationRow) (member : row ∈ store.operations)
    (addressed : row.operationId = cString arguments.operationId) :
    store.operations.filter (addressedBy arguments row.operationRevision) = [row] := by
  rw [List.filter_congr (addressedBy_eq_decide valid arguments member addressed rfl)]
  have nodup := List.Nodup.of_map _ valid.uniqueIds
  refine List.perm_singleton.mp ((List.perm_ext_iff_of_nodup (nodup.filter _)
    (List.nodup_singleton row)).mpr ?_)
  intro other
  simp only [List.mem_filter, decide_eq_true_eq, List.mem_singleton]
  constructor
  · rintro ⟨otherMember, same⟩
    exact valid.row_unique otherMember member same
  · rintro rfl
    exact ⟨member, rfl⟩

private theorem updateOperation_of_row (environment : Environment) {store : Store}
    (valid : store.Valid) (arguments : TransitionArguments) (row : MutationOperationRow)
    (available : environment.updateFails = false) (member : row ∈ store.operations)
    (addressed : row.operationId = cString arguments.operationId) :
    updateOperation environment store arguments row.operationRevision = some
      { store with
        operations :=
          transitionedRows arguments row.operationRevision row.operationId store.operations } := by
  simp only [updateOperation, available, Bool.false_eq_true, if_false,
    filter_addressedBy valid arguments row member addressed, List.length_singleton, ne_eq,
    not_true_eq_false, Option.some.injEq]
  refine congrArg (fun operations => { store with operations := operations }) ?_
  refine List.map_congr_left ?_
  intro other otherMember
  rw [addressedBy_eq_decide valid arguments member addressed rfl other otherMember]
  simp

theorem transition_of_admitted (environment : Environment) {store : Store} (valid : store.Valid)
    (arguments : TransitionArguments) (row : MutationOperationRow) (current : MutationOperation)
    (admitted : TransitionAdmitted environment store arguments row current) :
    Transitioned environment store arguments row current (transition environment store arguments) := by
  obtain ⟨begun, selectable, updatable, committed⟩ := admitted.available
  have reads := readOperation_some row current admitted.readable
  have lifecycle := valid.lifecycles row admitted.member
  have parsed : parseRevision arguments.expectedOperationRevision = some row.operationRevision := by
    rw [← admitted.revisionText, reads.operationRevision]
    exact parseRevision_decimal row.operationRevision lifecycle.positive lifecycle.bounded
  have found := selectById_of_row environment valid arguments.operationId row current selectable
    admitted.member admitted.addressed admitted.readable
  have update := updateOperation_of_row environment valid arguments row updatable admitted.member
    admitted.addressed
  have admissible : ¬ (safeIdentity arguments.operationId = false ∨
      arguments.resultReference.length > kMaxResultReferenceLength ∨ arguments.updatedAt ≤ 0) := by
    have validReference := admitted.validReference
    have validTime := admitted.validTime
    simp only [admitted.validId, Bool.true_eq_false, false_or]
    omega
  have permitted : ¬ (current.state ≠ arguments.expectedState ∨
      mutationOperationTransitionAllowed current.state arguments.nextState = false) := by
    simp [admitted.expectedState ▸ admitted.allowed, admitted.expectedState]
  have ordered : ¬ (arguments.updatedAt < current.updatedAt ∨ row.operationRevision = int64Max) := by
    have later := admitted.ordered
    have bounded := admitted.bounded
    rw [reads.updatedAt]
    omega
  have body : transitionInTransaction environment store arguments row.operationRevision =
      ({ store with
          operations :=
            transitionedRows arguments row.operationRevision row.operationId store.operations },
        operationResult .ok
          { current with
            operationRevision := decimal (row.operationRevision + 1)
            state := arguments.nextState
            resultReference := arguments.resultReference
            updatedAt := arguments.updatedAt }) := by
    simp only [transitionInTransaction, found, if_neg admitted.differs, if_neg permitted,
      if_neg ordered, if_neg (not_not.mpr admitted.revisionText), update]
  have outcome : transition environment store arguments =
      transitionInTransaction environment store arguments row.operationRevision := by
    simp only [transition, parsed, if_neg admissible]
    exact inTransaction_of_ok environment store _ begun committed (by rw [body]; rfl)
  rw [outcome, body]
  exact { toTransitionAdmitted := admitted, succeeded := rfl, updated := rfl }

/-! ## Terminal rows -/

def TerminalRow (row : MutationOperationRow) : Prop :=
  ∃ state, row.state = mutationOperationStateName state ∧ mutationOperationStateTerminal state = true

def KeepsTerminal (before after : Store) : Prop :=
  ∀ row ∈ before.operations, TerminalRow row → row ∈ after.operations

/-- The call names a terminal operation's own state and revision but another result reference. -/
def RewritesTerminal (environment : Environment) (store : Store) (arguments : TransitionArguments) :
    Prop :=
  ∃ row current, row ∈ store.operations ∧ row.operationId = cString arguments.operationId ∧
    readOperation row = some current ∧ mutationOperationStateTerminal current.state = true ∧
    arguments.expectedState = current.state ∧ arguments.nextState = current.state ∧
    arguments.resultReference ≠ current.resultReference ∧
    arguments.expectedOperationRevision = current.operationRevision ∧
    current.updatedAt ≤ arguments.updatedAt ∧ 0 < arguments.updatedAt ∧
    row.operationRevision < int64Max ∧ safeIdentity arguments.operationId = true ∧
    arguments.resultReference.length ≤ kMaxResultReferenceLength ∧
    environment.beginFails = false ∧ environment.selectByIdFails = false ∧
    environment.updateFails = false ∧ environment.commitFails = false

theorem rewritesTerminal_iff_admitted (environment : Environment) (store : Store)
    (arguments : TransitionArguments) :
    RewritesTerminal environment store arguments ↔
      ∃ row current, TransitionAdmitted environment store arguments row current ∧
        mutationOperationStateTerminal current.state = true := by
  constructor
  · rintro ⟨row, current, member, addressed, readable, terminal, expected, next, differs, revision,
      ordered, validTime, bounded, validId, validReference, available⟩
    have reads := readOperation_some row current readable
    refine ⟨row, current, ?_, terminal⟩
    exact
      { member := member, addressed := addressed, readable := readable, validId := validId
        validReference := validReference, validTime := validTime, expectedState := expected.symm
        allowed := (mutationOperationTransitionAllowed_of_terminal _ _ terminal).mpr next.symm
        differs := fun same => differs same.2.symm, revisionText := revision.symm
        bounded := bounded, ordered := reads.updatedAt ▸ ordered, available := available }
  · rintro ⟨row, current, admitted, terminal⟩
    have reads := readOperation_some row current admitted.readable
    have next := (mutationOperationTransitionAllowed_of_terminal _ _ terminal).mp admitted.allowed
    exact ⟨row, current, admitted.member, admitted.addressed, admitted.readable, terminal,
      admitted.expectedState.symm, next.symm, fun same => admitted.differs ⟨next, same.symm⟩,
      admitted.revisionText.symm, reads.updatedAt ▸ admitted.ordered, admitted.validTime,
      admitted.bounded, admitted.validId, admitted.validReference, admitted.available⟩

theorem Transitioned.row_notMem {environment : Environment} {store : Store}
    {arguments : TransitionArguments} {row : MutationOperationRow} {current : MutationOperation}
    {outcome : Store × MutationOperationRepositoryResult}
    (transitioned : Transitioned environment store arguments row current outcome) :
    row ∉ outcome.1.operations := by
  rw [transitioned.updated]
  intro member
  rcases (mem_transitionedRows _ _ _ _ _).mp member with ⟨-, other⟩ | ⟨previous, -, -, same⟩
  · exact other rfl
  · have revision := congrArg MutationOperationRow.operationRevision same
    exact absurd revision (Nat.ne_of_lt (Nat.lt_succ_self _))

theorem transition_keepsTerminal_iff (environment : Environment) {store : Store} (valid : store.Valid)
    (arguments : TransitionArguments) :
    KeepsTerminal store (transition environment store arguments).1 ↔
      ¬ RewritesTerminal environment store arguments := by
  rw [rewritesTerminal_iff_admitted]
  constructor
  · rintro keeps ⟨row, current, admitted, terminal⟩
    have reads := readOperation_some row current admitted.readable
    exact (transition_of_admitted environment valid arguments row current admitted).row_notMem
      (keeps row admitted.member ⟨current.state, reads.state, terminal⟩)
  · intro excluded row member terminalRow
    rcases transition_cases environment store valid arguments with
      ⟨same, -⟩ | ⟨target, current, transitioned⟩
    · rwa [same]
    · rw [transitioned.updated]
      refine (mem_transitionedRows _ _ _ _ _).mpr (.inl ⟨member, ?_⟩)
      intro here
      have same := valid.row_unique member transitioned.member here
      subst same
      obtain ⟨state, named, terminal⟩ := terminalRow
      have reads := readOperation_some row current transitioned.readable
      have reached := mutationOperationStateName_injective _ _ (named.symm.trans reads.state)
      exact excluded ⟨row, current, transitioned.toTransitionAdmitted, reached ▸ terminal⟩

theorem step_keepsTerminal (store : Store) (request : Request) (valid : store.Valid)
    (admitted : ∀ arguments, request.call = .transition arguments →
      ¬ RewritesTerminal request.environment store arguments) :
    KeepsTerminal store (step store request).1 := by
  rcases step_effect store valid request with
    ⟨same, -⟩ | ⟨_, _, -, reserved⟩ | ⟨arguments, _, _, call, _⟩
  · rw [same]
    exact fun row member _ => member
  · rw [reserved.inserted]
    exact fun row member _ => List.mem_append_left _ member
  · simp only [step, call]
    exact (transition_keepsTerminal_iff request.environment valid arguments).mpr
      (admitted arguments call)

/-- In every reachable store a transition keeps the terminal records exactly when it is no terminal
rewrite, and a run without such rewrites keeps them from any point on. -/
theorem terminal_operations_kept_iff (requests : List Request) :
    (∀ environment arguments,
      KeepsTerminal (runStore requests) (transition environment (runStore requests) arguments).1 ↔
        ¬ RewritesTerminal environment (runStore requests) arguments) ∧
    (∀ later,
      (∀ earlier environment arguments rest,
        later = earlier ++ { environment, call := .transition arguments } :: rest →
        ¬ RewritesTerminal environment (runStore (requests ++ earlier)) arguments) →
      KeepsTerminal (runStore requests) (runStore (requests ++ later))) := by
  constructor
  · intro environment arguments
    exact transition_keepsTerminal_iff environment (runStore_valid requests) arguments
  · intro later admitted
    have split : ∀ earlier, runStore (requests ++ earlier) =
        Run.final step (runStore requests) earlier := fun earlier =>
      Run.final_append step {} requests earlier
    rw [split later]
    refine Run.final_relates step Store.Valid
      (fun store request => ∀ arguments, request.call = .transition arguments →
        ¬ RewritesTerminal request.environment store arguments)
      KeepsTerminal (fun _ _ member _ => member)
      (fun _ _ _ first second row member terminal => second row (first row member terminal) terminal)
      step_valid step_keepsTerminal (runStore requests) (runStore_valid requests) later ?_
    rintro earlier ⟨environment, call⟩ rest same arguments rfl
    rw [← split earlier]
    exact admitted earlier environment arguments rest same

def timerOperation : MutationOperation :=
  { operationId := text "op-1", idempotencyKey := text "idem-1", actorId := text "admin"
    backendId := text "vdr-1", backendGeneration := 1, resourceType := text "timer"
    resourceId := text "timer-1", expectedRevision := text "1", actionFamily := text "timer.update"
    requestFingerprint := text "sha256:req", requestedAt := 1000, updatedAt := 1000 }

def rejectedRun : List Request :=
  [{ environment := {}, call := .reserve timerOperation },
   { environment := {}
     call := .transition
      { operationId := text "op-1", expectedOperationRevision := text "1"
        expectedState := .accepted, nextState := .rejected
        resultReference := text "denied", updatedAt := 1010 } }]

def secondRejection (resultReference : Bytes) : TransitionArguments :=
  { operationId := text "op-1", expectedOperationRevision := text "2"
    expectedState := .rejected, nextState := .rejected
    resultReference := resultReference, updatedAt := 1020 }

def rejectedRow : MutationOperationRow :=
  { operationRow timerOperation with
    operationRevision := 2, state := text "rejected", resultReference := text "denied"
    updatedAt := 1010 }

theorem rejectedRun_operations : (runStore rejectedRun).operations = [rejectedRow] := by
  decide

theorem terminal_operation_rewritten :
    ¬ ∀ requests environment arguments,
      KeepsTerminal (runStore requests) (transition environment (runStore requests) arguments).1 := by
  intro keeps
  have kept := keeps rejectedRun {} (secondRejection (text "other")) rejectedRow
    (by simp [rejectedRun_operations]) ⟨.rejected, rfl, rfl⟩
  revert kept
  decide

theorem terminal_operations_kept_iff_repeated_rejection :
    KeepsTerminal (runStore rejectedRun)
      (runStore (rejectedRun ++
        [{ environment := {}, call := .transition (secondRejection (text "denied")) }])) := by
  refine (terminal_operations_kept_iff rejectedRun).2 _ ?_
  intro earlier environment arguments rest same
  cases earlier with
  | cons first others => simp at same
  | nil =>
    simp only [List.nil_append, List.cons.injEq, Request.mk.injEq, Call.transition.injEq] at same
    obtain ⟨⟨-, rfl⟩, -⟩ := same
    rintro ⟨row, current, member, -, readable, -, -, -, differs, -⟩
    rw [List.append_nil, rejectedRun_operations, List.mem_singleton] at member
    subst member
    exact differs (readOperation_some rejectedRow current readable).resultReference.symm

end VdrSuite.Operations
