import VdrSuite.Timers.NativeTimerBindingRepositoryProperties
import VdrSuite.Timers.TimerAssignmentOwnership

/-! Runs of the native timer binding repository: unique, monotone and atomic. -/

set_option autoImplicit false

namespace VdrSuite.Timers

open Library Library.Transaction Operations

variable {store next : NativeTimerBindingStore} {works : NativeTimerBindingStatement → Bool}

/-! ## Effects -/

def Whole (value : Bytes) : Prop := cString value = value

structure Rewrites (before after : NativeTimerBindingStore) (old new : NativeTimerBindingRecord) :
    Prop where
  present : old ∈ before.bindings
  rows : after.bindings = before.bindings.map fun row => if row = old then new else row
  kept : BindingKept old new
  revision : new.bindingRevision = old.bindingRevision + 1

def concerns (row : NativeTimerBindingRecord) (operation : MutationOperationRow) : Prop :=
  (operation.resourceType = text "NativeTimerBinding" ∧
    operation.resourceId = row.nativeTimerBindingId) ∨
  (operation.resourceType = text "TimerAssignment" ∧ operation.resourceId = row.timerAssignmentId)

/-- No operation on the binding or its assignment is under way, and the assignment has got the
generation of the binding. -/
structure PassivelyRefreshed (before after : NativeTimerBindingStore)
    (old new : NativeTimerBindingRecord) : Prop where
  finished : ∀ operation ∈ before.timers.operations, concerns old operation →
    ∀ state, operation.state = mutationOperationStateName state →
      mutationOperationStateTerminal state = true
  assignment : ∃ assignment ∈ after.timers.assignments,
    assignment.timerAssignmentId = old.timerAssignmentId ∧
    assignment.nativeTimerBindingId = old.nativeTimerBindingId ∧
    assignment.backendId = old.backendId ∧ assignment.state = .bound ∧
    assignment.backendGeneration = new.backendGeneration

structure AuthorizesRename (old : NativeTimerBindingRecord) (operationId : Bytes)
    (operation : MutationOperationRow) : Prop where
  identity : operation.operationId = operationId
  action : operation.actionFamily = text "timer.update"
  resource : operation.resourceType = text "NativeTimerBinding" ∧
    operation.resourceId = old.nativeTimerBindingId
  backend : operation.backendId = old.backendId ∧
    operation.backendGeneration = old.backendGeneration
  revision : operation.expectedRevision = decimal old.bindingRevision
  fingerprint : operation.expectedResourceFingerprint = old.observedFingerprint
  unfinished : ∃ state, operation.state = mutationOperationStateName state ∧
    mutationOperationStateTerminal state = false

theorem terminal_of_mem_names {state : MutationOperationState}
    (member : mutationOperationStateName state ∈ terminalStateNames) :
    mutationOperationStateTerminal state = true := by
  revert member
  cases state <;> decide

/-! ## Refusals -/

def Fails {Value : Type} (checks : Except NativeTimerBindingRepositoryResult Value) : Prop :=
  EndsWith (fun result => result.ok = false) checks

theorem fails_orStorageError {Value : Type} (found : Except Refusal Value) :
    Fails (orStorageError found) := by
  cases found with
  | error refusal => exact endsWith_error rfl
  | ok value => exact endsWith_ok value

theorem fails_refuseFound {status : NativeTimerBindingRepositoryStatus} (failed : status ≠ .ok)
    (found : Option NativeTimerBinding) : Fails (refuseFound status found) := by
  cases found with
  | none => exact endsWith_ok ()
  | some existing => exact endsWith_error (beq_eq_false_iff_ne.mpr failed)

theorem fails_refuseIf {condition : Bool} {refused : NativeTimerBindingRepositoryResult}
    (failed : refused.ok = false) : Fails (refuseIf condition refused) := by
  cases condition with
  | true => exact endsWith_error failed
  | false => exact endsWith_ok ()

theorem createChecks_fails (durable : NativeTimerBinding) (store : NativeTimerBindingStore) :
    Fails (createChecks works durable store) := by
  apply endsWith_bind (fails_orStorageError _)
  intro existing
  apply endsWith_bind (fails_refuseFound (by decide) existing)
  intro _
  apply endsWith_bind (fails_orStorageError _)
  intro existing
  apply endsWith_bind (fails_refuseFound (by decide) existing)
  intro _
  split
  · exact endsWith_bind (fails_orStorageError _) fun existing =>
      fails_refuseFound (by decide) existing
  · exact endsWith_ok ()

theorem passiveChecks_fails (current binding : NativeTimerBinding)
    (store : NativeTimerBindingStore) : Fails (passiveChecks works current binding store) := by
  apply endsWith_bind (fails_refuseIf rfl)
  intro _
  apply endsWith_bind (fails_refuseIf rfl)
  intro _
  exact fails_refuseIf rfl

theorem updateChecks_fails (binding : NativeTimerBinding) (expectedRevision : Bytes) (expected : Nat)
    (passive : Bool) (store : NativeTimerBindingStore) :
    Fails (updateChecks works binding expectedRevision expected passive store) := by
  apply endsWith_bind (fails_orStorageError _)
  intro found
  cases found with
  | none => exact endsWith_error rfl
  | some current =>
    apply endsWith_bind (fails_refuseIf rfl)
    intro _
    apply endsWith_bind (fails_refuseIf rfl)
    intro _
    apply endsWith_bind (fails_refuseIf rfl)
    intro _
    apply endsWith_bind (fails_refuseIf rfl)
    intro _
    have last : Fails (refuseIf (expected == int64Max) (bindingResult .conflict current) >>=
        fun _ => pure current) := endsWith_bind (fails_refuseIf rfl) fun _ => endsWith_ok _
    split
    · exact endsWith_bind (passiveChecks_fails current binding store) fun _ => last
    · exact last

theorem renameChecks_fails (binding : NativeTimerBinding) (expectedRevision : Bytes)
    (store : NativeTimerBindingStore) :
    Fails (renameChecks works binding expectedRevision store) := by
  apply endsWith_bind (fails_orStorageError _)
  intro found
  cases found with
  | none => exact endsWith_error rfl
  | some current =>
    apply endsWith_bind (fails_refuseIf rfl)
    intro _
    apply endsWith_bind (fails_refuseIf rfl)
    intro _
    apply endsWith_bind (fails_refuseIf rfl)
    intro _
    apply endsWith_bind (fails_refuseIf rfl)
    intro _
    exact endsWith_bind (fails_refuseIf rfl) fun _ => endsWith_ok _

/-! ## Creation -/

theorem writeBinding_ok {durable : NativeTimerBinding} {statement : Statement NativeTimerBindingStore}
    (ok : (writeBinding durable statement store).1.ok = true) :
    statement store = .ok (writeBinding durable statement store).2 := by
  unfold writeBinding at ok ⊢
  cases done : statement store with
  | error refusal =>
    rw [done] at ok
    cases ok
  | ok next => rfl

theorem timerAssignmentId_ne_nil {binding : NativeTimerBinding}
    (valid : nativeTimerBindingValid binding = true)
    (managed : managedOwnership binding.ownership = true) : binding.timerAssignmentId ≠ [] := by
  simp only [nativeTimerBindingValid, Bool.and_eq_true] at valid
  have shape := valid.1.1.2
  unfold assignmentOwnershipShapeValid at shape
  unfold managedOwnership at managed
  cases owned : binding.ownership with
  | managed =>
    rw [owned] at shape
    exact ((nonEmptyBounded_iff _ _).mp shape).1
  | adopted =>
    rw [owned] at shape
    exact ((nonEmptyBounded_iff _ _).mp shape).1
  | external =>
    rw [owned] at managed
    exact absurd managed (by decide)
  | orphanedManaged =>
    rw [owned] at managed
    exact absurd managed (by decide)
  | ambiguous =>
    rw [owned] at managed
    exact absurd managed (by decide)

theorem createBinding_cases (works : NativeTimerBindingStatement → Bool) (binding : NativeTimerBinding)
    (valid : BindingsValid store.bindings) :
    let outcome := createBinding works binding store
    (outcome.1.ok = false ∧ outcome.2 = store) ∨
      (outcome.1.ok = true ∧ BindingsValid outcome.2.bindings ∧
        outcome.2 =
          { store with bindings := store.bindings ++ [recordOfBinding binding 1] }) := by
  have failing : (bindingStatus .storageError).ok = false := rfl
  dsimp only
  unfold createBinding
  dsimp only
  split
  · exact .inl ⟨rfl, rfl⟩
  · next admitted =>
    rcases transaction_cases failing store with ⟨same, ok⟩ | ⟨same, failed⟩
    · rw [same]
      right
      refine ⟨ok, ?_⟩
      cases checked : createChecks works { binding with bindingRevision := text "1" } store with
      | error result =>
        simp only [checked, createChecks_fails _ store result checked] at ok
        cases ok
      | ok value =>
        simp only [checked] at ok ⊢
        obtain ⟨-, inserted⟩ := attempt_ok (writeBinding_ok ok)
        have durable :
            nativeTimerBindingValid { binding with bindingRevision := text "1" } = true := by
          simp only [Bool.or_eq_true, not_or, Bool.not_eq_true, Bool.not_eq_false'] at admitted
          exact admitted.2
        obtain ⟨next, nextValid⟩ := nativeBindingInsert_ok (show _ = decimal 1 from rfl)
          (timerAssignmentId_ne_nil durable) valid inserted
        exact ⟨nextValid, next⟩
    · exact .inl ⟨failed, same⟩

/-! ## Update -/

structure UpdateWritten (works : NativeTimerBindingStatement → Bool) (binding : NativeTimerBinding)
    (expectedRevision : Bytes) (passive : Bool) (before after : NativeTimerBindingStore)
    (old : NativeTimerBindingRecord) : Prop where
  checked : Overwritable works binding expectedRevision passive before old
  rows : after.bindings =
    before.bindings.map (observedRow binding old.bindingRevision (old.bindingRevision + 1))
  timers : passive = false → after.timers = before.timers
  refreshed : passive = true →
    refreshBoundAssignmentGeneration (works .selectBoundAssignment) (works .updateBoundAssignment)
      (bindingOfRecord old) binding.backendGeneration binding.lastObservedAt before.timers =
        .ok after.timers

theorem updateInTransaction_cases {binding : NativeTimerBinding} {expectedRevision : Bytes}
    {expected : Nat} {passive : Bool} (parsed : parseRevisionToken expectedRevision = some expected)
    (ok : (updateInTransaction works binding expectedRevision expected passive store).1.ok = true) :
    ∃ old, UpdateWritten works binding expectedRevision passive store
      (updateInTransaction works binding expectedRevision expected passive store).2 old := by
  unfold updateInTransaction at ok ⊢
  cases checks : updateChecks works binding expectedRevision expected passive store with
  | error result =>
    simp only [checks,
      updateChecks_fails binding expectedRevision expected passive store result checks] at ok
    cases ok
  | ok current =>
    obtain ⟨old, rfl, overwritable⟩ := updateChecks_ok checks
    obtain ⟨rfl, -, -⟩ := parseRevisionToken_decimal (overwritable.revision ▸ parsed)
    simp only [checks] at ok ⊢
    split at ok
    · cases ok
    · next durable =>
      rw [if_neg durable]
      cases done : attempt (works .update) (nativeBindingUpdate
          { binding with bindingRevision := decimal (old.bindingRevision + 1) }
          old.bindingRevision) store with
      | error refusal =>
        simp only [done] at ok
        cases ok
      | ok written =>
        simp only [done] at ok ⊢
        have canonical : ({ binding with
          bindingRevision := decimal (old.bindingRevision + 1) } : NativeTimerBinding).bindingRevision =
            decimal (old.bindingRevision + 1) := rfl
        obtain ⟨rfl, -⟩ := nativeBindingUpdate_ok canonical (attempt_ok done).2
        cases passive with
        | false => exact ⟨old, overwritable, rfl, fun _ => rfl, nofun⟩
        | true =>
          rw [if_pos rfl] at ok ⊢
          unfold refreshAssignment at ok ⊢
          cases refreshed : refreshBoundAssignmentGeneration (works .selectBoundAssignment)
              (works .updateBoundAssignment) (bindingOfRecord old) binding.backendGeneration
              binding.lastObservedAt store.timers with
          | error refusal =>
            simp only [refreshed] at ok
            cases ok
          | ok timers =>
            dsimp only
            exact ⟨old, overwritable, rfl, nofun, fun _ => refreshed⟩

theorem updateBinding_cases (works : NativeTimerBindingStatement → Bool)
    (binding : NativeTimerBinding) (expectedRevision : Bytes) (passive : Bool)
    (store : NativeTimerBindingStore) :
    let outcome := updateBinding works binding expectedRevision passive store
    (outcome.1.ok = false ∧ outcome.2 = store) ∨
      (outcome.1.ok = true ∧ binding.backendGeneration ≤ int64Max ∧
        nativeTimerBindingValid binding = true ∧
        ∃ old, UpdateWritten works binding expectedRevision passive store outcome.2 old) := by
  have failing : (bindingStatus .storageError).ok = false := rfl
  dsimp only
  unfold updateBinding
  split
  · exact .inl ⟨rfl, rfl⟩
  · next expected parsed =>
    split
    · exact .inl ⟨rfl, rfl⟩
    · next admitted =>
      simp only [Bool.or_eq_true, not_or, Bool.not_eq_true, Bool.not_eq_false',
        decide_eq_false_iff_not, Nat.not_lt] at admitted
      rcases transaction_cases failing store with ⟨same, ok⟩ | ⟨same, failed⟩
      · rw [same]
        exact .inr ⟨ok, admitted.1.2, admitted.2, updateInTransaction_cases parsed ok⟩
      · exact .inl ⟨failed, same⟩

/-! ## Verified renames -/

structure Renameable (binding : NativeTimerBinding) (expectedRevision : Bytes)
    (store : NativeTimerBindingStore) (row : NativeTimerBindingRecord) : Prop where
  present : row ∈ store.bindings
  identity : row.nativeTimerBindingId = binding.nativeTimerBindingId
  revision : expectedRevision = decimal row.bindingRevision
  renameable : renameable (bindingOfRecord row) binding = true
  authorized : ∃ operation ∈ store.timers.operations,
    authorizesRename binding.lastVerifiedOperationId (bindingOfRecord row) expectedRevision
      operation = true

theorem renameChecks_ok {binding current : NativeTimerBinding} {expectedRevision : Bytes}
    (checked : renameChecks works binding expectedRevision store = .ok current) :
    ∃ row, current = bindingOfRecord row ∧ Renameable binding expectedRevision store row := by
  unfold renameChecks at checked
  obtain ⟨found, selected, checked⟩ := of_orStorageError checked
  rcases selectOne_ok selected with ⟨rfl, -⟩ | ⟨row, present, named, -, rfl⟩
  · cases checked
  · dsimp only at checked
    obtain ⟨revision, checked⟩ := of_refuseIf checked
    obtain ⟨renameable, checked⟩ := of_refuseIf checked
    obtain ⟨-, checked⟩ := of_refuseIf checked
    obtain ⟨authorized, checked⟩ := of_refuseIf checked
    obtain ⟨-, checked⟩ := of_refuseIf checked
    rw [bne_eq_false_iff_eq] at revision
    rw [Bool.not_eq_false'] at renameable
    rw [Bool.or_eq_false_iff, Bool.not_eq_false', Bool.not_eq_false', List.any_eq_true] at authorized
    exact ⟨row, (Except.ok.inj checked).symm, present, beq_iff_eq.mp named, revision.symm, renameable,
      authorized.2⟩

def renamedRow (backendNativeTimerId : Bytes) (renamed row : NativeTimerBindingRecord) :
    NativeTimerBindingRecord :=
  if row = renamed then { renamed with backendNativeTimerId := cString backendNativeTimerId }
  else row

structure RenameWritten (binding : NativeTimerBinding) (expectedRevision : Bytes)
    (before after : NativeTimerBindingStore) (old renamed : NativeTimerBindingRecord) : Prop where
  checked : Renameable binding expectedRevision before old
  present : renamed ∈ before.bindings
  selected : renames (bindingOfRecord old) old.bindingRevision renamed = true
  rows : after.bindings =
    (before.bindings.map (renamedRow binding.backendNativeTimerId renamed)).map
      (observedRow binding old.bindingRevision (old.bindingRevision + 1))
  valid : BindingsValid after.bindings
  timers : after.timers = before.timers

theorem renameInTransaction_cases {binding : NativeTimerBinding} {expectedRevision : Bytes}
    {revision : Nat} (valid : BindingsValid store.bindings)
    (parsed : parseRevisionToken expectedRevision = some revision)
    (ok : (renameInTransaction works binding expectedRevision revision store).1.ok = true) :
    ∃ old renamed, RenameWritten binding expectedRevision store
      (renameInTransaction works binding expectedRevision revision store).2 old renamed := by
  unfold renameInTransaction at ok ⊢
  cases checks : renameChecks works binding expectedRevision store with
  | error result =>
    simp only [checks, renameChecks_fails binding expectedRevision store result checks] at ok
    cases ok
  | ok current =>
    obtain ⟨old, rfl, checked⟩ := renameChecks_ok checks
    obtain ⟨rfl, -, -⟩ := parseRevisionToken_decimal (checked.revision ▸ parsed)
    simp only [checks] at ok ⊢
    cases changed : attempt (works .rename) (renameNativeIdentity (bindingOfRecord old)
        old.bindingRevision binding.backendNativeTimerId) store with
    | error refusal =>
      simp only [changed] at ok
      cases ok
    | ok middle =>
      simp only [changed] at ok ⊢
      obtain ⟨middleValid, timers, renamed, present, selected, rows⟩ :=
        renameNativeIdentity_ok valid (attempt_ok changed).2
      have canonical : ({ binding with
        bindingRevision := decimal (old.bindingRevision + 1) } : NativeTimerBinding).bindingRevision =
          decimal (old.bindingRevision + 1) := rfl
      obtain ⟨next, -⟩ := nativeBindingUpdate_ok canonical (attempt_ok (writeBinding_ok ok)).2
      rw [next]
      refine ⟨old, renamed, checked, present, selected, ?_, middleValid.observed _ _ _, timers⟩
      dsimp only
      rw [rows]
      rfl

/-- A rename changes nothing, or it renames one binding and overwrites another, which are the same
unless texts are cut off. -/
theorem updateVerifiedNativeIdentity_cases (works : NativeTimerBindingStatement → Bool)
    (binding : NativeTimerBinding) (expectedRevision : Bytes) (valid : BindingsValid store.bindings) :
    let outcome := updateVerifiedNativeIdentity works binding expectedRevision store
    (outcome.1.ok = false ∧ outcome.2 = store) ∨
      (outcome.1.ok = true ∧
        ∃ old renamed, RenameWritten binding expectedRevision store outcome.2 old renamed) := by
  have failing : (bindingStatus .storageError).ok = false := rfl
  dsimp only
  unfold updateVerifiedNativeIdentity
  split
  · exact .inl ⟨rfl, rfl⟩
  · next revision parsed =>
    split
    · exact .inl ⟨rfl, rfl⟩
    · rcases transaction_cases failing store with ⟨same, ok⟩ | ⟨same, failed⟩
      · rw [same]
        exact .inr ⟨ok, renameInTransaction_cases valid parsed ok⟩
      · exact .inl ⟨failed, same⟩

/-! ## Runs -/

/-- A call of the repository, or a change of the other tables by other components. -/
inductive NativeTimerBindingCall
  | create (works : NativeTimerBindingStatement → Bool) (binding : NativeTimerBinding)
  | update (works : NativeTimerBindingStatement → Bool) (next : NativeTimerBinding)
      (expectedRevision : Bytes) (passiveFreshnessRefresh : Bool)
  | updateVerifiedNativeIdentity (works : NativeTimerBindingStatement → Bool)
      (next : NativeTimerBinding) (expectedRevision : Bytes)
  | environment (timers : TimerStore)

def performBindingCall (store : NativeTimerBindingStore) :
    NativeTimerBindingCall → NativeTimerBindingStore × NativeTimerBindingRepositoryStatus
  | .create works binding =>
    let (result, next) := createBinding works binding store
    (next, result.status)
  | .update works next expectedRevision passiveFreshnessRefresh =>
    let (result, next) := updateBinding works next expectedRevision passiveFreshnessRefresh store
    (next, result.status)
  | .updateVerifiedNativeIdentity works next expectedRevision =>
    let (result, next) := updateVerifiedNativeIdentity works next expectedRevision store
    (next, result.status)
  | .environment timers => ({ store with timers := timers }, .ok)

def reachedBindings (store : NativeTimerBindingStore) (calls : List NativeTimerBindingCall) :
    NativeTimerBindingStore :=
  Run.final performBindingCall store calls

/-- What a successful call has done. Texts that would be cut off are left out of account where they
are compared as C strings. -/
def WriteEffect (before after : NativeTimerBindingStore) : NativeTimerBindingCall → Prop
  | .create _ binding =>
    after = { before with bindings := before.bindings ++ [recordOfBinding binding 1] }
  | .update _ next _ passiveFreshnessRefresh =>
    ∃ old new, old.nativeTimerBindingId = next.nativeTimerBindingId ∧
      Rewrites before after old new ∧ new.backendNativeTimerId = old.backendNativeTimerId ∧
      (passiveFreshnessRefresh = false → after.timers = before.timers) ∧
      (passiveFreshnessRefresh = true →
        SameConfiguration old.observedState new.observedState ∧
        (Whole old.nativeTimerBindingId → Whole old.timerAssignmentId → Whole old.backendId →
          PassivelyRefreshed before after old new))
  | .updateVerifiedNativeIdentity _ next _ =>
    ∃ old ∈ before.bindings, old.nativeTimerBindingId = next.nativeTimerBindingId ∧
      after.timers = before.timers ∧
      (Whole old.nativeTimerBindingId → Whole old.backendId → Whole old.observedFingerprint →
        Whole next.lastVerifiedOperationId →
        ∃ new, Rewrites before after old new ∧
          ∃ operation ∈ before.timers.operations,
            AuthorizesRename old next.lastVerifiedOperationId operation)
  | .environment timers => after = { before with timers := timers }

theorem observedRow_eq {rows : List NativeTimerBindingRecord} (valid : BindingsValid rows)
    {binding : NativeTimerBinding} {old : NativeTimerBindingRecord} (present : old ∈ rows)
    (identity : old.nativeTimerBindingId = binding.nativeTimerBindingId) (revision : Nat) :
    rows.map (observedRow binding old.bindingRevision revision) =
      rows.map fun row => if row = old then withMutableColumns binding revision old else row := by
  apply List.map_congr_left
  intro row member
  unfold observedRow
  by_cases same : row = old
  · subst same
    rw [if_pos rfl, if_pos]
    rw [atRevision, identity, BEq.rfl, BEq.rfl, Bool.and_self]
  · rw [if_neg same, if_neg]
    intro selected
    rw [atRevision, Bool.and_eq_true, beq_iff_eq] at selected
    exact same (valid.eq_of_identity member present (selected.1.trans identity.symm))

theorem UpdateWritten.rewrites {binding : NativeTimerBinding} {expectedRevision : Bytes}
    {passive : Bool} {old : NativeTimerBindingRecord} (valid : BindingsValid store.bindings)
    (written : UpdateWritten works binding expectedRevision passive store next old) :
    Rewrites store next old (withMutableColumns binding (old.bindingRevision + 1) old) where
  present := written.checked.present
  rows := by rw [written.rows, observedRow_eq valid written.checked.present written.checked.identity]
  kept := ⟨rfl, rfl, rfl, rfl, written.checked.generation, written.checked.observed⟩
  revision := rfl

theorem fingerprint_of_valid {binding : NativeTimerBinding}
    (valid : nativeTimerBindingValid binding = true) :
    nativeTimerObservedStateValid binding.observedState = true ∧
      binding.observedFingerprint = nativeTimerObservedStateFingerprint binding.observedState := by
  simp only [nativeTimerBindingValid, Bool.and_eq_true, beq_iff_eq] at valid
  obtain ⟨⟨⟨⟨⟨⟨⟨-, state⟩, -⟩, -⟩, fingerprint⟩, -⟩, -⟩, -⟩ := valid
  exact ⟨state, fingerprint⟩

theorem UpdateWritten.sameConfiguration {binding : NativeTimerBinding} {expectedRevision : Bytes}
    {old : NativeTimerBindingRecord} (valid : nativeTimerBindingValid binding = true)
    (written : UpdateWritten works binding expectedRevision true store next old) :
    SameConfiguration old.observedState binding.observedState := by
  obtain ⟨refreshable, -⟩ := written.checked.passively rfl
  simp only [passivelyRefreshable, Bool.and_eq_true, Bool.or_eq_true, beq_iff_eq] at refreshable
  obtain ⟨oldState, oldFingerprint⟩ := fingerprint_of_valid written.checked.valid
  obtain ⟨-, fingerprint⟩ := fingerprint_of_valid valid
  rcases refreshable.1.1.1.1.2 with same | same
  · rw [oldFingerprint, fingerprint] at same
    exact (observedStateFingerprint_injective oldState same).2
  · exact sameConfiguration_of_sameExceptEventId same

theorem finished_of_no_open {old : NativeTimerBindingRecord}
    {operations : List MutationOperationRow} (identity : Whole old.nativeTimerBindingId)
    (assignment : Whole old.timerAssignmentId)
    (none : operations.any (openOperationOn (bindingOfRecord old)) = false) :
    ∀ operation ∈ operations, concerns old operation →
      ∀ state, operation.state = mutationOperationStateName state →
        mutationOperationStateTerminal state = true := by
  intro operation member concerned state named
  have closed := List.any_eq_false.mp none operation member
  apply terminal_of_mem_names
  rw [← named]
  by_contra running
  apply closed
  unfold Whole at identity assignment
  unfold openOperationOn bindingOfRecord
  rw [identity, assignment, Bool.and_eq_true, Bool.or_eq_true, Bool.and_eq_true, Bool.and_eq_true,
    beq_iff_eq, beq_iff_eq, beq_iff_eq, beq_iff_eq, Bool.not_eq_true', decide_eq_false_iff_not]
  exact ⟨concerned, running⟩

theorem UpdateWritten.passivelyRefreshed {binding : NativeTimerBinding} {expectedRevision : Bytes}
    {old : NativeTimerBindingRecord} (small : binding.backendGeneration ≤ int64Max)
    (written : UpdateWritten works binding expectedRevision true store next old)
    (identity : Whole old.nativeTimerBindingId) (assignment : Whole old.timerAssignmentId)
    (backend : Whole old.backendId) :
    PassivelyRefreshed store next old (withMutableColumns binding (old.bindingRevision + 1) old) := by
  obtain ⟨-, none⟩ := written.checked.passively rfl
  refine ⟨finished_of_no_open identity assignment none, ?_⟩
  obtain ⟨row, present, bound, -, moved⟩ :=
    refreshBoundAssignmentGeneration_ok (written.refreshed rfl)
  have generation : asInt64 binding.backendGeneration = binding.backendGeneration := if_pos small
  have fields := bound
  simp only [boundToBinding, bindingOfRecord, Bool.and_eq_true, beq_iff_eq] at fields
  obtain ⟨⟨⟨assignmentIs, bindingIs⟩, backendIs⟩, state⟩ := fields
  rcases moved with ⟨same, equal⟩ | changed
  · refine ⟨row, same ▸ present, assignmentIs.trans assignment, bindingIs.trans identity,
      backendIs.trans backend, state, ?_⟩
    rw [generation] at equal
    exact Int.ofNat.inj equal
  · have image : refreshRow (bindingOfRecord old) binding.backendGeneration binding.lastObservedAt
        row row = refreshedRow binding.backendGeneration binding.lastObservedAt row :=
      if_pos (by simp [bound])
    refine ⟨refreshedRow binding.backendGeneration binding.lastObservedAt row, ?_,
      assignmentIs.trans assignment, bindingIs.trans identity, backendIs.trans backend, state, rfl⟩
    rw [changed, afterUpdate_assignments]
    exact List.mem_map.mpr ⟨row, present, image⟩

theorem Rewrites.bindingsKept {old new : NativeTimerBindingRecord}
    (rewrites : Rewrites store next old new) : BindingsKept store next := by
  intro row member
  by_cases same : row = old
  · refine ⟨new, ?_, same ▸ rewrites.kept⟩
    rw [rewrites.rows]
    exact List.mem_map.mpr ⟨old, rewrites.present, if_pos rfl⟩
  · refine ⟨row, ?_, BindingKept.refl row⟩
    rw [rewrites.rows]
    exact List.mem_map.mpr ⟨row, member, if_neg same⟩

theorem renamedRow_others (backendNativeTimerId : Bytes) (renamed row : NativeTimerBindingRecord) :
    renamedRow backendNativeTimerId renamed row = { row with
      backendNativeTimerId := (renamedRow backendNativeTimerId renamed row).backendNativeTimerId } := by
  unfold renamedRow
  split
  · next same => rw [same]
  · rfl

theorem RenameWritten.bindingsKept {binding : NativeTimerBinding} {expectedRevision : Bytes}
    {old renamed : NativeTimerBindingRecord} (valid : BindingsValid store.bindings)
    (written : RenameWritten binding expectedRevision store next old renamed) :
    BindingsKept store next := by
  have checked := written.checked
  have renameable := checked.renameable
  simp only [Timers.renameable, bindingOfRecord, Bool.and_eq_true, beq_iff_eq] at renameable
  obtain ⟨⟨⟨⟨⟨⟨⟨⟨⟨⟨-, generation⟩, observed⟩, -⟩, -⟩, -⟩, -⟩, -⟩, -⟩, -⟩, -⟩ := renameable
  intro row member
  refine ⟨observedRow binding old.bindingRevision (old.bindingRevision + 1)
    (renamedRow binding.backendNativeTimerId renamed row), ?_, ?_⟩
  · rw [written.rows, List.map_map]
    exact List.mem_map_of_mem member
  · rw [renamedRow_others]
    unfold observedRow
    split
    · next selected =>
      rw [atRevision, Bool.and_eq_true, beq_iff_eq] at selected
      have same : row = old := valid.eq_of_identity member checked.present
        (selected.1.trans checked.identity.symm)
      refine ⟨rfl, rfl, rfl, rfl, ?_, ?_⟩
      · rw [same, generation]
        exact Nat.le_refl _
      · rw [same]
        exact of_decide_eq_true observed
    · exact ⟨rfl, rfl, rfl, rfl, Nat.le_refl _, Int.le_refl _⟩

/-- A rename of texts that are not cut off rewrites the binding that an update authorizes. -/
theorem RenameWritten.rewrites {binding : NativeTimerBinding} {expectedRevision : Bytes}
    {old renamed : NativeTimerBindingRecord} (valid : BindingsValid store.bindings)
    (written : RenameWritten binding expectedRevision store next old renamed)
    (identity : Whole old.nativeTimerBindingId) (backend : Whole old.backendId)
    (fingerprint : Whole old.observedFingerprint)
    (operationId : Whole binding.lastVerifiedOperationId) :
    ∃ new, Rewrites store next old new ∧ ∃ operation ∈ store.timers.operations,
      AuthorizesRename old binding.lastVerifiedOperationId operation := by
  have checked := written.checked
  have selected := written.selected
  simp only [renames, atRevision, bindingOfRecord, Bool.and_eq_true, beq_iff_eq] at selected
  have same : renamed = old := valid.eq_of_identity written.present checked.present
    (selected.1.1.trans identity)
  subst same
  have renameable := checked.renameable
  simp only [Timers.renameable, bindingOfRecord, Bool.and_eq_true, beq_iff_eq] at renameable
  obtain ⟨⟨⟨⟨⟨⟨⟨⟨⟨⟨-, generation⟩, observed⟩, -⟩, -⟩, -⟩, -⟩, -⟩, -⟩, -⟩, -⟩ := renameable
  refine ⟨withMutableColumns binding (renamed.bindingRevision + 1)
      { renamed with backendNativeTimerId := cString binding.backendNativeTimerId },
    ⟨checked.present, ?_, ⟨rfl, rfl, rfl, rfl, generation.le, of_decide_eq_true observed⟩, rfl⟩, ?_⟩
  · rw [written.rows, List.map_map]
    apply List.map_congr_left
    intro row member
    dsimp only [Function.comp_apply, observedRow, renamedRow]
    by_cases equal : row = renamed
    · rw [if_pos equal, if_pos equal, if_pos]
      simp only [atRevision, checked.identity, BEq.rfl, Bool.and_self]
    · rw [if_neg equal, if_neg equal, if_neg]
      intro chosen
      rw [atRevision, Bool.and_eq_true, beq_iff_eq] at chosen
      exact equal (valid.eq_of_identity member checked.present
        (chosen.1.trans checked.identity.symm))
  · obtain ⟨operation, member, authorized⟩ := checked.authorized
    have revision : cString expectedRevision = decimal renamed.bindingRevision := by
      rw [checked.revision, (cString_eq_self_iff _).mpr (notMem_decimal _ 0 (by decide))]
    unfold Whole at identity backend fingerprint operationId
    simp only [authorizesRename, bindingOfRecord, Bool.and_eq_true, Bool.or_eq_true, beq_iff_eq,
      identity, backend, fingerprint, operationId, revision] at authorized
    obtain ⟨⟨⟨⟨⟨⟨⟨⟨named, action⟩, type⟩, resource⟩, backend⟩, generation⟩, revision⟩, fingerprint⟩,
      state⟩ := authorized
    refine ⟨operation, member, named, action, ⟨type, resource⟩, ⟨backend, generation⟩, revision,
      fingerprint, ?_⟩
    rcases state with executed | unknown
    · exact ⟨.executedUnverified, executed, rfl⟩
    · exact ⟨.outcomeUnknown, unknown, rfl⟩

/-! ## The store over all runs -/

/-- A call of the repository that fails changes nothing; one that succeeds has its effect, and keeps
the keys and every binding. -/
theorem performBindingCall_cases (valid : BindingsValid store.bindings)
    (call : NativeTimerBindingCall) :
    let outcome := performBindingCall store call
    (outcome.2 ≠ .ok ∧ outcome.1 = store) ∨
      (outcome.2 = .ok ∧ WriteEffect store outcome.1 call ∧ BindingsValid outcome.1.bindings ∧
        BindingsKept store outcome.1) := by
  cases call with
  | create works binding =>
    rcases createBinding_cases works binding valid with ⟨failed, same⟩ | ⟨ok, nextValid, next⟩
    · exact .inl ⟨beq_eq_false_iff_ne.mp failed, same⟩
    · refine .inr ⟨beq_iff_eq.mp ok, next, nextValid, fun row member => ⟨row, ?_, .refl row⟩⟩
      dsimp only [performBindingCall]
      rw [next]
      exact List.mem_append_left _ member
  | update works binding expectedRevision passive =>
    rcases updateBinding_cases works binding expectedRevision passive store with
      ⟨failed, same⟩ | ⟨ok, small, bindingValid, old, written⟩
    · exact .inl ⟨beq_eq_false_iff_ne.mp failed, same⟩
    · have rewrites := written.rewrites valid
      refine .inr ⟨beq_iff_eq.mp ok, ⟨old, _, written.checked.identity, rewrites, rfl,
        written.timers, ?_⟩, ?_, rewrites.bindingsKept⟩
      · rintro rfl
        exact ⟨written.sameConfiguration bindingValid, written.passivelyRefreshed small⟩
      · have rows := written.rows
        dsimp only [performBindingCall]
        rw [rows]
        exact valid.observed _ _ _
  | updateVerifiedNativeIdentity works binding expectedRevision =>
    rcases updateVerifiedNativeIdentity_cases works binding expectedRevision valid with
      ⟨failed, same⟩ | ⟨ok, old, renamed, written⟩
    · exact .inl ⟨beq_eq_false_iff_ne.mp failed, same⟩
    · exact .inr ⟨beq_iff_eq.mp ok, ⟨old, written.checked.present, written.checked.identity,
        written.timers, written.rewrites valid⟩, written.valid, written.bindingsKept valid⟩
  | environment timers => exact .inr ⟨rfl, rfl, valid, BindingsKept.refl store⟩

theorem reachedBindings_valid (valid : BindingsValid store.bindings)
    (calls : List NativeTimerBindingCall) :
    BindingsValid (reachedBindings store calls).bindings ∧
      BindingsKept store (reachedBindings store calls) := by
  induction calls generalizing store with
  | nil => exact ⟨valid, BindingsKept.refl store⟩
  | cons call calls ih =>
    have step : BindingsValid (performBindingCall store call).1.bindings ∧
        BindingsKept store (performBindingCall store call).1 := by
      rcases performBindingCall_cases valid call with ⟨-, same⟩ | ⟨-, -, nextValid, kept⟩
      · rw [same]
        exact ⟨valid, BindingsKept.refl store⟩
      · exact ⟨nextValid, kept⟩
    obtain ⟨laterValid, laterKept⟩ := ih step.1
    exact ⟨laterValid, step.2.trans laterKept⟩

theorem BindingsValid.unique {rows : List NativeTimerBindingRecord} (valid : BindingsValid rows)
    {first second : NativeTimerBindingRecord} (firstMember : first ∈ rows)
    (secondMember : second ∈ rows) :
    (first.backendId = second.backendId →
      first.backendNativeTimerId = second.backendNativeTimerId → first = second) ∧
    (managedOwnership first.ownership = true → managedOwnership second.ownership = true →
      first.timerAssignmentId = second.timerAssignmentId → first = second) := by
  constructor
  · intro backend native
    apply valid.native first firstMember second secondMember
      (first.backendId, first.backendNativeTimerId) rfl
    rw [nativeIdentityIndex, backend, native]
  · intro firstManaged secondManaged assignment
    apply valid.managed first firstMember second secondMember first.timerAssignmentId
      (if_pos firstManaged)
    rw [managedAssignmentIndex, if_pos secondManaged, assignment]

/-- In every run, a native timer has one binding at most and so has a managed assignment; no binding
leaves its backend, assignment or ownership or goes back in generation or time; and a call either
fails and changes nothing or has its effect. -/
theorem native_timer_binding_store (earlier later : List NativeTimerBindingCall) :
    let before := reachedBindings {} earlier
    let after := reachedBindings before later
    (∀ first ∈ after.bindings, ∀ second ∈ after.bindings,
      (first.backendId = second.backendId →
        first.backendNativeTimerId = second.backendNativeTimerId → first = second) ∧
      (managedOwnership first.ownership = true → managedOwnership second.ownership = true →
        first.timerAssignmentId = second.timerAssignmentId → first = second)) ∧
    BindingsKept before after ∧
    ∀ call, let outcome := performBindingCall after call
      (outcome.2 ≠ .ok ∧ outcome.1 = after) ∨
        (outcome.2 = .ok ∧ WriteEffect after outcome.1 call) := by
  intro before after
  have empty : BindingsValid ({} : NativeTimerBindingStore).bindings :=
    ⟨List.nodup_nil, Table.unique_nil _, Table.unique_nil _⟩
  obtain ⟨beforeValid, -⟩ := reachedBindings_valid empty earlier
  obtain ⟨valid, kept⟩ := reachedBindings_valid beforeValid later
  refine ⟨fun first firstMember second secondMember => valid.unique firstMember secondMember, kept,
    fun call => ?_⟩
  rcases performBindingCall_cases valid call with failed | ⟨ok, effect, -, -⟩
  · exact .inl failed
  · exact .inr ⟨ok, effect⟩

/-! ## A passive refresh that changes a spelling -/

def sampleBinding (startTime : Bytes) : NativeTimerBinding :=
  let state : NativeTimerObservedState :=
    { channelId := text "c"
      weekdays := text "-------"
      startTime := startTime
      endTime := text "1000" }
  { nativeTimerBindingId := text "b"
    backendId := text "v"
    backendGeneration := 1
    backendNativeTimerId := text "n"
    timerAssignmentId := text "a"
    ownership := .managed
    observedFingerprint := nativeTimerObservedStateFingerprint state
    observedState := state
    lastObservedAt := 1 }

def sampleTimers : TimerStore :=
  { assignments := [{ assignmentColumns (sampleOwner (text "a")) 1 with
      backendId := text "v"
      assignmentEpoch := 1
      state := .bound
      nativeTimerBindingId := text "b"
      updatedAt := 1 }]
    intents := [⟨text "i", 1, true, text "active"⟩] }

def OnlyEventsChange (before after : NativeTimerBindingStore) : Prop :=
  ∀ old ∈ before.bindings, ∀ new ∈ after.bindings,
    new.nativeTimerBindingId = old.nativeTimerBindingId →
    new.observedState = { old.observedState with eventId := new.observedState.eventId }

def startTimes (store : NativeTimerBindingStore) : List (Bytes × Bytes) :=
  store.bindings.map fun row => (row.nativeTimerBindingId, row.observedState.startTime)

theorem OnlyEventsChange.startTime {before after : NativeTimerBindingStore} {identity first second :
    Bytes} (only : OnlyEventsChange before after) (earlier : startTimes before = [(identity, first)])
    (later : startTimes after = [(identity, second)]) : second = first := by
  obtain ⟨old, oldRows, oldIs⟩ := List.map_eq_singleton_iff.mp earlier
  obtain ⟨new, newRows, newIs⟩ := List.map_eq_singleton_iff.mp later
  rw [Prod.mk.injEq] at oldIs newIs
  have same := only old (oldRows ▸ List.mem_singleton_self old) new
    (newRows ▸ List.mem_singleton_self new) (newIs.1.trans oldIs.1.symm)
  rw [← newIs.2, same, ← oldIs.2]

/-- A passive refresh may write the start time of the observation, which is the same clock time under
another spelling: not only the event changes. -/
theorem passive_refresh_respells :
    ¬ ∀ calls works next expectedRevision,
      (updateBinding works next expectedRevision true (reachedBindings {} calls)).1.ok = true →
      OnlyEventsChange (reachedBindings {} calls)
        (updateBinding works next expectedRevision true (reachedBindings {} calls)).2 := by
  intro unchanged
  have only := unchanged
    [.create (fun _ => true) (sampleBinding (text "900")), .environment sampleTimers]
    (fun _ => true)
    { sampleBinding (text "0900") with bindingRevision := text "1", lastObservedAt := 2 } (text "1")
    (by decide +kernel)
  have same : text "0900" = text "900" := only.startTime
    (show startTimes _ = [(text "b", text "900")] by decide +kernel)
    (show startTimes _ = [(text "b", text "0900")] by decide +kernel)
  exact absurd same (by decide)

end VdrSuite.Timers
