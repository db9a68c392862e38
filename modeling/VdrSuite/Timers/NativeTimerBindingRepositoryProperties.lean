import VdrSuite.Timers.NativeTimerBindingRepository

/-! What the calls of the native timer binding repository write, over every run of them. -/

set_option autoImplicit false

namespace VdrSuite.Timers

open Library Library.Transaction Operations

variable {store next : NativeTimerBindingStore} {row : NativeTimerBindingRecord}

/-! ## Keys -/

def nativeIdentityIndex (row : NativeTimerBindingRecord) : Option (Bytes × Bytes) :=
  some (row.backendId, row.backendNativeTimerId)

def managedAssignmentIndex (row : NativeTimerBindingRecord) : Option Bytes :=
  if managedOwnership row.ownership then some row.timerAssignmentId else none

structure BindingsValid (rows : List NativeTimerBindingRecord) : Prop where
  identified : Table.Keyed NativeTimerBindingRecord.nativeTimerBindingId rows
  native : Table.Unique nativeIdentityIndex rows
  managed : Table.Unique managedAssignmentIndex rows

theorem BindingsValid.eq_of_identity {rows : List NativeTimerBindingRecord}
    (valid : BindingsValid rows) {first second : NativeTimerBindingRecord} (firstMember : first ∈ rows)
    (secondMember : second ∈ rows)
    (same : first.nativeTimerBindingId = second.nativeTimerBindingId) : first = second :=
  List.inj_on_of_nodup_map valid.identified firstMember secondMember same

/-- A binding under its identity, backend, assignment and ownership, with newer observations. -/
structure BindingKept (old new : NativeTimerBindingRecord) : Prop where
  identity : new.nativeTimerBindingId = old.nativeTimerBindingId
  backend : new.backendId = old.backendId
  assignment : new.timerAssignmentId = old.timerAssignmentId
  ownership : new.ownership = old.ownership
  generation : old.backendGeneration ≤ new.backendGeneration
  observed : old.lastObservedAt ≤ new.lastObservedAt

theorem BindingKept.refl (row : NativeTimerBindingRecord) : BindingKept row row :=
  ⟨rfl, rfl, rfl, rfl, Nat.le_refl _, Int.le_refl _⟩

theorem BindingKept.trans {first second third : NativeTimerBindingRecord}
    (earlier : BindingKept first second) (later : BindingKept second third) :
    BindingKept first third where
  identity := later.identity.trans earlier.identity
  backend := later.backend.trans earlier.backend
  assignment := later.assignment.trans earlier.assignment
  ownership := later.ownership.trans earlier.ownership
  generation := Nat.le_trans earlier.generation later.generation
  observed := Int.le_trans earlier.observed later.observed

def BindingsKept (before after : NativeTimerBindingStore) : Prop :=
  ∀ old ∈ before.bindings, ∃ new ∈ after.bindings, BindingKept old new

theorem BindingsKept.refl (store : NativeTimerBindingStore) : BindingsKept store store :=
  fun old member => ⟨old, member, BindingKept.refl old⟩

theorem BindingsKept.trans {first second third : NativeTimerBindingStore}
    (earlier : BindingsKept first second) (later : BindingsKept second third) :
    BindingsKept first third := by
  intro old member
  obtain ⟨middle, middleMember, kept⟩ := earlier old member
  obtain ⟨new, newMember, keptOn⟩ := later middle middleMember
  exact ⟨new, newMember, kept.trans keptOn⟩

/-! ## Statements -/

theorem selectOne_ok {carriedOut : Bool} {selected : NativeTimerBindingRecord → Bool}
    {found : Option NativeTimerBinding} (done : selectOne carriedOut selected store = .ok found) :
    (found = none ∧ ∀ row ∈ store.bindings, selected row = false) ∨
      ∃ row ∈ store.bindings, selected row = true ∧
        nativeTimerBindingValid (bindingOfRecord row) = true ∧
        found = some (bindingOfRecord row) := by
  unfold selectOne at done
  split at done
  · cases done
  · split at done
    · next absent =>
      cases done
      exact .inl ⟨rfl, fun row member => eq_false_of_ne_true (List.find?_eq_none.mp absent row member)⟩
    · next row found =>
      unfold readBinding at done
      split at done
      · cases done
      · next binding read =>
        cases done
        split at read
        · cases read
        · split at read
          · next valid =>
            cases read
            exact .inr ⟨row, List.mem_of_find?_eq_some found, List.find?_some found, valid, rfl⟩
          · cases read

theorem of_orStorageError {Value Result : Type} {found : Except Refusal Value}
    {rest : Value → Except NativeTimerBindingRepositoryResult Result} {result : Result}
    (done : (orStorageError found >>= rest) = .ok result) :
    ∃ value, found = .ok value ∧ rest value = .ok result := by
  cases found with
  | error refusal => cases done
  | ok value => exact ⟨value, rfl, done⟩

theorem bindRevision_decimal {binding : NativeTimerBinding} {revision number : Nat}
    (canonical : binding.bindingRevision = decimal revision)
    (bound : bindRevision binding = some number) : number = revision := by
  unfold bindRevision at bound
  split at bound
  · cases bound
  · rw [canonical] at bound
    exact (parseRevisionToken_decimal bound).1

/-- The change of an `UPDATE`, which selects one row. -/
def observedRow (binding : NativeTimerBinding) (expected revision : Nat)
    (row : NativeTimerBindingRecord) : NativeTimerBindingRecord :=
  if atRevision binding.nativeTimerBindingId expected row then withMutableColumns binding revision row
  else row

theorem nativeBindingUpdate_ok {binding : NativeTimerBinding} {expected revision : Nat}
    (canonical : binding.bindingRevision = decimal revision)
    (done : nativeBindingUpdate binding expected store = .ok next) :
    next = { store with bindings := store.bindings.map (observedRow binding expected revision) } ∧
      ∃ row ∈ store.bindings, atRevision binding.nativeTimerBindingId expected row = true := by
  unfold nativeBindingUpdate at done
  split at done
  · cases done
  · next number bound =>
    cases bindRevision_decimal canonical bound
    split at done
    · next present =>
      cases done
      exact ⟨rfl, List.any_eq_true.mp present⟩
    · cases done

theorem observedRow_keys (binding : NativeTimerBinding) (expected revision : Nat)
    (row : NativeTimerBindingRecord) :
    (observedRow binding expected revision row).nativeTimerBindingId = row.nativeTimerBindingId ∧
      nativeIdentityIndex (observedRow binding expected revision row) = nativeIdentityIndex row ∧
      managedAssignmentIndex (observedRow binding expected revision row) =
        managedAssignmentIndex row := by
  unfold observedRow
  split
  · exact ⟨rfl, rfl, rfl⟩
  · exact ⟨rfl, rfl, rfl⟩

theorem BindingsValid.observed {rows : List NativeTimerBindingRecord} (valid : BindingsValid rows)
    (binding : NativeTimerBinding) (expected revision : Nat) :
    BindingsValid (rows.map (observedRow binding expected revision)) where
  identified := Table.keyed_map _ valid.identified fun row _ =>
    (observedRow_keys binding expected revision row).1
  native := Table.unique_map valid.native fun row _ =>
    (observedRow_keys binding expected revision row).2.1
  managed := Table.unique_map valid.managed fun row _ =>
    (observedRow_keys binding expected revision row).2.2

theorem nativeBindingInsert_ok {binding : NativeTimerBinding} {revision : Nat}
    (canonical : binding.bindingRevision = decimal revision)
    (shaped : managedOwnership binding.ownership = true → binding.timerAssignmentId ≠ [])
    (valid : BindingsValid store.bindings)
    (done : nativeBindingInsert binding store = .ok next) :
    next = { store with bindings := store.bindings ++ [recordOfBinding binding revision] } ∧
      BindingsValid next.bindings := by
  unfold nativeBindingInsert at done
  split at done
  · cases done
  · next number bound =>
    cases bindRevision_decimal canonical bound
    dsimp only at done
    split at done
    · cases done
    · next free =>
      cases done
      have apart (other : NativeTimerBindingRecord) (member : other ∈ store.bindings) :
          bindingsClash (recordOfBinding binding revision) other = false :=
        eq_false_of_ne_true (List.any_eq_false.mp (eq_false_of_ne_true free) other member)
      refine ⟨rfl, ?_, ?_, ?_⟩
      · unfold Table.Keyed
        rw [List.map_append, List.map_singleton, List.nodup_append]
        refine ⟨valid.identified, by simp, ?_⟩
        rintro identity member _ same rfl
        obtain ⟨other, present, named⟩ := List.mem_map.mp member
        have distinct := apart other present
        simp only [bindingsClash, sameId, Bool.or_eq_false_iff, beq_eq_false_iff_ne] at distinct
        exact distinct.1.1 (named.trans (List.mem_singleton.mp same))
      · apply Table.unique_append valid.native
        rintro other member _ ⟨⟩ indexed
        have distinct := apart other member
        simp only [bindingsClash, sameNativeIdentity, Bool.or_eq_false_iff, Bool.and_eq_false_imp,
          beq_iff_eq, beq_eq_false_iff_ne] at distinct
        rw [nativeIdentityIndex, Option.some.injEq, Prod.mk.injEq] at indexed
        exact distinct.1.2 indexed.1 indexed.2
      · apply Table.unique_append valid.managed
        intro other member value indexed otherIndexed
        have distinct := apart other member
        unfold managedAssignmentIndex at indexed otherIndexed
        split at indexed
        · next managed =>
          cases indexed
          split at otherIndexed
          · next otherManaged =>
            have named : (recordOfBinding binding revision).timerAssignmentId.isEmpty = false :=
              List.isEmpty_eq_false_iff.mpr (shaped managed)
            have clashing : managedForAssignment
                (recordOfBinding binding revision).timerAssignmentId other = true := by
              rw [managedForAssignment, Bool.and_eq_true, beq_iff_eq]
              exact ⟨Option.some.inj otherIndexed, otherManaged⟩
            simp [bindingsClash, named, managed, clashing] at distinct
          · cases otherIndexed
        · cases indexed

theorem renameNativeIdentity_ok {current : NativeTimerBinding} {revision : Nat}
    {backendNativeTimerId : Bytes} (valid : BindingsValid store.bindings)
    (done : renameNativeIdentity current revision backendNativeTimerId store = .ok next) :
    BindingsValid next.bindings ∧ next.timers = store.timers ∧
      ∃ row ∈ store.bindings, renames current revision row = true ∧
        next.bindings = store.bindings.map fun other =>
          if other = row then { row with backendNativeTimerId := cString backendNativeTimerId }
          else other := by
  unfold renameNativeIdentity at done
  split at done
  · cases done
  · next row found =>
    have present := List.mem_of_find?_eq_some found
    have selected := List.find?_some found
    have only (other : NativeTimerBindingRecord) (member : other ∈ store.bindings)
        (chosen : renames current revision other = true) : other = row := by
      simp only [renames, atRevision, Bool.and_eq_true, beq_iff_eq] at chosen selected
      exact valid.eq_of_identity member present (chosen.1.1.trans selected.1.1.symm)
    have rows : Table.update (renames current revision)
        (fun row => { row with backendNativeTimerId := cString backendNativeTimerId })
        store.bindings = store.bindings.map fun other =>
          if other = row then { row with backendNativeTimerId := cString backendNativeTimerId }
          else other := by
      apply List.map_congr_left
      intro other member
      by_cases same : other = row
      · rw [same, if_pos selected, if_pos rfl]
      · rw [if_neg same, if_neg (fun chosen => same (only other member chosen))]
    split at done
    · cases done
    · next free =>
      cases done
      dsimp only
      rw [rows]
      refine ⟨⟨?_, ?_, ?_⟩, rfl, row, present, selected, rfl⟩
      · apply Table.keyed_map _ valid.identified
        intro other _
        split
        · next same => rw [same]
        · rfl
      · apply Table.unique_change valid.native (fun other _ different => if_neg different)
        intro other member different value indexed otherIndexed
        rw [if_pos rfl] at indexed
        have distinct := List.any_eq_false.mp (eq_false_of_ne_true free) other member
        rw [nativeIdentityIndex] at indexed otherIndexed
        cases indexed
        rw [Option.some.injEq, Prod.mk.injEq] at otherIndexed
        apply distinct
        simp only [sameNativeIdentity, sameId, otherIndexed, BEq.rfl, Bool.and_true,
          Bool.not_eq_true', beq_eq_false_iff_ne]
        exact fun identity => different (valid.eq_of_identity member present identity)
      · apply Table.unique_map valid.managed
        intro other _
        split
        · next same => rw [same]; rfl
        · rfl

/-! ## Checks -/

variable {works : NativeTimerBindingStatement → Bool}

structure Overwritable (works : NativeTimerBindingStatement → Bool) (next : NativeTimerBinding)
    (expectedRevision : Bytes) (passive : Bool) (store : NativeTimerBindingStore)
    (row : NativeTimerBindingRecord) : Prop where
  present : row ∈ store.bindings
  valid : nativeTimerBindingValid (bindingOfRecord row) = true
  identity : row.nativeTimerBindingId = next.nativeTimerBindingId
  revision : expectedRevision = decimal row.bindingRevision
  backend : next.backendId = row.backendId
  native : next.backendNativeTimerId = row.backendNativeTimerId
  assignment : next.timerAssignmentId = row.timerAssignmentId
  ownership : next.ownership = row.ownership
  generation : row.backendGeneration ≤ next.backendGeneration
  observed : row.lastObservedAt ≤ next.lastObservedAt
  passively : passive = true → passivelyRefreshable (bindingOfRecord row) next = true ∧
    store.timers.operations.any (openOperationOn (bindingOfRecord row)) = false

theorem updateChecks_ok {binding current : NativeTimerBinding} {expectedRevision : Bytes}
    {expected : Nat} {passive : Bool}
    (checked : updateChecks works binding expectedRevision expected passive store = .ok current) :
    ∃ row, current = bindingOfRecord row ∧
      Overwritable works binding expectedRevision passive store row := by
  unfold updateChecks at checked
  obtain ⟨found, selected, checked⟩ := of_orStorageError checked
  rcases selectOne_ok selected with ⟨rfl, -⟩ | ⟨row, present, named, valid, rfl⟩
  · cases checked
  · dsimp only at checked
    obtain ⟨matching, checked⟩ := of_refuseIf checked
    obtain ⟨immutable, checked⟩ := of_refuseIf checked
    obtain ⟨generation, checked⟩ := of_refuseIf checked
    obtain ⟨observed, checked⟩ := of_refuseIf checked
    have passively : passive = true → passivelyRefreshable (bindingOfRecord row) binding = true ∧
        store.timers.operations.any (openOperationOn (bindingOfRecord row)) = false := by
      rintro rfl
      rw [if_pos rfl] at checked
      obtain ⟨⟨⟩, passed, -⟩ := of_bind checked
      obtain ⟨refreshable, passed⟩ := of_refuseIf passed
      obtain ⟨-, passed⟩ := of_refuseIf passed
      unfold refuseIf at passed
      split at passed
      · cases passed
      · next free =>
        rw [Bool.not_eq_false'] at refreshable
        exact ⟨refreshable, eq_false_of_ne_true free⟩
    have result : current = bindingOfRecord row := by
      split at checked
      · obtain ⟨⟨⟩, -, checked⟩ := of_bind checked
        obtain ⟨-, checked⟩ := of_refuseIf checked
        exact (Except.ok.inj checked).symm
      · obtain ⟨-, checked⟩ := of_refuseIf checked
        exact (Except.ok.inj checked).symm
    simp only [Bool.or_eq_false_iff, bne_eq_false_iff_eq] at immutable
    rw [Bool.not_eq_false', nativeTimerBindingRevisionMatches, Bool.and_eq_true,
      beq_iff_eq] at matching
    rw [decide_eq_false_iff_not] at generation observed
    exact ⟨row, result, present, valid, beq_iff_eq.mp named, matching.2, immutable.1.1.1, immutable.1.1.2,
      immutable.1.2, immutable.2, Nat.le_of_not_lt generation, Int.not_lt.mp observed, passively⟩

end VdrSuite.Timers
