import VdrSuite.Timers.BoundAssignmentRefresh
import VdrSuite.Timers.TimerAssignmentOwnership

/-! The set revision of an intent tells, in every run, whether its assignments have been written. -/

set_option autoImplicit false

namespace VdrSuite.Timers

open Library Library.Transaction

variable {store next : TimerStore} {row : TimerAssignmentRow} {timerIntentId : Bytes}

/-! ## Set revisions -/

def assignmentsOf (timerIntentId : Bytes) (store : TimerStore) : List TimerAssignmentRow :=
  store.assignments.filter fun row => row.timerIntentId == timerIntentId

def setRevision (timerIntentId : Bytes) (store : TimerStore) : Nat :=
  (store.setRevisions timerIntentId).getD 0

def Identified (store : TimerStore) : Prop :=
  (store.assignments.map TimerAssignmentRow.timerAssignmentId).Nodup

theorem Identified.eq_of_identity (identified : Identified store) {first second : TimerAssignmentRow}
    (firstMember : first ∈ store.assignments) (secondMember : second ∈ store.assignments)
    (same : first.timerAssignmentId = second.timerAssignmentId) : first = second :=
  List.inj_on_of_nodup_map identified firstMember secondMember same

theorem setRevision_advance (timerIntentId other : Bytes) (store : TimerStore) :
    setRevision other (advanceSetRevision timerIntentId store) =
      if other = timerIntentId then setRevision timerIntentId store + 1
      else setRevision other store := by
  simp only [setRevision, advanceSetRevision]
  by_cases same : other = timerIntentId
  · rw [if_pos same, if_pos same]
    cases store.setRevisions timerIntentId with
    | none => rfl
    | some revision => rfl
  · rw [if_neg same, if_neg same]

theorem maximumEpoch_eq_zero {rows : List TimerAssignmentRow}
    (absent : ∀ row ∈ rows, row.timerIntentId ≠ timerIntentId) :
    maximumEpoch timerIntentId rows = 0 := by
  induction rows with
  | nil => rfl
  | cons row rows ih =>
    unfold maximumEpoch
    rw [if_neg (absent row List.mem_cons_self)]
    exact ih fun other member => absent other (List.mem_cons_of_mem _ member)

theorem Fenced.observed (fenced : Fenced store) (timerIntentId : Bytes) :
    observedSetRevision store timerIntentId = setRevision timerIntentId store := by
  unfold observedSetRevision setRevision
  cases stored : store.setRevisions timerIntentId with
  | some revision => rfl
  | none =>
    apply maximumEpoch_eq_zero
    rintro row member rfl
    obtain ⟨revision, present⟩ := fenced.counted row member
    rw [stored] at present
    cases present

/-! ## Writes -/

/-- The triggers stay in place, and the set revision of an intent grows exactly if its assignments
change. -/
structure Tracked (before after : TimerStore) : Prop where
  fenced : Fenced after
  marked : ∀ timerIntentId,
    (assignmentsOf timerIntentId after = assignmentsOf timerIntentId before ∧
      setRevision timerIntentId after = setRevision timerIntentId before) ∨
    (assignmentsOf timerIntentId after ≠ assignmentsOf timerIntentId before ∧
      setRevision timerIntentId before < setRevision timerIntentId after)

theorem Unnoticed.setRevision {before after : TimerStore} (unnoticed : Unnoticed before after)
    (fenced : Fenced before) (timerIntentId : Bytes) :
    setRevision timerIntentId after = setRevision timerIntentId before := by
  rw [← (unnoticed.fenced fenced).observed, ← fenced.observed]
  exact unnoticed.setRevisions timerIntentId

theorem Unnoticed.assignmentsOf {before after : TimerStore} (unnoticed : Unnoticed before after)
    (timerIntentId : Bytes) :
    assignmentsOf timerIntentId after = assignmentsOf timerIntentId before := by
  unfold Timers.assignmentsOf
  rw [unnoticed.assignments]

theorem Unnoticed.tracked {before after : TimerStore} (unnoticed : Unnoticed before after)
    (fenced : Fenced before) : Tracked before after :=
  ⟨unnoticed.fenced fenced, fun timerIntentId =>
    .inl ⟨unnoticed.assignmentsOf timerIntentId, unnoticed.setRevision fenced timerIntentId⟩⟩

theorem Tracked.between {before ready written after : TimerStore} (tracked : Tracked ready written)
    (fenced : Fenced before) (install : Unnoticed before ready) (remove : Unnoticed written after) :
    Tracked before after := by
  refine ⟨remove.fenced tracked.fenced, fun timerIntentId => ?_⟩
  rw [remove.assignmentsOf, remove.setRevision tracked.fenced, ← install.assignmentsOf,
    ← install.setRevision fenced]
  exact tracked.marked timerIntentId

theorem tracked_advance {rows : List TimerAssignmentRow} (fenced : Fenced store)
    (others : ∀ other, other ≠ timerIntentId →
      rows.filter (fun row => row.timerIntentId == other) = assignmentsOf other store)
    (changed : rows.filter (fun row => row.timerIntentId == timerIntentId) ≠
      assignmentsOf timerIntentId store) :
    Tracked store (advanceSetRevision timerIntentId { store with assignments := rows }) := by
  refine ⟨⟨fenced.insertTrigger, fenced.updateTrigger, fenced.deleteTrigger, ?_⟩, ?_⟩
  · intro row member
    dsimp only [advanceSetRevision]
    split
    · exact ⟨_, rfl⟩
    · next foreign =>
      have kept : row ∈ assignmentsOf row.timerIntentId store := by
        rw [← others row.timerIntentId foreign]
        exact List.mem_filter.mpr ⟨member, beq_self_eq_true _⟩
      exact fenced.counted row (List.mem_filter.mp kept).1
  · intro other
    rw [setRevision_advance]
    by_cases same : other = timerIntentId
    · subst same
      rw [if_pos rfl]
      exact .inr ⟨changed, Nat.lt_succ_self _⟩
    · rw [if_neg same]
      exact .inl ⟨others other same, rfl⟩

theorem filter_map_intent {change : TimerAssignmentRow → TimerAssignmentRow}
    {rows : List TimerAssignmentRow}
    (kept : ∀ row ∈ rows, (change row).timerIntentId = row.timerIntentId) (timerIntentId : Bytes) :
    (rows.map change).filter (fun row => row.timerIntentId == timerIntentId) =
      (rows.filter fun row => row.timerIntentId == timerIntentId).map change := by
  rw [List.filter_map]
  congr 1
  apply List.filter_congr
  intro row member
  rw [Function.comp_apply, kept row member]

theorem map_eq_self_iff {change : TimerAssignmentRow → TimerAssignmentRow}
    {rows : List TimerAssignmentRow} :
    rows.map change = rows ↔ ∀ row ∈ rows, change row = row := by
  constructor
  · intro same
    exact List.map_inj_left.mp (same.trans (List.map_id rows).symm)
  · intro same
    exact (List.map_inj_left.mpr same).trans (List.map_id rows)

/-- An `UPDATE` that changes one row, under its identity and its intent. -/
theorem tracked_change {change : TimerAssignmentRow → TimerAssignmentRow}
    {current : TimerAssignmentRow} (fenced : Fenced store) (present : current ∈ store.assignments)
    (kept : ∀ row ∈ store.assignments, (change row).timerIntentId = row.timerIntentId)
    (only : ∀ row ∈ store.assignments, row ≠ current → change row = row)
    (different : change current ≠ current) :
    Tracked store (advanceSetRevision current.timerIntentId
      { store with assignments := store.assignments.map change }) := by
  apply tracked_advance fenced
  · intro other foreign
    rw [filter_map_intent kept]
    unfold assignmentsOf
    rw [map_eq_self_iff]
    intro row member
    rw [List.mem_filter, beq_iff_eq] at member
    apply only row member.1
    rintro rfl
    exact foreign member.2.symm
  · rw [filter_map_intent kept]
    unfold assignmentsOf
    rw [ne_eq, map_eq_self_iff]
    intro unchanged
    exact different
      (unchanged current (List.mem_filter.mpr ⟨present, beq_self_eq_true _⟩))

/-- An `INSERT` after a tracked change that kept the number of assignments. -/
theorem Tracked.append {before superseding : TimerStore} (tracked : Tracked before superseding)
    (lengths : ∀ timerIntentId, (assignmentsOf timerIntentId superseding).length =
      (assignmentsOf timerIntentId before).length) (row : TimerAssignmentRow) :
    Tracked before (afterInsert row.timerIntentId
      { superseding with assignments := superseding.assignments ++ [row] }) := by
  have own : (superseding.assignments ++ [row]).filter
      (fun other => other.timerIntentId == row.timerIntentId) =
        assignmentsOf row.timerIntentId superseding ++ [row] := by
    simp [assignmentsOf]
  have foreign (timerIntentId : Bytes) (different : timerIntentId ≠ row.timerIntentId) :
      (superseding.assignments ++ [row]).filter
        (fun other => other.timerIntentId == timerIntentId) =
          assignmentsOf timerIntentId superseding := by
    simp [assignmentsOf, different.symm]
  have written : Tracked superseding (advanceSetRevision row.timerIntentId
      { superseding with assignments := superseding.assignments ++ [row] }) := by
    apply tracked_advance tracked.fenced foreign
    rw [own]
    simp
  unfold afterInsert
  rw [if_pos tracked.fenced.insertTrigger]
  refine ⟨written.fenced, fun timerIntentId => ?_⟩
  by_cases same : timerIntentId = row.timerIntentId
  · subst same
    have rows : assignmentsOf row.timerIntentId (advanceSetRevision row.timerIntentId
        { superseding with assignments := superseding.assignments ++ [row] }) =
          assignmentsOf row.timerIntentId superseding ++ [row] := own
    rw [rows, setRevision_advance, if_pos rfl]
    right
    constructor
    · intro equal
      have count := congrArg List.length equal
      rw [List.length_append, lengths, List.length_singleton] at count
      omega
    · change _ < setRevision row.timerIntentId superseding + 1
      rcases tracked.marked row.timerIntentId with ⟨-, equal⟩ | ⟨-, grown⟩
      · omega
      · omega
  · have rows : assignmentsOf timerIntentId (advanceSetRevision row.timerIntentId
        { superseding with assignments := superseding.assignments ++ [row] }) =
          assignmentsOf timerIntentId superseding := foreign timerIntentId same
    rw [rows, setRevision_advance, if_neg same]
    exact tracked.marked timerIntentId

theorem supersede_tracked {expected : ReassignmentExpectation} (fenced : Fenced store)
    (identified : Identified store) (checks : replacementChecks expected row store = .ok ()) :
    Tracked store (supersede expected.oldAssignmentId row.createdAt store) ∧
      ∀ timerIntentId,
        (assignmentsOf timerIntentId
          (supersede expected.oldAssignmentId row.createdAt store)).length =
            (assignmentsOf timerIntentId store).length := by
  obtain ⟨-, -, -, old, present, matching⟩ := of_replacementChecks checks
  obtain ⟨identity, -, -, active, -⟩ := of_oldOwnerMatches matching
  have found : store.assignments.find?
      (fun row => row.timerAssignmentId == expected.oldAssignmentId) = some old := by
    cases lookup : store.assignments.find?
        (fun row => row.timerAssignmentId == expected.oldAssignmentId) with
    | none => simpa [identity] using List.find?_eq_none.mp lookup old present
    | some other =>
      have named := List.find?_some lookup
      rw [beq_iff_eq] at named
      rw [identified.eq_of_identity (List.mem_of_find?_eq_some lookup) present
        (named.trans identity.symm)]
  have kept (other : TimerAssignmentRow) :
      (supersedeRow expected.oldAssignmentId row.createdAt other).timerIntentId =
        other.timerIntentId := by
    unfold supersedeRow
    split
    · rfl
    · rfl
  have written : Tracked store (advanceSetRevision old.timerIntentId
      { store with assignments :=
        store.assignments.map (supersedeRow expected.oldAssignmentId row.createdAt) }) := by
    apply tracked_change fenced present (fun other _ => kept other)
    · intro other member different
      apply if_neg
      intro named
      exact different (identified.eq_of_identity member present (named.trans identity.symm))
    · rw [supersedeRow, if_pos identity]
      intro same
      have owner := activeExclusiveOwner_superseded row.createdAt old
      rw [same, active] at owner
      cases owner
  have superseded : supersede expected.oldAssignmentId row.createdAt store =
      advanceSetRevision old.timerIntentId
        { store with assignments :=
          store.assignments.map (supersedeRow expected.oldAssignmentId row.createdAt) } := by
    unfold supersede afterUpdate
    rw [found]
    exact if_pos fenced.updateTrigger
  rw [superseded]
  refine ⟨written, fun timerIntentId => ?_⟩
  have rows := filter_map_intent (fun other (_ : other ∈ store.assignments) => kept other)
    timerIntentId
  exact (congrArg List.length rows).trans (List.length_map _)

theorem insertAssignment_tracked (fenced : Fenced store) (identified : Identified store)
    (done : insertAssignment row store = .ok next) : Tracked store next := by
  obtain ⟨-, superseding, before, -, after⟩ := insertAssignment_done done
  have inserted : Tracked store (afterInsert row.timerIntentId
      { superseding with assignments := superseding.assignments ++ [row] }) := by
    rcases reassignmentBefore_ok before with rfl | ⟨expected, checks, rfl⟩
    · exact ((Unnoticed.refl _).tracked fenced).append (fun _ => rfl) row
    · obtain ⟨superseded, lengths⟩ := supersede_tracked fenced identified checks
      exact superseded.append lengths row
  rcases reassignmentAfter_ok after with rfl | ⟨expected, linked⟩
  · exact inserted
  · rw [(insertReassignment_ok linked).1]
    obtain ⟨⟨onInsert, onUpdate, onDelete, counted⟩, marked⟩ := inserted
    exact ⟨⟨onInsert, onUpdate, onDelete, counted⟩, marked⟩

theorem Updated.tracked {current : TimerAssignmentRow} {expectedRevision : Nat}
    (written : Updated store next current row expectedRevision) (fenced : Fenced store)
    (identified : Identified store) : Tracked store next := by
  have done := written.updated
  unfold updateAssignment at done
  split at done
  · cases done
  · next selected =>
    split at done
    · cases done
    · cases done
      rw [Bool.not_eq_true', Bool.not_eq_false, List.any_eq_true] at selected
      obtain ⟨stored, member, matching⟩ := selected
      rw [Bool.and_eq_true, beq_iff_eq, beq_iff_eq] at matching
      obtain ⟨named, revision⟩ := matching
      cases identified.eq_of_identity member written.present (named.trans written.kept.identity)
      unfold afterUpdate
      rw [if_pos fenced.updateTrigger, written.kept.intent]
      apply tracked_change fenced member
      · intro other otherMember
        split
        · next same =>
          rw [identified.eq_of_identity otherMember member (same.trans named.symm)]
          exact written.kept.intent
        · rfl
      · intro other otherMember different
        apply if_neg
        intro same
        exact different (identified.eq_of_identity otherMember member (same.trans named.symm))
      · rw [if_pos named]
        intro same
        have larger := written.revision
        rw [same, revision] at larger
        omega

theorem deleteAssignment_tracked {timerAssignmentId : Bytes} (fenced : Fenced store)
    (identified : Identified store) (done : deleteAssignment timerAssignmentId store = .ok next) :
    Tracked store next := by
  unfold deleteAssignment at done
  split at done
  · cases done
    exact (Unnoticed.refl _).tracked fenced
  · next old found =>
    cases done
    have present := List.mem_of_find?_eq_some found
    have named := List.find?_some found
    rw [beq_iff_eq] at named
    unfold afterDelete
    rw [if_pos fenced.deleteTrigger]
    apply tracked_advance fenced
    · intro other foreign
      rw [List.filter_filter]
      apply List.filter_congr
      intro row member
      rw [Bool.and_eq_left_iff_imp, beq_iff_eq, bne_iff_ne]
      intro intent same
      rw [identified.eq_of_identity member present (same.trans named.symm)] at intent
      exact foreign intent.symm
    · intro same
      have kept : old ∈ assignmentsOf old.timerIntentId store :=
        List.mem_filter.mpr ⟨present, beq_self_eq_true _⟩
      rw [← same, List.mem_filter, List.mem_filter, bne_iff_ne] at kept
      exact kept.1.2 named

theorem refreshBoundAssignmentGeneration_tracked {reads writes : Bool}
    {binding : NativeTimerBinding} {generation : Nat} {observedAt : Int} (fenced : Fenced store)
    (identified : Identified store)
    (done : refreshBoundAssignmentGeneration reads writes binding generation observedAt store =
      .ok next) : Tracked store next := by
  obtain ⟨found, present, selected, -, ⟨rfl, -⟩ | rfl⟩ := refreshBoundAssignmentGeneration_ok done
  · exact (Unnoticed.refl _).tracked fenced
  · have named {row : TimerAssignmentRow} (bound : boundToBinding binding row = true) :
        row.timerAssignmentId = cString binding.timerAssignmentId := by
      simp only [boundToBinding, Bool.and_eq_true, beq_iff_eq] at bound
      exact bound.1.1.1
    unfold afterUpdate
    rw [if_pos fenced.updateTrigger]
    apply tracked_change fenced present
    · exact fun row _ => (refreshRow_identity found row).2
    · intro row member different
      apply if_neg
      intro chosen
      simp only [Bool.and_eq_true] at chosen
      exact different (identified.eq_of_identity member present
        ((named chosen.1.1).trans (named selected).symm))
    · rw [refreshRow, if_pos (by simp [selected])]
      intro same
      have revision := congrArg TimerAssignmentRow.assignmentRevision same
      exact Nat.succ_ne_self _ revision

/-! ## Identities -/

theorem Identified.map {change : TimerAssignmentRow → TimerAssignmentRow}
    (identified : Identified store)
    (kept : ∀ row, (change row).timerAssignmentId = row.timerAssignmentId) :
    ((store.assignments.map change).map TimerAssignmentRow.timerAssignmentId).Nodup := by
  rw [List.map_map]
  have same : store.assignments.map (TimerAssignmentRow.timerAssignmentId ∘ change) =
      store.assignments.map TimerAssignmentRow.timerAssignmentId :=
    List.map_congr_left fun row _ => kept row
  exact same ▸ identified

theorem Identified.of_assignments {before after : TimerStore} (identified : Identified before)
    (same : after.assignments = before.assignments) : Identified after := by
  unfold Identified
  rw [same]
  exact identified

theorem insertAssignment_identified (identified : Identified store)
    (done : insertAssignment row store = .ok next) : Identified next := by
  obtain ⟨change, rows, changes, fresh⟩ := insertAssignment_rows done
  have kept (other : TimerAssignmentRow) :
      (change other).timerAssignmentId = other.timerAssignmentId := by
    rcases changes other with same | superseded
    · rw [same]
    · rw [superseded]
      rfl
  unfold Identified
  rw [rows, List.map_append, List.map_singleton, List.nodup_append]
  refine ⟨identified.map kept, by simp, ?_⟩
  rintro identity member _ same rfl
  obtain ⟨_, image, named⟩ := List.mem_map.mp member
  obtain ⟨other, present, rfl⟩ := List.mem_map.mp image
  exact fresh other present ((kept other).symm.trans (named.trans (List.mem_singleton.mp same)))

theorem updateAssignment_identified {expectedRevision : Nat} (identified : Identified store)
    (done : updateAssignment row expectedRevision store = .ok next) : Identified next := by
  unfold updateAssignment at done
  split at done
  · cases done
  · split at done
    · cases done
    · cases done
      obtain ⟨_, frame⟩ := afterUpdate_frame row.timerIntentId
        { store with assignments := store.assignments.map fun current =>
          if current.timerAssignmentId = row.timerAssignmentId then row else current }
      rw [frame]
      apply identified.map
      intro current
      split
      · next same => exact same.symm
      · rfl

theorem deleteAssignment_identified {timerAssignmentId : Bytes} (identified : Identified store)
    (done : deleteAssignment timerAssignmentId store = .ok next) : Identified next := by
  unfold deleteAssignment at done
  split at done
  · cases done
    exact identified
  · next old found =>
    cases done
    have kept : ((store.assignments.filter fun row =>
        row.timerAssignmentId != timerAssignmentId).map
          TimerAssignmentRow.timerAssignmentId).Nodup :=
      List.Nodup.sublist (List.Sublist.map _ List.filter_sublist) identified
    unfold afterDelete
    split
    · exact kept
    · exact kept

theorem refreshBoundAssignmentGeneration_identified {reads writes : Bool}
    {binding : NativeTimerBinding} {generation : Nat} {observedAt : Int}
    (identified : Identified store)
    (done : refreshBoundAssignmentGeneration reads writes binding generation observedAt store =
      .ok next) : Identified next := by
  obtain ⟨found, -, -, -, ⟨rfl, -⟩ | rfl⟩ := refreshBoundAssignmentGeneration_ok done
  · exact identified
  · obtain ⟨_, frame⟩ := afterUpdate_frame found.timerIntentId
      { store with assignments :=
        store.assignments.map (refreshRow binding generation observedAt found) }
    rw [frame]
    exact identified.map fun row => (refreshRow_identity found row).1

/-! ## Calls -/

/-- Everything that writes assignments: the calls of the repository, the refresh behind a binding and
the deletion of a row; and the observation of a set revision, which may create the triggers. -/
inductive AssignmentSetStep
  | call (call : TimerAssignmentCall)
  | assignmentSetRevisionForIntent (works : CarriedOut) (timerIntentId : Bytes)
  | refreshBoundAssignmentGeneration (reads writes : Bool) (binding : NativeTimerBinding)
      (generation : Nat) (observedAt : Int)
  | deleteAssignment (timerAssignmentId : Bytes)

def advance (store : TimerStore) : AssignmentSetStep → TimerStore × Unit
  | .call call => ((perform store call).1, ())
  | .assignmentSetRevisionForIntent works timerIntentId =>
    ((assignmentSetRevisionForIntent works timerIntentId store).2, ())
  | .refreshBoundAssignmentGeneration reads writes binding generation observedAt =>
    ((committed
      (refreshBoundAssignmentGeneration reads writes binding generation observedAt) store).2, ())
  | .deleteAssignment timerAssignmentId =>
    ((committed (deleteAssignment timerAssignmentId) store).2, ())

/-- What every call keeps of the identities, and what it does behind the triggers. -/
structure KeepsTrack (before after : TimerStore) : Prop where
  identified : Identified before → Identified after
  tracked : Fenced before → Identified before → Tracked before after

theorem Unnoticed.keepsTrack {before after : TimerStore} (unnoticed : Unnoticed before after) :
    KeepsTrack before after :=
  ⟨fun identified => identified.of_assignments unnoticed.assignments,
    fun fenced _ => unnoticed.tracked fenced⟩

theorem Created.keepsTrack {assignment : TimerAssignment}
    (created : Created assignment store next row) : KeepsTrack store next :=
  ⟨fun identified => insertAssignment_identified identified created.inserted,
    fun fenced identified => insertAssignment_tracked fenced identified created.inserted⟩

theorem KeepsTrack.between {before ready written after : TimerStore}
    (keeps : KeepsTrack ready written) (install : Unnoticed before ready)
    (remove : Unnoticed written after) : KeepsTrack before after := by
  constructor
  · intro identified
    exact (keeps.identified (identified.of_assignments install.assignments)).of_assignments
      remove.assignments
  · intro fenced identified
    exact (keeps.tracked (install.fenced fenced)
      (identified.of_assignments install.assignments)).between fenced install remove

theorem perform_keepsTrack (store : TimerStore) (call : TimerAssignmentCall) :
    KeepsTrack store (perform store call).1 := by
  cases call with
  | create works assignment =>
    rcases create_cases works assignment store with ⟨-, same⟩ | ⟨-, row, created⟩
    · change KeepsTrack store (create works assignment store).2
      rw [same]
      exact (Unnoticed.refl store).keepsTrack
    · exact created.keepsTrack
  | update works assignment expectedRevision =>
    rcases update_cases works assignment expectedRevision store with
      ⟨-, same⟩ | ⟨current, row, number, written⟩
    · change KeepsTrack store (update works assignment expectedRevision store).2
      rw [same]
      exact (Unnoticed.refl store).keepsTrack
    · exact ⟨fun identified => updateAssignment_identified identified written.updated,
        fun fenced identified => written.tracked fenced identified⟩
  | createAgainstAssignmentSetRevision works assignment expectedAssignmentSetRevision =>
    rcases createAgainstAssignmentSetRevision_cases works assignment expectedAssignmentSetRevision
      store with ⟨-, unchanged, -⟩ | ⟨-, _, _, _, _, -, -, -, install, created, remove⟩
    · exact unchanged.keepsTrack
    · exact created.keepsTrack.between install remove
  | createControlledReplacement works replacement expectedAssignmentSetRevision evidence =>
    rcases createControlledReplacement_steps works replacement expectedAssignmentSetRevision
      evidence store with ⟨-, unchanged, -⟩ | ⟨-, -, -, _, _, _, _, -, install, created, remove⟩
    · exact unchanged.keepsTrack
    · exact created.keepsTrack.between install remove
  | environment intents bindings operations =>
    have unchanged : Unnoticed store
        (perform store (.environment intents bindings operations)).1 :=
      .of_same rfl rfl rfl id id id
    exact unchanged.keepsTrack

theorem advance_keepsTrack (store : TimerStore) (step : AssignmentSetStep) :
    KeepsTrack store (advance store step).1 := by
  cases step with
  | call call => exact perform_keepsTrack store call
  | assignmentSetRevisionForIntent works timerIntentId =>
    exact (assignmentSetRevisionForIntent_unchanged works timerIntentId store).keepsTrack
  | refreshBoundAssignmentGeneration reads writes binding generation observedAt =>
    dsimp only [advance]
    rcases committed_cases
      (refreshBoundAssignmentGeneration reads writes binding generation observedAt) store with
      ⟨next, done, same⟩ | same
    · rw [same]
      exact ⟨fun identified => refreshBoundAssignmentGeneration_identified identified done,
        fun fenced identified => refreshBoundAssignmentGeneration_tracked fenced identified done⟩
    · rw [same]
      exact (Unnoticed.refl store).keepsTrack
  | deleteAssignment timerAssignmentId =>
    dsimp only [advance]
    rcases committed_cases (deleteAssignment timerAssignmentId) store with
      ⟨next, done, same⟩ | same
    · rw [same]
      exact ⟨fun identified => deleteAssignment_identified identified done,
        fun fenced identified => deleteAssignment_tracked fenced identified done⟩
    · rw [same]
      exact (Unnoticed.refl store).keepsTrack

/-! ## The fence -/

theorem fenced_of_setRevisionSchema {works : CarriedOut} {reached : TimerStore}
    (executed : ensureAssignmentSetRevisionSchema works store = (true, reached)) :
    Fenced reached := by
  have all := congrArg Prod.fst executed
  have last := congrArg Prod.snd executed
  obtain ⟨created, creating, all, first⟩ := executeAll_cons_true all
  obtain ⟨filled, filling, all, second⟩ := executeAll_cons_true all
  obtain ⟨inserting, insertTrigger, all, third⟩ := executeAll_cons_true all
  obtain ⟨updating, updateTrigger, all, fourth⟩ := executeAll_cons_true all
  obtain ⟨deleting, deleteTrigger, all, fifth⟩ := executeAll_cons_true all
  cases (attempt_ok creating).2
  cases (attempt_ok filling).2
  cases (attempt_ok insertTrigger).2
  cases (attempt_ok updateTrigger).2
  cases (attempt_ok deleteTrigger).2
  cases ((((first.trans second).trans third).trans fourth).trans fifth).symm.trans last
  refine ⟨rfl, rfl, rfl, fun row member => ?_⟩
  dsimp only [fillSetRevisions]
  cases store.setRevisions row.timerIntentId with
  | some revision => exact ⟨revision, rfl⟩
  | none =>
    refine ⟨_, if_pos (List.any_eq_true.mpr ⟨row, member, ?_⟩)⟩
    exact beq_self_eq_true _

theorem assignmentSetRevisionForIntent_ok {works : CarriedOut} {token : Bytes}
    (observed : (assignmentSetRevisionForIntent works timerIntentId store).1 =
      { status := .ok, assignmentSetRevision := token }) :
    Fenced (assignmentSetRevisionForIntent works timerIntentId store).2 ∧
      token = decimal
        (setRevision timerIntentId (assignmentSetRevisionForIntent works timerIntentId store).2) := by
  unfold assignmentSetRevisionForIntent at observed ⊢
  split at observed
  · cases observed
  · next safe =>
    split at observed
    · cases observed
    · next schema =>
      rw [if_neg safe, if_neg schema]
      split at observed
      · cases observed
      · next reached executed =>
        have fenced := fenced_of_setRevisionSchema executed
        split at observed
        · cases observed
        · next selects =>
          split at observed
          · next known =>
            rw [if_neg selects, if_pos known]
            unfold readCurrentSetRevision at observed ⊢
            split at observed
            · next absent => cases observed
            · next revision read =>
              split at read
              · cases read
              · next reads =>
                cases read
                cases observed
                exact ⟨fenced, rfl⟩
          · cases observed

theorem Created.setRevision {assignment : TimerAssignment} {expectedRevision : Nat}
    (created : Created assignment store next row)
    (table : store.setExpectations = some (some
      ⟨assignment.timerAssignmentId, assignment.timerIntentId, expectedRevision⟩))
    (trigger : store.setExpectationTrigger = true) :
    setRevision assignment.timerIntentId store = expectedRevision := by
  obtain ⟨fence, -⟩ := insertAssignment_done created.inserted
  obtain ⟨-, revision, -, rowIs⟩ := bindAssignmentColumns_eq_some created.columns
  have identity : row.timerAssignmentId = assignment.timerAssignmentId := by rw [rowIs]; rfl
  have intent : row.timerIntentId = assignment.timerIntentId := by rw [rowIs]; rfl
  simp only [checkSetExpectation, trigger, Bool.true_eq_false, if_false, table, identity, ne_eq,
    not_true_eq_false, intent, bne_self_eq_false, Bool.false_or, abortIf] at fence
  split at fence
  · cases fence
  · next passed =>
    rw [bne_iff_ne, ne_eq, not_not] at passed
    exact passed.symm

theorem findControlledReplacement_not_conflict (works : Stage → CarriedOut)
    (replacementTimerAssignmentId : Bytes) (store : TimerStore) :
    (findControlledReplacement works replacementTimerAssignmentId store).status ≠ .conflict := by
  unfold findControlledReplacement
  split
  · exact nofun
  · split
    · exact nofun
    · split
      · exact nofun
      · dsimp only
        split <;> exact nofun

def after (store : TimerStore) (steps : List AssignmentSetStep) : TimerStore :=
  Run.final advance store steps

theorem parseUnsignedToken_decimal {revision number : Nat}
    (parsed : parseUnsignedToken (decimal revision) = some number) : number = revision :=
  (of_parseDecimal_decimal int64Max revision number (by decide) parsed).1

theorem after_identified {start : TimerStore} (identified : Identified start)
    (steps : List AssignmentSetStep) : Identified (after start steps) :=
  Run.final_preserves advance Identified
    (fun store step => (advance_keepsTrack store step).identified) start identified steps

theorem setRevision_eq_iff_untouched {start : TimerStore} (fenced : Fenced start)
    (identified : Identified start) (timerIntentId : Bytes) (steps : List AssignmentSetStep) :
    Fenced (after start steps) ∧
      (setRevision timerIntentId (after start steps) = setRevision timerIntentId start ↔
        Run.Untouched advance (assignmentsOf timerIntentId) start steps) := by
  have kept (store : TimerStore) (step : AssignmentSetStep)
      (valid : Fenced store ∧ Identified store) :
      Fenced (advance store step).1 ∧ Identified (advance store step).1 :=
    ⟨((advance_keepsTrack store step).tracked valid.1 valid.2).fenced,
      (advance_keepsTrack store step).identified valid.2⟩
  constructor
  · exact (Run.final_preserves advance (fun store => Fenced store ∧ Identified store) kept start
      ⟨fenced, identified⟩ steps).1
  · exact (Run.stamp_eq_iff_untouched advance (fun store => Fenced store ∧ Identified store)
      (assignmentsOf timerIntentId) (setRevision timerIntentId) kept
      (fun store step valid =>
        ((advance_keepsTrack store step).tracked valid.1 valid.2).marked timerIntentId)
      ⟨fenced, identified⟩ steps).2

theorem observed_eq_iff {store : TimerStore} {works : CarriedOut} {token : Bytes}
    (fenced : Fenced store)
    (observed : (assignmentSetRevisionForIntent works timerIntentId store).1 =
      { status := .ok, assignmentSetRevision := token }) (revision : Nat) :
    token = decimal revision ↔ setRevision timerIntentId store = revision := by
  obtain ⟨-, rfl⟩ := assignmentSetRevisionForIntent_ok observed
  rw [(assignmentSetRevisionForIntent_unchanged works timerIntentId store).setRevision fenced]
  exact ⟨decimal_injective, congrArg decimal⟩

/-- In every run, a token that has been observed is accepted only while no assignment of its intent
has been written, is never observed again after such a write, and is not refused otherwise. -/
theorem assignment_set_fence (earlier later : List AssignmentSetStep) (works : CarriedOut)
    (timerIntentId token : Bytes)
    (observed : (assignmentSetRevisionForIntent works timerIntentId (after {} earlier)).1 =
      { status := .ok, assignmentSetRevision := token }) :
    let start := (assignmentSetRevisionForIntent works timerIntentId (after {} earlier)).2
    let current := after start later
    let untouched := Run.Untouched advance (assignmentsOf timerIntentId) start later
    (∀ works assignment, assignment.timerIntentId = timerIntentId →
      (createAgainstAssignmentSetRevision works assignment token current).1.ok = true →
      untouched) ∧
    (∀ works replacement evidence, replacement.timerIntentId = timerIntentId →
      (createControlledReplacement works replacement token evidence current).1.ok = true →
      untouched) ∧
    (∀ works again, (assignmentSetRevisionForIntent works timerIntentId current).1 =
        { status := .ok, assignmentSetRevision := again } → (again = token ↔ untouched)) ∧
    (untouched →
      (∀ works assignment, assignment.timerIntentId = timerIntentId →
        (createAgainstAssignmentSetRevision works assignment token current).1.status ≠ .conflict) ∧
      ∀ works replacement evidence, replacement.timerIntentId = timerIntentId →
        (createControlledReplacement works replacement token evidence current).1.status ≠
          .conflict) := by
  intro start current untouched
  obtain ⟨fenced, tokenIs⟩ := assignmentSetRevisionForIntent_ok observed
  have empty : Identified {} := List.nodup_nil
  have identified : Identified start :=
    (after_identified empty earlier).of_assignments
      (assignmentSetRevisionForIntent_unchanged works timerIntentId (after {} earlier)).assignments
  obtain ⟨currentFenced, fence⟩ := setRevision_eq_iff_untouched fenced identified timerIntentId later
  change Fenced current at currentFenced
  change setRevision timerIntentId current = setRevision timerIntentId start ↔ untouched at fence
  change token = decimal (setRevision timerIntentId start) at tokenIs
  have parsed {number : Nat} (read : parseUnsignedToken token = some number) :
      number = setRevision timerIntentId start :=
    parseUnsignedToken_decimal (tokenIs ▸ read)
  have again {store : TimerStore} {works : CarriedOut} {other : Bytes}
      (unnoticed : Unnoticed current store)
      (read : (assignmentSetRevisionForIntent works timerIntentId store).1 =
        { status := .ok, assignmentSetRevision := other }) : other = token ↔ untouched := by
    rw [tokenIs, observed_eq_iff (unnoticed.fenced currentFenced) read,
      unnoticed.setRevision currentFenced]
    exact fence
  refine ⟨?_, ?_, fun _ _ => again (Unnoticed.refl current), fun kept => ⟨?_, ?_⟩⟩
  · rintro works assignment rfl ok
    rcases createAgainstAssignmentSetRevision_cases works assignment token current with
      ⟨failed, -⟩ | ⟨-, number, ready, _, row, read, table, trigger, install, created, -⟩
    · rw [failed] at ok
      cases ok
    · apply fence.mp
      rw [← parsed read, ← created.setRevision table trigger, install.setRevision currentFenced]
  · rintro works replacement evidence rfl ok
    rcases createControlledReplacement_steps works replacement token evidence current with
      ⟨failed, -⟩ | ⟨-, -, read, -⟩
    · rw [failed] at ok
      cases ok
    · exact (again (Unnoticed.refl current) read).mp rfl
  · rintro works assignment rfl conflict
    rcases createAgainstAssignmentSetRevision_cases works assignment token current with
      ⟨-, -, stale⟩ | ⟨ok, -⟩
    · obtain ⟨number, ready, read, install, different⟩ := stale conflict
      apply different
      rw [parsed read, ← fence.mpr kept, ← install.setRevision currentFenced]
      rfl
    · rw [ok] at conflict
      cases conflict
  · rintro works replacement evidence rfl conflict
    rcases createControlledReplacement_steps works replacement token evidence current with
      ⟨-, -, stale⟩ | ⟨-, answer, -⟩
    · obtain ⟨_, reached, other, install, different, read⟩ := stale conflict
      exact different ((again install read).mpr kept)
    · rw [answer] at conflict
      exact findControlledReplacement_not_conflict works _ _ conflict

/-- The owner `o` of the intent `i`, created before the set revisions exist. -/
def sampleSteps : List AssignmentSetStep := (sampleCalls (text "o")).map .call

/-- After the deletion of the only assignment, the token of its intent creates nothing. -/
theorem assignment_set_fence_sample :
    let observation := assignmentSetRevisionForIntent (fun _ => true) (text "i") (after {} sampleSteps)
    observation.1 = { status := .ok, assignmentSetRevision := text "1" } ∧
      ∀ works assignment, assignment.timerIntentId = text "i" →
        (createAgainstAssignmentSetRevision works assignment (text "1")
          (after observation.2 [.deleteAssignment (text "o")])).1.ok ≠ true := by
  intro observation
  obtain ⟨observed, written⟩ :
      observation.1 = { status := .ok, assignmentSetRevision := text "1" } ∧
        assignmentsOf (text "i") (advance observation.2 (.deleteAssignment (text "o"))).1 ≠
          assignmentsOf (text "i") observation.2 := by
    decide
  refine ⟨observed, fun works assignment intent ok => ?_⟩
  have untouched := (assignment_set_fence sampleSteps [.deleteAssignment (text "o")] (fun _ => true)
    (text "i") (text "1") observed).1 works assignment intent ok
  exact written untouched.1

end VdrSuite.Timers
