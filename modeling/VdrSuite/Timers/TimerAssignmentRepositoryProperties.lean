import Mathlib.Data.List.Nodup
import VdrSuite.Timers.TimerAssignmentReassignmentRepository

/-! What the writes of the timer assignment repository do to its rows. -/

set_option autoImplicit false

namespace VdrSuite.Timers

open Library Library.Transaction

/-! ## Rows -/

/-- The rows under their keys, with at most one owner of an intent, all of them readable. -/
structure RowsValid (rows : List TimerAssignmentRow) : Prop where
  identified : (rows.map TimerAssignmentRow.timerAssignmentId).Nodup
  exclusive : ∀ first ∈ rows, ∀ second ∈ rows, first.timerIntentId = second.timerIntentId →
    activeExclusiveOwner first = true → activeExclusiveOwner second = true →
    first.timerAssignmentId = second.timerAssignmentId
  distinct : ∀ first ∈ rows, ∀ second ∈ rows, first.timerIntentId = second.timerIntentId →
    first.assignmentEpoch = second.assignmentEpoch →
    first.timerAssignmentId = second.timerAssignmentId
  readable : ∀ row ∈ rows, ∃ assignment, readAssignment row = some assignment

/-- A row under its identity, intent and epoch; a terminal row does not change at all. -/
structure RowKept (old new : TimerAssignmentRow) : Prop where
  identity : new.timerAssignmentId = old.timerAssignmentId
  intent : new.timerIntentId = old.timerIntentId
  epoch : new.assignmentEpoch = old.assignmentEpoch
  terminal : timerAssignmentTerminal old.state = true → new = old

theorem RowKept.refl (row : TimerAssignmentRow) : RowKept row row :=
  ⟨rfl, rfl, rfl, fun _ => rfl⟩

theorem RowKept.trans {first second third : TimerAssignmentRow} (earlier : RowKept first second)
    (later : RowKept second third) : RowKept first third where
  identity := later.identity.trans earlier.identity
  intent := later.intent.trans earlier.intent
  epoch := later.epoch.trans earlier.epoch
  terminal closed := by
    have same := earlier.terminal closed
    subst same
    exact later.terminal closed

theorem RowsValid.eq_of_identity {rows : List TimerAssignmentRow} (valid : RowsValid rows)
    {first second : TimerAssignmentRow} (firstMember : first ∈ rows) (secondMember : second ∈ rows)
    (same : first.timerAssignmentId = second.timerAssignmentId) : first = second :=
  List.inj_on_of_nodup_map valid.identified firstMember secondMember same

theorem rowsValid_nil : RowsValid [] := by
  constructor <;> simp

theorem le_maximumEpoch {rows : List TimerAssignmentRow} {row : TimerAssignmentRow}
    (member : row ∈ rows) : row.assignmentEpoch ≤ maximumEpoch row.timerIntentId rows := by
  induction rows with
  | nil => cases member
  | cons other rows ih =>
    unfold maximumEpoch
    cases member with
    | head => simp
    | tail _ later =>
      split
      · exact le_max_of_le_right (ih later)
      · exact ih later

theorem clashes_eq_false_iff (row other : TimerAssignmentRow) :
    clashes row other = false ↔
      other.timerAssignmentId ≠ row.timerAssignmentId ∧
        (other.timerIntentId = row.timerIntentId → other.assignmentEpoch ≠ row.assignmentEpoch ∧
          ¬ (activeExclusiveOwner other = true ∧ activeExclusiveOwner row = true)) := by
  simp only [clashes, Bool.or_eq_false_iff, Bool.and_eq_false_imp, beq_eq_false_iff_ne, beq_iff_eq,
    not_and, Bool.not_eq_true]

theorem RowsValid.append {rows : List TimerAssignmentRow} (valid : RowsValid rows)
    {row : TimerAssignmentRow} (free : rows.any (clashes row) = false)
    (readable : ∃ assignment, readAssignment row = some assignment) :
    RowsValid (rows ++ [row]) := by
  have apart (other : TimerAssignmentRow) (member : other ∈ rows) :=
    (clashes_eq_false_iff row other).mp (eq_false_of_ne_true (List.any_eq_false.mp free other member))
  refine ⟨?_, ?_, ?_, ?_⟩
  · rw [List.map_append, List.map_singleton, List.nodup_append]
    refine ⟨valid.identified, by simp, ?_⟩
    rintro identity member _ same rfl
    obtain ⟨other, present, rfl⟩ := List.mem_map.mp member
    exact (apart other present).1 (by simpa using same)
  · intro first firstMember second secondMember intent firstActive secondActive
    rw [List.mem_append, List.mem_singleton] at firstMember secondMember
    rcases firstMember with firstMember | rfl
    · rcases secondMember with secondMember | rfl
      · exact valid.exclusive first firstMember second secondMember intent firstActive secondActive
      · exact absurd ⟨firstActive, secondActive⟩ ((apart first firstMember).2 intent).2
    · rcases secondMember with secondMember | rfl
      · exact absurd ⟨secondActive, firstActive⟩ ((apart second secondMember).2 intent.symm).2
      · rfl
  · intro first firstMember second secondMember intent epoch
    rw [List.mem_append, List.mem_singleton] at firstMember secondMember
    rcases firstMember with firstMember | rfl
    · rcases secondMember with secondMember | rfl
      · exact valid.distinct first firstMember second secondMember intent epoch
      · exact absurd epoch ((apart first firstMember).2 intent).1
    · rcases secondMember with secondMember | rfl
      · exact absurd epoch.symm ((apart second secondMember).2 intent.symm).1
      · rfl
  · intro other member
    rcases List.mem_append.mp member with earlier | added
    · exact valid.readable other earlier
    · rw [List.mem_singleton] at added
      exact added ▸ readable

theorem RowsValid.map {rows : List TimerAssignmentRow} (valid : RowsValid rows)
    {change : TimerAssignmentRow → TimerAssignmentRow} (kept : ∀ row ∈ rows, RowKept row (change row))
    (readable : ∀ row ∈ rows, ∃ assignment, readAssignment (change row) = some assignment)
    (exclusive : ∀ first ∈ rows, ∀ second ∈ rows, first.timerIntentId = second.timerIntentId →
      activeExclusiveOwner (change first) = true → activeExclusiveOwner (change second) = true →
      first.timerAssignmentId = second.timerAssignmentId) : RowsValid (rows.map change) := by
  refine ⟨?_, ?_, ?_, ?_⟩
  · rw [List.map_map]
    have same : rows.map (TimerAssignmentRow.timerAssignmentId ∘ change) =
        rows.map TimerAssignmentRow.timerAssignmentId :=
      List.map_congr_left fun row member => (kept row member).identity
    exact same ▸ valid.identified
  · intro _ firstImage _ secondImage intent firstActive secondActive
    obtain ⟨first, firstMember, rfl⟩ := List.mem_map.mp firstImage
    obtain ⟨second, secondMember, rfl⟩ := List.mem_map.mp secondImage
    rw [(kept first firstMember).intent, (kept second secondMember).intent] at intent
    rw [(kept first firstMember).identity, (kept second secondMember).identity]
    exact exclusive first firstMember second secondMember intent firstActive secondActive
  · intro _ firstImage _ secondImage intent epoch
    obtain ⟨first, firstMember, rfl⟩ := List.mem_map.mp firstImage
    obtain ⟨second, secondMember, rfl⟩ := List.mem_map.mp secondImage
    rw [(kept first firstMember).intent, (kept second secondMember).intent] at intent
    rw [(kept first firstMember).epoch, (kept second secondMember).epoch] at epoch
    rw [(kept first firstMember).identity, (kept second secondMember).identity]
    exact valid.distinct first firstMember second secondMember intent epoch
  · intro _ image
    obtain ⟨row, member, rfl⟩ := List.mem_map.mp image
    exact readable row member

/-! ## Superseding -/

/-- The change of the trigger's `UPDATE`. -/
def supersedeRow (oldAssignmentId : Bytes) (updatedAt : Int) (row : TimerAssignmentRow) :
    TimerAssignmentRow :=
  if row.timerAssignmentId = oldAssignmentId then supersededRow updatedAt row else row

theorem afterUpdate_frame (timerIntentId : Bytes) (store : TimerStore) :
    ∃ revisions, afterUpdate timerIntentId store = { store with setRevisions := revisions } := by
  unfold afterUpdate
  split
  · exact ⟨_, rfl⟩
  · exact ⟨store.setRevisions, rfl⟩

theorem afterUpdate_assignments (timerIntentId : Bytes) (store : TimerStore) :
    (afterUpdate timerIntentId store).assignments = store.assignments := by
  obtain ⟨_, frame⟩ := afterUpdate_frame timerIntentId store
  rw [frame]

theorem afterInsert_frame (timerIntentId : Bytes) (store : TimerStore) :
    ∃ revisions, afterInsert timerIntentId store = { store with setRevisions := revisions } := by
  unfold afterInsert
  split
  · exact ⟨_, rfl⟩
  · exact ⟨store.setRevisions, rfl⟩

variable {store next : TimerStore} {row old : TimerAssignmentRow}
  {expected : ReassignmentExpectation}

theorem of_abortIf {Result : Type} {condition : Bool} {rest : Except Refusal Result}
    {result : Result} (done : (abortIf condition >>= fun _ => rest) = .ok result) :
    condition = false ∧ rest = .ok result := by
  cases condition with
  | true => cases done
  | false => exact ⟨rfl, done⟩

theorem of_refuseIf {Refused Result : Type} {condition : Bool} {refused : Refused}
    {rest : Except Refused Result} {result : Result}
    (done : (refuseIf condition refused >>= fun _ => rest) = .ok result) :
    condition = false ∧ rest = .ok result := by
  cases condition with
  | true => cases done
  | false => exact ⟨rfl, done⟩

theorem of_bind {Refused First Result : Type} {first : Except Refused First}
    {rest : First → Except Refused Result} {result : Result} (done : first >>= rest = .ok result) :
    ∃ value, first = .ok value ∧ rest value = .ok result := by
  cases first with
  | error refused => cases done
  | ok value => exact ⟨value, rfl, done⟩

theorem of_oldOwnerMatches (matching : oldOwnerMatches expected row old = true) :
    old.timerAssignmentId = expected.oldAssignmentId ∧ old.timerIntentId = row.timerIntentId ∧
      old.backendId = expected.oldBackendId ∧ activeExclusiveOwner old = true ∧
      old.updatedAt < row.createdAt := by
  simp only [oldOwnerMatches, Bool.and_eq_true, beq_iff_eq, decide_eq_true_eq] at matching
  obtain ⟨⟨⟨⟨⟨⟨⟨⟨⟨identity, intent⟩, -⟩, -⟩, backend⟩, -⟩, role⟩, state⟩, -⟩, later⟩ := matching
  refine ⟨identity.symm, intent, backend, ?_, later⟩
  rw [activeExclusiveOwner, Bool.and_eq_true]
  refine ⟨decide_eq_true role, ?_⟩
  rw [timerAssignmentActiveOwnershipState, decide_eq_true_eq]
  simp only [List.mem_cons, List.not_mem_nil, or_false] at state ⊢
  tauto

theorem not_terminal_of_activeExclusiveOwner (active : activeExclusiveOwner row = true) :
    timerAssignmentTerminal row.state = false :=
  not_terminal_of_active (Bool.and_eq_true_iff.mp active).2

theorem activeExclusiveOwner_superseded (updatedAt : Int) (row : TimerAssignmentRow) :
    activeExclusiveOwner (supersededRow updatedAt row) = false := by
  rw [activeExclusiveOwner, Bool.and_eq_false_iff]
  exact .inr rfl

theorem readable_superseded {updatedAt : Int} (active : activeExclusiveOwner old = true)
    (later : old.updatedAt < updatedAt)
    (readable : ∃ assignment, readAssignment old = some assignment) :
    ∃ assignment, readAssignment (supersededRow updatedAt old) = some assignment := by
  obtain ⟨assignment, read⟩ := readable
  obtain ⟨revision, epoch, evidence, desired, readEvidence, readDesired, rfl, valid, desiredValid⟩ :=
    (readAssignment_eq_some_iff old assignment).mp read
  have numeral : (decimal (min (old.assignmentRevision + 1) int64Max)).length ≤ 160 := by
    have := decimal_length_le (min (old.assignmentRevision + 1) int64Max) 18
      (lt_of_le_of_lt (min_le_right _ _) (by decide))
    omega
  have positive : min (old.assignmentRevision + 1) int64Max ≠ 0 := by
    have : 0 < int64Max := by decide
    omega
  have owner : timerAssignmentActiveOwnershipState old.state = true :=
    (Bool.and_eq_true_iff.mp active).2
  refine ⟨_, (readAssignment_eq_some_iff _ _).mpr ⟨positive, epoch, evidence, desired, readEvidence,
    readDesired, rfl, timerAssignmentValid_superseded valid owner numeral later, ?_⟩⟩
  revert desiredValid
  unfold desiredNativeTimerSpecificationValidForAssignment
  cases desired with
  | none => exact id
  | some specification =>
    simp only [assignmentOfRow, supersededRow, Bool.and_eq_true]
    rintro ⟨⟨-, specification⟩, channel⟩
    exact ⟨⟨rfl, specification⟩, channel⟩

/-! ## Insertion -/

theorem of_replacementChecks (passed : replacementChecks expected row store = .ok ()) :
    row.role = .replacement ∧ row.state = .selected ∧ row.backendId ≠ expected.oldBackendId ∧
      ∃ old ∈ store.assignments, oldOwnerMatches expected row old = true := by
  obtain ⟨shape, passed⟩ := of_abortIf passed
  obtain ⟨backend, passed⟩ := of_abortIf passed
  obtain ⟨-, passed⟩ := of_abortIf passed
  obtain ⟨owner, passed⟩ := of_abortIf passed
  rw [Bool.or_eq_false_iff, bne_eq_false_iff_eq, bne_eq_false_iff_eq] at shape
  rw [Bool.not_eq_false', List.any_eq_true] at owner
  exact ⟨shape.1, shape.2, beq_eq_false_iff_ne.mp backend, owner⟩

/-- Either the trigger of a replacement does not concern a row, or it has checked everything and
superseded the old owner. -/
theorem reassignmentBefore_ok {superseding : TimerStore}
    (done : reassignmentBefore row store = .ok superseding) :
    superseding = store ∨
      ∃ expected, replacementChecks expected row store = .ok () ∧
        superseding = supersede expected.oldAssignmentId row.createdAt store := by
  unfold reassignmentBefore at done
  split at done
  · cases done
    exact .inl rfl
  · split at done
    · cases done
    · cases done
      exact .inl rfl
    · next expected table =>
      split at done
      · cases done
        exact .inl rfl
      · obtain ⟨⟨⟩, checks, done⟩ := of_bind done
        cases done
        exact .inr ⟨expected, checks, rfl⟩

theorem reassignmentBefore_fires {superseding : TimerStore}
    (done : reassignmentBefore row store = .ok superseding)
    (trigger : store.reassignmentBeforeTrigger = true)
    (table : store.reassignmentExpectations = some (some expected))
    (identity : row.timerAssignmentId = expected.replacementAssignmentId) :
    replacementChecks expected row store = .ok () ∧
      superseding = supersede expected.oldAssignmentId row.createdAt store := by
  simp only [reassignmentBefore, trigger, Bool.true_eq_false, if_false, table, ne_eq, identity,
    not_true_eq_false] at done
  obtain ⟨⟨⟩, checks, done⟩ := of_bind done
  cases done
  exact ⟨checks, rfl⟩

/-- What superseding does to the rows, and that it touches nothing a replacement relies on. -/
theorem supersede_frame (oldAssignmentId : Bytes) (updatedAt : Int) (store : TimerStore) :
    ∃ revisions, supersede oldAssignmentId updatedAt store =
      { store with
        assignments := store.assignments.map (supersedeRow oldAssignmentId updatedAt)
        setRevisions := revisions } := by
  unfold supersede
  cases found : store.assignments.find? (fun row => row.timerAssignmentId == oldAssignmentId) with
  | none =>
    refine ⟨store.setRevisions, ?_⟩
    have same : store.assignments.map (supersedeRow oldAssignmentId updatedAt) =
        store.assignments := by
      have absent := List.find?_eq_none.mp found
      conv_rhs => rw [← List.map_id store.assignments]
      exact List.map_congr_left fun row member => if_neg (by simpa using absent row member)
    simp [same]
  | some old =>
    obtain ⟨revisions, frame⟩ := afterUpdate_frame old.timerIntentId
      { store with assignments := store.assignments.map (supersedeRow oldAssignmentId updatedAt) }
    exact ⟨revisions, frame⟩

theorem reassignmentAfter_ok (done : reassignmentAfter row store = .ok next) :
    next = store ∨ ∃ expected, insertReassignment (reassignmentRow row expected) store = .ok next := by
  unfold reassignmentAfter at done
  split at done
  · cases done
    exact .inl rfl
  · split at done
    · cases done
    · cases done
      exact .inl rfl
    · next expected table =>
      split at done
      · cases done
        exact .inl rfl
      · exact .inr ⟨expected, done⟩

theorem reassignmentAfter_fires (done : reassignmentAfter row store = .ok next)
    (trigger : store.reassignmentAfterTrigger = true)
    (table : store.reassignmentExpectations = some (some expected))
    (identity : row.timerAssignmentId = expected.replacementAssignmentId) :
    insertReassignment (reassignmentRow row expected) store = .ok next := by
  simpa only [reassignmentAfter, trigger, Bool.true_eq_false, if_false, table, ne_eq, identity,
    not_true_eq_false] using done

theorem insertReassignment_ok {link : TimerAssignmentReassignmentRow}
    (done : insertReassignment link store = .ok next) :
    next = { store with reassignments := store.reassignments ++ [link] } ∧
      ∀ other ∈ store.reassignments,
        other.replacementAssignmentId ≠ link.replacementAssignmentId ∧
          other.oldAssignmentId ≠ link.oldAssignmentId := by
  unfold insertReassignment at done
  split at done
  · cases done
  · next free =>
    cases done
    refine ⟨rfl, fun other member => ?_⟩
    simp only [Bool.or_eq_true, not_or, Bool.not_eq_true, List.any_eq_false, beq_iff_eq] at free
    exact free.1.1.1.1.1 other member

/-- The parts of an insertion: the fence, the superseding trigger, the keys, and the triggers after
it. -/
theorem insertAssignment_done (done : insertAssignment row store = .ok next) :
    checkSetExpectation row store = .ok () ∧
      ∃ superseding, reassignmentBefore row store = .ok superseding ∧
        superseding.assignments.any (clashes row) = false ∧
        reassignmentAfter row (afterInsert row.timerIntentId
          { superseding with assignments := superseding.assignments ++ [row] }) = .ok next := by
  obtain ⟨⟨⟩, fence, done⟩ := of_bind done
  obtain ⟨superseding, before, done⟩ := of_bind done
  split at done
  · cases done
  · next free => exact ⟨fence, superseding, before, eq_false_of_ne_true free, done⟩

theorem insertAssignment_ok (done : insertAssignment row store = .ok next) :
    ∃ superseding revisions, reassignmentBefore row store = .ok superseding ∧
      superseding.assignments.any (clashes row) = false ∧
      reassignmentAfter row
        { superseding with
          assignments := superseding.assignments ++ [row]
          setRevisions := revisions } = .ok next := by
  obtain ⟨-, superseding, before, free, after⟩ := insertAssignment_done done
  obtain ⟨revisions, frame⟩ := afterInsert_frame row.timerIntentId
    { superseding with assignments := superseding.assignments ++ [row] }
  rw [frame] at after
  exact ⟨superseding, revisions, before, free, after⟩

/-- The rows after an insertion: the new one is appended under a fresh identity, and the others are
as they were, up to one that it supersedes. -/
theorem insertAssignment_rows (done : insertAssignment row store = .ok next) :
    ∃ change : TimerAssignmentRow → TimerAssignmentRow,
      next.assignments = store.assignments.map change ++ [row] ∧
        (∀ other, change other = other ∨ change other = supersededRow row.createdAt other) ∧
        ∀ other ∈ store.assignments, other.timerAssignmentId ≠ row.timerAssignmentId := by
  obtain ⟨superseding, revisions, before, free, after⟩ := insertAssignment_ok done
  have appended : next.assignments = superseding.assignments ++ [row] := by
    rcases reassignmentAfter_ok after with rfl | ⟨expected, linked⟩
    · rfl
    · rw [(insertReassignment_ok linked).1]
  have apart (other : TimerAssignmentRow) (member : other ∈ superseding.assignments) :
      other.timerAssignmentId ≠ row.timerAssignmentId :=
    ((clashes_eq_false_iff row other).mp
      (eq_false_of_ne_true (List.any_eq_false.mp free other member))).1
  rcases reassignmentBefore_ok before with rfl | ⟨expected, -, rfl⟩
  · exact ⟨id, by rw [List.map_id, appended], fun _ => .inl rfl, apart⟩
  · obtain ⟨_, frame⟩ := supersede_frame expected.oldAssignmentId row.createdAt store
    rw [frame] at appended apart
    refine ⟨supersedeRow expected.oldAssignmentId row.createdAt, appended, ?_, ?_⟩
    · intro other
      unfold supersedeRow
      split
      · exact .inr rfl
      · exact .inl rfl
    · intro other member
      have image := apart _ (List.mem_map_of_mem (f :=
        supersedeRow expected.oldAssignmentId row.createdAt) member)
      unfold supersedeRow at image
      split at image
      · exact image
      · exact image

/-! ## Evolution -/

/-- The rows before a call, each kept, and behind them the rows it added: with larger epochs. -/
def Evolves (before after : List TimerAssignmentRow) : Prop :=
  ∃ (change : TimerAssignmentRow → TimerAssignmentRow) (added : List TimerAssignmentRow),
    after = before.map change ++ added ∧ (∀ row ∈ before, RowKept row (change row)) ∧
      ∀ row ∈ added, ∀ old ∈ before, old.timerIntentId = row.timerIntentId →
        old.assignmentEpoch < row.assignmentEpoch

theorem Evolves.refl (rows : List TimerAssignmentRow) : Evolves rows rows :=
  ⟨id, [], by simp, fun row _ => RowKept.refl row, by simp⟩

theorem Evolves.trans {first second third : List TimerAssignmentRow}
    (earlier : Evolves first second) (later : Evolves second third) : Evolves first third := by
  obtain ⟨change, added, rfl, kept, grown⟩ := earlier
  obtain ⟨further, appended, rfl, keptOn, grownOn⟩ := later
  refine ⟨further ∘ change, added.map further ++ appended, by simp, ?_, ?_⟩
  · intro row member
    exact (kept row member).trans
      (keptOn (change row) (List.mem_append_left _ (List.mem_map_of_mem member)))
  · intro row member old present intent
    rcases List.mem_append.mp member with moved | fresh
    · obtain ⟨before, inAdded, rfl⟩ := List.mem_map.mp moved
      have same := keptOn before (List.mem_append_right _ inAdded)
      rw [same.intent] at intent
      rw [same.epoch]
      exact grown before inAdded old present intent
    · have same := kept old present
      have below := grownOn row fresh (change old)
        (List.mem_append_left _ (List.mem_map_of_mem present)) (same.intent.trans intent)
      rwa [same.epoch] at below

theorem Evolves.map {rows : List TimerAssignmentRow} {change : TimerAssignmentRow → TimerAssignmentRow}
    (kept : ∀ row ∈ rows, RowKept row (change row)) : Evolves rows (rows.map change) :=
  ⟨change, [], by simp, kept, by simp⟩

theorem Evolves.append {rows : List TimerAssignmentRow}
    (larger : ∀ old ∈ rows, old.timerIntentId = row.timerIntentId →
      old.assignmentEpoch < row.assignmentEpoch) : Evolves rows (rows ++ [row]) := by
  refine ⟨id, [row], by simp, fun other _ => RowKept.refl other, ?_⟩
  intro added member
  rw [List.mem_singleton.mp member]
  exact larger

theorem supersede_valid (valid : RowsValid store.assignments)
    (checks : replacementChecks expected row store = .ok ()) :
    RowsValid (store.assignments.map (supersedeRow expected.oldAssignmentId row.createdAt)) ∧
      ∀ other ∈ store.assignments,
        RowKept other (supersedeRow expected.oldAssignmentId row.createdAt other) := by
  obtain ⟨-, -, -, old, present, matching⟩ := of_replacementChecks checks
  obtain ⟨identity, -, -, active, later⟩ := of_oldOwnerMatches matching
  have only (other : TimerAssignmentRow) (member : other ∈ store.assignments)
      (named : other.timerAssignmentId = expected.oldAssignmentId) : other = old :=
    valid.eq_of_identity member present (named.trans identity.symm)
  have kept (other : TimerAssignmentRow) (member : other ∈ store.assignments) :
      RowKept other (supersedeRow expected.oldAssignmentId row.createdAt other) := by
    unfold supersedeRow
    split
    · next named =>
      cases only other member named
      refine ⟨rfl, rfl, rfl, fun terminal => ?_⟩
      rw [not_terminal_of_activeExclusiveOwner active] at terminal
      cases terminal
    · exact RowKept.refl other
  have owners (other : TimerAssignmentRow)
      (owner : activeExclusiveOwner
        (supersedeRow expected.oldAssignmentId row.createdAt other) = true) :
      activeExclusiveOwner other = true := by
    unfold supersedeRow at owner
    split at owner
    · rw [activeExclusiveOwner_superseded] at owner
      cases owner
    · exact owner
  refine ⟨valid.map kept ?_ ?_, kept⟩
  · intro other member
    unfold supersedeRow
    split
    · next named =>
      cases only other member named
      exact readable_superseded active later (valid.readable old present)
    · exact valid.readable other member
  · intro first firstMember second secondMember intent firstOwner secondOwner
    exact valid.exclusive first firstMember second secondMember intent (owners first firstOwner)
      (owners second secondOwner)

theorem insertAssignment_valid (valid : RowsValid store.assignments)
    (readable : ∃ assignment, readAssignment row = some assignment)
    (larger : ∀ old ∈ store.assignments, old.timerIntentId = row.timerIntentId →
      old.assignmentEpoch < row.assignmentEpoch)
    (done : insertAssignment row store = .ok next) :
    RowsValid next.assignments ∧ Evolves store.assignments next.assignments := by
  obtain ⟨superseding, revisions, before, free, after⟩ := insertAssignment_ok done
  have appended : next.assignments = superseding.assignments ++ [row] := by
    rcases reassignmentAfter_ok after with rfl | ⟨expected, linked⟩
    · rfl
    · rw [(insertReassignment_ok linked).1]
  rw [appended]
  rcases reassignmentBefore_ok before with rfl | ⟨expected, checks, rfl⟩
  · exact ⟨valid.append free readable, Evolves.append larger⟩
  · obtain ⟨supersededValid, kept⟩ := supersede_valid valid checks
    obtain ⟨_, frame⟩ := supersede_frame expected.oldAssignmentId row.createdAt store
    have rows : (supersede expected.oldAssignmentId row.createdAt store).assignments =
        store.assignments.map (supersedeRow expected.oldAssignmentId row.createdAt) := by
      rw [frame]
    rw [rows] at free ⊢
    refine ⟨supersededValid.append free readable, (Evolves.map kept).trans (Evolves.append ?_)⟩
    intro image member intent
    obtain ⟨old, present, rfl⟩ := List.mem_map.mp member
    rw [(kept old present).epoch]
    exact larger old present ((kept old present).intent ▸ intent)

theorem updateAssignment_valid (valid : RowsValid store.assignments)
    (readable : ∃ assignment, readAssignment row = some assignment) {expectedRevision : Nat}
    {current : TimerAssignmentRow} (present : current ∈ store.assignments)
    (kept : RowKept current row) (done : updateAssignment row expectedRevision store = .ok next) :
    RowsValid next.assignments ∧ Evolves store.assignments next.assignments ∧
      next.reassignments = store.reassignments := by
  unfold updateAssignment at done
  split at done
  · cases done
  · split at done
    · cases done
    · next free =>
      let change (other : TimerAssignmentRow) : TimerAssignmentRow :=
        if other.timerAssignmentId = row.timerAssignmentId then row else other
      obtain ⟨revisions, frame⟩ := afterUpdate_frame row.timerIntentId
        { store with assignments := store.assignments.map change }
      have same := (Except.ok.inj done).symm.trans frame
      have keeps (other : TimerAssignmentRow) (member : other ∈ store.assignments) :
          RowKept other (change other) := by
        dsimp only [change]
        split
        · next named =>
          cases valid.eq_of_identity member present (named.trans kept.identity)
          exact kept
        · exact RowKept.refl other
      have apart (other : TimerAssignmentRow) (member : other ∈ store.assignments)
          (different : other.timerAssignmentId ≠ row.timerAssignmentId) :
          other.timerIntentId = row.timerIntentId →
            ¬ (activeExclusiveOwner other = true ∧ activeExclusiveOwner row = true) := by
        have disjoint := List.any_eq_false.mp (eq_false_of_ne_true free) other member
        rw [Bool.and_eq_true, not_and, bne_iff_ne] at disjoint
        have := (clashes_eq_false_iff row other).mp
          (eq_false_of_ne_true (disjoint different))
        exact fun intent => (this.2 intent).2
      rw [same]
      refine ⟨valid.map keeps ?_ ?_, Evolves.map keeps, rfl⟩
      · intro other member
        dsimp only [change]
        split
        · exact readable
        · exact valid.readable other member
      · intro first firstMember second secondMember intent firstOwner secondOwner
        have firstIntent := (keeps first firstMember).intent
        have secondIntent := (keeps second secondMember).intent
        dsimp only [change] at firstOwner secondOwner firstIntent secondIntent
        split at firstOwner
        · next firstNamed =>
          rw [if_pos firstNamed] at firstIntent
          split at secondOwner
          · next secondNamed => exact firstNamed.trans secondNamed.symm
          · next different =>
            exact absurd ⟨secondOwner, firstOwner⟩
              (apart second secondMember different (intent.symm.trans firstIntent.symm))
        · next different =>
          split at secondOwner
          · next secondNamed =>
            rw [if_pos secondNamed] at secondIntent
            exact absurd ⟨firstOwner, secondOwner⟩
              (apart first firstMember different (intent.trans secondIntent.symm))
          · exact valid.exclusive first firstMember second secondMember intent firstOwner
              secondOwner

end VdrSuite.Timers
