import VdrSuite.Timers.TimerAssignmentLifecycle
import VdrSuite.Timers.TimerAssignmentReassignmentService

/-! What every write of the assignment table leaves of a handover: the row that records it, and the
two assignments that it is about. -/

set_option autoImplicit false

namespace VdrSuite.Timers

open Library Library.Transaction

variable {store next before after : TimerStore} {row : TimerAssignmentRow}
  {renamed : Bytes → Bytes → Prop}

/-! ## What is carried on -/

/-- Readable rows within their columns, and handover rows under both of their keys. -/
structure HandoversValid (store : TimerStore) : Prop where
  rows : RowsValid store.assignments
  bounded : RowsBounded store
  replacements :
    (store.reassignments.map TimerAssignmentReassignmentRow.replacementAssignmentId).Nodup
  olds : (store.reassignments.map TimerAssignmentReassignmentRow.oldAssignmentId).Nodup

def LinksGrow (before after : TimerStore) : Prop :=
  after.reassignments = before.reassignments ∨
    ∃ link, after.reassignments = before.reassignments ++ [link] ∧
      ∀ other ∈ before.reassignments,
        other.replacementAssignmentId ≠ link.replacementAssignmentId ∧
          other.oldAssignmentId ≠ link.oldAssignmentId

/-- Every assignment stays under its identity, its intent and its time of creation, and under its
intent revision unless it is renamed. -/
def RowsFollow (renamed : Bytes → Bytes → Prop) (before after : TimerStore) : Prop :=
  ∀ old ∈ before.assignments, ∃ new ∈ after.assignments,
    new.timerAssignmentId = old.timerAssignmentId ∧ new.timerIntentId = old.timerIntentId ∧
      new.createdAt = old.createdAt ∧
      (new.intentRevision = old.intentRevision ∨
        renamed old.timerAssignmentId new.intentRevision)

structure Carries (renamed : Bytes → Bytes → Prop) (before after : TimerStore) : Prop where
  valid : HandoversValid after
  rows : Evolves before.assignments after.assignments
  links : before.reassignments <+: after.reassignments
  follow : RowsFollow renamed before after

theorem LinksGrow.congr {ready written : TimerStore} (grow : LinksGrow ready written)
    (install : RecordsUnchanged before ready) (remove : RecordsUnchanged written after) :
    LinksGrow before after := by
  unfold LinksGrow at grow ⊢
  rw [remove.reassignments, ← install.reassignments]
  exact grow

theorem RowsFollow.congr {ready written : TimerStore} (follow : RowsFollow renamed ready written)
    (install : RecordsUnchanged before ready) (remove : RecordsUnchanged written after) :
    RowsFollow renamed before after := by
  unfold RowsFollow at follow ⊢
  rw [remove.assignments, ← install.assignments]
  exact follow

theorem RowsFollow.of_same (same : after.assignments = before.assignments) :
    RowsFollow renamed before after := by
  intro old present
  exact ⟨old, same ▸ present, rfl, rfl, rfl, .inl rfl⟩

theorem carries_of (valid : HandoversValid before) (rows : RowsValid after.assignments)
    (bounded : RowsBounded after) (evolves : Evolves before.assignments after.assignments)
    (grow : LinksGrow before after) (follow : RowsFollow renamed before after) :
    Carries renamed before after := by
  cases grow with
  | inl same =>
    refine ⟨⟨rows, bounded, ?_, ?_⟩, evolves, ?_, follow⟩
    · rw [same]
      exact valid.replacements
    · rw [same]
      exact valid.olds
    · exact same ▸ List.prefix_rfl
  | inr linked =>
    obtain ⟨link, added, fresh⟩ := linked
    have appended {Key : Type} (key : TimerAssignmentReassignmentRow → Key)
        (unique : (before.reassignments.map key).Nodup)
        (apart : ∀ other ∈ before.reassignments, key other ≠ key link) :
        (after.reassignments.map key).Nodup := by
      rw [added, List.map_append, List.map_singleton, ← List.concat_eq_append,
        List.nodup_concat]
      refine ⟨?_, unique⟩
      intro taken
      obtain ⟨other, member, same⟩ := List.mem_map.mp taken
      exact apart other member same
    refine ⟨⟨rows, bounded, ?_, ?_⟩, evolves, ?_, follow⟩
    · exact appended _ valid.replacements fun other member => (fresh other member).1
    · exact appended _ valid.olds fun other member => (fresh other member).2
    · rw [added]
      exact List.prefix_append _ _

theorem RecordsUnchanged.carries (same : RecordsUnchanged before after)
    (valid : HandoversValid before) : Carries renamed before after := by
  obtain ⟨rows, evolves⟩ := same.advances valid.rows
  exact carries_of valid rows (valid.bounded.congr same) evolves (.inl same.reassignments)
    (RowsFollow.of_same same.assignments)

theorem handoversValid_empty : HandoversValid {} := by
  constructor
  · exact rowsValid_nil
  · intro row member
    cases member
  · exact List.nodup_nil
  · exact List.nodup_nil

/-! ## Writes -/

theorem insertAssignment_links (done : insertAssignment row store = .ok next) :
    LinksGrow store next := by
  obtain ⟨superseding, revisions, checked, -, written⟩ := insertAssignment_ok done
  have kept : superseding.reassignments = store.reassignments := by
    cases reassignmentBefore_ok checked with
    | inl same => rw [same]
    | inr superseded =>
      obtain ⟨expected, -, rfl⟩ := superseded
      obtain ⟨_, frame⟩ := supersede_frame expected.oldAssignmentId row.createdAt store
      rw [frame]
  cases reassignmentAfter_ok written with
  | inl same =>
    left
    rw [same]
    exact kept
  | inr linked =>
    obtain ⟨expected, linked⟩ := linked
    obtain ⟨rfl, single⟩ := insertReassignment_ok linked
    right
    refine ⟨reassignmentRow row expected, ?_, ?_⟩
    · dsimp only
      rw [kept]
    · rw [← kept]
      exact single

theorem insertAssignment_follow (done : insertAssignment row store = .ok next) :
    RowsFollow renamed store next := by
  obtain ⟨change, rows, changes, -⟩ := insertAssignment_rows done
  intro old present
  refine ⟨change old, ?_, ?_⟩
  · rw [rows]
    exact List.mem_append_left _ (List.mem_map_of_mem present)
  · cases changes old with
    | inl same =>
      rw [same]
      exact ⟨rfl, rfl, rfl, .inl rfl⟩
    | inr superseded =>
      rw [superseded]
      exact ⟨rfl, rfl, rfl, .inl rfl⟩

theorem updateAssignment_ok {expectedRevision : Nat}
    (done : updateAssignment row expectedRevision store = .ok next) :
    ∃ revisions, next =
      { store with
        assignments := store.assignments.map fun current =>
          if current.timerAssignmentId = row.timerAssignmentId then row else current
        setRevisions := revisions } := by
  unfold updateAssignment at done
  split at done
  case isTrue => cases done
  case isFalse =>
  split at done
  case isTrue => cases done
  case isFalse =>
  obtain ⟨revisions, frame⟩ := afterUpdate_frame row.timerIntentId
    { store with
      assignments := store.assignments.map fun current =>
        if current.timerAssignmentId = row.timerAssignmentId then row else current }
  exact ⟨revisions, (Except.ok.inj done).symm.trans frame⟩

def RenamedBy (store : TimerStore) (call : TimerAssignmentCall) (timerAssignmentId : Bytes)
    (intentRevision : Bytes) : Prop :=
  match call with
  | .update works later expectedRevision =>
    later.timerAssignmentId = timerAssignmentId ∧ later.intentRevision = intentRevision ∧
      (update works later expectedRevision store).1.ok = true
  | _ => False

theorem update_follow {works : CarriedOut} {later : TimerAssignment} {expectedRevision : Bytes}
    (valid : RowsValid store.assignments)
    (accepted : (update works later expectedRevision store).1.ok = true) :
    RowsFollow (RenamedBy store (.update works later expectedRevision)) store
      (update works later expectedRevision store).2 := by
  obtain ⟨durable, number, row, checked, columns, done⟩ := update_accepted accepted
  obtain ⟨rfl, -, current, present, named, -, intent, -, -, -, createdAt⟩ :=
    updateDurable_ok checked
  obtain ⟨-, revision, -, rfl⟩ := bindAssignmentColumns_eq_some columns
  obtain ⟨revisions, written⟩ := updateAssignment_ok done
  rw [written]
  intro old member
  refine ⟨_, List.mem_map_of_mem member, ?_⟩
  split
  case isTrue same =>
    have only : old = current := valid.eq_of_identity member present (same.trans named.symm)
    subst only
    exact ⟨same.symm, intent, createdAt, .inr ⟨named.symm, rfl, accepted⟩⟩
  case isFalse => exact ⟨rfl, rfl, rfl, .inl rfl⟩

theorem update_links {works : CarriedOut} {later : TimerAssignment} {expectedRevision : Bytes}
    (accepted : (update works later expectedRevision store).1.ok = true) :
    LinksGrow store (update works later expectedRevision store).2 := by
  obtain ⟨durable, number, row, -, -, done⟩ := update_accepted accepted
  obtain ⟨revisions, written⟩ := updateAssignment_ok done
  left
  rw [written]

/-- What a call of the repository does to the handover rows and to the assignments behind them. -/
theorem perform_follow (valid : RowsValid store.assignments) (call : TimerAssignmentCall) :
    LinksGrow store (perform store call).1 ∧
      RowsFollow (RenamedBy store call) store (perform store call).1 := by
  have unchanged {after : TimerStore} (same : RecordsUnchanged store after) :
      LinksGrow store after ∧ RowsFollow (RenamedBy store call) store after :=
    ⟨.inl same.reassignments, RowsFollow.of_same same.assignments⟩
  have created {assignment : TimerAssignment} {ready written after : TimerStore}
      {row : TimerAssignmentRow} (install : RecordsUnchanged store ready)
      (creation : Created assignment ready written row) (remove : RecordsUnchanged written after) :
      LinksGrow store after ∧ RowsFollow (RenamedBy store call) store after :=
    ⟨(insertAssignment_links creation.inserted).congr install remove,
      (insertAssignment_follow creation.inserted).congr install remove⟩
  cases call with
  | create works assignment =>
    obtain ⟨-, same⟩ | ⟨-, row, creation⟩ := create_cases works assignment store
    · apply unchanged
      change RecordsUnchanged store (create works assignment store).2
      rw [same]
      exact RecordsUnchanged.refl store
    · exact created (RecordsUnchanged.refl store) creation (RecordsUnchanged.refl _)
  | update works later expectedRevision =>
    cases accepted : (update works later expectedRevision store).1.ok with
    | true => exact ⟨update_links accepted, update_follow valid accepted⟩
    | false =>
      apply unchanged
      change RecordsUnchanged store (update works later expectedRevision store).2
      rw [update_refused accepted]
      exact RecordsUnchanged.refl store
  | createAgainstAssignmentSetRevision works assignment expectedAssignmentSetRevision =>
    obtain ⟨-, same, -⟩ | ⟨-, _, _, _, _, -, -, -, install, creation, remove⟩ :=
      createAgainstAssignmentSetRevision_cases works assignment expectedAssignmentSetRevision store
    · exact unchanged same.toRecordsUnchanged
    · exact created install.toRecordsUnchanged creation remove.toRecordsUnchanged
  | createControlledReplacement works replacement expectedAssignmentSetRevision evidence =>
    obtain ⟨-, same, -⟩ | ⟨-, -, -, _, _, _, _, -, install, creation, remove⟩ :=
      createControlledReplacement_steps works replacement expectedAssignmentSetRevision evidence
        store
    · exact unchanged same.toRecordsUnchanged
    · exact created install.toRecordsUnchanged creation remove.toRecordsUnchanged
  | environment intents bindings operations =>
    exact ⟨.inl rfl, RowsFollow.of_same rfl⟩

theorem perform_carries (valid : HandoversValid store) (call : TimerAssignmentCall) :
    Carries (RenamedBy store call) store (perform store call).1 := by
  obtain ⟨rows, evolves⟩ := perform_advances store call valid.rows
  obtain ⟨grow, follow⟩ := perform_follow valid.rows call
  exact carries_of valid rows (perform_rowsBounded call valid.bounded) evolves grow follow

/-! ## The refresh of a bound assignment -/

theorem of_asInt64_pos {value : Nat} (word : value < 18446744073709551616)
    (positive : 0 < asInt64 value) : 0 < value ∧ value ≤ int64Max := by
  unfold asInt64 at positive
  split at positive
  case isTrue small => exact ⟨Int.natCast_pos.mp positive, small⟩
  case isFalse => omega

theorem readable_refreshed {generation : Nat} (observedAt : Int) (bound : row.state = .bound)
    (positive : 0 < generation) (small : row.assignmentRevision < int64Max)
    (readable : ∃ assignment, readAssignment row = some assignment) :
    ∃ assignment, readAssignment (refreshedRow generation observedAt row) = some assignment := by
  obtain ⟨assignment, read⟩ := readable
  obtain ⟨-, epoch, evidence, desired, readEvidence, readDesired, rfl, valid, desiredValid⟩ :=
    (readAssignment_eq_some_iff row assignment).mp read
  have numeral : (decimal (row.assignmentRevision + 1)).length ≤ 160 := by
    have := decimal_length_le (row.assignmentRevision + 1) 18
      (lt_of_le_of_lt (Nat.succ_le_of_lt small) (by decide))
    omega
  refine ⟨_, (readAssignment_eq_some_iff _ _).mpr ⟨Nat.succ_ne_zero _, epoch, evidence, desired,
    readEvidence, readDesired, rfl, ?_, desiredValid⟩⟩
  simp only [timerAssignmentValid, assignmentFieldsValid, assignedShapeValid, assignmentOfRow,
    refreshedRow, bound, Bool.and_eq_true, decide_eq_true_eq, nonEmptyBounded_iff] at valid ⊢
  obtain ⟨⟨⟨⟨⟨⟨⟨⟨⟨⟨id, -⟩, intent⟩, intentRevision⟩, number⟩, policy⟩, facts⟩, short⟩, created⟩,
    updated⟩, ⟨⟨⟨⟨backend, -⟩, channel⟩, capability⟩, health⟩, binding⟩ := valid
  have later : row.createdAt ≤ max (row.updatedAt + 1) observedAt :=
    le_max_of_le_left (updated.trans (Int.le_add_one (le_refl _)))
  exact ⟨⟨⟨⟨⟨⟨⟨⟨⟨⟨id, decimal_ne_nil _, numeral⟩, intent⟩, intentRevision⟩, number⟩, policy⟩, facts⟩,
    short⟩, created⟩, later⟩, ⟨⟨⟨⟨backend, positive⟩, channel⟩, capability⟩, health⟩, binding⟩

theorem refreshRow_cases (binding : NativeTimerBinding) (generation : Nat) (observedAt : Int)
    (found row : TimerAssignmentRow) :
    refreshRow binding generation observedAt found row = row ∨
      (row.state = .bound ∧ row.assignmentRevision = found.assignmentRevision ∧
        refreshRow binding generation observedAt found row =
          refreshedRow generation observedAt row) := by
  unfold refreshRow
  split
  case isTrue selected =>
    simp only [boundToBinding, Bool.and_eq_true, beq_iff_eq] at selected
    exact .inr ⟨selected.1.1.2, selected.2, rfl⟩
  case isFalse => exact .inl rfl

/-- The row that a refresh writes has a revision after its own, and the generation fits its column. -/
theorem refreshBoundAssignmentGeneration_room {reads writes : Bool} {binding : NativeTimerBinding}
    {generation : Nat} {observedAt : Int} (word : generation < 18446744073709551616)
    (done : refreshBoundAssignmentGeneration reads writes binding generation observedAt store =
      .ok next) :
    next = store ∨ ∃ found, found.assignmentRevision ≠ int64Max ∧ found ∈ store.assignments ∧
      0 < generation ∧ generation ≤ int64Max ∧
      ∃ revisions, next =
        { store with
          assignments :=
            store.assignments.map (refreshRow binding generation observedAt found)
          setRevisions := revisions } := by
  unfold refreshBoundAssignmentGeneration at done
  split at done
  case isTrue => cases done
  case isFalse =>
  cases selected : store.assignments.find? fun row =>
      boundToBinding binding row && store.intents.any (currentIntent row) with
  | none =>
    simp only [selected] at done
    cases done
  | some found =>
    simp only [selected] at done
    split at done
    case isTrue => cases done
    case isFalse usable =>
    simp only [not_or] at usable
    obtain ⟨present, older, -, room, -, -⟩ := usable
    split at done
    case isTrue =>
      cases done
      exact .inl rfl
    case isFalse =>
    obtain ⟨-, written⟩ := attempt_ok done
    obtain ⟨revisions, frame⟩ := afterUpdate_frame found.timerIntentId
      { store with
        assignments :=
          store.assignments.map (refreshRow binding generation observedAt found) }
    obtain ⟨positive, small⟩ := of_asInt64_pos word (by omega)
    exact .inr ⟨found, room, List.mem_of_find?_eq_some selected, positive, small, revisions,
      (Except.ok.inj written).symm.trans frame⟩

theorem refresh_carries {reads writes : Bool} {binding : NativeTimerBinding} {generation : Nat}
    {observedAt : Int} (word : generation < 18446744073709551616) (valid : HandoversValid store)
    (done : refreshBoundAssignmentGeneration reads writes binding generation observedAt store =
      .ok next) :
    Carries renamed store next := by
  obtain rfl | ⟨found, room, present, positive, small, revisions, rfl⟩ :=
    refreshBoundAssignmentGeneration_room word done
  · exact (RecordsUnchanged.refl next).carries valid
  have foundSmall : found.assignmentRevision < int64Max :=
    lt_of_le_of_ne (valid.bounded found present).revision room
  have kept (row : TimerAssignmentRow) :
      RowKept row (refreshRow binding generation observedAt found row) := by
    obtain same | ⟨bound, -, refreshed⟩ := refreshRow_cases binding generation observedAt found row
    · rw [same]
      exact RowKept.refl row
    · rw [refreshed]
      refine ⟨rfl, rfl, rfl, fun terminal => ?_⟩
      rw [bound] at terminal
      cases terminal
  have owners (row : TimerAssignmentRow) :
      activeExclusiveOwner (refreshRow binding generation observedAt found row) =
        activeExclusiveOwner row := by
    obtain same | ⟨-, -, refreshed⟩ := refreshRow_cases binding generation observedAt found row
    · rw [same]
    · rw [refreshed]
      rfl
  refine carries_of valid ?_ ?_ (Evolves.map fun row _ => kept row) (.inl rfl) ?_
  · apply valid.rows.map fun row _ => kept row
    · intro row member
      obtain same | ⟨bound, revision, refreshed⟩ :=
        refreshRow_cases binding generation observedAt found row
      · rw [same]
        exact valid.rows.readable row member
      · rw [refreshed]
        exact readable_refreshed observedAt bound positive (revision ▸ foundSmall)
          (valid.rows.readable row member)
    · intro first firstMember second secondMember intent firstOwner secondOwner
      rw [owners] at firstOwner secondOwner
      exact valid.rows.exclusive first firstMember second secondMember intent firstOwner secondOwner
  · intro image member
    obtain ⟨row, rowMember, rfl⟩ := List.mem_map.mp member
    obtain same | ⟨-, revision, refreshed⟩ :=
      refreshRow_cases binding generation observedAt found row
    · rw [same]
      exact valid.bounded row rowMember
    · rw [refreshed]
      exact ⟨Nat.succ_le_of_lt (revision ▸ foundSmall), (valid.bounded row rowMember).epoch, small⟩
  · intro old member
    refine ⟨_, List.mem_map_of_mem member, (kept old).identity, (kept old).intent, ?_⟩
    obtain same | ⟨-, -, refreshed⟩ := refreshRow_cases binding generation observedAt found old
    · rw [same]
      exact ⟨rfl, .inl rfl⟩
    · rw [refreshed]
      exact ⟨rfl, .inl rfl⟩

/-! ## The handover of a request -/

variable {request : TimerAssignmentReassignmentRequest} {link : TimerAssignmentReassignmentRow}

def RequestWhole (request : TimerAssignmentReassignmentRequest) : Prop :=
  ∀ value ∈ [request.oldTimerAssignmentId, request.expectedOldBackendId, request.oldOperationId,
    request.oldNativeTimerBindingId, request.reason], (0 : UInt8) ∉ value

instance (request : TimerAssignmentReassignmentRequest) : Decidable (RequestWhole request) :=
  inferInstanceAs (Decidable (∀ value ∈ _, _))

/-- The numbers of the request are those of an assignment that has been read. -/
structure NumbersRead (request : TimerAssignmentReassignmentRequest) : Prop where
  revision : ∃ revision, request.expectedOldAssignmentRevision = decimal revision
  epoch : request.expectedOldAssignmentEpoch ≤ int64Max
  generation : request.expectedOldBackendGeneration ≤ int64Max

structure ReplacementFor (request : TimerAssignmentReassignmentRequest)
    (replacement : TimerAssignment) : Prop where
  identity : replacement.timerAssignmentId = request.replacementTimerAssignmentId
  intentRevision : replacement.intentRevision = request.expectedIntentRevision
  createdAt : replacement.createdAt = request.createdAt

structure Records (request : TimerAssignmentReassignmentRequest)
    (evidence : TimerAssignmentReassignmentEvidence) : Prop where
  replacement : evidence.replacementTimerAssignmentId = request.replacementTimerAssignmentId
  old : evidence.oldTimerAssignmentId = request.oldTimerAssignmentId
  revision : evidence.oldAssignmentRevision = request.expectedOldAssignmentRevision
  epoch : evidence.oldAssignmentEpoch = request.expectedOldAssignmentEpoch
  backend : evidence.oldBackendId = request.expectedOldBackendId
  generation : evidence.oldBackendGeneration = request.expectedOldBackendGeneration
  outcome : evidence.oldNativeOutcome = request.oldNativeOutcome
  operation : evidence.oldOperationId = request.oldOperationId
  operationRevision : evidence.oldOperationRevision = request.expectedOldOperationRevision
  binding : evidence.oldNativeTimerBindingId = request.oldNativeTimerBindingId
  bindingRevision : evidence.oldBindingRevision = request.expectedOldBindingRevision
  reason : evidence.reason = request.reason

/-- The handover row of a request, and the two assignments that it is about; the replacement is still
under the intent revision that the request names. -/
structure HandedOver (request : TimerAssignmentReassignmentRequest)
    (link : TimerAssignmentReassignmentRow) (store : TimerStore) : Prop where
  linked : link ∈ store.reassignments
  named : link.replacementAssignmentId = request.replacementTimerAssignmentId
  rows : ∃ old ∈ store.assignments, ∃ new ∈ store.assignments,
    old.timerAssignmentId = request.oldTimerAssignmentId ∧
      new.timerAssignmentId = request.replacementTimerAssignmentId ∧
      new.timerIntentId = old.timerIntentId ∧ new.createdAt = request.createdAt ∧
      new.intentRevision = request.expectedIntentRevision

/-- A handover is kept by every write that does not name the replacement under another intent
revision. -/
theorem HandedOver.carried (handed : HandedOver request link before)
    (carries : Carries renamed before after)
    (undisturbed : ∀ revision, renamed request.replacementTimerAssignmentId revision →
      revision = request.expectedIntentRevision) :
    HandedOver request link after := by
  obtain ⟨old, oldPresent, new, newPresent, oldNamed, newNamed, intent, createdAt, revision⟩ :=
    handed.rows
  obtain ⟨oldAfter, oldAfterPresent, oldIdentity, oldIntent, -, -⟩ := carries.follow old oldPresent
  obtain ⟨newAfter, newAfterPresent, newIdentity, newIntent, newCreatedAt, newRevision⟩ :=
    carries.follow new newPresent
  refine ⟨carries.links.subset handed.linked, handed.named, oldAfter, oldAfterPresent, newAfter,
    newAfterPresent, oldIdentity.trans oldNamed, newIdentity.trans newNamed, ?_,
    newCreatedAt.trans createdAt, ?_⟩
  · rw [newIntent, oldIntent, intent]
  · cases newRevision with
    | inl same => exact same.trans revision
    | inr another =>
      rw [newNamed] at another
      exact undisturbed _ another

/-! ## Recording -/

theorem notMem_decimal_zero (number : Nat) : (0 : UInt8) ∉ decimal number :=
  notMem_decimal number 0 rfl

/-- The revisions that an expectation names after a native outcome are those of stored records. -/
theorem replacementChecks_verified {expected : ReassignmentExpectation}
    (passed : replacementChecks expected row store = .ok ())
    (verified : expected.oldNativeOutcome = .verifiedAbsent) :
    (∃ revision, expected.oldBindingRevision = decimal revision) ∧
      ∃ revision, expected.oldOperationRevision = decimal revision := by
  obtain ⟨-, passed⟩ := of_abortIf passed
  obtain ⟨-, passed⟩ := of_abortIf passed
  obtain ⟨-, passed⟩ := of_abortIf passed
  obtain ⟨-, passed⟩ := of_abortIf passed
  obtain ⟨-, passed⟩ := of_abortIf passed
  obtain ⟨binding, passed⟩ := of_abortIf passed
  have operation : (expected.oldNativeOutcome == .verifiedAbsent &&
      !store.operations.any (operationMatches expected)) = false := by
    cases condition : expected.oldNativeOutcome == .verifiedAbsent &&
        !store.operations.any (operationMatches expected) with
    | false => rfl
    | true =>
      rw [condition] at passed
      cases passed
  simp only [verified, beq_self_eq_true, Bool.true_and, Bool.not_eq_false', List.any_eq_true]
    at binding operation
  obtain ⟨found, -, bindingMatch⟩ := binding
  obtain ⟨performed, -, operationMatch⟩ := operation
  simp only [bindingMatches, Bool.and_eq_true, beq_iff_eq] at bindingMatch
  simp only [operationMatches, Bool.and_eq_true, beq_iff_eq] at operationMatch
  exact ⟨⟨found.bindingRevision, bindingMatch.1.1.1.1.1.1.1.1.2.symm⟩,
    ⟨performed.operationRevision, operationMatch.1.1.1.1.1.1.2.symm⟩⟩

theorem records_link {replacement : TimerAssignment} {setRevision oldRevision : Nat}
    (whole : RequestWhole request) (numbers : NumbersRead request)
    (parsed : parseUnsignedToken request.expectedOldAssignmentRevision = some oldRevision)
    (operationRevision : (0 : UInt8) ∉ request.expectedOldOperationRevision)
    (bindingRevision : (0 : UInt8) ∉ request.expectedOldBindingRevision) :
    Records request (evidenceOfRow request.replacementTimerAssignmentId
      (reassignmentRow row
        (expectationOf (evidenceFor request replacement) setRevision oldRevision))) := by
  have kept {value : Bytes} (complete : (0 : UInt8) ∉ value) : cString value = value :=
    (cString_eq_self_iff value).mpr complete
  simp only [RequestWhole, List.forall_mem_cons, List.not_mem_nil, false_imp_iff, implies_true,
    and_true] at whole
  obtain ⟨old, backend, operation, binding, reason⟩ := whole
  have number {value : Nat} (small : value ≤ int64Max) : (asInt64 value).toNat = value := by
    rw [asInt64, if_pos small]
    exact Int.toNat_natCast value
  obtain ⟨revision, canonical⟩ := numbers.revision
  have same : oldRevision = revision := by
    rw [canonical] at parsed
    exact (of_parseDecimal_decimal int64Max revision oldRevision (by decide) parsed).1
  constructor
  · rfl
  · exact kept old
  · rw [canonical, ← same]
    exact kept (notMem_decimal_zero oldRevision)
  · exact number numbers.epoch
  · exact kept backend
  · exact number numbers.generation
  · rfl
  · exact kept operation
  · exact kept operationRevision
  · exact kept binding
  · exact kept bindingRevision
  · exact kept reason

/-! ## Reading back -/

theorem findControlledReplacement_link {works : Stage → CarriedOut} {identity : Bytes}
    (ok : (findControlledReplacement works identity store).ok = true) :
    ∃ link ∈ store.reassignments, link.replacementAssignmentId = identity ∧
      (findControlledReplacement works identity store).evidence = evidenceOfRow identity link := by
  unfold findControlledReplacement at ok ⊢
  split at ok
  case isTrue => cases ok
  case isFalse safe =>
  rw [if_neg safe]
  split at ok
  case isTrue => cases ok
  case isFalse carriedOut =>
  rw [if_neg carriedOut]
  cases found : store.reassignments.find? fun row => row.replacementAssignmentId == identity with
  | none =>
    simp only [found] at ok
    cases ok
  | some link =>
    simp only [found] at ok ⊢
    split at ok
    case isTrue => cases ok
    case isFalse readable =>
    rw [if_neg readable]
    have named := List.find?_some found
    rw [beq_iff_eq] at named
    exact ⟨link, List.mem_of_find?_eq_some found, named, rfl⟩

def LookupCarriedOut (works : Stage → CarriedOut) : Prop :=
  works .readingBack .assignmentSchema = true ∧ works .readingBack .reassignmentSchema = true ∧
    works .readingBack .selectReassignment = true ∧ works .readingOld .assignmentSchema = true ∧
    works .readingOld .selectAssignment = true ∧
    works .readingReplacement .assignmentSchema = true ∧
    works .readingReplacement .selectAssignment = true

instance (works : Stage → CarriedOut) : Decidable (LookupCarriedOut works) :=
  inferInstanceAs (Decidable (_ ∧ _))

theorem findById_row {works : CarriedOut} (schema : works .assignmentSchema = true)
    (select : works .selectAssignment = true) (valid : RowsValid store.assignments)
    (present : row ∈ store.assignments) (safe : safeIdentity row.timerAssignmentId = true) :
    ∃ assignment, findById works row.timerAssignmentId store = assignmentResult .ok assignment ∧
      assignment.timerIntentId = row.timerIntentId ∧ assignment.createdAt = row.createdAt ∧
      assignment.intentRevision = row.intentRevision := by
  obtain ⟨assignment, read⟩ := valid.readable row present
  have selected := selectById_row select valid present read
  obtain ⟨-, -, evidence, desired, -, -, rfl, -, -⟩ :=
    (readAssignment_eq_some_iff row assignment).mp read
  refine ⟨assignmentOfRow row evidence desired, ?_, rfl, rfl, rfl⟩
  simp only [findById, safe, schema, selected, Bool.not_true, Bool.false_eq_true,
    Bool.true_eq_false, if_false]

theorem replay_of_handedOver {works : Stage → CarriedOut} (valid : HandoversValid store)
    (handed : HandedOver request link store)
    (records : Records request (evidenceOfRow request.replacementTimerAssignmentId link))
    (oldSafe : safeIdentity request.oldTimerAssignmentId = true)
    (newSafe : safeIdentity request.replacementTimerAssignmentId = true)
    (carriedOut : LookupCarriedOut works) :
    let replay := findControlledReplacement works request.replacementTimerAssignmentId store
    replay.ok = true ∧ replayMatches replay request = true ∧
      replay.evidence = evidenceOfRow request.replacementTimerAssignmentId link := by
  obtain ⟨schema, reassignments, select, oldSchema, oldSelect, newSchema, newSelect⟩ := carriedOut
  obtain ⟨old, oldPresent, new, newPresent, oldNamed, newNamed, intent, createdAt, revision⟩ :=
    handed.rows
  have found : (store.reassignments.find? fun row =>
      row.replacementAssignmentId == request.replacementTimerAssignmentId) = some link := by
    cases search : store.reassignments.find? fun row =>
        row.replacementAssignmentId == request.replacementTimerAssignmentId with
    | none =>
      have absent := List.find?_eq_none.mp search link handed.linked
      simp [handed.named] at absent
    | some other =>
      have named := List.find?_some search
      rw [beq_iff_eq] at named
      rw [List.inj_on_of_nodup_map valid.replacements (List.mem_of_find?_eq_some search)
        handed.linked (named.trans handed.named.symm)]
  obtain ⟨oldAssignment, oldFound, oldIntent, -, -⟩ :=
    findById_row oldSchema oldSelect valid.rows oldPresent (oldNamed ▸ oldSafe)
  obtain ⟨newAssignment, newFound, newIntent, newCreatedAt, newRevision⟩ :=
    findById_row newSchema newSelect valid.rows newPresent (newNamed ▸ newSafe)
  rw [oldNamed, ← records.old] at oldFound
  rw [newNamed] at newFound
  have answer : findControlledReplacement works request.replacementTimerAssignmentId store =
      { status := .ok
        oldAssignment := oldAssignment
        replacementAssignment := newAssignment
        evidence := evidenceOfRow request.replacementTimerAssignmentId link } := by
    have oldOk : (assignmentResult .ok oldAssignment).ok = true := rfl
    have newOk : (assignmentResult .ok newAssignment).ok = true := rfl
    simp only [findControlledReplacement, newSafe, schema, reassignments, select, found, oldFound,
      newFound, oldOk, newOk, Bool.not_true, Bool.false_eq_true, Bool.true_eq_false, or_self,
      Bool.or_self, if_false]
    rfl
  intro replay
  dsimp only [replay]
  rw [answer]
  refine ⟨rfl, ?_, rfl⟩
  simp only [replayMatches, newIntent, oldIntent, intent, newRevision, revision, newCreatedAt,
    createdAt, records.replacement, records.old, records.revision, records.epoch, records.backend,
    records.generation, records.outcome, records.operation, records.operationRevision,
    records.binding, records.bindingRevision, records.reason, beq_self_eq_true, Bool.and_self]

/-! ## The creation -/

/-- A controlled replacement that succeeds for a request hands over, and is answered with the
evidence that it has recorded. -/
theorem createControlledReplacement_handsOver {works : Stage → CarriedOut}
    {replacement : TimerAssignment} {expectedAssignmentSetRevision : Bytes}
    (valid : HandoversValid store) (asked : ReplacementFor request replacement)
    (numbers : NumbersRead request) (whole : RequestWhole request)
    (ok : (createControlledReplacement works replacement expectedAssignmentSetRevision
      (evidenceFor request replacement) store).1.ok = true) :
    let outcome := createControlledReplacement works replacement expectedAssignmentSetRevision
      (evidenceFor request replacement) store
    ∃ link, HandedOver request link outcome.2 ∧
      Records request (evidenceOfRow request.replacementTimerAssignmentId link) ∧
      outcome.1.evidence = evidenceOfRow request.replacementTimerAssignmentId link := by
  intro outcome
  have after : HandoversValid outcome.2 := (perform_carries valid (.createControlledReplacement works
    replacement expectedAssignmentSetRevision (evidenceFor request replacement))).valid
  obtain ⟨failed, -, -⟩ |
    ⟨arguments, answer, -, observed, ready, created, row, installed, install, creation, remove⟩ :=
    createControlledReplacement_steps works replacement expectedAssignmentSetRevision
      (evidenceFor request replacement) store
  · rw [failed] at ok
    cases ok
  obtain ⟨setRevision, oldRevision, parsed, table, beforeTrigger, afterTrigger⟩ :=
    installExpectation_true installed
  obtain ⟨checks, old, replacedRows⟩ :=
    creation.replacedBy asked.identity table beforeTrigger afterTrigger
  have replaced := replacedRows.congr install.toRecordsUnchanged remove.toRecordsUnchanged
  obtain ⟨-, revision, -, rowIs⟩ := bindAssignmentColumns_eq_some creation.columns
  have rowRevision : row.intentRevision = replacement.intentRevision := by
    rw [rowIs]
    rfl
  have rowCreatedAt : row.createdAt = replacement.createdAt := by
    rw [rowIs]
    rfl
  have named : row.timerAssignmentId = request.replacementTimerAssignmentId :=
    replaced.newIdentity.trans asked.identity
  have handed : HandedOver request (reassignmentRow row
      (expectationOf (evidenceFor request replacement) setRevision oldRevision)) outcome.2 := by
    refine ⟨?_, named, supersededRow replacement.createdAt old, ?_, row, ?_, replaced.oldIdentity,
      named, replaced.intent, rowCreatedAt.trans asked.createdAt,
      rowRevision.trans asked.intentRevision⟩
    · rw [replaced.linked]
      exact List.mem_append_right _ List.mem_cons_self
    · rw [replaced.rows]
      exact List.mem_append_left _ (List.mem_map.mpr ⟨old, replaced.present, if_pos rfl⟩)
    · rw [replaced.rows]
      exact List.mem_append_right _ List.mem_cons_self
  have revisionsWhole : (0 : UInt8) ∉ request.expectedOldOperationRevision ∧
      (0 : UInt8) ∉ request.expectedOldBindingRevision := by
    cases native : request.oldNativeOutcome with
    | beforeDispatch =>
      simp only [replacementArgumentsValid, evidenceShapeValid, evidenceFor, native,
        Bool.and_eq_true, List.isEmpty_iff] at arguments
      obtain ⟨-, -, ⟨⟨-, operationRevision⟩, -⟩, bindingRevision⟩ := arguments
      rw [operationRevision, bindingRevision]
      exact ⟨List.not_mem_nil, List.not_mem_nil⟩
    | verifiedAbsent =>
      obtain ⟨⟨bindingRevision, binding⟩, operationRevision, operation⟩ :=
        replacementChecks_verified checks native
      have bindingIs : request.expectedOldBindingRevision = decimal bindingRevision := binding
      have operationIs : request.expectedOldOperationRevision = decimal operationRevision :=
        operation
      rw [bindingIs, operationIs]
      exact ⟨notMem_decimal_zero operationRevision, notMem_decimal_zero bindingRevision⟩
  refine ⟨_, handed, records_link whole numbers parsed revisionsWhole.1 revisionsWhole.2, ?_⟩
  rw [answer] at ok
  obtain ⟨link, member, linkNamed, evidence⟩ := findControlledReplacement_link ok
  have same := List.inj_on_of_nodup_map after.replacements member handed.linked
    (linkNamed.trans (asked.identity.trans handed.named.symm))
  have read : outcome.1.evidence = evidenceOfRow replacement.timerAssignmentId link := by
    dsimp only [outcome]
    rw [answer]
    exact evidence
  rw [read, same, asked.identity]

end VdrSuite.Timers
