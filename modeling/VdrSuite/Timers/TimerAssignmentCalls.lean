import VdrSuite.Timers.TimerAssignmentRepositoryProperties

/-! The calls of the timer assignment repository: what they write, and what they leave alone. -/

set_option autoImplicit false

namespace VdrSuite.Timers

open Library Library.Transaction

variable {store next : TimerStore} {works : CarriedOut} {row : TimerAssignmentRow}
  {assignment : TimerAssignment}

/-! ## Refusals -/

def Refuses {Value : Type} (statuses : List TimerAssignmentRepositoryStatus)
    (outcome : Except TimerAssignmentRepositoryResult Value) : Prop :=
  EndsWith (fun result => result.status ∈ statuses) outcome

def createRefusals : List TimerAssignmentRepositoryStatus :=
  [.storageError, .invalid, .alreadyExists, .intentNotFound, .intentRevisionConflict,
    .ownershipConflict]

def updateRefusals : List TimerAssignmentRepositoryStatus :=
  .notFound :: .conflict :: createRefusals

variable {statuses : List TimerAssignmentRepositoryStatus}

theorem refuses_refuseIf {condition : Bool} {refused : TimerAssignmentRepositoryResult}
    (member : refused.status ∈ statuses) : Refuses statuses (refuseIf condition refused) := by
  cases condition with
  | true => exact endsWith_error member
  | false => exact endsWith_ok ()

theorem mem_updateRefusals {status : TimerAssignmentRepositoryStatus}
    (member : status ∈ createRefusals) : status ∈ updateRefusals :=
  List.mem_cons_of_mem _ (List.mem_cons_of_mem _ member)

theorem Refuses.of_create {Value : Type} {outcome : Except TimerAssignmentRepositoryResult Value}
    (refuses : Refuses createRefusals outcome) : Refuses updateRefusals outcome :=
  refuses.mono fun _ => mem_updateRefusals

theorem not_ok_of_mem {result : TimerAssignmentRepositoryResult}
    (member : result.status ∈ updateRefusals) : result.ok = false := by
  rw [TimerAssignmentRepositoryResult.ok, beq_eq_false_iff_ne]
  intro ok
  rw [ok] at member
  exact absurd member (by decide)

theorem invalid_mem : TimerAssignmentRepositoryStatus.invalid ∈ createRefusals := by decide

theorem storageError_mem : TimerAssignmentRepositoryStatus.storageError ∈ createRefusals := by
  decide

theorem selectById_refuses (works : CarriedOut) (timerAssignmentId : Bytes) (store : TimerStore) :
    Refuses createRefusals (selectById works timerAssignmentId store) := by
  unfold selectById
  split
  · exact endsWith_error (by decide)
  · split
    · exact endsWith_ok _
    · split
      · exact endsWith_error (by decide)
      · exact endsWith_ok _

theorem validateIntentRevision_refuses (works : CarriedOut) (assignment : TimerAssignment)
    (store : TimerStore) :
    Refuses createRefusals (validateIntentRevision works assignment store) := by
  unfold validateIntentRevision
  split
  · exact endsWith_error (by decide)
  · split
    · exact endsWith_error (by decide)
    · split
      · exact endsWith_error (by decide)
      · exact refuses_refuseIf (by decide)

theorem noOtherActivePrimary_refuses (works : CarriedOut)
    (timerIntentId excludedAssignmentId : Bytes) (store : TimerStore) :
    Refuses createRefusals
      (noOtherActivePrimary works timerIntentId excludedAssignmentId store) := by
  unfold noOtherActivePrimary
  split
  · exact endsWith_error (by decide)
  · exact refuses_refuseIf (by decide)

theorem createDurable_refuses (works : CarriedOut) (assignment : TimerAssignment)
    (store : TimerStore) : Refuses createRefusals (createDurable works assignment store) := by
  apply endsWith_bind (selectById_refuses works _ store)
  intro existing
  apply endsWith_bind (refuses_refuseIf (by decide))
  intro _
  apply endsWith_bind (validateIntentRevision_refuses works assignment store)
  intro _
  apply endsWith_bind
  · unfold nextAssignmentEpoch
    split
    · exact endsWith_error (by decide)
    · split
      · exact endsWith_error (by decide)
      · exact endsWith_ok _
  intro epoch
  apply endsWith_bind (refuses_refuseIf (by decide))
  intro _
  split
  · split
    · exact endsWith_bind (refuses_refuseIf (by decide)) fun _ => endsWith_ok _
    · exact endsWith_bind (noOtherActivePrimary_refuses works _ _ store) fun _ => endsWith_ok _
  · exact endsWith_ok _

theorem updateDurable_refuses (works : CarriedOut) (assignment : TimerAssignment)
    (expectedRevision : Bytes) (store : TimerStore) :
    Refuses updateRefusals (updateDurable works assignment expectedRevision store) := by
  unfold updateDurable
  split
  · exact endsWith_error (by decide)
  · apply endsWith_bind (refuses_refuseIf (by decide))
    intro _
    apply endsWith_bind (selectById_refuses works _ store).of_create
    intro found
    cases found with
    | none => exact endsWith_error (by decide)
    | some current =>
      have stale : (assignmentResult .conflict current).status ∈ updateRefusals :=
        List.mem_cons_of_mem _ List.mem_cons_self
      apply endsWith_bind (refuses_refuseIf stale)
      intro _
      apply endsWith_bind (refuses_refuseIf (by decide))
      intro _
      apply endsWith_bind (validateIntentRevision_refuses works assignment store).of_create
      intro _
      apply endsWith_bind (refuses_refuseIf (by decide))
      intro _
      split
      · exact endsWith_bind (noOtherActivePrimary_refuses works _ _ store).of_create
          fun _ => endsWith_ok _
      · exact endsWith_ok _

/-! ## Creation -/

theorem selectById_ok {timerAssignmentId : Bytes} {found : Option TimerAssignment}
    (selected : selectById works timerAssignmentId store = .ok found) :
    (found = none ∧ findRow timerAssignmentId store = none) ∨
      ∃ row assignment, found = some assignment ∧ row ∈ store.assignments ∧
        row.timerAssignmentId = timerAssignmentId ∧ readAssignment row = some assignment := by
  unfold selectById at selected
  split at selected
  · cases selected
  · split at selected
    · next absent =>
      cases selected
      exact .inl ⟨rfl, absent⟩
    · next row present =>
      split at selected
      · cases selected
      · next assignment read =>
        cases selected
        have named := List.find?_some present
        rw [beq_iff_eq] at named
        exact .inr ⟨row, assignment, rfl, List.mem_of_find?_eq_some present, named, read⟩

def durableOf (assignment : TimerAssignment) (epoch : Nat) : TimerAssignment :=
  { assignment with
    assignmentRevision := text "1"
    assignmentEpoch := epoch
    updatedAt := assignment.createdAt }

theorem createDurable_ok {durable : TimerAssignment}
    (created : createDurable works assignment store = .ok durable) :
    durable = durableOf assignment
        (maximumEpoch assignment.timerIntentId store.assignments + 1) ∧
      timerAssignmentValid durable = true := by
  obtain ⟨existing, -, created⟩ := of_bind created
  obtain ⟨-, created⟩ := of_refuseIf created
  obtain ⟨⟨⟩, -, created⟩ := of_bind created
  obtain ⟨epoch, next, created⟩ := of_bind created
  obtain ⟨valid, created⟩ := of_refuseIf created
  have epochIs : epoch = maximumEpoch assignment.timerIntentId store.assignments + 1 := by
    unfold nextAssignmentEpoch at next
    split at next
    · cases next
    · split at next
      · cases next
      · exact (Except.ok.inj next).symm
  have same : durable = durableOf assignment epoch := by
    split at created
    · split at created
      · obtain ⟨-, created⟩ := of_refuseIf created
        exact (Except.ok.inj created).symm
      · obtain ⟨⟨⟩, -, created⟩ := of_bind created
        exact (Except.ok.inj created).symm
    · exact (Except.ok.inj created).symm
  rw [same, ← epochIs]
  rw [Bool.not_eq_false'] at valid
  exact ⟨rfl, valid⟩

theorem writeDurable_cases (durable : TimerAssignment)
    (statement : TimerAssignmentRow → Statement TimerStore) (store : TimerStore) :
    ((writeDurable durable statement store).1.status ∈ createRefusals ∧
        (writeDurable durable statement store).2 = store) ∨
      ((writeDurable durable statement store).1.ok = true ∧
        ∃ row, bindAssignmentColumns durable = some row ∧
          statement row store = .ok (writeDurable durable statement store).2) := by
  unfold writeDurable
  cases columns : bindAssignmentColumns durable with
  | none => exact .inl ⟨List.mem_cons_self, rfl⟩
  | some row =>
    dsimp only
    cases done : statement row store with
    | error refusal =>
      refine .inl ⟨?_, rfl⟩
      cases refusal with
      | constraint => exact List.mem_of_elem_eq_true rfl
      | error => exact storageError_mem
    | ok next => exact .inr ⟨rfl, row, rfl, done⟩

/-- What a successful creation has done: it inserted the row of the durable assignment. -/
structure Created (assignment : TimerAssignment) (store next : TimerStore)
    (row : TimerAssignmentRow) : Prop where
  valid : timerAssignmentValid (durableOf assignment
    (maximumEpoch assignment.timerIntentId store.assignments + 1)) = true
  columns : bindAssignmentColumns (durableOf assignment
    (maximumEpoch assignment.timerIntentId store.assignments + 1)) = some row
  inserted : insertAssignment row store = .ok next

theorem createInTransaction_cases (works : CarriedOut) (assignment : TimerAssignment)
    (store : TimerStore) :
    (createInTransaction works assignment store).1.status ∈ createRefusals ∨
      ((createInTransaction works assignment store).1.ok = true ∧
        ∃ row, Created assignment store (createInTransaction works assignment store).2 row) := by
  unfold createInTransaction
  cases checked : createDurable works assignment store with
  | error result => exact .inl (createDurable_refuses works assignment store result checked)
  | ok durable =>
    obtain ⟨rfl, valid⟩ := createDurable_ok checked
    rcases writeDurable_cases (durableOf assignment _)
      (fun row => attempt (works .insertAssignment) (insertAssignment row)) store with
      ⟨refused, -⟩ | ⟨ok, row, columns, done⟩
    · exact .inl refused
    · exact .inr ⟨ok, row, valid, columns, (attempt_ok done).2⟩

/-- A creation either inserts the durable form of its assignment or leaves the store alone. -/
theorem create_cases (works : CarriedOut) (assignment : TimerAssignment) (store : TimerStore) :
    ((create works assignment store).1.status ∈ createRefusals ∧
        (create works assignment store).2 = store) ∨
      ((create works assignment store).1.ok = true ∧
        ∃ row, Created assignment store (create works assignment store).2 row) := by
  unfold create
  split
  · exact .inl ⟨invalid_mem, rfl⟩
  · split
    · exact .inl ⟨storageError_mem, rfl⟩
    · unfold transaction
      have body := createInTransaction_cases works assignment store
      split
      · exact .inl ⟨storageError_mem, rfl⟩
      · split
        · next unsuccessful =>
          rcases body with refused | ⟨ok, -⟩
          · exact .inl ⟨refused, rfl⟩
          · rw [ok] at unsuccessful
            cases unsuccessful
        · next successful =>
          split
          · exact .inl ⟨storageError_mem, rfl⟩
          · rcases body with refused | created
            · exact absurd (not_ok_of_mem (mem_updateRefusals refused)) successful
            · exact .inr created

theorem Created.readable {row : TimerAssignmentRow} (created : Created assignment store next row) :
    ∃ read, readAssignment row = some read :=
  ⟨_, readAssignment_bind (show _ = decimal 1 from rfl) created.valid created.columns⟩

theorem Created.larger {row : TimerAssignmentRow} (created : Created assignment store next row) :
    ∀ old ∈ store.assignments, old.timerIntentId = row.timerIntentId →
      old.assignmentEpoch < row.assignmentEpoch := by
  obtain ⟨-, revision, -, rfl⟩ := bindAssignmentColumns_eq_some created.columns
  intro old member intent
  have below := le_maximumEpoch member
  rw [intent] at below
  exact Nat.lt_succ_of_le below

/-! ## Update -/

/-- What a successful update has done: it wrote a newer form of a row that was not terminal. -/
structure Updated (store next : TimerStore) (current row : TimerAssignmentRow)
    (expectedRevision : Nat) : Prop where
  present : current ∈ store.assignments
  kept : RowKept current row
  role : row.role = current.role
  backend : current.backendId ≠ [] → row.backendId = current.backendId
  revision : row.assignmentRevision = expectedRevision + 1
  readable : ∃ assignment, readAssignment row = some assignment
  updated : updateAssignment row expectedRevision store = .ok next

theorem updateDurable_ok {assignment durable : TimerAssignment} {expectedRevision : Bytes}
    {number : Nat}
    (checked : updateDurable works assignment expectedRevision store = .ok (durable, number)) :
    durable = { assignment with assignmentRevision := decimal (number + 1) } ∧
      timerAssignmentValid durable = true ∧
      ∃ current ∈ store.assignments, current.timerAssignmentId = assignment.timerAssignmentId ∧
        timerAssignmentTerminal current.state = false ∧
        assignment.timerIntentId = current.timerIntentId ∧
        assignment.assignmentEpoch = current.assignmentEpoch ∧
        assignment.role = current.role ∧
        (current.backendId ≠ [] → assignment.backendId = current.backendId) ∧
        assignment.createdAt = current.createdAt := by
  unfold updateDurable at checked
  split at checked
  · cases checked
  · next revision parsed =>
    obtain ⟨-, checked⟩ := of_refuseIf checked
    obtain ⟨found, selected, checked⟩ := of_bind checked
    rcases selectById_ok selected with ⟨rfl, -⟩ | ⟨current, read, rfl, present, named, readable⟩
    · cases checked
    · obtain ⟨-, checked⟩ := of_refuseIf checked
      obtain ⟨unchanged, checked⟩ := of_refuseIf checked
      obtain ⟨⟨⟩, -, checked⟩ := of_bind checked
      obtain ⟨valid, checked⟩ := of_refuseIf checked
      have written : ({ assignment with assignmentRevision := decimal (revision + 1) }, revision) =
          (durable, number) := by
        split at checked
        · obtain ⟨⟨⟩, -, checked⟩ := of_bind checked
          exact Except.ok.inj checked
        · exact Except.ok.inj checked
      obtain ⟨rfl, rfl⟩ := Prod.mk.inj written
      rw [Bool.not_eq_false'] at valid
      simp only [Bool.or_eq_false_iff, bne_eq_false_iff_eq] at unchanged
      obtain ⟨⟨⟨⟨⟨⟨⟨⟨⟨terminal, intent⟩, epoch⟩, role⟩, createdAt⟩, -⟩, -⟩, -⟩, backend⟩, -⟩ := unchanged
      obtain ⟨-, -, evidence, desired, -, -, rfl, -, -⟩ :=
        (readAssignment_eq_some_iff current read).mp readable
      refine ⟨rfl, valid, current, present, named, terminal, intent, epoch, role, fun placed => ?_,
        createdAt⟩
      rw [Bool.and_eq_false_iff, Bool.not_eq_false', List.isEmpty_iff, bne_eq_false_iff_eq]
        at backend
      exact backend.resolve_left placed

theorem update_cases (works : CarriedOut) (assignment : TimerAssignment) (expectedRevision : Bytes)
    (store : TimerStore) :
    ((update works assignment expectedRevision store).1.ok = false ∧
        (update works assignment expectedRevision store).2 = store) ∨
      ∃ current row number,
        Updated store (update works assignment expectedRevision store).2 current row number := by
  have failing : (statusResult .storageError).ok = false := rfl
  unfold update
  split
  · exact .inl ⟨rfl, rfl⟩
  · rcases transaction_cases failing store with ⟨same, ok⟩ | ⟨same, failed⟩
    · rw [same]
      right
      unfold updateInCurrentTransaction at ok ⊢
      cases checked : updateDurable works assignment expectedRevision store with
      | error result =>
        have refused := updateDurable_refuses works assignment expectedRevision store result checked
        simp only [checked, not_ok_of_mem refused] at ok
        cases ok
      | ok answer =>
        obtain ⟨durable, number⟩ := answer
        obtain ⟨written, valid, current, present, named, open_, intent, epoch, role, backend, -⟩ :=
          updateDurable_ok checked
        simp only [checked] at ok
        rcases writeDurable_cases durable
          (fun row => attempt (works .updateAssignment) (updateAssignment row number)) store with
          ⟨refused, -⟩ | ⟨-, row, columns, done⟩
        · rw [not_ok_of_mem (mem_updateRefusals refused)] at ok
          cases ok
        · obtain ⟨-, revision, parsed, rowIs⟩ := bindAssignmentColumns_eq_some columns
          have canonical : durable.assignmentRevision = decimal (number + 1) := by rw [written]
          obtain ⟨bound, -, -⟩ := parseRevisionToken_decimal (canonical ▸ parsed)
          refine ⟨current, row, number, present, ⟨?_, ?_, ?_, ?_⟩, by rw [rowIs, ← role, written]; rfl,
            fun placed => by rw [rowIs, ← backend placed, written]; rfl,
            by rw [rowIs, bound]; rfl,
            ⟨durable, readAssignment_bind canonical valid columns⟩,
            (attempt_ok done).2⟩
          · rw [rowIs, named, written]
            rfl
          · rw [rowIs, ← intent, written]
            rfl
          · rw [rowIs, ← epoch, written]
            rfl
          · intro terminal
            rw [open_] at terminal
            cases terminal
    · exact .inl ⟨failed, same⟩

/-! ## Calls that change no record -/

/-- The same assignments, handover rows and set revisions, as any reader sees them. -/
structure RecordsUnchanged (before after : TimerStore) : Prop where
  assignments : after.assignments = before.assignments
  reassignments : after.reassignments = before.reassignments
  setRevisions : ∀ timerIntentId,
    observedSetRevision after timerIntentId = observedSetRevision before timerIntentId

theorem RecordsUnchanged.refl (store : TimerStore) : RecordsUnchanged store store :=
  ⟨rfl, rfl, fun _ => rfl⟩

theorem RecordsUnchanged.trans {first second third : TimerStore}
    (earlier : RecordsUnchanged first second) (later : RecordsUnchanged second third) :
    RecordsUnchanged first third :=
  ⟨later.assignments.trans earlier.assignments, later.reassignments.trans earlier.reassignments,
    fun intent => (later.setRevisions intent).trans (earlier.setRevisions intent)⟩

/-- The set revisions follow the assignments: the triggers are in place, and every intent with an
assignment has a set revision. -/
structure Fenced (store : TimerStore) : Prop where
  insertTrigger : store.setRevisionInsertTrigger = true
  updateTrigger : store.setRevisionUpdateTrigger = true
  deleteTrigger : store.setRevisionDeleteTrigger = true
  counted : ∀ row ∈ store.assignments, ∃ revision, store.setRevisions row.timerIntentId = some revision

/-- A change of no record, under which the set revisions go on following the assignments. -/
structure Unnoticed (before after : TimerStore) : Prop extends RecordsUnchanged before after where
  fenced : Fenced before → Fenced after

theorem Unnoticed.refl (store : TimerStore) : Unnoticed store store :=
  ⟨RecordsUnchanged.refl store, id⟩

theorem Unnoticed.trans {first second third : TimerStore} (earlier : Unnoticed first second)
    (later : Unnoticed second third) : Unnoticed first third :=
  ⟨earlier.toRecordsUnchanged.trans later.toRecordsUnchanged, later.fenced ∘ earlier.fenced⟩

theorem Unnoticed.of_same {before after : TimerStore}
    (assignments : after.assignments = before.assignments)
    (reassignments : after.reassignments = before.reassignments)
    (setRevisions : after.setRevisions = before.setRevisions)
    (insertTrigger : before.setRevisionInsertTrigger = true → after.setRevisionInsertTrigger = true)
    (updateTrigger : before.setRevisionUpdateTrigger = true → after.setRevisionUpdateTrigger = true)
    (deleteTrigger : before.setRevisionDeleteTrigger = true → after.setRevisionDeleteTrigger = true) :
    Unnoticed before after := by
  refine ⟨⟨assignments, reassignments, fun timerIntentId => ?_⟩, fun fenced =>
    ⟨insertTrigger fenced.insertTrigger, updateTrigger fenced.updateTrigger,
      deleteTrigger fenced.deleteTrigger, ?_⟩⟩
  · rw [observedSetRevision, observedSetRevision, setRevisions, assignments]
  · rw [assignments, setRevisions]
    exact fenced.counted

theorem fillSetRevisions_unchanged (store : TimerStore) :
    Unnoticed store (fillSetRevisions store) := by
  refine ⟨⟨rfl, rfl, fun timerIntentId => ?_⟩, fun ⟨onInsert, onUpdate, onDelete, counted⟩ =>
    ⟨onInsert, onUpdate, onDelete, fun row member => ?_⟩⟩
  · simp only [observedSetRevision, fillSetRevisions]
    cases store.setRevisions timerIntentId with
    | some revision => rfl
    | none =>
      dsimp only
      split
      · rfl
      · rfl
  · obtain ⟨revision, present⟩ := counted row member
    exact ⟨revision, by simp only [fillSetRevisions, present]⟩

def Unobserved (statement : Statement TimerStore) : Prop :=
  ∀ store next, statement store = .ok next → Unnoticed store next

theorem unobserved_attempt {carriedOut : Bool} {statement : Statement TimerStore}
    (unobserved : Unobserved statement) : Unobserved (attempt carriedOut statement) :=
  fun store next done => unobserved store next (attempt_ok done).2

theorem unobserved_change {change : TimerStore → TimerStore}
    (unchanged : ∀ store, Unnoticed store (change store)) :
    Unobserved fun store => .ok (change store) := by
  rintro store _ ⟨⟩
  exact unchanged store

theorem unobserved_unless {present : TimerStore → Bool} {change : TimerStore → TimerStore}
    (unchanged : ∀ store, Unnoticed store (change store)) :
    Unobserved fun store => if present store then .error .error else .ok (change store) := by
  intro store next done
  dsimp only at done
  split at done
  · cases done
  · cases done
    exact unchanged store

theorem executeAll_unchanged {statements : List (Statement TimerStore)}
    (each : ∀ statement ∈ statements, Unobserved statement) (store : TimerStore) :
    Unnoticed store (executeAll statements store).2 :=
  executeAll_relates Unnoticed.refl Unnoticed.trans each store

theorem setRevisionSchema_unchanged (works : CarriedOut) (store : TimerStore) :
    Unnoticed store (ensureAssignmentSetRevisionSchema works store).2 := by
  apply executeAll_unchanged
  simp only [setRevisionSchema, List.forall_mem_cons, List.not_mem_nil, false_imp_iff,
    implies_true, and_true]
  refine ⟨?_, ?_, ?_, ?_, ?_⟩
  · exact unobserved_attempt (unobserved_change Unnoticed.refl)
  · exact unobserved_attempt (unobserved_change fillSetRevisions_unchanged)
  · exact unobserved_attempt (unobserved_change fun _ => .of_same rfl rfl rfl (fun _ => rfl) id id)
  · exact unobserved_attempt (unobserved_change fun _ => .of_same rfl rfl rfl id (fun _ => rfl) id)
  · exact unobserved_attempt (unobserved_change fun _ => .of_same rfl rfl rfl id id fun _ => rfl)

theorem assignmentSetRevisionForIntent_unchanged (works : CarriedOut) (timerIntentId : Bytes)
    (store : TimerStore) :
    Unnoticed store (assignmentSetRevisionForIntent works timerIntentId store).2 := by
  have schema := setRevisionSchema_unchanged works store
  unfold assignmentSetRevisionForIntent
  split
  · exact Unnoticed.refl store
  · split
    · exact Unnoticed.refl store
    · split
      · next reached executed =>
        rw [executed] at schema
        exact schema
      · next reached executed =>
        rw [executed] at schema
        split
        · exact schema
        · split
          · split <;> exact schema
          · exact schema

theorem removeTemporaryExpectationFence_unchanged (works : CarriedOut) (store : TimerStore) :
    Unnoticed store (removeTemporaryExpectationFence works store) := by
  apply executeAll_unchanged
  simp only [List.forall_mem_cons, List.not_mem_nil, false_imp_iff, implies_true, and_true]
  exact ⟨unobserved_attempt (unobserved_change fun _ => .of_same rfl rfl rfl id id id),
    unobserved_attempt (unobserved_change fun _ => .of_same rfl rfl rfl id id id)⟩

theorem removeExpectation_unchanged (works : CarriedOut) (store : TimerStore) :
    Unnoticed store (removeExpectation works store) := by
  apply executeAll_unchanged
  simp only [List.forall_mem_cons, List.not_mem_nil, false_imp_iff, implies_true, and_true]
  exact ⟨unobserved_attempt (unobserved_change fun _ => .of_same rfl rfl rfl id id id),
    unobserved_attempt (unobserved_change fun _ => .of_same rfl rfl rfl id id id),
    unobserved_attempt (unobserved_change fun _ => .of_same rfl rfl rfl id id id)⟩

theorem setExpectationStatements_unobserved (works : CarriedOut) (expected : SetExpectation) :
    ∀ statement ∈ setExpectationStatements works expected, Unobserved statement := by
  simp only [setExpectationStatements, List.forall_mem_cons, List.not_mem_nil, false_imp_iff,
    implies_true, and_true]
  exact ⟨unobserved_attempt (unobserved_change fun _ => .of_same rfl rfl rfl id id id),
    unobserved_attempt (unobserved_unless fun _ => .of_same rfl rfl rfl id id id)⟩

theorem reassignmentExpectationStatements_unobserved (works : CarriedOut)
    (expected : ReassignmentExpectation) :
    ∀ statement ∈ reassignmentExpectationStatements works expected, Unobserved statement := by
  simp only [reassignmentExpectationStatements, List.forall_mem_cons, List.not_mem_nil,
    false_imp_iff, implies_true, and_true]
  exact ⟨unobserved_attempt (unobserved_change fun _ => .of_same rfl rfl rfl id id id),
    unobserved_attempt (unobserved_unless fun _ => .of_same rfl rfl rfl id id id),
    unobserved_attempt (unobserved_unless fun _ => .of_same rfl rfl rfl id id id)⟩

theorem createSetExpectations_unobserved (works : CarriedOut) :
    Unobserved (createSetExpectations works) := by
  unfold createSetExpectations
  exact unobserved_attempt (unobserved_unless fun _ => .of_same rfl rfl rfl id id id)

theorem createReassignmentExpectations_unobserved (works : CarriedOut) :
    Unobserved (createReassignmentExpectations works) := by
  unfold createReassignmentExpectations
  exact unobserved_attempt (unobserved_unless fun _ => .of_same rfl rfl rfl id id id)

theorem installTemporaryExpectationFence_unchanged (works : Stage → CarriedOut)
    (assignment : TimerAssignment) (expectedRevision : Nat) (store : TimerStore) :
    Unnoticed store
      (installTemporaryExpectationFence works assignment expectedRevision store).2 := by
  have cleared := removeTemporaryExpectationFence_unchanged (works .clearing) store
  unfold installTemporaryExpectationFence
  dsimp only
  split
  · exact cleared
  · next created creating =>
    have table := createSetExpectations_unobserved (works .calling) _ created creating
    have filled := executeAll_unchanged (setExpectationStatements_unobserved (works .calling)
      ⟨assignment.timerAssignmentId, assignment.timerIntentId, expectedRevision⟩) created
    split
    · next reached executed =>
      rw [executed] at filled
      exact (cleared.trans table).trans filled
    · next reached executed =>
      rw [executed] at filled
      exact ((cleared.trans table).trans filled).trans
        (removeTemporaryExpectationFence_unchanged (works .removing) reached)

theorem installExpectation_unchanged (works : Stage → CarriedOut) (expectedSetRevision : Bytes)
    (evidence : TimerAssignmentReassignmentEvidence) (store : TimerStore) :
    Unnoticed store (installExpectation works expectedSetRevision evidence store).2 := by
  have cleared := removeExpectation_unchanged (works .clearing) store
  unfold installExpectation
  split
  · next setRevision oldRevision _ _ =>
    dsimp only
    split
    · exact cleared
    · next created creating =>
      have table := createReassignmentExpectations_unobserved (works .calling) _ created creating
      have filled := executeAll_unchanged (reassignmentExpectationStatements_unobserved
        (works .calling) (expectationOf evidence setRevision oldRevision)) created
      split
      · next reached executed =>
        rw [executed] at filled
        exact (cleared.trans table).trans filled
      · next reached executed =>
        rw [executed] at filled
        exact ((cleared.trans table).trans filled).trans
          (removeExpectation_unchanged (works .removing) reached)
  · exact Unnoticed.refl store

/-! ## Evolution over calls -/

def Advances (before after : TimerStore) : Prop :=
  RowsValid before.assignments →
    RowsValid after.assignments ∧ Evolves before.assignments after.assignments

theorem RecordsUnchanged.advances {before after : TimerStore}
    (unchanged : RecordsUnchanged before after) : Advances before after := by
  intro valid
  rw [unchanged.assignments]
  exact ⟨valid, Evolves.refl _⟩

theorem Advances.trans {first second third : TimerStore} (earlier : Advances first second)
    (later : Advances second third) : Advances first third := by
  intro valid
  obtain ⟨middle, evolved⟩ := earlier valid
  obtain ⟨last, evolvedOn⟩ := later middle
  exact ⟨last, evolved.trans evolvedOn⟩

theorem Created.advances (created : Created assignment store next row) : Advances store next :=
  fun valid => insertAssignment_valid valid created.readable created.larger created.inserted

theorem create_advances (works : CarriedOut) (assignment : TimerAssignment) (store : TimerStore) :
    Advances store (create works assignment store).2 := by
  rcases create_cases works assignment store with ⟨-, same⟩ | ⟨-, row, created⟩
  · rw [same]
    exact (RecordsUnchanged.refl store).advances
  · exact created.advances

theorem update_advances (works : CarriedOut) (assignment : TimerAssignment)
    (expectedRevision : Bytes) (store : TimerStore) :
    Advances store (update works assignment expectedRevision store).2 := by
  rcases update_cases works assignment expectedRevision store with
    ⟨-, same⟩ | ⟨current, row, number, written⟩
  · rw [same]
    exact (RecordsUnchanged.refl store).advances
  · intro valid
    obtain ⟨after, evolved, -⟩ :=
      updateAssignment_valid valid written.readable written.present written.kept written.updated
    exact ⟨after, evolved⟩

theorem installTemporaryExpectationFence_true {works : Stage → CarriedOut} {expectedRevision : Nat}
    (installed : installTemporaryExpectationFence works assignment expectedRevision store =
      (true, next)) :
    next.setExpectations = some (some
        ⟨assignment.timerAssignmentId, assignment.timerIntentId, expectedRevision⟩) ∧
      next.setExpectationTrigger = true := by
  unfold installTemporaryExpectationFence at installed
  dsimp only at installed
  split at installed
  · cases installed
  · next created _ =>
    split at installed
    · next reached executed =>
      cases installed
      have all := congrArg Prod.fst executed
      have last := congrArg Prod.snd executed
      obtain ⟨filled, inserted, all, filledSame⟩ := executeAll_cons_true all
      obtain ⟨trigger, triggerCreated, all, triggerSame⟩ := executeAll_cons_true all
      obtain ⟨-, inserted⟩ := attempt_ok inserted
      obtain ⟨-, triggerCreated⟩ := attempt_ok triggerCreated
      cases inserted
      split at triggerCreated
      · cases triggerCreated
      · cases triggerCreated
        cases (filledSame.trans triggerSame).symm.trans last
        exact ⟨rfl, rfl⟩
    · cases installed

/-- A creation against a set revision fails and changes no record, or it creates the assignment
behind a complete fence; it reports a conflict only when another set revision is stored. -/
theorem createAgainstAssignmentSetRevision_cases (works : Stage → CarriedOut)
    (assignment : TimerAssignment) (expectedAssignmentSetRevision : Bytes) (store : TimerStore) :
    let outcome :=
      createAgainstAssignmentSetRevision works assignment expectedAssignmentSetRevision store
    (outcome.1.ok = false ∧ Unnoticed store outcome.2 ∧
        (outcome.1.status = .conflict → ∃ expectedRevision ready,
          parseUnsignedToken expectedAssignmentSetRevision = some expectedRevision ∧
          Unnoticed store ready ∧
          (ready.setRevisions assignment.timerIntentId).getD 0 ≠ expectedRevision)) ∨
      (outcome.1.status = .ok ∧ ∃ expectedRevision ready created row,
        parseUnsignedToken expectedAssignmentSetRevision = some expectedRevision ∧
        ready.setExpectations = some (some
          ⟨assignment.timerAssignmentId, assignment.timerIntentId, expectedRevision⟩) ∧
        ready.setExpectationTrigger = true ∧ Unnoticed store ready ∧
        Created assignment ready created row ∧ Unnoticed created outcome.2) := by
  intro outcome
  have schema := setRevisionSchema_unchanged (works .observing) store
  dsimp only [outcome]
  unfold createAgainstAssignmentSetRevision
  split
  · exact .inl ⟨rfl, Unnoticed.refl store, by rintro ⟨⟩⟩
  · split
    · exact .inl ⟨rfl, Unnoticed.refl store, by rintro ⟨⟩⟩
    · next expectedRevision parsed =>
      split
      · exact .inl ⟨rfl, Unnoticed.refl store, by rintro ⟨⟩⟩
      · split
        · next reached executed =>
          rw [executed] at schema
          exact .inl ⟨rfl, schema, by rintro ⟨⟩⟩
        · next reached executed =>
          rw [executed] at schema
          have install := schema.trans
            (installTemporaryExpectationFence_unchanged works assignment expectedRevision reached)
          split
          · next stopped installed =>
            rw [installed] at install
            exact .inl ⟨rfl, install, by rintro ⟨⟩⟩
          · next ready installed =>
            rw [installed] at install
            obtain ⟨table, trigger⟩ := installTemporaryExpectationFence_true installed
            have removed := removeTemporaryExpectationFence_unchanged (works .removing)
              (create (works .calling) assignment ready).2
            dsimp only
            rcases create_cases (works .calling) assignment ready with
              ⟨refused, same⟩ | ⟨ok, row, created⟩
            · left
              rw [same] at removed
              rw [same]
              split
              · next stale =>
                refine ⟨rfl, install.trans removed, fun _ => ⟨expectedRevision, ready, parsed,
                  install, ?_⟩⟩
                simp only [Bool.and_eq_true, readCurrentSetRevision, bne_iff_ne] at stale
                obtain ⟨⟨⟨-, readable⟩, other⟩, -⟩ := stale
                split at readable
                · cases readable
                · next reads =>
                  rw [if_neg reads] at other
                  exact fun current => other (congrArg some current)
              · refine ⟨not_ok_of_mem (mem_updateRefusals refused), install.trans removed,
                  fun conflict => ?_⟩
                rw [conflict] at refused
                exact absurd refused (by decide)
            · right
              rw [if_neg (by simp [ok])]
              exact ⟨beq_iff_eq.mp ok, expectedRevision, ready, _, row, parsed, table, trigger,
                install, created, removed⟩

theorem createAgainstAssignmentSetRevision_advances (works : Stage → CarriedOut)
    (assignment : TimerAssignment) (expectedAssignmentSetRevision : Bytes) (store : TimerStore) :
    Advances store
      (createAgainstAssignmentSetRevision works assignment expectedAssignmentSetRevision
        store).2 := by
  rcases createAgainstAssignmentSetRevision_cases works assignment expectedAssignmentSetRevision
    store with ⟨-, unchanged, -⟩ | ⟨-, _, _, _, _, -, -, -, install, created, remove⟩
  · exact unchanged.advances
  · exact (install.advances.trans created.advances).trans remove.advances

theorem afterCreation_unchanged (works : Stage → CarriedOut) (replacement : TimerAssignment)
    (expectedAssignmentSetRevision : Bytes) (result : TimerAssignmentRepositoryResult)
    (store : TimerStore) :
    Unnoticed store
      (afterCreation works replacement expectedAssignmentSetRevision result store).2 := by
  have rechecked := assignmentSetRevisionForIntent_unchanged (works .rechecking)
    replacement.timerIntentId store
  unfold afterCreation
  split
  · exact Unnoticed.refl store
  · dsimp only
    split <;> exact rechecked

end VdrSuite.Timers
