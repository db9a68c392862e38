import VdrSuite.Timers.TimerAssignmentOwnership

/-! Which declared transitions of a stored assignment the repository can carry out. -/

set_option autoImplicit false

namespace VdrSuite.Timers

open Library Library.Transaction

variable {store next : TimerStore} {row : TimerAssignmentRow} {current later : TimerAssignment}
  {target : TimerAssignmentState}

/-- A later record of an assignment in another state; only a proposal or a selection may name a
backend that the assignment does not have. -/
structure Continues (current later : TimerAssignment) (target : TimerAssignmentState) : Prop where
  identity : later.timerAssignmentId = current.timerAssignmentId
  intent : later.timerIntentId = current.timerIntentId
  role : later.role = current.role
  epoch : later.assignmentEpoch = current.assignmentEpoch
  createdAt : later.createdAt = current.createdAt
  state : later.state = target
  updatedAt : current.updatedAt < later.updatedAt
  representable : later.updatedAt ≤ int64Max
  backend : later.backendId = [] ∨ later.backendId = current.backendId ∨
    target ∈ [TimerAssignmentState.proposed, .selected]

def TransitionAccepted (store : TimerStore) (current : TimerAssignment)
    (target : TimerAssignmentState) : Prop :=
  ∃ works later, Continues current later target ∧
    (update works later current.assignmentRevision store).1.ok = true

def IntentCurrent (store : TimerStore) (current : TimerAssignment) : Prop :=
  ∃ intent, store.intents.find? (fun intent => intent.timerIntentId == current.timerIntentId) =
      some intent ∧ decimal intent.intentRevision = current.intentRevision

def CompetingOwner (store : TimerStore) (current : TimerAssignment)
    (target : TimerAssignmentState) : Prop :=
  current.role ≠ .replica ∧ timerAssignmentActiveOwnershipState target = true ∧
    ∃ other ∈ store.assignments, other.timerIntentId = current.timerIntentId ∧
      activeExclusiveOwner other = true ∧ other.timerAssignmentId ≠ current.timerAssignmentId

/-- The transitions that the shapes of assignments leave open: none into or, but for a proposal or a
selection, out of the unassigned state. The counters must leave room for one more step. -/
def Passable (current : TimerAssignment) (target : TimerAssignmentState) : Prop :=
  target ≠ .unassigned ∧
    (current.state = .unassigned → target ∈ [TimerAssignmentState.proposed, .selected]) ∧
    current.assignmentRevision ≠ decimal int64Max ∧ current.updatedAt < int64Max

/-! ## Bound rows -/

structure RowBounded (row : TimerAssignmentRow) : Prop where
  revision : row.assignmentRevision ≤ int64Max
  epoch : row.assignmentEpoch ≤ int64Max
  generation : row.backendGeneration ≤ int64Max

theorem RowBounded.of_columns (columns : bindAssignmentColumns current = some row) :
    RowBounded row := by
  unfold bindAssignmentColumns at columns
  split at columns
  case isTrue => cases columns
  case isFalse =>
  cases parsed : parseRevisionToken current.assignmentRevision with
  | none => simp only [parsed, reduceCtorEq] at columns
  | some revision =>
    simp only [parsed] at columns
    split at columns
    case isTrue => cases columns
    case isFalse small =>
    obtain ⟨epoch, generation⟩ := not_or.mp small
    rw [Option.some.injEq] at columns
    subst columns
    refine ⟨?_, Nat.not_lt.mp epoch, Nat.not_lt.mp generation⟩
    rw [parseRevisionToken, Netstring.parseUnsigned] at parsed
    cases number : parseDecimal int64Max current.assignmentRevision with
    | none => simp only [number, reduceCtorEq] at parsed
    | some value =>
      simp only [number] at parsed
      split at parsed
      case isTrue => cases parsed
      case isFalse =>
      rw [Option.some.injEq] at parsed
      exact parsed ▸ parseDecimal_le int64Max _ value number (by decide)

theorem RowBounded.superseded (bounded : RowBounded row) (updatedAt : Int) :
    RowBounded (supersededRow updatedAt row) :=
  ⟨Nat.min_le_right _ _, bounded.epoch, bounded.generation⟩

def RowsBounded (store : TimerStore) : Prop := ∀ row ∈ store.assignments, RowBounded row

theorem RowsBounded.congr (bounded : RowsBounded store) (same : RecordsUnchanged store next) :
    RowsBounded next := by
  intro row member
  rw [same.assignments] at member
  exact bounded row member

theorem Created.rowsBounded (created : Created current store next row)
    (bounded : RowsBounded store) : RowsBounded next := by
  obtain ⟨change, rows, changes, -⟩ := insertAssignment_rows created.inserted
  intro other member
  rw [rows] at member
  cases List.mem_append.mp member with
  | inl image =>
    obtain ⟨old, present, rfl⟩ := List.mem_map.mp image
    cases changes old with
    | inl same =>
      rw [same]
      exact bounded old present
    | inr superseded =>
      rw [superseded]
      exact (bounded old present).superseded row.createdAt
  | inr added =>
    rw [List.mem_singleton.mp added]
    exact RowBounded.of_columns created.columns

theorem updateAssignment_rowsBounded {revision : Nat} (fresh : RowBounded row)
    (done : updateAssignment row revision store = .ok next) (bounded : RowsBounded store) :
    RowsBounded next := by
  unfold updateAssignment at done
  split at done
  case isTrue => cases done
  case isFalse =>
  split at done
  case isTrue => cases done
  case isFalse =>
  rw [Except.ok.injEq] at done
  intro other member
  rw [← done, afterUpdate_assignments] at member
  obtain ⟨old, present, rfl⟩ := List.mem_map.mp member
  split
  case isTrue => exact fresh
  case isFalse => exact bounded old present

theorem update_accepted {works : CarriedOut} {expectedRevision : Bytes}
    (accepted : (update works later expectedRevision store).1.ok = true) :
    ∃ durable number row, updateDurable works later expectedRevision store = .ok (durable, number) ∧
      bindAssignmentColumns durable = some row ∧
      updateAssignment row number store = .ok (update works later expectedRevision store).2 := by
  have failing : (statusResult .storageError).ok = false := rfl
  unfold update at accepted ⊢
  split at accepted
  case isTrue => cases accepted
  case isFalse schema =>
  rw [if_neg schema]
  obtain ⟨same, ok⟩ | ⟨-, failed⟩ := transaction_cases failing store
  · rw [same]
    unfold updateInCurrentTransaction at ok ⊢
    cases checked : updateDurable works later expectedRevision store with
    | error result =>
      have refused := updateDurable_refuses works later expectedRevision store result checked
      simp only [checked, not_ok_of_mem refused] at ok
      cases ok
    | ok answer =>
      obtain ⟨durable, number⟩ := answer
      simp only [checked] at ok
      obtain ⟨refused, -⟩ | ⟨-, row, columns, done⟩ := writeDurable_cases durable
        (fun row => attempt (works .updateAssignment) (updateAssignment row number)) store
      · rw [not_ok_of_mem (mem_updateRefusals refused)] at ok
        cases ok
      · exact ⟨durable, number, row, rfl, columns, (attempt_ok done).2⟩
  · rw [failed] at accepted
    cases accepted

theorem update_refused {works : CarriedOut} {expectedRevision : Bytes}
    (refused : (update works later expectedRevision store).1.ok = false) :
    (update works later expectedRevision store).2 = store := by
  unfold update at refused ⊢
  split
  case isTrue => rfl
  case isFalse schema =>
    rw [if_neg schema] at refused
    exact transaction_failed rfl refused

theorem perform_rowsBounded (call : TimerAssignmentCall) (bounded : RowsBounded store) :
    RowsBounded (perform store call).1 := by
  cases call with
  | create works assignment =>
    obtain ⟨-, same⟩ | ⟨-, row, created⟩ := create_cases works assignment store
    · change RowsBounded (create works assignment store).2
      rw [same]
      exact bounded
    · exact created.rowsBounded bounded
  | update works assignment expectedRevision =>
    cases accepted : (update works assignment expectedRevision store).1.ok with
    | true =>
      obtain ⟨durable, number, row, -, columns, done⟩ := update_accepted accepted
      exact updateAssignment_rowsBounded (RowBounded.of_columns columns) done bounded
    | false =>
      change RowsBounded (update works assignment expectedRevision store).2
      rw [update_refused accepted]
      exact bounded
  | createAgainstAssignmentSetRevision works assignment expectedAssignmentSetRevision =>
    obtain ⟨-, unchanged, -⟩ | ⟨-, _, _, _, _, -, -, -, install, created, remove⟩ :=
      createAgainstAssignmentSetRevision_cases works assignment expectedAssignmentSetRevision store
    · exact bounded.congr unchanged.toRecordsUnchanged
    · exact (created.rowsBounded (bounded.congr install.toRecordsUnchanged)).congr
        remove.toRecordsUnchanged
  | createControlledReplacement works replacement expectedAssignmentSetRevision evidence =>
    obtain ⟨-, unchanged, -⟩ | ⟨-, -, -, _, _, _, _, -, install, created, remove⟩ :=
      createControlledReplacement_steps works replacement expectedAssignmentSetRevision evidence
        store
    · exact bounded.congr unchanged.toRecordsUnchanged
    · exact (created.rowsBounded (bounded.congr install.toRecordsUnchanged)).congr
        remove.toRecordsUnchanged
  | environment intents bindings operations => exact bounded

theorem reached_rowsBounded (calls : List TimerAssignmentCall) : RowsBounded (reached {} calls) := by
  have run (start : TimerStore) (bounded : RowsBounded start) : RowsBounded (reached start calls) := by
    induction calls generalizing start with
    | nil => exact bounded
    | cons call calls ih => exact ih _ (perform_rowsBounded call bounded)
  exact run {} (by intro row member; cases member)

/-! ## Accepted transitions -/

theorem selectById_row {works : CarriedOut} (carriedOut : works .selectAssignment = true)
    (valid : RowsValid store.assignments) (member : row ∈ store.assignments)
    (read : readAssignment row = some current) :
    selectById works row.timerAssignmentId store = .ok (some current) := by
  have found : findRow row.timerAssignmentId store = some row := by
    unfold findRow
    cases found : store.assignments.find? fun other =>
        other.timerAssignmentId == row.timerAssignmentId with
    | none =>
      have absent := List.find?_eq_none.mp found row member
      simp at absent
    | some other =>
      have named := List.find?_some found
      rw [beq_iff_eq] at named
      rw [valid.eq_of_identity (List.mem_of_find?_eq_some found) member named]
  simp only [selectById, carriedOut, Bool.true_eq_false, if_false, found, read]

theorem readAssignment_fields (read : readAssignment row = some current) :
    current.timerAssignmentId = row.timerAssignmentId ∧
      current.assignmentRevision = decimal row.assignmentRevision ∧
      current.timerIntentId = row.timerIntentId ∧ current.role = row.role ∧
      current.assignmentEpoch = row.assignmentEpoch ∧
      current.backendGeneration = row.backendGeneration ∧
      timerAssignmentValid current = true ∧
      desiredNativeTimerSpecificationValidForAssignment current = true ∧
      row.assignmentRevision ≠ 0 := by
  obtain ⟨revision, -, evidence, desired, -, -, rfl, valid, desiredValid⟩ :=
    (readAssignment_eq_some_iff row current).mp read
  exact ⟨rfl, rfl, rfl, rfl, rfl, rfl, valid, desiredValid, revision⟩

def movedAssignment (current : TimerAssignment) (target : TimerAssignmentState) : TimerAssignment :=
  { current with
    state := target
    updatedAt := current.updatedAt + 1
    nativeTimerBindingId :=
      if current.nativeTimerBindingId = [] then text "binding" else current.nativeTimerBindingId }

def placedAssignment (current : TimerAssignment) (target : TimerAssignmentState) :
    TimerAssignment :=
  { current with
    state := target
    updatedAt := current.updatedAt + 1
    backendId := text "backend"
    backendGeneration := 1
    channelBinding :=
      { backendChannelId := text "channel", mappingSource := text "mapping"
        mappingRevision := text "1" }
    capabilityRevision := text "1"
    backendHealthRevision := text "1" }

/-- What the checks of an update ask of the record that continues an assignment. -/
structure Acceptable (current later : TimerAssignment) : Prop where
  continues : Continues current later later.state
  revision : later.assignmentRevision = current.assignmentRevision
  intentRevision : later.intentRevision = current.intentRevision
  generation : later.backendGeneration ≤ int64Max
  valid : ∀ number, (decimal number).length ≤ 160 →
    timerAssignmentValid { later with assignmentRevision := decimal number } = true
  desired : later.desiredNativeTimerSpecification = current.desiredNativeTimerSpecification
  desiredValid : desiredNativeTimerSpecificationValidForAssignment later = true
  backend : current.backendId = [] ∨ later.backendId = current.backendId

theorem assignmentFieldsValid_spec (valid : assignmentFieldsValid current = true) :
    nonEmptyBounded current.timerAssignmentId 160 = true ∧
      nonEmptyBounded current.timerIntentId 160 = true ∧ current.intentRevision ≠ [] := by
  simp only [assignmentFieldsValid, Bool.and_eq_true] at valid
  obtain ⟨⟨⟨⟨⟨⟨⟨⟨⟨identity, -⟩, intent⟩, intentRevision⟩, -⟩, -⟩, -⟩, -⟩, -⟩, -⟩ := valid
  exact ⟨identity, intent, ((nonEmptyBounded_iff _ _).mp intentRevision).1⟩

theorem validateIntentRevision_current {works : CarriedOut}
    (carriedOut : works .selectIntentRevision = true)
    (safe : safeIdentity later.timerIntentId = true) (named : later.intentRevision ≠ [])
    (intentCurrent : IntentCurrent store later) :
    validateIntentRevision works later store = .ok () := by
  obtain ⟨intent, found, revision⟩ := intentCurrent
  have present : later.intentRevision.isEmpty = false := by simpa using named
  simp only [validateIntentRevision, safe, present, Bool.not_true, Bool.or_self,
    Bool.false_eq_true, if_false, carriedOut, Bool.true_eq_false, found, refuseIf, revision,
    bne_self_eq_false]

theorem noOtherActivePrimary_unopposed {works : CarriedOut}
    (carriedOut : works .selectActiveOwner = true) (owner : exclusiveOwnership later = true)
    (unopposed : ¬ CompetingOwner store later later.state) :
    noOtherActivePrimary works later.timerIntentId later.timerAssignmentId store = .ok () := by
  rw [exclusiveOwnership, Bool.and_eq_true, Bool.or_eq_true, beq_iff_eq, beq_iff_eq] at owner
  obtain ⟨role, active⟩ := owner
  have owning : later.role ≠ .replica := by
    intro replica
    rw [replica] at role
    cases role with
    | inl same => cases same
    | inr same => cases same
  have none_ : (store.assignments.any fun row =>
      row.timerIntentId == later.timerIntentId && activeExclusiveOwner row &&
      row.timerAssignmentId != later.timerAssignmentId) = false := by
    rw [List.any_eq_false]
    intro other member opposed
    simp only [Bool.and_eq_true, beq_iff_eq, bne_iff_ne] at opposed
    exact unopposed ⟨owning, active, other, member, opposed.1.1, opposed.1.2, opposed.2⟩
  simp only [noOtherActivePrimary, carriedOut, Bool.true_eq_false, if_false, none_, refuseIf,
    Bool.false_eq_true]

theorem updateDurable_acceptable (valid : RowsValid store.assignments)
    (member : row ∈ store.assignments) (read : readAssignment row = some current)
    (small : row.assignmentRevision < int64Max) (acceptable : Acceptable current later)
    (edge : timerAssignmentCanTransition current.state later.state = true)
    (intentCurrent : IntentCurrent store current)
    (unopposed : ¬ CompetingOwner store current later.state) :
    updateDurable (fun _ => true) later current.assignmentRevision store =
      .ok ({ later with assignmentRevision := decimal (row.assignmentRevision + 1) },
        row.assignmentRevision) := by
  obtain ⟨identity, revision, -, -, -, -, currentValid, -, positive⟩ := readAssignment_fields read
  have continues := acceptable.continues
  have fields : assignmentFieldsValid current = true :=
    (Bool.and_eq_true_iff.mp currentValid).1
  obtain ⟨safeId, safeIntent, intentNamed⟩ := assignmentFieldsValid_spec fields
  have parsed : parseRevisionToken current.assignmentRevision = some row.assignmentRevision := by
    rw [revision]
    exact Netstring.parseUnsigned_decimal _ _ _ small.le fun _ => Nat.pos_of_ne_zero positive
  have selected :
      selectById (fun _ => true) later.timerAssignmentId store = .ok (some current) := by
    rw [continues.identity, identity]
    exact selectById_row rfl valid member read
  have token : (later.assignmentRevision != current.assignmentRevision ||
      !safeIdentity later.timerAssignmentId) = false := by
    rw [acceptable.revision, continues.identity, safeIdentity, safeId]
    simp
  have matches_ : timerAssignmentRevisionMatches current.assignmentRevision
      current.assignmentRevision = true := by
    simp [timerAssignmentRevisionMatches, revision, decimal_ne_nil]
  have open_ : timerAssignmentTerminal current.state = false := by
    cases terminal : timerAssignmentTerminal current.state with
    | false => rfl
    | true =>
      rw [(timerAssignmentTerminal_iff current.state).mp terminal] at edge
      cases edge
  have kept : (timerAssignmentTerminal current.state ||
      later.timerIntentId != current.timerIntentId ||
      later.assignmentEpoch != current.assignmentEpoch || later.role != current.role ||
      later.createdAt != current.createdAt || decide (later.updatedAt ≤ current.updatedAt) ||
      !desiredNativeTimerSpecificationValidForAssignment later ||
      !desiredNativeTimerSpecificationImmutable current later ||
      (!current.backendId.isEmpty && later.backendId != current.backendId) ||
      (later.state != current.state &&
        !timerAssignmentCanTransition current.state later.state)) = false := by
    have updated : ¬ later.updatedAt ≤ current.updatedAt := Int.not_le.mpr continues.updatedAt
    have backend : (!current.backendId.isEmpty && later.backendId != current.backendId) =
        false := by
      cases acceptable.backend with
      | inl absent => rw [absent]; rfl
      | inr same => rw [same]; simp
    simp [open_, continues.intent, continues.epoch, continues.role, continues.createdAt, updated,
      acceptable.desiredValid, desiredNativeTimerSpecificationImmutable, acceptable.desired, backend,
      edge]
  have intentOk : validateIntentRevision (fun _ => true) later store = .ok () := by
    apply validateIntentRevision_current rfl
    · rw [continues.intent]
      exact safeIntent
    · rw [acceptable.intentRevision]
      exact intentNamed
    · rw [IntentCurrent, continues.intent, acceptable.intentRevision]
      exact intentCurrent
  have short : (decimal (row.assignmentRevision + 1)).length ≤ 160 := by
    have := decimal_length_le (row.assignmentRevision + 1) 18
      (lt_of_le_of_lt small (by decide))
    omega
  have durableValid := acceptable.valid (row.assignmentRevision + 1) short
  have alone : exclusiveOwnership later = true →
      noOtherActivePrimary (fun _ => true) later.timerIntentId later.timerAssignmentId store =
        .ok () := by
    intro owner
    apply noOtherActivePrimary_unopposed rfl owner
    rw [CompetingOwner, continues.role, continues.intent, continues.identity]
    exact unopposed
  unfold updateDurable
  simp only [parsed, refuseIf, token, selected, matches_, kept, intentOk, durableValid,
    Bool.not_true, Bool.false_eq_true, if_false, bind, Except.bind]
  cases owner : exclusiveOwnership later with
  | true =>
    have durableOwner : exclusiveOwnership
        { later with assignmentRevision := decimal (row.assignmentRevision + 1) } = true := owner
    simp only [durableOwner, if_true, alone owner]
    rfl
  | false =>
    have durableOwner : exclusiveOwnership
        { later with assignmentRevision := decimal (row.assignmentRevision + 1) } = false := owner
    simp only [durableOwner, Bool.false_eq_true, if_false]
    rfl

theorem acceptable_unclashed (revision : Nat) (valid : RowsValid store.assignments)
    (member : row ∈ store.assignments) (read : readAssignment row = some current)
    (acceptable : Acceptable current later)
    (unopposed : ¬ CompetingOwner store current later.state) :
    (store.assignments.any fun other =>
      other.timerAssignmentId != (assignmentColumns later revision).timerAssignmentId &&
      clashes (assignmentColumns later revision) other) = false := by
  obtain ⟨identity, -, intent, role, epoch, -, -, -, -⟩ := readAssignment_fields read
  have continues := acceptable.continues
  have sameId : (assignmentColumns later revision).timerAssignmentId = row.timerAssignmentId :=
    continues.identity.trans identity
  rw [List.any_eq_false]
  intro other present clash
  rw [Bool.and_eq_true, bne_iff_ne, sameId] at clash
  obtain ⟨different, clash⟩ := clash
  have apart : clashes (assignmentColumns later revision) other = false := by
    refine (clashes_eq_false_iff _ other).mpr ⟨sameId ▸ different, fun sameIntent => ⟨?_, ?_⟩⟩
    · intro sameEpoch
      exact different (valid.distinct other present row member
        (sameIntent.trans (continues.intent.trans intent))
        (sameEpoch.trans (continues.epoch.trans epoch)))
    · intro both
      obtain ⟨owner, owning⟩ := both
      rw [activeExclusiveOwner, Bool.and_eq_true, decide_eq_true_eq] at owning
      obtain ⟨exclusive, active⟩ := owning
      have laterRole : (assignmentColumns later revision).role = current.role := continues.role
      rw [laterRole] at exclusive
      refine unopposed ⟨?_, active, other, present, sameIntent.trans continues.intent, owner,
        identity ▸ different⟩
      intro replica
      rw [replica] at exclusive
      cases List.mem_cons.mp exclusive with
      | inl same => cases same
      | inr listed => cases List.mem_singleton.mp listed
  rw [apart] at clash
  cases clash

theorem bindAssignmentColumns_acceptable (read : readAssignment row = some current)
    (bounded : RowBounded row) (small : row.assignmentRevision < int64Max)
    (acceptable : Acceptable current later) :
    bindAssignmentColumns
        { later with assignmentRevision := decimal (row.assignmentRevision + 1) } =
      some (assignmentColumns later (row.assignmentRevision + 1)) := by
  obtain ⟨-, -, -, -, epoch, -, -, -, -⟩ := readAssignment_fields read
  have parsed : parseRevisionToken (decimal (row.assignmentRevision + 1)) =
      some (row.assignmentRevision + 1) :=
    Netstring.parseUnsigned_decimal _ _ _ small fun _ => Nat.succ_pos _
  have desired : desiredNativeTimerSpecificationValidForAssignment
      { later with assignmentRevision := decimal (row.assignmentRevision + 1) } = true :=
    acceptable.desiredValid
  have epochSmall : ¬ later.assignmentEpoch > int64Max := by
    rw [acceptable.continues.epoch, epoch]
    exact Nat.not_lt.mpr bounded.epoch
  have generationSmall : ¬ later.backendGeneration > int64Max :=
    Nat.not_lt.mpr acceptable.generation
  simp only [bindAssignmentColumns, desired, Bool.true_eq_false, if_false, parsed, epochSmall,
    generationSmall, or_self]
  rfl

theorem update_acceptable (valid : RowsValid store.assignments)
    (member : row ∈ store.assignments) (read : readAssignment row = some current)
    (bounded : RowBounded row) (small : row.assignmentRevision < int64Max)
    (acceptable : Acceptable current later)
    (edge : timerAssignmentCanTransition current.state later.state = true)
    (intentCurrent : IntentCurrent store current)
    (unopposed : ¬ CompetingOwner store current later.state) :
    (update (fun _ => true) later current.assignmentRevision store).1.ok = true := by
  obtain ⟨identity, -, -, -, -, -, -, -, -⟩ := readAssignment_fields read
  have checked := updateDurable_acceptable valid member read small acceptable edge intentCurrent
    unopposed
  have columns := bindAssignmentColumns_acceptable read bounded small acceptable
  have free := acceptable_unclashed (row.assignmentRevision + 1) valid member read acceptable
    unopposed
  have present : (store.assignments.any fun stored =>
      stored.timerAssignmentId ==
        (assignmentColumns later (row.assignmentRevision + 1)).timerAssignmentId &&
      stored.assignmentRevision == row.assignmentRevision) = true := by
    rw [List.any_eq_true]
    refine ⟨row, member, ?_⟩
    rw [Bool.and_eq_true, beq_iff_eq, beq_iff_eq]
    exact ⟨(acceptable.continues.identity.trans identity).symm, rfl⟩
  have written : ∃ next, updateAssignment (assignmentColumns later (row.assignmentRevision + 1))
      row.assignmentRevision store = .ok next := by
    rw [updateAssignment, if_neg (by rw [present]; decide), if_neg (by rw [free]; decide)]
    exact ⟨_, rfl⟩
  obtain ⟨next, written⟩ := written
  have body : (updateInCurrentTransaction (fun _ => true) later current.assignmentRevision
      store).1.ok = true := by
    simp only [updateInCurrentTransaction, checked, writeDurable, columns, attempt, if_true, written]
    rfl
  simp only [update, transaction, Bool.true_eq_false, if_false, body]

/-! ## Records that continue an assignment -/

theorem assignmentFieldsValid_moved {number : Nat} (valid : assignmentFieldsValid current = true)
    (short : (decimal number).length ≤ 160) (later : TimerAssignment)
    (identity : later.timerAssignmentId = current.timerAssignmentId)
    (revision : later.assignmentRevision = decimal number)
    (intent : later.timerIntentId = current.timerIntentId)
    (intentRevision : later.intentRevision = current.intentRevision)
    (epoch : later.assignmentEpoch = current.assignmentEpoch)
    (policy : later.decisionPolicyVersion = current.decisionPolicyVersion)
    (evidence : later.decisionEvidence = current.decisionEvidence)
    (binding : bounded later.nativeTimerBindingId 160 = true)
    (createdAt : later.createdAt = current.createdAt)
    (updatedAt : later.updatedAt = current.updatedAt + 1) :
    assignmentFieldsValid later = true := by
  simp only [assignmentFieldsValid, Bool.and_eq_true, decide_eq_true_eq] at valid ⊢
  obtain ⟨⟨⟨⟨⟨⟨⟨⟨⟨validId, -⟩, validIntent⟩, validRevision⟩, validEpoch⟩, validPolicy⟩,
    validEvidence⟩, -⟩, created⟩, updated⟩ := valid
  have token : nonEmptyBounded later.assignmentRevision 160 = true := by
    rw [revision]
    exact (nonEmptyBounded_iff _ _).mpr ⟨decimal_ne_nil number, short⟩
  rw [identity, intent, intentRevision, epoch, policy, evidence, createdAt, updatedAt]
  exact ⟨⟨⟨⟨⟨⟨⟨⟨⟨validId, token⟩, validIntent⟩, validRevision⟩, validEpoch⟩, validPolicy⟩,
    validEvidence⟩, binding⟩, created⟩, by omega⟩

theorem movedAssignment_binding (valid : assignmentFieldsValid current = true)
    (target : TimerAssignmentState) :
    nonEmptyBounded (movedAssignment current target).nativeTimerBindingId 160 = true := by
  simp only [assignmentFieldsValid, Bool.and_eq_true] at valid
  obtain ⟨⟨⟨-, binding⟩, -⟩, -⟩ := valid
  rw [bounded_iff] at binding
  rw [nonEmptyBounded_iff]
  unfold movedAssignment
  dsimp only
  split
  case isTrue => decide
  case isFalse bound => exact ⟨bound, binding⟩

theorem movedAssignment_acceptable (read : readAssignment row = some current)
    (bounded : RowBounded row) (room : current.updatedAt < int64Max)
    (assigned : current.state ≠ .unassigned) (open_ : target ≠ .unassigned) :
    Acceptable current (movedAssignment current target) := by
  obtain ⟨-, -, -, -, -, generation, valid, desiredValid, -⟩ := readAssignment_fields read
  have fields : assignmentFieldsValid current = true := (Bool.and_eq_true_iff.mp valid).1
  have shape := assignedShape_of_valid valid assigned
  have binding := movedAssignment_binding fields target
  refine ⟨⟨rfl, rfl, rfl, rfl, rfl, rfl, Int.lt_succ _, room, .inr (.inl rfl)⟩, rfl, rfl,
    generation ▸ bounded.generation, ?_, rfl, ?_, .inr rfl⟩
  · intro number short
    rw [timerAssignmentValid, Bool.and_eq_true]
    constructor
    · exact assignmentFieldsValid_moved fields short _ rfl rfl rfl rfl rfl rfl rfl
        ((bounded_iff _ _).mpr ((nonEmptyBounded_iff _ _).mp binding).2) rfl rfl
    · have kept : assignedShapeValid { movedAssignment current target with
          assignmentRevision := decimal number } = true := shape
      cases target with
      | unassigned => exact absurd rfl open_
      | bound => exact Bool.and_eq_true_iff.mpr ⟨kept, binding⟩
      | proposed | selected | provisioning | reconciling | superseding | superseded
        | cancelRequested | cancelled | failed => exact kept
  · unfold desiredNativeTimerSpecificationValidForAssignment at desiredValid ⊢
    unfold movedAssignment
    cases desired : current.desiredNativeTimerSpecification with
    | none => rfl
    | some specification =>
      simp only [desired, Bool.and_eq_true] at desiredValid
      simp only [desiredValid, bne_iff_ne.mpr open_, Bool.and_self]

theorem placedAssignment_acceptable (read : readAssignment row = some current)
    (room : current.updatedAt < int64Max) (unassigned : current.state = .unassigned)
    (chosen : target ∈ [TimerAssignmentState.proposed, .selected]) :
    Acceptable current (placedAssignment current target) := by
  obtain ⟨-, -, -, -, -, -, valid, -, -⟩ := readAssignment_fields read
  rw [timerAssignmentValid, unassigned, Bool.and_eq_true] at valid
  obtain ⟨fields, shape⟩ := valid
  simp only [unassignedShapeValid, Bool.and_eq_true, List.isEmpty_iff, Option.isNone_iff_eq_none]
    at shape
  obtain ⟨⟨⟨⟨⟨⟨backend, -⟩, -⟩, -⟩, -⟩, desired⟩, binding⟩ := shape
  have generation : 1 ≤ int64Max := by decide
  have unbound : bounded (placedAssignment current target).nativeTimerBindingId 160 = true := by
    change bounded current.nativeTimerBindingId 160 = true
    rw [binding]
    decide
  refine ⟨⟨rfl, rfl, rfl, rfl, rfl, rfl, Int.lt_succ _, room, .inr (.inr chosen)⟩, rfl, rfl,
    generation, ?_, rfl, ?_, .inl backend⟩
  · intro number short
    rw [timerAssignmentValid, Bool.and_eq_true]
    constructor
    · exact assignmentFieldsValid_moved fields short _ rfl rfl rfl rfl rfl rfl rfl unbound rfl rfl
    · cases List.mem_cons.mp chosen with
      | inl proposed => subst proposed; rfl
      | inr listed =>
        cases List.mem_singleton.mp listed
        rfl
  · unfold desiredNativeTimerSpecificationValidForAssignment
    have none_ : (placedAssignment current target).desiredNativeTimerSpecification = none := desired
    rw [none_]

/-! ## Refused transitions -/

theorem updateDurable_number {works : CarriedOut} {expectedRevision : Bytes}
    {durable : TimerAssignment} {number : Nat}
    (checked : updateDurable works later expectedRevision store = .ok (durable, number)) :
    parseRevisionToken expectedRevision = some number := by
  unfold updateDurable at checked
  cases parsed : parseRevisionToken expectedRevision with
  | none => simp only [parsed, reduceCtorEq] at checked
  | some value =>
    simp only [parsed] at checked
    obtain ⟨-, checked⟩ := of_refuseIf checked
    obtain ⟨found, -, checked⟩ := of_bind checked
    cases found with
    | none => cases checked
    | some current =>
      obtain ⟨-, checked⟩ := of_refuseIf checked
      obtain ⟨-, checked⟩ := of_refuseIf checked
      obtain ⟨⟨⟩, -, checked⟩ := of_bind checked
      obtain ⟨-, checked⟩ := of_refuseIf checked
      split at checked
      case isTrue =>
        obtain ⟨⟨⟩, -, checked⟩ := of_bind checked
        exact congrArg some (Prod.mk.inj (Except.ok.inj checked)).2
      case isFalse => exact congrArg some (Prod.mk.inj (Except.ok.inj checked)).2

/-- An accepted record is valid under the next revision, and keeps a backend that is there. -/
theorem of_update_ok (valid : RowsValid store.assignments) (member : row ∈ store.assignments)
    (read : readAssignment row = some current) {works : CarriedOut}
    (identity : later.timerAssignmentId = current.timerAssignmentId)
    (accepted : (update works later current.assignmentRevision store).1.ok = true) :
    timerAssignmentValid
        { later with assignmentRevision := decimal (row.assignmentRevision + 1) } = true ∧
      (current.backendId ≠ [] → later.backendId = current.backendId) ∧
      row.assignmentRevision < int64Max := by
  obtain ⟨-, -, evidence, desired, -, -, same, -, -⟩ :=
    (readAssignment_eq_some_iff row current).mp read
  obtain ⟨currentId, revision, -⟩ := readAssignment_fields read
  obtain ⟨durable, number, written, checked, columns, -⟩ := update_accepted accepted
  have parsed := updateDurable_number checked
  rw [revision] at parsed
  obtain ⟨rfl, -, -⟩ := parseRevisionToken_decimal parsed
  obtain ⟨rfl, durableValid, stored, present, named, -, -, -, -, backend, -⟩ :=
    updateDurable_ok checked
  have only : stored = row :=
    valid.eq_of_identity present member (named.trans (identity.trans currentId))
  rw [only] at backend
  obtain ⟨-, bound, boundNumber, -⟩ := bindAssignmentColumns_eq_some columns
  have successor : parseRevisionToken (decimal (row.assignmentRevision + 1)) = some bound :=
    boundNumber
  obtain ⟨-, -, small⟩ := parseRevisionToken_decimal successor
  exact ⟨durableValid, same ▸ backend, small⟩

theorem backend_ne_nil_of_assigned (shape : assignedShapeValid current = true) :
    current.backendId ≠ [] := by
  simp only [assignedShapeValid, Bool.and_eq_true] at shape
  exact ((nonEmptyBounded_iff _ _).mp shape.1.1.1.1).1

theorem passable_of_accepted (valid : RowsValid store.assignments) (member : row ∈ store.assignments)
    (read : readAssignment row = some current)
    (edge : timerAssignmentCanTransition current.state target = true)
    (accepted : TransitionAccepted store current target) : Passable current target := by
  obtain ⟨works, later, continues, ok⟩ := accepted
  obtain ⟨-, revision, -, -, -, -, currentValid, -, -⟩ := readAssignment_fields read
  obtain ⟨laterValid, kept, small⟩ := of_update_ok valid member read continues.identity ok
  refine ⟨?_, ?_, ?_, lt_of_lt_of_le continues.updatedAt continues.representable⟩
  · intro unassigned
    have assigned : current.state ≠ .unassigned := by
      intro same
      rw [same, unassigned] at edge
      cases edge
    have backend := backend_ne_nil_of_assigned (assignedShape_of_valid currentValid assigned)
    have shape := (Bool.and_eq_true_iff.mp laterValid).2
    have state : later.state = .unassigned := continues.state.trans unassigned
    simp only [state, unassignedShapeValid, Bool.and_eq_true, List.isEmpty_iff] at shape
    obtain ⟨⟨⟨⟨⟨⟨absent, -⟩, -⟩, -⟩, -⟩, -⟩, -⟩ := shape
    exact backend ((kept backend).symm.trans absent)
  · intro unassigned
    rw [timerAssignmentValid, unassigned, Bool.and_eq_true] at currentValid
    obtain ⟨-, shape⟩ := currentValid
    simp only [unassignedShapeValid, Bool.and_eq_true, List.isEmpty_iff] at shape
    obtain ⟨⟨⟨⟨⟨⟨absent, -⟩, -⟩, -⟩, -⟩, -⟩, -⟩ := shape
    have assigned : later.state ≠ .unassigned := by
      intro same
      rw [unassigned, continues.state.symm.trans same] at edge
      cases edge
    have laterShape : assignedShapeValid
        { later with assignmentRevision := decimal (row.assignmentRevision + 1) } = true :=
      assignedShape_of_valid laterValid assigned
    have backend : later.backendId ≠ [] := @backend_ne_nil_of_assigned later laterShape
    obtain none_ | same | chosen := continues.backend
    · exact absurd none_ backend
    · exact absurd (same.trans absent) backend
    · exact chosen
  · intro largest
    rw [revision] at largest
    exact absurd (decimal_injective largest) small.ne

/-! ## Which transitions are passable -/

/-- A declared transition of a stored assignment whose intent is current and has no competing owner
can be carried out exactly if the shapes of assignments leave it open. -/
theorem transition_accepted_iff (calls : List TimerAssignmentCall) (row : TimerAssignmentRow)
    (current : TimerAssignment) (target : TimerAssignmentState)
    (member : row ∈ (reached {} calls).assignments) (read : readAssignment row = some current)
    (edge : timerAssignmentCanTransition current.state target = true)
    (intentCurrent : IntentCurrent (reached {} calls) current)
    (unopposed : ¬ CompetingOwner (reached {} calls) current target) :
    TransitionAccepted (reached {} calls) current target ↔ Passable current target := by
  obtain ⟨valid, -⟩ := reached_advances {} calls rowsValid_nil
  have bounded := reached_rowsBounded calls row member
  obtain ⟨-, revision, -⟩ := readAssignment_fields read
  constructor
  · exact passable_of_accepted valid member read edge
  · intro passable
    obtain ⟨open_, placing, room, clock⟩ := passable
    rw [revision] at room
    have small : row.assignmentRevision < int64Max :=
      lt_of_le_of_ne bounded.revision fun same => room (congrArg decimal same)
    by_cases unassigned : current.state = .unassigned
    · have acceptable := placedAssignment_acceptable read clock unassigned (placing unassigned)
      exact ⟨fun _ => true, placedAssignment current target, acceptable.continues,
        update_acceptable valid member read bounded small acceptable edge intentCurrent unopposed⟩
    · have acceptable := movedAssignment_acceptable read bounded clock unassigned open_
      exact ⟨fun _ => true, movedAssignment current target, acceptable.continues,
        update_acceptable valid member read bounded small acceptable edge intentCurrent unopposed⟩

def storedOwner : TimerAssignment := durableOf (sampleOwner (text "o")) 1

theorem storedOwner_stored :
    (reached {} (sampleCalls (text "o"))).assignments = [assignmentColumns storedOwner 1] ∧
      readAssignment (assignmentColumns storedOwner 1) = some storedOwner ∧
      (reached {} (sampleCalls (text "o"))).intents = [⟨text "i", 1, true, text "active"⟩] := by
  decide

theorem storedOwner_intentCurrent :
    IntentCurrent (reached {} (sampleCalls (text "o"))) storedOwner := by
  obtain ⟨-, -, intents⟩ := storedOwner_stored
  refine ⟨⟨text "i", 1, true, text "active"⟩, ?_, rfl⟩
  rw [intents]
  decide

theorem storedOwner_unopposed (target : TimerAssignmentState) :
    ¬ CompetingOwner (reached {} (sampleCalls (text "o"))) storedOwner target := by
  rintro ⟨-, -, other, member, -, -, different⟩
  rw [(storedOwner_stored).1, List.mem_singleton] at member
  exact different (by rw [member]; rfl)

theorem transition_accepted_provisioning :
    Passable storedOwner .provisioning ∧
      TransitionAccepted (reached {} (sampleCalls (text "o"))) storedOwner .provisioning := by
  obtain ⟨rows, read, -⟩ := storedOwner_stored
  have passable : Passable storedOwner .provisioning := by
    refine ⟨by decide, by decide, ?_, by decide⟩
    intro largest
    have := @decimal_injective 1 int64Max largest
    cases this
  exact ⟨passable, (transition_accepted_iff (sampleCalls (text "o"))
    (assignmentColumns storedOwner 1) storedOwner .provisioning (by rw [rows]; simp) read rfl
    storedOwner_intentCurrent (storedOwner_unopposed _)).mpr passable⟩

/-- A selected owner may become unassigned, says the table of transitions; the repository accepts
no record of it. -/
theorem declared_transition_refused :
    ¬ ∀ calls row current target, row ∈ (reached {} calls).assignments →
      readAssignment row = some current →
      timerAssignmentCanTransition current.state target = true →
      IntentCurrent (reached {} calls) current →
      ¬ CompetingOwner (reached {} calls) current target →
      TransitionAccepted (reached {} calls) current target := by
  intro agree
  obtain ⟨rows, read, -⟩ := storedOwner_stored
  have present : assignmentColumns storedOwner 1 ∈
      (reached {} (sampleCalls (text "o"))).assignments := by
    rw [rows]
    exact List.mem_singleton_self _
  have accepted := agree (sampleCalls (text "o")) (assignmentColumns storedOwner 1) storedOwner
    .unassigned present read rfl storedOwner_intentCurrent (storedOwner_unopposed _)
  obtain ⟨valid, -⟩ := reached_advances {} (sampleCalls (text "o")) rowsValid_nil
  exact (passable_of_accepted valid present read rfl accepted).1 rfl

end VdrSuite.Timers
