import VdrSuite.Timers.TimerAssignmentCalls

/-! Exclusive owners, growing epochs and atomic replacement over all runs of the repository. -/

set_option autoImplicit false

namespace VdrSuite.Timers

open Library Library.Transaction

variable {store next : TimerStore} {works : CarriedOut} {row : TimerAssignmentRow}

/-! ## Controlled replacement -/

theorem installExpectation_true {works : Stage → CarriedOut} {expectedSetRevision : Bytes}
    {evidence : TimerAssignmentReassignmentEvidence}
    (installed : installExpectation works expectedSetRevision evidence store = (true, next)) :
    ∃ setRevision oldRevision,
      parseUnsignedToken evidence.oldAssignmentRevision = some oldRevision ∧
        next.reassignmentExpectations =
          some (some (expectationOf evidence setRevision oldRevision)) ∧
        next.reassignmentBeforeTrigger = true ∧ next.reassignmentAfterTrigger = true := by
  unfold installExpectation at installed
  split at installed
  · next setRevision oldRevision _ parsed =>
    dsimp only at installed
    split at installed
    · cases installed
    · next created _ =>
      split at installed
      · next reached executed =>
        cases installed
        have all := congrArg Prod.fst executed
        have last := congrArg Prod.snd executed
        obtain ⟨filled, inserted, all, filledSame⟩ := executeAll_cons_true all
        obtain ⟨before, beforeCreated, all, beforeSame⟩ := executeAll_cons_true all
        obtain ⟨after, afterCreated, all, afterSame⟩ := executeAll_cons_true all
        obtain ⟨-, inserted⟩ := attempt_ok inserted
        obtain ⟨-, beforeCreated⟩ := attempt_ok beforeCreated
        obtain ⟨-, afterCreated⟩ := attempt_ok afterCreated
        cases inserted
        split at beforeCreated
        · cases beforeCreated
        · cases beforeCreated
          split at afterCreated
          · cases afterCreated
          · cases afterCreated
            have reachedIs := ((filledSame.trans beforeSame).trans afterSame).symm.trans last
            cases reachedIs
            exact ⟨setRevision, oldRevision, parsed, rfl, rfl, rfl⟩
      · cases installed
  · cases installed

/-- One owner closed, one created on another backend, and one row that links them. -/
structure ReplacedBy (replacement : TimerAssignment) (evidence : TimerAssignmentReassignmentEvidence)
    (before after : TimerStore) (old new : TimerAssignmentRow)
    (link : TimerAssignmentReassignmentRow) : Prop where
  present : old ∈ before.assignments
  oldIdentity : old.timerAssignmentId = evidence.oldTimerAssignmentId
  owner : activeExclusiveOwner old = true
  newIdentity : new.timerAssignmentId = replacement.timerAssignmentId
  intent : new.timerIntentId = old.timerIntentId
  selected : new.role = .replacement ∧ new.state = .selected
  elsewhere : new.backendId ≠ old.backendId
  rows : after.assignments =
    before.assignments.map (supersedeRow old.timerAssignmentId replacement.createdAt) ++ [new]
  linked : after.reassignments = before.reassignments ++ [link]
  links : link.oldAssignmentId = old.timerAssignmentId ∧
    link.replacementAssignmentId = new.timerAssignmentId
  single : ∀ other ∈ before.reassignments,
    other.replacementAssignmentId ≠ new.timerAssignmentId ∧
      other.oldAssignmentId ≠ old.timerAssignmentId

/-- With the expectation installed, a creation of the replacement passes all checks, replaces the old
owner and links the two as expected. -/
theorem Created.replacedBy {replacement : TimerAssignment}
    {evidence : TimerAssignmentReassignmentEvidence} {setRevision oldRevision : Nat}
    (created : Created replacement store next row)
    (identity : replacement.timerAssignmentId = evidence.replacementTimerAssignmentId)
    (table : store.reassignmentExpectations =
      some (some (expectationOf evidence setRevision oldRevision)))
    (beforeTrigger : store.reassignmentBeforeTrigger = true)
    (afterTrigger : store.reassignmentAfterTrigger = true) :
    replacementChecks (expectationOf evidence setRevision oldRevision) row store = .ok () ∧
      ∃ old, ReplacedBy replacement evidence store next old row
        (reassignmentRow row (expectationOf evidence setRevision oldRevision)) := by
  obtain ⟨superseding, revisions, before, -, after⟩ := insertAssignment_ok created.inserted
  obtain ⟨-, revision, -, rowIs⟩ := bindAssignmentColumns_eq_some created.columns
  have rowIdentity : row.timerAssignmentId = replacement.timerAssignmentId := by rw [rowIs]; rfl
  have rowCreatedAt : row.createdAt = replacement.createdAt := by rw [rowIs]; rfl
  have named : row.timerAssignmentId =
      (expectationOf evidence setRevision oldRevision).replacementAssignmentId :=
    rowIdentity.trans identity
  obtain ⟨checks, rfl⟩ := reassignmentBefore_fires before beforeTrigger table named
  obtain ⟨role, state, backend, old, present, matching⟩ := of_replacementChecks checks
  obtain ⟨oldIdentity, intent, oldBackend, owner, -⟩ := of_oldOwnerMatches matching
  obtain ⟨_, frame⟩ := supersede_frame
    (expectationOf evidence setRevision oldRevision).oldAssignmentId row.createdAt store
  rw [frame] at after
  obtain ⟨nextIs, single⟩ :=
    insertReassignment_ok (reassignmentAfter_fires after afterTrigger table named)
  refine ⟨checks, old, present, oldIdentity, owner, rowIdentity, intent.symm, ⟨role, state⟩,
    oldBackend ▸ backend, ?_, ?_, ⟨oldIdentity.symm, rfl⟩, ?_⟩
  · rw [nextIs, oldIdentity, ← rowCreatedAt]
  · rw [nextIs]
  · intro other member
    rw [oldIdentity]
    exact single other member

theorem ReplacedBy.congr {replacement : TimerAssignment}
    {evidence : TimerAssignmentReassignmentEvidence} {before installed created after : TimerStore}
    {old new : TimerAssignmentRow} {link : TimerAssignmentReassignmentRow}
    (replaced : ReplacedBy replacement evidence installed created old new link)
    (install : RecordsUnchanged before installed) (remove : RecordsUnchanged created after) :
    ReplacedBy replacement evidence before after old new link where
  present := install.assignments ▸ replaced.present
  oldIdentity := replaced.oldIdentity
  owner := replaced.owner
  newIdentity := replaced.newIdentity
  intent := replaced.intent
  selected := replaced.selected
  elsewhere := replaced.elsewhere
  rows := by rw [remove.assignments, replaced.rows, install.assignments]
  linked := by rw [remove.reassignments, replaced.linked, install.reassignments]
  links := replaced.links
  single := install.reassignments ▸ replaced.single

def Overtaken (timerIntentId expectedAssignmentSetRevision : Bytes) (store : TimerStore) : Prop :=
  ∃ works reached other, Unnoticed store reached ∧ other ≠ expectedAssignmentSetRevision ∧
    (assignmentSetRevisionForIntent works timerIntentId reached).1 =
      { status := .ok, assignmentSetRevision := other }

theorem assignmentSetRevisionForIntent_not_conflict (works : CarriedOut) (timerIntentId : Bytes)
    (store : TimerStore) :
    (assignmentSetRevisionForIntent works timerIntentId store).1.status ≠ .conflict := by
  unfold assignmentSetRevisionForIntent
  split
  · exact nofun
  · split
    · exact nofun
    · split
      · exact nofun
      · split
        · exact nofun
        · split
          · split <;> exact nofun
          · exact nofun

theorem afterCreation_refused (works : Stage → CarriedOut) (replacement : TimerAssignment)
    (expectedAssignmentSetRevision : Bytes) {result : TimerAssignmentRepositoryResult}
    (store : TimerStore) (refused : result.status ∈ createRefusals) :
    let outcome := afterCreation works replacement expectedAssignmentSetRevision result store
    outcome.1.ok = false ∧
      (outcome.1.status = .conflict →
        Overtaken replacement.timerIntentId expectedAssignmentSetRevision store) := by
  intro outcome
  have failed := not_ok_of_mem (mem_updateRefusals refused)
  dsimp only [outcome]
  unfold afterCreation
  rw [if_neg (by simp [failed])]
  dsimp only
  split
  · next overtaken =>
    rw [Bool.and_eq_true, beq_iff_eq, bne_iff_ne] at overtaken
    refine ⟨rfl, fun _ =>
      ⟨works .rechecking, store, _, Unnoticed.refl store, overtaken.2, ?_⟩⟩
    rw [← overtaken.1]
  · refine ⟨failed, fun conflict => ?_⟩
    have stale : result.status = .conflict := conflict
    rw [stale] at refused
    exact absurd refused (by decide)

theorem Overtaken.of_unnoticed {timerIntentId expectedAssignmentSetRevision : Bytes}
    (overtaken : Overtaken timerIntentId expectedAssignmentSetRevision next)
    (unnoticed : Unnoticed store next) :
    Overtaken timerIntentId expectedAssignmentSetRevision store := by
  obtain ⟨works, reached, other, later, different, read⟩ := overtaken
  exact ⟨works, reached, other, unnoticed.trans later, different, read⟩

/-- A controlled replacement fails and changes no record, or it creates the replacement behind a
complete expectation and reads it back; it reports a conflict only when it has been overtaken. -/
theorem createControlledReplacement_steps (works : Stage → CarriedOut)
    (replacement : TimerAssignment) (expectedAssignmentSetRevision : Bytes)
    (evidence : TimerAssignmentReassignmentEvidence) (store : TimerStore) :
    let outcome := createControlledReplacement works replacement expectedAssignmentSetRevision
      evidence store
    (outcome.1.ok = false ∧ Unnoticed store outcome.2 ∧
        (outcome.1.status = .conflict →
          Overtaken replacement.timerIntentId expectedAssignmentSetRevision store)) ∨
      (replacementArgumentsValid replacement evidence = true ∧
        outcome.1 = findControlledReplacement works replacement.timerAssignmentId outcome.2 ∧
        (assignmentSetRevisionForIntent (works .observing) replacement.timerIntentId store).1 =
          { status := .ok, assignmentSetRevision := expectedAssignmentSetRevision } ∧
        ∃ observed ready created row,
          installExpectation works expectedAssignmentSetRevision evidence observed = (true, ready) ∧
          Unnoticed store ready ∧ Created replacement ready created row ∧
          Unnoticed created outcome.2) := by
  intro outcome
  have observed := assignmentSetRevisionForIntent_unchanged (works .observing)
    replacement.timerIntentId store
  have noConflict := assignmentSetRevisionForIntent_not_conflict (works .observing)
    replacement.timerIntentId store
  dsimp only [outcome]
  unfold createControlledReplacement
  split
  · exact .inl ⟨rfl, Unnoticed.refl store, nofun⟩
  · next arguments =>
    rw [Bool.not_eq_true', Bool.not_eq_false] at arguments
    dsimp only
    split
    · next failed =>
      exact .inl ⟨beq_eq_false_iff_ne.mpr (bne_iff_ne.mp failed), observed,
        fun conflict => absurd conflict noConflict⟩
    · next status =>
      rw [bne_iff_ne, not_not] at status
      split
      · next different =>
        refine .inl ⟨rfl, observed, fun _ =>
          ⟨works .observing, store, _, Unnoticed.refl store, different, ?_⟩⟩
        rw [← status]
      · next token =>
        rw [ne_eq, not_not] at token
        split
        · exact .inl ⟨rfl, observed, nofun⟩
        · have install := observed.trans (installExpectation_unchanged works
            expectedAssignmentSetRevision evidence _)
          split
          · next reached installed =>
            rw [installed] at install
            exact .inl ⟨rfl, install, nofun⟩
          · next ready installed =>
            rw [installed] at install
            have removed := removeExpectation_unchanged (works .removing)
              (create (works .calling) replacement ready).2
            rcases create_cases (works .calling) replacement ready with
              ⟨refused, same⟩ | ⟨ok, row, created⟩
            · left
              rw [same] at removed
              rw [same]
              obtain ⟨failed, overtaken⟩ := afterCreation_refused works replacement
                expectedAssignmentSetRevision (removeExpectation (works .removing) ready) refused
              exact ⟨failed,
                (install.trans removed).trans (afterCreation_unchanged works replacement _ _ _),
                fun conflict => (overtaken conflict).of_unnoticed (install.trans removed)⟩
            · right
              unfold afterCreation
              rw [if_pos ok]
              refine ⟨arguments, rfl, ?_, _, ready, _, row, installed, install, created, removed⟩
              rw [← status, ← token]

/-- A controlled replacement changes nothing, or it replaces and reads the replacement back. -/
theorem createControlledReplacement_cases (works : Stage → CarriedOut)
    (replacement : TimerAssignment) (expectedAssignmentSetRevision : Bytes)
    (evidence : TimerAssignmentReassignmentEvidence) (store : TimerStore) :
    let outcome := createControlledReplacement works replacement expectedAssignmentSetRevision
      evidence store
    (outcome.1.ok = false ∧ RecordsUnchanged store outcome.2) ∨
      (replacementArgumentsValid replacement evidence = true ∧
        outcome.1 = findControlledReplacement works replacement.timerAssignmentId outcome.2 ∧
        (∃ old new link, ReplacedBy replacement evidence store outcome.2 old new link) ∧
        Advances store outcome.2) := by
  rcases createControlledReplacement_steps works replacement expectedAssignmentSetRevision evidence
    store with ⟨failed, unchanged, -⟩ |
      ⟨arguments, answer, -, observed, ready, created, row, installed, install, creation, remove⟩
  · exact .inl ⟨failed, unchanged.toRecordsUnchanged⟩
  · right
    obtain ⟨setRevision, oldRevision, -, table, beforeTrigger, afterTrigger⟩ :=
      installExpectation_true installed
    have identity : replacement.timerAssignmentId = evidence.replacementTimerAssignmentId := by
      simp only [replacementArgumentsValid, Bool.and_eq_true, beq_iff_eq] at arguments
      exact arguments.1.1.1.1.1.1
    obtain ⟨-, old, replaced⟩ := creation.replacedBy identity table beforeTrigger afterTrigger
    exact ⟨arguments, answer,
      ⟨old, row, _, replaced.congr install.toRecordsUnchanged remove.toRecordsUnchanged⟩,
      (install.advances.trans creation.advances).trans remove.advances⟩

/-- The read-back of a replacement meets no statement that fails and no text that is cut off. -/
def ReadsBack (works : Stage → CarriedOut) (evidence : TimerAssignmentReassignmentEvidence) : Prop :=
  (0 : UInt8) ∉ evidence.oldTimerAssignmentId ∧
    ∀ statement, works .readingBack statement = true ∧ works .readingOld statement = true ∧
      works .readingReplacement statement = true

theorem findById_ok {timerAssignmentId : Bytes} (carriedOut : ∀ statement, works statement = true)
    (safe : safeIdentity timerAssignmentId = true) (valid : RowsValid store.assignments)
    (present : row ∈ store.assignments) (named : row.timerAssignmentId = timerAssignmentId) :
    (findById works timerAssignmentId store).ok = true := by
  unfold findById selectById findRow
  simp only [safe, carriedOut, Bool.not_true, Bool.false_eq_true, if_false]
  cases found : store.assignments.find? (fun row => row.timerAssignmentId == timerAssignmentId) with
  | none =>
    have absent := List.find?_eq_none.mp found row present
    simp [named] at absent
  | some other =>
    obtain ⟨assignment, read⟩ := valid.readable other (List.mem_of_find?_eq_some found)
    simp only [read]
    rfl

theorem findControlledReplacement_ok {works : Stage → CarriedOut} {replacement : TimerAssignment}
    {evidence : TimerAssignmentReassignmentEvidence} {before after : TimerStore}
    {old new : TimerAssignmentRow} {link : TimerAssignmentReassignmentRow}
    (arguments : replacementArgumentsValid replacement evidence = true)
    (replaced : ReplacedBy replacement evidence before after old new link)
    (valid : RowsValid after.assignments) (reads : ReadsBack works evidence) :
    (findControlledReplacement works replacement.timerAssignmentId after).ok = true := by
  obtain ⟨whole, carriedOut⟩ := reads
  simp only [replacementArgumentsValid, evidenceShapeValid, Bool.and_eq_true, beq_iff_eq] at arguments
  obtain ⟨⟨⟨⟨⟨⟨identity, -⟩, -⟩, -⟩, -⟩, -⟩, shape⟩ := arguments
  have oldSafe : safeIdentity evidence.oldTimerAssignmentId = true := shape.1.1.1.1.1.1.1.1.1.1.1
  have newSafe : safeIdentity replacement.timerAssignmentId = true :=
    identity ▸ shape.1.1.1.1.1.1.2
  have found : after.reassignments.find? (fun row =>
      row.replacementAssignmentId == replacement.timerAssignmentId) = some link := by
    rw [replaced.linked, List.find?_append, List.find?_eq_none.mpr]
    · simp [replaced.links.2, replaced.newIdentity]
    · intro other member
      rw [beq_iff_eq, ← replaced.newIdentity]
      exact (replaced.single other member).1
  have oldRead : cString link.oldAssignmentId = evidence.oldTimerAssignmentId := by
    rw [replaced.links.1, replaced.oldIdentity]
    exact (cString_eq_self_iff _).mpr whole
  have newPresent : new ∈ after.assignments := by
    rw [replaced.rows]
    simp
  have oldPresent : supersededRow replacement.createdAt old ∈ after.assignments := by
    rw [replaced.rows]
    apply List.mem_append_left
    exact List.mem_map.mpr ⟨old, replaced.present, if_pos rfl⟩
  have oldFound := findById_ok (fun statement => (carriedOut statement).2.1) oldSafe valid oldPresent
    replaced.oldIdentity
  have newFound := findById_ok (fun statement => (carriedOut statement).2.2) newSafe valid newPresent
    replaced.newIdentity
  unfold findControlledReplacement
  simp only [newSafe, carriedOut, found, evidenceOfRow, oldRead, oldFound, newFound, Bool.not_true,
    Bool.false_eq_true, Bool.true_eq_false, Bool.or_self, or_self, if_false]
  rfl

/-! ## Runs -/

/-- A call of the repository, or a change that other components make to the tables it only reads. -/
inductive TimerAssignmentCall
  | create (works : CarriedOut) (assignment : TimerAssignment)
  | update (works : CarriedOut) (next : TimerAssignment) (expectedRevision : Bytes)
  | createAgainstAssignmentSetRevision (works : Stage → CarriedOut) (assignment : TimerAssignment)
      (expectedAssignmentSetRevision : Bytes)
  | createControlledReplacement (works : Stage → CarriedOut) (replacement : TimerAssignment)
      (expectedAssignmentSetRevision : Bytes) (evidence : TimerAssignmentReassignmentEvidence)
  | environment (intents : List TimerIntentRow) (bindings : List NativeTimerBindingRow)
      (operations : List Operations.MutationOperationRow)

def perform (store : TimerStore) :
    TimerAssignmentCall → TimerStore × TimerAssignmentRepositoryStatus
  | .create works assignment =>
    let (result, next) := create works assignment store
    (next, result.status)
  | .update works assignment expectedRevision =>
    let (result, next) := update works assignment expectedRevision store
    (next, result.status)
  | .createAgainstAssignmentSetRevision works assignment expectedAssignmentSetRevision =>
    let (result, next) :=
      createAgainstAssignmentSetRevision works assignment expectedAssignmentSetRevision store
    (next, result.status)
  | .createControlledReplacement works replacement expectedAssignmentSetRevision evidence =>
    let (result, next) :=
      createControlledReplacement works replacement expectedAssignmentSetRevision evidence store
    (next, result.status)
  | .environment intents bindings operations =>
    ({ store with intents := intents, bindings := bindings, operations := operations }, .ok)

def reached (store : TimerStore) (calls : List TimerAssignmentCall) : TimerStore :=
  Run.final perform store calls

theorem perform_advances (store : TimerStore) (call : TimerAssignmentCall) :
    Advances store (perform store call).1 := by
  cases call with
  | create works assignment => exact create_advances works assignment store
  | update works assignment expectedRevision =>
    exact update_advances works assignment expectedRevision store
  | createAgainstAssignmentSetRevision works assignment expectedAssignmentSetRevision =>
    exact createAgainstAssignmentSetRevision_advances works assignment
      expectedAssignmentSetRevision store
  | createControlledReplacement works replacement expectedAssignmentSetRevision evidence =>
    rcases createControlledReplacement_cases works replacement expectedAssignmentSetRevision
      evidence store with ⟨-, unchanged⟩ | ⟨-, -, -, advances⟩
    · exact unchanged.advances
    · exact advances
  | environment intents bindings operations =>
    exact fun valid => ⟨valid, Evolves.refl _⟩

theorem reached_advances (store : TimerStore) (calls : List TimerAssignmentCall) :
    Advances store (reached store calls) := by
  induction calls generalizing store with
  | nil => exact (RecordsUnchanged.refl store).advances
  | cons call calls ih => exact (perform_advances store call).trans (ih (perform store call).1)

/-! ## Owners, epochs and replacements -/

def AtMostOneOwner (store : TimerStore) : Prop :=
  ∀ timerIntentId, (store.assignments.filter fun row =>
    row.timerIntentId == timerIntentId && activeExclusiveOwner row).length ≤ 1

def EpochsDistinct (store : TimerStore) : Prop :=
  ∀ timerIntentId, ((store.assignments.filter fun row =>
    row.timerIntentId == timerIntentId).map TimerAssignmentRow.assignmentEpoch).Nodup

def EpochsGrow (before after : TimerStore) : Prop :=
  ∀ row ∈ after.assignments,
    (∀ old ∈ before.assignments, old.timerAssignmentId ≠ row.timerAssignmentId) →
      ∀ old ∈ before.assignments, old.timerIntentId = row.timerIntentId →
        old.assignmentEpoch < row.assignmentEpoch

def TerminalUnmodified (before after : TimerStore) : Prop :=
  ∀ row ∈ before.assignments, timerAssignmentTerminal row.state = true →
    row ∈ after.assignments ∧
      ∀ other ∈ after.assignments, other.timerAssignmentId = row.timerAssignmentId → other = row

def ReplacementAtomic (works : Stage → CarriedOut) (replacement : TimerAssignment)
    (expectedAssignmentSetRevision : Bytes) (evidence : TimerAssignmentReassignmentEvidence)
    (store : TimerStore) : Prop :=
  let outcome :=
    createControlledReplacement works replacement expectedAssignmentSetRevision evidence store
  (outcome.1.ok = true ∧
      ∃ old new link, ReplacedBy replacement evidence store outcome.2 old new link) ∨
    (outcome.1.ok = false ∧ RecordsUnchanged store outcome.2)

theorem RowsValid.atMostOneOwner (valid : RowsValid store.assignments) : AtMostOneOwner store := by
  intro timerIntentId
  have rows : store.assignments.Nodup := valid.identified.of_map
  have owners := rows.filter fun row =>
    row.timerIntentId == timerIntentId && activeExclusiveOwner row
  have owned (row : TimerAssignmentRow) (member : row ∈ store.assignments.filter fun row =>
      row.timerIntentId == timerIntentId && activeExclusiveOwner row) :
      row ∈ store.assignments ∧ row.timerIntentId = timerIntentId ∧
        activeExclusiveOwner row = true := by
    simpa only [List.mem_filter, Bool.and_eq_true, beq_iff_eq] using member
  cases shape : store.assignments.filter (fun row =>
      row.timerIntentId == timerIntentId && activeExclusiveOwner row) with
  | nil => simp
  | cons first rest =>
    cases rest with
    | nil => simp
    | cons second rest =>
      rw [shape] at owners owned
      obtain ⟨firstMember, firstIntent, firstOwner⟩ := owned first (by simp)
      obtain ⟨secondMember, secondIntent, secondOwner⟩ := owned second (by simp)
      have same := valid.eq_of_identity firstMember secondMember
        (valid.exclusive first firstMember second secondMember
          (firstIntent.trans secondIntent.symm) firstOwner secondOwner)
      rw [same] at owners
      simp at owners

theorem RowsValid.epochsDistinct (valid : RowsValid store.assignments) : EpochsDistinct store := by
  intro timerIntentId
  have rows : store.assignments.Nodup := valid.identified.of_map
  apply List.Nodup.map_on _ (rows.filter _)
  intro first firstMember second secondMember epoch
  rw [List.mem_filter, beq_iff_eq] at firstMember secondMember
  exact valid.eq_of_identity firstMember.1 secondMember.1
    (valid.distinct first firstMember.1 second secondMember.1
      (firstMember.2.trans secondMember.2.symm) epoch)

theorem epochsGrow_of_evolves {before after : TimerStore}
    (evolves : Evolves before.assignments after.assignments) : EpochsGrow before after := by
  obtain ⟨change, added, rows, kept, larger⟩ := evolves
  intro row member fresh
  rw [rows] at member
  rcases List.mem_append.mp member with image | new
  · obtain ⟨old, present, rfl⟩ := List.mem_map.mp image
    exact absurd (kept old present).identity.symm (fresh old present)
  · exact larger row new

theorem terminalUnmodified_of_evolves {before after : TimerStore}
    (valid : RowsValid after.assignments)
    (evolves : Evolves before.assignments after.assignments) : TerminalUnmodified before after := by
  obtain ⟨change, added, rows, kept, -⟩ := evolves
  intro row member terminal
  have present : row ∈ after.assignments := by
    rw [rows]
    apply List.mem_append_left
    exact List.mem_map.mpr ⟨row, member, (kept row member).terminal terminal⟩
  exact ⟨present, fun other otherMember same => valid.eq_of_identity otherMember present same⟩

theorem replacementAtomic_of_readsBack {works : Stage → CarriedOut}
    {replacement : TimerAssignment} {expectedAssignmentSetRevision : Bytes}
    {evidence : TimerAssignmentReassignmentEvidence} (valid : RowsValid store.assignments)
    (reads : ReadsBack works evidence) :
    ReplacementAtomic works replacement expectedAssignmentSetRevision evidence store := by
  rcases createControlledReplacement_cases works replacement expectedAssignmentSetRevision evidence
    store with unchanged | ⟨arguments, answer, ⟨old, new, link, replaced⟩, advances⟩
  · exact .inr unchanged
  · have ok := findControlledReplacement_ok arguments replaced (advances valid).1 reads
    rw [← answer] at ok
    exact .inl ⟨ok, old, new, link, replaced⟩

/-- In every run, between any two of its points, an intent has one owner at most, epochs only grow
and terminal assignments stay as they are; a controlled replacement whose read-back cannot fail is
all or nothing. -/
theorem timerAssignment_ownership (earlier later : List TimerAssignmentCall) :
    let before := reached {} earlier
    let after := reached before later
    AtMostOneOwner after ∧ EpochsDistinct after ∧ EpochsGrow before after ∧
      TerminalUnmodified before after ∧
      ∀ works replacement expectedAssignmentSetRevision evidence, ReadsBack works evidence →
        ReplacementAtomic works replacement expectedAssignmentSetRevision evidence after := by
  intro before after
  obtain ⟨validBefore, -⟩ := reached_advances {} earlier rowsValid_nil
  obtain ⟨valid, evolves⟩ := reached_advances before later validBefore
  exact ⟨valid.atMostOneOwner, valid.epochsDistinct, epochsGrow_of_evolves evolves,
    terminalUnmodified_of_evolves valid evolves,
    fun _ _ _ _ reads => replacementAtomic_of_readsBack valid reads⟩

/-! ## A run with a replacement -/

/-- An owner of the intent `i`, under the given id. -/
def sampleOwner (timerAssignmentId : Bytes) : TimerAssignment :=
  { timerAssignmentId := timerAssignmentId
    timerIntentId := text "i"
    intentRevision := text "1"
    backendId := text "b"
    backendGeneration := 1
    state := .selected
    channelBinding :=
      { backendChannelId := text "c", mappingSource := text "m", mappingRevision := text "1" }
    capabilityRevision := text "1"
    backendHealthRevision := text "1"
    decisionPolicyVersion := text "1"
    decisionEvidence := { reasons := [text "r"] }
    createdAt := 1 }

def sampleReplacement : TimerAssignment :=
  { sampleOwner (text "n") with backendId := text "d", role := .replacement, createdAt := 2 }

def sampleEvidence (oldTimerAssignmentId : Bytes) : TimerAssignmentReassignmentEvidence :=
  { oldTimerAssignmentId := oldTimerAssignmentId
    oldAssignmentRevision := text "1"
    oldAssignmentEpoch := 1
    oldBackendId := text "b"
    oldBackendGeneration := 1
    reason := text "r"
    replacementTimerAssignmentId := text "n"
    newBackendId := text "d"
    newBackendGeneration := 1
    createdAt := 2 }

def sampleCalls (timerAssignmentId : Bytes) : List TimerAssignmentCall :=
  [.environment [⟨text "i", 1, true, text "active"⟩] [] [],
    .create (fun _ => true) (sampleOwner timerAssignmentId)]

theorem timerAssignment_ownership_sample :
    ReadsBack (fun _ _ => true) (sampleEvidence (text "o")) ∧
      (createControlledReplacement (fun _ _ => true) sampleReplacement (text "1")
        (sampleEvidence (text "o")) (reached {} (sampleCalls (text "o")))).1.ok = true ∧
      ReplacementAtomic (fun _ _ => true) sampleReplacement (text "1")
        (sampleEvidence (text "o")) (reached {} (sampleCalls (text "o"))) := by
  have reads : ReadsBack (fun _ _ => true) (sampleEvidence (text "o")) :=
    ⟨by decide, fun _ => ⟨rfl, rfl, rfl⟩⟩
  exact ⟨reads, by decide,
    (timerAssignment_ownership (sampleCalls (text "o")) []).2.2.2.2 _ _ _ _ reads⟩

/-- An old id with a NUL byte is cut off when the replacement is read back: the replacement has
been committed, and the caller is told that it failed. -/
theorem replacement_reported_failed :
    ¬ ∀ calls works replacement expectedAssignmentSetRevision evidence,
      ReplacementAtomic works replacement expectedAssignmentSetRevision evidence
        (reached {} calls) := by
  intro atomic
  have run := atomic (sampleCalls [111, 0]) (fun _ _ => true) sampleReplacement (text "1")
    (sampleEvidence [111, 0])
  have failed : (createControlledReplacement (fun _ _ => true) sampleReplacement (text "1")
      (sampleEvidence [111, 0]) (reached {} (sampleCalls [111, 0]))).1.ok = false ∧
      (createControlledReplacement (fun _ _ => true) sampleReplacement (text "1")
        (sampleEvidence [111, 0]) (reached {} (sampleCalls [111, 0]))).2.assignments.length = 2 ∧
      (reached {} (sampleCalls [111, 0])).assignments.length = 1 := by
    decide
  obtain ⟨refused, two, one⟩ := failed
  rcases run with ⟨ok, -⟩ | ⟨-, unchanged⟩
  · rw [refused] at ok
    cases ok
  · have same := congrArg List.length unchanged.assignments
    rw [two, one] at same
    cases same

end VdrSuite.Timers
