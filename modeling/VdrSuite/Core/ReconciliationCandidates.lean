import VdrSuite.Core.RecordingReconciliationProperties
import VdrSuite.Library.Paging

/-! Which waiting recording commands a reconciliation is shown: the 64 oldest rows, of which those
without usable evidence are left out afterwards. -/

set_option autoImplicit false

namespace VdrSuite.Core

open Library Agent

/-! ## The query -/

/-- A candidate; `editedRecordingKey` is what its evidence announces, which only a cut hands on. -/
structure ReconciliationCandidate where
  assignment : BackendAgentCommandAssignment
  executorCompletedAt : Int
  recordingKey : Bytes
  expectedMarksRevision : Bytes
  editedRecordingKey : Bytes
  deriving DecidableEq

abbrev WaitingRow : Type := CommandRow × ResultRow

def WaitingRow.commandId (row : WaitingRow) : Bytes := row.1.assignment.commandId

def candidateLimit : Nat := 64

section Family

variable (family : RecordingReconciliation)

def awaitsReconciliation (row : WaitingRow) : Bool :=
  row.1.assignment.commandType == family.commandType &&
  row.1.state == .waitingReconciliation &&
  row.2.dispatchState == text "accepted_by_executor" &&
  row.2.verificationState == text "outcome_unknown" &&
  row.2.resultCategory == text "outcome_unknown" &&
  row.2.retryClassification == text "reconcile_only"

def joinedRows (ledger : Ledger) : List WaitingRow :=
  ledger.commands.flatMap fun command =>
    (ledger.results.filter fun result =>
      result.commandId == command.assignment.commandId).map fun result => (command, result)

/-- `ORDER BY c.assigned_at,c.command_id`. -/
def assignedBefore (left right : WaitingRow) : Prop :=
  left.1.assignment.assignedAt < right.1.assignment.assignedAt ∨
    left.1.assignment.assignedAt = right.1.assignment.assignedAt ∧
      left.commandId ≤ right.commandId

instance : DecidableRel assignedBefore := fun _ _ => inferInstanceAs (Decidable (_ ∨ _))

def waitingRows (ledger : Ledger) : List WaitingRow :=
  ((joinedRows ledger).filter (awaitsReconciliation family)).insertionSort assignedBefore

def readReconciliationCandidate (row : WaitingRow) : Option ReconciliationCandidate :=
  let assignment := row.1.assignment
  if backendAgentCommandValidAssignment assignment = false ∨
      assignment.commandType ≠ family.commandType ∨
      assignment.verificationPolicy ≠ text "readback_required" then none
  else
    match family.parsePayload assignment.payload with
    | none => none
    | some payload =>
      if payload.backendId ≠ assignment.backendId ∨
          payload.backendGeneration ≠ assignment.backendGeneration ∨
          row.2.completedAt < assignment.assignedAt ∨
          row.2.completedAt < payload.controlPlaneClaimedAt then none
      else
        match expectedEvidence family row.2.boundedDiagnostics assignment.commandId with
        | none => none
        | some token =>
          if token = family.replaced payload.recordingKey payload.expectedMarksRevision then none
          else some ⟨assignment, row.2.completedAt, payload.recordingKey,
            payload.expectedMarksRevision, token⟩

def candidatePage (ledger : Ledger) : List WaitingRow :=
  (waitingRows family ledger).take candidateLimit

def reconciliationCandidates (prepared : Bool) (ledger : Ledger) : List ReconciliationCandidate :=
  if prepared then (candidatePage family ledger).filterMap (readReconciliationCandidate family)
  else []

end Family

def recordingMarksModifyReconciliationCandidates :=
  reconciliationCandidates recordingMarksModifyReconciliation

def recordingCutReconciliationCandidates :=
  reconciliationCandidates recordingCutReconciliation

/-! ## Valid rows -/

section Family

variable (family : RecordingReconciliation)

def waitingCandidate (row : WaitingRow) : Option ReadbackCandidate :=
  match family.parsePayload row.1.assignment.payload,
    expectedEvidence family row.2.boundedDiagnostics row.1.assignment.commandId with
  | some payload, some token => some ⟨row.1, row.2, payload, token⟩
  | _, _ => none

def currentFence (ledger : Ledger) (row : WaitingRow) : Bool :=
  (localProviderSelectionCurrent ledger row.commandId).isOk &&
    match waitingCandidate family row with
    | none => false
    | some candidate => (readbackProvider family ledger candidate row.commandId).isOk

def validRow (ledger : Ledger) (row : WaitingRow) : Bool :=
  (readReconciliationCandidate family row).isSome && currentFence family ledger row

def completeShown (observedAt : Int) (ledger : Ledger) : Ledger :=
  ((candidatePage family ledger).filter (validRow family ledger)).foldl
    (fun current row => current.completeWaiting row.commandId observedAt) ledger

def NoneHidden (ledger : Ledger) : Prop :=
  ∀ row ∈ waitingRows family ledger, validRow family ledger row = true →
    (∃ candidate, readReconciliationCandidate family row = some candidate ∧
      candidate ∈ reconciliationCandidates family true ledger) ∨
    ((reconciliationCandidates family true ledger).length = candidateLimit ∧
      ∀ other ∈ candidatePage family ledger, validRow family ledger other = true)

def Reached (observedAt : Int) (ledger : Ledger) (row : WaitingRow) : Prop :=
  ∃ rounds candidate, readReconciliationCandidate family row = some candidate ∧
    candidate ∈ reconciliationCandidates family true
      ((completeShown family observedAt)^[rounds] ledger)

end Family

/-! ## The waiting rows of a keyed ledger -/

structure LedgerKeyed (ledger : Ledger) : Prop where
  commands : (ledger.commands.map fun row => row.assignment.commandId).Nodup
  results : (ledger.results.map ResultRow.commandId).Nodup

theorem LedgerKeyed.completeWaiting {ledger : Ledger} (keyed : LedgerKeyed ledger)
    (commandId : Bytes) (observedAt : Int) :
    LedgerKeyed (ledger.completeWaiting commandId observedAt) := by
  refine ⟨?_, keyed.results⟩
  have ids : (ledger.completeWaiting commandId observedAt).commands.map
      (fun row => row.assignment.commandId) =
        ledger.commands.map fun row => row.assignment.commandId := by
    simp [Ledger.completeWaiting, completeWaiting_assignment]
  rw [ids]
  exact keyed.commands

theorem mem_joinedRows {ledger : Ledger} {row : WaitingRow} :
    row ∈ joinedRows ledger ↔ row.1 ∈ ledger.commands ∧ row.2 ∈ ledger.results ∧
      row.2.commandId = row.commandId := by
  simp only [joinedRows, List.mem_flatMap, List.mem_map, List.mem_filter, beq_iff_eq,
    WaitingRow.commandId]
  constructor
  · rintro ⟨command, present, result, ⟨stored, same⟩, rfl⟩
    exact ⟨present, stored, same⟩
  · intro joined
    exact ⟨row.1, joined.1, row.2, joined.2, rfl⟩

theorem joinedRows_nodup {ledger : Ledger} (keyed : LedgerKeyed ledger) :
    (joinedRows ledger).Nodup := by
  rw [joinedRows, List.nodup_flatMap]
  constructor
  · intro command _
    refine ((keyed.results.of_map _).filter _).map ?_
    intro first second same
    exact congrArg Prod.snd same
  · refine List.Pairwise.imp ?_ (keyed.commands.of_map _)
    intro first second different row here there
    obtain ⟨_, _, rfl⟩ := List.mem_map.mp here
    obtain ⟨_, _, same⟩ := List.mem_map.mp there
    exact different (congrArg Prod.fst same).symm

theorem joinedRows_key {ledger : Ledger} (keyed : LedgerKeyed ledger) {first second : WaitingRow}
    (firstMember : first ∈ joinedRows ledger) (secondMember : second ∈ joinedRows ledger)
    (same : first.commandId = second.commandId) : first = second := by
  obtain ⟨firstCommand, firstResult, firstJoin⟩ := (mem_joinedRows).mp firstMember
  obtain ⟨secondCommand, secondResult, secondJoin⟩ := (mem_joinedRows).mp secondMember
  have commands : first.1 = second.1 :=
    List.inj_on_of_nodup_map keyed.commands firstCommand secondCommand same
  have results : first.2 = second.2 :=
    List.inj_on_of_nodup_map keyed.results firstResult secondResult
      (firstJoin.trans (same.trans secondJoin.symm))
  exact Prod.ext commands results

instance : Std.Total assignedBefore where
  total left right := by
    simp only [assignedBefore]
    rcases lt_trichotomy left.1.assignment.assignedAt right.1.assignment.assignedAt with
      older | same | younger
    · exact .inl (.inl older)
    · exact (List.le_total left.commandId right.commandId).imp (fun le => .inr ⟨same, le⟩)
        fun le => .inr ⟨same.symm, le⟩
    · exact .inr (.inl younger)

instance : IsTrans WaitingRow assignedBefore where
  trans first second third early late := by
    simp only [assignedBefore] at early late ⊢
    obtain older | ⟨same, le⟩ := early
    · obtain younger | ⟨equal, _⟩ := late
      · exact .inl (older.trans younger)
      · exact .inl (equal ▸ older)
    · obtain younger | ⟨equal, later⟩ := late
      · exact .inl (same ▸ younger)
      · exact .inr ⟨same.trans equal, List.le_trans le later⟩

theorem assignedBefore_antisymm {first second : WaitingRow} (forward : assignedBefore first second)
    (backward : assignedBefore second first) : first.commandId = second.commandId := by
  simp only [assignedBefore] at forward backward
  obtain older | ⟨_, le⟩ := forward
  · obtain younger | ⟨equal, _⟩ := backward
    · exact absurd (older.trans younger) (lt_irrefl _)
    · exact absurd older (by omega)
  · obtain younger | ⟨_, ge⟩ := backward
    · exact absurd younger (by omega)
    · exact List.le_antisymm le ge

theorem mem_waitingRows {family : RecordingReconciliation} {ledger : Ledger} {row : WaitingRow} :
    row ∈ waitingRows family ledger ↔
      row ∈ joinedRows ledger ∧ awaitsReconciliation family row = true := by
  rw [waitingRows, List.mem_insertionSort, List.mem_filter]

theorem waitingRows_nodup (family : RecordingReconciliation) {ledger : Ledger}
    (keyed : LedgerKeyed ledger) : (waitingRows family ledger).Nodup :=
  (List.perm_insertionSort _ _).nodup_iff.mpr ((joinedRows_nodup keyed).filter _)

theorem waitingRows_key {family : RecordingReconciliation} {ledger : Ledger}
    (keyed : LedgerKeyed ledger) {first second : WaitingRow}
    (firstMember : first ∈ waitingRows family ledger)
    (secondMember : second ∈ waitingRows family ledger)
    (same : first.commandId = second.commandId) : first = second :=
  joinedRows_key keyed ((mem_waitingRows).mp firstMember).1 ((mem_waitingRows).mp secondMember).1 same

/-! ## Completion -/

theorem waitingRows_completeWaiting (family : RecordingReconciliation) {ledger : Ledger}
    (keyed : LedgerKeyed ledger) {commandId : Bytes} (clean : cString commandId = commandId)
    (observedAt : Int) :
    waitingRows family (ledger.completeWaiting commandId observedAt) =
      (waitingRows family ledger).filter fun row => row.commandId != commandId := by
  have rows : (joinedRows (ledger.completeWaiting commandId observedAt)).filter
      (awaitsReconciliation family) =
        ((joinedRows ledger).filter (awaitsReconciliation family)).filter
          fun row => row.commandId != commandId := by
    simp only [joinedRows, Ledger.completeWaiting, List.flatMap_map, List.filter_flatMap,
      completeWaiting_assignment]
    refine List.flatMap_congr fun command _ => ?_
    simp only [List.filter_map, List.filter_filter]
    by_cases named : command.assignment.commandId = commandId
    · have gone : ∀ result, awaitsReconciliation family
          (Core.completeWaiting commandId observedAt command, result) = false := by
        intro result
        unfold Core.completeWaiting
        split
        case isTrue => simp [awaitsReconciliation]
        case isFalse settled =>
          have state : (command.state == .waitingReconciliation) = false := by
            simpa [waitingCommand, clean, named] using settled
          simp [awaitsReconciliation, state]
      simp [gone, WaitingRow.commandId, named]
    · have kept : Core.completeWaiting commandId observedAt command = command := by
        rw [Core.completeWaiting, if_neg]
        simp [waitingCommand, clean, named]
      have other : (command.assignment.commandId != commandId) = true := by simpa using named
      simp [kept, WaitingRow.commandId, other]
  rw [waitingRows, rows, Paging.insertionSort_filter, waitingRows]
  intro first firstMember second secondMember forward backward
  exact joinedRows_key keyed (List.mem_filter.mp firstMember).1 (List.mem_filter.mp secondMember).1
    (assignedBefore_antisymm forward backward)

theorem validRow_completeWaiting (family : RecordingReconciliation) (ledger : Ledger)
    (commandId : Bytes) (observedAt : Int) (row : WaitingRow) :
    validRow family (ledger.completeWaiting commandId observedAt) row =
      validRow family ledger row := by
  have selection : localProviderSelectionCurrent (ledger.completeWaiting commandId observedAt)
      row.commandId = localProviderSelectionCurrent ledger row.commandId := by
    unfold localProviderSelectionCurrent
    rw [command_completeWaiting]
    cases ledger.command row.commandId with
    | none => rfl
    | some command =>
      simp only [Option.map_some, completeWaiting_assignment]
      rfl
  unfold validRow currentFence
  rw [selection]
  rfl

def completeRows (observedAt : Int) (rows : List WaitingRow) (ledger : Ledger) : Ledger :=
  rows.foldl (fun current row => current.completeWaiting row.commandId observedAt) ledger

theorem completeRows_keyed {ledger : Ledger} (keyed : LedgerKeyed ledger) (observedAt : Int)
    (rows : List WaitingRow) : LedgerKeyed (completeRows observedAt rows ledger) := by
  induction rows generalizing ledger with
  | nil => exact keyed
  | cons row rest ih => exact ih (keyed.completeWaiting row.commandId observedAt)

theorem validRow_completeRows (family : RecordingReconciliation) (ledger : Ledger)
    (observedAt : Int) (rows : List WaitingRow) :
    validRow family (completeRows observedAt rows ledger) = validRow family ledger := by
  induction rows generalizing ledger with
  | nil => rfl
  | cons completed rest ih =>
    rw [completeRows, List.foldl_cons]
    refine (ih _).trans (funext fun row => ?_)
    exact validRow_completeWaiting family ledger completed.commandId observedAt row

theorem waitingRows_completeRows (family : RecordingReconciliation) {ledger : Ledger}
    (keyed : LedgerKeyed ledger) (observedAt : Int) {rows : List WaitingRow}
    (clean : ∀ row ∈ rows, cString row.commandId = row.commandId) :
    waitingRows family (completeRows observedAt rows ledger) =
      (waitingRows family ledger).filter fun row =>
        rows.all fun completed => row.commandId != completed.commandId := by
  induction rows generalizing ledger with
  | nil => simp [completeRows]
  | cons completed rest ih =>
    have first := waitingRows_completeWaiting family keyed (clean completed List.mem_cons_self)
      observedAt
    have later := ih (keyed.completeWaiting completed.commandId observedAt)
      fun row member => clean row (List.mem_cons_of_mem _ member)
    rw [completeRows, List.foldl_cons]
    refine later.trans ?_
    rw [first, List.filter_filter]
    refine List.filter_congr fun row _ => ?_
    rw [List.all_cons, Bool.and_comm]

theorem validRow_clean {family : RecordingReconciliation} {ledger : Ledger} {row : WaitingRow}
    (valid : validRow family ledger row = true) : cString row.commandId = row.commandId := by
  simp only [validRow, Bool.and_eq_true, Option.isSome_iff_exists] at valid
  obtain ⟨⟨candidate, read⟩, -⟩ := valid
  unfold readReconciliationCandidate at read
  dsimp only at read
  split at read
  · cases read
  rename_i checked
  simp only [not_or, Bool.not_eq_false] at checked
  exact cString_safeIdentifier _ (valid_identifiers checked.1).1

theorem waitingRows_completeShown (family : RecordingReconciliation) {ledger : Ledger}
    (keyed : LedgerKeyed ledger) (observedAt : Int) :
    waitingRows family (completeShown family observedAt ledger) =
      Paging.turn candidateLimit (fun row => !validRow family ledger row)
        (waitingRows family ledger) := by
  have completed : completeShown family observedAt ledger = completeRows observedAt
      ((candidatePage family ledger).filter (validRow family ledger)) ledger := rfl
  rw [completed, waitingRows_completeRows family keyed observedAt
    fun row member => validRow_clean (List.mem_filter.mp member).2]
  have unique := waitingRows_nodup family keyed
  rw [Paging.turn, candidatePage]
  have parts := (List.take_append_drop candidateLimit (waitingRows family ledger)).symm
  have apart := List.disjoint_of_nodup_append (parts ▸ unique)
  have key : ∀ row ∈ waitingRows family ledger, ∀ other ∈ waitingRows family ledger,
      row.commandId = other.commandId → row = other :=
    fun row member other listed => waitingRows_key keyed member listed
  generalize waitingRows family ledger = rows at parts apart key ⊢
  calc rows.filter _
    _ = (rows.take candidateLimit ++ rows.drop candidateLimit).filter _ := by rw [← parts]
    _ = (rows.take candidateLimit).filter _ ++ (rows.drop candidateLimit).filter _ :=
        List.filter_append ..
    _ = _ := ?_
  congr 1
  · refine List.filter_congr fun row onPage => ?_
    rw [Bool.eq_iff_iff]
    simp only [List.all_eq_true, List.mem_filter, bne_iff_ne, Bool.not_eq_true', and_imp]
    constructor
    · intro others
      by_contra valid
      exact others row onPage (by simpa using valid) rfl
    · intro invalid other otherOnPage valid same
      have equal := key row (List.mem_of_mem_take onPage) other
        (List.mem_of_mem_take otherOnPage) same
      exact absurd (equal ▸ valid) (by simp [invalid])
  · refine List.filter_eq_self.mpr fun row later => ?_
    simp only [List.all_eq_true, List.mem_filter, bne_iff_ne, and_imp]
    intro other onPage _ same
    have equal := key row (List.mem_of_mem_drop later) other (List.mem_of_mem_take onPage) same
    exact apart onPage (equal ▸ later)

theorem completeShown_iterate (family : RecordingReconciliation) {ledger : Ledger}
    (keyed : LedgerKeyed ledger) (observedAt : Int) (rounds : Nat) :
    LedgerKeyed ((completeShown family observedAt)^[rounds] ledger) ∧
      validRow family ((completeShown family observedAt)^[rounds] ledger) =
        validRow family ledger ∧
      waitingRows family ((completeShown family observedAt)^[rounds] ledger) =
        (Paging.turn candidateLimit fun row => !validRow family ledger row)^[rounds]
          (waitingRows family ledger) := by
  induction rounds with
  | zero => exact ⟨keyed, rfl, rfl⟩
  | succ rounds ih =>
    obtain ⟨reachedKeyed, valid, rows⟩ := ih
    rw [Function.iterate_succ_apply', Function.iterate_succ_apply']
    refine ⟨completeRows_keyed reachedKeyed _ _, ?_, ?_⟩
    · rw [← valid]
      exact validRow_completeRows family _ observedAt _
    · rw [waitingRows_completeShown family reachedKeyed, rows, valid]

/-! ## What stays hidden -/

theorem candidate_of_page {family : RecordingReconciliation} {ledger : Ledger} {row : WaitingRow}
    (onPage : row ∈ candidatePage family ledger) (valid : validRow family ledger row = true) :
    ∃ candidate, readReconciliationCandidate family row = some candidate ∧
      candidate ∈ reconciliationCandidates family true ledger := by
  simp only [validRow, Bool.and_eq_true, Option.isSome_iff_exists] at valid
  obtain ⟨⟨candidate, read⟩, -⟩ := valid
  exact ⟨candidate, read, List.mem_filterMap.mpr ⟨row, onPage, read⟩⟩

theorem readReconciliationCandidate_commandId {family : RecordingReconciliation}
    {row : WaitingRow} {candidate : ReconciliationCandidate}
    (read : readReconciliationCandidate family row = some candidate) :
    candidate.assignment.commandId = row.commandId := by
  unfold readReconciliationCandidate at read
  dsimp only at read
  split at read
  · cases read
  split at read
  · cases read
  split at read
  · cases read
  split at read
  · cases read
  split at read
  · cases read
  · cases read
    rfl

theorem page_of_candidate {family : RecordingReconciliation} {ledger : Ledger}
    (keyed : LedgerKeyed ledger) {row : WaitingRow} (waits : row ∈ waitingRows family ledger)
    {candidate : ReconciliationCandidate}
    (read : readReconciliationCandidate family row = some candidate)
    (shown : candidate ∈ reconciliationCandidates family true ledger) :
    row ∈ candidatePage family ledger := by
  obtain ⟨other, onPage, otherRead⟩ := List.mem_filterMap.mp shown
  have same : row.commandId = other.commandId :=
    (readReconciliationCandidate_commandId read).symm.trans
      (readReconciliationCandidate_commandId otherRead)
  rw [waitingRows_key keyed waits (List.mem_of_mem_take onPage) same]
  exact onPage

theorem candidates_length_of_valid {family : RecordingReconciliation} {ledger : Ledger}
    (valid : ∀ row ∈ candidatePage family ledger, validRow family ledger row = true) :
    (reconciliationCandidates family true ledger).length =
      (candidatePage family ledger).length := by
  rw [reconciliationCandidates, if_pos rfl, List.length_filterMap_eq_countP,
    List.countP_eq_length]
  intro row onPage
  have read := valid row onPage
  simp only [validRow, Bool.and_eq_true] at read
  exact read.1

theorem noneHidden_iff (family : RecordingReconciliation) {ledger : Ledger}
    (keyed : LedgerKeyed ledger) : NoneHidden family ledger ↔
      (∀ row ∈ candidatePage family ledger, validRow family ledger row = true) ∨
      ∀ row ∈ (waitingRows family ledger).drop candidateLimit,
        validRow family ledger row = false := by
  have parts := List.take_append_drop candidateLimit (waitingRows family ledger)
  constructor
  · intro shown
    by_contra hidden
    simp only [not_or, not_forall, Bool.not_eq_false] at hidden
    obtain ⟨⟨stale, stalePage, staleInvalid⟩, row, later, valid⟩ := hidden
    have waits := List.mem_of_mem_drop later
    obtain ⟨candidate, read, listed⟩ | ⟨_, all⟩ := shown row waits valid
    · have onPage := page_of_candidate keyed waits read listed
      have unique := waitingRows_nodup family keyed
      rw [← parts] at unique
      exact List.disjoint_of_nodup_append unique onPage later
    · exact staleInvalid (all stale stalePage)
  · intro condition row waits valid
    rw [← parts] at waits
    obtain onPage | later := List.mem_append.mp waits
    · exact .inl (candidate_of_page onPage valid)
    · cases condition with
      | inr invalid => exact absurd valid (by simp [invalid row later])
      | inl all =>
        refine .inr ⟨(candidates_length_of_valid all).trans ?_, all⟩
        have longer := List.length_pos_of_mem later
        rw [List.length_drop] at longer
        rw [candidatePage, List.length_take]
        omega

theorem reached_iff_shown (family : RecordingReconciliation) {ledger : Ledger}
    (keyed : LedgerKeyed ledger) (observedAt : Int) {row : WaitingRow}
    (waits : row ∈ waitingRows family ledger) (valid : validRow family ledger row = true) :
    Reached family observedAt ledger row ↔
      Paging.Shown candidateLimit (fun other => !validRow family ledger other)
        (waitingRows family ledger) row := by
  constructor
  · rintro ⟨rounds, candidate, read, listed⟩
    obtain ⟨-, -, rows⟩ := completeShown_iterate family keyed observedAt rounds
    obtain ⟨other, onPage, otherRead⟩ := List.mem_filterMap.mp listed
    have same : row.commandId = other.commandId :=
      (readReconciliationCandidate_commandId read).symm.trans
        (readReconciliationCandidate_commandId otherRead)
    rw [candidatePage, rows] at onPage
    have original : other ∈ waitingRows family ledger := by
      have member := List.mem_of_mem_take onPage
      clear rows listed onPage
      induction rounds with
      | zero => exact member
      | succ rounds ih =>
        rw [Function.iterate_succ_apply'] at member
        exact ih (Paging.mem_of_mem_turn member)
    exact ⟨rounds, waitingRows_key keyed waits original same ▸ onPage⟩
  · rintro ⟨rounds, onPage⟩
    obtain ⟨-, validSame, rows⟩ := completeShown_iterate family keyed observedAt rounds
    rw [← rows] at onPage
    obtain ⟨candidate, read, listed⟩ := candidate_of_page onPage (by rw [validSame]; exact valid)
    exact ⟨rounds, candidate, read, listed⟩

def waitingCutLedger : Ledger := (Run.final reconciliationStep {} cutCalls).ledger

theorem waitingCutLedger_facts :
    ((waitingCutLedger.commands.map fun row => row.assignment.commandId).Nodup ∧
      (waitingCutLedger.results.map ResultRow.commandId).Nodup) ∧
    (waitingRows recordingCutReconciliation waitingCutLedger).length = 1 ∧
    ∀ row ∈ waitingRows recordingCutReconciliation waitingCutLedger,
      validRow recordingCutReconciliation waitingCutLedger row = true := by
  decide +kernel

def retiredRow (index : Nat) : WaitingRow :=
  let commandId := [digitByte (index % 10), digitByte (index / 10)]
  let assignment := { cutAssignment with commandId := commandId, assignedAt := 9 }
  ({ assignment :=
        { assignment with requestFingerprint := backendAgentCommandFingerprint assignment }
     state := .waitingReconciliation
     updatedAt := 30 },
   { commandId := commandId
     resultIdentity := []
     dispatchState := text "accepted_by_executor"
     verificationState := text "outcome_unknown"
     resultCategory := text "outcome_unknown"
     errorCategory := text "none"
     retryClassification := text "reconcile_only"
     boundedDiagnostics := recordingCutReconciliation.evidence ++ List.replicate 32 99 ++
       text ":" ++ commandId
     resultEvidence := []
     completedAt := 30 })

def crowdedLedger : Ledger :=
  { waitingCutLedger with
    commands := (List.range 64).map (fun index => (retiredRow index).1) ++ waitingCutLedger.commands
    results := (List.range 64).map (fun index => (retiredRow index).2) ++ waitingCutLedger.results }

theorem crowdedLedger_facts :
    ((crowdedLedger.commands.map fun row => row.assignment.commandId).Nodup ∧
      (crowdedLedger.results.map ResultRow.commandId).Nodup) ∧
    ¬ ((∀ row ∈ candidatePage recordingCutReconciliation crowdedLedger,
        validRow recordingCutReconciliation crowdedLedger row = true) ∨
      ∀ row ∈ (waitingRows recordingCutReconciliation crowdedLedger).drop candidateLimit,
        validRow recordingCutReconciliation crowdedLedger row = false) := by
  decide +kernel

end VdrSuite.Core
