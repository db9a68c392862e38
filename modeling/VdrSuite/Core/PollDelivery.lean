import VdrSuite.Core.FenceAgreement
import VdrSuite.Core.TimerResults

/-! Which command a poll delivers: the query's oldest candidate, whose fence is partly looked at
only after it has been chosen. -/

set_option autoImplicit false

namespace VdrSuite.Core

open Library Agent

/-! ## The oldest of several commands -/

theorem exists_oldest {rows : List CommandRow} (nonempty : rows ≠ []) :
    ∃ row ∈ rows, ∀ other ∈ rows, row.assignment.assignedAt ≤ other.assignment.assignedAt := by
  induction rows with
  | nil => exact absurd rfl nonempty
  | cons first rows ih =>
    by_cases alone : rows = []
    · subst alone
      exact ⟨first, List.mem_cons_self, by simp⟩
    · obtain ⟨row, member, least⟩ := ih alone
      by_cases older : first.assignment.assignedAt ≤ row.assignment.assignedAt
      · refine ⟨first, List.mem_cons_self, List.forall_mem_cons.mpr ⟨le_refl _, ?_⟩⟩
        exact fun other later => older.trans (least other later)
      · refine ⟨row, List.mem_cons_of_mem _ member, List.forall_mem_cons.mpr ⟨?_, least⟩⟩
        exact (lt_of_not_ge older).le

theorem oldest_of_nonempty (tie : Nat) {rows : List CommandRow} (nonempty : rows ≠ []) :
    ∃ row ∈ rows, oldest tie rows = some row ∧
      ∀ other ∈ rows, row.assignment.assignedAt ≤ other.assignment.assignedAt := by
  have first : (rows.filter fun row =>
      rows.all fun other =>
        decide (row.assignment.assignedAt ≤ other.assignment.assignedAt)) ≠ [] := by
    obtain ⟨row, member, least⟩ := exists_oldest nonempty
    refine List.ne_nil_of_mem (List.mem_filter.mpr ⟨member, ?_⟩)
    simpa using least
  obtain ⟨row, chosen⟩ : ∃ row, oldest tie rows = some row := by
    refine ⟨_, List.getElem?_eq_getElem (Nat.mod_lt tie (List.length_pos_of_ne_nil first))⟩
  obtain ⟨member, least⟩ := List.mem_filter.mp (List.mem_of_getElem? chosen)
  exact ⟨row, member, chosen, by simpa using least⟩

theorem exists_tie {rows : List CommandRow} {row : CommandRow} (member : row ∈ rows)
    (least : ∀ other ∈ rows, row.assignment.assignedAt ≤ other.assignment.assignedAt) :
    ∃ tie, oldest tie rows = some row := by
  have among : row ∈ rows.filter fun row =>
      rows.all fun other =>
        decide (row.assignment.assignedAt ≤ other.assignment.assignedAt) :=
    List.mem_filter.mpr ⟨member, by simpa using least⟩
  obtain ⟨index, inside, found⟩ := List.mem_iff_getElem.mp among
  refine ⟨index, ?_⟩
  unfold oldest
  dsimp only
  rw [Nat.mod_eq_of_lt inside, List.getElem?_eq_getElem inside, found]

/-! ## What a poll delivers -/

def queued (ledger : Ledger) (request : BackendAgentCommandPollRequest) (context : PollContext)
    (row : CommandRow) : Bool :=
  row.assignment.backendId == cString request.backendId &&
  row.assignment.agentId == cString context.agentId &&
  row.assignment.agentInstanceId == cString request.agentInstanceId &&
  row.assignment.backendGeneration == request.backendGeneration &&
  decide (context.now ≤ row.assignment.deadline) &&
  ((row.state == .assigned &&
      !(ledger.receipts.any fun receipt => receipt.commandId == row.assignment.commandId)) ||
    row.replayRequested) &&
  readbackReleased context.operations row.assignment &&
  (ledger.capabilities.any fun capability =>
    capability.backendId == row.assignment.backendId &&
    capability.agentId == row.assignment.agentId &&
    capability.agentInstanceId == row.assignment.agentInstanceId &&
    capability.backendGeneration == row.assignment.backendGeneration &&
    capability.commandType == row.assignment.commandType)

def SelectionCurrent (ledger : Ledger) (row : CommandRow) : Prop :=
  ∃ reason, localProviderSelectionCurrent ledger row.assignment.commandId = .ok reason

/-- A command that its agent may get: queued, and with a current selection if it needs one. -/
def Deliverable (ledger : Ledger) (request : BackendAgentCommandPollRequest)
    (context : PollContext) (row : CommandRow) : Prop :=
  row ∈ ledger.commands ∧ queued ledger request context row = true ∧ SelectionCurrent ledger row

def FirstCandidate (ledger : Ledger) (request : BackendAgentCommandPollRequest)
    (context : PollContext) (row : CommandRow) : Prop :=
  row ∈ ledger.commands ∧ deliverable ledger request context row = true ∧
  ∀ other ∈ ledger.commands, deliverable ledger request context other = true →
    row.assignment.assignedAt ≤ other.assignment.assignedAt

def advertisedLedger (ledger : Ledger) (request : BackendAgentCommandPollRequest)
    (context : PollContext) : Option Ledger :=
  if request.refreshCapabilities then
    match backendAgentNativeTimerAdvertisementValid request with
    | .error _ => none
    | .ok _ => refreshAdvertisement ledger request context
  else some ledger

/-- Whenever something is deliverable, a poll delivers an oldest deliverable command, whatever the
choice among equally old candidates is. -/
def DeliversOldest (ledger : Ledger) (request : BackendAgentCommandPollRequest)
    (context : PollContext) : Prop :=
  ∀ base tie, advertisedLedger ledger request context = some base →
    (∃ row, Deliverable base request context row) →
    ∃ row, Deliverable base request context row ∧
      (∀ other, Deliverable base request context other →
        row.assignment.assignedAt ≤ other.assignment.assignedAt) ∧
      (poll true ledger request { context with tie := tie }).2 =
        { accepted := true, reasonCode := "command_assigned", assignment := row.assignment }

/-- If anything is deliverable, the selections of the query's first candidates are current. -/
def FirstCandidatesCurrent (ledger : Ledger) (request : BackendAgentCommandPollRequest)
    (context : PollContext) : Prop :=
  ∀ base, advertisedLedger ledger request context = some base →
    (∃ row, Deliverable base request context row) →
    ∀ row, FirstCandidate base request context row → SelectionCurrent base row

theorem deliverable_iff (ledger : Ledger) (request : BackendAgentCommandPollRequest)
    (context : PollContext) (row : CommandRow) :
    deliverable ledger request context row = true ↔
      queued ledger request context row = true ∧
        (row.assignment.commandType = nativeProbeCommandType ∨
          row.assignment.commandType = recordingCutCommandType →
          providerJoin ledger row.assignment = true) := by
  simp only [deliverable, queued, Bool.and_eq_true, Bool.or_eq_true, bne_iff_ne, and_congr_right_iff]
  intro _
  by_cases probe : row.assignment.commandType = nativeProbeCommandType
  · simp [probe]
  · by_cases cut : row.assignment.commandType = recordingCutCommandType <;> simp [probe, cut]

/-! ## The query and the fence after it -/

theorem advertisedLedger_commands {ledger base : Ledger}
    {request : BackendAgentCommandPollRequest} {context : PollContext}
    (advertised : advertisedLedger ledger request context = some base)
    (table : CommandTableValid ledger.commands) : CommandTableValid base.commands := by
  unfold advertisedLedger at advertised
  split at advertised
  · split at advertised
    · cases advertised
    · rw [(refreshAdvertisement_spec advertised).1]
      refine table.map ?_
      intro row
      split <;> rfl
  · cases advertised
    exact table

theorem poll_eq_deliver {ledger base : Ledger} {request : BackendAgentCommandPollRequest}
    {context : PollContext} (advertised : advertisedLedger ledger request context = some base)
    {row : CommandRow} (candidate : Deliverable base request context row) (tie : Nat) :
    poll true ledger request { context with tie := tie } =
      deliver base request { context with tie := tie } := by
  unfold advertisedLedger at advertised
  unfold poll
  dsimp only
  split at advertised
  · rename_i refreshes
    rw [if_neg (by simp [refreshes]), if_pos refreshes]
    cases valid : backendAgentNativeTimerAdvertisementValid request with
    | error reason => simp [valid] at advertised
    | ok passed =>
      simp only [valid] at advertised
      have same : refreshAdvertisement ledger request { context with tie := tie } = some base :=
        advertised
      simp only [Bool.true_eq_false, if_false, same]
  · rename_i keeps
    cases advertised
    obtain ⟨member, waits, -⟩ := candidate
    simp only [queued, Bool.and_eq_true, Bool.or_eq_true, beq_iff_eq] at waits
    obtain ⟨⟨⟨⟨⟨⟨⟨backend, -⟩, -⟩, -⟩, -⟩, waits⟩, -⟩, -⟩ := waits
    have waiting : (ledger.commands.any fun row =>
        row.assignment.backendId == cString request.backendId &&
        (row.state == .assigned || row.replayRequested)) = true := by
      refine List.any_eq_true.mpr ⟨row, member, ?_⟩
      simp only [Bool.and_eq_true, Bool.or_eq_true, beq_iff_eq]
      exact ⟨backend, waits.imp_left And.left⟩
    rw [if_neg (by simp [waiting]), if_neg keeps, if_neg (by decide)]

theorem deliverable_of_current {ledger : Ledger} (table : CommandTableValid ledger.commands)
    {request : BackendAgentCommandPollRequest} {context : PollContext} {row : CommandRow}
    (candidate : Deliverable ledger request context row) :
    deliverable ledger request context row = true := by
  obtain ⟨member, waits, reason, current⟩ := candidate
  refine (deliverable_iff _ _ _ _).mpr ⟨waits, fun kind => ?_⟩
  obtain ⟨-, -, -, -, -, passes⟩ := providerJoin_of_current table member kind current
  exact passes

theorem deliver_of_oldest {ledger : Ledger} {request : BackendAgentCommandPollRequest}
    {context : PollContext} {row : CommandRow}
    (chosen : oldest context.tie (ledger.commands.filter (deliverable ledger request context)) =
      some row) (current : SelectionCurrent ledger row) :
    (deliver ledger request context).2 =
      { accepted := true, reasonCode := "command_assigned", assignment := row.assignment } := by
  obtain ⟨reason, current⟩ := current
  unfold deliver
  rw [chosen]
  dsimp only
  rw [current]
  split
  · rename_i refusal outcome
    split at outcome
    · cases outcome
    · cases outcome
  · rfl

theorem deliver_first_or_nothing {ledger : Ledger} {request : BackendAgentCommandPollRequest}
    {context : PollContext} {row : CommandRow}
    (chosen : oldest context.tie (ledger.commands.filter (deliverable ledger request context)) =
      some row) :
    (deliver ledger request context).2.assignment = row.assignment ∨
      (deliver ledger request context).2.assignment = {} := by
  unfold deliver
  rw [chosen]
  dsimp only
  split
  · exact .inr rfl
  · exact .inl rfl

/-- A poll never lets an undeliverable command hide a deliverable one exactly if the commands that
its query puts first are never stale while something is deliverable. -/
theorem poll_delivers_oldest_iff (ledger : Ledger) (table : CommandTableValid ledger.commands)
    (request : BackendAgentCommandPollRequest) (context : PollContext) :
    DeliversOldest ledger request context ↔ FirstCandidatesCurrent ledger request context := by
  constructor
  · intro delivers base advertised waiting row first
    have baseTable := advertisedLedger_commands advertised table
    obtain ⟨member, candidate, least⟩ := first
    have among : row ∈ base.commands.filter (deliverable base request context) :=
      List.mem_filter.mpr ⟨member, candidate⟩
    obtain ⟨tie, chosen⟩ := exists_tie among fun other listed =>
      least other (List.mem_of_mem_filter listed) (List.of_mem_filter listed)
    obtain ⟨delivered, ⟨deliveredMember, -, reason, current⟩, -, outcome⟩ :=
      delivers base tie advertised waiting
    obtain ⟨deliverableRow, waits⟩ := waiting
    rw [poll_eq_deliver advertised waits tie] at outcome
    by_contra stale
    obtain same | nothing :=
      @deliver_first_or_nothing base request { context with tie := tie } row chosen
    · rw [outcome] at same
      dsimp only at same
      exact stale ⟨reason, by rw [← same]; exact current⟩
    · rw [outcome] at nothing
      dsimp only at nothing
      have present := baseTable.present delivered deliveredMember
      rw [nothing] at present
      cases present
  · intro current base tie advertised waiting
    have baseTable := advertisedLedger_commands advertised table
    obtain ⟨deliverableRow, waits⟩ := waiting
    have nonempty : base.commands.filter (deliverable base request context) ≠ [] :=
      List.ne_nil_of_mem
        (List.mem_filter.mpr ⟨waits.1, deliverable_of_current baseTable waits⟩)
    obtain ⟨row, listed, chosen, least⟩ := oldest_of_nonempty tie nonempty
    obtain ⟨member, candidate⟩ := List.mem_filter.mp listed
    have first : FirstCandidate base request context row :=
      ⟨member, candidate, fun other otherMember passes =>
        least other (List.mem_filter.mpr ⟨otherMember, passes⟩)⟩
    have fresh := current base advertised ⟨deliverableRow, waits⟩ row first
    refine ⟨row, ⟨member, ((deliverable_iff _ _ _ _).mp candidate).1, fresh⟩, ?_, ?_⟩
    · intro other otherWaits
      exact least other
        (List.mem_filter.mpr ⟨otherWaits.1, deliverable_of_current baseTable otherWaits⟩)
    · rw [poll_eq_deliver advertised waits tie]
      exact deliver_of_oldest chosen fresh

/-! ### A timer creation whose provider is gone, before a probe that needs none -/

def laterProbe : BackendAgentCommandAssignment :=
  let command : BackendAgentCommandAssignment :=
    { createAssignment with
      requestId := text "request-2"
      correlationId := text "correlation-2"
      operationId := text "operation-2"
      jobId := text "job-2"
      commandId := text "command-2"
      commandType := probeNoopCommandType
      payload := text "\x7b\x7d"
      verificationPolicy := text "none"
      assignedAt := 11 }
  { command with requestFingerprint := backendAgentCommandFingerprint command }

def ownerlessCreationCalls : List LedgerCall :=
  [⟨true, .setLocalProviderOwnership
      { backendId := text "backend-1", authorityDomain := text "vdr.timer"
        providerId := text "suitebridge:local", providerKind := text "suitebridge"
        allowedCapabilities := [nativeTimerCreateCommandType], updatedAt := 5 }⟩,
    ⟨true, .poll
      { backendId := text "backend-1", agentInstanceId := text "instance-1", backendGeneration := 1
        supportedCommandTypes := [nativeTimerCreateCommandType, probeNoopCommandType]
        localProviders :=
          [{ providerId := text "suitebridge:local", providerKind := text "suitebridge"
             providerInstanceEpoch := text "epoch-1", providerGeneration := 1
             capabilityRevision := 1, available := true
             capabilities := [nativeTimerCreateCommandType] }] }
      { agentId := text "agent-1", now := 6, operations := none, tie := 0 }⟩,
    ⟨true, .insertAssignment createAssignment (some createSelection)⟩,
    ⟨true, .insertAssignment laterProbe none⟩,
    ⟨true, .clearLocalProviderOwnership (text "backend-1") (text "vdr.timer") 12⟩]

def laterPoll : BackendAgentCommandPollRequest :=
  { backendId := text "backend-1", agentInstanceId := text "instance-1", backendGeneration := 1
    refreshCapabilities := false }

def laterContext : PollContext :=
  { agentId := text "agent-1", now := 13, operations := none, tie := 0 }

theorem poll_delivers_oldest_iff_ownerless :
    DeliversOldest (Run.final ledgerStep {} ownerlessCreationCalls) laterPoll laterContext ↔
      FirstCandidatesCurrent (Run.final ledgerStep {} ownerlessCreationCalls) laterPoll
        laterContext :=
  poll_delivers_oldest_iff (Run.final ledgerStep {} ownerlessCreationCalls)
    (fenceTables_final ownerlessCreationCalls).commands laterPoll laterContext

/-- The probe could be delivered, and the poll is refused because of the creation. -/
theorem ownerless_creation_hides_probe :
    ¬ DeliversOldest (Run.final ledgerStep {} ownerlessCreationCalls) laterPoll laterContext := by
  intro delivers
  have waits : queued (Run.final ledgerStep {} ownerlessCreationCalls) laterPoll laterContext
      { assignment := boundAssignment laterProbe, updatedAt := 11 } = true := by
    decide +kernel
  have current : localProviderSelectionCurrent (Run.final ledgerStep {} ownerlessCreationCalls)
      (boundAssignment laterProbe).commandId = .ok "local_provider_selection_not_required" := by
    decide +kernel
  have refused : (poll true (Run.final ledgerStep {} ownerlessCreationCalls) laterPoll
      laterContext).2.reasonCode = "local_provider_ownership_required" := by
    decide +kernel
  have member : { assignment := boundAssignment laterProbe, updatedAt := 11 } ∈
      (Run.final ledgerStep {} ownerlessCreationCalls).commands := by
    decide +kernel
  have waiting : ∃ row, Deliverable (Run.final ledgerStep {} ownerlessCreationCalls) laterPoll
      laterContext row :=
    ⟨_, member, waits, _, current⟩
  generalize Run.final ledgerStep {} ownerlessCreationCalls = ledger at *
  obtain ⟨row, -, -, outcome⟩ := delivers ledger 0 rfl waiting
  have same : poll true ledger laterPoll { laterContext with tie := 0 } =
      poll true ledger laterPoll laterContext := rfl
  rw [same] at outcome
  rw [outcome] at refused
  simp at refused

end VdrSuite.Core
