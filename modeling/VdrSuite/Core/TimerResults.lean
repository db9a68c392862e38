import VdrSuite.Agent.NativeCommandHandlerProperties
import VdrSuite.Agent.NativeCommandBinding
import VdrSuite.Agent.NativeResultEvidence
import VdrSuite.Core.CommandDelivery

/-! The results of timer creations and modifications between the agent that reports them and the
core that accepts them. -/

set_option autoImplicit false

namespace VdrSuite.Core

open Library Agent

/-! ## Commands that await their result -/

def timerPayloadSelection (assignment : BackendAgentCommandAssignment) :
    Option BackendAgentLocalProviderSelection :=
  if assignment.commandType = nativeTimerCreateCommandType then
    (backendAgentNativeTimerCreateParsePayload assignment.payload).map (·.localProviderSelection)
  else
    (backendAgentNativeTimerModifyParsePayload assignment.payload).map (·.localProviderSelection)

/-- The core holds the assignment, its provider selection and a receipt, and no result yet. -/
structure AwaitsResult (ledger : Ledger) (assignment : BackendAgentCommandAssignment) : Prop where
  command : ∃ row, ledger.command assignment.commandId = some row ∧ row.assignment = assignment
  selection : ∃ selection, timerPayloadSelection assignment = some selection ∧
    ledger.selection assignment.commandId = some (selectionRow assignment.commandId selection)
  receipt : (ledger.receipt assignment.commandId).isSome
  unanswered : ledger.result assignment.commandId = none

theorem checkRecordedSelection_of_row {ledger : Ledger} {commandId : Bytes}
    {selection : BackendAgentLocalProviderSelection}
    (valid : backendAgentLocalProviderValidSelection selection = true)
    (recorded : ledger.selection commandId = some (selectionRow commandId selection)) :
    checkRecordedSelection ledger commandId (some selection) = .ok () := by
  have identity : (selectionRow commandId selection).selectionIdentity =
      backendAgentLocalProviderSelectionIdentity selection :=
    cString_selectionIdentity valid
  rw [checkRecordedSelection, recorded]
  simp [identity]

theorem matchesFence_self (row : CommandRow) : row.matchesFence row.assignment.fence = true := by
  simp [CommandRow.matchesFence, BackendAgentCommandAssignment.fence]

theorem acceptResult_of_check {ledger : Ledger} {assignment : BackendAgentCommandAssignment}
    {result : BackendAgentCommandResult} (awaits : AwaitsResult ledger assignment)
    (identifier : backendAgentCommandSafeIdentifier assignment.commandId = true)
    (fence : result.fence = assignment.fence)
    (checked : checkResult ledger assignment result = .ok ()) :
    (acceptResult true ledger result).2 =
      { accepted := true, reasonCode := "command_result_accepted" } := by
  obtain ⟨row, found, stored⟩ := awaits.command
  have commandId : result.commandId = assignment.commandId := congrArg CommandFence.commandId fence
  have lookup : findAssignment ledger assignment.commandId = some assignment := by
    rw [findAssignment, if_neg (by simp [identifier]), found, Option.map_some, stored]
  have fenced : row.matchesFence result.fence = true := by
    rw [fence, ← stored]
    exact matchesFence_self row
  unfold acceptResult
  simp only [commandId, found, fenced, lookup, checked, awaits.unanswered, Bool.true_eq_false,
    if_false, Option.isNone_iff_eq_none, Option.isSome_iff_ne_none.mp awaits.receipt]

/-! ## Reports -/

theorem projectionMatches_of_reports {Command Identity : Type}
    {handler : NativeCommandHandler Command Identity} {assignment : BackendAgentCommandAssignment}
    {result : BackendAgentCommandResult} {evidence : NativeEvidence Identity}
    {projection : NativeGenericProjection} {subject pending : String}
    (reports : ReportsEvidence handler assignment result evidence projection)
    (generic : handler.projection evidence =
      some (nativeGenericProjection subject pending evidence.outcome)) :
    projectionMatches evidence.outcome result = true := by
  obtain rfl : nativeGenericProjection subject pending evidence.outcome = projection :=
    Option.some.inj (generic.symm.trans reports.projected)
  cases outcome : evidence.outcome <;>
    simp [projectionMatches, reports.dispatchState, reports.verificationState,
      reports.resultCategory, reports.errorCategory, reports.retryClassification,
      nativeGenericProjection, outcome]

theorem checkTimerEvidence_of_reports {Identity : Type} {invalid conflict : String}
    {evidence : NativeEvidence Identity} {kindFits : Bool} {result : BackendAgentCommandResult}
    (fits : kindFits = true) (nonempty : result.resultEvidence ≠ [])
    (completed : result.completedAt = evidence.completedAt)
    (projected : projectionMatches evidence.outcome result = true) :
    checkTimerEvidence invalid conflict (some evidence) kindFits result = .ok () := by
  unfold checkTimerEvidence
  simp [fits, nonempty, completed, projected]

theorem commandId_of_valid {assignment : BackendAgentCommandAssignment}
    (valid : backendAgentCommandValidAssignment assignment = true) :
    backendAgentCommandSafeIdentifier assignment.commandId = true := by
  simp only [backendAgentCommandValidAssignment, Bool.and_eq_true] at valid
  exact valid.1.1.1.1.1.1.1.1.1.2

theorem version_of_shape {assignment : BackendAgentCommandAssignment}
    (shape : nativeMutationShape assignment = true) : assignment.payloadVersion = 1 := by
  simp only [nativeMutationShape, Bool.and_eq_true, beq_iff_eq] at shape
  exact shape.1

def AcceptedReport {Identity : Type} (ledger : Ledger) (assignment : BackendAgentCommandAssignment)
    (parse : Bytes → BackendAgentCommandAssignment → Option (NativeEvidence Identity))
    (outcome : HandledCommand) : Prop :=
  ∀ state reason, outcome = .ok (state, reason) →
    ∃ result evidence, state.result = some result ∧
      parse result.resultEvidence assignment = some evidence ∧
      evidence.completedAt = result.completedAt ∧
      projectionMatches evidence.outcome result = true ∧
      (acceptResult true ledger result).2 =
        { accepted := true, reasonCode := "command_result_accepted" }

theorem acceptedReport_of_leavesReport {Command Identity : Type}
    {handler : NativeCommandHandler Command Identity} {ledger : Ledger}
    {assignment : BackendAgentCommandAssignment}
    {parse : Bytes → BackendAgentCommandAssignment → Option (NativeEvidence Identity)}
    (accepts : ∀ result evidence projection,
      ReportsEvidence handler assignment result evidence projection →
        parse result.resultEvidence assignment = some evidence ∧
        projectionMatches evidence.outcome result = true ∧
        (acceptResult true ledger result).2 =
          { accepted := true, reasonCode := "command_result_accepted" })
    (outcome : HandledCommand) (report : LeavesReport handler assignment outcome) :
    AcceptedReport ledger assignment parse outcome := by
  intro state reason success
  obtain ⟨-, result, evidence, projection, present, reports⟩ := report state reason success
  obtain ⟨parsed, projected, accepted⟩ := accepts result evidence projection reports
  exact ⟨result, evidence, present, parsed, reports.completedAt.symm, projected, accepted⟩

/-! ## Creations -/

theorem nativeTimerCreate_of_assignment {assignment : BackendAgentCommandAssignment}
    {command : BackendAgentNativeTimerCreateCommand}
    (derived : backendAgentNativeTimerCreateCommandFromAssignment assignment = .ok command) :
    backendAgentCommandValidAssignment assignment = true ∧
      assignment.commandType = nativeTimerCreateCommandType ∧
      nativeMutationShape assignment = true ∧
      ∃ payload, backendAgentNativeTimerCreateParsePayload assignment.payload = some payload ∧
        backendAgentLocalProviderValidSelection payload.localProviderSelection = true := by
  unfold backendAgentNativeTimerCreateCommandFromAssignment at derived
  split at derived
  · cases derived
  · rename_i admitted
    simp only [not_or, Bool.not_eq_false, not_not] at admitted
    split at derived
    · cases derived
    · rename_i payload parsed
      dsimp only at derived
      split at derived
      · rename_i valid
        simp only [backendAgentNativeTimerCreateValidCommand, nativeTimerCreateEnvelope,
          Bool.and_eq_true] at valid
        exact ⟨admitted.1, admitted.2.1, admitted.2.2, payload, parsed,
          selected_of_exact valid.1.2⟩
      · cases derived

theorem createReport_accepted {ledger : Ledger} {assignment : BackendAgentCommandAssignment}
    (awaits : AwaitsResult ledger assignment) {result : BackendAgentCommandResult}
    {evidence : BackendAgentNativeTimerCreateEvidence} {projection : NativeGenericProjection}
    (reports : ReportsEvidence nativeTimerCreateHandler assignment result evidence projection) :
    backendAgentNativeTimerCreateParseResultEvidence result.resultEvidence assignment =
        some evidence ∧
      projectionMatches evidence.outcome result = true ∧
      (acceptResult true ledger result).2 =
        { accepted := true, reasonCode := "command_result_accepted" } := by
  obtain ⟨written, nonempty⟩ := reports.evidenceText _ rfl
  have parsed := nativeTimerCreate_parseResultEvidence (written ▸ nonempty) reports.bounded
  rw [← written] at parsed
  have projected := projectionMatches_of_reports reports rfl
  refine ⟨parsed, projected, ?_⟩
  obtain ⟨command, derived⟩ := nativeTimerCreate_derived (written ▸ nonempty)
  obtain ⟨valid, type, shape, payload, decoded, selected⟩ :=
    nativeTimerCreate_of_assignment derived
  refine acceptResult_of_check awaits (commandId_of_valid valid) reports.fence ?_
  obtain ⟨selection, chosen, recorded⟩ := awaits.selection
  rw [timerPayloadSelection, if_pos type, decoded, Option.map_some, Option.some.injEq] at chosen
  have commandId : result.commandId = assignment.commandId :=
    congrArg CommandFence.commandId reports.fence
  rw [checkResult, type, if_neg (by decide), if_neg (by decide),
    if_neg (by simp [version_of_shape shape]), if_pos rfl, checkCreateResult, decoded,
    Option.map_some, commandId, chosen, checkRecordedSelection_of_row (chosen ▸ selected) recorded,
    parsed]
  exact checkTimerEvidence_of_reports rfl nonempty reports.completedAt projected

/-! ## Modifications -/

theorem nativeTimerModify_of_assignment {assignment : BackendAgentCommandAssignment}
    {command : BackendAgentNativeTimerModifyCommand}
    (derived : backendAgentNativeTimerModifyCommandFromAssignment assignment = .ok command) :
    backendAgentCommandValidAssignment assignment = true ∧
      (assignment.commandType = nativeTimerUpdateCommandType ∨
        assignment.commandType = nativeTimerToggleCommandType) ∧
      nativeMutationShape assignment = true ∧
      ∃ payload, backendAgentNativeTimerModifyParsePayload assignment.payload = some payload ∧
        (assignment.commandType = nativeTimerUpdateCommandType ↔ payload.kind = .update) ∧
        backendAgentLocalProviderValidSelection payload.localProviderSelection = true := by
  unfold backendAgentNativeTimerModifyCommandFromAssignment at derived
  split at derived
  · cases derived
  · rename_i admitted
    simp only [not_or, Bool.not_eq_false, not_and, Decidable.not_not] at admitted
    obtain ⟨valid, type, shape⟩ := admitted
    split at derived
    · cases derived
    · rename_i payload parsed
      split at derived
      · cases derived
      · rename_i agrees
        simp only [ne_eq, not_or, Decidable.not_not, decide_eq_decide] at agrees
        dsimp only at derived
        split at derived
        · rename_i validCommand
          simp only [backendAgentNativeTimerModifyValidCommand, nativeTimerModifyCommandFor,
            nativeTimerModifyExactProviderSelection, Bool.and_eq_true] at validCommand
          refine ⟨valid, ?_, shape, payload, parsed, agrees.1,
            selected_of_exact validCommand.2.1⟩
          by_cases update : assignment.commandType = nativeTimerUpdateCommandType
          · exact .inl update
          · exact .inr (type update)
        · cases derived

theorem modifyKind_fits {assignment : BackendAgentCommandAssignment}
    {kind : BackendAgentNativeTimerModifyKind}
    (type : assignment.commandType = nativeTimerUpdateCommandType ∨
      assignment.commandType = nativeTimerToggleCommandType)
    (agrees : assignment.commandType = nativeTimerUpdateCommandType ↔ kind = .update) :
    (decide (kind = .toggle) ==
      decide (assignment.commandType = nativeTimerToggleCommandType)) = true := by
  have distinct : nativeTimerUpdateCommandType ≠ nativeTimerToggleCommandType := by decide
  rcases type with update | toggle
  · simp [agrees.mp update, update, distinct]
  · cases kind with
    | update => exact absurd ((agrees.mpr rfl).symm.trans toggle) distinct
    | toggle => simp [toggle]

theorem modifyReport_accepted {ledger : Ledger} {assignment : BackendAgentCommandAssignment}
    (awaits : AwaitsResult ledger assignment) {result : BackendAgentCommandResult}
    {evidence : BackendAgentNativeTimerModifyEvidence} {projection : NativeGenericProjection}
    (reports : ReportsEvidence nativeTimerModifyHandler assignment result evidence projection) :
    backendAgentNativeTimerModifyParseResultEvidence result.resultEvidence assignment =
        some evidence ∧
      projectionMatches evidence.outcome result = true ∧
      (acceptResult true ledger result).2 =
        { accepted := true, reasonCode := "command_result_accepted" } := by
  obtain ⟨written, nonempty⟩ := reports.evidenceText _ rfl
  have parsed := nativeTimerModify_parseResultEvidence (written ▸ nonempty) reports.bounded
  rw [← written] at parsed
  have projected := projectionMatches_of_reports reports rfl
  refine ⟨parsed, projected, ?_⟩
  obtain ⟨command, derived⟩ := nativeTimerModify_derived (written ▸ nonempty)
  obtain ⟨valid, type, shape, payload, decoded, agrees, selected⟩ :=
    nativeTimerModify_of_assignment derived
  refine acceptResult_of_check awaits (commandId_of_valid valid) reports.fence ?_
  obtain ⟨selection, chosen, recorded⟩ := awaits.selection
  have notCreate : assignment.commandType ≠ nativeTimerCreateCommandType := by
    rcases type with type | type <;> rw [type] <;> decide
  rw [timerPayloadSelection, if_neg notCreate, decoded, Option.map_some,
    Option.some.injEq] at chosen
  have commandId : result.commandId = assignment.commandId :=
    congrArg CommandFence.commandId reports.fence
  have checked : checkResult ledger assignment result =
      checkModifyResult ledger assignment result := by
    unfold checkResult
    rcases type with type | type <;>
      rw [type, if_neg (by decide), if_neg (by decide), if_neg (by simp [version_of_shape shape]),
        if_neg (by decide), if_neg (by decide), if_neg (by decide), if_neg (by decide)]
  rw [checked, checkModifyResult, decoded]
  dsimp only
  rw [commandId, chosen, checkRecordedSelection_of_row (chosen ▸ selected) recorded, parsed]
  exact checkTimerEvidence_of_reports (modifyKind_fits type agrees) nonempty reports.completedAt
    projected

/-! ## Agreement -/

def HandedState (state : LocalState) : Prop :=
  state.result = none ∨ ∃ content, load content = .ok state

theorem resultFenced_of_handed {state : LocalState} (handed : HandedState state) :
    ResultFenced state := by
  rcases handed with unanswered | ⟨content, loaded⟩
  · intro result present
    rw [unanswered] at present
    cases present
  · exact load_fenced loaded

/-- Whatever a fresh execution or a recovery of a creation or a modification reports, the core
accepts it. -/
theorem timer_results_accepted (ledger : Ledger) (path : Bytes) (context : NativeCommandContext)
    (transport : Bool) (state : LocalState) (awaits : AwaitsResult ledger state.assignment)
    (handed : HandedState state) :
    (backendAgentNativeTimerCreateCommandExecuteFreshStartingAndPersistOutcome path context
      transport state).Always (fun _ => True) (AcceptedReport ledger state.assignment
        backendAgentNativeTimerCreateParseResultEvidence) ∧
    (backendAgentNativeTimerCreateCommandReconcileExisting path context state).Always
      (fun _ => True) (AcceptedReport ledger state.assignment
        backendAgentNativeTimerCreateParseResultEvidence) ∧
    (backendAgentNativeTimerModifyCommandExecuteFreshStartingAndPersistOutcome path context
      transport state).Always (fun _ => True) (AcceptedReport ledger state.assignment
        backendAgentNativeTimerModifyParseResultEvidence) ∧
    (backendAgentNativeTimerModifyCommandReconcileExisting path context state).Always
      (fun _ => True)
      (AcceptedReport ledger state.assignment
        backendAgentNativeTimerModifyParseResultEvidence) := by
  have fenced := resultFenced_of_handed handed
  have created := acceptedReport_of_leavesReport fun _ _ _ => createReport_accepted awaits
  have modified := acceptedReport_of_leavesReport fun _ _ _ => modifyReport_accepted awaits
  refine ⟨?_, ?_, ?_, ?_⟩
  · exact (executeFresh_reports nativeTimerCreate_times path context transport state).mono
      (fun _ => id) created
  · exact (reconcileExisting_reports nativeTimerCreate_times path context fenced).mono
      (fun _ => id) created
  · exact (executeFresh_reports nativeTimerModify_times path context transport state).mono
      (fun _ => id) modified
  · exact (reconcileExisting_reports nativeTimerModify_times path context fenced).mono
      (fun _ => id) modified

def createSelection : BackendAgentLocalProviderSelection :=
  { backendId := text "backend-1"
    authorityDomain := text "vdr.timer"
    providerId := text "suitebridge:local"
    providerKind := text "suitebridge"
    ownershipGeneration := 1
    providerInstanceEpoch := text "epoch-1"
    providerGeneration := 1
    capabilityRevision := 1
    requiredCapability := nativeTimerCreateCommandType }

def createAssignment : BackendAgentCommandAssignment :=
  let specification : BackendAgentNativeTimerCreateSpecification :=
    { channelId := text "C-1-2-3"
      title := text "News"
      day := text "2026-01-01"
      startTime := text "930"
      endTime := text "1015" }
  let command : BackendAgentCommandAssignment :=
    { present := true
      requestId := text "request-1"
      correlationId := text "correlation-1"
      operationId := text "operation-1"
      jobId := text "job-1"
      attemptId := text "attempt-1"
      claimEpoch := 1
      commandId := text "command-1"
      backendId := text "backend-1"
      agentId := text "agent-1"
      agentInstanceId := text "instance-1"
      backendGeneration := 1
      commandType := nativeTimerCreateCommandType
      payloadVersion := 1
      payload := backendAgentNativeTimerCreatePayload
        { operationRevision := text "revision-1"
          timerAssignmentId := text "timer-1"
          expectedAssignmentRevision := text "revision-1"
          expectedIntentRevision := text "revision-1"
          assignmentEpoch := 1
          nativeTimerBindingId := text "binding-1"
          controlPlaneClaimedAt := 5
          expectedSpecificationFingerprint :=
            backendAgentNativeTimerCreateSpecificationFingerprint specification
          specification := specification
          localProviderSelection := createSelection }
      verificationPolicy := text "readback_required"
      assignedAt := 10
      deadline := 100 }
  { command with requestFingerprint := backendAgentCommandFingerprint command }

def createReceipt : BackendAgentCommandReceipt :=
  receiptFor createAssignment (text "accepted") 20 (text "accepted_locally")

def createLedger : Ledger :=
  { commands := [{ assignment := createAssignment, state := .received, updatedAt := 20 }]
    selections := [selectionRow createAssignment.commandId createSelection]
    receipts := [receiptRow createReceipt] }

theorem createLedger_awaits : AwaitsResult createLedger createAssignment :=
  ⟨⟨{ assignment := createAssignment, state := .received, updatedAt := 20 }, rfl, rfl⟩,
    ⟨createSelection, by decide +kernel, rfl⟩, rfl, rfl⟩

@[irreducible]
def createStarted : LocalState :=
  let localState : Except String Bytes := do
    backendAgentNativeTimerCreateSerializeLocalState (← nativeTimerCreateStarting createAssignment 30)
  { assignment := createAssignment
    receipt := createReceipt
    receiptAcknowledged := true
    dispatchState := text "starting"
    stateExtension := some
      { extensionType := nativeTimerCreateExtensionType
        commandId := createAssignment.commandId
        requestFingerprint := createAssignment.requestFingerprint
        payload := localState.toOption.getD [] } }

def createContext : NativeCommandContext :=
  { backendId := text "backend-1"
    agentId := text "agent-1"
    agentInstanceId := text "instance-1"
    backendGeneration := 1 }

theorem createStarted_awaits : AwaitsResult createLedger createStarted.assignment := by
  rw [createStarted]
  exact createLedger_awaits

theorem createStarted_handed : HandedState createStarted := by
  rw [createStarted]
  exact .inl rfl

theorem timer_results_accepted_create :
    (backendAgentNativeTimerCreateCommandExecuteFreshStartingAndPersistOutcome (text "/state")
      createContext true createStarted).Always (fun _ => True)
      (AcceptedReport createLedger createStarted.assignment
        backendAgentNativeTimerCreateParseResultEvidence) ∧
    (backendAgentNativeTimerCreateCommandReconcileExisting (text "/state") createContext
      createStarted).Always (fun _ => True)
      (AcceptedReport createLedger createStarted.assignment
        backendAgentNativeTimerCreateParseResultEvidence) := by
  have accepted := timer_results_accepted createLedger (text "/state") createContext true
    createStarted createStarted_awaits createStarted_handed
  exact ⟨accepted.1, accepted.2.1⟩

end VdrSuite.Core
