import Mathlib.Data.List.Nodup
import VdrSuite.Core.CommandDelivery

/-! Laws of the command ledger: what one call can change, and what every run keeps. -/

set_option autoImplicit false

namespace VdrSuite.Core

open Library Agent

/-! ## What one call can change -/

/-- The ways in which a call changes commands, selections, receipts and results. -/
inductive LedgerChange (before after : Ledger) : Prop where
  /-- A fresh command, with at most its own selection. -/
  | inserted (row : CommandRow) (selections : List SelectionRow)
      (fresh : ∀ other ∈ before.commands,
        other.assignment.commandId ≠ row.assignment.commandId)
      (assigned : row.state = .assigned)
      (own : ∀ selection ∈ selections, selection.commandId = row.assignment.commandId)
      (commands : after.commands = before.commands ++ [row])
      (selected : after.selections = before.selections ++ selections)
      (receipts : after.receipts = before.receipts) (results : after.results = before.results)
  /-- Commands keep their assignments and their states, unless they expire. -/
  | maintained (change : CommandRow → CommandRow)
      (keeps : ∀ row, (change row).assignment = row.assignment)
      (states : ∀ row, (change row).state = row.state ∨ (change row).state = .expired)
      (commands : after.commands = before.commands.map change)
      (selected : after.selections = before.selections)
      (receipts : after.receipts = before.receipts) (results : after.results = before.results)
  /-- The first receipt of a command. -/
  | received (receipt : BackendAgentCommandReceipt) (row : CommandRow)
      (found : before.command receipt.commandId = some row)
      (fence : row.matchesFence receipt.fence = true)
      (fresh : before.receipt receipt.commandId = none)
      (commands : after.commands =
        (before.updateCommand receipt.commandId (receiveCommand receipt.receivedAt)).commands)
      (selected : after.selections = before.selections)
      (receipts : after.receipts = before.receipts ++ [receiptRow receipt])
      (results : after.results = before.results)
  /-- The first result of a command, after its receipt. -/
  | finished (result : BackendAgentCommandResult) (row : CommandRow)
      (found : before.command result.commandId = some row)
      (fence : row.matchesFence result.fence = true)
      (acknowledged : before.receipt result.commandId ≠ none)
      (fresh : before.result result.commandId = none)
      (commands : after.commands =
        (before.updateCommand result.commandId (completeCommand result)).commands)
      (selected : after.selections = before.selections)
      (receipts : after.receipts = before.receipts)
      (results : after.results = before.results ++ [resultRow result])

theorem LedgerChange.refl (ledger : Ledger) : LedgerChange ledger ledger :=
  .maintained id (fun _ => rfl) (fun _ => .inl rfl) (by simp) rfl rfl rfl

theorem LedgerChange.of_updateCommand (ledger : Ledger) (commandId : Bytes)
    (change : CommandRow → CommandRow) (keeps : ∀ row, (change row).assignment = row.assignment)
    (states : ∀ row, (change row).state = row.state) :
    LedgerChange ledger (ledger.updateCommand commandId change) := by
  refine .maintained (fun row => if row.assignment.commandId = cString commandId then change row
    else row) ?_ ?_ rfl rfl rfl rfl
  · intro row
    split
    · exact keeps row
    · rfl
  · intro row
    split
    · exact .inl (states row)
    · exact .inl rfl

theorem LedgerChange.maintained_trans {first second third : Ledger}
    (change : CommandRow → CommandRow) (keeps : ∀ row, (change row).assignment = row.assignment)
    (states : ∀ row, (change row).state = row.state ∨ (change row).state = .expired)
    (commands : second.commands = first.commands.map change)
    (selected : second.selections = first.selections) (receipts : second.receipts = first.receipts)
    (results : second.results = first.results)
    (next : CommandRow → CommandRow) (keepsNext : ∀ row, (next row).assignment = row.assignment)
    (statesNext : ∀ row, (next row).state = row.state)
    (commandsNext : third.commands = second.commands.map next)
    (selectedNext : third.selections = second.selections)
    (receiptsNext : third.receipts = second.receipts)
    (resultsNext : third.results = second.results) : LedgerChange first third := by
  refine .maintained (next ∘ change) ?_ ?_ ?_ (selectedNext.trans selected)
    (receiptsNext.trans receipts) (resultsNext.trans results)
  · intro row
    exact (keepsNext _).trans (keeps row)
  · intro row
    rw [Function.comp_apply, statesNext]
    exact states row
  · rw [commandsNext, commands, List.map_map]

theorem insertAssignment_change (persists : Bool) (ledger : Ledger)
    (assignment : BackendAgentCommandAssignment)
    (selection : Option BackendAgentLocalProviderSelection) :
    LedgerChange ledger (insertAssignment persists ledger assignment selection).1 := by
  unfold insertAssignment
  dsimp only
  split
  · exact LedgerChange.refl ledger
  split
  · exact LedgerChange.refl ledger
  · rename_i admitted
    simp only [not_or, List.any_eq_true, not_exists, not_and, Bool.not_eq_true] at admitted
    have fresh : ∀ other ∈ ledger.commands,
        other.assignment.commandId ≠ cString assignment.commandId := by
      intro other member same
      have free := admitted.2 other member
      simp [conflictsWith, same] at free
    split
    · exact LedgerChange.refl ledger
    · rename_i updated inserted
      cases selection with
      | none =>
        simp only [insertSelection, Option.some.injEq] at inserted
        subst inserted
        exact .inserted _ [] fresh rfl (by simp) rfl (by simp) rfl rfl
      | some chosen =>
        unfold insertSelection at inserted
        dsimp only at inserted
        split at inserted
        · simp at inserted
        · simp only [Option.some.injEq] at inserted
          subst inserted
          exact .inserted _ [selectionRow assignment.commandId chosen] fresh rfl
            (by simp [selectionRow, boundAssignment]) rfl rfl rfl rfl

theorem deliver_cases (ledger : Ledger) (request : BackendAgentCommandPollRequest)
    (context : PollContext) :
    (deliver ledger request context).1 = ledger ∨
      ∃ row ∈ ledger.commands, deliverable ledger request context row = true ∧
        (deliver ledger request context).2.assignment = row.assignment ∧
        (deliver ledger request context).1 =
          ledger.updateCommand row.assignment.commandId fun row =>
            { row with
              replayRequested := false
              lastDeliveredAt := context.now
              deliveryCount := row.deliveryCount + 1
              updatedAt := context.now } := by
  unfold deliver
  split
  · exact .inl rfl
  · rename_i row chosen
    dsimp only
    split
    · exact .inl rfl
    · have candidate : row ∈ ledger.commands.filter (deliverable ledger request context) := by
        unfold oldest at chosen
        exact List.mem_of_mem_filter (List.mem_of_getElem? chosen)
      obtain ⟨member, fits⟩ := List.mem_filter.mp candidate
      exact .inr ⟨row, member, fits, rfl, rfl⟩

theorem refreshAdvertisement_spec {ledger refreshed : Ledger}
    {request : BackendAgentCommandPollRequest} {context : PollContext}
    (outcome : refreshAdvertisement ledger request context = some refreshed) :
    refreshed.commands = (expireCommands ledger request.backendId context.now).commands ∧
      refreshed.selections = ledger.selections ∧ refreshed.receipts = ledger.receipts ∧
      refreshed.results = ledger.results ∧ refreshed.ownership = ledger.ownership := by
  simp only [refreshAdvertisement, Option.bind_eq_bind, Option.bind_eq_some_iff] at outcome
  obtain ⟨capabilities, -, outcome⟩ := outcome
  split at outcome
  · simp at outcome
  · simp only [Option.bind_eq_some_iff, Option.some.injEq] at outcome
    obtain ⟨facts, -, rfl⟩ := outcome
    exact ⟨rfl, rfl, rfl, rfl, rfl⟩

/-- A poll refuses, or it delivers from the ledger with its own or an earlier advertisement. -/
theorem poll_cases (persists : Bool) (ledger : Ledger) (request : BackendAgentCommandPollRequest)
    (context : PollContext) :
    ((poll persists ledger request context).1 = ledger ∧
      (poll persists ledger request context).2.assignment = {}) ∨
    ∃ base, (base = ledger ∨ refreshAdvertisement ledger request context = some base) ∧
      poll persists ledger request context = deliver base request context := by
  unfold poll
  dsimp only
  split
  · exact .inl ⟨rfl, rfl⟩
  split
  · split
    · exact .inl ⟨rfl, rfl⟩
    split
    · exact .inl ⟨rfl, rfl⟩
    split
    · exact .inl ⟨rfl, rfl⟩
    · rename_i base refreshed
      exact .inr ⟨base, .inr refreshed, rfl⟩
  split
  · exact .inl ⟨rfl, rfl⟩
  · exact .inr ⟨ledger, .inl rfl, rfl⟩

theorem refreshed_change {ledger refreshed : Ledger}
    {request : BackendAgentCommandPollRequest} {context : PollContext}
    (outcome : refreshAdvertisement ledger request context = some refreshed)
    {after : Ledger} (next : CommandRow → CommandRow)
    (keepsNext : ∀ row, (next row).assignment = row.assignment)
    (statesNext : ∀ row, (next row).state = row.state)
    (commandsNext : after.commands = refreshed.commands.map next)
    (selectedNext : after.selections = refreshed.selections)
    (receiptsNext : after.receipts = refreshed.receipts)
    (resultsNext : after.results = refreshed.results) : LedgerChange ledger after := by
  obtain ⟨commands, selections, receipts, results, -⟩ := refreshAdvertisement_spec outcome
  refine LedgerChange.maintained_trans _ ?_ ?_ commands selections receipts results next keepsNext
    statesNext commandsNext selectedNext receiptsNext resultsNext
  · intro row
    split <;> rfl
  · intro row
    split
    · exact .inr rfl
    · exact .inl rfl

theorem poll_change (persists : Bool) (ledger : Ledger) (request : BackendAgentCommandPollRequest)
    (context : PollContext) : LedgerChange ledger (poll persists ledger request context).1 := by
  obtain ⟨same, -⟩ | ⟨base, origin, same⟩ := poll_cases persists ledger request context
  · rw [same]
    exact LedgerChange.refl ledger
  · rw [same]
    obtain kept | ⟨row, -, -, -, delivered⟩ := deliver_cases base request context
    · rw [kept]
      obtain rfl | refreshed := origin
      · exact LedgerChange.refl base
      · exact refreshed_change refreshed id (fun _ => rfl) (fun _ => rfl) (by simp) rfl rfl rfl
    · rw [delivered]
      obtain rfl | refreshed := origin
      · exact LedgerChange.of_updateCommand base _ _ (fun _ => rfl) (fun _ => rfl)
      · refine refreshed_change refreshed _ ?_ ?_ rfl rfl rfl rfl
        · intro row
          split <;> rfl
        · intro row
          split <;> rfl

/-- A receipt is refused, is the repetition of the stored one, or is the first and stored. -/
theorem acceptReceipt_cases (persists : Bool) (ledger : Ledger)
    (receipt : BackendAgentCommandReceipt) :
    ((acceptReceipt persists ledger receipt).1 = ledger ∧
      (acceptReceipt persists ledger receipt).2.accepted = false) ∨
    ∃ row, ledger.command receipt.commandId = some row ∧
      row.matchesFence receipt.fence = true ∧
      checkReceipt ledger row receipt.commandId = .ok () ∧
      (acceptReceipt persists ledger receipt).2.accepted = true ∧
      ((∃ existing, ledger.receipt receipt.commandId = some existing ∧
          existing.receiptIdentity = backendAgentCommandReceiptIdentity receipt ∧
          (acceptReceipt persists ledger receipt).1 =
            ledger.updateCommand receipt.commandId fun row =>
              { row with receiptReplayCount := row.receiptReplayCount + 1 }) ∨
        (ledger.receipt receipt.commandId = none ∧
          (mutatingNativeCommand row.assignment.commandType = true →
            ∃ reason, localProviderSelectionCurrent ledger receipt.commandId = .ok reason) ∧
          (acceptReceipt persists ledger receipt).1 =
            { ledger with receipts := ledger.receipts ++ [receiptRow receipt] }.updateCommand
              receipt.commandId (receiveCommand receipt.receivedAt))) := by
  unfold acceptReceipt
  split
  · exact .inl ⟨rfl, rfl⟩
  rename_i row found
  split
  · exact .inl ⟨rfl, rfl⟩
  rename_i fence
  split
  · exact .inl ⟨rfl, rfl⟩
  rename_i checked
  have fits : row.matchesFence receipt.fence = true := by simpa using fence
  split
  · rename_i existing stored
    split
    · exact .inl ⟨rfl, rfl⟩
    rename_i same
    split
    · exact .inl ⟨rfl, rfl⟩
    · exact .inr ⟨row, found, fits, checked, rfl, .inl ⟨existing, stored, by simpa using same, rfl⟩⟩
  · rename_i absent
    dsimp only
    split
    · exact .inl ⟨rfl, rfl⟩
    rename_i reason current
    split
    · exact .inl ⟨rfl, rfl⟩
    · refine .inr ⟨row, found, fits, checked, rfl, .inr ⟨absent, ?_, rfl⟩⟩
      intro mutating
      rw [if_pos mutating] at current
      exact ⟨reason, current⟩

theorem acceptReceipt_change (persists : Bool) (ledger : Ledger)
    (receipt : BackendAgentCommandReceipt) :
    LedgerChange ledger (acceptReceipt persists ledger receipt).1 := by
  obtain ⟨same, -⟩ | ⟨row, found, fence, -, -, repeated | fresh⟩ :=
    acceptReceipt_cases persists ledger receipt
  · rw [same]
    exact LedgerChange.refl ledger
  · obtain ⟨existing, -, -, counted⟩ := repeated
    rw [counted]
    exact LedgerChange.of_updateCommand ledger _ _ (fun _ => rfl) (fun _ => rfl)
  · obtain ⟨absent, -, stored⟩ := fresh
    rw [stored]
    exact .received receipt row found fence absent rfl rfl rfl rfl

theorem acceptResult_cases (persists : Bool) (ledger : Ledger)
    (result : BackendAgentCommandResult) :
    ((acceptResult persists ledger result).1 = ledger ∧
      (acceptResult persists ledger result).2.accepted = false) ∨
    ∃ row assignment, ledger.command result.commandId = some row ∧
      row.matchesFence result.fence = true ∧
      findAssignment ledger result.commandId = some assignment ∧
      checkResult ledger assignment result = .ok () ∧
      ledger.receipt result.commandId ≠ none ∧
      (acceptResult persists ledger result).2.accepted = true ∧
      ((∃ existing, ledger.result result.commandId = some existing ∧
          existing.resultIdentity = backendAgentCommandResultIdentity result ∧
          (acceptResult persists ledger result).1 =
            ledger.updateCommand result.commandId fun row =>
              { row with resultReplayCount := row.resultReplayCount + 1 }) ∨
        (ledger.result result.commandId = none ∧
          (acceptResult persists ledger result).1 =
            { ledger with results := ledger.results ++ [resultRow result] }.updateCommand
              result.commandId (completeCommand result))) := by
  unfold acceptResult
  split
  · exact .inl ⟨rfl, rfl⟩
  rename_i row found
  split
  · exact .inl ⟨rfl, rfl⟩
  rename_i fence
  split
  · exact .inl ⟨rfl, rfl⟩
  rename_i assignment durable
  split
  · exact .inl ⟨rfl, rfl⟩
  rename_i checked
  split
  · exact .inl ⟨rfl, rfl⟩
  rename_i acknowledged
  have fits : row.matchesFence result.fence = true := by simpa using fence
  have received : ledger.receipt result.commandId ≠ none := by simpa using acknowledged
  split
  · rename_i existing stored
    split
    · exact .inl ⟨rfl, rfl⟩
    rename_i same
    split
    · exact .inl ⟨rfl, rfl⟩
    · exact .inr ⟨row, assignment, found, fits, durable, checked, received, rfl,
        .inl ⟨existing, stored, by simpa using same, rfl⟩⟩
  · rename_i absent
    split
    · exact .inl ⟨rfl, rfl⟩
    · exact .inr ⟨row, assignment, found, fits, durable, checked, received, rfl,
        .inr ⟨absent, rfl⟩⟩

theorem acceptResult_change (persists : Bool) (ledger : Ledger)
    (result : BackendAgentCommandResult) :
    LedgerChange ledger (acceptResult persists ledger result).1 := by
  obtain ⟨same, -⟩ | ⟨row, assignment, found, fence, -, -, received, -, repeated | fresh⟩ :=
    acceptResult_cases persists ledger result
  · rw [same]
    exact LedgerChange.refl ledger
  · obtain ⟨existing, -, -, counted⟩ := repeated
    rw [counted]
    exact LedgerChange.of_updateCommand ledger _ _ (fun _ => rfl) (fun _ => rfl)
  · obtain ⟨absent, stored⟩ := fresh
    rw [stored]
    exact .finished result row found fence received absent rfl rfl rfl rfl

theorem requestReplay_change (persists : Bool) (ledger : Ledger) (backendId commandId : Bytes) :
    LedgerChange ledger (requestReplay persists ledger backendId commandId).1 := by
  unfold requestReplay
  dsimp only
  split
  · exact LedgerChange.refl ledger
  · refine .maintained _ ?_ ?_ rfl rfl rfl rfl
    · intro row
      split <;> rfl
    · intro row
      split <;> exact .inl rfl

theorem ledgerStep_change (ledger : Ledger) (call : LedgerCall) :
    LedgerChange ledger (ledgerStep ledger call).1 := by
  obtain ⟨persists, request⟩ := call
  cases request with
  | insertAssignment assignment selection =>
    exact insertAssignment_change persists ledger assignment selection
  | poll request context => exact poll_change persists ledger request context
  | acceptReceipt receipt => exact acceptReceipt_change persists ledger receipt
  | acceptResult result => exact acceptResult_change persists ledger result
  | requestReplay backendId commandId =>
    exact requestReplay_change persists ledger backendId commandId
  | setLocalProviderOwnership arguments =>
    exact .maintained id (fun _ => rfl) (fun _ => .inl rfl) (by simp [ledgerStep]) rfl rfl rfl
  | clearLocalProviderOwnership backendId authorityDomain updatedAt =>
    exact .maintained id (fun _ => rfl) (fun _ => .inl rfl) (by simp [ledgerStep]) rfl rfl rfl

end VdrSuite.Core
