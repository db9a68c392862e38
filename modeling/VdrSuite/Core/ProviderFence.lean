import VdrSuite.Core.CommandLedger
import VdrSuite.Core.ProviderOwnershipProperties

/-! A selection that ownership has moved past stays fenced for the rest of every run. -/

set_option autoImplicit false

namespace VdrSuite.Core

open Library Agent

/-! ## Ownership in the ledger -/

theorem ledgerStep_ownership (ledger : Ledger) (call : LedgerCall) :
    (ledgerStep ledger call).1.ownership = ledger.ownership ∨
    (∃ arguments, (ledgerStep ledger call).1.ownership =
      (setLocalProviderOwnership call.persists ledger.ownership arguments).1) ∨
    ∃ backendId authorityDomain updatedAt, (ledgerStep ledger call).1.ownership =
      (clearLocalProviderOwnership call.persists ledger.ownership backendId authorityDomain
        updatedAt).1 := by
  obtain ⟨persists, request⟩ := call
  cases request with
  | insertAssignment assignment selection =>
    refine .inl ?_
    simp only [ledgerStep, insertAssignment]
    split
    · rfl
    split
    · rfl
    split
    · rfl
    · rename_i updated inserted
      cases selection with
      | none =>
        simp only [insertSelection, Option.some.injEq] at inserted
        rw [← inserted]
      | some chosen =>
        unfold insertSelection at inserted
        dsimp only at inserted
        split at inserted
        · simp at inserted
        · simp only [Option.some.injEq] at inserted
          rw [← inserted]
  | poll request context =>
    refine .inl ?_
    obtain ⟨same, -⟩ | ⟨base, origin, same⟩ := poll_cases persists ledger request context
    · exact congrArg Ledger.ownership same
    · have kept : base.ownership = ledger.ownership := by
        obtain rfl | refreshed := origin
        · rfl
        · exact (refreshAdvertisement_spec refreshed).2.2.2.2
      have outcome : (ledgerStep ledger ⟨persists, .poll request context⟩).1 =
          (deliver base request context).1 := congrArg Prod.fst same
      obtain unchanged | ⟨row, -, -, -, delivered⟩ := deliver_cases base request context
      · rw [outcome, unchanged, kept]
      · rw [outcome, delivered]
        exact kept
  | acceptReceipt receipt =>
    refine .inl ?_
    have outcome : (ledgerStep ledger ⟨persists, .acceptReceipt receipt⟩).1 =
        (acceptReceipt persists ledger receipt).1 := rfl
    obtain ⟨same, -⟩ | ⟨row, -, -, -, -, ⟨existing, -, -, counted⟩ | ⟨-, -, stored⟩⟩ :=
      acceptReceipt_cases persists ledger receipt
    · rw [outcome, same]
    · rw [outcome, counted]
      rfl
    · rw [outcome, stored]
      rfl
  | acceptResult result =>
    refine .inl ?_
    have outcome : (ledgerStep ledger ⟨persists, .acceptResult result⟩).1 =
        (acceptResult persists ledger result).1 := rfl
    obtain ⟨same, -⟩ | ⟨row, assignment, -, -, -, -, -, -, ⟨existing, -, -, counted⟩ | ⟨-, stored⟩⟩ :=
      acceptResult_cases persists ledger result
    · rw [outcome, same]
    · rw [outcome, counted]
      rfl
    · rw [outcome, stored]
      rfl
  | requestReplay backendId commandId =>
    refine .inl ?_
    simp only [ledgerStep, requestReplay]
    split <;> rfl
  | setLocalProviderOwnership arguments => exact .inr (.inl ⟨arguments, rfl⟩)
  | clearLocalProviderOwnership backendId authorityDomain updatedAt =>
    exact .inr (.inr ⟨backendId, authorityDomain, updatedAt, rfl⟩)

theorem ledgerStep_ownership_steps (ledger : Ledger) (call : LedgerCall)
    (table : OwnershipTableValid ledger.ownership) :
    OwnershipSteps ledger.ownership (ledgerStep ledger call).1.ownership ∧
      OwnershipTableValid (ledgerStep ledger call).1.ownership := by
  obtain same | ⟨arguments, same⟩ | ⟨backendId, authorityDomain, updatedAt, same⟩ :=
    ledgerStep_ownership ledger call
  · rw [same]
    exact ⟨OwnershipSteps.refl _, table⟩
  · rw [same]
    obtain kept | ⟨generation, write⟩ :=
      setLocalProviderOwnership_cases call.persists ledger.ownership table arguments
    · rw [kept]
      exact ⟨OwnershipSteps.refl _, table⟩
    · exact ⟨write.steps, write.table table⟩
  · rw [same]
    obtain kept | ⟨written, write⟩ := clearLocalProviderOwnership_cases call.persists
      ledger.ownership table backendId authorityDomain updatedAt
    · rw [kept]
      exact ⟨OwnershipSteps.refl _, table⟩
    · exact ⟨write.steps, write.table table⟩

theorem ownershipTableValid_final (ledger : Ledger) (table : OwnershipTableValid ledger.ownership)
    (calls : List LedgerCall) :
    OwnershipTableValid (Run.final ledgerStep ledger calls).ownership :=
  Run.final_preserves ledgerStep (fun ledger => OwnershipTableValid ledger.ownership)
    (fun ledger call table => (ledgerStep_ownership_steps ledger call table).2) ledger table calls

theorem ownershipContinues_final (ledger : Ledger) (table : OwnershipTableValid ledger.ownership)
    (calls : List LedgerCall) :
    OwnershipContinues ledger.ownership (Run.final ledgerStep ledger calls).ownership :=
  Run.final_relates ledgerStep (fun ledger => OwnershipTableValid ledger.ownership)
    (fun _ _ => True)
    (fun before after => OwnershipContinues before.ownership after.ownership)
    (fun ledger => OwnershipContinues.refl ledger.ownership)
    (fun _ _ _ => OwnershipContinues.trans)
    (fun ledger call table => (ledgerStep_ownership_steps ledger call table).2)
    (fun ledger call table _ => (ledgerStep_ownership_steps ledger call table).1.continues)
    ledger table calls (fun _ _ _ _ => trivial)

/-! ## Fenced selections -/

/-- A command whose recorded selection decides whether it is still to be executed. -/
structure FencedBy (ledger : Ledger) (commandId : Bytes)
    (selection : BackendAgentLocalProviderSelection) : Prop where
  command : ∃ row, ledger.command commandId = some row ∧
    (row.assignment.commandType = nativeProbeCommandType ∨
      mutatingNativeCommand row.assignment.commandType = true)
  recorded : ∃ row, ledger.selection commandId = some row ∧ readSelection row = some selection

theorem FencedBy.continues {earlier later : Ledger} {commandId : Bytes}
    {selection : BackendAgentLocalProviderSelection} (fenced : FencedBy earlier commandId selection)
    (continued : LedgerContinues earlier later) : FencedBy later commandId selection := by
  obtain ⟨⟨row, found, kind⟩, recorded⟩ := fenced
  obtain ⟨successor, again, same⟩ := continued.command commandId row found
  refine ⟨⟨successor, again, by rw [same]; exact kind⟩, ?_⟩
  rw [continued.selection commandId (by rw [found]; simp)]
  exact recorded

theorem granted_of_current {ledger : Ledger} {commandId : Bytes}
    {selection : BackendAgentLocalProviderSelection} {reason : String}
    (table : OwnershipTableValid ledger.ownership) (fenced : FencedBy ledger commandId selection)
    (current : localProviderSelectionCurrent ledger commandId = .ok reason) :
    ∃ row ∈ ledger.ownership, row.Grants selection := by
  obtain ⟨⟨row, found, kind⟩, recorded, stored, read⟩ := fenced
  have needed : ¬ (row.assignment.commandType == nativeProbeCommandType ||
      mutatingNativeCommand row.assignment.commandType) = false := by
    simpa [or_iff_not_imp_left] using kind
  have valid : backendAgentLocalProviderValidSelection selection = true := by
    unfold readSelection at read
    split at read
    · rename_i valid
      rw [Option.some.injEq] at read
      exact read ▸ valid.1
    · simp at read
  simp only [backendAgentLocalProviderValidSelection, Bool.and_eq_true] at valid
  have backendSafe := cString_safeIdentifier _ valid.1.1.1.1.1.1.1.1
  have domainSafe := cString_safeIdentifier _ valid.1.1.1.1.1.1.1.2
  unfold localProviderSelectionCurrent at current
  simp only [found, stored, read] at current
  rw [if_neg needed] at current
  split at current
  · simp at current
  · split at current
    · simp at current
    · rename_i chosen selected
      split at current
      · rename_i same
        obtain ⟨-, rfl⟩ := (backendAgentLocalProviderSameFence_iff _ _).mp same
        exact selectLocalProvider_ok _ table _ _ _ _ _ _ _ _ backendSafe domainSafe selected
      · simp at current

end VdrSuite.Core
