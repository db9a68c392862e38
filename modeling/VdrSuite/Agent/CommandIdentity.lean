import VdrSuite.Agent.CommandRecord

/-! The texts behind the identities of assignments, receipts and results: each determines the fields
that are written into it. -/

set_option autoImplicit false

namespace VdrSuite.Agent

open Library

/-- A length-prefixed field has a colon, which no numeral with its bar has: this is what tells a
result with evidence from one without. -/
private theorem appendSigned_ne_appendField (time : Int) (value rest : Bytes) :
    appendSigned time ≠ appendField value ++ rest := by
  intro same
  have colonFree : (58 : UInt8) ∉ appendSigned time := by
    have numeral := notMem_signedDecimal time 58 (by decide) (by decide)
    simp [appendSigned, text, numeral]
  have colon : (58 : UInt8) ∈ appendField value ++ rest := by
    simp [appendField, Netstring.field, text]
  exact colonFree (same ▸ colon)

theorem appendSigned_injective {left right : Int}
    (same : appendSigned left = appendSigned right) : left = right :=
  signedDecimal_injective (List.append_cancel_right same)

theorem resultEvidence_append_inj {left right : Bytes} {leftTime rightTime : Int}
    (same : (if left.isEmpty then [] else appendField left) ++ appendSigned leftTime =
      (if right.isEmpty then [] else appendField right) ++ appendSigned rightTime) :
    left = right ∧ leftTime = rightTime := by
  cases left with
  | nil =>
    cases right with
    | nil => exact ⟨rfl, appendSigned_injective same⟩
    | cons byte right => exact absurd same (appendSigned_ne_appendField _ _ _)
  | cons byte left =>
    cases right with
    | nil => exact absurd same.symm (appendSigned_ne_appendField _ _ _)
    | cons other right =>
      obtain ⟨evidence, times⟩ := Netstring.field_append_inj same
      exact ⟨evidence, appendSigned_injective times⟩

theorem BackendAgentCommandReceipt.canonical_injective :
    Function.Injective BackendAgentCommandReceipt.canonical := by
  intro left right same
  unfold BackendAgentCommandReceipt.canonical at same
  simp only [appendField, appendUnsigned, appendSigned, List.append_assoc] at same
  obtain ⟨protocolVersion, same⟩ := Netstring.field_append_inj same
  obtain ⟨commandId, same⟩ := Netstring.field_append_inj same
  obtain ⟨requestFingerprint, same⟩ := Netstring.field_append_inj same
  obtain ⟨jobId, same⟩ := Netstring.field_append_inj same
  obtain ⟨attemptId, same⟩ := Netstring.field_append_inj same
  obtain ⟨claimEpoch, same⟩ := Netstring.decimal_append_inj same
  obtain ⟨backendId, same⟩ := Netstring.field_append_inj same
  obtain ⟨agentId, same⟩ := Netstring.field_append_inj same
  obtain ⟨agentInstanceId, same⟩ := Netstring.field_append_inj same
  obtain ⟨backendGeneration, same⟩ := Netstring.decimal_append_inj same
  obtain ⟨receiptCategory, same⟩ := Netstring.field_append_inj same
  obtain ⟨receivedAt, same⟩ := Netstring.signedDecimal_append_inj same
  have reasonCode := Netstring.field_injective same
  cases left
  cases right
  rw [BackendAgentCommandReceipt.mk.injEq]
  exact ⟨protocolVersion, commandId, requestFingerprint, jobId, attemptId, claimEpoch, backendId,
    agentId, agentInstanceId, backendGeneration, receiptCategory, receivedAt, reasonCode⟩

theorem BackendAgentCommandResult.canonical_injective :
    Function.Injective BackendAgentCommandResult.canonical := by
  intro left right same
  unfold BackendAgentCommandResult.canonical at same
  simp only [appendField, appendUnsigned, List.append_assoc] at same
  obtain ⟨protocolVersion, same⟩ := Netstring.field_append_inj same
  obtain ⟨commandId, same⟩ := Netstring.field_append_inj same
  obtain ⟨requestFingerprint, same⟩ := Netstring.field_append_inj same
  obtain ⟨jobId, same⟩ := Netstring.field_append_inj same
  obtain ⟨attemptId, same⟩ := Netstring.field_append_inj same
  obtain ⟨claimEpoch, same⟩ := Netstring.decimal_append_inj same
  obtain ⟨backendId, same⟩ := Netstring.field_append_inj same
  obtain ⟨agentId, same⟩ := Netstring.field_append_inj same
  obtain ⟨agentInstanceId, same⟩ := Netstring.field_append_inj same
  obtain ⟨backendGeneration, same⟩ := Netstring.decimal_append_inj same
  obtain ⟨dispatchState, same⟩ := Netstring.field_append_inj same
  obtain ⟨verificationState, same⟩ := Netstring.field_append_inj same
  obtain ⟨resultCategory, same⟩ := Netstring.field_append_inj same
  obtain ⟨errorCategory, same⟩ := Netstring.field_append_inj same
  obtain ⟨retryClassification, same⟩ := Netstring.field_append_inj same
  obtain ⟨boundedDiagnostics, same⟩ := Netstring.field_append_inj same
  obtain ⟨resultEvidence, completedAt⟩ := resultEvidence_append_inj same
  cases left
  cases right
  rw [BackendAgentCommandResult.mk.injEq]
  exact ⟨protocolVersion, commandId, requestFingerprint, jobId, attemptId, claimEpoch, backendId,
    agentId, agentInstanceId, backendGeneration, dispatchState, verificationState, resultCategory,
    errorCategory, retryClassification, boundedDiagnostics, resultEvidence, completedAt⟩

/-- Assignments with one text agree in all that it holds, which is everything but the presence mark
and the fingerprint made from it; receipts and results with one text are equal. -/
theorem canonical_texts_injective :
    (∀ left right : BackendAgentCommandAssignment, left.canonical = right.canonical →
      right = { left with
        present := right.present
        requestFingerprint := right.requestFingerprint }) ∧
    Function.Injective BackendAgentCommandReceipt.canonical ∧
    Function.Injective BackendAgentCommandResult.canonical :=
  ⟨fun _ _ same => canonical_injective same, BackendAgentCommandReceipt.canonical_injective,
    BackendAgentCommandResult.canonical_injective⟩

end VdrSuite.Agent
