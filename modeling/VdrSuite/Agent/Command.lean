import VdrSuite.Agent.LegacyOsdInput
import VdrSuite.Agent.MediaTools
import VdrSuite.Agent.NativeProbe
import VdrSuite.Agent.NativeTimerModifyPayload
import VdrSuite.Agent.RecordingPayload

/-! Which payloads each command type admits, and which assignments are valid. -/

set_option autoImplicit false

namespace VdrSuite.Agent

open Library

def nativeTimerCreateCommandType : Bytes := text "vdr.timer.create"

def nativeTimerDeleteCommandType : Bytes := text "vdr.timer.delete"

def nativeTimerUpdateCommandType : Bytes := text "vdr.timer.update"

def nativeTimerToggleCommandType : Bytes := text "vdr.timer.toggle"

def recordingMarksModifyCommandType : Bytes := text "vdr.recording.marks.modify"

def recordingCutCommandType : Bytes := text "vdr.recording.cut"

def legacyOsdInputCommandType : Bytes := text "vdr.legacy-osd.input"

def nativeProbeCommandType : Bytes := text "vdr.native.probe"

def probeNoopCommandType : Bytes := text "probe.noop"

/-! ## Payloads by command type -/

def validReadbackPayload (value : BackendAgentCommandAssignment) : Bool :=
  value.verificationPolicy == text "none" &&
  match parseMediaImportReadbackPayload value.payload with
  | none => false
  | some readback => value.payloadVersion == if readback.sourceEvidence.isEmpty then 1 else 2

def validImportPayload (value : BackendAgentCommandAssignment) : Bool :=
  value.verificationPolicy == text "reconciliation_required" &&
  match parseMediaImportSelection value.payload with
  | none => false
  | some (_, decision) =>
    value.payloadVersion == mediaImportSelectionVersion decision value.payload

def validShrinkPayload (value : BackendAgentCommandAssignment) : Bool :=
  value.payloadVersion == 1 &&
  value.verificationPolicy == (if value.commandType = mediaShrinkStageCommandType then
    text "readback_required" else text "reconciliation_required") &&
  (parseMediaShrinkAgentSelection value.commandType value.payload).isSome

def validNativeProbePayload (value : BackendAgentCommandAssignment) : Bool :=
  if value.payloadVersion = 1 then (backendAgentNativeProbeParsePayload value.payload).isSome
  else if value.payloadVersion = 2 then
    (backendAgentNativeProbeParseSelectedPayload value.payload).toBool
  else false

def validTimerCreatePayload (value : BackendAgentCommandAssignment) : Bool :=
  match backendAgentNativeTimerCreateParsePayload value.payload with
  | none => false
  | some payload =>
    payload.localProviderSelection.backendId == value.backendId &&
    decide (payload.controlPlaneClaimedAt ≤ value.assignedAt)

def validTimerDeletePayload (value : BackendAgentCommandAssignment) : Bool :=
  match backendAgentNativeTimerDeleteParsePayload value.payload with
  | none => false
  | some payload =>
    payload.localProviderSelection.backendId == value.backendId &&
    decide (payload.controlPlaneClaimedAt ≤ value.assignedAt)

def payloadFitsAssignment (value : BackendAgentCommandAssignment)
    (selection : BackendAgentLocalProviderSelection) (backendId : Bytes) (backendGeneration : Nat)
    (controlPlaneClaimedAt : Int) : Bool :=
  selection.backendId == value.backendId && backendId == value.backendId &&
  backendGeneration == value.backendGeneration &&
  decide (controlPlaneClaimedAt ≤ value.assignedAt)

def validTimerModifyPayload (value : BackendAgentCommandAssignment) : Bool :=
  match backendAgentNativeTimerModifyParsePayload value.payload with
  | none => false
  | some payload =>
    payloadFitsAssignment value payload.localProviderSelection payload.backendId
      payload.backendGeneration payload.controlPlaneClaimedAt

def validMarksModifyPayload (value : BackendAgentCommandAssignment) : Bool :=
  match backendAgentRecordingMarksModifyParsePayload value.payload with
  | none => false
  | some payload =>
    payloadFitsAssignment value payload.localProviderSelection payload.backendId
      payload.backendGeneration payload.controlPlaneClaimedAt

def validRecordingCutPayload (value : BackendAgentCommandAssignment) : Bool :=
  match backendAgentRecordingCutParsePayload value.payload with
  | none => false
  | some payload =>
    payloadFitsAssignment value payload.localProviderSelection payload.backendId
      payload.backendGeneration payload.controlPlaneClaimedAt

def validLegacyOsdInputPayload (value : BackendAgentCommandAssignment) : Bool :=
  match legacyOsdInputCommandParse value.payload with
  | none => false
  | some payload =>
    payload.backendId == value.backendId && payload.backendGeneration == value.backendGeneration

def nativeMutationShape (value : BackendAgentCommandAssignment) : Bool :=
  value.payloadVersion == 1 && value.verificationPolicy == text "readback_required"

def validCommandPayload (value : BackendAgentCommandAssignment) : Bool :=
  if value.commandType = mediaImportReadbackCommandType then validReadbackPayload value
  else if value.commandType = mediaImportCommandType then validImportPayload value
  else if value.commandType = mediaShrinkStageCommandType ∨
      value.commandType = mediaShrinkPublishCommandType then validShrinkPayload value
  else if value.commandType = probeNoopCommandType then
    value.payloadVersion == 1 && value.payload == text "\x7b\x7d" &&
    value.verificationPolicy == text "none"
  else if value.commandType = nativeProbeCommandType then
    value.verificationPolicy == text "readback_required" && validNativeProbePayload value
  else if value.commandType = nativeTimerCreateCommandType then
    nativeMutationShape value && validTimerCreatePayload value
  else if value.commandType = nativeTimerDeleteCommandType then
    nativeMutationShape value && validTimerDeletePayload value
  else if value.commandType = nativeTimerUpdateCommandType ∨
      value.commandType = nativeTimerToggleCommandType then
    nativeMutationShape value && validTimerModifyPayload value
  else if value.commandType = recordingMarksModifyCommandType then
    nativeMutationShape value && validMarksModifyPayload value
  else if value.commandType = legacyOsdInputCommandType then
    value.payloadVersion == 1 && value.verificationPolicy == text "dispatch_only" &&
    validLegacyOsdInputPayload value
  else if value.commandType = recordingCutCommandType then
    nativeMutationShape value && validRecordingCutPayload value
  else false

def backendAgentCommandValidAssignment (value : BackendAgentCommandAssignment) : Bool :=
  value.protocolVersion == text "vdr-suite-agent/1" &&
  backendAgentCommandSafeIdentifier value.requestId &&
  backendAgentCommandSafeIdentifier value.correlationId &&
  backendAgentCommandSafeIdentifier value.operationId &&
  backendAgentCommandSafeIdentifier value.jobId &&
  backendAgentCommandSafeIdentifier value.attemptId &&
  0 < value.claimEpoch &&
  backendAgentCommandSafeIdentifier value.commandId &&
  backendAgentCommandSafeIdentifier value.backendId &&
  backendAgentCommandSafeIdentifier value.agentId &&
  backendAgentCommandSafeIdentifier value.agentInstanceId &&
  0 < value.backendGeneration && validCommandPayload value &&
  backendAgentCommandSafeIdentifier value.requestFingerprint &&
  decide (0 < value.assignedAt) && decide (value.assignedAt < value.deadline) &&
  value.requestFingerprint == backendAgentCommandFingerprint value

/-! ## Texts of valid assignments -/

theorem validCommandPayload_identifiers {value : BackendAgentCommandAssignment}
    (valid : validCommandPayload value = true) :
    backendAgentCommandSafeIdentifier value.commandType = true ∧
      backendAgentCommandSafeIdentifier value.verificationPolicy = true := by
  have mutation : nativeMutationShape value = true →
      backendAgentCommandSafeIdentifier value.verificationPolicy = true := by
    intro shape
    simp only [nativeMutationShape, Bool.and_eq_true, beq_iff_eq] at shape
    rw [shape.2]
    decide
  unfold validCommandPayload at valid
  by_cases kind : value.commandType = mediaImportReadbackCommandType
  · rw [if_pos kind] at valid
    simp only [validReadbackPayload, Bool.and_eq_true, beq_iff_eq] at valid
    rw [kind, valid.1]
    decide
  rw [if_neg kind] at valid
  by_cases kind : value.commandType = mediaImportCommandType
  · rw [if_pos kind] at valid
    simp only [validImportPayload, Bool.and_eq_true, beq_iff_eq] at valid
    rw [kind, valid.1]
    decide
  rw [if_neg kind] at valid
  by_cases kind : value.commandType = mediaShrinkStageCommandType ∨
      value.commandType = mediaShrinkPublishCommandType
  · rw [if_pos kind] at valid
    simp only [validShrinkPayload, Bool.and_eq_true, beq_iff_eq] at valid
    rw [valid.1.2]
    obtain kind | kind := kind
    all_goals
      rw [kind]
      decide
  rw [if_neg kind] at valid
  by_cases kind : value.commandType = probeNoopCommandType
  · rw [if_pos kind] at valid
    simp only [Bool.and_eq_true, beq_iff_eq] at valid
    rw [kind, valid.2]
    decide
  rw [if_neg kind] at valid
  by_cases kind : value.commandType = nativeProbeCommandType
  · rw [if_pos kind] at valid
    simp only [Bool.and_eq_true, beq_iff_eq] at valid
    rw [kind, valid.1]
    decide
  rw [if_neg kind] at valid
  by_cases kind : value.commandType = nativeTimerCreateCommandType
  · rw [if_pos kind] at valid
    simp only [Bool.and_eq_true] at valid
    exact ⟨by rw [kind]; decide, mutation valid.1⟩
  rw [if_neg kind] at valid
  by_cases kind : value.commandType = nativeTimerDeleteCommandType
  · rw [if_pos kind] at valid
    simp only [Bool.and_eq_true] at valid
    exact ⟨by rw [kind]; decide, mutation valid.1⟩
  rw [if_neg kind] at valid
  by_cases kind : value.commandType = nativeTimerUpdateCommandType ∨
      value.commandType = nativeTimerToggleCommandType
  · rw [if_pos kind] at valid
    simp only [Bool.and_eq_true] at valid
    refine ⟨?_, mutation valid.1⟩
    obtain kind | kind := kind
    all_goals
      rw [kind]
      decide
  rw [if_neg kind] at valid
  by_cases kind : value.commandType = recordingMarksModifyCommandType
  · rw [if_pos kind] at valid
    simp only [Bool.and_eq_true] at valid
    exact ⟨by rw [kind]; decide, mutation valid.1⟩
  rw [if_neg kind] at valid
  by_cases kind : value.commandType = legacyOsdInputCommandType
  · rw [if_pos kind] at valid
    simp only [Bool.and_eq_true, beq_iff_eq] at valid
    rw [kind, valid.1.2]
    decide
  rw [if_neg kind] at valid
  by_cases kind : value.commandType = recordingCutCommandType
  · rw [if_pos kind] at valid
    simp only [Bool.and_eq_true] at valid
    exact ⟨by rw [kind]; decide, mutation valid.1⟩
  rw [if_neg kind] at valid
  simp at valid

end VdrSuite.Agent
