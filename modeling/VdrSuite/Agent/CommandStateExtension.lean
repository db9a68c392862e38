import VdrSuite.Agent.NativeTimerCreate
import VdrSuite.Agent.NativeTimerDelete
import VdrSuite.Agent.NativeTimerModify
import VdrSuite.Agent.RecordingCommand

/-! The extension of a command's durable state: the local state of its native execution, as text. -/

set_option autoImplicit false

namespace VdrSuite.Agent

open Library

structure BackendAgentCommandStateExtension where
  schemaVersion : Nat := 1
  extensionType : Bytes := []
  commandId : Bytes := []
  requestFingerprint : Bytes := []
  payload : Bytes := []
  deriving DecidableEq

def nativeTimerCreateExtensionType : Bytes := text "vdr.timer.create.local-state.v1"

def nativeTimerDeleteExtensionType : Bytes := text "vdr.timer.delete.local-state.v1"

def nativeTimerModifyExtensionType : Bytes := text "vdr.timer.modify.local-state.v1"

def recordingMarksModifyExtensionType : Bytes := text "vdr.recording.marks.modify.local-state.v1"

def recordingCutExtensionType : Bytes := text "vdr.recording.cut.local-state.v1"

def safePayload (value : Bytes) : Bool :=
  !value.isEmpty && value.length ≤ 16384 && value.all fun byte => byte != 0 && byte != 13

def backendAgentCommandStateExtensionValid (extension : BackendAgentCommandStateExtension)
    (assignment : BackendAgentCommandAssignment) : Bool :=
  extension.schemaVersion == 1 &&
  backendAgentCommandValidAssignment assignment &&
  backendAgentCommandSafeIdentifier extension.extensionType &&
  extension.commandId == assignment.commandId &&
  extension.requestFingerprint == assignment.requestFingerprint &&
  safePayload extension.payload

/-! ## Text of an extension -/

def extensionFields (extension : BackendAgentCommandStateExtension) : List Bytes :=
  [text "cse1", Hex.encode extension.extensionType, Hex.encode extension.commandId,
    Hex.encode extension.requestFingerprint, Hex.encode extension.payload]

def backendAgentCommandStateExtensionSerialize (extension : BackendAgentCommandStateExtension)
    (assignment : BackendAgentCommandAssignment) : Option Bytes :=
  if backendAgentCommandStateExtensionValid extension assignment = false then none
  else
    let encoded := [46].intercalate (extensionFields extension)
    if encoded.length > 40960 then none else some encoded

def extensionHexDecode (encoded : Bytes) : Option Bytes :=
  if encoded.length > 40960 then none else Hex.decode encoded

def backendAgentCommandStateExtensionParse (encoded : Bytes)
    (assignment : BackendAgentCommandAssignment) : Option BackendAgentCommandStateExtension :=
  if encoded.isEmpty ∨ encoded.length > 40960 then none
  else
    match encoded.splitOn 46 with
    | [heading, extensionType, commandId, requestFingerprint, payload] => do
        let extensionType ← extensionHexDecode extensionType
        let commandId ← extensionHexDecode commandId
        let requestFingerprint ← extensionHexDecode requestFingerprint
        let payload ← extensionHexDecode payload
        let candidate : BackendAgentCommandStateExtension :=
          { extensionType, commandId, requestFingerprint, payload }
        if heading = text "cse1" ∧
            backendAgentCommandStateExtensionValid candidate assignment = true then some candidate
        else none
    | _ => none

/-! ## Local states in an extension -/

def sameNativeTimerDeleteCommand (left right : BackendAgentNativeTimerDeleteCommand) : Bool :=
  { left with expectedNativeTimerFingerprint := [] } ==
    { right with expectedNativeTimerFingerprint := [] }

def extensionFitsAssignment {Command Identity : Type}
    (parse : Bytes → Option (NativeLocalState Command Identity))
    (commandFromAssignment : BackendAgentCommandAssignment → Except String Command)
    (sameCommand : Command → Command → Bool) (payload : Bytes)
    (assignment : BackendAgentCommandAssignment) : Bool :=
  match parse payload, commandFromAssignment assignment with
  | some candidate, .ok expected => sameCommand expected candidate.command
  | _, _ => false

def backendAgentCommandStateExtensionValidateSupported
    (extension : BackendAgentCommandStateExtension)
    (assignment : BackendAgentCommandAssignment) : Bool :=
  backendAgentCommandStateExtensionValid extension assignment &&
  if extension.extensionType = nativeTimerCreateExtensionType then
    extensionFitsAssignment backendAgentNativeTimerCreateParseLocalState
      backendAgentNativeTimerCreateCommandFromAssignment (· == ·) extension.payload assignment
  else if extension.extensionType = nativeTimerDeleteExtensionType then
    extensionFitsAssignment backendAgentNativeTimerDeleteParseLocalState
      backendAgentNativeTimerDeleteCommandFromAssignment sameNativeTimerDeleteCommand
      extension.payload assignment
  else if extension.extensionType = nativeTimerModifyExtensionType then
    extensionFitsAssignment backendAgentNativeTimerModifyParseLocalState
      backendAgentNativeTimerModifyCommandFromAssignment (· == ·) extension.payload assignment
  else if extension.extensionType = recordingMarksModifyExtensionType then
    extensionFitsAssignment backendAgentRecordingMarksModifyParseLocalState
      backendAgentRecordingMarksModifyCommandFromAssignment (· == ·) extension.payload assignment
  else if extension.extensionType = recordingCutExtensionType then
    extensionFitsAssignment backendAgentRecordingCutParseLocalState
      backendAgentRecordingCutCommandFromAssignment (· == ·) extension.payload assignment
  else false

/-! ## Reading a written extension back -/

theorem extension_of_serialize {extension : BackendAgentCommandStateExtension}
    {assignment : BackendAgentCommandAssignment} {encoded : Bytes}
    (written : backendAgentCommandStateExtensionSerialize extension assignment = some encoded) :
    backendAgentCommandStateExtensionValid extension assignment = true ∧
      encoded = [46].intercalate (extensionFields extension) ∧ encoded.length ≤ 40960 := by
  unfold backendAgentCommandStateExtensionSerialize at written
  split at written
  · simp at written
  · rename_i valid
    dsimp only at written
    split at written
    · simp at written
    · rename_i fits
      simp only [Option.some.injEq] at written
      subst written
      exact ⟨by simpa using valid, rfl, by omega⟩

private theorem dotFree_extensionFields (extension : BackendAgentCommandStateExtension) :
    ∀ field ∈ extensionFields extension, (46 : UInt8) ∉ field := by
  intro field member
  simp only [extensionFields, List.mem_cons, List.not_mem_nil, or_false] at member
  obtain rfl | rfl | rfl | rfl | rfl := member
  · decide
  all_goals exact Hex.notMem_encode _ _ (by decide)

theorem extension_serialize_notMem {extension : BackendAgentCommandStateExtension}
    {assignment : BackendAgentCommandAssignment} {encoded : Bytes}
    (written : backendAgentCommandStateExtensionSerialize extension assignment = some encoded)
    (byte : UInt8) (foreign : Hex.hexValue byte = none) (notDot : byte ≠ 46)
    (notHeading : byte ∉ text "cse1") : byte ∉ encoded := by
  obtain ⟨-, rfl, -⟩ := extension_of_serialize written
  have hexFree := fun value => Hex.notMem_encode value byte foreign
  simp [extensionFields, notHeading, notDot, hexFree]

theorem extension_parse_serialize {extension : BackendAgentCommandStateExtension}
    {assignment : BackendAgentCommandAssignment} {encoded : Bytes}
    (written : backendAgentCommandStateExtensionSerialize extension assignment = some encoded) :
    backendAgentCommandStateExtensionParse encoded assignment = some extension := by
  obtain ⟨valid, shape, fits⟩ := extension_of_serialize written
  have pieces : encoded.splitOn 46 = extensionFields extension := by
    rw [shape]
    exact List.splitOn_intercalate _ (dotFree_extensionFields extension) (by simp [extensionFields])
  have size : encoded.length = 8 + (Hex.encode extension.extensionType).length +
      (Hex.encode extension.commandId).length +
      (Hex.encode extension.requestFingerprint).length +
      (Hex.encode extension.payload).length := by
    have heading : (text "cse1").length = 4 := rfl
    rw [shape]
    simp only [extensionFields, List.intercalate_cons_cons, List.intercalate_singleton,
      List.length_append, List.length_singleton, heading]
    omega
  have decoded : ∀ value : Bytes, (Hex.encode value).length ≤ 40960 →
      extensionHexDecode (Hex.encode value) = some value := by
    intro value short
    rw [extensionHexDecode, if_neg (by omega), Hex.decode_encode]
  have nonempty : encoded.isEmpty = false := by
    rw [List.isEmpty_eq_false_iff, ← List.length_pos_iff]
    omega
  have version : extension.schemaVersion = 1 := by
    simp only [backendAgentCommandStateExtensionValid, Bool.and_eq_true, beq_iff_eq] at valid
    exact valid.1.1.1.1.1
  have same : ({ extension with schemaVersion := 1 } : BackendAgentCommandStateExtension) =
      extension := by
    rw [← version]
  unfold backendAgentCommandStateExtensionParse
  rw [if_neg (by simp [nonempty]; omega), pieces]
  simp only [extensionFields, decoded _ (by omega : (Hex.encode extension.extensionType).length ≤ 40960),
    decoded _ (by omega : (Hex.encode extension.commandId).length ≤ 40960),
    decoded _ (by omega : (Hex.encode extension.requestFingerprint).length ≤ 40960),
    decoded _ (by omega : (Hex.encode extension.payload).length ≤ 40960),
    Option.bind_eq_bind, Option.bind_some, true_and]
  rw [same, if_pos valid]

end VdrSuite.Agent
