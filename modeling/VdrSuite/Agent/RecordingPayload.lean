import VdrSuite.Agent.NativeTimerDeletePayload

/-! The payloads of `vdr.recording.marks.modify` and `vdr.recording.cut`. -/

set_option autoImplicit false

namespace VdrSuite.Agent

open Library

/-! ## Fields -/

def readRecordingField (input : Bytes) : Option (Bytes × Bytes) :=
  if (input.takeWhile (· != 58)).length > 10 then none
  else Netstring.readField Netstring.uint64Max input

def readRecordingFields : Nat → Bytes → Option (List Bytes)
  | 0, input => if input.isEmpty then some [] else none
  | count + 1, input => do
      let (value, rest) ← readRecordingField input
      let values ← readRecordingFields count rest
      some (value :: values)

def parseRecordingUnsigned (positive : Bool) (token : Bytes) : Option Nat :=
  if token.length > 20 then none else Netstring.parseUnsigned Netstring.uint64Max positive token

def parsePositiveTime (token : Bytes) : Option Int :=
  match parseRecordingUnsigned true token with
  | none => none
  | some value => if value > int64Max then none else some value

def recordingRevisionTokenValid (value : Bytes) : Bool :=
  value.length == 32 && value.all isHexDigit

/-! ## Marks -/

inductive BackendAgentRecordingMarksModifyKind where
  | add
  | deleteMark
  | move
  | reset
  | replace
  deriving DecidableEq

def backendAgentRecordingMarksModifyKindName : BackendAgentRecordingMarksModifyKind → Bytes
  | .add => text "add"
  | .deleteMark => text "delete"
  | .move => text "move"
  | .reset => text "reset"
  | .replace => text "replace"

def parseRecordingMarksModifyKind (token : Bytes) : Option BackendAgentRecordingMarksModifyKind :=
  if token = text "add" then some .add
  else if token = text "delete" then some .deleteMark
  else if token = text "move" then some .move
  else if token = text "reset" then some .reset
  else if token = text "replace" then some .replace
  else none

def backendAgentRecordingMarksModifyFrameShapeValid (kind : BackendAgentRecordingMarksModifyKind)
    (sourceFrame targetFrame : Int) (replacementFrames : List Int) : Bool :=
  if replacementFrames.length > 256 ∨ (replacementFrames.all fun frame => 0 ≤ frame) = false then
    false
  else
    match kind with
    | .add => decide (sourceFrame < 0) && decide (0 ≤ targetFrame) && replacementFrames.isEmpty
    | .deleteMark =>
      decide (0 ≤ sourceFrame) && decide (targetFrame < 0) && replacementFrames.isEmpty
    | .move => decide (0 ≤ sourceFrame) && decide (0 ≤ targetFrame) && replacementFrames.isEmpty
    | .reset => decide (sourceFrame < 0) && decide (targetFrame < 0) && replacementFrames.isEmpty
    | .replace =>
      decide (sourceFrame < 0) && decide (targetFrame < 0) && !replacementFrames.isEmpty

structure BackendAgentRecordingMarksModifyPayload where
  kind : BackendAgentRecordingMarksModifyKind := .add
  operationRevision : Bytes := []
  recordingKey : Bytes := []
  expectedMarksRevision : Bytes := []
  sourceFrame : Int := -1
  targetFrame : Int := -1
  replacementFrames : List Int := []
  backendId : Bytes := []
  backendGeneration : Nat := 0
  controlPlaneClaimedAt : Int := 0
  localProviderSelection : BackendAgentLocalProviderSelection := {}
  deriving DecidableEq

def recordingMarksModifyExactSelection (backendId : Bytes)
    (selection : BackendAgentLocalProviderSelection) : Bool :=
  exactProviderSelection (text "vdr.recording.marks") (text "suitebridge:recording-marks")
    (text "suitebridge") (text "vdr.recording.marks.modify") selection &&
  selection.backendId == backendId

def backendAgentRecordingMarksModifyValidPayload
    (payload : BackendAgentRecordingMarksModifyPayload) : Bool :=
  backendAgentCommandSafeIdentifier payload.operationRevision &&
  recordingRevisionTokenValid payload.recordingKey &&
  recordingRevisionTokenValid payload.expectedMarksRevision &&
  backendAgentRecordingMarksModifyFrameShapeValid payload.kind payload.sourceFrame
    payload.targetFrame payload.replacementFrames &&
  backendAgentCommandSafeIdentifier payload.backendId && 0 < payload.backendGeneration &&
  decide (0 < payload.controlPlaneClaimedAt) &&
  recordingMarksModifyExactSelection payload.backendId payload.localProviderSelection

def frameToken (frame : Int) : Bytes :=
  if frame < 0 then text "-" else signedDecimal frame

def replacementFramesToken (frames : List Int) : Bytes :=
  if frames.isEmpty then text "-" else [44].intercalate (frames.map signedDecimal)

def parseFrame (token : Bytes) : Option Int :=
  if token = text "-" then some (-1)
  else
    match parseRecordingUnsigned false token with
    | none => none
    | some value => if value > 2147483647 then none else some value

def parseReplacementFrame (token : Bytes) : Option Int :=
  match parseFrame token with
  | none => none
  | some frame => if frame < 0 then none else some frame

def parseReplacementFrames (token : Bytes) : Option (List Int) :=
  if token = text "-" then some []
  else if token.isEmpty then none
  else
    match (token.splitOn 44).mapM parseReplacementFrame with
    | none => none
    | some frames => if frames.length > 256 then none else some frames

def backendAgentRecordingMarksModifyPayload (payload : BackendAgentRecordingMarksModifyPayload) :
    Bytes :=
  if backendAgentRecordingMarksModifyValidPayload payload = false then []
  else Netstring.record
    ([text "vdr-suite-recording-marks-modify/1",
        backendAgentRecordingMarksModifyKindName payload.kind, payload.operationRevision,
        payload.recordingKey, payload.expectedMarksRevision, frameToken payload.sourceFrame,
        frameToken payload.targetFrame, replacementFramesToken payload.replacementFrames,
        payload.backendId, decimal payload.backendGeneration,
        signedDecimal payload.controlPlaneClaimedAt] ++
      selectionFields payload.localProviderSelection)

def backendAgentRecordingMarksModifyParsePayload (encoded : Bytes) :
    Option BackendAgentRecordingMarksModifyPayload :=
  match readRecordingFields 20 encoded with
  | some (protocol :: kind :: operationRevision :: recordingKey :: expectedMarksRevision ::
      sourceFrame :: targetFrame :: replacementFrames :: backendId :: backendGeneration ::
      controlPlaneClaimedAt :: selection) => do
      let kind ← parseRecordingMarksModifyKind kind
      let sourceFrame ← parseFrame sourceFrame
      let targetFrame ← parseFrame targetFrame
      let replacementFrames ← parseReplacementFrames replacementFrames
      let backendGeneration ← parseRecordingUnsigned true backendGeneration
      let controlPlaneClaimedAt ← parsePositiveTime controlPlaneClaimedAt
      let localProviderSelection ← parseSelection (parseRecordingUnsigned true) selection
      let payload : BackendAgentRecordingMarksModifyPayload :=
        { kind, operationRevision, recordingKey, expectedMarksRevision, sourceFrame, targetFrame
          replacementFrames, backendId, backendGeneration, controlPlaneClaimedAt
          localProviderSelection }
      if protocol ≠ text "vdr-suite-recording-marks-modify/1" ∨
          backendAgentRecordingMarksModifyValidPayload payload = false ∨
          backendAgentRecordingMarksModifyPayload payload ≠ encoded then none
      else some payload
  | _ => none

/-! ## Cut -/

structure BackendAgentRecordingCutPayload where
  operationRevision : Bytes := []
  recordingKey : Bytes := []
  expectedMarksRevision : Bytes := []
  backendId : Bytes := []
  backendGeneration : Nat := 0
  controlPlaneClaimedAt : Int := 0
  localProviderSelection : BackendAgentLocalProviderSelection := {}
  deriving DecidableEq

def recordingCutExactSelection (backendId : Bytes)
    (selection : BackendAgentLocalProviderSelection) : Bool :=
  exactProviderSelection (text "vdr.recording.cut") (text "suitebridge:recording-cut")
    (text "suitebridge") (text "vdr.recording.cut") selection &&
  selection.backendId == backendId

def backendAgentRecordingCutValidPayload (payload : BackendAgentRecordingCutPayload) : Bool :=
  backendAgentCommandSafeIdentifier payload.operationRevision &&
  recordingRevisionTokenValid payload.recordingKey &&
  recordingRevisionTokenValid payload.expectedMarksRevision &&
  backendAgentCommandSafeIdentifier payload.backendId && 0 < payload.backendGeneration &&
  decide (0 < payload.controlPlaneClaimedAt) &&
  recordingCutExactSelection payload.backendId payload.localProviderSelection

def backendAgentRecordingCutPayload (payload : BackendAgentRecordingCutPayload) : Bytes :=
  if backendAgentRecordingCutValidPayload payload = false then []
  else Netstring.record
    ([text "vdr-suite-recording-cut/1", payload.operationRevision, payload.recordingKey,
        payload.expectedMarksRevision, payload.backendId, decimal payload.backendGeneration,
        signedDecimal payload.controlPlaneClaimedAt] ++
      selectionFields payload.localProviderSelection)

def backendAgentRecordingCutParsePayload (encoded : Bytes) :
    Option BackendAgentRecordingCutPayload :=
  match readRecordingFields 16 encoded with
  | some (protocol :: operationRevision :: recordingKey :: expectedMarksRevision :: backendId ::
      backendGeneration :: controlPlaneClaimedAt :: selection) => do
      let backendGeneration ← parseRecordingUnsigned true backendGeneration
      let controlPlaneClaimedAt ← parsePositiveTime controlPlaneClaimedAt
      let localProviderSelection ← parseSelection (parseRecordingUnsigned true) selection
      let payload : BackendAgentRecordingCutPayload :=
        { operationRevision, recordingKey, expectedMarksRevision, backendId, backendGeneration
          controlPlaneClaimedAt, localProviderSelection }
      if protocol ≠ text "vdr-suite-recording-cut/1" ∨
          backendAgentRecordingCutValidPayload payload = false ∨
          backendAgentRecordingCutPayload payload ≠ encoded then none
      else some payload
  | _ => none

end VdrSuite.Agent
