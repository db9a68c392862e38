import VdrSuite.Plugin.NativeRequest

/-! The plugin's reader of `NMARKS EXEC` requests. -/

set_option autoImplicit false

namespace VdrSuite.Plugin

open Library Agent

inductive SuiteBridgeRecordingMarksModifyKind where
  | add
  | delete
  | move
  | reset
  | replace
  deriving DecidableEq

/-- A frame that is not given is `-1`. -/
structure SuiteBridgeRecordingMarksModifyRequest extends SuiteBridgeNativeRequest where
  kind : SuiteBridgeRecordingMarksModifyKind := .add
  recordingKey : Bytes := []
  expectedMarksRevision : Bytes := []
  sourceFrame : Int := -1
  targetFrame : Int := -1
  replacementFrames : List Int := []
  deriving DecidableEq

namespace RecordingMarksModify

def operation : Bytes := text "vdr.recording.marks.modify"

def maximumReplacementFrames : Nat := 256

def kindName : SuiteBridgeRecordingMarksModifyKind → Bytes
  | .add => text "add"
  | .delete => text "delete"
  | .move => text "move"
  | .reset => text "reset"
  | .replace => text "replace"

def parseKind (token : Bytes) : Option SuiteBridgeRecordingMarksModifyKind :=
  [.add, .delete, .move, .reset, .replace].find? fun kind => kindName kind == token

def lowerHex (length : Nat) (value : Bytes) : Bool :=
  value.length == length && value.all fun byte => (Hex.hexValue byte).isSome

def safeFingerprint (value : Bytes) : Bool :=
  value.length == 20 && (text "fp1_").isPrefixOf value && lowerHex 16 (value.drop 4)

def frameValue (token : Bytes) : Option Int :=
  if token = text "-" then some (-1)
  else
    match unsignedValue Netstring.uint64Max false token with
    | none => none
    | some value => if value > 2147483647 then none else some value

def replacementFrame (token : Bytes) : Option Int :=
  match frameValue token with
  | none => none
  | some frame => if frame < 0 then none else some frame

def replacementFramesValue (token : Bytes) : Option (List Int) :=
  if token = text "-" then some []
  else if token = [] ∨ token.length > 4096 then none
  else
    match (token.splitOn 44).mapM replacementFrame with
    | none => none
    | some frames => if frames.length > maximumReplacementFrames then none else some frames

def validFrameShape (request : SuiteBridgeRecordingMarksModifyRequest) : Bool :=
  match request.kind with
  | .add => request.sourceFrame < 0 && 0 ≤ request.targetFrame && request.replacementFrames.isEmpty
  | .delete =>
    0 ≤ request.sourceFrame && request.targetFrame < 0 && request.replacementFrames.isEmpty
  | .move =>
    0 ≤ request.sourceFrame && 0 ≤ request.targetFrame && request.replacementFrames.isEmpty
  | .reset =>
    request.sourceFrame < 0 && request.targetFrame < 0 && request.replacementFrames.isEmpty
  | .replace =>
    request.sourceFrame < 0 && request.targetFrame < 0 && !request.replacementFrames.isEmpty

def validRequest (request : SuiteBridgeRecordingMarksModifyRequest) : Bool :=
  safeCommand request.toSuiteBridgeNativeRequest &&
  safeFingerprint request.requestFingerprint &&
  lowerHex 32 request.recordingKey && lowerHex 32 request.expectedMarksRevision &&
  validFrameShape request

def parseExecute (option : Bytes) : Option SuiteBridgeRecordingMarksModifyRequest :=
  match Words.split 32 (cString option) with
  | exec :: protocol :: native :: schema :: commandId :: requestFingerprint :: operationId ::
      operationRevision :: recordingKey :: expectedMarksRevision :: kind :: sourceFrame ::
      targetFrame :: replacementFrames :: context =>
      if exec ≠ text "EXEC" ∨ protocol ≠ text "vdr-suite-native/1" ∨ native ≠ operation ∨
          schema ≠ text "2" then none
      else do
        let kind ← parseKind kind
        let sourceFrame ← frameValue sourceFrame
        let targetFrame ← frameValue targetFrame
        let replacementFrames ← replacementFramesValue replacementFrames
        let context ← parseContext Netstring.uint64Max context
        let request : SuiteBridgeRecordingMarksModifyRequest :=
          { toNativeExecutionContext := context
            kind, commandId, requestFingerprint, operationId, operationRevision, recordingKey
            expectedMarksRevision, sourceFrame, targetFrame, replacementFrames }
        if validRequest request then some request else none
  | _ => none

def appendFrame (frame : Int) : Bytes :=
  if frame < 0 then text "-|" else signedDecimal frame ++ text "|"

def appendFrames (frames : List Int) : Bytes :=
  appendCanonicalNumber frames.length ++
  (frames.flatMap fun frame => signedDecimal frame ++ text ",") ++ text "|"

def canonicalRequest (request : SuiteBridgeRecordingMarksModifyRequest) : Bytes :=
  appendCanonical operation ++ appendCanonical (kindName request.kind) ++
  canonicalCommand request.toSuiteBridgeNativeRequest ++
  appendCanonical request.recordingKey ++ appendCanonical request.expectedMarksRevision ++
  appendFrame request.sourceFrame ++ appendFrame request.targetFrame ++
  appendFrames request.replacementFrames ++ canonicalContext request.toNativeExecutionContext

end RecordingMarksModify

end VdrSuite.Plugin
