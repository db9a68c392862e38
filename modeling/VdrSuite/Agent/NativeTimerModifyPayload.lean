import VdrSuite.Agent.NativeTimerCreatePayload

/-! The payload of `vdr.timer.update` and `vdr.timer.toggle`. -/

set_option autoImplicit false

namespace VdrSuite.Agent

open Library

inductive BackendAgentNativeTimerModifyKind where
  | update
  | toggle
  deriving DecidableEq

def backendAgentNativeTimerModifyKindName : BackendAgentNativeTimerModifyKind → Bytes
  | .update => text "update"
  | .toggle => text "toggle"

def backendAgentNativeTimerModifyCapability : BackendAgentNativeTimerModifyKind → Bytes
  | .update => text "vdr.timer.update"
  | .toggle => text "vdr.timer.toggle"

def parseNativeTimerModifyKind (token : Bytes) : Option BackendAgentNativeTimerModifyKind :=
  if token = text "update" then some .update
  else if token = text "toggle" then some .toggle
  else none

structure BackendAgentNativeTimerModifyPayload where
  kind : BackendAgentNativeTimerModifyKind := .update
  operationRevision : Bytes := []
  timerAssignmentId : Bytes := []
  expectedAssignmentRevision : Bytes := []
  expectedIntentRevision : Bytes := []
  assignmentEpoch : Nat := 0
  nativeTimerBindingId : Bytes := []
  expectedBindingRevision : Bytes := []
  backendId : Bytes := []
  backendGeneration : Nat := 0
  backendNativeTimerId : Bytes := []
  expectedCurrentFingerprint : Bytes := []
  expectedSpecificationFingerprint : Bytes := []
  specification : BackendAgentNativeTimerCreateSpecification := {}
  controlPlaneClaimedAt : Int := 0
  localProviderSelection : BackendAgentLocalProviderSelection := {}
  deriving DecidableEq

def nativeTimerModifyExactProviderSelection (kind : BackendAgentNativeTimerModifyKind)
    (backendId : Bytes) (selection : BackendAgentLocalProviderSelection) : Bool :=
  exactProviderSelection (text "vdr.timer") (text "suitebridge:local") (text "suitebridge")
    (backendAgentNativeTimerModifyCapability kind) selection &&
  selection.backendId == backendId

/-- An invalid specification has an empty fingerprint, so one without fingerprint passes here. -/
def backendAgentNativeTimerModifyPayloadValid (payload : BackendAgentNativeTimerModifyPayload) :
    Bool :=
  backendAgentCommandSafeIdentifier payload.operationRevision &&
  backendAgentCommandSafeIdentifier payload.timerAssignmentId &&
  backendAgentCommandSafeIdentifier payload.expectedAssignmentRevision &&
  backendAgentCommandSafeIdentifier payload.expectedIntentRevision &&
  0 < payload.assignmentEpoch &&
  backendAgentCommandSafeIdentifier payload.nativeTimerBindingId &&
  backendAgentCommandSafeIdentifier payload.expectedBindingRevision &&
  backendAgentCommandSafeIdentifier payload.backendId && 0 < payload.backendGeneration &&
  backendAgentCommandSafeIdentifier payload.backendNativeTimerId &&
  !payload.expectedCurrentFingerprint.isEmpty &&
  payload.expectedSpecificationFingerprint ==
    backendAgentNativeTimerCreateSpecificationFingerprint payload.specification &&
  decide (0 < payload.controlPlaneClaimedAt) &&
  nativeTimerModifyExactProviderSelection payload.kind payload.backendId
    payload.localProviderSelection

/-- The encoding of a payload; `none` where padding a time of more than four characters throws. -/
def backendAgentNativeTimerModifyPayload (payload : BackendAgentNativeTimerModifyPayload) :
    Option Bytes :=
  if backendAgentNativeTimerModifyPayloadValid payload = false then some []
  else if payload.specification.startTime.length > 4 ∨ payload.specification.endTime.length > 4 then
    none
  else some (text "native-timer-modify-agent-payload/1|" ++ Netstring.record
    ([backendAgentNativeTimerModifyKindName payload.kind, payload.operationRevision,
        payload.timerAssignmentId, payload.expectedAssignmentRevision,
        payload.expectedIntentRevision, decimal payload.assignmentEpoch,
        payload.nativeTimerBindingId, payload.expectedBindingRevision, payload.backendId,
        decimal payload.backendGeneration, payload.backendNativeTimerId,
        payload.expectedCurrentFingerprint, payload.expectedSpecificationFingerprint,
        signedDecimal payload.controlPlaneClaimedAt] ++
      specificationFields payload.specification ++
      selectionFields payload.localProviderSelection))

def backendAgentNativeTimerModifyParsePayload (encoded : Bytes) :
    Option BackendAgentNativeTimerModifyPayload :=
  match Netstring.readDocument Netstring.uint64Max 34
      (text "native-timer-modify-agent-payload/1|") encoded with
  | some (kind :: operationRevision :: timerAssignmentId :: expectedAssignmentRevision ::
      expectedIntentRevision :: assignmentEpoch :: nativeTimerBindingId ::
      expectedBindingRevision :: backendId :: backendGeneration :: backendNativeTimerId ::
      expectedCurrentFingerprint :: expectedSpecificationFingerprint :: controlPlaneClaimedAt ::
      rest) => do
      let kind ← parseNativeTimerModifyKind kind
      let assignmentEpoch ← positiveUnsigned assignmentEpoch
      let backendGeneration ← positiveUnsigned backendGeneration
      let controlPlaneClaimedAt ← parseTime true controlPlaneClaimedAt
      let specification ← parseSpecification (rest.take 11)
      let localProviderSelection ← parseSelection positiveUnsigned (rest.drop 11)
      let candidate : BackendAgentNativeTimerModifyPayload :=
        { kind, operationRevision, timerAssignmentId, expectedAssignmentRevision
          expectedIntentRevision, assignmentEpoch, nativeTimerBindingId, expectedBindingRevision
          backendId, backendGeneration, backendNativeTimerId, expectedCurrentFingerprint
          expectedSpecificationFingerprint, specification, controlPlaneClaimedAt
          localProviderSelection }
      if backendAgentNativeTimerModifyPayloadValid candidate = false ∨
          backendAgentNativeTimerModifyPayload candidate ≠ some encoded then none
      else some candidate
  | _ => none

end VdrSuite.Agent
