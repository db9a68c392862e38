import VdrSuite.Agent.NativeCommand
import VdrSuite.Library.FlatJson

/-! The payload of `vdr.timer.delete`: a flat JSON object of strings and unsigned numbers. -/

set_option autoImplicit false

namespace VdrSuite.Agent

open Library

/-! ## Payload -/

def isHexDigit (byte : UInt8) : Bool := (48 ≤ byte && byte ≤ 57) || (97 ≤ byte && byte ≤ 102)

def backendAgentNativeTimerDeleteFingerprintTokenValid (value : Bytes) : Bool :=
  value.length == 71 && (text "sha256:").isPrefixOf value && (value.drop 7).all isHexDigit

structure BackendAgentNativeTimerDeletePayload where
  operationRevision : Bytes := []
  nativeTimerBindingId : Bytes := []
  expectedBindingRevision : Bytes := []
  expectedNativeTimerFingerprint : Bytes := []
  timerAssignmentId : Bytes := []
  backendNativeTimerId : Bytes := []
  controlPlaneClaimedAt : Int := 0
  localProviderSelection : BackendAgentLocalProviderSelection := {}
  deriving DecidableEq

def nativeTimerDeleteExactProviderSelection (selection : BackendAgentLocalProviderSelection) : Bool :=
  exactProviderSelection (text "vdr.timer") (text "suitebridge:local") (text "suitebridge")
    (text "vdr.timer.delete") selection

def nativeTimerDeletePayloadValid (payload : BackendAgentNativeTimerDeletePayload) : Bool :=
  safeIdentifier payload.operationRevision &&
  safeIdentifier payload.nativeTimerBindingId &&
  safeIdentifier payload.expectedBindingRevision &&
  safeIdentifier payload.timerAssignmentId &&
  safeIdentifier payload.backendNativeTimerId &&
  decide (0 < payload.controlPlaneClaimedAt) &&
  nativeTimerDeleteExactProviderSelection payload.localProviderSelection &&
  backendAgentNativeTimerDeleteFingerprintTokenValid payload.expectedNativeTimerFingerprint

def backendAgentNativeTimerDeleteParsePayload (encoded : Bytes) :
    Option BackendAgentNativeTimerDeletePayload := do
  let values ← FlatJson.parse false encoded
  -- Seventeen keys, each looked up below under its own kind: exactly the expected ones.
  if values.length ≠ 17 then none
  else
    let schema ← FlatJson.unsigned values "timerDeleteSchema"
    let operationRevision ← FlatJson.string values "operationRevision"
    let nativeTimerBindingId ← FlatJson.string values "nativeTimerBindingId"
    let expectedBindingRevision ← FlatJson.string values "expectedBindingRevision"
    let expectedNativeTimerFingerprint ←
      FlatJson.string values "expectedNativeTimerFingerprint"
    let timerAssignmentId ← FlatJson.string values "timerAssignmentId"
    let backendNativeTimerId ← FlatJson.string values "backendNativeTimerId"
    let controlPlaneClaimedAt ← FlatJson.unsigned values "controlPlaneClaimedAt"
    let backendId ← FlatJson.string values "backendId"
    let authorityDomain ← FlatJson.string values "authorityDomain"
    let providerId ← FlatJson.string values "providerId"
    let providerKind ← FlatJson.string values "providerKind"
    let ownershipGeneration ← FlatJson.unsigned values "ownershipGeneration"
    let providerInstanceEpoch ← FlatJson.string values "providerInstanceEpoch"
    let providerGeneration ← FlatJson.unsigned values "providerGeneration"
    let capabilityRevision ← FlatJson.unsigned values "capabilityRevision"
    let requiredCapability ← FlatJson.string values "requiredCapability"
    let candidate : BackendAgentNativeTimerDeletePayload :=
      { operationRevision, nativeTimerBindingId, expectedBindingRevision
        expectedNativeTimerFingerprint, timerAssignmentId, backendNativeTimerId
        controlPlaneClaimedAt
        localProviderSelection :=
          { backendId, authorityDomain, providerId, providerKind, ownershipGeneration
            providerInstanceEpoch, providerGeneration, capabilityRevision, requiredCapability } }
    if schema = 1 ∧ nativeTimerDeletePayloadValid candidate = true then some candidate else none

end VdrSuite.Agent
