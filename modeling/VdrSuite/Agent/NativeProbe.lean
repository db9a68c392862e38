import VdrSuite.Agent.CommandRecord
import VdrSuite.Library.FlatJson

/-! The payloads of `vdr.native.probe`. -/

set_option autoImplicit false

namespace VdrSuite.Agent

open Library

structure BackendAgentNativeProbePayload where
  probeNonce : Bytes := []
  localProviderSelection : BackendAgentLocalProviderSelection := {}
  deriving DecidableEq

def backendAgentNativeProbeParsePayload (payload : Bytes) : Option Bytes := do
  let values ← FlatJson.parse true payload
  if values.length ≠ 2 then none
  else
    let schema ← FlatJson.unsigned values "probeSchema"
    let nonce ← FlatJson.string values "probeNonce"
    if schema = 1 ∧ safeIdentifier nonce = true then some nonce else none

def backendAgentNativeProbeParseSelectedPayload (payload : Bytes) :
    Except String BackendAgentNativeProbePayload :=
  let parsed : Option BackendAgentNativeProbePayload := do
    let values ← FlatJson.parse true payload
    if values.length ≠ 11 then none
    else
      let schema ← FlatJson.unsigned values "probeSchema"
      let probeNonce ← FlatJson.string values "probeNonce"
      let backendId ← FlatJson.string values "backendId"
      let authorityDomain ← FlatJson.string values "authorityDomain"
      let providerId ← FlatJson.string values "providerId"
      let providerKind ← FlatJson.string values "providerKind"
      let ownershipGeneration ← FlatJson.unsigned values "ownershipGeneration"
      let providerInstanceEpoch ← FlatJson.string values "providerInstanceEpoch"
      let providerGeneration ← FlatJson.unsigned values "providerGeneration"
      let capabilityRevision ← FlatJson.unsigned values "capabilityRevision"
      let requiredCapability ← FlatJson.string values "requiredCapability"
      if schema = 2 ∧ safeIdentifier probeNonce = true then
        some
          { probeNonce
            localProviderSelection :=
              { backendId, authorityDomain, providerId, providerKind, ownershipGeneration
                providerInstanceEpoch, providerGeneration, capabilityRevision
                requiredCapability } }
      else none
  match parsed with
  | none => .error "invalid_native_probe_selected_payload"
  | some selected =>
    if backendAgentLocalProviderValidSelection selected.localProviderSelection then .ok selected
    else .error "invalid_native_probe_provider_selection"

end VdrSuite.Agent
