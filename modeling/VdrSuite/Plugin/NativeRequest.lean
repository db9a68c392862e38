import VdrSuite.Agent.LocalProvider
import VdrSuite.Library.Hex
import VdrSuite.Library.Words

/-! What the EXEC requests of the plugin's native services have in common: tokens, numbers, encoded
texts and the context of the command. -/

set_option autoImplicit false

namespace VdrSuite.Plugin

open Library Agent

/-! ## Tokens -/

def safeToken (maximum : Nat) (value : Bytes) : Bool :=
  !value.isEmpty && value.length ≤ maximum && value.all isIdentifierByte

/-- At most nineteen digits, and not above `limit`. -/
def unsignedValue (limit : Nat) (positive : Bool) (token : Bytes) : Option Nat :=
  if token.length > 19 then none else Netstring.parseUnsigned limit positive token

def booleanValue (token : Bytes) : Option Bool :=
  if token = text "0" then some false else if token = text "1" then some true else none

def decodePairs (nibble : UInt8 → Option Nat) : Bytes → Option Bytes
  | [] => some []
  | [_] => none
  | high :: low :: rest => do
      let upper ← nibble high
      let lower ← nibble low
      let decoded ← decodePairs nibble rest
      some (UInt8.ofNat (upper * 16 + lower) :: decoded)

/-- A text of at most `maximum` bytes without NUL and line ends; a lone hyphen is the empty text. -/
def decodeText (nibble : UInt8 → Option Nat) (maximum : Nat) (encoded : Bytes) : Option Bytes :=
  if encoded = text "-" then some []
  else if encoded = [] ∨ encoded.length > maximum * 2 then none
  else
    match decodePairs nibble encoded with
    | none => none
    | some value =>
      if value.any fun byte => byte == 0 || byte == 13 || byte == 10 then none else some value

def anyCaseNibble (byte : UInt8) : Option Nat :=
  if 65 ≤ byte ∧ byte ≤ 70 then some (byte.toNat - 55) else Hex.hexValue byte

/-! ## The common part of requests -/

structure NativeExecutionContext where
  jobId : Bytes := []
  attemptId : Bytes := []
  claimEpoch : Nat := 0
  backendId : Bytes := []
  agentId : Bytes := []
  agentInstanceId : Bytes := []
  backendGeneration : Nat := 0
  controlPlaneClaimedAt : Nat := 0
  authorityDomain : Bytes := []
  providerId : Bytes := []
  providerKind : Bytes := []
  ownershipGeneration : Nat := 0
  providerInstanceEpoch : Bytes := []
  providerGeneration : Nat := 0
  capabilityRevision : Nat := 0
  requiredCapability : Bytes := []
  localStartingPersistedAt : Nat := 0
  deriving DecidableEq

structure SuiteBridgeNativeRequest extends NativeExecutionContext where
  commandId : Bytes := []
  requestFingerprint : Bytes := []
  operationId : Bytes := []
  operationRevision : Bytes := []
  deriving DecidableEq

def parseContext (limit : Nat) : List Bytes → Option NativeExecutionContext
  | [jobId, attemptId, claimEpoch, backendId, agentId, agentInstanceId, backendGeneration,
      controlPlaneClaimedAt, authorityDomain, providerId, providerKind, ownershipGeneration,
      providerInstanceEpoch, providerGeneration, capabilityRevision, requiredCapability,
      localStartingPersistedAt] => do
      let claimEpoch ← unsignedValue limit true claimEpoch
      let backendGeneration ← unsignedValue limit true backendGeneration
      let controlPlaneClaimedAt ← unsignedValue limit true controlPlaneClaimedAt
      let ownershipGeneration ← unsignedValue limit true ownershipGeneration
      let providerGeneration ← unsignedValue limit true providerGeneration
      let capabilityRevision ← unsignedValue limit true capabilityRevision
      let localStartingPersistedAt ← unsignedValue limit true localStartingPersistedAt
      some
        { jobId, attemptId, claimEpoch, backendId, agentId, agentInstanceId, backendGeneration
          controlPlaneClaimedAt, authorityDomain, providerId, providerKind, ownershipGeneration
          providerInstanceEpoch, providerGeneration, capabilityRevision, requiredCapability
          localStartingPersistedAt }
  | _ => none

def safeContext (context : NativeExecutionContext) : Bool :=
  safeToken 192 context.jobId && safeToken 192 context.attemptId &&
  safeToken 192 context.backendId && safeToken 192 context.agentId &&
  safeToken 192 context.agentInstanceId && safeToken 192 context.authorityDomain &&
  safeToken 192 context.providerId && safeToken 192 context.providerKind &&
  safeToken 192 context.providerInstanceEpoch && safeToken 192 context.requiredCapability

def safeCommand (request : SuiteBridgeNativeRequest) : Bool :=
  safeToken 192 request.commandId && safeToken 192 request.operationId &&
  safeToken 192 request.operationRevision && safeContext request.toNativeExecutionContext

/-! ## Canonical texts -/

def appendCanonical (value : Bytes) : Bytes :=
  decimal value.length ++ text ":" ++ value ++ text "|"

def appendCanonicalNumber (value : Nat) : Bytes := decimal value ++ text "|"

def appendCanonicalFlag (value : Bool) : Bytes := appendCanonicalNumber (if value then 1 else 0)

def canonicalContext (context : NativeExecutionContext) : Bytes :=
  appendCanonical context.jobId ++ appendCanonical context.attemptId ++
  appendCanonicalNumber context.claimEpoch ++ appendCanonical context.backendId ++
  appendCanonical context.agentId ++ appendCanonical context.agentInstanceId ++
  appendCanonicalNumber context.backendGeneration ++
  appendCanonicalNumber context.controlPlaneClaimedAt ++
  appendCanonical context.authorityDomain ++ appendCanonical context.providerId ++
  appendCanonical context.providerKind ++ appendCanonicalNumber context.ownershipGeneration ++
  appendCanonical context.providerInstanceEpoch ++
  appendCanonicalNumber context.providerGeneration ++
  appendCanonicalNumber context.capabilityRevision ++
  appendCanonical context.requiredCapability ++
  appendCanonicalNumber context.localStartingPersistedAt

def canonicalCommand (request : SuiteBridgeNativeRequest) : Bytes :=
  appendCanonical request.commandId ++ appendCanonical request.requestFingerprint ++
  appendCanonical request.operationId ++ appendCanonical request.operationRevision

end VdrSuite.Plugin
