import VdrSuite.Agent.NativeTimerCreate
import VdrSuite.Agent.NativeTimerModify
import VdrSuite.Library.Words

/-! The lines in which the agent sends timer creations and modifications to the plugin, and the
requests for which it does. -/

set_option autoImplicit false

namespace VdrSuite.Agent

open Library

def safeWireToken (maximum : Nat) (value : Bytes) : Bool :=
  !value.isEmpty && value.length ≤ maximum && value.all isIdentifierByte

def hexToken (value : Bytes) : Bytes :=
  if value.isEmpty then text "-" else Hex.encode value

def flagToken (value : Bool) : Bytes := if value then text "1" else text "0"

/-- The job, the provider and the time of the local start, in the order of every EXEC line. -/
def contextTokens (command : NativeCommandEnvelope) (localStartingPersistedAt : Int) :
    List Bytes :=
  [command.jobId, command.attemptId, decimal command.claimEpoch, command.backendId,
    command.agentId, command.agentInstanceId, decimal command.backendGeneration,
    signedDecimal command.controlPlaneClaimedAt, command.localProviderSelection.authorityDomain,
    command.localProviderSelection.providerId, command.localProviderSelection.providerKind,
    decimal command.localProviderSelection.ownershipGeneration,
    command.localProviderSelection.providerInstanceEpoch,
    decimal command.localProviderSelection.providerGeneration,
    decimal command.localProviderSelection.capabilityRevision,
    command.localProviderSelection.requiredCapability, signedDecimal localStartingPersistedAt]

def specificationTokens (specification : BackendAgentNativeTimerCreateSpecification) :
    List Bytes :=
  [hexToken specification.channelId, hexToken specification.title,
    hexToken specification.directory, hexToken specification.day,
    hexToken specification.weekdays, hexToken specification.startTime,
    hexToken specification.endTime, signedDecimal specification.priority,
    signedDecimal specification.lifetime, flagToken specification.enabled,
    flagToken specification.vps]

/-! ## Creation -/

structure BackendAgentNativeTimerCreateTransportRequest where
  command : BackendAgentNativeTimerCreateCommand
  localStartingPersistedAt : Int := 0
  deriving DecidableEq

def safeRequest (request : BackendAgentNativeTimerCreateTransportRequest) : Bool :=
  backendAgentNativeTimerCreateValidCommand request.command &&
  decide (request.command.controlPlaneClaimedAt ≤ request.localStartingPersistedAt) &&
  safeWireToken 192 request.command.commandId &&
  safeWireToken 192 request.command.requestFingerprint &&
  safeWireToken 192 request.command.operationId &&
  safeWireToken 192 request.command.operationRevision &&
  safeWireToken 192 request.command.timerAssignmentId &&
  safeWireToken 192 request.command.expectedAssignmentRevision &&
  safeWireToken 192 request.command.expectedIntentRevision &&
  safeWireToken 192 request.command.nativeTimerBindingId &&
  safeWireToken 192 request.command.jobId &&
  safeWireToken 192 request.command.attemptId &&
  safeWireToken 192 request.command.backendId &&
  safeWireToken 192 request.command.agentId &&
  safeWireToken 192 request.command.agentInstanceId &&
  safeWireToken 192 request.command.localProviderSelection.authorityDomain &&
  safeWireToken 192 request.command.localProviderSelection.providerId &&
  safeWireToken 192 request.command.localProviderSelection.providerKind &&
  safeWireToken 192 request.command.localProviderSelection.providerInstanceEpoch &&
  safeWireToken 192 request.command.localProviderSelection.requiredCapability

def createTokens (request : BackendAgentNativeTimerCreateTransportRequest) : List Bytes :=
  [text "EXEC", text "vdr-suite-native/1", text "vdr.timer.create", text "1",
    request.command.commandId, request.command.requestFingerprint, request.command.operationId,
    request.command.operationRevision, request.command.timerAssignmentId,
    request.command.expectedAssignmentRevision, request.command.expectedIntentRevision,
    decimal request.command.assignmentEpoch, request.command.nativeTimerBindingId,
    hexToken request.command.expectedSpecificationFingerprint] ++
  contextTokens request.command.toNativeCommandEnvelope request.localStartingPersistedAt ++
  specificationTokens request.command.specification

/-- The whole line; the plugin is handed what stands between its command and the line end. -/
def executeNativeTimerCreateContract (request : BackendAgentNativeTimerCreateTransportRequest) :
    Bytes :=
  text "PLUG suitebridge NTCREATE " ++ Words.unwords (createTokens request) ++ [13, 10]

/-! ## Modification -/

structure BackendAgentNativeTimerModifyTransportRequest where
  command : BackendAgentNativeTimerModifyCommand
  localStartingPersistedAt : Int := 0
  deriving DecidableEq

def modifyRequestValid (request : BackendAgentNativeTimerModifyTransportRequest) : Bool :=
  backendAgentNativeTimerModifyValidCommand request.command &&
  decide (request.command.controlPlaneClaimedAt ≤ request.localStartingPersistedAt)

def modifyTokens (request : BackendAgentNativeTimerModifyTransportRequest) : List Bytes :=
  [text "EXEC", text "vdr-suite-native/1",
    backendAgentNativeTimerModifyCapability request.command.kind, text "1",
    request.command.commandId, request.command.requestFingerprint, request.command.operationId,
    request.command.operationRevision, request.command.nativeTimerBindingId,
    request.command.expectedBindingRevision, request.command.expectedCurrentFingerprint,
    request.command.timerAssignmentId, request.command.backendNativeTimerId] ++
  specificationTokens request.command.specification ++
  contextTokens request.command.toNativeCommandEnvelope request.localStartingPersistedAt

def executeNativeTimerModifyContract (request : BackendAgentNativeTimerModifyTransportRequest) :
    Bytes :=
  text "PLUG suitebridge NTMOD " ++ Words.unwords (modifyTokens request) ++ [13, 10]

end VdrSuite.Agent
