import VdrSuite.Library.ReplayLedger
import VdrSuite.Library.Run
import VdrSuite.Plugin.NativeTimerCreate
import VdrSuite.Plugin.NativeTimerModify
import VdrSuite.Plugin.RecordingMarksModify

/-! The native services of the plugin: the fence, the replay ledger around the mutation callback, and
the replies. -/

set_option autoImplicit false

namespace VdrSuite.Plugin

open Library

/-! ## Results and replies -/

inductive MutationDisposition where
  | appliedUnverified
  | rejectedWithoutEffect
  | outcomeUnknown
  deriving DecidableEq

structure MutationResult where
  disposition : MutationDisposition := .outcomeUnknown
  evidenceReference : Bytes := []
  deriving DecidableEq

def malformedReplyCode : Nat := 501
def staleReplyCode : Nat := 555
def disabledReplyCode : Nat := 556
def acceptedUnverifiedReplyCode : Nat := 557
def outcomeUnknownReplyCode : Nat := 558
def replayConflictReplyCode : Nat := 559
def replayLedgerFullReplyCode : Nat := 560

inductive ReplyReason where
  | stale
  | disabled
  | replayConflict
  | ledgerFull
  | inProgress
  | callbackApplied
  | callbackRejected
  | callbackUnknown
  deriving DecidableEq

/-- The answer to a request: a text for one that cannot be read, else a classification of it. -/
inductive NativeReply (Request : Type) where
  | generic (replyCode : Nat) (reason : Bytes)
  | typed (replyCode : Nat) (request : Request) (disposition : MutationDisposition)
      (reason : ReplyReason) (evidenceReference : Bytes)
  deriving DecidableEq

/-! ## Services -/

structure NativeService (Request : Type) where
  parseExecute : Bytes → Option Request
  command : Request → SuiteBridgeNativeRequest
  canonicalRequest : Request → Bytes
  operation : Request → Bytes
  schema : Bytes
  authorityDomain : Bytes
  providerId : Bytes
  capabilityRevision : Nat
  /-- How evidence texts of the service start. -/
  evidenceTag : Bytes
  resultProtocol : Bytes
  rejectedProtocol : Bytes
  /-- Whether a result is stored only after another comparison with the reserved entry. -/
  rechecksEntry : Bool

def providerKind : Bytes := text "suitebridge"

def providerGeneration : Nat := 1

structure ServiceSetup where
  pluginInstanceEpoch : Bytes
  executionConfigured : Bool
  maximumReplayEntries : Nat := 4096
  deriving DecidableEq

def serviceSetup (pluginInstanceEpoch : Bytes) (executionConfigured : Bool)
    (maximumReplayEntries : Nat) : ServiceSetup :=
  { pluginInstanceEpoch :=
      if safeToken 192 pluginInstanceEpoch then pluginInstanceEpoch else text "pie_invalid"
    executionConfigured, maximumReplayEntries }

section Service

variable {Request : Type} (service : NativeService Request) (setup : ServiceSetup)

def currentFence (request : Request) : Bool :=
  (service.command request).authorityDomain == service.authorityDomain &&
  (service.command request).providerId == service.providerId &&
  (service.command request).providerKind == providerKind &&
  (service.command request).providerInstanceEpoch == setup.pluginInstanceEpoch &&
  (service.command request).providerGeneration == providerGeneration &&
  (service.command request).capabilityRevision == service.capabilityRevision &&
  (service.command request).requiredCapability == service.operation request &&
  decide ((service.command request).controlPlaneClaimedAt ≤
    (service.command request).localStartingPersistedAt)

def evidenceFor (tag : Bytes) (request : Request) : Bytes :=
  service.evidenceTag ++ text ":" ++ tag ++ text ":" ++ (service.command request).commandId

def mutationReply (request : Request) (result : MutationResult) : NativeReply Request :=
  match result.disposition with
  | .appliedUnverified =>
    .typed acceptedUnverifiedReplyCode request .appliedUnverified .callbackApplied
      result.evidenceReference
  | .rejectedWithoutEffect =>
    .typed disabledReplyCode request .rejectedWithoutEffect .callbackRejected
      result.evidenceReference
  | .outcomeUnknown =>
    .typed outcomeUnknownReplyCode request .outcomeUnknown .callbackUnknown
      result.evidenceReference

def normalizedCallbackResult (request : Request) : Option MutationResult → MutationResult
  | none =>
    { disposition := .outcomeUnknown
      evidenceReference := evidenceFor service (text "callback-exception") request }
  | some result =>
    if safeToken 512 result.evidenceReference then result
    else
      { disposition := .outcomeUnknown
        evidenceReference := evidenceFor service (text "callback-invalid") request }

/-! ## Execution -/

abbrev ReplayKey := ReplayLedger.Key Bytes Bytes (Bytes × Bytes)

abbrev ReplayLedgers := ReplayLedger.Ledger Bytes Bytes (Bytes × Bytes) MutationResult

def replayKey (request : Request) : ReplayKey :=
  { operation := (service.command request).operationId
    owner := (service.command request).commandId
    content := ((service.command request).requestFingerprint, service.canonicalRequest request) }

structure ServiceState (Request : Type) where
  ledger : ReplayLedgers := {}
  running : List Request := []

/-- What happens at a service: a line is executed, or the callback of a request returns or throws. -/
inductive ServiceStep (Request : Type) where
  | execute (option : Bytes)
  | callbackReturned (request : Request) (outcome : Option MutationResult)
  deriving DecidableEq

inductive ServiceAnswer (Request : Type) where
  | replied (reply : NativeReply Request)
  /-- The callback is called; the reply waits for it. -/
  | called (request : Request)
  | finished (request : Request) (outcome : Option MutationResult) (reply : NativeReply Request)
  /-- No callback of the request is running. -/
  | nothing
  deriving DecidableEq

def execute (state : ServiceState Request) (option : Bytes) :
    ServiceState Request × ServiceAnswer Request :=
  match service.parseExecute option with
  | none => (state, .replied (.generic malformedReplyCode (text "execute-malformed")))
  | some request =>
    if currentFence service setup request = false then
      (state, .replied (.typed staleReplyCode request .rejectedWithoutEffect .stale
        (evidenceFor service (text "stale") request)))
    else if setup.executionConfigured = false then
      (state, .replied (.typed disabledReplyCode request .rejectedWithoutEffect .disabled
        (evidenceFor service (text "disabled") request)))
    else
      match ReplayLedger.reserve setup.maximumReplayEntries state.ledger
          (replayKey service request) with
      | (.conflict, _) =>
        (state, .replied (.typed replayConflictReplyCode request .rejectedWithoutEffect
          .replayConflict (evidenceFor service (text "replay-conflict") request)))
      | (.full, _) =>
        (state, .replied (.typed replayLedgerFullReplyCode request .rejectedWithoutEffect
          .ledgerFull (evidenceFor service (text "ledger-full") request)))
      | (.inProgress, _) =>
        (state, .replied (.typed outcomeUnknownReplyCode request .outcomeUnknown .inProgress
          (evidenceFor service (text "in-progress") request)))
      | (.finished result, _) => (state, .replied (mutationReply request result))
      | (.reserved, ledger) =>
        ({ ledger, running := state.running ++ [request] }, .called request)

variable [DecidableEq Request]

def callbackReturned (state : ServiceState Request) (request : Request)
    (outcome : Option MutationResult) : ServiceState Request × ServiceAnswer Request :=
  if request ∈ state.running then
    ({ ledger := ReplayLedger.record service.rechecksEntry (replayKey service request)
         (normalizedCallbackResult service request outcome) state.ledger
       running := state.running.erase request },
      .finished request outcome
        (mutationReply request (normalizedCallbackResult service request outcome)))
  else (state, .nothing)

def serviceStep (state : ServiceState Request) :
    ServiceStep Request → ServiceState Request × ServiceAnswer Request
  | .execute option => execute service setup state option
  | .callbackReturned request outcome => callbackReturned service state request outcome

end Service

/-! ## The four services -/

def createService : NativeService SuiteBridgeNativeTimerCreateRequest where
  parseExecute := NativeTimerCreate.parseExecute
  command := (·.toSuiteBridgeNativeRequest)
  canonicalRequest := NativeTimerCreate.canonicalRequest
  operation := fun _ => NativeTimerCreate.operation
  schema := text "1"
  authorityDomain := text "vdr.timer"
  providerId := text "suitebridge:local"
  capabilityRevision := 1
  evidenceTag := text "ntcreate"
  resultProtocol := text "vdr-suite-ntcreate-result/1"
  rejectedProtocol := text "vdr-suite-ntcreate-rejected/1"
  rechecksEntry := true

def deleteService : NativeService SuiteBridgeNativeTimerDeleteRequest where
  parseExecute := NativeTimerDelete.parseExecute
  command := (·.toSuiteBridgeNativeRequest)
  canonicalRequest := NativeTimerDelete.canonicalRequest
  operation := fun _ => NativeTimerDelete.operation
  schema := text "1"
  authorityDomain := text "vdr.timer"
  providerId := text "suitebridge:local"
  capabilityRevision := 1
  evidenceTag := text "ntdel"
  resultProtocol := text "vdr-suite-ntdel-result/1"
  rejectedProtocol := text "vdr-suite-ntdel-rejected/1"
  rechecksEntry := true

def modifyService : NativeService SuiteBridgeNativeTimerModifyRequest where
  parseExecute := NativeTimerModify.parseExecute
  command := (·.toSuiteBridgeNativeRequest)
  canonicalRequest := NativeTimerModify.canonicalRequest
  operation := fun request => NativeTimerModify.operation request.kind
  schema := text "1"
  authorityDomain := text "vdr.timer"
  providerId := text "suitebridge:local"
  capabilityRevision := 1
  evidenceTag := text "ntmod"
  resultProtocol := text "vdr-suite-ntmod-result/1"
  rejectedProtocol := text "vdr-suite-ntmod-rejected/1"
  rechecksEntry := false

def marksService : NativeService SuiteBridgeRecordingMarksModifyRequest where
  parseExecute := RecordingMarksModify.parseExecute
  command := (·.toSuiteBridgeNativeRequest)
  canonicalRequest := RecordingMarksModify.canonicalRequest
  operation := fun _ => RecordingMarksModify.operation
  schema := text "2"
  authorityDomain := text "vdr.recording.marks"
  providerId := text "suitebridge:recording-marks"
  capabilityRevision := 2
  evidenceTag := text "nmarks"
  resultProtocol := text "vdr-suite-nmarks-result/2"
  rejectedProtocol := text "vdr-suite-nmarks-rejected/2"
  rechecksEntry := false

end VdrSuite.Plugin
