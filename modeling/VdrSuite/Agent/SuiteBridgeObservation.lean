import VdrSuite.Library.Bytes

/-! The observation of the suite bridge: its baseline tracker, and the service that schedules the
attempts and classifies how fresh the last baseline is. -/

set_option autoImplicit false

namespace VdrSuite.Agent.SuiteBridge

open Library

/-! ## Handshakes -/

inductive SuiteBridgeCapabilityState where
  | available
  | disabled
  | unavailable
  | unknown
  deriving DecidableEq

structure SuiteBridgeCapabilityObservation where
  id : Bytes
  state : SuiteBridgeCapabilityState := .unknown
  rawState : Bytes
  deriving DecidableEq

structure SuiteBridgeDiscovery where
  discoverySchema : Nat := 0
  pluginName : Bytes := []
  pluginVersion : Bytes := []
  capabilitySchema : Nat := 0
  snapshotSchema : Nat := 0
  localContractSchema : Nat := 0
  capabilities : List SuiteBridgeCapabilityObservation := []
  deriving DecidableEq

structure SuiteBridgeSnapshotBaseline where
  contractSchema : Nat := 0
  capabilitySchema : Nat := 0
  snapshotSchema : Nat := 0
  active : Bool := false
  total : Nat := 0
  channelSwitch : Nat := 0
  recording : Nat := 0
  recordingList : Nat := 0
  replaying : Nat := 0
  timerChange : Nat := 0
  marksModified : Nat := 0
  counterEpoch : Bytes := []
  counterOverflow : Bool := false
  deriving DecidableEq

inductive SuiteBridgeHandshakeStatus where
  | compatible
  | ready
  | notConfigured
  | pluginMissing
  | legacyOrUnknown
  | discoveryTransportError
  | discoveryReplyRejected
  | discoveryPayloadTooLarge
  | invalidDiscoveryPayload
  | unexpectedPlugin
  | incompatibleDiscoverySchema
  | incompatibleCapabilitySchema
  | incompatibleSnapshotSchema
  | incompatibleLocalContractSchema
  | requiredCapabilityUnavailable
  | snapshotTransportError
  | snapshotReplyRejected
  | snapshotPayloadTooLarge
  | invalidSnapshotPayload
  | snapshotInactive
  deriving DecidableEq

structure SuiteBridgeHandshakeResult where
  status : SuiteBridgeHandshakeStatus := .legacyOrUnknown
  diagnostic : Bytes := []
  discovery : SuiteBridgeDiscovery := {}
  baseline : SuiteBridgeSnapshotBaseline := {}
  deriving DecidableEq

structure SuiteBridgeHandshake where
  discover : SuiteBridgeHandshakeResult
  readSnapshot : SuiteBridgeDiscovery → SuiteBridgeHandshakeResult

/-! ## Baselines -/

def SuiteBridgeSnapshotBaseline.countersAtLeast (next previous : SuiteBridgeSnapshotBaseline) :
    Bool :=
  previous.total ≤ next.total && previous.channelSwitch ≤ next.channelSwitch &&
  previous.recording ≤ next.recording && previous.recordingList ≤ next.recordingList &&
  previous.replaying ≤ next.replaying && previous.timerChange ≤ next.timerChange &&
  previous.marksModified ≤ next.marksModified

def SuiteBridgeSnapshotBaseline.canCalculateDeltaFrom
    (next previous : SuiteBridgeSnapshotBaseline) : Bool :=
  next.active && previous.active && !next.counterOverflow && !previous.counterOverflow &&
  !next.counterEpoch.isEmpty && next.counterEpoch == previous.counterEpoch &&
  next.countersAtLeast previous

inductive SuiteBridgeBaselineUpdate where
  | adoptedInitial
  | updatedComparable
  | replacedEpochChanged
  | replacedOverflowed
  | rejectedCounterRegression
  deriving DecidableEq

structure SuiteBridgeBaselineTracker where
  hasBaseline : Bool := false
  deltaAvailable : Bool := false
  baseline : SuiteBridgeSnapshotBaseline := {}
  deriving DecidableEq

def SuiteBridgeBaselineTracker.apply (tracker : SuiteBridgeBaselineTracker)
    (next : SuiteBridgeSnapshotBaseline) :
    SuiteBridgeBaselineTracker × SuiteBridgeBaselineUpdate :=
  let replaced : SuiteBridgeBaselineTracker :=
    { hasBaseline := true, deltaAvailable := false, baseline := next }
  if tracker.hasBaseline = false then (replaced, .adoptedInitial)
  else if next.counterEpoch ≠ tracker.baseline.counterEpoch then (replaced, .replacedEpochChanged)
  else if next.counterOverflow || tracker.baseline.counterOverflow then
    (replaced, .replacedOverflowed)
  else if next.countersAtLeast tracker.baseline = false then
    ({ tracker with deltaAvailable := false }, .rejectedCounterRegression)
  else
    ({ hasBaseline := true
       deltaAvailable := next.canCalculateDeltaFrom tracker.baseline
       baseline := next }, .updatedComparable)

/-! ## The service

Times are those of the steady clock, in nanoseconds. -/

inductive SuiteBridgeObservationState where
  | notConfigured
  | connecting
  | pluginMissing
  | legacyOrUnknown
  | incompatible
  | compatible
  | snapshotCurrent
  | snapshotStale
  | transportDegraded
  | overflowed
  | offline
  deriving DecidableEq

/-- Milliseconds, as `std::chrono` counts them. -/
structure SuiteBridgeObservationConfig where
  pollInterval : Int64 := 5000
  staleAfter : Int64 := 15000
  offlineAfter : Int64 := 60000
  reconnectInitial : Int64 := 1000
  reconnectMaximum : Int64 := 30000
  deriving DecidableEq

structure SuiteBridgeSnapshotDelta where
  total : Nat := 0
  channelSwitch : Nat := 0
  recording : Nat := 0
  recordingList : Nat := 0
  replaying : Nat := 0
  timerChange : Nat := 0
  marksModified : Nat := 0
  deriving DecidableEq

structure SuiteBridgeObservationSnapshot where
  state : SuiteBridgeObservationState := .notConfigured
  diagnostic : Bytes := []
  started : Bool := false
  hasDiscovery : Bool := false
  discovery : SuiteBridgeDiscovery := {}
  hasBaseline : Bool := false
  baseline : SuiteBridgeSnapshotBaseline := {}
  hasDelta : Bool := false
  delta : SuiteBridgeSnapshotDelta := {}
  consecutiveFailures : Nat := 0
  lastAttemptAt : Option Int := none
  lastSuccessAt : Option Int := none
  lastStateChangeAt : Option Int := none
  nextAttemptAt : Option Int := none
  mutationsEnabled : Bool := false
  deriving DecidableEq

structure SuiteBridgeObservationService where
  config : SuiteBridgeObservationConfig
  baselineTracker : SuiteBridgeBaselineTracker := {}
  snapshot : SuiteBridgeObservationSnapshot := {}
  rediscoveryRequired : Bool := true
  deriving DecidableEq

def positive (value : Int64) : Bool := 0 < value.toInt

def SuiteBridgeObservationConfig.accepted (config : SuiteBridgeObservationConfig) : Bool :=
  positive config.pollInterval && positive config.staleAfter && positive config.offlineAfter &&
  positive config.reconnectInitial && positive config.reconnectMaximum &&
  decide (config.pollInterval.toInt ≤ config.staleAfter.toInt) &&
  decide (config.staleAfter.toInt < config.offlineAfter.toInt) &&
  decide (config.reconnectInitial.toInt ≤ config.reconnectMaximum.toInt)

def nanoseconds (milliseconds : Int) : Int := milliseconds * 1000000

namespace SuiteBridgeObservationService

variable (service : SuiteBridgeObservationService)

def setState (state : SuiteBridgeObservationState) (now : Int) :
    SuiteBridgeObservationService :=
  if service.snapshot.state = state then service
  else
    { service with snapshot := { service.snapshot with state, lastStateChangeAt := some now } }

def start (now : Int) : SuiteBridgeObservationService :=
  if service.snapshot.started then service
  else
    { service with
      snapshot :=
        { service.snapshot with
          started := true
          consecutiveFailures := 0
          diagnostic := []
          nextAttemptAt := some now
          mutationsEnabled := false }
      rediscoveryRequired := true }
    |>.setState .connecting now

def stop (now : Int) : SuiteBridgeObservationService :=
  if service.snapshot.started = false then service
  else
    { service with
      snapshot :=
        { service.snapshot with
          started := false
          nextAttemptAt := none
          diagnostic := text "suite bridge observation stopped"
          mutationsEnabled := false }
      rediscoveryRequired := true }
    |>.setState .offline now

def updateFreshness (now : Int) : SuiteBridgeObservationService :=
  match service.snapshot.lastSuccessAt with
  | none => service
  | some lastSuccessAt =>
    if service.snapshot.hasBaseline = false then service
    else
      let age := (now - lastSuccessAt).tdiv 1000000
      if service.config.offlineAfter.toInt ≤ age then service.setState .offline now
      else if service.config.staleAfter.toInt ≤ age then service.setState .snapshotStale now
      else if 0 < service.snapshot.consecutiveFailures then
        service.setState .transportDegraded now
      else if service.snapshot.baseline.counterOverflow then service.setState .overflowed now
      else service.setState .snapshotCurrent now

def refresh (now : Int) : SuiteBridgeObservationService :=
  if service.snapshot.started = false then service else service.updateFreshness now

def reconnectDelayLoop (reconnectMaximum : Int) : Nat → Int → Int
  | 0, delay => delay
  | rounds + 1, delay =>
    if delay < reconnectMaximum then
      if reconnectMaximum.tdiv 2 < delay then reconnectMaximum
      else reconnectDelayLoop reconnectMaximum rounds (delay * 2)
    else delay

def reconnectDelay : Int :=
  min
    (reconnectDelayLoop service.config.reconnectMaximum.toInt
      (service.snapshot.consecutiveFailures - 1) service.config.reconnectInitial.toInt)
    service.config.reconnectMaximum.toInt

def scheduleReconnect (now : Int) : SuiteBridgeObservationService :=
  { service with
    snapshot :=
      { service.snapshot with
        nextAttemptAt := some (now + nanoseconds service.reconnectDelay) } }

end SuiteBridgeObservationService

def incompatibleStatus : SuiteBridgeHandshakeStatus → Bool
  | .discoveryReplyRejected | .discoveryPayloadTooLarge | .invalidDiscoveryPayload
  | .unexpectedPlugin | .incompatibleDiscoverySchema | .incompatibleCapabilitySchema
  | .incompatibleSnapshotSchema | .incompatibleLocalContractSchema
  | .requiredCapabilityUnavailable | .snapshotReplyRejected | .snapshotPayloadTooLarge
  | .invalidSnapshotPayload | .snapshotInactive => true
  | .compatible | .ready | .notConfigured | .pluginMissing | .legacyOrUnknown
  | .discoveryTransportError | .snapshotTransportError => false

def initialFailureState (status : SuiteBridgeHandshakeStatus) : SuiteBridgeObservationState :=
  if status = .notConfigured then .notConfigured
  else if status = .pluginMissing then .pluginMissing
  else if status = .legacyOrUnknown then .legacyOrUnknown
  else if incompatibleStatus status then .incompatible
  else .offline

def boundedDiagnostic (diagnostic : Bytes) : Bytes :=
  let bounded := diagnostic.map fun character =>
    if character = 13 ∨ character = 10 then 32 else character
  if bounded.length ≤ 256 then bounded else bounded.take 253 ++ text "..."

namespace SuiteBridgeObservationService

variable (service : SuiteBridgeObservationService)

/-- One more failure, of which an `unsigned int` counts so many. -/
def countFailure (consecutiveFailures : Nat) : Nat :=
  if consecutiveFailures < 4294967295 then consecutiveFailures + 1 else consecutiveFailures

def recordFailure (result : SuiteBridgeHandshakeResult) : SuiteBridgeObservationService :=
  { service with
    snapshot :=
      { service.snapshot with
        consecutiveFailures := countFailure service.snapshot.consecutiveFailures
        hasDelta := false
        delta := {}
        diagnostic := boundedDiagnostic result.diagnostic
        mutationsEnabled := false }
    rediscoveryRequired := true }

def handleFailure (result : SuiteBridgeHandshakeResult) (now : Int) :
    SuiteBridgeObservationService :=
  let failed := service.recordFailure result
  if result.status = .notConfigured then
    { failed with snapshot := { failed.snapshot with nextAttemptAt := none } }
    |>.setState .notConfigured now
  else
    let scheduled := failed.scheduleReconnect now
    if scheduled.snapshot.hasBaseline = true ∧ scheduled.snapshot.lastSuccessAt.isSome then
      scheduled.updateFreshness now
    else scheduled.setState (initialFailureState result.status) now

def deltaFrom (next previous : SuiteBridgeSnapshotBaseline) : SuiteBridgeSnapshotDelta :=
  { total := next.total - previous.total
    channelSwitch := next.channelSwitch - previous.channelSwitch
    recording := next.recording - previous.recording
    recordingList := next.recordingList - previous.recordingList
    replaying := next.replaying - previous.replaying
    timerChange := next.timerChange - previous.timerChange
    marksModified := next.marksModified - previous.marksModified }

def counterRegression : SuiteBridgeHandshakeResult :=
  { status := .invalidSnapshotPayload
    diagnostic := text "suite bridge counters regressed within one epoch" }

def acceptReadySnapshot (result : SuiteBridgeHandshakeResult) (now : Int) :
    SuiteBridgeObservationService :=
  let previous := service.baselineTracker
  let tracker := (previous.apply result.baseline).1
  let update : SuiteBridgeBaselineUpdate := (previous.apply result.baseline).2
  let applied := { service with baselineTracker := tracker }
  if update = .rejectedCounterRegression then applied.handleFailure counterRegression now
  else
    let comparable :=
      previous.hasBaseline && update == .updatedComparable && tracker.deltaAvailable
    let overflowed := update == .replacedOverflowed || tracker.baseline.counterOverflow
    let diagnostic :=
      if update = .replacedEpochChanged then
        text "suite bridge counter epoch changed; baseline replaced"
      else if overflowed then text "suite bridge counter continuity overflowed"
      else []
    { applied with
      snapshot :=
        { service.snapshot with
          hasDiscovery := true
          discovery := result.discovery
          hasBaseline := true
          baseline := tracker.baseline
          hasDelta := comparable
          delta := if comparable then deltaFrom tracker.baseline previous.baseline else {}
          lastSuccessAt := some now
          consecutiveFailures := 0
          nextAttemptAt := some (now + nanoseconds service.config.pollInterval.toInt)
          mutationsEnabled := false
          diagnostic }
      rediscoveryRequired := false }
    |>.setState (if overflowed then .overflowed else .snapshotCurrent) now

def attemptDue (now : Int) : Bool :=
  service.snapshot.started && service.snapshot.nextAttemptAt.any fun due => decide (due ≤ now)

def beginAttempt (now : Int) : SuiteBridgeObservationService :=
  { service with
    snapshot :=
      { service.snapshot with
        lastAttemptAt := some now
        diagnostic := []
        mutationsEnabled := false } }
  |>.setState .connecting now

def adoptDiscovery (discovery : SuiteBridgeHandshakeResult) (now : Int) :
    SuiteBridgeObservationService :=
  { service with
    snapshot :=
      { service.snapshot with hasDiscovery := true, discovery := discovery.discovery } }
  |>.setState .compatible now

def readAfterDiscovery (handshake : SuiteBridgeHandshake) (now : Int) :
    SuiteBridgeObservationService :=
  let result := handshake.readSnapshot service.snapshot.discovery
  if result.status ≠ .ready then service.handleFailure result now
  else service.acceptReadySnapshot result now

def attempt (handshake : SuiteBridgeHandshake) (now : Int) :
    SuiteBridgeObservationService :=
  if service.attemptDue now = false then service
  else
    let begun := service.beginAttempt now
    if service.rediscoveryRequired = true ∨ service.snapshot.hasDiscovery = false then
      if handshake.discover.status ≠ .compatible then begun.handleFailure handshake.discover now
      else (begun.adoptDiscovery handshake.discover now).readAfterDiscovery handshake now
    else begun.readAfterDiscovery handshake now

def earlier : Option Int → Int → Option Int
  | none, candidate => some candidate
  | some current, candidate => some (if candidate < current then candidate else current)

def nextWakeAt (now : Int) : Option Int :=
  if service.snapshot.started = false then none
  else
    match service.snapshot.lastSuccessAt with
    | none => service.snapshot.nextAttemptAt
    | some lastSuccessAt =>
      if service.snapshot.hasBaseline = false then service.snapshot.nextAttemptAt
      else
        let staleAt := lastSuccessAt + nanoseconds service.config.staleAfter.toInt
        let offlineAt := lastSuccessAt + nanoseconds service.config.offlineAfter.toInt
        if now < staleAt then earlier service.snapshot.nextAttemptAt staleAt
        else if now < offlineAt then earlier service.snapshot.nextAttemptAt offlineAt
        else service.snapshot.nextAttemptAt

end SuiteBridgeObservationService

/-! ## Runs -/

inductive ObservationCall where
  | start (now : Int)
  | stop (now : Int)
  | refresh (now : Int)
  | attempt (handshake : SuiteBridgeHandshake) (now : Int)

def ObservationCall.now : ObservationCall → Int
  | .start now | .stop now | .refresh now | .attempt _ now => now

inductive ObservationOutcome where
  | ignored
  | started
  | stopped
  | refreshed
  | failed (status : SuiteBridgeHandshakeStatus)
  | succeeded (baseline : SuiteBridgeSnapshotBaseline)
  deriving DecidableEq

def readOutcome (service : SuiteBridgeObservationService) (result : SuiteBridgeHandshakeResult) :
    ObservationOutcome :=
  if result.status ≠ .ready then .failed result.status
  else if (service.baselineTracker.apply result.baseline).2 = .rejectedCounterRegression then
    .failed .invalidSnapshotPayload
  else .succeeded result.baseline

def attemptOutcome (service : SuiteBridgeObservationService) (handshake : SuiteBridgeHandshake)
    (now : Int) : ObservationOutcome :=
  if service.attemptDue now = false then .ignored
  else if service.rediscoveryRequired = true ∨ service.snapshot.hasDiscovery = false then
    if handshake.discover.status ≠ .compatible then .failed handshake.discover.status
    else readOutcome service (handshake.readSnapshot handshake.discover.discovery)
  else readOutcome service (handshake.readSnapshot service.snapshot.discovery)

def observationStep (service : SuiteBridgeObservationService) (call : ObservationCall) :
    SuiteBridgeObservationService × ObservationOutcome :=
  match call with
  | .start now => (service.start now, if service.snapshot.started then .ignored else .started)
  | .stop now => (service.stop now, if service.snapshot.started then .stopped else .ignored)
  | .refresh now => (service.refresh now, if service.snapshot.started then .refreshed else .ignored)
  | .attempt handshake now => (service.attempt handshake now, attemptOutcome service handshake now)

end VdrSuite.Agent.SuiteBridge
