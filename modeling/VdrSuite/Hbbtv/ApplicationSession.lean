import VdrSuite.Agent.LocalProvider
import VdrSuite.Library.Interleaving
import VdrSuite.Library.Table

/-! HbbTV application sessions: the calls of the service, each of which works on a copy of a session
and stores the whole copy back, and their interleavings. -/

set_option autoImplicit false

namespace VdrSuite.Hbbtv

open Library
open Agent (safeIdentifier)

/-! ## Applications and sessions -/

structure BroadcastApplicationProviderEvidence where
  providerId : Bytes := []
  providerSchemaVersion : Nat := 0
  capabilityRevision : Nat := 0
  observedAt : Nat := 0
  deriving DecidableEq

structure BroadcastApplicationRef where
  backendId : Bytes := []
  backendGeneration : Nat := 0
  channelId : Bytes := []
  provider : BroadcastApplicationProviderEvidence := {}
  applicationId : Nat := 0
  descriptorRevision : Nat := 0
  deriving DecidableEq

/-- What the service reads of a discovery: of each application that is found, its reference. -/
structure BroadcastApplicationDiscoverySnapshot where
  backendId : Bytes := []
  backendGeneration : Nat := 0
  payloadValid : Bool := false
  result : Bytes := []
  channelId : Bytes := []
  applications : List BroadcastApplicationRef := []
  deriving DecidableEq

inductive BroadcastApplicationSessionState
  | requested
  | starting
  | active
  | degraded
  | suspended
  | closing
  | closed
  | expired
  | failed
  deriving DecidableEq

structure BroadcastApplicationRuntimeCapabilityProfile where
  status : Bool := true
  close : Bool := true
  inputActions : List Bytes := []
  deriving DecidableEq

structure BroadcastApplicationSession where
  broadcastApplicationSessionId : Bytes := []
  actorId : Bytes := []
  clientContext : Bytes := []
  backendId : Bytes := []
  backendGeneration : Nat := 0
  application : BroadcastApplicationRef := {}
  applicationDescriptorRevision : Nat := 0
  state : BroadcastApplicationSessionState := .requested
  createdAt : Int := 0
  expiresAt : Int := 0
  runtimeCapabilityProfile : BroadcastApplicationRuntimeCapabilityProfile := {}
  closeReason : Bytes := []
  correlationContext : Bytes := []
  deriving DecidableEq

inductive SuiteBridgeHbbtvRuntimeOperation
  | launch
  | status
  | input
  | close
  deriving DecidableEq

inductive SuiteBridgeHbbtvInputAction
  | none
  | up
  | down
  | left
  | right
  | ok
  | back
  | red
  | green
  | yellow
  | blue
  | digit (value : Fin 10)
  | play
  | pause
  | stop
  | fastForward
  | rewind
  deriving DecidableEq

structure SuiteBridgeHbbtvRuntimeRequest where
  operation : SuiteBridgeHbbtvRuntimeOperation := .status
  sessionId : Bytes := []
  channelId : Bytes := []
  applicationId : Nat := 0
  descriptorRevision : Nat := 0
  inputAction : SuiteBridgeHbbtvInputAction := .none
  deriving DecidableEq

structure SuiteBridgeHbbtvRuntimeResolution where
  payloadValid : Bool := false
  error : Bytes := []
  result : Bytes := []
  resultCode : Nat := 0
  stateCode : Nat := 0
  deriving DecidableEq

structure BroadcastApplicationLaunchRequest where
  actorId : Bytes := []
  clientContext : Bytes := []
  correlationContext : Bytes := []
  application : BroadcastApplicationRef := {}
  lifetimeSeconds : Int := 3600
  deriving DecidableEq

structure BroadcastApplicationSessionResult where
  accepted : Bool := false
  error : Bytes := []
  session : BroadcastApplicationSession := {}
  deriving DecidableEq

def reject (error : Bytes) : BroadcastApplicationSessionResult := { error := error }

def runtimeCapabilities : BroadcastApplicationRuntimeCapabilityProfile :=
  { inputActions :=
      [text "up", text "down", text "left", text "right", text "ok", text "back",
        text "red", text "green", text "yellow", text "blue",
        text "0", text "1", text "2", text "3", text "4", text "5", text "6", text "7", text "8",
        text "9", text "play", text "pause", text "stop", text "fast_forward", text "rewind"] }

def sameApplication (expected current : BroadcastApplicationRef) : Bool :=
  current.backendId == expected.backendId &&
  current.backendGeneration == expected.backendGeneration &&
  current.channelId == expected.channelId &&
  current.provider.providerId == expected.provider.providerId &&
  current.provider.providerSchemaVersion == expected.provider.providerSchemaVersion &&
  current.provider.capabilityRevision == expected.provider.capabilityRevision &&
  current.applicationId == expected.applicationId &&
  current.descriptorRevision == expected.descriptorRevision

def validApplicationRef (application : BroadcastApplicationRef) : Bool :=
  safeIdentifier application.backendId &&
  application.backendGeneration != 0 &&
  safeIdentifier application.channelId &&
  application.provider.providerId == text "vdr-plugin-web" &&
  application.provider.providerSchemaVersion == 1 &&
  application.provider.capabilityRevision != 0 &&
  application.applicationId != 0 &&
  application.descriptorRevision != 0 &&
  application.provider.capabilityRevision == application.descriptorRevision

def validLaunchRequest (request : BroadcastApplicationLaunchRequest) : Bool :=
  safeIdentifier request.actorId && safeIdentifier request.clientContext &&
  safeIdentifier request.correlationContext && validApplicationRef request.application &&
  decide (60 ≤ request.lifetimeSeconds) && decide (request.lifetimeSeconds ≤ 21600)

def terminal : BroadcastApplicationSessionState → Bool
  | .closed | .expired | .failed => true
  | _ => false

def applyRuntimeState (state : BroadcastApplicationSessionState) (stateCode : Nat) :
    BroadcastApplicationSessionState :=
  match stateCode with
  | 1 => .starting
  | 2 => .active
  | 3 => .closing
  | 4 => .failed
  | _ => state

def runtimeRequest (session : BroadcastApplicationSession)
    (operation : SuiteBridgeHbbtvRuntimeOperation) : SuiteBridgeHbbtvRuntimeRequest :=
  { operation := operation
    sessionId := session.broadcastApplicationSessionId
    channelId := session.application.channelId
    applicationId := session.application.applicationId
    descriptorRevision := session.application.descriptorRevision }

def owns (session : BroadcastApplicationSession) (actorId clientContext : Bytes) : Bool :=
  session.actorId == actorId && session.clientContext == clientContext

def currentIn (application : BroadcastApplicationRef)
    (snapshot : BroadcastApplicationDiscoverySnapshot) : Bool :=
  snapshot.payloadValid &&
  snapshot.backendId == application.backendId &&
  snapshot.backendGeneration == application.backendGeneration &&
  snapshot.channelId == application.channelId &&
  snapshot.result == text "ok" &&
  snapshot.applications.any (sameApplication application)

/-! ## What a call does outside itself -/

inductive SessionCall
  | launch (request : BroadcastApplicationLaunchRequest)
  | refresh (sessionId actorId clientContext : Bytes)
  | authorizePresentation (sessionId actorId clientContext : Bytes)
  | input (sessionId actorId clientContext : Bytes) (action : SuiteBridgeHbbtvInputAction)
  | close (sessionId actorId clientContext reason : Bytes)
  deriving DecidableEq

/-- The atomic steps: a thread enters a call, asks one of the services around it, or holds the mutex
once to find, emplace or store a session. -/
inductive SessionEffect
  | enter (call : SessionCall)
  | now
  | authorized (permission actorId backendId : Bytes)
  | discoverApplications (backendId channelId : Bytes)
  | newSessionId
  | runtimeFor (backendId : Bytes)
  | control (request : SuiteBridgeHbbtvRuntimeRequest)
  | find (sessionId : Bytes)
  | emplace (session : BroadcastApplicationSession)
  | store (session : BroadcastApplicationSession)
  deriving DecidableEq

def SessionReply : SessionEffect → Type
  | .enter _ | .store _ => Unit
  | .now => Int
  | .authorized _ _ _ | .runtimeFor _ | .emplace _ => Bool
  | .discoverApplications _ _ => BroadcastApplicationDiscoverySnapshot
  | .newSessionId => Bytes
  | .control _ => SuiteBridgeHbbtvRuntimeResolution
  | .find _ => Option BroadcastApplicationSession

abbrev Serving (Result : Type) : Type := Program SessionEffect SessionReply Result

namespace Serving

def enter (call : SessionCall) : Serving Unit := Program.request (SessionEffect.enter call)

def now : Serving Int := Program.request SessionEffect.now

def authorized (permission : Bytes) (session : BroadcastApplicationSession) : Serving Bool :=
  Program.request (SessionEffect.authorized permission session.actorId session.backendId)

def discoverApplications (backendId channelId : Bytes) :
    Serving BroadcastApplicationDiscoverySnapshot :=
  Program.request (SessionEffect.discoverApplications backendId channelId)

def newSessionId : Serving Bytes := Program.request SessionEffect.newSessionId

def runtimeFor (session : BroadcastApplicationSession) : Serving Bool :=
  Program.request (SessionEffect.runtimeFor session.backendId)

def control (request : SuiteBridgeHbbtvRuntimeRequest) : Serving SuiteBridgeHbbtvRuntimeResolution :=
  Program.request (SessionEffect.control request)

def find (sessionId : Bytes) : Serving (Option BroadcastApplicationSession) :=
  Program.request (SessionEffect.find sessionId)

def emplace (session : BroadcastApplicationSession) : Serving Bool :=
  Program.request (SessionEffect.emplace session)

def store (session : BroadcastApplicationSession) : Serving Unit :=
  Program.request (SessionEffect.store session)

end Serving

/-! ## The calls -/

def applicationCurrent (application : BroadcastApplicationRef) : Serving Bool := do
  let snapshot ← Serving.discoverApplications application.backendId application.channelId
  pure (currentIn application snapshot)

def storeFailing (session : BroadcastApplicationSession) (error : Bytes) :
    Serving BroadcastApplicationSessionResult := do
  Serving.store session
  pure { error := error, session := session }

def storeAccepting (session : BroadcastApplicationSession) :
    Serving BroadcastApplicationSessionResult := do
  Serving.store session
  pure { accepted := true, session := session }

def expireSession (session : BroadcastApplicationSession) :
    Serving BroadcastApplicationSessionResult :=
  storeFailing { session with state := .expired, closeReason := text "expired" }
    (text "hbbtv_session_expired")

def staleState (closeResult : SuiteBridgeHbbtvRuntimeResolution) : BroadcastApplicationSessionState :=
  if closeResult.payloadValid = true ∧ closeResult.resultCode = 6 then .closed
  else if closeResult.payloadValid = true ∧
      (closeResult.resultCode = 0 ∨ closeResult.resultCode = 1) ∧ closeResult.stateCode = 3 then
    .closing
  else .suspended

def closeStaleSession (session : BroadcastApplicationSession) (error reason : Bytes) :
    Serving BroadcastApplicationSessionResult := do
  let runtime ← Serving.runtimeFor session
  if runtime = false then
    storeFailing { session with state := .suspended, closeReason := reason } error
  else
    let closeResult ← Serving.control (runtimeRequest session .close)
    storeFailing { session with state := staleState closeResult, closeReason := reason } error

def requestedSession (request : BroadcastApplicationLaunchRequest) (createdAt : Int) :
    BroadcastApplicationSession :=
  { actorId := request.actorId
    clientContext := request.clientContext
    backendId := request.application.backendId
    backendGeneration := request.application.backendGeneration
    application := request.application
    applicationDescriptorRevision := request.application.descriptorRevision
    state := .requested
    createdAt := createdAt
    expiresAt := createdAt + request.lifetimeSeconds
    runtimeCapabilityProfile := runtimeCapabilities
    correlationContext := request.correlationContext }

def launchSession (session : BroadcastApplicationSession) :
    Serving BroadcastApplicationSessionResult := do
  let runtime ← Serving.runtimeFor session
  if runtime = false then
    storeFailing
      { session with state := .failed, closeReason := text "hbbtv_runtime_unavailable" }
      (text "hbbtv_runtime_unavailable")
  else
    let runtimeResult ← Serving.control (runtimeRequest session .launch)
    if runtimeResult.payloadValid = false then
      let closeReason :=
        if runtimeResult.error.isEmpty then text "hbbtv_runtime_launch_failed"
        else runtimeResult.error
      storeFailing { session with state := .failed, closeReason := closeReason } closeReason
    else if (runtimeResult.resultCode ≠ 0 ∧ runtimeResult.resultCode ≠ 1) ∨
        (runtimeResult.stateCode ≠ 1 ∧ runtimeResult.stateCode ≠ 2) then
      let closeReason := text "hbbtv_runtime_" ++ runtimeResult.result
      storeFailing { session with state := .failed, closeReason := closeReason } closeReason
    else
      storeAccepting
        { session with state := applyRuntimeState session.state runtimeResult.stateCode }

def launch (request : BroadcastApplicationLaunchRequest) :
    Serving BroadcastApplicationSessionResult :=
  if validLaunchRequest request = false then pure (reject (text "hbbtv_session_request_invalid"))
  else do
    let createdAt ← Serving.now
    let session := requestedSession request createdAt
    let authorized ← Serving.authorized (text "broadcast.hbbtv.launch") session
    if authorized = false then pure (reject (text "hbbtv_launch_not_authorized"))
    else
      let current ← applicationCurrent request.application
      if current = false then pure (reject (text "hbbtv_application_context_stale"))
      else
        let sessionId ← Serving.newSessionId
        if safeIdentifier sessionId = false then
          pure (reject (text "hbbtv_session_id_unavailable"))
        else
          let session := { session with broadcastApplicationSessionId := sessionId }
          let emplaced ← Serving.emplace session
          if emplaced = false then pure (reject (text "hbbtv_session_id_collision"))
          else launchSession session

def ownedSession (sessionId actorId clientContext permission unauthorized : Bytes)
    (rest : BroadcastApplicationSession → Serving BroadcastApplicationSessionResult) :
    Serving BroadcastApplicationSessionResult := do
  let stored ← Serving.find sessionId
  match stored with
  | none => pure (reject (text "hbbtv_session_not_found"))
  | some session =>
    if owns session actorId clientContext = false then
      pure (reject (text "hbbtv_session_owner_mismatch"))
    else
      let authorized ← Serving.authorized permission session
      if authorized = false then pure (reject unauthorized)
      else rest session

def refreshStatus (session : BroadcastApplicationSession) :
    Serving BroadcastApplicationSessionResult := do
  let runtime ← Serving.runtimeFor session
  if runtime = false then pure (reject (text "hbbtv_runtime_unavailable"))
  else
    let runtimeResult ← Serving.control (runtimeRequest session .status)
    if runtimeResult.payloadValid = false then pure (reject runtimeResult.error)
    else if runtimeResult.resultCode = 6 ∧ session.state = .closing then
      storeAccepting
        { session with
          state := .closed
          closeReason :=
            if session.closeReason.isEmpty then text "closed" else session.closeReason }
    else if runtimeResult.resultCode ≠ 0 then
      storeFailing { session with state := .degraded } (text "hbbtv_runtime_" ++ runtimeResult.result)
    else
      storeAccepting
        { session with state := applyRuntimeState session.state runtimeResult.stateCode }

def refresh (sessionId actorId clientContext : Bytes) : Serving BroadcastApplicationSessionResult :=
  ownedSession sessionId actorId clientContext (text "broadcast.session.manage_own")
    (text "hbbtv_session_manage_not_authorized") fun session =>
      if terminal session.state = true then
        pure
          { accepted := session.state == .closed
            error := if session.state = .closed then [] else text "hbbtv_session_not_active"
            session := session }
      else do
        let now ← Serving.now
        if session.expiresAt ≤ now then expireSession session
        else if session.state = .closing then refreshStatus session
        else
          let current ← applicationCurrent session.application
          if current = false then
            closeStaleSession session (text "hbbtv_application_context_stale")
              (text "application_context_stale")
          else refreshStatus session

def authorizePresentation (sessionId actorId clientContext : Bytes) :
    Serving BroadcastApplicationSessionResult :=
  ownedSession sessionId actorId clientContext (text "broadcast.session.manage_own")
    (text "hbbtv_session_manage_not_authorized") fun session => do
      let now ← Serving.now
      if session.expiresAt ≤ now then expireSession session
      else if session.state ≠ .starting ∧ session.state ≠ .active ∧ session.state ≠ .degraded then
        pure (reject (text "hbbtv_session_not_active"))
      else
        let current ← applicationCurrent session.application
        if current = false then
          closeStaleSession session (text "hbbtv_application_context_stale")
            (text "application_context_stale")
        else pure { accepted := true, session := session }

def input (sessionId actorId clientContext : Bytes) (action : SuiteBridgeHbbtvInputAction) :
    Serving BroadcastApplicationSessionResult :=
  ownedSession sessionId actorId clientContext (text "broadcast.hbbtv.input")
    (text "hbbtv_input_not_authorized") fun session => do
      let now ← Serving.now
      if session.expiresAt ≤ now then expireSession session
      else if session.state ≠ .active then pure (reject (text "hbbtv_session_not_active"))
      else if action = .none then pure (reject (text "hbbtv_input_action_invalid"))
      else
        let current ← applicationCurrent session.application
        if current = false then
          closeStaleSession session (text "hbbtv_application_context_stale")
            (text "application_context_stale")
        else
          let runtime ← Serving.runtimeFor session
          if runtime = false then pure (reject (text "hbbtv_runtime_unavailable"))
          else
            let runtimeResult ← Serving.control
              { runtimeRequest session .input with inputAction := action }
            if runtimeResult.payloadValid = false then pure (reject runtimeResult.error)
            else if runtimeResult.resultCode = 3 then
              closeStaleSession session (text "hbbtv_runtime_discovery_stale")
                (text "discovery_stale")
            else if runtimeResult.resultCode ≠ 0 ∨ runtimeResult.stateCode ≠ 2 then
              pure
                { error := text "hbbtv_runtime_" ++ runtimeResult.result
                  session := session }
            else storeAccepting { session with state := .active }

/-- Neither the clock nor any state but `Closed` is looked at before the runtime is asked. -/
def close (sessionId actorId clientContext reason : Bytes) :
    Serving BroadcastApplicationSessionResult :=
  ownedSession sessionId actorId clientContext (text "broadcast.session.manage_own")
    (text "hbbtv_session_manage_not_authorized") fun session =>
      if safeIdentifier reason = false then pure (reject (text "hbbtv_close_reason_invalid"))
      else if session.state = .closed then pure { accepted := true, session := session }
      else do
        let runtime ← Serving.runtimeFor session
        if runtime = false then pure (reject (text "hbbtv_runtime_unavailable"))
        else
          let runtimeResult ← Serving.control (runtimeRequest session .close)
          if runtimeResult.payloadValid = false then pure (reject runtimeResult.error)
          else if runtimeResult.resultCode = 6 then
            storeAccepting { session with state := .closed, closeReason := reason }
          else if (runtimeResult.resultCode ≠ 0 ∧ runtimeResult.resultCode ≠ 1) ∨
              runtimeResult.stateCode ≠ 3 then
            pure
              { error := text "hbbtv_runtime_" ++ runtimeResult.result
                session := session }
          else storeAccepting { session with state := .closing, closeReason := reason }

def serve (call : SessionCall) : Serving BroadcastApplicationSessionResult := do
  Serving.enter call
  match call with
  | .launch request => launch request
  | .refresh sessionId actorId clientContext => refresh sessionId actorId clientContext
  | .authorizePresentation sessionId actorId clientContext =>
    authorizePresentation sessionId actorId clientContext
  | .input sessionId actorId clientContext action => input sessionId actorId clientContext action
  | .close sessionId actorId clientContext reason => close sessionId actorId clientContext reason

/-! ## Threads side by side -/

abbrev SessionTable : Type := List BroadcastApplicationSession

structure SessionStore where
  sessions : SessionTable := []
  clock : Int

def SessionStore.session (store : SessionStore) (sessionId : Bytes) :
    Option BroadcastApplicationSession :=
  Table.lookup BroadcastApplicationSession.broadcastApplicationSessionId sessionId store.sessions

abbrev Answers : Type := (effect : SessionEffect) → SessionReply effect

def perform (answers : Answers) : (effect : SessionEffect) → SessionStore →
    SessionReply effect × SessionStore
  | .enter _, store => ((), store)
  | .now, store => (store.clock, store)
  | .find sessionId, store => (store.session sessionId, store)
  | .emplace session, store =>
    if (store.session session.broadcastApplicationSessionId).isSome then (false, store)
    else (true, { store with sessions := store.sessions ++ [session] })
  | .store session, store =>
    ((), { store with
      sessions := Table.upsert BroadcastApplicationSession.broadcastApplicationSessionId session
        store.sessions })
  | .authorized permission actorId backendId, store =>
    (answers (.authorized permission actorId backendId), store)
  | .discoverApplications backendId channelId, store =>
    (answers (.discoverApplications backendId channelId), store)
  | .newSessionId, store => (answers .newSessionId, store)
  | .runtimeFor backendId, store => (answers (.runtimeFor backendId), store)
  | .control request, store => (answers (.control request), store)

/-- A thread calls the service, a thread goes on with its next step, or time passes. -/
inductive SessionMove
  | call (call : SessionCall)
  | advance (thread : Nat) (answers : Answers)
  | pass (seconds : Nat)

abbrev SessionSystem : Type :=
  Interleaving.System SessionEffect SessionReply BroadcastApplicationSessionResult SessionStore

def passTime (seconds : Nat) (store : SessionStore) : SessionStore :=
  { store with clock := store.clock + seconds }

def SessionMove.toMove : SessionMove →
    Interleaving.Move SessionEffect SessionReply BroadcastApplicationSessionResult Answers Nat
  | .call entered => .start (serve entered)
  | .advance thread answers => .advance thread answers
  | .pass seconds => .change seconds

def sessionStep (system : SessionSystem) (move : SessionMove) :
    SessionSystem × Option (Interleaving.Event SessionReply) :=
  Interleaving.machine perform passTime SessionMove.toMove system move

def started (clock : Int) : SessionSystem := { state := { clock := clock } }

end VdrSuite.Hbbtv
