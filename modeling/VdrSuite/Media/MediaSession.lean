import VdrSuite.Agent.LocalProvider
import VdrSuite.Library.Run
import VdrSuite.Library.Table
import VdrSuite.Library.Transaction

/-! The SQLite repository of media sessions: a session's row, its route, the stream lease of the
route and the access grant, and the transactions that move the four together. Every text that is
bound has been checked to hold no NUL. -/

set_option autoImplicit false

namespace VdrSuite.Media

open Library Library.Transaction
open Agent (safeIdentifier)

/-- What `CURRENT_TIMESTAMP` yields; no reading of the clock is the empty text. -/
abbrev Timestamp : Type := { time : Bytes // time ≠ [] }

def isControl (byte : UInt8) : Bool := byte < 32 || byte == 127

def safePart (value : Bytes) (maximumLength : Nat) : Bool :=
  !value.isEmpty && value.length ≤ maximumLength && value.all fun byte => !isControl byte

def supportsSecretHash (secretHash : Bytes) : Bool :=
  (text "$6$rounds=10000$").isPrefixOf secretHash && secretHash.length ≤ 256 &&
    secretHash.all fun byte => !isControl byte

structure MediaSessionBundleRegistration where
  sessionId : Bytes := []
  actorId : Bytes := []
  backendId : Bytes := []
  resourceKind : Bytes := []
  resourceId : Bytes := []
  presentationProfileId : Bytes := []
  routeId : Bytes := []
  routeEpoch : Int := 1
  providerId : Bytes := []
  leaseId : Bytes := []
  workspaceId : Bytes := []
  grantId : Bytes := []
  secretHash : Bytes := []
  expiresAt : Bytes := []
  deriving DecidableEq

def validRegistration (value : MediaSessionBundleRegistration) : Bool :=
  safeIdentifier value.sessionId &&
  safeIdentifier value.actorId &&
  safeIdentifier value.backendId &&
  safeIdentifier value.resourceKind &&
  safePart value.resourceId 512 &&
  safeIdentifier value.presentationProfileId &&
  safeIdentifier value.routeId &&
  0 < value.routeEpoch &&
  safeIdentifier value.providerId &&
  safeIdentifier value.leaseId &&
  safeIdentifier value.workspaceId &&
  safeIdentifier value.grantId &&
  supportsSecretHash value.secretHash &&
  safePart value.expiresAt 64

/-! ## Tables -/

/-- The words that the statements write into, or look for in, a `state` column. -/
inductive MediaState
  | requested
  | authorized
  | provisioning
  | ready
  | active
  | draining
  | ended
  | failed
  | expired
  | revoked
  deriving DecidableEq

/-- A row of `media_sessions`. -/
structure MediaSessionRow where
  sessionId : Bytes
  actorId : Bytes
  backendId : Bytes
  resourceKind : Bytes
  resourceId : Bytes
  state : MediaState
  presentationProfileId : Bytes
  terminalReason : Bytes
  createdAt : Bytes
  updatedAt : Bytes
  endedAt : Bytes
  deriving DecidableEq

/-- A row of `media_routes`. -/
structure MediaRouteRow where
  routeId : Bytes
  sessionId : Bytes
  routeEpoch : Int
  providerId : Bytes
  backendId : Bytes
  state : MediaState
  createdAt : Bytes
  updatedAt : Bytes
  deriving DecidableEq

/-- A row of `media_provider_stream_leases`. -/
structure MediaStreamLeaseRow where
  leaseId : Bytes
  routeId : Bytes
  providerId : Bytes
  workspaceId : Bytes
  state : MediaState
  createdAt : Bytes
  updatedAt : Bytes
  endedAt : Bytes
  deriving DecidableEq

/-- A row of `media_access_grants`. -/
structure MediaAccessGrantRow where
  grantId : Bytes
  sessionId : Bytes
  routeId : Bytes
  routeEpoch : Int
  actorId : Bytes
  secretHash : Bytes
  expiresAt : Bytes
  lastSeenAt : Bytes
  active : Bool
  revokedAt : Bytes
  createdAt : Bytes
  updatedAt : Bytes
  deriving DecidableEq

structure MediaStore where
  sessions : List MediaSessionRow := []
  routes : List MediaRouteRow := []
  leases : List MediaStreamLeaseRow := []
  grants : List MediaAccessGrantRow := []
  deriving DecidableEq

/-- What one call meets outside the tables: whether its transaction begins and commits, which of its
statements the database carries out, and when each of them runs. -/
structure MediaEnvironment where
  begins : Bool := true
  commits : Bool := true
  carriedOut : Nat → Bool := fun _ => true
  now : Nat → Timestamp

def bundleTransaction (environment : MediaEnvironment)
    (statements : List (Timestamp → Statement MediaStore)) (store : MediaStore) :
    Bool × MediaStore :=
  transaction environment.begins environment.commits false id
    (committed (inSequence (statements.mapIdx fun index statement =>
      attempt (environment.carriedOut index) (statement (environment.now index))))) store

/-- `UPDATE … WHERE`, refused by its caller unless `sqlite3_changes` is 1. -/
def updateOne {Row : Type} (selected : Row → Bool) (change : Row → Row) (rows : List Row) :
    Except Refusal (List Row) :=
  if rows.countP selected = 1 then .ok (Table.update selected change rows) else .error .error

/-! ## New bundles -/

def insertSession (value : MediaSessionBundleRegistration) (now : Timestamp) :
    Statement MediaStore := fun store =>
  if value.sessionId ∈ store.sessions.map (·.sessionId) then .error .constraint
  else .ok { store with
    sessions := store.sessions ++
      [{ sessionId := value.sessionId
         actorId := value.actorId
         backendId := value.backendId
         resourceKind := value.resourceKind
         resourceId := value.resourceId
         state := .provisioning
         presentationProfileId := value.presentationProfileId
         terminalReason := []
         createdAt := now
         updatedAt := now
         endedAt := [] }] }

def insertRoute (value : MediaSessionBundleRegistration) (now : Timestamp) :
    Statement MediaStore := fun store =>
  if value.routeId ∈ store.routes.map (·.routeId) ∨
      value.sessionId ∈ store.routes.map (·.sessionId) then .error .constraint
  else .ok { store with
    routes := store.routes ++
      [{ routeId := value.routeId
         sessionId := value.sessionId
         routeEpoch := value.routeEpoch
         providerId := value.providerId
         backendId := value.backendId
         state := .provisioning
         createdAt := now
         updatedAt := now }] }

def insertLease (value : MediaSessionBundleRegistration) (now : Timestamp) :
    Statement MediaStore := fun store =>
  if value.leaseId ∈ store.leases.map (·.leaseId) ∨
      value.routeId ∈ store.leases.map (·.routeId) then .error .constraint
  else .ok { store with
    leases := store.leases ++
      [{ leaseId := value.leaseId
         routeId := value.routeId
         providerId := value.providerId
         workspaceId := value.workspaceId
         state := .provisioning
         createdAt := now
         updatedAt := now
         endedAt := [] }] }

def insertGrant (value : MediaSessionBundleRegistration) (now : Timestamp) :
    Statement MediaStore := fun store =>
  if value.grantId ∈ store.grants.map (·.grantId) ∨
      value.sessionId ∈ store.grants.map (·.sessionId) then .error .constraint
  else .ok { store with
    grants := store.grants ++
      [{ grantId := value.grantId
         sessionId := value.sessionId
         routeId := value.routeId
         routeEpoch := value.routeEpoch
         actorId := value.actorId
         secretHash := value.secretHash
         expiresAt := value.expiresAt
         lastSeenAt := now
         active := false
         revokedAt := []
         createdAt := now
         updatedAt := now }] }

def insertProvisioningBundle (environment : MediaEnvironment)
    (value : MediaSessionBundleRegistration) (store : MediaStore) : Bool × MediaStore :=
  if validRegistration value = false then (false, store)
  else bundleTransaction environment
    [insertSession value, insertRoute value, insertLease value, insertGrant value] store

def updateProvisioningPresentationProfile (environment : MediaEnvironment)
    (sessionId presentationProfileId : Bytes) (store : MediaStore) : Bool × MediaStore :=
  if safeIdentifier sessionId = false ∨ safeIdentifier presentationProfileId = false then
    (false, store)
  else
    committed (attempt (environment.carriedOut 0) fun store => do
      let sessions ← updateOne
        (fun row => row.sessionId == sessionId && row.state == .provisioning)
        (fun row => { row with
          presentationProfileId := presentationProfileId
          updatedAt := environment.now 0 })
        store.sessions
      .ok { store with sessions := sessions }) store

/-! ## Activation -/

/-- `route_id=(SELECT route_id FROM media_routes WHERE session_id=?)` for a lease. -/
def leasesRouteOf (routes : List MediaRouteRow) (sessionId : Bytes) (row : MediaStreamLeaseRow) :
    Bool :=
  (routes.find? fun route => route.sessionId == sessionId).map (·.routeId) ==
    some row.routeId

def activateSession (sessionId : Bytes) (now : Timestamp) : Statement MediaStore := fun store => do
  let sessions ← updateOne
    (fun row => row.sessionId == sessionId && row.state == .provisioning)
    (fun row => { row with state := .ready, updatedAt := now }) store.sessions
  .ok { store with sessions := sessions }

def activateRoute (sessionId : Bytes) (now : Timestamp) : Statement MediaStore := fun store => do
  let routes ← updateOne
    (fun row => row.sessionId == sessionId && row.state == .provisioning)
    (fun row => { row with state := .ready, updatedAt := now }) store.routes
  .ok { store with routes := routes }

def activateLease (sessionId : Bytes) (now : Timestamp) : Statement MediaStore := fun store => do
  let leases ← updateOne
    (fun row => leasesRouteOf store.routes sessionId row && row.state == .provisioning)
    (fun row => { row with state := .active, updatedAt := now }) store.leases
  .ok { store with leases := leases }

def activateGrant (sessionId : Bytes) (now : Timestamp) : Statement MediaStore := fun store => do
  let grants ← updateOne
    (fun row => row.sessionId == sessionId && !row.active && row.revokedAt.isEmpty &&
      now.val < row.expiresAt)
    (fun row => { row with active := true, revokedAt := [], updatedAt := now }) store.grants
  .ok { store with grants := grants }

def activateBundle (environment : MediaEnvironment) (sessionId : Bytes) (store : MediaStore) :
    Bool × MediaStore :=
  if safeIdentifier sessionId = false then (false, store)
  else bundleTransaction environment
    [activateSession sessionId, activateRoute sessionId, activateLease sessionId,
      activateGrant sessionId] store

/-! ## Failures and endings -/

def finished (state : MediaState) : Bool := state == .ended || state == .failed

def terminal (state : MediaState) : Bool := finished state || state == .expired || state == .revoked

def revokeGrant (sessionId : Bytes) (now : Timestamp) : Statement MediaStore := fun store =>
  .ok { store with
    grants := Table.update (fun row => row.sessionId == sessionId && row.revokedAt.isEmpty)
      (fun row => { row with active := false, revokedAt := now, updatedAt := now }) store.grants }

def closeLease (outcome : MediaState) (sessionId : Bytes) (now : Timestamp) :
    Statement MediaStore := fun store =>
  .ok { store with
    leases := Table.update (fun row => leasesRouteOf store.routes sessionId row && !finished row.state)
      (fun row => { row with state := outcome, endedAt := now, updatedAt := now }) store.leases }

def closeRoute (outcome : MediaState) (sessionId : Bytes) (now : Timestamp) :
    Statement MediaStore := fun store =>
  .ok { store with
    routes := Table.update (fun row => row.sessionId == sessionId && !finished row.state)
      (fun row => { row with state := outcome, updatedAt := now }) store.routes }

def closeSession (outcome : MediaState) (sessionId reasonCode : Bytes) (now : Timestamp) :
    Statement MediaStore := fun store => do
  let sessions ← updateOne (fun row => row.sessionId == sessionId && !terminal row.state)
    (fun row => { row with
      state := outcome
      terminalReason := reasonCode
      endedAt := now
      updatedAt := now }) store.sessions
  .ok { store with sessions := sessions }

/-- `failBundle` and `endBundle` differ in the word they write. -/
def closeBundle (outcome : MediaState) (environment : MediaEnvironment)
    (sessionId reasonCode : Bytes) (store : MediaStore) : Bool × MediaStore :=
  if safeIdentifier sessionId = false ∨ safeIdentifier reasonCode = false then (false, store)
  else bundleTransaction environment
    [revokeGrant sessionId, closeLease outcome sessionId, closeRoute outcome sessionId,
      closeSession outcome sessionId reasonCode] store

def failBundle : MediaEnvironment → Bytes → Bytes → MediaStore → Bool × MediaStore :=
  closeBundle .failed

def endBundle : MediaEnvironment → Bytes → Bytes → MediaStore → Bool × MediaStore :=
  closeBundle .ended

/-! ## Recovery -/

def recoverGrants (now : Timestamp) : Statement MediaStore := fun store =>
  .ok { store with
    grants := Table.update (fun row => row.active || row.revokedAt.isEmpty)
      (fun row => { row with active := false, revokedAt := now, updatedAt := now }) store.grants }

def recoverLeases (now : Timestamp) : Statement MediaStore := fun store =>
  .ok { store with
    leases := Table.update (fun row => [.provisioning, .active, .draining].contains row.state)
      (fun row => { row with state := .failed, endedAt := now, updatedAt := now }) store.leases }

def recoverRoutes (now : Timestamp) : Statement MediaStore := fun store =>
  .ok { store with
    routes := Table.update
      (fun row => [.provisioning, .ready, .active, .draining].contains row.state)
      (fun row => { row with state := .failed, updatedAt := now }) store.routes }

def recoverSessions (now : Timestamp) : Statement MediaStore := fun store =>
  .ok { store with
    sessions := Table.update
      (fun row => [.requested, .authorized, .provisioning, .ready, .active, .draining].contains
        row.state)
      (fun row => { row with
        state := .failed
        terminalReason := text "daemon_restart_ownership_lost"
        endedAt := now
        updatedAt := now }) store.sessions }

def recoverNonTerminalBundles (environment : MediaEnvironment) (store : MediaStore) :
    Bool × MediaStore :=
  bundleTransaction environment [recoverGrants, recoverLeases, recoverRoutes, recoverSessions] store

/-! ## Grants in use -/

/-- A grant that was not due is left alone, and the call succeeds; `due` is the latest time that
`datetime` lets pass as seen too long ago. -/
def touchGrantIfDue (environment : MediaEnvironment) (due : Bytes) (grantId : Bytes)
    (minimumIntervalSeconds : Int) (store : MediaStore) : Option Bool × MediaStore :=
  if safeIdentifier grantId = false ∨ minimumIntervalSeconds ≤ 0 ∨ 3600 < minimumIntervalSeconds then
    (none, store)
  else if environment.carriedOut 0 = false then (none, store)
  else
    let now := (environment.now 0).val
    (some true, { store with
      grants := Table.update
        (fun row => row.grantId == grantId && row.active && row.revokedAt.isEmpty &&
          now < row.expiresAt && row.lastSeenAt ≤ due)
        (fun row => { row with lastSeenAt := now, updatedAt := now }) store.grants })

/-! ## Active leases -/

structure ActiveMediaRouteLease where
  sessionId : Bytes
  routeId : Bytes
  routeEpoch : Int
  backendId : Bytes
  providerId : Bytes
  leaseId : Bytes
  workspaceId : Bytes
  presentationProfileId : Bytes
  deriving DecidableEq

def playing (state : MediaState) : Bool := state == .ready || state == .active

/-- The rows of the join of sessions, routes and leases that `findActive` selects from. -/
def activeRouteLeases (store : MediaStore) (sessionId routeId : Bytes) (routeEpoch : Int) :
    List ActiveMediaRouteLease :=
  store.sessions.flatMap fun session =>
    store.routes.flatMap fun route =>
      store.leases.filterMap fun lease =>
        if route.sessionId = session.sessionId ∧ lease.routeId = route.routeId ∧
            session.sessionId = sessionId ∧ route.routeId = routeId ∧
            route.routeEpoch = routeEpoch ∧ playing session.state = true ∧
            playing route.state = true ∧ lease.state = .active then
          some
            { sessionId := session.sessionId
              routeId := route.routeId
              routeEpoch := route.routeEpoch
              backendId := route.backendId
              providerId := route.providerId
              leaseId := lease.leaseId
              workspaceId := lease.workspaceId
              presentationProfileId := session.presentationProfileId }
        else none

def findActive (environment : MediaEnvironment) (sessionId routeId : Bytes) (routeEpoch : Int)
    (store : MediaStore) : Option ActiveMediaRouteLease :=
  if safeIdentifier sessionId = false ∨ safeIdentifier routeId = false ∨ routeEpoch ≤ 0 then none
  else if environment.carriedOut 0 = false then none
  else
    match activeRouteLeases store sessionId routeId routeEpoch with
    | [] => none
    | result :: _ =>
      if safeIdentifier result.sessionId = false ∨ safeIdentifier result.routeId = false ∨
          result.routeEpoch ≠ routeEpoch ∨ safeIdentifier result.backendId = false ∨
          safeIdentifier result.providerId = false ∨ safeIdentifier result.leaseId = false ∨
          safeIdentifier result.workspaceId = false ∨
          safeIdentifier result.presentationProfileId = false then none
      else some result

/-! ## Calls -/

inductive MediaCall
  | insertProvisioningBundle (value : MediaSessionBundleRegistration)
  | updateProvisioningPresentationProfile (sessionId presentationProfileId : Bytes)
  | activateBundle (sessionId : Bytes)
  | failBundle (sessionId reasonCode : Bytes)
  | endBundle (sessionId reasonCode : Bytes)
  | touchGrantIfDue (due grantId : Bytes) (minimumIntervalSeconds : Int)
  | recoverNonTerminalBundles
  deriving DecidableEq

def mediaStep (store : MediaStore) : MediaEnvironment × MediaCall → MediaStore × Bool
  | (environment, .insertProvisioningBundle value) =>
    (insertProvisioningBundle environment value store).swap
  | (environment, .updateProvisioningPresentationProfile sessionId presentationProfileId) =>
    (updateProvisioningPresentationProfile environment sessionId presentationProfileId store).swap
  | (environment, .activateBundle sessionId) => (activateBundle environment sessionId store).swap
  | (environment, .failBundle sessionId reasonCode) =>
    (failBundle environment sessionId reasonCode store).swap
  | (environment, .endBundle sessionId reasonCode) =>
    (endBundle environment sessionId reasonCode store).swap
  | (environment, .touchGrantIfDue due grantId minimumIntervalSeconds) =>
    let (answer, next) := touchGrantIfDue environment due grantId minimumIntervalSeconds store
    (next, answer.isSome)
  | (environment, .recoverNonTerminalBundles) => (recoverNonTerminalBundles environment store).swap

end VdrSuite.Media
