import VdrSuite.Agent.LocalProvider
import VdrSuite.Library.Interleaving
import VdrSuite.Library.Table
import VdrSuite.Security.AuthorizationService

/-! Controller leases of OSD surfaces: the sections of the service that hold its mutex, the calls that
string them together, and their interleavings. -/

set_option autoImplicit false

namespace VdrSuite.Osd

open Library
open Agent (isAlphanumeric)
open Security (RequestSecurityContext AuthorizationRequest authorize)

/-! ## Sessions, viewers and leases -/

inductive LegacyOsdSessionState
  | requested
  | starting
  | active
  | degraded
  | resyncRequired
  | suspended
  | closing
  | closed
  | expired
  | failed
  deriving DecidableEq

structure LegacyOsdSession where
  sessionRevision : Nat := 0
  actorId : Bytes := []
  clientInstanceId : Bytes := []
  backendId : Bytes := []
  backendGeneration : Nat := 0
  state : LegacyOsdSessionState := .requested
  expiresAt : Int := 0
  osdSurfaceId : Bytes := []
  osdEpoch : Bytes := []
  deriving DecidableEq

structure LegacyOsdSessionResult where
  accepted : Bool := false
  error : Bytes := []
  session : LegacyOsdSession := {}
  deriving DecidableEq

inductive OsdViewerBindingState
  | attached
  | resyncRequired
  | suspended
  | closed
  deriving DecidableEq

structure OsdViewerBinding where
  actorId : Bytes := []
  clientInstanceId : Bytes := []
  legacyOsdSessionId : Bytes := []
  backendId : Bytes := []
  backendGeneration : Nat := 0
  osdSurfaceId : Bytes := []
  osdEpoch : Bytes := []
  expiresAt : Int := 0
  state : OsdViewerBindingState := .resyncRequired
  deriving DecidableEq

structure BackendAccessDecision where
  allowed : Bool := false
  readOnly : Bool := false
  deriving DecidableEq

inductive OsdControllerLeaseState
  | requested
  | active
  | expiring
  | revoked
  | expired
  | released
  deriving DecidableEq

/-- Revisions are counted without a bound: a lease gets at most one a second. -/
structure OsdControllerLease where
  controllerLeaseId : Bytes := []
  leaseRevision : Nat := 0
  controllerLeaseEpoch : Nat := 0
  legacyOsdSessionId : Bytes := []
  viewerBindingId : Bytes := []
  actorId : Bytes := []
  clientInstanceId : Bytes := []
  backendId : Bytes := []
  backendGeneration : Nat := 0
  osdSurfaceId : Bytes := []
  osdEpoch : Bytes := []
  grantedAt : Int := 0
  expiresAt : Int := 0
  renewAfter : Int := 0
  lastHeartbeatAt : Int := 0
  state : OsdControllerLeaseState := .requested
  revocationReason : Bytes := []
  deriving DecidableEq

structure OsdControllerLeaseResult where
  accepted : Bool := false
  hasLease : Bool := false
  error : Bytes := []
  lease : OsdControllerLease := {}
  deriving DecidableEq

structure OsdControllerHolder where
  actorId : Bytes := []
  clientInstanceId : Bytes := []
  backendId : Bytes := []
  legacyOsdSessionId : Bytes := []
  viewerBindingId : Bytes := []
  deriving DecidableEq

abbrev OsdControllerAcquireRequest : Type := OsdControllerHolder

abbrev OsdControllerStatusRequest : Type := OsdControllerHolder

structure OsdControllerReleaseRequest extends OsdControllerHolder where
  controllerLeaseId : Bytes := []
  controllerLeaseEpoch : Nat := 0
  deriving DecidableEq

structure OsdControllerRenewRequest extends OsdControllerHolder where
  controllerLeaseId : Bytes := []
  controllerLeaseEpoch : Nat := 0
  leaseRevision : Nat := 0
  deriving DecidableEq

structure HolderScope where
  backendGeneration : Nat := 0
  osdSurfaceId : Bytes := []
  osdEpoch : Bytes := []
  expiresAt : Int := 0
  deriving DecidableEq

def leaseLifetimeSeconds : Int := 30

def renewAfterSeconds : Int := 10

def maximumLeases : Nat := 64

def maximumSurfaceScopes : Nat := 64

def safeIdentifier (value : Bytes) (allowColon : Bool) : Bool :=
  !value.isEmpty && value.length ≤ 128 && value.all fun byte =>
    isAlphanumeric byte || byte == 45 || byte == 95 || byte == 46 || (allowColon && byte == 58)

def OsdControllerHolder.safe (holder : OsdControllerHolder) : Bool :=
  safeIdentifier holder.actorId true && safeIdentifier holder.clientInstanceId true &&
  safeIdentifier holder.backendId false && safeIdentifier holder.legacyOsdSessionId false &&
  safeIdentifier holder.viewerBindingId false

def OsdControllerHolder.holds (holder : OsdControllerHolder) (lease : OsdControllerLease) : Bool :=
  lease.actorId == holder.actorId && lease.clientInstanceId == holder.clientInstanceId &&
  lease.backendId == holder.backendId && lease.legacyOsdSessionId == holder.legacyOsdSessionId &&
  lease.viewerBindingId == holder.viewerBindingId

def OsdControllerHolder.views (holder : OsdControllerHolder) (binding : OsdViewerBinding) : Bool :=
  binding.actorId == holder.actorId && binding.clientInstanceId == holder.clientInstanceId &&
  binding.backendId == holder.backendId && binding.legacyOsdSessionId == holder.legacyOsdSessionId

def reject (error : Bytes) : OsdControllerLeaseResult := { error := error }

def activeState : OsdControllerLeaseState → Bool
  | .active | .expiring => true
  | _ => false

def controllableViewerState : OsdViewerBindingState → Bool
  | .attached | .resyncRequired => true
  | _ => false

def terminalRenewError (lease : OsdControllerLease) : Bytes :=
  match lease.state with
  | .expired => text "legacy_osd_controller_expired"
  | .revoked =>
    if lease.revocationReason.isEmpty then text "legacy_osd_controller_revoked"
    else lease.revocationReason
  | .released => text "legacy_osd_controller_released"
  | _ => text "controller_lease_conflict"

def surfaceKey (backendId : Bytes) (backendGeneration : Nat) (osdSurfaceId osdEpoch : Bytes) : Bytes :=
  backendId ++ text "|" ++ decimal backendGeneration ++ text "|" ++ osdSurfaceId ++ text "|" ++ osdEpoch

def HolderScope.surfaceKey (scope : HolderScope) (backendId : Bytes) : Bytes :=
  Osd.surfaceKey backendId scope.backendGeneration scope.osdSurfaceId scope.osdEpoch

def OsdControllerLease.surfaceKey (lease : OsdControllerLease) : Bytes :=
  Osd.surfaceKey lease.backendId lease.backendGeneration lease.osdSurfaceId lease.osdEpoch

/-! ## The maps behind the mutex -/

/-- The maps of the service, and `granted`: every lease as it was granted, which no call reads. -/
structure LeaseStore where
  leases : List OsdControllerLease := []
  surfaceOwners : List (Bytes × Bytes) := []
  surfaceEpochs : List (Bytes × Nat) := []
  granted : List OsdControllerLease := []
  deriving DecidableEq

namespace LeaseStore

variable (store : LeaseStore)

def lease (controllerLeaseId : Bytes) : Option OsdControllerLease :=
  Table.lookup OsdControllerLease.controllerLeaseId controllerLeaseId store.leases

def owner (key : Bytes) : Option Bytes :=
  (Table.lookup Prod.fst key store.surfaceOwners).map Prod.snd

def epoch (key : Bytes) : Option Nat :=
  (Table.lookup Prod.fst key store.surfaceEpochs).map Prod.snd

def setLease (lease : OsdControllerLease) : LeaseStore :=
  { store with leases := Table.upsert OsdControllerLease.controllerLeaseId lease store.leases }

def setEpoch (key : Bytes) (epoch : Nat) : LeaseStore :=
  { store with surfaceEpochs := Table.upsert Prod.fst (key, epoch) store.surfaceEpochs }

def removeOwner (lease : OsdControllerLease) : LeaseStore :=
  { store with
    surfaceOwners := Table.delete
      (fun entry => entry.1 == lease.surfaceKey && entry.2 == lease.controllerLeaseId)
      store.surfaceOwners }

end LeaseStore

/-- The order in which the two maps are walked through, as far as it matters. -/
structure Walk where
  leases : List Bytes := []
  surfaces : List Bytes := []
  deriving DecidableEq

def ended (lease : OsdControllerLease) (state : OsdControllerLeaseState) (reason : Bytes) :
    OsdControllerLease :=
  { lease with
    leaseRevision := lease.leaseRevision + 1
    state := state
    revocationReason := reason }

def expiredAt (now : Int) (lease : OsdControllerLease) : Bool :=
  activeState lease.state && lease.expiresAt ≤ now

def reapExpired (now : Int) (store : LeaseStore) : LeaseStore :=
  { store with
    leases := Table.update (expiredAt now) (fun lease => ended lease .expired (text "expired"))
      store.leases
    surfaceOwners := Table.delete
      (fun entry => store.leases.any fun lease => expiredAt now lease &&
        (entry.1 == lease.surfaceKey && entry.2 == lease.controllerLeaseId))
      store.surfaceOwners }

def pruneTerminal (walk : Walk) (store : LeaseStore) : LeaseStore :=
  let visit (leases : List OsdControllerLease) (controllerLeaseId : Bytes) :=
    if leases.length < maximumLeases then leases
    else Table.delete (fun lease => lease.controllerLeaseId == controllerLeaseId &&
      !activeState lease.state) leases
  { store with
    leases := (walk.leases ++ store.leases.map (·.controllerLeaseId)).foldl visit store.leases }

def pruneSurfaceEpochs (walk : Walk) (store : LeaseStore) : LeaseStore :=
  let visit (epochs : List (Bytes × Nat)) (key : Bytes) :=
    if epochs.length < maximumSurfaceScopes ∨ (store.owner key).isSome = true then epochs
    else Table.delete (fun entry => entry.1 == key) epochs
  { store with
    surfaceEpochs :=
      (walk.surfaces ++ store.surfaceEpochs.map Prod.fst).foldl visit store.surfaceEpochs }

def endLease (snapshot : OsdControllerLease) (state : OsdControllerLeaseState) (reason : Bytes)
    (store : LeaseStore) : OsdControllerLease × LeaseStore :=
  match store.lease snapshot.controllerLeaseId with
  | none => (snapshot, store)
  | some found =>
    if found.leaseRevision ≠ snapshot.leaseRevision then (found, store)
    else if activeState found.state = false then (found, store)
    else
      let changed := ended found state reason
      (changed, (store.removeOwner found).setLease changed)

def admitLease (walk : Walk) (key controllerLeaseId : Bytes) (now : Int) (store : LeaseStore) :
    Except Bytes Unit × LeaseStore :=
  let store := reapExpired now store
  if ((store.owner key).bind store.lease).any (fun existing => activeState existing.state) = true then
    (.error (text "controller_lease_conflict"), store)
  else
    let store := pruneTerminal walk
      { store with surfaceOwners := Table.delete (fun entry => entry.1 == key) store.surfaceOwners }
    if maximumLeases ≤ store.leases.length then
      (.error (text "legacy_osd_controller_capacity_reached"), store)
    else if (store.lease controllerLeaseId).isSome then
      (.error (text "legacy_osd_controller_id_collision"), store)
    else if (store.epoch key).isSome then (.ok (), store)
    else
      let store := pruneSurfaceEpochs walk store
      if maximumSurfaceScopes ≤ store.surfaceEpochs.length then
        (.error (text "legacy_osd_controller_surface_capacity_reached"), store)
      else (.ok (), store)

def newLease (request : OsdControllerAcquireRequest) (scope : HolderScope) (now : Int)
    (controllerLeaseId : Bytes) (epoch : Nat) : OsdControllerLease :=
  let expiresAt := min (now + leaseLifetimeSeconds) scope.expiresAt
  { controllerLeaseId := controllerLeaseId
    leaseRevision := 1
    controllerLeaseEpoch := epoch
    legacyOsdSessionId := request.legacyOsdSessionId
    viewerBindingId := request.viewerBindingId
    actorId := request.actorId
    clientInstanceId := request.clientInstanceId
    backendId := request.backendId
    backendGeneration := scope.backendGeneration
    osdSurfaceId := scope.osdSurfaceId
    osdEpoch := scope.osdEpoch
    grantedAt := now
    expiresAt := expiresAt
    renewAfter := min (now + renewAfterSeconds) expiresAt
    lastHeartbeatAt := now
    state := .active }

def grantLease (request : OsdControllerAcquireRequest) (scope : HolderScope) (now : Int)
    (controllerLeaseId : Bytes) (store : LeaseStore) : OsdControllerLeaseResult × LeaseStore :=
  let key := scope.surfaceKey request.backendId
  let epoch := (store.epoch key).getD 0
  if epoch = Netstring.uint64Max then
    (reject (text "legacy_osd_controller_epoch_exhausted"), store.setEpoch key epoch)
  else
    let store := store.setEpoch key (epoch + 1)
    let lease := newLease request scope now controllerLeaseId (epoch + 1)
    if lease.expiresAt ≤ now then
      (reject (text "legacy_osd_controller_session_expired"), store)
    else
      ({ accepted := true, hasLease := true, lease := lease },
        { store with
          leases := store.leases ++ [lease]
          surfaceOwners := Table.upsert Prod.fst (key, controllerLeaseId) store.surfaceOwners
          granted := store.granted ++ [lease] })

def acquireSurface (walk : Walk) (request : OsdControllerAcquireRequest) (scope : HolderScope)
    (now : Int) (controllerLeaseId : Bytes) (store : LeaseStore) :
    OsdControllerLeaseResult × LeaseStore :=
  match admitLease walk (scope.surfaceKey request.backendId) controllerLeaseId now store with
  | (.error error, store) => (reject error, store)
  | (.ok _, store) => grantLease request scope now controllerLeaseId store

def renewedUntil (lease : OsdControllerLease) (scope : HolderScope) (now : Int) :
    OsdControllerLease :=
  let expiresAt := min (now + leaseLifetimeSeconds) scope.expiresAt
  { lease with
    leaseRevision := lease.leaseRevision + 1
    lastHeartbeatAt := now
    expiresAt := expiresAt
    renewAfter := min (now + renewAfterSeconds) expiresAt
    state := .active
    revocationReason := [] }

def renewLease (request : OsdControllerRenewRequest) (scope : HolderScope) (now : Int)
    (store : LeaseStore) : OsdControllerLeaseResult × LeaseStore :=
  match store.lease request.controllerLeaseId with
  | none => (reject (text "legacy_osd_controller_not_found"), store)
  | some found =>
    if found.leaseRevision ≠ request.leaseRevision ∨
        found.controllerLeaseEpoch ≠ request.controllerLeaseEpoch then
      (reject (text "revision_conflict"), store)
    else if activeState found.state = false then (reject (terminalRenewError found), store)
    else
      let renewed := renewedUntil found scope now
      if renewed.expiresAt ≤ now then
        (reject (text "legacy_osd_controller_expired"),
          (store.removeOwner found).setLease
            { found with
              leaseRevision := found.leaseRevision + 1
              lastHeartbeatAt := now
              expiresAt := renewed.expiresAt
              state := .expired
              revocationReason := text "expired" })
      else ({ accepted := true, hasLease := true, lease := renewed }, store.setLease renewed)

/-! ## What a call does outside itself -/

inductive LeaseCall
  | acquire (request : OsdControllerAcquireRequest)
  | renew (request : OsdControllerRenewRequest)
  | release (request : OsdControllerReleaseRequest)
  | current (request : OsdControllerStatusRequest)
  | revoke (controllerLeaseId reason : Bytes)
  deriving DecidableEq

/-- The atomic steps: a thread enters or leaves a call, asks one of the services around it, or holds
the mutex for one section. -/
inductive LeaseEffect
  | enter (call : LeaseCall)
  | leave (result : OsdControllerLeaseResult)
  | now
  | context (actorId backendId : Bytes)
  | backendPolicy (backendId : Bytes)
  | sessionStatus (holder : OsdControllerHolder)
  | viewer (viewerBindingId : Bytes)
  | newLeaseId
  | find (controllerLeaseId : Bytes)
  | endLease (snapshot : OsdControllerLease) (state : OsdControllerLeaseState) (reason : Bytes)
  | reap (now : Int)
  | owner (key : Bytes)
  | acquireSurface (request : OsdControllerAcquireRequest) (scope : HolderScope) (now : Int)
      (controllerLeaseId : Bytes)
  | renewLease (request : OsdControllerRenewRequest) (scope : HolderScope) (now : Int)
  deriving DecidableEq

/-- A service that is not there answers `none`. -/
def LeaseReply : LeaseEffect → Type
  | .enter _ | .leave _ | .reap _ => Unit
  | .now => Int
  | .context _ _ => Option RequestSecurityContext
  | .backendPolicy _ => Option BackendAccessDecision
  | .sessionStatus _ => LegacyOsdSessionResult
  | .viewer _ => Option OsdViewerBinding
  | .newLeaseId => Bytes
  | .find _ => Option OsdControllerLease
  | .endLease _ _ _ => OsdControllerLease
  | .owner _ => Option Bytes
  | .acquireSurface _ _ _ _ | .renewLease _ _ _ => OsdControllerLeaseResult

abbrev Leasing (Result : Type) : Type := Program LeaseEffect LeaseReply Result

namespace Leasing

def enter (call : LeaseCall) : Leasing Unit := Program.request (LeaseEffect.enter call)

def leave (result : OsdControllerLeaseResult) : Leasing Unit :=
  Program.request (LeaseEffect.leave result)

def now : Leasing Int := Program.request LeaseEffect.now

def context (actorId backendId : Bytes) : Leasing (Option RequestSecurityContext) :=
  Program.request (LeaseEffect.context actorId backendId)

def backendPolicy (backendId : Bytes) : Leasing (Option BackendAccessDecision) :=
  Program.request (LeaseEffect.backendPolicy backendId)

def sessionStatus (holder : OsdControllerHolder) : Leasing LegacyOsdSessionResult :=
  Program.request (LeaseEffect.sessionStatus holder)

def viewer (viewerBindingId : Bytes) : Leasing (Option OsdViewerBinding) :=
  Program.request (LeaseEffect.viewer viewerBindingId)

def newLeaseId : Leasing Bytes := Program.request LeaseEffect.newLeaseId

def find (controllerLeaseId : Bytes) : Leasing (Option OsdControllerLease) :=
  Program.request (LeaseEffect.find controllerLeaseId)

def endLease (snapshot : OsdControllerLease) (state : OsdControllerLeaseState) (reason : Bytes) :
    Leasing OsdControllerLease :=
  Program.request (LeaseEffect.endLease snapshot state reason)

def reap (now : Int) : Leasing Unit := Program.request (LeaseEffect.reap now)

def owner (key : Bytes) : Leasing (Option Bytes) := Program.request (LeaseEffect.owner key)

def acquireSurface (request : OsdControllerAcquireRequest) (scope : HolderScope) (now : Int)
    (controllerLeaseId : Bytes) : Leasing OsdControllerLeaseResult :=
  Program.request (LeaseEffect.acquireSurface request scope now controllerLeaseId)

def renewLease (request : OsdControllerRenewRequest) (scope : HolderScope) (now : Int) :
    Leasing OsdControllerLeaseResult :=
  Program.request (LeaseEffect.renewLease request scope now)

end Leasing

/-! ## The calls -/

def authorizeControl (actorId backendId : Bytes) : Leasing (Option Bytes) := do
  let context ← Leasing.context actorId backendId
  let request : AuthorizationRequest :=
    { permission := text "osd.control", backendId := backendId, action := text "osd.control" }
  let authorized := context.any fun context =>
    context.actor.type != .agent && context.authenticated && (authorize context request).allowed
  if authorized = false then pure (some (text "legacy_osd_control_not_authorized"))
  else
    let policy ← Leasing.backendPolicy backendId
    match policy with
    | none => pure (some (text "legacy_osd_controller_backend_unavailable"))
    | some policy =>
      if policy.allowed then pure none
      else if policy.readOnly then pure (some (text "read_only_backend"))
      else pure (some (text "legacy_osd_controller_backend_unavailable"))

def sessionError (error : Bytes) : Bytes :=
  if error = text "legacy_osd_backend_generation_changed" then text "generation_conflict"
  else if error = text "legacy_osd_session_expired" then text "legacy_osd_controller_session_expired"
  else text "legacy_osd_controller_session_invalid"

def viewScope (session : LegacyOsdSession) (binding : OsdViewerBinding) (now : Int) :
    Except Bytes HolderScope :=
  if controllableViewerState binding.state = false ∨ binding.expiresAt ≤ now then
    .error (text "legacy_osd_controller_viewer_invalid")
  else if binding.backendGeneration ≠ session.backendGeneration then
    .error (text "generation_conflict")
  else if binding.osdSurfaceId ≠ session.osdSurfaceId then
    .error (text "legacy_osd_controller_surface_changed")
  else if binding.osdEpoch ≠ session.osdEpoch then
    .error (text "legacy_osd_controller_epoch_changed")
  else if min session.expiresAt binding.expiresAt ≤ now then .error []
  else .ok
    { backendGeneration := session.backendGeneration
      osdSurfaceId := session.osdSurfaceId
      osdEpoch := session.osdEpoch
      expiresAt := min session.expiresAt binding.expiresAt }

def resolveViewScope (holder : OsdControllerHolder) (now : Int) :
    Leasing (Except Bytes HolderScope) := do
  let result ← Leasing.sessionStatus holder
  if result.accepted = false then pure (.error (sessionError result.error))
  else
    let session := result.session
    if (session.state ≠ .active ∧ session.state ≠ .resyncRequired) ∨
        session.backendGeneration = 0 ∨ session.osdSurfaceId = [] ∨ session.osdEpoch = [] ∨
        session.expiresAt ≤ now then
      pure (.error (text "legacy_osd_controller_session_invalid"))
    else
      let found ← Leasing.viewer holder.viewerBindingId
      match found with
      | none => pure (.error (text "legacy_osd_controller_viewer_invalid"))
      | some binding =>
        if holder.views binding = false then
          pure (.error (text "legacy_osd_controller_viewer_invalid"))
        else pure (viewScope session binding now)

def OsdControllerLease.holder (lease : OsdControllerLease) : OsdControllerHolder :=
  { actorId := lease.actorId
    clientInstanceId := lease.clientInstanceId
    backendId := lease.backendId
    legacyOsdSessionId := lease.legacyOsdSessionId
    viewerBindingId := lease.viewerBindingId }

def scopeError (lease : OsdControllerLease) (scope : HolderScope) : Option Bytes :=
  if scope.backendGeneration ≠ lease.backendGeneration then some (text "generation_conflict")
  else if scope.osdSurfaceId ≠ lease.osdSurfaceId then
    some (text "legacy_osd_controller_surface_changed")
  else if scope.osdEpoch ≠ lease.osdEpoch then some (text "legacy_osd_controller_epoch_changed")
  else none

def orElse (error fallback : Bytes) : Bytes := if error.isEmpty then fallback else error

def refreshLease (controllerLeaseId : Bytes) (now : Int) : Leasing (Option OsdControllerLease) := do
  let stored ← Leasing.find controllerLeaseId
  match stored with
  | none => pure none
  | some lease =>
    if activeState lease.state = false then pure (some lease)
    else if lease.expiresAt ≤ now then do
      let final ← Leasing.endLease lease .expired (text "expired")
      pure (some final)
    else
      let refusal ← authorizeControl lease.actorId lease.backendId
      match refusal with
      | some error => do
          let final ← Leasing.endLease lease .revoked (orElse error (text "osd_control_revoked"))
          pure (some final)
      | none =>
        let resolved ← resolveViewScope lease.holder now
        match resolved with
        | .error error => do
            let final ← Leasing.endLease lease .revoked
              (orElse error (text "legacy_osd_controller_scope_invalid"))
            pure (some final)
        | .ok scope =>
          match scopeError lease scope with
          | some error => do
              let final ← Leasing.endLease lease .revoked error
              pure (some final)
          | none => pure (some lease)

def acquire (request : OsdControllerAcquireRequest) : Leasing OsdControllerLeaseResult :=
  if request.safe = false then pure (reject (text "legacy_osd_controller_request_invalid"))
  else do
    let now ← Leasing.now
    if now < 0 then pure (reject (text "legacy_osd_time_unavailable"))
    else
      let refusal ← authorizeControl request.actorId request.backendId
      match refusal with
      | some error => pure (reject error)
      | none =>
        let resolved ← resolveViewScope request now
        match resolved with
        | .error error => pure (reject error)
        | .ok scope =>
          let controllerLeaseId ← Leasing.newLeaseId
          if safeIdentifier controllerLeaseId false = false then
            pure (reject (text "legacy_osd_controller_id_unavailable"))
          else Leasing.acquireSurface request scope now controllerLeaseId

def renewalError (request : OsdControllerRenewRequest) (lease : OsdControllerLease) (now : Int) :
    Option Bytes :=
  if request.holds lease = false then some (text "legacy_osd_controller_not_found")
  else if lease.controllerLeaseEpoch ≠ request.controllerLeaseEpoch then
    some (text "controller_lease_conflict")
  else if lease.leaseRevision ≠ request.leaseRevision then some (text "revision_conflict")
  else if activeState lease.state = false then some (terminalRenewError lease)
  else if now < lease.renewAfter then some (text "legacy_osd_controller_renew_too_early")
  else none

/-- The view is resolved once to refresh the lease, and once more for the new expiry; the surface of
the second resolution is not compared with anything. -/
def renew (request : OsdControllerRenewRequest) : Leasing OsdControllerLeaseResult :=
  if request.safe = false ∨ safeIdentifier request.controllerLeaseId false = false ∨
      request.controllerLeaseEpoch = 0 ∨ request.leaseRevision = 0 then
    pure (reject (text "legacy_osd_controller_request_invalid"))
  else do
    let now ← Leasing.now
    if now < 0 then pure (reject (text "legacy_osd_time_unavailable"))
    else
      let refreshed ← refreshLease request.controllerLeaseId now
      match refreshed with
      | none => pure (reject (text "legacy_osd_controller_not_found"))
      | some lease =>
        match renewalError request lease now with
        | some error => pure (reject error)
        | none =>
          let resolved ← resolveViewScope request.toOsdControllerHolder now
          match resolved with
          | .error error => pure (reject error)
          | .ok scope => Leasing.renewLease request scope now

def done (lease : OsdControllerLease) : OsdControllerLeaseResult :=
  { accepted := true, hasLease := true, lease := lease }

def finishLease (lease : OsdControllerLease) (state : OsdControllerLeaseState) (reason : Bytes) :
    Leasing OsdControllerLeaseResult :=
  if activeState lease.state = true then do
    let final ← Leasing.endLease lease state reason
    pure (done final)
  else pure (done lease)

def release (request : OsdControllerReleaseRequest) : Leasing OsdControllerLeaseResult :=
  if request.safe = false ∨ safeIdentifier request.controllerLeaseId false = false ∨
      request.controllerLeaseEpoch = 0 then
    pure (reject (text "legacy_osd_controller_request_invalid"))
  else do
    let stored ← Leasing.find request.controllerLeaseId
    match stored with
    | none => pure (reject (text "legacy_osd_controller_not_found"))
    | some lease =>
      if request.holds lease = false then pure (reject (text "legacy_osd_controller_not_found"))
      else if lease.controllerLeaseEpoch ≠ request.controllerLeaseEpoch then
        pure (reject (text "controller_lease_conflict"))
      else finishLease lease .released (text "released")

def revoke (controllerLeaseId reason : Bytes) : Leasing OsdControllerLeaseResult :=
  if safeIdentifier controllerLeaseId false = false ∨ safeIdentifier reason false = false then
    pure (reject (text "legacy_osd_controller_request_invalid"))
  else do
    let stored ← Leasing.find controllerLeaseId
    match stored with
    | none => pure (reject (text "legacy_osd_controller_not_found"))
    | some lease => finishLease lease .revoked reason

def currentLease (request : OsdControllerStatusRequest) (observedKey : Bytes) (now : Int) :
    Leasing OsdControllerLeaseResult := do
  let resolved ← resolveViewScope request now
  match resolved with
  | .error error => pure (reject error)
  | .ok scope =>
    let currentKey := scope.surfaceKey request.backendId
    if currentKey ≠ observedKey then pure { accepted := true }
    else
      let owner ← Leasing.owner currentKey
      match owner with
      | none => pure { accepted := true }
      | some controllerLeaseId =>
        let refreshed ← refreshLease controllerLeaseId now
        match refreshed with
        | none => pure { accepted := true }
        | some lease =>
          if activeState lease.state = false then pure { accepted := true }
          else pure (done lease)

def current (request : OsdControllerStatusRequest) : Leasing OsdControllerLeaseResult :=
  if request.safe = false then pure (reject (text "legacy_osd_controller_request_invalid"))
  else do
    let now ← Leasing.now
    if now < 0 then pure (reject (text "legacy_osd_time_unavailable"))
    else
      Leasing.reap now
      let found ← Leasing.viewer request.viewerBindingId
      match found with
      | none => pure (reject (text "legacy_osd_controller_viewer_invalid"))
      | some binding =>
        if request.views binding = false ∨ binding.expiresAt ≤ now then
          pure (reject (text "legacy_osd_controller_viewer_invalid"))
        else
          let observedKey := surfaceKey binding.backendId binding.backendGeneration
            binding.osdSurfaceId binding.osdEpoch
          let owner ← Leasing.owner observedKey
          match owner.getD [] with
          | [] => currentLease request observedKey now
          | controllerLeaseId => do
              let _ ← refreshLease controllerLeaseId now
              currentLease request observedKey now

def answerCall : LeaseCall → Leasing OsdControllerLeaseResult
  | .acquire request => acquire request
  | .renew request => renew request
  | .release request => release request
  | .current request => current request
  | .revoke controllerLeaseId reason => revoke controllerLeaseId reason

def serve (call : LeaseCall) : Leasing Unit := do
  Leasing.enter call
  let result ← answerCall call
  Leasing.leave result

/-! ## Threads side by side -/

/-- What the services around this one answer, and the order in which the maps are walked through. -/
structure Answers where
  reply : (effect : LeaseEffect) → LeaseReply effect
  walk : Walk := {}

def perform (answers : Answers) : (effect : LeaseEffect) → LeaseStore → LeaseReply effect × LeaseStore
  | .enter _, store | .leave _, store => ((), store)
  | .find controllerLeaseId, store => (store.lease controllerLeaseId, store)
  | .endLease snapshot state reason, store => endLease snapshot state reason store
  | .reap now, store => ((), reapExpired now store)
  | .owner key, store => (store.owner key, store)
  | .acquireSurface request scope now controllerLeaseId, store =>
    acquireSurface answers.walk request scope now controllerLeaseId store
  | .renewLease request scope now, store => renewLease request scope now store
  | .now, store => (answers.reply .now, store)
  | .context actorId backendId, store => (answers.reply (.context actorId backendId), store)
  | .backendPolicy backendId, store => (answers.reply (.backendPolicy backendId), store)
  | .sessionStatus holder, store => (answers.reply (.sessionStatus holder), store)
  | .viewer viewerBindingId, store => (answers.reply (.viewer viewerBindingId), store)
  | .newLeaseId, store => (answers.reply .newLeaseId, store)

inductive LeaseMove
  | call (call : LeaseCall)
  | advance (thread : Nat) (answers : Answers)

abbrev LeaseSystem : Type := Interleaving.System LeaseEffect LeaseReply Unit LeaseStore

def LeaseMove.toMove : LeaseMove → Interleaving.Move LeaseEffect LeaseReply Unit Answers Empty
  | .call entered => .start (serve entered)
  | .advance thread answers => .advance thread answers

def leaseStep (system : LeaseSystem) (move : LeaseMove) :
    LeaseSystem × Option (Interleaving.Event LeaseReply) :=
  Interleaving.machine perform Empty.elim LeaseMove.toMove system move

def started : LeaseSystem := { state := {} }

end VdrSuite.Osd
