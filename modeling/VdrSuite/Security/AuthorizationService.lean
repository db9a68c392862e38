import VdrSuite.Library.Bytes

/-! Authorization: the passes over an identity and its grants, and the policy that they decide. -/

set_option autoImplicit false

namespace VdrSuite.Security

open Library

inductive ActorType
  | anonymous
  | user
  | service
  | agent
  | system
  deriving DecidableEq

inductive AuthenticationState
  | anonymous
  | authenticated
  | invalid
  | expired
  | revoked
  deriving DecidableEq

inductive PermissionGrantResolutionState
  | notRequired
  | resolved
  | unavailable
  deriving DecidableEq

structure PermissionGrant where
  permission : Bytes
  backendId : Bytes := text "*"
  deriving DecidableEq

structure ActorIdentity where
  actorId : Bytes := []
  type : ActorType := .anonymous
  displayName : Bytes := []
  active : Bool := true
  deriving DecidableEq

structure DeviceIdentity where
  deviceId : Bytes := []
  active : Bool := true
  deriving DecidableEq

structure SessionIdentity where
  sessionId : Bytes := []
  active : Bool := true
  expired : Bool := false
  revoked : Bool := false
  deriving DecidableEq

structure CredentialIdentity where
  credentialId : Bytes := []
  active : Bool := true
  expired : Bool := false
  revoked : Bool := false
  deriving DecidableEq

structure RequestSecurityContext where
  authenticationState : AuthenticationState := .anonymous
  actor : ActorIdentity := {}
  device : Option DeviceIdentity := none
  session : Option SessionIdentity := none
  credential : Option CredentialIdentity := none
  grants : List PermissionGrant := []
  permissionGrantResolution : PermissionGrantResolutionState := .notRequired
  deriving DecidableEq

def RequestSecurityContext.authenticated (context : RequestSecurityContext) : Bool :=
  context.authenticationState == .authenticated && context.actor.active &&
  !context.actor.actorId.isEmpty && context.device.all (·.active) &&
  context.session.all (fun session => session.active && !session.expired && !session.revoked) &&
  context.credential.all
    (fun credential => credential.active && !credential.expired && !credential.revoked)

structure AuthorizationRequest where
  permission : Bytes
  backendId : Bytes
  action : Bytes
  deriving DecidableEq

structure AuthorizationDecision where
  allowed : Bool := false
  reasonCode : String
  permission : Bytes
  backendId : Bytes
  action : Bytes
  deriving DecidableEq

/-! ## Classes of permissions -/

def protectedMutationPermissions : List Bytes :=
  [text "addons.media.import", text "addons.media.shrink", text "remote.control",
    text "timers.create", text "timers.modify", text "timers.delete", text "channels.move",
    text "recordings.rename", text "recordings.move", text "recordings.delete",
    text "recordings.cut", text "recordings.marks.modify", text "metadata.recording.assign",
    text "searchtimers.create", text "searchtimers.modify", text "searchtimers.delete",
    text "searchtimers.execute", text "searchtimers.preview-cache.refresh",
    text "epg.cache.refresh", text "epgsearch.native-fuzzy.refresh",
    text "epgsearch.native-fuzzy.stale-probes.delete",
    text "backend.settings.series-artwork.modify", text "backend.settings.media-transcode.modify",
    text "accounts.create", text "accounts.modify", text "accounts.activate",
    text "accounts.deactivate", text "accounts.grants.modify", text "devices.grants.modify",
    text "devices.revoke", text "devices.credentials.revoke", text "devices.credentials.rotate",
    text "accounts.credentials.revoke", text "accounts.sessions.revoke",
    text "device.pairing.decide", text "backend.agent.enroll", text "backend.agent.revoke",
    text "backend.agent.credential.rotate", text "broadcast.hbbtv.launch",
    text "broadcast.hbbtv.input", text "broadcast.session.manage_own",
    text "broadcast.session.manage_all"]

def protectedMutationPermission (permission : Bytes) : Bool :=
  protectedMutationPermissions.contains permission

def mediaPermission (permission : Bytes) : Bool :=
  [text "media.recording.play", text "media.live.play"].contains permission

def adminReadPermission (permission : Bytes) : Bool :=
  [text "backend.settings.media-transcode.read", text "accounts.view",
    text "accounts.grants.view", text "devices.grants.view", text "devices.lifecycle.view",
    text "accounts.credentials.view", text "accounts.sessions.view", text "device.pairing.view",
    text "broadcast.teletext.view", text "broadcast.hbbtv.view"].contains permission

/-- What `role.admin` covers: reviewed permissions only, and never an unknown one. -/
def adminRoleGrants (permission : Bytes) : Bool :=
  protectedMutationPermission permission || mediaPermission permission ||
  adminReadPermission permission ||
  [text "channels.view", text "recordings.view", text "recordings.execute", text "epg.view",
    text "timers.view", text "searchtimers.view", text "osd.view",
    text "osd.control"].contains permission

def mutatingPermission (permission : Bytes) : Bool :=
  protectedMutationPermission permission || permission == text "osd.control"

def nativeTimerAdminAction (request : AuthorizationRequest) : Bool :=
  (request.permission == text "timers.view" && request.action == text "native_timers.view") ||
  (request.permission == text "timers.create" && request.action == text "native_timers.create") ||
  (request.permission == text "timers.modify" && request.action == text "native_timers.modify") ||
  (request.permission == text "timers.delete" && request.action == text "native_timers.delete")

def addonPermission (permission : Bytes) : Bool := (text "addons.").isPrefixOf permission

def supportedAddonPermission (permission : Bytes) : Bool :=
  permission == text "addons.media.import" || permission == text "addons.media.shrink"

/-! ## The decision -/

def identityRefusal (context : RequestSecurityContext) : Option String :=
  if context.authenticationState = .anonymous then some "authentication_required"
  else if context.authenticationState = .invalid then some "invalid_credentials"
  else if context.actor.active = false ∨ context.actor.actorId = [] then some "actor_revoked"
  else if context.device.any (fun device => !device.active) then some "device_revoked"
  else if context.credential.any (fun credential => credential.revoked || !credential.active) then
    some "credential_revoked"
  else if context.credential.any (·.expired) then some "credential_expired"
  else if context.session.any (fun session => session.revoked || !session.active) then
    some "session_revoked"
  else if context.session.any (·.expired) then some "session_expired"
  else if context.authenticationState = .expired then some "session_expired"
  else if context.authenticationState = .revoked then some "session_revoked"
  else if context.permissionGrantResolution = .unavailable then
    some "permission_grants_unavailable"
  else none

def isReadOnlyMutation (context : RequestSecurityContext) (request : AuthorizationRequest) : Bool :=
  mutatingPermission request.permission &&
  context.grants.any fun grant =>
    grant.permission == text "role.read-only" && grant.backendId == request.backendId

def globalAdministrator (grant : PermissionGrant) : Bool :=
  grant.permission == text "role.admin" && grant.backendId == text "*"

def authorizeAddon (context : RequestSecurityContext) (request : AuthorizationRequest) :
    Bool × String :=
  if supportedAddonPermission request.permission = false then (false, "permission_denied")
  else if request.backendId ≠ text "*" ∧ context.actor.type = .user ∧
      context.grants.any globalAdministrator = true then (true, "role_permission_granted")
  else if context.grants.any (fun grant => grant.permission == request.permission &&
      grant.backendId == request.backendId && request.backendId != text "*") then
    (true, "permission_granted")
  else (false, "permission_denied")

def roleApplies (request : AuthorizationRequest) (grant : PermissionGrant) : Bool :=
  grant.permission == text "role.admin" &&
    (adminRoleGrants request.permission || nativeTimerAdminAction request)

def roleCovers (context : RequestSecurityContext) (request : AuthorizationRequest)
    (grant : PermissionGrant) : Bool :=
  grant.backendId == request.backendId ||
    (grant.backendId == text "*" &&
      (nativeTimerAdminAction request || context.actor.type == .user))

def permissionMatches (request : AuthorizationRequest) (grant : PermissionGrant) : Bool :=
  grant.permission == text "*" || grant.permission == request.permission

def backendMatches (request : AuthorizationRequest) (grant : PermissionGrant) : Bool :=
  grant.backendId == [] || grant.backendId == text "*" || grant.backendId == request.backendId

def authorizeGrants (context : RequestSecurityContext) (request : AuthorizationRequest) :
    Bool × String :=
  if context.grants.any (fun grant => roleApplies request grant && roleCovers context request grant) then
    (true, "role_permission_granted")
  else if context.grants.any (fun grant =>
      permissionMatches request grant && backendMatches request grant) then
    (true, "permission_granted")
  else if context.grants.any (fun grant => roleApplies request grant || permissionMatches request grant)
    then (false, "backend_scope_denied")
  else (false, "permission_denied")

def outcome (context : RequestSecurityContext) (request : AuthorizationRequest) : Bool × String :=
  match identityRefusal context with
  | some reasonCode => (false, reasonCode)
  | none =>
    if request.permission = [] then (false, "invalid_permission")
    else if request.backendId = [] then (false, "invalid_backend_scope")
    else if isReadOnlyMutation context request = true then (false, "role_read_only")
    else if addonPermission request.permission = true then authorizeAddon context request
    else authorizeGrants context request

def authorize (context : RequestSecurityContext) (request : AuthorizationRequest) :
    AuthorizationDecision :=
  { allowed := (outcome context request).1
    reasonCode := (outcome context request).2
    permission := request.permission
    backendId := request.backendId
    action := request.action }

/-! ## The policy -/

/-- An identity that nothing has revoked or let expire, with the grants that it has. -/
structure MayAct (context : RequestSecurityContext) : Prop where
  authenticated : context.authenticationState = .authenticated
  actor : context.actor.active = true ∧ context.actor.actorId ≠ []
  device : ∀ device ∈ context.device, device.active = true
  credential : ∀ credential ∈ context.credential,
    credential.active = true ∧ credential.revoked = false ∧ credential.expired = false
  session : ∀ session ∈ context.session,
    session.active = true ∧ session.revoked = false ∧ session.expired = false
  grants : context.permissionGrantResolution ≠ .unavailable

def ReadOnlyOn (covers : Bytes → Bytes → Prop) (context : RequestSecurityContext)
    (backendId : Bytes) : Prop :=
  ∃ grant ∈ context.grants, grant.permission = text "role.read-only" ∧ covers grant.backendId backendId

structure AddonPermitted (context : RequestSecurityContext) (request : AuthorizationRequest) :
    Prop where
  supported : supportedAddonPermission request.permission = true
  concrete : request.backendId ≠ text "*"
  granted : ⟨request.permission, request.backendId⟩ ∈ context.grants ∨
    (context.actor.type = .user ∧ ⟨text "role.admin", text "*"⟩ ∈ context.grants)

/-- The administrator's role on its own backend, and from the wildcard for users and for the
administration of native timers. -/
def RolePermitted (context : RequestSecurityContext) (request : AuthorizationRequest) : Prop :=
  adminRoleGrants request.permission = true ∧ ∃ grant ∈ context.grants,
    grant.permission = text "role.admin" ∧ (grant.backendId = request.backendId ∨
      (grant.backendId = text "*" ∧
        (context.actor.type = .user ∨ nativeTimerAdminAction request = true)))

def DirectlyPermitted (context : RequestSecurityContext) (request : AuthorizationRequest) : Prop :=
  ∃ grant ∈ context.grants, (grant.permission = request.permission ∨ grant.permission = text "*") ∧
    (grant.backendId = request.backendId ∨ grant.backendId = text "*" ∨ grant.backendId = [])

structure Permitted (covers : Bytes → Bytes → Prop) (context : RequestSecurityContext)
    (request : AuthorizationRequest) : Prop where
  mayAct : MayAct context
  permission : request.permission ≠ []
  backend : request.backendId ≠ []
  writable : mutatingPermission request.permission = true →
    ¬ ReadOnlyOn covers context request.backendId
  granted : if addonPermission request.permission = true then AddonPermitted context request
    else RolePermitted context request ∨ DirectlyPermitted context request

/-! ## The decision follows the policy -/

theorem refused_eq_none_iff {condition : Prop} [Decidable condition] {reasonCode : String}
    {rest : Option String} :
    (if condition then some reasonCode else rest) = none ↔ ¬ condition ∧ rest = none := by
  split
  · next met => exact iff_of_false nofun fun unmet => unmet.1 met
  · next unmet => exact (and_iff_right unmet).symm

theorem not_any_iff {Part : Type} (part : Option Part) (check : Part → Bool) :
    ¬ part.any check = true ↔ ∀ value ∈ part, check value = false := by
  cases part with
  | none => simp
  | some value => simp

theorem identityRefusal_eq_none_iff (context : RequestSecurityContext) :
    identityRefusal context = none ↔ MayAct context := by
  unfold identityRefusal
  simp only [refused_eq_none_iff, not_any_iff, Bool.or_eq_false_iff, Bool.not_eq_false',
    not_or, Bool.not_eq_false, and_true]
  constructor
  · rintro ⟨notAnonymous, notInvalid, actor, device, credential, fresh, session, current, notExpired,
      notRevoked, grants⟩
    refine ⟨?_, actor, device, ?_, ?_, grants⟩
    · cases state : context.authenticationState with
      | authenticated => rfl
      | anonymous => exact absurd state notAnonymous
      | invalid => exact absurd state notInvalid
      | expired => exact absurd state notExpired
      | revoked => exact absurd state notRevoked
    · intro value present
      exact ⟨(credential value present).2, (credential value present).1, fresh value present⟩
    · intro value present
      exact ⟨(session value present).2, (session value present).1, current value present⟩
  · intro mayAct
    rw [mayAct.authenticated]
    refine ⟨nofun, nofun, mayAct.actor, mayAct.device, ?_, ?_, ?_, ?_, nofun, nofun, mayAct.grants⟩
    · intro value present
      exact ⟨(mayAct.credential value present).2.1, (mayAct.credential value present).1⟩
    · intro value present
      exact (mayAct.credential value present).2.2
    · intro value present
      exact ⟨(mayAct.session value present).2.1, (mayAct.session value present).1⟩
    · intro value present
      exact (mayAct.session value present).2.2

theorem isReadOnlyMutation_iff (context : RequestSecurityContext) (request : AuthorizationRequest) :
    isReadOnlyMutation context request = true ↔
      mutatingPermission request.permission = true ∧ ReadOnlyOn (· = ·) context request.backendId := by
  simp only [isReadOnlyMutation, ReadOnlyOn, Bool.and_eq_true, List.any_eq_true, beq_iff_eq]

theorem authorizeAddon_iff (context : RequestSecurityContext) (request : AuthorizationRequest) :
    (authorizeAddon context request).1 = true ↔ AddonPermitted context request := by
  unfold authorizeAddon
  split
  · next unsupported =>
    refine iff_of_false nofun fun permitted => ?_
    rw [permitted.supported] at unsupported
    cases unsupported
  · next supported =>
    rw [Bool.not_eq_false] at supported
    split
    · next admin =>
      obtain ⟨concrete, user, granted⟩ := admin
      obtain ⟨⟨permission, backendId⟩, member, matched⟩ := List.any_eq_true.mp granted
      rw [globalAdministrator, Bool.and_eq_true, beq_iff_eq, beq_iff_eq] at matched
      obtain ⟨rfl, rfl⟩ := matched
      exact iff_of_true rfl ⟨supported, concrete, .inr ⟨user, member⟩⟩
    · next notAdmin =>
      split
      · next granted =>
        obtain ⟨⟨permission, backendId⟩, member, matched⟩ := List.any_eq_true.mp granted
        simp only [Bool.and_eq_true, beq_iff_eq, bne_iff_ne] at matched
        obtain ⟨⟨rfl, rfl⟩, concrete⟩ := matched
        exact iff_of_true rfl ⟨supported, concrete, .inl member⟩
      · next notGranted =>
        refine iff_of_false nofun fun permitted => ?_
        rcases permitted.granted with member | ⟨user, member⟩
        · refine notGranted (List.any_eq_true.mpr ⟨_, member, ?_⟩)
          simpa using permitted.concrete
        · exact notAdmin ⟨permitted.concrete, user,
            List.any_eq_true.mpr ⟨_, member, by simp [globalAdministrator]⟩⟩

theorem adminRoleGrants_of_native {request : AuthorizationRequest}
    (native : nativeTimerAdminAction request = true) :
    adminRoleGrants request.permission = true := by
  simp only [nativeTimerAdminAction, Bool.or_eq_true, Bool.and_eq_true, beq_iff_eq] at native
  obtain ((view | create) | modify) | delete := native
  · rw [view.1]
    decide
  · rw [create.1]
    decide
  · rw [modify.1]
    decide
  · rw [delete.1]
    decide

theorem roleApplies_iff (request : AuthorizationRequest) (grant : PermissionGrant) :
    roleApplies request grant = true ↔
      grant.permission = text "role.admin" ∧ adminRoleGrants request.permission = true := by
  simp only [roleApplies, Bool.and_eq_true, beq_iff_eq, Bool.or_eq_true, and_congr_right_iff]
  intro role
  exact ⟨fun covered => covered.elim id adminRoleGrants_of_native, .inl⟩

theorem authorizeGrants_iff (context : RequestSecurityContext) (request : AuthorizationRequest) :
    (authorizeGrants context request).1 = true ↔
      RolePermitted context request ∨ DirectlyPermitted context request := by
  have role : context.grants.any (fun grant =>
      roleApplies request grant && roleCovers context request grant) = true ↔
      RolePermitted context request := by
    simp only [List.any_eq_true, Bool.and_eq_true, roleApplies_iff, roleCovers, RolePermitted,
      Bool.or_eq_true, beq_iff_eq]
    constructor
    · rintro ⟨grant, member, ⟨admin, covered⟩, scope⟩
      exact ⟨covered, grant, member, admin, scope.imp_right (And.imp_right Or.symm)⟩
    · rintro ⟨covered, grant, member, admin, scope⟩
      exact ⟨grant, member, ⟨admin, covered⟩, scope.imp_right (And.imp_right Or.symm)⟩
  have direct : context.grants.any (fun grant =>
      permissionMatches request grant && backendMatches request grant) = true ↔
      DirectlyPermitted context request := by
    simp only [List.any_eq_true, Bool.and_eq_true, permissionMatches, backendMatches,
      DirectlyPermitted, Bool.or_eq_true, beq_iff_eq]
    constructor
    · rintro ⟨grant, member, permission, (empty | wildcard) | own⟩
      · exact ⟨grant, member, permission.symm, .inr (.inr empty)⟩
      · exact ⟨grant, member, permission.symm, .inr (.inl wildcard)⟩
      · exact ⟨grant, member, permission.symm, .inl own⟩
    · rintro ⟨grant, member, permission, own | wildcard | empty⟩
      · exact ⟨grant, member, permission.symm, .inr own⟩
      · exact ⟨grant, member, permission.symm, .inl (.inr wildcard)⟩
      · exact ⟨grant, member, permission.symm, .inl (.inl empty)⟩
  unfold authorizeGrants
  rw [← role, ← direct]
  split
  · next granted => exact iff_of_true rfl (.inl granted)
  · next noRole =>
    split
    · next granted => exact iff_of_true rfl (.inr granted)
    · next noDirect =>
      refine iff_of_false ?_ (not_or.mpr ⟨noRole, noDirect⟩)
      split
      · nofun
      · nofun

/-- The decision is that of the policy in which a read-only role covers its own backend only. -/
theorem authorize_follows_policy (context : RequestSecurityContext) (request : AuthorizationRequest) :
    (authorize context request).allowed = true ↔ Permitted (· = ·) context request := by
  change (outcome context request).1 = true ↔ _
  unfold outcome
  cases refused : identityRefusal context with
  | some reasonCode =>
    refine iff_of_false nofun fun permitted => ?_
    rw [(identityRefusal_eq_none_iff context).mpr permitted.mayAct] at refused
    cases refused
  | none =>
    have mayAct := (identityRefusal_eq_none_iff context).mp refused
    dsimp only
    split
    · next empty => exact iff_of_false nofun fun permitted => permitted.permission empty
    · next permission =>
      split
      · next empty => exact iff_of_false nofun fun permitted => permitted.backend empty
      · next backend =>
        split
        · next readOnly =>
          obtain ⟨mutating, restricted⟩ := (isReadOnlyMutation_iff context request).mp readOnly
          exact iff_of_false nofun fun permitted => permitted.writable mutating restricted
        · next writable =>
          rw [isReadOnlyMutation_iff, not_and] at writable
          split
          · next addon =>
            rw [authorizeAddon_iff]
            constructor
            · intro granted
              exact ⟨mayAct, permission, backend, writable, by rwa [if_pos addon]⟩
            · intro permitted
              simpa only [if_pos addon] using permitted.granted
          · next general =>
            rw [authorizeGrants_iff]
            constructor
            · intro granted
              exact ⟨mayAct, permission, backend, writable, by rwa [if_neg general]⟩
            · intro permitted
              simpa only [if_neg general] using permitted.granted

/-- A user who may use the remote control on a backend, with a read-only role on the wildcard. -/
def wildcardReadOnlyContext : RequestSecurityContext :=
  { authenticationState := .authenticated
    actor := { actorId := text "user-1", type := .user }
    grants := [⟨text "remote.control", text "default"⟩, ⟨text "role.read-only", text "*"⟩]
    permissionGrantResolution := .resolved }

def remoteControlRequest : AuthorizationRequest :=
  { permission := text "remote.control"
    backendId := text "default"
    action := text "remote.control" }

/-- A read-only role on the wildcard does not restrict a concrete backend. -/
theorem wildcard_read_only_is_no_restriction :
    ¬ ∀ context request, (authorize context request).allowed = true ↔
      Permitted (fun scope backendId => scope = backendId ∨ scope = text "*") context request := by
  intro claimed
  have permitted := (claimed wildcardReadOnlyContext remoteControlRequest).mp (by decide)
  refine permitted.writable (by decide) ?_
  exact ⟨⟨text "role.read-only", text "*"⟩, List.mem_cons_of_mem _ List.mem_cons_self, rfl, .inr rfl⟩

end VdrSuite.Security
