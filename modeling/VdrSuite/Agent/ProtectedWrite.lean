import VdrSuite.Agent.LocalProvider
import VdrSuite.Library.Run

/-! The gate of protected writes, and a caller that stores a record before it executes. -/

set_option autoImplicit false

namespace VdrSuite.Agent

open Library

structure BackendAgentProtectedWriteResourceRef where
  resourceType : Bytes := []
  resourceId : Bytes := []
  expectedRevision : Bytes := []
  deriving DecidableEq

structure BackendAgentProtectedWriteResourceScope where
  resourceType : Bytes := []
  resourceId : Bytes := []
  deriving DecidableEq

structure BackendAgentProtectedWriteObservedResource where
  resourceType : Bytes := []
  resourceId : Bytes := []
  currentRevision : Bytes := []
  deriving DecidableEq

structure BackendAgentProtectedWriteLease where
  leaseId : Bytes := []
  backendId : Bytes := []
  authorityDomain : Bytes := []
  authorityGeneration : Nat := 0
  expiresAt : Int := 0
  active : Bool := false
  allowedCapabilities : List Bytes := []
  resources : List BackendAgentProtectedWriteResourceScope := []
  deriving DecidableEq

inductive BackendAgentProtectedWriteIdempotencyState where
  | absent
  | reserved
  | outcomeUnknown
  | completed
  deriving DecidableEq

structure BackendAgentProtectedWriteIdempotencyRecord where
  present : Bool := false
  idempotencyKey : Bytes := []
  operationId : Bytes := []
  requestFingerprint : Bytes := []
  state : BackendAgentProtectedWriteIdempotencyState := .absent
  durableResultReference : Bytes := []
  deriving DecidableEq

structure BackendAgentProtectedWriteRequest where
  operationId : Bytes := []
  idempotencyKey : Bytes := []
  requestFingerprint : Bytes := []
  expectedAuthorityGeneration : Nat := 0
  leaseId : Bytes := []
  leaseExpiresAt : Int := 0
  requiredWriteCapability : Bytes := []
  resources : List BackendAgentProtectedWriteResourceRef := []
  providerSelection : BackendAgentLocalProviderSelection := {}
  readbackRequired : Bool := true
  deriving DecidableEq

inductive BackendAgentProtectedWriteDecision where
  | reject
  | reserveThenExecuteOnce
  | returnPersistedResult
  | reconcileUnknownOutcome
  deriving DecidableEq

structure BackendAgentProtectedWriteDecisionResult where
  decision : BackendAgentProtectedWriteDecision := .reject
  reasonCode : String
  deriving DecidableEq

/-! ## Validity -/

def safeOpaque (value : Bytes) (maximum : Nat) : Bool :=
  !value.isEmpty && value.length ≤ maximum && value.all fun byte => !(byte < 0x20 || byte == 0x7f)

def validResourceRef (resource : BackendAgentProtectedWriteResourceRef) : Bool :=
  safeIdentifier resource.resourceType && safeOpaque resource.resourceId 512 &&
  safeOpaque resource.expectedRevision 256

def validResourceScope (resource : BackendAgentProtectedWriteResourceScope) : Bool :=
  safeIdentifier resource.resourceType && safeOpaque resource.resourceId 512

def validObservedResource (resource : BackendAgentProtectedWriteObservedResource) : Bool :=
  safeIdentifier resource.resourceType && safeOpaque resource.resourceId 512 &&
  safeOpaque resource.currentRevision 256

/-- At most 64 valid resources, and some; `identity` gives their types and ids. -/
def boundedUniqueResources {Resource : Type} (identity : Resource → Bytes × Bytes)
    (validator : Resource → Bool) (values : List Resource) : Bool :=
  !values.isEmpty && values.length ≤ 64 && values.all validator &&
  decide (values.map identity).Nodup

def BackendAgentProtectedWriteResourceRef.identity
    (resource : BackendAgentProtectedWriteResourceRef) : Bytes × Bytes :=
  (resource.resourceType, resource.resourceId)

def BackendAgentProtectedWriteResourceScope.identity
    (resource : BackendAgentProtectedWriteResourceScope) : Bytes × Bytes :=
  (resource.resourceType, resource.resourceId)

def BackendAgentProtectedWriteObservedResource.identity
    (resource : BackendAgentProtectedWriteObservedResource) : Bytes × Bytes :=
  (resource.resourceType, resource.resourceId)

def boundedUniqueCapabilities (capabilities : List Bytes) : Bool :=
  boundedUniqueIdentifiers capabilities

def scopeContains (scopes : List BackendAgentProtectedWriteResourceScope)
    (resource : BackendAgentProtectedWriteResourceRef) : Bool :=
  scopes.any fun scope =>
    scope.resourceType == resource.resourceType && scope.resourceId == resource.resourceId

def findObserved (observed : List BackendAgentProtectedWriteObservedResource)
    (resource : BackendAgentProtectedWriteResourceRef) :
    Option BackendAgentProtectedWriteObservedResource :=
  observed.find? fun current =>
    current.resourceType == resource.resourceType && current.resourceId == resource.resourceId

def backendAgentProtectedWriteValidRequest (request : BackendAgentProtectedWriteRequest) : Bool :=
  safeIdentifier request.operationId &&
  safeOpaque request.idempotencyKey 256 &&
  safeOpaque request.requestFingerprint 256 &&
  0 < request.expectedAuthorityGeneration &&
  safeIdentifier request.leaseId && decide (0 < request.leaseExpiresAt) &&
  safeIdentifier request.requiredWriteCapability &&
  boundedUniqueResources (·.identity) validResourceRef request.resources &&
  backendAgentLocalProviderValidSelection request.providerSelection &&
  request.providerSelection.requiredCapability == request.requiredWriteCapability &&
  request.readbackRequired

def backendAgentProtectedWriteValidLease (lease : BackendAgentProtectedWriteLease) : Bool :=
  safeIdentifier lease.leaseId && safeIdentifier lease.backendId &&
  safeIdentifier lease.authorityDomain && 0 < lease.authorityGeneration &&
  decide (0 < lease.expiresAt) && boundedUniqueCapabilities lease.allowedCapabilities &&
  boundedUniqueResources (·.identity) validResourceScope lease.resources

def backendAgentProtectedWriteValidIdempotencyRecord
    (record : BackendAgentProtectedWriteIdempotencyRecord) : Bool :=
  if record.present = false then
    record.idempotencyKey.isEmpty && record.operationId.isEmpty &&
    record.requestFingerprint.isEmpty && record.durableResultReference.isEmpty &&
    record.state == .absent
  else if (safeOpaque record.idempotencyKey 256 && safeIdentifier record.operationId &&
      safeOpaque record.requestFingerprint 256 && record.state != .absent) = false then
    false
  else if record.state = .completed then safeOpaque record.durableResultReference 512
  else record.durableResultReference.isEmpty

def backendAgentProtectedWriteValidObservedResources
    (resources : List BackendAgentProtectedWriteObservedResource) : Bool :=
  boundedUniqueResources (·.identity) validObservedResource resources

/-! ## The decision -/

def reject (reasonCode : String) : BackendAgentProtectedWriteDecisionResult :=
  { decision := .reject, reasonCode }

def revisionFault (observed : List BackendAgentProtectedWriteObservedResource)
    (resource : BackendAgentProtectedWriteResourceRef) : Option String :=
  match findObserved observed resource with
  | none => some "protected_write_resource_state_missing"
  | some current =>
    if current.currentRevision ≠ resource.expectedRevision then
      some "protected_write_revision_conflict"
    else none

def backendAgentProtectedWriteDecide (request : BackendAgentProtectedWriteRequest)
    (idempotency : BackendAgentProtectedWriteIdempotencyRecord)
    (lease : BackendAgentProtectedWriteLease) (ownership : BackendAgentLocalProviderOwnership)
    (facts : BackendAgentLocalProviderFacts)
    (observedResources : List BackendAgentProtectedWriteObservedResource) (now : Int) :
    BackendAgentProtectedWriteDecisionResult :=
  if backendAgentProtectedWriteValidRequest request = false ∨
      backendAgentProtectedWriteValidIdempotencyRecord idempotency = false ∨ now ≤ 0 then
    reject "invalid_protected_write_contract"
  else if idempotency.present then
    if idempotency.idempotencyKey ≠ request.idempotencyKey then
      reject "protected_write_idempotency_lookup_mismatch"
    else if idempotency.operationId ≠ request.operationId ∨
        idempotency.requestFingerprint ≠ request.requestFingerprint then
      reject "protected_write_idempotency_conflict"
    else if idempotency.state = .completed then
      { decision := .returnPersistedResult, reasonCode := "protected_write_duplicate_completed" }
    else
      { decision := .reconcileUnknownOutcome
        reasonCode := "protected_write_outcome_requires_reconciliation" }
  else if backendAgentProtectedWriteValidLease lease = false then
    reject "invalid_protected_write_lease"
  else if lease.active = false then reject "protected_write_lease_inactive"
  else if request.leaseId ≠ lease.leaseId ∨ request.leaseExpiresAt ≠ lease.expiresAt then
    reject "protected_write_lease_changed"
  else if lease.expiresAt ≤ now then reject "protected_write_lease_expired"
  else if lease.backendId ≠ request.providerSelection.backendId ∨
      lease.authorityDomain ≠ request.providerSelection.authorityDomain then
    reject "protected_write_lease_authority_scope_mismatch"
  else if request.requiredWriteCapability ∉ lease.allowedCapabilities then
    reject "protected_write_lease_capability_not_authorized"
  else if request.resources.all (scopeContains lease.resources) = false then
    reject "protected_write_lease_resource_not_authorized"
  else if request.expectedAuthorityGeneration ≠ lease.authorityGeneration ∨
      request.expectedAuthorityGeneration ≠ request.providerSelection.ownershipGeneration then
    reject "protected_write_authority_generation_changed"
  else if backendAgentLocalProviderValidOwnership ownership = false ∨
      backendAgentLocalProviderValidFacts facts = false then
    reject "invalid_protected_write_provider_state"
  else
    match backendAgentLocalProviderSelectionUsable request.providerSelection ownership facts with
    | .error _ => reject "protected_write_provider_selection_not_current"
    | .ok _ =>
      if backendAgentProtectedWriteValidObservedResources observedResources = false ∨
          observedResources.length ≠ request.resources.length then
        reject "protected_write_resource_state_missing"
      else
        match request.resources.findSome? (revisionFault observedResources) with
        | some reason => reject reason
        | none =>
          { decision := .reserveThenExecuteOnce
            reasonCode := "protected_write_authorized_once" }

/-! ## A caller

The caller looks the record of a request up and lets the gate decide. A write that may be executed
is executed only once its record has been stored, and a stored key is never stored again. -/

/-- Everything that a decision looks at besides the request and its record. -/
structure ProtectedWriteSituation where
  lease : BackendAgentProtectedWriteLease
  ownership : BackendAgentLocalProviderOwnership
  facts : BackendAgentLocalProviderFacts
  observedResources : List BackendAgentProtectedWriteObservedResource
  now : Int

structure ProtectedWriteState where
  records : List BackendAgentProtectedWriteIdempotencyRecord := []
  /-- Decided to be executed, and not yet reserved. -/
  authorized : List BackendAgentProtectedWriteRequest := []
  /-- Reserved, and not yet executed. -/
  reserved : List BackendAgentProtectedWriteRequest := []
  executed : List BackendAgentProtectedWriteRequest := []
  deriving DecidableEq

def lookupRecord (records : List BackendAgentProtectedWriteIdempotencyRecord)
    (idempotencyKey : Bytes) : BackendAgentProtectedWriteIdempotencyRecord :=
  (records.find? fun record => record.idempotencyKey == idempotencyKey).getD {}

def decideIn (situation : ProtectedWriteSituation) (request : BackendAgentProtectedWriteRequest)
    (record : BackendAgentProtectedWriteIdempotencyRecord) :
    BackendAgentProtectedWriteDecisionResult :=
  backendAgentProtectedWriteDecide request record situation.lease situation.ownership
    situation.facts situation.observedResources situation.now

def decideStored (state : ProtectedWriteState) (request : BackendAgentProtectedWriteRequest)
    (situation : ProtectedWriteSituation) : BackendAgentProtectedWriteDecisionResult :=
  decideIn situation request (lookupRecord state.records request.idempotencyKey)

def reservationRecord (request : BackendAgentProtectedWriteRequest) :
    BackendAgentProtectedWriteIdempotencyRecord :=
  { present := true
    idempotencyKey := request.idempotencyKey
    operationId := request.operationId
    requestFingerprint := request.requestFingerprint
    state := .reserved }

/-- What callers may do next, in any order; a caller that stops has no further events. -/
inductive ProtectedWriteEvent where
  | decide (request : BackendAgentProtectedWriteRequest) (situation : ProtectedWriteSituation)
  /-- A reservation may be stored without its caller being told so. -/
  | reserve (request : BackendAgentProtectedWriteRequest) (persists confirmed : Bool)
  | execute (request : BackendAgentProtectedWriteRequest)
  /-- The outcome of a reserved write, or what reconciliation has found out about it. -/
  | settle (idempotencyKey : Bytes) (outcome : BackendAgentProtectedWriteIdempotencyState)
      (durableResultReference : Bytes)

def reserveWrite (state : ProtectedWriteState) (request : BackendAgentProtectedWriteRequest)
    (persists confirmed : Bool) : ProtectedWriteState :=
  if request ∉ state.authorized then state
  else
    let remaining := { state with authorized := state.authorized.erase request }
    if persists = false ∨ (lookupRecord state.records request.idempotencyKey).present then remaining
    else
      { remaining with
        records := state.records ++ [reservationRecord request]
        reserved := if confirmed then state.reserved ++ [request] else state.reserved }

def protectedWriteStep (state : ProtectedWriteState) (event : ProtectedWriteEvent) :
    ProtectedWriteState × Option BackendAgentProtectedWriteDecisionResult :=
  match event with
  | .decide request situation =>
    let result := decideStored state request situation
    if result.decision = .reserveThenExecuteOnce then
      ({ state with authorized := state.authorized ++ [request] }, some result)
    else (state, some result)
  | .reserve request persists confirmed =>
    (reserveWrite state request persists confirmed, none)
  | .execute request =>
    if request ∈ state.reserved then
      ({ state with
          reserved := state.reserved.erase request
          executed := state.executed ++ [request] }, none)
    else (state, none)
  | .settle idempotencyKey outcome durableResultReference =>
    ({ state with
        records := state.records.map fun record =>
          if record.idempotencyKey = idempotencyKey then
            { record with state := outcome, durableResultReference }
          else record }, none)

end VdrSuite.Agent
