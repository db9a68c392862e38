import Mathlib.Data.List.Basic
import VdrSuite.Agent.LocalProvider

/-! The ownership and fact tables of local providers: who may serve a backend's authority domain. -/

set_option autoImplicit false

namespace VdrSuite.Core

open Library Agent

/-! ## Capability lists -/

def identifiers (values : List Bytes) : Bytes :=
  [44].intercalate values

def appendIdentifier (values : List Bytes) (value : Bytes) : Option (List Bytes) :=
  if safeIdentifier value = false ∨ value ∈ values then none
  else if (values ++ [value]).length > 64 then none
  else some (values ++ [value])

/-- The comma-separated identifiers of a column; any unsafe or repeated one fails the whole list. -/
def parseIdentifiers (encoded : Bytes) : Option (List Bytes) :=
  if encoded.isEmpty then none
  else (encoded.splitOn 44).foldlM appendIdentifier []

/-! ## Tables -/

/-- A row of `backend_agent_local_provider_ownership`. -/
structure OwnershipRow where
  backendId : Bytes
  authorityDomain : Bytes
  providerId : Bytes
  providerKind : Bytes
  ownershipGeneration : Nat
  allowedCapabilities : Bytes
  active : Bool
  updatedAt : Int
  deriving DecidableEq

/-- A row of `backend_agent_local_provider_facts`. -/
structure FactsRow where
  backendId : Bytes
  agentId : Bytes
  agentInstanceId : Bytes
  backendGeneration : Nat
  providerId : Bytes
  providerKind : Bytes
  providerInstanceEpoch : Bytes
  providerGeneration : Nat
  capabilityRevision : Nat
  available : Bool
  capabilities : Bytes
  observedAt : Int
  deriving DecidableEq

structure BackendAgentLocalProviderOwnershipStatus where
  present : Bool := false
  active : Bool := false
  ownership : BackendAgentLocalProviderOwnership := {}
  deriving DecidableEq

def OwnershipRow.keyed (backendId authorityDomain : Bytes) (row : OwnershipRow) : Bool :=
  row.backendId == cString backendId && row.authorityDomain == cString authorityDomain

def readOwnership (backendId authorityDomain : Bytes) (row : OwnershipRow) :
    BackendAgentLocalProviderOwnershipStatus :=
  match parseIdentifiers row.allowedCapabilities with
  | none => {}
  | some allowedCapabilities =>
    let ownership : BackendAgentLocalProviderOwnership :=
      { backendId := backendId
        authorityDomain := authorityDomain
        providerId := row.providerId
        providerKind := row.providerKind
        ownershipGeneration := row.ownershipGeneration
        allowedCapabilities := allowedCapabilities }
    if backendAgentLocalProviderValidOwnership ownership then
      { present := true, active := row.active, ownership := ownership }
    else {}

def localProviderOwnershipStatus (rows : List OwnershipRow) (backendId authorityDomain : Bytes) :
    BackendAgentLocalProviderOwnershipStatus :=
  match rows.find? (OwnershipRow.keyed backendId authorityDomain) with
  | none => {}
  | some row => readOwnership backendId authorityDomain row

/-! ## Ownership changes -/

structure OwnershipArguments where
  backendId : Bytes
  authorityDomain : Bytes
  providerId : Bytes
  providerKind : Bytes
  allowedCapabilities : List Bytes
  updatedAt : Int
  deriving DecidableEq

def OwnershipArguments.candidate (arguments : OwnershipArguments) (ownershipGeneration : Nat) :
    BackendAgentLocalProviderOwnership :=
  { backendId := arguments.backendId
    authorityDomain := arguments.authorityDomain
    providerId := arguments.providerId
    providerKind := arguments.providerKind
    ownershipGeneration := ownershipGeneration
    allowedCapabilities := arguments.allowedCapabilities }

def ownershipRow (arguments : OwnershipArguments) (ownershipGeneration : Nat) : OwnershipRow :=
  { backendId := cString arguments.backendId
    authorityDomain := cString arguments.authorityDomain
    providerId := cString arguments.providerId
    providerKind := cString arguments.providerKind
    ownershipGeneration := ownershipGeneration
    allowedCapabilities := cString (identifiers arguments.allowedCapabilities)
    active := true
    updatedAt := arguments.updatedAt }

/-- `INSERT … ON CONFLICT(backend_id,authority_domain) DO UPDATE`. -/
def upsertOwnership (rows : List OwnershipRow) (row : OwnershipRow) : List OwnershipRow :=
  if rows.any (OwnershipRow.keyed row.backendId row.authorityDomain) then
    rows.map fun other =>
      if other.keyed row.backendId row.authorityDomain then row else other
  else rows ++ [row]

/-- A set call: the rows it leaves and the ownership it reports, or the reason it fails. `persists`
says whether SQLite executes the write. -/
def setLocalProviderOwnership (persists : Bool) (rows : List OwnershipRow)
    (arguments : OwnershipArguments) :
    List OwnershipRow × Except String (BackendAgentLocalProviderOwnership × String) :=
  if arguments.updatedAt ≤ 0 ∨
      backendAgentLocalProviderValidOwnership (arguments.candidate 1) = false then
    (rows, .error "invalid_local_provider_ownership")
  else
    let current :=
      localProviderOwnershipStatus rows arguments.backendId arguments.authorityDomain
    if current.present = true ∧ current.active = true ∧
        current.ownership.providerId = arguments.providerId ∧
        current.ownership.providerKind = arguments.providerKind ∧
        current.ownership.allowedCapabilities = arguments.allowedCapabilities then
      (rows, .ok (current.ownership, "local_provider_ownership_unchanged"))
    else if current.present = true ∧ current.ownership.ownershipGeneration ≥ int64Max then
      (rows, .error "local_provider_ownership_generation_exhausted")
    else
      let ownershipGeneration :=
        if current.present then current.ownership.ownershipGeneration + 1 else 1
      if persists = false then (rows, .error "local_provider_ownership_persist_failed")
      else
        (upsertOwnership rows (ownershipRow arguments ownershipGeneration),
          .ok (arguments.candidate ownershipGeneration, "local_provider_ownership_set"))

/-- The rows after `UPDATE … SET active=0 … WHERE … AND active=1`, when exactly one row changes. -/
def deactivateOwnership (persists : Bool) (rows : List OwnershipRow)
    (backendId authorityDomain : Bytes) (ownershipGeneration : Nat) (updatedAt : Int) :
    Option (List OwnershipRow) :=
  let addressed := fun row : OwnershipRow => row.keyed backendId authorityDomain && row.active
  if persists = false ∨ (rows.filter addressed).length ≠ 1 then none
  else some (rows.map fun row =>
    if addressed row then
      { row with
        active := false, ownershipGeneration := ownershipGeneration, updatedAt := updatedAt }
    else row)

def clearLocalProviderOwnership (persists : Bool) (rows : List OwnershipRow)
    (backendId authorityDomain : Bytes) (updatedAt : Int) :
    List OwnershipRow × Except String String :=
  if updatedAt ≤ 0 ∨ safeIdentifier backendId = false ∨ safeIdentifier authorityDomain = false then
    (rows, .error "invalid_local_provider_ownership_clear")
  else
    let current := localProviderOwnershipStatus rows backendId authorityDomain
    if current.present = false ∨ current.active = false then
      (rows, .ok "local_provider_ownership_absent")
    else if current.ownership.ownershipGeneration ≥ int64Max then
      (rows, .error "local_provider_ownership_generation_exhausted")
    else
      match deactivateOwnership persists rows backendId authorityDomain
          (current.ownership.ownershipGeneration + 1) updatedAt with
      | none => (rows, .error "local_provider_ownership_clear_failed")
      | some updated => (updated, .ok "local_provider_ownership_cleared")

/-! ## Selection -/

def readFacts (providerId : Bytes) (row : FactsRow) : Option BackendAgentLocalProviderFacts :=
  match parseIdentifiers row.capabilities with
  | none => none
  | some capabilities =>
    let facts : BackendAgentLocalProviderFacts :=
      { providerId := providerId
        providerKind := row.providerKind
        providerInstanceEpoch := row.providerInstanceEpoch
        providerGeneration := row.providerGeneration
        capabilityRevision := row.capabilityRevision
        available := row.available
        capabilities := capabilities }
    if backendAgentLocalProviderValidFacts facts then some facts else none

def selectLocalProvider (ownershipRows : List OwnershipRow) (factsRows : List FactsRow)
    (backendId agentId agentInstanceId : Bytes) (backendGeneration : Nat)
    (authorityDomain requiredCapability : Bytes) :
    Except String BackendAgentLocalProviderSelection :=
  let status := localProviderOwnershipStatus ownershipRows backendId authorityDomain
  if status.present = false ∨ status.active = false then
    .error "local_provider_ownership_required"
  else
    let observed := factsRows.find? fun row =>
      row.backendId == cString backendId && row.agentId == cString agentId &&
      row.agentInstanceId == cString agentInstanceId &&
      row.backendGeneration == backendGeneration &&
      row.providerId == cString status.ownership.providerId
    match observed with
    | none => .error "local_provider_facts_required"
    | some row =>
      match readFacts status.ownership.providerId row with
      | none => .error "local_provider_facts_invalid"
      | some facts =>
        match backendAgentLocalProviderSelect status.ownership facts requiredCapability with
        | .error reason => .error reason
        | .ok selection =>
          if backendAgentLocalProviderValidSelection selection then .ok selection
          else .error "local_provider_selected"

end VdrSuite.Core
