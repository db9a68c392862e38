import Mathlib.Order.Hom.Basic
import VdrSuite.Library.Hex
import VdrSuite.Library.Table
import VdrSuite.Library.Transaction
import VdrSuite.Security.AuthorizationService

/-! Actors, devices, sessions, credentials and accounts, their grants and verifiers, and the
statements of the repositories over them. -/

set_option autoImplicit false

namespace VdrSuite.Security

open Library

variable {Time : Type}

/-! ## Statements -/

/-- What a statement meets: whether it is carried out, and what it takes for the time. -/
structure Moment (Time : Type) where
  works : Bool := true
  now : Time

structure Moments (Time : Type) [Preorder Time] where
  works : Nat → Bool
  clock : Nat →o Time

def Moments.statement [Preorder Time] (moments : Moments Time) (index : Nat) : Moment Time :=
  ⟨moments.works index, moments.clock index⟩

def Moment.reads {Value : Type} (moment : Moment Time) (value : Option Value) : Option Value :=
  if moment.works then value else none

/-! ## Rows -/

/-- A row that is revoked has the time of its revocation in the table, which no query reads. -/
structure StoredActorIdentity where
  actorId : Bytes
  type : ActorType
  displayName : Bytes
  active : Bool := true
  revoked : Bool := false
  deriving DecidableEq

structure StoredDeviceIdentity where
  deviceId : Bytes
  actorId : Bytes
  displayName : Bytes
  active : Bool := true
  revoked : Bool := false
  deriving DecidableEq

structure StoredSessionIdentity (Time : Type) where
  sessionId : Bytes
  actorId : Bytes
  deviceId : Bytes
  active : Bool := true
  expiresAt : Option Time := none
  revoked : Bool := false
  deriving DecidableEq

structure StoredCredentialIdentity (Time : Type) where
  credentialId : Bytes
  actorId : Bytes
  credentialType : Bytes
  active : Bool := true
  expiresAt : Option Time := none
  revoked : Bool := false
  rotatedFromCredentialId : Bytes := []
  deriving DecidableEq

structure StoredHumanAccount where
  accountId : Bytes
  actorId : Bytes
  displayName : Bytes
  active : Bool := true
  revision : Nat := 1
  deriving DecidableEq

structure StoredBasicCredentialVerifier where
  credentialId : Bytes
  loginName : Bytes
  passwordHash : Bytes
  deriving DecidableEq

structure StoredDeviceCredentialVerifier where
  credentialId : Bytes
  deviceId : Bytes
  verifierHash : Bytes
  deriving DecidableEq

structure StoredPermissionGrant where
  actorId : Bytes
  permission : Bytes
  backendId : Bytes
  active : Bool := true
  revoked : Bool := false
  deriving DecidableEq

def StoredPermissionGrant.key (grant : StoredPermissionGrant) : Bytes × Bytes × Bytes :=
  (grant.actorId, grant.permission, grant.backendId)

structure AccountabilityEvent where
  eventId : Bytes
  classes : Bytes
  eventType : Bytes
  severity : Bytes
  occurredAt : Bytes
  actorId : Bytes
  actorType : Bytes
  authenticationState : Bytes
  permission : Bytes
  backendId : Bytes
  operationId : Bytes
  requestId : Bytes
  correlationId : Bytes
  action : Bytes
  decision : Bytes
  reasonCode : Bytes
  outcome : Bytes
  deriving DecidableEq

structure IdentityStore (Time : Type) where
  actors : List StoredActorIdentity := []
  devices : List StoredDeviceIdentity := []
  sessions : List (StoredSessionIdentity Time) := []
  credentials : List (StoredCredentialIdentity Time) := []
  accounts : List StoredHumanAccount := []
  basicVerifiers : List StoredBasicCredentialVerifier := []
  deviceVerifiers : List StoredDeviceCredentialVerifier := []
  grants : List StoredPermissionGrant := []
  events : List AccountabilityEvent := []
  deriving DecidableEq

/-! ## Texts -/

def isControl (byte : UInt8) : Bool := byte < 32 || byte == 127

def safeText (value : Bytes) (maximumLength minimumLength : Nat) : Bool :=
  minimumLength ≤ value.length && value.length ≤ maximumLength && value.all fun byte => !isControl byte

def randomId (entropy : Option Bytes) (heading : String) : Option Bytes :=
  entropy.map fun bytes => text heading ++ Hex.encode bytes

namespace IdentityStore

variable (store : IdentityStore Time)

/-! ## Lookups -/

def actor (actorId : Bytes) : Option StoredActorIdentity :=
  Table.lookup StoredActorIdentity.actorId actorId store.actors

def device (deviceId : Bytes) : Option StoredDeviceIdentity :=
  Table.lookup StoredDeviceIdentity.deviceId deviceId store.devices

def session (sessionId : Bytes) : Option (StoredSessionIdentity Time) :=
  Table.lookup StoredSessionIdentity.sessionId sessionId store.sessions

def credential (credentialId : Bytes) : Option (StoredCredentialIdentity Time) :=
  Table.lookup StoredCredentialIdentity.credentialId credentialId store.credentials

def account (accountId : Bytes) : Option StoredHumanAccount :=
  Table.lookup StoredHumanAccount.accountId accountId store.accounts

def accountOfActor (actorId : Bytes) : Option StoredHumanAccount :=
  Table.lookup StoredHumanAccount.actorId actorId store.accounts

def verifierOfLogin (loginName : Bytes) : Option StoredBasicCredentialVerifier :=
  Table.lookup StoredBasicCredentialVerifier.loginName loginName store.basicVerifiers

def verifierOfCredential (credentialId : Bytes) : Option StoredBasicCredentialVerifier :=
  Table.lookup StoredBasicCredentialVerifier.credentialId credentialId store.basicVerifiers

end IdentityStore

section Expiry

variable [LinearOrder Time]

def expiredAt (now : Time) (expiresAt : Option Time) : Bool := expiresAt.any fun expiry => expiry ≤ now

def StoredCredentialIdentity.expired (now : Time) (credential : StoredCredentialIdentity Time) : Bool :=
  expiredAt now credential.expiresAt

def StoredSessionIdentity.expired (now : Time) (session : StoredSessionIdentity Time) : Bool :=
  expiredAt now session.expiresAt

end Expiry

/-! ## Accounts -/

inductive HumanAccountRepositoryStatus
  | invalid
  | notFound
  | revisionConflict
  | storageError
  deriving DecidableEq

structure HumanAccountRecord where
  accountId : Bytes := []
  actorId : Bytes := []
  displayName : Bytes := []
  active : Bool := false
  revision : Nat := 0
  deriving DecidableEq

def readAccount (account : StoredHumanAccount) (actor : StoredActorIdentity) :
    Except HumanAccountRepositoryStatus HumanAccountRecord :=
  if actor.type ≠ .user ∨ account.revision = 0 ∨ account.accountId = [] ∨ account.actorId = [] ∨
      account.displayName = [] then .error .storageError
  else .ok
    { accountId := account.accountId
      actorId := account.actorId
      displayName := account.displayName
      active := account.active && actor.active && !actor.revoked
      revision := account.revision }

def findAccount (moment : Moment Time) (store : IdentityStore Time)
    (account : Option StoredHumanAccount) : Except HumanAccountRepositoryStatus HumanAccountRecord :=
  if moment.works = false then .error .storageError
  else
    match account with
    | none => .error .notFound
    | some account =>
      match store.actor account.actorId with
      | none => .error .notFound
      | some actor => readAccount account actor

def findByAccountId (moment : Moment Time) (accountId : Bytes) (store : IdentityStore Time) :
    Except HumanAccountRepositoryStatus HumanAccountRecord :=
  if accountId = [] then .error .invalid else findAccount moment store (store.account accountId)

/-- `INSERT OR IGNORE` behind a trigger that demands a user. -/
def insertAccountIfMissing (moment : Moment Time) (account : StoredHumanAccount)
    (store : IdentityStore Time) : Option (IdentityStore Time) :=
  if moment.works = false ∨ (store.actor account.actorId).any (·.type == .user) = false then none
  else if (store.account account.accountId).isSome ∨ (store.accountOfActor account.actorId).isSome then
    some store
  else some { store with accounts := store.accounts ++ [account] }

def ensureAccountInActiveTransaction (statement : Nat → Moment Time)
    (accountId actorId displayName : Bytes) (store : IdentityStore Time) :
    Option (IdentityStore Time) := do
  guard (safeText accountId 128 1 && safeText actorId 128 1 && safeText displayName 256 1)
  let store ← insertAccountIfMissing (statement 0)
    { accountId := accountId, actorId := actorId, displayName := displayName } store
  match findByAccountId (statement 1) accountId store with
  | .error _ => none
  | .ok stored =>
    guard (stored.actorId == actorId && stored.displayName == displayName && stored.active)
    pure store

/-! ## Actors, devices and credentials -/

def insertActorIfMissing (moment : Moment Time) (actor : StoredActorIdentity)
    (store : IdentityStore Time) : Option (IdentityStore Time) :=
  moment.reads (some { store with
    actors := Table.insertIfMissing StoredActorIdentity.actorId actor store.actors })

def insertDeviceIfMissing (moment : Moment Time) (device : StoredDeviceIdentity)
    (store : IdentityStore Time) : Option (IdentityStore Time) :=
  moment.reads (some { store with
    devices := Table.insertIfMissing StoredDeviceIdentity.deviceId device store.devices })

def insertCredentialIfMissing (moment : Moment Time) (credential : StoredCredentialIdentity Time)
    (store : IdentityStore Time) : Option (IdentityStore Time) :=
  moment.reads (some { store with
    credentials := Table.insertIfMissing StoredCredentialIdentity.credentialId credential store.credentials })

def findActor (moment : Moment Time) (actorId : Bytes) (store : IdentityStore Time) :
    Option StoredActorIdentity := moment.reads (store.actor actorId)

def findDevice (moment : Moment Time) (deviceId : Bytes) (store : IdentityStore Time) :
    Option StoredDeviceIdentity := moment.reads (store.device deviceId)

def findSession (moment : Moment Time) (sessionId : Bytes) (store : IdentityStore Time) :
    Option (StoredSessionIdentity Time) := moment.reads (store.session sessionId)

def findCredential (moment : Moment Time) (credentialId : Bytes) (store : IdentityStore Time) :
    Option (StoredCredentialIdentity Time) := moment.reads (store.credential credentialId)

def ensureHumanCredentialInActiveTransaction [LinearOrder Time] (statement : Nat → Moment Time)
    (actorId actorDisplayName credentialId credentialType : Bytes) (store : IdentityStore Time) :
    Option (IdentityStore Time) := do
  guard (!actorId.isEmpty && !actorDisplayName.isEmpty && !credentialId.isEmpty &&
    !credentialType.isEmpty)
  let store ← insertActorIfMissing (statement 0)
    { actorId := actorId, type := .user, displayName := actorDisplayName } store
  let store ← insertCredentialIfMissing (statement 1)
    { credentialId := credentialId, actorId := actorId, credentialType := credentialType } store
  let actor ← findActor (statement 2) actorId store
  let credential ← findCredential (statement 3) credentialId store
  guard (actor.type == .user && actor.active && !actor.revoked && credential.actorId == actorId &&
    credential.credentialType == credentialType && credential.active &&
    !credential.expired (statement 3).now && !credential.revoked)
  pure store

def ensureTechnicalIdentity (statement : Nat → Moment Time) (actorId : Bytes) (actorType : ActorType)
    (actorDisplayName deviceId deviceDisplayName credentialId credentialType : Bytes)
    (store : IdentityStore Time) : Option (IdentityStore Time) := do
  guard (!actorId.isEmpty && !actorDisplayName.isEmpty && !deviceId.isEmpty &&
    !deviceDisplayName.isEmpty && !credentialId.isEmpty && !credentialType.isEmpty)
  let store ← insertActorIfMissing (statement 0)
    { actorId := actorId, type := actorType, displayName := actorDisplayName } store
  let store ← insertDeviceIfMissing (statement 1)
    { deviceId := deviceId, actorId := actorId, displayName := deviceDisplayName } store
  let store ← insertCredentialIfMissing (statement 2)
    { credentialId := credentialId, actorId := actorId, credentialType := credentialType } store
  let actor ← findActor (statement 3) actorId store
  let device ← findDevice (statement 4) deviceId store
  let credential ← findCredential (statement 5) credentialId store
  guard (actor.type == actorType && actor.displayName == actorDisplayName &&
    device.actorId == actorId && device.displayName == deviceDisplayName &&
    credential.actorId == actorId && credential.credentialType == credentialType)
  pure store

/-! ## Verifiers -/

def findByLogin (moment : Moment Time) (loginName : Bytes) (store : IdentityStore Time) :
    Option StoredBasicCredentialVerifier :=
  if loginName = [] then none else moment.reads (store.verifierOfLogin loginName)

/-- `INSERT OR IGNORE` with a unique credential and a unique login. -/
def insertVerifierIfMissing (moment : Moment Time) (verifier : StoredBasicCredentialVerifier)
    (store : IdentityStore Time) : Option (IdentityStore Time) :=
  moment.reads (some
    (if (store.verifierOfCredential verifier.credentialId).isSome ∨
        (store.verifierOfLogin verifier.loginName).isSome then store
    else { store with basicVerifiers := store.basicVerifiers ++ [verifier] }))

def ensureVerifier (statement : Nat → Moment Time) (credentialId loginName passwordHash : Bytes)
    (store : IdentityStore Time) : Option (IdentityStore Time) := do
  guard (!credentialId.isEmpty && !loginName.isEmpty && !passwordHash.isEmpty)
  let store ← insertVerifierIfMissing (statement 0)
    { credentialId := credentialId, loginName := loginName, passwordHash := passwordHash } store
  let stored ← findByLogin (statement 1) loginName store
  guard (stored.credentialId == credentialId && stored.passwordHash == passwordHash)
  pure store

/-! ## Grants and events -/

def safeGrant (actorId permission backendId : Bytes) : Bool :=
  safeText actorId 128 1 && safeText permission 256 1 && safeText backendId 256 1

def ensureGrant (moment : Moment Time) (actorId permission backendId : Bytes)
    (store : IdentityStore Time) : Option (IdentityStore Time) := do
  guard (safeGrant actorId permission backendId && moment.works)
  pure { store with
    grants := Table.upsert StoredPermissionGrant.key
      { actorId := actorId, permission := permission, backendId := backendId } store.grants }

def append (moment : Moment Time) (event : AccountabilityEvent) (store : IdentityStore Time) :
    Option (IdentityStore Time) := do
  guard (!event.eventId.isEmpty && !event.eventType.isEmpty && !event.requestId.isEmpty &&
    moment.works && (Table.lookup AccountabilityEvent.eventId event.eventId store.events).isNone)
  pure { store with events := store.events ++ [event] }

end VdrSuite.Security
