import VdrSuite.Security.FirstAdminClaim

/-! Pairing requests of devices: their table, the statements over it, and the texts and hashes that
go into it. -/

set_option autoImplicit false

namespace VdrSuite.Security.DevicePairing

open Library
open Agent (isAlphanumeric)

structure Platform where
  crypt : Bytes → Bytes → Option Bytes
  formatDatabaseTimestamp : Int → Bytes

/-! ## The table of requests -/

inductive PairingState
  | pending
  | approved
  | rejected
  | consumed
  deriving DecidableEq

def PairingState.name : PairingState → Bytes
  | .pending => text "pending"
  | .approved => text "approved"
  | .rejected => text "rejected"
  | .consumed => text "consumed"

structure DevicePairingRequestRegistration where
  pairingRequestId : Bytes
  userCodeHash : Bytes
  pairingTokenHash : Bytes
  displayName : Bytes
  clientKind : Bytes
  appVersion : Bytes
  expiresAt : Timestamp
  deriving DecidableEq

structure StoredDevicePairingRequest extends DevicePairingRequestRegistration where
  createdAt : Timestamp
  state : PairingState := .pending
  revision : Nat := 1
  decidedByActorId : Bytes := []
  decidedAt : Timestamp := []
  invalidated : Bool := false
  deriving DecidableEq

structure PairingStore where
  identity : IdentityStore Timestamp := {}
  requests : List StoredDevicePairingRequest := []
  deriving DecidableEq

def PairingStore.request (pairingRequestId : Bytes) (store : PairingStore) :
    Option StoredDevicePairingRequest :=
  Table.lookup (·.pairingRequestId) pairingRequestId store.requests

inductive DevicePairingRequestRepositoryStatus
  | invalid
  | notFound
  | expired
  | invalidated
  | conflict
  | revisionConflict
  | stateConflict
  | storageError
  deriving DecidableEq

def storableText (value : Bytes) (maximumLength : Nat) (allowEmpty : Bool) : Bool :=
  (allowEmpty || !value.isEmpty) && value.length ≤ maximumLength &&
  value.all fun byte => byte != 0 && byte != 13 && byte != 10

def supportsSecretHash (secretHash : Bytes) : Bool := (text "$6$").isPrefixOf secretHash

def safeSecretHash (value : Bytes) : Bool := storableText value 1024 false && supportsSecretHash value

def DevicePairingRequestRegistration.safe (registration : DevicePairingRequestRegistration) : Bool :=
  safeIdentifier registration.pairingRequestId && safeSecretHash registration.userCodeHash &&
  safeSecretHash registration.pairingTokenHash && storableText registration.displayName 128 false &&
  storableText registration.clientKind 64 false && storableText registration.appVersion 64 true &&
  safeTimestamp registration.expiresAt

def registered (registration : DevicePairingRequestRegistration) (createdAt : Timestamp) :
    StoredDevicePairingRequest :=
  { toDevicePairingRequestRegistration := registration, createdAt := createdAt }

def PairingStore.conflicts (registration : DevicePairingRequestRegistration) (store : PairingStore) :
    Bool :=
  store.requests.any fun row =>
    row.pairingRequestId == registration.pairingRequestId ||
    row.userCodeHash == registration.userCodeHash ||
    row.pairingTokenHash == registration.pairingTokenHash

def registerInActiveTransaction (moment : Moment Timestamp)
    (registration : DevicePairingRequestRegistration) (store : PairingStore) :
    Except DevicePairingRequestRepositoryStatus PairingStore :=
  if registration.safe = false then .error .invalid
  else if moment.works = false then .error .storageError
  else if store.conflicts registration then .error .conflict
  else .ok { store with requests := store.requests ++ [registered registration moment.now] }

def StoredDevicePairingRequest.readable (row : StoredDevicePairingRequest) : Bool :=
  0 < row.revision && !row.pairingRequestId.isEmpty && !row.userCodeHash.isEmpty &&
  !row.pairingTokenHash.isEmpty && !row.displayName.isEmpty && !row.clientKind.isEmpty &&
  !row.expiresAt.isEmpty && !row.createdAt.isEmpty

def statusForStored (now : Timestamp) (row : StoredDevicePairingRequest) :
    Except DevicePairingRequestRepositoryStatus StoredDevicePairingRequest :=
  if row.invalidated then .error .invalidated
  else if row.expiresAt ≤ now then .error .expired
  else .ok row

def findById (moment : Moment Timestamp) (pairingRequestId : Bytes) (store : PairingStore) :
    Except DevicePairingRequestRepositoryStatus StoredDevicePairingRequest :=
  if safeIdentifier pairingRequestId = false then .error .invalid
  else if moment.works = false then .error .storageError
  else
    match store.request pairingRequestId with
    | none => .error .notFound
    | some row => if row.readable then statusForStored moment.now row else .error .storageError

/-- The `WHERE` of the two updates. -/
def StoredDevicePairingRequest.ready (now : Timestamp) (expectedRevision : Nat) (state : PairingState)
    (row : StoredDevicePairingRequest) : Bool :=
  row.revision == expectedRevision && row.state == state && !row.invalidated && now < row.expiresAt

def PairingStore.setRequest (row : StoredDevicePairingRequest) (store : PairingStore) : PairingStore :=
  { store with
    requests := Table.update (fun other => other.pairingRequestId == row.pairingRequestId)
      (fun _ => row) store.requests }

def compareAndSet (statement : Nat → Moment Timestamp) (pairingRequestId : Bytes)
    (expectedRevision : Nat) (state : PairingState)
    (change : StoredDevicePairingRequest → StoredDevicePairingRequest) (store : PairingStore) :
    Except DevicePairingRequestRepositoryStatus PairingStore :=
  if (statement 0).works = false then .error .storageError
  else
    match (store.request pairingRequestId).filter (·.ready (statement 0).now expectedRevision state) with
    | some row => .ok (store.setRequest (change row))
    | none =>
      match findById (statement 1) pairingRequestId store with
      | .error status => .error status
      | .ok current =>
        if current.revision ≠ expectedRevision then .error .revisionConflict
        else if current.state ≠ state then .error .stateConflict
        else .error .storageError

def decided (state : PairingState) (decidedByActorId : Bytes) (now : Timestamp)
    (row : StoredDevicePairingRequest) : StoredDevicePairingRequest :=
  { row with
    state := state
    decidedByActorId := decidedByActorId
    decidedAt := now
    revision := row.revision + 1 }

def consumed (row : StoredDevicePairingRequest) : StoredDevicePairingRequest :=
  { row with state := .consumed, revision := row.revision + 1 }

def decideInActiveTransaction (statement : Nat → Moment Timestamp) (pairingRequestId : Bytes)
    (expectedRevision : Nat) (state : PairingState) (decidedByActorId : Bytes) (store : PairingStore) :
    Except DevicePairingRequestRepositoryStatus PairingStore :=
  if safeIdentifier pairingRequestId = false ∨ expectedRevision = 0 ∨ int64Max < expectedRevision ∨
      (state ≠ .approved ∧ state ≠ .rejected) ∨ storableText decidedByActorId 128 false = false then
    .error .invalid
  else compareAndSet statement pairingRequestId expectedRevision .pending
    (decided state decidedByActorId (statement 0).now) store

def consumeApprovedInActiveTransaction (statement : Nat → Moment Timestamp) (pairingRequestId : Bytes)
    (expectedRevision : Nat) (store : PairingStore) :
    Except DevicePairingRequestRepositoryStatus PairingStore :=
  if safeIdentifier pairingRequestId = false ∨ expectedRevision = 0 ∨ int64Max < expectedRevision then
    .error .invalid
  else compareAndSet statement pairingRequestId expectedRevision .approved consumed store

/-! ## Encodings -/

def pairingCodeAlphabet : Bytes := text "ABCDEFGHJKLMNPQRSTUVWXYZ23456789"

def cryptAlphabet : Bytes := text "./0123456789ABCDEFGHIJKLMNOPQRSTUVWXYZabcdefghijklmnopqrstuvwxyz"

def base64UrlAlphabet : Bytes :=
  text "ABCDEFGHIJKLMNOPQRSTUVWXYZabcdefghijklmnopqrstuvwxyz0123456789-_"

def symbol (alphabet : Bytes) (value : Nat) : UInt8 := alphabet.getD (value % alphabet.length) 0

def base64UrlEncode : Bytes → Bytes
  | [] => []
  | [first] =>
    let value := first.toNat * 65536
    [symbol base64UrlAlphabet (value / 262144), symbol base64UrlAlphabet (value / 4096)]
  | [first, second] =>
    let value := first.toNat * 65536 + second.toNat * 256
    [symbol base64UrlAlphabet (value / 262144), symbol base64UrlAlphabet (value / 4096),
      symbol base64UrlAlphabet (value / 64)]
  | first :: second :: third :: rest =>
    let value := first.toNat * 65536 + second.toNat * 256 + third.toNat
    [symbol base64UrlAlphabet (value / 262144), symbol base64UrlAlphabet (value / 4096),
      symbol base64UrlAlphabet (value / 64), symbol base64UrlAlphabet value] ++ base64UrlEncode rest

def pairingCode (bytes : Bytes) : Bytes :=
  if bytes.length ≠ 8 then []
  else
    let symbols := bytes.map fun byte => symbol pairingCodeAlphabet byte.toNat
    symbols.take 4 ++ [45] ++ symbols.drop 4

def cryptSaltEncode (bytes : Bytes) : Bytes := bytes.map fun byte => symbol cryptAlphabet byte.toNat

def hashSecret (platform : Platform) (secret randomSalt : Bytes) : Bytes :=
  if secret = [] ∨ randomSalt.length ≠ 16 then []
  else
    ((platform.crypt (cString secret) (text "$6$rounds=10000$" ++ randomSalt ++ text "$")).filter
      fun encoded => encoded.head? != some 42).getD []

def verifySecret (platform : Platform) (secret verifierHash : Bytes) : Bool :=
  !secret.isEmpty && supportsSecretHash verifierHash &&
  platform.crypt (cString secret) verifierHash == some verifierHash

def publicTimestamp (databaseTimestamp : Bytes) : Bytes :=
  if databaseTimestamp.length ≠ 19 then [] else databaseTimestamp.set 10 84 ++ [90]

def nowPublicTimestamp (platform : Platform) (now : Int) : Bytes :=
  publicTimestamp (platform.formatDatabaseTimestamp now)

def safePresentationText (value : Bytes) (maximumLength : Nat) (allowEmpty : Bool) : Bool :=
  (allowEmpty || !value.isEmpty) && value.length ≤ maximumLength && value.all fun byte => 32 ≤ byte

def safeClientKind (value : Bytes) : Bool :=
  !value.isEmpty && value.length ≤ 64 && value.all fun byte =>
    isAlphanumeric byte || byte == 46 || byte == 95 || byte == 45

def revisionHeading (pairingRequestId : Bytes) : Bytes :=
  text "device-pairing:" ++ pairingRequestId ++ text ":"

def administrativeRevision (row : StoredDevicePairingRequest) : Bytes :=
  if row.pairingRequestId = [] ∨ row.revision = 0 then []
  else revisionHeading row.pairingRequestId ++ decimal row.revision

def parseAdministrativeRevision (resourceRevision pairingRequestId : Bytes) : Option Nat := do
  let digits ← afterHeading (revisionHeading pairingRequestId) resourceRevision
  let parsed ← parseDecimal Netstring.uint64Max digits
  guard (parsed ≠ 0)
  pure parsed

end VdrSuite.Security.DevicePairing
