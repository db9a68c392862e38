import Mathlib.Data.List.Lex
import VdrSuite.Agent.LocalProvider
import VdrSuite.Library.Run
import VdrSuite.Security.IdentityStore

/-! The bootstraps of the first administrator: their registration, consumption and invalidation, and
the claim that turns one into an account. -/

set_option autoImplicit false

namespace VdrSuite.Security

open Library
open Library.Transaction (atomically required demand)
open Agent (isAlphanumeric)

/-- Texts are compared byte by byte, and so are timestamps in text. -/
scoped instance byteOrder : LinearOrder UInt8 where
  le_refl := UInt8.le_refl
  le_trans := fun _ _ _ => UInt8.le_trans
  le_antisymm := fun _ _ => UInt8.le_antisymm
  le_total := UInt8.le_total
  toDecidableLE := inferInstance
  lt_iff_le_not_ge := fun first second => by
    rw [UInt8.not_le]
    exact ⟨fun less => ⟨UInt8.le_of_lt less, less⟩, And.right⟩

abbrev Timestamp : Type := Bytes

/-! ## The table of bootstraps -/

inductive FirstAdminClaimState
  | unclaimed
  | claimed
  | unavailable
  deriving DecidableEq

inductive FirstAdminBootstrapStatus
  | ok
  | invalid
  | notFound
  | claimed
  | conflict
  | expired
  | consumed
  | invalidated
  | storageError
  | transactionRequired
  deriving DecidableEq

structure FirstAdminBootstrapRegistration where
  bootstrapId : Bytes
  verifierHash : Bytes
  expiresAt : Timestamp
  deriving DecidableEq

structure FirstAdminBootstrap extends FirstAdminBootstrapRegistration where
  consumedAt : Option Timestamp := none
  invalidatedAt : Option Timestamp := none
  deriving DecidableEq

def registered (registration : FirstAdminBootstrapRegistration) : FirstAdminBootstrap :=
  { toFirstAdminBootstrapRegistration := registration }

structure FirstAdminStore where
  identity : IdentityStore Timestamp := {}
  bootstraps : List FirstAdminBootstrap := []
  deriving DecidableEq

def FirstAdminStore.bootstrap (bootstrapId : Bytes) (store : FirstAdminStore) :
    Option FirstAdminBootstrap :=
  Table.lookup (·.bootstrapId) bootstrapId store.bootstraps

def safeIdentifier (value : Bytes) : Bool :=
  !value.isEmpty && value.length ≤ 128 && value.all fun byte =>
    isAlphanumeric byte || byte == 45 || byte == 95

def safeTimestamp (value : Bytes) : Bool :=
  value.length == 19 && value.zipIdx.all fun (byte, index) =>
    if index = 4 ∨ index = 7 then byte == 45
    else if index = 10 then byte == 32
    else if index = 13 ∨ index = 16 then byte == 58
    else isDigit byte

def supportsVerifierHash (verifierHash : Bytes) : Bool :=
  (text "$y$").isPrefixOf verifierHash || (text "$6$").isPrefixOf verifierHash

def safeVerifierHash (value : Bytes) : Bool :=
  !value.isEmpty && value.length ≤ 1024 && supportsVerifierHash value &&
  value.all fun byte => byte != 0 && byte != 13 && byte != 10

def FirstAdminBootstrap.effective (now : Timestamp) (bootstrap : FirstAdminBootstrap) : Bool :=
  bootstrap.consumedAt.isNone && bootstrap.invalidatedAt.isNone && now < bootstrap.expiresAt

def hasEffectiveBootstrap (now : Timestamp) (store : FirstAdminStore) : Bool :=
  store.bootstraps.any (·.effective now)

def administratorAccount (store : IdentityStore Timestamp) : Bool :=
  store.accounts.any fun account =>
    (store.actors.any fun actor => actor.actorId == account.actorId && actor.type == .user) &&
    store.grants.any fun grant => grant.actorId == account.actorId && grant.backendId == text "*" &&
      (grant.permission == text "role.admin" || grant.permission == text "*")

def everClaimed (store : FirstAdminStore) : Bool :=
  store.bootstraps.any (·.consumedAt.isSome) || administratorAccount store.identity

def claimState (moment : Moment Timestamp) (store : FirstAdminStore) : FirstAdminClaimState :=
  if moment.works = false then .unavailable
  else if everClaimed store then .claimed
  else .unclaimed

def requireUnclaimed (moment : Moment Timestamp) (store : FirstAdminStore) :
    Except FirstAdminBootstrapStatus Unit :=
  match claimState moment store with
  | .unavailable => .error .storageError
  | .claimed => .error .claimed
  | .unclaimed => .ok ()

def insertBootstrap (moment : Moment Timestamp) (registration : FirstAdminBootstrapRegistration)
    (store : FirstAdminStore) : Option FirstAdminStore :=
  if moment.works = false ∨ (store.bootstrap registration.bootstrapId).isSome ∨
      (moment.now < registration.expiresAt ∧ hasEffectiveBootstrap moment.now store = true) then none
  else some { store with bootstraps := store.bootstraps ++ [registered registration] }

def registerBody (statement : Nat → Moment Timestamp)
    (registration : FirstAdminBootstrapRegistration) (store : FirstAdminStore) :
    Except FirstAdminBootstrapStatus (FirstAdminBootstrapStatus × FirstAdminStore) := do
  requireUnclaimed (statement 1) store
  demand .storageError ((statement 2).works = true)
  demand .expired ((statement 2).now < registration.expiresAt)
  demand .storageError ((statement 3).works = true)
  demand .conflict (hasEffectiveBootstrap (statement 3).now store = false)
  let store ← required .storageError (insertBootstrap (statement 4) registration store)
  pure (.ok, store)

def registerBootstrap (statement : Nat → Moment Timestamp)
    (registration : FirstAdminBootstrapRegistration) (store : FirstAdminStore) :
    FirstAdminBootstrapStatus × FirstAdminStore :=
  if safeIdentifier registration.bootstrapId = false ∨
      safeVerifierHash registration.verifierHash = false ∨
      safeTimestamp registration.expiresAt = false then (.invalid, store)
  else atomically (statement 0).works (statement 5).works .storageError
    (registerBody statement registration) store

structure FirstAdminBootstrapLookupResult where
  status : FirstAdminBootstrapStatus := .storageError
  bootstrap : Option FirstAdminBootstrap := none
  deriving DecidableEq

def bootstrapStatus (now : Timestamp) (bootstrap : FirstAdminBootstrap) : FirstAdminBootstrapStatus :=
  if bootstrap.invalidatedAt.isSome then .invalidated
  else if bootstrap.consumedAt.isSome then .consumed
  else if bootstrap.expiresAt ≤ now then .expired
  else .ok

def readBootstrap (moment : Moment Timestamp) (bootstrapId : Bytes) (store : FirstAdminStore) :
    FirstAdminBootstrapLookupResult :=
  if moment.works = false then {}
  else
    match store.bootstrap bootstrapId with
    | none => { status := .notFound }
    | some bootstrap => { status := bootstrapStatus moment.now bootstrap, bootstrap := bootstrap }

def findBootstrapById (statement : Nat → Moment Timestamp) (bootstrapId : Bytes)
    (store : FirstAdminStore) : FirstAdminBootstrapLookupResult :=
  if safeIdentifier bootstrapId = false then { status := .invalid }
  else
    match requireUnclaimed (statement 0) store with
    | .error status => { status := status }
    | .ok _ => readBootstrap (statement 1) bootstrapId store

inductive TerminalColumn
  | consumedAt
  | invalidatedAt
  deriving DecidableEq

def TerminalColumn.set (column : TerminalColumn) (now : Timestamp) (bootstrap : FirstAdminBootstrap) :
    FirstAdminBootstrap :=
  match column with
  | .consumedAt => { bootstrap with consumedAt := some now }
  | .invalidatedAt => { bootstrap with invalidatedAt := some now }

def endable (column : TerminalColumn) (now : Timestamp) (bootstrapId : Bytes)
    (bootstrap : FirstAdminBootstrap) : Bool :=
  bootstrap.bootstrapId == bootstrapId && bootstrap.consumedAt.isNone &&
  bootstrap.invalidatedAt.isNone && (column == .invalidatedAt || now < bootstrap.expiresAt)

def updateTerminalState (statement : Nat → Moment Timestamp) (column : TerminalColumn)
    (bootstrapId : Bytes) (store : FirstAdminStore) : FirstAdminBootstrapStatus × FirstAdminStore :=
  if (statement 0).works = false then (.storageError, store)
  else if store.bootstraps.any (endable column (statement 0).now bootstrapId) then
    (.ok, { store with
      bootstraps := Table.update (endable column (statement 0).now bootstrapId)
        (column.set (statement 0).now) store.bootstraps })
  else
    match (readBootstrap (statement 1) bootstrapId store).status with
    | .ok => (.storageError, store)
    | status => (status, store)

def endInActiveTransaction (transactionActive : Bool) (statement : Nat → Moment Timestamp)
    (column : TerminalColumn) (bootstrapId : Bytes) (store : FirstAdminStore) :
    FirstAdminBootstrapStatus × FirstAdminStore :=
  if safeIdentifier bootstrapId = false then (.invalid, store)
  else if transactionActive = false then (.transactionRequired, store)
  else
    match requireUnclaimed (statement 0) store with
    | .error status => (status, store)
    | .ok _ => updateTerminalState (fun index => statement (1 + index)) column bootstrapId store

def consumeInActiveTransaction (transactionActive : Bool) (statement : Nat → Moment Timestamp)
    (bootstrapId : Bytes) (store : FirstAdminStore) : FirstAdminBootstrapStatus × FirstAdminStore :=
  endInActiveTransaction transactionActive statement .consumedAt bootstrapId store

def invalidateInActiveTransaction (transactionActive : Bool) (statement : Nat → Moment Timestamp)
    (bootstrapId : Bytes) (store : FirstAdminStore) : FirstAdminBootstrapStatus × FirstAdminStore :=
  endInActiveTransaction transactionActive statement .invalidatedAt bootstrapId store

/-! ## The claim -/

inductive FirstAdminClaimStatus
  | success
  | invalidRequest
  | claimed
  | bootstrapNotFound
  | bootstrapExpired
  | bootstrapConsumed
  | bootstrapInvalidated
  | bootstrapRejected
  | entropyUnavailable
  | hashingUnavailable
  | conflict
  | storageError
  deriving DecidableEq

structure FirstAdminClaimRequest where
  bootstrapId : Bytes
  setupSecret : Bytes
  loginName : Bytes
  password : Bytes
  displayName : Bytes
  requestId : Bytes
  correlationId : Bytes := []
  deriving DecidableEq

structure FirstAdminClaimResult where
  status : FirstAdminClaimStatus
  accountId : Bytes := []
  actorId : Bytes := []
  credentialId : Bytes := []
  deriving DecidableEq

/-- What the random source, the hash function and the clock give to one claim: the bytes of the four
identifiers, the hash of the password under a fresh salt, and the formatted time. -/
structure ClaimAnswers where
  accountBytes : Option Bytes
  actorBytes : Option Bytes
  credentialBytes : Option Bytes
  eventBytes : Option Bytes
  encodedPassword : Option Bytes
  occurredAt : Bytes
  crypt : Bytes → Bytes → Option Bytes

def mapBootstrapStatus : FirstAdminBootstrapStatus → FirstAdminClaimStatus
  | .notFound => .bootstrapNotFound
  | .expired => .bootstrapExpired
  | .consumed => .bootstrapConsumed
  | .invalidated => .bootstrapInvalidated
  | .claimed => .claimed
  | .conflict => .conflict
  | .ok => .success
  | .invalid => .invalidRequest
  | .storageError | .transactionRequired => .storageError

def FirstAdminClaimRequest.safe (request : FirstAdminClaimRequest) : Bool :=
  safeText request.bootstrapId 128 1 && safeText request.setupSecret 256 32 &&
  safeText request.loginName 128 1 && safeText request.password 1024 1 &&
  safeText request.displayName 256 1 && safeText request.requestId 128 1 &&
  safeText request.correlationId 128 0

def verifySecret (crypt : Bytes → Bytes → Option Bytes) (secret verifierHash : Bytes) : Bool :=
  supportsVerifierHash verifierHash && crypt secret verifierHash == some verifierHash

def hashHumanPassword (answers : ClaimAnswers) : Bytes :=
  (answers.encodedPassword.filter (text "$y$").isPrefixOf).getD []

structure ClaimIdentifiers where
  accountId : Bytes
  actorId : Bytes
  credentialId : Bytes
  eventId : Bytes
  deriving DecidableEq

def drawIdentifiers (answers : ClaimAnswers) : Option ClaimIdentifiers := do
  let accountId ← randomId answers.accountBytes "account_"
  let actorId ← randomId answers.actorBytes "actor_"
  let credentialId ← randomId answers.credentialBytes "credential_"
  let eventId ← randomId answers.eventBytes "ace_"
  pure { accountId := accountId, actorId := actorId, credentialId := credentialId, eventId := eventId }

def claimEvent (request : FirstAdminClaimRequest) (identifiers : ClaimIdentifiers)
    (occurredAt : Bytes) : AccountabilityEvent :=
  { eventId := identifiers.eventId
    classes := text "security,identity,bootstrap"
    eventType := text "security.first-admin.claim"
    severity := text "info"
    occurredAt := occurredAt
    actorId := identifiers.actorId
    actorType := text "user"
    authenticationState := text "bootstrap"
    permission := text "role.admin"
    backendId := text "*"
    operationId := text "first-admin-claim:" ++ request.bootstrapId
    requestId := request.requestId
    correlationId := request.correlationId
    action := text "first-admin.claim"
    decision := text "allow"
    reasonCode := text "bootstrap_verified"
    outcome := text "success" }

def refuse (status : FirstAdminClaimStatus) : FirstAdminClaimResult := { status := status }

/-- Whether the bootstrap is there, effective and known to the caller, and the login free. -/
def admitClaim (answers : ClaimAnswers) (statement : Nat → Moment Timestamp)
    (request : FirstAdminClaimRequest) (store : FirstAdminStore) :
    Except FirstAdminClaimResult Unit :=
  match claimState (statement 1) store with
  | .unavailable => .error (refuse .storageError)
  | .claimed => .error (refuse .claimed)
  | .unclaimed => do
      let found := findBootstrapById (fun index => statement (2 + index)) request.bootstrapId store
      demand (refuse (mapBootstrapStatus found.status)) (found.status = .ok)
      let bootstrap ← required (refuse .storageError) found.bootstrap
      demand (refuse .bootstrapRejected)
        (verifySecret answers.crypt request.setupSecret bootstrap.verifierHash = true)
      demand (refuse .conflict) (findByLogin (statement 4) request.loginName store.identity = none)

def createAdministrator (request : FirstAdminClaimRequest) (identifiers : ClaimIdentifiers)
    (passwordHash occurredAt : Bytes) (statement : Nat → Moment Timestamp)
    (store : IdentityStore Timestamp) : Except FirstAdminClaimResult (IdentityStore Timestamp) := do
  let store ← required (refuse .storageError)
    (ensureHumanCredentialInActiveTransaction (fun index => statement (8 + index)) identifiers.actorId
      request.displayName identifiers.credentialId (text "human-password") store)
  let store ← required (refuse .storageError)
    (ensureAccountInActiveTransaction (fun index => statement (12 + index)) identifiers.accountId
      identifiers.actorId request.displayName store)
  let store ← required (refuse .conflict)
    (ensureVerifier (fun index => statement (14 + index)) identifiers.credentialId request.loginName
      passwordHash store)
  let store ← required (refuse .storageError)
    (ensureGrant (statement 16) identifiers.actorId (text "role.admin") (text "*") store)
  required (refuse .storageError)
    (append (statement 17) (claimEvent request identifiers occurredAt) store)

def claimBody (answers : ClaimAnswers) (statement : Nat → Moment Timestamp)
    (request : FirstAdminClaimRequest) (identifiers : ClaimIdentifiers) (passwordHash : Bytes)
    (store : FirstAdminStore) :
    Except FirstAdminClaimResult (FirstAdminClaimResult × FirstAdminStore) := do
  admitClaim answers statement request store
  match consumeInActiveTransaction true (fun index => statement (5 + index)) request.bootstrapId
      store with
  | (.ok, store) =>
    let identity ← createAdministrator request identifiers passwordHash answers.occurredAt statement
      store.identity
    pure ({ status := .success
            accountId := identifiers.accountId
            actorId := identifiers.actorId
            credentialId := identifiers.credentialId },
      { store with identity := identity })
  | (status, _) => .error (refuse (mapBootstrapStatus status))

def claim (answers : ClaimAnswers) (statement : Nat → Moment Timestamp)
    (request : FirstAdminClaimRequest) (store : FirstAdminStore) :
    FirstAdminClaimResult × FirstAdminStore :=
  if request.safe = false then (refuse .invalidRequest, store)
  else
    match drawIdentifiers answers with
    | none => (refuse .entropyUnavailable, store)
    | some identifiers =>
      let passwordHash := hashHumanPassword answers
      if passwordHash = [] then (refuse .hashingUnavailable, store)
      else if answers.occurredAt = [] then (refuse .storageError, store)
      else atomically (statement 0).works (statement 18).works (refuse .storageError)
        (claimBody answers statement request identifiers passwordHash) store

/-! ## Runs -/

inductive FirstAdminMove
  | register (registration : FirstAdminBootstrapRegistration) (moments : Moments Timestamp)
  | claim (request : FirstAdminClaimRequest) (answers : ClaimAnswers) (moments : Moments Timestamp)
  | consume (transactionActive : Bool) (bootstrapId : Bytes) (moments : Moments Timestamp)
  | invalidate (transactionActive : Bool) (bootstrapId : Bytes) (moments : Moments Timestamp)
  | administer (identity : IdentityStore Timestamp)

inductive FirstAdminAnswer
  | bootstrap (status : FirstAdminBootstrapStatus)
  | claim (result : FirstAdminClaimResult)
  | administered
  deriving DecidableEq

structure FirstAdminSystem where
  store : FirstAdminStore := {}
  now : Timestamp := []
  deriving DecidableEq

def lastStatement : Nat := 18

def firstAdminStep (system : FirstAdminSystem) : FirstAdminMove → FirstAdminSystem × FirstAdminAnswer
  | .register registration moments =>
    let (status, store) := registerBootstrap moments.statement registration system.store
    ({ store := store, now := moments.clock lastStatement }, .bootstrap status)
  | .claim request answers moments =>
    let (result, store) := claim answers moments.statement request system.store
    ({ store := store, now := moments.clock lastStatement }, .claim result)
  | .consume transactionActive bootstrapId moments =>
    let (status, store) :=
      consumeInActiveTransaction transactionActive moments.statement bootstrapId system.store
    ({ store := store, now := moments.clock lastStatement }, .bootstrap status)
  | .invalidate transactionActive bootstrapId moments =>
    let (status, store) :=
      invalidateInActiveTransaction transactionActive moments.statement bootstrapId system.store
    ({ store := store, now := moments.clock lastStatement }, .bootstrap status)
  | .administer identity => ({ system with store := { system.store with identity := identity } },
      .administered)

end VdrSuite.Security
