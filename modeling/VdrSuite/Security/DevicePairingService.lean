import VdrSuite.Library.Interleaving
import VdrSuite.Security.DevicePairingRepository

/-! The service for pairing requests: its transactions, its calls as programs that perform one
transaction after the other, and their interleavings. -/

set_option autoImplicit false

namespace VdrSuite.Security.DevicePairing

open Library
open Library.Transaction (atomically required demand)

/-! ## What the service shows -/

structure DevicePairingRequestMetadata where
  displayName : Bytes := []
  clientKind : Bytes := []
  appVersion : Bytes := []
  deriving DecidableEq

structure DevicePairingResource where
  pairingRequestId : Bytes := []
  client : DevicePairingRequestMetadata := {}
  state : Bytes := []
  expiresAt : Bytes := []
  pollIntervalSeconds : Nat := 0
  deriving DecidableEq

structure DevicePairingAdministrativeResource where
  resource : DevicePairingResource := {}
  resourceRevision : Bytes := []
  decidedByActorId : Bytes := []
  decidedAt : Bytes := []
  deriving DecidableEq

def lifetimeSeconds : Int := 600

def pollIntervalSeconds : Nat := 3

def resourceFromStored (row : StoredDevicePairingRequest) : DevicePairingResource :=
  { pairingRequestId := row.pairingRequestId
    client :=
      { displayName := row.displayName, clientKind := row.clientKind, appVersion := row.appVersion }
    state := row.state.name
    expiresAt := publicTimestamp row.expiresAt
    pollIntervalSeconds := pollIntervalSeconds }

def administrativeResourceFromStored (row : StoredDevicePairingRequest) :
    DevicePairingAdministrativeResource :=
  { resource := resourceFromStored row
    resourceRevision := administrativeRevision row
    decidedByActorId := row.decidedByActorId
    decidedAt := if row.decidedAt = [] then [] else publicTimestamp row.decidedAt }

inductive DevicePairingAdministrationStatus
  | ok
  | invalidRequest
  | notFound
  | expired
  | revisionConflict
  | stateConflict
  | entropyUnavailable
  | storageError
  deriving DecidableEq

/-! ## Registering a request -/

structure DevicePairingIssueRequest where
  client : DevicePairingRequestMetadata
  requestId : Bytes
  correlationId : Bytes := []
  deriving DecidableEq

inductive DevicePairingIssueStatus
  | issued
  | invalidRequest
  | entropyUnavailable
  | hashingUnavailable
  | storageError
  deriving DecidableEq

structure IssuedDevicePairingRequest where
  resource : DevicePairingResource
  userCode : Bytes
  pairingToken : Bytes
  deriving DecidableEq

structure DevicePairingIssueResult where
  status : DevicePairingIssueStatus := .storageError
  pairing : Option IssuedDevicePairingRequest := none
  deriving DecidableEq

def DevicePairingIssueRequest.valid (request : DevicePairingIssueRequest) : Bool :=
  safePresentationText request.client.displayName 128 false &&
  safeClientKind request.client.clientKind &&
  safePresentationText request.client.appVersion 64 true &&
  !request.requestId.isEmpty && request.requestId.length ≤ 256 && request.correlationId.length ≤ 256

structure GeneratedPairingMaterial where
  pairingRequestId : Bytes
  userCode : Bytes
  pairingToken : Bytes
  userCodeHash : Bytes
  pairingTokenHash : Bytes
  deriving DecidableEq

def pairingMaterial (platform : Platform)
    (identifier userCodeBytes tokenBytes codeSaltBytes tokenSaltBytes : Bytes) :
    GeneratedPairingMaterial :=
  let userCode := pairingCode userCodeBytes
  let pairingToken := base64UrlEncode tokenBytes
  { pairingRequestId := text "dpr_" ++ Hex.encode identifier
    userCode := userCode
    pairingToken := pairingToken
    userCodeHash := hashSecret platform userCode (cryptSaltEncode codeSaltBytes)
    pairingTokenHash := hashSecret platform pairingToken (cryptSaltEncode tokenSaltBytes) }

def checkMaterial (material : GeneratedPairingMaterial) :
    Except DevicePairingIssueStatus GeneratedPairingMaterial :=
  if material.userCodeHash = [] ∨ material.pairingTokenHash = [] then .error .hashingUnavailable
  else if material.userCode.length ≠ 9 ∨ material.pairingToken.length < 32 then
    .error .entropyUnavailable
  else .ok material

def pairingRegistration (request : DevicePairingIssueRequest) (material : GeneratedPairingMaterial)
    (expiresAt : Timestamp) : DevicePairingRequestRegistration :=
  { pairingRequestId := material.pairingRequestId
    userCodeHash := material.userCodeHash
    pairingTokenHash := material.pairingTokenHash
    displayName := request.client.displayName
    clientKind := request.client.clientKind
    appVersion := request.client.appVersion
    expiresAt := expiresAt }

def requestedEvent (request : DevicePairingIssueRequest) (pairingRequestId occurredAt : Bytes) :
    AccountabilityEvent :=
  { eventId := text "audit-" ++ pairingRequestId
    classes := text "audit,security"
    eventType := text "device_pairing.requested"
    severity := text "info"
    occurredAt := occurredAt
    actorId := text "anonymous"
    actorType := text "anonymous"
    authenticationState := text "anonymous"
    permission := text "device.pairing.bootstrap"
    backendId := text "*"
    operationId := pairingRequestId
    requestId := request.requestId
    correlationId := request.correlationId
    action := text "device_pairing.create"
    decision := text "allowed"
    reasonCode := text "pairing_request_created"
    outcome := text "created" }

def appendEvent (moment : Moment Timestamp) (event : AccountabilityEvent) (store : PairingStore) :
    Option PairingStore := do
  let identity ← append moment event store.identity
  pure { store with identity := identity }

def registerStatus : DevicePairingRequestRepositoryStatus → DevicePairingIssueStatus
  | .invalid => .invalidRequest
  | _ => .storageError

def registerBody (statement : Nat → Moment Timestamp) (registration : DevicePairingRequestRegistration)
    (event : AccountabilityEvent) (store : PairingStore) :
    Except DevicePairingIssueStatus (DevicePairingIssueStatus × PairingStore) := do
  let store ← (registerInActiveTransaction (statement 1) registration store).mapError registerStatus
  demand .storageError (event.occurredAt ≠ [])
  let store ← required .storageError (appendEvent (statement 2) event store)
  pure (.issued, store)

def register (statement : Nat → Moment Timestamp) (registration : DevicePairingRequestRegistration)
    (event : AccountabilityEvent) (store : PairingStore) : DevicePairingIssueStatus × PairingStore :=
  atomically (statement 0).works (statement 3).works .storageError
    (registerBody statement registration event) store

/-! ## Deciding -/

structure DevicePairingAdministrationContext where
  actorId : Bytes
  actorType : Bytes
  requestId : Bytes
  correlationId : Bytes := []
  deriving DecidableEq

structure DevicePairingDecisionRequest where
  context : DevicePairingAdministrationContext
  pairingRequestId : Bytes
  expectedResourceRevision : Bytes
  decision : Bytes
  deriving DecidableEq

structure DevicePairingDecisionResult where
  status : DevicePairingAdministrationStatus := .storageError
  request : DevicePairingAdministrativeResource := {}
  deriving DecidableEq

def DevicePairingAdministrationContext.valid (context : DevicePairingAdministrationContext) : Bool :=
  safePresentationText context.actorId 128 false && safePresentationText context.actorType 32 false &&
  safePresentationText context.requestId 256 false && safePresentationText context.correlationId 256 true

def DevicePairingDecisionRequest.valid (request : DevicePairingDecisionRequest) : Bool :=
  request.context.valid && !request.pairingRequestId.isEmpty && request.pairingRequestId.length ≤ 128 &&
  (request.decision == text "approve" || request.decision == text "reject")

def DevicePairingDecisionRequest.state (request : DevicePairingDecisionRequest) : PairingState :=
  if request.decision = text "approve" then .approved else .rejected

structure DecisionOutcome where
  status : DevicePairingAdministrationStatus
  resource : DevicePairingAdministrativeResource := {}
  allowed : Bool := false
  reasonCode : Bytes
  deriving DecidableEq

def decisionEvent (request : DevicePairingDecisionRequest) (expectedRevision : Nat)
    (eventId occurredAt : Bytes) (outcome : DecisionOutcome) : AccountabilityEvent :=
  { eventId := eventId
    classes := if outcome.allowed then text "audit,security,identity" else text "audit,security"
    eventType := text "device_pairing.administration"
    severity := if outcome.allowed then text "info" else text "warning"
    occurredAt := occurredAt
    actorId := request.context.actorId
    actorType := request.context.actorType
    authenticationState := text "authenticated"
    permission := text "device.pairing.decide"
    backendId := text "*"
    operationId := text "device-pairing:" ++ request.pairingRequestId ++ text ":revision:" ++
      decimal expectedRevision
    requestId := request.context.requestId
    correlationId := request.context.correlationId
    action := text "device_pairing." ++ request.decision
    decision := if outcome.allowed then text "allow" else text "deny"
    reasonCode := outcome.reasonCode
    outcome := if outcome.allowed then text "success" else text "failed" }

def auditAndFinish (statement : Nat → Moment Timestamp) (event : AccountabilityEvent)
    (outcome : DecisionOutcome) (store : PairingStore) :
    Except DevicePairingDecisionResult (DevicePairingDecisionResult × PairingStore) := do
  let store ← required { request := outcome.resource } (appendEvent (statement 5) event store)
  demand { request := outcome.resource } ((statement 6).works = true)
  pure ({ status := outcome.status, request := outcome.resource }, store)

def missingOutcome : DevicePairingRequestRepositoryStatus → Option DecisionOutcome
  | .notFound | .invalidated =>
    some { status := .notFound, reasonCode := text "pairing_request_not_found" }
  | .expired => some { status := .expired, reasonCode := text "pairing_request_expired" }
  | .invalid => some { status := .invalidRequest, reasonCode := text "pairing_request_invalid" }
  | _ => none

def revisionConflictOutcome (resource : DevicePairingAdministrativeResource) : DecisionOutcome :=
  { status := .revisionConflict
    resource := resource
    reasonCode := text "pairing_request_revision_conflict" }

def stateConflictOutcome (resource : DevicePairingAdministrativeResource) : DecisionOutcome :=
  { status := .stateConflict
    resource := resource
    reasonCode := text "pairing_request_already_decided" }

def refusedOutcome (resource : DevicePairingAdministrativeResource) :
    DevicePairingRequestRepositoryStatus → Option DecisionOutcome
  | .revisionConflict => some (revisionConflictOutcome resource)
  | .stateConflict => some (stateConflictOutcome resource)
  | .expired => some
      { status := .expired, resource := resource, reasonCode := text "pairing_request_expired" }
  | _ => none

def allowedOutcome (request : DevicePairingDecisionRequest)
    (resource : DevicePairingAdministrativeResource) : DecisionOutcome :=
  { status := .ok
    resource := resource
    allowed := true
    reasonCode :=
      if request.state = .approved then text "pairing_request_approved"
      else text "pairing_request_rejected" }

def decisionStored (request : DevicePairingDecisionRequest) (expectedRevision : Nat)
    (row : StoredDevicePairingRequest) : Bool :=
  row.state == request.state && row.revision == expectedRevision + 1 &&
  row.decidedByActorId == request.context.actorId && !row.decidedAt.isEmpty

def decideBody (statement : Nat → Moment Timestamp) (request : DevicePairingDecisionRequest)
    (expectedRevision : Nat) (eventId occurredAt : Bytes) (store : PairingStore) :
    Except DevicePairingDecisionResult (DevicePairingDecisionResult × PairingStore) :=
  let finish := fun outcome => auditAndFinish statement
    (decisionEvent request expectedRevision eventId occurredAt outcome) outcome
  match findById (statement 1) request.pairingRequestId store with
  | .error status => do
      let outcome ← required {} (missingOutcome status)
      finish outcome store
  | .ok current => do
      let shown := administrativeResourceFromStored current
      demand {} (shown.resourceRevision ≠ [] ∧ shown.resource.expiresAt ≠ [])
      if current.revision ≠ expectedRevision then finish (revisionConflictOutcome shown) store
      else if current.state ≠ .pending then finish (stateConflictOutcome shown) store
      else
        match decideInActiveTransaction (fun index => statement (2 + index)) request.pairingRequestId
          expectedRevision request.state request.context.actorId store with
        | .error status => do
            let outcome ← required {} (refusedOutcome shown status)
            finish outcome store
        | .ok store => do
            let updated ← (findById (statement 4) request.pairingRequestId store).mapError
              fun _ => {}
            demand {} (decisionStored request expectedRevision updated = true)
            let shown := administrativeResourceFromStored updated
            demand {} (shown.resourceRevision ≠ [] ∧ shown.decidedAt ≠ [])
            finish (allowedOutcome request shown) store

def recordDecision (statement : Nat → Moment Timestamp) (request : DevicePairingDecisionRequest)
    (expectedRevision : Nat) (eventId occurredAt : Bytes) (store : PairingStore) :
    DevicePairingDecisionResult × PairingStore :=
  atomically (statement 0).works true {}
    (decideBody statement request expectedRevision eventId occurredAt) store

/-! ## Creating the credential -/

inductive DevicePairingCredentialIssueStatus
  | issued
  | invalidRequest
  | notFound
  | unauthorized
  | notApproved
  | expired
  | consumed
  | entropyUnavailable
  | hashingUnavailable
  | storageError
  deriving DecidableEq

structure DevicePairingCredentialIssueRequest where
  pairingRequestId : Bytes
  pairingToken : Bytes
  requestId : Bytes
  correlationId : Bytes := []
  deriving DecidableEq

structure IssuedDeviceCredential where
  actorId : Bytes
  deviceId : Bytes
  credentialId : Bytes
  credentialSecret : Bytes
  deriving DecidableEq

structure DevicePairingCredentialIssueResult where
  status : DevicePairingCredentialIssueStatus := .storageError
  credential : Option IssuedDeviceCredential := none
  deriving DecidableEq

structure CredentialMaterial extends IssuedDeviceCredential where
  verifierHash : Bytes
  deriving DecidableEq

structure TransactionAnswers where
  auditBytes : Option Bytes
  now : Int

def refuse (status : DevicePairingCredentialIssueStatus) : DevicePairingCredentialIssueResult :=
  { status := status }

def validLengths (pairingRequestId pairingToken : Bytes) : Bool :=
  !pairingRequestId.isEmpty && pairingRequestId.length ≤ 128 && !pairingToken.isEmpty &&
  pairingToken.length ≤ 256

def DevicePairingCredentialIssueRequest.valid (request : DevicePairingCredentialIssueRequest) : Bool :=
  validLengths request.pairingRequestId request.pairingToken && !request.requestId.isEmpty &&
  request.requestId.length ≤ 256 && request.correlationId.length ≤ 256

def lookupStatus : DevicePairingRequestRepositoryStatus → DevicePairingCredentialIssueStatus
  | .notFound | .invalidated => .notFound
  | .expired => .expired
  | _ => .storageError

def admitCredential (platform : Platform) (pairingToken : Bytes)
    (found : Except DevicePairingRequestRepositoryStatus StoredDevicePairingRequest) :
    Except DevicePairingCredentialIssueResult StoredDevicePairingRequest := do
  let row ← found.mapError fun status => refuse (lookupStatus status)
  demand (refuse .unauthorized) (verifySecret platform pairingToken row.pairingTokenHash = true)
  demand (refuse .consumed) (row.state ≠ .consumed)
  demand (refuse .notApproved) (row.state = .approved)
  pure row

def credentialMaterial (platform : Platform)
    (actorBytes deviceBytes credentialBytes secretBytes saltBytes : Bytes) : CredentialMaterial :=
  let credentialSecret := base64UrlEncode secretBytes
  { actorId := text "actor_device_" ++ Hex.encode actorBytes
    deviceId := text "device_" ++ Hex.encode deviceBytes
    credentialId := text "credential_device_" ++ Hex.encode credentialBytes
    credentialSecret := credentialSecret
    verifierHash := hashSecret platform credentialSecret (cryptSaltEncode saltBytes) }

def deviceBound (credentialId deviceId : Bytes) (store : IdentityStore Timestamp) : Bool :=
  (store.credential credentialId).any fun credential =>
    (store.device deviceId).any fun device =>
      (store.actor credential.actorId).any fun actor =>
        device.actorId == credential.actorId && credential.credentialType == text "device-app" &&
        credential.active && !credential.revoked && device.active && !device.revoked &&
        actor.active && !actor.revoked && actor.type == .service

def insertDeviceVerifier (moment : Moment Timestamp) (verifier : StoredDeviceCredentialVerifier)
    (store : IdentityStore Timestamp) : Option (IdentityStore Timestamp) := do
  guard (!verifier.credentialId.isEmpty && !verifier.deviceId.isEmpty &&
    40 ≤ verifier.verifierHash.length && verifier.verifierHash.length ≤ 1024 &&
    supportsSecretHash verifier.verifierHash && moment.works &&
    deviceBound verifier.credentialId verifier.deviceId store &&
    !store.deviceVerifiers.any (·.credentialId == verifier.credentialId))
  pure { store with deviceVerifiers := store.deviceVerifiers ++ [verifier] }

def createDevice (statement : Nat → Moment Timestamp) (displayName : Bytes)
    (material : CredentialMaterial) (store : IdentityStore Timestamp) :
    Option (IdentityStore Timestamp) := do
  let store ← ensureTechnicalIdentity statement material.actorId .service
    (text "Paired device " ++ displayName) material.deviceId displayName material.credentialId
    (text "device-app") store
  insertDeviceVerifier (statement 6)
    { credentialId := material.credentialId
      deviceId := material.deviceId
      verifierHash := material.verifierHash } store

def credentialIssuedEvent (request : DevicePairingCredentialIssueRequest)
    (actorId eventId occurredAt : Bytes) : AccountabilityEvent :=
  { eventId := eventId
    classes := text "audit,security"
    eventType := text "device_pairing.credential_issued"
    severity := text "info"
    occurredAt := occurredAt
    actorId := actorId
    actorType := text "service"
    authenticationState := text "anonymous"
    permission := text "device.pairing.bootstrap"
    backendId := text "*"
    operationId := request.pairingRequestId
    requestId := request.requestId
    correlationId := request.correlationId
    action := text "device_pairing.issue_credential"
    decision := text "allowed"
    reasonCode := text "device_credential_issued"
    outcome := text "created" }

def createCredentialBody (platform : Platform) (answers : TransactionAnswers)
    (statement : Nat → Moment Timestamp) (request : DevicePairingCredentialIssueRequest)
    (material : CredentialMaterial) (store : PairingStore) :
    Except DevicePairingCredentialIssueResult (DevicePairingCredentialIssueResult × PairingStore) := do
  let row ← admitCredential platform request.pairingToken
    (findById (statement 1) request.pairingRequestId store)
  let identity ← required {}
    (createDevice (fun index => statement (2 + index)) row.displayName material store.identity)
  let store ← (consumeApprovedInActiveTransaction (fun index => statement (9 + index))
    request.pairingRequestId row.revision { store with identity := identity }).mapError fun _ => {}
  let eventId ← required (refuse .entropyUnavailable) (randomId answers.auditBytes "ace_")
  let event := credentialIssuedEvent request material.actorId eventId
    (nowPublicTimestamp platform answers.now)
  demand {} (event.occurredAt ≠ [])
  let store ← required {} (appendEvent (statement 11) event store)
  pure ({ status := .issued, credential := some material.toIssuedDeviceCredential }, store)

def createCredential (platform : Platform) (answers : TransactionAnswers)
    (statement : Nat → Moment Timestamp) (request : DevicePairingCredentialIssueRequest)
    (material : CredentialMaterial) (store : PairingStore) :
    DevicePairingCredentialIssueResult × PairingStore :=
  atomically (statement 0).works (statement 12).works {}
    (createCredentialBody platform answers statement request material) store

/-! ## Polling -/

inductive DevicePairingPollStatus
  | ok
  | invalidRequest
  | notFound
  | unauthorized
  | expired
  | consumed
  | unavailable
  deriving DecidableEq

structure DevicePairingPollRequest where
  pairingRequestId : Bytes
  pairingToken : Bytes
  deriving DecidableEq

structure DevicePairingPollResult where
  status : DevicePairingPollStatus := .unavailable
  resource : DevicePairingResource := {}
  deriving DecidableEq

def pollStatus : DevicePairingRequestRepositoryStatus → DevicePairingPollStatus
  | .invalid => .invalidRequest
  | .notFound | .invalidated => .notFound
  | .expired => .expired
  | _ => .unavailable

def pollResult (platform : Platform) (request : DevicePairingPollRequest)
    (found : Except DevicePairingRequestRepositoryStatus StoredDevicePairingRequest) :
    DevicePairingPollResult :=
  match found with
  | .error status => { status := pollStatus status }
  | .ok row =>
    if verifySecret platform request.pairingToken row.pairingTokenHash = false then
      { status := .unauthorized }
    else if row.state = .consumed then { status := .consumed }
    else
      let resource := resourceFromStored row
      if resource.expiresAt = [] then { resource := resource } else { status := .ok, resource := resource }

/-! ## What a call does outside itself -/

inductive PairingCall
  | issue (request : DevicePairingIssueRequest)
  | decide (request : DevicePairingDecisionRequest)
  | issueDeviceCredential (request : DevicePairingCredentialIssueRequest)
  | poll (request : DevicePairingPollRequest)
  deriving DecidableEq

inductive PairingResult
  | issue (result : DevicePairingIssueResult)
  | decide (result : DevicePairingDecisionResult)
  | issueDeviceCredential (result : DevicePairingCredentialIssueResult)
  | poll (result : DevicePairingPollResult)
  deriving DecidableEq

/-- The atomic steps: a thread enters or leaves a call, asks the random source or the clock, looks a
request up, or carries out a transaction. -/
inductive PairingEffect
  | enter (call : PairingCall)
  | leave (result : PairingResult)
  | entropy (size : Nat)
  | now
  | find (pairingRequestId : Bytes)
  | register (registration : DevicePairingRequestRegistration) (event : AccountabilityEvent)
  | recordDecision (request : DevicePairingDecisionRequest) (expectedRevision : Nat)
      (eventId occurredAt : Bytes)
  | createCredential (request : DevicePairingCredentialIssueRequest) (material : CredentialMaterial)
  deriving DecidableEq

def PairingReply : PairingEffect → Type
  | .enter _ | .leave _ => Unit
  | .entropy _ => Option Bytes
  | .now => Int
  | .find _ => Except DevicePairingRequestRepositoryStatus StoredDevicePairingRequest
  | .register _ _ => DevicePairingIssueStatus
  | .recordDecision _ _ _ _ => DevicePairingDecisionResult
  | .createCredential _ _ => DevicePairingCredentialIssueResult

abbrev Pairing (Result : Type) : Type := Program PairingEffect PairingReply Result

namespace Pairing

def enter (call : PairingCall) : Pairing Unit := Program.request (PairingEffect.enter call)

def leave (result : PairingResult) : Pairing Unit := Program.request (PairingEffect.leave result)

def entropy (size : Nat) : Pairing (Option Bytes) := Program.request (PairingEffect.entropy size)

def now : Pairing Int := Program.request PairingEffect.now

def find (pairingRequestId : Bytes) :
    Pairing (Except DevicePairingRequestRepositoryStatus StoredDevicePairingRequest) :=
  Program.request (PairingEffect.find pairingRequestId)

def register (registration : DevicePairingRequestRegistration) (event : AccountabilityEvent) :
    Pairing DevicePairingIssueStatus :=
  Program.request (PairingEffect.register registration event)

def recordDecision (request : DevicePairingDecisionRequest) (expectedRevision : Nat)
    (eventId occurredAt : Bytes) : Pairing DevicePairingDecisionResult :=
  Program.request (PairingEffect.recordDecision request expectedRevision eventId occurredAt)

def createCredential (request : DevicePairingCredentialIssueRequest) (material : CredentialMaterial) :
    Pairing DevicePairingCredentialIssueResult :=
  Program.request (PairingEffect.createCredential request material)

end Pairing

/-! ## The calls -/

variable (platform : Platform)

def draw : List Nat → Pairing (Option (List Bytes))
  | [] => pure (some [])
  | size :: rest => do
      match ← Pairing.entropy size with
      | none => pure none
      | some bytes => do
          match ← draw rest with
          | none => pure none
          | some others => pure (some (bytes :: others))

def issuedPairing (request : DevicePairingIssueRequest) (material : GeneratedPairingMaterial)
    (expiresAt : Timestamp) : IssuedDevicePairingRequest :=
  { resource :=
      { pairingRequestId := material.pairingRequestId
        client := request.client
        state := text "pending"
        expiresAt := publicTimestamp expiresAt
        pollIntervalSeconds := pollIntervalSeconds }
    userCode := material.userCode
    pairingToken := material.pairingToken }

def registerMaterial (request : DevicePairingIssueRequest) (material : GeneratedPairingMaterial) :
    Pairing DevicePairingIssueResult := do
  let now ← Pairing.now
  let expiresAt := platform.formatDatabaseTimestamp (now + lifetimeSeconds)
  if expiresAt = [] ∨ publicTimestamp expiresAt = [] then pure {}
  else
    let status ← Pairing.register (pairingRegistration request material expiresAt)
      (requestedEvent request material.pairingRequestId (nowPublicTimestamp platform now))
    if status = .issued then
      pure { status := .issued, pairing := some (issuedPairing request material expiresAt) }
    else pure { status := status }

def issue (request : DevicePairingIssueRequest) : Pairing DevicePairingIssueResult :=
  if request.valid = false then pure { status := .invalidRequest }
  else do
    match ← draw [16, 8, 32, 16, 16] with
    | some [identifier, userCode, token, codeSalt, tokenSalt] =>
      match checkMaterial (pairingMaterial platform identifier userCode token codeSalt tokenSalt) with
      | .error status => pure { status := status }
      | .ok material => registerMaterial platform request material
    | _ => pure { status := .entropyUnavailable }

def decideRevision (request : DevicePairingDecisionRequest) (expectedRevision : Nat) :
    Pairing DevicePairingDecisionResult := do
  let bytes ← Pairing.entropy 16
  let now ← Pairing.now
  let occurredAt := nowPublicTimestamp platform now
  match randomId bytes "ace_" with
  | none => pure { status := .entropyUnavailable }
  | some eventId =>
    if occurredAt = [] then pure {}
    else Pairing.recordDecision request expectedRevision eventId occurredAt

def decide (request : DevicePairingDecisionRequest) : Pairing DevicePairingDecisionResult :=
  if request.valid = false then pure { status := .invalidRequest }
  else
    match parseAdministrativeRevision request.expectedResourceRevision request.pairingRequestId with
    | none => pure { status := .invalidRequest }
    | some expectedRevision => decideRevision platform request expectedRevision

def issueMaterial (request : DevicePairingCredentialIssueRequest) (material : CredentialMaterial) :
    Pairing DevicePairingCredentialIssueResult :=
  if material.verifierHash = [] then pure (refuse .hashingUnavailable)
  else Pairing.createCredential request material

def issueDeviceCredential (request : DevicePairingCredentialIssueRequest) :
    Pairing DevicePairingCredentialIssueResult :=
  if request.valid = false then pure (refuse .invalidRequest)
  else do
    let preliminary ← Pairing.find request.pairingRequestId
    match admitCredential platform request.pairingToken preliminary with
    | .error refused => pure refused
    | .ok _ => do
        match ← draw [16, 16, 16, 32, 16] with
        | some [actor, device, credential, secret, salt] =>
          issueMaterial request (credentialMaterial platform actor device credential secret salt)
        | _ => pure (refuse .entropyUnavailable)

def poll (request : DevicePairingPollRequest) : Pairing DevicePairingPollResult :=
  if validLengths request.pairingRequestId request.pairingToken = false then
    pure { status := .invalidRequest }
  else do
    let found ← Pairing.find request.pairingRequestId
    pure (pollResult platform request found)

def answerCall : PairingCall → Pairing PairingResult
  | .issue request => do
      let result ← issue platform request
      pure (.issue result)
  | .decide request => do
      let result ← decide platform request
      pure (.decide result)
  | .issueDeviceCredential request => do
      let result ← issueDeviceCredential platform request
      pure (.issueDeviceCredential result)
  | .poll request => do
      let result ← poll platform request
      pure (.poll result)

def serve (call : PairingCall) : Pairing Unit := do
  Pairing.enter call
  let result ← answerCall platform call
  Pairing.leave result

/-! ## Steps -/

structure PairingAnswers where
  entropy : Option Bytes
  now : Int
  statement : Nat → Moment Timestamp

def perform (answers : PairingAnswers) :
    (effect : PairingEffect) → PairingStore → PairingReply effect × PairingStore
  | .enter _, store | .leave _, store => ((), store)
  | .entropy _, store => (answers.entropy, store)
  | .now, store => (answers.now, store)
  | .find pairingRequestId, store => (findById (answers.statement 0) pairingRequestId store, store)
  | .register registration event, store => register answers.statement registration event store
  | .recordDecision request expectedRevision eventId occurredAt, store =>
    recordDecision answers.statement request expectedRevision eventId occurredAt store
  | .createCredential request material, store =>
    createCredential platform ⟨answers.entropy, answers.now⟩ answers.statement request material store

inductive PairingMove
  | call (entered : PairingCall)
  | advance (thread : Nat) (answers : PairingAnswers)

abbrev PairingSystem : Type := Interleaving.System PairingEffect PairingReply Unit PairingStore

def PairingMove.toMove : PairingMove → Interleaving.Move PairingEffect PairingReply Unit PairingAnswers Empty
  | .call entered => .start (serve platform entered)
  | .advance thread answers => .advance thread answers

def pairingStep (system : PairingSystem) (move : PairingMove) :
    PairingSystem × Option (Interleaving.Event PairingReply) :=
  Interleaving.machine (perform platform) Empty.elim (PairingMove.toMove platform) system move

end VdrSuite.Security.DevicePairing
