import VdrSuite.Security.DevicePairingService
import VdrSuite.Security.IdentityStoreProperties

/-! What the transactions over pairing requests leave behind: one inversion for each of them, and what
one step of the service may do to the tables. -/

set_option autoImplicit false

namespace VdrSuite.Security.DevicePairing

open Library Library.Transaction
open Library.Interleaving (Event)

abbrev PairingEvent : Type := Event PairingReply

variable {store after : PairingStore}

/-! ## Statements -/

theorem id_of_request {pairingRequestId : Bytes} {row : StoredDevicePairingRequest}
    (found : store.request pairingRequestId = some row) : row.pairingRequestId = pairingRequestId :=
  Table.key_of_lookup (fun row : StoredDevicePairingRequest => row.pairingRequestId) found

theorem registerInActiveTransaction_ok {moment : Moment Timestamp}
    {registration : DevicePairingRequestRegistration}
    (done : registerInActiveTransaction moment registration store = .ok after) :
    store.request registration.pairingRequestId = none ∧
    after = { store with requests := store.requests ++ [registered registration moment.now] } := by
  unfold registerInActiveTransaction at done
  split at done
  · cases done
  · split at done
    · cases done
    · split at done
      · cases done
      · next free =>
        cases done
        refine ⟨(Table.lookup_eq_none_iff _).mpr ?_, rfl⟩
        intro member
        obtain ⟨row, present, same⟩ := List.mem_map.mp member
        refine free (List.any_eq_true.mpr ⟨row, present, ?_⟩)
        rw [same, beq_self_eq_true, Bool.true_or, Bool.true_or]

theorem findById_ok {moment : Moment Timestamp} {pairingRequestId : Bytes}
    {row : StoredDevicePairingRequest}
    (found : findById moment pairingRequestId store = .ok row) :
    store.request pairingRequestId = some row ∧ row.invalidated = false ∧
    moment.now < row.expiresAt := by
  unfold findById at found
  split at found
  · cases found
  · split at found
    · cases found
    · cases present : store.request pairingRequestId with
      | none =>
        rw [present] at found
        cases found
      | some other =>
        rw [present] at found
        dsimp only at found
        split at found
        · unfold statusForStored at found
          split at found
          · cases found
          · next current =>
            split at found
            · cases found
            · next unexpired =>
              cases found
              exact ⟨rfl, Bool.not_eq_true _ ▸ current, not_le.mp unexpired⟩
        · cases found

theorem compareAndSet_ok {statement : Nat → Moment Timestamp} {pairingRequestId : Bytes}
    {expectedRevision : Nat} {state : PairingState}
    {change : StoredDevicePairingRequest → StoredDevicePairingRequest}
    (done : compareAndSet statement pairingRequestId expectedRevision state change store = .ok after) :
    ∃ row, store.request pairingRequestId = some row ∧ row.revision = expectedRevision ∧
      row.state = state ∧ row.invalidated = false ∧ (statement 0).now < row.expiresAt ∧
      after = store.setRequest (change row) := by
  unfold compareAndSet at done
  split at done
  · cases done
  · split at done
    · next row ready =>
      cases done
      obtain ⟨found, selected⟩ := Option.filter_eq_some_iff.mp ready
      simp only [StoredDevicePairingRequest.ready, Bool.and_eq_true, beq_iff_eq, Bool.not_eq_true',
        decide_eq_true_eq] at selected
      obtain ⟨⟨⟨revision, stateful⟩, current⟩, unexpired⟩ := selected
      exact ⟨row, found, revision, stateful, current, unexpired, rfl⟩
    · split at done
      · cases done
      · split at done
        · cases done
        · split at done
          · cases done
          · cases done

theorem decideInActiveTransaction_ok {statement : Nat → Moment Timestamp} {pairingRequestId : Bytes}
    {expectedRevision : Nat} {state : PairingState} {decidedByActorId : Bytes}
    (done : decideInActiveTransaction statement pairingRequestId expectedRevision state
      decidedByActorId store = .ok after) :
    ∃ row, store.request pairingRequestId = some row ∧ row.revision = expectedRevision ∧
      row.state = .pending ∧ row.invalidated = false ∧ (statement 0).now < row.expiresAt ∧
      after = store.setRequest (decided state decidedByActorId (statement 0).now row) := by
  unfold decideInActiveTransaction at done
  split at done
  · cases done
  · exact compareAndSet_ok done

theorem consumeApprovedInActiveTransaction_ok {statement : Nat → Moment Timestamp}
    {pairingRequestId : Bytes} {expectedRevision : Nat}
    (done : consumeApprovedInActiveTransaction statement pairingRequestId expectedRevision store =
      .ok after) :
    ∃ row, store.request pairingRequestId = some row ∧ row.revision = expectedRevision ∧
      row.state = .approved ∧ row.invalidated = false ∧ (statement 0).now < row.expiresAt ∧
      after = store.setRequest (consumed row) := by
  unfold consumeApprovedInActiveTransaction at done
  split at done
  · cases done
  · exact compareAndSet_ok done

def PairingStore.recorded (event : AccountabilityEvent) (store : PairingStore) : PairingStore :=
  { store with identity := { store.identity with events := store.identity.events ++ [event] } }

theorem appendEvent_some {moment : Moment Timestamp} {event : AccountabilityEvent}
    (done : appendEvent moment event store = some after) : after = store.recorded event := by
  obtain ⟨identity, appended, same⟩ := Option.bind_eq_some_iff.mp done
  cases append_some appended
  exact (Option.some.inj same).symm

theorem request_setRequest {row found : StoredDevicePairingRequest}
    (present : store.request row.pairingRequestId = some found) (wanted : Bytes) :
    (store.setRequest row).request wanted =
      if wanted = row.pairingRequestId then some row else store.request wanted := by
  have updated : (store.setRequest row).request wanted = (store.request wanted).map fun other =>
      if other.pairingRequestId == row.pairingRequestId then row else other :=
    Table.lookup_update (fun row : StoredDevicePairingRequest => row.pairingRequestId)
      (fun other same => (beq_iff_eq.mp same).symm) wanted store.requests
  rw [updated]
  split
  · next same =>
    rw [same, present, Option.map_some, id_of_request present, beq_self_eq_true, if_pos rfl]
  · next different =>
    cases other : store.request wanted with
    | none => rfl
    | some kept =>
      rw [Option.map_some, id_of_request other, if_neg (by rw [beq_iff_eq]; exact different)]

/-! ## Transactions -/

theorem register_cases (statement : Nat → Moment Timestamp)
    (registration : DevicePairingRequestRegistration) (event : AccountabilityEvent)
    (store : PairingStore) :
    (register statement registration event store).2 = store ∨
    (store.request registration.pairingRequestId = none ∧
      (register statement registration event store).2 =
        { store.recorded event with
          requests := store.requests ++ [registered registration (statement 1).now] }) := by
  unfold register
  rcases atomically_cases (statement 0).works (statement 3).works .storageError
    (registerBody statement registration event) store with ⟨-, -, done⟩ | ⟨kept, -⟩
  · refine .inr ?_
    obtain ⟨next, inserted, done⟩ := bind_eq_ok_iff.mp done
    obtain ⟨_, -, done⟩ := bind_eq_ok_iff.mp done
    obtain ⟨last, appended, done⟩ := bind_eq_ok_iff.mp done
    obtain ⟨fresh, rfl⟩ := registerInActiveTransaction_ok (mapError_eq_ok_iff.mp inserted)
    obtain rfl := appendEvent_some (required_eq_ok_iff.mp appended)
    rw [← Except.ok.inj done]
    exact ⟨fresh, rfl⟩
  · exact .inl kept

section Decision

variable {statement : Nat → Moment Timestamp} {request : DevicePairingDecisionRequest}
  {expectedRevision : Nat} {eventId occurredAt : Bytes} {result : DevicePairingDecisionResult}

theorem auditAndFinish_ok {event : AccountabilityEvent} {outcome : DecisionOutcome}
    (done : auditAndFinish statement event outcome store = .ok (result, after)) :
    result.status = outcome.status ∧ after = store.recorded event := by
  obtain ⟨next, appended, done⟩ := bind_eq_ok_iff.mp done
  obtain ⟨_, -, done⟩ := bind_eq_ok_iff.mp done
  cases done
  exact ⟨rfl, appendEvent_some (required_eq_ok_iff.mp appended)⟩

abbrev Denies (result : DevicePairingDecisionResult) : Prop := result.status ≠ .ok

theorem auditAndFinish_error (event : AccountabilityEvent) (outcome : DecisionOutcome) :
    EndsWith Denies (auditAndFinish statement event outcome store) := by
  refine endsWith_bind (endsWith_required nofun _) fun _ => ?_
  exact endsWith_bind (endsWith_demand fun _ => nofun) fun _ => endsWith_ok _

theorem missingOutcome_denies {status : DevicePairingRequestRepositoryStatus}
    {outcome : DecisionOutcome} (missing : missingOutcome status = some outcome) :
    outcome.status ≠ .ok := by
  cases status
  all_goals
    cases missing
    try nofun

theorem refusedOutcome_denies {resource : DevicePairingAdministrativeResource}
    {status : DevicePairingRequestRepositoryStatus} {outcome : DecisionOutcome}
    (refused : refusedOutcome resource status = some outcome) : outcome.status ≠ .ok := by
  cases status
  all_goals
    cases refused
    try nofun

theorem decideBody_ok
    (done : decideBody statement request expectedRevision eventId occurredAt store =
      .ok (result, after)) :
    (result.status ≠ .ok ∧ ∃ event, after = store.recorded event) ∨
    (result.status = .ok ∧ ∃ row event, store.request request.pairingRequestId = some row ∧
      row.revision = expectedRevision ∧ row.state = .pending ∧ row.invalidated = false ∧
      (statement 2).now < row.expiresAt ∧
      after = (store.setRequest
        (decided request.state request.context.actorId (statement 2).now row)).recorded event) := by
  have denied {outcome : DecisionOutcome} (denies : outcome.status ≠ .ok)
      {event : AccountabilityEvent}
      (finished : auditAndFinish statement event outcome store = .ok (result, after)) :
      result.status ≠ .ok ∧ ∃ event, after = store.recorded event := by
    obtain ⟨same, recorded⟩ := auditAndFinish_ok finished
    exact ⟨same ▸ denies, _, recorded⟩
  unfold decideBody at done
  dsimp only at done
  split at done
  · obtain ⟨outcome, missing, finished⟩ := bind_eq_ok_iff.mp done
    exact .inl (denied (missingOutcome_denies (required_eq_ok_iff.mp missing)) finished)
  · obtain ⟨_, -, done⟩ := bind_eq_ok_iff.mp done
    split at done
    · exact .inl (denied (by nofun) done)
    · split at done
      · exact .inl (denied (by nofun) done)
      · split at done
        · obtain ⟨outcome, refused, finished⟩ := bind_eq_ok_iff.mp done
          exact .inl (denied (refusedOutcome_denies (required_eq_ok_iff.mp refused)) finished)
        · next changed updating =>
          refine .inr ?_
          obtain ⟨row, found, revision, pending, valid, unexpired, rfl⟩ :=
            decideInActiveTransaction_ok updating
          obtain ⟨_, -, done⟩ := bind_eq_ok_iff.mp done
          obtain ⟨_, -, done⟩ := bind_eq_ok_iff.mp done
          obtain ⟨_, -, done⟩ := bind_eq_ok_iff.mp done
          obtain ⟨same, recorded⟩ := auditAndFinish_ok done
          exact ⟨same, row, _, found, revision, pending, valid, unexpired, recorded⟩

theorem decideBody_error : EndsWith Denies
    (decideBody statement request expectedRevision eventId occurredAt store) := by
  unfold decideBody
  dsimp only
  split
  · exact endsWith_bind (endsWith_required nofun _) fun _ => auditAndFinish_error _ _
  · refine endsWith_bind (endsWith_demand fun _ => nofun) fun _ => ?_
    split
    · exact auditAndFinish_error _ _
    · split
      · exact auditAndFinish_error _ _
      · split
        · exact endsWith_bind (endsWith_required nofun _) fun _ => auditAndFinish_error _ _
        · refine endsWith_bind (endsWith_mapError (fun _ => nofun) _) fun _ => ?_
          refine endsWith_bind (endsWith_demand fun _ => nofun) fun _ => ?_
          refine endsWith_bind (endsWith_demand fun _ => nofun) fun _ => ?_
          exact auditAndFinish_error _ _

theorem recordDecision_cases (statement : Nat → Moment Timestamp)
    (request : DevicePairingDecisionRequest) (expectedRevision : Nat) (eventId occurredAt : Bytes)
    (store : PairingStore) :
    ((recordDecision statement request expectedRevision eventId occurredAt store).1.status ≠ .ok ∧
      ((recordDecision statement request expectedRevision eventId occurredAt store).2 = store ∨
        ∃ event, (recordDecision statement request expectedRevision eventId occurredAt store).2 =
          store.recorded event)) ∨
    ((recordDecision statement request expectedRevision eventId occurredAt store).1.status = .ok ∧
      ∃ row event, store.request request.pairingRequestId = some row ∧
        row.revision = expectedRevision ∧ row.state = .pending ∧ row.invalidated = false ∧
        (statement 2).now < row.expiresAt ∧
        (recordDecision statement request expectedRevision eventId occurredAt store).2 =
          (store.setRequest
            (decided request.state request.context.actorId (statement 2).now row)).recorded event) := by
  unfold recordDecision
  rcases atomically_cases (statement 0).works true {}
    (decideBody statement request expectedRevision eventId occurredAt) store with
    ⟨-, -, done⟩ | ⟨kept, refused⟩
  · rcases decideBody_ok done with ⟨denied, event, recorded⟩ | allowed
    · exact .inl ⟨denied, .inr ⟨event, recorded⟩⟩
    · exact .inr allowed
  · refine .inl ⟨?_, .inl kept⟩
    rcases refused with refused | refused
    · rw [refused]
      nofun
    · exact decideBody_error _ refused

end Decision

section Credential

variable {platform : Platform} {answers : TransactionAnswers} {statement : Nat → Moment Timestamp}
  {request : DevicePairingCredentialIssueRequest} {material : CredentialMaterial}

def withDevice (displayName : Bytes) (material : CredentialMaterial)
    (store : IdentityStore Timestamp) : IdentityStore Timestamp :=
  { store with
    actors := Table.insertIfMissing StoredActorIdentity.actorId
      { actorId := material.actorId
        type := .service
        displayName := text "Paired device " ++ displayName } store.actors
    devices := Table.insertIfMissing StoredDeviceIdentity.deviceId
      { deviceId := material.deviceId, actorId := material.actorId, displayName := displayName }
      store.devices
    credentials := Table.insertIfMissing StoredCredentialIdentity.credentialId
      { credentialId := material.credentialId
        actorId := material.actorId
        credentialType := text "device-app" } store.credentials
    deviceVerifiers := store.deviceVerifiers ++
      [{ credentialId := material.credentialId
         deviceId := material.deviceId
         verifierHash := material.verifierHash }] }

theorem createDevice_some {displayName : Bytes} {identity created : IdentityStore Timestamp}
    (done : createDevice statement displayName material identity = some created) :
    created = withDevice displayName material identity := by
  obtain ⟨next, ensured, done⟩ := Option.bind_eq_some_iff.mp done
  cases ensureTechnicalIdentity_some ensured
  obtain ⟨_, -, same⟩ := Option.bind_eq_some_iff.mp done
  exact (Option.some.inj same).symm

theorem admitCredential_ok {pairingToken : Bytes}
    {found : Except DevicePairingRequestRepositoryStatus StoredDevicePairingRequest}
    {row : StoredDevicePairingRequest}
    (admitted : admitCredential platform pairingToken found = .ok row) :
    found = .ok row ∧ verifySecret platform pairingToken row.pairingTokenHash = true ∧
    row.state = .approved := by
  obtain ⟨other, present, admitted⟩ := bind_eq_ok_iff.mp admitted
  obtain ⟨_, verified, admitted⟩ := bind_eq_ok_iff.mp admitted
  obtain ⟨_, -, admitted⟩ := bind_eq_ok_iff.mp admitted
  obtain ⟨_, approved, admitted⟩ := bind_eq_ok_iff.mp admitted
  cases admitted
  exact ⟨mapError_eq_ok_iff.mp present, demand_eq_ok_iff.mp verified, demand_eq_ok_iff.mp approved⟩

abbrev Withholds (result : DevicePairingCredentialIssueResult) : Prop := result.status ≠ .issued

theorem lookupStatus_withholds (status : DevicePairingRequestRepositoryStatus) :
    Withholds (refuse (lookupStatus status)) := by
  cases status
  all_goals nofun

theorem admitCredential_error (platform : Platform) (pairingToken : Bytes)
    (found : Except DevicePairingRequestRepositoryStatus StoredDevicePairingRequest) :
    EndsWith Withholds (admitCredential platform pairingToken found) := by
  refine endsWith_bind (endsWith_mapError lookupStatus_withholds _) fun _ => ?_
  refine endsWith_bind (endsWith_demand fun _ => nofun) fun _ => ?_
  refine endsWith_bind (endsWith_demand fun _ => nofun) fun _ => ?_
  exact endsWith_bind (endsWith_demand fun _ => nofun) fun _ => endsWith_ok _

theorem createCredentialBody_error : EndsWith Withholds
    (createCredentialBody platform answers statement request material store) := by
  refine endsWith_bind (admitCredential_error _ _ _) fun _ => ?_
  refine endsWith_bind (endsWith_required nofun _) fun _ => ?_
  refine endsWith_bind (endsWith_mapError (fun _ => nofun) _) fun _ => ?_
  refine endsWith_bind (endsWith_required nofun _) fun _ => ?_
  refine endsWith_bind (endsWith_demand fun _ => nofun) fun _ => ?_
  exact endsWith_bind (endsWith_required nofun _) fun _ => endsWith_ok _

theorem createCredentialBody_ok {result : DevicePairingCredentialIssueResult}
    (done : createCredentialBody platform answers statement request material store =
      .ok (result, after)) :
    result.status = .issued ∧ ∃ row event, store.request request.pairingRequestId = some row ∧
      row.state = .approved ∧ row.invalidated = false ∧ (statement 9).now < row.expiresAt ∧
      verifySecret platform request.pairingToken row.pairingTokenHash = true ∧
      after = (({ store with
        identity := withDevice row.displayName material store.identity } : PairingStore).setRequest
          (consumed row)).recorded event := by
  obtain ⟨row, admitted, done⟩ := bind_eq_ok_iff.mp done
  obtain ⟨found, verified, -⟩ := admitCredential_ok admitted
  obtain ⟨present, -⟩ := findById_ok found
  obtain ⟨identity, created, done⟩ := bind_eq_ok_iff.mp done
  obtain rfl := createDevice_some (required_eq_ok_iff.mp created)
  obtain ⟨middle, consumption, done⟩ := bind_eq_ok_iff.mp done
  obtain ⟨other, otherPresent, -, approved, valid, unexpired, rfl⟩ :=
    consumeApprovedInActiveTransaction_ok (mapError_eq_ok_iff.mp consumption)
  -- the lookup of the transaction and its update meet the same row
  have same : other = row := Option.some.inj (otherPresent.symm.trans present)
  subst same
  obtain ⟨eventId, -, done⟩ := bind_eq_ok_iff.mp done
  obtain ⟨_, -, done⟩ := bind_eq_ok_iff.mp done
  obtain ⟨last, appended, done⟩ := bind_eq_ok_iff.mp done
  obtain rfl := appendEvent_some (required_eq_ok_iff.mp appended)
  cases done
  exact ⟨rfl, other, _, present, approved, valid, unexpired, verified, rfl⟩

theorem createCredential_cases (platform : Platform) (answers : TransactionAnswers)
    (statement : Nat → Moment Timestamp) (request : DevicePairingCredentialIssueRequest)
    (material : CredentialMaterial) (store : PairingStore) :
    ((createCredential platform answers statement request material store).1.status ≠ .issued ∧
      (createCredential platform answers statement request material store).2 = store) ∨
    ((createCredential platform answers statement request material store).1.status = .issued ∧
      ∃ row event, store.request request.pairingRequestId = some row ∧ row.state = .approved ∧
        row.invalidated = false ∧ (statement 9).now < row.expiresAt ∧
        verifySecret platform request.pairingToken row.pairingTokenHash = true ∧
        (createCredential platform answers statement request material store).2 =
          (({ store with
            identity := withDevice row.displayName material store.identity } :
              PairingStore).setRequest (consumed row)).recorded event) := by
  unfold createCredential
  rcases atomically_cases (statement 0).works (statement 12).works {}
    (createCredentialBody platform answers statement request material) store with
    ⟨-, -, done⟩ | ⟨kept, refused⟩
  · exact .inr (createCredentialBody_ok done)
  · refine .inl ⟨?_, kept⟩
    rcases refused with refused | refused
    · rw [refused]
      nofun
    · exact createCredentialBody_error _ refused

end Credential

/-! ## What a step may do -/

def decisionOf : PairingEvent → Option (DevicePairingDecisionRequest × Nat)
  | ⟨.recordDecision request expectedRevision _ _, result⟩ =>
    let result : DevicePairingDecisionResult := result
    if result.status = .ok then some (request, expectedRevision) else none
  | _ => none

def issuanceOf : PairingEvent → Option (DevicePairingCredentialIssueRequest × CredentialMaterial)
  | ⟨.createCredential request material, result⟩ =>
    let result : DevicePairingCredentialIssueResult := result
    if result.status = .issued then some (request, material) else none
  | _ => none

/-- One row gives way to the next: a decision for the revision at which the request is pending, or a
credential for the token of an approved request. The update compares the expiry with its own time. -/
inductive RequestMove (platform : Platform) (answers : PairingAnswers) (event : PairingEvent)
    (row : StoredDevicePairingRequest) : StoredDevicePairingRequest → Prop
  | decided (request : DevicePairingDecisionRequest)
      (records : decisionOf event = some (request, row.revision))
      (names : request.pairingRequestId = row.pairingRequestId) (pending : row.state = .pending)
      (valid : row.invalidated = false) (unexpired : (answers.statement 2).now < row.expiresAt) :
      RequestMove platform answers event row
        (decided request.state request.context.actorId (answers.statement 2).now row)
  | consumed (request : DevicePairingCredentialIssueRequest) (material : CredentialMaterial)
      (creates : issuanceOf event = some (request, material))
      (names : request.pairingRequestId = row.pairingRequestId) (approved : row.state = .approved)
      (valid : row.invalidated = false) (unexpired : (answers.statement 9).now < row.expiresAt)
      (verified : verifySecret platform request.pairingToken row.pairingTokenHash = true) :
      RequestMove platform answers event row (consumed row)

/-- A step leaves the requests as they are, adds one, or moves one on; only a step that creates a
credential touches an identity, and every step may leave events. -/
inductive StoreMove (platform : Platform) (answers : PairingAnswers) (event : PairingEvent)
    (before after : PairingStore) : Prop
  | kept (undecided : decisionOf event = none) (unissued : issuanceOf event = none)
      (requests : after.requests = before.requests)
      (identity : ∃ events, after.identity = { before.identity with events := events })
  | registered (undecided : decisionOf event = none) (unissued : issuanceOf event = none)
      (registration : DevicePairingRequestRegistration) (createdAt : Timestamp)
      (fresh : before.request registration.pairingRequestId = none)
      (requests : after.requests = before.requests ++ [registered registration createdAt])
      (identity : ∃ events, after.identity = { before.identity with events := events })
  | decided (request : DevicePairingDecisionRequest) (row next : StoredDevicePairingRequest)
      (records : decisionOf event = some (request, row.revision)) (unissued : issuanceOf event = none)
      (found : before.request request.pairingRequestId = some row)
      (moved : RequestMove platform answers event row next) (state : next.state = request.state)
      (requests : after.requests = (before.setRequest next).requests)
      (identity : ∃ events, after.identity = { before.identity with events := events })
  | issued (request : DevicePairingCredentialIssueRequest) (material : CredentialMaterial)
      (row : StoredDevicePairingRequest) (undecided : decisionOf event = none)
      (creates : issuanceOf event = some (request, material))
      (found : before.request request.pairingRequestId = some row)
      (moved : RequestMove platform answers event row (consumed row))
      (requests : after.requests = (before.setRequest (consumed row)).requests)
      (identity : ∃ events, after.identity =
        { withDevice row.displayName material before.identity with events := events })

theorem StoreMove.refl (platform : Platform) (answers : PairingAnswers) {event : PairingEvent}
    (undecided : decisionOf event = none) (unissued : issuanceOf event = none)
    (store : PairingStore) : StoreMove platform answers event store store :=
  .kept undecided unissued rfl ⟨store.identity.events, rfl⟩

theorem recordDecision_moves (platform : Platform) (answers : PairingAnswers)
    (request : DevicePairingDecisionRequest) (expectedRevision : Nat) (eventId occurredAt : Bytes)
    (store : PairingStore) :
    StoreMove platform answers ⟨.recordDecision request expectedRevision eventId occurredAt,
        (perform platform answers (.recordDecision request expectedRevision eventId occurredAt)
          store).1⟩ store
      (perform platform answers (.recordDecision request expectedRevision eventId occurredAt)
        store).2 := by
  rcases recordDecision_cases answers.statement request expectedRevision eventId occurredAt store with
    ⟨denied, same | ⟨event, recorded⟩⟩ | ⟨ok, row, event, found, rfl, pending, valid, unexpired, moved⟩
  · refine .kept (if_neg denied) rfl ?_ ⟨store.identity.events, ?_⟩
    · exact congrArg PairingStore.requests same
    · exact congrArg PairingStore.identity same
  · refine .kept (if_neg denied) rfl ?_ ⟨store.identity.events ++ [event], ?_⟩
    · exact (congrArg PairingStore.requests recorded).trans rfl
    · exact (congrArg PairingStore.identity recorded).trans rfl
  · refine .decided request row _ (if_pos ok) rfl found
      (.decided request (if_pos ok) (id_of_request found).symm pending valid unexpired) rfl ?_
      ⟨store.identity.events ++ [event], ?_⟩
    · exact (congrArg PairingStore.requests moved).trans rfl
    · exact (congrArg PairingStore.identity moved).trans rfl

theorem createCredential_moves (platform : Platform) (answers : PairingAnswers)
    (request : DevicePairingCredentialIssueRequest) (material : CredentialMaterial)
    (store : PairingStore) :
    StoreMove platform answers ⟨.createCredential request material,
        (perform platform answers (.createCredential request material) store).1⟩ store
      (perform platform answers (.createCredential request material) store).2 := by
  rcases createCredential_cases platform ⟨answers.entropy, answers.now⟩ answers.statement request
    material store with
    ⟨withheld, same⟩ | ⟨issued, row, event, found, approved, valid, unexpired, verified, moved⟩
  · refine .kept rfl (if_neg withheld) ?_ ⟨store.identity.events, ?_⟩
    · exact congrArg PairingStore.requests same
    · exact congrArg PairingStore.identity same
  · refine .issued request material row rfl (if_pos issued) found
      (.consumed request material (if_pos issued) (id_of_request found).symm approved valid unexpired
        verified) ?_ ⟨store.identity.events ++ [event], ?_⟩
    · exact (congrArg PairingStore.requests moved).trans rfl
    · exact (congrArg PairingStore.identity moved).trans rfl

theorem perform_moves (platform : Platform) (answers : PairingAnswers) (effect : PairingEffect)
    (store : PairingStore) :
    StoreMove platform answers ⟨effect, (perform platform answers effect store).1⟩ store
      (perform platform answers effect store).2 := by
  cases effect with
  | enter | leave | entropy | now | find => exact .refl platform answers rfl rfl store
  | register registration event =>
    rcases register_cases answers.statement registration event store with same | ⟨fresh, inserted⟩
    · refine .kept rfl rfl ?_ ⟨store.identity.events, ?_⟩
      · exact congrArg PairingStore.requests same
      · exact congrArg PairingStore.identity same
    · refine .registered rfl rfl registration (answers.statement 1).now fresh ?_ ⟨store.identity.events ++ [event], ?_⟩
      · exact (congrArg PairingStore.requests inserted).trans rfl
      · exact (congrArg PairingStore.identity inserted).trans rfl
  | recordDecision request expectedRevision eventId occurredAt =>
    exact recordDecision_moves platform answers request expectedRevision eventId occurredAt store
  | createCredential request material =>
    exact createCredential_moves platform answers request material store

/-! ## What a step does to one request -/

section Moves

variable {platform : Platform} {answers : PairingAnswers} {event : PairingEvent}
  {row next : StoredDevicePairingRequest}

def PairingState.stage : PairingState → Nat
  | .pending => 0
  | .approved | .rejected => 1
  | .consumed => 2

theorem decision_state (request : DevicePairingDecisionRequest) :
    request.state = .approved ∨ request.state = .rejected := by
  unfold DevicePairingDecisionRequest.state
  split
  · exact .inl rfl
  · exact .inr rfl

theorem RequestMove.id (moved : RequestMove platform answers event row next) :
    next.pairingRequestId = row.pairingRequestId := by
  cases moved with
  | decided | consumed => rfl

theorem RequestMove.advances (moved : RequestMove platform answers event row next) :
    next.state.stage = row.state.stage + 1 ∧ next.revision = row.revision + 1 := by
  cases moved with
  | decided request records names pending =>
    refine ⟨?_, rfl⟩
    rw [pending]
    rcases decision_state request with approved | rejected
    · exact congrArg PairingState.stage approved
    · exact congrArg PairingState.stage rejected
  | consumed request material creates names approved =>
    refine ⟨?_, rfl⟩
    rw [approved]
    rfl

theorem request_congr (same : after.requests = store.requests) (wanted : Bytes) :
    after.request wanted = store.request wanted := by
  unfold PairingStore.request
  rw [same]

theorem request_registered {registration : DevicePairingRequestRegistration} {createdAt : Timestamp}
    (requests : after.requests = store.requests ++ [registered registration createdAt])
    (wanted : Bytes) :
    after.request wanted = (store.request wanted).or
      (if registration.pairingRequestId = wanted then some (registered registration createdAt)
        else none) := by
  unfold PairingStore.request
  rw [requests]
  exact Table.lookup_append_new (fun row : StoredDevicePairingRequest => row.pairingRequestId)

theorem request_moved {pairingRequestId : Bytes}
    (found : store.request pairingRequestId = some row)
    (moved : RequestMove platform answers event row next)
    (requests : after.requests = (store.setRequest next).requests) (wanted : Bytes) :
    after.request wanted = if wanted = pairingRequestId then some next else store.request wanted := by
  have named : next.pairingRequestId = pairingRequestId := moved.id.trans (id_of_request found)
  rw [request_congr requests, request_setRequest (named ▸ found), named]

theorem StoreMove.request (moves : StoreMove platform answers event store after) {wanted : Bytes}
    (found : store.request wanted = some row) :
    ∃ next, after.request wanted = some next ∧
      (next = row ∨ RequestMove platform answers event row next) := by
  cases moves with
  | kept undecided unissued requests => exact ⟨row, request_congr requests wanted ▸ found, .inl rfl⟩
  | registered undecided unissued registration createdAt fresh requests =>
    refine ⟨row, ?_, .inl rfl⟩
    rw [request_registered requests, found, Option.some_or]
  | decided request other next records unissued present moved state requests =>
    rw [request_moved present moved requests]
    split
    · next same =>
      cases Option.some.inj (found.symm.trans (same ▸ present))
      exact ⟨next, rfl, .inr moved⟩
    · exact ⟨row, found, .inl rfl⟩
  | issued request material other undecided creates present moved requests =>
    rw [request_moved present moved requests]
    split
    · next same =>
      cases Option.some.inj (found.symm.trans (same ▸ present))
      exact ⟨_, rfl, .inr moved⟩
    · exact ⟨row, found, .inl rfl⟩

theorem StoreMove.fresh (moves : StoreMove platform answers event store after) {wanted : Bytes}
    (absent : store.request wanted = none) (found : after.request wanted = some row) :
    ∃ registration createdAt, row = DevicePairing.registered registration createdAt := by
  cases moves with
  | kept undecided unissued requests =>
    rw [request_congr requests, absent] at found
    cases found
  | registered undecided unissued registration createdAt fresh requests =>
    rw [request_registered requests, absent, Option.none_or] at found
    split at found
    · exact ⟨registration, createdAt, (Option.some.inj found).symm⟩
    · cases found
  | decided request other next records unissued present moved state requests =>
    rw [request_moved present moved requests, absent] at found
    split at found
    · next same =>
      rw [← same, absent] at present
      cases present
    · cases found
  | issued request material other undecided creates present moved requests =>
    rw [request_moved present moved requests, absent] at found
    split at found
    · next same =>
      rw [← same, absent] at present
      cases present
    · cases found

end Moves

end VdrSuite.Security.DevicePairing
