import VdrSuite.Security.FirstAdminClaim
import VdrSuite.Security.IdentityStoreProperties

/-! The first administrator is claimed at most once: what each call does to the bootstraps and to the
identities, and what follows for every run. -/

set_option autoImplicit false

namespace VdrSuite.Security

open Library
open Library.Transaction

variable {store : FirstAdminStore}

/-! ## The claim state -/

theorem requireUnclaimed_ok {moment : Moment Timestamp}
    (unclaimed : requireUnclaimed moment store = .ok ()) : everClaimed store = false := by
  unfold requireUnclaimed claimState at unclaimed
  split at unclaimed
  · cases unclaimed
  · cases unclaimed
  · next state =>
    split at state
    · cases state
    · split at state
      · cases state
      · next never => exact Bool.not_eq_true _ ▸ never

theorem requireUnclaimed_error (moment : Moment Timestamp) :
    EndsWith (· ≠ FirstAdminBootstrapStatus.ok) (requireUnclaimed moment store) := by
  unfold requireUnclaimed
  split
  · exact endsWith_error nofun
  · exact endsWith_error nofun
  · exact endsWith_ok ()

def consumed (store : FirstAdminStore) : Prop :=
  ∃ bootstrap ∈ store.bootstraps, bootstrap.consumedAt.isSome = true

theorem not_consumed_of_unclaimed (unclaimed : everClaimed store = false) : ¬ consumed store := by
  rintro ⟨bootstrap, member, isConsumed⟩
  rw [everClaimed, Bool.or_eq_false_iff, List.any_eq_false] at unclaimed
  exact unclaimed.1 bootstrap member isConsumed

/-! ## Registration -/

theorem insertBootstrap_some {moment : Moment Timestamp}
    {registration : FirstAdminBootstrapRegistration} {after : FirstAdminStore}
    (inserted : insertBootstrap moment registration store = some after) :
    (moment.now < registration.expiresAt → hasEffectiveBootstrap moment.now store = false) ∧
    after = { store with bootstraps := store.bootstraps ++ [registered registration] } := by
  unfold insertBootstrap at inserted
  split at inserted
  · cases inserted
  · next admitted =>
    cases inserted
    simp only [not_or, not_and, Bool.not_eq_true] at admitted
    exact ⟨admitted.2.2, rfl⟩

theorem registerBody_error (statement : Nat → Moment Timestamp)
    (registration : FirstAdminBootstrapRegistration) :
    EndsWith (· ≠ FirstAdminBootstrapStatus.ok) (registerBody statement registration store) := by
  refine endsWith_bind (requireUnclaimed_error _) fun _ => ?_
  refine endsWith_bind (endsWith_demand fun _ => nofun) fun _ => ?_
  refine endsWith_bind (endsWith_demand fun _ => nofun) fun _ => ?_
  refine endsWith_bind (endsWith_demand fun _ => nofun) fun _ => ?_
  refine endsWith_bind (endsWith_demand fun _ => nofun) fun _ => ?_
  exact endsWith_bind (endsWith_required nofun _) fun _ => endsWith_ok _

theorem registerBootstrap_cases (statement : Nat → Moment Timestamp)
    (registration : FirstAdminBootstrapRegistration) (store : FirstAdminStore) :
    ((registerBootstrap statement registration store).1 ≠ .ok ∧
      (registerBootstrap statement registration store).2 = store) ∨
    (everClaimed store = false ∧
      ((statement 4).now < registration.expiresAt →
        hasEffectiveBootstrap (statement 4).now store = false) ∧
      registerBootstrap statement registration store =
        (.ok, { store with bootstraps := store.bootstraps ++ [registered registration] })) := by
  unfold registerBootstrap
  split
  · exact .inl ⟨nofun, rfl⟩
  · rcases atomically_cases (statement 0).works (statement 5).works .storageError
      (registerBody statement registration) store with ⟨-, -, done⟩ | ⟨kept, refused⟩
    · refine .inr ?_
      obtain ⟨_, unclaimed, done⟩ := bind_eq_ok_iff.mp done
      obtain ⟨_, -, done⟩ := bind_eq_ok_iff.mp done
      obtain ⟨_, -, done⟩ := bind_eq_ok_iff.mp done
      obtain ⟨_, -, done⟩ := bind_eq_ok_iff.mp done
      obtain ⟨_, -, done⟩ := bind_eq_ok_iff.mp done
      obtain ⟨after, inserted, done⟩ := bind_eq_ok_iff.mp done
      obtain ⟨alone, rfl⟩ := insertBootstrap_some (required_eq_ok_iff.mp inserted)
      exact ⟨requireUnclaimed_ok unclaimed, alone, (Except.ok.inj done).symm⟩
    · refine .inl ⟨?_, kept⟩
      rcases refused with refused | refused
      · rw [refused]
        nofun
      · exact registerBody_error statement registration _ refused

/-! ## Consumption and invalidation -/

theorem updateTerminalState_cases (statement : Nat → Moment Timestamp) (column : TerminalColumn)
    (bootstrapId : Bytes) (store : FirstAdminStore) :
    ((updateTerminalState statement column bootstrapId store).1 ≠ .ok ∧
      (updateTerminalState statement column bootstrapId store).2 = store) ∨
    ((∃ bootstrap ∈ store.bootstraps, endable column (statement 0).now bootstrapId bootstrap = true) ∧
      updateTerminalState statement column bootstrapId store = (.ok, { store with
        bootstraps := Table.update (endable column (statement 0).now bootstrapId)
          (column.set (statement 0).now) store.bootstraps })) := by
  unfold updateTerminalState
  split
  · exact .inl ⟨nofun, rfl⟩
  · split
    · next present => exact .inr ⟨List.any_eq_true.mp present, rfl⟩
    · split
      · exact .inl ⟨nofun, rfl⟩
      · next other => exact .inl ⟨other, rfl⟩

theorem endInActiveTransaction_cases (transactionActive : Bool)
    (statement : Nat → Moment Timestamp) (column : TerminalColumn) (bootstrapId : Bytes)
    (store : FirstAdminStore) :
    ((endInActiveTransaction transactionActive statement column bootstrapId store).1 ≠ .ok ∧
      (endInActiveTransaction transactionActive statement column bootstrapId store).2 = store) ∨
    (everClaimed store = false ∧
      (∃ bootstrap ∈ store.bootstraps,
        endable column (statement 1).now bootstrapId bootstrap = true) ∧
      endInActiveTransaction transactionActive statement column bootstrapId store =
        (.ok, { store with
          bootstraps := Table.update (endable column (statement 1).now bootstrapId)
            (column.set (statement 1).now) store.bootstraps })) := by
  unfold endInActiveTransaction
  split
  · exact .inl ⟨nofun, rfl⟩
  · split
    · exact .inl ⟨nofun, rfl⟩
    · split
      · next status refused => exact .inl ⟨requireUnclaimed_error _ _ refused, rfl⟩
      · next unclaimed =>
        rcases updateTerminalState_cases (fun index => statement (1 + index)) column bootstrapId
          store with refused | ⟨present, done⟩
        · exact .inl refused
        · exact .inr ⟨requireUnclaimed_ok unclaimed, present, done⟩

/-! ## The claim -/

/-- What the commit of a claim has created: an account with an active user, a password, and the
administrator's grant, where no account had one, and nothing else but the event. -/
structure AdministratorCreated (request : FirstAdminClaimRequest) (identifiers : ClaimIdentifiers)
    (before after : IdentityStore Timestamp) : Prop where
  unclaimed : administratorAccount before = false
  actor : ActiveUser after identifiers.actorId
  account : ∃ account, after.account identifiers.accountId = some account ∧
    account.actorId = identifiers.actorId ∧ account.displayName = request.displayName ∧
    account.active = true
  credential : ∃ credential, after.credential identifiers.credentialId = some credential ∧
    credential.actorId = identifiers.actorId ∧ credential.credentialType = text "human-password" ∧
    credential.active = true ∧ credential.revoked = false
  verifier : ∃ verifier, after.verifierOfLogin request.loginName = some verifier ∧
    verifier.credentialId = identifiers.credentialId
  grant : Table.lookup StoredPermissionGrant.key (identifiers.actorId, text "role.admin", text "*")
    after.grants = some
      { actorId := identifiers.actorId, permission := text "role.admin", backendId := text "*" }
  added : ∃ passwordHash occurredAt, after = { before with
    actors := Table.insertIfMissing StoredActorIdentity.actorId
      { actorId := identifiers.actorId, type := .user, displayName := request.displayName }
      before.actors
    credentials := Table.insertIfMissing StoredCredentialIdentity.credentialId
      { credentialId := identifiers.credentialId
        actorId := identifiers.actorId
        credentialType := text "human-password" } before.credentials
    accounts :=
      if (before.account identifiers.accountId).isSome ∨
          (before.accountOfActor identifiers.actorId).isSome then before.accounts
      else before.accounts ++
        [{ accountId := identifiers.accountId
           actorId := identifiers.actorId
           displayName := request.displayName }]
    basicVerifiers :=
      if (before.verifierOfCredential identifiers.credentialId).isSome ∨
          (before.verifierOfLogin request.loginName).isSome then before.basicVerifiers
      else before.basicVerifiers ++
        [{ credentialId := identifiers.credentialId
           loginName := request.loginName
           passwordHash := passwordHash }]
    grants := Table.upsert StoredPermissionGrant.key
      { actorId := identifiers.actorId, permission := text "role.admin", backendId := text "*" }
      before.grants
    events := before.events ++ [claimEvent request identifiers occurredAt] }

theorem createAdministrator_ok {request : FirstAdminClaimRequest} {identifiers : ClaimIdentifiers}
    {passwordHash occurredAt : Bytes} {statement : Nat → Moment Timestamp}
    {before after : IdentityStore Timestamp} (unclaimed : administratorAccount before = false)
    (created : createAdministrator request identifiers passwordHash occurredAt statement before =
      .ok after) : AdministratorCreated request identifiers before after := by
  obtain ⟨first, credentialDone, created⟩ := bind_eq_ok_iff.mp created
  obtain ⟨second, accountDone, created⟩ := bind_eq_ok_iff.mp created
  obtain ⟨third, verifierDone, created⟩ := bind_eq_ok_iff.mp created
  obtain ⟨fourth, grantDone, eventDone⟩ := bind_eq_ok_iff.mp created
  obtain ⟨rfl, actor, credential⟩ := ensureHumanCredential_some (required_eq_ok_iff.mp credentialDone)
  obtain ⟨rfl, account⟩ := ensureAccount_some (required_eq_ok_iff.mp accountDone)
  obtain ⟨rfl, verifier⟩ := ensureVerifier_some (required_eq_ok_iff.mp verifierDone)
  have granted := ensureGrant_some (required_eq_ok_iff.mp grantDone)
  subst granted
  have recorded := append_some (required_eq_ok_iff.mp eventDone)
  subst recorded
  exact
    { unclaimed := unclaimed
      actor := actor
      account := account
      credential := credential
      verifier := ⟨_, verifier, rfl⟩
      grant := (Table.lookup_upsert _ _ _ _).trans (if_pos rfl)
      added := ⟨passwordHash, occurredAt, rfl⟩ }

theorem AdministratorCreated.claimed {request : FirstAdminClaimRequest}
    {identifiers : ClaimIdentifiers} {before after : IdentityStore Timestamp}
    (created : AdministratorCreated request identifiers before after) :
    administratorAccount after = true := by
  obtain ⟨account, accountFound, owner, -, -⟩ := created.account
  obtain ⟨actor, actorFound, user, -, -⟩ := created.actor
  have actorNamed : actor.actorId = identifiers.actorId := Table.key_of_lookup _ actorFound
  have grantMember := Table.mem_of_lookup _ created.grant
  refine List.any_eq_true.mpr ⟨account, Table.mem_of_lookup _ accountFound, ?_⟩
  rw [Bool.and_eq_true, List.any_eq_true, List.any_eq_true]
  refine ⟨⟨actor, Table.mem_of_lookup _ actorFound, ?_⟩, ⟨_, grantMember, ?_⟩⟩
  · rw [actorNamed, owner, user]
    exact Bool.and_eq_true_iff.mpr ⟨beq_self_eq_true _, rfl⟩
  · simp only [owner, beq_self_eq_true, Bool.true_or, Bool.and_self]

theorem mapBootstrapStatus_ne_success {status : FirstAdminBootstrapStatus} (failed : status ≠ .ok) :
    mapBootstrapStatus status ≠ .success := by
  cases status
  case ok => exact absurd rfl failed
  all_goals nofun

abbrev Refuses (result : FirstAdminClaimResult) : Prop := result.status ≠ .success

theorem admitClaim_error (answers : ClaimAnswers) (statement : Nat → Moment Timestamp)
    (request : FirstAdminClaimRequest) :
    EndsWith Refuses (admitClaim answers statement request store) := by
  unfold admitClaim
  split
  · exact endsWith_error nofun
  · exact endsWith_error nofun
  · refine endsWith_bind (endsWith_demand mapBootstrapStatus_ne_success) fun _ => ?_
    refine endsWith_bind (endsWith_required nofun _) fun _ => ?_
    refine endsWith_bind (endsWith_demand fun _ => nofun) fun _ => ?_
    exact endsWith_demand fun _ => nofun

theorem createAdministrator_error (request : FirstAdminClaimRequest) (identifiers : ClaimIdentifiers)
    (passwordHash occurredAt : Bytes) (statement : Nat → Moment Timestamp)
    (identity : IdentityStore Timestamp) : EndsWith Refuses
      (createAdministrator request identifiers passwordHash occurredAt statement identity) := by
  refine endsWith_bind (endsWith_required nofun _) fun _ => ?_
  refine endsWith_bind (endsWith_required nofun _) fun _ => ?_
  refine endsWith_bind (endsWith_required nofun _) fun _ => ?_
  refine endsWith_bind (endsWith_required nofun _) fun _ => ?_
  exact endsWith_required nofun _

theorem claimBody_error (answers : ClaimAnswers) (statement : Nat → Moment Timestamp)
    (request : FirstAdminClaimRequest) (identifiers : ClaimIdentifiers) (passwordHash : Bytes) :
    EndsWith Refuses (claimBody answers statement request identifiers passwordHash store) := by
  refine endsWith_bind (admitClaim_error answers statement request) fun _ => ?_
  split
  · exact endsWith_bind (createAdministrator_error _ _ _ _ _ _) fun _ => endsWith_ok _
  · next status _ failed _ => exact endsWith_error (mapBootstrapStatus_ne_success failed)

/-- A claim is refused and leaves everything as it is, or consumes its bootstrap and creates the
administrator. -/
theorem claim_cases (answers : ClaimAnswers) (statement : Nat → Moment Timestamp)
    (request : FirstAdminClaimRequest) (store : FirstAdminStore) :
    ((claim answers statement request store).1.status ≠ .success ∧
      (claim answers statement request store).2 = store) ∨
    ∃ identifiers middle identity,
      consumeInActiveTransaction true (fun index => statement (5 + index)) request.bootstrapId store =
        (.ok, middle) ∧
      createAdministrator request identifiers (hashHumanPassword answers) answers.occurredAt statement
        middle.identity = .ok identity ∧
      (claim answers statement request store).1.status = .success ∧
      (claim answers statement request store).2 = { middle with identity := identity } := by
  unfold claim
  split
  · exact .inl ⟨nofun, rfl⟩
  · split
    · exact .inl ⟨nofun, rfl⟩
    · next identifiers drawn =>
      dsimp only
      split
      · exact .inl ⟨nofun, rfl⟩
      · split
        · exact .inl ⟨nofun, rfl⟩
        · rcases atomically_cases (statement 0).works (statement 18).works (refuse .storageError)
            (claimBody answers statement request identifiers (hashHumanPassword answers)) store with
            ⟨-, -, done⟩ | ⟨kept, refused⟩
          · refine .inr ⟨identifiers, ?_⟩
            obtain ⟨_, -, done⟩ := bind_eq_ok_iff.mp done
            split at done
            · next middle consumption =>
              obtain ⟨identity, created, done⟩ := bind_eq_ok_iff.mp done
              rw [← Except.ok.inj done]
              exact ⟨middle, identity, consumption, created, rfl, rfl⟩
            · cases done
          · refine .inl ⟨?_, kept⟩
            rcases refused with refused | refused
            · rw [refused]
              nofun
            · exact claimBody_error answers statement request identifiers _ _ refused

/-! ## What a step does -/

def FirstAdminAnswer.succeeded : FirstAdminAnswer → Bool
  | .bootstrap status => status == .ok
  | .claim result => result.status == .success
  | .administered => false

def claimSucceeded : FirstAdminAnswer → Bool
  | .claim result => result.status == .success
  | _ => false

def FirstAdminMove.moments : FirstAdminMove → Option (Moments Timestamp)
  | .register _ moments | .claim _ _ moments | .consume _ _ moments | .invalidate _ _ moments =>
    some moments
  | .administer _ => none

def Flows (system : FirstAdminSystem) (move : FirstAdminMove) : Prop :=
  ∀ moments ∈ move.moments, system.now ≤ moments.clock 0

/-- How a step changes the bootstraps: it keeps them, adds one where none is effective, or ends one. -/
inductive BootstrapsChange (before : List FirstAdminBootstrap) (reached : Timestamp) :
    List FirstAdminBootstrap → Prop
  | kept : BootstrapsChange before reached before
  | added (now : Timestamp) (passed : now ≤ reached) (registration : FirstAdminBootstrapRegistration)
      (alone : now < registration.expiresAt → before.any (·.effective now) = false) :
      BootstrapsChange before reached (before ++ [registered registration])
  | ended (now : Timestamp) (column : TerminalColumn) (bootstrapId : Bytes) :
      BootstrapsChange before reached
        (Table.update (endable column now bootstrapId) (column.set now) before)

theorem endInActiveTransaction_change (transactionActive : Bool)
    (statement : Nat → Moment Timestamp) (column : TerminalColumn) (bootstrapId : Bytes)
    (store : FirstAdminStore) (reached : Timestamp) :
    BootstrapsChange store.bootstraps reached
      (endInActiveTransaction transactionActive statement column bootstrapId store).2.bootstraps := by
  rcases endInActiveTransaction_cases transactionActive statement column bootstrapId store with
    ⟨-, same⟩ | ⟨-, -, done⟩
  · rw [same]
    exact .kept
  · rw [done]
    exact .ended _ _ _

theorem firstAdminStep_bootstraps (system : FirstAdminSystem) (move : FirstAdminMove) :
    BootstrapsChange system.store.bootstraps (firstAdminStep system move).1.now
      (firstAdminStep system move).1.store.bootstraps := by
  cases move with
  | register registration moments =>
    change BootstrapsChange _ (moments.clock lastStatement)
      (registerBootstrap moments.statement registration system.store).2.bootstraps
    rcases registerBootstrap_cases moments.statement registration system.store with
      ⟨-, same⟩ | ⟨-, alone, done⟩
    · rw [same]
      exact .kept
    · rw [done]
      exact .added (moments.clock 4) (moments.clock.monotone (Nat.le_add_left 4 14)) registration alone
  | claim request answers moments =>
    change BootstrapsChange _ (moments.clock lastStatement)
      (claim answers moments.statement request system.store).2.bootstraps
    rcases claim_cases answers moments.statement request system.store with
      ⟨-, same⟩ | ⟨identifiers, middle, identity, consumption, -, -, done⟩
    · rw [same]
      exact .kept
    · rw [done]
      have change := endInActiveTransaction_change true (fun index => moments.statement (5 + index))
        .consumedAt request.bootstrapId system.store (moments.clock lastStatement)
      have same : middle = (endInActiveTransaction true (fun index => moments.statement (5 + index))
          .consumedAt request.bootstrapId system.store).2 := (congrArg Prod.snd consumption).symm
      rw [same]
      exact change
  | consume transactionActive bootstrapId moments =>
    exact endInActiveTransaction_change _ _ _ _ _ _
  | invalidate transactionActive bootstrapId moments =>
    exact endInActiveTransaction_change _ _ _ _ _ _
  | administer identity => exact .kept

theorem BootstrapsChange.consumed {before after : List FirstAdminBootstrap} {reached : Timestamp}
    (change : BootstrapsChange before reached after)
    (present : ∃ bootstrap ∈ before, bootstrap.consumedAt.isSome = true) :
    ∃ bootstrap ∈ after, bootstrap.consumedAt.isSome = true := by
  obtain ⟨bootstrap, member, isConsumed⟩ := present
  cases change with
  | kept => exact ⟨bootstrap, member, isConsumed⟩
  | added now passed registration alone =>
    exact ⟨bootstrap, List.mem_append_left _ member, isConsumed⟩
  | ended now column bootstrapId =>
    refine ⟨_, List.mem_map_of_mem member, ?_⟩
    split
    · cases column with
      | consumedAt => rfl
      | invalidatedAt => exact isConsumed
    · exact isConsumed

theorem effective_earlier {bootstrap : FirstAdminBootstrap} {now later : Timestamp}
    (passed : now ≤ later) (effective : bootstrap.effective later = true) :
    bootstrap.effective now = true := by
  rw [FirstAdminBootstrap.effective, Bool.and_eq_true, decide_eq_true_eq] at effective ⊢
  exact ⟨effective.1, lt_of_le_of_lt passed effective.2⟩

theorem not_effective_set (column : TerminalColumn) (now later : Timestamp)
    (bootstrap : FirstAdminBootstrap) : (column.set now bootstrap).effective later = false := by
  cases column with
  | consumedAt => rfl
  | invalidatedAt =>
    rw [FirstAdminBootstrap.effective, Bool.and_eq_false_iff, Bool.and_eq_false_iff]
    exact .inl (.inr rfl)

theorem BootstrapsChange.effective {before after : List FirstAdminBootstrap} {reached : Timestamp}
    (change : BootstrapsChange before reached after) {later : Timestamp} (passed : reached ≤ later)
    (single : before.countP (·.effective later) ≤ 1) : after.countP (·.effective later) ≤ 1 := by
  cases change with
  | kept => exact single
  | added now started registration alone =>
    rw [List.countP_append, List.countP_singleton]
    split
    · next effective =>
      rw [FirstAdminBootstrap.effective, Bool.and_eq_true, decide_eq_true_eq] at effective
      have earlier := le_trans started passed
      have none := alone (lt_of_le_of_lt earlier effective.2)
      rw [List.any_eq_false] at none
      have zero : before.countP (·.effective later) = 0 :=
        List.countP_eq_zero.mpr fun bootstrap member still =>
          none bootstrap member (effective_earlier earlier still)
      rw [zero]
    · exact single
  | ended now column bootstrapId =>
    refine le_trans ?_ single
    unfold Table.update
    rw [List.countP_map]
    refine List.countP_mono_left fun bootstrap _ still => ?_
    rw [Function.comp_apply] at still
    split at still
    · rw [not_effective_set] at still
      cases still
    · exact still

theorem unclaimed_of_succeeded (system : FirstAdminSystem) (move : FirstAdminMove)
    (succeeded : (firstAdminStep system move).2.succeeded = true) :
    everClaimed system.store = false := by
  cases move with
  | register registration moments =>
    have ok := beq_iff_eq.mp succeeded
    rcases registerBootstrap_cases moments.statement registration system.store with
      ⟨failed, -⟩ | ⟨unclaimed, -⟩
    · exact absurd ok failed
    · exact unclaimed
  | claim request answers moments =>
    have ok := beq_iff_eq.mp succeeded
    rcases claim_cases answers moments.statement request system.store with
      ⟨failed, -⟩ | ⟨identifiers, middle, identity, consumption, -⟩
    · exact absurd ok failed
    · rcases endInActiveTransaction_cases true (fun index => moments.statement (5 + index))
        .consumedAt request.bootstrapId system.store with ⟨failed, -⟩ | ⟨unclaimed, -⟩
      · exact absurd (congrArg Prod.fst consumption) failed
      · exact unclaimed
  | consume transactionActive bootstrapId moments =>
    have ok := beq_iff_eq.mp succeeded
    rcases endInActiveTransaction_cases transactionActive moments.statement .consumedAt bootstrapId
      system.store with ⟨failed, -⟩ | ⟨unclaimed, -⟩
    · exact absurd ok failed
    · exact unclaimed
  | invalidate transactionActive bootstrapId moments =>
    have ok := beq_iff_eq.mp succeeded
    rcases endInActiveTransaction_cases transactionActive moments.statement .invalidatedAt
      bootstrapId system.store with ⟨failed, -⟩ | ⟨unclaimed, -⟩
    · exact absurd ok failed
    · exact unclaimed
  | administer identity => cases succeeded

def MarkedConsumed (before after : FirstAdminStore) (bootstrapId : Bytes) : Prop :=
  ∃ bootstrap ∈ after.bootstraps, bootstrap.bootstrapId = bootstrapId ∧
    bootstrap.consumedAt.isSome = true ∧ bootstrap ∉ before.bootstraps

structure ClaimOutcome (request : FirstAdminClaimRequest) (before after : FirstAdminStore)
    (status : FirstAdminClaimStatus) : Prop where
  refused : status ≠ .success → after = before
  marked : status = .success → MarkedConsumed before after request.bootstrapId
  created : (∃ bootstrapId, MarkedConsumed before after bootstrapId) ↔
    ∃ identifiers, AdministratorCreated request identifiers before.identity after.identity

/-- A consumption where nothing has been consumed before marks the bootstrap that it names. -/
theorem markedConsumed_of_consume {transactionActive : Bool} {statement : Nat → Moment Timestamp}
    {bootstrapId : Bytes} {before after : FirstAdminStore}
    (consumption : consumeInActiveTransaction transactionActive statement bootstrapId before =
      (.ok, after)) :
    everClaimed before = false ∧ after.identity = before.identity ∧
      MarkedConsumed before after bootstrapId := by
  rcases endInActiveTransaction_cases transactionActive statement .consumedAt bootstrapId before with
    ⟨failed, -⟩ | ⟨unclaimed, ⟨bootstrap, member, named⟩, done⟩
  · exact absurd (congrArg Prod.fst consumption) failed
  · have same := congrArg Prod.snd (consumption.symm.trans done)
    dsimp only at same
    subst same
    refine ⟨unclaimed, rfl, _, List.mem_map_of_mem member, ?_⟩
    rw [if_pos named]
    simp only [endable, Bool.and_eq_true, beq_iff_eq] at named
    refine ⟨named.1.1.1, rfl, fun old => ?_⟩
    exact not_consumed_of_unclaimed unclaimed ⟨_, old, rfl⟩

theorem claimOutcome (answers : ClaimAnswers) (statement : Nat → Moment Timestamp)
    (request : FirstAdminClaimRequest) (store : FirstAdminStore) :
    ClaimOutcome request store (claim answers statement request store).2
      (claim answers statement request store).1.status := by
  rcases claim_cases answers statement request store with
    ⟨failed, same⟩ | ⟨identifiers, middle, identity, consumption, creation, success, done⟩
  · refine ⟨fun _ => same, fun success => absurd success failed, ?_⟩
    rw [same]
    constructor
    · rintro ⟨bootstrapId, bootstrap, member, -, -, fresh⟩
      exact absurd member fresh
    · rintro ⟨identifiers, created⟩
      have claimed := created.claimed
      rw [created.unclaimed] at claimed
      cases claimed
  · obtain ⟨unclaimed, kept, marked⟩ := markedConsumed_of_consume consumption
    have never : administratorAccount middle.identity = false := by
      rw [everClaimed, Bool.or_eq_false_iff] at unclaimed
      rw [kept]
      exact unclaimed.2
    have created := createAdministrator_ok never creation
    rw [kept] at created
    rw [done]
    exact ⟨fun failed => absurd success failed, fun _ => marked,
      iff_of_true ⟨_, marked⟩ ⟨identifiers, created⟩⟩

/-! ## Runs -/

theorem succeeded_of_claimSucceeded {answer : FirstAdminAnswer}
    (success : claimSucceeded answer = true) : answer.succeeded = true := by
  cases answer with
  | bootstrap status => cases success
  | claim result => exact success
  | administered => cases success

theorem consumed_of_claimSucceeded (system : FirstAdminSystem) (move : FirstAdminMove)
    (success : claimSucceeded (firstAdminStep system move).2 = true) :
    consumed (firstAdminStep system move).1.store := by
  cases move with
  | claim request answers moments =>
    obtain ⟨bootstrap, member, -, isConsumed, -⟩ :=
      (claimOutcome answers moments.statement request system.store).marked (beq_iff_eq.mp success)
    exact ⟨bootstrap, member, isConsumed⟩
  | register | consume | invalidate | administer => cases success

def AtMostOneClaim (system : FirstAdminSystem)
    (entries : List (FirstAdminMove × FirstAdminAnswer)) : Prop :=
  entries.countP (fun entry => claimSucceeded entry.2) ≤ 1 ∧
    (0 < entries.countP (fun entry => claimSucceeded entry.2) → consumed system.store)

theorem atMostOneClaim_step (system : FirstAdminSystem)
    (entries : List (FirstAdminMove × FirstAdminAnswer)) (move : FirstAdminMove)
    (atMost : AtMostOneClaim system entries) :
    AtMostOneClaim (firstAdminStep system move).1
      (entries ++ [(move, (firstAdminStep system move).2)]) := by
  unfold AtMostOneClaim
  rw [List.countP_append, List.countP_singleton]
  split
  · next success =>
    have unclaimed := unclaimed_of_succeeded system move (succeeded_of_claimSucceeded success)
    have none : entries.countP (fun entry => claimSucceeded entry.2) = 0 :=
      Nat.eq_zero_of_not_pos fun some => not_consumed_of_unclaimed unclaimed (atMost.2 some)
    rw [none]
    exact ⟨Nat.le_refl 1, fun _ => consumed_of_claimSucceeded system move success⟩
  · rw [Nat.add_zero]
    exact ⟨atMost.1, fun some => (firstAdminStep_bootstraps system move).consumed (atMost.2 some)⟩

theorem atMostOneClaim (moves : List FirstAdminMove) :
    AtMostOneClaim (Run.final firstAdminStep {} moves) (Run.journal firstAdminStep {} moves) :=
  Run.final_journal_preserves firstAdminStep AtMostOneClaim {} ⟨Nat.zero_le 1, nofun⟩
    atMostOneClaim_step moves

def SingleEffective (system : FirstAdminSystem) : Prop :=
  ∀ now, system.now ≤ now → system.store.bootstraps.countP (·.effective now) ≤ 1

theorem singleEffective_step (system : FirstAdminSystem) (move : FirstAdminMove)
    (single : SingleEffective system) (flows : Flows system move) :
    SingleEffective (firstAdminStep system move).1 := by
  intro later passed
  refine (firstAdminStep_bootstraps system move).effective passed (single later ?_)
  cases move with
  | administer identity => exact passed
  | register registration moments | claim request answers moments
  | consume transactionActive bootstrapId moments
  | invalidate transactionActive bootstrapId moments =>
    exact (flows moments rfl).trans ((moments.clock.monotone (Nat.zero_le _)).trans passed)

structure FirstAdministratorClaimed (moves : List FirstAdminMove) : Prop where
  single : (Run.journal firstAdminStep {} moves).countP (fun entry => claimSucceeded entry.2) ≤ 1
  effective : ∀ before after, moves = before ++ after → ∀ now,
    (Run.final firstAdminStep {} before).now ≤ now →
    (Run.final firstAdminStep {} before).store.bootstraps.countP (·.effective now) ≤ 1
  claims : ∀ before request answers moments after result,
    moves = before ++ .claim request answers moments :: after →
    (firstAdminStep (Run.final firstAdminStep {} before) (.claim request answers moments)).2 =
      .claim result →
    ClaimOutcome request (Run.final firstAdminStep {} before).store
      (Run.final firstAdminStep {} (before ++ [.claim request answers moments])).store result.status
  closed : ∀ before move after, moves = before ++ move :: after →
    (∃ entry ∈ Run.journal firstAdminStep {} before, claimSucceeded entry.2 = true) →
    (firstAdminStep (Run.final firstAdminStep {} before) move).2.succeeded = false

/-- The first administrator is claimed at most once, whatever administration does in between. -/
theorem firstAdministrator_claimed_once (moves : List FirstAdminMove)
    (flows : Run.Admits firstAdminStep Flows {} moves) : FirstAdministratorClaimed moves where
  single := (atMostOneClaim moves).1
  effective := by
    rintro before after rfl
    have started : SingleEffective {} := fun _ _ => Nat.zero_le 1
    exact Run.final_preserves_of_admits firstAdminStep SingleEffective singleEffective_step started
      ((Run.admits_append firstAdminStep).mp flows).1
  claims := by
    rintro before request answers moments after result - answered
    rw [Run.final_concat]
    cases answered
    exact claimOutcome answers moments.statement request (Run.final firstAdminStep {} before).store
  closed := by
    rintro before move after - ⟨entry, member, success⟩
    have present : 0 < (Run.journal firstAdminStep {} before).countP
        (fun entry => claimSucceeded entry.2) := List.countP_pos_iff.mpr ⟨entry, member, success⟩
    have hasBeen := (atMostOneClaim before).2 present
    rw [Bool.eq_false_iff]
    intro succeeded
    exact not_consumed_of_unclaimed (unclaimed_of_succeeded _ move succeeded) hasBeen

/-! ## A bootstrap, its claim, and another registration -/

def momentsAt (now : Timestamp) : Moments Timestamp :=
  { works := fun _ => true, clock := OrderHom.const Nat now }

def sampleRegistration (bootstrapId : String) : FirstAdminBootstrapRegistration :=
  { bootstrapId := text bootstrapId
    verifierHash := text "$6$verifier"
    expiresAt := text "2026-01-02 00:00:00" }

def sampleClaim : FirstAdminClaimRequest :=
  { bootstrapId := text "bootstrap-1"
    setupSecret := text "0123456789abcdef0123456789abcdef"
    loginName := text "admin"
    password := text "secret"
    displayName := text "Administrator"
    requestId := text "request-1" }

def sampleClaimAnswers : ClaimAnswers :=
  { accountBytes := some [1]
    actorBytes := some [2]
    credentialBytes := some [3]
    eventBytes := some [4]
    encodedPassword := some (text "$y$hash")
    occurredAt := text "2026-01-01 00:00:02"
    crypt := fun _ setting => some setting }

def sampleClaimRun : List FirstAdminMove :=
  [.register (sampleRegistration "bootstrap-1") (momentsAt (text "2026-01-01 00:00:01")),
    .claim sampleClaim sampleClaimAnswers (momentsAt (text "2026-01-01 00:00:02")),
    .administer {},
    .register (sampleRegistration "bootstrap-2") (momentsAt (text "2026-01-01 00:00:03"))]

theorem sampleClaimRun_claimed :
    ((Run.journal firstAdminStep {} sampleClaimRun).map (·.2.succeeded) = [true, true, false, false]) ∧
      FirstAdministratorClaimed sampleClaimRun := by
  refine ⟨by decide, firstAdministrator_claimed_once sampleClaimRun ?_⟩
  refine ⟨?_, ?_, ?_, ?_, trivial⟩
  · rintro moments ⟨⟩
    decide
  · rintro moments ⟨⟩
    decide
  · rintro moments ⟨⟩
  · rintro moments ⟨⟩
    decide

end VdrSuite.Security
