import Mathlib.Data.Option.Basic
import VdrSuite.Security.IdentityStore

/-! What the statements of the identity repositories leave behind when they succeed. -/

set_option autoImplicit false

namespace VdrSuite.Security

open Library

variable {Time : Type} {store after : IdentityStore Time}

theorem reads_eq_some_iff {Value : Type} {moment : Moment Time} {value : Option Value}
    {present : Value} :
    moment.reads value = some present ↔ moment.works = true ∧ value = some present := by
  unfold Moment.reads
  split
  · next works => exact ⟨fun found => ⟨works, found⟩, And.right⟩
  · next broken => exact ⟨nofun, fun found => absurd found.1 broken⟩

def ActiveUser (store : IdentityStore Time) (actorId : Bytes) : Prop :=
  ∃ actor, store.actor actorId = some actor ∧ actor.type = .user ∧ actor.active = true ∧
    actor.revoked = false

/-! ## Human credentials -/

theorem ensureHumanCredential_some [LinearOrder Time] {statement : Nat → Moment Time}
    {actorId displayName credentialId credentialType : Bytes}
    (done : ensureHumanCredentialInActiveTransaction statement actorId displayName credentialId
      credentialType store = some after) :
    after = { store with
      actors := Table.insertIfMissing StoredActorIdentity.actorId
        { actorId := actorId, type := .user, displayName := displayName } store.actors
      credentials := Table.insertIfMissing StoredCredentialIdentity.credentialId
        { credentialId := credentialId, actorId := actorId, credentialType := credentialType }
        store.credentials } ∧
    ActiveUser after actorId ∧
    ∃ credential, after.credential credentialId = some credential ∧ credential.actorId = actorId ∧
      credential.credentialType = credentialType ∧ credential.active = true ∧
      credential.revoked = false := by
  unfold ensureHumanCredentialInActiveTransaction at done
  obtain ⟨_, -, done⟩ := Option.bind_eq_some_iff.mp done
  obtain ⟨first, actorInserted, done⟩ := Option.bind_eq_some_iff.mp done
  obtain ⟨second, credentialInserted, done⟩ := Option.bind_eq_some_iff.mp done
  obtain ⟨actor, actorFound, done⟩ := Option.bind_eq_some_iff.mp done
  obtain ⟨credential, credentialFound, done⟩ := Option.bind_eq_some_iff.mp done
  obtain ⟨_, checked, same⟩ := Option.bind_eq_some_iff.mp done
  cases same
  obtain ⟨-, inserted⟩ := (reads_eq_some_iff).mp actorInserted
  cases inserted
  obtain ⟨-, inserted⟩ := (reads_eq_some_iff).mp credentialInserted
  cases inserted
  obtain ⟨-, actorFound⟩ := (reads_eq_some_iff).mp actorFound
  obtain ⟨-, credentialFound⟩ := (reads_eq_some_iff).mp credentialFound
  have facts := (Option.guard_eq_some' _).mp checked
  simp only [Bool.and_eq_true, beq_iff_eq, Bool.not_eq_true'] at facts
  obtain ⟨⟨⟨⟨⟨⟨⟨user, active⟩, unrevoked⟩, owner⟩, type⟩, credentialActive⟩, -⟩, credentialUnrevoked⟩ :=
    facts
  exact ⟨rfl, ⟨actor, actorFound, user, active, unrevoked⟩, credential, credentialFound, owner, type,
    credentialActive, credentialUnrevoked⟩

theorem ensureTechnicalIdentity_some {statement : Nat → Moment Time} {actorType : ActorType}
    {actorId actorDisplayName deviceId deviceDisplayName credentialId credentialType : Bytes}
    (done : ensureTechnicalIdentity statement actorId actorType actorDisplayName deviceId
      deviceDisplayName credentialId credentialType store = some after) :
    after = { store with
      actors := Table.insertIfMissing StoredActorIdentity.actorId
        { actorId := actorId, type := actorType, displayName := actorDisplayName } store.actors
      devices := Table.insertIfMissing StoredDeviceIdentity.deviceId
        { deviceId := deviceId, actorId := actorId, displayName := deviceDisplayName } store.devices
      credentials := Table.insertIfMissing StoredCredentialIdentity.credentialId
        { credentialId := credentialId, actorId := actorId, credentialType := credentialType }
        store.credentials } := by
  unfold ensureTechnicalIdentity at done
  obtain ⟨_, -, done⟩ := Option.bind_eq_some_iff.mp done
  obtain ⟨first, actorInserted, done⟩ := Option.bind_eq_some_iff.mp done
  obtain ⟨second, deviceInserted, done⟩ := Option.bind_eq_some_iff.mp done
  obtain ⟨third, credentialInserted, done⟩ := Option.bind_eq_some_iff.mp done
  obtain ⟨_, -, done⟩ := Option.bind_eq_some_iff.mp done
  obtain ⟨_, -, done⟩ := Option.bind_eq_some_iff.mp done
  obtain ⟨_, -, done⟩ := Option.bind_eq_some_iff.mp done
  obtain ⟨_, -, same⟩ := Option.bind_eq_some_iff.mp done
  cases same
  cases ((reads_eq_some_iff).mp actorInserted).2
  cases ((reads_eq_some_iff).mp deviceInserted).2
  cases ((reads_eq_some_iff).mp credentialInserted).2
  rfl

/-! ## Accounts -/

theorem insertAccountIfMissing_some {moment : Moment Time} {account : StoredHumanAccount}
    (done : insertAccountIfMissing moment account store = some after) :
    (store.actor account.actorId).any (·.type == .user) = true ∧
    after = { store with
      accounts :=
        if (store.account account.accountId).isSome ∨ (store.accountOfActor account.actorId).isSome then
          store.accounts
        else store.accounts ++ [account] } := by
  unfold insertAccountIfMissing at done
  split at done
  · cases done
  · next admitted =>
    rw [not_or, Bool.not_eq_false, Bool.not_eq_false] at admitted
    refine ⟨admitted.2, ?_⟩
    split at done
    · next present =>
      cases done
      rw [if_pos present]
    · next absent =>
      cases done
      rw [if_neg absent]

theorem readAccount_ok {account : StoredHumanAccount} {actor : StoredActorIdentity}
    {record : HumanAccountRecord} (read : readAccount account actor = .ok record) :
    actor.type = .user ∧ account.revision ≠ 0 ∧ record =
      { accountId := account.accountId
        actorId := account.actorId
        displayName := account.displayName
        active := account.active && actor.active && !actor.revoked
        revision := account.revision } := by
  unfold readAccount at read
  split at read
  · cases read
  · next sound =>
    cases read
    simp only [not_or, not_not, ne_eq] at sound
    exact ⟨sound.1, sound.2.1, rfl⟩

theorem findByAccountId_ok {moment : Moment Time} {accountId : Bytes} {record : HumanAccountRecord}
    (found : findByAccountId moment accountId store = .ok record) :
    ∃ account actor, store.account accountId = some account ∧
      store.actor account.actorId = some actor ∧ readAccount account actor = .ok record := by
  unfold findByAccountId at found
  split at found
  · cases found
  · unfold findAccount at found
    split at found
    · cases found
    · cases present : store.account accountId with
      | none =>
        rw [present] at found
        cases found
      | some account =>
        rw [present] at found
        dsimp only at found
        cases owner : store.actor account.actorId with
        | none =>
          rw [owner] at found
          cases found
        | some actor =>
          rw [owner] at found
          exact ⟨account, actor, rfl, owner, found⟩

theorem ensureAccount_some {statement : Nat → Moment Time} {accountId actorId displayName : Bytes}
    (done : ensureAccountInActiveTransaction statement accountId actorId displayName store =
      some after) :
    after = { store with
      accounts :=
        if (store.account accountId).isSome ∨ (store.accountOfActor actorId).isSome then store.accounts
        else store.accounts ++
          [{ accountId := accountId, actorId := actorId, displayName := displayName }] } ∧
    ∃ account, after.account accountId = some account ∧ account.actorId = actorId ∧
      account.displayName = displayName ∧ account.active = true := by
  unfold ensureAccountInActiveTransaction at done
  obtain ⟨_, -, done⟩ := Option.bind_eq_some_iff.mp done
  obtain ⟨next, inserted, done⟩ := Option.bind_eq_some_iff.mp done
  cases read : findByAccountId (statement 1) accountId next with
  | error status =>
    rw [read] at done
    cases done
  | ok record =>
    rw [read] at done
    obtain ⟨_, checked, same⟩ := Option.bind_eq_some_iff.mp done
    cases same
    have facts := (Option.guard_eq_some' _).mp checked
    simp only [Bool.and_eq_true, beq_iff_eq] at facts
    obtain ⟨account, actor, found, -, row⟩ := findByAccountId_ok read
    obtain ⟨-, -, rfl⟩ := readAccount_ok row
    simp only [Bool.and_eq_true] at facts
    exact ⟨(insertAccountIfMissing_some inserted).2, account, found, facts.1.1, facts.1.2,
      facts.2.1.1⟩

/-! ## Verifiers, grants and events -/

theorem ensureVerifier_some {statement : Nat → Moment Time}
    {credentialId loginName passwordHash : Bytes}
    (done : ensureVerifier statement credentialId loginName passwordHash store = some after) :
    after = { store with
      basicVerifiers :=
        if (store.verifierOfCredential credentialId).isSome ∨ (store.verifierOfLogin loginName).isSome
        then store.basicVerifiers
        else store.basicVerifiers ++
          [{ credentialId := credentialId, loginName := loginName, passwordHash := passwordHash }] } ∧
    after.verifierOfLogin loginName =
      some { credentialId := credentialId, loginName := loginName, passwordHash := passwordHash } := by
  unfold ensureVerifier at done
  obtain ⟨_, -, done⟩ := Option.bind_eq_some_iff.mp done
  obtain ⟨next, inserted, done⟩ := Option.bind_eq_some_iff.mp done
  obtain ⟨stored, found, done⟩ := Option.bind_eq_some_iff.mp done
  obtain ⟨_, checked, same⟩ := Option.bind_eq_some_iff.mp done
  cases same
  have facts := (Option.guard_eq_some' _).mp checked
  simp only [Bool.and_eq_true, beq_iff_eq] at facts
  refine ⟨?_, ?_⟩
  · obtain ⟨-, same⟩ := (reads_eq_some_iff).mp inserted
    rw [← Option.some.inj same]
    split
    · rfl
    · rfl
  · unfold findByLogin at found
    split at found
    · cases found
    · obtain ⟨-, present⟩ := (reads_eq_some_iff).mp found
      have named : stored.loginName = loginName := Table.key_of_lookup _ present
      obtain ⟨storedId, storedLogin, storedHash⟩ := stored
      obtain ⟨rfl, rfl⟩ := facts
      subst named
      exact present

theorem ensureGrant_some {moment : Moment Time} {actorId permission backendId : Bytes}
    (done : ensureGrant moment actorId permission backendId store = some after) :
    after = { store with
      grants := Table.upsert StoredPermissionGrant.key
        { actorId := actorId, permission := permission, backendId := backendId } store.grants } := by
  unfold ensureGrant at done
  obtain ⟨_, -, same⟩ := Option.bind_eq_some_iff.mp done
  exact (Option.some.inj same).symm

theorem append_some {moment : Moment Time} {event : AccountabilityEvent}
    (done : append moment event store = some after) :
    after = { store with events := store.events ++ [event] } := by
  unfold append at done
  obtain ⟨_, -, same⟩ := Option.bind_eq_some_iff.mp done
  exact (Option.some.inj same).symm

end VdrSuite.Security
