import VdrSuite.Osd.OsdControllerLease

/-! What every section of the lease service keeps of its maps. -/

set_option autoImplicit false

namespace VdrSuite.Osd

open Library

/-! ## Leases over time -/

def identity (lease : OsdControllerLease) : OsdControllerLease :=
  { lease with
    leaseRevision := 0
    expiresAt := 0
    renewAfter := 0
    lastHeartbeatAt := 0
    state := .requested
    revocationReason := [] }

/-- The same lease at a later time: unchanged, or with a larger revision if it was still active. -/
structure Successor (lease later : OsdControllerLease) : Prop where
  identity : identity later = identity lease
  revised : later = lease ∨
    activeState lease.state = true ∧ lease.leaseRevision < later.leaseRevision

theorem Successor.refl (lease : OsdControllerLease) : Successor lease lease :=
  ⟨rfl, .inl rfl⟩

theorem Successor.trans {first second third : OsdControllerLease} (earlier : Successor first second)
    (later : Successor second third) : Successor first third where
  identity := later.identity.trans earlier.identity
  revised := by
    rcases earlier.revised with rfl | ⟨active, revised⟩
    · exact later.revised
    · refine .inr ⟨active, ?_⟩
      rcases later.revised with rfl | ⟨-, further⟩
      · exact revised
      · exact Nat.lt_trans revised further

def Succeeds (before after : Option OsdControllerLease) : Prop :=
  match before with
  | none => after = none
  | some lease => ∀ later, after = some later → Successor lease later

theorem Succeeds.refl (found : Option OsdControllerLease) : Succeeds found found := by
  cases found with
  | none => rfl
  | some lease =>
    rintro later ⟨⟩
    exact Successor.refl lease

theorem Succeeds.trans {first second third : Option OsdControllerLease}
    (earlier : Succeeds first second) (later : Succeeds second third) : Succeeds first third := by
  cases first with
  | none =>
    cases earlier
    exact later
  | some lease =>
    intro last found
    cases second with
    | none =>
      have gone : third = none := later
      rw [gone] at found
      cases found
    | some middle => exact (earlier middle rfl).trans (later last found)

theorem successor_ended {lease : OsdControllerLease} (active : activeState lease.state = true)
    (state : OsdControllerLeaseState) (reason : Bytes) : Successor lease (ended lease state reason) :=
  ⟨rfl, .inr ⟨active, Nat.lt_succ_self _⟩⟩

theorem surfaceKey_of_identity {lease later : OsdControllerLease}
    (same : identity later = identity lease) : later.surfaceKey = lease.surfaceKey := by
  have projected := congrArg OsdControllerLease.surfaceKey same
  exact projected

theorem controllerLeaseId_of_identity {lease later : OsdControllerLease}
    (same : identity later = identity lease) :
    later.controllerLeaseId = lease.controllerLeaseId := by
  have projected := congrArg OsdControllerLease.controllerLeaseId same
  exact projected

/-! ## The invariant of the maps -/

structure LeaseValid (store : LeaseStore) : Prop where
  keyed : Table.Keyed OsdControllerLease.controllerLeaseId store.leases
  owned : ∀ lease ∈ store.leases, activeState lease.state = true →
    store.owner lease.surfaceKey = some lease.controllerLeaseId
  recorded : ∀ lease ∈ store.leases, ∃ grant ∈ store.granted, identity lease = identity grant
  epochs : ∀ grant ∈ store.granted, ∀ epoch, store.epoch grant.surfaceKey = some epoch →
    grant.controllerLeaseEpoch ≤ epoch
  ordered : store.granted.Pairwise fun earlier later =>
    earlier.surfaceKey = later.surfaceKey → earlier.controllerLeaseEpoch < later.controllerLeaseEpoch

/-- What every section keeps: the record of grants grows at its end, and each lease ever granted is
what it was, or what has become of it. -/
structure Keeps (before after : LeaseStore) : Prop where
  granted : before.granted <+: after.granted
  leases : ∀ grant ∈ before.granted,
    Succeeds (before.lease grant.controllerLeaseId) (after.lease grant.controllerLeaseId)

theorem Keeps.refl (store : LeaseStore) : Keeps store store :=
  ⟨List.prefix_refl _, fun _ _ => Succeeds.refl _⟩

theorem Keeps.trans {first second third : LeaseStore} (earlier : Keeps first second)
    (later : Keeps second third) : Keeps first third where
  granted := earlier.granted.trans later.granted
  leases := fun grant member =>
    (earlier.leases grant member).trans (later.leases grant (earlier.granted.subset member))

variable {store : LeaseStore}

theorem lease_id {controllerLeaseId : Bytes} {lease : OsdControllerLease}
    (found : store.lease controllerLeaseId = some lease) :
    lease.controllerLeaseId = controllerLeaseId :=
  Table.key_of_lookup _ found

theorem lease_mem {controllerLeaseId : Bytes} {lease : OsdControllerLease}
    (found : store.lease controllerLeaseId = some lease) : lease ∈ store.leases :=
  Table.mem_of_lookup _ found

theorem LeaseValid.lease_of_mem (valid : LeaseValid store) {lease : OsdControllerLease}
    (member : lease ∈ store.leases) : store.lease lease.controllerLeaseId = some lease :=
  (Table.mem_iff_lookup _ valid.keyed lease).mp member

theorem LeaseValid.exclusive (valid : LeaseValid store) {lease other : OsdControllerLease}
    (leaseMember : lease ∈ store.leases) (otherMember : other ∈ store.leases)
    (leaseActive : activeState lease.state = true) (otherActive : activeState other.state = true)
    (same : lease.surfaceKey = other.surfaceKey) : lease = other := by
  have leaseOwner := valid.owned lease leaseMember leaseActive
  rw [same, valid.owned other otherMember otherActive] at leaseOwner
  have found := valid.lease_of_mem leaseMember
  rw [← Option.some.inj leaseOwner, valid.lease_of_mem otherMember] at found
  exact (Option.some.inj found).symm

theorem LeaseValid.lease_granted (valid : LeaseValid store) {controllerLeaseId : Bytes}
    {lease : OsdControllerLease} (found : store.lease controllerLeaseId = some lease) :
    ∃ grant ∈ store.granted, grant.controllerLeaseId = controllerLeaseId := by
  obtain ⟨grant, member, same⟩ := valid.recorded lease (lease_mem found)
  exact ⟨grant, member, (controllerLeaseId_of_identity same).symm.trans (lease_id found)⟩

/-! ## Reaping -/

theorem lookup_delete_of_kept {Row Key : Type} [DecidableEq Key] {key : Row → Key} {wanted : Key}
    {selected : Row → Bool} {rows : List Row} {row : Row}
    (found : Table.lookup key wanted rows = some row) (kept : selected row = false) :
    Table.lookup key wanted (Table.delete selected rows) = some row := by
  induction rows with
  | nil => cases found
  | cons first rest ih =>
    unfold Table.lookup at found
    unfold Table.lookup Table.delete at ih ⊢
    rw [List.find?_cons] at found
    rw [List.filter_cons]
    by_cases same : (key first == wanted) = true
    · rw [same] at found
      cases found
      rw [kept, Bool.not_false, if_pos rfl, List.find?_cons, same]
    · rw [Bool.not_eq_true] at same
      rw [same] at found
      split
      · rw [List.find?_cons, same]
        exact ih found
      · exact ih found

theorem owner_delete {key ownerId : Bytes} {selected : Bytes × Bytes → Bool}
    (found : store.owner key = some ownerId) (kept : selected (key, ownerId) = false) :
    ({ store with surfaceOwners := Table.delete selected store.surfaceOwners } : LeaseStore).owner key =
      some ownerId := by
  obtain ⟨entry, entryFound, rfl⟩ := Option.map_eq_some_iff.mp found
  have named : entry.1 = key := Table.key_of_lookup Prod.fst entryFound
  subst named
  exact Option.map_eq_some_iff.mpr ⟨entry, lookup_delete_of_kept entryFound kept, rfl⟩

theorem activeState_ended (lease : OsdControllerLease) (reason : Bytes)
    {state : OsdControllerLeaseState} (terminal : activeState state = false) :
    activeState (ended lease state reason).state = false := terminal

theorem ended_keeps_id (now : Int) (lease : OsdControllerLease) (_ : expiredAt now lease = true) :
    (ended lease .expired (text "expired")).controllerLeaseId = lease.controllerLeaseId := rfl

theorem lease_reapExpired (now : Int) (controllerLeaseId : Bytes) :
    (reapExpired now store).lease controllerLeaseId =
      (store.lease controllerLeaseId).map fun lease =>
        if expiredAt now lease then ended lease .expired (text "expired") else lease :=
  Table.lookup_update _ (ended_keeps_id now) _ _

theorem reapExpired_succeeds (now : Int) (controllerLeaseId : Bytes) :
    Succeeds (store.lease controllerLeaseId) ((reapExpired now store).lease controllerLeaseId) := by
  rw [lease_reapExpired]
  cases store.lease controllerLeaseId with
  | none => rfl
  | some lease =>
    rintro later ⟨⟩
    dsimp only
    split
    · next expired =>
      unfold expiredAt at expired
      rw [Bool.and_eq_true] at expired
      exact successor_ended expired.1 _ _
    · exact Successor.refl lease

theorem reapExpired_valid (valid : LeaseValid store) (now : Int) :
    LeaseValid (reapExpired now store) where
  keyed := Table.keyed_update _ (ended_keeps_id now) valid.keyed
  owned := by
    intro later member active
    obtain ⟨lease, leaseMember, rfl⟩ := List.mem_map.mp member
    split at active
    · cases active
    · next unexpired =>
      rw [if_neg unexpired]
      refine owner_delete (valid.owned lease leaseMember active) ?_
      rw [List.any_eq_false]
      intro other otherMember selected
      simp only [Bool.and_eq_true, beq_iff_eq] at selected
      obtain ⟨expired, -, named⟩ := selected
      have same := valid.lease_of_mem otherMember
      rw [← named, valid.lease_of_mem leaseMember] at same
      cases same
      exact unexpired expired
  recorded := by
    intro later member
    obtain ⟨lease, leaseMember, rfl⟩ := List.mem_map.mp member
    obtain ⟨grant, grantMember, same⟩ := valid.recorded lease leaseMember
    refine ⟨grant, grantMember, ?_⟩
    split
    · exact same
    · exact same
  epochs := valid.epochs
  ordered := valid.ordered

theorem reapExpired_live (now : Int) (lease : OsdControllerLease) (member : lease ∈ store.leases)
    (_ : activeState lease.state = true) (unexpired : expiredAt now lease = false) :
    lease ∈ (reapExpired now store).leases := by
  refine List.mem_map.mpr ⟨lease, member, ?_⟩
  rw [if_neg (by rw [unexpired]; exact Bool.false_ne_true)]

/-! ## Pruning -/

theorem LeaseValid.of_sublist (valid : LeaseValid store) {leases : List OsdControllerLease}
    (sublist : leases.Sublist store.leases) : LeaseValid { store with leases := leases } where
  keyed := valid.keyed.sublist (sublist.map _)
  owned := fun lease member => valid.owned lease (sublist.subset member)
  recorded := fun lease member => valid.recorded lease (sublist.subset member)
  epochs := valid.epochs
  ordered := valid.ordered

theorem LeaseValid.succeeds_of_sublist (valid : LeaseValid store) {leases : List OsdControllerLease}
    (sublist : leases.Sublist store.leases) (controllerLeaseId : Bytes) :
    Succeeds (store.lease controllerLeaseId)
      (({ store with leases := leases } : LeaseStore).lease controllerLeaseId) := by
  have kept : ∀ later, ({ store with leases := leases } : LeaseStore).lease controllerLeaseId =
      some later → store.lease controllerLeaseId = some later := by
    intro later found
    rw [← lease_id found]
    exact valid.lease_of_mem (sublist.subset (lease_mem found))
  cases before : store.lease controllerLeaseId with
  | none =>
    rw [before] at kept
    exact Option.eq_none_iff_forall_not_mem.mpr fun later found => nomatch kept later found
  | some lease =>
    intro later found
    have same := kept later found
    rw [before] at same
    cases same
    exact Successor.refl lease

theorem pruneTerminal_leases (walk : Walk) (store : LeaseStore) :
    (pruneTerminal walk store).leases.Sublist store.leases ∧
      ∀ lease ∈ store.leases, activeState lease.state = true →
        lease ∈ (pruneTerminal walk store).leases := by
  unfold pruneTerminal
  dsimp only
  generalize walk.leases ++ store.leases.map (·.controllerLeaseId) = order
  generalize store.leases = leases
  induction order generalizing leases with
  | nil => exact ⟨List.Sublist.refl _, fun _ member _ => member⟩
  | cons controllerLeaseId rest ih =>
    rw [List.foldl_cons]
    split
    · exact ih leases
    · obtain ⟨sublist, kept⟩ := ih (Table.delete (fun lease =>
        lease.controllerLeaseId == controllerLeaseId && !activeState lease.state) leases)
      refine ⟨sublist.trans List.filter_sublist, fun lease member active => kept lease ?_ active⟩
      refine List.mem_filter.mpr ⟨member, ?_⟩
      simp only [active, Bool.not_true, Bool.and_false, Bool.not_false]

theorem pruneSurfaceEpochs_epoch (walk : Walk) (store : LeaseStore) {key : Bytes} {epoch : Nat}
    (found : (pruneSurfaceEpochs walk store).epoch key = some epoch) :
    store.epoch key = some epoch := by
  unfold pruneSurfaceEpochs LeaseStore.epoch at found
  unfold LeaseStore.epoch
  dsimp only at found
  generalize walk.surfaces ++ store.surfaceEpochs.map Prod.fst = order at found
  generalize store.surfaceEpochs = epochs at found ⊢
  induction order generalizing epochs with
  | nil => exact found
  | cons pruned rest ih =>
    rw [List.foldl_cons] at found
    split at found
    · exact ih epochs found
    · have before := ih _ found
      rw [@Table.lookup_delete _ _ Prod.fst _ _ (· == pruned) (fun _ => rfl)] at before
      split at before
      · cases before
      · exact before

/-! ## Ending and renewing -/

theorem lease_setLease (changed : OsdControllerLease) (controllerLeaseId : Bytes) :
    (store.setLease changed).lease controllerLeaseId =
      if changed.controllerLeaseId = controllerLeaseId then some changed
      else store.lease controllerLeaseId :=
  Table.lookup_upsert _ _ _ _

theorem mem_setLease {changed lease : OsdControllerLease}
    (member : lease ∈ (store.setLease changed).leases) :
    lease = changed ∨
      lease ∈ store.leases ∧ lease.controllerLeaseId ≠ changed.controllerLeaseId := by
  change lease ∈ Table.upsert _ _ _ at member
  unfold Table.upsert at member
  split at member
  · obtain ⟨old, oldMember, rfl⟩ := List.mem_map.mp member
    split
    · exact .inl rfl
    · next different => exact .inr ⟨oldMember, fun same => different (by simpa using same)⟩
  · next absent =>
    rcases List.mem_append.mp member with old | last
    · refine .inr ⟨old, fun same => absent ?_⟩
      rw [Option.isSome_iff_ne_none, ne_eq, Table.lookup_eq_none_iff, not_not, ← same]
      exact List.mem_map_of_mem old
    · exact .inl (List.mem_singleton.mp last)

/-- A lease that is found may be replaced by its successor; it must give the surface up when it is
active no longer. -/
theorem replace_valid (valid : LeaseValid store) {found changed : OsdControllerLease}
    (present : store.lease found.controllerLeaseId = some found)
    (successor : Successor found changed) {owners : List (Bytes × Bytes)}
    (owned : ∀ lease ∈ store.leases, lease.controllerLeaseId ≠ found.controllerLeaseId →
      activeState lease.state = true →
      ({ store with surfaceOwners := owners } : LeaseStore).owner lease.surfaceKey =
        some lease.controllerLeaseId)
    (kept : activeState changed.state = true →
      ({ store with surfaceOwners := owners } : LeaseStore).owner found.surfaceKey =
        some found.controllerLeaseId) :
    LeaseValid (({ store with surfaceOwners := owners } : LeaseStore).setLease changed) where
  keyed := Table.keyed_upsert _ valid.keyed
  owned := by
    intro lease member active
    have sameId := controllerLeaseId_of_identity successor.identity
    rcases mem_setLease member with rfl | ⟨old, different⟩
    · rw [surfaceKey_of_identity successor.identity, sameId]
      exact kept active
    · exact owned lease old (sameId ▸ different) active
  recorded := by
    intro lease member
    rcases mem_setLease member with rfl | ⟨old, -⟩
    · obtain ⟨grant, grantMember, same⟩ := valid.recorded found (lease_mem present)
      exact ⟨grant, grantMember, successor.identity.trans same⟩
    · exact valid.recorded lease old
  epochs := valid.epochs
  ordered := valid.ordered

theorem replace_succeeds {found changed : OsdControllerLease}
    (present : store.lease found.controllerLeaseId = some found)
    (successor : Successor found changed) (owners : List (Bytes × Bytes))
    (controllerLeaseId : Bytes) :
    Succeeds (store.lease controllerLeaseId)
      ((({ store with surfaceOwners := owners } : LeaseStore).setLease changed).lease
        controllerLeaseId) := by
  rw [lease_setLease]
  split
  · next named =>
    rw [← named, controllerLeaseId_of_identity successor.identity, present]
    rintro later ⟨⟩
    exact successor
  · exact Succeeds.refl _

theorem removeOwner_owned (valid : LeaseValid store) (found : OsdControllerLease) :
    ∀ lease ∈ store.leases, lease.controllerLeaseId ≠ found.controllerLeaseId →
      activeState lease.state = true →
      (store.removeOwner found).owner lease.surfaceKey = some lease.controllerLeaseId := by
  intro lease member different active
  refine owner_delete (valid.owned lease member active) ?_
  rw [Bool.and_eq_false_iff]
  exact .inr (beq_eq_false_iff_ne.mpr different)

/-- What an end section finds and leaves: the lease is gone, another revision, already ended, or it
ends now. -/
theorem endLease_cases (snapshot : OsdControllerLease) (state : OsdControllerLeaseState)
    (reason : Bytes) (store : LeaseStore) :
    (store.lease snapshot.controllerLeaseId = none ∧
      endLease snapshot state reason store = (snapshot, store)) ∨
    ∃ found, store.lease snapshot.controllerLeaseId = some found ∧
      ((endLease snapshot state reason store = (found, store) ∧
          (found.leaseRevision ≠ snapshot.leaseRevision ∨ activeState found.state = false)) ∨
        (activeState found.state = true ∧
          endLease snapshot state reason store = (ended found state reason,
            (store.removeOwner found).setLease (ended found state reason)))) := by
  unfold endLease
  cases present : store.lease snapshot.controllerLeaseId with
  | none => exact .inl ⟨rfl, rfl⟩
  | some found =>
    refine .inr ⟨found, rfl, ?_⟩
    dsimp only
    split
    · next revised => exact .inl ⟨rfl, .inl revised⟩
    · split
      · next terminal => exact .inl ⟨rfl, .inr terminal⟩
      · next active =>
        rw [Bool.not_eq_false] at active
        exact .inr ⟨active, rfl⟩

theorem endLease_valid (valid : LeaseValid store) {state : OsdControllerLeaseState}
    (terminal : activeState state = false) (snapshot : OsdControllerLease) (reason : Bytes) :
    LeaseValid (endLease snapshot state reason store).2 := by
  rcases endLease_cases snapshot state reason store with
    ⟨-, same⟩ | ⟨found, present, ⟨same, -⟩ | ⟨active, changed⟩⟩
  · rw [same]
    exact valid
  · rw [same]
    exact valid
  · rw [changed]
    rw [← lease_id present] at present
    refine replace_valid valid present (successor_ended active _ _) (removeOwner_owned valid found) ?_
    intro stillActive
    rw [activeState_ended found reason terminal] at stillActive
    cases stillActive

theorem endLease_succeeds (snapshot : OsdControllerLease) (state : OsdControllerLeaseState)
    (reason controllerLeaseId : Bytes) :
    Succeeds (store.lease controllerLeaseId)
      ((endLease snapshot state reason store).2.lease controllerLeaseId) := by
  rcases endLease_cases snapshot state reason store with
    ⟨-, same⟩ | ⟨found, present, ⟨same, -⟩ | ⟨active, changed⟩⟩
  · rw [same]
    exact Succeeds.refl _
  · rw [same]
    exact Succeeds.refl _
  · rw [changed]
    rw [← lease_id present] at present
    exact replace_succeeds present (successor_ended active _ _) _ _

theorem endLease_granted (snapshot : OsdControllerLease) (state : OsdControllerLeaseState)
    (reason : Bytes) : (endLease snapshot state reason store).2.granted = store.granted := by
  rcases endLease_cases snapshot state reason store with
    ⟨-, same⟩ | ⟨found, -, ⟨same, -⟩ | ⟨-, changed⟩⟩
  · rw [same]
  · rw [same]
  · rw [changed]
    rfl

/-- What a renewal finds: a reason to refuse, or the lease of the request, which it renews or
expires. -/
theorem renewLease_cases (request : OsdControllerRenewRequest) (scope : HolderScope) (now : Int)
    (store : LeaseStore) :
    ((renewLease request scope now store).1.accepted = false ∧
      (renewLease request scope now store).2 = store) ∨
    ∃ found, store.lease request.controllerLeaseId = some found ∧
      found.leaseRevision = request.leaseRevision ∧
      found.controllerLeaseEpoch = request.controllerLeaseEpoch ∧ activeState found.state = true ∧
      ((∃ changed, (renewLease request scope now store).1.accepted = false ∧
          (renewLease request scope now store).2 = (store.removeOwner found).setLease changed ∧
          Successor found changed ∧ activeState changed.state = false) ∨
        renewLease request scope now store =
          (done (renewedUntil found scope now), store.setLease (renewedUntil found scope now))) := by
  unfold renewLease
  cases present : store.lease request.controllerLeaseId with
  | none => exact .inl ⟨rfl, rfl⟩
  | some found =>
    dsimp only
    split
    · exact .inl ⟨rfl, rfl⟩
    · next current =>
      split
      · exact .inl ⟨rfl, rfl⟩
      · next active =>
        rw [Bool.not_eq_false] at active
        rw [not_or, not_ne_iff, not_ne_iff] at current
        refine .inr ⟨found, rfl, current.1, current.2, active, ?_⟩
        split
        · exact .inl ⟨_, rfl, rfl, ⟨rfl, .inr ⟨active, Nat.lt_succ_self _⟩⟩, rfl⟩
        · exact .inr rfl

theorem successor_renewed {found : OsdControllerLease} (active : activeState found.state = true)
    (scope : HolderScope) (now : Int) : Successor found (renewedUntil found scope now) :=
  ⟨rfl, .inr ⟨active, Nat.lt_succ_self _⟩⟩

theorem renewLease_valid (valid : LeaseValid store) (request : OsdControllerRenewRequest)
    (scope : HolderScope) (now : Int) : LeaseValid (renewLease request scope now store).2 := by
  rcases renewLease_cases request scope now store with
    ⟨-, same⟩ | ⟨found, present, -, -, active, ⟨changed, -, after, successor, terminal⟩ | renewed⟩
  · rw [same]
    exact valid
  · rw [after]
    rw [← lease_id present] at present
    refine replace_valid valid present successor (removeOwner_owned valid found) ?_
    intro stillActive
    rw [terminal] at stillActive
    cases stillActive
  · rw [renewed]
    rw [← lease_id present] at present
    exact replace_valid valid present (successor_renewed active scope now)
      (fun lease member _ => valid.owned lease member)
      (fun _ => valid.owned found (lease_mem present) active)

theorem renewLease_succeeds (request : OsdControllerRenewRequest) (scope : HolderScope) (now : Int)
    (controllerLeaseId : Bytes) :
    Succeeds (store.lease controllerLeaseId)
      ((renewLease request scope now store).2.lease controllerLeaseId) := by
  rcases renewLease_cases request scope now store with
    ⟨-, same⟩ | ⟨found, present, -, -, active, ⟨changed, -, after, successor, -⟩ | renewed⟩
  · rw [same]
    exact Succeeds.refl _
  · rw [after]
    rw [← lease_id present] at present
    exact replace_succeeds present successor _ _
  · rw [renewed]
    rw [← lease_id present] at present
    exact replace_succeeds present (successor_renewed active scope now) store.surfaceOwners _

theorem renewLease_granted (request : OsdControllerRenewRequest) (scope : HolderScope) (now : Int) :
    (renewLease request scope now store).2.granted = store.granted := by
  rcases renewLease_cases request scope now store with
    ⟨-, same⟩ | ⟨found, -, -, -, -, ⟨changed, -, after, -, -⟩ | renewed⟩
  · rw [same]
  · rw [after]
    rfl
  · rw [renewed]
    rfl

/-! ## Acquiring -/

/-- What an admission leaves, whatever its outcome: the same record of grants, nothing but successors,
and every lease that is active and within its time. -/
structure Swept (now : Int) (before after : LeaseStore) : Prop where
  valid : LeaseValid after
  granted : after.granted = before.granted
  succeeds : ∀ otherId, Succeeds (before.lease otherId) (after.lease otherId)
  live : ∀ lease ∈ before.leases, activeState lease.state = true → expiredAt now lease = false →
    lease ∈ after.leases

theorem owner_delete_other {key other ownerId : Bytes} (different : other ≠ key)
    (found : store.owner other = some ownerId) :
    ({ store with surfaceOwners := Table.delete (fun entry => entry.1 == key) store.surfaceOwners } :
      LeaseStore).owner other = some ownerId :=
  owner_delete found (beq_eq_false_iff_ne.mpr different)

theorem unowned_of_no_conflict (valid : LeaseValid store) {key : Bytes}
    (free : ((store.owner key).bind store.lease).any
      (fun existing => activeState existing.state) = false) :
    ∀ lease ∈ store.leases, activeState lease.state = true → lease.surfaceKey ≠ key := by
  rintro lease member active rfl
  rw [valid.owned lease member active, Option.bind_some, valid.lease_of_mem member,
    Option.any_some, active] at free
  cases free

theorem clearOwner_valid (valid : LeaseValid store) {key : Bytes}
    (unowned : ∀ lease ∈ store.leases, activeState lease.state = true → lease.surfaceKey ≠ key) :
    LeaseValid
      { store with surfaceOwners := Table.delete (fun entry => entry.1 == key) store.surfaceOwners } where
  keyed := valid.keyed
  owned := fun lease member active =>
    owner_delete_other (unowned lease member active) (valid.owned lease member active)
  recorded := valid.recorded
  epochs := valid.epochs
  ordered := valid.ordered

theorem pruneSurfaceEpochs_valid (valid : LeaseValid store) (walk : Walk) :
    LeaseValid (pruneSurfaceEpochs walk store) where
  keyed := valid.keyed
  owned := valid.owned
  recorded := valid.recorded
  epochs := fun grant member epoch found =>
    valid.epochs grant member epoch (pruneSurfaceEpochs_epoch walk store found)
  ordered := valid.ordered

theorem admitLease_cases (valid : LeaseValid store) (walk : Walk) (key controllerLeaseId : Bytes)
    (now : Int) {outcome : Except Bytes Unit} {after : LeaseStore}
    (admission : admitLease walk key controllerLeaseId now store = (outcome, after)) :
    Swept now store after ∧ ((∃ error, outcome = .error error) ∨
      (outcome = .ok () ∧ after.lease controllerLeaseId = none ∧
        ∀ lease ∈ after.leases, activeState lease.state = true → lease.surfaceKey ≠ key)) := by
  unfold admitLease at admission
  dsimp only at admission
  have reaped : Swept now store (reapExpired now store) :=
    ⟨reapExpired_valid valid now, rfl, reapExpired_succeeds now, reapExpired_live now⟩
  generalize reapExpired now store = swept at *
  split at admission
  · cases admission
    exact ⟨reaped, .inl ⟨_, rfl⟩⟩
  · next free =>
    rw [Bool.not_eq_true] at free
    have unowned := unowned_of_no_conflict reaped.valid free
    have clearedValid := clearOwner_valid reaped.valid unowned
    obtain ⟨sublist, kept⟩ := pruneTerminal_leases walk
      { swept with surfaceOwners := Table.delete (fun entry => entry.1 == key) swept.surfaceOwners }
    have pruned : Swept now store (pruneTerminal walk
        { swept with
          surfaceOwners := Table.delete (fun entry => entry.1 == key) swept.surfaceOwners }) :=
      ⟨clearedValid.of_sublist sublist, reaped.granted, fun otherId =>
        (reaped.succeeds otherId).trans (clearedValid.succeeds_of_sublist sublist otherId),
        fun lease member active unexpired =>
          kept lease (reaped.live lease member active unexpired) active⟩
    have unownedAfter := fun lease member => unowned lease (sublist.subset member)
    split at admission
    · cases admission
      exact ⟨pruned, .inl ⟨_, rfl⟩⟩
    · split at admission
      · cases admission
        exact ⟨pruned, .inl ⟨_, rfl⟩⟩
      · next absent =>
        have gone := Option.not_isSome_iff_eq_none.mp absent
        split at admission
        · cases admission
          exact ⟨pruned, .inr ⟨rfl, gone, unownedAfter⟩⟩
        · have narrowed : Swept now store (pruneSurfaceEpochs walk (pruneTerminal walk
              { swept with
                surfaceOwners := Table.delete (fun entry => entry.1 == key) swept.surfaceOwners })) :=
            ⟨pruneSurfaceEpochs_valid pruned.valid walk, pruned.granted, pruned.succeeds, pruned.live⟩
          split at admission
          · cases admission
            exact ⟨narrowed, .inl ⟨_, rfl⟩⟩
          · cases admission
            exact ⟨narrowed, .inr ⟨rfl, gone, unownedAfter⟩⟩

/-- An acquisition that is admitted gets an id that no lease has had, and finds the epoch of a
surface that has had a lease. -/
def FreshLease (walk : Walk) (key controllerLeaseId : Bytes) (now : Int) (store : LeaseStore) : Bool :=
  match admitLease walk key controllerLeaseId now store with
  | (.error _, _) => true
  | (.ok _, admitted) =>
    store.granted.all (fun grant => grant.controllerLeaseId != controllerLeaseId) &&
    ((admitted.epoch key).isSome || store.granted.all fun grant => grant.surfaceKey != key)

theorem epoch_setEpoch (key : Bytes) (epoch : Nat) (other : Bytes) :
    (store.setEpoch key epoch).epoch other = if key = other then some epoch else store.epoch other := by
  unfold LeaseStore.setEpoch LeaseStore.epoch
  dsimp only
  rw [Table.lookup_upsert]
  split
  · rfl
  · rfl

theorem granted_epoch_le (valid : LeaseValid store) {key : Bytes}
    (remembered : store.epoch key = none → ∀ grant ∈ store.granted, grant.surfaceKey ≠ key)
    {grant : OsdControllerLease} (member : grant ∈ store.granted) (onSurface : grant.surfaceKey = key) :
    grant.controllerLeaseEpoch ≤ (store.epoch key).getD 0 := by
  subst onSurface
  cases found : store.epoch grant.surfaceKey with
  | none => exact absurd rfl (remembered found grant member)
  | some epoch => exact valid.epochs grant member epoch found

theorem setEpoch_valid (valid : LeaseValid store) {key : Bytes} {epoch : Nat}
    (remembered : store.epoch key = none → ∀ grant ∈ store.granted, grant.surfaceKey ≠ key)
    (grown : (store.epoch key).getD 0 ≤ epoch) : LeaseValid (store.setEpoch key epoch) where
  keyed := valid.keyed
  owned := valid.owned
  recorded := valid.recorded
  epochs := by
    intro grant member value found
    rw [epoch_setEpoch] at found
    split at found
    · next onSurface =>
      cases found
      exact Nat.le_trans (granted_epoch_le valid remembered member onSurface.symm) grown
    · exact valid.epochs grant member value found
  ordered := valid.ordered

theorem owner_upsert (key ownerId other : Bytes) (owners : List (Bytes × Bytes)) :
    (Table.lookup Prod.fst other (Table.upsert Prod.fst (key, ownerId) owners)).map Prod.snd =
      if key = other then some ownerId else (Table.lookup Prod.fst other owners).map Prod.snd := by
  rw [Table.lookup_upsert]
  split
  · rfl
  · rfl

theorem addLease_valid (valid : LeaseValid store) {lease : OsdControllerLease}
    (absent : store.lease lease.controllerLeaseId = none)
    (unowned : ∀ other ∈ store.leases, activeState other.state = true →
      other.surfaceKey ≠ lease.surfaceKey)
    (epoch : store.epoch lease.surfaceKey = some lease.controllerLeaseEpoch)
    (later : ∀ grant ∈ store.granted, grant.surfaceKey = lease.surfaceKey →
      grant.controllerLeaseEpoch < lease.controllerLeaseEpoch) :
    LeaseValid
      { store with
        leases := store.leases ++ [lease]
        surfaceOwners :=
          Table.upsert Prod.fst (lease.surfaceKey, lease.controllerLeaseId) store.surfaceOwners
        granted := store.granted ++ [lease] } where
  keyed := Table.keyed_append_new _ valid.keyed absent
  owned := by
    intro other member active
    refine (owner_upsert _ _ _ _).trans ?_
    rcases List.mem_append.mp member with old | last
    · rw [if_neg (unowned other old active).symm]
      exact valid.owned other old active
    · cases List.mem_singleton.mp last
      rw [if_pos rfl]
  recorded := by
    intro other member
    rcases List.mem_append.mp member with old | last
    · obtain ⟨grant, grantMember, same⟩ := valid.recorded other old
      exact ⟨grant, List.mem_append_left _ grantMember, same⟩
    · exact ⟨other, List.mem_append_right _ last, rfl⟩
  epochs := by
    intro grant member value found
    rcases List.mem_append.mp member with old | last
    · exact valid.epochs grant old value found
    · cases List.mem_singleton.mp last
      cases epoch.symm.trans found
      exact Nat.le_refl _
  ordered := by
    refine List.pairwise_append.mpr ⟨valid.ordered, List.pairwise_singleton _ _, ?_⟩
    intro grant member other last onSurface
    cases List.mem_singleton.mp last
    exact later grant member onSurface

/-- What the second half of an acquisition makes of an admitted store: another epoch at most, or the
next epoch and a lease under it. -/
theorem grantLease_cases (request : OsdControllerAcquireRequest) (scope : HolderScope) (now : Int)
    (controllerLeaseId : Bytes) (store : LeaseStore) :
    (∃ error epoch, (store.epoch (scope.surfaceKey request.backendId)).getD 0 ≤ epoch ∧
      grantLease request scope now controllerLeaseId store =
        (reject error, store.setEpoch (scope.surfaceKey request.backendId) epoch)) ∨
    ∃ lease, lease = newLease request scope now controllerLeaseId
        ((store.epoch (scope.surfaceKey request.backendId)).getD 0 + 1) ∧
      grantLease request scope now controllerLeaseId store =
        (done lease, { store.setEpoch lease.surfaceKey lease.controllerLeaseEpoch with
          leases := store.leases ++ [lease]
          surfaceOwners :=
            Table.upsert Prod.fst (lease.surfaceKey, lease.controllerLeaseId) store.surfaceOwners
          granted := store.granted ++ [lease] }) := by
  unfold grantLease
  dsimp only
  split
  · exact .inl ⟨_, _, Nat.le_refl _, rfl⟩
  · split
    · exact .inl ⟨_, _, Nat.le_succ _, rfl⟩
    · exact .inr ⟨_, rfl, rfl⟩

theorem succeeds_append {lease : OsdControllerLease} {controllerLeaseId : Bytes}
    (other : lease.controllerLeaseId ≠ controllerLeaseId) :
    Succeeds (store.lease controllerLeaseId)
      (Table.lookup OsdControllerLease.controllerLeaseId controllerLeaseId
        (store.leases ++ [lease])) := by
  rw [Table.lookup_append_new, if_neg other, Option.or_none]
  exact Succeeds.refl _

theorem acquireSurface_keeps (valid : LeaseValid store) {walk : Walk}
    {request : OsdControllerAcquireRequest} {scope : HolderScope} {now : Int}
    {controllerLeaseId : Bytes}
    (fresh : FreshLease walk (scope.surfaceKey request.backendId) controllerLeaseId now store = true) :
    LeaseValid (acquireSurface walk request scope now controllerLeaseId store).2 ∧
      Keeps store (acquireSurface walk request scope now controllerLeaseId store).2 := by
  unfold acquireSurface
  unfold FreshLease at fresh
  cases admission : admitLease walk (scope.surfaceKey request.backendId) controllerLeaseId now store with
  | mk outcome admitted =>
    rw [admission] at fresh
    obtain ⟨swept, ⟨error, rfl⟩ | ⟨rfl, absent, unowned⟩⟩ :=
      admitLease_cases valid walk _ controllerLeaseId now admission
    · exact ⟨swept.valid, swept.granted ▸ List.prefix_refl _, fun grant _ => swept.succeeds _⟩
    · dsimp only at fresh ⊢
      rw [Bool.and_eq_true, Bool.or_eq_true, List.all_eq_true, List.all_eq_true] at fresh
      obtain ⟨newId, known⟩ := fresh
      have remembered : admitted.epoch (scope.surfaceKey request.backendId) = none →
          ∀ grant ∈ admitted.granted,
            grant.surfaceKey ≠ scope.surfaceKey request.backendId := by
        intro forgotten grant member
        rcases known with present | never
        · rw [forgotten] at present
          cases present
        · exact bne_iff_ne.mp (never grant (swept.granted ▸ member))
      rcases grantLease_cases request scope now controllerLeaseId admitted with
        ⟨error, epoch, grown, refused⟩ | ⟨lease, rfl, accepted⟩
      · rw [refused]
        exact ⟨setEpoch_valid swept.valid remembered grown,
          swept.granted ▸ List.prefix_refl _, fun grant _ => swept.succeeds _⟩
      · rw [accepted]
        have nextValid := setEpoch_valid swept.valid remembered (Nat.le_succ _)
        refine ⟨addLease_valid nextValid absent unowned ?_ ?_, ?_, ?_⟩
        · exact (epoch_setEpoch _ _ _).trans (if_pos rfl)
        · intro grant member onSurface
          exact Nat.lt_succ_of_le (granted_epoch_le swept.valid remembered member onSurface)
        · rw [← swept.granted]
          exact List.prefix_append _ _
        · intro grant member
          refine (swept.succeeds grant.controllerLeaseId).trans ?_
          have other := bne_iff_ne.mp (newId grant member)
          exact succeeds_append (fun same => other same.symm)

theorem acquireSurface_live (valid : LeaseValid store) (walk : Walk)
    (request : OsdControllerAcquireRequest) (scope : HolderScope) (now : Int)
    (controllerLeaseId : Bytes) {lease : OsdControllerLease} (member : lease ∈ store.leases)
    (active : activeState lease.state = true) (unexpired : expiredAt now lease = false) :
    lease ∈ (acquireSurface walk request scope now controllerLeaseId store).2.leases := by
  unfold acquireSurface
  cases admission : admitLease walk (scope.surfaceKey request.backendId) controllerLeaseId now store with
  | mk outcome admitted =>
    obtain ⟨swept, -⟩ := admitLease_cases valid walk _ controllerLeaseId now admission
    have present := swept.live lease member active unexpired
    cases outcome with
    | error error => exact present
    | ok _ =>
      dsimp only
      rcases grantLease_cases request scope now controllerLeaseId admitted with
        ⟨error, epoch, -, refused⟩ | ⟨granted, -, accepted⟩
      · rw [refused]
        exact present
      · rw [accepted]
        exact List.mem_append_left _ present

def grantOf (result : OsdControllerLeaseResult) : List OsdControllerLease :=
  if result.accepted = true then [result.lease] else []

theorem acquireSurface_granted (valid : LeaseValid store) (walk : Walk)
    (request : OsdControllerAcquireRequest) (scope : HolderScope) (now : Int)
    (controllerLeaseId : Bytes) :
    (acquireSurface walk request scope now controllerLeaseId store).2.granted = store.granted ++
      grantOf (acquireSurface walk request scope now controllerLeaseId store).1 := by
  unfold acquireSurface
  cases admission : admitLease walk (scope.surfaceKey request.backendId) controllerLeaseId now store with
  | mk outcome admitted =>
    obtain ⟨swept, -⟩ := admitLease_cases valid walk _ controllerLeaseId now admission
    cases outcome with
    | error error => exact swept.granted.trans (List.append_nil _).symm
    | ok _ =>
      dsimp only
      rcases grantLease_cases request scope now controllerLeaseId admitted with
        ⟨error, epoch, -, refused⟩ | ⟨granted, -, accepted⟩
      · rw [refused]
        exact swept.granted.trans (List.append_nil _).symm
      · rw [accepted, ← swept.granted]
        rfl

end VdrSuite.Osd
