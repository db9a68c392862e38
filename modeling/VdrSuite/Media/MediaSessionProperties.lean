import VdrSuite.Media.MediaSession

/-! Bundles of media sessions: what every call does to the four rows of each bundle. -/

set_option autoImplicit false

namespace VdrSuite.Media

open Library Library.Transaction
open Agent (safeIdentifier)

structure Bundle where
  session : MediaSessionRow
  route : MediaRouteRow
  lease : MediaStreamLeaseRow
  grant : MediaAccessGrantRow
  deriving DecidableEq

namespace Bundle

structure Linked (bundle : Bundle) : Prop where
  route : bundle.route.sessionId = bundle.session.sessionId
  lease : bundle.lease.routeId = bundle.route.routeId
  grant : bundle.grant.sessionId = bundle.session.sessionId

structure Provisioning (bundle : Bundle) : Prop where
  session : bundle.session.state = .provisioning
  route : bundle.route.state = .provisioning
  lease : bundle.lease.state = .provisioning
  inactive : bundle.grant.active = false
  unrevoked : bundle.grant.revokedAt = []

structure Ready (bundle : Bundle) : Prop where
  session : bundle.session.state = .ready
  route : bundle.route.state = .ready
  lease : bundle.lease.state = .active
  active : bundle.grant.active = true
  unrevoked : bundle.grant.revokedAt = []

structure Terminal (bundle : Bundle) : Prop where
  session : finished bundle.session.state = true
  route : bundle.route.state = bundle.session.state
  lease : bundle.lease.state = bundle.session.state
  inactive : bundle.grant.active = false
  revoked : bundle.grant.revokedAt ≠ []

def Matching (bundle : Bundle) : Prop := bundle.Provisioning ∨ bundle.Ready ∨ bundle.Terminal

end Bundle

def IsBundle (store : MediaStore) (bundle : Bundle) : Prop :=
  bundle.session ∈ store.sessions ∧ bundle.route ∈ store.routes ∧
    bundle.lease ∈ store.leases ∧ bundle.grant ∈ store.grants ∧ bundle.Linked

def tables (bundles : List Bundle) : MediaStore :=
  { sessions := bundles.map (·.session)
    routes := bundles.map (·.route)
    leases := bundles.map (·.lease)
    grants := bundles.map (·.grant) }

structure Coherent (store : MediaStore) (bundles : List Bundle) : Prop where
  tables : store = tables bundles
  linked : ∀ bundle ∈ bundles, bundle.Linked
  matching : ∀ bundle ∈ bundles, bundle.Matching
  sessionIds : (bundles.map fun bundle => bundle.session.sessionId).Nodup
  routeIds : (bundles.map fun bundle => bundle.route.routeId).Nodup

variable {store : MediaStore} {bundles : List Bundle}

theorem coherent_nil : Coherent {} [] :=
  { tables := rfl
    linked := by simp
    matching := by simp
    sessionIds := by simp
    routeIds := by simp }

theorem Coherent.eq_of_sessionId (coherent : Coherent store bundles) {first second : Bundle}
    (firstMember : first ∈ bundles) (secondMember : second ∈ bundles)
    (same : first.session.sessionId = second.session.sessionId) : first = second :=
  List.inj_on_of_nodup_map coherent.sessionIds firstMember secondMember same

theorem Coherent.eq_of_routeId (coherent : Coherent store bundles) {first second : Bundle}
    (firstMember : first ∈ bundles) (secondMember : second ∈ bundles)
    (same : first.route.routeId = second.route.routeId) : first = second :=
  List.inj_on_of_nodup_map coherent.routeIds firstMember secondMember same

theorem Coherent.isBundle_iff (coherent : Coherent store bundles) (bundle : Bundle) :
    IsBundle store bundle ↔ bundle ∈ bundles := by
  rw [coherent.tables]
  constructor
  · rintro ⟨sessionMember, routeMember, leaseMember, grantMember, linked⟩
    obtain ⟨bySession, member, session⟩ := List.mem_map.mp sessionMember
    obtain ⟨byRoute, routeOwner, route⟩ := List.mem_map.mp routeMember
    obtain ⟨byLease, leaseOwner, lease⟩ := List.mem_map.mp leaseMember
    obtain ⟨byGrant, grantOwner, grant⟩ := List.mem_map.mp grantMember
    have sameRoute : byRoute = bySession := by
      refine coherent.eq_of_sessionId routeOwner member ?_
      rw [← (coherent.linked byRoute routeOwner).route, route, session, linked.route]
    have sameLease : byLease = bySession := by
      refine coherent.eq_of_routeId leaseOwner member ?_
      rw [← (coherent.linked byLease leaseOwner).lease, lease, linked.lease, ← route, sameRoute]
    have sameGrant : byGrant = bySession := by
      refine coherent.eq_of_sessionId grantOwner member ?_
      rw [← (coherent.linked byGrant grantOwner).grant, grant, session, linked.grant]
    subst sameRoute sameLease sameGrant
    obtain ⟨_, _, _, _⟩ := bundle
    cases session
    cases route
    cases lease
    cases grant
    exact member
  · intro member
    exact ⟨List.mem_map_of_mem member, List.mem_map_of_mem member, List.mem_map_of_mem member,
      List.mem_map_of_mem member, coherent.linked bundle member⟩

/-! ## Updates -/

/-- What one `UPDATE` does to a row. -/
def changing {Row : Type} (selected : Row → Bool) (change : Row → Row) (row : Row) : Row :=
  if selected row then change row else row

def Bundle.updated (session : MediaSessionRow → MediaSessionRow)
    (route : MediaRouteRow → MediaRouteRow) (lease : MediaStreamLeaseRow → MediaStreamLeaseRow)
    (grant : MediaAccessGrantRow → MediaAccessGrantRow) (bundle : Bundle) : Bundle :=
  { session := session bundle.session
    route := route bundle.route
    lease := lease bundle.lease
    grant := grant bundle.grant }

theorem tables_map_updated (session : MediaSessionRow → MediaSessionRow)
    (route : MediaRouteRow → MediaRouteRow) (lease : MediaStreamLeaseRow → MediaStreamLeaseRow)
    (grant : MediaAccessGrantRow → MediaAccessGrantRow) (bundles : List Bundle) :
    tables (bundles.map (Bundle.updated session route lease grant)) =
      { sessions := (tables bundles).sessions.map session
        routes := (tables bundles).routes.map route
        leases := (tables bundles).leases.map lease
        grants := (tables bundles).grants.map grant } := by
  simp [tables, Bundle.updated, Function.comp_def]

theorem Coherent.sessions (coherent : Coherent store bundles) :
    store.sessions = bundles.map (·.session) := by
  rw [coherent.tables]
  rfl

theorem Coherent.routes (coherent : Coherent store bundles) :
    store.routes = bundles.map (·.route) := by
  rw [coherent.tables]
  rfl

theorem Coherent.leases (coherent : Coherent store bundles) :
    store.leases = bundles.map (·.lease) := by
  rw [coherent.tables]
  rfl

theorem Coherent.grants (coherent : Coherent store bundles) :
    store.grants = bundles.map (·.grant) := by
  rw [coherent.tables]
  rfl

/-- A bundle that an update may change: it has not ended, keeps its keys, and matches again. -/
structure Bundle.Moves (bundle changed : Bundle) : Prop where
  open_ : ¬ bundle.Terminal
  linked : changed.Linked
  matching : changed.Matching
  sessionId : changed.session.sessionId = bundle.session.sessionId
  routeId : changed.route.routeId = bundle.route.routeId

/-- The tables after a call, with every bundle that had ended still in them. -/
structure Follows (bundles : List Bundle) (next : MediaStore) (after : List Bundle) : Prop where
  coherent : Coherent next after
  ended : ∀ bundle ∈ bundles, bundle.Terminal → bundle ∈ after

def Continues (bundles : List Bundle) (next : MediaStore) : Prop := ∃ after, Follows bundles next after

theorem Coherent.continues (coherent : Coherent store bundles) : Continues bundles store :=
  ⟨bundles, coherent, fun _ member _ => member⟩

theorem Coherent.map (coherent : Coherent store bundles) {change : Bundle → Bundle}
    (each : ∀ bundle ∈ bundles, change bundle = bundle ∨ bundle.Moves (change bundle)) :
    Coherent (Media.tables (bundles.map change)) (bundles.map change) where
  tables := rfl
  linked := by
    refine List.forall_mem_map.mpr fun bundle member => ?_
    rcases each bundle member with same | moves
    · exact same.symm ▸ coherent.linked bundle member
    · exact moves.linked
  matching := by
    refine List.forall_mem_map.mpr fun bundle member => ?_
    rcases each bundle member with same | moves
    · exact same.symm ▸ coherent.matching bundle member
    · exact moves.matching
  sessionIds := by
    have same : bundles.map (fun bundle => (change bundle).session.sessionId) =
        bundles.map fun bundle => bundle.session.sessionId := by
      refine List.map_congr_left fun bundle member => ?_
      rcases each bundle member with same | moves
      · rw [same]
      · exact moves.sessionId
    rw [List.map_map]
    exact same ▸ coherent.sessionIds
  routeIds := by
    have same : bundles.map (fun bundle => (change bundle).route.routeId) =
        bundles.map fun bundle => bundle.route.routeId := by
      refine List.map_congr_left fun bundle member => ?_
      rcases each bundle member with same | moves
      · rw [same]
      · exact moves.routeId
    rw [List.map_map]
    exact same ▸ coherent.routeIds

theorem Coherent.follows_updated (coherent : Coherent store bundles)
    (session : MediaSessionRow → MediaSessionRow) (route : MediaRouteRow → MediaRouteRow)
    (lease : MediaStreamLeaseRow → MediaStreamLeaseRow)
    (grant : MediaAccessGrantRow → MediaAccessGrantRow)
    (each : ∀ bundle ∈ bundles, Bundle.updated session route lease grant bundle = bundle ∨
      bundle.Moves (Bundle.updated session route lease grant bundle)) :
    Follows bundles
      { sessions := store.sessions.map session
        routes := store.routes.map route
        leases := store.leases.map lease
        grants := store.grants.map grant }
      (bundles.map (Bundle.updated session route lease grant)) := by
  have next := coherent.map each
  rw [tables_map_updated, ← coherent.tables] at next
  refine ⟨next, fun bundle member ended => ?_⟩
  rcases each bundle member with same | moves
  · exact List.mem_map.mpr ⟨bundle, member, same⟩
  · exact absurd ended moves.open_

theorem Coherent.continues_sessions (coherent : Coherent store bundles)
    (session : MediaSessionRow → MediaSessionRow)
    (each : ∀ bundle ∈ bundles, { bundle with session := session bundle.session } = bundle ∨
      bundle.Moves { bundle with session := session bundle.session }) :
    Continues bundles { store with sessions := store.sessions.map session } := by
  have follows := coherent.follows_updated session id id id each
  simp only [List.map_id] at follows
  exact ⟨_, follows⟩

theorem Coherent.continues_grants (coherent : Coherent store bundles)
    (grant : MediaAccessGrantRow → MediaAccessGrantRow)
    (each : ∀ bundle ∈ bundles, { bundle with grant := grant bundle.grant } = bundle ∨
      bundle.Moves { bundle with grant := grant bundle.grant }) :
    Continues bundles { store with grants := store.grants.map grant } := by
  have follows := coherent.follows_updated id id id grant each
  simp only [List.map_id] at follows
  exact ⟨_, follows⟩

theorem Coherent.ends_updated (coherent : Coherent store bundles)
    (session : MediaSessionRow → MediaSessionRow) (route : MediaRouteRow → MediaRouteRow)
    (lease : MediaStreamLeaseRow → MediaStreamLeaseRow)
    (grant : MediaAccessGrantRow → MediaAccessGrantRow)
    (each : ∀ bundle ∈ bundles, (Bundle.updated session route lease grant bundle).Terminal ∧
      (Bundle.updated session route lease grant bundle = bundle ∨
        bundle.Moves (Bundle.updated session route lease grant bundle))) :
    ∃ after,
      Follows bundles
        { sessions := store.sessions.map session
          routes := store.routes.map route
          leases := store.leases.map lease
          grants := store.grants.map grant } after ∧
      ∀ bundle ∈ after, bundle.Terminal :=
  ⟨_, coherent.follows_updated session route lease grant fun bundle member => (each bundle member).2,
    List.forall_mem_map.mpr fun bundle member => (each bundle member).1⟩

theorem finished_iff (state : MediaState) :
    finished state = true ↔ state = .ended ∨ state = .failed := by
  simp [finished]

theorem Bundle.Matching.provisioning {bundle : Bundle} (matching : bundle.Matching)
    (state : bundle.session.state = .provisioning) : bundle.Provisioning := by
  rcases matching with provisioning | ready | ended
  · exact provisioning
  · have other := ready.session
    rw [state] at other
    cases other
  · have other := ended.session
    rw [state] at other
    cases other

theorem Bundle.Provisioning.not_terminal {bundle : Bundle} (provisioning : bundle.Provisioning) :
    ¬ bundle.Terminal :=
  fun ended => ended.revoked provisioning.unrevoked

theorem Bundle.Ready.not_terminal {bundle : Bundle} (ready : bundle.Ready) : ¬ bundle.Terminal :=
  fun ended => ended.revoked ready.unrevoked

/-- The lease that a statement finds through a session's route is the lease of that session. -/
theorem Coherent.leasesRouteOf_eq (coherent : Coherent store bundles) (sessionId : Bytes)
    {bundle : Bundle} (member : bundle ∈ bundles) :
    leasesRouteOf store.routes sessionId bundle.lease = (bundle.session.sessionId == sessionId) := by
  rw [leasesRouteOf, coherent.routes, List.find?_map, Option.map_map]
  cases found : bundles.find? ((fun route => route.sessionId == sessionId) ∘ Bundle.route) with
  | none =>
    have other := List.find?_eq_none.mp found bundle member
    rw [Function.comp_apply, (coherent.linked bundle member).route] at other
    simpa using other
  | some owner =>
    have ownerMember := List.mem_of_find?_eq_some found
    have named : owner.session.sessionId = sessionId := by
      have selected := List.find?_some found
      rw [Function.comp_apply, (coherent.linked owner ownerMember).route] at selected
      exact beq_iff_eq.mp selected
    rw [Bool.eq_iff_iff, beq_iff_eq, beq_iff_eq, (coherent.linked bundle member).lease]
    constructor
    · intro same
      rw [← named, coherent.eq_of_routeId member ownerMember (Option.some.inj same).symm]
    · intro same
      rw [coherent.eq_of_sessionId member ownerMember (same.trans named.symm)]
      rfl

/-! ## Transactions -/

theorem bundleTransaction_cases (environment : MediaEnvironment)
    (first second third fourth : Timestamp → Statement MediaStore) (store : MediaStore) :
    (∃ one two three four, first (environment.now 0) store = .ok one ∧
      second (environment.now 1) one = .ok two ∧ third (environment.now 2) two = .ok three ∧
      fourth (environment.now 3) three = .ok four ∧
      bundleTransaction environment [first, second, third, fourth] store = (true, four)) ∨
    bundleTransaction environment [first, second, third, fourth] store = (false, store) := by
  have failing : id false = false := rfl
  let sequence := inSequence ([first, second, third, fourth].mapIdx fun index statement =>
    attempt (environment.carriedOut index) (statement (environment.now index)))
  have outcome : (bundleTransaction environment [first, second, third, fourth] store =
        committed sequence store ∧ id (committed sequence store).1 = true) ∨ _ :=
    transaction_cases failing store
  rcases outcome with ⟨same, committedAll⟩ | ⟨kept, failed⟩
  · rcases committed_cases sequence store with ⟨four, done, result⟩ | refused
    · obtain ⟨one, stepOne, done⟩ := inSequence_cons_ok done
      obtain ⟨two, stepTwo, done⟩ := inSequence_cons_ok done
      obtain ⟨three, stepThree, done⟩ := inSequence_cons_ok done
      obtain ⟨last, stepFour, done⟩ := inSequence_cons_ok done
      cases done
      exact .inl ⟨one, two, three, four, (attempt_ok stepOne).2, (attempt_ok stepTwo).2,
        (attempt_ok stepThree).2, (attempt_ok stepFour).2, same.trans result⟩
    · rw [refused] at committedAll
      cases committedAll
  · exact .inr (Prod.ext failed kept)

theorem updateOne_ok {Row : Type} {selected : Row → Bool} {change : Row → Row}
    {rows changed : List Row} (done : updateOne selected change rows = .ok changed) :
    changed = Table.update selected change rows ∧ ∃ row ∈ rows, selected row = true := by
  unfold updateOne at done
  split at done
  · next one =>
    cases done
    exact ⟨rfl, List.countP_pos_iff.mp (by omega)⟩
  · cases done

theorem bind_updateOne_ok {Row : Type} {selected : Row → Bool} {change : Row → Row}
    {rows : List Row} {put : List Row → MediaStore} {next : MediaStore}
    (done : (do
      let changed ← updateOne selected change rows
      .ok (put changed)) = Except.ok (ε := Refusal) next) :
    next = put (Table.update selected change rows) ∧ ∃ row ∈ rows, selected row = true := by
  cases updated : updateOne selected change rows with
  | error refusal =>
    rw [updated] at done
    cases done
  | ok changed =>
    rw [updated] at done
    cases done
    obtain ⟨rfl, found⟩ := updateOne_ok updated
    exact ⟨rfl, found⟩

/-! ## New bundles -/

def provisionedBundle (value : MediaSessionBundleRegistration) (now : Nat → Timestamp) : Bundle :=
  { session :=
      { sessionId := value.sessionId
        actorId := value.actorId
        backendId := value.backendId
        resourceKind := value.resourceKind
        resourceId := value.resourceId
        state := .provisioning
        presentationProfileId := value.presentationProfileId
        terminalReason := []
        createdAt := now 0
        updatedAt := now 0
        endedAt := [] }
    route :=
      { routeId := value.routeId
        sessionId := value.sessionId
        routeEpoch := value.routeEpoch
        providerId := value.providerId
        backendId := value.backendId
        state := .provisioning
        createdAt := now 1
        updatedAt := now 1 }
    lease :=
      { leaseId := value.leaseId
        routeId := value.routeId
        providerId := value.providerId
        workspaceId := value.workspaceId
        state := .provisioning
        createdAt := now 2
        updatedAt := now 2
        endedAt := [] }
    grant :=
      { grantId := value.grantId
        sessionId := value.sessionId
        routeId := value.routeId
        routeEpoch := value.routeEpoch
        actorId := value.actorId
        secretHash := value.secretHash
        expiresAt := value.expiresAt
        lastSeenAt := now 3
        active := false
        revokedAt := []
        createdAt := now 3
        updatedAt := now 3 } }

theorem provisionedBundle_provisioning (value : MediaSessionBundleRegistration)
    (now : Nat → Timestamp) : (provisionedBundle value now).Provisioning :=
  ⟨rfl, rfl, rfl, rfl, rfl⟩

theorem Coherent.append (coherent : Coherent store bundles) {bundle : Bundle}
    (linked : bundle.Linked) (matching : bundle.Matching)
    (sessionFree : bundle.session.sessionId ∉ store.sessions.map (·.sessionId))
    (routeFree : bundle.route.routeId ∉ store.routes.map (·.routeId)) :
    Coherent (Media.tables (bundles ++ [bundle])) (bundles ++ [bundle]) := by
  rw [coherent.tables, Media.tables, List.map_map] at sessionFree routeFree
  refine ⟨rfl, ?_, ?_, ?_, ?_⟩
  · intro other member
    obtain old | fresh := List.mem_append.mp member
    · exact coherent.linked other old
    · exact List.mem_singleton.mp fresh ▸ linked
  · intro other member
    obtain old | fresh := List.mem_append.mp member
    · exact coherent.matching other old
    · exact List.mem_singleton.mp fresh ▸ matching
  · rw [List.map_append, List.map_singleton, ← List.concat_eq_append, List.nodup_concat]
    exact ⟨sessionFree, coherent.sessionIds⟩
  · rw [List.map_append, List.map_singleton, ← List.concat_eq_append, List.nodup_concat]
    exact ⟨routeFree, coherent.routeIds⟩

theorem insertProvisioningBundle_cases (coherent : Coherent store bundles)
    (environment : MediaEnvironment) (value : MediaSessionBundleRegistration) :
    insertProvisioningBundle environment value store = (false, store) ∨
    Coherent (insertProvisioningBundle environment value store).2
      (bundles ++ [provisionedBundle value environment.now]) := by
  unfold insertProvisioningBundle
  split
  · exact .inl rfl
  · rcases bundleTransaction_cases environment (insertSession value) (insertRoute value)
      (insertLease value) (insertGrant value) store with
      ⟨one, two, three, four, session, route, lease, grant, result⟩ | refused
    · refine .inr ?_
      rw [result]
      unfold insertSession at session
      split at session
      · cases session
      · next sessionFree =>
        cases session
        unfold insertRoute at route
        split at route
        · cases route
        · next routeFree =>
          cases route
          unfold insertLease at lease
          split at lease
          · cases lease
          · cases lease
            unfold insertGrant at grant
            split at grant
            · cases grant
            · cases grant
              have next := @Coherent.append _ _ coherent (provisionedBundle value environment.now)
                ⟨rfl, rfl, rfl⟩ (.inl (provisionedBundle_provisioning value environment.now))
                sessionFree (fun taken => routeFree (.inl taken))
              rw [coherent.tables]
              simpa [Media.tables, provisionedBundle] using next
    · exact .inl refused

/-! ## Activation -/

theorem leasesRouteOf_update {selected : MediaRouteRow → Bool}
    {change : MediaRouteRow → MediaRouteRow} {before after : List MediaRouteRow}
    (updated : after = Table.update selected change before)
    (session : ∀ row, (change row).sessionId = row.sessionId)
    (route : ∀ row, (change row).routeId = row.routeId) (sessionId : Bytes)
    (row : MediaStreamLeaseRow) :
    leasesRouteOf after sessionId row = leasesRouteOf before sessionId row := by
  have keepsSession : ∀ row, (changing selected change row).sessionId = row.sessionId := by
    intro row
    unfold changing
    split
    · exact session row
    · rfl
  have keepsRoute : ∀ row, (changing selected change row).routeId = row.routeId := by
    intro row
    unfold changing
    split
    · exact route row
    · rfl
  have same : after = before.map (changing selected change) := updated
  simp only [leasesRouteOf, same, List.find?_map, Option.map_map, Function.comp_def,
    keepsSession, keepsRoute]

theorem activateBundle_cases (coherent : Coherent store bundles) (environment : MediaEnvironment)
    (sessionId : Bytes) :
    activateBundle environment sessionId store = (false, store) ∨
      Continues bundles (activateBundle environment sessionId store).2 := by
  unfold activateBundle
  split
  · exact .inl rfl
  · rcases bundleTransaction_cases environment (activateSession sessionId)
      (activateRoute sessionId) (activateLease sessionId) (activateGrant sessionId) store with
      ⟨one, two, three, four, session, route, lease, grant, result⟩ | refused
    · refine .inr ?_
      rw [result]
      obtain ⟨rfl, sessionRow, sessionMember, sessionChosen⟩ := bind_updateOne_ok session
      obtain ⟨routesReady, -⟩ := bind_updateOne_ok route
      have sameLeases : ∀ row,
          leasesRouteOf two.routes sessionId row = leasesRouteOf store.routes sessionId row :=
        leasesRouteOf_update (congrArg MediaStore.routes routesReady) (fun _ => rfl)
          (fun _ => rfl) sessionId
      obtain ⟨leasesActive, -⟩ := bind_updateOne_ok lease
      obtain ⟨rfl, grantRow, grantMember, grantChosen⟩ := bind_updateOne_ok grant
      simp only [sameLeases] at leasesActive
      subst leasesActive routesReady
      obtain ⟨owner, ownerMember, rfl⟩ := List.mem_map.mp (coherent.sessions ▸ sessionMember)
      obtain ⟨granted, grantedMember, rfl⟩ := List.mem_map.mp (coherent.grants ▸ grantMember)
      simp only [Bool.and_eq_true, beq_iff_eq, Bool.not_eq_true', decide_eq_true_eq,
        List.isEmpty_iff] at sessionChosen grantChosen
      refine ⟨_, coherent.follows_updated (changing _ _) (changing _ _) (changing _ _)
        (changing _ _) ?_⟩
      intro bundle member
      have linked := coherent.linked bundle member
      have leaseChosen := coherent.leasesRouteOf_eq sessionId member
      by_cases named : bundle.session.sessionId = sessionId
      · -- the one bundle that the first and the last update found
        have isOwner : bundle = owner :=
          coherent.eq_of_sessionId member ownerMember (named.trans sessionChosen.1.symm)
        have isGranted : bundle = granted := by
          refine coherent.eq_of_sessionId member grantedMember ?_
          rw [← (coherent.linked granted grantedMember).grant, grantChosen.1.1.1, named]
        subst isOwner isGranted
        rw [beq_iff_eq.mpr named] at leaseChosen
        have provisioning := (coherent.matching bundle member).provisioning sessionChosen.2
        right
        simp only [Bundle.updated, changing, linked.route, linked.grant, named, leaseChosen,
          provisioning.session, provisioning.route, provisioning.lease, provisioning.inactive,
          provisioning.unrevoked, grantChosen.2, beq_self_eq_true, Bool.and_self, Bool.not_false,
          List.isEmpty_nil, decide_true, if_true]
        exact
          { open_ := provisioning.not_terminal
            linked := ⟨rfl, linked.lease, rfl⟩
            matching := .inr (.inl ⟨rfl, rfl, rfl, rfl, rfl⟩)
            sessionId := named.symm
            routeId := rfl }
      · rw [beq_eq_false_iff_ne.mpr named] at leaseChosen
        simp only [Bundle.updated, changing, linked.route, linked.grant, leaseChosen,
          beq_eq_false_iff_ne.mpr named, Bool.false_and, Bool.false_eq_true, if_false, true_or]
    · exact .inl refused

/-! ## Failures, endings and recovery -/

theorem Bundle.Terminal.finished {bundle : Bundle} (ended : bundle.Terminal) :
    terminal bundle.session.state = true := by
  rw [terminal, ended.session]
  rfl

theorem closeBundle_cases (coherent : Coherent store bundles) {outcome : MediaState}
    (closing : finished outcome = true) (environment : MediaEnvironment)
    (sessionId reasonCode : Bytes) :
    closeBundle outcome environment sessionId reasonCode store = (false, store) ∨
      Continues bundles (closeBundle outcome environment sessionId reasonCode store).2 := by
  unfold closeBundle
  split
  · exact .inl rfl
  · rcases bundleTransaction_cases environment (revokeGrant sessionId)
      (closeLease outcome sessionId) (closeRoute outcome sessionId)
      (closeSession outcome sessionId reasonCode) store with
      ⟨one, two, three, four, grant, lease, route, session, result⟩ | refused
    · refine .inr ?_
      rw [result]
      cases grant
      cases lease
      cases route
      obtain ⟨rfl, sessionRow, sessionMember, sessionChosen⟩ := bind_updateOne_ok session
      obtain ⟨owner, ownerMember, rfl⟩ := List.mem_map.mp (coherent.sessions ▸ sessionMember)
      simp only [Bool.and_eq_true, beq_iff_eq, Bool.not_eq_true'] at sessionChosen
      refine ⟨_, coherent.follows_updated (changing _ _) (changing _ _) (changing _ _)
        (changing _ _) ?_⟩
      intro bundle member
      have linked := coherent.linked bundle member
      have leaseChosen := coherent.leasesRouteOf_eq sessionId member
      by_cases named : bundle.session.sessionId = sessionId
      · have isOwner : bundle = owner :=
          coherent.eq_of_sessionId member ownerMember (named.trans sessionChosen.1.symm)
        subst isOwner
        rw [beq_iff_eq.mpr named] at leaseChosen
        have opened : ¬ bundle.Terminal := by
          intro ended
          rw [ended.finished] at sessionChosen
          cases sessionChosen.2
        obtain ⟨leaseOpen, routeOpen, unrevoked⟩ :
            finished bundle.lease.state = false ∧ finished bundle.route.state = false ∧
              bundle.grant.revokedAt = [] := by
          obtain provisioning | ready | ended := coherent.matching bundle member
          · rw [provisioning.lease, provisioning.route]
            exact ⟨rfl, rfl, provisioning.unrevoked⟩
          · rw [ready.lease, ready.route]
            exact ⟨rfl, rfl, ready.unrevoked⟩
          · exact absurd ended opened
        right
        simp only [Bundle.updated, changing, linked.route, linked.grant, named, leaseChosen,
          leaseOpen, routeOpen, unrevoked, sessionChosen.2, beq_self_eq_true, Bool.and_self,
          Bool.not_false, List.isEmpty_nil, if_true]
        exact
          { open_ := opened
            linked := ⟨rfl, linked.lease, rfl⟩
            matching := .inr (.inr ⟨closing, rfl, rfl, rfl, (environment.now 0).property⟩)
            sessionId := named.symm
            routeId := rfl }
      · rw [beq_eq_false_iff_ne.mpr named] at leaseChosen
        simp only [Bundle.updated, changing, linked.route, linked.grant, leaseChosen,
          beq_eq_false_iff_ne.mpr named, Bool.false_and, Bool.false_eq_true, if_false, true_or]
    · exact .inl refused

theorem recoverNonTerminalBundles_cases (coherent : Coherent store bundles)
    (environment : MediaEnvironment) :
    recoverNonTerminalBundles environment store = (false, store) ∨
      ∃ after, Follows bundles (recoverNonTerminalBundles environment store).2 after ∧
        ∀ bundle ∈ after, bundle.Terminal := by
  unfold recoverNonTerminalBundles
  rcases bundleTransaction_cases environment recoverGrants recoverLeases recoverRoutes
    recoverSessions store with ⟨one, two, three, four, grant, lease, route, session, result⟩ | refused
  · refine .inr ?_
    rw [result]
    cases grant
    cases lease
    cases route
    cases session
    refine coherent.ends_updated (changing _ _) (changing _ _) (changing _ _) (changing _ _) ?_
    intro bundle member
    have linked := coherent.linked bundle member
    obtain provisioning | ready | ended := coherent.matching bundle member
    · simp only [Bundle.updated, changing, provisioning.session, provisioning.route,
        provisioning.lease, provisioning.inactive, provisioning.unrevoked]
      have closed := (environment.now 0).property
      exact ⟨⟨rfl, rfl, rfl, rfl, closed⟩, .inr
        { open_ := provisioning.not_terminal
          linked := ⟨linked.route, linked.lease, linked.grant⟩
          matching := .inr (.inr ⟨rfl, rfl, rfl, rfl, closed⟩)
          sessionId := rfl
          routeId := rfl }⟩
    · simp only [Bundle.updated, changing, ready.session, ready.route, ready.lease, ready.active,
        ready.unrevoked]
      have closed := (environment.now 0).property
      exact ⟨⟨rfl, rfl, rfl, rfl, closed⟩, .inr
        { open_ := ready.not_terminal
          linked := ⟨linked.route, linked.lease, linked.grant⟩
          matching := .inr (.inr ⟨rfl, rfl, rfl, rfl, closed⟩)
          sessionId := rfl
          routeId := rfl }⟩
    · have revoked : bundle.grant.revokedAt.isEmpty = false :=
        List.isEmpty_eq_false_iff.mpr ended.revoked
      rcases (finished_iff _).mp ended.session with state | state
      · have route := ended.route.trans state
        have lease := ended.lease.trans state
        simp only [Bundle.updated, changing, state, route, lease, ended.inactive, revoked]
        exact ⟨ended, .inl rfl⟩
      · have route := ended.route.trans state
        have lease := ended.lease.trans state
        simp only [Bundle.updated, changing, state, route, lease, ended.inactive, revoked]
        exact ⟨ended, .inl rfl⟩
  · exact .inl refused

/-! ## Single statements -/

theorem updateProvisioningPresentationProfile_cases (coherent : Coherent store bundles)
    (environment : MediaEnvironment) (sessionId presentationProfileId : Bytes) :
    updateProvisioningPresentationProfile environment sessionId presentationProfileId store =
        (false, store) ∨
      Continues bundles (updateProvisioningPresentationProfile environment sessionId
        presentationProfileId store).2 := by
  unfold updateProvisioningPresentationProfile
  split
  · exact .inl rfl
  · rcases committed_cases (attempt (environment.carriedOut 0) _) store with
      ⟨next, done, result⟩ | refused
    · refine .inr ?_
      rw [result]
      obtain ⟨rfl, -⟩ := bind_updateOne_ok (attempt_ok done).2
      refine coherent.continues_sessions (changing _ _) fun bundle member => ?_
      have linked := coherent.linked bundle member
      simp only [changing]
      split
      · next chosen =>
        right
        simp only [Bool.and_eq_true, beq_iff_eq] at chosen
        have provisioning := (coherent.matching bundle member).provisioning chosen.2
        exact
          { open_ := provisioning.not_terminal
            linked := ⟨linked.route, linked.lease, linked.grant⟩
            matching := .inl ⟨provisioning.session, provisioning.route, provisioning.lease,
              provisioning.inactive, provisioning.unrevoked⟩
            sessionId := rfl
            routeId := rfl }
      · exact .inl rfl
    · exact .inl refused

theorem touchGrantIfDue_continues (coherent : Coherent store bundles)
    (environment : MediaEnvironment) (due grantId : Bytes) (minimumIntervalSeconds : Int) :
    Continues bundles
      (touchGrantIfDue environment due grantId minimumIntervalSeconds store).2 := by
  unfold touchGrantIfDue
  split
  · exact coherent.continues
  · split
    · exact coherent.continues
    · refine coherent.continues_grants (changing _ _) fun bundle member => ?_
      have linked := coherent.linked bundle member
      simp only [changing]
      split
      · next chosen =>
        right
        simp only [Bool.and_eq_true] at chosen
        have active := chosen.1.1.1.2
        obtain provisioning | ready | ended := coherent.matching bundle member
        · rw [provisioning.inactive] at active
          cases active
        · exact
            { open_ := ready.not_terminal
              linked := ⟨linked.route, linked.lease, linked.grant⟩
              matching := .inr (.inl ⟨ready.session, ready.route, ready.lease, ready.active,
                ready.unrevoked⟩)
              sessionId := rfl
              routeId := rfl }
        · rw [ended.inactive] at active
          cases active
      · exact .inl rfl

/-! ## Runs -/

theorem bundleTransaction_failed {environment : MediaEnvironment}
    {statements : List (Timestamp → Statement MediaStore)} {store : MediaStore}
    (failed : (bundleTransaction environment statements store).1 = false) :
    (bundleTransaction environment statements store).2 = store := by
  have failing : id false = false := rfl
  exact transaction_failed failing failed

theorem mediaStep_failed (store : MediaStore) (request : MediaEnvironment × MediaCall)
    (failed : (mediaStep store request).2 = false) : (mediaStep store request).1 = store := by
  obtain ⟨environment, call⟩ := request
  cases call with
  | insertProvisioningBundle value =>
    simp only [mediaStep, insertProvisioningBundle] at failed ⊢
    split
    · rfl
    · next valid =>
      rw [if_neg valid] at failed
      exact bundleTransaction_failed failed
  | updateProvisioningPresentationProfile sessionId presentationProfileId =>
    simp only [mediaStep, updateProvisioningPresentationProfile] at failed ⊢
    split
    · rfl
    · next valid =>
      rw [if_neg valid] at failed
      exact committed_failed failed
  | activateBundle sessionId =>
    simp only [mediaStep, activateBundle] at failed ⊢
    split
    · rfl
    · next valid =>
      rw [if_neg valid] at failed
      exact bundleTransaction_failed failed
  | failBundle sessionId reasonCode | endBundle sessionId reasonCode =>
    simp only [mediaStep, failBundle, endBundle, closeBundle] at failed ⊢
    split
    · rfl
    · next valid =>
      rw [if_neg valid] at failed
      exact bundleTransaction_failed failed
  | touchGrantIfDue due grantId minimumIntervalSeconds =>
    simp only [mediaStep, touchGrantIfDue] at failed ⊢
    split
    · rfl
    · next valid =>
      rw [if_neg valid] at failed
      split
      · rfl
      · next carriedOut =>
        rw [if_neg carriedOut] at failed
        cases failed
  | recoverNonTerminalBundles => exact bundleTransaction_failed failed

theorem mediaStep_continues (coherent : Coherent store bundles)
    (request : MediaEnvironment × MediaCall) : Continues bundles (mediaStep store request).1 := by
  obtain ⟨environment, call⟩ := request
  have unchanged : ∀ {outcome : Bool × MediaStore}, outcome = (false, store) ∨
      Continues bundles outcome.2 → Continues bundles outcome.2 := by
    rintro outcome (rfl | continued)
    · exact coherent.continues
    · exact continued
  cases call with
  | insertProvisioningBundle value =>
    refine unchanged ((insertProvisioningBundle_cases coherent environment value).imp_right ?_)
    exact fun next => ⟨_, next, fun bundle member _ => List.mem_append_left _ member⟩
  | updateProvisioningPresentationProfile sessionId presentationProfileId =>
    exact unchanged (updateProvisioningPresentationProfile_cases coherent environment sessionId
      presentationProfileId)
  | activateBundle sessionId =>
    exact unchanged (activateBundle_cases coherent environment sessionId)
  | failBundle sessionId reasonCode =>
    exact unchanged (closeBundle_cases coherent rfl environment sessionId reasonCode)
  | endBundle sessionId reasonCode =>
    exact unchanged (closeBundle_cases coherent rfl environment sessionId reasonCode)
  | touchGrantIfDue due grantId minimumIntervalSeconds =>
    exact touchGrantIfDue_continues coherent environment due grantId minimumIntervalSeconds
  | recoverNonTerminalBundles =>
    refine unchanged ((recoverNonTerminalBundles_cases coherent environment).imp_right ?_)
    exact fun ⟨after, follows, _⟩ => ⟨after, follows⟩

theorem final_continues (coherent : Coherent store bundles)
    (requests : List (MediaEnvironment × MediaCall)) :
    Continues bundles (Run.final mediaStep store requests) := by
  induction requests generalizing store bundles with
  | nil => exact coherent.continues
  | cons request rest ih =>
    obtain ⟨middle, first⟩ := mediaStep_continues coherent request
    obtain ⟨after, second⟩ := ih first.coherent
    exact ⟨after, second.coherent, fun bundle member ended =>
      second.ended bundle (first.ended bundle member ended) ended⟩

/-! ## Active leases -/

theorem Bundle.Matching.ready {bundle : Bundle} (matching : bundle.Matching)
    (state : playing bundle.session.state = true) : bundle.Ready := by
  rcases matching with provisioning | ready | ended
  · rw [provisioning.session] at state
    cases state
  · exact ready
  · rcases (finished_iff _).mp ended.session with closed | closed
    · rw [closed] at state
      cases state
    · rw [closed] at state
      cases state

theorem findActive_ready (coherent : Coherent store bundles) {environment : MediaEnvironment}
    {sessionId routeId : Bytes} {routeEpoch : Int} {lease : ActiveMediaRouteLease}
    (found : findActive environment sessionId routeId routeEpoch store = some lease) :
    ∃ bundle ∈ bundles, bundle.Ready ∧ bundle.session.sessionId = sessionId ∧
      bundle.route.routeId = routeId ∧ bundle.route.routeEpoch = routeEpoch ∧
      lease.leaseId = bundle.lease.leaseId := by
  have selected : lease ∈ activeRouteLeases store sessionId routeId routeEpoch := by
    unfold findActive at found
    split at found
    · cases found
    · split at found
      · cases found
      · split at found
        · cases found
        · next first _ rows =>
          split at found
          · cases found
          · cases found
            rw [rows]
            exact List.mem_cons_self
  simp only [activeRouteLeases, List.mem_flatMap, List.mem_filterMap] at selected
  obtain ⟨sessionRow, sessionMember, routeRow, routeMember, leaseRow, leaseMember, joined⟩ := selected
  rw [coherent.sessions] at sessionMember
  rw [coherent.routes] at routeMember
  rw [coherent.leases] at leaseMember
  obtain ⟨bundle, member, rfl⟩ := List.mem_map.mp sessionMember
  obtain ⟨byRoute, routeOwner, rfl⟩ := List.mem_map.mp routeMember
  obtain ⟨byLease, leaseOwner, rfl⟩ := List.mem_map.mp leaseMember
  split at joined
  · next conditions =>
    obtain ⟨routeOf, leaseOf, session, route, epoch, state, -, -⟩ := conditions
    have sameRoute : byRoute = bundle := by
      refine coherent.eq_of_sessionId routeOwner member ?_
      rw [← (coherent.linked byRoute routeOwner).route, routeOf]
    have sameLease : byLease = bundle := by
      refine coherent.eq_of_routeId leaseOwner member ?_
      rw [← (coherent.linked byLease leaseOwner).lease, leaseOf, sameRoute]
    subst sameRoute sameLease
    cases joined
    exact ⟨byLease, member, (coherent.matching byLease member).ready state, session, route, epoch,
      rfl⟩
  · cases joined

/-! ## Bundles of a run -/

def storeAfter (requests : List (MediaEnvironment × MediaCall)) : MediaStore :=
  Run.final mediaStep {} requests

def EveryRowInOneBundle (store : MediaStore) : Prop :=
  (∀ session ∈ store.sessions, ∃! bundle, IsBundle store bundle ∧ bundle.session = session) ∧
  (∀ route ∈ store.routes, ∃! bundle, IsBundle store bundle ∧ bundle.route = route) ∧
  (∀ lease ∈ store.leases, ∃! bundle, IsBundle store bundle ∧ bundle.lease = lease) ∧
  ∀ grant ∈ store.grants, ∃! bundle, IsBundle store bundle ∧ bundle.grant = grant

theorem Coherent.everyRowInOneBundle (coherent : Coherent store bundles) :
    EveryRowInOneBundle store := by
  have one : ∀ {Row : Type} (row : Bundle → Row),
      (∀ first ∈ bundles, ∀ second ∈ bundles, row first = row second → first = second) →
      ∀ wanted ∈ bundles.map row, ∃! bundle, IsBundle store bundle ∧ row bundle = wanted := by
    intro Row row same wanted member
    obtain ⟨bundle, present, rfl⟩ := List.mem_map.mp member
    refine ⟨bundle, ⟨(coherent.isBundle_iff bundle).mpr present, rfl⟩, ?_⟩
    rintro other ⟨belongs, equal⟩
    exact same other ((coherent.isBundle_iff other).mp belongs) bundle present equal
  refine ⟨?_, ?_, ?_, ?_⟩
  · intro session member
    refine one Bundle.session ?_ session (coherent.sessions ▸ member)
    intro first firstMember second secondMember same
    exact coherent.eq_of_sessionId firstMember secondMember (congrArg (·.sessionId) same)
  · intro route member
    refine one Bundle.route ?_ route (coherent.routes ▸ member)
    intro first firstMember second secondMember same
    exact coherent.eq_of_routeId firstMember secondMember (congrArg (·.routeId) same)
  · intro lease member
    refine one Bundle.lease ?_ lease (coherent.leases ▸ member)
    intro first firstMember second secondMember same
    refine coherent.eq_of_routeId firstMember secondMember ?_
    rw [← (coherent.linked first firstMember).lease, same, (coherent.linked second secondMember).lease]
  · intro grant member
    refine one Bundle.grant ?_ grant (coherent.grants ▸ member)
    intro first firstMember second secondMember same
    refine coherent.eq_of_sessionId firstMember secondMember ?_
    rw [← (coherent.linked first firstMember).grant, same, (coherent.linked second secondMember).grant]

/-- After any run of calls the rows of every bundle match and a bundle that has ended keeps its rows;
a lease is found for ready bundles only, recovery ends every bundle, and a call that reports a
failure changes no table. -/
theorem media_bundles_stay_matched (earlier later : List (MediaEnvironment × MediaCall)) :
    EveryRowInOneBundle (storeAfter earlier) ∧
    (∀ bundle, IsBundle (storeAfter earlier) bundle → bundle.Matching) ∧
    (∀ bundle, IsBundle (storeAfter earlier) bundle → bundle.Terminal →
      IsBundle (storeAfter (earlier ++ later)) bundle) ∧
    (∀ environment sessionId routeId routeEpoch lease,
      findActive environment sessionId routeId routeEpoch (storeAfter earlier) = some lease →
      ∃ bundle, IsBundle (storeAfter earlier) bundle ∧ bundle.Ready ∧
        bundle.session.sessionId = sessionId ∧ bundle.route.routeId = routeId ∧
        bundle.route.routeEpoch = routeEpoch ∧ lease.leaseId = bundle.lease.leaseId) ∧
    (∀ environment, (recoverNonTerminalBundles environment (storeAfter earlier)).1 = true →
      ∀ bundle, IsBundle (recoverNonTerminalBundles environment (storeAfter earlier)).2 bundle →
        bundle.Terminal) ∧
    ∀ request, (mediaStep (storeAfter earlier) request).2 = false →
      (mediaStep (storeAfter earlier) request).1 = storeAfter earlier := by
  obtain ⟨bundles, reached⟩ := final_continues coherent_nil earlier
  have coherent : Coherent (storeAfter earlier) bundles := reached.coherent
  refine ⟨coherent.everyRowInOneBundle, ?_, ?_, ?_, ?_, ?_⟩
  · intro bundle belongs
    exact coherent.matching bundle ((coherent.isBundle_iff bundle).mp belongs)
  · intro bundle belongs ended
    obtain ⟨after, follows⟩ := final_continues coherent later
    rw [storeAfter, Run.final_append]
    refine (follows.coherent.isBundle_iff bundle).mpr ?_
    exact follows.ended bundle ((coherent.isBundle_iff bundle).mp belongs) ended
  · intro environment sessionId routeId routeEpoch lease found
    obtain ⟨bundle, member, ready⟩ := findActive_ready coherent found
    exact ⟨bundle, (coherent.isBundle_iff bundle).mpr member, ready⟩
  · intro environment succeeded bundle belongs
    rcases recoverNonTerminalBundles_cases coherent environment with refused | ⟨after, follows, ended⟩
    · rw [refused] at succeeded
      cases succeeded
    · exact ended bundle ((follows.coherent.isBundle_iff bundle).mp belongs)
  · exact mediaStep_failed (storeAfter earlier)

end VdrSuite.Media
