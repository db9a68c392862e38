import VdrSuite.Osd.OsdControllerLeaseProperties

/-! Which leases the interleaved calls leave: one owner for each surface, fenced by epochs and
revisions, and when a release or a revocation has really ended its lease. -/

set_option autoImplicit false

namespace VdrSuite.Osd

open Library Library.Interleaving

abbrev LeaseEvent : Type := Event LeaseReply

/-! ## The rule that every call follows -/

def entered (earlier : List LeaseEvent) : Option LeaseCall :=
  match earlier.head? with
  | some ⟨.enter call, _⟩ => some call
  | _ => none

def LeaseCall.ends : LeaseCall → Option Bytes
  | .release request => some request.controllerLeaseId
  | .revoke controllerLeaseId _ => some controllerLeaseId
  | _ => none

def Seen (earlier : List LeaseEvent) (controllerLeaseId : Bytes) (copy : OsdControllerLease) : Prop :=
  ∃ snapshot, ⟨.find controllerLeaseId, some snapshot⟩ ∈ earlier ∧
    (copy = snapshot ∨ ∃ state reason, ⟨.endLease snapshot state reason, copy⟩ ∈ earlier)

def RenewalRule (earlier : List LeaseEvent) (request : OsdControllerRenewRequest) : Prop :=
  ∃ copy, Seen earlier request.controllerLeaseId copy ∧ request.holds copy = true

/-- A release or a revocation that is reported as done has found its lease, and found it ended or
been through an end section. -/
def LeaveRule (earlier : List LeaseEvent) (result : OsdControllerLeaseResult) : Prop :=
  result.accepted = true → ∀ controllerLeaseId,
    (entered earlier).bind LeaseCall.ends = some controllerLeaseId →
    ∃ snapshot, ⟨.find controllerLeaseId, some snapshot⟩ ∈ earlier ∧
      (activeState snapshot.state = false ∨
        ∃ state reason copy, ⟨.endLease snapshot state reason, copy⟩ ∈ earlier)

def LeaseRule (earlier : List LeaseEvent) : LeaseEffect → Prop
  | .endLease snapshot state _ =>
    activeState state = false ∧
    ∃ controllerLeaseId, ⟨.find controllerLeaseId, some snapshot⟩ ∈ earlier
  | .renewLease request _ _ => RenewalRule earlier request
  | .leave result => LeaveRule earlier result
  | _ => True

abbrev Follows {Result : Type} (reached : List LeaseEvent → Result → Prop)
    (earlier : List LeaseEvent) (program : Leasing Result) : Prop :=
  Obeys LeaseRule reached earlier program

/-! ## Every call follows it -/

variable {earlier : List LeaseEvent}

theorem Seen.mono {later : List LeaseEvent} {controllerLeaseId : Bytes} {copy : OsdControllerLease}
    (seen : Seen earlier controllerLeaseId copy) (subset : earlier ⊆ later) :
    Seen later controllerLeaseId copy := by
  obtain ⟨snapshot, found, same | ⟨state, reason, ended⟩⟩ := seen
  · exact ⟨snapshot, subset found, .inl same⟩
  · exact ⟨snapshot, subset found, .inr ⟨state, reason, subset ended⟩⟩

theorem authorizeControl_follows (actorId backendId : Bytes) :
    Follows (fun _ _ => True) earlier (authorizeControl actorId backendId) := by
  refine obeys_request_bind trivial fun context => ?_
  dsimp only
  split
  · trivial
  · refine obeys_request_bind trivial fun (policy : Option BackendAccessDecision) => ?_
    cases policy with
    | none => trivial
    | some policy =>
      dsimp only
      split
      · trivial
      · split
        · trivial
        · trivial

theorem resolveViewScope_follows (holder : OsdControllerHolder) (now : Int) :
    Follows (fun _ _ => True) earlier (resolveViewScope holder now) := by
  refine obeys_request_bind trivial fun result => ?_
  split
  · trivial
  · dsimp only
    split
    · trivial
    · refine obeys_request_bind trivial fun (found : Option OsdViewerBinding) => ?_
      cases found with
      | none => trivial
      | some binding =>
        dsimp only
        split
        · trivial
        · trivial

theorem endFound_follows {controllerLeaseId : Bytes} {lease : OsdControllerLease}
    (found : ⟨.find controllerLeaseId, some lease⟩ ∈ earlier) {state : OsdControllerLeaseState}
    (terminal : activeState state = false) (reason : Bytes) :
    Follows (fun events refreshed => ∀ copy, refreshed = some copy → Seen events controllerLeaseId copy)
      earlier (do
        let final ← Leasing.endLease lease state reason
        pure (some final)) := by
  refine obeys_request_bind ⟨terminal, controllerLeaseId, found⟩ fun final => ?_
  rintro copy ⟨⟩
  exact ⟨lease, List.mem_append_left _ found, .inr ⟨state, reason, List.mem_append_right _
    List.mem_cons_self⟩⟩

theorem refreshLease_follows (controllerLeaseId : Bytes) (now : Int) :
    Follows (fun events refreshed => ∀ copy, refreshed = some copy → Seen events controllerLeaseId copy)
      earlier (refreshLease controllerLeaseId now) := by
  refine obeys_request_bind trivial fun (stored : Option OsdControllerLease) => ?_
  cases stored with
  | none => exact nofun
  | some lease =>
    have found : (⟨.find controllerLeaseId, some lease⟩ : LeaseEvent) ∈
        earlier ++ [⟨.find controllerLeaseId, some lease⟩] :=
      List.mem_append_right _ List.mem_cons_self
    have same {events : List LeaseEvent}
        (present : ⟨.find controllerLeaseId, some lease⟩ ∈ events) :
        ∀ copy, some lease = some copy → Seen events controllerLeaseId copy := by
      rintro copy ⟨⟩
      exact ⟨lease, present, .inl rfl⟩
    dsimp only
    split
    · exact same found
    · split
      · exact endFound_follows found rfl _
      · refine obeys_bind (authorizeControl_follows _ _).extends ?_
        rintro events refusal ⟨-, further⟩
        have found := further.subset found
        cases refusal with
        | some error => exact endFound_follows found rfl _
        | none =>
          refine obeys_bind (resolveViewScope_follows _ _).extends ?_
          rintro events resolved ⟨-, further⟩
          have found := further.subset found
          cases resolved with
          | error error => exact endFound_follows found rfl _
          | ok scope =>
            dsimp only
            split
            · exact endFound_follows found rfl _
            · exact same found

theorem acquire_follows (request : OsdControllerAcquireRequest) :
    Follows (fun _ _ => True) earlier (acquire request) := by
  unfold acquire
  split
  · trivial
  · refine obeys_request_bind trivial fun now => ?_
    split
    · trivial
    · refine obeys_bind (authorizeControl_follows _ _) ?_
      rintro events (none | error) -
      · refine obeys_bind (resolveViewScope_follows _ _) ?_
        rintro events (error | scope) -
        · trivial
        · refine obeys_request_bind trivial fun controllerLeaseId => ?_
          split
          · trivial
          · exact ⟨trivial, fun _ => trivial⟩
      · trivial

theorem renewalError_eq_none {request : OsdControllerRenewRequest} {lease : OsdControllerLease}
    {now : Int} (accepted : renewalError request lease now = none) : request.holds lease = true := by
  unfold renewalError at accepted
  split at accepted
  · cases accepted
  · next held => exact Bool.not_eq_false _ ▸ held

theorem renew_follows (request : OsdControllerRenewRequest) :
    Follows (fun _ _ => True) earlier (renew request) := by
  unfold renew
  split
  · trivial
  · refine obeys_request_bind trivial fun now => ?_
    split
    · trivial
    · refine obeys_bind (refreshLease_follows _ _) ?_
      rintro events (none | lease) seen
      · trivial
      · dsimp only
        split
        · trivial
        · next accepted =>
          refine obeys_bind (resolveViewScope_follows _ _).extends ?_
          rintro events (error | scope) ⟨-, further⟩
          · trivial
          · exact ⟨⟨lease, (seen lease rfl).mono further.subset, renewalError_eq_none accepted⟩,
              fun _ => trivial⟩

theorem currentLease_follows (request : OsdControllerStatusRequest) (observedKey : Bytes) (now : Int) :
    Follows (fun _ _ => True) earlier (currentLease request observedKey now) := by
  refine obeys_bind (resolveViewScope_follows _ _) ?_
  rintro events (error | scope) -
  · trivial
  · dsimp only
    split
    · trivial
    · refine obeys_request_bind trivial fun (owner : Option Bytes) => ?_
      cases owner with
      | none => trivial
      | some controllerLeaseId =>
        refine obeys_bind (refreshLease_follows _ _) ?_
        rintro events (none | lease) -
        · trivial
        · dsimp only
          split
          · trivial
          · trivial

theorem current_follows (request : OsdControllerStatusRequest) :
    Follows (fun _ _ => True) earlier (current request) := by
  unfold current
  split
  · trivial
  · refine obeys_request_bind trivial fun now => ?_
    split
    · trivial
    · refine obeys_request_bind trivial fun _ => ?_
      refine obeys_request_bind trivial fun (found : Option OsdViewerBinding) => ?_
      cases found with
      | none => trivial
      | some binding =>
        dsimp only
        split
        · trivial
        · refine obeys_request_bind trivial fun owner => ?_
          split
          · exact currentLease_follows _ _ _
          · refine obeys_bind (refreshLease_follows _ _) ?_
            intro events refreshed _
            exact currentLease_follows _ _ _

def EndReported (controllerLeaseId : Bytes) (events : List LeaseEvent)
    (result : OsdControllerLeaseResult) : Prop :=
  result.accepted = true → ∃ snapshot, ⟨.find controllerLeaseId, some snapshot⟩ ∈ events ∧
    (activeState snapshot.state = false ∨
      ∃ state reason copy, ⟨.endLease snapshot state reason, copy⟩ ∈ events)

theorem finishLease_follows {controllerLeaseId : Bytes} {lease : OsdControllerLease}
    (found : ⟨.find controllerLeaseId, some lease⟩ ∈ earlier) {state : OsdControllerLeaseState}
    (terminal : activeState state = false) (reason : Bytes) :
    Follows (EndReported controllerLeaseId) earlier (finishLease lease state reason) := by
  unfold finishLease
  split
  · refine obeys_request_bind ⟨terminal, controllerLeaseId, found⟩ fun final => ?_
    intro _
    exact ⟨lease, List.mem_append_left _ found, .inr ⟨state, reason, final,
      List.mem_append_right _ List.mem_cons_self⟩⟩
  · next inactive =>
    intro _
    exact ⟨lease, found, .inl (Bool.not_eq_true _ ▸ inactive)⟩

theorem release_follows (request : OsdControllerReleaseRequest) :
    Follows (EndReported request.controllerLeaseId) earlier (release request) := by
  unfold release
  split
  · exact nofun
  · refine obeys_request_bind trivial fun (stored : Option OsdControllerLease) => ?_
    cases stored with
    | none => exact nofun
    | some lease =>
      dsimp only
      split
      · exact nofun
      · split
        · exact nofun
        · exact finishLease_follows (List.mem_append_right _ List.mem_cons_self) rfl _

theorem revoke_follows (controllerLeaseId reason : Bytes) :
    Follows (EndReported controllerLeaseId) earlier (revoke controllerLeaseId reason) := by
  unfold revoke
  split
  · exact nofun
  · refine obeys_request_bind trivial fun (stored : Option OsdControllerLease) => ?_
    cases stored with
    | none => exact nofun
    | some lease =>
      exact finishLease_follows (List.mem_append_right _ List.mem_cons_self) rfl _

theorem entered_of_extends {call : LeaseCall} {events : List LeaseEvent}
    (further : [(⟨.enter call, ()⟩ : LeaseEvent)] <+: events) : entered events = some call := by
  obtain ⟨rest, rfl⟩ := further
  rfl

theorem answerCall_follows (call : LeaseCall) :
    Follows LeaveRule [⟨.enter call, ()⟩] (answerCall call) := by
  have silent (none : call.ends = none) (obeys : Follows (fun _ _ => True)
      [⟨.enter call, ()⟩] (answerCall call)) : Follows LeaveRule [⟨.enter call, ()⟩]
        (answerCall call) := by
    refine obeys.extends.mono ?_
    rintro events result ⟨-, further⟩ - controllerLeaseId ends
    rw [entered_of_extends further, Option.bind_some, none] at ends
    cases ends
  have reporting {controllerLeaseId : Bytes} (some : call.ends = some controllerLeaseId)
      (obeys : Follows (EndReported controllerLeaseId) [⟨.enter call, ()⟩] (answerCall call)) :
      Follows LeaveRule [⟨.enter call, ()⟩] (answerCall call) := by
    refine obeys.extends.mono ?_
    rintro events result ⟨reported, further⟩ accepted other ends
    rw [entered_of_extends further, Option.bind_some, some] at ends
    cases ends
    exact reported accepted
  cases call with
  | acquire request => exact silent rfl (acquire_follows request)
  | renew request => exact silent rfl (renew_follows request)
  | release request => exact reporting rfl (release_follows request)
  | current request => exact silent rfl (current_follows request)
  | revoke controllerLeaseId reason => exact reporting rfl (revoke_follows controllerLeaseId reason)

theorem serve_follows (call : LeaseCall) : Follows (fun _ _ => True) [] (serve call) := by
  refine obeys_request_bind trivial fun _ => ?_
  refine obeys_bind (answerCall_follows call) ?_
  intro events result reported
  exact ⟨reported, fun _ => trivial⟩

/-! ## When a step is admitted -/

def reportsEnd (earlier : List LeaseEvent) : Bool :=
  ((entered earlier).bind LeaseCall.ends).isSome

/-- What a section must meet: an acquisition a fresh lease, a renewal the scope that it was resolved
for, and the end section of a release or a revocation the revision that it has found. -/
def sectionAdmitted (answers : Answers) (earlier : List LeaseEvent) (store : LeaseStore) :
    LeaseEffect → Bool
  | .acquireSurface request scope now controllerLeaseId =>
    FreshLease answers.walk (scope.surfaceKey request.backendId) controllerLeaseId now store
  | .renewLease request scope _ =>
    (store.lease request.controllerLeaseId).all fun lease =>
      lease.leaseRevision != request.leaseRevision ||
      lease.controllerLeaseEpoch != request.controllerLeaseEpoch ||
      !activeState lease.state || scope.surfaceKey request.backendId == lease.surfaceKey
  | .endLease snapshot _ _ =>
    !reportsEnd earlier || (store.lease snapshot.controllerLeaseId).all fun lease =>
      !activeState lease.state || lease.leaseRevision == snapshot.leaseRevision
  | _ => true

def LeaseAdmitted (system : LeaseSystem) : LeaseMove → Prop
  | .call _ => True
  | .advance thread answers =>
    match system.processes[thread]? with
    | some ⟨earlier, .perform effect _⟩ =>
      sectionAdmitted answers earlier system.state effect = true
    | _ => True

instance (system : LeaseSystem) (move : LeaseMove) : Decidable (LeaseAdmitted system move) := by
  unfold LeaseAdmitted
  split
  · infer_instance
  · split
    · infer_instance
    · infer_instance

/-! ## What a thread knows of the leases -/

/-- What a thread has seen is a granted lease at that time, or a lease that is gone. -/
structure Knows (store : LeaseStore) (earlier : List LeaseEvent) : Prop where
  found : ∀ controllerLeaseId snapshot, ⟨.find controllerLeaseId, some snapshot⟩ ∈ earlier →
    snapshot.controllerLeaseId = controllerLeaseId ∧
    (∃ grant ∈ store.granted, grant.controllerLeaseId = controllerLeaseId) ∧
    Succeeds (some snapshot) (store.lease controllerLeaseId)
  ended : ∀ snapshot state reason copy, ⟨.endLease snapshot state reason, copy⟩ ∈ earlier →
    (∃ grant ∈ store.granted, grant.controllerLeaseId = snapshot.controllerLeaseId) ∧
    (store.lease snapshot.controllerLeaseId = none ∨
      Succeeds (some copy) (store.lease snapshot.controllerLeaseId))

theorem succeeds_none_or {found : OsdControllerLease} {before after : Option OsdControllerLease}
    (later : Succeeds before after) (known : before = none ∨ Succeeds (some found) before) :
    after = none ∨ Succeeds (some found) after := by
  rcases known with rfl | known
  · exact .inl later
  · exact .inr (known.trans later)

theorem Knows.stable {before after : LeaseStore} (keeps : Keeps before after)
    (knows : Knows before earlier) : Knows after earlier where
  found := by
    intro controllerLeaseId snapshot member
    obtain ⟨named, ⟨grant, granted, sameId⟩, succeeds⟩ := knows.found controllerLeaseId snapshot member
    refine ⟨named, ⟨grant, keeps.granted.subset granted, sameId⟩, succeeds.trans ?_⟩
    exact sameId ▸ keeps.leases grant granted
  ended := by
    intro snapshot state reason copy member
    obtain ⟨⟨grant, granted, sameId⟩, known⟩ := knows.ended snapshot state reason copy member
    refine ⟨⟨grant, keeps.granted.subset granted, sameId⟩, succeeds_none_or ?_ known⟩
    exact sameId ▸ keeps.leases grant granted

def Fresh (answers : Answers) (effect : LeaseEffect) (store : LeaseStore) : Prop :=
  match effect with
  | .acquireSurface request scope now controllerLeaseId =>
    FreshLease answers.walk (scope.surfaceKey request.backendId) controllerLeaseId now store = true
  | _ => True

theorem perform_keeps {store : LeaseStore} (valid : LeaseValid store) {answers : Answers}
    {effect : LeaseEffect} (rule : LeaseRule earlier effect) (fresh : Fresh answers effect store) :
    LeaseValid (perform answers effect store).2 ∧ Keeps store (perform answers effect store).2 := by
  cases effect with
  | endLease snapshot state reason =>
    refine ⟨endLease_valid valid rule.1 snapshot reason, ?_, fun grant _ =>
      endLease_succeeds snapshot state reason _⟩
    have same : (perform answers (.endLease snapshot state reason) store).2.granted =
        store.granted := endLease_granted snapshot state reason
    exact same ▸ List.prefix_refl _
  | reap now =>
    exact ⟨reapExpired_valid valid now, List.prefix_refl _, fun grant _ => reapExpired_succeeds now _⟩
  | acquireSurface request scope now controllerLeaseId => exact acquireSurface_keeps valid fresh
  | renewLease request scope now =>
    refine ⟨renewLease_valid valid request scope now, ?_, fun grant _ =>
      renewLease_succeeds request scope now _⟩
    have same : (perform answers (.renewLease request scope now) store).2.granted =
        store.granted := renewLease_granted request scope now
    exact same ▸ List.prefix_refl _
  | enter | leave | now | context | backendPolicy | sessionStatus | viewer | newLeaseId | find
  | owner => exact ⟨valid, Keeps.refl store⟩

theorem perform_found {store : LeaseStore} (valid : LeaseValid store) {controllerLeaseId : Bytes}
    {snapshot : OsdControllerLease} (found : store.lease controllerLeaseId = some snapshot) :
    snapshot.controllerLeaseId = controllerLeaseId ∧
    (∃ grant ∈ store.granted, grant.controllerLeaseId = controllerLeaseId) ∧
    Succeeds (some snapshot) (store.lease controllerLeaseId) :=
  ⟨lease_id found, valid.lease_granted found, found ▸ Succeeds.refl _⟩

theorem lease_ended {store : LeaseStore} {controllerLeaseId : Bytes} {found : OsdControllerLease}
    (present : store.lease controllerLeaseId = some found) (state : OsdControllerLeaseState)
    (reason : Bytes) :
    ((store.removeOwner found).setLease (ended found state reason)).lease controllerLeaseId =
      some (ended found state reason) :=
  (lease_setLease _ _).trans (if_pos (lease_id present))

theorem endLease_returned (snapshot : OsdControllerLease) (state : OsdControllerLeaseState)
    (reason : Bytes) (store : LeaseStore) :
    (endLease snapshot state reason store).2.lease snapshot.controllerLeaseId = none ∨
      Succeeds (some (endLease snapshot state reason store).1)
        ((endLease snapshot state reason store).2.lease snapshot.controllerLeaseId) := by
  rcases endLease_cases snapshot state reason store with
    ⟨gone, same⟩ | ⟨found, present, ⟨same, -⟩ | ⟨active, changed⟩⟩
  · rw [same]
    exact .inl gone
  · rw [same, present]
    exact .inr (Succeeds.refl _)
  · rw [changed, lease_ended present]
    exact .inr (Succeeds.refl _)

theorem leaseDiscipline :
    Discipline perform Empty.elim LeaseRule Fresh (fun _ _ => True) LeaseValid Keeps Knows where
  empty := fun _ _ => ⟨fun _ _ member => absurd member List.not_mem_nil,
    fun _ _ _ _ member => absurd member List.not_mem_nil⟩
  performed := by
    intro answers effect store earlier valid knows rule fresh
    obtain ⟨nextValid, keeps⟩ := perform_keeps valid rule fresh
    have stable := knows.stable keeps
    refine ⟨nextValid, keeps, ?_, ?_⟩
    · intro controllerLeaseId snapshot member
      rcases List.mem_append.mp member with old | last
      · exact stable.found controllerLeaseId snapshot old
      · cases effect
        case find wanted =>
          obtain ⟨sameEffect, found⟩ := Sigma.mk.inj_iff.mp (List.mem_singleton.mp last)
          cases sameEffect
          exact perform_found valid (eq_of_heq found).symm
        all_goals cases List.mem_singleton.mp last
    · intro snapshot state reason copy member
      rcases List.mem_append.mp member with old | last
      · exact stable.ended snapshot state reason copy old
      · cases effect
        case endLease copied copiedState copiedReason =>
          obtain ⟨sameEffect, returned⟩ := Sigma.mk.inj_iff.mp (List.mem_singleton.mp last)
          cases sameEffect
          obtain ⟨-, controllerLeaseId, found⟩ := rule
          obtain ⟨named, granted, -⟩ := stable.found controllerLeaseId snapshot found
          subst named
          exact ⟨granted, eq_of_heq returned ▸ endLease_returned snapshot state reason store⟩
        all_goals cases List.mem_singleton.mp last
  changed := fun change => change.elim
  stable := fun _ _ _ _ keeps knows => knows.stable keeps

/-! ## Runs -/

variable {moves : List LeaseMove}

abbrev LeaseSound (system : LeaseSystem) : Prop := Sound LeaseRule LeaseValid Knows system

abbrev LeasesAdmitted (start : LeaseSystem) (moves : List LeaseMove) : Prop :=
  Run.Admits leaseStep LeaseAdmitted start moves

def leasesAfter (moves : List LeaseMove) : LeaseStore := (Run.final leaseStep started moves).state

theorem leaseStep_admitted {system : LeaseSystem} {move : LeaseMove}
    (admitted : LeaseAdmitted system move) :
    MoveAdmitted LeaseRule Fresh (fun _ _ => True) system move.toMove := by
  cases move with
  | call entered => exact serve_follows entered
  | advance thread answers =>
    intro earlier effect next found
    simp only [LeaseAdmitted, found] at admitted
    cases effect with
    | acquireSurface request scope now controllerLeaseId => exact admitted
    | _ => trivial

theorem leaseStep_sound {system : LeaseSystem} (sound : LeaseSound system) {move : LeaseMove}
    (admitted : LeaseAdmitted system move) : LeaseSound (leaseStep system move).1 :=
  leaseDiscipline.step sound (leaseStep_admitted admitted)

theorem leaseStep_keeps {system : LeaseSystem} (sound : LeaseSound system) {move : LeaseMove}
    (admitted : LeaseAdmitted system move) :
    Keeps system.state (leaseStep system move).1.state :=
  leaseDiscipline.related Keeps.refl sound (leaseStep_admitted admitted)

theorem leaseValid_empty : LeaseValid {} where
  keyed := List.nodup_nil
  owned := fun _ member => absurd member List.not_mem_nil
  recorded := fun _ member => absurd member List.not_mem_nil
  epochs := fun _ member => absurd member List.not_mem_nil
  ordered := List.Pairwise.nil

theorem final_sound (admitted : LeasesAdmitted started moves) :
    LeaseSound (Run.final leaseStep started moves) :=
  Run.final_preserves_of_admits leaseStep LeaseSound
    (fun _ _ sound admitted => leaseStep_sound sound admitted)
    ⟨leaseValid_empty, fun _ member => absurd member List.not_mem_nil,
      fun _ member => absurd member List.not_mem_nil⟩ admitted

theorem final_keeps {start : LeaseSystem} (sound : LeaseSound start)
    (admitted : LeasesAdmitted start moves) :
    Keeps start.state (Run.final leaseStep start moves).state := by
  induction moves generalizing start with
  | nil => exact Keeps.refl _
  | cons move rest ih =>
    exact (leaseStep_keeps sound admitted.1).trans
      (ih (leaseStep_sound sound admitted.1) admitted.2)

theorem leasesAfter_keeps {before middle after : List LeaseMove}
    (admitted : LeasesAdmitted started (before ++ middle ++ after)) :
    Keeps (leasesAfter before) (leasesAfter (before ++ middle)) := by
  unfold leasesAfter
  rw [Run.final_append]
  obtain ⟨both, -⟩ := (Run.admits_append leaseStep).mp admitted
  obtain ⟨first, second⟩ := (Run.admits_append leaseStep).mp both
  exact final_keeps (final_sound first) second

theorem leasesAfter_valid {before after : List LeaseMove}
    (admitted : LeasesAdmitted started (before ++ after)) : LeaseValid (leasesAfter before) :=
  (final_sound ((Run.admits_append leaseStep).mp admitted).1).valid

theorem leasesAfter_succeeds {before middle after : List LeaseMove}
    (admitted : LeasesAdmitted started (before ++ middle ++ after)) {controllerLeaseId : Bytes}
    {lease : OsdControllerLease} (found : (leasesAfter before).lease controllerLeaseId = some lease) :
    Succeeds (some lease) ((leasesAfter (before ++ middle)).lease controllerLeaseId) := by
  have valid := leasesAfter_valid (List.append_assoc before middle after ▸ admitted)
  obtain ⟨grant, member, named⟩ := valid.lease_granted found
  have succeeds := (leasesAfter_keeps admitted).leases grant member
  rw [named, found] at succeeds
  exact succeeds

/-! ## Leases that have ended -/

def HasEnded (store : LeaseStore) (controllerLeaseId : Bytes) : Prop :=
  (∃ grant ∈ store.granted, grant.controllerLeaseId = controllerLeaseId) ∧
    ∀ lease, store.lease controllerLeaseId = some lease → activeState lease.state = false

theorem HasEnded.stable {before after : LeaseStore} (keeps : Keeps before after)
    {controllerLeaseId : Bytes} (ended : HasEnded before controllerLeaseId) :
    HasEnded after controllerLeaseId := by
  obtain ⟨⟨grant, granted, rfl⟩, inactive⟩ := ended
  refine ⟨⟨grant, keeps.granted.subset granted, rfl⟩, ?_⟩
  have succeeds := keeps.leases grant granted
  intro later found
  cases present : before.lease grant.controllerLeaseId with
  | none =>
    rw [present] at succeeds
    have gone : after.lease grant.controllerLeaseId = none := succeeds
    rw [gone] at found
    cases found
  | some lease =>
    rw [present] at succeeds
    rcases (succeeds later found).revised with rfl | ⟨active, -⟩
    · exact inactive later present
    · rw [inactive lease present] at active
      cases active

theorem Knows.hasEnded {store : LeaseStore} (knows : Knows store earlier) {controllerLeaseId : Bytes}
    {snapshot : OsdControllerLease} (found : ⟨.find controllerLeaseId, some snapshot⟩ ∈ earlier)
    (inactive : activeState snapshot.state = false) : HasEnded store controllerLeaseId := by
  obtain ⟨-, granted, succeeds⟩ := knows.found controllerLeaseId snapshot found
  refine ⟨granted, fun lease present => ?_⟩
  rcases (succeeds lease present).revised with rfl | ⟨active, -⟩
  · exact inactive
  · rw [inactive] at active
    cases active

/-- An end section that meets the revision it was given ends the lease, unless it has ended. -/
theorem endLease_hasEnded {store : LeaseStore} {snapshot : OsdControllerLease}
    (granted : ∃ grant ∈ store.granted, grant.controllerLeaseId = snapshot.controllerLeaseId)
    {state : OsdControllerLeaseState} (terminal : activeState state = false) (reason : Bytes)
    (current : (store.lease snapshot.controllerLeaseId).all (fun lease =>
      !activeState lease.state || lease.leaseRevision == snapshot.leaseRevision) = true) :
    HasEnded (endLease snapshot state reason store).2 snapshot.controllerLeaseId := by
  refine ⟨(show (endLease snapshot state reason store).2.granted = store.granted from
    endLease_granted snapshot state reason).symm ▸ granted, ?_⟩
  rcases endLease_cases snapshot state reason store with
    ⟨gone, same⟩ | ⟨found, present, ⟨same, stale⟩ | ⟨-, changed⟩⟩
  · rw [same, gone]
    exact nofun
  · rw [same, present]
    rintro lease ⟨⟩
    rw [present, Option.all_some, Bool.or_eq_true, Bool.not_eq_true', beq_iff_eq] at current
    rcases stale with revised | inactive
    · exact current.resolve_right revised
    · exact inactive
  · rw [changed, lease_ended present]
    rintro lease ⟨⟩
    exact activeState_ended found reason terminal

theorem perform_erased {store : LeaseStore} (valid : LeaseValid store) {answers : Answers}
    {effect : LeaseEffect} (fresh : Fresh answers effect store) {controllerLeaseId : Bytes}
    {lease : OsdControllerLease} (found : store.lease controllerLeaseId = some lease)
    (gone : (perform answers effect store).2.lease controllerLeaseId = none) :
    ∃ request scope now newId, effect = .acquireSurface request scope now newId ∧
      (activeState lease.state = false ∨ lease.expiresAt ≤ now) := by
  have replaced {owners : List (Bytes × Bytes)} {changed : OsdControllerLease}
      (erased : (({ store with surfaceOwners := owners } : LeaseStore).setLease changed).lease
        controllerLeaseId = none) : False := by
    rw [lease_setLease] at erased
    split at erased
    · cases erased
    · cases found.symm.trans erased
  cases effect with
  | endLease snapshot state reason =>
    change (endLease snapshot state reason store).2.lease _ = none at gone
    rcases endLease_cases snapshot state reason store with
      ⟨-, same⟩ | ⟨other, -, ⟨same, -⟩ | ⟨-, changed⟩⟩
    · rw [same] at gone
      cases found.symm.trans gone
    · rw [same] at gone
      cases found.symm.trans gone
    · rw [changed] at gone
      exact (replaced gone).elim
  | reap now =>
    have reaped : (reapExpired now store).lease controllerLeaseId = none := gone
    rw [lease_reapExpired, found] at reaped
    cases reaped
  | acquireSurface request scope now newId =>
    refine ⟨request, scope, now, newId, rfl, ?_⟩
    by_contra alive
    rw [not_or, Bool.not_eq_false] at alive
    have unexpired : expiredAt now lease = false := by
      rw [expiredAt, alive.1, Bool.true_and, decide_eq_false alive.2]
    have kept := acquireSurface_live valid answers.walk request scope now newId
      (lease_mem found) alive.1 unexpired
    have present := (acquireSurface_keeps valid fresh).1.lease_of_mem kept
    rw [lease_id found] at present
    cases present.symm.trans gone
  | renewLease request scope now =>
    change (renewLease request scope now store).2.lease _ = none at gone
    rcases renewLease_cases request scope now store with
      ⟨-, same⟩ | ⟨other, -, -, -, -, ⟨changed, -, after, -, -⟩ | renewed⟩
    · rw [same] at gone
      cases found.symm.trans gone
    · rw [after] at gone
      exact (replaced gone).elim
    · rw [renewed] at gone
      exact (@replaced store.surfaceOwners _ gone).elim
  | enter | leave | now | context | backendPolicy | sessionStatus | viewer | newLeaseId | find
  | owner => cases found.symm.trans gone

/-- A renewal is for the holder of the lease: the copy that it went by has the lease's identity. -/
theorem Knows.holds {store : LeaseStore} (knows : Knows store earlier)
    {request : OsdControllerRenewRequest} (rule : RenewalRule earlier request)
    {lease : OsdControllerLease} (found : store.lease request.controllerLeaseId = some lease) :
    request.holds lease = true := by
  obtain ⟨copy, ⟨snapshot, snapshotFound, origin⟩, held⟩ := rule
  obtain ⟨named, -, known⟩ := knows.found _ snapshot snapshotFound
  have successor : Successor copy lease := by
    rcases origin with rfl | ⟨state, reason, ended⟩
    · exact known lease found
    · rcases (knows.ended snapshot state reason copy ended).2 with gone | later
      · rw [named, found] at gone
        cases gone
      · exact later lease (named ▸ found)
  have same := congrArg request.holds successor.identity
  exact same.trans held

/-! ## What the leases promise -/

def eventAfter (before : List LeaseMove) (move : LeaseMove) : Option LeaseEvent :=
  (leaseStep (Run.final leaseStep started before) move).2

structure ControllerLeases (moves : List LeaseMove) : Prop where
  exclusive : ∀ before after, moves = before ++ after → ∀ lease ∈ (leasesAfter before).leases,
    activeState lease.state = true →
    (leasesAfter before).owner lease.surfaceKey = some lease.controllerLeaseId ∧
      ∀ other ∈ (leasesAfter before).leases, activeState other.state = true →
        other.surfaceKey = lease.surfaceKey → other = lease
  terminal : ∀ before middle after, moves = before ++ middle ++ after →
    ∀ controllerLeaseId lease, (leasesAfter before).lease controllerLeaseId = some lease →
      activeState lease.state = false →
      (leasesAfter (before ++ middle)).lease controllerLeaseId = none ∨
        (leasesAfter (before ++ middle)).lease controllerLeaseId = some lease
  revisions : ∀ before middle after, moves = before ++ middle ++ after →
    ∀ controllerLeaseId lease later, (leasesAfter before).lease controllerLeaseId = some lease →
      (leasesAfter (before ++ middle)).lease controllerLeaseId = some later →
      later = lease ∨ lease.leaseRevision < later.leaseRevision
  gone : ∀ before middle after, moves = before ++ middle ++ after →
    ∀ grant ∈ (leasesAfter before).granted,
      (leasesAfter before).lease grant.controllerLeaseId = none →
      (leasesAfter (before ++ middle)).lease grant.controllerLeaseId = none
  erased : ∀ before move after, moves = before ++ move :: after → ∀ controllerLeaseId lease,
    (leasesAfter before).lease controllerLeaseId = some lease →
    (leasesAfter (before ++ [move])).lease controllerLeaseId = none →
    activeState lease.state = false ∨ ∃ request scope now newId result,
      eventAfter before move = some ⟨.acquireSurface request scope now newId, result⟩ ∧
        lease.expiresAt ≤ now
  recorded : ∀ before after, moves = before ++ after → ∀ lease ∈ (leasesAfter before).leases,
    ∃ grant ∈ (leasesAfter before).granted, identity lease = identity grant
  acquired : ∀ before move after request scope now newId result, moves = before ++ move :: after →
    eventAfter before move = some ⟨.acquireSurface request scope now newId, result⟩ →
    (leasesAfter (before ++ [move])).granted = (leasesAfter before).granted ++ grantOf result
  epochs : (leasesAfter moves).granted.Pairwise fun earlier later =>
    earlier.surfaceKey = later.surfaceKey → earlier.controllerLeaseEpoch < later.controllerLeaseEpoch
  renewed : ∀ before move after request scope now result, moves = before ++ move :: after →
    eventAfter before move = some ⟨.renewLease request scope now, result⟩ →
    OsdControllerLeaseResult.accepted result = true →
    ∃ lease, (leasesAfter before).lease request.controllerLeaseId = some lease ∧
      activeState lease.state = true ∧ request.holds lease = true ∧
      lease.leaseRevision = request.leaseRevision ∧
      lease.controllerLeaseEpoch = request.controllerLeaseEpoch ∧
      scope.surfaceKey request.backendId = lease.surfaceKey
  reported : ∀ before move after result, moves = before ++ move :: after →
    eventAfter before move = some ⟨.leave result, ()⟩ → result.accepted = true →
    ∀ thread answers process controllerLeaseId, move = .advance thread answers →
      (Run.final leaseStep started before).processes[thread]? = some process →
      (entered process.earlier).bind LeaseCall.ends = some controllerLeaseId →
      ∀ lease, (leasesAfter (before ++ [move])).lease controllerLeaseId = some lease →
        activeState lease.state = false

theorem final_append_move (before : List LeaseMove) (move : LeaseMove) :
    Run.final leaseStep started (before ++ [move]) =
      (leaseStep (Run.final leaseStep started before) move).1 :=
  Run.final_concat _ _ _ _

theorem toMove_advance {move : LeaseMove} {thread : Nat} {answers : Answers}
    (advanced : move.toMove = .advance thread answers) : move = .advance thread answers := by
  cases move with
  | call entered => cases advanced
  | advance other others =>
    cases advanced
    rfl

/-- A move of an admitted run that is an event: its thread knows what it has seen, performs an effect
that its rule allows, and the section is admitted. -/
theorem eventAfter_cases {before after : List LeaseMove} {move : LeaseMove}
    (admitted : LeasesAdmitted started (before ++ move :: after)) {event : LeaseEvent}
    (happened : eventAfter before move = some event) :
    ∃ thread answers earlier, move = .advance thread answers ∧
      (∃ next, (Run.final leaseStep started before).processes[thread]? =
        some ⟨earlier, .perform event.1 next⟩) ∧
      Knows (leasesAfter before) earlier ∧ LeaseRule earlier event.1 ∧
      sectionAdmitted answers earlier (leasesAfter before) event.1 = true ∧
      (perform answers event.1 (leasesAfter before)).1 = event.2 ∧
      leasesAfter (before ++ [move]) = (perform answers event.1 (leasesAfter before)).2 := by
  obtain ⟨first, moveAdmitted, -⟩ := (Run.admits_append leaseStep).mp admitted
  have sound := final_sound first
  obtain ⟨thread, answers, earlier, next, advanced, current, replied, stepped⟩ :=
    event_of_step perform Empty.elim happened
  cases toMove_advance advanced
  have member := List.mem_of_getElem? current
  refine ⟨thread, answers, earlier, rfl, ⟨next, current⟩, sound.consistent _ member,
    (sound.obeys _ member).1, ?_, replied, ?_⟩
  · simp only [LeaseAdmitted, current] at moveAdmitted
    exact moveAdmitted
  · unfold leasesAfter
    rw [final_append_move]
    exact congrArg Interleaving.System.state stepped

theorem fresh_of_sectionAdmitted {answers : Answers} {store : LeaseStore} {effect : LeaseEffect}
    (admitted : sectionAdmitted answers earlier store effect = true) : Fresh answers effect store := by
  cases effect with
  | acquireSurface request scope now controllerLeaseId => exact admitted
  | _ => trivial

theorem erased_of_admitted {before after : List LeaseMove} {move : LeaseMove}
    (admitted : LeasesAdmitted started (before ++ move :: after)) {controllerLeaseId : Bytes}
    {lease : OsdControllerLease}
    (found : (leasesAfter before).lease controllerLeaseId = some lease)
    (gone : (leasesAfter (before ++ [move])).lease controllerLeaseId = none) :
    ∃ request scope now newId result,
      eventAfter before move = some ⟨.acquireSurface request scope now newId, result⟩ ∧
      (activeState lease.state = false ∨ lease.expiresAt ≤ now) := by
  cases happened : eventAfter before move with
  | none =>
    rcases state_of_no_event perform Empty.elim happened with same | ⟨change, -⟩
    · have unchanged : leasesAfter (before ++ [move]) = leasesAfter before := by
        unfold leasesAfter
        rw [final_append_move]
        exact same
      rw [unchanged, found] at gone
      cases gone
    · exact change.elim
  | some event =>
    obtain ⟨thread, answers, earlier, -, -, -, -, section', -, stepped⟩ :=
      eventAfter_cases admitted happened
    rw [stepped] at gone
    obtain ⟨request, scope, now, newId, same, ended⟩ :=
      perform_erased (leasesAfter_valid admitted) (fresh_of_sectionAdmitted section') found gone
    obtain ⟨effect, reply⟩ := event
    cases same
    exact ⟨request, scope, now, newId, reply, rfl, ended⟩

theorem acquired_of_admitted {before after : List LeaseMove} {move : LeaseMove}
    (admitted : LeasesAdmitted started (before ++ move :: after))
    {request : OsdControllerAcquireRequest} {scope : HolderScope} {now : Int} {newId : Bytes}
    {result : OsdControllerLeaseResult}
    (happened : eventAfter before move = some ⟨.acquireSurface request scope now newId, result⟩) :
    (leasesAfter (before ++ [move])).granted = (leasesAfter before).granted ++ grantOf result := by
  obtain ⟨thread, answers, earlier, -, -, -, -, -, replied, stepped⟩ :=
    eventAfter_cases admitted happened
  rw [stepped, ← show _ = result from replied]
  exact acquireSurface_granted (leasesAfter_valid admitted) answers.walk request scope now newId

theorem renewed_of_admitted {before after : List LeaseMove} {move : LeaseMove}
    (admitted : LeasesAdmitted started (before ++ move :: after))
    {request : OsdControllerRenewRequest} {scope : HolderScope} {now : Int}
    {result : OsdControllerLeaseResult}
    (happened : eventAfter before move = some ⟨.renewLease request scope now, result⟩)
    (accepted : result.accepted = true) :
    ∃ lease, (leasesAfter before).lease request.controllerLeaseId = some lease ∧
      activeState lease.state = true ∧ request.holds lease = true ∧
      lease.leaseRevision = request.leaseRevision ∧
      lease.controllerLeaseEpoch = request.controllerLeaseEpoch ∧
      scope.surfaceKey request.backendId = lease.surfaceKey := by
  obtain ⟨thread, answers, earlier, -, -, knows, rule, section', replied, -⟩ :=
    eventAfter_cases admitted happened
  rw [← show _ = result from replied] at accepted
  change (renewLease request scope now (leasesAfter before)).1.accepted = true at accepted
  rcases renewLease_cases request scope now (leasesAfter before) with
    ⟨refused, -⟩ | ⟨lease, found, revision, epoch, active, ⟨changed, refused, -⟩ | -⟩
  · rw [refused] at accepted
    cases accepted
  · rw [refused] at accepted
    cases accepted
  · refine ⟨lease, found, active, knows.holds rule found, revision, epoch, ?_⟩
    simp only [sectionAdmitted, found, Option.all_some, revision, epoch, active, bne_self_eq_false,
      Bool.not_true, Bool.or_self, Bool.false_or, beq_iff_eq] at section'
    exact section'

theorem entered_of_split {first rest : List LeaseEvent} {snapshot copy : OsdControllerLease}
    {state : OsdControllerLeaseState} {reason : Bytes}
    (reporting : reportsEnd (first ++ ⟨.endLease snapshot state reason, copy⟩ :: rest) = true) :
    reportsEnd first = true := by
  cases first with
  | nil => cases reporting
  | cons event others => exact reporting

theorem hasEnded_of_endLease {before : List LeaseMove}
    (admitted : LeasesAdmitted started before) {thread : Nat}
    {process : Interleaving.Process LeaseEffect LeaseReply Unit}
    (found : (Run.final leaseStep started before).processes[thread]? = some process)
    (reporting : reportsEnd process.earlier = true) {snapshot copy : OsdControllerLease}
    {state : OsdControllerLeaseState} {reason : Bytes}
    (ended : ⟨.endLease snapshot state reason, copy⟩ ∈ process.earlier) :
    HasEnded (leasesAfter before) snapshot.controllerLeaseId := by
  obtain ⟨first, rest, split⟩ := List.append_of_mem ended
  obtain ⟨earlier, move, answers, later, next, rfl, advanced, current, replied⟩ :=
    exists_performed perform Empty.elim LeaseMove.toMove rfl before found split
  cases toMove_advance advanced
  have happened : eventAfter earlier (.advance thread answers) =
      some ⟨.endLease snapshot state reason, copy⟩ := by
    have stepped := congrArg Prod.snd (@step_advance _ _ _ _ Answers _ perform Empty.elim _ thread
      answers _ _ _ current)
    exact stepped.trans (by rw [replied])
  obtain ⟨_, others, events, same, ⟨_, current'⟩, knows, rule, section', -, stepped⟩ :=
    eventAfter_cases admitted happened
  cases same
  cases (current.symm.trans current')
  obtain ⟨terminal, controllerLeaseId, snapshotFound⟩ := rule
  obtain ⟨named, granted, -⟩ := knows.found controllerLeaseId snapshot snapshotFound
  subst named
  rw [split] at reporting
  simp only [sectionAdmitted, entered_of_split reporting, Bool.not_true, Bool.false_or] at section'
  have after := endLease_hasEnded granted terminal reason section'
  have here : HasEnded (leasesAfter (earlier ++ [.advance thread answers]))
      snapshot.controllerLeaseId := stepped ▸ after
  have keeps := @leasesAfter_keeps (earlier ++ [.advance thread answers]) later [] (by
    rw [List.append_nil, List.append_assoc]
    exact admitted)
  rw [List.append_assoc] at keeps
  exact here.stable keeps

theorem reported_of_admitted {before after : List LeaseMove} {thread : Nat} {answers : Answers}
    (admitted : LeasesAdmitted started (before ++ .advance thread answers :: after))
    {result : OsdControllerLeaseResult}
    (happened : eventAfter before (.advance thread answers) = some ⟨.leave result, ()⟩)
    (accepted : result.accepted = true)
    {process : Interleaving.Process LeaseEffect LeaseReply Unit}
    (found : (Run.final leaseStep started before).processes[thread]? = some process)
    {controllerLeaseId : Bytes}
    (ends : (entered process.earlier).bind LeaseCall.ends = some controllerLeaseId)
    {lease : OsdControllerLease}
    (present : (leasesAfter (before ++ [.advance thread answers])).lease controllerLeaseId =
      some lease) :
    activeState lease.state = false := by
  obtain ⟨_, others, earlier, same, ⟨next, current⟩, knows, rule, -, -, stepped⟩ :=
    eventAfter_cases admitted happened
  cases same
  cases found.symm.trans current
  have unchanged : leasesAfter (before ++ [.advance thread answers]) = leasesAfter before := stepped
  rw [unchanged] at present
  obtain ⟨snapshot, snapshotFound, inactive | ⟨state, reason, copy, ended⟩⟩ :=
    rule accepted controllerLeaseId ends
  · exact (knows.hasEnded snapshotFound inactive).2 lease present
  · have reporting : reportsEnd earlier = true := by
      rw [reportsEnd, ends]
      rfl
    have finished := hasEnded_of_endLease ((Run.admits_append leaseStep).mp admitted).1 current reporting
      ended
    obtain ⟨named, -⟩ := knows.found controllerLeaseId snapshot snapshotFound
    exact finished.2 lease (named.symm ▸ present)

/-- The leases of every run whose sections are all admitted: acquisitions are fresh, a renewal is
within the scope of its lease, and a release or a revocation ends the revision that it has found. -/
theorem controllerLeases_of_admitted (moves : List LeaseMove)
    (admitted : LeasesAdmitted started moves) : ControllerLeases moves where
  exclusive := by
    rintro before after rfl lease member active
    have valid := leasesAfter_valid admitted
    exact ⟨valid.owned lease member active, fun other otherMember otherActive same =>
      valid.exclusive otherMember member otherActive active same⟩
  terminal := by
    rintro before middle after rfl controllerLeaseId lease found inactive
    have succeeds := leasesAfter_succeeds admitted found
    cases later : (leasesAfter (before ++ middle)).lease controllerLeaseId with
    | none => exact .inl rfl
    | some other =>
      rcases (succeeds other later).revised with rfl | ⟨active, -⟩
      · exact .inr rfl
      · rw [inactive] at active
        cases active
  revisions := by
    rintro before middle after rfl controllerLeaseId lease later found laterFound
    rcases (leasesAfter_succeeds admitted found later laterFound).revised with same | ⟨-, revised⟩
    · exact .inl same
    · exact .inr revised
  gone := by
    rintro before middle after rfl grant member gone
    have succeeds := (leasesAfter_keeps admitted).leases grant member
    rw [gone] at succeeds
    exact succeeds
  erased := by
    rintro before move after rfl controllerLeaseId lease found gone
    obtain ⟨request, scope, now, newId, result, happened, inactive | expired⟩ :=
      erased_of_admitted admitted found gone
    · exact .inl inactive
    · exact .inr ⟨request, scope, now, newId, result, happened, expired⟩
  recorded := by
    rintro before after rfl lease member
    exact (leasesAfter_valid admitted).recorded lease member
  acquired := by
    rintro before move after request scope now newId result rfl happened
    exact acquired_of_admitted admitted happened
  epochs := (final_sound admitted).valid.ordered
  renewed := by
    rintro before move after request scope now result rfl happened accepted
    exact renewed_of_admitted admitted happened accepted
  reported := by
    rintro before move after result rfl happened accepted thread answers process controllerLeaseId
      rfl found ends lease present
    exact reported_of_admitted admitted happened accepted found ends present

/-! ## A release that is overtaken by a renewal -/

def sampleHolder : OsdControllerHolder :=
  { actorId := text "user:controller"
    clientInstanceId := text "device:browser"
    backendId := text "default"
    legacyOsdSessionId := text "los_1"
    viewerBindingId := text "ovb_1" }

def sampleSession : LegacyOsdSession :=
  { sessionRevision := 1
    actorId := sampleHolder.actorId
    clientInstanceId := sampleHolder.clientInstanceId
    backendId := sampleHolder.backendId
    backendGeneration := 31
    state := .active
    expiresAt := 5000
    osdSurfaceId := text "primary"
    osdEpoch := text "aaaa" }

def sampleBinding : OsdViewerBinding :=
  { actorId := sampleHolder.actorId
    clientInstanceId := sampleHolder.clientInstanceId
    legacyOsdSessionId := sampleHolder.legacyOsdSessionId
    backendId := sampleHolder.backendId
    backendGeneration := 31
    osdSurfaceId := text "primary"
    osdEpoch := text "aaaa"
    expiresAt := 5000
    state := .attached }

def sampleReply (now : Int) : (effect : LeaseEffect) → LeaseReply effect
  | .enter _ | .leave _ | .reap _ => ()
  | .now => now
  | .context actorId _ => some
      { authenticationState := .authenticated
        actor := { actorId := actorId, type := .user }
        grants := [⟨text "osd.control", text "*"⟩] }
  | .backendPolicy _ => some { allowed := true }
  | .sessionStatus _ => { accepted := true, session := sampleSession }
  | .viewer _ => some sampleBinding
  | .newLeaseId => text "ocl_1"
  | .find _ | .owner _ => none
  | .endLease snapshot _ _ => snapshot
  | .acquireSurface _ _ _ _ | .renewLease _ _ _ => {}

def advances (count thread : Nat) (now : Int) : List LeaseMove :=
  List.replicate count (.advance thread { reply := sampleReply now })

def sampleRun : List LeaseMove :=
  .call (.acquire sampleHolder) :: advances 9 0 1000 ++
  .call (.renew ⟨sampleHolder, text "ocl_1", 1, 1⟩) :: advances 11 1 1010

theorem controllerLeases_sample : ControllerLeases sampleRun :=
  controllerLeases_of_admitted sampleRun (by decide)

def releaseOvertaken : List LeaseMove :=
  .call (.acquire sampleHolder) :: advances 9 0 1000 ++
  .call (.release ⟨sampleHolder, text "ocl_1", 1⟩) :: advances 2 1 1010 ++
  .call (.renew ⟨sampleHolder, text "ocl_1", 1, 1⟩) :: advances 11 2 1010 ++
  advances 1 1 1010

def reportedBy : LeaseEvent → Option OsdControllerLeaseResult
  | ⟨.leave result, _⟩ => some result
  | _ => none

theorem reportedBy_eq_some {event : LeaseEvent} {result : OsdControllerLeaseResult}
    (reports : reportedBy event = some result) : event = ⟨.leave result, ()⟩ := by
  unfold reportedBy at reports
  split at reports
  · cases reports
    rfl
  · cases reports

/-- The release is reported as done, and the lease is active. -/
theorem release_reported_of_active : ¬ ControllerLeases
    (releaseOvertaken ++ [.advance 1 { reply := sampleReply 1010 }]) := by
  intro leases
  have facts : ((eventAfter releaseOvertaken (.advance 1 { reply := sampleReply 1010 })).bind
        reportedBy).map (·.accepted) = some true ∧
      ((Run.final leaseStep started releaseOvertaken).processes[1]?).bind
        (fun process => (entered process.earlier).bind LeaseCall.ends) = some (text "ocl_1") ∧
      ((leasesAfter (releaseOvertaken ++ [.advance 1 { reply := sampleReply 1010 }])).lease
        (text "ocl_1")).map (fun lease => activeState lease.state) = some true := by
    decide +kernel
  obtain ⟨reports, ends, active⟩ := facts
  obtain ⟨result, left, accepted⟩ := Option.map_eq_some_iff.mp reports
  obtain ⟨event, happened, reported⟩ := Option.bind_eq_some_iff.mp left
  obtain ⟨process, found, ends⟩ := Option.bind_eq_some_iff.mp ends
  obtain ⟨lease, present, active⟩ := Option.map_eq_some_iff.mp active
  have inactive := leases.reported releaseOvertaken _ [] result rfl
    (reportedBy_eq_some reported ▸ happened) accepted 1 _ process _ rfl found ends lease present
  rw [inactive] at active
  cases active

end VdrSuite.Osd
