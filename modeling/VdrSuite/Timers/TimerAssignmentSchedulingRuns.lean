import VdrSuite.Timers.ReplicaPolicy

/-! What schedulers may conclude from their reads, however their calls interleave with those of
others, and what that means for the replica policy. -/

set_option autoImplicit false

namespace VdrSuite.Timers

open Library Library.Interleaving

variable {timerIntentId : Bytes} {policy : TimerIntentReplicaPolicy}

abbrev SchedulingEvent : Type := Event SchedulingReply

/-! ## What a scheduler creates -/

/-- A replica that was planned over a listing, which was read after the given set revision. -/
def PlannedReplica (earlier : List SchedulingEvent) (assignment : TimerAssignment)
    (expectedAssignmentSetRevision : Bytes) : Prop :=
  ∃ (request : TimerAssignmentSchedulingRequest) (found : TimerIntentRepositoryResult)
    (observed : TimerAssignmentRepositorySetRevisionResult)
    (listed : TimerAssignmentRepositoryListResult),
    ⟨.findIntent request.timerIntentId, found⟩ ∈ earlier ∧ found.ok = true ∧
    List.Sublist [⟨.assignmentSetRevisionForIntent request.timerIntentId, observed⟩,
      ⟨.listForIntent request.timerIntentId, listed⟩] earlier ∧
    observed.status = .ok ∧ listed.ok = true ∧
    expectedAssignmentSetRevision = observed.assignmentSetRevision ∧
    assignment = assignmentFromDecision request .replica
      (planTimerAssignment (planningRequest found.intent .replica listed.assignments request))

def CallRule (earlier : List SchedulingEvent) : SchedulingCall → Prop
  | .create assignment => assignment.role = .primary
  | .createAgainstAssignmentSetRevision assignment expectedAssignmentSetRevision =>
    PlannedReplica earlier assignment expectedAssignmentSetRevision
  | _ => True

abbrev Follows {Result : Type} (earlier : List SchedulingEvent) (program : Scheduling Result) :
    Prop :=
  Obeys CallRule (fun _ _ => True) earlier program

theorem assignmentFromDecision_role (request : TimerAssignmentSchedulingRequest)
    (role : TimerAssignmentRole) (decision : TimerAssignmentPlanningDecision) :
    (assignmentFromDecision request role decision).role = role := by
  unfold assignmentFromDecision
  dsimp only
  split
  · rfl
  · rfl

theorem existingAssignmentResult_follows (request : TimerAssignmentSchedulingRequest)
    (role : TimerAssignmentRole) : Follows [] (existingAssignmentResult request role) := by
  refine ⟨trivial, fun existing => ?_⟩
  change Follows _ (ite _ _ _)
  split
  · split
    · trivial
    · trivial
  · split
    · trivial
    · trivial

theorem applyCreateResult_follows (earlier : List SchedulingEvent)
    (request : TimerAssignmentSchedulingRequest) (role : TimerAssignmentRole)
    (decision : TimerAssignmentPlanningDecision) (assignmentSetFenced : Bool)
    (created : TimerAssignmentRepositoryResult) :
    Follows earlier (applyCreateResult request role decision assignmentSetFenced created) := by
  unfold applyCreateResult
  split
  · trivial
  · split
    · refine ⟨trivial, fun retry => ?_⟩
      change Follows _ (ite _ _ _)
      split
      · trivial
      · trivial
    · split
      · trivial
      · trivial

theorem schedulePrimary_follows (request : TimerAssignmentSchedulingRequest) :
    Follows [] (schedulePrimary request) := by
  unfold schedulePrimary
  split
  · trivial
  · apply obeys_bind (existingAssignmentResult_follows request .primary)
    rintro events (none | result) -
    · refine ⟨trivial, fun found => ?_⟩
      change Follows _ (ite _ _ _)
      split
      · trivial
      · split
        · trivial
        · refine ⟨trivial, fun listed => ?_⟩
          change Follows _ (ite _ _ _)
          split
          · trivial
          · split
            · trivial
            · split
              · refine ⟨trivial, fun active => ?_⟩
                change Follows _ (ite _ _ _)
                split
                · trivial
                · split
                  · trivial
                  · trivial
              · exact ⟨assignmentFromDecision_role request .primary _, fun created =>
                  applyCreateResult_follows _ request .primary _ false created⟩
    · trivial

theorem scheduleReplica_follows (request : TimerAssignmentSchedulingRequest) :
    Follows [] (scheduleReplica request) := by
  unfold scheduleReplica
  split
  · trivial
  · apply obeys_bind (existingAssignmentResult_follows request .replica)
    rintro events (none | result) -
    · refine ⟨trivial, fun found => ?_⟩
      change Follows _ (ite _ _ _)
      split
      · trivial
      · next foundOk =>
        split
        · trivial
        · refine ⟨trivial, fun observed => ?_⟩
          change Follows _ (ite _ _ _)
          split
          · trivial
          · next observedOk =>
            refine ⟨trivial, fun listed => ?_⟩
            change Follows _ (ite _ _ _)
            split
            · trivial
            · next listedOk =>
              split
              · trivial
              · split
                · trivial
                · rw [Bool.not_eq_false] at foundOk listedOk
                  rw [not_ne_iff] at observedOk
                  refine ⟨⟨request, found, observed, listed, ?_, foundOk, ?_, observedOk, listedOk,
                    rfl, rfl⟩, fun created =>
                      applyCreateResult_follows _ request .replica _ true created⟩
                  · simp
                  · rw [List.append_assoc]
                    exact List.sublist_append_right _ _
    · trivial

/-! ## What its reads go on to mean -/

/-- The assignments are readable, and the intent is stored under its policy. -/
structure SchedulingValid (timerIntentId : Bytes) (policy : TimerIntentReplicaPolicy)
    (store : SchedulingStore) : Prop where
  rows : RowsValid store.timers.assignments
  policy : ∀ intent ∈ store.intents, intent.timerIntentId = timerIntentId →
    intent.spec.replicaPolicy = policy

/-- What events say of the present store. A listing is still true as long as the set revision that
was read before it is the present one. -/
structure Knows (timerIntentId : Bytes) (policy : TimerIntentReplicaPolicy)
    (store : SchedulingStore) (events : List SchedulingEvent) : Prop where
  intents : ∀ identity (found : TimerIntentRepositoryResult),
    ⟨.findIntent identity, found⟩ ∈ events → found.ok = true →
      found.intent.timerIntentId = identity ∧
        (identity = timerIntentId → found.intent.spec.replicaPolicy = policy)
  tokens : ∀ identity (observed : TimerAssignmentRepositorySetRevisionResult),
    ⟨.assignmentSetRevisionForIntent identity, observed⟩ ∈ events → observed.status = .ok →
      Fenced store.timers ∧ ∃ revision, observed.assignmentSetRevision = decimal revision ∧
        revision ≤ setRevision identity store.timers
  listings : ∀ identity (observed : TimerAssignmentRepositorySetRevisionResult)
    (listed : TimerAssignmentRepositoryListResult),
    List.Sublist [⟨.assignmentSetRevisionForIntent identity, observed⟩,
      ⟨.listForIntent identity, listed⟩] events →
      observed.status = .ok → listed.ok = true →
      observed.assignmentSetRevision = decimal (setRevision identity store.timers) →
        Lists identity store.timers listed.assignments

theorem Lists.of_assignmentsOf {before after : TimerStore} {listed : List TimerAssignment}
    (lists : Lists timerIntentId before listed)
    (same : assignmentsOf timerIntentId after = assignmentsOf timerIntentId before) :
    Lists timerIntentId after listed := by
  unfold Lists rowsForIntent at lists ⊢
  unfold assignmentsOf at same
  rw [same]
  exact lists

theorem Knows.stable {before after : SchedulingStore} {events : List SchedulingEvent}
    (valid : SchedulingValid timerIntentId policy before)
    (track : KeepsTrack before.timers after.timers)
    (knows : Knows timerIntentId policy before events) : Knows timerIntentId policy after events := by
  have marked (identity : Bytes) (fenced : Fenced before.timers) :=
    (track.tracked fenced valid.rows.identified).marked identity
  refine ⟨knows.intents, ?_, ?_⟩
  · intro identity observed member ok
    obtain ⟨fenced, revision, token, reached⟩ := knows.tokens identity observed member ok
    refine ⟨(track.tracked fenced valid.rows.identified).fenced, revision, token, ?_⟩
    rcases marked identity fenced with ⟨-, same⟩ | ⟨-, grown⟩
    · omega
    · omega
  · intro identity observed listed order observedOk listedOk token
    have member := order.subset List.mem_cons_self
    obtain ⟨fenced, revision, spelled, reached⟩ := knows.tokens identity observed member observedOk
    have current : revision = setRevision identity after.timers :=
      decimal_injective (spelled.symm.trans token)
    rcases marked identity fenced with ⟨rows, same⟩ | ⟨-, grown⟩
    · rw [same] at token
      exact (knows.listings identity observed listed order observedOk listedOk
        token).of_assignmentsOf rows
    · omega

theorem sublist_concat_cases {Value : Type} {first second last : Value} {values : List Value}
    (order : List.Sublist [first, second] (values ++ [last])) :
    List.Sublist [first, second] values ∨ last = second := by
  obtain ⟨front, back, split, inFront, inBack⟩ := List.sublist_append_iff.mp order
  rcases List.sublist_singleton.mp inBack with rfl | rfl
  · rw [List.append_nil] at split
    exact .inl (split ▸ inFront)
  · have ends := congrArg List.getLast? split
    rw [List.getLast?_concat] at ends
    exact .inr (Option.some.inj ends).symm

/-- One more event: it says what it says, and a listing belongs to every set revision before it. -/
theorem Knows.add {store : SchedulingStore} {events : List SchedulingEvent} {event : SchedulingEvent}
    (knows : Knows timerIntentId policy store events)
    (intents : ∀ identity (found : TimerIntentRepositoryResult),
      event = ⟨.findIntent identity, found⟩ → found.ok = true →
        found.intent.timerIntentId = identity ∧
          (identity = timerIntentId → found.intent.spec.replicaPolicy = policy))
    (tokens : ∀ identity (observed : TimerAssignmentRepositorySetRevisionResult),
      event = ⟨.assignmentSetRevisionForIntent identity, observed⟩ → observed.status = .ok →
        Fenced store.timers ∧
          observed.assignmentSetRevision = decimal (setRevision identity store.timers))
    (listings : ∀ identity (listed : TimerAssignmentRepositoryListResult),
      event = ⟨.listForIntent identity, listed⟩ → listed.ok = true →
        Lists identity store.timers listed.assignments) :
    Knows timerIntentId policy store (events ++ [event]) := by
  constructor
  · intro identity found member ok
    rcases List.mem_append.mp member with old | new
    · exact knows.intents identity found old ok
    · exact intents identity found (List.mem_singleton.mp new).symm ok
  · intro identity observed member ok
    rcases List.mem_append.mp member with old | new
    · exact knows.tokens identity observed old ok
    · obtain ⟨fenced, token⟩ := tokens identity observed (List.mem_singleton.mp new).symm ok
      exact ⟨fenced, _, token, le_refl _⟩
  · intro identity observed listed order observedOk listedOk token
    rcases sublist_concat_cases order with old | new
    · exact knows.listings identity observed listed old observedOk listedOk token
    · exact listings identity listed new listedOk

/-! ## Calls -/

theorem carryOut_keeps (works : Stage → CarriedOut) (call : SchedulingCall)
    {store : SchedulingStore} (valid : SchedulingValid timerIntentId policy store) :
    SchedulingValid timerIntentId policy (carryOut works call store).2 ∧
      KeepsTrack store.timers (carryOut works call store).2.timers ∧
      ActivatesOne store.timers (carryOut works call store).2.timers := by
  have unnoticed {timers : TimerStore} (same : Unnoticed store.timers timers) :
      SchedulingValid timerIntentId policy { store with timers := timers } ∧
        KeepsTrack store.timers timers ∧ ActivatesOne store.timers timers :=
    ⟨⟨(same.advances valid.rows).1, valid.policy⟩, same.keepsTrack,
      (ActivatesOne.of_assignments same.assignments).1⟩
  have performed (other : TimerAssignmentCall) :
      SchedulingValid timerIntentId policy
          { store with timers := (perform store.timers other).1 } ∧
        KeepsTrack store.timers (perform store.timers other).1 ∧
        ActivatesOne store.timers (perform store.timers other).1 :=
    ⟨⟨(perform_advances store.timers other valid.rows).1, valid.policy⟩,
      perform_keepsTrack store.timers other, perform_activatesOne valid.rows other⟩
  cases call with
  | findIntent identity => exact unnoticed (Unnoticed.refl store.timers)
  | findById identity => exact unnoticed (Unnoticed.refl store.timers)
  | listForIntent identity => exact unnoticed (Unnoticed.refl store.timers)
  | findActivePrimaryForIntent identity => exact unnoticed (Unnoticed.refl store.timers)
  | assignmentSetRevisionForIntent identity =>
    exact unnoticed (assignmentSetRevisionForIntent_unchanged (works .calling) identity
      store.timers)
  | create assignment => exact performed (.create (works .calling) assignment)
  | createAgainstAssignmentSetRevision assignment expectedAssignmentSetRevision =>
    exact performed
      (.createAgainstAssignmentSetRevision works assignment expectedAssignmentSetRevision)

theorem findIntentById_ok {works : CarriedOut} {identity : Bytes} {intents : List TimerIntent}
    (ok : (findIntentById works identity intents).ok = true) :
    (findIntentById works identity intents).intent ∈ intents ∧
      (findIntentById works identity intents).intent.timerIntentId = identity := by
  unfold findIntentById at ok ⊢
  split
  · next unnamed =>
    rw [if_pos unnamed] at ok
    cases ok
  · next named =>
    rw [if_neg named] at ok
    split
    · next broken =>
      rw [if_pos broken] at ok
      cases ok
    · next carriedOut =>
      rw [if_neg carriedOut] at ok
      split
      · next absent =>
        rw [absent] at ok
        cases ok
      · next intent found =>
        exact ⟨List.mem_of_find?_eq_some found, by simpa using List.find?_some found⟩

theorem carryOut_knows (works : Stage → CarriedOut) (call : SchedulingCall)
    {store : SchedulingStore} {events : List SchedulingEvent}
    (valid : SchedulingValid timerIntentId policy store)
    (knows : Knows timerIntentId policy store events) :
    Knows timerIntentId policy (carryOut works call store).2
      (events ++ [⟨call, (carryOut works call store).1⟩]) := by
  obtain ⟨-, track, -⟩ := carryOut_keeps works call valid
  apply (knows.stable valid track).add
  · rintro identity found same ok
    cases call <;> cases same
    obtain ⟨member, named⟩ := findIntentById_ok ok
    refine ⟨named, ?_⟩
    rintro rfl
    exact valid.policy _ member named
  · rintro identity observed same ok
    cases call <;> cases same
    apply assignmentSetRevisionForIntent_ok
    exact congrArg (fun status => TimerAssignmentRepositorySetRevisionResult.mk status _) ok
  · rintro identity listed same ok
    cases call <;> cases same
    exact lists_of_ok ok

theorem scheduling_discipline : Discipline carryOut applyChange CallRule (fun _ _ _ => True)
    (fun change _ => ∀ intents, change = .intents intents → ∀ intent ∈ intents,
      intent.timerIntentId = timerIntentId → intent.spec.replicaPolicy = policy)
    (SchedulingValid timerIntentId policy)
    (fun before after => KeepsTrack before.timers after.timers)
    (Knows timerIntentId policy) where
  empty state _ :=
    ⟨fun _ _ member => absurd member List.not_mem_nil,
      fun _ _ member => absurd member List.not_mem_nil,
      fun _ _ _ order => absurd (order.subset List.mem_cons_self) List.not_mem_nil⟩
  performed works call store events valid knows _ _ := by
    obtain ⟨kept, track, -⟩ := carryOut_keeps works call valid
    exact ⟨kept, track, carryOut_knows works call valid knows⟩
  changed change store valid permitted := by
    cases change with
    | call call =>
      exact ⟨⟨(perform_advances store.timers call valid.rows).1, valid.policy⟩,
        perform_keepsTrack store.timers call⟩
    | intents intents =>
      exact ⟨⟨valid.rows, permitted intents rfl⟩, (Unnoticed.refl store.timers).keepsTrack⟩
  stable before after events valid track knows := knows.stable valid track

/-! ## What schedulers activate -/

theorem Created.columns_eq {assignment : TimerAssignment} {store next : TimerStore}
    {row : TimerAssignmentRow} (created : Created assignment store next row) :
    row.timerIntentId = assignment.timerIntentId ∧ row.state = assignment.state ∧
      row.role = assignment.role ∧ row.backendId = assignment.backendId := by
  obtain ⟨-, revision, -, rfl⟩ := bindAssignmentColumns_eq_some created.columns
  exact ⟨rfl, rfl, rfl, rfl⟩

theorem create_activated {works : CarriedOut} {assignment : TimerAssignment} {store : TimerStore}
    {row : TimerAssignmentRow}
    (activated : Activated store (create works assignment store).2 row) :
    row.role = assignment.role := by
  rcases create_cases works assignment store with ⟨-, same⟩ | ⟨-, inserted, created⟩
  · exact absurd activated
      ((ActivatesOne.of_assignments (congrArg TimerStore.assignments same)).2 row)
  · rw [insertAssignment_activated created.inserted activated]
    exact created.columns_eq.2.2.1

theorem assignmentFromDecision_active {request : TimerAssignmentSchedulingRequest}
    {role : TimerAssignmentRole} {decision : TimerAssignmentPlanningDecision}
    (active : timerAssignmentActiveOwnershipState
      (assignmentFromDecision request role decision).state = true) :
    decision.outcome = .selected ∧
      (assignmentFromDecision request role decision).timerIntentId = decision.timerIntentId ∧
      (assignmentFromDecision request role decision).backendId = decision.selectedBackendId := by
  unfold assignmentFromDecision at active ⊢
  dsimp only at active ⊢
  split at active
  · next selected =>
    rw [if_pos selected]
    exact ⟨selected, rfl, rfl⟩
  · cases active

theorem planned_replica_activated {works : Stage → CarriedOut} {assignment : TimerAssignment}
    {expectedAssignmentSetRevision : Bytes} {store : SchedulingStore}
    {events : List SchedulingEvent} {row : TimerAssignmentRow}
    (knows : Knows timerIntentId policy store events)
    (planned : PlannedReplica events assignment expectedAssignmentSetRevision)
    (activated : Activated store.timers (createAgainstAssignmentSetRevision works assignment
      expectedAssignmentSetRevision store.timers).2 row)
    (intent : row.timerIntentId = timerIntentId) :
    HasRoom policy timerIntentId row.backendId store.timers := by
  obtain ⟨request, found, observed, listed, read, foundOk, order, observedOk, listedOk, rfl, rfl⟩ :=
    planned
  rcases createAgainstAssignmentSetRevision_cases works _ observed.assignmentSetRevision
    store.timers with ⟨-, same, -⟩ |
      ⟨-, number, ready, written, inserted, parsed, table, trigger, install, created, remove⟩
  · exact absurd activated ((ActivatesOne.of_assignments same.assignments).2 row)
  · rw [activated_congr install.assignments remove.assignments] at activated
    cases insertAssignment_activated created.inserted activated
    obtain ⟨sameIntent, sameState, -, sameBackend⟩ := created.columns_eq
    have active := activated.1.2
    rw [sameState] at active
    obtain ⟨selected, decidedIntent, decidedBackend⟩ := assignmentFromDecision_active active
    obtain ⟨-, plannedIntent, -, -⟩ := planTimerAssignment_selected selected rfl
    obtain ⟨named, kept⟩ := knows.intents _ found read foundOk
    have requested : (assignmentFromDecision request .replica (planTimerAssignment
        (planningRequest found.intent .replica listed.assignments request))).timerIntentId =
          request.timerIntentId :=
      decidedIntent.trans (plannedIntent.trans named)
    rw [sameIntent, requested] at intent
    -- The fence tells that the set revision is still the one before the listing.
    have member := order.subset List.mem_cons_self
    obtain ⟨fenced, revision, token, -⟩ := knows.tokens _ observed member observedOk
    have current : setRevision request.timerIntentId store.timers = revision := by
      rw [← requested, ← install.setRevision fenced, created.setRevision table trigger]
      exact parseUnsignedToken_decimal (token ▸ parsed)
    rw [← current] at token
    have lists := knows.listings _ observed listed order observedOk listedOk token
    have room := selected_replica_has_room lists selected
    rw [kept intent, intent] at room
    rw [sameBackend, decidedBackend]
    exact room

/-! ## Runs -/

/-- What can happen while the policy of an intent stays the same: schedulers start and go on, others
call the repository, and the intents change in other ways. -/
def PolicyUnchanged (timerIntentId : Bytes) (policy : TimerIntentReplicaPolicy) :
    SchedulingMove → Prop
  | .start program => ∃ request, program = schedulePrimary request ∨ program = scheduleReplica request
  | .advance _ _ => True
  | .change (.call _) => True
  | .change (.intents intents) => ∀ intent ∈ intents,
      intent.timerIntentId = timerIntentId → intent.spec.replicaPolicy = policy

def ActivatedBy (timerIntentId : Bytes) (system : SchedulingSystem) (move : SchedulingMove)
    (row : TimerAssignmentRow) : Prop :=
  Activated system.state.timers (schedulingStep system move).1.state.timers row ∧
    row.timerIntentId = timerIntentId

def ByScheduler (move : SchedulingMove) : Prop := ∃ index works, move = .advance index works

def ReplicasFindRoom (timerIntentId : Bytes) (policy : TimerIntentReplicaPolicy)
    (system : SchedulingSystem) (move : SchedulingMove) : Prop :=
  ∀ row, ActivatedBy timerIntentId system move row → ByScheduler move → row.role = .replica →
    HasRoom policy timerIntentId row.backendId system.state.timers

def OthersFindRoom (timerIntentId : Bytes) (policy : TimerIntentReplicaPolicy)
    (system : SchedulingSystem) (move : SchedulingMove) : Prop :=
  ∀ row, ActivatedBy timerIntentId system move row → ¬ (ByScheduler move ∧ row.role = .replica) →
    HasRoom policy timerIntentId row.backendId system.state.timers

def ReplicasScheduled (timerIntentId : Bytes) (system : SchedulingSystem) (move : SchedulingMove) :
    Prop :=
  ∀ row, ActivatedBy timerIntentId system move row → row.role = .replica → ByScheduler move

abbrev SchedulingSound (timerIntentId : Bytes) (policy : TimerIntentReplicaPolicy)
    (system : SchedulingSystem) : Prop :=
  Sound CallRule (SchedulingValid timerIntentId policy) (Knows timerIntentId policy) system

theorem schedulingStep_sound {system : SchedulingSystem} {move : SchedulingMove}
    (sound : SchedulingSound timerIntentId policy system)
    (unchanged : PolicyUnchanged timerIntentId policy move) :
    SchedulingSound timerIntentId policy (schedulingStep system move).1 := by
  apply scheduling_discipline.step sound
  cases move with
  | start program =>
    obtain ⟨request, rfl | rfl⟩ := unchanged
    · exact schedulePrimary_follows request
    · exact scheduleReplica_follows request
  | advance index works => exact fun _ _ _ _ => trivial
  | change change =>
    rintro intents rfl
    exact unchanged

/-- One move makes one assignment active at most, and a scheduler's replica only where there is
room. -/
theorem schedulingStep_activates {system : SchedulingSystem}
    (sound : SchedulingSound timerIntentId policy system) (move : SchedulingMove) :
    ActivatesOne system.state.timers (schedulingStep system move).1.state.timers ∧
      ReplicasFindRoom timerIntentId policy system move := by
  have idle (same : (schedulingStep system move).1.state.timers = system.state.timers) :
      ActivatesOne system.state.timers (schedulingStep system move).1.state.timers ∧
        ReplicasFindRoom timerIntentId policy system move := by
    obtain ⟨one, none⟩ := ActivatesOne.of_assignments (congrArg TimerStore.assignments same)
    exact ⟨one, fun row activated => absurd activated.1 (none row)⟩
  cases move with
  | start program => exact idle rfl
  | change change =>
    cases change with
    | intents intents => exact idle rfl
    | call call =>
      refine ⟨perform_activatesOne sound.valid.rows call, ?_⟩
      rintro row - ⟨_, _, ⟨⟩⟩
  | advance index works =>
    cases found : system.processes[index]? with
    | none =>
      apply idle
      simp only [schedulingStep, Interleaving.step, found]
    | some process =>
      obtain ⟨earlier, program⟩ := process
      cases program with
      | done result =>
        apply idle
        simp only [schedulingStep, Interleaving.step, found]
      | perform call next =>
        have reached : (schedulingStep system (.advance index works)).1.state =
            (carryOut works call system.state).2 := by
          simp only [schedulingStep, Interleaving.step, found]
        obtain ⟨-, -, one⟩ := carryOut_keeps works call sound.valid
        have member := List.mem_of_getElem? found
        have knows := sound.consistent _ member
        obtain ⟨ruled, -⟩ := sound.obeys _ member
        rw [← reached] at one
        refine ⟨one, fun row activated _ replica => ?_⟩
        obtain ⟨activated, intent⟩ := activated
        rw [reached] at activated
        cases call with
        | create assignment =>
          have primary : assignment.role = .primary := ruled
          rw [create_activated activated, primary] at replica
          cases replica
        | createAgainstAssignmentSetRevision assignment expectedAssignmentSetRevision =>
          exact planned_replica_activated knows ruled activated intent
        | findIntent _ | findById _ | listForIntent _ | findActivePrimaryForIntent _ =>
          exact absurd rfl (activated.2 row activated.1)
        | assignmentSetRevisionForIntent identity =>
          have same := assignmentSetRevisionForIntent_unchanged (works .calling) identity
            system.state.timers
          exact absurd activated ((ActivatesOne.of_assignments same.assignments).2 row)

theorem schedulingSound_empty : SchedulingSound timerIntentId policy { state := {} } :=
  ⟨⟨rowsValid_nil, fun _ member => absurd member List.not_mem_nil⟩,
    fun _ member => absurd member List.not_mem_nil, fun _ member => absurd member List.not_mem_nil⟩

/-- In every run under an unchanged policy, a scheduler makes a replica active only while fewer
assignments than desired are active, and on a backend of its own if diversity is required. The
policy holds at the end if every other activation found room as well; and if only schedulers make
replicas active, at most one assignment more than desired is active. -/
theorem scheduled_replicas_keep_policy (timerIntentId : Bytes) (policy : TimerIntentReplicaPolicy)
    (moves : List SchedulingMove)
    (unchanged : ∀ move ∈ moves, PolicyUnchanged timerIntentId policy move) :
    let start : SchedulingSystem := { state := {} }
    let reached := (Run.final schedulingStep start moves).state.timers
    Run.Admits schedulingStep (ReplicasFindRoom timerIntentId policy) start moves ∧
      (Run.Admits schedulingStep (OthersFindRoom timerIntentId policy) start moves →
        WithinPolicy policy timerIntentId reached) ∧
      (Run.Admits schedulingStep (ReplicasScheduled timerIntentId) start moves →
        (activeOf timerIntentId reached).length ≤ policy.desiredAssignments + 1) := by
  intro start reached
  have keeps : Run.Admits schedulingStep (fun _ move => PolicyUnchanged timerIntentId policy move)
      start moves := Run.admits_of_forall schedulingStep unchanged
  have sound : SchedulingSound timerIntentId policy start := schedulingSound_empty
  refine ⟨?_, fun others => ?_, fun scheduled => ?_⟩
  · exact keeps.imp schedulingStep (SchedulingSound timerIntentId policy)
      (fun _ _ => schedulingStep_sound)
      (fun _ _ sound _ => (schedulingStep_activates sound _).2) sound
  · have within : WithinPolicy policy timerIntentId start.state.timers :=
      ⟨Nat.zero_le _, fun _ => List.nodup_nil⟩
    refine (Run.final_preserves_of_admits schedulingStep (fun system =>
      SchedulingSound timerIntentId policy system ∧
        WithinPolicy policy timerIntentId system.state.timers) ?_ ⟨sound, within⟩
      (keeps.and schedulingStep others)).2
    rintro system move ⟨sound, within⟩ ⟨unchanged, others⟩
    have next := schedulingStep_sound sound unchanged
    obtain ⟨one, replicas⟩ := schedulingStep_activates sound move
    refine ⟨next, one.withinPolicy next.valid.rows.identified within fun row activated intent => ?_⟩
    by_cases replica : ByScheduler move ∧ row.role = .replica
    · exact replicas row ⟨activated, intent⟩ replica.1 replica.2
    · exact others row ⟨activated, intent⟩ replica
  · have within : (activeReplicasOf timerIntentId start.state.timers).length ≤
        policy.desiredAssignments := Nat.zero_le _
    obtain ⟨last, replicas⟩ := Run.final_preserves_of_admits schedulingStep (fun system =>
      SchedulingSound timerIntentId policy system ∧
        (activeReplicasOf timerIntentId system.state.timers).length ≤ policy.desiredAssignments)
      (by
        rintro system move ⟨sound, within⟩ ⟨unchanged, scheduled⟩
        have next := schedulingStep_sound sound unchanged
        obtain ⟨one, room⟩ := schedulingStep_activates sound move
        refine ⟨next, one.replicas_le next.valid.rows.identified within
          fun row activated intent replica => ?_⟩
        have byScheduler := scheduled row ⟨activated, intent⟩ replica
        exact (room row ⟨activated, intent⟩ byScheduler replica).1)
      ⟨sound, within⟩ (keeps.and schedulingStep scheduled)
    exact (activeOf_length_le last.valid.rows.atMostOneOwner timerIntentId).trans
      (Nat.succ_le_succ replicas)

/-! ## A primary after its replicas -/

/-- The intent `i` for two assignments on different backends. -/
def sampleIntent : TimerIntent :=
  { timerIntentId := text "i"
    intentRevision := text "1"
    state := .active
    createdByActorId := text "a"
    spec :=
      { ownerActorId := text "a"
        programEventId := text "p"
        channelRequirement := { canonicalChannelId := text "c" }
        schedule := { startAt := 1, stopAt := 2, timezone := text "UTC" }
        replicaPolicy :=
          { desiredAssignments := 2
            requireBackendDiversity := true
            simultaneousRecordingIntentional := true
            rationale := text "r" } }
    createdAt := 1
    updatedAt := 1 }

def sampleCandidate (backendId : Bytes) : TimerAssignmentPlanningBackendCandidate :=
  { backendId := backendId
    currentBackendGeneration := 1
    state := .online
    writeAllowed := true
    executionAuthorityCurrent := true
    executionAuthorityFence := text "f"
    capability :=
      { backendGeneration := 1, revision := text "1", current := true, timerCreate := true
        timerReadback := true }
    health :=
      { backendGeneration := 1, revision := text "1", current := true, state := .healthy
        timerWritesAvailable := true }
    channel :=
      { backendGeneration := 1, mappingRevision := text "1", mappingSource := text "m"
        canonicalChannelId := text "c", backendChannelId := text "c", current := true }
    desiredNativeTimerSpecification :=
      some { channelId := text "c", startTime := text "0000", endTime := text "0100" }
    conflict := .confirmedClear }

def sampleRequest (timerAssignmentId backendId : Bytes) : TimerAssignmentSchedulingRequest :=
  { timerAssignmentId := timerAssignmentId
    timerIntentId := text "i"
    expectedIntentRevision := text "1"
    createdAt := 1
    candidates := [sampleCandidate backendId] }

/-- The intent is stored, and two replicas are scheduled on the backends `b` and `d`. -/
def sampleReplicas : List SchedulingMove :=
  [.change (.intents [sampleIntent]),
    .change (.call (.environment [⟨text "i", 1, true, text "active"⟩] [] [])),
    .start (scheduleReplica (sampleRequest (text "x") (text "b"))),
    .start (scheduleReplica (sampleRequest (text "y") (text "d")))] ++
  List.replicate 5 (.advance 0 fun _ _ => true) ++ List.replicate 5 (.advance 1 fun _ _ => true)

/-- Then a primary is scheduled on the backend `b`. -/
def samplePrimary : List SchedulingMove :=
  sampleReplicas ++ .start (schedulePrimary (sampleRequest (text "z") (text "b"))) ::
    List.replicate 4 (.advance 2 fun _ _ => true)

theorem samplePrimary_unchanged : ∀ move ∈ samplePrimary,
    PolicyUnchanged (text "i") sampleIntent.spec.replicaPolicy move := by
  intro move member
  simp only [samplePrimary, sampleReplicas, List.mem_append, List.mem_cons, List.mem_replicate,
    List.not_mem_nil, or_false] at member
  rcases member with (((rfl | rfl | rfl | rfl) | ⟨-, rfl⟩) | ⟨-, rfl⟩) | rfl | ⟨-, rfl⟩
  · intro intent stored _
    rw [List.mem_singleton.mp stored]
  · trivial
  · exact ⟨_, .inr rfl⟩
  · exact ⟨_, .inr rfl⟩
  · trivial
  · trivial
  · exact ⟨_, .inl rfl⟩
  · trivial

/-- Three assignments for an intent that desires two, two of them on one backend. -/
theorem primary_exceeds_replica_policy :
    ¬ ∀ timerIntentId policy (moves : List SchedulingMove),
      (∀ move ∈ moves, PolicyUnchanged timerIntentId policy move) →
      WithinPolicy policy timerIntentId (Run.final schedulingStep { state := {} } moves).state.timers := by
  intro within
  exact absurd (within (text "i") _ samplePrimary samplePrimary_unchanged) (by decide)

theorem scheduled_replicas_keep_policy_sample :
    let reached := (Run.final schedulingStep { state := {} } sampleReplicas).state.timers
    Run.Admits schedulingStep (ReplicasFindRoom (text "i") sampleIntent.spec.replicaPolicy)
        { state := {} } sampleReplicas ∧
      (activeOf (text "i") reached).map TimerAssignmentRow.backendId = [text "b", text "d"] := by
  refine ⟨(scheduled_replicas_keep_policy (text "i") _ sampleReplicas fun move member => ?_).1,
    by decide⟩
  exact samplePrimary_unchanged move (List.mem_append_left _ member)

end VdrSuite.Timers
