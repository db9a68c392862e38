import VdrSuite.Timers.ActiveAssignments
import VdrSuite.Timers.TimerAssignmentPlannerProperties

/-! The replica policy of an intent: what the planner promises for a replica, and what the promise
means for the active assignments. -/

set_option autoImplicit false

namespace VdrSuite.Timers

open Library

variable {store before after : TimerStore} {row : TimerAssignmentRow} {timerIntentId : Bytes}
  {policy : TimerIntentReplicaPolicy}

/-! ## The policy -/

/-- The active assignments of an intent are at most as many as desired, and on distinct backends if
that is required. -/
def WithinPolicy (policy : TimerIntentReplicaPolicy) (timerIntentId : Bytes) (store : TimerStore) :
    Prop :=
  (activeOf timerIntentId store).length ≤ policy.desiredAssignments ∧
    (policy.requireBackendDiversity = true →
      ((activeOf timerIntentId store).map TimerAssignmentRow.backendId).Nodup)

instance (policy : TimerIntentReplicaPolicy) (timerIntentId : Bytes) (store : TimerStore) :
    Decidable (WithinPolicy policy timerIntentId store) :=
  inferInstanceAs (Decidable (_ ∧ _))

def HasRoom (policy : TimerIntentReplicaPolicy) (timerIntentId backendId : Bytes)
    (store : TimerStore) : Prop :=
  (activeOf timerIntentId store).length < policy.desiredAssignments ∧
    (policy.requireBackendDiversity = true →
      backendId ∉ (activeOf timerIntentId store).map TimerAssignmentRow.backendId)

instance (policy : TimerIntentReplicaPolicy) (timerIntentId backendId : Bytes) (store : TimerStore) :
    Decidable (HasRoom policy timerIntentId backendId store) :=
  inferInstanceAs (Decidable (_ ∧ _))

theorem Identified.activeOf (identified : Identified store) (timerIntentId : Bytes) :
    ((activeOf timerIntentId store).map TimerAssignmentRow.timerAssignmentId).Nodup :=
  identified.sublist (List.filter_sublist.map _)

/-- Rows under distinct identities are at most as many as the rows that these identities come from. -/
theorem length_le_of_identities {rows others : List TimerAssignmentRow}
    (distinct : (rows.map TimerAssignmentRow.timerAssignmentId).Nodup)
    (known : ∀ row ∈ rows, ∃ other ∈ others, other.timerAssignmentId = row.timerAssignmentId) :
    rows.length ≤ others.length := by
  have contained : rows.map TimerAssignmentRow.timerAssignmentId ⊆
      others.map TimerAssignmentRow.timerAssignmentId := by
    intro identity member
    obtain ⟨row, present, rfl⟩ := List.mem_map.mp member
    obtain ⟨other, found, same⟩ := known row present
    exact List.mem_map.mpr ⟨other, found, same⟩
  simpa using (distinct.subperm contained).length_le

theorem ActivatesOne.length_le (activates : ActivatesOne before after)
    (identified : Identified after) (within : (activeOf timerIntentId before).length ≤
      policy.desiredAssignments)
    (room : ∀ row, Activated before after row → row.timerIntentId = timerIntentId →
      (activeOf timerIntentId before).length < policy.desiredAssignments) :
    (activeOf timerIntentId after).length ≤ policy.desiredAssignments := by
  by_cases fresh : ∃ row, Activated before after row ∧ row.timerIntentId = timerIntentId
  · obtain ⟨row, activated, intent⟩ := fresh
    have grown : (activeOf timerIntentId after).length ≤
        (row :: activeOf timerIntentId before).length := by
      apply length_le_of_identities (identified.activeOf timerIntentId)
      intro other member
      obtain ⟨active, same⟩ := mem_activeOf.mp member
      rcases activates.kept other active with new | ⟨old, present, ownership⟩
      · exact ⟨row, List.mem_cons_self, by rw [activates.single row other activated new]⟩
      · exact ⟨old, List.mem_cons_of_mem _ (mem_activeOf.mpr
          ⟨present, ownership.intent.trans same⟩), ownership.identity⟩
    have free := room row activated intent
    rw [List.length_cons] at grown
    omega
  · push Not at fresh
    apply le_trans _ within
    apply length_le_of_identities (identified.activeOf timerIntentId)
    intro other member
    obtain ⟨active, same⟩ := mem_activeOf.mp member
    rcases activates.kept other active with new | ⟨old, present, ownership⟩
    · exact absurd same (fresh other new)
    · exact ⟨old, mem_activeOf.mpr ⟨present, ownership.intent.trans same⟩, ownership.identity⟩

theorem ActivatesOne.withinPolicy (activates : ActivatesOne before after)
    (identified : Identified after) (within : WithinPolicy policy timerIntentId before)
    (room : ∀ row, Activated before after row → row.timerIntentId = timerIntentId →
      HasRoom policy timerIntentId row.backendId before) :
    WithinPolicy policy timerIntentId after := by
  refine ⟨activates.length_le identified within.1
    fun row activated intent => (room row activated intent).1, fun diverse => ?_⟩
  apply List.Nodup.map_on _ (identified.activeOf timerIntentId).of_map
  intro first firstMember second secondMember backend
  obtain ⟨firstActive, firstIntent⟩ := mem_activeOf.mp firstMember
  obtain ⟨secondActive, secondIntent⟩ := mem_activeOf.mp secondMember
  have unused {new kept old : TimerAssignmentRow} (activated : Activated before after new)
      (intent : new.timerIntentId = timerIntentId) (present : Active before old)
      (ownership : SameOwnership old kept) (keptIntent : kept.timerIntentId = timerIntentId) :
      new.backendId ≠ kept.backendId := by
    intro same
    apply (room new activated intent).2 diverse
    exact List.mem_map.mpr ⟨old, mem_activeOf.mpr ⟨present, ownership.intent.trans keptIntent⟩,
      ownership.backend.trans same.symm⟩
  rcases activates.kept first firstActive with firstNew | ⟨firstOld, firstPresent, firstKept⟩
  · rcases activates.kept second secondActive with secondNew | ⟨secondOld, secondPresent, secondKept⟩
    · exact activates.single first second firstNew secondNew
    · exact absurd backend (unused firstNew firstIntent secondPresent secondKept secondIntent)
  · rcases activates.kept second secondActive with secondNew | ⟨secondOld, secondPresent, secondKept⟩
    · exact absurd backend.symm (unused secondNew secondIntent firstPresent firstKept firstIntent)
    · have old : firstOld = secondOld := by
        apply List.inj_on_of_nodup_map (within.2 diverse)
        · exact mem_activeOf.mpr ⟨firstPresent, firstKept.intent.trans firstIntent⟩
        · exact mem_activeOf.mpr ⟨secondPresent, secondKept.intent.trans secondIntent⟩
        · exact firstKept.backend.trans (backend.trans secondKept.backend.symm)
      apply List.inj_on_of_nodup_map identified firstActive.1 secondActive.1
      rw [← firstKept.identity, ← secondKept.identity, old]

/-! ## Replicas -/

def activeReplicasOf (timerIntentId : Bytes) (store : TimerStore) : List TimerAssignmentRow :=
  (activeOf timerIntentId store).filter fun row => row.role == .replica

theorem mem_activeReplicasOf : row ∈ activeReplicasOf timerIntentId store ↔
    Active store row ∧ row.timerIntentId = timerIntentId ∧ row.role = .replica := by
  rw [activeReplicasOf, List.mem_filter, mem_activeOf, beq_iff_eq, and_assoc]

/-- A step whose activated replicas find room keeps the replicas within the desired number. -/
theorem ActivatesOne.replicas_le (activates : ActivatesOne before after)
    (identified : Identified after)
    (within : (activeReplicasOf timerIntentId before).length ≤ policy.desiredAssignments)
    (room : ∀ row, Activated before after row → row.timerIntentId = timerIntentId →
      row.role = .replica → (activeOf timerIntentId before).length < policy.desiredAssignments) :
    (activeReplicasOf timerIntentId after).length ≤ policy.desiredAssignments := by
  by_cases fresh : ∃ row, Activated before after row ∧ row.timerIntentId = timerIntentId ∧
      row.role = .replica
  · obtain ⟨row, activated, intent, replica⟩ := fresh
    have free := room row activated intent replica
    have all := activates.length_le identified free.le fun _ _ _ => free
    exact (List.length_filter_le _ _).trans all
  · push Not at fresh
    apply le_trans _ within
    apply length_le_of_identities ((identified.activeOf timerIntentId).sublist
      (List.filter_sublist.map _))
    intro other member
    obtain ⟨active, same, replica⟩ := (mem_activeReplicasOf).mp member
    rcases activates.kept other active with new | ⟨old, present, ownership⟩
    · exact absurd replica (fresh other new same)
    · exact ⟨old, (mem_activeReplicasOf).mpr ⟨present, ownership.intent.trans same,
        ownership.role.trans replica⟩, ownership.identity⟩

theorem activeOf_length_le (owner : AtMostOneOwner store) (timerIntentId : Bytes) :
    (activeOf timerIntentId store).length ≤ (activeReplicasOf timerIntentId store).length + 1 := by
  have split := List.length_eq_length_filter_add (l := activeOf timerIntentId store)
    (f := fun row => row.role == .replica)
  have others : ((activeOf timerIntentId store).filter fun row => !(row.role == .replica)).length ≤
      1 := by
    apply le_trans (le_of_eq _) (owner timerIntentId)
    rw [activeOf, List.filter_filter]
    congr 1
    apply List.filter_congr
    intro row _
    unfold activeExclusiveOwner
    cases row.role <;> simp [Bool.and_comm]
  unfold activeReplicasOf
  omega

/-! ## The planner's promise -/

theorem planTimerAssignment_selected {request : TimerAssignmentPlanningRequest}
    (selected : (planTimerAssignment request).outcome = .selected)
    (replica : request.role = .replica) :
    activeReplicaOwnerCount request.currentAssignments <
        request.intent.spec.replicaPolicy.desiredAssignments ∧
      (planTimerAssignment request).timerIntentId = request.intent.timerIntentId ∧
      (planTimerAssignment request).selectedBackendId ≠ [] ∧
      (request.intent.spec.replicaPolicy.requireBackendDiversity = true →
        (planTimerAssignment request).selectedBackendId ∉
          activeBackendIds request.currentAssignments) := by
  obtain ⟨shape, stays, _⟩ := (planTimerAssignment_selected_iff request).mp selected
  obtain ⟨candidate, selection⟩ := planTimerAssignment_selection selected
  have identity := (shapeValid_of_requestShapeValid shape).identities candidate selection.listed
  simp only [candidateIdentityValid, Bool.and_eq_true, nonEmptyBounded_iff] at identity
  refine ⟨?_, (planTimerAssignment_intent request).1, ?_, ?_⟩
  · by_contra satisfied
    exact stays (.inr (.inr ⟨replica, Nat.not_lt.mp satisfied⟩))
  · rw [selection.backend]
    exact identity.1.1.1.1.1.1.1.1.1.1.1.1
  · rw [selection.backend]
    exact selection.admissible.diverse replica

/-! ## Listings -/

def Lists (timerIntentId : Bytes) (store : TimerStore) (listed : List TimerAssignment) : Prop :=
  (rowsForIntent timerIntentId store).mapM readAssignment = some listed

theorem lists_of_ok {works : CarriedOut}
    (ok : (listForIntent works timerIntentId store).ok = true) :
    Lists timerIntentId store (listForIntent works timerIntentId store).assignments := by
  unfold listForIntent at ok ⊢
  split
  · next unsafeId =>
    rw [if_pos unsafeId] at ok
    cases ok
  · next safeId =>
    rw [if_neg safeId] at ok
    split
    · next broken =>
      rw [if_pos broken] at ok
      cases ok
    · next carriedOut =>
      rw [if_neg carriedOut] at ok
      split
      · next unreadable =>
        rw [unreadable] at ok
        cases ok
      · next listed read => exact read

theorem activeAssignments_backends {rows : List TimerAssignmentRow} {listed : List TimerAssignment}
    (read : rows.mapM readAssignment = some listed) :
    (activeAssignments listed).map TimerAssignment.backendId =
      (rows.filter fun row => timerAssignmentActiveOwnershipState row.state).map
        TimerAssignmentRow.backendId := by
  induction rows generalizing listed with
  | nil =>
    cases read
    rfl
  | cons row rows ih =>
    rw [List.mapM_cons] at read
    obtain ⟨assignment, first, read⟩ := Option.bind_eq_some_iff.mp read
    obtain ⟨rest, others, read⟩ := Option.bind_eq_some_iff.mp read
    cases read
    obtain ⟨-, -, evidence, desired, -, -, rfl, -, -⟩ :=
      (readAssignment_eq_some_iff row assignment).mp first
    have later := ih others
    unfold activeAssignments at later ⊢
    cases active : timerAssignmentActiveOwnershipState row.state with
    | true => simp [assignmentOfRow, active, later]
    | false => simp [assignmentOfRow, active, later]

theorem Lists.backends {listed : List TimerAssignment} (lists : Lists timerIntentId store listed) :
    ((activeAssignments listed).map TimerAssignment.backendId).Perm
      ((activeOf timerIntentId store).map TimerAssignmentRow.backendId) := by
  rw [activeAssignments_backends lists]
  apply List.Perm.map
  have order := (List.perm_insertionSort listedBefore (store.assignments.filter fun row =>
    row.timerIntentId == timerIntentId)).filter fun row =>
      timerAssignmentActiveOwnershipState row.state
  refine order.trans (List.Perm.of_eq ?_)
  rw [activeOf, List.filter_filter]
  exact List.filter_congr fun row _ => Bool.and_comm _ _

theorem activeReplicaOwnerCount_active (listed : List TimerAssignment) :
    activeReplicaOwnerCount (activeAssignments listed) = (activeAssignments listed).length := by
  apply List.countP_eq_length.mpr
  intro assignment member
  rw [(List.mem_filter.mp member).2]
  cases assignment.role <;> rfl

theorem selected_replica_has_room {intent : TimerIntent} {listed : List TimerAssignment}
    {request : TimerAssignmentSchedulingRequest} (lists : Lists timerIntentId store listed)
    (selected : (planTimerAssignment (planningRequest intent .replica listed request)).outcome =
      .selected) :
    HasRoom intent.spec.replicaPolicy timerIntentId
      (planTimerAssignment (planningRequest intent .replica listed request)).selectedBackendId
      store := by
  obtain ⟨below, -, placed, diverse⟩ := planTimerAssignment_selected selected rfl
  have backends := lists.backends
  have length := backends.length_eq
  rw [List.length_map, List.length_map] at length
  refine ⟨?_, fun required used => diverse required ?_⟩
  · rw [← length]
    exact activeReplicaOwnerCount_active listed ▸ below
  · obtain ⟨assignment, member, same⟩ := List.mem_map.mp (backends.mem_iff.mpr used)
    refine List.mem_map.mpr ⟨assignment, List.mem_filter.mpr ⟨member, ?_⟩, same⟩
    rw [← same] at placed
    rw [(List.mem_filter.mp member).2]
    simpa [List.isEmpty_iff] using placed

end VdrSuite.Timers
