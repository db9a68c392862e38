import Mathlib.Data.List.ReduceOption
import VdrSuite.Library.Choice
import VdrSuite.Timers.TimerAssignmentScheduling

/-! The planner selects the first admissible candidate, in whatever order candidates and assignments
are listed, and what it decides makes a valid assignment. -/

set_option autoImplicit false

namespace VdrSuite.Timers

open Library

/-! ## Bounded evidence -/

def Recordable (value : Bytes) : Prop := value ≠ [] ∧ value.length ≤ 256

instance (value : Bytes) : Decidable (Recordable value) := inferInstanceAs (Decidable (_ ∧ _))

theorem foldl_appendBounded_ne_nil {values kept : List Bytes} (nonempty : kept ≠ []) :
    values.foldl appendBounded kept ≠ [] := by
  induction values generalizing kept with
  | nil => exact nonempty
  | cons value values ih =>
    apply ih
    unfold appendBounded
    split
    · exact nonempty
    · exact List.append_ne_nil_of_right_ne_nil kept (List.cons_ne_nil value [])

theorem appendBounded_nil {value : Bytes} (recordable : Recordable value) :
    appendBounded [] value = [value] := by
  rw [appendBounded, if_neg]
  · rfl
  · simpa [List.isEmpty_iff, Recordable] using recordable

theorem foldl_appendBounded_nil {values : List Bytes}
    (recordable : ∀ value ∈ values, Recordable value) :
    values.foldl appendBounded [] = [] ↔ values = [] := by
  cases values with
  | nil => exact iff_of_true rfl rfl
  | cons value values =>
    have first := appendBounded_nil (recordable value List.mem_cons_self)
    have kept := @foldl_appendBounded_ne_nil values [value] (List.cons_ne_nil value [])
    rw [List.foldl_cons, first]
    exact iff_of_false kept (List.cons_ne_nil value values)

theorem appendBounded_valid {values : List Bytes} {value : Bytes}
    (valid : boundedEvidence values = true) : boundedEvidence (appendBounded values value) = true := by
  unfold appendBounded
  split
  case isTrue => exact valid
  case isFalse kept =>
    simp only [not_or, List.isEmpty_iff, not_le, not_lt] at kept
    simp only [boundedEvidence, Bool.and_eq_true, decide_eq_true_eq, List.all_eq_true] at valid ⊢
    refine ⟨by rw [List.length_append, List.length_singleton]; omega, ?_⟩
    intro other member
    cases List.mem_append.mp member with
    | inl old => exact valid.2 other old
    | inr new =>
      obtain rfl := List.mem_singleton.mp new
      exact (nonEmptyBounded_iff _ _).mpr kept.2

theorem foldl_appendBounded_valid {values kept : List Bytes}
    (valid : boundedEvidence kept = true) :
    boundedEvidence (values.foldl appendBounded kept) = true := by
  induction values generalizing kept with
  | nil => exact valid
  | cons value values ih => exact ih (appendBounded_valid valid)

/-! ## Exclusion rules -/

structure Usable (intent : TimerIntent) (candidate : TimerAssignmentPlanningBackendCandidate) :
    Prop where
  wanted : candidate.backendId ∉ intent.spec.assignmentPolicy.excludedBackendIds
  online : usableBackendState candidate.state = true
  writable : candidate.writeAllowed = true
  authority : candidate.executionAuthorityCurrent = true ∧ candidate.executionAuthorityFence ≠ []
  generation : candidate.currentBackendGeneration ≠ 0
  capability : (candidate.capability.current = true ∧ candidate.capability.revision ≠ []) ∧
    candidate.capability.backendGeneration = candidate.currentBackendGeneration ∧
    candidate.capability.timerCreate = true ∧ candidate.capability.timerReadback = true
  health : (candidate.health.current = true ∧ candidate.health.revision ≠ []) ∧
    candidate.health.backendGeneration = candidate.currentBackendGeneration ∧
    usableHealthState candidate.health.state = true ∧
    candidate.health.timerWritesAvailable = true
  mapping : candidate.channel.current = true ∧ candidate.channel.mappingRevision ≠ [] ∧
    candidate.channel.mappingSource ≠ [] ∧ candidate.channel.backendChannelId ≠ []
  mapped : candidate.channel.backendGeneration = candidate.currentBackendGeneration ∧
    candidate.channel.ambiguous = false
  canonical : intent.spec.channelRequirement.canonicalChannelId ≠ [] →
    candidate.channel.canonicalChannelId = intent.spec.channelRequirement.canonicalChannelId
  source : intent.spec.channelRequirement.sourceType ≠ [] →
    candidate.channel.sourceType = intent.spec.channelRequirement.sourceType ∧
    candidate.channel.sourceId = intent.spec.channelRequirement.sourceId ∧
    candidate.channel.sourceChannelId = intent.spec.channelRequirement.sourceChannelId
  specification : ∃ specification,
    candidate.desiredNativeTimerSpecification = some specification ∧
    nativeTimerSpecificationValid specification = true ∧
    specification.channelId = candidate.channel.backendChannelId
  clear : candidate.conflict = .confirmedClear

structure Admissible (request : TimerAssignmentPlanningRequest)
    (candidate : TimerAssignmentPlanningBackendCandidate) : Prop where
  usable : Usable request.intent candidate
  diverse : request.role = .replica →
    request.intent.spec.replicaPolicy.requireBackendDiversity = true →
    candidate.backendId ∉ activeBackendIds request.currentAssignments
  apart : request.role = .replica →
    request.intent.spec.replicaPolicy.requireSiteDiversity = true →
    (activeSiteIds request.currentAssignments request.candidates).2 = true ∧
    candidate.siteId ≠ [] ∧
    candidate.siteId ∉ (activeSiteIds request.currentAssignments request.candidates).1
  replaced : request.role = .replacement →
    candidate.backendId ∉ activeBackendIds request.currentAssignments

theorem excludeIf_none {condition : Bool} {reason : Bytes} :
    excludeIf condition reason = none ↔ condition = false := by
  cases condition <;> simp [excludeIf]

theorem rule_none {condition : Prop} [Decidable condition] {reason : Bytes}
    {next : Option Bytes} :
    (if condition then some reason else next) = none ↔ ¬ condition ∧ next = none := by
  split <;> simp [*]

theorem capabilityExclusion_none {candidate : TimerAssignmentPlanningBackendCandidate} :
    capabilityExclusion candidate = none ↔
      (candidate.capability.current = true ∧ candidate.capability.revision ≠ []) ∧
      candidate.capability.backendGeneration = candidate.currentBackendGeneration ∧
      candidate.capability.timerCreate = true ∧ candidate.capability.timerReadback = true := by
  simp only [capabilityExclusion, rule_none, excludeIf_none]
  simp

theorem healthExclusion_none {candidate : TimerAssignmentPlanningBackendCandidate} :
    healthExclusion candidate = none ↔
      (candidate.health.current = true ∧ candidate.health.revision ≠ []) ∧
      candidate.health.backendGeneration = candidate.currentBackendGeneration ∧
      usableHealthState candidate.health.state = true ∧
      candidate.health.timerWritesAvailable = true := by
  simp only [healthExclusion, rule_none, excludeIf_none]
  simp

theorem channelExclusion_none {requirement : TimerIntentChannelRequirement}
    {candidate : TimerAssignmentPlanningBackendCandidate} :
    channelExclusion requirement candidate = none ↔
      (candidate.channel.current = true ∧ candidate.channel.mappingRevision ≠ [] ∧
        candidate.channel.mappingSource ≠ [] ∧ candidate.channel.backendChannelId ≠ []) ∧
      (candidate.channel.backendGeneration = candidate.currentBackendGeneration ∧
        candidate.channel.ambiguous = false) ∧
      (requirement.canonicalChannelId ≠ [] →
        candidate.channel.canonicalChannelId = requirement.canonicalChannelId) ∧
      (requirement.sourceType ≠ [] →
        candidate.channel.sourceType = requirement.sourceType ∧
        candidate.channel.sourceId = requirement.sourceId ∧
        candidate.channel.sourceChannelId = requirement.sourceChannelId) := by
  simp only [channelExclusion, rule_none, excludeIf_none]
  simp [and_assoc]

theorem specificationExclusion_none {candidate : TimerAssignmentPlanningBackendCandidate} :
    specificationExclusion candidate = none ↔
      ∃ specification, candidate.desiredNativeTimerSpecification = some specification ∧
        nativeTimerSpecificationValid specification = true ∧
        specification.channelId = candidate.channel.backendChannelId := by
  unfold specificationExclusion
  cases candidate.desiredNativeTimerSpecification with
  | none => simp
  | some specification => simp [rule_none, excludeIf_none]

theorem conflictFact_none {conflict : TimerAssignmentPlanningConflictState} :
    (conflictFact conflict).2 = none ↔ conflict = .confirmedClear := by
  cases conflict <;> simp [conflictFact]

def usableExclusions (intent : TimerIntent) (candidate : TimerAssignmentPlanningBackendCandidate) :
    List (Option Bytes) :=
  [excludeIf (intent.spec.assignmentPolicy.excludedBackendIds.contains candidate.backendId)
      (text "excluded_by_intent"),
    excludeIf (!usableBackendState candidate.state)
      (text "backend_" ++ timerAssignmentPlanningBackendStateName candidate.state),
    excludeIf (!candidate.writeAllowed) (text "backend_write_forbidden"),
    excludeIf (!candidate.executionAuthorityCurrent || candidate.executionAuthorityFence.isEmpty)
      (text "execution_authority_unavailable"),
    excludeIf (candidate.currentBackendGeneration == 0) (text "backend_generation_missing"),
    capabilityExclusion candidate,
    healthExclusion candidate,
    channelExclusion intent.spec.channelRequirement candidate,
    specificationExclusion candidate,
    (conflictFact candidate.conflict).2]

theorem usableExclusions_none {intent : TimerIntent}
    {candidate : TimerAssignmentPlanningBackendCandidate} :
    (∀ exclusion ∈ usableExclusions intent candidate, exclusion = none) ↔
      Usable intent candidate := by
  simp only [usableExclusions, List.forall_mem_cons, excludeIf_none, capabilityExclusion_none,
    healthExclusion_none, channelExclusion_none, specificationExclusion_none, conflictFact_none]
  constructor
  · intro ⟨wanted, online, writable, authority, generation, capability, health, channel,
      specification, clear, _⟩
    exact
      { wanted := by simpa using wanted
        online := by simpa using online
        writable := by simpa using writable
        authority := by simpa using authority
        generation := by simpa using generation
        capability := capability
        health := health
        mapping := channel.1
        mapped := channel.2.1
        canonical := channel.2.2.1
        source := channel.2.2.2
        specification := specification
        clear := clear }
  · intro usable
    exact ⟨by simpa using usable.wanted, by simpa using usable.online,
      by simpa using usable.writable, by simpa using usable.authority,
      by simpa using usable.generation, usable.capability, usable.health,
      ⟨usable.mapping, usable.mapped, usable.canonical, usable.source⟩, usable.specification,
      usable.clear, fun _ none => absurd none List.not_mem_nil⟩

theorem roleExclusions_none {request : TimerAssignmentPlanningRequest}
    {candidate : TimerAssignmentPlanningBackendCandidate} :
    (∀ exclusion ∈ roleExclusions request candidate, exclusion = none) ↔
      (request.role = .replica →
        request.intent.spec.replicaPolicy.requireBackendDiversity = true →
        candidate.backendId ∉ activeBackendIds request.currentAssignments) ∧
      (request.role = .replica →
        request.intent.spec.replicaPolicy.requireSiteDiversity = true →
        (activeSiteIds request.currentAssignments request.candidates).2 = true ∧
        candidate.siteId ≠ [] ∧
        candidate.siteId ∉ (activeSiteIds request.currentAssignments request.candidates).1) ∧
      (request.role = .replacement →
        candidate.backendId ∉ activeBackendIds request.currentAssignments) := by
  have site : (if request.role == .replica &&
        request.intent.spec.replicaPolicy.requireSiteDiversity then
      if !(activeSiteIds request.currentAssignments request.candidates).2 ||
          candidate.siteId.isEmpty then
        some (text "site_diversity_evidence_missing")
      else excludeIf ((activeSiteIds request.currentAssignments request.candidates).1.contains
        candidate.siteId) (text "site_diversity_required")
      else none) = none ↔
      (request.role = .replica →
        request.intent.spec.replicaPolicy.requireSiteDiversity = true →
        (activeSiteIds request.currentAssignments request.candidates).2 = true ∧
        candidate.siteId ≠ [] ∧
        candidate.siteId ∉ (activeSiteIds request.currentAssignments request.candidates).1) := by
    split
    case isTrue demanded =>
      simp only [Bool.and_eq_true, beq_iff_eq] at demanded
      simp [rule_none, excludeIf_none, demanded, and_assoc]
    case isFalse free => simpa using fun replica demanded => absurd demanded (by simpa [replica] using free)
  simp only [roleExclusions, List.forall_mem_cons, site, excludeIf_none]
  simp

/-! ## Eligibility -/

def Recorded (exclusion : Option Bytes) : Prop := ∀ reason, exclusion = some reason → Recordable reason

theorem recorded_none : Recorded none := by
  intro reason present
  cases present

theorem recorded_some {reason : Bytes} (recordable : Recordable reason) : Recorded (some reason) := by
  intro other same
  obtain rfl := Option.some.inj same
  exact recordable

theorem recorded_rule {condition : Prop} [Decidable condition] {reason : Bytes}
    {next : Option Bytes} (recordable : Recordable reason) (recorded : Recorded next) :
    Recorded (if condition then some reason else next) := by
  split
  case isTrue => exact recorded_some recordable
  case isFalse => exact recorded

theorem recorded_excludeIf {condition : Bool} {reason : Bytes} (recordable : Recordable reason) :
    Recorded (excludeIf condition reason) :=
  recorded_rule recordable recorded_none

theorem recorded_capability (candidate : TimerAssignmentPlanningBackendCandidate) :
    Recorded (capabilityExclusion candidate) :=
  recorded_rule (by decide) (recorded_rule (by decide)
    (recorded_excludeIf (by decide)))

theorem recorded_health (candidate : TimerAssignmentPlanningBackendCandidate) :
    Recorded (healthExclusion candidate) :=
  recorded_rule (by decide) (recorded_rule (by decide)
    (recorded_excludeIf (by decide)))

theorem recorded_channel (requirement : TimerIntentChannelRequirement)
    (candidate : TimerAssignmentPlanningBackendCandidate) :
    Recorded (channelExclusion requirement candidate) :=
  recorded_rule (by decide) (recorded_rule (by decide)
    (recorded_rule (by decide) (recorded_rule (by decide)
      (recorded_excludeIf (by decide)))))

theorem recorded_specification (candidate : TimerAssignmentPlanningBackendCandidate) :
    Recorded (specificationExclusion candidate) := by
  unfold specificationExclusion
  cases candidate.desiredNativeTimerSpecification with
  | none => exact recorded_some (by decide)
  | some specification =>
    exact recorded_rule (by decide) (recorded_excludeIf (by decide))

theorem recorded_conflict (conflict : TimerAssignmentPlanningConflictState) :
    Recorded (conflictFact conflict).2 := by
  cases conflict with
  | confirmedClear => exact recorded_none
  | confirmedConflict => exact recorded_some (by decide)
  | partialEvidence => exact recorded_some (by decide)
  | unavailable => exact recorded_some (by decide)
  | stale => exact recorded_some (by decide)

theorem recorded_exclusions (request : TimerAssignmentPlanningRequest)
    (candidate : TimerAssignmentPlanningBackendCandidate) :
    ∀ exclusion ∈ usableExclusions request.intent candidate ++ roleExclusions request candidate,
      Recorded exclusion := by
  have state : Recordable
      (text "backend_" ++ timerAssignmentPlanningBackendStateName candidate.state) := by
    cases candidate.state <;> decide
  have site : Recorded (if request.role == .replica &&
        request.intent.spec.replicaPolicy.requireSiteDiversity then
      if !(activeSiteIds request.currentAssignments request.candidates).2 ||
          candidate.siteId.isEmpty then
        some (text "site_diversity_evidence_missing")
      else excludeIf ((activeSiteIds request.currentAssignments request.candidates).1.contains
        candidate.siteId) (text "site_diversity_required")
      else none) := by
    split
    case isTrue =>
      exact recorded_rule (by decide) (recorded_excludeIf (by decide))
    case isFalse => exact recorded_none
  simp only [usableExclusions, roleExclusions, List.cons_append, List.nil_append,
    List.forall_mem_cons]
  exact ⟨recorded_excludeIf (by decide), recorded_excludeIf state,
    recorded_excludeIf (by decide), recorded_excludeIf (by decide),
    recorded_excludeIf (by decide), recorded_capability candidate,
    recorded_health candidate, recorded_channel _ candidate, recorded_specification candidate,
    recorded_conflict candidate.conflict, recorded_excludeIf (by decide), site,
    recorded_excludeIf (by decide), fun _ none => absurd none List.not_mem_nil⟩

theorem eligible_iff {request : TimerAssignmentPlanningRequest}
    {candidate : TimerAssignmentPlanningBackendCandidate} :
    (evaluateCandidate request candidate).eligible = true ↔ Admissible request candidate := by
  have listed : candidateExclusions request candidate =
      (usableExclusions request.intent candidate ++
        roleExclusions request candidate).reduceOption.foldl appendBounded [] := rfl
  have recordable : ∀ reason ∈ (usableExclusions request.intent candidate ++
      roleExclusions request candidate).reduceOption, Recordable reason := by
    intro reason member
    exact recorded_exclusions request candidate (some reason)
      (List.reduceOption_mem_iff.mp member) reason rfl
  have empty (exclusions : List (Option Bytes)) :
      exclusions.reduceOption = [] ↔ ∀ exclusion ∈ exclusions, exclusion = none := by
    rw [List.reduceOption, List.filterMap_eq_nil_iff]
    rfl
  change (candidateExclusions request candidate).isEmpty = true ↔ _
  rw [List.isEmpty_iff, listed, foldl_appendBounded_nil recordable, empty,
    List.forall_mem_append, usableExclusions_none, roleExclusions_none]
  constructor
  · intro ⟨usable, diverse, apart, replaced⟩
    exact ⟨usable, diverse, apart, replaced⟩
  · intro ⟨usable, diverse, apart, replaced⟩
    exact ⟨usable, diverse, apart, replaced⟩

/-! ## The order of candidates -/

/-- The place among the preferred backends, with all others behind them, and then the identity. -/
def ChosenBefore (policy : TimerIntentAssignmentPolicy) (first second : Bytes) : Prop :=
  policy.preferredBackendIds.idxOf first < policy.preferredBackendIds.idxOf second ∨
    policy.preferredBackendIds.idxOf first = policy.preferredBackendIds.idxOf second ∧
      first ≤ second

theorem preferenceRank_fst (policy : TimerIntentAssignmentPolicy) (backendId : Bytes) :
    (preferenceRank policy backendId).1 =
      if backendId ∈ policy.preferredBackendIds then policy.preferredBackendIds.idxOf backendId
      else 32 := by
  unfold preferenceRank
  cases found : policy.preferredBackendIds.idxOf? backendId with
  | none =>
    rw [List.idxOf?_eq_none_iff] at found
    rw [if_neg found]
  | some rank =>
    have present : backendId ∈ policy.preferredBackendIds := by
      by_contra absent
      rw [List.idxOf?_eq_none_iff.mpr absent] at found
      cases found
    rw [if_pos present, List.idxOf_eq_getD_idxOf?, found]
    rfl

theorem consideredBefore_iff {policy : TimerIntentAssignmentPolicy}
    (short : policy.preferredBackendIds.length ≤ 32)
    {first second : TimerAssignmentPlanningBackendCandidate} :
    consideredBefore policy first second ↔
      ChosenBefore policy first.backendId second.backendId := by
  unfold consideredBefore ChosenBefore
  dsimp only
  rw [preferenceRank_fst, preferenceRank_fst]
  by_cases firstPreferred : first.backendId ∈ policy.preferredBackendIds
  · have firstRank := List.idxOf_lt_length_of_mem firstPreferred
    by_cases secondPreferred : second.backendId ∈ policy.preferredBackendIds
    · rw [if_pos firstPreferred, if_pos secondPreferred]
    · rw [if_pos firstPreferred, if_neg secondPreferred, List.idxOf_eq_length secondPreferred]
      constructor
      · intro _
        exact .inl firstRank
      · intro _
        exact .inl (by omega)
  · rw [if_neg firstPreferred, List.idxOf_eq_length firstPreferred]
    by_cases secondPreferred : second.backendId ∈ policy.preferredBackendIds
    · have secondRank := List.idxOf_lt_length_of_mem secondPreferred
      rw [if_pos secondPreferred]
      constructor
      · intro before
        omega
      · intro before
        omega
    · rw [if_neg secondPreferred, List.idxOf_eq_length secondPreferred]
      simp

instance consideredBefore_total (policy : TimerIntentAssignmentPolicy) :
    Std.Total (consideredBefore policy) := by
  constructor
  intro first second
  unfold consideredBefore
  obtain less | same | greater := Nat.lt_trichotomy (preferenceRank policy first.backendId).1
    (preferenceRank policy second.backendId).1
  · exact .inl (.inl less)
  · cases List.le_total first.backendId second.backendId with
    | inl before => exact .inl (.inr ⟨same, before⟩)
    | inr behind => exact .inr (.inr ⟨same.symm, behind⟩)
  · exact .inr (.inl greater)

instance consideredBefore_trans (policy : TimerIntentAssignmentPolicy) :
    IsTrans TimerAssignmentPlanningBackendCandidate (consideredBefore policy) := by
  constructor
  intro first second third
  unfold consideredBefore
  dsimp only
  intro earlier later
  cases earlier with
  | inl less =>
    cases later with
    | inl lesser => exact .inl (less.trans lesser)
    | inr same => exact .inl (same.1 ▸ less)
  | inr same =>
    cases later with
    | inl less => exact .inl (same.1 ▸ less)
    | inr again => exact .inr ⟨same.1.trans again.1, List.le_trans same.2 again.2⟩

/-! ## Decisions -/

def ExitsEarly (request : TimerAssignmentPlanningRequest) : Prop :=
  request.intent.spec.assignmentPolicy.requireOperatorReview = true ∨
  (request.role = .primary ∧ hasActivePrimary request.currentAssignments = true) ∨
  (request.role = .replica ∧ request.intent.spec.replicaPolicy.desiredAssignments ≤
    activeReplicaOwnerCount request.currentAssignments)

theorem planTimerAssignment_cases (request : TimerAssignmentPlanningRequest) :
    (requestShapeValid request = false ∧
      planTimerAssignment request =
        targetlessDecision request .invalid [text "invalid_planning_input"]) ∨
    (requestShapeValid request = true ∧ ExitsEarly request ∧
      ∃ reason, Recordable reason ∧
        planTimerAssignment request = targetlessDecision request .unassigned [reason]) ∨
    (requestShapeValid request = true ∧ ¬ ExitsEarly request ∧
      planTimerAssignment request = chooseCandidate request) := by
  unfold planTimerAssignment
  cases shape : requestShapeValid request with
  | false => exact .inl ⟨rfl, if_pos rfl⟩
  | true =>
    rw [if_neg (by decide)]
    by_cases reviewed : request.intent.spec.assignmentPolicy.requireOperatorReview = true
    · rw [if_pos reviewed]
      exact .inr (.inl ⟨rfl, .inl reviewed, _, by decide, rfl⟩)
    · rw [if_neg reviewed]
      by_cases owned : request.role = .primary ∧
          hasActivePrimary request.currentAssignments = true
      · rw [if_pos owned]
        exact .inr (.inl ⟨rfl, .inr (.inl owned), _, by decide, rfl⟩)
      · rw [if_neg owned]
        by_cases satisfied : request.role = .replica ∧
            request.intent.spec.replicaPolicy.desiredAssignments ≤
              activeReplicaOwnerCount request.currentAssignments
        · rw [if_pos satisfied]
          exact .inr (.inl ⟨rfl, .inr (.inr satisfied), _, by decide, rfl⟩)
        · rw [if_neg satisfied]
          refine .inr (.inr ⟨rfl, ?_, rfl⟩)
          intro exits
          obtain first | second | third := exits
          · exact reviewed first
          · exact owned second
          · exact satisfied third

theorem planTimerAssignment_intent (request : TimerAssignmentPlanningRequest) :
    (planTimerAssignment request).timerIntentId = request.intent.timerIntentId ∧
      (planTimerAssignment request).intentRevision = request.intent.intentRevision := by
  obtain ⟨_, refused⟩ | ⟨_, _, _, _, early⟩ | ⟨_, _, chosen⟩ := planTimerAssignment_cases request
  · rw [refused]
    exact ⟨rfl, rfl⟩
  · rw [early]
    exact ⟨rfl, rfl⟩
  · rw [chosen]
    unfold chooseCandidate
    dsimp only
    split <;> exact ⟨rfl, rfl⟩

def exclusionEvidence (request : TimerAssignmentPlanningRequest) : List Bytes :=
  (((orderedCandidates request).map (evaluateCandidate request)).flatMap fun evaluation =>
    evaluation.exclusions.map (backendFact evaluation.backendId)).foldl appendBounded []

theorem chooseCandidate_cases (request : TimerAssignmentPlanningRequest) :
    ((∀ candidate ∈ request.candidates, ¬ Admissible request candidate) ∧
      chooseCandidate request =
        { targetlessDecision request .unassigned [] with
          decisionEvidence :=
            { reasons := [text "no_eligible_backend"], exclusions := exclusionEvidence request }
          candidates := (orderedCandidates request).map (evaluateCandidate request) }) ∨
    ∃ selected ∈ request.candidates, Admissible request selected ∧
      (∀ other ∈ request.candidates, Admissible request other →
        consideredBefore request.intent.spec.assignmentPolicy selected other) ∧
      chooseCandidate request = selectedDecision request
        ((orderedCandidates request).map (evaluateCandidate request)) (exclusionEvidence request)
        selected := by
  unfold chooseCandidate
  dsimp only
  cases found : (orderedCandidates request).find? fun candidate =>
      (evaluateCandidate request candidate).eligible with
  | none =>
    refine .inl ⟨?_, rfl⟩
    intro candidate member admissible
    have refused := Choice.find?_insertionSort_none.mp found candidate member
    rw [(eligible_iff).mpr admissible] at refused
    cases refused
  | some selected =>
    obtain ⟨member, eligible, first⟩ := Choice.find?_insertionSort found
    refine .inr ⟨selected, member, (eligible_iff).mp eligible, ?_, rfl⟩
    intro other listed admissible
    exact first other listed ((eligible_iff).mpr admissible)

/-! ## Requests of a valid shape -/

structure ShapeValid (request : TimerAssignmentPlanningRequest) : Prop where
  intent : timerIntentValid request.intent = true
  identities : ∀ candidate ∈ request.candidates, candidateIdentityValid candidate = true
  unique : (request.candidates.map (·.backendId)).Nodup

theorem shapeValid_of_requestShapeValid {request : TimerAssignmentPlanningRequest}
    (shape : requestShapeValid request = true) : ShapeValid request := by
  simp only [requestShapeValid, Bool.and_eq_true, List.all_eq_true, decide_eq_true_eq] at shape
  obtain ⟨⟨⟨⟨⟨⟨⟨⟨intent, _⟩, _⟩, _⟩, _⟩, _⟩, identities⟩, unique⟩, _⟩ := shape
  exact ⟨intent, identities, unique⟩

theorem ShapeValid.preferred {request : TimerAssignmentPlanningRequest} (shape : ShapeValid request) :
    request.intent.spec.assignmentPolicy.preferredBackendIds.length ≤ 32 := by
  have intent := shape.intent
  simp only [timerIntentValid, timerIntentValidSpec, assignmentPolicyValid, uniqueBoundedIds,
    Bool.and_eq_true, decide_eq_true_eq] at intent
  obtain ⟨⟨⟨⟨_, spec⟩, _⟩, _⟩, _⟩ := intent
  obtain ⟨⟨⟨⟨_, policy⟩, _⟩, _⟩, _⟩ := spec
  exact policy.1.1.1.1

theorem ShapeValid.identity {request : TimerAssignmentPlanningRequest} (shape : ShapeValid request) :
    nonEmptyBounded request.intent.timerIntentId 160 = true ∧
      nonEmptyBounded request.intent.intentRevision 160 = true := by
  have intent := shape.intent
  simp only [timerIntentValid, Bool.and_eq_true] at intent
  obtain ⟨⟨⟨⟨⟨⟨timerIntentId, intentRevision⟩, _⟩, _⟩, _⟩, _⟩, _⟩ := intent
  exact ⟨timerIntentId, intentRevision⟩

theorem ShapeValid.decided {request : TimerAssignmentPlanningRequest} (shape : ShapeValid request) :
    Choice.Decided (consideredBefore request.intent.spec.assignmentPolicy) request.candidates := by
  intro first firstListed second secondListed before behind
  apply List.inj_on_of_nodup_map shape.unique firstListed secondListed
  unfold consideredBefore at before behind
  dsimp only at before behind
  obtain less | ⟨_, earlier⟩ := before
  · obtain more | ⟨same, _⟩ := behind
    · omega
    · omega
  · obtain more | ⟨_, later⟩ := behind
    · omega
    · exact List.le_antisymm earlier later

theorem ShapeValid.rank_le {request : TimerAssignmentPlanningRequest} (shape : ShapeValid request)
    (backendId : Bytes) :
    (preferenceRank request.intent.spec.assignmentPolicy backendId).1 ≤ 32 := by
  have short := shape.preferred
  rw [preferenceRank_fst]
  split
  case isTrue preferred => exact (List.idxOf_lt_length_of_mem preferred).le.trans short
  case isFalse => exact Nat.le_refl 32

/-! ## Valid assignments -/

def filledIn (assignment : TimerAssignment) (assignmentRevision : Bytes) (assignmentEpoch : Nat) :
    TimerAssignment :=
  { assignment with assignmentRevision := assignmentRevision, assignmentEpoch := assignmentEpoch }

theorem policyVersion_valid : nonEmptyBounded timerAssignmentPlanningPolicyVersion 160 = true := by
  decide

theorem boundedEvidence_reason {reason : Bytes} (recordable : Recordable reason) :
    boundedEvidence [reason] = true := by
  rw [← appendBounded_nil recordable]
  exact appendBounded_valid rfl

theorem selectedEvidence_valid {request : TimerAssignmentPlanningRequest}
    (shape : ShapeValid request) (selected : TimerAssignmentPlanningBackendCandidate) :
    decisionEvidenceValid (selectedDecision request
      ((orderedCandidates request).map (evaluateCandidate request)) (exclusionEvidence request)
      selected).decisionEvidence = true := by
  have rank := shape.rank_le selected.backendId
  have reasons (preferred : Bool) : boundedEvidence [text "selected_eligible_backend",
      if preferred then text "selected_preferred_backend"
      else text "selected_deterministic_backend_id"] = true := by
    cases preferred <;> decide
  have lead (condition : Prop) [Decidable condition] : boundedEvidence
      (if condition then [text "preferred_backends_ineligible"] else []) = true := by
    split <;> decide
  have score : (evaluateCandidate request selected).preferenceRank =
      (preferenceRank request.intent.spec.assignmentPolicy selected.backendId).1 := rfl
  simp only [decisionEvidenceValid, selectedDecision, Bool.and_eq_true, decide_eq_true_eq, score]
  refine ⟨⟨⟨⟨⟨⟨rfl, reasons _⟩, ?_⟩, ?_⟩, ?_⟩, by omega⟩, by omega⟩
  · exact foldl_appendBounded_valid (lead _)
  · exact foldl_appendBounded_valid rfl
  · exact foldl_appendBounded_valid rfl

theorem filledIn_fields {request : TimerAssignmentPlanningRequest} (shape : ShapeValid request)
    {assignment : TimerAssignment} {assignmentRevision : Bytes} {assignmentEpoch : Nat}
    (id : nonEmptyBounded assignment.timerAssignmentId 160 = true)
    (revision : nonEmptyBounded assignmentRevision 160 = true) (epoch : assignmentEpoch ≠ 0)
    (intent : assignment.timerIntentId = request.intent.timerIntentId)
    (intentRevision : assignment.intentRevision = request.intent.intentRevision)
    (policy : assignment.decisionPolicyVersion = timerAssignmentPlanningPolicyVersion)
    (evidence : decisionEvidenceValid assignment.decisionEvidence = true)
    (binding : assignment.nativeTimerBindingId = []) (created : 0 < assignment.createdAt)
    (updated : assignment.updatedAt = assignment.createdAt) :
    assignmentFieldsValid (filledIn assignment assignmentRevision assignmentEpoch) = true := by
  simp only [assignmentFieldsValid, filledIn, Bool.and_eq_true, decide_eq_true_eq, intent,
    intentRevision, policy, binding, updated, bne_iff_ne]
  exact ⟨⟨⟨⟨⟨⟨⟨⟨⟨id, revision⟩, shape.identity.1⟩, shape.identity.2⟩, epoch⟩, policyVersion_valid⟩,
    evidence⟩, rfl⟩, created⟩, le_refl _⟩

theorem selected_assignedShape {request : TimerAssignmentPlanningRequest}
    {selected : TimerAssignmentPlanningBackendCandidate}
    (identity : candidateIdentityValid selected = true) (usable : Usable request.intent selected)
    {assignment : TimerAssignment} (backend : assignment.backendId = selected.backendId)
    (generation : assignment.backendGeneration = selected.currentBackendGeneration)
    (binding : assignment.channelBinding =
      ⟨selected.channel.canonicalChannelId, selected.channel.backendChannelId,
        selected.channel.mappingSource, selected.channel.mappingRevision⟩)
    (capability : assignment.capabilityRevision = selected.capability.revision)
    (health : assignment.backendHealthRevision = selected.health.revision) :
    assignedShapeValid assignment = true := by
  simp only [candidateIdentityValid, Bool.and_eq_true] at identity
  obtain ⟨⟨⟨⟨⟨⟨⟨⟨⟨⟨⟨backendId, _⟩, _⟩, capabilityRevision⟩, healthRevision⟩, mappingRevision⟩,
    mappingSource⟩, canonicalChannelId⟩, _⟩, _⟩, _⟩, backendChannelId⟩ := identity
  have present {value : Bytes} (filled : value ≠ []) (short : bounded value 160 = true) :
      nonEmptyBounded value 160 = true := by
    rw [nonEmptyBounded_iff]
    exact ⟨filled, of_decide_eq_true short⟩
  have bound : channelBindingPresent ⟨selected.channel.canonicalChannelId,
      selected.channel.backendChannelId, selected.channel.mappingSource,
      selected.channel.mappingRevision⟩ = true := by
    simp [channelBindingPresent, usable.mapping.2.1]
  simp only [assignedShapeValid, channelBindingValid, backend, generation, binding, capability,
    health, Bool.and_eq_true, decide_eq_true_eq]
  exact ⟨⟨⟨⟨backendId, Nat.pos_of_ne_zero usable.generation⟩, ⟨⟨⟨bound, canonicalChannelId⟩,
    present usable.mapping.2.2.2 backendChannelId⟩, present usable.mapping.2.2.1 mappingSource⟩,
    present usable.mapping.2.1 mappingRevision⟩, present usable.capability.1.2 capabilityRevision⟩,
    present usable.health.1.2 healthRevision⟩

theorem unassigned_valid {request : TimerAssignmentPlanningRequest} (shape : ShapeValid request)
    (scheduling : TimerAssignmentSchedulingRequest) (role : TimerAssignmentRole)
    {assignmentRevision : Bytes} {assignmentEpoch : Nat}
    (id : nonEmptyBounded scheduling.timerAssignmentId 160 = true)
    (revision : nonEmptyBounded assignmentRevision 160 = true) (epoch : assignmentEpoch ≠ 0)
    (created : 0 < scheduling.createdAt) {decision : TimerAssignmentPlanningDecision}
    (outcome : decision.outcome ≠ .selected)
    (intent : decision.timerIntentId = request.intent.timerIntentId)
    (intentRevision : decision.intentRevision = request.intent.intentRevision)
    (policy : decision.decisionPolicyVersion = timerAssignmentPlanningPolicyVersion)
    (evidence : decisionEvidenceValid decision.decisionEvidence = true) :
    timerAssignmentValid (filledIn (assignmentFromDecision scheduling role decision)
      assignmentRevision assignmentEpoch) = true := by
  rw [timerAssignmentValid, Bool.and_eq_true]
  unfold assignmentFromDecision
  rw [if_neg outcome]
  exact ⟨filledIn_fields shape id revision epoch intent intentRevision policy evidence rfl created
    rfl, rfl⟩

theorem planned_valid {request : TimerAssignmentPlanningRequest}
    (scheduling : TimerAssignmentSchedulingRequest) (role : TimerAssignmentRole)
    {assignmentRevision : Bytes} {assignmentEpoch : Nat}
    (id : nonEmptyBounded scheduling.timerAssignmentId 160 = true)
    (revision : nonEmptyBounded assignmentRevision 160 = true) (epoch : assignmentEpoch ≠ 0)
    (created : 0 < scheduling.createdAt)
    (outcome : (planTimerAssignment request).outcome ≠ .invalid) :
    timerAssignmentValid (filledIn
      (assignmentFromDecision scheduling role (planTimerAssignment request))
      assignmentRevision assignmentEpoch) = true := by
  obtain ⟨_, refused⟩ | ⟨shape, _, reason, recordable, early⟩ | ⟨shape, _, chosen⟩ :=
    planTimerAssignment_cases request
  · rw [refused] at outcome
    exact absurd rfl outcome
  · have wellFormed := shapeValid_of_requestShapeValid shape
    rw [early]
    apply unassigned_valid wellFormed scheduling role id revision epoch created
      (fun selected => by cases selected) rfl rfl rfl
    have bounded := boundedEvidence_reason recordable
    simp only [decisionEvidenceValid, targetlessDecision, bounded]
    rfl
  · have wellFormed := shapeValid_of_requestShapeValid shape
    rw [chosen]
    obtain ⟨_, none⟩ | ⟨selected, member, admissible, _, target⟩ := chooseCandidate_cases request
    · rw [none]
      apply unassigned_valid wellFormed scheduling role id revision epoch created
        (fun selected => by cases selected) rfl rfl rfl
      have exclusions : boundedEvidence (exclusionEvidence request) = true :=
        foldl_appendBounded_valid rfl
      have reason : boundedEvidence [text "no_eligible_backend"] = true := by decide
      simp only [decisionEvidenceValid, reason, exclusions]
      rfl
    · rw [target, timerAssignmentValid, Bool.and_eq_true]
      have outcome : (selectedDecision request
          ((orderedCandidates request).map (evaluateCandidate request)) (exclusionEvidence request)
          selected).outcome = .selected := rfl
      simp only [assignmentFromDecision]
      rw [if_pos outcome]
      constructor
      · exact filledIn_fields wellFormed id revision epoch rfl rfl rfl
          (selectedEvidence_valid wellFormed selected) rfl created rfl
      · exact selected_assignedShape (wellFormed.identities selected member) admissible.usable rfl rfl
          rfl rfl rfl

/-! ## Other listings of the same request -/

/-- The same request with its candidates and current assignments in another order. -/
structure Relisted (request relisted : TimerAssignmentPlanningRequest) : Prop where
  intent : relisted.intent = request.intent
  role : relisted.role = request.role
  candidates : request.candidates.Perm relisted.candidates
  assignments : request.currentAssignments.Perm relisted.currentAssignments

section Relisting

variable {request relisted : TimerAssignmentPlanningRequest}

theorem Relisted.shape (same : Relisted request relisted) :
    requestShapeValid relisted = requestShapeValid request := by
  have unique : (relisted.candidates.map (·.backendId)).Nodup ↔
      (request.candidates.map (·.backendId)).Nodup := (same.candidates.map _).nodup_iff.symm
  simp only [requestShapeValid, same.intent, same.role, same.candidates.length_eq,
    same.assignments.length_eq, same.candidates.all_eq, same.assignments.all_eq, unique]

theorem Relisted.activeBackendIds (same : Relisted request relisted) :
    (activeBackendIds request.currentAssignments).Perm
      (activeBackendIds relisted.currentAssignments) :=
  (same.assignments.filter _).map _

theorem Relisted.activeSiteIds (same : Relisted request relisted)
    (unique : (request.candidates.map (·.backendId)).Nodup) :
    ((activeSiteIds request.currentAssignments request.candidates).1.Perm
      (activeSiteIds relisted.currentAssignments relisted.candidates).1) ∧
    (activeSiteIds relisted.currentAssignments relisted.candidates).2 =
      (activeSiteIds request.currentAssignments request.candidates).2 := by
  have site (backendId : Bytes) :
      ((relisted.candidates.find? fun candidate => candidate.backendId == backendId).map
        (·.siteId)).getD [] =
      ((request.candidates.find? fun candidate => candidate.backendId == backendId).map
        (·.siteId)).getD [] := by
    rw [Choice.find?_key_of_perm unique same.candidates backendId]
  have sites := same.activeBackendIds.map fun backendId =>
    ((request.candidates.find? fun candidate => candidate.backendId == backendId).map
      (·.siteId)).getD []
  simp only [Timers.activeSiteIds, site]
  exact ⟨sites.filter _, sites.symm.all_eq⟩

theorem Relisted.roleExclusions (same : Relisted request relisted)
    (unique : (request.candidates.map (·.backendId)).Nodup)
    (candidate : TimerAssignmentPlanningBackendCandidate) :
    roleExclusions relisted candidate = roleExclusions request candidate := by
  obtain ⟨sites, complete⟩ := same.activeSiteIds unique
  have used (backendId : Bytes) :
      (Timers.activeBackendIds relisted.currentAssignments).contains backendId =
        (Timers.activeBackendIds request.currentAssignments).contains backendId :=
    same.activeBackendIds.symm.contains_eq
  have placed (siteId : Bytes) :
      (Timers.activeSiteIds relisted.currentAssignments relisted.candidates).1.contains siteId =
        (Timers.activeSiteIds request.currentAssignments request.candidates).1.contains siteId :=
    sites.symm.contains_eq
  simp only [Timers.roleExclusions, same.intent, same.role, used, placed, complete]

theorem Relisted.evaluateCandidate (same : Relisted request relisted)
    (unique : (request.candidates.map (·.backendId)).Nodup) :
    evaluateCandidate relisted = evaluateCandidate request := by
  funext candidate
  have exclusions : candidateExclusions relisted candidate = candidateExclusions request candidate := by
    simp only [candidateExclusions, same.intent, same.roleExclusions unique]
  simp only [Timers.evaluateCandidate, same.intent, exclusions]

theorem Relisted.orderedCandidates (same : Relisted request relisted) (shape : ShapeValid request) :
    orderedCandidates relisted = orderedCandidates request := by
  unfold Timers.orderedCandidates
  rw [same.intent]
  exact (Choice.insertionSort_of_perm shape.decided same.candidates).symm

theorem Relisted.chooseCandidate (same : Relisted request relisted) (shape : ShapeValid request) :
    chooseCandidate relisted = chooseCandidate request := by
  have targetless (outcome : TimerAssignmentPlanningOutcome) (reasons : List Bytes) :
      targetlessDecision relisted outcome reasons = targetlessDecision request outcome reasons := by
    simp only [targetlessDecision, same.intent, same.role]
  have selected (evaluations : List TimerAssignmentPlanningCandidateEvaluation)
      (exclusions : List Bytes) (candidate : TimerAssignmentPlanningBackendCandidate) :
      selectedDecision relisted evaluations exclusions candidate =
        selectedDecision request evaluations exclusions candidate := by
    simp only [selectedDecision, targetless, same.intent, same.evaluateCandidate shape.unique]
  simp only [Timers.chooseCandidate, same.orderedCandidates shape,
    same.evaluateCandidate shape.unique, targetless, selected]

theorem Relisted.planTimerAssignment (same : Relisted request relisted) :
    planTimerAssignment relisted = planTimerAssignment request := by
  have primary : hasActivePrimary relisted.currentAssignments =
      hasActivePrimary request.currentAssignments := same.assignments.symm.any_eq
  have owners : activeReplicaOwnerCount relisted.currentAssignments =
      activeReplicaOwnerCount request.currentAssignments := same.assignments.symm.countP_eq _
  have targetless (outcome : TimerAssignmentPlanningOutcome) (reasons : List Bytes) :
      targetlessDecision relisted outcome reasons = targetlessDecision request outcome reasons := by
    simp only [targetlessDecision, same.intent, same.role]
  cases shape : requestShapeValid request with
  | false => simp only [Timers.planTimerAssignment, same.shape, shape, targetless]; rfl
  | true =>
    have chosen := same.chooseCandidate (shapeValid_of_requestShapeValid shape)
    simp only [Timers.planTimerAssignment, same.shape, targetless, same.intent, same.role,
      primary, owners, chosen]

end Relisting

/-! ## Equivalence -/

theorem equivalent_self {decision : TimerAssignmentPlanningDecision}
    (empty : decision.outcome = .unassigned → selectedTargetEmpty decision = true) :
    timerAssignmentPlanningDecisionEquivalent decision decision = true := by
  have specification : sameSelectedSpecification decision.selectedNativeTimerSpecification
      decision.selectedNativeTimerSpecification = true := by
    cases decision.selectedNativeTimerSpecification with
    | none => rfl
    | some specification => simp [sameSelectedSpecification, sameNativeTimerSpecification]
  have evaluations : ((decision.candidates.zip decision.candidates).any fun pair =>
      !sameCandidateEvaluation pair.1 pair.2) = false := by
    rw [List.any_eq_false]
    intro pair member
    have same : pair.1 = pair.2 := by
      rw [List.zip_eq_zipWith, List.zipWith_self] at member
      obtain ⟨evaluation, _, rfl⟩ := List.mem_map.mp member
      rfl
    simp [sameCandidateEvaluation, same]
  unfold timerAssignmentPlanningDecisionEquivalent
  rw [if_neg (by simp [sameChannelBinding, sameEvidence, specification]),
    if_neg (by rw [evaluations]; decide), if_neg]
  intro ⟨unassigned, target⟩
  rw [empty unassigned, or_self] at target
  cases target

theorem unassigned_targetless {request : TimerAssignmentPlanningRequest}
    (unassigned : (planTimerAssignment request).outcome = .unassigned) :
    selectedTargetEmpty (planTimerAssignment request) = true := by
  obtain ⟨_, refused⟩ | ⟨_, _, reason, _, early⟩ | ⟨_, _, chosen⟩ := planTimerAssignment_cases request
  · rw [refused]
    rfl
  · rw [early]
    rfl
  · rw [chosen] at unassigned ⊢
    obtain ⟨_, none⟩ | ⟨selected, _, _, _, target⟩ := chooseCandidate_cases request
    · rw [none]
      rfl
    · rw [target] at unassigned
      cases unassigned

/-! ## Correctness -/

structure Selection (request : TimerAssignmentPlanningRequest)
    (decision : TimerAssignmentPlanningDecision)
    (selected : TimerAssignmentPlanningBackendCandidate) : Prop where
  listed : selected ∈ request.candidates
  admissible : Admissible request selected
  first : ∀ other ∈ request.candidates, Admissible request other →
    ChosenBefore request.intent.spec.assignmentPolicy selected.backendId other.backendId
  backend : decision.selectedBackendId = selected.backendId
  generation : decision.selectedBackendGeneration = selected.currentBackendGeneration
  wanted : decision.selectedBackendId ∉ request.intent.spec.assignmentPolicy.excludedBackendIds
  fresh : selected.capability.backendGeneration = decision.selectedBackendGeneration ∧
    selected.health.backendGeneration = decision.selectedBackendGeneration ∧
    selected.channel.backendGeneration = decision.selectedBackendGeneration
  clear : selected.conflict = .confirmedClear
  unowned : request.role = .replacement → ∀ assignment ∈ request.currentAssignments,
    timerAssignmentActiveOwnershipState assignment.state = true →
    assignment.backendId ≠ decision.selectedBackendId

theorem selectedDecision_selection {request : TimerAssignmentPlanningRequest}
    (shape : ShapeValid request) {selected : TimerAssignmentPlanningBackendCandidate}
    (listed : selected ∈ request.candidates) (admissible : Admissible request selected)
    (first : ∀ other ∈ request.candidates, Admissible request other →
      consideredBefore request.intent.spec.assignmentPolicy selected other)
    (evaluations : List TimerAssignmentPlanningCandidateEvaluation) (exclusions : List Bytes) :
    Selection request (selectedDecision request evaluations exclusions selected) selected := by
  have usable := admissible.usable
  refine
    { listed := listed
      admissible := admissible
      first := fun other member allowed =>
        (consideredBefore_iff shape.preferred).mp (first other member allowed)
      backend := rfl
      generation := rfl
      wanted := usable.wanted
      fresh := ⟨usable.capability.2.1, usable.health.2.1, usable.mapped.1⟩
      clear := usable.clear
      unowned := ?_ }
  intro replacement assignment member active same
  have named := shape.identities selected listed
  simp only [candidateIdentityValid, Bool.and_eq_true, nonEmptyBounded_iff] at named
  have filled : assignment.backendId ≠ [] := by
    rw [same]
    exact named.1.1.1.1.1.1.1.1.1.1.1.1
  apply admissible.replaced replacement
  refine List.mem_map.mpr ⟨assignment, List.mem_filter.mpr ⟨member, ?_⟩, same⟩
  simpa [active, List.isEmpty_iff] using filled

theorem planTimerAssignment_selected_iff (request : TimerAssignmentPlanningRequest) :
    (planTimerAssignment request).outcome = .selected ↔
      requestShapeValid request = true ∧ ¬ ExitsEarly request ∧
        ∃ candidate ∈ request.candidates, Admissible request candidate := by
  obtain ⟨shape, refused⟩ | ⟨_, exits, reason, _, early⟩ | ⟨shape, stays, chosen⟩ :=
    planTimerAssignment_cases request
  · rw [refused, shape]
    exact iff_of_false (fun selected => by cases selected) fun valid => by cases valid.1
  · rw [early]
    exact iff_of_false (fun selected => by cases selected) fun valid => valid.2.1 exits
  · rw [chosen]
    obtain ⟨inadmissible, none⟩ | ⟨selected, member, admissible, _, target⟩ :=
      chooseCandidate_cases request
    · rw [none]
      apply iff_of_false (fun selected => by cases selected)
      intro ⟨_, _, candidate, member, admissible⟩
      exact inadmissible candidate member admissible
    · rw [target]
      exact iff_of_true rfl ⟨shape, stays, selected, member, admissible⟩

theorem planTimerAssignment_selection {request : TimerAssignmentPlanningRequest}
    (outcome : (planTimerAssignment request).outcome = .selected) :
    ∃ selected, Selection request (planTimerAssignment request) selected := by
  obtain ⟨shape, stays, candidate, member, admissible⟩ :=
    (planTimerAssignment_selected_iff request).mp outcome
  obtain ⟨_, refused⟩ | ⟨_, exits, _⟩ | ⟨_, _, chosen⟩ := planTimerAssignment_cases request
  · rw [refused] at outcome
    cases outcome
  · exact absurd exits stays
  · rw [chosen]
    obtain ⟨inadmissible, _⟩ | ⟨selected, listed, allowed, first, target⟩ :=
      chooseCandidate_cases request
    · exact absurd admissible (inadmissible candidate member)
    · rw [target]
      exact ⟨selected, selectedDecision_selection (shapeValid_of_requestShapeValid shape) listed
        allowed first _ _⟩

/-- The decision is the same for every order of the lists; a backend is selected exactly when some
candidate is admissible and no early exit applies, and then the first admissible one is; and every
decision of a valid request makes a valid assignment. -/
theorem planTimerAssignment_correct (request : TimerAssignmentPlanningRequest) :
    (∀ relisted, Relisted request relisted →
      timerAssignmentPlanningDecisionEquivalent (planTimerAssignment request)
        (planTimerAssignment relisted) = true) ∧
    ((planTimerAssignment request).outcome = .selected ↔
      requestShapeValid request = true ∧ ¬ ExitsEarly request ∧
        ∃ candidate ∈ request.candidates, Admissible request candidate) ∧
    ((planTimerAssignment request).outcome = .selected →
      ∃ selected, Selection request (planTimerAssignment request) selected) ∧
    ∀ (scheduling : TimerAssignmentSchedulingRequest) (role : TimerAssignmentRole)
      (assignmentRevision : Bytes) (assignmentEpoch : Nat),
      nonEmptyBounded scheduling.timerAssignmentId 160 = true →
      nonEmptyBounded assignmentRevision 160 = true → assignmentEpoch ≠ 0 →
      0 < scheduling.createdAt → (planTimerAssignment request).outcome ≠ .invalid →
      timerAssignmentValid (filledIn
        (assignmentFromDecision scheduling role (planTimerAssignment request))
        assignmentRevision assignmentEpoch) = true := by
  refine ⟨?_, planTimerAssignment_selected_iff request, planTimerAssignment_selection, ?_⟩
  · intro relisted same
    rw [same.planTimerAssignment]
    exact equivalent_self unassigned_targetless
  · intro scheduling role assignmentRevision assignmentEpoch id revision epoch created outcome
    exact planned_valid scheduling role id revision epoch created outcome

end VdrSuite.Timers
