import Mathlib.Data.List.Sort
import VdrSuite.Timers.TimerAssignment
import VdrSuite.Timers.TimerIntent

/-! The planner of timer assignments: which backend records an intent, given the present owners and
what is known of each candidate. -/

set_option autoImplicit false

namespace VdrSuite.Timers

open Library

/-! ## Evidence -/

inductive TimerAssignmentPlanningBackendState
  | online
  | degraded
  | offline
  | stale
  | incompatible
  | disabled
  deriving DecidableEq

inductive TimerAssignmentPlanningHealthState
  | healthy
  | degraded
  | unavailable
  | unknown
  deriving DecidableEq

inductive TimerAssignmentPlanningConflictState
  | confirmedClear
  | confirmedConflict
  | partialEvidence
  | unavailable
  | stale
  deriving DecidableEq

inductive TimerAssignmentPlanningOutcome
  | selected
  | unassigned
  | invalid
  deriving DecidableEq

structure TimerAssignmentPlanningCapabilityEvidence where
  backendGeneration : Nat := 0
  revision : Bytes := []
  current : Bool := false
  timerCreate : Bool := false
  timerReadback : Bool := false
  deriving DecidableEq

structure TimerAssignmentPlanningHealthEvidence where
  backendGeneration : Nat := 0
  revision : Bytes := []
  current : Bool := false
  state : TimerAssignmentPlanningHealthState := .unknown
  timerWritesAvailable : Bool := false
  deriving DecidableEq

structure TimerAssignmentPlanningChannelEvidence where
  backendGeneration : Nat := 0
  mappingRevision : Bytes := []
  mappingSource : Bytes := []
  canonicalChannelId : Bytes := []
  sourceType : Bytes := []
  sourceId : Bytes := []
  sourceChannelId : Bytes := []
  backendChannelId : Bytes := []
  current : Bool := false
  ambiguous : Bool := false
  deriving DecidableEq

structure TimerAssignmentPlanningBackendCandidate where
  backendId : Bytes := []
  siteId : Bytes := []
  currentBackendGeneration : Nat := 0
  state : TimerAssignmentPlanningBackendState := .offline
  writeAllowed : Bool := false
  executionAuthorityCurrent : Bool := false
  executionAuthorityFence : Bytes := []
  capability : TimerAssignmentPlanningCapabilityEvidence := {}
  health : TimerAssignmentPlanningHealthEvidence := {}
  channel : TimerAssignmentPlanningChannelEvidence := {}
  desiredNativeTimerSpecification : Option NativeTimerSpecification := none
  conflict : TimerAssignmentPlanningConflictState := .unavailable
  deriving DecidableEq

structure TimerAssignmentPlanningRequest where
  intent : TimerIntent := {}
  role : TimerAssignmentRole := .primary
  currentAssignments : List TimerAssignment := []
  candidates : List TimerAssignmentPlanningBackendCandidate := []
  deriving DecidableEq

structure TimerAssignmentPlanningCandidateEvaluation where
  backendId : Bytes
  eligible : Bool
  preferred : Bool
  preferenceRank : Nat
  reasons : List Bytes
  exclusions : List Bytes
  warnings : List Bytes
  conflictFacts : List Bytes
  deriving DecidableEq

structure TimerAssignmentPlanningDecision where
  outcome : TimerAssignmentPlanningOutcome := .invalid
  timerIntentId : Bytes := []
  intentRevision : Bytes := []
  role : TimerAssignmentRole := .primary
  decisionPolicyVersion : Bytes := []
  selectedBackendId : Bytes := []
  selectedBackendGeneration : Nat := 0
  selectedChannelBinding : TimerAssignmentChannelBinding := {}
  selectedCapabilityRevision : Bytes := []
  selectedBackendHealthRevision : Bytes := []
  selectedNativeTimerSpecification : Option NativeTimerSpecification := none
  decisionEvidence : TimerAssignmentDecisionEvidence := {}
  candidates : List TimerAssignmentPlanningCandidateEvaluation := []
  deriving DecidableEq

/-! ## Requests -/

def appendBounded (values : List Bytes) (value : Bytes) : List Bytes :=
  if 32 ≤ values.length ∨ value.isEmpty = true ∨ 256 < value.length then values
  else values ++ [value]

def backendFact (backendId fact : Bytes) : Bytes := backendId ++ text ":" ++ fact

def preferenceRank (policy : TimerIntentAssignmentPolicy) (backendId : Bytes) : Nat × Bool :=
  match policy.preferredBackendIds.idxOf? backendId with
  | some rank => (rank, true)
  | none => (32, false)

def candidateIdentityValid (candidate : TimerAssignmentPlanningBackendCandidate) : Bool :=
  nonEmptyBounded candidate.backendId 160 && bounded candidate.siteId 160 &&
  bounded candidate.executionAuthorityFence 160 && bounded candidate.capability.revision 160 &&
  bounded candidate.health.revision 160 && bounded candidate.channel.mappingRevision 160 &&
  bounded candidate.channel.mappingSource 160 && bounded candidate.channel.canonicalChannelId 160 &&
  bounded candidate.channel.sourceType 160 && bounded candidate.channel.sourceId 160 &&
  bounded candidate.channel.sourceChannelId 160 && bounded candidate.channel.backendChannelId 160

def requestShapeValid (request : TimerAssignmentPlanningRequest) : Bool :=
  timerIntentValid request.intent && timerIntentAssignable request.intent.state &&
  decide (request.candidates.length ≤ 32) && decide (request.currentAssignments.length ≤ 32) &&
  (request.role != .replica ||
    (decide (1 < request.intent.spec.replicaPolicy.desiredAssignments) &&
      request.intent.spec.replicaPolicy.simultaneousRecordingIntentional)) &&
  (request.role != .replacement || request.intent.spec.assignmentPolicy.allowFailover) &&
  request.candidates.all candidateIdentityValid &&
  decide (request.candidates.map (·.backendId)).Nodup &&
  request.currentAssignments.all fun assignment =>
    timerAssignmentValid assignment && assignment.timerIntentId == request.intent.timerIntentId

def activeBackendIds (assignments : List TimerAssignment) : List Bytes :=
  (assignments.filter fun assignment =>
    timerAssignmentActiveOwnershipState assignment.state && !assignment.backendId.isEmpty).map
      (·.backendId)

def activeSiteIds (assignments : List TimerAssignment)
    (candidates : List TimerAssignmentPlanningBackendCandidate) : List Bytes × Bool :=
  let sites := (activeBackendIds assignments).map fun backendId =>
    ((candidates.find? fun candidate => candidate.backendId == backendId).map (·.siteId)).getD []
  (sites.filter fun site => !site.isEmpty, sites.all fun site => !site.isEmpty)

def hasActivePrimary (assignments : List TimerAssignment) : Bool :=
  assignments.any fun assignment =>
    (assignment.role == .primary || assignment.role == .replacement) &&
    timerAssignmentActiveOwnershipState assignment.state

def activeReplicaOwnerCount (assignments : List TimerAssignment) : Nat :=
  assignments.countP fun assignment =>
    timerAssignmentActiveOwnershipState assignment.state &&
    (assignment.role == .primary || assignment.role == .replica || assignment.role == .replacement)

/-! ## Evaluation of a candidate -/

def timerAssignmentPlanningBackendStateName : TimerAssignmentPlanningBackendState → Bytes
  | .online => text "online"
  | .degraded => text "degraded"
  | .offline => text "offline"
  | .stale => text "stale"
  | .incompatible => text "incompatible"
  | .disabled => text "disabled"

def usableBackendState (state : TimerAssignmentPlanningBackendState) : Bool :=
  state == .online || state == .degraded

def usableHealthState (state : TimerAssignmentPlanningHealthState) : Bool :=
  state == .healthy || state == .degraded

def excludeIf (condition : Bool) (reason : Bytes) : Option Bytes :=
  if condition then some reason else none

def capabilityExclusion (candidate : TimerAssignmentPlanningBackendCandidate) : Option Bytes :=
  let capability := candidate.capability
  if !capability.current || capability.revision.isEmpty then
    some (text "capability_missing_or_stale")
  else if capability.backendGeneration ≠ candidate.currentBackendGeneration then
    some (text "capability_generation_stale")
  else excludeIf (!capability.timerCreate || !capability.timerReadback)
    (text "timer_capability_missing")

def healthExclusion (candidate : TimerAssignmentPlanningBackendCandidate) : Option Bytes :=
  let health := candidate.health
  if !health.current || health.revision.isEmpty then some (text "health_missing_or_stale")
  else if health.backendGeneration ≠ candidate.currentBackendGeneration then
    some (text "health_generation_stale")
  else excludeIf (!usableHealthState health.state || !health.timerWritesAvailable)
    (text "timer_health_unavailable")

def channelExclusion (requirement : TimerIntentChannelRequirement)
    (candidate : TimerAssignmentPlanningBackendCandidate) : Option Bytes :=
  let channel := candidate.channel
  if !channel.current || channel.mappingRevision.isEmpty || channel.mappingSource.isEmpty ||
      channel.backendChannelId.isEmpty then
    some (text "channel_mapping_missing_or_stale")
  else if channel.backendGeneration ≠ candidate.currentBackendGeneration then
    some (text "channel_mapping_generation_stale")
  else if channel.ambiguous then some (text "channel_mapping_ambiguous")
  else if !requirement.canonicalChannelId.isEmpty &&
      channel.canonicalChannelId != requirement.canonicalChannelId then
    some (text "channel_mapping_mismatch")
  else excludeIf (!requirement.sourceType.isEmpty &&
      (channel.sourceType != requirement.sourceType || channel.sourceId != requirement.sourceId ||
        channel.sourceChannelId != requirement.sourceChannelId))
    (text "channel_source_mismatch")

def specificationExclusion (candidate : TimerAssignmentPlanningBackendCandidate) : Option Bytes :=
  match candidate.desiredNativeTimerSpecification with
  | none => some (text "native_timer_specification_missing")
  | some specification =>
    if nativeTimerSpecificationValid specification = false then
      some (text "native_timer_specification_invalid")
    else excludeIf (specification.channelId != candidate.channel.backendChannelId)
      (text "native_timer_specification_channel_mismatch")

def conflictFact : TimerAssignmentPlanningConflictState → Bytes × Option Bytes
  | .confirmedClear => (text "confirmed_clear", none)
  | .confirmedConflict => (text "confirmed_conflict", some (text "confirmed_timer_conflict"))
  | .partialEvidence => (text "partial", some (text "conflict_evidence_partial"))
  | .stale => (text "stale", some (text "conflict_evidence_stale"))
  | .unavailable => (text "unavailable", some (text "conflict_evidence_unavailable"))

def roleExclusions (request : TimerAssignmentPlanningRequest)
    (candidate : TimerAssignmentPlanningBackendCandidate) : List (Option Bytes) :=
  let policy := request.intent.spec.replicaPolicy
  let usedBackends := activeBackendIds request.currentAssignments
  let (usedSites, siteEvidenceComplete) :=
    activeSiteIds request.currentAssignments request.candidates
  [excludeIf (request.role == .replica && policy.requireBackendDiversity &&
      usedBackends.contains candidate.backendId) (text "backend_diversity_required"),
    if request.role == .replica && policy.requireSiteDiversity then
      if !siteEvidenceComplete || candidate.siteId.isEmpty then
        some (text "site_diversity_evidence_missing")
      else excludeIf (usedSites.contains candidate.siteId) (text "site_diversity_required")
    else none,
    excludeIf (request.role == .replacement && usedBackends.contains candidate.backendId)
      (text "replacement_requires_new_backend")]

def candidateExclusions (request : TimerAssignmentPlanningRequest)
    (candidate : TimerAssignmentPlanningBackendCandidate) : List Bytes :=
  ([excludeIf (request.intent.spec.assignmentPolicy.excludedBackendIds.contains
        candidate.backendId) (text "excluded_by_intent"),
      excludeIf (!usableBackendState candidate.state)
        (text "backend_" ++ timerAssignmentPlanningBackendStateName candidate.state),
      excludeIf (!candidate.writeAllowed) (text "backend_write_forbidden"),
      excludeIf (!candidate.executionAuthorityCurrent || candidate.executionAuthorityFence.isEmpty)
        (text "execution_authority_unavailable"),
      excludeIf (candidate.currentBackendGeneration == 0) (text "backend_generation_missing"),
      capabilityExclusion candidate,
      healthExclusion candidate,
      channelExclusion request.intent.spec.channelRequirement candidate,
      specificationExclusion candidate,
      (conflictFact candidate.conflict).2] ++ roleExclusions request candidate).reduceOption.foldl
    appendBounded []

def evaluateCandidate (request : TimerAssignmentPlanningRequest)
    (candidate : TimerAssignmentPlanningBackendCandidate) :
    TimerAssignmentPlanningCandidateEvaluation :=
  let (rank, preferred) := preferenceRank request.intent.spec.assignmentPolicy candidate.backendId
  let exclusions := candidateExclusions request candidate
  { backendId := candidate.backendId
    eligible := exclusions.isEmpty
    preferred := preferred
    preferenceRank := rank
    reasons :=
      if exclusions.isEmpty then
        [text "eligible", if preferred then text "preferred_backend" else text "ordinary_backend"]
      else []
    exclusions := exclusions
    warnings :=
      if healthExclusion candidate = none ∧ candidate.health.state = .degraded then
        [text "backend_health_degraded"]
      else []
    conflictFacts := [(conflictFact candidate.conflict).1] }

/-! ## The decision -/

def timerAssignmentPlanningPolicyVersion : Bytes := text "timer-assignment-planner/1"

def targetlessDecision (request : TimerAssignmentPlanningRequest)
    (outcome : TimerAssignmentPlanningOutcome) (reasons : List Bytes) :
    TimerAssignmentPlanningDecision :=
  { outcome := outcome
    timerIntentId := request.intent.timerIntentId
    intentRevision := request.intent.intentRevision
    role := request.role
    decisionPolicyVersion := timerAssignmentPlanningPolicyVersion
    decisionEvidence := { reasons := reasons } }

def consideredBefore (policy : TimerIntentAssignmentPolicy)
    (left right : TimerAssignmentPlanningBackendCandidate) : Prop :=
  let leftRank := (preferenceRank policy left.backendId).1
  let rightRank := (preferenceRank policy right.backendId).1
  leftRank < rightRank ∨ leftRank = rightRank ∧ left.backendId ≤ right.backendId

instance (policy : TimerIntentAssignmentPolicy) : DecidableRel (consideredBefore policy) :=
  fun _ _ => inferInstanceAs (Decidable (_ ∨ _))

def orderedCandidates (request : TimerAssignmentPlanningRequest) :
    List TimerAssignmentPlanningBackendCandidate :=
  request.candidates.insertionSort (consideredBefore request.intent.spec.assignmentPolicy)

def selectedDecision (request : TimerAssignmentPlanningRequest)
    (evaluations : List TimerAssignmentPlanningCandidateEvaluation) (exclusions : List Bytes)
    (selected : TimerAssignmentPlanningBackendCandidate) : TimerAssignmentPlanningDecision :=
  let evaluation := evaluateCandidate request selected
  { targetlessDecision request .selected
      [text "selected_eligible_backend",
        if evaluation.preferred then text "selected_preferred_backend"
        else text "selected_deterministic_backend_id"] with
    selectedBackendId := selected.backendId
    selectedBackendGeneration := selected.currentBackendGeneration
    selectedChannelBinding :=
      { canonicalChannelId := selected.channel.canonicalChannelId
        backendChannelId := selected.channel.backendChannelId
        mappingSource := selected.channel.mappingSource
        mappingRevision := selected.channel.mappingRevision }
    selectedCapabilityRevision := selected.capability.revision
    selectedBackendHealthRevision := selected.health.revision
    selectedNativeTimerSpecification := selected.desiredNativeTimerSpecification
    decisionEvidence :=
      { reasons :=
          [text "selected_eligible_backend",
            if evaluation.preferred then text "selected_preferred_backend"
            else text "selected_deterministic_backend_id"]
        warnings :=
          evaluation.warnings.foldl appendBounded
            (if request.intent.spec.assignmentPolicy.preferredBackendIds ≠ [] ∧
                evaluation.preferred = false then [text "preferred_backends_ineligible"]
              else [])
        exclusions := exclusions
        conflictFacts := (evaluation.conflictFacts.map (backendFact selected.backendId)).foldl
          appendBounded []
        decisionScore := -(evaluation.preferenceRank : Int) }
    candidates := evaluations }

def chooseCandidate (request : TimerAssignmentPlanningRequest) : TimerAssignmentPlanningDecision :=
  let ordered := orderedCandidates request
  let evaluations := ordered.map (evaluateCandidate request)
  let exclusions := (evaluations.flatMap fun evaluation =>
    evaluation.exclusions.map (backendFact evaluation.backendId)).foldl appendBounded []
  match ordered.find? fun candidate => (evaluateCandidate request candidate).eligible with
  | none =>
    { targetlessDecision request .unassigned [] with
      decisionEvidence := { reasons := [text "no_eligible_backend"], exclusions := exclusions }
      candidates := evaluations }
  | some selected => selectedDecision request evaluations exclusions selected

def planTimerAssignment (request : TimerAssignmentPlanningRequest) :
    TimerAssignmentPlanningDecision :=
  if requestShapeValid request = false then
    targetlessDecision request .invalid [text "invalid_planning_input"]
  else if request.intent.spec.assignmentPolicy.requireOperatorReview then
    targetlessDecision request .unassigned [text "operator_review_required"]
  else if request.role = .primary ∧ hasActivePrimary request.currentAssignments = true then
    targetlessDecision request .unassigned [text "active_primary_exists"]
  else if request.role = .replica ∧ request.intent.spec.replicaPolicy.desiredAssignments ≤
      activeReplicaOwnerCount request.currentAssignments then
    targetlessDecision request .unassigned [text "replica_target_satisfied"]
  else chooseCandidate request

/-! ## Equivalence of decisions -/

def sameChannelBinding (left right : TimerAssignmentChannelBinding) : Bool :=
  left.canonicalChannelId == right.canonicalChannelId &&
  left.backendChannelId == right.backendChannelId &&
  left.mappingSource == right.mappingSource && left.mappingRevision == right.mappingRevision

def sameNativeTimerSpecification (left right : NativeTimerSpecification) : Bool :=
  left.channelId == right.channelId && left.title == right.title &&
  left.directory == right.directory && left.day == right.day && left.weekdays == right.weekdays &&
  left.startTime == right.startTime && left.endTime == right.endTime &&
  left.priority == right.priority && left.lifetime == right.lifetime &&
  left.enabled == right.enabled && left.vps == right.vps

def sameSelectedSpecification : Option NativeTimerSpecification → Option NativeTimerSpecification → Bool
  | none, none => true
  | some left, some right => sameNativeTimerSpecification left right
  | _, _ => false

def sameEvidence (left right : TimerAssignmentDecisionEvidence) : Bool :=
  left.reasons == right.reasons && left.warnings == right.warnings &&
  left.exclusions == right.exclusions && left.conflictFacts == right.conflictFacts &&
  left.decisionScore == right.decisionScore

def sameCandidateEvaluation (left right : TimerAssignmentPlanningCandidateEvaluation) : Bool :=
  left.backendId == right.backendId && left.eligible == right.eligible &&
  left.preferred == right.preferred && left.preferenceRank == right.preferenceRank &&
  left.reasons == right.reasons && left.exclusions == right.exclusions &&
  left.warnings == right.warnings && left.conflictFacts == right.conflictFacts

def selectedTargetEmpty (decision : TimerAssignmentPlanningDecision) : Bool :=
  decision.selectedBackendId.isEmpty && decision.selectedBackendGeneration == 0 &&
  decision.selectedChannelBinding.canonicalChannelId.isEmpty &&
  decision.selectedChannelBinding.backendChannelId.isEmpty &&
  decision.selectedChannelBinding.mappingSource.isEmpty &&
  decision.selectedChannelBinding.mappingRevision.isEmpty &&
  decision.selectedCapabilityRevision.isEmpty &&
  decision.selectedBackendHealthRevision.isEmpty &&
  decision.selectedNativeTimerSpecification.isNone

def timerAssignmentPlanningDecisionEquivalent (left right : TimerAssignmentPlanningDecision) :
    Bool :=
  if left.outcome ≠ right.outcome ∨ left.timerIntentId ≠ right.timerIntentId ∨
      left.intentRevision ≠ right.intentRevision ∨ left.role ≠ right.role ∨
      left.decisionPolicyVersion ≠ right.decisionPolicyVersion ∨
      left.selectedBackendId ≠ right.selectedBackendId ∨
      left.selectedBackendGeneration ≠ right.selectedBackendGeneration ∨
      sameChannelBinding left.selectedChannelBinding right.selectedChannelBinding = false ∨
      left.selectedCapabilityRevision ≠ right.selectedCapabilityRevision ∨
      left.selectedBackendHealthRevision ≠ right.selectedBackendHealthRevision ∨
      sameSelectedSpecification left.selectedNativeTimerSpecification
        right.selectedNativeTimerSpecification = false ∨
      sameEvidence left.decisionEvidence right.decisionEvidence = false ∨
      left.candidates.length ≠ right.candidates.length then false
  else if (left.candidates.zip right.candidates).any fun pair =>
      !sameCandidateEvaluation pair.1 pair.2 then false
  else if left.outcome = .unassigned ∧
      (selectedTargetEmpty left = false ∨ selectedTargetEmpty right = false) then false
  else true

end VdrSuite.Timers
