import VdrSuite.Timers.NativeTimerSpecification

/-! Timer intents: what is to be recorded, under which policies, and when two intents mean the same. -/

set_option autoImplicit false

namespace VdrSuite.Timers

open Library

inductive TimerIntentType
  | programmeEvent
  | manualWindow
  | recurringSchedule
  deriving DecidableEq

inductive TimerIntentState
  | draft
  | active
  | paused
  | satisfied
  | cancelRequested
  | cancelled
  | expired
  | failed
  deriving DecidableEq

structure TimerIntentAutomationSource where
  sourceType : Bytes := []
  sourceId : Bytes := []
  occurrenceId : Bytes := []
  deriving DecidableEq

structure TimerIntentBackendEventRef where
  backendId : Bytes := []
  channelId : Bytes := []
  eventId : Bytes := []
  sourceId : Bytes := []
  deriving DecidableEq

structure TimerIntentChannelRequirement where
  canonicalChannelId : Bytes := []
  sourceType : Bytes := []
  sourceId : Bytes := []
  sourceChannelId : Bytes := []
  deriving DecidableEq

structure TimerIntentSchedule where
  startAt : Int := 0
  stopAt : Int := 0
  timezone : Bytes := []
  recurrenceRule : Bytes := []
  deriving DecidableEq

structure TimerIntentRecordingOptions where
  startMarginSeconds : Int := 0
  stopMarginSeconds : Int := 0
  priority : Int := 50
  lifetimeDays : Int := 99
  vpsPreferred : Bool := false
  directoryPolicy : Bytes := []
  namingPolicy : Bytes := []
  retentionPolicyReference : Bytes := []
  deriving DecidableEq

structure TimerIntentAssignmentPolicy where
  allowFailover : Bool := false
  requireOperatorReview : Bool := false
  preferredBackendIds : List Bytes := []
  excludedBackendIds : List Bytes := []
  deriving DecidableEq

structure TimerIntentReplicaPolicy where
  desiredAssignments : Nat := 1
  requireBackendDiversity : Bool := false
  requireSiteDiversity : Bool := false
  simultaneousRecordingIntentional : Bool := false
  storagePolicyReference : Bytes := []
  retentionPolicyReference : Bytes := []
  rationale : Bytes := []
  deriving DecidableEq

structure TimerIntentDuplicatePolicy where
  preventEquivalentIntent : Bool := true
  requireOperatorReviewOnAmbiguity : Bool := true
  deriving DecidableEq

structure TimerIntentSpec where
  intentType : TimerIntentType := .programmeEvent
  ownerActorId : Bytes := []
  automationSource : TimerIntentAutomationSource := {}
  programEventId : Bytes := []
  backendEventRef : TimerIntentBackendEventRef := {}
  channelRequirement : TimerIntentChannelRequirement := {}
  schedule : TimerIntentSchedule := {}
  recordingOptions : TimerIntentRecordingOptions := {}
  assignmentPolicy : TimerIntentAssignmentPolicy := {}
  replicaPolicy : TimerIntentReplicaPolicy := {}
  duplicatePolicy : TimerIntentDuplicatePolicy := {}
  deriving DecidableEq

structure TimerIntent where
  timerIntentId : Bytes := []
  intentRevision : Bytes := []
  state : TimerIntentState := .draft
  createdByActorId : Bytes := []
  spec : TimerIntentSpec := {}
  createdAt : Int := 0
  updatedAt : Int := 0
  expiresAt : Int := 0
  deriving DecidableEq

/-! ## Validity -/

def automationSourceValid (source : TimerIntentAutomationSource) : Bool :=
  if source.sourceType.isEmpty && source.sourceId.isEmpty && source.occurrenceId.isEmpty then true
  else
    nonEmptyBounded source.sourceType 160 && nonEmptyBounded source.sourceId 160 &&
    bounded source.occurrenceId 160

def backendEventRefPresent (ref : TimerIntentBackendEventRef) : Bool :=
  !ref.backendId.isEmpty || !ref.channelId.isEmpty || !ref.eventId.isEmpty || !ref.sourceId.isEmpty

def backendEventRefValid (ref : TimerIntentBackendEventRef) : Bool :=
  if backendEventRefPresent ref = false then true
  else
    nonEmptyBounded ref.backendId 160 && nonEmptyBounded ref.channelId 160 &&
    nonEmptyBounded ref.eventId 160 && nonEmptyBounded ref.sourceId 160

def channelRequirementValid (channel : TimerIntentChannelRequirement) : Bool :=
  let canonical := !channel.canonicalChannelId.isEmpty
  let source := !channel.sourceType.isEmpty || !channel.sourceId.isEmpty ||
    !channel.sourceChannelId.isEmpty
  (canonical || source) &&
  (!canonical || nonEmptyBounded channel.canonicalChannelId 160) &&
  (!source || (nonEmptyBounded channel.sourceType 160 && nonEmptyBounded channel.sourceId 160 &&
    nonEmptyBounded channel.sourceChannelId 160))

def uniqueBoundedIds (values : List Bytes) : Bool :=
  decide (values.length ≤ 32) && values.all (fun value => nonEmptyBounded value 160) &&
  decide values.Nodup

def assignmentPolicyValid (policy : TimerIntentAssignmentPolicy) : Bool :=
  uniqueBoundedIds policy.preferredBackendIds && uniqueBoundedIds policy.excludedBackendIds &&
  policy.preferredBackendIds.all fun backendId => !policy.excludedBackendIds.contains backendId

def recordingOptionsValid (options : TimerIntentRecordingOptions) : Bool :=
  decide (0 ≤ options.startMarginSeconds) && decide (options.startMarginSeconds ≤ 21600) &&
  decide (0 ≤ options.stopMarginSeconds) && decide (options.stopMarginSeconds ≤ 21600) &&
  decide (0 ≤ options.priority) && decide (options.priority ≤ 99) &&
  decide (0 ≤ options.lifetimeDays) && decide (options.lifetimeDays ≤ 3650) &&
  bounded options.directoryPolicy 256 && bounded options.namingPolicy 256 &&
  bounded options.retentionPolicyReference 256

def scheduleValid (schedule : TimerIntentSchedule) (type : TimerIntentType) : Bool :=
  decide (0 < schedule.startAt) && decide (schedule.startAt < schedule.stopAt) &&
  nonEmptyBounded schedule.timezone 64 && bounded schedule.recurrenceRule 256 &&
  match type with
  | .recurringSchedule => !schedule.recurrenceRule.isEmpty
  | _ => schedule.recurrenceRule.isEmpty

def replicaPolicyValid (policy : TimerIntentReplicaPolicy) : Bool :=
  policy.desiredAssignments != 0 && decide (policy.desiredAssignments ≤ 4) &&
  bounded policy.storagePolicyReference 256 && bounded policy.retentionPolicyReference 256 &&
  bounded policy.rationale 256 &&
  (decide (policy.desiredAssignments ≤ 1) ||
    (policy.simultaneousRecordingIntentional && nonEmptyBounded policy.rationale 256))

def timerIntentValidSpec (spec : TimerIntentSpec) : Bool :=
  nonEmptyBounded spec.ownerActorId 160 && automationSourceValid spec.automationSource &&
  backendEventRefValid spec.backendEventRef && channelRequirementValid spec.channelRequirement &&
  scheduleValid spec.schedule spec.intentType && recordingOptionsValid spec.recordingOptions &&
  assignmentPolicyValid spec.assignmentPolicy && replicaPolicyValid spec.replicaPolicy &&
  (spec.programEventId.isEmpty || nonEmptyBounded spec.programEventId 160) &&
  match spec.intentType with
  | .programmeEvent => !spec.programEventId.isEmpty || backendEventRefPresent spec.backendEventRef
  | _ => spec.programEventId.isEmpty && !backendEventRefPresent spec.backendEventRef

def timerIntentValid (intent : TimerIntent) : Bool :=
  nonEmptyBounded intent.timerIntentId 160 && nonEmptyBounded intent.intentRevision 160 &&
  nonEmptyBounded intent.createdByActorId 160 && timerIntentValidSpec intent.spec &&
  decide (0 < intent.createdAt) && decide (intent.createdAt ≤ intent.updatedAt) &&
  (intent.expiresAt == 0 || decide (intent.createdAt < intent.expiresAt))

def timerIntentAssignable (state : TimerIntentState) : Bool := state == .active

end VdrSuite.Timers
