import Mathlib.Data.List.Chain
import Mathlib.Tactic.SplitIfs
import VdrSuite.Agent.SuiteBridgeObservation
import VdrSuite.Library.Run

/-! What the reported state, the delta and the next wake of the suite bridge observation say about
the attempts of a run. -/

set_option autoImplicit false

namespace VdrSuite.Agent.SuiteBridge

open Library SuiteBridgeObservationService

/-! ## Single transitions -/

section Transitions

variable (service : SuiteBridgeObservationService)

theorem setState_eq (state : SuiteBridgeObservationState) (now : Int) :
    service.setState state now =
      { service with
        snapshot :=
          { service.snapshot with
            state
            lastStateChangeAt :=
              if service.snapshot.state = state then service.snapshot.lastStateChangeAt
              else some now } } := by
  unfold setState
  split
  · rename_i same
    subst same
    rfl
  · rfl

def freshness (now : Int) : SuiteBridgeObservationState :=
  match service.snapshot.lastSuccessAt with
  | none => service.snapshot.state
  | some lastSuccessAt =>
    if service.snapshot.hasBaseline = false then service.snapshot.state
    else
      let age := (now - lastSuccessAt).tdiv 1000000
      if service.config.offlineAfter.toInt ≤ age then .offline
      else if service.config.staleAfter.toInt ≤ age then .snapshotStale
      else if 0 < service.snapshot.consecutiveFailures then .transportDegraded
      else if service.snapshot.baseline.counterOverflow then .overflowed
      else .snapshotCurrent

theorem updateFreshness_eq (now : Int) :
    service.updateFreshness now = service.setState (freshness service now) now := by
  have unchanged : service.setState service.snapshot.state now = service := if_pos rfl
  unfold updateFreshness freshness
  cases service.snapshot.lastSuccessAt with
  | none => exact unchanged.symm
  | some lastSuccessAt =>
    dsimp only
    split_ifs
    · exact unchanged.symm
    all_goals rfl

theorem le_age_iff {lastSuccessAt now : Int} (past : lastSuccessAt ≤ now)
    (milliseconds : Int) :
    milliseconds ≤ (now - lastSuccessAt).tdiv 1000000 ↔
      lastSuccessAt + nanoseconds milliseconds ≤ now := by
  unfold nanoseconds
  rw [Int.tdiv_eq_ediv_of_nonneg (by omega)]
  omega

theorem freshness_eq {lastSuccessAt now : Int} (past : lastSuccessAt ≤ now)
    (last : service.snapshot.lastSuccessAt = some lastSuccessAt)
    (present : service.snapshot.hasBaseline = true) :
    freshness service now =
      if lastSuccessAt + nanoseconds service.config.offlineAfter.toInt ≤ now then .offline
      else if lastSuccessAt + nanoseconds service.config.staleAfter.toInt ≤ now then .snapshotStale
      else if 0 < service.snapshot.consecutiveFailures then .transportDegraded
      else if service.snapshot.baseline.counterOverflow then .overflowed
      else .snapshotCurrent := by
  unfold freshness
  rw [last]
  dsimp only
  rw [if_neg (by simp [present])]
  simp only [le_age_iff past]

def ClaimsCurrent (state : SuiteBridgeObservationState) : Prop :=
  state = .snapshotCurrent ∨ state = .overflowed

theorem freshness_claims_current {now : Int}
    (last : service.snapshot.lastSuccessAt.isSome = true)
    (present : service.snapshot.hasBaseline = true)
    (current : ClaimsCurrent (freshness service now)) :
    service.snapshot.consecutiveFailures = 0 := by
  obtain ⟨lastSuccessAt, found⟩ := Option.isSome_iff_exists.mp last
  unfold freshness at current
  rw [found] at current
  dsimp only at current
  rw [if_neg (by simp [present])] at current
  split_ifs at current with offline stale failures overflow
  · simp [ClaimsCurrent] at current
  · simp [ClaimsCurrent] at current
  · simp [ClaimsCurrent] at current
  · exact Nat.eq_zero_of_not_pos failures
  · exact Nat.eq_zero_of_not_pos failures

theorem freshness_setState (state : SuiteBridgeObservationState) (now later : Int)
    (last : service.snapshot.lastSuccessAt.isSome = true)
    (present : service.snapshot.hasBaseline = true) :
    freshness (service.setState state now) later = freshness service later := by
  obtain ⟨lastSuccessAt, found⟩ := Option.isSome_iff_exists.mp last
  rw [setState_eq]
  simp only [freshness, found, present, Bool.true_eq_false, if_false]

theorem freshness_current_young {lastSuccessAt now : Int} (past : lastSuccessAt ≤ now)
    (last : service.snapshot.lastSuccessAt = some lastSuccessAt)
    (present : service.snapshot.hasBaseline = true)
    (current : ClaimsCurrent (freshness service now)) :
    now < lastSuccessAt + nanoseconds service.config.staleAfter.toInt := by
  rw [freshness_eq service past last present] at current
  split_ifs at current with offline stale failures overflow
  · simp [ClaimsCurrent] at current
  · simp [ClaimsCurrent] at current
  · simp [ClaimsCurrent] at current
  · exact not_le.mp stale
  · exact not_le.mp stale

end Transitions

/-! ## Reconnect delays -/

theorem reconnectDelayLoop_eq (reconnectMaximum : Int) (rounds : Nat) (delay : Int)
    (isPositive : 0 < delay) :
    min (reconnectDelayLoop reconnectMaximum rounds delay) reconnectMaximum =
      min reconnectMaximum (delay * 2 ^ rounds) := by
  induction rounds generalizing delay with
  | zero => simp [reconnectDelayLoop, min_comm]
  | succ rounds ih =>
    have doubled : delay * 2 ^ (rounds + 1) = delay * 2 * 2 ^ rounds := by
      rw [pow_succ]
      ring
    have grows : delay * 2 ≤ delay * 2 * 2 ^ rounds :=
      le_mul_of_one_le_right (by omega) (one_le_pow₀ (by omega))
    unfold reconnectDelayLoop
    rw [doubled]
    split
    · split
      · rename_i half
        rw [min_self, min_eq_left]
        refine le_trans ?_ grows
        rw [Int.tdiv_eq_ediv_of_nonneg (by omega)] at half
        omega
      · exact ih (delay * 2) (by omega)
    · rename_i reached
      rw [min_eq_right (not_lt.mp reached), min_eq_left (by omega)]

theorem capped_of_many {reconnectMaximum : Int64} {reconnectInitial : Int}
    (isPositive : 0 < reconnectInitial) {rounds : Nat} (many : 63 ≤ rounds) :
    min reconnectMaximum.toInt (reconnectInitial * 2 ^ rounds) = reconnectMaximum.toInt := by
  refine min_eq_left ?_
  calc reconnectMaximum.toInt ≤ 2 ^ 63 := reconnectMaximum.toInt_lt.le
    _ ≤ 2 ^ rounds := pow_le_pow_right₀ (by omega) many
    _ ≤ reconnectInitial * 2 ^ rounds :=
      le_mul_of_one_le_left (pow_nonneg (by omega) _) (by omega)

theorem capped_saturated {reconnectMaximum : Int64} {reconnectInitial : Int}
    (isPositive : 0 < reconnectInitial) {bound : Nat} (large : 64 ≤ bound) (failures : Nat) :
    min reconnectMaximum.toInt (reconnectInitial * 2 ^ (min bound failures - 1)) =
      min reconnectMaximum.toInt (reconnectInitial * 2 ^ (failures - 1)) := by
  obtain few | many := le_total failures bound
  · rw [min_eq_right few]
  · rw [min_eq_left many, capped_of_many isPositive (by omega),
      capped_of_many isPositive (by omega)]

/-! ## Attempts -/

/-- What a failure leaves of a service, whatever the attempt had already set. -/
structure FailedFrom (service failed : SuiteBridgeObservationService)
    (status : SuiteBridgeHandshakeStatus) (now : Int) : Prop where
  config : failed.config = service.config
  tracked : failed.baselineTracker.hasBaseline = service.baselineTracker.hasBaseline
  trackedBaseline : failed.baselineTracker.baseline = service.baselineTracker.baseline
  started : failed.snapshot.started = service.snapshot.started
  hasBaseline : failed.snapshot.hasBaseline = service.snapshot.hasBaseline
  baseline : failed.snapshot.baseline = service.snapshot.baseline
  lastSuccessAt : failed.snapshot.lastSuccessAt = service.snapshot.lastSuccessAt
  failures : failed.snapshot.consecutiveFailures =
    countFailure service.snapshot.consecutiveFailures
  noDelta : failed.snapshot.hasDelta = false
  scheduled : failed.snapshot.nextAttemptAt =
    if status = .notConfigured then none else some (now + nanoseconds failed.reconnectDelay)
  state : ¬ ClaimsCurrent failed.snapshot.state

theorem not_claimsCurrent_initialFailureState (status : SuiteBridgeHandshakeStatus) :
    ¬ ClaimsCurrent (initialFailureState status) := by
  unfold initialFailureState
  split_ifs <;> simp [ClaimsCurrent]

theorem countFailure_ne_zero (consecutiveFailures : Nat) : countFailure consecutiveFailures ≠ 0 := by
  unfold countFailure
  split <;> omega

theorem handleFailure_spec (service : SuiteBridgeObservationService)
    (result : SuiteBridgeHandshakeResult) (now : Int) :
    FailedFrom service (service.handleFailure result now) result.status now := by
  unfold handleFailure
  dsimp only
  split
  · rename_i unconfigured
    rw [setState_eq]
    exact
      { config := rfl, tracked := rfl, trackedBaseline := rfl, started := rfl, hasBaseline := rfl
        baseline := rfl, lastSuccessAt := rfl, failures := rfl, noDelta := rfl
        scheduled := (if_pos unconfigured).symm
        state := by simp [ClaimsCurrent] }
  · rename_i configured
    split
    · rename_i present
      rw [updateFreshness_eq, setState_eq]
      refine
        { config := rfl, tracked := rfl, trackedBaseline := rfl, started := rfl, hasBaseline := rfl
          baseline := rfl, lastSuccessAt := rfl, failures := rfl, noDelta := rfl
          scheduled := (if_neg configured).symm
          state := ?_ }
      intro current
      have none := freshness_claims_current _ present.2 present.1 current
      exact countFailure_ne_zero _ none
    · rw [setState_eq]
      exact
        { config := rfl, tracked := rfl, trackedBaseline := rfl, started := rfl, hasBaseline := rfl
          baseline := rfl, lastSuccessAt := rfl, failures := rfl, noDelta := rfl
          scheduled := (if_neg configured).symm
          state := not_claimsCurrent_initialFailureState result.status }

structure SucceededFrom (service succeeded : SuiteBridgeObservationService)
    (accepted : SuiteBridgeSnapshotBaseline) (now : Int) : Prop where
  config : succeeded.config = service.config
  tracked : succeeded.baselineTracker.hasBaseline = true
  trackedBaseline : succeeded.baselineTracker.baseline = accepted
  started : succeeded.snapshot.started = service.snapshot.started
  hasBaseline : succeeded.snapshot.hasBaseline = true
  baseline : succeeded.snapshot.baseline = accepted
  lastSuccessAt : succeeded.snapshot.lastSuccessAt = some now
  failures : succeeded.snapshot.consecutiveFailures = 0
  scheduled : succeeded.snapshot.nextAttemptAt =
    some (now + nanoseconds service.config.pollInterval.toInt)
  delta : succeeded.snapshot.hasDelta = true →
    service.baselineTracker.hasBaseline = true ∧
    accepted.counterEpoch = service.baselineTracker.baseline.counterEpoch ∧
    accepted.countersAtLeast service.baselineTracker.baseline = true ∧
    succeeded.snapshot.delta = deltaFrom accepted service.baselineTracker.baseline
  monotone : service.baselineTracker.hasBaseline = true →
    accepted.counterEpoch = service.baselineTracker.baseline.counterEpoch →
    accepted.counterOverflow = false → service.baselineTracker.baseline.counterOverflow = false →
    accepted.countersAtLeast service.baselineTracker.baseline = true

theorem apply_accepted {tracker : SuiteBridgeBaselineTracker}
    {next : SuiteBridgeSnapshotBaseline}
    (accepted : (tracker.apply next).2 ≠ .rejectedCounterRegression) :
    (tracker.apply next).1.hasBaseline = true ∧ (tracker.apply next).1.baseline = next ∧
    ((tracker.apply next).2 = .updatedComparable → tracker.hasBaseline = true ∧
      next.counterEpoch = tracker.baseline.counterEpoch ∧
      next.countersAtLeast tracker.baseline = true) ∧
    (tracker.hasBaseline = true → next.counterEpoch = tracker.baseline.counterEpoch →
      next.counterOverflow = false → tracker.baseline.counterOverflow = false →
      next.countersAtLeast tracker.baseline = true) := by
  unfold SuiteBridgeBaselineTracker.apply at accepted ⊢
  dsimp only at accepted ⊢
  split_ifs at accepted ⊢ with untracked epoch overflow regression
  · exact ⟨rfl, rfl, nofun, fun tracked => by simp [untracked] at tracked⟩
  · exact ⟨rfl, rfl, nofun, fun _ same => absurd same epoch⟩
  · refine ⟨rfl, rfl, nofun, ?_⟩
    intro _ _ nextWithin within
    simp [nextWithin, within] at overflow
  · exact absurd rfl accepted
  · simp only [Bool.not_eq_false, not_not] at untracked epoch regression
    exact ⟨rfl, rfl, fun _ => ⟨untracked, epoch, regression⟩, fun _ _ _ _ => regression⟩

theorem apply_rejected {tracker : SuiteBridgeBaselineTracker} {next : SuiteBridgeSnapshotBaseline}
    (rejected : (tracker.apply next).2 = .rejectedCounterRegression) :
    (tracker.apply next).1.hasBaseline = tracker.hasBaseline ∧
      (tracker.apply next).1.baseline = tracker.baseline := by
  unfold SuiteBridgeBaselineTracker.apply at rejected ⊢
  dsimp only at rejected ⊢
  split_ifs at rejected ⊢
  exact ⟨rfl, rfl⟩

theorem acceptReadySnapshot_spec (service : SuiteBridgeObservationService)
    (result : SuiteBridgeHandshakeResult) (now : Int)
    (accepted : (service.baselineTracker.apply result.baseline).2 ≠ .rejectedCounterRegression) :
    SucceededFrom service (service.acceptReadySnapshot result now) result.baseline now := by
  obtain ⟨tracked, trackedBaseline, comparable, monotone⟩ := apply_accepted accepted
  unfold acceptReadySnapshot
  dsimp only
  rw [if_neg accepted, setState_eq]
  refine
    { config := rfl, tracked, trackedBaseline, started := rfl, hasBaseline := rfl
      baseline := trackedBaseline, lastSuccessAt := rfl, failures := rfl, scheduled := rfl
      delta := ?_, monotone }
  intro hasDelta
  dsimp only at hasDelta ⊢
  have updated : (service.baselineTracker.apply result.baseline).2 = .updatedComparable := by
    simp only [Bool.and_eq_true, beq_iff_eq] at hasDelta
    exact hasDelta.1.2
  obtain ⟨had, epoch, counters⟩ := comparable updated
  refine ⟨had, epoch, counters, ?_⟩
  rw [if_pos hasDelta]
  exact congrArg (deltaFrom · service.baselineTracker.baseline) trackedBaseline

theorem acceptReadySnapshot_rejected (service : SuiteBridgeObservationService)
    (result : SuiteBridgeHandshakeResult) (now : Int)
    (rejected : (service.baselineTracker.apply result.baseline).2 = .rejectedCounterRegression) :
    FailedFrom service (service.acceptReadySnapshot result now) .invalidSnapshotPayload now := by
  obtain ⟨tracked, trackedBaseline⟩ := apply_rejected rejected
  have failed := handleFailure_spec
    { service with baselineTracker := (service.baselineTracker.apply result.baseline).1 }
    counterRegression now
  unfold acceptReadySnapshot
  dsimp only
  rw [if_pos rejected]
  exact
    { failed with
      tracked := failed.tracked.trans tracked
      trackedBaseline := failed.trackedBaseline.trans trackedBaseline }

structure Prepares (service prepared : SuiteBridgeObservationService) : Prop where
  config : prepared.config = service.config
  tracker : prepared.baselineTracker = service.baselineTracker
  started : prepared.snapshot.started = service.snapshot.started
  hasBaseline : prepared.snapshot.hasBaseline = service.snapshot.hasBaseline
  baseline : prepared.snapshot.baseline = service.snapshot.baseline
  lastSuccessAt : prepared.snapshot.lastSuccessAt = service.snapshot.lastSuccessAt
  failures : prepared.snapshot.consecutiveFailures = service.snapshot.consecutiveFailures

theorem prepares_beginAttempt (service : SuiteBridgeObservationService) (now : Int) :
    Prepares service (service.beginAttempt now) := by
  unfold beginAttempt
  rw [setState_eq]
  exact
    { config := rfl, tracker := rfl, started := rfl, hasBaseline := rfl, baseline := rfl
      lastSuccessAt := rfl, failures := rfl }

theorem Prepares.adoptDiscovery {service prepared : SuiteBridgeObservationService}
    (prepares : Prepares service prepared) (discovery : SuiteBridgeHandshakeResult) (now : Int) :
    Prepares service (prepared.adoptDiscovery discovery now) := by
  unfold SuiteBridgeObservationService.adoptDiscovery
  rw [setState_eq]
  exact { prepares with }

theorem FailedFrom.of_prepared {service prepared failed : SuiteBridgeObservationService}
    {status : SuiteBridgeHandshakeStatus} {now : Int} (prepares : Prepares service prepared)
    (change : FailedFrom prepared failed status now) : FailedFrom service failed status now :=
  { change with
    config := change.config.trans prepares.config
    tracked := change.tracked.trans (congrArg (·.hasBaseline) prepares.tracker)
    trackedBaseline := change.trackedBaseline.trans (congrArg (·.baseline) prepares.tracker)
    started := change.started.trans prepares.started
    hasBaseline := change.hasBaseline.trans prepares.hasBaseline
    baseline := change.baseline.trans prepares.baseline
    lastSuccessAt := change.lastSuccessAt.trans prepares.lastSuccessAt
    failures := change.failures.trans (congrArg countFailure prepares.failures) }

theorem SucceededFrom.of_prepared {service prepared succeeded : SuiteBridgeObservationService}
    {accepted : SuiteBridgeSnapshotBaseline} {now : Int} (prepares : Prepares service prepared)
    (change : SucceededFrom prepared succeeded accepted now) :
    SucceededFrom service succeeded accepted now := by
  have delta := change.delta
  have monotone := change.monotone
  rw [prepares.tracker] at delta monotone
  exact
    { change with
      config := change.config.trans prepares.config
      started := change.started.trans prepares.started
      scheduled := change.scheduled.trans (by rw [prepares.config])
      delta
      monotone }

/-- What an attempt may do: nothing before it is due, fail or accept a baseline. -/
inductive AttemptChange (service : SuiteBridgeObservationService) (now : Int) :
    SuiteBridgeObservationService → ObservationOutcome → Prop where
  | ignored : service.attemptDue now = false → AttemptChange service now service .ignored
  | failed {changed status} : service.attemptDue now = true →
      FailedFrom service changed status now → AttemptChange service now changed (.failed status)
  | succeeded {changed baseline} : service.attemptDue now = true →
      SucceededFrom service changed baseline now →
      AttemptChange service now changed (.succeeded baseline)

theorem readAfterDiscovery_change {service prepared : SuiteBridgeObservationService}
    (handshake : SuiteBridgeHandshake) {now : Int} (due : service.attemptDue now = true)
    (prepares : Prepares service prepared) :
    AttemptChange service now (prepared.readAfterDiscovery handshake now)
      (readOutcome service (handshake.readSnapshot prepared.snapshot.discovery)) := by
  unfold readAfterDiscovery readOutcome
  dsimp only
  rw [← prepares.tracker]
  split
  · exact .failed due ((handleFailure_spec _ _ _).of_prepared prepares)
  · split
    · rename_i rejected
      exact .failed due ((acceptReadySnapshot_rejected _ _ _ rejected).of_prepared prepares)
    · rename_i accepted
      exact .succeeded due ((acceptReadySnapshot_spec _ _ _ accepted).of_prepared prepares)

theorem attempt_change (service : SuiteBridgeObservationService)
    (handshake : SuiteBridgeHandshake) (now : Int) :
    AttemptChange service now (service.attempt handshake now)
      (attemptOutcome service handshake now) := by
  have begun := prepares_beginAttempt service now
  unfold attempt attemptOutcome
  cases due : service.attemptDue now with
  | false =>
    rw [if_pos rfl, if_pos rfl]
    exact .ignored due
  | true =>
    simp only [Bool.true_eq_false, if_false]
    split
    · split
      · exact .failed due ((handleFailure_spec _ _ _).of_prepared begun)
      · have adopted := begun.adoptDiscovery handshake.discover now
        have stored : ((service.beginAttempt now).adoptDiscovery handshake.discover
            now).snapshot.discovery = handshake.discover.discovery := by
          unfold SuiteBridgeObservationService.adoptDiscovery
          rw [setState_eq]
        rw [← stored]
        exact readAfterDiscovery_change handshake due adopted
    · have stored : (service.beginAttempt now).snapshot.discovery =
          service.snapshot.discovery := by
        unfold beginAttempt
        rw [setState_eq]
      rw [← stored]
      exact readAfterDiscovery_change handshake due begun

/-! ## Histories

A history lists the calls of a run with what they came to, the newest first. -/

def history (config : SuiteBridgeObservationConfig) (calls : List ObservationCall) :
    List (ObservationCall × ObservationOutcome) :=
  (Run.journal observationStep { config } calls).reverse

theorem history_concat (config : SuiteBridgeObservationConfig) (calls : List ObservationCall)
    (call : ObservationCall) :
    history config (calls ++ [call]) =
      (call, (observationStep (Run.final observationStep { config } calls) call).2) ::
        history config calls := by
  rw [history, Run.journal_concat, List.reverse_append]
  rfl

def ObservationOutcome.isAttempt : ObservationOutcome → Bool
  | .failed _ | .succeeded _ => true
  | .ignored | .started | .stopped | .refreshed => false

def ObservationOutcome.isFailure : ObservationOutcome → Bool
  | .failed _ => true
  | .succeeded _ | .ignored | .started | .stopped | .refreshed => false

def attempts (history : List (ObservationCall × ObservationOutcome)) :
    List (Int × ObservationOutcome) :=
  (history.filter (·.2.isAttempt)).map fun entry => (entry.1.now, entry.2)

def sinceStart (history : List (ObservationCall × ObservationOutcome)) :
    List (ObservationCall × ObservationOutcome) :=
  history.takeWhile (·.2 != .started)

def successOf (entry : ObservationCall × ObservationOutcome) :
    Option (Int × SuiteBridgeSnapshotBaseline) :=
  match entry.2 with
  | .succeeded baseline => some (entry.1.now, baseline)
  | .failed _ | .ignored | .started | .stopped | .refreshed => none

def successes (history : List (ObservationCall × ObservationOutcome)) :
    List (Int × SuiteBridgeSnapshotBaseline) :=
  history.filterMap successOf

def acceptedBaselines (history : List (ObservationCall × ObservationOutcome)) :
    List SuiteBridgeSnapshotBaseline :=
  (successes history).map (·.2)

def failureStreak (history : List (ObservationCall × ObservationOutcome)) : Nat :=
  ((attempts (sinceStart history)).takeWhile (·.2.isFailure)).length

def ObservationOutcome.isSilent : ObservationOutcome → Bool
  | .ignored | .stopped | .refreshed => true
  | .failed _ | .succeeded _ | .started => false

section Entries

variable (call : ObservationCall) (history : List (ObservationCall × ObservationOutcome))

theorem attempts_silent {outcome : ObservationOutcome} (silent : outcome.isSilent = true) :
    attempts ((call, outcome) :: history) = attempts history := by
  cases outcome <;> first | rfl | cases silent

theorem attempts_sinceStart_silent {outcome : ObservationOutcome}
    (silent : outcome.isSilent = true) :
    attempts (sinceStart ((call, outcome) :: history)) = attempts (sinceStart history) := by
  cases outcome <;> first | rfl | cases silent

theorem successes_silent {outcome : ObservationOutcome} (silent : outcome.isSilent = true) :
    successes ((call, outcome) :: history) = successes history := by
  cases outcome <;> first | rfl | cases silent

theorem attempts_sinceStart_failed (status : SuiteBridgeHandshakeStatus) :
    attempts (sinceStart ((call, .failed status) :: history)) =
      (call.now, .failed status) :: attempts (sinceStart history) := rfl

end Entries

/-! ## The invariant of a run -/

def Continues (newer earlier : SuiteBridgeSnapshotBaseline) : Prop :=
  newer.counterEpoch = earlier.counterEpoch → newer.counterOverflow = false →
    earlier.counterOverflow = false → newer.countersAtLeast earlier = true

/-- The delta is that of the two newest baselines, the newest of which the latest attempt read. -/
def DeltaExplained (delta : SuiteBridgeSnapshotDelta)
    (history : List (ObservationCall × ObservationOutcome)) : Prop :=
  ∃ time newest previous older rest,
    attempts history = (time, .succeeded newest) :: rest ∧
    acceptedBaselines history = newest :: previous :: older ∧
    newest.counterEpoch = previous.counterEpoch ∧ newest.countersAtLeast previous = true ∧
    delta = deltaFrom newest previous

structure ObservationInvariant (config : SuiteBridgeObservationConfig)
    (service : SuiteBridgeObservationService)
    (history : List (ObservationCall × ObservationOutcome)) : Prop where
  configured : service.config = config
  tracked : service.baselineTracker.hasBaseline = (successes history).head?.isSome
  hasBaseline : service.snapshot.hasBaseline = (successes history).head?.isSome
  lastSuccessAt : service.snapshot.lastSuccessAt = (successes history).head?.map Prod.fst
  newest : ∀ success ∈ (successes history).head?,
    service.baselineTracker.baseline = success.2 ∧ service.snapshot.baseline = success.2
  stopped : service.snapshot.started = false →
    service.snapshot.nextAttemptAt = none ∧ ¬ ClaimsCurrent service.snapshot.state
  failures : service.snapshot.started = true →
    service.snapshot.consecutiveFailures = min 4294967295 (failureStreak history)
  continues : (acceptedBaselines history).IsChain Continues
  delta : service.snapshot.hasDelta = true → DeltaExplained service.snapshot.delta history
  current : ClaimsCurrent service.snapshot.state →
    ∀ attempt ∈ (attempts (sinceStart history)).head?, attempt.2.isFailure = false
  scheduled : service.snapshot.started = true → ∀ time baseline,
    (attempts (sinceStart history)).head? = some (time, .succeeded baseline) →
    service.snapshot.nextAttemptAt = some (time + nanoseconds config.pollInterval.toInt) ∧
      service.snapshot.lastSuccessAt = some time

theorem observationInvariant_initial (config : SuiteBridgeObservationConfig) :
    ObservationInvariant config { config } [] :=
  { configured := rfl, tracked := rfl, hasBaseline := rfl, lastSuccessAt := rfl
    newest := nofun
    stopped := fun _ => ⟨rfl, by simp [ClaimsCurrent]⟩
    failures := nofun
    continues := List.IsChain.nil
    delta := nofun
    current := nofun
    scheduled := nofun }

section Steps

variable {config : SuiteBridgeObservationConfig} {service : SuiteBridgeObservationService}
  {history : List (ObservationCall × ObservationOutcome)}

theorem ObservationInvariant.silent (valid : ObservationInvariant config service history)
    (call : ObservationCall) {outcome : ObservationOutcome} (silent : outcome.isSilent = true) :
    ObservationInvariant config service ((call, outcome) :: history) := by
  have same := attempts_sinceStart_silent call history silent
  have streak : failureStreak ((call, outcome) :: history) = failureStreak history := by
    rw [failureStreak, same, failureStreak]
  have explained : DeltaExplained service.snapshot.delta history →
      DeltaExplained service.snapshot.delta ((call, outcome) :: history) := by
    rintro ⟨time, newest, previous, older, rest, latest, accepted, differs⟩
    refine ⟨time, newest, previous, older, rest, ?_, ?_, differs⟩
    · rw [attempts_silent call history silent, latest]
    · rw [acceptedBaselines, successes_silent call history silent]
      exact accepted
  constructor
  case configured => exact valid.configured
  case stopped => exact valid.stopped
  case failures =>
    rw [streak]
    exact valid.failures
  case continues =>
    rw [acceptedBaselines, successes_silent call history silent]
    exact valid.continues
  case delta => exact fun hasDelta => explained (valid.delta hasDelta)
  case current =>
    rw [same]
    exact valid.current
  case scheduled =>
    rw [same]
    exact valid.scheduled
  all_goals rw [successes_silent call history silent]
  · exact valid.tracked
  · exact valid.hasBaseline
  · exact valid.lastSuccessAt
  · exact valid.newest

theorem ObservationInvariant.start (valid : ObservationInvariant config service history)
    (now : Int) (idle : service.snapshot.started = false) :
    ObservationInvariant config (service.start now) ((.start now, .started) :: history) := by
  unfold SuiteBridgeObservationService.start
  rw [if_neg (by simp [idle]), setState_eq]
  constructor
  case configured => exact valid.configured
  case tracked => exact valid.tracked
  case hasBaseline => exact valid.hasBaseline
  case lastSuccessAt => exact valid.lastSuccessAt
  case newest => exact valid.newest
  case stopped => nofun
  case failures => exact fun _ => rfl
  case continues => exact valid.continues
  case delta => exact valid.delta
  case current => nofun
  case scheduled => nofun

theorem ObservationInvariant.stop (valid : ObservationInvariant config service history)
    (now : Int) (running : service.snapshot.started = true) :
    ObservationInvariant config (service.stop now) ((.stop now, .stopped) :: history) := by
  refine ObservationInvariant.silent ?_ (.stop now) rfl
  unfold SuiteBridgeObservationService.stop
  rw [if_neg (by simp [running]), setState_eq]
  exact
    { valid with
      stopped := fun _ => ⟨rfl, by simp [ClaimsCurrent]⟩
      failures := nofun
      current := by simp [ClaimsCurrent]
      scheduled := nofun }

theorem ObservationInvariant.refresh (valid : ObservationInvariant config service history)
    (now : Int) (running : service.snapshot.started = true) :
    ObservationInvariant config (service.refresh now) ((.refresh now, .refreshed) :: history) := by
  refine ObservationInvariant.silent ?_ (.refresh now) rfl
  unfold SuiteBridgeObservationService.refresh
  rw [if_neg (by simp [running]), updateFreshness_eq, setState_eq]
  refine
    { valid with
      stopped := fun idle => absurd (running.symm.trans idle) (by decide)
      current := ?_ }
  intro current attempt latest
  dsimp only at current
  cases present : (successes history).head? with
  | none =>
    have unchanged : freshness service now = service.snapshot.state := by
      have never : service.snapshot.lastSuccessAt = none := by
        rw [valid.lastSuccessAt, present]
        rfl
      rw [freshness, never]
    rw [unchanged] at current
    exact valid.current current attempt latest
  | some success =>
    have none := freshness_claims_current service
      (by rw [valid.lastSuccessAt, present]; rfl)
      (by rw [valid.hasBaseline, present]; rfl) current
    have streak : failureStreak history = 0 := by
      have counted := valid.failures running
      omega
    unfold failureStreak at streak
    cases listed : attempts (sinceStart history) with
    | nil =>
      rw [listed] at latest
      cases latest
    | cons first rest =>
      rw [listed] at latest streak
      cases latest
      cases failure : attempt.2.isFailure with
      | false => rfl
      | true => simp [failure] at streak

theorem started_of_due {now : Int} (due : service.attemptDue now = true) :
    service.snapshot.started = true := by
  simp only [attemptDue, Bool.and_eq_true] at due
  exact due.1

theorem ObservationInvariant.failed (valid : ObservationInvariant config service history)
    {changed : SuiteBridgeObservationService} {status : SuiteBridgeHandshakeStatus}
    (handshake : SuiteBridgeHandshake) {now : Int} (due : service.attemptDue now = true)
    (change : FailedFrom service changed status now) :
    ObservationInvariant config changed ((.attempt handshake now, .failed status) :: history) := by
  have running := started_of_due due
  constructor
  case configured => exact change.config.trans valid.configured
  case tracked => exact change.tracked.trans valid.tracked
  case hasBaseline => exact change.hasBaseline.trans valid.hasBaseline
  case lastSuccessAt => exact change.lastSuccessAt.trans valid.lastSuccessAt
  case newest =>
    intro success latest
    rw [change.trackedBaseline, change.baseline]
    exact valid.newest success latest
  case stopped => exact fun idle => absurd ((change.started.trans running).symm.trans idle) (by decide)
  case failures =>
    intro _
    have counted := valid.failures running
    have streak : failureStreak ((.attempt handshake now, .failed status) :: history) =
        failureStreak history + 1 := rfl
    rw [change.failures, streak, countFailure]
    split <;> omega
  case continues => exact valid.continues
  case delta => exact fun hasDelta => absurd (change.noDelta.symm.trans hasDelta) (by decide)
  case current => exact fun current => absurd current change.state
  case scheduled =>
    intro _ time baseline latest
    rw [attempts_sinceStart_failed] at latest
    cases latest

theorem ObservationInvariant.previous (valid : ObservationInvariant config service history)
    (tracked : service.baselineTracker.hasBaseline = true) :
    ∃ older, acceptedBaselines history = service.baselineTracker.baseline :: older := by
  rw [valid.tracked] at tracked
  cases listed : successes history with
  | nil =>
    rw [listed] at tracked
    cases tracked
  | cons success rest =>
    have newest := valid.newest success (by rw [listed]; rfl)
    exact ⟨rest.map (·.2), by rw [acceptedBaselines, listed, newest.1]; rfl⟩

theorem ObservationInvariant.succeeded (valid : ObservationInvariant config service history)
    {changed : SuiteBridgeObservationService} {baseline : SuiteBridgeSnapshotBaseline}
    (handshake : SuiteBridgeHandshake) {now : Int} (due : service.attemptDue now = true)
    (change : SucceededFrom service changed baseline now) :
    ObservationInvariant config changed
      ((.attempt handshake now, .succeeded baseline) :: history) := by
  have running := started_of_due due
  have accepted : acceptedBaselines ((.attempt handshake now, .succeeded baseline) :: history) =
      baseline :: acceptedBaselines history := rfl
  constructor
  case configured => exact change.config.trans valid.configured
  case tracked => exact change.tracked
  case hasBaseline => exact change.hasBaseline
  case lastSuccessAt => exact change.lastSuccessAt
  case newest =>
    rintro success ⟨⟩
    exact ⟨change.trackedBaseline, change.baseline⟩
  case stopped => exact fun idle => absurd ((change.started.trans running).symm.trans idle) (by decide)
  case failures => exact fun _ => change.failures
  case continues =>
    rw [accepted]
    refine List.isChain_cons.mpr ⟨?_, valid.continues⟩
    intro earlier latest epoch newerWithin earlierWithin
    have tracked : service.baselineTracker.hasBaseline = true := by
      rw [valid.tracked]
      cases listed : successes history with
      | nil =>
        rw [acceptedBaselines, listed] at latest
        cases latest
      | cons success rest => rfl
    obtain ⟨older, listed⟩ := valid.previous tracked
    rw [listed] at latest
    cases latest
    exact change.monotone tracked epoch newerWithin earlierWithin
  case delta =>
    intro hasDelta
    obtain ⟨tracked, epoch, counters, delta⟩ := change.delta hasDelta
    obtain ⟨older, listed⟩ := valid.previous tracked
    exact ⟨now, baseline, service.baselineTracker.baseline, older, attempts history, rfl,
      by rw [accepted, listed], epoch, counters, delta⟩
  case current =>
    rintro - attempt ⟨⟩
    rfl
  case scheduled =>
    rintro - time other ⟨⟩
    refine ⟨?_, change.lastSuccessAt⟩
    rw [change.scheduled, valid.configured]
    rfl

theorem ObservationInvariant.step (valid : ObservationInvariant config service history)
    (call : ObservationCall) :
    ObservationInvariant config (observationStep service call).1
      ((call, (observationStep service call).2) :: history) := by
  cases call with
  | start now =>
    cases running : service.snapshot.started with
    | false =>
      simp only [observationStep, running]
      exact valid.start now running
    | true =>
      simp only [observationStep, running, SuiteBridgeObservationService.start, if_true]
      exact valid.silent (.start now) rfl
  | stop now =>
    cases running : service.snapshot.started with
    | false =>
      simp only [observationStep, running, SuiteBridgeObservationService.stop, if_true]
      exact valid.silent (.stop now) rfl
    | true =>
      simp only [observationStep, running, if_true]
      exact valid.stop now running
  | refresh now =>
    cases running : service.snapshot.started with
    | false =>
      simp only [observationStep, running, SuiteBridgeObservationService.refresh, if_true]
      exact valid.silent (.refresh now) rfl
    | true =>
      simp only [observationStep, running, if_true]
      exact valid.refresh now running
  | attempt handshake now =>
    simp only [observationStep]
    have change := attempt_change service handshake now
    generalize service.attempt handshake now = changed at change ⊢
    generalize attemptOutcome service handshake now = outcome at change ⊢
    cases change with
    | ignored early => exact valid.silent (.attempt handshake now) rfl
    | failed due change => exact valid.failed handshake due change
    | succeeded due change => exact valid.succeeded handshake due change

end Steps

theorem observationInvariant_run (config : SuiteBridgeObservationConfig)
    (calls : List ObservationCall) :
    ObservationInvariant config (Run.final observationStep { config } calls)
      (history config calls) := by
  induction calls using List.reverseRecOn with
  | nil => exact observationInvariant_initial config
  | append_singleton calls call ih =>
    rw [Run.final_concat, history_concat]
    exact ih.step call

/-! ## What a run reports -/

def Ordered (calls : List ObservationCall) : Prop :=
  (calls.map (·.now)).Pairwise (· ≤ ·)

/-- Some attempt since the last start has succeeded less than `staleAfter` ago, and none has failed
after it. -/
def FreshSuccess (config : SuiteBridgeObservationConfig)
    (history : List (ObservationCall × ObservationOutcome)) (now : Int) : Prop :=
  ∃ newer time baseline older,
    attempts (sinceStart history) = newer ++ (time, .succeeded baseline) :: older ∧
    (∀ attempt ∈ newer, attempt.2.isFailure = false) ∧
    now - time < nanoseconds config.staleAfter.toInt

/-- Once an attempt has been made since the last start, current data are claimed only of a fresh
success. -/
def StateHonest (config : SuiteBridgeObservationConfig) (service : SuiteBridgeObservationService)
    (history : List (ObservationCall × ObservationOutcome)) (now : Int) : Prop :=
  attempts (sinceStart history) ≠ [] → ClaimsCurrent service.snapshot.state →
    FreshSuccess config history now

/-- As long as the epoch stays and nothing overflows, no accepted baseline falls below an earlier
one. -/
def CountersMonotone (history : List (ObservationCall × ObservationOutcome)) : Prop :=
  ∀ newer later between earlier older epoch,
    acceptedBaselines history = newer ++ later :: (between ++ earlier :: older) →
    (∀ baseline ∈ later :: (between ++ [earlier]),
      baseline.counterEpoch = epoch ∧ baseline.counterOverflow = false) →
    later.countersAtLeast earlier = true

def DeltaHonest (service : SuiteBridgeObservationService)
    (history : List (ObservationCall × ObservationOutcome)) : Prop :=
  service.snapshot.hasDelta = true → DeltaExplained service.snapshot.delta history

def RetryScheduled (config : SuiteBridgeObservationConfig)
    (service : SuiteBridgeObservationService)
    (history : List (ObservationCall × ObservationOutcome)) : Prop :=
  ∀ call status rest, history = (call, .failed status) :: rest → status ≠ .notConfigured →
    service.snapshot.nextAttemptAt =
      some (call.now + nanoseconds
        (min config.reconnectMaximum.toInt
          (config.reconnectInitial.toInt * 2 ^ (failureStreak history - 1))))

/-- The service wakes before the next attempt is due and before a refresh changes the state. -/
def WakesInTime (service : SuiteBridgeObservationService) (now : Int) : Prop :=
  (∀ due, service.snapshot.nextAttemptAt = some due →
    ∃ wake, service.nextWakeAt now = some wake ∧ wake ≤ due) ∧
  ∀ later, now ≤ later → (service.refresh later).snapshot.state ≠ service.snapshot.state →
    ∃ wake, service.nextWakeAt now = some wake ∧ wake ≤ later

theorem countersAtLeast_iff {next previous : SuiteBridgeSnapshotBaseline} :
    next.countersAtLeast previous = true ↔
      previous.total ≤ next.total ∧ previous.channelSwitch ≤ next.channelSwitch ∧
      previous.recording ≤ next.recording ∧ previous.recordingList ≤ next.recordingList ∧
      previous.replaying ≤ next.replaying ∧ previous.timerChange ≤ next.timerChange ∧
      previous.marksModified ≤ next.marksModified := by
  simp only [SuiteBridgeSnapshotBaseline.countersAtLeast, Bool.and_eq_true, decide_eq_true_eq,
    and_assoc]

theorem countersAtLeast_trans {first second third : SuiteBridgeSnapshotBaseline}
    (newer : first.countersAtLeast second = true) (older : second.countersAtLeast third = true) :
    first.countersAtLeast third = true := by
  rw [countersAtLeast_iff] at *
  omega

theorem countersAtLeast_of_chain {epoch : Bytes} {later earlier : SuiteBridgeSnapshotBaseline}
    {between : List SuiteBridgeSnapshotBaseline}
    (continues : (later :: (between ++ [earlier])).IsChain Continues)
    (within : ∀ baseline ∈ later :: (between ++ [earlier]),
      baseline.counterEpoch = epoch ∧ baseline.counterOverflow = false) :
    later.countersAtLeast earlier = true := by
  induction between generalizing later with
  | nil =>
    obtain ⟨related, -⟩ := List.isChain_cons_cons.mp continues
    have newer := within later (by simp)
    have older := within earlier (by simp)
    exact related (newer.1.trans older.1.symm) newer.2 older.2
  | cons next between ih =>
    obtain ⟨related, rest⟩ := List.isChain_cons_cons.mp continues
    have newer := within later (by simp)
    have older := within next (by simp)
    refine countersAtLeast_trans (related (newer.1.trans older.1.symm) newer.2 older.2) ?_
    exact ih rest fun baseline member => within baseline (List.mem_cons_of_mem _ member)

theorem ObservationInvariant.countersMonotone {config : SuiteBridgeObservationConfig}
    {service : SuiteBridgeObservationService}
    {history : List (ObservationCall × ObservationOutcome)}
    (valid : ObservationInvariant config service history) : CountersMonotone history := by
  intro newer later between earlier older epoch listed within
  refine countersAtLeast_of_chain ?_ within
  have continues := valid.continues
  rw [listed] at continues
  have suffix := List.IsChain.right_of_append continues
  rw [List.append_cons] at suffix
  exact suffix.left_of_append

theorem mem_of_mem_history {config : SuiteBridgeObservationConfig} {calls : List ObservationCall}
    {entry : ObservationCall × ObservationOutcome} (member : entry ∈ history config calls) :
    entry.1 ∈ calls := by
  induction calls using List.reverseRecOn with
  | nil => cases member
  | append_singleton calls call ih =>
    rw [history_concat] at member
    obtain rfl | earlier := List.mem_cons.mp member
    · simp
    · exact List.mem_append_left _ (ih earlier)

theorem now_le_of_mem_history {config : SuiteBridgeObservationConfig}
    {calls : List ObservationCall} {call : ObservationCall} (ordered : Ordered (calls ++ [call]))
    {entry : ObservationCall × ObservationOutcome}
    (member : entry ∈ history config (calls ++ [call])) : entry.1.now ≤ call.now := by
  rw [Ordered, List.map_append] at ordered
  obtain earlier | last := List.mem_append.mp (mem_of_mem_history member)
  · exact (List.pairwise_append.mp ordered).2.2 _ (List.mem_map_of_mem earlier) _ (by simp)
  · rw [List.mem_singleton.mp last]

theorem lastSuccessAt_le {config : SuiteBridgeObservationConfig} {calls : List ObservationCall}
    {call : ObservationCall} (ordered : Ordered (calls ++ [call])) {lastSuccessAt : Int}
    (last : (Run.final observationStep { config } (calls ++ [call])).snapshot.lastSuccessAt =
      some lastSuccessAt) : lastSuccessAt ≤ call.now := by
  rw [(observationInvariant_run config (calls ++ [call])).lastSuccessAt] at last
  obtain ⟨success, newest, rfl⟩ := Option.map_eq_some_iff.mp last
  obtain ⟨entry, member, read⟩ := List.mem_filterMap.mp (List.mem_of_mem_head? newest)
  have bound := now_le_of_mem_history ordered member
  unfold successOf at read
  split at read
  · cases read
    exact bound
  all_goals cases read

section Reports

variable {config : SuiteBridgeObservationConfig} {calls : List ObservationCall}
  {call : ObservationCall}

theorem mem_attempts {history : List (ObservationCall × ObservationOutcome)}
    {attempt : Int × ObservationOutcome} (member : attempt ∈ attempts history) :
    attempt.2.isAttempt = true := by
  obtain ⟨entry, kept, rfl⟩ := List.mem_map.mp member
  exact (List.mem_filter.mp kept).2

/-- Behind a claim of current data the latest attempt since the last start is the last success. -/
theorem latest_of_claimsCurrent {service : SuiteBridgeObservationService}
    {history : List (ObservationCall × ObservationOutcome)}
    (valid : ObservationInvariant config service history)
    (current : ClaimsCurrent service.snapshot.state)
    (attempted : attempts (sinceStart history) ≠ []) :
    ∃ time baseline older,
      attempts (sinceStart history) = (time, .succeeded baseline) :: older ∧
      service.snapshot.started = true ∧ service.snapshot.lastSuccessAt = some time ∧
      service.snapshot.nextAttemptAt = some (time + nanoseconds config.pollInterval.toInt) := by
  have running : service.snapshot.started = true := by
    cases running : service.snapshot.started with
    | false => exact absurd current (valid.stopped running).2
    | true => rfl
  cases listed : attempts (sinceStart history) with
  | nil => exact absurd listed attempted
  | cons latest older =>
    obtain ⟨time, outcome⟩ := latest
    have unfailed := valid.current current (time, outcome) (by rw [listed]; rfl)
    have counted : outcome.isAttempt = true := by
      have member : (time, outcome) ∈ attempts (sinceStart history) := by simp [listed]
      exact mem_attempts member
    cases outcome with
    | succeeded baseline =>
      obtain ⟨next, last⟩ := valid.scheduled running time baseline (by rw [listed]; rfl)
      exact ⟨time, baseline, older, rfl, running, last, next⟩
    | failed status => cases unfailed
    | ignored => cases counted
    | started => cases counted
    | stopped => cases counted
    | refreshed => cases counted

theorem stateHonest_refresh (now : Int) (ordered : Ordered (calls ++ [.refresh now])) :
    StateHonest config (Run.final observationStep { config } (calls ++ [.refresh now]))
      (history config (calls ++ [.refresh now])) now := by
  intro attempted current
  have valid := observationInvariant_run config (calls ++ [.refresh now])
  obtain ⟨time, baseline, older, listed, running, last, -⟩ :=
    latest_of_claimsCurrent valid current attempted
  have past : time ≤ now := lastSuccessAt_le ordered last
  refine ⟨[], time, baseline, older, listed, nofun, ?_⟩
  have present := valid.hasBaseline
  have known := valid.lastSuccessAt
  rw [last] at known
  have before := observationInvariant_run config calls
  rw [Run.final_concat] at current running last present
  simp only [observationStep, SuiteBridgeObservationService.refresh] at current running last present
  split at current
  · rename_i idle
    exact absurd current (before.stopped idle).2
  · rename_i runs
    rw [if_neg runs, updateFreshness_eq, setState_eq] at last present
    rw [updateFreshness_eq, setState_eq] at current
    have found : (successes (history config (calls ++ [.refresh now]))).head?.isSome = true := by
      obtain ⟨success, newest, -⟩ := Option.map_eq_some_iff.mp known.symm
      rw [newest]
      rfl
    have young := freshness_current_young (Run.final observationStep { config } calls) past last
      (present.trans found) current
    rw [before.configured] at young
    change now - time < _
    omega

theorem stateHonest_attempt (accepted : config.accepted = true) (handshake : SuiteBridgeHandshake)
    (now : Int) :
    StateHonest config
      (Run.final observationStep { config } (calls ++ [.attempt handshake now]))
      (history config (calls ++ [.attempt handshake now])) now := by
  intro attempted current
  have valid := observationInvariant_run config (calls ++ [.attempt handshake now])
  obtain ⟨time, baseline, older, listed, running, last, next⟩ :=
    latest_of_claimsCurrent valid current attempted
  refine ⟨[], time, baseline, older, listed, nofun, ?_⟩
  simp only [SuiteBridgeObservationConfig.accepted, positive, Bool.and_eq_true,
    decide_eq_true_eq] at accepted
  obtain ⟨⟨⟨⟨⟨⟨⟨-, stalePositive⟩, -⟩, -⟩, -⟩, pollsInTime⟩, -⟩, -⟩ := accepted
  rw [history_concat] at listed
  rw [Run.final_concat] at running next
  simp only [observationStep] at listed running next
  have change := attempt_change (Run.final observationStep { config } calls) handshake now
  generalize (Run.final observationStep { config } calls).attempt handshake now = changed at *
  generalize attemptOutcome (Run.final observationStep { config } calls) handshake now = outcome at *
  unfold nanoseconds at *
  cases change with
  | ignored early =>
    simp only [attemptDue, running, next, Bool.true_and, Option.any_some,
      decide_eq_false_iff_not, not_le] at early
    omega
  | failed => cases listed
  | succeeded =>
    cases listed
    change now - now < _
    omega

theorem retryScheduled (accepted : config.accepted = true) :
    RetryScheduled config (Run.final observationStep { config } (calls ++ [call]))
      (history config (calls ++ [call])) := by
  intro failing status rest latest configured
  have valid := observationInvariant_run config (calls ++ [call])
  simp only [SuiteBridgeObservationConfig.accepted, positive, Bool.and_eq_true,
    decide_eq_true_eq] at accepted
  obtain ⟨⟨⟨⟨⟨-, initialPositive⟩, -⟩, -⟩, -⟩, -⟩ := accepted
  have counted := valid.failures
  have same := valid.configured
  rw [history_concat] at latest
  rw [Run.final_concat] at counted same ⊢
  generalize failureStreak (history config (calls ++ [call])) = failures at *
  cases call with
  | start now =>
    simp only [observationStep] at latest
    split at latest <;> cases latest
  | stop now =>
    simp only [observationStep] at latest
    split at latest <;> cases latest
  | refresh now =>
    simp only [observationStep] at latest
    split at latest <;> cases latest
  | attempt handshake now =>
    simp only [observationStep] at latest counted same ⊢
    have change := attempt_change (Run.final observationStep { config } calls) handshake now
    generalize (Run.final observationStep { config } calls).attempt handshake now = changed at *
    generalize attemptOutcome (Run.final observationStep { config } calls) handshake now =
      outcome at *
    cases latest
    cases change with
    | failed due failed =>
      have running := failed.started.trans (started_of_due due)
      have delay : changed.reconnectDelay =
          min config.reconnectMaximum.toInt
            (config.reconnectInitial.toInt * 2 ^ (failures - 1)) := by
        rw [reconnectDelay, same, counted running,
          reconnectDelayLoop_eq _ _ _ initialPositive,
          capped_saturated initialPositive (by omega)]
      rw [failed.scheduled, if_neg configured, delay]
      rfl

theorem earlier_spec (next : Option Int) (candidate : Int) :
    ∃ wake, earlier next candidate = some wake ∧ wake ≤ candidate ∧
      ∀ due, next = some due → wake ≤ due := by
  cases next with
  | none => exact ⟨candidate, rfl, le_refl candidate, nofun⟩
  | some current =>
    refine ⟨_, rfl, ?_, ?_⟩
    · split <;> omega
    · rintro due ⟨⟩
      split <;> omega

/-- A refreshed service wakes at the next threshold that the age of its baseline will pass. -/
theorem wakesInTime_of_fresh {service : SuiteBridgeObservationService} {lastSuccessAt now : Int}
    (past : lastSuccessAt ≤ now) (running : service.snapshot.started = true)
    (last : service.snapshot.lastSuccessAt = some lastSuccessAt)
    (present : service.snapshot.hasBaseline = true)
    (thresholds : service.config.staleAfter.toInt < service.config.offlineAfter.toInt)
    (fresh : service.snapshot.state = freshness service now) : WakesInTime service now := by
  have widens : nanoseconds service.config.staleAfter.toInt <
      nanoseconds service.config.offlineAfter.toInt := by
    unfold nanoseconds
    omega
  have refreshed (later : Int) :
      (service.refresh later).snapshot.state = freshness service later := by
    rw [SuiteBridgeObservationService.refresh, if_neg (by simp [running]), updateFreshness_eq,
      setState_eq]
  have wakes : service.nextWakeAt now =
      if now < lastSuccessAt + nanoseconds service.config.staleAfter.toInt then
        earlier service.snapshot.nextAttemptAt
          (lastSuccessAt + nanoseconds service.config.staleAfter.toInt)
      else if now < lastSuccessAt + nanoseconds service.config.offlineAfter.toInt then
        earlier service.snapshot.nextAttemptAt
          (lastSuccessAt + nanoseconds service.config.offlineAfter.toInt)
      else service.snapshot.nextAttemptAt := by
    unfold nextWakeAt
    rw [if_neg (by simp [running]), last]
    dsimp only
    rw [if_neg (by simp [present])]
  obtain ⟨staleWake, staleEq, beforeStale, staleDue⟩ := earlier_spec service.snapshot.nextAttemptAt
    (lastSuccessAt + nanoseconds service.config.staleAfter.toInt)
  obtain ⟨offlineWake, offlineEq, beforeOffline, offlineDue⟩ :=
    earlier_spec service.snapshot.nextAttemptAt
      (lastSuccessAt + nanoseconds service.config.offlineAfter.toInt)
  rw [freshness_eq service past last present] at fresh
  constructor
  · intro due next
    rw [wakes]
    split_ifs
    · exact ⟨staleWake, staleEq, staleDue due next⟩
    · exact ⟨offlineWake, offlineEq, offlineDue due next⟩
    · exact ⟨due, next, le_refl due⟩
  · intro later reached changes
    rw [refreshed, fresh, freshness_eq service (past.trans reached) last present] at changes
    rw [wakes]
    split_ifs with young middle
    · refine ⟨staleWake, staleEq, beforeStale.trans ?_⟩
      by_contra still
      split_ifs at changes <;> first | exact changes rfl | omega
    · refine ⟨offlineWake, offlineEq, beforeOffline.trans ?_⟩
      by_contra still
      split_ifs at changes <;> first | exact changes rfl | omega
    · exfalso
      split_ifs at changes <;> first | exact changes rfl | omega

theorem wakesInTime_refresh (accepted : config.accepted = true) (now : Int) (ordered : Ordered (calls ++ [.refresh now])) :
    WakesInTime (Run.final observationStep { config } (calls ++ [.refresh now])) now := by
  have valid := observationInvariant_run config (calls ++ [.refresh now])
  cases running : (Run.final observationStep { config } (calls ++ [.refresh now])).snapshot.started with
  | false =>
    refine ⟨fun due next => ?_, fun later _ changes => ?_⟩
    · rw [(valid.stopped running).1] at next
      cases next
    · rw [SuiteBridgeObservationService.refresh, if_pos running] at changes
      exact absurd rfl changes
  | true =>
    cases last : (Run.final observationStep { config }
        (calls ++ [.refresh now])).snapshot.lastSuccessAt with
    | none =>
      refine ⟨fun due next => ⟨due, ?_, le_refl due⟩, fun later _ changes => ?_⟩
      · rw [nextWakeAt, if_neg (by simp [running]), last]
        exact next
      · rw [SuiteBridgeObservationService.refresh, if_neg (by simp [running]),
          updateFreshness_eq, setState_eq, freshness, last] at changes
        exact absurd rfl changes
    | some lastSuccessAt =>
      have present : (Run.final observationStep { config }
          (calls ++ [.refresh now])).snapshot.hasBaseline = true := by
        have known := valid.lastSuccessAt
        rw [last] at known
        obtain ⟨success, newest, -⟩ := Option.map_eq_some_iff.mp known.symm
        rw [valid.hasBaseline, newest]
        rfl
      have thresholds := accepted
      simp only [SuiteBridgeObservationConfig.accepted, Bool.and_eq_true,
        decide_eq_true_eq] at thresholds
      refine wakesInTime_of_fresh (lastSuccessAt_le ordered last) running last present ?_ ?_
      · rw [valid.configured]
        exact thresholds.1.2
      · rw [Run.final_concat] at running last present ⊢
        simp only [observationStep, SuiteBridgeObservationService.refresh] at running last present ⊢
        split at running
        · rename_i idle
          exact absurd (running.symm.trans idle) (by decide)
        · rename_i runs
          rw [if_neg runs, updateFreshness_eq] at last present ⊢
          rw [setState_eq] at last present
          have same := freshness_setState (Run.final observationStep { config } calls)
            (freshness (Run.final observationStep { config } calls) now) now now
            (Option.isSome_iff_exists.mpr ⟨lastSuccessAt, last⟩) present
          rw [same, setState_eq]

end Reports

/-- What the observation of the suite bridge reports after any ordered run. -/
theorem observation_honest (config : SuiteBridgeObservationConfig)
    (accepted : config.accepted = true) (calls : List ObservationCall) (call : ObservationCall)
    (ordered : Ordered (calls ++ [call])) :
    (∀ now, call = .refresh now ∨ (∃ handshake, call = .attempt handshake now) →
      StateHonest config (Run.final observationStep { config } (calls ++ [call]))
        (history config (calls ++ [call])) now) ∧
    CountersMonotone (history config (calls ++ [call])) ∧
    DeltaHonest (Run.final observationStep { config } (calls ++ [call]))
      (history config (calls ++ [call])) ∧
    RetryScheduled config (Run.final observationStep { config } (calls ++ [call]))
      (history config (calls ++ [call])) ∧
    (∀ now, call = .refresh now →
      WakesInTime (Run.final observationStep { config } (calls ++ [call])) now) := by
  have valid := observationInvariant_run config (calls ++ [call])
  refine ⟨?_, valid.countersMonotone, valid.delta, retryScheduled accepted, ?_⟩
  · rintro now (rfl | ⟨handshake, rfl⟩)
    · exact stateHonest_refresh now ordered
    · exact stateHonest_attempt accepted handshake now
  · rintro now rfl
    exact wakesInTime_refresh accepted now ordered

/-! ### A restart, and a wake that is asked for without a refresh -/

def readyHandshake : SuiteBridgeHandshake :=
  { discover := { status := .compatible }
    readSnapshot := fun discovery =>
      { status := .ready, discovery
        baseline := { active := true, counterEpoch := text "e1", total := 4 } } }

def failingHandshake : SuiteBridgeHandshake :=
  { discover := { status := .discoveryTransportError }
    readSnapshot := fun _ => { status := .snapshotTransportError } }

def restartedCalls : List ObservationCall :=
  [.start 0, .attempt readyHandshake 0, .attempt failingHandshake (nanoseconds 5000),
    .stop (nanoseconds 5001), .start (nanoseconds 5002), .refresh (nanoseconds 5003)]

def slowReconnect : SuiteBridgeObservationConfig := { reconnectInitial := 30000 }

def degradedCalls : List ObservationCall :=
  [.start 0, .attempt readyHandshake 0, .attempt failingHandshake (nanoseconds 14000)]

theorem observation_honest_restarted :
    (∀ now, ObservationCall.refresh (nanoseconds 5003) = .refresh now ∨
        (∃ handshake, ObservationCall.refresh (nanoseconds 5003) = .attempt handshake now) →
      StateHonest {} (Run.final observationStep { config := {} } restartedCalls)
        (history {} restartedCalls) now) ∧
    CountersMonotone (history {} restartedCalls) ∧
    DeltaHonest (Run.final observationStep { config := {} } restartedCalls)
      (history {} restartedCalls) ∧
    RetryScheduled {} (Run.final observationStep { config := {} } restartedCalls)
      (history {} restartedCalls) ∧
    (∀ now, ObservationCall.refresh (nanoseconds 5003) = .refresh now →
      WakesInTime (Run.final observationStep { config := {} } restartedCalls) now) :=
  observation_honest {} (by decide)
    [.start 0, .attempt readyHandshake 0, .attempt failingHandshake (nanoseconds 5000),
      .stop (nanoseconds 5001), .start (nanoseconds 5002)]
    (.refresh (nanoseconds 5003)) (by unfold Ordered; decide)

/-- After a restart a refresh claims current data although nothing has been read since and the last
attempt has failed; and before a refresh the wake may come after the state is due to change. -/
theorem restart_claims_current :
    Ordered restartedCalls ∧
    (Run.final observationStep { config := {} } restartedCalls).snapshot.state =
      .snapshotCurrent ∧
    ¬ FreshSuccess {} (history {} restartedCalls) (nanoseconds 5003) ∧
    slowReconnect.accepted = true ∧ Ordered degradedCalls ∧
    ¬ WakesInTime (Run.final observationStep { config := slowReconnect } degradedCalls)
      (nanoseconds 20000) := by
  refine ⟨by unfold Ordered; decide, by decide, ?_, by decide,
    by unfold Ordered; decide, ?_⟩
  · rintro ⟨newer, time, baseline, older, listed, -⟩
    have none : attempts (sinceStart (history {} restartedCalls)) = [] := by decide
    rw [none] at listed
    simp at listed
  · rintro ⟨-, wakes⟩
    have wake : (Run.final observationStep { config := slowReconnect } degradedCalls).nextWakeAt
        (nanoseconds 20000) = some (nanoseconds 44000) := by
      decide
    obtain ⟨time, same, early⟩ := wakes (nanoseconds 20000) (le_refl _) (by decide)
    rw [wake] at same
    cases same
    revert early
    decide

end VdrSuite.Agent.SuiteBridge
