import VdrSuite.Agent.NativeCommandBinding
import VdrSuite.Library.Interleaving

/-! The evidence of a fresh execution is truthful about its dispatch, and once something has been
dispatched it is there and completes the local state. -/

set_option autoImplicit false

namespace VdrSuite.Agent

open Library

section Execution

variable {Command Identity : Type}

def dispatchReply : Interleaving.Event (@NativeReply Command) →
    Option TransportOutcome
  | ⟨.dispatch _, outcome⟩ => some outcome
  | ⟨.clock, _⟩ => none
  | ⟨.discoverProvider, _⟩ => none
  | ⟨.write _, _⟩ => none

def dispatchReplies (events : List (Interleaving.Event (@NativeReply Command))) :
    List TransportOutcome :=
  events.filterMap dispatchReply

def reportsNoEffect : TransportOutcome → Bool
  | .replied .rejectedWithoutEffect _ => true
  | .replied .acceptedUnverified _ => false
  | .replied .outcomeUnknown _ => false
  | .replied .other _ => false
  | .thrown => false

/-- The evidence about an answered dispatch: it is there, a local state takes it, and it denies the
effect only if the transport does. -/
def AnswersDispatch
    (complete : NativeLocalState Command Identity → NativeEvidence Identity →
      Except String (NativeLocalState Command Identity))
    (localState : NativeLocalState Command Identity)
    (result : Except String (NativeEvidence Identity)) (outcome : TransportOutcome) : Prop :=
  ∃ evidence completed, result = .ok evidence ∧ complete localState evidence = .ok completed ∧
    (reportsNoEffect outcome = false → 0 < evidence.dispatchStartedAt ∧
      (evidence.outcome = .acceptedUnverified ∨ evidence.outcome = .outcomeUnknown))

/-- What the result of an execution says about the dispatches among its events. -/
structure TruthfulEvidence
    (complete : NativeLocalState Command Identity → NativeEvidence Identity →
      Except String (NativeLocalState Command Identity))
    (localState : NativeLocalState Command Identity)
    (events : List (Interleaving.Event (@NativeReply Command)))
    (result : Except String (NativeEvidence Identity)) : Prop where
  once : (dispatchReplies events).length ≤ 1
  denied : ∀ evidence, result = .ok evidence → evidence.outcome = .rejectedWithoutEffect →
    ∀ outcome ∈ dispatchReplies events, reportsNoEffect outcome = true
  answered : ∀ outcome ∈ dispatchReplies events,
    AnswersDispatch complete localState result outcome

structure WellTimed (localState : NativeLocalState Command Identity)
    (outcome : NativeOutcomeCategory) (dispatchStartedAt completedAt : Int) : Prop where
  completed : 0 < completedAt
  started : localState.localStartingPersistedAt ≤ completedAt
  dispatched : if outcome = .rejectedWithoutEffect then dispatchStartedAt = 0
    else 0 < dispatchStartedAt ∧ localState.localStartingPersistedAt ≤ dispatchStartedAt ∧
      dispatchStartedAt ≤ completedAt

def TakesEvidence (executor : NativeExecutor Command Identity)
    (complete : NativeLocalState Command Identity → NativeEvidence Identity →
      Except String (NativeLocalState Command Identity)) : Prop :=
  ∀ localState outcome dispatchStartedAt completedAt reference,
    executor.localStateValid localState = .ok () → localState.phase = .starting →
    WellTimed localState outcome dispatchStartedAt completedAt →
    safeEvidenceReference reference = true →
    executor.evidenceMatches
      (executor.evidenceFor localState outcome dispatchStartedAt completedAt reference)
      localState.command = true ∧
    ∃ completed, complete localState
      (executor.evidenceFor localState outcome dispatchStartedAt completedAt reference) =
        .ok completed

variable {executor : NativeExecutor Command Identity}
  {complete : NativeLocalState Command Identity → NativeEvidence Identity →
    Except String (NativeLocalState Command Identity)}
  {localState : NativeLocalState Command Identity}

theorem finish_eq_ok {outcome : NativeOutcomeCategory} {dispatchStartedAt completedAt : Int}
    {reference : Bytes} {evidence : NativeEvidence Identity}
    (finished : executor.finish localState outcome dispatchStartedAt completedAt reference =
      .ok evidence) :
    evidence =
      executor.evidenceFor localState outcome dispatchStartedAt completedAt reference := by
  unfold NativeExecutor.finish at finished
  dsimp only at finished
  split at finished
  · cases finished
    rfl
  · cases finished

theorem truthful_of_undispatched
    {events : List (Interleaving.Event (@NativeReply Command))}
    {result : Except String (NativeEvidence Identity)} (none : dispatchReplies events = []) :
    TruthfulEvidence complete localState events result := by
  constructor
  · simp [none]
  · simp [none]
  · simp [none]

theorem finish_of_wellTimed (takes : TakesEvidence executor complete)
    (valid : executor.localStateValid localState = .ok ()) (starting : localState.phase = .starting)
    {outcome : NativeOutcomeCategory} {dispatchStartedAt completedAt : Int} {reference : Bytes}
    (timed : WellTimed localState outcome dispatchStartedAt completedAt)
    (safe : safeEvidenceReference reference = true) :
    executor.finish localState outcome dispatchStartedAt completedAt reference =
        .ok (executor.evidenceFor localState outcome dispatchStartedAt completedAt reference) ∧
      ∃ completed, complete localState
        (executor.evidenceFor localState outcome dispatchStartedAt completedAt reference) =
          .ok completed := by
  obtain ⟨matched, accepted⟩ := takes localState outcome dispatchStartedAt completedAt reference
    valid starting timed safe
  refine ⟨?_, accepted⟩
  unfold NativeExecutor.finish
  dsimp only
  rw [if_pos matched]

structure FreshStart (executor : NativeExecutor Command Identity)
    (localState : NativeLocalState Command Identity) (now : Int) : Prop where
  valid : executor.localStateValid localState = .ok ()
  starting : localState.phase = .starting
  positive : 0 < now
  started : localState.localStartingPersistedAt ≤ now

theorem finish_answers (takes : TakesEvidence executor complete) {now : Int}
    (fresh : FreshStart executor localState now) {outcome : NativeOutcomeCategory}
    (effect : outcome = .acceptedUnverified ∨ outcome = .outcomeUnknown) {reference : Bytes}
    (safe : safeEvidenceReference reference = true) (reply : TransportOutcome) :
    AnswersDispatch complete localState
        (executor.finish localState outcome now now reference) reply ∧
      ∀ evidence, executor.finish localState outcome now now reference = .ok evidence →
        evidence.outcome ≠ .rejectedWithoutEffect := by
  have notDenied : outcome ≠ .rejectedWithoutEffect := by
    obtain rfl | rfl := effect <;> decide
  have timed : WellTimed localState outcome now now :=
    { completed := fresh.positive
      started := fresh.started
      dispatched := by
        rw [if_neg notDenied]
        exact ⟨fresh.positive, fresh.started, le_refl now⟩ }
  obtain ⟨finished, completed, accepted⟩ :=
    finish_of_wellTimed takes fresh.valid fresh.starting timed safe
  constructor
  · exact ⟨_, completed, finished, accepted, fun _ => ⟨fresh.positive, effect⟩⟩
  · intro evidence given
    rw [finish_eq_ok given]
    exact notDenied

theorem rejectWithoutEffect_answers (takes : TakesEvidence executor complete) {now : Int}
    (fresh : FreshStart executor localState now) {reference : Bytes}
    (safe : safeEvidenceReference reference = true) {reply : TransportOutcome}
    (denies : reportsNoEffect reply = true) :
    AnswersDispatch complete localState
      (executor.rejectWithoutEffect localState now reference) reply := by
  have timed : WellTimed localState .rejectedWithoutEffect 0
      (max now localState.localStartingPersistedAt) :=
    { completed := lt_of_lt_of_le fresh.positive (le_max_left _ _)
      started := le_max_right _ _
      dispatched := rfl }
  obtain ⟨finished, completed, accepted⟩ :=
    finish_of_wellTimed takes fresh.valid fresh.starting timed safe
  exact ⟨_, completed, finished, accepted, by simp [denies]⟩

theorem conclude_answers (takes : TakesEvidence executor complete) {now : Int}
    (fresh : FreshStart executor localState now) (reply : TransportOutcome) :
    AnswersDispatch complete localState (executor.conclude localState now reply) reply ∧
      ∀ evidence, executor.conclude localState now reply = .ok evidence →
        evidence.outcome = .rejectedWithoutEffect → reportsNoEffect reply = true := by
  have unknown {reference : Bytes} (safe : safeEvidenceReference reference = true) :=
    finish_answers takes fresh (.inr rfl : NativeOutcomeCategory.outcomeUnknown = _ ∨ _) safe reply
  cases reply with
  | thrown =>
    obtain ⟨answers, effect⟩ := @unknown (text "executor:dispatch-exception") (by decide)
    exact ⟨answers, fun evidence given denied => absurd denied (effect evidence given)⟩
  | replied disposition reference =>
    cases disposition with
    | rejectedWithoutEffect =>
      refine ⟨rejectWithoutEffect_answers takes fresh ?_ rfl, fun _ _ _ => rfl⟩
      by_cases safe : safeEvidenceReference reference = true
      · rw [if_pos safe]
        exact safe
      · rw [if_neg safe]
        decide
    | acceptedUnverified =>
      rw [NativeExecutor.conclude]
      by_cases unsafeText : safeEvidenceReference reference = false
      · rw [if_pos unsafeText]
        obtain ⟨answers, effect⟩ :=
          @unknown (text "executor:accepted-evidence-invalid") (by decide)
        exact ⟨answers, fun evidence given denied => absurd denied (effect evidence given)⟩
      · rw [if_neg unsafeText]
        obtain ⟨answers, effect⟩ := finish_answers takes fresh (.inl rfl)
          (Bool.eq_true_of_not_eq_false unsafeText) _
        exact ⟨answers, fun evidence given denied => absurd denied (effect evidence given)⟩
    | outcomeUnknown =>
      have safe : safeEvidenceReference (if safeEvidenceReference reference then reference
          else text "executor:transport-outcome-unknown") = true := by
        by_cases safe : safeEvidenceReference reference = true
        · rw [if_pos safe]
          exact safe
        · rw [if_neg safe]
          decide
      obtain ⟨answers, effect⟩ := unknown safe
      exact ⟨answers, fun evidence given denied => absurd denied (effect evidence given)⟩
    | other =>
      obtain ⟨answers, effect⟩ :=
        @unknown (text "executor:transport-disposition-invalid") (by decide)
      exact ⟨answers, fun evidence given denied => absurd denied (effect evidence given)⟩

theorem executeFresh_truthful (takes : TakesEvidence executor complete)
    (assignment : BackendAgentCommandAssignment) (localState : NativeLocalState Command Identity)
    (context : NativeCommandContext) (now : Int) :
    Interleaving.Obeys (fun _ _ => True) (TruthfulEvidence complete localState) []
      (executor.executeFreshStartingOnce assignment localState context now) := by
  unfold NativeExecutor.executeFreshStartingOnce
  by_cases fresh : executor.freshStateValid assignment localState now = false
  · rw [if_pos fresh]
    exact truthful_of_undispatched rfl
  · rw [if_neg fresh]
    obtain ⟨valid, starting, -, positive, started⟩ :=
      (freshStateValid_iff ..).mp (Bool.eq_true_of_not_eq_false fresh)
    split
    · exact truthful_of_undispatched rfl
    · split
      · exact truthful_of_undispatched rfl
      · refine ⟨trivial, fun discovery => ?_⟩
        cases discovery with
        | refused => exact truthful_of_undispatched rfl
        | thrown => exact truthful_of_undispatched rfl
        | found facts =>
          dsimp only
          split
          · exact truthful_of_undispatched rfl
          · refine ⟨trivial, fun (outcome : TransportOutcome) => ?_⟩
            obtain ⟨answers, denies⟩ :=
              conclude_answers takes ⟨valid, starting, positive, started⟩ outcome
            constructor
            · exact le_refl 1
            · intro evidence given denied other member
              cases List.mem_singleton.mp member
              exact denies evidence given denied
            · intro other member
              cases List.mem_singleton.mp member
              exact answers

theorem completeLocalState_of_valid {valid : NativeLocalState Command Identity → Except String Unit}
    {matchesCommand : NativeEvidence Identity → Command → Bool} {notStarting mismatch : String}
    {evidence : NativeEvidence Identity} (sound : valid localState = .ok ())
    (starting : localState.phase = .starting)
    (matched : matchesCommand evidence localState.command = true)
    (start : evidence.localStartingPersistedAt = localState.localStartingPersistedAt)
    (completed : valid { localState with phase := .completed, evidence := evidence } = .ok ()) :
    completeLocalState valid matchesCommand notStarting mismatch localState evidence =
      .ok { localState with phase := .completed, evidence := evidence } := by
  have unrefused : ¬ ((valid localState).toBool = false ∨ localState.phase ≠ .starting) := by
    simp [sound, starting, Except.toBool]
  unfold completeLocalState
  rw [if_neg unrefused, if_neg (by simp [matched, start])]
  dsimp only
  rw [completed]

end Execution

/-! ## Creations and deletions of timers -/

theorem safeText_of_safeEvidenceReference {reference : Bytes} {maximumBytes : Nat}
    (safe : safeEvidenceReference reference = true) (bounded : 512 ≤ maximumBytes) :
    reference ≠ [] ∧ backendAgentCommandSafeText reference maximumBytes = true := by
  simp only [safeEvidenceReference, backendAgentCommandSafeText, Bool.and_eq_true,
    Bool.not_eq_eq_eq_not, Bool.not_true, List.isEmpty_eq_false_iff, decide_eq_true_eq] at safe ⊢
  obtain ⟨nonempty, short, printable⟩ := safe
  exact ⟨nonempty, short.trans bounded, printable⟩

theorem nativeTimerCreate_takesEvidence :
    TakesEvidence nativeTimerCreateExecutor backendAgentNativeTimerCreateCompleteLocalState := by
  intro localState outcome dispatchStartedAt completedAt reference valid starting timed safe
  have validCommand := nativeTimerCreate_valid_of_state valid
  have bounds : localState.schemaVersion = 1 ∧ 0 < localState.localStartingPersistedAt ∧
      localState.command.controlPlaneClaimedAt ≤ localState.localStartingPersistedAt := by
    change backendAgentNativeTimerCreateLocalStateValid localState = .ok () at valid
    unfold backendAgentNativeTimerCreateLocalStateValid at valid
    split at valid
    · cases valid
    · rename_i sound
      simp only [not_or, not_not, not_le, not_lt] at sound
      exact ⟨sound.1, sound.2.2.1, sound.2.2.2⟩
  obtain ⟨version, positive, claimed⟩ := bounds
  have printable := (safeText_of_safeEvidenceReference safe (by decide : 512 ≤ 1024)).2
  have matched : backendAgentNativeTimerCreateEvidenceMatches
      (nativeTimerCreateExecutor.evidenceFor localState outcome dispatchStartedAt completedAt
        reference) localState.command = true := by
    have dispatched := timed.dispatched
    unfold backendAgentNativeTimerCreateEvidenceMatches NativeExecutor.evidenceFor
    simp only [nativeTimerCreateExecutor, validCommand, printable, positive, timed.completed,
      timed.started, beq_self_eq_true, decide_true, Bool.and_true, Bool.true_and]
    split at dispatched
    · rename_i rejected
      rw [if_pos rejected]
      simp [dispatched]
    · rename_i effect
      rw [if_neg effect]
      simp [dispatched]
  refine ⟨matched, _, completeLocalState_of_valid valid starting matched rfl ?_⟩
  unfold backendAgentNativeTimerCreateLocalStateValid
  rw [if_neg (by simp [version, validCommand, positive, claimed])]
  exact if_neg (by simp [matched]; rfl)

theorem nativeTimerDelete_takesEvidence :
    TakesEvidence nativeTimerDeleteExecutor backendAgentNativeTimerDeleteCompleteLocalState := by
  intro localState outcome dispatchStartedAt completedAt reference valid starting timed safe
  have validCommand := nativeTimerDelete_valid_of_state valid
  have bounds : localState.schemaVersion = 1 ∧
      localState.command.controlPlaneClaimedAt ≤ localState.localStartingPersistedAt := by
    change backendAgentNativeTimerDeleteLocalStateValid localState = .ok () at valid
    unfold backendAgentNativeTimerDeleteLocalStateValid at valid
    split at valid
    · cases valid
    · rename_i sound
      simp only [not_or, not_not, not_lt] at sound
      exact ⟨sound.1, sound.2.2⟩
  obtain ⟨version, claimed⟩ := bounds
  obtain ⟨nonempty, printable⟩ := safeText_of_safeEvidenceReference safe (le_refl 512)
  have bounded : boundedIdentity 512 reference = true := by
    simp only [backendAgentCommandSafeText, Bool.and_eq_true, decide_eq_true_eq] at printable
    simp [boundedIdentity, nonempty, printable.1]
  have matched : backendAgentNativeTimerDeleteEvidenceMatches
      (nativeTimerDeleteExecutor.evidenceFor localState outcome dispatchStartedAt completedAt
        reference) localState.command = true := by
    have dispatched := timed.dispatched
    unfold backendAgentNativeTimerDeleteEvidenceMatches NativeExecutor.evidenceFor
      dispatchTimesValid
    simp only [nativeTimerDeleteExecutor, validCommand, bounded, claimed, timed.started,
      beq_self_eq_true, decide_true, Bool.true_and]
    split at dispatched
    · rename_i rejected
      rw [if_pos rejected]
      simp [dispatched]
    · rename_i effect
      rw [if_neg effect]
      simp [dispatched]
  have completion : nativeTimerDeleteCompletionMatches
      (nativeTimerDeleteExecutor.evidenceFor localState outcome dispatchStartedAt completedAt
        reference) localState.command = true := by
    simp only [nativeTimerDeleteCompletionMatches, Bool.and_eq_true]
    exact ⟨printable, matched⟩
  refine ⟨matched, _, completeLocalState_of_valid valid starting completion rfl ?_⟩
  unfold backendAgentNativeTimerDeleteLocalStateValid
  rw [if_neg (by simp [version, validCommand, claimed])]
  exact if_neg (by simp [matched]; exact ⟨printable, rfl⟩)

/-- Fresh executions of timer creations and of timer deletions, for every reply of the transport:
at most one dispatch; a denied effect was never attempted or denied by the transport itself; and a
dispatch is always followed by evidence that completes the local state and, unless the transport
denied the effect, names the dispatch and leaves its effect open. -/
theorem nativeTimer_executions_truthful (assignment : BackendAgentCommandAssignment)
    (context : NativeCommandContext) (now : Int) :
    (∀ localState, Interleaving.Obeys (fun _ _ => True)
      (TruthfulEvidence backendAgentNativeTimerCreateCompleteLocalState localState) []
      (backendAgentNativeTimerCreateExecuteFreshStartingOnce assignment localState context now)) ∧
    (∀ localState, Interleaving.Obeys (fun _ _ => True)
      (TruthfulEvidence backendAgentNativeTimerDeleteCompleteLocalState localState) []
      (backendAgentNativeTimerDeleteExecuteFreshStartingOnce assignment localState context now)) :=
  ⟨fun localState =>
      executeFresh_truthful nativeTimerCreate_takesEvidence assignment localState context now,
    fun localState =>
      executeFresh_truthful nativeTimerDelete_takesEvidence assignment localState context now⟩

end VdrSuite.Agent
