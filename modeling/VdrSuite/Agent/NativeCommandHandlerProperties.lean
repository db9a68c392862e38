import VdrSuite.Agent.NativeCommandHandler

/-! What every successful execution and recovery of a native command leaves behind: a result that
reports the evidence of its outcome. -/

set_option autoImplicit false

namespace VdrSuite.Agent

open Library

/-! ## Completion times -/

section Executor

variable {Command Identity : Type} {executor : NativeExecutor Command Identity}

theorem finish_completedAt {localState : NativeLocalState Command Identity}
    {outcome : NativeOutcomeCategory} {dispatchStartedAt completedAt : Int} {reference : Bytes}
    {evidence : NativeEvidence Identity}
    (finished : executor.finish localState outcome dispatchStartedAt completedAt reference =
      .ok evidence) : evidence.completedAt = completedAt := by
  unfold NativeExecutor.finish at finished
  dsimp only at finished
  split at finished
  · cases finished
    rfl
  · cases finished

def CompletedWithin {Result : Type} (localState : NativeLocalState Command Result) (now : Int)
    (outcome : Except String (NativeEvidence Identity)) : Prop :=
  ∀ evidence, outcome = .ok evidence →
    evidence.completedAt ≤ max now localState.localStartingPersistedAt

theorem finish_within {localState : NativeLocalState Command Identity}
    (outcome : NativeOutcomeCategory) (now : Int) (reference : Bytes) :
    CompletedWithin localState now (executor.finish localState outcome now now reference) := by
  intro evidence finished
  rw [finish_completedAt finished]
  exact le_max_left _ _

theorem rejectWithoutEffect_within {localState : NativeLocalState Command Identity} (now : Int)
    (reference : Bytes) :
    CompletedWithin localState now (executor.rejectWithoutEffect localState now reference) := by
  intro evidence finished
  rw [finish_completedAt finished]

theorem conclude_within {localState : NativeLocalState Command Identity} (now : Int)
    (outcome : TransportOutcome) :
    CompletedWithin localState now (executor.conclude localState now outcome) := by
  cases outcome with
  | thrown => exact finish_within _ _ _
  | replied disposition reference =>
    cases disposition with
    | rejectedWithoutEffect => exact rejectWithoutEffect_within _ _
    | acceptedUnverified =>
      rw [NativeExecutor.conclude]
      split
      · exact finish_within _ _ _
      · exact finish_within _ _ _
    | outcomeUnknown => exact finish_within _ _ _
    | other => exact finish_within _ _ _

theorem executeFresh_within (assignment : BackendAgentCommandAssignment)
    (localState : NativeLocalState Command Identity) (context : NativeCommandContext) (now : Int) :
    (executor.executeFreshStartingOnce assignment localState context now).Always (fun _ => True)
      (CompletedWithin localState now) := by
  unfold NativeExecutor.executeFreshStartingOnce
  split
  · intro evidence refused
    cases refused
  · split
    · exact rejectWithoutEffect_within _ _
    · split
      · exact rejectWithoutEffect_within _ _
      · refine ⟨trivial, fun discovery => ?_⟩
        cases discovery with
        | refused => exact rejectWithoutEffect_within _ _
        | thrown => exact rejectWithoutEffect_within _ _
        | found facts =>
          dsimp only
          split
          · exact rejectWithoutEffect_within _ _
          · exact ⟨trivial, fun outcome => conclude_within now outcome⟩

end Executor

def RecoveredWithin {Command Identity : Type} (localState : NativeLocalState Command Identity)
    (now : Int) : NativeRecovery Identity → Prop
  | .failClosed _ => True
  | .reconcileOnly evidence _ =>
    evidence.completedAt = max now localState.localStartingPersistedAt
  | .returnPersistedEvidence evidence _ => evidence = localState.evidence

theorem recoverLocalState_within {Command Identity : Type}
    (envelope : Command → NativeCommandEnvelope) (identity : Command → Identity)
    (valid : NativeLocalState Command Identity → Except String Unit)
    (matchesCommand : NativeEvidence Identity → Command → Bool) (identifier : Bytes → Bool)
    (reasons : NativeRecoveryReasons) (localState : NativeLocalState Command Identity)
    (context : NativeCommandContext) (now : Int) :
    RecoveredWithin localState now (recoverLocalState envelope identity valid matchesCommand
      identifier reasons localState context now) := by
  unfold recoverLocalState
  split
  · trivial
  · split
    · trivial
    · cases localState.phase with
      | completed => rfl
      | starting =>
        dsimp only
        split
        · trivial
        · rfl

/-! ## Reports -/

section Handler

variable {Command Identity : Type} (handler : NativeCommandHandler Command Identity)

/-- A result of the assignment that reports evidence in the words of the family. -/
structure ReportsEvidence (assignment : BackendAgentCommandAssignment)
    (result : BackendAgentCommandResult) (evidence : NativeEvidence Identity)
    (projection : NativeGenericProjection) : Prop where
  fence : result.fence = assignment.fence
  projected : handler.projection evidence = some projection
  dispatchState : result.dispatchState = projection.dispatchState
  verificationState : result.verificationState = projection.verificationState
  resultCategory : result.resultCategory = projection.resultCategory
  errorCategory : result.errorCategory = projection.errorCategory
  retryClassification : result.retryClassification = projection.retryClassification
  boundedDiagnostics : result.boundedDiagnostics = projection.diagnostics
  evidenceText : ∀ write, handler.resultEvidence = some write →
    result.resultEvidence = write evidence assignment ∧ result.resultEvidence ≠ []
  completedAt : result.completedAt = evidence.completedAt
  bounded : evidence.completedAt ≤ int64Max

def LeavesReport (assignment : BackendAgentCommandAssignment) (outcome : HandledCommand) : Prop :=
  ∀ state reason, outcome = .ok (state, reason) →
    state.assignment = assignment ∧
    ∃ result evidence projection, state.result = some result ∧
      ReportsEvidence handler assignment result evidence projection

def ResultFenced (state : LocalState) : Prop :=
  ∀ result, state.result = some result → result.fence = state.assignment.fence

/-- The times a handler takes from a stored local state, and what its recovery makes of them. -/
structure HandlerTimes : Prop where
  stored : ∀ payload localState, handler.parseLocalState payload = some localState →
    localState.localStartingPersistedAt ≤ int64Max ∧ localState.evidence.completedAt ≤ int64Max
  recovered : ∀ localState context now,
    RecoveredWithin localState now (handler.recoverLocalState localState context now)

theorem persist_always {path : Bytes} {state : LocalState} {reason : String}
    {reached : HandledCommand → Prop} (success : reached (.ok (state, reason)))
    (failure : ∀ refusal, reached (.error refusal)) :
    (persist path state reason : NativeProgram Command HandledCommand).Always (fun _ => True)
      reached := by
  unfold persist
  split
  · exact failure _
  · refine ⟨trivial, fun outcome => ?_⟩
    cases outcome with
    | openFailed => exact failure _
    | notReplaced => exact failure _
    | notSynchronized => exact failure _
    | persisted => exact success

variable {handler}

theorem leavesReport_error (assignment : BackendAgentCommandAssignment) (reason : String) :
    LeavesReport handler assignment (.error reason) := by
  intro state success refused
  cases refused

theorem createResult_reports {state answered : LocalState} {projection : NativeGenericProjection}
    {evidence : NativeEvidence Identity}
    (created : handler.createResult state projection evidence = .ok answered)
    (projected : handler.projection evidence = some projection)
    (bounded : evidence.completedAt ≤ int64Max) (reason : String) :
    LeavesReport handler state.assignment (.ok (answered, reason)) := by
  unfold NativeCommandHandler.createResult at created
  dsimp only at created
  split at created
  · cases created
  · rename_i sound
    cases created
    intro _ _ success
    cases success
    refine ⟨rfl, _, evidence, projection, rfl, ?_⟩
    refine ⟨rfl, projected, rfl, rfl, rfl, rfl, rfl, rfl, ?_, rfl, bounded⟩
    intro write writes
    refine ⟨by simp [NativeCommandHandler.resultOf, writes], ?_⟩
    intro empty
    exact sound ⟨by simp [writes], .inl empty⟩

theorem resultMatchesEvidence_reports {state : LocalState} {result : BackendAgentCommandResult}
    {projection : NativeGenericProjection} {evidence : NativeEvidence Identity}
    (fits : handler.resultMatchesEvidence state result projection evidence = true)
    (present : state.result = some result) (fenced : ResultFenced state)
    (projected : handler.projection evidence = some projection)
    (bounded : evidence.completedAt ≤ int64Max) (reason : String) :
    LeavesReport handler state.assignment (.ok (state, reason)) := by
  simp only [NativeCommandHandler.resultMatchesEvidence, Bool.and_eq_true, beq_iff_eq,
    decide_eq_true_eq] at fits
  obtain ⟨⟨⟨⟨⟨⟨⟨⟨-, dispatch⟩, verification⟩, category⟩, error⟩, retry⟩, diagnostics⟩, written⟩,
    completed⟩ := fits
  intro _ _ success
  cases success
  refine ⟨rfl, result, evidence, projection, present, fenced result present, projected, dispatch,
    verification, category, error, retry, diagnostics, ?_, completed, bounded⟩
  intro write writes
  simpa [writes] using written

theorem reconcileResult_reports (path : Bytes) (changed : Bool) {state : LocalState}
    {evidence : NativeEvidence Identity} (fenced : ResultFenced state)
    (bounded : evidence.completedAt ≤ int64Max) :
    (handler.reconcileResult path changed state evidence).Always (fun _ => True)
      (LeavesReport handler state.assignment) := by
  unfold NativeCommandHandler.reconcileResult
  cases projected : handler.projection evidence with
  | none => exact leavesReport_error _ _
  | some projection =>
    cases present : state.result with
    | some result =>
      dsimp only
      split
      · exact leavesReport_error _ _
      · rename_i fits
        have reports := resultMatchesEvidence_reports (Bool.eq_true_of_not_eq_false fits) present
          fenced projected bounded
        split
        · exact persist_always (reports _) (leavesReport_error _)
        · exact reports _
    | none =>
      dsimp only
      cases created : handler.createResult state projection evidence with
      | error reason => exact leavesReport_error _ _
      | ok answered =>
        exact persist_always (createResult_reports created projected bounded _)
          (leavesReport_error _)

theorem completeState_keeps {state completed : LocalState}
    {extension : BackendAgentCommandStateExtension}
    {localState : NativeLocalState Command Identity} {evidence : NativeEvidence Identity}
    (done : handler.completeState state extension localState evidence = .ok completed) :
    completed.assignment = state.assignment ∧ completed.result = state.result := by
  unfold NativeCommandHandler.completeState at done
  split at done
  · cases done
  · split at done
    · cases done
    · cases done
      exact ⟨rfl, rfl⟩

theorem localStateOf_stored {state : LocalState} {required invalid : String}
    {extension : BackendAgentCommandStateExtension}
    {localState : NativeLocalState Command Identity} (times : HandlerTimes handler)
    (found : handler.localStateOf state required invalid = .ok (extension, localState)) :
    localState.localStartingPersistedAt ≤ int64Max ∧
      localState.evidence.completedAt ≤ int64Max := by
  unfold NativeCommandHandler.localStateOf at found
  split at found
  · cases found
  · split at found
    · cases found
    · split at found
      · cases found
      · rename_i parsed
        cases found
        exact times.stored _ _ parsed

theorem reconcileExisting_reports (times : HandlerTimes handler) (path : Bytes)
    (context : NativeCommandContext) {state : LocalState} (fenced : ResultFenced state) :
    (handler.reconcileExisting path context state).Always (fun _ => True)
      (LeavesReport handler state.assignment) := by
  unfold NativeCommandHandler.reconcileExisting
  cases found : handler.localStateOf state "_local_state_required" "_local_state_invalid" with
  | error reason => exact leavesReport_error _ _
  | ok pair =>
    obtain ⟨extension, localState⟩ := pair
    obtain ⟨started, stored⟩ := localStateOf_stored times found
    refine ⟨trivial, fun now : ClockTime => ?_⟩
    have recovered := times.recovered localState context now
    dsimp only
    cases recovery : handler.recoverLocalState localState context now with
    | failClosed reason => exact leavesReport_error _ _
    | returnPersistedEvidence evidence reason =>
      rw [recovery] at recovered
      exact reconcileResult_reports path false fenced
        ((congrArg NativeEvidence.completedAt recovered).trans_le stored)
    | reconcileOnly evidence reason =>
      rw [recovery] at recovered
      dsimp only
      cases completed : handler.completeState state extension localState evidence with
      | error reason => exact leavesReport_error _ _
      | ok updated =>
        obtain ⟨assignment, result⟩ := completeState_keeps completed
        have bounded : evidence.completedAt ≤ int64Max :=
          recovered.trans_le (max_le now.2.2 started)
        have fencedUpdated : ResultFenced updated := by
          intro other present
          rw [assignment]
          exact fenced other (result ▸ present)
        rw [← assignment]
        exact reconcileResult_reports path true fencedUpdated bounded

theorem executeFresh_reports (times : HandlerTimes handler) (path : Bytes)
    (context : NativeCommandContext) (transport : Bool) (state : LocalState) :
    (handler.executeFreshStartingAndPersistOutcome path context transport state).Always
      (fun _ => True) (LeavesReport handler state.assignment) := by
  unfold NativeCommandHandler.executeFreshStartingAndPersistOutcome
  split
  · exact leavesReport_error _ _
  · cases found : handler.localStateOf state "_executor_handoff_state_invalid"
        "_executor_starting_state_invalid" with
    | error reason => exact leavesReport_error _ _
    | ok pair =>
      obtain ⟨extension, localState⟩ := pair
      obtain ⟨started, -⟩ := localStateOf_stored times found
      dsimp only
      split
      · exact leavesReport_error _ _
      · refine ⟨trivial, fun now : ClockTime => ?_⟩
        refine Program.always_bind (executeFresh_within state.assignment localState context now) ?_
        intro outcome within
        cases outcome with
        | error reason => exact leavesReport_error _ _
        | ok evidence =>
          have bounded : evidence.completedAt ≤ int64Max :=
            (within evidence rfl).trans (max_le now.2.2 started)
          dsimp only
          cases completed : handler.completeState state extension localState evidence with
          | error reason => exact leavesReport_error _ _
          | ok updated =>
            dsimp only
            cases projected : handler.projection evidence with
            | none => exact leavesReport_error _ _
            | some projection =>
              dsimp only
              cases created : handler.createResult updated projection evidence with
              | error reason => exact leavesReport_error _ _
              | ok answered =>
                rw [← (completeState_keeps completed).1]
                exact persist_always (createResult_reports created projected bounded _)
                  (leavesReport_error _)

end Handler

/-! ## Times of stored local states -/

theorem parseTime_le {positive : Bool} {token : Bytes} {time : Int}
    (parsed : parseTime positive token = some time) : time ≤ int64Max := by
  unfold parseTime Netstring.parseUnsigned at parsed
  cases number : parseDecimal int64Max token with
  | none => simp [number] at parsed
  | some value =>
    have bounded := parseDecimal_le int64Max token value number (by decide)
    rw [number] at parsed
    dsimp only at parsed
    split at parsed
    · simp at parsed
    · simp only [Option.map_some, Option.some.injEq] at parsed
      subst parsed
      exact Int.ofNat_le.mpr bounded

theorem nativeTimerCreate_evidence_le {phase : NativeLocalPhase}
    {command : BackendAgentNativeTimerCreateCommand} {started : Int} {fields : List Bytes}
    {evidence : BackendAgentNativeTimerCreateEvidence}
    (parsed : parseNativeTimerCreateEvidence phase command started fields = some evidence) :
    evidence.completedAt ≤ int64Max := by
  unfold parseNativeTimerCreateEvidence at parsed
  split at parsed
  · cases parsed
    exact Int.natCast_nonneg _
  · simp only [Option.bind_eq_bind, Option.bind_eq_some_iff] at parsed
    obtain ⟨outcome, -, dispatched, -, completed, time, parsed⟩ := parsed
    split at parsed
    · cases parsed
    · cases parsed
      exact parseTime_le time
  · cases parsed

theorem nativeTimerCreate_stored_le {payload : Bytes}
    {localState : BackendAgentNativeTimerCreateLocalState}
    (parsed : backendAgentNativeTimerCreateParseLocalState payload = some localState) :
    localState.localStartingPersistedAt ≤ int64Max ∧
      localState.evidence.completedAt ≤ int64Max := by
  unfold backendAgentNativeTimerCreateParseLocalState at parsed
  split at parsed
  · cases parsed
  · split at parsed
    · simp only [Option.bind_eq_bind, Option.bind_eq_some_iff] at parsed
      obtain ⟨phase, -, body, -, claim, -, generation, -, started, time, evidence, fields,
        parsed⟩ := parsed
      split at parsed
      · cases parsed
      · split at parsed
        · cases parsed
          exact ⟨parseTime_le time, nativeTimerCreate_evidence_le fields⟩
        · cases parsed
    · cases parsed

theorem nativeTimerCreate_times : HandlerTimes nativeTimerCreateHandler :=
  ⟨fun _ _ => nativeTimerCreate_stored_le, fun _ _ _ => recoverLocalState_within ..⟩

theorem evidenceColumns_le {Identity : Type} {undecided : String} {unset identity : Identity}
    {phase : NativeLocalPhase} {started dispatched completed : Int} {outcome reference : Bytes}
    {evidence : NativeEvidence Identity}
    (parsed : parseEvidenceColumns undecided unset identity phase started outcome dispatched
      completed reference = some evidence) (bounded : completed ≤ int64Max) :
    evidence.completedAt ≤ int64Max := by
  unfold parseEvidenceColumns at parsed
  split at parsed
  · split at parsed
    · cases parsed
    · cases parsed
      exact Int.natCast_nonneg _
  · split at parsed
    · cases parsed
    · cases parsed
      exact bounded

theorem nativeRecord_times_le {shape : NativeRecordShape} {encoded : Bytes}
    {fields : NativeRecordFields} (read : shape.read encoded = some fields) :
    fields.localStartingPersistedAt ≤ int64Max ∧ fields.completedAt ≤ int64Max := by
  have time {token : Bytes} {value : Nat} (parsed : parseDecimal int64Max token = some value) :
      (value : Int) ≤ int64Max :=
    Int.ofNat_le.mpr (parseDecimal_le int64Max token value parsed (by decide))
  unfold NativeRecordShape.read at read
  split at read
  · cases read
  · simp only [Option.bind_eq_bind, Option.bind_eq_some_iff] at read
    obtain ⟨values, -, read⟩ := read
    split at read
    · cases read
    · simp only [Option.bind_eq_some_iff] at read
      obtain ⟨phase, -, fingerprint, -, body, -, claim, -, started, startedAt, dispatched, -,
        completed, completedAt, reference, -, read⟩ := read
      cases read
      exact ⟨time startedAt, time completedAt⟩

theorem nativeTimerModify_stored_le {payload : Bytes}
    {localState : BackendAgentNativeTimerModifyLocalState}
    (parsed : backendAgentNativeTimerModifyParseLocalState payload = some localState) :
    localState.localStartingPersistedAt ≤ int64Max ∧
      localState.evidence.completedAt ≤ int64Max := by
  unfold backendAgentNativeTimerModifyParseLocalState at parsed
  simp only [Option.bind_eq_bind, Option.bind_eq_some_iff] at parsed
  obtain ⟨fields, read, body, -, evidence, columns, parsed⟩ := parsed
  obtain ⟨started, completed⟩ := nativeRecord_times_le read
  split at parsed
  · cases parsed
    exact ⟨started, evidenceColumns_le columns completed⟩
  · cases parsed

theorem nativeTimerModify_times : HandlerTimes nativeTimerModifyHandler := by
  refine ⟨fun _ _ => nativeTimerModify_stored_le, fun localState context now => ?_⟩
  change RecoveredWithin localState now
    (backendAgentNativeTimerModifyRecoverLocalState localState context now)
  unfold backendAgentNativeTimerModifyRecoverLocalState
  exact recoverLocalState_within ..

/-! ## Results of loaded states -/

theorem ok_of_guard {Result : Type} {guard : Prop} [Decidable guard] {reason : String}
    {rest : Except String Result} {value : Result}
    (passed : (if guard then .error reason else rest) = .ok value) : rest = .ok value := by
  split at passed
  · cases passed
  · exact passed

theorem loadResult_fence {state : LocalState} {value : String → Bytes} {completed : Nat}
    {mediaVersion : Bool} {result : BackendAgentCommandResult}
    (loaded : loadResult state value completed mediaVersion = .ok result) :
    result.fence = state.assignment.fence := by
  unfold loadResult at loaded
  replace loaded := ok_of_guard loaded
  cases read : loadResultEvidence state (readResult state value completed mediaVersion) with
  | error reason =>
    rw [read] at loaded
    cases loaded
  | ok evidence =>
    rw [read] at loaded
    dsimp only at loaded
    split at loaded
    · cases loaded
      unfold readResult
      cases mediaVersion <;> rfl
    · cases loaded

theorem resetReceipt_fenced {state : LocalState} {nativeState : Bool}
    (fenced : ResultFenced state) : ResultFenced (resetReceipt nativeState state) := by
  unfold resetReceipt
  split <;> exact fenced

theorem loadColumns_fenced {value : String → Bytes} {nativeState extended mediaVersion : Bool}
    {state : LocalState}
    (loaded : loadColumns value nativeState extended mediaVersion = .ok state) :
    ResultFenced state := by
  unfold loadColumns at loaded
  cases numbers : readStateNumbers value nativeState with
  | none =>
    rw [numbers] at loaded
    cases loaded
  | some numbers' =>
    rw [numbers] at loaded
    dsimp only at loaded
    replace loaded := ok_of_guard (ok_of_guard (ok_of_guard loaded))
    split at loaded
    · cases loaded
    · split at loaded
      · split at loaded
        · cases loaded
        · rename_i result read
          cases loaded
          refine resetReceipt_fenced ?_
          intro other present
          cases present
          exact loadResult_fence read
      · replace loaded := ok_of_guard loaded
        cases loaded
        refine resetReceipt_fenced ?_
        intro other present
        cases present

theorem load_fenced {content : Option Bytes} {state : LocalState}
    (loaded : load content = .ok state) : ResultFenced state := by
  unfold load at loaded
  cases read : readStateFile content with
  | error reason =>
    rw [read] at loaded
    cases loaded
  | ok values =>
    rw [read] at loaded
    exact loadColumns_fenced (ok_of_guard loaded)

end VdrSuite.Agent
