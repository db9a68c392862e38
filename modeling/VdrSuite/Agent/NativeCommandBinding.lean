import VdrSuite.Agent.NativeExecutor

/-! Stored execution state and the assignment it belongs to: which fields of a command the
comparisons between the two leave open. -/

set_option autoImplicit false

namespace VdrSuite.Agent

open Library

/-! ## Comparisons -/

theorem sameEnvelope_iff {left right : NativeCommandEnvelope} :
    sameEnvelope left right = true ↔
      backendAgentLocalProviderValidSelection left.localProviderSelection = true ∧ left = right := by
  simp only [sameEnvelope, Bool.and_eq_true, beq_iff_eq, sameFence_iff]
  constructor
  · rintro ⟨shared, valid, selection⟩
    refine ⟨valid, ?_⟩
    cases left
    cases right
    simp_all only [NativeCommandEnvelope.mk.injEq]
  · rintro ⟨valid, rfl⟩
    exact ⟨rfl, valid, rfl⟩

def OtherTimerExpected (expected actual : BackendAgentNativeTimerDeleteCommand) : Prop :=
  actual = { expected with
    expectedNativeTimerFingerprint := actual.expectedNativeTimerFingerprint } ∧
  actual.expectedNativeTimerFingerprint ≠ expected.expectedNativeTimerFingerprint

/-- The commands differ in how a start or an end time is spelled, `930` or `0930`, and in nothing
else. -/
def OtherTimeSpelling (expected actual : BackendAgentNativeTimerModifyCommand) : Prop :=
  actual = { expected with
    specification := { expected.specification with
      startTime := actual.specification.startTime
      endTime := actual.specification.endTime } } ∧
  normalizedHhmm actual.specification.startTime =
    normalizedHhmm expected.specification.startTime ∧
  normalizedHhmm actual.specification.endTime = normalizedHhmm expected.specification.endTime ∧
  actual ≠ expected

theorem sameNativeTimerDeleteCommand_iff
    {expected actual : BackendAgentNativeTimerDeleteCommand} :
    sameNativeTimerDeleteCommand expected actual = true ↔
      expected = actual ∨ OtherTimerExpected expected actual := by
  simp only [sameNativeTimerDeleteCommand, beq_iff_eq, OtherTimerExpected]
  constructor
  · intro same
    by_cases fingerprint :
        actual.expectedNativeTimerFingerprint = expected.expectedNativeTimerFingerprint
    · left
      cases expected
      cases actual
      simp_all
    · right
      refine ⟨?_, fingerprint⟩
      cases expected
      cases actual
      simp_all
  · rintro (rfl | ⟨same, -⟩)
    · rfl
    · rw [same]

/-! ## Extensions -/

section Extensions

variable {Command Identity : Type} (parse : Bytes → Option (NativeLocalState Command Identity))
  (commandFromAssignment : BackendAgentCommandAssignment → Except String Command)

/-- The payload is a local state whose command is, field for field, the one of the assignment. -/
def EmbedsAssignedCommand (payload : Bytes) (assignment : BackendAgentCommandAssignment) : Prop :=
  ∃ state, parse payload = some state ∧ commandFromAssignment assignment = .ok state.command

theorem extensionFitsAssignment_iff (sameCommand : Command → Command → Bool) (payload : Bytes)
    (assignment : BackendAgentCommandAssignment) :
    extensionFitsAssignment parse commandFromAssignment sameCommand payload assignment = true ↔
      ∃ state expected, parse payload = some state ∧
        commandFromAssignment assignment = .ok expected ∧
        sameCommand expected state.command = true := by
  unfold extensionFitsAssignment
  cases parse payload with
  | none => simp
  | some state =>
    cases commandFromAssignment assignment with
    | error reason => simp
    | ok expected => simp

theorem extensionFitsAssignment_beq [DecidableEq Command] (payload : Bytes)
    (assignment : BackendAgentCommandAssignment) :
    extensionFitsAssignment parse commandFromAssignment (· == ·) payload assignment = true ↔
      EmbedsAssignedCommand parse commandFromAssignment payload assignment := by
  rw [extensionFitsAssignment_iff]
  constructor
  · rintro ⟨state, expected, parsed, derived, same⟩
    obtain rfl := eq_of_beq same
    exact ⟨state, parsed, derived⟩
  · rintro ⟨state, parsed, derived⟩
    exact ⟨state, state.command, parsed, derived, beq_self_eq_true _⟩

end Extensions

/-- What an accepted extension of each supported type should have in common with its assignment. -/
structure ExtensionBound (extension : BackendAgentCommandStateExtension)
    (assignment : BackendAgentCommandAssignment) : Prop where
  create : extension.extensionType = nativeTimerCreateExtensionType →
    EmbedsAssignedCommand backendAgentNativeTimerCreateParseLocalState
      backendAgentNativeTimerCreateCommandFromAssignment extension.payload assignment
  delete : extension.extensionType = nativeTimerDeleteExtensionType →
    EmbedsAssignedCommand backendAgentNativeTimerDeleteParseLocalState
      backendAgentNativeTimerDeleteCommandFromAssignment extension.payload assignment
  modify : extension.extensionType = nativeTimerModifyExtensionType →
    EmbedsAssignedCommand backendAgentNativeTimerModifyParseLocalState
      backendAgentNativeTimerModifyCommandFromAssignment extension.payload assignment
  marks : extension.extensionType = recordingMarksModifyExtensionType →
    EmbedsAssignedCommand backendAgentRecordingMarksModifyParseLocalState
      backendAgentRecordingMarksModifyCommandFromAssignment extension.payload assignment
  cut : extension.extensionType = recordingCutExtensionType →
    EmbedsAssignedCommand backendAgentRecordingCutParseLocalState
      backendAgentRecordingCutCommandFromAssignment extension.payload assignment

def AcceptedOnlyBound (extension : BackendAgentCommandStateExtension)
    (assignment : BackendAgentCommandAssignment) : Prop :=
  backendAgentCommandStateExtensionValidateSupported extension assignment = true →
    ExtensionBound extension assignment

def ExpectsOtherTimer (extension : BackendAgentCommandStateExtension)
    (assignment : BackendAgentCommandAssignment) : Prop :=
  backendAgentCommandStateExtensionValid extension assignment = true ∧
  extension.extensionType = nativeTimerDeleteExtensionType ∧
  ∃ state expected, backendAgentNativeTimerDeleteParseLocalState extension.payload = some state ∧
    backendAgentNativeTimerDeleteCommandFromAssignment assignment = .ok expected ∧
    OtherTimerExpected expected state.command

theorem acceptedOnlyBound_iff (extension : BackendAgentCommandStateExtension)
    (assignment : BackendAgentCommandAssignment) :
    AcceptedOnlyBound extension assignment ↔ ¬ ExpectsOtherTimer extension assignment := by
  constructor
  · rintro bound ⟨valid, type, state, expected, parsed, derived, other⟩
    have accepted :
        backendAgentCommandStateExtensionValidateSupported extension assignment = true := by
      rw [backendAgentCommandStateExtensionValidateSupported, valid, type, if_neg (by decide),
        if_pos rfl, Bool.true_and, extensionFitsAssignment_iff]
      exact ⟨state, expected, parsed, derived,
        (sameNativeTimerDeleteCommand_iff).mpr (.inr other)⟩
    obtain ⟨embedded, parsedAgain, derivedAgain⟩ := (bound accepted).delete type
    cases parsed.symm.trans parsedAgain
    cases derived.symm.trans derivedAgain
    exact other.2 rfl
  · intro current accepted
    rw [backendAgentCommandStateExtensionValidateSupported, Bool.and_eq_true] at accepted
    obtain ⟨valid, fits⟩ := accepted
    constructor <;> intro type
    · rw [type, if_pos rfl, extensionFitsAssignment_beq] at fits
      exact fits
    · rw [type, if_neg (by decide), if_pos rfl, extensionFitsAssignment_iff] at fits
      obtain ⟨state, expected, parsed, derived, same⟩ := fits
      obtain rfl | other := (sameNativeTimerDeleteCommand_iff).mp same
      · exact ⟨state, parsed, derived⟩
      · exact absurd ⟨valid, type, state, expected, parsed, derived, other⟩ current
    · rw [type, if_neg (by decide), if_neg (by decide), if_pos rfl,
        extensionFitsAssignment_beq] at fits
      exact fits
    · rw [type, if_neg (by decide), if_neg (by decide), if_neg (by decide), if_pos rfl,
        extensionFitsAssignment_beq] at fits
      exact fits
    · rw [type, if_neg (by decide), if_neg (by decide), if_neg (by decide), if_neg (by decide),
        if_pos rfl, extensionFitsAssignment_beq] at fits
      exact fits

/-! ## Executors -/

section Executors

variable {Command Identity : Type}

def DispatchesOnly {Result : Type} (assigned : Except String Command)
    (program : NativeProgram Command Result) : Prop :=
  program.Always (fun effect => ∀ request, effect = .dispatch request →
    assigned = .ok request.command) fun _ => True

/-- The local state passes every check before the transport but the one of its command. -/
structure ReadyToDispatch (executor : NativeExecutor Command Identity)
    (assignment : BackendAgentCommandAssignment) (localState : NativeLocalState Command Identity)
    (context : NativeCommandContext) (now : Int) : Prop where
  valid : executor.localStateValid localState = .ok ()
  starting : localState.phase = .starting
  positive : 0 < now
  started : localState.localStartingPersistedAt ≤ now
  beforeDeadline : now < assignment.deadline
  context : (executor.envelope localState.command).sameContext context = true

def selectedFacts (selection : BackendAgentLocalProviderSelection) :
    BackendAgentLocalProviderFacts :=
  { providerId := selection.providerId
    providerKind := selection.providerKind
    providerInstanceEpoch := selection.providerInstanceEpoch
    providerGeneration := selection.providerGeneration
    capabilityRevision := selection.capabilityRevision
    available := true
    capabilities := [selection.requiredCapability] }

theorem selectedFacts_current {selection : BackendAgentLocalProviderSelection}
    (valid : backendAgentLocalProviderValidSelection selection = true) :
    selectedProviderStillCurrent selection (selectedFacts selection) = true := by
  have fields := valid
  simp only [backendAgentLocalProviderValidSelection, Bool.and_eq_true, decide_eq_true_eq] at fields
  obtain ⟨⟨⟨⟨⟨⟨⟨⟨-, -⟩, provider⟩, kind⟩, -⟩, epoch⟩, generation⟩, revision⟩, capability⟩ := fields
  simp [selectedProviderStillCurrent, valid, selectedFacts, backendAgentLocalProviderValidFacts,
    boundedUniqueIdentifiers, provider, kind, epoch, generation, revision, capability]

theorem toBool_iff {reason : Except String Unit} : reason.toBool = true ↔ reason = .ok () := by
  cases reason <;> simp [Except.toBool]

theorem freshStateValid_iff (executor : NativeExecutor Command Identity)
    (assignment : BackendAgentCommandAssignment) (localState : NativeLocalState Command Identity)
    (now : Int) :
    executor.freshStateValid assignment localState now = true ↔
      executor.localStateValid localState = .ok () ∧ localState.phase = .starting ∧
        (∃ expected, executor.commandFromAssignment assignment = .ok expected ∧
          executor.sameCommand expected localState.command = true) ∧
        0 < now ∧ localState.localStartingPersistedAt ≤ now := by
  simp only [NativeExecutor.freshStateValid, Bool.and_eq_true, toBool_iff, beq_iff_eq,
    decide_eq_true_eq]
  cases executor.commandFromAssignment assignment with
  | error reason => simp
  | ok expected => simp [and_assoc]

/-- Fresh execution is bound to its assignment unless its own comparison lets another command
through. -/
theorem dispatchesOnly_iff (executor : NativeExecutor Command Identity)
    {assignment : BackendAgentCommandAssignment} {localState : NativeLocalState Command Identity}
    (context : NativeCommandContext) (now : Int)
    (selected : executor.localStateValid localState = .ok () →
      backendAgentLocalProviderValidSelection
        (executor.envelope localState.command).localProviderSelection = true) :
    DispatchesOnly (executor.commandFromAssignment assignment)
        (executor.executeFreshStartingOnce assignment localState context now) ↔
      ¬ (ReadyToDispatch executor assignment localState context now ∧
        ∃ expected, executor.commandFromAssignment assignment = .ok expected ∧
          executor.sameCommand expected localState.command = true ∧
          expected ≠ localState.command) := by
  constructor
  · rintro only ⟨ready, expected, derived, same, different⟩
    have fresh : executor.freshStateValid assignment localState now = true :=
      (freshStateValid_iff ..).mpr
        ⟨ready.valid, ready.starting, ⟨expected, derived, same⟩, ready.positive, ready.started⟩
    have current := selectedFacts_current (selected ready.valid)
    rw [NativeExecutor.executeFreshStartingOnce, if_neg (by simp [fresh]),
      if_neg (by simp [ready.context]), if_neg (by simpa using ready.beforeDeadline)] at only
    have dispatched := only.2 (.found (selectedFacts
      (executor.envelope localState.command).localProviderSelection))
    dsimp only at dispatched
    rw [if_neg (by simp [current])] at dispatched
    have assigned := dispatched.1 _ rfl
    rw [derived, Except.ok.injEq] at assigned
    exact different assigned
  · intro bound
    unfold DispatchesOnly NativeExecutor.executeFreshStartingOnce
    split
    · trivial
    · split
      · trivial
      · split
        · trivial
        · rename_i fresh sameContext intime
          refine ⟨by simp, fun discovery => ?_⟩
          cases discovery with
          | refused => trivial
          | thrown => trivial
          | found facts =>
            dsimp only
            split
            · trivial
            · refine ⟨fun request dispatch => ?_, fun outcome => trivial⟩
              cases dispatch
              obtain ⟨valid, starting, ⟨expected, derived, same⟩, positive, started⟩ :=
                (freshStateValid_iff ..).mp (Bool.eq_true_of_not_eq_false fresh)
              by_contra different
              refine bound ⟨⟨valid, starting, positive, started, by omega,
                Bool.eq_true_of_not_eq_false sameContext⟩, expected, derived, same, ?_⟩
              rintro rfl
              exact different derived

end Executors

/-! ## Valid commands -/

theorem nativeTimerCreate_valid_of_state {state : BackendAgentNativeTimerCreateLocalState}
    (valid : backendAgentNativeTimerCreateLocalStateValid state = .ok ()) :
    backendAgentNativeTimerCreateValidCommand state.command = true := by
  unfold backendAgentNativeTimerCreateLocalStateValid at valid
  split at valid
  · cases valid
  · rename_i sound
    simp only [not_or, Bool.not_eq_false] at sound
    exact sound.2.1

theorem nativeTimerDelete_valid_of_state {state : BackendAgentNativeTimerDeleteLocalState}
    (valid : backendAgentNativeTimerDeleteLocalStateValid state = .ok ()) :
    backendAgentNativeTimerDeleteValidCommand state.command = true := by
  unfold backendAgentNativeTimerDeleteLocalStateValid at valid
  split at valid
  · cases valid
  · rename_i sound
    simp only [not_or, Bool.not_eq_false] at sound
    exact sound.2.1

theorem nativeTimerModify_valid_of_state {state : BackendAgentNativeTimerModifyLocalState}
    (valid : backendAgentNativeTimerModifyLocalStateValid state = .ok ()) :
    backendAgentNativeTimerModifyValidCommand state.command = true := by
  unfold backendAgentNativeTimerModifyLocalStateValid at valid
  split at valid
  · cases valid
  · rename_i sound
    simp only [not_or, Bool.not_eq_false] at sound
    exact sound.2.1

theorem recording_valid_of_state {Command : Type} {envelope : Command → NativeCommandEnvelope}
    {validCommand : Command → Bool} {reasons : RecordingStateReasons}
    {state : NativeLocalState Command NativeCommandIdentity}
    (valid : recordingLocalStateValid envelope validCommand reasons state = .ok ()) :
    validCommand state.command = true := by
  unfold recordingLocalStateValid at valid
  split at valid
  · cases valid
  · rename_i sound
    simp only [not_or, Bool.not_eq_false] at sound
    exact sound.2.1

theorem nativeTimerModify_valid_of_assignment {assignment : BackendAgentCommandAssignment}
    {command : BackendAgentNativeTimerModifyCommand}
    (derived : backendAgentNativeTimerModifyCommandFromAssignment assignment = .ok command) :
    backendAgentNativeTimerModifyValidCommand command = true := by
  unfold backendAgentNativeTimerModifyCommandFromAssignment at derived
  split at derived
  · cases derived
  · split at derived
    · cases derived
    · split at derived
      · cases derived
      · dsimp only at derived
        split at derived
        · rename_i valid
          cases derived
          exact valid
        · cases derived

theorem selected_of_exact {domain provider kind capability : Bytes}
    {selection : BackendAgentLocalProviderSelection}
    (exact : exactProviderSelection domain provider kind capability selection = true) :
    backendAgentLocalProviderValidSelection selection = true := by
  simp only [exactProviderSelection, Bool.and_eq_true] at exact
  exact exact.1.1.1.1

/-! ## Comparisons of the executors -/

theorem specificationFields_injective {left right : BackendAgentNativeTimerCreateSpecification}
    (same : specificationFields left = specificationFields right) :
    right = { left with startTime := right.startTime, endTime := right.endTime } ∧
      normalizedHhmm right.startTime = normalizedHhmm left.startTime ∧
      normalizedHhmm right.endTime = normalizedHhmm left.endTime := by
  simp only [specificationFields, List.cons.injEq, and_true] at same
  obtain ⟨channel, title, directory, day, weekdays, startTime, endTime, priority, lifetime, enabled,
    vps⟩ := same
  refine ⟨?_, startTime.symm, endTime.symm⟩
  have priority := signedDecimal_injective priority
  have lifetime := signedDecimal_injective lifetime
  have enabled := Netstring.boolField_injective enabled
  have vps := Netstring.boolField_injective vps
  cases left
  cases right
  simp_all only

theorem specificationFingerprint_injective
    {left right : BackendAgentNativeTimerCreateSpecification}
    (validLeft : backendAgentNativeTimerCreateSpecificationValid left = true)
    (validRight : backendAgentNativeTimerCreateSpecificationValid right = true)
    (same : backendAgentNativeTimerCreateSpecificationFingerprint left =
      backendAgentNativeTimerCreateSpecificationFingerprint right) :
    specificationFields left = specificationFields right := by
  rw [backendAgentNativeTimerCreateSpecificationFingerprint, if_neg (by simp [validLeft]),
    backendAgentNativeTimerCreateSpecificationFingerprint, if_neg (by simp [validRight])] at same
  exact Netstring.record_injective (List.append_cancel_left same)

theorem nativeTimerCreate_sameCommand
    {expected actual : BackendAgentNativeTimerCreateCommand}
    (same : nativeTimerCreateExecutor.sameCommand expected actual = true) : expected = actual := by
  simp only [nativeTimerCreateExecutor, Bool.and_eq_true, beq_iff_eq, sameEnvelope_iff] at same
  cases expected
  cases actual
  simp_all only

theorem recordingMarksModify_sameCommand
    {expected actual : BackendAgentRecordingMarksModifyCommand}
    (same : recordingMarksModifyExecutor.sameCommand expected actual = true) :
    expected = actual := by
  simp only [recordingMarksModifyExecutor, Bool.and_eq_true, beq_iff_eq, sameEnvelope_iff] at same
  cases expected
  cases actual
  simp_all only

theorem recordingCut_sameCommand {expected actual : BackendAgentRecordingCutCommand}
    (same : recordingCutExecutor.sameCommand expected actual = true) : expected = actual := by
  simp only [recordingCutExecutor, Bool.and_eq_true, beq_iff_eq, sameEnvelope_iff] at same
  cases expected
  cases actual
  simp_all only

theorem nativeTimerDelete_sameCommand_iff
    {expected actual : BackendAgentNativeTimerDeleteCommand}
    (selected : backendAgentLocalProviderValidSelection actual.localProviderSelection = true) :
    nativeTimerDeleteExecutor.sameCommand expected actual = true ↔
      expected = actual ∨ OtherTimerExpected expected actual := by
  simp only [nativeTimerDeleteExecutor, Bool.and_eq_true, beq_iff_eq, sameEnvelope_iff]
  constructor
  · intro same
    refine (sameNativeTimerDeleteCommand_iff).mp ?_
    simp only [sameNativeTimerDeleteCommand, beq_iff_eq]
    cases expected
    cases actual
    simp_all only
  · rintro (rfl | ⟨same, -⟩)
    · simp [selected]
    · rw [same] at selected ⊢
      simp [selected]

/-- Valid modifications with one specification fingerprint differ at most in the spelling of the
times. -/
theorem nativeTimerModify_sameCommand_iff
    {expected actual : BackendAgentNativeTimerModifyCommand}
    (validExpected : backendAgentNativeTimerModifyValidCommand expected = true)
    (validActual : backendAgentNativeTimerModifyValidCommand actual = true) :
    nativeTimerModifyExecutor.sameCommand expected actual = true ↔
      expected = actual ∨ OtherTimeSpelling expected actual := by
  have specified (command : BackendAgentNativeTimerModifyCommand)
      (valid : backendAgentNativeTimerModifyValidCommand command = true) :
      backendAgentNativeTimerCreateSpecificationValid command.specification = true ∧
      command.expectedSpecificationFingerprint =
        backendAgentNativeTimerCreateSpecificationFingerprint command.specification ∧
      backendAgentLocalProviderValidSelection command.localProviderSelection = true := by
    simp only [backendAgentNativeTimerModifyValidCommand, nativeTimerModifyExactProviderSelection,
      Bool.and_eq_true, beq_iff_eq] at valid
    exact ⟨valid.1.1.1.1.1.1.1.1.1.1.2, valid.1.1.1.1.1.1.1.1.1.2, selected_of_exact valid.2.1⟩
  obtain ⟨specificationExpected, fingerprintExpected, -⟩ := specified expected validExpected
  obtain ⟨specificationActual, fingerprintActual, selected⟩ := specified actual validActual
  simp only [nativeTimerModifyExecutor, Bool.and_eq_true, beq_iff_eq, sameEnvelope_iff]
  constructor
  · intro same
    by_cases equal : expected = actual
    · exact .inl equal
    · right
      have fields := specificationFingerprint_injective specificationExpected specificationActual
        (by rw [← fingerprintExpected, ← fingerprintActual, same.2])
      obtain ⟨specification, startTime, endTime⟩ := specificationFields_injective fields
      refine ⟨?_, startTime, endTime, Ne.symm equal⟩
      rw [← specification]
      clear specified fields specification startTime endTime fingerprintExpected fingerprintActual
      cases expected
      cases actual
      simp_all only
  · rintro (rfl | ⟨same, -⟩)
    · simp [selected]
    · rw [same] at selected ⊢
      simp [selected]

/-! ## The binding of stored state -/

section Bound

variable (assignment : BackendAgentCommandAssignment) (context : NativeCommandContext) (now : Int)

theorem createDispatch_bound (localState : BackendAgentNativeTimerCreateLocalState) :
    DispatchesOnly (backendAgentNativeTimerCreateCommandFromAssignment assignment)
      (backendAgentNativeTimerCreateExecuteFreshStartingOnce assignment localState context now) := by
  refine (dispatchesOnly_iff nativeTimerCreateExecutor context now ?_).mpr ?_
  · intro valid
    have command := nativeTimerCreate_valid_of_state valid
    simp only [backendAgentNativeTimerCreateValidCommand, Bool.and_eq_true] at command
    exact selected_of_exact command.1.2
  · rintro ⟨-, expected, -, same, different⟩
    exact different (nativeTimerCreate_sameCommand same)

theorem marksDispatch_bound (localState : BackendAgentRecordingMarksModifyLocalState) :
    DispatchesOnly (backendAgentRecordingMarksModifyCommandFromAssignment assignment)
      (backendAgentRecordingMarksModifyExecuteFreshStartingOnce assignment localState context
        now) := by
  refine (dispatchesOnly_iff recordingMarksModifyExecutor context now ?_).mpr ?_
  · intro valid
    have command := recording_valid_of_state valid
    simp only [backendAgentRecordingMarksModifyValidCommand, recordingMarksModifyExactSelection,
      Bool.and_eq_true] at command
    exact selected_of_exact command.2.1
  · rintro ⟨-, expected, -, same, different⟩
    exact different (recordingMarksModify_sameCommand same)

theorem cutDispatch_bound (localState : BackendAgentRecordingCutLocalState) :
    DispatchesOnly (backendAgentRecordingCutCommandFromAssignment assignment)
      (backendAgentRecordingCutExecuteFreshStartingOnce assignment localState context now) := by
  refine (dispatchesOnly_iff recordingCutExecutor context now ?_).mpr ?_
  · intro valid
    have command := recording_valid_of_state valid
    simp only [backendAgentRecordingCutValidCommand, recordingCutExactSelection,
      Bool.and_eq_true] at command
    exact selected_of_exact command.2.1
  · rintro ⟨-, expected, -, same, different⟩
    exact different (recordingCut_sameCommand same)

theorem deleteDispatch_bound_iff (localState : BackendAgentNativeTimerDeleteLocalState) :
    DispatchesOnly (backendAgentNativeTimerDeleteCommandFromAssignment assignment)
        (backendAgentNativeTimerDeleteExecuteFreshStartingOnce assignment localState context now) ↔
      ¬ (ReadyToDispatch nativeTimerDeleteExecutor assignment localState context now ∧
        ∃ expected, backendAgentNativeTimerDeleteCommandFromAssignment assignment = .ok expected ∧
          OtherTimerExpected expected localState.command) := by
  have selected (valid : nativeTimerDeleteExecutor.localStateValid localState = .ok ()) :
      backendAgentLocalProviderValidSelection localState.command.localProviderSelection = true := by
    have command := nativeTimerDelete_valid_of_state valid
    simp only [backendAgentNativeTimerDeleteValidCommand, Bool.and_eq_true] at command
    exact selected_of_exact command.1.2
  refine (dispatchesOnly_iff nativeTimerDeleteExecutor context now selected).trans
    (not_congr ⟨?_, ?_⟩)
  · rintro ⟨ready, expected, derived, same, different⟩
    obtain equal | other := (nativeTimerDelete_sameCommand_iff (selected ready.valid)).mp same
    · exact absurd equal different
    · exact ⟨ready, expected, derived, other⟩
  · rintro ⟨ready, expected, derived, other⟩
    refine ⟨ready, expected, derived,
      (nativeTimerDelete_sameCommand_iff (selected ready.valid)).mpr (.inr other), ?_⟩
    rintro rfl
    exact other.2 rfl

theorem modifyDispatch_bound_iff (localState : BackendAgentNativeTimerModifyLocalState) :
    DispatchesOnly (backendAgentNativeTimerModifyCommandFromAssignment assignment)
        (backendAgentNativeTimerModifyExecuteFreshStartingOnce assignment localState context now) ↔
      ¬ (ReadyToDispatch nativeTimerModifyExecutor assignment localState context now ∧
        ∃ expected, backendAgentNativeTimerModifyCommandFromAssignment assignment = .ok expected ∧
          OtherTimeSpelling expected localState.command) := by
  have selected (valid : nativeTimerModifyExecutor.localStateValid localState = .ok ()) :
      backendAgentLocalProviderValidSelection localState.command.localProviderSelection = true := by
    have command := nativeTimerModify_valid_of_state valid
    simp only [backendAgentNativeTimerModifyValidCommand, nativeTimerModifyExactProviderSelection,
      Bool.and_eq_true] at command
    exact selected_of_exact command.2.1
  refine (dispatchesOnly_iff nativeTimerModifyExecutor context now selected).trans
    (not_congr ⟨?_, ?_⟩)
  · rintro ⟨ready, expected, derived, same, different⟩
    obtain equal | other := (nativeTimerModify_sameCommand_iff
      (nativeTimerModify_valid_of_assignment derived)
      (nativeTimerModify_valid_of_state ready.valid)).mp same
    · exact absurd equal different
    · exact ⟨ready, expected, derived, other⟩
  · rintro ⟨ready, expected, derived, other⟩
    exact ⟨ready, expected, derived,
      (nativeTimerModify_sameCommand_iff (nativeTimerModify_valid_of_assignment derived)
        (nativeTimerModify_valid_of_state ready.valid)).mpr (.inr other), Ne.symm other.2.2.2⟩

/-- What binds stored execution state to an assignment, and the two fields it does not bind: the
timer a deletion expects, in the extension and before the transport, and before the transport the
spelling of the times of a modification. -/
theorem stored_state_bound_iff :
    (∀ extension, AcceptedOnlyBound extension assignment ↔
      ¬ ExpectsOtherTimer extension assignment) ∧
    (∀ localState, DispatchesOnly (backendAgentNativeTimerCreateCommandFromAssignment assignment)
      (backendAgentNativeTimerCreateExecuteFreshStartingOnce assignment localState context now)) ∧
    (∀ localState, DispatchesOnly (backendAgentRecordingMarksModifyCommandFromAssignment assignment)
      (backendAgentRecordingMarksModifyExecuteFreshStartingOnce assignment localState context
        now)) ∧
    (∀ localState, DispatchesOnly (backendAgentRecordingCutCommandFromAssignment assignment)
      (backendAgentRecordingCutExecuteFreshStartingOnce assignment localState context now)) ∧
    (∀ localState,
      DispatchesOnly (backendAgentNativeTimerDeleteCommandFromAssignment assignment)
        (backendAgentNativeTimerDeleteExecuteFreshStartingOnce assignment localState context now) ↔
      ¬ (ReadyToDispatch nativeTimerDeleteExecutor assignment localState context now ∧
        ∃ expected, backendAgentNativeTimerDeleteCommandFromAssignment assignment = .ok expected ∧
          OtherTimerExpected expected localState.command)) ∧
    (∀ localState,
      DispatchesOnly (backendAgentNativeTimerModifyCommandFromAssignment assignment)
        (backendAgentNativeTimerModifyExecuteFreshStartingOnce assignment localState context now) ↔
      ¬ (ReadyToDispatch nativeTimerModifyExecutor assignment localState context now ∧
        ∃ expected, backendAgentNativeTimerModifyCommandFromAssignment assignment = .ok expected ∧
          OtherTimeSpelling expected localState.command)) :=
  ⟨fun extension => acceptedOnlyBound_iff extension assignment,
    createDispatch_bound assignment context now, marksDispatch_bound assignment context now,
    cutDispatch_bound assignment context now, deleteDispatch_bound_iff assignment context now,
    modifyDispatch_bound_iff assignment context now⟩

end Bound

/-! ## A deletion of another timer -/

def fingerprintToken (digit : UInt8) : Bytes := text "sha256:" ++ List.replicate 64 digit

def deleteAssignment : BackendAgentCommandAssignment :=
  { present := true
    requestId := text "request-1"
    correlationId := text "correlation-1"
    operationId := text "operation-1"
    jobId := text "job-1"
    attemptId := text "attempt-1"
    claimEpoch := 1
    commandId := text "command-1"
    backendId := text "backend-1"
    agentId := text "agent-1"
    agentInstanceId := text "instance-1"
    backendGeneration := 1
    commandType := nativeTimerDeleteCommandType
    payloadVersion := 1
    payload := text "\x7b\"timerDeleteSchema\":1,\"operationRevision\":\"revision-1\"," ++
      text "\"nativeTimerBindingId\":\"binding-1\",\"expectedBindingRevision\":\"revision-1\"," ++
      text "\"expectedNativeTimerFingerprint\":\"" ++ fingerprintToken 48 ++ text "\"," ++
      text "\"timerAssignmentId\":\"timer-1\",\"backendNativeTimerId\":\"7\"," ++
      text "\"controlPlaneClaimedAt\":5,\"backendId\":\"backend-1\"," ++
      text "\"authorityDomain\":\"vdr.timer\",\"providerId\":\"suitebridge:local\"," ++
      text "\"providerKind\":\"suitebridge\",\"ownershipGeneration\":1," ++
      text "\"providerInstanceEpoch\":\"epoch-1\",\"providerGeneration\":1," ++
      text "\"capabilityRevision\":1,\"requiredCapability\":\"vdr.timer.delete\"\x7d"
    verificationPolicy := text "readback_required"
    assignedAt := 10
    deadline := 100
    requestFingerprint := text "fp1_3bd7f86d8ce6d79c" }

def deleteExtension (assignment : BackendAgentCommandAssignment) (fingerprint : Bytes) :
    BackendAgentCommandStateExtension :=
  let payload : Except String Bytes := do
    let state ← backendAgentNativeTimerDeletePrepareLocalStarting assignment 30
    backendAgentNativeTimerDeleteSerializeLocalState
      { state with command :=
          { state.command with expectedNativeTimerFingerprint := fingerprint } }
  { extensionType := nativeTimerDeleteExtensionType
    commandId := assignment.commandId
    requestFingerprint := assignment.requestFingerprint
    payload := payload.toOption.getD [] }

theorem other_timer_accepted :
    ¬ AcceptedOnlyBound (deleteExtension deleteAssignment (fingerprintToken 49))
      deleteAssignment := by
  intro bound
  have evaluated :
      backendAgentCommandStateExtensionValidateSupported
        (deleteExtension deleteAssignment (fingerprintToken 49)) deleteAssignment = true ∧
      (backendAgentNativeTimerDeleteParseLocalState
          (deleteExtension deleteAssignment (fingerprintToken 49)).payload).map
          (fun state => state.command.expectedNativeTimerFingerprint) ≠
        (backendAgentNativeTimerDeleteCommandFromAssignment deleteAssignment).toOption.map
          (fun command => command.expectedNativeTimerFingerprint) := by
    obtain ⟨assignment, same⟩ : ∃ assignment, assignment = deleteAssignment := ⟨_, rfl⟩
    rw [← same]
    unfold deleteAssignment at same
    repeat rw [text_ofList] at same
    subst same
    decide +kernel
  obtain ⟨accepted, different⟩ := evaluated
  obtain ⟨state, parsed, derived⟩ := (bound accepted).delete rfl
  rw [parsed, derived] at different
  exact different rfl

end VdrSuite.Agent
