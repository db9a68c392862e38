import VdrSuite.Agent.CommandStateStoreProperties

/-! Which states of a command come back from their file as they went in. -/

set_option autoImplicit false

namespace VdrSuite.Agent

open Library

/-! ## Texts without line breaks -/

theorem safeIdentifier_unbroken {value : Bytes}
    (safe : backendAgentCommandSafeIdentifier value = true) : (10 : UInt8) ∉ value := by
  simp only [backendAgentCommandSafeIdentifier, safeIdentifier, Bool.and_eq_true,
    List.all_eq_true] at safe
  intro broken
  exact absurd (safe.2 10 broken) (by decide)

theorem safeText_unbroken {value : Bytes} {maximumBytes : Nat}
    (safe : backendAgentCommandSafeText value maximumBytes = true) : (10 : UInt8) ∉ value := by
  simp only [backendAgentCommandSafeText, Bool.and_eq_true, List.all_eq_true] at safe
  intro broken
  exact absurd (safe.2 10 broken) (by decide)

theorem allowed_unbroken {value : Bytes} {values : List String}
    (inside : allowed value values = true)
    (unbroken : ∀ candidate ∈ values, (10 : UInt8) ∉ text candidate) : (10 : UInt8) ∉ value := by
  simp only [allowed, List.any_eq_true, beq_iff_eq] at inside
  obtain ⟨candidate, member, rfl⟩ := inside
  exact unbroken candidate member

theorem validCommandPayload_unbroken {value : BackendAgentCommandAssignment}
    (valid : validCommandPayload value = true) :
    (10 : UInt8) ∉ value.commandType ∧ (10 : UInt8) ∉ value.verificationPolicy :=
  ⟨safeIdentifier_unbroken (validCommandPayload_identifiers valid).1,
    safeIdentifier_unbroken (validCommandPayload_identifiers valid).2⟩

/-! ## Valid states -/

structure CommandStateValid (state : LocalState) : Prop where
  assignment : backendAgentCommandValidAssignment state.assignment = true
  receipt : backendAgentCommandValidReceipt state.receipt = true
  receiptFence : state.receipt.fence = state.assignment.fence
  result : ∀ result, state.result = some result → backendAgentCommandValidResult result = true
  resultFence : ∀ result, state.result = some result → result.fence = state.assignment.fence
  resultDispatch : ∀ result, state.result = some result →
    result.dispatchState = state.dispatchState

structure NumbersBounded (state : LocalState) : Prop where
  claim : state.assignment.claimEpoch ≤ int64Max
  generation : state.assignment.backendGeneration ≤ int64Max
  payloadVersion : state.assignment.payloadVersion ≤ int64Max
  assigned : state.assignment.assignedAt ≤ int64Max
  deadline : state.assignment.deadline ≤ int64Max
  received : state.receipt.receivedAt ≤ int64Max
  completed : ∀ result, state.result = some result → result.completedAt ≤ int64Max
  nativeSequence : state.nativeExecutionSequence ≤ int64Max

theorem numbersStorable {state : LocalState} (valid : CommandStateValid state)
    (bounded : NumbersBounded state) : NumbersStorable state := by
  have assignment := valid.assignment
  simp only [backendAgentCommandValidAssignment, Bool.and_eq_true, decide_eq_true_eq] at assignment
  obtain ⟨⟨⟨-, assigned⟩, deadline⟩, -⟩ := assignment
  have received := valid.receipt
  simp only [backendAgentCommandValidReceipt, Bool.and_eq_true, decide_eq_true_eq] at received
  obtain ⟨⟨⟨-, received⟩, -⟩, -⟩ := received
  refine ⟨bounded.claim, bounded.generation, bounded.payloadVersion,
    ⟨by omega, bounded.assigned⟩, ⟨by omega, bounded.deadline⟩, ⟨by omega, bounded.received⟩, ?_,
    bounded.nativeSequence⟩
  intro result present
  have completed := valid.result result present
  simp only [backendAgentCommandValidResult, Bool.and_eq_true, decide_eq_true_eq] at completed
  exact ⟨by omega, bounded.completed result present⟩

theorem receiptFor_eq {assignment : BackendAgentCommandAssignment}
    {receipt : BackendAgentCommandReceipt}
    (valid : backendAgentCommandValidReceipt receipt = true)
    (fence : receipt.fence = assignment.fence) :
    receiptFor assignment receipt.receiptCategory receipt.receivedAt receipt.reasonCode =
      receipt := by
  simp only [backendAgentCommandValidReceipt, Bool.and_eq_true, beq_iff_eq] at valid
  have protocol := valid.1.1.1.1.1.1.1.1.1.1.1.1
  simp only [BackendAgentCommandReceipt.fence, BackendAgentCommandAssignment.fence,
    CommandFence.mk.injEq] at fence
  obtain ⟨command, fingerprint, job, attempt, claim, backend, agent, instanceId, generation⟩ := fence
  cases receipt
  simp_all [receiptFor]

theorem reloadedResult_eq {state : LocalState} {result : BackendAgentCommandResult}
    (protocol : result.protocolVersion = text "vdr-suite-agent/1")
    (fence : result.fence = state.assignment.fence)
    (dispatch : result.dispatchState = state.dispatchState) :
    reloadedResult state result =
      { result with resultEvidence := storedEvidence state.assignment result } := by
  simp only [BackendAgentCommandResult.fence, BackendAgentCommandAssignment.fence,
    CommandFence.mk.injEq] at fence
  obtain ⟨command, fingerprint, job, attempt, claim, backend, agent, instanceId, generation⟩ := fence
  cases result
  simp_all [reloadedResult, resultFor]

theorem validResult_protocol {result : BackendAgentCommandResult}
    (valid : backendAgentCommandValidResult result = true) :
    result.protocolVersion = text "vdr-suite-agent/1" := by
  simp only [backendAgentCommandValidResult, Bool.and_eq_true, beq_iff_eq] at valid
  exact valid.1.1.1.1.1.1.1.1.1.1.1.1.1.1.1.1.1

theorem validResult_evidence {result : BackendAgentCommandResult} (evidence : Bytes)
    (valid : backendAgentCommandValidResult result = true)
    (safe : backendAgentCommandSafeText evidence 4096 = true) :
    backendAgentCommandValidResult { result with resultEvidence := evidence } = true := by
  simp only [backendAgentCommandValidResult, Bool.and_eq_true] at valid ⊢
  exact ⟨⟨valid.1.1, safe⟩, valid.2⟩

theorem validResult_restored {state : LocalState} {result : BackendAgentCommandResult}
    (valid : backendAgentCommandValidResult result = true)
    (fence : result.fence = state.assignment.fence)
    (dispatch : result.dispatchState = state.dispatchState) :
    backendAgentCommandValidResult (reloadedResult state result) = true := by
  rw [reloadedResult_eq (validResult_protocol valid) fence dispatch]
  refine validResult_evidence _ valid ?_
  have safe := valid
  simp only [backendAgentCommandValidResult, Bool.and_eq_true] at safe
  unfold storedEvidence
  split
  · exact safe.1.2
  · decide

/-! ## Values without line breaks -/

theorem boolText_unbroken (value : Bool) : (10 : UInt8) ∉ boolText value := by
  cases value <;> decide

theorem resultColumn_unbroken {state : LocalState}
    (project : BackendAgentCommandResult → Bytes)
    (unbroken : ∀ result, state.result = some result → (10 : UInt8) ∉ project result) :
    (10 : UInt8) ∉ (state.result.map project).getD [] := by
  cases present : state.result with
  | none => simp
  | some result => simpa using unbroken result present

theorem assignmentColumns_unbroken {assignment : BackendAgentCommandAssignment}
    (valid : backendAgentCommandValidAssignment assignment = true)
    (payload : (10 : UInt8) ∉ assignment.payload) :
    ∀ value ∈ [assignment.protocolVersion, assignment.requestId, assignment.correlationId,
      assignment.operationId, assignment.jobId, assignment.attemptId, assignment.commandId,
      assignment.backendId, assignment.agentId, assignment.agentInstanceId, assignment.commandType,
      assignment.payload, assignment.requestFingerprint, assignment.verificationPolicy],
      (10 : UInt8) ∉ value := by
  simp only [backendAgentCommandValidAssignment, Bool.and_eq_true, beq_iff_eq] at valid
  obtain ⟨⟨⟨⟨⟨⟨⟨⟨⟨⟨⟨⟨⟨⟨⟨⟨protocol, request⟩, correlation⟩, operation⟩, job⟩, attempt⟩, -⟩,
    command⟩, backend⟩, agent⟩, instanceId⟩, -⟩, shape⟩, fingerprint⟩, -⟩, -⟩, -⟩ := valid
  obtain ⟨kind, policy⟩ := validCommandPayload_unbroken shape
  have protocolText : (10 : UInt8) ∉ assignment.protocolVersion := by
    rw [protocol]
    decide
  simp only [List.mem_cons, List.not_mem_nil, or_false, forall_eq_or_imp, forall_eq]
  exact ⟨protocolText, safeIdentifier_unbroken request, safeIdentifier_unbroken correlation,
    safeIdentifier_unbroken operation, safeIdentifier_unbroken job,
    safeIdentifier_unbroken attempt, safeIdentifier_unbroken command,
    safeIdentifier_unbroken backend, safeIdentifier_unbroken agent,
    safeIdentifier_unbroken instanceId, kind, payload, safeIdentifier_unbroken fingerprint, policy⟩

theorem resultColumns_unbroken {result : BackendAgentCommandResult}
    (valid : backendAgentCommandValidResult result = true) :
    ∀ value ∈ [result.verificationState, result.resultCategory, result.errorCategory,
      result.retryClassification, result.boundedDiagnostics, result.resultEvidence],
      (10 : UInt8) ∉ value := by
  simp only [backendAgentCommandValidResult, Bool.and_eq_true] at valid
  obtain ⟨⟨⟨⟨⟨⟨⟨-, verification⟩, category⟩, error⟩, retry⟩, diagnostics⟩, evidence⟩, -⟩ := valid
  simp only [List.mem_cons, List.not_mem_nil, or_false, forall_eq_or_imp, forall_eq]
  exact ⟨allowed_unbroken verification (by decide),
    allowed_unbroken category (by decide), allowed_unbroken error (by decide),
    allowed_unbroken retry (by decide), safeText_unbroken diagnostics,
    safeText_unbroken evidence⟩

theorem nativeColumns_unbroken {state : LocalState} (loadable : nativeEvidenceLoadable state = true) :
    ∀ value ∈ [state.nativeCapabilityEvidence, state.pluginInstanceEpoch, state.probeNonce,
      state.nativeReceiptEvidence, state.nativeResultEvidence, state.nativeReadbackEvidence],
      (10 : UInt8) ∉ value := by
  simp only [nativeEvidenceLoadable, Bool.and_eq_true, Bool.or_eq_true,
    List.isEmpty_iff] at loadable
  obtain ⟨⟨⟨⟨⟨capability, receipt⟩, result⟩, readback⟩, epoch⟩, nonce⟩ := loadable
  have optional : ∀ value : Bytes,
      value = [] ∨ backendAgentCommandSafeIdentifier value = true → (10 : UInt8) ∉ value := by
    intro value safe
    obtain rfl | safe := safe
    · simp
    · exact safeIdentifier_unbroken safe
  simp only [List.mem_cons, List.not_mem_nil, or_false, forall_eq_or_imp, forall_eq]
  exact ⟨safeText_unbroken capability, optional _ epoch, optional _ nonce,
    safeText_unbroken receipt, safeText_unbroken result, safeText_unbroken readback⟩

theorem stateValues_unbroken {state : LocalState} (valid : CommandStateValid state)
    (payload : (10 : UInt8) ∉ state.assignment.payload)
    (dispatch : (10 : UInt8) ∉ state.dispatchState)
    (loadable : nativeEvidenceLoadable state = true) :
    ∀ value ∈ stateValues state [], (10 : UInt8) ∉ value := by
  have assignment := assignmentColumns_unbroken valid.assignment payload
  have native := nativeColumns_unbroken loadable
  have receipt := valid.receipt
  simp only [backendAgentCommandValidReceipt, Bool.and_eq_true] at receipt
  have category := allowed_unbroken receipt.1.2 (by decide)
  have reason := safeText_unbroken receipt.2
  have column : ∀ project : BackendAgentCommandResult → Bytes,
      (∀ result : BackendAgentCommandResult, project result ∈
        [result.verificationState, result.resultCategory, result.errorCategory,
          result.retryClassification, result.boundedDiagnostics, result.resultEvidence]) →
      (10 : UInt8) ∉ (state.result.map project).getD [] := by
    intro project inside
    exact resultColumn_unbroken project fun result present =>
      resultColumns_unbroken (valid.result result present) _ (inside result)
  have numeral : ∀ value : Nat, (10 : UInt8) ∉ decimal value :=
    fun value => notMem_decimal value 10 (by decide)
  have signed : ∀ value : Int, (10 : UInt8) ∉ signedDecimal value :=
    fun value => notMem_signedDecimal value 10 (by decide) (by decide)
  have version : (10 : UInt8) ∉
      (if isMediaImport state.assignment = true then text "4" else text "3") := by
    split <;> decide
  have media : ∀ value ∈ (if isMediaImport state.assignment = true then
      [(state.result.map fun result => result.resultEvidence).getD []] else []),
      (10 : UInt8) ∉ value := by
    intro value member
    split at member
    · rw [List.mem_singleton.mp member]
      exact column _ (by simp)
    · simp at member
  simp only [List.mem_cons, List.not_mem_nil, or_false, forall_eq_or_imp, forall_eq]
    at assignment native
  obtain ⟨protocol, request, correlation, operation, job, attempt, command, backend, agent,
    instanceId, kind, payload, fingerprint, policy⟩ := assignment
  obtain ⟨capability, epoch, nonce, nativeReceipt, nativeResult, readback⟩ := native
  unfold stateValues
  dsimp only
  simp only [List.forall_mem_append, List.forall_mem_cons]
  exact ⟨⟨version, protocol, request, correlation, operation, job, attempt, numeral _, command,
    backend, agent, instanceId, numeral _, kind, numeral _, payload, fingerprint, policy, signed _,
    signed _, category, signed _, reason, boolText_unbroken _, dispatch, boolText_unbroken _,
    boolText_unbroken _, column _ (by simp), column _ (by simp), column _ (by simp),
    column _ (by simp), column _ (by simp), signed _, capability, epoch, nonce, numeral _,
    nativeReceipt, nativeResult, readback, by simp⟩, media⟩

/-! ## Round trip -/

/-- What a file is to give back of a state: everything but the receipt of a native probe v2 without
a result, which is to be acknowledged anew. -/
structure SameCommandState (state loaded : LocalState) : Prop where
  assignment : loaded.assignment = state.assignment
  receipt : loaded.receipt = state.receipt
  receiptAcknowledged : loaded.receiptAcknowledged =
    if state.assignment.commandType = nativeProbeCommandType ∧
      state.assignment.payloadVersion = 2 ∧ state.result = none then false
    else state.receiptAcknowledged
  resultAcknowledged : loaded.resultAcknowledged = state.resultAcknowledged
  dispatchState : loaded.dispatchState = state.dispatchState
  nativeCapabilityEvidence : loaded.nativeCapabilityEvidence = state.nativeCapabilityEvidence
  pluginInstanceEpoch : loaded.pluginInstanceEpoch = state.pluginInstanceEpoch
  probeNonce : loaded.probeNonce = state.probeNonce
  nativeExecutionSequence : loaded.nativeExecutionSequence = state.nativeExecutionSequence
  nativeReceiptEvidence : loaded.nativeReceiptEvidence = state.nativeReceiptEvidence
  nativeResultEvidence : loaded.nativeResultEvidence = state.nativeResultEvidence
  nativeReadbackEvidence : loaded.nativeReadbackEvidence = state.nativeReadbackEvidence
  stateExtension : loaded.stateExtension = state.stateExtension

theorem sameCommandState_reloaded {state : LocalState} (valid : CommandStateValid state)
    (present : state.assignment.present = true) : SameCommandState state (reloaded state) := by
  have assignment : { state.assignment with present := true } = state.assignment := by
    rw [← present]
  have receipt := receiptFor_eq valid.receipt valid.receiptFence
  unfold reloaded resetReceipt
  split
  · rename_i reset
    obtain ⟨-, probe, version, noResult, acknowledged⟩ := reset
    have noResult : state.result = none := by simpa [restored] using noResult
    exact ⟨assignment, receipt, (if_pos ⟨probe, version, noResult⟩).symm, rfl, rfl, rfl, rfl, rfl,
      rfl, rfl, rfl, rfl, rfl⟩
  · rename_i keep
    refine ⟨assignment, receipt, ?_, rfl, rfl, rfl, rfl, rfl, rfl, rfl, rfl, rfl, rfl⟩
    split
    · rename_i probe
      obtain ⟨kind, version, noResult⟩ := probe
      by_contra acknowledged
      exact keep ⟨rfl, kind, version, by simp [restored, noResult], by simpa using acknowledged⟩
    · rfl

/-- A file gives back the state it was written from exactly when the assignment is marked present,
neither the payload nor the dispatch state has a line break and the native evidence is loadable. -/
theorem load_restores_iff {path content : Bytes} {state : LocalState}
    (valid : CommandStateValid state) (bounded : NumbersBounded state)
    (written : stateContent path state = .ok content) :
    (∃ loaded, load (some content) = .ok loaded ∧ SameCommandState state loaded) ↔
      state.assignment.present = true ∧ (10 : UInt8) ∉ state.assignment.payload ∧
        (10 : UInt8) ∉ state.dispatchState ∧ nativeEvidenceLoadable state = true := by
  constructor
  · intro restores
    obtain ⟨loaded, outcome, same⟩ := restores
    obtain ⟨reloadable, rfl⟩ := of_load written outcome
    have present : (reloaded state).assignment.present = true := by
      unfold reloaded resetReceipt
      split <;> rfl
    refine ⟨same.assignment ▸ present, ?_, ?_, reloadable.nativeEvidence⟩
    · exact reloadable.unbroken _ (by simp [stateValues])
    · exact reloadable.unbroken _ (by simp [stateValues])
  · intro condition
    obtain ⟨present, payload, dispatch, loadable⟩ := condition
    have reloadable : Reloadable state :=
      ⟨stateValues_unbroken valid payload dispatch loadable, numbersStorable valid bounded,
        valid.assignment, loadable, fun result stored => validResult_restored
          (valid.result result stored) (valid.resultFence result stored)
          (valid.resultDispatch result stored)⟩
    exact ⟨reloaded state, load_of_reloadable written reloadable,
      sameCommandState_reloaded valid present⟩

/-- A received native probe v1 whose payload has the given text between its first two tokens. -/
def probeState (separator : Bytes) : LocalState :=
  let command : BackendAgentCommandAssignment :=
    { present := true
      requestId := text "request-1"
      correlationId := text "correlation-1"
      operationId := text "operation-1"
      jobId := text "job-1"
      attemptId := text "attempt-1"
      claimEpoch := 1
      commandId := text "command-1"
      backendId := text "backend-1"
      agentId := text "agent-1"
      agentInstanceId := text "instance-1"
      backendGeneration := 1
      commandType := nativeProbeCommandType
      payloadVersion := 1
      payload := text "\x7b" ++ separator ++ text "\"probeSchema\":1,\"probeNonce\":\"n1\"\x7d"
      verificationPolicy := text "readback_required"
      assignedAt := 10
      deadline := 100 }
  let assignment := { command with requestFingerprint := backendAgentCommandFingerprint command }
  { assignment, receipt := receiptFor assignment (text "accepted") 20 (text "accepted_locally") }

theorem probeState_valid (separator : Bytes)
    (assignment : backendAgentCommandValidAssignment (probeState separator).assignment = true)
    (receipt : backendAgentCommandValidReceipt (probeState separator).receipt = true) :
    CommandStateValid (probeState separator) :=
  ⟨assignment, receipt, rfl, by simp [probeState], by simp [probeState], by simp [probeState]⟩

theorem probeState_bounded (separator : Bytes) : NumbersBounded (probeState separator) :=
  ⟨by simp [probeState, int64Max], by simp [probeState, int64Max], by simp [probeState, int64Max],
    by simp [probeState, int64Max], by simp [probeState, int64Max],
    by simp [probeState, receiptFor, int64Max], by simp [probeState],
    by simp [probeState, int64Max]⟩

theorem exists_of_toBool {α : Type} (outcome : Except String α)
    (succeeds : outcome.toBool = true) :
    ∃ value, outcome = .ok value := by
  cases outcome with
  | error reason => simp [Except.toBool] at succeeds
  | ok value => exact ⟨value, rfl⟩

theorem load_restores_iff_probe :
    ∃ content, stateContent (text "/state") (probeState []) = .ok content ∧
      ∃ loaded, load (some content) = .ok loaded ∧ SameCommandState (probeState []) loaded := by
  have valid := probeState_valid [] (by decide +kernel) (by decide +kernel)
  obtain ⟨content, written⟩ := exists_of_toBool
    (stateContent (text "/state") (probeState [])) (by decide +kernel)
  exact ⟨content, written, (load_restores_iff valid (probeState_bounded []) written).mpr
    ⟨rfl, by decide, by decide, by decide⟩⟩

/-- A line break between the tokens of a payload is harmless to its parser and fatal to the file. -/
theorem payload_line_break_unreadable :
    ∃ state path content, CommandStateValid state ∧ NumbersBounded state ∧
      state.assignment.present = true ∧ stateContent path state = .ok content ∧
      ∀ loaded, load (some content) ≠ .ok loaded := by
  have valid := probeState_valid (text "\n") (by decide +kernel) (by decide +kernel)
  obtain ⟨content, written⟩ := exists_of_toBool
    (stateContent (text "/state") (probeState (text "\n"))) (by decide +kernel)
  refine ⟨_, _, content, valid, probeState_bounded _, rfl, written, ?_⟩
  intro loaded outcome
  obtain ⟨reloadable, -⟩ := of_load written outcome
  have broken : (10 : UInt8) ∈ (probeState (text "\n")).assignment.payload := by decide
  exact reloadable.unbroken _ (by simp [stateValues]) broken

end VdrSuite.Agent
