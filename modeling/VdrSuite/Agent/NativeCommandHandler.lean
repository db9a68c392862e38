import VdrSuite.Agent.CommandStateStore
import VdrSuite.Agent.NativeExecutor

/-! The command handlers of the native families: durable start, execution and recovery, and the
generic result that each outcome is reported as. -/

set_option autoImplicit false

namespace VdrSuite.Agent

open Library

/-! ## Generic results -/

structure NativeGenericProjection where
  dispatchState : Bytes
  verificationState : Bytes
  resultCategory : Bytes
  errorCategory : Bytes
  retryClassification : Bytes
  diagnostics : Bytes
  deriving DecidableEq

/-- What an outcome is reported as; `subject` and `pending` are the words of a family. -/
def nativeGenericProjection (subject pending : String) :
    NativeOutcomeCategory → NativeGenericProjection
  | .rejectedWithoutEffect =>
    { dispatchState := text "not_started"
      verificationState := text "verified"
      resultCategory := text "rejected"
      errorCategory := text "fenced"
      retryClassification := text "none"
      diagnostics := text (subject ++ " rejected without effect") }
  | .acceptedUnverified =>
    { dispatchState := text "accepted_by_executor"
      verificationState := text "outcome_unknown"
      resultCategory := text "outcome_unknown"
      errorCategory := text "none"
      retryClassification := text "reconcile_only"
      diagnostics := text (subject ++ " accepted; " ++ pending ++ " reconciliation required") }
  | .outcomeUnknown =>
    { dispatchState := text "starting"
      verificationState := text "outcome_unknown"
      resultCategory := text "outcome_unknown"
      errorCategory := text "executor_unknown"
      retryClassification := text "reconcile_only"
      diagnostics := text (subject ++ " outcome unknown; reconciliation required") }

/-! ## Handlers -/

structure NativeCommandHandler (Command Identity : Type) where
  executor : NativeExecutor Command Identity
  label : String
  extensionType : Bytes
  parseLocalState : Bytes → Option (NativeLocalState Command Identity)
  serializeLocalState : NativeLocalState Command Identity → Except String Bytes
  prepareLocalStarting : BackendAgentCommandAssignment → Int →
    Except String (NativeLocalState Command Identity)
  completeLocalState : NativeLocalState Command Identity → NativeEvidence Identity →
    Except String (NativeLocalState Command Identity)
  recoverLocalState : NativeLocalState Command Identity → NativeCommandContext → Int →
    NativeRecovery Identity
  projection : NativeEvidence Identity → Option NativeGenericProjection
  resultEvidence : Option (NativeEvidence Identity → BackendAgentCommandAssignment → Bytes)

abbrev HandledCommand : Type := Except String (LocalState × String)

section Handler

variable {Command Identity : Type}

def persist (path : Bytes) (state : LocalState) (reason : String) :
    NativeProgram Command HandledCommand :=
  match stateContent path state with
  | .error refusal => .done (.error refusal)
  | .ok content =>
    .perform (.write content) fun outcome : WriteOutcome =>
      match outcome with
      | .openFailed => .done (.error "command_state_open_failed")
      | .notReplaced => .done (.error "command_state_persist_failed")
      | .notSynchronized => .done (.error "command_state_persist_failed")
      | .persisted => .done (.ok (state, reason))

variable (handler : NativeCommandHandler Command Identity)

/-- The result of an outcome: the assignment's identity, the projection and the evidence text. -/
def NativeCommandHandler.resultOf (assignment : BackendAgentCommandAssignment)
    (projection : NativeGenericProjection) (evidence : NativeEvidence Identity) :
    BackendAgentCommandResult :=
  { resultFor assignment projection.dispatchState projection.verificationState
      projection.resultCategory projection.errorCategory projection.retryClassification
      projection.diagnostics evidence.completedAt with
    resultEvidence := (handler.resultEvidence.map fun write => write evidence assignment).getD [] }

def NativeCommandHandler.createResult (state : LocalState) (projection : NativeGenericProjection)
    (evidence : NativeEvidence Identity) : Except String LocalState :=
  let result := handler.resultOf state.assignment projection evidence
  if handler.resultEvidence.isSome = true ∧
      (result.resultEvidence = [] ∨ backendAgentCommandValidResult result = false) then
    .error (handler.label ++ "_result_evidence_invalid")
  else
    .ok { state with
      dispatchState := projection.dispatchState
      result := some result
      resultAcknowledged := false }

def NativeCommandHandler.resultMatchesEvidence (state : LocalState)
    (result : BackendAgentCommandResult) (projection : NativeGenericProjection)
    (evidence : NativeEvidence Identity) : Bool :=
  state.dispatchState == projection.dispatchState &&
  result.dispatchState == projection.dispatchState &&
  result.verificationState == projection.verificationState &&
  result.resultCategory == projection.resultCategory &&
  result.errorCategory == projection.errorCategory &&
  result.retryClassification == projection.retryClassification &&
  result.boundedDiagnostics == projection.diagnostics &&
  (match handler.resultEvidence with
    | none => true
    | some write =>
      result.resultEvidence == write evidence state.assignment && !result.resultEvidence.isEmpty) &&
  decide (result.completedAt = evidence.completedAt)

def NativeCommandHandler.completeState (state : LocalState)
    (extension : BackendAgentCommandStateExtension)
    (localState : NativeLocalState Command Identity) (evidence : NativeEvidence Identity) :
    Except String LocalState :=
  match handler.completeLocalState localState evidence with
  | .error reason => .error reason
  | .ok completed =>
    match handler.serializeLocalState completed with
    | .error reason => .error reason
    | .ok payload =>
      .ok { state with stateExtension := some { extension with payload := payload } }

def NativeCommandHandler.localStateOf (state : LocalState) (required invalid : String) :
    Except String (BackendAgentCommandStateExtension × NativeLocalState Command Identity) :=
  match state.stateExtension with
  | none => .error (handler.label ++ required)
  | some extension =>
    if extension.extensionType ≠ handler.extensionType then .error (handler.label ++ required)
    else
      match handler.parseLocalState extension.payload with
      | none => .error (handler.label ++ invalid)
      | some localState => .ok (extension, localState)

def NativeCommandHandler.reconcileResult (path : Bytes) (changed : Bool) (state : LocalState)
    (evidence : NativeEvidence Identity) : NativeProgram Command HandledCommand :=
  match handler.projection evidence with
  | none => .done (.error (handler.label ++ "_outcome_projection_invalid"))
  | some projection =>
    match state.result with
    | some result =>
      if handler.resultMatchesEvidence state result projection evidence = false then
        .done (.error (handler.label ++ "_result_evidence_conflict"))
      else if changed then persist path state "command_state_persisted"
      else .done (.ok (state, handler.label ++ "_local_state_reconciled"))
    | none =>
      match handler.createResult state projection evidence with
      | .error reason => .done (.error reason)
      | .ok state => persist path state "command_state_persisted"

def NativeCommandHandler.reconcileExisting (path : Bytes) (context : NativeCommandContext)
    (state : LocalState) : NativeProgram Command HandledCommand :=
  match handler.localStateOf state "_local_state_required" "_local_state_invalid" with
  | .error reason => .done (.error reason)
  | .ok (extension, localState) =>
    .perform .clock fun now : ClockTime =>
      match handler.recoverLocalState localState context now with
      | .failClosed reason => .done (.error reason)
      | .returnPersistedEvidence evidence _ => handler.reconcileResult path false state evidence
      | .reconcileOnly evidence _ =>
        match handler.completeState state extension localState evidence with
        | .error reason => .done (.error reason)
        | .ok state => handler.reconcileResult path true state evidence

def NativeCommandHandler.executeFreshStartingAndPersistOutcome (path : Bytes)
    (context : NativeCommandContext) (transport : Bool) (state : LocalState) :
    NativeProgram Command HandledCommand :=
  if transport = false ∨ state.stateExtension = none ∨ state.result.isSome = true ∨
      state.dispatchState ≠ text "starting" ∨ state.receiptAcknowledged = false then
    .done (.error (handler.label ++ "_executor_handoff_state_invalid"))
  else
    match handler.localStateOf state "_executor_handoff_state_invalid"
        "_executor_starting_state_invalid" with
    | .error reason => .done (.error reason)
    | .ok (extension, localState) =>
      if localState.phase ≠ .starting then
        .done (.error (handler.label ++ "_executor_starting_state_invalid"))
      else
        .perform .clock fun now : ClockTime => do
          match ← handler.executor.executeFreshStartingOnce state.assignment localState context
              now with
          | .error reason => return .error reason
          | .ok evidence =>
            match handler.completeState state extension localState evidence with
            | .error reason => return .error reason
            | .ok state =>
              match handler.projection evidence with
              | none =>
                return .error (handler.label ++ "_executor_outcome_projection_invalid")
              | some projection =>
                match handler.createResult state projection evidence with
                | .error reason => return .error reason
                | .ok state =>
                  persist path state (handler.label ++ "_executor_outcome_persisted")

end Handler

/-! ## The command families -/

def nativeTimerCreateStarting (assignment : BackendAgentCommandAssignment) (currentTime : Int) :
    Except String BackendAgentNativeTimerCreateLocalState :=
  match backendAgentNativeTimerCreateCommandFromAssignment assignment with
  | .error _ => .error "native_create_fresh_assignment_invalid"
  | .ok command => backendAgentNativeTimerCreatePrepareLocalStarting command currentTime

def nativeTimerCreateHandler :
    NativeCommandHandler BackendAgentNativeTimerCreateCommand NativeTimerCreateIdentity :=
  { executor := nativeTimerCreateExecutor
    label := "native_create"
    extensionType := nativeTimerCreateExtensionType
    parseLocalState := backendAgentNativeTimerCreateParseLocalState
    serializeLocalState := backendAgentNativeTimerCreateSerializeLocalState
    prepareLocalStarting := nativeTimerCreateStarting
    completeLocalState := backendAgentNativeTimerCreateCompleteLocalState
    recoverLocalState := backendAgentNativeTimerCreateRecoverLocalState
    projection := fun evidence =>
      some (nativeGenericProjection "native Timer create" "readback" evidence.outcome)
    resultEvidence := some backendAgentNativeTimerCreateResultEvidence }

def nativeTimerModifyHandler :
    NativeCommandHandler BackendAgentNativeTimerModifyCommand NativeCommandIdentity :=
  { executor := nativeTimerModifyExecutor
    label := "native_modify"
    extensionType := nativeTimerModifyExtensionType
    parseLocalState := backendAgentNativeTimerModifyParseLocalState
    serializeLocalState := backendAgentNativeTimerModifySerializeLocalState
    prepareLocalStarting := backendAgentNativeTimerModifyPrepareLocalStarting
    completeLocalState := backendAgentNativeTimerModifyCompleteLocalState
    recoverLocalState := backendAgentNativeTimerModifyRecoverLocalState
    projection := fun evidence =>
      some (nativeGenericProjection "native Timer modify" "readback" evidence.outcome)
    resultEvidence := some backendAgentNativeTimerModifyResultEvidence }

def backendAgentNativeTimerCreateCommandReconcileExisting :=
  nativeTimerCreateHandler.reconcileExisting

def backendAgentNativeTimerCreateCommandExecuteFreshStartingAndPersistOutcome :=
  nativeTimerCreateHandler.executeFreshStartingAndPersistOutcome

def backendAgentNativeTimerModifyCommandReconcileExisting :=
  nativeTimerModifyHandler.reconcileExisting

def backendAgentNativeTimerModifyCommandExecuteFreshStartingAndPersistOutcome :=
  nativeTimerModifyHandler.executeFreshStartingAndPersistOutcome

end VdrSuite.Agent
