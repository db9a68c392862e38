import VdrSuite.Agent.CommandStateStore

/-! What a state file says about the state it was written from. -/

set_option autoImplicit false

namespace VdrSuite.Agent

open Library

/-! ## Columns -/

theorem keysReadable_stateKeys (assignment : BackendAgentCommandAssignment) :
    LineRecord.KeysReadable (stateKeys assignment) := by
  have media : LineRecord.KeysReadable mediaImportKeys :=
    ⟨by decide, by decide, by decide, by decide⟩
  unfold stateKeys
  split
  · exact media
  · have inside : ∀ key ∈ extendedKeys, key ∈ mediaImportKeys :=
      fun key member => List.mem_append_left _ member
    exact ⟨fun key member => media.nonempty key (inside key member),
      fun key member => media.separable key (inside key member),
      fun key member => media.unbroken key (inside key member),
      media.unique.sublist (List.sublist_append_left extendedKeys _)⟩

theorem length_stateValues (state : LocalState) (stateExtension : Bytes) :
    (stateValues state stateExtension).length = (stateKeys state.assignment).length := by
  by_cases media : isMediaImport state.assignment = true
  · simp [stateValues, stateKeys, media, mediaImportKeys, extendedKeys, currentKeys, legacyKeys]
  · simp [stateValues, stateKeys, media, extendedKeys, currentKeys, legacyKeys]

theorem stateEntries_keys (state : LocalState) (stateExtension : Bytes) :
    (stateEntries state stateExtension).map Prod.fst = stateKeys state.assignment :=
  List.map_fst_zip (length_stateValues state stateExtension).ge

theorem stateEntries_values (state : LocalState) (stateExtension : Bytes) :
    (stateEntries state stateExtension).map Prod.snd = stateValues state stateExtension :=
  List.map_snd_zip (length_stateValues state stateExtension).le

def stateValue (state : LocalState) (stateExtension : Bytes) (key : String) : Bytes :=
  LineRecord.get (stateEntries state stateExtension) (text key)

theorem stateValue_eq (state : LocalState) (stateExtension : Bytes) (key : String) (index : Nat)
    (stands : extendedKeys[index]? = some (text key)) :
    stateValue state stateExtension key = ((stateValues state stateExtension)[index]?).getD [] := by
  have placed : (stateKeys state.assignment)[index]? = some (text key) := by
    unfold stateKeys
    split
    · exact List.getElem?_append_left (List.getElem?_eq_some_iff.mp stands).1 ▸ stands
    · exact stands
  obtain ⟨inside, same⟩ := List.getElem?_eq_some_iff.mp placed
  have position : (stateKeys state.assignment).idxOf (text key) = index := by
    rw [← same]
    exact (keysReadable_stateKeys state.assignment).unique.idxOf_getElem index inside
  rw [stateValue, LineRecord.get_eq_getElem, stateEntries_keys, stateEntries_values, position]

theorem stateValue_mediaEvidence (state : LocalState) (stateExtension : Bytes)
    (media : isMediaImport state.assignment = true) :
    stateValue state stateExtension "media_import_recording_evidence" =
      (state.result.map (·.resultEvidence)).getD [] := by
  have position : (stateKeys state.assignment).idxOf
      (text "media_import_recording_evidence") = 41 := by
    have unique := (keysReadable_stateKeys state.assignment).unique
    rw [stateKeys, if_pos media] at unique ⊢
    exact unique.idxOf_getElem 41 (by decide)
  rw [stateValue, LineRecord.get_eq_getElem, stateEntries_keys, stateEntries_values, position]
  simp [stateValues, media]

/-! ## Numbers -/

theorem stateNumber_decimal (value : Nat) (bounded : value ≤ int64Max) :
    stateNumber (decimal value) = some value := by
  have short : (decimal value).length ≤ 19 :=
    decimal_length_le value 18 (by unfold int64Max at bounded; omega)
  rw [stateNumber, if_neg (by omega), parseDecimal_decimal int64Max value bounded]

theorem of_stateNumber_decimal (value number : Nat) (read : stateNumber (decimal value) = some number) :
    number = value ∧ value ≤ int64Max := by
  unfold stateNumber at read
  split at read
  · simp at read
  · exact of_parseDecimal_decimal int64Max value number (by decide) read

theorem stateNumber_signedDecimal (value : Int) (nonneg : 0 ≤ value) (bounded : value ≤ int64Max) :
    stateNumber (signedDecimal value) = some value.toNat := by
  rw [signedDecimal_of_nonneg value nonneg]
  exact stateNumber_decimal value.toNat (by omega)

theorem of_stateNumber_signedDecimal (value : Int) (number : Nat)
    (read : stateNumber (signedDecimal value) = some number) :
    (number : Int) = value ∧ value ≤ int64Max := by
  by_cases negative : value < 0
  · unfold stateNumber at read
    rw [parseDecimal_signedDecimal_neg int64Max value negative] at read
    simp at read
  · rw [signedDecimal_of_nonneg value (by omega)] at read
    obtain ⟨same, bounded⟩ := of_stateNumber_decimal _ _ read
    omega

/-! ## What a file restores -/

/-- The evidence that a file keeps of a result: stored for media imports, derived for timers. -/
def storedEvidence (assignment : BackendAgentCommandAssignment)
    (result : BackendAgentCommandResult) : Bytes :=
  if isMediaImport assignment = true ∨ assignment.commandType = nativeTimerCreateCommandType ∨
      assignment.commandType = nativeTimerDeleteCommandType ∨
      assignment.commandType = nativeTimerUpdateCommandType ∨
      assignment.commandType = nativeTimerToggleCommandType then result.resultEvidence
  else []

def reloadedResult (state : LocalState) (result : BackendAgentCommandResult) :
    BackendAgentCommandResult :=
  { resultFor state.assignment state.dispatchState result.verificationState result.resultCategory
      result.errorCategory result.retryClassification result.boundedDiagnostics
      result.completedAt with
    resultEvidence := storedEvidence state.assignment result }

def restored (state : LocalState) : LocalState :=
  { state with
    assignment := { state.assignment with present := true }
    receipt := receiptFor state.assignment state.receipt.receiptCategory state.receipt.receivedAt
      state.receipt.reasonCode
    result := state.result.map (reloadedResult state) }

def reloaded (state : LocalState) : LocalState := resetReceipt true (restored state)

structure NumbersStorable (state : LocalState) : Prop where
  claim : state.assignment.claimEpoch ≤ int64Max
  generation : state.assignment.backendGeneration ≤ int64Max
  payloadVersion : state.assignment.payloadVersion ≤ int64Max
  assigned : 0 ≤ state.assignment.assignedAt ∧ state.assignment.assignedAt ≤ int64Max
  deadline : 0 ≤ state.assignment.deadline ∧ state.assignment.deadline ≤ int64Max
  received : 0 ≤ state.receipt.receivedAt ∧ state.receipt.receivedAt ≤ int64Max
  completed : ∀ result, state.result = some result →
    0 ≤ result.completedAt ∧ result.completedAt ≤ int64Max
  nativeSequence : state.nativeExecutionSequence ≤ int64Max

structure Reloadable (state : LocalState) : Prop where
  unbroken : ∀ value ∈ stateValues state [], (10 : UInt8) ∉ value
  numbers : NumbersStorable state
  assignment : backendAgentCommandValidAssignment state.assignment = true
  nativeEvidence : nativeEvidenceLoadable state = true
  result : ∀ result, state.result = some result →
    backendAgentCommandValidResult (reloadedResult state result) = true

/-! ## From the file to its columns -/

theorem stateValues_unbroken_iff (state : LocalState) (stateExtension : Bytes)
    (unbroken : (10 : UInt8) ∉ stateExtension) :
    (∀ value ∈ stateValues state stateExtension, (10 : UInt8) ∉ value) ↔
      ∀ value ∈ stateValues state [], (10 : UInt8) ∉ value := by
  simp [stateValues, unbroken]

theorem extensionColumn_unbroken {state : LocalState} {stateExtension : Bytes}
    (column : extensionColumn state = some stateExtension) : (10 : UInt8) ∉ stateExtension := by
  unfold extensionColumn at column
  split at column
  · simp only [Option.some.injEq] at column
    simp [← column]
  · split at column
    · simp at column
    · exact extension_serialize_notMem column 10 (by decide) (by decide) (by decide)

theorem of_stateContent {path content : Bytes} {state : LocalState}
    (written : stateContent path state = .ok content) :
    ∃ stateExtension, extensionColumn state = some stateExtension ∧
      content = LineRecord.write (stateEntries state stateExtension) ∧
      content.length ≤ maximumStateBytes ∧ path ≠ [] ∧
      ∀ result, state.result = some result → checkPersistedResult state result = .ok () := by
  unfold stateContent at written
  split at written
  · simp at written
  · rename_i stateExtension column
    dsimp only at written
    split at written
    · simp at written
    · rename_i checked
      split at written
      · simp at written
      · rename_i fits
        simp only [Except.ok.injEq] at written
        subst written
        refine ⟨stateExtension, column, rfl, by omega, fun none => fits (.inl (by simp [none])), ?_⟩
        intro result present
        simpa [present] using checked

theorem version_of_read {state : LocalState} {stateExtension : Bytes}
    {values : List (Bytes × Bytes)}
    (read : LineRecord.read (LineRecord.write (stateEntries state stateExtension)) = some values) :
    LineRecord.get values (text "version") =
      if isMediaImport state.assignment then text "4" else text "3" := by
  have first : ∃ rest, stateEntries state stateExtension =
      (text "version", if isMediaImport state.assignment then text "4" else text "3") :: rest := by
    by_cases media : isMediaImport state.assignment = true
    · simp [stateEntries, stateKeys, stateValues, media, mediaImportKeys, extendedKeys, currentKeys,
        legacyKeys]
    · simp [stateEntries, stateKeys, stateValues, media, extendedKeys, currentKeys, legacyKeys]
  obtain ⟨rest, shape⟩ := first
  rw [shape] at read
  have readable : LineRecord.KeysReadable [text "version"] :=
    ⟨by decide, by decide, by decide, by decide⟩
  refine LineRecord.get_first_of_read _ rest values readable ?_ read
  dsimp only
  split <;> decide

/-- What `load` makes of the values of a file of either version that is still written. -/
theorem load_of_read {content : Option Bytes} {values : List (Bytes × Bytes)} {media : Bool}
    (read : readStateFile content = .ok values)
    (version : LineRecord.get values (text "version") = if media then text "4" else text "3") :
    load content =
      if LineRecord.exactKeys values (if media then mediaImportKeys else extendedKeys) = false then
        .error "command_state_invalid"
      else
        loadColumns (fun key => LineRecord.get values (text key)) true (!media) media := by
  unfold load
  simp only [read, version]
  cases media
  · simp [show (text "3" == text "1") = false from rfl, show (text "3" == text "2") = false from rfl,
      show (text "3" == text "4") = false from rfl]
  · simp [show (text "4" == text "1") = false from rfl, show (text "4" == text "2") = false from rfl,
      show (text "4" == text "3") = false from rfl]

theorem keysReadable_stateEntries (state : LocalState) (stateExtension : Bytes) :
    LineRecord.KeysReadable ((stateEntries state stateExtension).map Prod.fst) := by
  rw [stateEntries_keys]
  exact keysReadable_stateKeys state.assignment

theorem load_write (state : LocalState) (stateExtension : Bytes)
    (fits : (LineRecord.write (stateEntries state stateExtension)).length ≤ maximumStateBytes)
    (unbroken : ∀ value ∈ stateValues state stateExtension, (10 : UInt8) ∉ value) :
    load (some (LineRecord.write (stateEntries state stateExtension))) =
      loadColumns (stateValue state stateExtension) true (!isMediaImport state.assignment)
        (isMediaImport state.assignment) := by
  have read : LineRecord.read (LineRecord.write (stateEntries state stateExtension)) =
      some (stateEntries state stateExtension) := by
    refine LineRecord.read_write _ (keysReadable_stateEntries state stateExtension) ?_
    intro entry member
    refine unbroken entry.2 ?_
    rw [← stateEntries_values]
    exact List.mem_map_of_mem member
  have exact := LineRecord.exactKeys_self (stateEntries state stateExtension)
  rw [stateEntries_keys] at exact
  have file : readStateFile (some (LineRecord.write (stateEntries state stateExtension))) =
      .ok (stateEntries state stateExtension) := by
    simp only [readStateFile, read]
    rw [if_neg (by omega)]
  rw [load_of_read file (version_of_read read)]
  unfold stateKeys at exact
  rw [exact, if_neg (by simp)]
  rfl

theorem unbroken_of_load {state loaded : LocalState} {stateExtension : Bytes}
    (result : load (some (LineRecord.write (stateEntries state stateExtension))) = .ok loaded) :
    ∀ value ∈ stateValues state stateExtension, (10 : UInt8) ∉ value := by
  cases file : readStateFile (some (LineRecord.write (stateEntries state stateExtension))) with
  | error reason => simp [load, file] at result
  | ok values =>
    have read : LineRecord.read (LineRecord.write (stateEntries state stateExtension)) =
        some values := by
      unfold readStateFile at file
      dsimp only at file
      split at file
      · simp at file
      · split at file
        · simp at file
        · rename_i values' read
          simp only [Except.ok.injEq] at file
          rw [read, file]
    rw [load_of_read file (version_of_read read)] at result
    by_cases missing : LineRecord.exactKeys values (stateKeys state.assignment) = false
    · rw [stateKeys] at missing
      rw [if_pos missing] at result
      simp at result
    · have exact : LineRecord.exactKeys values
          ((stateEntries state stateExtension).map Prod.fst) = true := by
        rw [stateEntries_keys]
        exact eq_true_of_ne_false missing
      obtain ⟨-, unbroken⟩ := LineRecord.of_read_write _ _
        (keysReadable_stateEntries state stateExtension) read exact
      intro value member
      rw [← stateEntries_values] at member
      obtain ⟨entry, present, rfl⟩ := List.mem_map.mp member
      exact unbroken entry present

/-! ## From the columns to the state -/

def completedColumn (state : LocalState) : Int :=
  (state.result.map BackendAgentCommandResult.completedAt).getD 0

def numbersOf (state : LocalState) : StateNumbers :=
  { claim := state.assignment.claimEpoch
    generation := state.assignment.backendGeneration
    payloadVersion := state.assignment.payloadVersion
    assigned := state.assignment.assignedAt.toNat
    deadline := state.assignment.deadline.toNat
    received := state.receipt.receivedAt.toNat
    completed := (completedColumn state).toNat
    nativeSequence := state.nativeExecutionSequence }

theorem readStateNumbers_columns (state : LocalState) (stateExtension : Bytes) :
    readStateNumbers (stateValue state stateExtension) true = (do
      let claim ← stateNumber (decimal state.assignment.claimEpoch)
      let generation ← stateNumber (decimal state.assignment.backendGeneration)
      let payloadVersion ← stateNumber (decimal state.assignment.payloadVersion)
      let assigned ← stateNumber (signedDecimal state.assignment.assignedAt)
      let deadline ← stateNumber (signedDecimal state.assignment.deadline)
      let received ← stateNumber (signedDecimal state.receipt.receivedAt)
      let completed ← stateNumber (signedDecimal (completedColumn state))
      let nativeSequence ← stateNumber (decimal state.nativeExecutionSequence)
      some
        { claim, generation, payloadVersion, assigned, deadline, received, completed,
          nativeSequence }) := by
  have column := stateValue_eq state stateExtension
  have claim := column "claim_epoch" 7 rfl
  have generation := column "backend_generation" 12 rfl
  have payloadVersion := column "payload_version" 14 rfl
  have assigned := column "assigned_at" 18 rfl
  have deadline := column "deadline" 19 rfl
  have received := column "received_at" 21 rfl
  have completed := column "completed_at" 32 rfl
  have sequence := column "native_execution_sequence" 36 rfl
  rw [readStateNumbers, claim, generation, payloadVersion, assigned, deadline, received, completed,
    sequence]
  rfl

theorem readStateNumbers_written (state : LocalState) (stateExtension : Bytes)
    (storable : NumbersStorable state) :
    readStateNumbers (stateValue state stateExtension) true = some (numbersOf state) := by
  have completed : 0 ≤ completedColumn state ∧
      completedColumn state ≤ int64Max := by
    cases present : state.result with
    | none => simp [completedColumn, present]
    | some result => simpa [completedColumn, present] using storable.completed result present
  rw [readStateNumbers_columns, stateNumber_decimal _ storable.claim,
    stateNumber_decimal _ storable.generation, stateNumber_decimal _ storable.payloadVersion,
    stateNumber_signedDecimal _ storable.assigned.1 storable.assigned.2,
    stateNumber_signedDecimal _ storable.deadline.1 storable.deadline.2,
    stateNumber_signedDecimal _ storable.received.1 storable.received.2,
    stateNumber_signedDecimal _ completed.1 completed.2,
    stateNumber_decimal _ storable.nativeSequence]
  simp only [Option.bind_eq_bind, Option.bind_some]
  rfl

theorem of_readStateNumbers_written {state : LocalState} {stateExtension : Bytes}
    {numbers : StateNumbers}
    (read : readStateNumbers (stateValue state stateExtension) true = some numbers) :
    NumbersStorable state := by
  rw [readStateNumbers_columns] at read
  simp only [Option.bind_eq_bind, Option.bind_eq_some_iff] at read
  obtain ⟨claim, claimRead, generation, generationRead, version, versionRead, assigned,
    assignedRead, deadline, deadlineRead, received, receivedRead, completed, completedRead,
    sequence, sequenceRead, -⟩ := read
  obtain ⟨-, claimBound⟩ := of_stateNumber_decimal _ _ claimRead
  obtain ⟨-, generationBound⟩ := of_stateNumber_decimal _ _ generationRead
  obtain ⟨-, versionBound⟩ := of_stateNumber_decimal _ _ versionRead
  obtain ⟨-, sequenceBound⟩ := of_stateNumber_decimal _ _ sequenceRead
  have signed : ∀ (value : Int) (number : Nat), stateNumber (signedDecimal value) = some number →
      0 ≤ value ∧ value ≤ int64Max := by
    intro value number read
    obtain ⟨same, bounded⟩ := of_stateNumber_signedDecimal value number read
    omega
  refine ⟨claimBound, generationBound, versionBound, signed _ _ assignedRead,
    signed _ _ deadlineRead, signed _ _ receivedRead, ?_, sequenceBound⟩
  intro result present
  simpa [completedColumn, present] using signed _ _ completedRead

def bare (state : LocalState) : LocalState :=
  { restored state with result := none, stateExtension := none }

theorem readColumns_written (state : LocalState) (stateExtension : Bytes)
    (storable : NumbersStorable state) :
    readColumns (stateValue state stateExtension) true (numbersOf state) = bare state := by
  have column := stateValue_eq state stateExtension
  have assigned : (state.assignment.assignedAt.toNat : Int) = state.assignment.assignedAt :=
    Int.toNat_of_nonneg storable.assigned.1
  have deadline : (state.assignment.deadline.toNat : Int) = state.assignment.deadline :=
    Int.toNat_of_nonneg storable.deadline.1
  have received : (state.receipt.receivedAt.toNat : Int) = state.receipt.receivedAt :=
    Int.toNat_of_nonneg storable.received.1
  have assignment : readStateAssignment (stateValue state stateExtension) (numbersOf state) =
      { state.assignment with present := true } := by
    unfold readStateAssignment numbersOf
    rw [column "protocol_version" 1 rfl,
      column "request_id" 2 rfl,
      column "correlation_id" 3 rfl,
      column "operation_id" 4 rfl,
      column "job_id" 5 rfl,
      column "attempt_id" 6 rfl,
      column "command_id" 8 rfl,
      column "backend_id" 9 rfl,
      column "agent_id" 10 rfl,
      column "agent_instance_id" 11 rfl,
      column "command_type" 13 rfl,
      column "payload" 15 rfl,
      column "request_fingerprint" 16 rfl,
      column "verification_policy" 17 rfl]
    dsimp only
    rw [assigned, deadline]
    rfl
  have acknowledged : ∀ value : Bool, (boolText value == text "1") = value := by decide
  unfold readColumns
  rw [assignment, column "receipt_category" 20 rfl,
    column "receipt_reason" 22 rfl,
    column "receipt_acknowledged" 23 rfl,
    column "dispatch_state" 24 rfl,
    column "result_acknowledged" 26 rfl]
  dsimp only
  rw [if_pos rfl, if_pos rfl, if_pos rfl, if_pos rfl, if_pos rfl, if_pos rfl,
    column "native_capability_evidence" 33 rfl,
    column "plugin_instance_epoch" 34 rfl,
    column "probe_nonce" 35 rfl,
    column "native_receipt_evidence" 37 rfl,
    column "native_result_evidence" 38 rfl,
    column "native_readback_evidence" 39 rfl]
  have received' : ((numbersOf state).received : Int) = state.receipt.receivedAt := received
  rw [received']
  have receiptFlag : (((stateValues state stateExtension)[23]?.getD []) == text "1") =
      state.receiptAcknowledged := acknowledged state.receiptAcknowledged
  have resultFlag : (((stateValues state stateExtension)[26]?.getD []) == text "1") =
      state.resultAcknowledged := acknowledged state.resultAcknowledged
  rw [receiptFlag, resultFlag]
  rfl

theorem stateValue_extension (state : LocalState) (stateExtension : Bytes) :
    stateValue state stateExtension "state_extension" = stateExtension :=
  stateValue_eq state stateExtension "state_extension" 40 rfl

theorem stateValue_resultPresent (state : LocalState) (stateExtension : Bytes) :
    stateValue state stateExtension "result_present" = boolText state.result.isSome :=
  stateValue_eq state stateExtension "result_present" 25 rfl

theorem extensionColumn_restored {state : LocalState} {stateExtension : Bytes}
    (column : extensionColumn state = some stateExtension) :
    loadExtension stateExtension (bare state).assignment = .ok state.stateExtension := by
  unfold extensionColumn at column
  cases present : state.stateExtension with
  | none =>
    simp only [present, Option.some.injEq] at column
    simp [loadExtension, ← column]
  | some extension =>
    simp only [present] at column
    split at column
    · simp at column
    · rename_i supported
      have parsed : backendAgentCommandStateExtensionParse stateExtension
          (bare state).assignment = some extension :=
        @extension_parse_serialize _ (bare state).assignment _ column
      have fits : backendAgentCommandStateExtensionValidateSupported extension
          (bare state).assignment = true :=
        eq_true_of_ne_false supported
      have nonempty : stateExtension ≠ [] := by
        rintro rfl
        simp [backendAgentCommandStateExtensionParse] at parsed
      rw [loadExtension, if_neg nonempty, parsed]
      dsimp only
      rw [if_pos fits]

/-! ## The restored result -/

theorem mediaEvidence_restored {assignment : BackendAgentCommandAssignment} {evidence : Bytes}
    (media : isMediaImport assignment = true) (valid : validMediaEvidence assignment evidence = true) :
    (if assignment.commandType = mediaImportCommandType then
      validImportEvidenceForAssignment assignment evidence else validCleanupEvidence evidence) =
      true := by
  unfold validMediaEvidence at valid
  split
  · rename_i imported
    rwa [if_pos imported] at valid
  · rename_i notImport
    have readback : assignment.commandType = mediaImportReadbackCommandType := by
      simpa [isMediaImport, notImport] using media
    rwa [if_neg notImport, if_pos readback] at valid

theorem evidenceOf_checked {invalid conflict : String} {expected : Option Bytes}
    {result : BackendAgentCommandResult} (invalid' : String)
    (checked : checkResultEvidence invalid conflict expected result = .ok ()) :
    evidenceOf invalid' expected = .ok result.resultEvidence := by
  unfold checkResultEvidence at checked
  cases expected with
  | none => simp at checked
  | some evidence =>
    simp only at checked
    split at checked
    · simp at checked
    · rename_i agrees
      simp only [not_or, Decidable.not_not] at agrees
      rw [evidenceOf, if_neg agrees.1, agrees.2]

theorem of_checkPersistedResult {state : LocalState} {result : BackendAgentCommandResult}
    (checked : checkPersistedResult state result = .ok ()) :
    checkTimerResult state result = .ok () ∧
      validMediaEvidence state.assignment result.resultEvidence = true := by
  unfold checkPersistedResult at checked
  split at checked
  · simp at checked
  · rename_i timer
    split at checked
    · rename_i valid
      exact ⟨timer, valid⟩
    · simp at checked

def spelledResult (state : LocalState) (result : BackendAgentCommandResult) :
    BackendAgentCommandResult :=
  { reloadedResult state result with
    resultEvidence := if isMediaImport state.assignment then result.resultEvidence else [] }

def spelledState (state : LocalState) : LocalState :=
  { bare state with stateExtension := state.stateExtension }

theorem deleteExpired_restored {state : LocalState} {result : BackendAgentCommandResult}
    (delete : state.assignment.commandType = nativeTimerDeleteCommandType)
    (expired : deleteExpiredBeforeDispatch state result = true) :
    deleteExpiredBeforeDispatch (spelledState state) (spelledResult state result) = true ∧
      (spelledResult state result).resultEvidence = result.resultEvidence := by
  have notMedia : isMediaImport state.assignment = false := by
    rw [isMediaImport, delete]
    decide
  have noEvidence : (spelledResult state result).resultEvidence = [] := by
    simp [spelledResult, notMedia]
  simp only [deleteExpiredBeforeDispatch, Bool.and_eq_true, beq_iff_eq, List.isEmpty_iff,
    decide_eq_true_eq] at expired ⊢
  obtain ⟨⟨⟨⟨⟨⟨⟨⟨⟨⟨acknowledged, noExtension⟩, fresh⟩, -⟩, verification⟩, category⟩, error⟩,
    retry⟩, diagnostics⟩, empty⟩, late⟩ := expired
  rw [noEvidence, empty]
  exact ⟨⟨⟨⟨⟨⟨⟨⟨⟨⟨⟨acknowledged, noExtension⟩, fresh⟩, fresh⟩, verification⟩, category⟩, error⟩,
    retry⟩, diagnostics⟩, rfl⟩, late⟩, rfl⟩

theorem loadResultEvidence_restored {state : LocalState} {result : BackendAgentCommandResult}
    (checked : checkTimerResult state result = .ok ()) :
    loadResultEvidence (spelledState state) (spelledResult state result) =
      .ok (storedEvidence state.assignment result) := by
  have kind : (spelledState state).assignment.commandType = state.assignment.commandType := rfl
  have extension : (spelledState state).stateExtension = state.stateExtension := rfl
  unfold checkTimerResult at checked
  unfold loadResultEvidence
  dsimp only at checked ⊢
  rw [kind, extension]
  by_cases create : state.assignment.commandType = nativeTimerCreateCommandType
  · rw [if_pos create] at checked
    have stored : storedEvidence state.assignment result = result.resultEvidence :=
      if_pos (.inr (.inl create))
    rw [if_pos create, stored]
    exact evidenceOf_checked _ checked
  rw [if_neg create] at checked ⊢
  by_cases delete : state.assignment.commandType = nativeTimerDeleteCommandType
  · have stored : storedEvidence state.assignment result = result.resultEvidence :=
      if_pos (.inr (.inr (.inl delete)))
    rw [if_pos delete] at checked
    rw [if_pos delete, stored]
    by_cases absent : state.stateExtension.isNone = true
    · rw [if_pos absent] at checked ⊢
      by_cases expired : deleteExpiredBeforeDispatch state result = true
      · obtain ⟨again, evidence⟩ := deleteExpired_restored delete expired
        rw [if_pos again, evidence]
      · rw [if_neg expired] at checked
        simp at checked
    · rw [if_neg absent] at checked ⊢
      exact evidenceOf_checked _ checked
  rw [if_neg delete] at checked ⊢
  by_cases modify : state.assignment.commandType = nativeTimerUpdateCommandType ∨
      state.assignment.commandType = nativeTimerToggleCommandType
  · have stored : storedEvidence state.assignment result = result.resultEvidence :=
      if_pos (.inr (.inr (.inr modify)))
    rw [if_pos modify] at checked
    rw [if_pos modify, stored]
    exact evidenceOf_checked _ checked
  · have stored : storedEvidence state.assignment result =
        (spelledResult state result).resultEvidence := by
      simp [storedEvidence, spelledResult, create, delete, modify]
    rw [if_neg modify, stored]

theorem readResult_written {state : LocalState} {result : BackendAgentCommandResult}
    (stateExtension : Bytes) (present : state.result = some result)
    (time : 0 ≤ result.completedAt) :
    readResult (spelledState state) (stateValue state stateExtension) (numbersOf state).completed
      (isMediaImport state.assignment) = spelledResult state result := by
  have column := stateValue_eq state stateExtension
  have completed : ((numbersOf state).completed : Int) = result.completedAt := by
    simp [numbersOf, completedColumn, present, time]
  have shape : ∀ (index : Nat) (project : BackendAgentCommandResult → Bytes),
      (stateValues state stateExtension)[index]? = some ((state.result.map project).getD []) →
      ((stateValues state stateExtension)[index]?).getD [] = project result := by
    intro index project stands
    simp [stands, present]
  unfold readResult
  rw [completed, column "verification_state" 27 rfl, column "result_category" 28 rfl,
    column "error_category" 29 rfl, column "retry_classification" 30 rfl,
    column "bounded_diagnostics" 31 rfl, shape 27 (·.verificationState) rfl,
    shape 28 (·.resultCategory) rfl, shape 29 (·.errorCategory) rfl,
    shape 30 (·.retryClassification) rfl, shape 31 (·.boundedDiagnostics) rfl]
  unfold spelledResult
  cases media : isMediaImport state.assignment
  · rfl
  · rw [stateValue_mediaEvidence state stateExtension media, present]
    rfl

theorem loadResult_written {state : LocalState} {result : BackendAgentCommandResult}
    (stateExtension : Bytes) (present : state.result = some result)
    (time : 0 ≤ result.completedAt) (checked : checkPersistedResult state result = .ok ()) :
    loadResult (spelledState state) (stateValue state stateExtension) (numbersOf state).completed
        (isMediaImport state.assignment) =
      if backendAgentCommandValidResult (reloadedResult state result) then
        .ok (reloadedResult state result)
      else .error "command_state_invalid_result" := by
  obtain ⟨timer, media⟩ := of_checkPersistedResult checked
  have mediaValid : ¬ (isMediaImport state.assignment = true ∧
      (if (spelledState state).assignment.commandType = mediaImportCommandType then
        validImportEvidenceForAssignment (spelledState state).assignment
          (spelledResult state result).resultEvidence
      else validCleanupEvidence (spelledResult state result).resultEvidence) = false) := by
    rintro ⟨imported, refused⟩
    have evidence : (spelledResult state result).resultEvidence = result.resultEvidence := by
      simp [spelledResult, imported]
    rw [evidence] at refused
    have accepted := mediaEvidence_restored imported media
    exact absurd (accepted.symm.trans refused) (by decide)
  unfold loadResult
  dsimp only
  rw [readResult_written stateExtension present time, if_neg mediaValid,
    loadResultEvidence_restored timer]
  rfl

/-! ## The restored state -/

theorem loadColumns_written {state : LocalState} {stateExtension : Bytes}
    (column : extensionColumn state = some stateExtension)
    (storable : NumbersStorable state)
    (checked : ∀ result, state.result = some result → checkPersistedResult state result = .ok ()) :
    loadColumns (stateValue state stateExtension) true (!isMediaImport state.assignment)
        (isMediaImport state.assignment) =
      if backendAgentCommandValidAssignment state.assignment = false then
        .error "command_state_invalid_assignment"
      else if nativeEvidenceLoadable state = false then
        .error "command_state_invalid_native_evidence"
      else
        match state.result with
        | none => .ok (reloaded state)
        | some result =>
          if backendAgentCommandValidResult (reloadedResult state result) then
            .ok (reloaded state)
          else .error "command_state_invalid_result" := by
  have version : ¬ (isMediaImport state.assignment = true ∧
      isMediaImport (bare state).assignment = false) := by
    rintro ⟨media, notMedia⟩
    exact absurd (media.symm.trans notMedia) (by decide)
  have encoded : (if (!isMediaImport state.assignment || isMediaImport state.assignment) = true then
      stateValue state stateExtension "state_extension" else []) = stateExtension := by
    rw [stateValue_extension]
    simp
  unfold loadColumns
  rw [readStateNumbers_written state stateExtension storable]
  dsimp only
  rw [readColumns_written state stateExtension storable]
  have valid : backendAgentCommandValidAssignment (bare state).assignment =
      backendAgentCommandValidAssignment state.assignment := rfl
  rw [valid]
  by_cases invalid : backendAgentCommandValidAssignment state.assignment = false
  · rw [if_pos invalid, if_pos invalid]
  rw [if_neg invalid, if_neg invalid, if_neg version]
  have loadable : nativeEvidenceLoadable (bare state) = nativeEvidenceLoadable state := rfl
  rw [loadable]
  by_cases unloadable : nativeEvidenceLoadable state = false
  · rw [if_pos ⟨rfl, unloadable⟩, if_pos unloadable]
  rw [if_neg (fun both => unloadable both.2), if_neg unloadable, encoded,
    extensionColumn_restored column]
  dsimp only
  rw [stateValue_resultPresent,
    show ({ bare state with stateExtension := state.stateExtension } : LocalState) =
      spelledState state from rfl]
  cases present : state.result with
  | none =>
    have flag : boolText (none : Option BackendAgentCommandResult).isSome ≠ text "1" := by decide
    have noEvidence : ¬ (isMediaImport state.assignment = true ∧
        stateValue state stateExtension "media_import_recording_evidence" ≠ []) := by
      rintro ⟨media, evidence⟩
      exact evidence (by rw [stateValue_mediaEvidence state stateExtension media, present]; rfl)
    have whole : spelledState state = restored state := by
      simp [spelledState, bare, restored, present]
    rw [if_neg flag, if_neg noEvidence, whole]
    rfl
  | some result =>
    have flag : boolText (some result).isSome = text "1" := rfl
    have whole : restored state =
        { spelledState state with result := some (reloadedResult state result) } := by
      simp [spelledState, bare, restored, present]
    rw [if_pos flag, loadResult_written stateExtension present
      (storable.completed result present).1 (checked result present)]
    dsimp only
    by_cases valid : backendAgentCommandValidResult (reloadedResult state result) = true
    · rw [if_pos valid, if_pos valid, reloaded, whole]
      rfl
    · rw [if_neg valid, if_neg valid]

theorem load_of_reloadable {path content : Bytes} {state : LocalState}
    (written : stateContent path state = .ok content) (reloadable : Reloadable state) :
    load (some content) = .ok (reloaded state) := by
  obtain ⟨stateExtension, column, rfl, fits, -, checked⟩ := of_stateContent written
  have unbroken := (stateValues_unbroken_iff state stateExtension
    (extensionColumn_unbroken column)).mpr reloadable.unbroken
  rw [load_write state stateExtension fits unbroken,
    loadColumns_written column reloadable.numbers checked, reloadable.assignment,
    reloadable.nativeEvidence]
  simp only [Bool.true_eq_false, ↓reduceIte]
  split
  · rfl
  · rename_i result present
    rw [if_pos (reloadable.result result present)]

theorem of_load {path content : Bytes} {state loaded : LocalState}
    (written : stateContent path state = .ok content)
    (outcome : load (some content) = .ok loaded) : Reloadable state ∧ loaded = reloaded state := by
  obtain ⟨stateExtension, column, rfl, fits, -, checked⟩ := of_stateContent written
  have unbroken := unbroken_of_load outcome
  rw [load_write state stateExtension fits unbroken] at outcome
  have storable : NumbersStorable state := by
    cases read : readStateNumbers (stateValue state stateExtension) true with
    | none => simp [loadColumns, read] at outcome
    | some numbers => exact of_readStateNumbers_written read
  rw [loadColumns_written column storable checked] at outcome
  split at outcome
  · simp at outcome
  · rename_i valid
    split at outcome
    · simp at outcome
    · rename_i loadable
      refine ⟨⟨(stateValues_unbroken_iff state stateExtension
        (extensionColumn_unbroken column)).mp unbroken, storable, by simpa using valid,
        by simpa using loadable, ?_⟩, ?_⟩
      · intro result present
        rw [present] at outcome
        dsimp only at outcome
        split at outcome
        · assumption
        · simp at outcome
      · split at outcome
        · simpa using outcome.symm
        · split at outcome
          · simpa using outcome.symm
          · simp at outcome

end VdrSuite.Agent
