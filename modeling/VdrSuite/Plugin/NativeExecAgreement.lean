import VdrSuite.Plugin.NativeExecLine

/-! Which native timer commands reach the plugin unchanged. -/

set_option autoImplicit false

namespace VdrSuite.Plugin

open Library Library.Words Agent

/-! ## Creation -/

def createRequest (request : BackendAgentNativeTimerCreateTransportRequest) :
    SuiteBridgeNativeTimerCreateRequest :=
  { toNativeExecutionContext :=
      executionContext request.command.toNativeCommandEnvelope request.localStartingPersistedAt
    commandId := request.command.commandId
    requestFingerprint := request.command.requestFingerprint
    operationId := request.command.operationId
    operationRevision := request.command.operationRevision
    timerAssignmentId := request.command.timerAssignmentId
    expectedAssignmentRevision := request.command.expectedAssignmentRevision
    expectedIntentRevision := request.command.expectedIntentRevision
    assignmentEpoch := request.command.assignmentEpoch
    nativeTimerBindingId := request.command.nativeTimerBindingId
    expectedSpecificationFingerprint := request.command.expectedSpecificationFingerprint
    channelId := request.command.specification.channelId
    title := request.command.specification.title
    directory := request.command.specification.directory
    day := request.command.specification.day
    weekdays := request.command.specification.weekdays
    startTime := request.command.specification.startTime
    endTime := request.command.specification.endTime
    priority := request.command.specification.priority.toNat
    lifetime := request.command.specification.lifetime.toNat
    enabled := request.command.specification.enabled
    vps := request.command.specification.vps }

def receivedCreate (request : BackendAgentNativeTimerCreateTransportRequest) :
    Option SuiteBridgeNativeTimerCreateRequest :=
  (enclosed (text "PLUG suitebridge NTCREATE ") [13, 10]
    (executeNativeTimerCreateContract request)).bind NativeTimerCreate.parseExecute

/-- The creations that the plugin can read: no zero priority or lifetime, a short day, times of four
digits, and numbers of the signed range. -/
structure CreateReadable (request : BackendAgentNativeTimerCreateTransportRequest) : Prop where
  priority : 0 < request.command.specification.priority
  lifetime : 0 < request.command.specification.lifetime
  day : request.command.specification.day.length ≤ 64
  startTime : request.command.specification.startTime.length = 4
  endTime : request.command.specification.endTime.length = 4
  assignmentEpoch : request.command.assignmentEpoch ≤ int64Max
  numbers : NumbersFit int64Max request.command.toNativeCommandEnvelope
    request.localStartingPersistedAt

theorem receivedCreate_eq (request : BackendAgentNativeTimerCreateTransportRequest) :
    receivedCreate request = NativeTimerCreate.parseExecute (unwords (createTokens request)) := by
  rw [receivedCreate, executeNativeTimerCreateContract, enclosed_append, Option.bind_some]

theorem normalizedHhmm_eq {value : Bytes} (four : value.length = 4) : normalizedHhmm value = value := by
  simp [normalizedHhmm, four]

theorem length_of_normalizedHhmm_eq {value : Bytes} (short : value.length ≤ 4)
    (same : normalizedHhmm value = value) : value.length = 4 := by
  have length := congrArg List.length same
  simp only [normalizedHhmm, List.length_append, List.length_replicate] at length
  omega

theorem safeToken_mono {maximum larger : Nat} (le : maximum ≤ larger) {value : Bytes}
    (safe : safeToken maximum value = true) : safeToken larger value = true := by
  simp only [safeToken, Bool.and_eq_true, decide_eq_true_eq] at safe ⊢
  exact ⟨⟨safe.1.1, by omega⟩, safe.2⟩

theorem largestNumber_int64 : largestNumber int64Max = int64Max := by decide

theorem of_safeRequest {request : BackendAgentNativeTimerCreateTransportRequest}
    (safe : safeRequest request = true) :
    safeCommand (createRequest request).toSuiteBridgeNativeRequest = true ∧
    safeToken 512 request.command.requestFingerprint = true ∧
    safeToken 192 request.command.timerAssignmentId = true ∧
    safeToken 192 request.command.expectedAssignmentRevision = true ∧
    safeToken 192 request.command.expectedIntentRevision = true ∧
    safeToken 192 request.command.nativeTimerBindingId = true ∧
    0 < request.command.assignmentEpoch ∧
    NumbersPositive request.command.toNativeCommandEnvelope request.localStartingPersistedAt ∧
    backendAgentNativeTimerCreateSpecificationValid request.command.specification = true ∧
    request.command.expectedSpecificationFingerprint =
      backendAgentNativeTimerCreateSpecificationFingerprint request.command.specification := by
  simp only [safeRequest, Bool.and_eq_true, decide_eq_true_eq] at safe
  obtain ⟨⟨⟨⟨⟨⟨⟨⟨⟨⟨⟨⟨⟨⟨⟨⟨⟨⟨⟨valid, ordered⟩, command⟩, fingerprint⟩, operation⟩, revision⟩, assignment⟩,
    assignmentRevision⟩, intentRevision⟩, binding⟩, job⟩, attempt⟩, backend⟩, agent⟩, inst⟩,
    domain⟩, provider⟩, kind⟩, epoch⟩, capability⟩ := safe
  simp only [backendAgentNativeTimerCreateValidCommand, Bool.and_eq_true, decide_eq_true_eq,
    Bool.not_eq_true', List.isEmpty_eq_false_iff, beq_iff_eq, nativeTimerCreateExactProviderSelection,
    exactProviderSelection] at valid
  obtain ⟨⟨⟨⟨⟨⟨⟨⟨⟨⟨⟨⟨⟨⟨⟨⟨⟨⟨⟨⟨-, -⟩, -⟩, -⟩, -⟩, -⟩, -⟩, assignmentEpoch⟩, -⟩, nonempty⟩, expected⟩, -⟩,
    -⟩, claimEpoch⟩, -⟩, -⟩, -⟩, generation⟩, claimedAt⟩, ⟨⟨⟨selection, -⟩, -⟩, -⟩, -⟩, -⟩ := valid
  refine ⟨?_, safeToken_mono (by decide) fingerprint, assignment, assignmentRevision, intentRevision,
    binding, assignmentEpoch, ⟨claimEpoch, generation, claimedAt, ordered, selection⟩, ?_, expected⟩
  · simp only [safeCommand, safeContext, createRequest, executionContext, Bool.and_eq_true]
    exact ⟨⟨⟨command, operation⟩, revision⟩, ⟨⟨⟨⟨⟨⟨⟨⟨job, attempt⟩, backend⟩, agent⟩, inst⟩, domain⟩,
      provider⟩, kind⟩, epoch⟩, capability⟩
  · by_contra invalid
    rw [Bool.not_eq_true] at invalid
    exact nonempty (if_pos invalid)

theorem validRequest_createRequest {request : BackendAgentNativeTimerCreateTransportRequest}
    (safe : safeRequest request = true) (readable : CreateReadable request) :
    NativeTimerCreate.validRequest (createRequest request) = true := by
  obtain ⟨command, fingerprint, assignment, assignmentRevision, intentRevision, binding, -, -, valid,
    expected⟩ := of_safeRequest safe
  have printable := printable_of_valid valid
  have written : request.command.expectedSpecificationFingerprint =
      NativeTimerCreate.specificationFingerprint (createRequest request) := by
    rw [expected, backendAgentNativeTimerCreateSpecificationFingerprint, if_neg (by simp [valid])]
    simp only [NativeTimerCreate.specificationFingerprint, specificationFields, createRequest,
      normalizedHhmm_eq readable.startTime, normalizedHhmm_eq readable.endTime,
      signedDecimal_of_nonneg _ printable.priority.1, signedDecimal_of_nonneg _ printable.lifetime.1]
  have weekdays := printable.weekdays.1
  have title := printable.title.1
  have directory := printable.directory.1
  have start := readable.startTime
  have stop := readable.endTime
  simp only [NativeTimerCreate.validRequest, Bool.and_eq_true, decide_eq_true_eq, beq_iff_eq,
    Bool.not_eq_true', List.isEmpty_eq_false_iff]
  exact ⟨⟨⟨⟨⟨⟨⟨⟨⟨⟨⟨⟨⟨command, fingerprint⟩, assignment⟩, assignmentRevision⟩, intentRevision⟩, binding⟩,
    written⟩, printable.channelId.1⟩, title⟩, directory⟩, readable.day⟩, by
      show request.command.specification.weekdays.length ≤ 64; omega⟩, by
      show request.command.specification.startTime.length ≤ 16; omega⟩, by
      show request.command.specification.endTime.length ≤ 16; omega⟩

theorem lineWords_createTokens {request : BackendAgentNativeTimerCreateTransportRequest}
    (valid : NativeTimerCreate.validRequest (createRequest request) = true) :
    ∀ token ∈ createTokens request, LineWord token := by
  simp only [NativeTimerCreate.validRequest, safeCommand, Bool.and_eq_true] at valid
  obtain ⟨⟨⟨⟨⟨⟨⟨⟨⟨⟨⟨⟨⟨⟨⟨⟨command, operation⟩, revision⟩, context⟩, fingerprint⟩, assignment⟩,
    assignmentRevision⟩, intentRevision⟩, binding⟩, -⟩, -⟩, -⟩, -⟩, -⟩, -⟩, -⟩, -⟩ := valid
  have literals : LineWord (text "EXEC") ∧ LineWord (text "vdr-suite-native/1") ∧
      LineWord (text "vdr.timer.create") ∧ LineWord (text "1") := by
    refine ⟨?_, ?_, ?_, ?_⟩ <;> exact ⟨⟨by decide, by decide⟩, by decide⟩
  obtain ⟨exec, protocol, native, schema⟩ := literals
  simp only [createTokens, List.forall_mem_append, List.forall_mem_cons, List.not_mem_nil,
    false_imp_iff, implies_true, and_true, lineWord_decimal, lineWord_hexToken, true_and]
  exact ⟨⟨⟨exec, protocol, native, schema, lineWord_of_safeToken command,
    lineWord_of_safeToken fingerprint, lineWord_of_safeToken operation,
    lineWord_of_safeToken revision, lineWord_of_safeToken assignment,
    lineWord_of_safeToken assignmentRevision, lineWord_of_safeToken intentRevision,
    lineWord_of_safeToken binding⟩, lineWords_contextTokens context⟩,
    lineWords_specificationTokens _⟩

theorem printable_decimal (value : Nat) : ∀ byte ∈ decimal value, (32 : UInt8) ≤ byte := by
  intro byte member
  have digit := isDigit_of_mem_decimal value byte member
  simp only [isDigit, Bool.and_eq_true, decide_eq_true_eq] at digit
  exact UInt8.le_trans (show (32 : UInt8) ≤ 48 by decide) digit.1

theorem printable_record {fields : List Bytes}
    (printable : ∀ value ∈ fields, ∀ byte ∈ value, (32 : UInt8) ≤ byte) :
    ∀ byte ∈ Netstring.record fields, (32 : UInt8) ≤ byte := by
  intro byte member
  obtain ⟨value, present, inField⟩ := List.mem_flatMap.mp member
  simp only [Netstring.field, List.mem_append] at inField
  rcases inField with ((digit | colon) | content) | bar
  · exact printable_decimal _ byte digit
  · rw [List.mem_singleton.mp (show byte ∈ [58] from colon)]
    decide
  · exact printable value present byte content
  · rw [List.mem_singleton.mp (show byte ∈ [124] from bar)]
    decide

theorem field_length_le (value : Bytes) (short : value.length ≤ 9999) :
    (Netstring.field value).length ≤ value.length + 6 := by
  have digits := decimal_length_le value.length 3 (by omega)
  simp only [Netstring.field, text, List.length_append, List.length_map]
  have colon : ":".toList.length = 1 := rfl
  have bar : "|".toList.length = 1 := rfl
  omega

theorem printable_fingerprint {specification : BackendAgentNativeTimerCreateSpecification}
    (valid : backendAgentNativeTimerCreateSpecificationValid specification = true) :
    (backendAgentNativeTimerCreateSpecificationFingerprint specification).length ≤ 4096 ∧
    ∀ byte ∈ backendAgentNativeTimerCreateSpecificationFingerprint specification,
      (32 : UInt8) ≤ byte := by
  have printable := printable_of_valid valid
  have flag (value : Bool) : (Netstring.boolField value).length = 1 ∧
      ∀ byte ∈ Netstring.boolField value, (32 : UInt8) ≤ byte := by
    cases value <;> decide +kernel
  have numeral {value : Int} (range : 0 ≤ value ∧ value ≤ 99) :
      (signedDecimal value).length ≤ 2 ∧ ∀ byte ∈ signedDecimal value, (32 : UInt8) ≤ byte := by
    rw [signedDecimal_of_nonneg value range.1]
    exact ⟨decimal_length_le _ 1 (by omega), printable_decimal _⟩
  have time {value : Bytes} (clean : value.length ≤ 4 ∧ ∀ byte ∈ value, (32 : UInt8) ≤ byte) :
      (normalizedHhmm value).length ≤ 4 ∧ ∀ byte ∈ normalizedHhmm value, (32 : UInt8) ≤ byte := by
    refine ⟨by simp only [normalizedHhmm, List.length_append, List.length_replicate]; omega, ?_⟩
    intro byte member
    rcases List.mem_append.mp member with padding | given
    · rw [List.eq_of_mem_replicate padding]
      decide
    · exact clean.2 byte given
  have start := time printable.startTime
  have stop := time printable.endTime
  have priority := numeral printable.priority
  have lifetime := numeral printable.lifetime
  have enabled := flag specification.enabled
  have vps := flag specification.vps
  obtain ⟨-, channel, channelClean⟩ := printable.channelId
  obtain ⟨title, titleClean⟩ := printable.title
  obtain ⟨directory, directoryClean⟩ := printable.directory
  obtain ⟨day, dayClean⟩ := printable.day
  obtain ⟨weekdays, weekdaysClean⟩ := printable.weekdays
  rw [backendAgentNativeTimerCreateSpecificationFingerprint, if_neg (by simp [valid])]
  refine ⟨?_, ?_⟩
  · have heading : (text "native-timer-specification/1|").length = 29 := rfl
    simp only [Netstring.record, specificationFields, List.flatMap_cons, List.flatMap_nil,
      List.length_append, List.length_nil, heading]
    have channelField := field_length_le specification.channelId (by omega)
    have titleField := field_length_le specification.title (by omega)
    have directoryField := field_length_le specification.directory (by omega)
    have dayField := field_length_le specification.day (by omega)
    have weekdaysField := field_length_le specification.weekdays (by omega)
    have startField := field_length_le (normalizedHhmm specification.startTime) (by omega)
    have stopField := field_length_le (normalizedHhmm specification.endTime) (by omega)
    have priorityField := field_length_le (signedDecimal specification.priority) (by omega)
    have lifetimeField := field_length_le (signedDecimal specification.lifetime) (by omega)
    have enabledField := field_length_le (Netstring.boolField specification.enabled)
      (by omega)
    have vpsField := field_length_le (Netstring.boolField specification.vps) (by omega)
    omega
  · intro byte member
    rcases List.mem_append.mp member with heading | fields
    · have clean : ∀ byte ∈ text "native-timer-specification/1|", (32 : UInt8) ≤ byte := by
        decide +kernel
      exact clean byte heading
    · refine printable_record ?_ byte fields
      simp only [specificationFields, List.forall_mem_cons, List.not_mem_nil, false_imp_iff,
        implies_true, and_true]
      exact ⟨channelClean, titleClean, directoryClean, dayClean, weekdaysClean, start.2, stop.2,
        priority.2, lifetime.2, enabled.2, vps.2⟩

theorem parseExecute_createTokens {request : BackendAgentNativeTimerCreateTransportRequest}
    (safe : safeRequest request = true) (readable : CreateReadable request) :
    NativeTimerCreate.parseExecute (unwords (createTokens request)) =
      some (createRequest request) := by
  have valid := validRequest_createRequest safe readable
  obtain ⟨-, -, -, -, -, -, epoch, positive, specification, expected⟩ := of_safeRequest safe
  obtain ⟨fingerprintShort, fingerprintPrintable⟩ := printable_fingerprint specification
  rw [← expected] at fingerprintShort fingerprintPrintable
  have printable := printable_of_valid specification
  have words : split 48 (cString (unwords (createTokens request))) = createTokens request :=
    split_cString_unwords (by simp [createTokens, contextTokens, specificationTokens])
      (lineWords_createTokens valid)
  have numbers := readable.numbers
  rw [← largestNumber_int64] at numbers
  have priority := readable.priority
  have lifetime := readable.lifetime
  have priorityMax := printable.priority.2
  have lifetimeMax := printable.lifetime.2
  have field {value : Bytes} (short : value.length ≤ 1024)
      (clean : ∀ byte ∈ value, (32 : UInt8) ≤ byte) :
      NativeTimerCreate.hexValue NativeTimerCreate.maximumDecodedFieldBytes (hexToken value) =
        some value := decodeText_hexToken readsDigits_hexValue short clean
  have number {value : Nat} (positive : 0 < value) (bounded : value ≤ int64Max) :
      NativeTimerCreate.number (decimal value) = some value :=
    unsignedValue_fits (largestNumber_int64 ▸ bounded) positive
  have fingerprint : NativeTimerCreate.hexValue
      NativeTimerCreate.maximumDecodedSpecificationFingerprintBytes
      (hexToken request.command.expectedSpecificationFingerprint) =
        some request.command.expectedSpecificationFingerprint :=
    decodeText_hexToken readsDigits_hexValue fingerprintShort fingerprintPrintable
  have channelId := field (by have := printable.channelId.2.1; omega) printable.channelId.2.2
  have title := field printable.title.1 printable.title.2
  have directory := field printable.directory.1 printable.directory.2
  have day := field (by have := readable.day; omega) printable.day.2
  have weekdays := field (by have := printable.weekdays.1; omega) printable.weekdays.2
  have startTime := field (by have := readable.startTime; omega) printable.startTime.2
  have endTime := field (by have := readable.endTime; omega) printable.endTime.2
  have priorityRead : NativeTimerCreate.number (signedDecimal request.command.specification.priority)
      = some request.command.specification.priority.toNat := by
    rw [signedDecimal_of_nonneg _ printable.priority.1]
    exact number (by omega) (by unfold int64Max; omega)
  have lifetimeRead : NativeTimerCreate.number (signedDecimal request.command.specification.lifetime)
      = some request.command.specification.lifetime.toNat := by
    rw [signedDecimal_of_nonneg _ printable.lifetime.1]
    exact number (by omega) (by unfold int64Max; omega)
  rw [NativeTimerCreate.parseExecute, words]
  simp only [createTokens, List.cons_append, List.nil_append, drop_contextTokens,
    take_contextTokens, specificationTokens]
  rw [if_neg (by simp [NativeTimerCreate.operation]), number epoch readable.assignmentEpoch,
    fingerprint, parseContext_contextTokens positive numbers, channelId, title, directory, day,
    weekdays, startTime, endTime, priorityRead, lifetimeRead, booleanValue_flagToken,
    booleanValue_flagToken]
  exact if_pos valid

theorem of_parseExecute_create {option : Bytes} {request : SuiteBridgeNativeTimerCreateRequest}
    (read : NativeTimerCreate.parseExecute option = some request) :
    NativeTimerCreate.validRequest request = true ∧ 0 < request.priority ∧ 0 < request.lifetime ∧
    request.assignmentEpoch ≤ int64Max ∧
    ∃ tokens, parseContext int64Max tokens = some request.toNativeExecutionContext := by
  unfold NativeTimerCreate.parseExecute at read
  split at read
  · split at read
    · split at read
      · cases read
      · obtain ⟨epoch, epochRead, read⟩ := Option.bind_eq_some_iff.mp read
        obtain ⟨fingerprint, -, read⟩ := Option.bind_eq_some_iff.mp read
        obtain ⟨context, contextRead, read⟩ := Option.bind_eq_some_iff.mp read
        obtain ⟨channelId, -, read⟩ := Option.bind_eq_some_iff.mp read
        obtain ⟨title, -, read⟩ := Option.bind_eq_some_iff.mp read
        obtain ⟨directory, -, read⟩ := Option.bind_eq_some_iff.mp read
        obtain ⟨day, -, read⟩ := Option.bind_eq_some_iff.mp read
        obtain ⟨weekdays, -, read⟩ := Option.bind_eq_some_iff.mp read
        obtain ⟨startTime, -, read⟩ := Option.bind_eq_some_iff.mp read
        obtain ⟨endTime, -, read⟩ := Option.bind_eq_some_iff.mp read
        obtain ⟨priority, priorityRead, read⟩ := Option.bind_eq_some_iff.mp read
        obtain ⟨lifetime, lifetimeRead, read⟩ := Option.bind_eq_some_iff.mp read
        obtain ⟨enabled, -, read⟩ := Option.bind_eq_some_iff.mp read
        obtain ⟨vps, -, checked⟩ := Option.bind_eq_some_iff.mp read
        dsimp only at checked
        split at checked
        · next valid =>
          cases checked
          obtain ⟨epochBounded, -, -⟩ := of_unsignedValue (by decide) epochRead
          obtain ⟨-, -, priorityPositive⟩ := of_unsignedValue (by decide) priorityRead
          obtain ⟨-, -, lifetimePositive⟩ := of_unsignedValue (by decide) lifetimeRead
          exact ⟨valid, priorityPositive rfl, lifetimePositive rfl, epochBounded, _, contextRead⟩
        · cases checked
    · cases read
  · cases read

theorem createReadable_of_parseExecute {request : BackendAgentNativeTimerCreateTransportRequest}
    (safe : safeRequest request = true) {option : Bytes}
    (read : NativeTimerCreate.parseExecute option = some (createRequest request)) :
    CreateReadable request := by
  obtain ⟨-, -, -, -, -, -, -, -, specification, expected⟩ := of_safeRequest safe
  have printable := printable_of_valid specification
  obtain ⟨valid, priority, lifetime, epoch, tokens, context⟩ := of_parseExecute_create read
  simp only [NativeTimerCreate.validRequest, Bool.and_eq_true, decide_eq_true_eq, beq_iff_eq] at valid
  obtain ⟨⟨⟨⟨⟨⟨⟨⟨-, written⟩, -⟩, -⟩, -⟩, day⟩, -⟩, -⟩, -⟩ := valid
  have fields : specificationFields request.command.specification =
      [request.command.specification.channelId, request.command.specification.title,
        request.command.specification.directory, request.command.specification.day,
        request.command.specification.weekdays, request.command.specification.startTime,
        request.command.specification.endTime,
        decimal request.command.specification.priority.toNat,
        decimal request.command.specification.lifetime.toNat,
        Netstring.boolField request.command.specification.enabled,
        Netstring.boolField request.command.specification.vps] := by
    have agent : request.command.expectedSpecificationFingerprint =
        text "native-timer-specification/1|" ++
          Netstring.record (specificationFields request.command.specification) := by
      rw [expected, backendAgentNativeTimerCreateSpecificationFingerprint,
        if_neg (by simp [specification])]
    exact Netstring.record_injective (List.append_cancel_left (agent.symm.trans written))
  simp only [specificationFields, List.cons.injEq] at fields
  obtain ⟨-, -, -, -, -, start, stop, -⟩ := fields
  have numbers := numbersFit_of_parseContext (by decide) context
  rw [largestNumber_int64] at numbers
  exact
    { priority := by
        have : 0 < request.command.specification.priority.toNat := priority
        omega
      lifetime := by
        have : 0 < request.command.specification.lifetime.toNat := lifetime
        omega
      day := day
      startTime := length_of_normalizedHhmm_eq printable.startTime.1 start
      endTime := length_of_normalizedHhmm_eq printable.endTime.1 stop
      assignmentEpoch := epoch
      numbers := numbers }

theorem receivedCreate_iff {request : BackendAgentNativeTimerCreateTransportRequest}
    (safe : safeRequest request = true) :
    receivedCreate request = some (createRequest request) ↔ CreateReadable request := by
  rw [receivedCreate_eq]
  exact ⟨createReadable_of_parseExecute safe, parseExecute_createTokens safe⟩

/-! ## Modification -/

def wireKind : BackendAgentNativeTimerModifyKind → SuiteBridgeNativeTimerModifyKind
  | .update => .update
  | .toggle => .toggle

def modifyRequest (request : BackendAgentNativeTimerModifyTransportRequest) :
    SuiteBridgeNativeTimerModifyRequest :=
  { toNativeExecutionContext :=
      executionContext request.command.toNativeCommandEnvelope request.localStartingPersistedAt
    kind := wireKind request.command.kind
    commandId := request.command.commandId
    requestFingerprint := request.command.requestFingerprint
    operationId := request.command.operationId
    operationRevision := request.command.operationRevision
    nativeTimerBindingId := request.command.nativeTimerBindingId
    expectedBindingRevision := request.command.expectedBindingRevision
    expectedNativeTimerFingerprint := request.command.expectedCurrentFingerprint
    timerAssignmentId := request.command.timerAssignmentId
    backendNativeTimerId := request.command.backendNativeTimerId
    channelId := request.command.specification.channelId
    title := request.command.specification.title
    directory := request.command.specification.directory
    day := request.command.specification.day
    weekdays := request.command.specification.weekdays
    startTime := request.command.specification.startTime
    endTime := request.command.specification.endTime
    priority := request.command.specification.priority.toNat
    lifetime := request.command.specification.lifetime.toNat
    enabled := request.command.specification.enabled
    vps := request.command.specification.vps }

def receivedModify (request : BackendAgentNativeTimerModifyTransportRequest) :
    Option SuiteBridgeNativeTimerModifyRequest :=
  (enclosed (text "PLUG suitebridge NTMOD ") [13, 10]
    (executeNativeTimerModifyContract request)).bind NativeTimerModify.parseExecute

def wireIdentities (command : BackendAgentNativeTimerModifyCommand) : List Bytes :=
  [command.commandId, command.requestFingerprint, command.operationId, command.operationRevision,
    command.nativeTimerBindingId, command.expectedBindingRevision, command.timerAssignmentId,
    command.backendNativeTimerId, command.jobId, command.attemptId, command.agentId,
    command.agentInstanceId]

/-- The modifications that the plugin can read: times of four digits, numbers of at most nineteen,
and identities without blanks and other foreign bytes. -/
structure ModifyReadable (request : BackendAgentNativeTimerModifyTransportRequest) : Prop where
  startTime : request.command.specification.startTime.length = 4
  endTime : request.command.specification.endTime.length = 4
  identities : ∀ identity ∈ wireIdentities request.command, identity.all isIdentifierByte = true
  numbers : NumbersFit 9999999999999999999 request.command.toNativeCommandEnvelope
    request.localStartingPersistedAt

theorem receivedModify_eq (request : BackendAgentNativeTimerModifyTransportRequest) :
    receivedModify request = NativeTimerModify.parseExecute (unwords (modifyTokens request)) := by
  rw [receivedModify, executeNativeTimerModifyContract, enclosed_append, Option.bind_some]

theorem largestNumber_uint64 : largestNumber Netstring.uint64Max = 9999999999999999999 := by decide

theorem safeToken_of_boundedIdentity {maximum : Nat} {value : Bytes}
    (bounded : boundedIdentity maximum value = true)
    (identifier : value.all isIdentifierByte = true) : safeToken maximum value = true := by
  simp only [safeToken, boundedIdentity, Bool.and_eq_true] at bounded ⊢
  exact ⟨bounded, identifier⟩

theorem safeToken_of_safeIdentifier {value : Bytes} (safe : safeIdentifier value = true) :
    safeToken 192 value = true :=
  safeToken_mono (by decide) (show safeToken 128 value = true from safe)

theorem hexValue_isSome (byte : UInt8) : (Hex.hexValue byte).isSome = isHexDigit byte := by
  simp only [Hex.hexValue, isHexDigit]
  split
  · next digit => simp [digit.1, digit.2]
  · next other =>
    split
    · next letter => simp [letter.1, letter.2]
    · next foreign => simp_all

theorem validTime_iff {value : Bytes} (four : value.length = 4) :
    NativeTimerModify.validTime value = validHhmm value := by
  have shape : ¬ (value.isEmpty = true ∨ value.length > 4 ∨ value.all isDigit = false) ↔
      ¬ value.all isDigit = false := by
    have nonempty : value.isEmpty = false := by
      rw [List.isEmpty_eq_false_iff]
      rintro rfl
      cases four
    simp [nonempty, four]
  unfold NativeTimerModify.validTime validHhmm
  by_cases digits : value.all isDigit = false
  · rw [if_pos digits, if_pos (.inr (.inr digits))]
  · rw [normalizedHhmm_eq four]
    exact (if_neg digits).trans (if_neg (shape.mpr digits)).symm

theorem length_of_validTime {value : Bytes} (valid : NativeTimerModify.validTime value = true) :
    value.length = 4 := by
  unfold NativeTimerModify.validTime at valid
  split at valid
  · cases valid
  · split at valid
    · next four =>
      have length := congrArg List.length four
      simpa using length
    · cases valid

theorem of_modifyRequestValid {request : BackendAgentNativeTimerModifyTransportRequest}
    (valid : modifyRequestValid request = true)
    (identities : ∀ identity ∈ wireIdentities request.command,
      identity.all isIdentifierByte = true) :
    safeCommand (modifyRequest request).toSuiteBridgeNativeRequest = true ∧
    safeToken 512 request.command.requestFingerprint = true ∧
    safeToken 192 request.command.nativeTimerBindingId = true ∧
    safeToken 192 request.command.expectedBindingRevision = true ∧
    safeToken 192 request.command.timerAssignmentId = true ∧
    safeToken 192 request.command.backendNativeTimerId = true := by
  simp only [modifyRequestValid, backendAgentNativeTimerModifyValidCommand, Bool.and_eq_true,
    decide_eq_true_eq, beq_iff_eq, nativeTimerModifyExactProviderSelection, exactProviderSelection,
    backendAgentLocalProviderValidSelection] at valid
  obtain ⟨⟨⟨⟨⟨⟨⟨⟨⟨⟨⟨⟨⟨⟨⟨⟨⟨⟨⟨⟨⟨⟨⟨command, fingerprint⟩, operation⟩, revision⟩, assignment⟩, -⟩, -⟩, -⟩,
    binding⟩, bindingRevision⟩, timer⟩, -⟩, -⟩, -⟩, job⟩, attempt⟩, -⟩, -⟩, agent⟩, inst⟩, -⟩, -⟩,
    ⟨⟨⟨⟨selection, domain⟩, provider⟩, kind⟩, capability⟩, backend⟩, -⟩ := valid
  obtain ⟨⟨⟨⟨⟨⟨⟨⟨backendSafe, domainSafe⟩, providerSafe⟩, -⟩, -⟩, epochSafe⟩, -⟩, -⟩, capabilitySafe⟩ :=
    selection
  simp only [wireIdentities, List.forall_mem_cons, List.not_mem_nil, false_imp_iff, implies_true,
    and_true] at identities
  obtain ⟨commandText, fingerprintText, operationText, revisionText, bindingText,
    bindingRevisionText, assignmentText, timerText, jobText, attemptText, agentText, instText⟩ :=
    identities
  have kindSafe : safeToken 192 request.command.localProviderSelection.providerKind = true := by
    rw [kind]
    decide
  refine ⟨?_, safeToken_of_boundedIdentity fingerprint fingerprintText,
    safeToken_of_boundedIdentity binding bindingText,
    safeToken_of_boundedIdentity bindingRevision bindingRevisionText,
    safeToken_of_boundedIdentity assignment assignmentText,
    safeToken_of_boundedIdentity timer timerText⟩
  simp only [safeCommand, safeContext, modifyRequest, executionContext, Bool.and_eq_true]
  exact ⟨⟨⟨safeToken_of_boundedIdentity command commandText,
    safeToken_of_boundedIdentity operation operationText⟩,
    safeToken_of_boundedIdentity revision revisionText⟩,
    ⟨⟨⟨⟨⟨⟨⟨⟨safeToken_of_boundedIdentity job jobText,
      safeToken_of_boundedIdentity attempt attemptText⟩,
      backend ▸ safeToken_of_safeIdentifier backendSafe⟩,
      safeToken_of_boundedIdentity agent agentText⟩,
      safeToken_of_boundedIdentity inst instText⟩,
      safeToken_of_safeIdentifier domainSafe⟩, safeToken_of_safeIdentifier providerSafe⟩,
      kindSafe⟩, safeToken_of_safeIdentifier epochSafe⟩, safeToken_of_safeIdentifier capabilitySafe⟩

theorem contents_of_modifyRequestValid {request : BackendAgentNativeTimerModifyTransportRequest}
    (valid : modifyRequestValid request = true) :
    backendAgentNativeTimerDeleteFingerprintTokenValid
      request.command.expectedCurrentFingerprint = true ∧
    NumbersPositive request.command.toNativeCommandEnvelope request.localStartingPersistedAt ∧
    backendAgentNativeTimerCreateSpecificationValid request.command.specification = true := by
  simp only [modifyRequestValid, backendAgentNativeTimerModifyValidCommand, Bool.and_eq_true,
    decide_eq_true_eq, nativeTimerModifyExactProviderSelection, exactProviderSelection] at valid
  obtain ⟨⟨⟨⟨⟨⟨⟨⟨⟨⟨⟨⟨⟨-, fingerprint⟩, specification⟩, -⟩, -⟩, -⟩, claimEpoch⟩, -⟩, -⟩, -⟩, generation⟩,
    claimedAt⟩, ⟨⟨⟨⟨selection, -⟩, -⟩, -⟩, -⟩, -⟩, ordered⟩ := valid
  exact ⟨fingerprint, ⟨claimEpoch, generation, claimedAt, ordered, selection⟩, specification⟩

theorem validRequest_modifyRequest {request : BackendAgentNativeTimerModifyTransportRequest}
    (valid : modifyRequestValid request = true) (readable : ModifyReadable request) :
    NativeTimerModify.validRequest (modifyRequest request) = true := by
  obtain ⟨command, fingerprint, binding, bindingRevision, assignment, timer⟩ :=
    of_modifyRequestValid valid readable.identities
  obtain ⟨current, -, specification⟩ := contents_of_modifyRequestValid valid
  have native : safeNativeFingerprint request.command.expectedCurrentFingerprint = true := by
    simp only [safeNativeFingerprint, hexValue_isSome]
    exact current
  simp only [backendAgentNativeTimerCreateSpecificationValid, Bool.and_eq_true] at specification
  obtain ⟨⟨⟨⟨⟨⟨⟨⟨⟨⟨⟨⟨channel, -⟩, -⟩, -⟩, -⟩, length⟩, start⟩, stop⟩, -⟩, -⟩, -⟩, -⟩, weekdays⟩ :=
    specification
  have days : NativeTimerModify.validWeekdays request.command.specification.weekdays = true := by
    simp only [NativeTimerModify.validWeekdays, Bool.and_eq_true]
    refine ⟨length, ?_⟩
    simpa only [isAlphabetic, Bool.or_assoc] using weekdays
  rw [← validTime_iff readable.startTime] at start
  rw [← validTime_iff readable.endTime] at stop
  simp only [NativeTimerModify.validRequest, Bool.and_eq_true]
  exact ⟨⟨⟨⟨⟨⟨⟨⟨⟨⟨command, fingerprint⟩, binding⟩, bindingRevision⟩, native⟩, assignment⟩, timer⟩,
    channel⟩, days⟩, start⟩, stop⟩

theorem lineWord_of_nativeFingerprint {value : Bytes} (safe : safeNativeFingerprint value = true) :
    LineWord value := by
  simp only [safeNativeFingerprint, Bool.and_eq_true, beq_iff_eq, List.isPrefixOf_iff_prefix] at safe
  obtain ⟨⟨length, digest, rfl⟩, digits⟩ := safe
  rw [List.drop_left' (by decide), List.all_eq_true] at digits
  have foreign (byte : UInt8) (absent : byte ∉ text "sha256:") (odd : Hex.hexValue byte = none) :
      byte ∉ text "sha256:" ++ digest := by
    intro member
    rcases List.mem_append.mp member with heading | digit
    · exact absent heading
    · have some := digits byte digit
      rw [odd] at some
      cases some
  exact ⟨⟨by simp [text], foreign 32 (by decide) (by decide)⟩,
    foreign 0 (by decide) (by decide)⟩

theorem lineWords_modifyTokens {request : BackendAgentNativeTimerModifyTransportRequest}
    (valid : NativeTimerModify.validRequest (modifyRequest request) = true) :
    ∀ token ∈ modifyTokens request, LineWord token := by
  simp only [NativeTimerModify.validRequest, safeCommand, Bool.and_eq_true] at valid
  obtain ⟨⟨⟨⟨⟨⟨⟨⟨⟨⟨⟨⟨⟨command, operation⟩, revision⟩, context⟩, fingerprint⟩, binding⟩, bindingRevision⟩,
    native⟩, assignment⟩, timer⟩, -⟩, -⟩, -⟩, -⟩ := valid
  have literals : LineWord (text "EXEC") ∧ LineWord (text "vdr-suite-native/1") ∧
      LineWord (text "1") := by
    refine ⟨?_, ?_, ?_⟩ <;> exact ⟨⟨by decide, by decide⟩, by decide⟩
  obtain ⟨exec, protocol, schema⟩ := literals
  have capability : LineWord (backendAgentNativeTimerModifyCapability request.command.kind) := by
    cases request.command.kind <;> exact ⟨⟨by decide, by decide⟩, by decide⟩
  simp only [modifyTokens, List.forall_mem_append, List.forall_mem_cons, List.not_mem_nil,
    false_imp_iff, implies_true, and_true]
  exact ⟨⟨⟨exec, protocol, capability, schema, lineWord_of_safeToken command,
    lineWord_of_safeToken fingerprint, lineWord_of_safeToken operation,
    lineWord_of_safeToken revision, lineWord_of_safeToken binding,
    lineWord_of_safeToken bindingRevision, lineWord_of_nativeFingerprint native,
    lineWord_of_safeToken assignment, lineWord_of_safeToken timer⟩,
    lineWords_specificationTokens _⟩, lineWords_contextTokens context⟩

theorem smallValue_signedDecimal {value : Int} (range : 0 ≤ value ∧ value ≤ 99) :
    NativeTimerModify.smallValue (signedDecimal value) = some value.toNat := by
  have read : unsignedValue Netstring.uint64Max false (decimal value.toNat) = some value.toNat :=
    unsignedValue_decimal (by have : (99 : Nat) ≤ Netstring.uint64Max := by decide
                              omega) (by omega) (by simp)
  rw [signedDecimal_of_nonneg value range.1, NativeTimerModify.smallValue, read]
  exact if_neg (by omega)

theorem parseKind_capability (kind : BackendAgentNativeTimerModifyKind) :
    NativeTimerModify.parseKind (backendAgentNativeTimerModifyCapability kind) =
      some (wireKind kind) := by
  cases kind <;> decide

theorem parseExecute_modifyTokens {request : BackendAgentNativeTimerModifyTransportRequest}
    (valid : modifyRequestValid request = true) (readable : ModifyReadable request) :
    NativeTimerModify.parseExecute (unwords (modifyTokens request)) =
      some (modifyRequest request) := by
  have wellFormed := validRequest_modifyRequest valid readable
  obtain ⟨-, positive, specification⟩ := contents_of_modifyRequestValid valid
  have printable := printable_of_valid specification
  have words : split 48 (cString (unwords (modifyTokens request))) = modifyTokens request :=
    split_cString_unwords (by simp [modifyTokens, contextTokens, specificationTokens])
      (lineWords_modifyTokens wellFormed)
  have numbers := readable.numbers
  rw [← largestNumber_uint64] at numbers
  have field {maximum : Nat} {value : Bytes} (short : value.length ≤ maximum)
      (clean : ∀ byte ∈ value, (32 : UInt8) ≤ byte) :
      decodeText anyCaseNibble maximum (hexToken value) = some value :=
    decodeText_hexToken readsDigits_anyCaseNibble short clean
  have channelId := @field 192 _ (by have := printable.channelId.2.1; omega)
    printable.channelId.2.2
  have title := field printable.title.1 printable.title.2
  have directory := field printable.directory.1 printable.directory.2
  have day := @field 192 _ (by have := printable.day.1; omega) printable.day.2
  have weekdays := @field 16 _ (by have := printable.weekdays.1; omega)
    printable.weekdays.2
  have startTime := @field 8 _ (by have := readable.startTime; omega)
    printable.startTime.2
  have endTime := @field 8 _ (by have := readable.endTime; omega) printable.endTime.2
  rw [NativeTimerModify.parseExecute, words]
  simp only [modifyTokens, List.cons_append, List.nil_append, specificationTokens]
  rw [if_neg (by simp), parseKind_capability, channelId, title, directory, day, weekdays, startTime,
    endTime, smallValue_signedDecimal printable.priority, smallValue_signedDecimal printable.lifetime,
    booleanValue_flagToken, booleanValue_flagToken, parseContext_contextTokens positive numbers]
  exact if_pos wellFormed

theorem of_parseExecute_modify {option : Bytes} {request : SuiteBridgeNativeTimerModifyRequest}
    (read : NativeTimerModify.parseExecute option = some request) :
    NativeTimerModify.validRequest request = true ∧
    ∃ tokens, parseContext Netstring.uint64Max tokens = some request.toNativeExecutionContext := by
  unfold NativeTimerModify.parseExecute at read
  split at read
  · split at read
    · cases read
    · obtain ⟨kind, -, read⟩ := Option.bind_eq_some_iff.mp read
      obtain ⟨channelId, -, read⟩ := Option.bind_eq_some_iff.mp read
      obtain ⟨title, -, read⟩ := Option.bind_eq_some_iff.mp read
      obtain ⟨directory, -, read⟩ := Option.bind_eq_some_iff.mp read
      obtain ⟨day, -, read⟩ := Option.bind_eq_some_iff.mp read
      obtain ⟨weekdays, -, read⟩ := Option.bind_eq_some_iff.mp read
      obtain ⟨startTime, -, read⟩ := Option.bind_eq_some_iff.mp read
      obtain ⟨endTime, -, read⟩ := Option.bind_eq_some_iff.mp read
      obtain ⟨priority, -, read⟩ := Option.bind_eq_some_iff.mp read
      obtain ⟨lifetime, -, read⟩ := Option.bind_eq_some_iff.mp read
      obtain ⟨enabled, -, read⟩ := Option.bind_eq_some_iff.mp read
      obtain ⟨vps, -, read⟩ := Option.bind_eq_some_iff.mp read
      obtain ⟨context, contextRead, checked⟩ := Option.bind_eq_some_iff.mp read
      dsimp only at checked
      split at checked
      · next valid =>
        cases checked
        exact ⟨valid, _, contextRead⟩
      · cases checked
  · cases read

theorem identifier_of_safeToken {maximum : Nat} {value : Bytes}
    (safe : safeToken maximum value = true) : value.all isIdentifierByte = true := by
  simp only [safeToken, Bool.and_eq_true] at safe
  exact safe.2

theorem modifyReadable_of_parseExecute {request : BackendAgentNativeTimerModifyTransportRequest}
    {option : Bytes}
    (read : NativeTimerModify.parseExecute option = some (modifyRequest request)) :
    ModifyReadable request := by
  obtain ⟨valid, tokens, context⟩ := of_parseExecute_modify read
  have numbers := numbersFit_of_parseContext (by decide) context
  rw [largestNumber_uint64] at numbers
  simp only [NativeTimerModify.validRequest, safeCommand, safeContext, Bool.and_eq_true] at valid
  obtain ⟨⟨⟨⟨⟨⟨⟨⟨⟨⟨⟨⟨⟨command, operation⟩, revision⟩, context⟩, fingerprint⟩, binding⟩, bindingRevision⟩,
    -⟩, assignment⟩, timer⟩, -⟩, -⟩, start⟩, stop⟩ := valid
  obtain ⟨⟨⟨⟨⟨⟨⟨⟨⟨job, attempt⟩, -⟩, agent⟩, inst⟩, -⟩, -⟩, -⟩, -⟩, -⟩ := context
  refine ⟨length_of_validTime start, length_of_validTime stop, ?_, numbers⟩
  simp only [wireIdentities, List.forall_mem_cons, List.not_mem_nil, false_imp_iff, implies_true,
    and_true]
  exact ⟨identifier_of_safeToken command, identifier_of_safeToken fingerprint,
    identifier_of_safeToken operation, identifier_of_safeToken revision,
    identifier_of_safeToken binding, identifier_of_safeToken bindingRevision,
    identifier_of_safeToken assignment, identifier_of_safeToken timer, identifier_of_safeToken job,
    identifier_of_safeToken attempt, identifier_of_safeToken agent, identifier_of_safeToken inst⟩

theorem receivedModify_iff {request : BackendAgentNativeTimerModifyTransportRequest}
    (valid : modifyRequestValid request = true) :
    receivedModify request = some (modifyRequest request) ↔ ModifyReadable request := by
  rw [receivedModify_eq]
  exact ⟨modifyReadable_of_parseExecute, parseExecute_modifyTokens valid⟩

/-! ## Both commands -/

/-- A command that the agent sends reaches the plugin unchanged exactly when it is readable. -/
theorem native_exec_lines_agree (creation : BackendAgentNativeTimerCreateTransportRequest)
    (modification : BackendAgentNativeTimerModifyTransportRequest) :
    (safeRequest creation = true →
      (receivedCreate creation = some (createRequest creation) ↔ CreateReadable creation)) ∧
    (modifyRequestValid modification = true →
      (receivedModify modification = some (modifyRequest modification) ↔
        ModifyReadable modification)) :=
  ⟨receivedCreate_iff, receivedModify_iff⟩

def sampleSelection (capability : String) : BackendAgentLocalProviderSelection :=
  { backendId := text "backend_1", authorityDomain := text "vdr.timer"
    providerId := text "suitebridge:local", providerKind := text "suitebridge"
    ownershipGeneration := 1, providerInstanceEpoch := text "pie_1", providerGeneration := 1
    capabilityRevision := 1, requiredCapability := text capability }

def sampleSpecification (priority lifetime : Int) : BackendAgentNativeTimerCreateSpecification :=
  { channelId := text "S19.2E-1-1019-10301", title := text "Tagesschau", day := text "2026-10-04"
    startTime := text "2000", endTime := text "2015", priority, lifetime }

def sampleCreation (priority lifetime : Int) : BackendAgentNativeTimerCreateTransportRequest :=
  { command :=
      { commandId := text "cmd_1", requestFingerprint := text "fp_1", operationId := text "op_1"
        operationRevision := text "oprev_1", jobId := text "job_1", attemptId := text "attempt_1"
        claimEpoch := 1, backendId := text "backend_1", agentId := text "agent_1"
        agentInstanceId := text "instance_1", backendGeneration := 1, controlPlaneClaimedAt := 100
        localProviderSelection := sampleSelection "vdr.timer.create"
        timerAssignmentId := text "asg_1", expectedAssignmentRevision := text "arev_1"
        expectedIntentRevision := text "irev_1", assignmentEpoch := 1
        nativeTimerBindingId := text "ntb_1"
        expectedSpecificationFingerprint :=
          backendAgentNativeTimerCreateSpecificationFingerprint
            (sampleSpecification priority lifetime)
        specification := sampleSpecification priority lifetime }
    localStartingPersistedAt := 101 }

def sampleModification : BackendAgentNativeTimerModifyTransportRequest :=
  { command :=
      { commandId := text "cmd_1", requestFingerprint := text "fp_1", operationId := text "op_1"
        operationRevision := text "oprev_1", jobId := text "job_1", attemptId := text "attempt_1"
        claimEpoch := 1, backendId := text "backend_1", agentId := text "agent_1"
        agentInstanceId := text "instance_1", backendGeneration := 1, controlPlaneClaimedAt := 100
        localProviderSelection := sampleSelection "vdr.timer.update"
        timerAssignmentId := text "asg_1", expectedAssignmentRevision := text "arev_1"
        expectedIntentRevision := text "irev_1", assignmentEpoch := 1
        nativeTimerBindingId := text "ntb_1", expectedBindingRevision := text "brev_1"
        backendNativeTimerId := text "timer_1"
        expectedCurrentFingerprint :=
          text "sha256:aaaaaaaaaaaaaaaaaaaaaaaaaaaaaaaaaaaaaaaaaaaaaaaaaaaaaaaaaaaaaaaa"
        expectedSpecificationFingerprint :=
          backendAgentNativeTimerCreateSpecificationFingerprint (sampleSpecification 0 0)
        specification := sampleSpecification 0 0 }
    localStartingPersistedAt := 101 }

theorem native_exec_lines_agree_sample :
    (receivedCreate (sampleCreation 50 99) = some (createRequest (sampleCreation 50 99)) ↔
      CreateReadable (sampleCreation 50 99)) ∧
    (receivedModify sampleModification = some (modifyRequest sampleModification) ↔
      ModifyReadable sampleModification) :=
  ⟨(native_exec_lines_agree (sampleCreation 50 99) sampleModification).1 (by decide),
    (native_exec_lines_agree (sampleCreation 50 99) sampleModification).2 (by decide)⟩

/-- A creation of priority zero is sent, and the plugin cannot read it. -/
theorem create_of_zero_priority_unreadable :
    safeRequest (sampleCreation 0 99) = true ∧ receivedCreate (sampleCreation 0 99) = none ∧
    safeRequest (sampleCreation 50 0) = true ∧ receivedCreate (sampleCreation 50 0) = none := by
  decide +kernel

end VdrSuite.Plugin
