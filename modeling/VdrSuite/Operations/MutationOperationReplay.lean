import VdrSuite.Operations.MutationOperationTerminal

/-! Idempotent reservations: which operations and payloads the C-string columns give back unchanged. -/

set_option autoImplicit false

namespace VdrSuite.Operations

open Library

/-! ## Admissible contents -/

def MutationOperation.textFields (operation : MutationOperation) : List Bytes :=
  [operation.operationId, operation.idempotencyKey, operation.actorId, operation.backendId,
    operation.resourceType, operation.resourceId, operation.expectedRevision,
    operation.expectedResourceFingerprint, operation.actionFamily, operation.requestFingerprint]

def MutationOperationPayload.textFields (payload : MutationOperationPayload) : List Bytes :=
  [payload.operationId, payload.payloadType, payload.payload, payload.payloadFingerprint]

def NulFree (operation : MutationOperation) (payload : MutationOperationPayload) : Prop :=
  ∀ field ∈ operation.textFields ++ payload.textFields, (0 : UInt8) ∉ field

structure Environment.Faultless (environment : Environment) : Prop where
  begins : environment.beginFails = false
  selectsById : environment.selectByIdFails = false
  selectsPayload : environment.selectPayloadFails = false

theorem sameLogicalOperation_iff (left right : MutationOperation) :
    sameLogicalOperation left right = true ↔
      left.textFields = right.textFields ∧ left.backendGeneration = right.backendGeneration ∧
      left.requestedAt = right.requestedAt ∧ left.deadline = right.deadline ∧
      left.verificationPolicy = right.verificationPolicy := by
  simp only [sameLogicalOperation, MutationOperation.textFields, Bool.and_eq_true, beq_iff_eq,
    List.cons.injEq, and_true]
  tauto

theorem samePayload_iff (left right : MutationOperationPayload) :
    samePayload left right = true ↔ left = right := by
  cases left
  cases right
  simp [samePayload, and_assoc]

/-! ## Reading rows back -/

theorem MutationOperationRow.eq_of_identity {left right : MutationOperationRow}
    (same : left.identity = right.identity) :
    left =
      { right with
        operationRevision := left.operationRevision
        state := left.state
        resultReference := left.resultReference
        updatedAt := left.updatedAt } := by
  cases left
  cases right
  simp only [MutationOperationRow.identity, MutationOperationRow.mk.injEq] at same ⊢
  tauto

theorem readOperation_textFields (row : MutationOperationRow) (operation source : MutationOperation)
    (identity : row.identity = (operationRow source).identity)
    (readable : readOperation row = some operation) :
    operation.textFields = source.textFields.map cString := by
  rw [MutationOperationRow.eq_of_identity identity] at readable
  simp only [readOperation] at readable
  split at readable
  · cases readable
  · split at readable
    · split at readable
      · simp only [Option.some.injEq] at readable
        subst readable
        rfl
      · cases readable
    · cases readable

theorem readPayload_textFields (payload source : MutationOperationPayload)
    (readable : readPayload (payloadRow source) = some payload) :
    payload.textFields = source.textFields.map cString := by
  simp only [readPayload] at readable
  split at readable
  · cases readable
  · split at readable
    · simp only [Option.some.injEq] at readable
      subst readable
      rfl
    · cases readable

theorem readOperation_of_identity (row : MutationOperationRow) (operation : MutationOperation)
    (valid : mutationOperationValidForCreate operation = true)
    (clean : ∀ field ∈ operation.textFields, (0 : UInt8) ∉ field)
    (identity : row.identity = (operationRow operation).identity) (lifecycle : row.LifecycleValid)
    (later : operation.requestedAt ≤ row.updatedAt) :
    ∃ existing, readOperation row = some existing ∧
      sameLogicalOperation existing (durableOperation operation) = true ∧
      existing.operationId = operation.operationId := by
  obtain ⟨state, named⟩ := lifecycle.named
  simp only [MutationOperation.textFields, List.forall_mem_cons, ← cString_eq_self_iff] at clean
  have generation : operation.backendGeneration ≠ 0 := by
    simp only [mutationOperationValidForCreate, Bool.and_eq_true] at valid
    exact commonValid_backendGeneration operation valid.1.1.1.1
  simp only [mutationOperationValidForCreate, commonValid, Bool.and_eq_true, decide_eq_true_eq,
    bne_iff_ne] at valid
  have revision := parseRevision_decimal row.operationRevision lifecycle.positive lifecycle.bounded
  have reference := lifecycle.reference
  let existing : MutationOperation :=
    { operation with
      operationRevision := decimal row.operationRevision
      state := state
      resultReference := row.resultReference
      updatedAt := row.updatedAt }
  have durable : mutationOperationValidDurable existing = true := by
    simp [mutationOperationValidDurable, commonValid, parseOperationRevision, existing, revision, valid,
      reference, later]
  refine ⟨existing, ?_, ?_, rfl⟩
  · rw [MutationOperationRow.eq_of_identity identity, named]
    simp only [readOperation, operationRow, clean, mutationOperationStateFromName_stateName,
      mutationOperationVerificationPolicyFromName_policyName]
    rw [if_neg generation]
    exact if_pos durable
  · exact (sameLogicalOperation_iff _ _).mpr ⟨rfl, rfl, rfl, rfl, rfl⟩

theorem readPayload_payloadRow (payload : MutationOperationPayload)
    (valid : validPayload payload = true)
    (clean : ∀ field ∈ payload.textFields, (0 : UInt8) ∉ field) :
    readPayload (payloadRow payload) = some payload := by
  simp only [MutationOperationPayload.textFields, List.forall_mem_cons, ← cString_eq_self_iff] at clean
  have positive : payload.payloadVersion.toNat ≠ 0 := by
    simp only [validPayload, Bool.and_eq_true, decide_eq_true_eq] at valid
    have version := valid.1.1.1.1.2
    simp only [UInt32.lt_iff_toNat_lt, UInt32.toNat_zero] at version
    omega
  have bounded := payload.payloadVersion.toNat_lt
  have inRange : ¬ (payload.payloadVersion.toNat = 0 ∨
      payload.payloadVersion.toNat > UInt32.size - 1) := by
    simp only [UInt32.size]
    omega
  simp only [readPayload, payloadRow, clean, UInt32.ofNat_toNat]
  rw [if_neg inRange]
  exact if_pos valid

theorem selectPayload_of_row (environment : Environment) {store : Store} (valid : store.Valid)
    (operationId : Bytes) (row : MutationOperationPayloadRow) (payload : MutationOperationPayload)
    (available : environment.selectPayloadFails = false) (member : row ∈ store.payloads)
    (addressed : row.operationId = cString operationId) (readable : readPayload row = some payload) :
    selectPayloadByOperationId environment store operationId = .found payload := by
  have selected : store.payloads.find? (fun other => other.operationId == cString operationId) =
      some row := by
    cases found : store.payloads.find? fun other => other.operationId == cString operationId with
    | none =>
      have excluded := List.find?_eq_none.mp found row member
      simp [addressed] at excluded
    | some other =>
      have same : other.operationId = cString operationId := by simpa using List.find?_some found
      rw [valid.payload_unique (List.mem_of_find?_eq_some found) member (same.trans addressed.symm)]
  simp [selectPayloadByOperationId, lookupRow, available, selected, readable]

/-! ## Replays -/

theorem reserveWithPayload_replay (environment : Environment) (store : Store)
    (operation : MutationOperation) (payload : MutationOperationPayload)
    (replayed : (reserveWithPayload environment store operation payload).2.status =
      .idempotentReplay) :
    ∃ existing existingPayload,
      selectById environment store operation.operationId = .found existing ∧
      sameLogicalOperation existing (durableOperation operation) = true ∧
      selectPayloadByOperationId environment store operation.operationId = .found existingPayload ∧
      samePayload existingPayload payload = true := by
  simp only [reserveWithPayload, reserveInternal, inTransaction] at replayed
  split at replayed
  · simp [statusResult] at replayed
  · have body : (reserveInCurrentTransactionInternal environment store operation
        (some payload)).2.status = .idempotentReplay := by
      split at replayed
      · exact replayed
      · rename_i accepted
        split at replayed
        · simp [statusResult] at replayed
        · exact replayed
    simp only [reserveInCurrentTransactionInternal] at body
    split at body
    · simp [statusResult] at body
    · cases byId : selectById environment store operation.operationId with
      | failed => simp [byId, statusResult] at body
      | absent =>
        simp only [byId] at body
        cases byScope : selectByScope environment store operation with
        | failed => simp [byScope, statusResult] at body
        | found existing => simp [byScope, operationResult] at body
        | absent =>
          simp only [byScope] at body
          split at body
          · simp [statusResult] at body
          · simp [statusResult] at body
          · simp only [insertReservation] at body
            split at body
            · simp [statusResult] at body
            · split at body <;> simp [statusResult, operationResult] at body
      | found existing =>
        simp only [byId, replayReservation] at body
        split at body
        · simp [operationResult] at body
        · rename_i same
          split at body
          · simp [statusResult] at body
          · simp [operationResult] at body
          · rename_i existingPayload selected
            split at body
            · rename_i samePayload
              exact ⟨existing, existingPayload, rfl, by simpa using same, selected, samePayload⟩
            · simp [operationResult] at body

theorem reserveWithPayload_of_found (environment : Environment) (store : Store)
    (operation existing : MutationOperation) (payload : MutationOperationPayload)
    (begins : environment.beginFails = false)
    (admissible : reservationAdmissible operation (some payload) = true)
    (byId : selectById environment store operation.operationId = .found existing)
    (same : sameLogicalOperation existing (durableOperation operation) = true)
    (selected : selectPayloadByOperationId environment store operation.operationId = .found payload) :
    (reserveWithPayload environment store operation payload).2.status = .idempotentReplay := by
  have reflexive : samePayload payload payload = true := (samePayload_iff _ _).mpr rfl
  have sameId : (durableOperation operation).operationId = operation.operationId := rfl
  simp [reserveWithPayload, reserveInternal, inTransaction, begins,
    reserveInCurrentTransactionInternal, admissible, byId, replayReservation, same, sameId, selected,
    reflexive, operationResult]

theorem map_cString_eq_self_iff (fields : List Bytes) :
    fields.map cString = fields ↔ ∀ field ∈ fields, (0 : UInt8) ∉ field := by
  have pointwise := List.map_inj_left (f := cString) (g := id) (l := fields)
  rw [List.map_id] at pointwise
  simpa [cString_eq_self_iff] using pointwise

/-- The requests of a run that reserves an operation with its payload after `earlier`. -/
def reservingRun (earlier : List Request) (environment : Environment) (operation : MutationOperation)
    (payload : MutationOperationPayload) (later : List Request) : List Request :=
  earlier ++ [{ environment, call := .reserveWithPayload operation payload }] ++ later

/-- Whatever happens after a reservation, its repetition is a replay, its payload reads back byte for
byte, and no NUL-free identifier other than its own reads back its record. -/
def ReplaysFaithfully (earlier : List Request) (environment : Environment)
    (operation : MutationOperation) (payload : MutationOperationPayload) : Prop :=
  ∀ (later : List Request) (retry : Environment), retry.Faultless →
    (reserveWithPayload retry (runStore (reservingRun earlier environment operation payload later))
      operation payload).2.status = .idempotentReplay ∧
    findPayloadByOperationId retry (runStore (reservingRun earlier environment operation payload later))
      operation.operationId = { status := .ok, payload := payload } ∧
    ∀ other record, other ≠ operation.operationId → (0 : UInt8) ∉ other →
      findById retry (runStore (reservingRun earlier environment operation payload later)) other =
        operationResult .ok record →
      record.operationId ≠ operation.operationId

section Reservation

variable (earlier : List Request) (environment : Environment) (operation : MutationOperation)
  (payload : MutationOperationPayload)
  (reserved : Reserved (runStore earlier) operation (some payload)
    (step (runStore earlier) { environment, call := .reserveWithPayload operation payload }))

include reserved

private theorem reservingRun_rows (later : List Request) :
    (∃ row ∈ (runStore (reservingRun earlier environment operation payload later)).operations,
      row.identity = (operationRow operation).identity ∧ operation.updatedAt ≤ row.updatedAt) ∧
    payloadRow payload ∈
      (runStore (reservingRun earlier environment operation payload later)).payloads := by
  have continued := runStore_continues
    (earlier ++ [{ environment, call := .reserveWithPayload operation payload }]) later
  rw [runStore_concat, reserved.inserted] at continued
  exact ⟨continued.operations (operationRow operation) (by simp),
    continued.payloads (payloadRow payload) (by simp)⟩

private theorem nulFree_of_replay (retry : Environment)
    (replayed : (reserveWithPayload retry (runStore (reservingRun earlier environment operation payload []))
      operation payload).2.status = .idempotentReplay) :
    NulFree operation payload := by
  obtain ⟨existing, existingPayload, byId, same, selected, samePayload⟩ :=
    reserveWithPayload_replay _ _ _ _ replayed
  have valid := runStore_valid (reservingRun earlier environment operation payload [])
  obtain ⟨⟨stored, storedMember, identity, -⟩, payloadMember⟩ :=
    reservingRun_rows earlier environment operation payload reserved []
  obtain ⟨-, row, rowFound, readable⟩ := lookupRow_found _ _ _ _ _ byId
  obtain ⟨-, attached, attachedFound, payloadReadable⟩ := lookupRow_found _ _ _ _ _ selected
  have rowId : row.operationId = cString operation.operationId := by
    simpa using List.find?_some rowFound
  have attachedId : attached.operationId = cString operation.operationId := by
    simpa using List.find?_some attachedFound
  have storedId : stored.operationId = cString operation.operationId :=
    MutationOperationRow.operationId_of_identity identity
  have payloadId : (payloadRow payload).operationId = cString operation.operationId :=
    congrArg cString (reserved.validPayload payload rfl).2
  have sameRow := valid.row_unique (List.mem_of_find?_eq_some rowFound) storedMember
    (rowId.trans storedId.symm)
  have sameAttached := valid.payload_unique (List.mem_of_find?_eq_some attachedFound) payloadMember
    (attachedId.trans payloadId.symm)
  subst sameRow sameAttached
  have operationFields := readOperation_textFields row existing operation identity readable
  have payloadFields := readPayload_textFields existingPayload payload payloadReadable
  rw [((sameLogicalOperation_iff _ _).mp same).1] at operationFields
  rw [(samePayload_iff _ _).mp samePayload] at payloadFields
  intro field member
  rcases List.mem_append.mp member with inOperation | inPayload
  · exact (map_cString_eq_self_iff _).mp operationFields.symm field inOperation
  · exact (map_cString_eq_self_iff _).mp payloadFields.symm field inPayload

private theorem replays_of_nulFree (clean : NulFree operation payload) :
    ReplaysFaithfully earlier environment operation payload := by
  intro later retry faultless
  have valid := runStore_valid (reservingRun earlier environment operation payload later)
  obtain ⟨⟨row, member, identity, updated⟩, payloadMember⟩ :=
    reservingRun_rows earlier environment operation payload reserved later
  obtain ⟨validPayload, samePayloadId⟩ := reserved.validPayload payload rfl
  have validOperation := reserved.validOperation
  have admissible : reservationAdmissible operation (some payload) = true := by
    simp [reservationAdmissible, validOperation, validPayload, samePayloadId]
  have requestedAt : operation.requestedAt ≤ row.updatedAt := by
    simp only [mutationOperationValidForCreate, Bool.and_eq_true, beq_iff_eq] at validOperation
    exact validOperation.2 ▸ updated
  obtain ⟨existing, readable, same, sameId⟩ := readOperation_of_identity row operation validOperation
    (fun field inOperation => clean field (List.mem_append_left _ inOperation)) identity
    (valid.lifecycles row member) requestedAt
  have payloadReadable := readPayload_payloadRow payload validPayload
    fun field inPayload => clean field (List.mem_append_right _ inPayload)
  have rowId : row.operationId = cString operation.operationId :=
    MutationOperationRow.operationId_of_identity identity
  have byId := selectById_of_row retry valid operation.operationId row existing faultless.selectsById
    member rowId readable
  have selected := selectPayload_of_row retry valid operation.operationId (payloadRow payload) payload
    faultless.selectsPayload payloadMember (congrArg cString samePayloadId) payloadReadable
  have safeId : safeIdentity operation.operationId = true := by
    simp only [Operations.validPayload, Bool.and_eq_true, samePayloadId] at validPayload
    tauto
  refine ⟨reserveWithPayload_of_found _ _ _ _ _ faultless.begins admissible byId same selected, ?_, ?_⟩
  · simp [findPayloadByOperationId, safeId, selected]
  · intro other record differs nulFree found
    simp only [findById] at found
    split at found
    · simp [statusResult, operationResult] at found
    · cases lookup : selectById retry
          (runStore (reservingRun earlier environment operation payload later)) other with
      | failed => simp [lookup, statusResult, operationResult] at found
      | absent => simp [lookup, statusResult, operationResult] at found
      | found reached =>
        simp only [lookup, operationResult, MutationOperationRepositoryResult.mk.injEq,
          true_and] at found
        subst found
        obtain ⟨-, target, targetFound, targetReadable⟩ := lookupRow_found _ _ _ _ _ lookup
        have targetId : target.operationId = cString other := by
          simpa using List.find?_some targetFound
        rw [(readOperation_some target reached targetReadable).operationId, targetId,
          (cString_eq_self_iff other).mpr nulFree]
        exact differs

end Reservation

def timerPayload (contents : Bytes) : MutationOperationPayload :=
  { operationId := text "op-1", payloadType := text "native.timer.update", payloadVersion := 1
    payload := contents, payloadFingerprint := text "sha256:payload" }

end VdrSuite.Operations
