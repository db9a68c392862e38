import Mathlib.Data.List.Chain
import Mathlib.Data.List.Nodup
import VdrSuite.Operations.MutationOperationRepository

/-! Run laws of the mutation-operation repository: what each call can do to the two tables, and what
therefore holds of every sequence of calls. -/

set_option autoImplicit false

namespace VdrSuite.Operations

open Library

/-! ## What one call can do -/

theorem lookupRow_found {Row Record : Type} (failed : Bool) (rows : List Row) (selects : Row → Bool)
    (read : Row → Option Record) (record : Record)
    (success : lookupRow failed rows selects read = .found record) :
    failed = false ∧ ∃ row, rows.find? selects = some row ∧ read row = some record := by
  simp only [lookupRow] at success
  split at success
  · cases success
  · rename_i available
    refine ⟨by simpa using available, ?_⟩
    split at success
    · cases success
    · rename_i row found
      split at success
      · rename_i value readable
        cases success
        exact ⟨row, found, readable⟩
      · cases success

theorem inTransaction_cases (environment : Environment) (store : Store)
    (body : Store → Store × MutationOperationRepositoryResult) :
    ((inTransaction environment store body).1 = store ∧
      (inTransaction environment store body).2.status ≠ .ok) ∨
    (inTransaction environment store body = body store ∧ (body store).2.status = .ok ∧
      environment.beginFails = false ∧ environment.commitFails = false) := by
  simp only [inTransaction]
  split
  · exact .inl ⟨rfl, by simp [statusResult]⟩
  · rename_i begun
    split
    · rename_i refused
      exact .inl ⟨rfl, refused⟩
    · rename_i accepted
      split
      · exact .inl ⟨rfl, by simp [statusResult]⟩
      · rename_i committed
        exact .inr ⟨rfl, by simpa using accepted, by simpa using begun, by simpa using committed⟩

theorem inTransaction_of_ok (environment : Environment) (store : Store)
    (body : Store → Store × MutationOperationRepositoryResult)
    (begun : environment.beginFails = false) (committed : environment.commitFails = false)
    (accepted : (body store).2.status = .ok) :
    inTransaction environment store body = body store := by
  simp [inTransaction, begun, committed, accepted]

structure Reserved (store : Store) (operation : MutationOperation)
    (payload : Option MutationOperationPayload)
    (outcome : Store × MutationOperationRepositoryResult) : Prop where
  validOperation : mutationOperationValidForCreate operation = true
  validPayload : ∀ value, payload = some value →
    validPayload value = true ∧ value.operationId = operation.operationId
  freshId : ∀ row ∈ store.operations, row.operationId ≠ cString operation.operationId
  freshScope : ∀ row ∈ store.operations, row.scope ≠ (operationRow operation).scope
  freshPayload : ∀ value, payload = some value →
    ∀ row ∈ store.payloads, row.operationId ≠ cString value.operationId
  inserted : outcome =
    ({ operations := store.operations ++ [operationRow operation]
       payloads := store.payloads ++ (payload.map payloadRow).toList },
      operationResult .ok (durableOperation operation))

theorem insertOperation_some (environment : Environment) (store inserted : Store)
    (durable : MutationOperation) (success : insertOperation environment store durable = some inserted) :
    (∀ row ∈ store.operations, row.operationId ≠ cString durable.operationId) ∧
    (∀ row ∈ store.operations, row.scope ≠ (operationRow durable).scope) ∧
    inserted = { store with operations := store.operations ++ [operationRow durable] } := by
  simp only [insertOperation] at success
  split at success
  · cases success
  · split at success
    · cases success
    · rename_i idFree
      split at success
      · cases success
      · rename_i scopeFree
        split at success
        · cases success
        · simp only [Option.some.injEq] at success
          refine ⟨?_, ?_, success.symm⟩
          · simpa [operationRow] using idFree
          · simpa using scopeFree

theorem insertPayload_some (environment : Environment) (store inserted : Store)
    (payload : MutationOperationPayload)
    (success : insertPayload environment store payload = some inserted) :
    (∀ row ∈ store.payloads, row.operationId ≠ cString payload.operationId) ∧
    inserted = { store with payloads := store.payloads ++ [payloadRow payload] } := by
  simp only [insertPayload] at success
  split at success
  · cases success
  · split at success
    · cases success
    · rename_i idFree
      split at success
      · cases success
      · simp only [Option.some.injEq] at success
        refine ⟨?_, success.symm⟩
        simpa [payloadRow] using idFree

private theorem replayReservation_not_ok (environment : Environment) (working : Store)
    (existing durable : MutationOperation) (payload : Option MutationOperationPayload) :
    (replayReservation environment working existing durable payload).status ≠ .ok := by
  simp only [replayReservation]
  split
  · simp [operationResult]
  · split
    · simp [operationResult]
    · split
      · simp [statusResult]
      · simp [operationResult]
      · split <;> simp [operationResult]

private theorem insertReservation_ok (environment : Environment) (working : Store)
    (durable : MutationOperation) (payload : Option MutationOperationPayload)
    (success : (insertReservation environment working durable payload).2.status = .ok) :
    (∀ row ∈ working.operations, row.operationId ≠ cString durable.operationId) ∧
    (∀ row ∈ working.operations, row.scope ≠ (operationRow durable).scope) ∧
    (∀ value, payload = some value →
      ∀ row ∈ working.payloads, row.operationId ≠ cString value.operationId) ∧
    insertReservation environment working durable payload =
      ({ operations := working.operations ++ [operationRow durable]
         payloads := working.payloads ++ (payload.map payloadRow).toList },
        operationResult .ok durable) := by
  cases insertion : insertOperation environment working durable with
  | none => simp [insertReservation, insertion, statusResult] at success
  | some inserted =>
    obtain ⟨freshId, freshScope, rfl⟩ :=
      insertOperation_some environment working inserted durable insertion
    cases payload with
    | none =>
      refine ⟨freshId, freshScope, by simp, ?_⟩
      simp [insertReservation, insertion]
    | some value =>
      cases attachment : insertPayload environment
          { working with operations := working.operations ++ [operationRow durable] } value with
      | none => simp [insertReservation, insertion, attachment, statusResult] at success
      | some complete =>
        obtain ⟨freshPayload, rfl⟩ := insertPayload_some _ _ _ _ attachment
        refine ⟨freshId, freshScope, ?_, ?_⟩
        · intro other same
          cases same
          exact freshPayload
        · simp [insertReservation, insertion, attachment]

theorem reservationAdmissible_parts (operation : MutationOperation)
    (payload : Option MutationOperationPayload)
    (admissible : reservationAdmissible operation payload = true) :
    mutationOperationValidForCreate operation = true ∧
    ∀ value, payload = some value →
      validPayload value = true ∧ value.operationId = operation.operationId := by
  cases payload with
  | none => exact ⟨admissible, by simp⟩
  | some value =>
    simp only [reservationAdmissible, Bool.and_eq_true, beq_iff_eq] at admissible
    refine ⟨admissible.1.1, ?_⟩
    intro other same
    cases same
    exact ⟨admissible.1.2, admissible.2⟩

theorem reserveInCurrentTransactionInternal_ok (environment : Environment) (working : Store)
    (operation : MutationOperation) (payload : Option MutationOperationPayload)
    (success : (reserveInCurrentTransactionInternal environment working operation payload).2.status =
      .ok) :
    Reserved working operation payload
      (reserveInCurrentTransactionInternal environment working operation payload) := by
  simp only [reserveInCurrentTransactionInternal] at success ⊢
  cases admissible : reservationAdmissible operation payload with
  | false => simp [admissible, statusResult] at success
  | true =>
    obtain ⟨validOperation, validPayload⟩ :=
      reservationAdmissible_parts operation payload admissible
    simp only [admissible, Bool.true_eq_false, if_false] at success ⊢
    cases byId : selectById environment working operation.operationId with
    | failed => simp [byId, statusResult] at success
    | found existing =>
      simp only [byId] at success
      exact absurd success (replayReservation_not_ok _ _ _ _ _)
    | absent =>
      cases byScope : selectByScope environment working operation with
      | failed => simp [byId, byScope, statusResult] at success
      | found existing => simp [byId, byScope, operationResult] at success
      | absent =>
        simp only [byId, byScope] at success ⊢
        split at success
        · simp [statusResult] at success
        · simp [statusResult] at success
        · obtain ⟨freshId, freshScope, freshPayload, inserted⟩ :=
            insertReservation_ok _ _ _ _ success
          exact ⟨validOperation, validPayload, freshId, freshScope, freshPayload, inserted⟩

/-- A reservation either changes nothing and is not `ok`, or inserts its rows. -/
theorem reserveInternal_cases (environment : Environment) (store : Store)
    (operation : MutationOperation) (payload : Option MutationOperationPayload) :
    ((reserveInternal environment store operation payload).1 = store ∧
      (reserveInternal environment store operation payload).2.status ≠ .ok) ∨
    Reserved store operation payload (reserveInternal environment store operation payload) := by
  rcases inTransaction_cases environment store fun working =>
      reserveInCurrentTransactionInternal environment working operation payload with
    unchanged | ⟨same, accepted, -⟩
  · exact .inl unchanged
  · right
    rw [reserveInternal, same]
    exact reserveInCurrentTransactionInternal_ok environment store operation payload accepted

structure MutationOperationRow.LifecycleValid (row : MutationOperationRow) : Prop where
  positive : 0 < row.operationRevision
  bounded : row.operationRevision ≤ int64Max
  reference : row.resultReference.length ≤ kMaxResultReferenceLength
  named : ∃ state, row.state = mutationOperationStateName state

structure Store.Valid (store : Store) : Prop where
  uniqueIds : (store.operations.map (·.operationId)).Nodup
  uniqueScopes : (store.operations.map (·.scope)).Nodup
  uniquePayloads : (store.payloads.map (·.operationId)).Nodup
  ownedPayloads : ∀ payload ∈ store.payloads,
    ∃ row ∈ store.operations, row.operationId = payload.operationId
  lifecycles : ∀ row ∈ store.operations, row.LifecycleValid

theorem Store.Valid.row_unique {store : Store} (valid : store.Valid)
    {left right : MutationOperationRow} (leftMember : left ∈ store.operations)
    (rightMember : right ∈ store.operations) (same : left.operationId = right.operationId) :
    left = right :=
  List.inj_on_of_nodup_map valid.uniqueIds leftMember rightMember same

theorem Store.Valid.payload_unique {store : Store} (valid : store.Valid)
    {left right : MutationOperationPayloadRow} (leftMember : left ∈ store.payloads)
    (rightMember : right ∈ store.payloads) (same : left.operationId = right.operationId) :
    left = right :=
  List.inj_on_of_nodup_map valid.uniquePayloads leftMember rightMember same

/-- The fields of a stored operation as `readOperation` reports them. -/
structure ReadsAs (row : MutationOperationRow) (operation : MutationOperation) : Prop where
  operationId : operation.operationId = row.operationId
  operationRevision : operation.operationRevision = decimal row.operationRevision
  state : row.state = mutationOperationStateName operation.state
  resultReference : operation.resultReference = row.resultReference
  updatedAt : operation.updatedAt = row.updatedAt
  valid : mutationOperationValidDurable operation = true

theorem readOperation_some (row : MutationOperationRow) (operation : MutationOperation)
    (readable : readOperation row = some operation) : ReadsAs row operation := by
  simp only [readOperation] at readable
  split at readable
  · cases readable
  · split at readable
    · rename_i policy state policyNamed stateNamed
      split at readable
      · rename_i valid
        simp only [Option.some.injEq] at readable
        subst readable
        exact ⟨rfl, rfl, (mutationOperationStateFromName_eq_some_iff _ _).mp stateNamed, rfl, rfl, valid⟩
      · cases readable
    · cases readable

def transitionedRows (arguments : TransitionArguments) (revision : Nat) (operationId : Bytes)
    (rows : List MutationOperationRow) : List MutationOperationRow :=
  rows.map fun row =>
    if row.operationId = operationId then transitionedRow arguments revision row else row

structure TransitionAdmitted (environment : Environment) (store : Store)
    (arguments : TransitionArguments) (row : MutationOperationRow) (current : MutationOperation) :
    Prop where
  member : row ∈ store.operations
  addressed : row.operationId = cString arguments.operationId
  readable : readOperation row = some current
  validId : safeIdentity arguments.operationId = true
  validReference : arguments.resultReference.length ≤ kMaxResultReferenceLength
  validTime : 0 < arguments.updatedAt
  expectedState : current.state = arguments.expectedState
  allowed : mutationOperationTransitionAllowed current.state arguments.nextState = true
  differs : ¬ (current.state = arguments.nextState ∧ current.resultReference = arguments.resultReference)
  revisionText : current.operationRevision = arguments.expectedOperationRevision
  bounded : row.operationRevision < int64Max
  ordered : row.updatedAt ≤ arguments.updatedAt
  available : environment.beginFails = false ∧ environment.selectByIdFails = false ∧
    environment.updateFails = false ∧ environment.commitFails = false

structure Transitioned (environment : Environment) (store : Store) (arguments : TransitionArguments)
    (row : MutationOperationRow) (current : MutationOperation)
    (outcome : Store × MutationOperationRepositoryResult) : Prop
    extends TransitionAdmitted environment store arguments row current where
  succeeded : outcome.2.status = .ok
  updated : outcome.1 =
    { store with
      operations :=
        transitionedRows arguments row.operationRevision row.operationId store.operations }

theorem addressedBy_eq_decide {store : Store} (valid : store.Valid)
    (arguments : TransitionArguments) {expectedRevision : Nat} {row : MutationOperationRow}
    (member : row ∈ store.operations) (addressed : row.operationId = cString arguments.operationId)
    (revision : row.operationRevision = expectedRevision)
    (other : MutationOperationRow) (otherMember : other ∈ store.operations) :
    addressedBy arguments expectedRevision other = decide (other.operationId = row.operationId) := by
  by_cases sameId : other.operationId = row.operationId
  · rw [valid.row_unique otherMember member sameId]
    simp [addressedBy, addressed, revision]
  · simp [addressedBy, ← addressed, sameId]

private theorem updateOperation_some (environment : Environment) (store updated : Store)
    (arguments : TransitionArguments) (expectedRevision : Nat) (valid : store.Valid)
    (row : MutationOperationRow) (member : row ∈ store.operations)
    (addressed : row.operationId = cString arguments.operationId)
    (success : updateOperation environment store arguments expectedRevision = some updated) :
    environment.updateFails = false ∧ row.operationRevision = expectedRevision ∧
    updated =
      { store with
        operations :=
          transitionedRows arguments expectedRevision row.operationId store.operations } := by
  simp only [updateOperation] at success
  split at success
  · cases success
  · rename_i updatable
    split at success
    · cases success
    · rename_i one
      simp only [ne_eq, Decidable.not_not] at one
      obtain ⟨target, targets⟩ := List.length_eq_one_iff.mp one
      have selected : target ∈ store.operations ∧
          addressedBy arguments expectedRevision target = true := by
        rw [← List.mem_filter, targets]
        exact List.mem_singleton.mpr rfl
      simp only [addressedBy, Bool.and_eq_true, beq_iff_eq] at selected
      have same : target = row :=
        valid.row_unique selected.1 member (selected.2.1.trans addressed.symm)
      rw [same] at selected
      refine ⟨by simpa using updatable, selected.2.2, ?_⟩
      simp only [Option.some.injEq] at success
      rw [← success]
      refine congrArg (fun operations => { store with operations := operations }) ?_
      refine List.map_congr_left ?_
      intro other otherMember
      rw [addressedBy_eq_decide valid arguments member addressed selected.2.2 other otherMember]
      simp

/-- A transition either changes nothing and is not `ok`, or rewrites the addressed row. -/
theorem transition_cases (environment : Environment) (store : Store) (valid : store.Valid)
    (arguments : TransitionArguments) :
    ((transition environment store arguments).1 = store ∧
      (transition environment store arguments).2.status ≠ .ok) ∨
    ∃ row current, Transitioned environment store arguments row current
      (transition environment store arguments) := by
  simp only [transition]
  cases parsed : parseRevision arguments.expectedOperationRevision with
  | none => exact .inl ⟨rfl, by simp [statusResult]⟩
  | some expectedRevision =>
    simp only []
    split
    · exact .inl ⟨rfl, by simp [statusResult]⟩
    · rename_i admissible
      rcases inTransaction_cases environment store fun working =>
          transitionInTransaction environment working arguments expectedRevision with
        unchanged | ⟨same, accepted, begun, committed⟩
      · exact .inl unchanged
      · right
        rw [same]
        simp only [transitionInTransaction] at accepted ⊢
        cases byId : selectById environment store arguments.operationId with
        | failed => simp [byId, statusResult] at accepted
        | absent => simp [byId, statusResult] at accepted
        | found current =>
          obtain ⟨selectable, row, selected, readable⟩ := lookupRow_found _ _ _ _ _ byId
          have member := List.mem_of_find?_eq_some selected
          have addressed : row.operationId = cString arguments.operationId := by
            simpa using List.find?_some selected
          have reads := readOperation_some row current readable
          simp only [byId] at accepted ⊢
          split at accepted
          · simp [operationResult] at accepted
          · rename_i differs
            split at accepted
            · simp [operationResult] at accepted
            · rename_i revisionText
              split at accepted
              · simp [operationResult] at accepted
              · rename_i permitted
                split at accepted
                · simp [statusResult] at accepted
                · rename_i ordered
                  cases update : updateOperation environment store arguments expectedRevision with
                  | none => simp [update, operationResult] at accepted
                  | some updated =>
                    obtain ⟨updatable, revision, rows⟩ := updateOperation_some environment store updated
                      arguments expectedRevision valid row member addressed update
                    have small := (valid.lifecycles row member).bounded
                    refine ⟨row, current, ?_⟩
                    simp only [if_neg differs, if_neg revisionText, if_neg permitted,
                      if_neg ordered]
                    simp only [not_or, Bool.not_eq_false, not_lt, Decidable.not_not, ne_eq]
                      at admissible revisionText permitted ordered
                    exact
                      { member := member, addressed := addressed, readable := readable
                        expectedState := permitted.1, allowed := permitted.2
                        differs := differs, revisionText := revisionText
                        bounded := by omega, ordered := reads.updatedAt ▸ ordered.1
                        validId := admissible.1, validReference := by omega
                        validTime := by omega
                        available := ⟨begun, selectable, updatable, committed⟩
                        succeeded := rfl, updated := by rw [rows, revision] }

def Call.reservation : Call → Option (MutationOperation × Option MutationOperationPayload)
  | .reserve operation => some (operation, none)
  | .reserveWithPayload operation payload => some (operation, some payload)
  | .transition _ => none

inductive StepEffect (store : Store) (request : Request) : Prop where
  | unchanged : (step store request).1 = store → (step store request).2.status ≠ .ok →
      StepEffect store request
  | reserved (operation : MutationOperation) (payload : Option MutationOperationPayload) :
      request.call.reservation = some (operation, payload) →
      Reserved store operation payload (step store request) → StepEffect store request
  | transitioned (arguments : TransitionArguments) (row : MutationOperationRow)
      (current : MutationOperation) : request.call = .transition arguments →
      Transitioned request.environment store arguments row current (step store request) →
      StepEffect store request

theorem step_effect (store : Store) (valid : store.Valid) (request : Request) :
    StepEffect store request := by
  obtain ⟨environment, call⟩ := request
  cases call with
  | reserve operation =>
    rcases reserveInternal_cases environment store operation none with ⟨same, refused⟩ | inserted
    · exact .unchanged same refused
    · exact .reserved operation none rfl inserted
  | reserveWithPayload operation payload =>
    rcases reserveInternal_cases environment store operation (some payload) with
      ⟨same, refused⟩ | inserted
    · exact .unchanged same refused
    · exact .reserved operation (some payload) rfl inserted
  | transition arguments =>
    rcases transition_cases environment store valid arguments with
      ⟨same, refused⟩ | ⟨row, current, rewritten⟩
    · exact .unchanged same refused
    · exact .transitioned arguments row current rfl rewritten

/-! ## Invariant of the tables -/

def MutationOperationRow.identity (row : MutationOperationRow) : MutationOperationRow :=
  { row with operationRevision := 0, state := [], resultReference := [], updatedAt := 0 }

@[simp] theorem transitionedRow_identity (arguments : TransitionArguments) (revision : Nat)
    (row : MutationOperationRow) :
    (transitionedRow arguments revision row).identity = row.identity := rfl

theorem MutationOperationRow.operationId_of_identity {left right : MutationOperationRow}
    (same : left.identity = right.identity) : left.operationId = right.operationId := by
  change left.identity.operationId = right.identity.operationId
  rw [same]

theorem map_transitionedRows {Column : Type} (column : MutationOperationRow → Column)
    (arguments : TransitionArguments) (revision : Nat) (operationId : Bytes)
    (rows : List MutationOperationRow)
    (kept : ∀ row, column (transitionedRow arguments revision row) = column row) :
    (transitionedRows arguments revision operationId rows).map column = rows.map column := by
  simp only [transitionedRows, List.map_map]
  refine List.map_congr_left ?_
  intro row _
  by_cases addressed : row.operationId = operationId
  · simp [addressed, kept]
  · simp [addressed]

theorem mem_transitionedRows (arguments : TransitionArguments) (revision : Nat)
    (operationId : Bytes) (rows : List MutationOperationRow) (row : MutationOperationRow) :
    row ∈ transitionedRows arguments revision operationId rows ↔
      (row ∈ rows ∧ row.operationId ≠ operationId) ∨
      ∃ previous ∈ rows, previous.operationId = operationId ∧
        row = transitionedRow arguments revision previous := by
  simp only [transitionedRows, List.mem_map]
  constructor
  · rintro ⟨previous, member, rfl⟩
    by_cases addressed : previous.operationId = operationId
    · exact .inr ⟨previous, member, addressed, by simp [addressed]⟩
    · exact .inl (by simp [addressed, member])
  · rintro (⟨member, other⟩ | ⟨previous, member, addressed, rfl⟩)
    · exact ⟨row, member, by simp [other]⟩
    · exact ⟨previous, member, by simp [addressed]⟩

private theorem nodup_concat {Element : Type} (elements : List Element) (element : Element)
    (unique : elements.Nodup) (fresh : element ∉ elements) : (elements ++ [element]).Nodup :=
  List.nodup_append.mpr ⟨unique, List.nodup_singleton element, by
    intro left member right same
    rw [List.mem_singleton.mp same]
    rintro rfl
    exact fresh member⟩

theorem Reserved.valid {store : Store} {operation : MutationOperation}
    {payload : Option MutationOperationPayload}
    {outcome : Store × MutationOperationRepositoryResult}
    (reserved : Reserved store operation payload outcome) (valid : store.Valid) :
    outcome.1.Valid := by
  rw [reserved.inserted]
  refine ⟨?_, ?_, ?_, ?_, ?_⟩
  · rw [List.map_append]
    refine nodup_concat _ _ valid.uniqueIds ?_
    intro member
    obtain ⟨row, rowMember, same⟩ := List.mem_map.mp member
    exact reserved.freshId row rowMember same
  · rw [List.map_append]
    refine nodup_concat _ _ valid.uniqueScopes ?_
    intro member
    obtain ⟨row, rowMember, same⟩ := List.mem_map.mp member
    exact reserved.freshScope row rowMember same
  · cases payload with
    | none => simpa using valid.uniquePayloads
    | some value =>
      simp only [Option.map_some, Option.toList_some, List.map_append]
      refine nodup_concat _ _ valid.uniquePayloads ?_
      intro member
      obtain ⟨row, rowMember, same⟩ := List.mem_map.mp member
      exact reserved.freshPayload value rfl row rowMember same
  · intro stored member
    simp only [List.mem_append] at member
    rcases member with old | new
    · obtain ⟨row, rowMember, same⟩ := valid.ownedPayloads stored old
      exact ⟨row, List.mem_append_left _ rowMember, same⟩
    · cases payload with
      | none => simp at new
      | some value =>
        simp only [Option.map_some, Option.toList_some, List.mem_singleton] at new
        refine ⟨operationRow operation, by simp, ?_⟩
        rw [new]
        exact congrArg cString (reserved.validPayload value rfl).2.symm
  · intro row member
    simp only [List.mem_append, List.mem_singleton] at member
    rcases member with old | rfl
    · exact valid.lifecycles row old
    · refine ⟨Nat.one_pos, by simp [operationRow, int64Max], ?_, operation.state, rfl⟩
      have common := reserved.validOperation
      simp only [mutationOperationValidForCreate, commonValid, Bool.and_eq_true,
        decide_eq_true_eq] at common
      exact le_trans (cString_length_le _) common.1.1.1.1.2

theorem Transitioned.valid {environment : Environment} {store : Store} {arguments : TransitionArguments}
    {row : MutationOperationRow} {current : MutationOperation}
    {outcome : Store × MutationOperationRepositoryResult}
    (transitioned : Transitioned environment store arguments row current outcome) (valid : store.Valid) :
    outcome.1.Valid := by
  rw [transitioned.updated]
  refine ⟨?_, ?_, valid.uniquePayloads, ?_, ?_⟩
  · simpa [map_transitionedRows (·.operationId) _ _ _ _ fun _ => rfl] using valid.uniqueIds
  · simpa [map_transitionedRows (·.scope) _ _ _ _ fun _ => rfl] using valid.uniqueScopes
  · intro stored member
    have ids : stored.operationId ∈ store.operations.map (·.operationId) := by
      obtain ⟨owner, ownerMember, same⟩ := valid.ownedPayloads stored member
      exact List.mem_map.mpr ⟨owner, ownerMember, same⟩
    rw [← map_transitionedRows (·.operationId) arguments row.operationRevision row.operationId
      store.operations fun _ => rfl] at ids
    obtain ⟨owner, ownerMember, same⟩ := List.mem_map.mp ids
    exact ⟨owner, ownerMember, same⟩
  · intro other member
    rcases (mem_transitionedRows _ _ _ _ _).mp member with ⟨old, -⟩ | ⟨previous, _, _, rfl⟩
    · exact valid.lifecycles other old
    · exact ⟨Nat.succ_pos _, transitioned.bounded,
        le_trans (cString_length_le _) transitioned.validReference, arguments.nextState, rfl⟩

theorem step_valid (store : Store) (request : Request) (valid : store.Valid) :
    (step store request).1.Valid := by
  rcases step_effect store valid request with ⟨same, -⟩ | ⟨_, _, -, reserved⟩ | ⟨_, _, _, -, transitioned⟩
  · rwa [same]
  · exact reserved.valid valid
  · exact transitioned.valid valid

theorem Store.Valid.empty : Store.Valid {} := by
  refine ⟨?_, ?_, ?_, ?_, ?_⟩ <;> simp

theorem runStore_valid (requests : List Request) : (runStore requests).Valid :=
  Run.final_preserves step Store.Valid step_valid {} Store.Valid.empty requests

/-! ## What later calls keep -/

/-- Rows are never removed, keep their identity columns and never go back in time; payload rows are
kept as they are, and none appears for an operation that was already stored. -/
structure Store.Continues (earlier later : Store) : Prop where
  operations : ∀ row ∈ earlier.operations, ∃ successor ∈ later.operations,
    successor.identity = row.identity ∧ row.updatedAt ≤ successor.updatedAt
  payloads : ∀ payload ∈ earlier.payloads, payload ∈ later.payloads
  noLatePayload : ∀ payload ∈ later.payloads, payload ∉ earlier.payloads →
    ∀ row ∈ earlier.operations, row.operationId ≠ payload.operationId

theorem Store.Continues.refl (store : Store) : store.Continues store where
  operations row member := ⟨row, member, rfl, le_refl _⟩
  payloads _ member := member
  noLatePayload _ member absent := absurd member absent

theorem Store.Continues.trans {first second third : Store} (earlier : first.Continues second)
    (later : second.Continues third) : first.Continues third where
  operations row member := by
    obtain ⟨middle, middleMember, middleSame, middleTime⟩ := earlier.operations row member
    obtain ⟨last, lastMember, lastSame, lastTime⟩ := later.operations middle middleMember
    exact ⟨last, lastMember, lastSame.trans middleSame, le_trans middleTime lastTime⟩
  payloads payload member := later.payloads payload (earlier.payloads payload member)
  noLatePayload payload member absent row rowMember := by
    by_cases present : payload ∈ second.payloads
    · exact earlier.noLatePayload payload present absent row rowMember
    · obtain ⟨middle, middleMember, middleSame, -⟩ := earlier.operations row rowMember
      rw [← MutationOperationRow.operationId_of_identity middleSame]
      exact later.noLatePayload payload member present middle middleMember

theorem Reserved.continues {store : Store} {operation : MutationOperation}
    {payload : Option MutationOperationPayload}
    {outcome : Store × MutationOperationRepositoryResult}
    (reserved : Reserved store operation payload outcome) : store.Continues outcome.1 := by
  rw [reserved.inserted]
  refine ⟨?_, fun _ member => List.mem_append_left _ member, ?_⟩
  · intro row member
    exact ⟨row, List.mem_append_left _ member, rfl, le_refl _⟩
  · intro stored member absent row rowMember
    rcases List.mem_append.mp member with old | new
    · exact absurd old absent
    · cases payload with
      | none => simp at new
      | some value =>
        simp only [Option.map_some, Option.toList_some, List.mem_singleton] at new
        rw [new]
        simp only [payloadRow, (reserved.validPayload value rfl).2]
        exact reserved.freshId row rowMember

theorem Transitioned.continues {environment : Environment} {store : Store} {arguments : TransitionArguments}
    {row : MutationOperationRow} {current : MutationOperation}
    {outcome : Store × MutationOperationRepositoryResult} (valid : store.Valid)
    (transitioned : Transitioned environment store arguments row current outcome) :
    store.Continues outcome.1 := by
  rw [transitioned.updated]
  refine ⟨?_, fun _ member => member, fun _ member absent => absurd member absent⟩
  intro other member
  by_cases addressed : other.operationId = row.operationId
  · have same := valid.row_unique member transitioned.member addressed
    refine ⟨transitionedRow arguments row.operationRevision other, ?_, rfl, ?_⟩
    · exact (mem_transitionedRows _ _ _ _ _).mpr (.inr ⟨other, member, addressed, rfl⟩)
    · rw [same]
      exact transitioned.ordered
  · exact ⟨other, (mem_transitionedRows _ _ _ _ _).mpr (.inl ⟨member, addressed⟩), rfl, le_refl _⟩

theorem step_continues (store : Store) (request : Request) (valid : store.Valid) :
    store.Continues (step store request).1 := by
  rcases step_effect store valid request with ⟨same, -⟩ | ⟨_, _, -, reserved⟩ | ⟨_, _, _, -, transitioned⟩
  · rw [same]
    exact .refl store
  · exact reserved.continues
  · exact transitioned.continues valid

theorem runStore_continues (earlier later : List Request) :
    (runStore earlier).Continues (runStore (earlier ++ later)) := by
  rw [runStore, runStore, Run.final_append]
  exact Run.final_relates step Store.Valid (fun _ _ => True) Store.Continues .refl
    (fun _ _ _ first second => first.trans second) step_valid
    (fun store request valid _ => step_continues store request valid) _ (runStore_valid earlier)
    later fun _ _ _ _ => trivial

/-! ## Histories -/

abbrev Journal := List (Request × MutationOperationRepositoryResult)

def transitionOn (operationId : Bytes) (entry : Request × MutationOperationRepositoryResult) :
    Option MutationOperationState :=
  match entry.1.call with
  | .transition arguments =>
    if cString arguments.operationId = operationId ∧ entry.2.status = .ok then
      some arguments.nextState
    else none
  | _ => none

def transitionsOn (operationId : Bytes) (journal : Journal) : List MutationOperationState :=
  journal.filterMap (transitionOn operationId)

def historyOf (operationId : Bytes) (journal : Journal) : List MutationOperationState :=
  .accepted :: transitionsOn operationId journal

structure FollowsHistory (row : MutationOperationRow) (states : List MutationOperationState) :
    Prop where
  path : states.IsChain fun source target => mutationOperationTransitionAllowed source target = true
  state : ∃ last, states.getLast? = some last ∧ row.state = mutationOperationStateName last
  revision : row.operationRevision = states.length

structure Journaled (store : Store) (journal : Journal) : Prop where
  valid : store.Valid
  histories : ∀ row ∈ store.operations, FollowsHistory row (historyOf row.operationId journal)
  known : ∀ operationId, transitionsOn operationId journal ≠ [] →
    ∃ row ∈ store.operations, row.operationId = operationId

private theorem transitionsOn_concat (operationId : Bytes) (journal : Journal)
    (entry : Request × MutationOperationRepositoryResult) :
    transitionsOn operationId (journal ++ [entry]) =
      transitionsOn operationId journal ++ (transitionOn operationId entry).toList := by
  cases moved : transitionOn operationId entry <;> simp [transitionsOn, moved]

private theorem historyOf_concat_of_none (operationId : Bytes) (journal : Journal)
    (entry : Request × MutationOperationRepositoryResult)
    (still : transitionOn operationId entry = none) :
    historyOf operationId (journal ++ [entry]) = historyOf operationId journal := by
  simp [historyOf, transitionsOn_concat, still]

private theorem transitionOn_of_refused (operationId : Bytes) (request : Request)
    (result : MutationOperationRepositoryResult) (refused : result.status ≠ .ok) :
    transitionOn operationId (request, result) = none := by
  simp only [transitionOn]
  split
  · simp [refused]
  · rfl

private theorem transitionOn_of_reservation (operationId : Bytes) (request : Request)
    (result : MutationOperationRepositoryResult)
    (reservation : MutationOperation × Option MutationOperationPayload)
    (reserves : request.call.reservation = some reservation) :
    transitionOn operationId (request, result) = none := by
  cases call : request.call with
  | transition arguments => simp [call, Call.reservation] at reserves
  | reserve operation => simp [transitionOn, call]
  | reserveWithPayload operation payload => simp [transitionOn, call]

private theorem Journaled.of_still {store next : Store} {journal : Journal}
    {entry : Request × MutationOperationRepositoryResult} (journaled : Journaled store journal)
    (valid : next.Valid) (still : ∀ operationId, transitionOn operationId entry = none)
    (kept : ∀ row ∈ store.operations, row ∈ next.operations)
    (fresh : ∀ row ∈ next.operations, row ∉ store.operations →
      FollowsHistory row (historyOf row.operationId journal)) :
    Journaled next (journal ++ [entry]) := by
  refine ⟨valid, ?_, ?_⟩
  · intro row member
    rw [historyOf_concat_of_none _ _ _ (still _)]
    by_cases old : row ∈ store.operations
    · exact journaled.histories row old
    · exact fresh row member old
  · intro operationId moved
    rw [transitionsOn_concat, still, Option.toList_none, List.append_nil] at moved
    obtain ⟨row, member, same⟩ := journaled.known operationId moved
    exact ⟨row, kept row member, same⟩

private theorem Journaled.reserved {store : Store} {journal : Journal} {request : Request}
    {operation : MutationOperation} {payload : Option MutationOperationPayload}
    (journaled : Journaled store journal)
    (reserves : request.call.reservation = some (operation, payload))
    (reserved : Reserved store operation payload (step store request)) :
    Journaled (step store request).1 (journal ++ [(request, (step store request).2)]) := by
  refine journaled.of_still (reserved.valid journaled.valid)
    (fun operationId => transitionOn_of_reservation operationId request _ _ reserves) ?_ ?_
  · intro row member
    rw [reserved.inserted]
    exact List.mem_append_left _ member
  · intro row member fresh
    rw [reserved.inserted] at member
    have created : row = operationRow operation := by simpa [fresh] using member
    have unmoved : transitionsOn row.operationId journal = [] := by
      by_contra moved
      obtain ⟨other, otherMember, same⟩ := journaled.known _ moved
      rw [created] at same
      exact reserved.freshId other otherMember same
    have accepted : operation.state = .accepted := by
      have valid := reserved.validOperation
      simp only [mutationOperationValidForCreate, Bool.and_eq_true, beq_iff_eq] at valid
      exact valid.1.1.2
    rw [historyOf, unmoved]
    refine ⟨by simp, ⟨.accepted, rfl, ?_⟩, ?_⟩
    · rw [created, operationRow, accepted]
    · rw [created]
      rfl

private theorem Journaled.transitioned {store : Store} {journal : Journal} {request : Request}
    {arguments : TransitionArguments} {row : MutationOperationRow} {current : MutationOperation}
    (journaled : Journaled store journal) (call : request.call = .transition arguments)
    (transitioned : Transitioned request.environment store arguments row current (step store request)) :
    Journaled (step store request).1 (journal ++ [(request, (step store request).2)]) := by
  have entry : ∀ operationId, transitionOn operationId (request, (step store request).2) =
      if row.operationId = operationId then some arguments.nextState else none := by
    intro operationId
    simp [transitionOn, call, transitioned.succeeded, ← transitioned.addressed]
  refine ⟨transitioned.valid journaled.valid, ?_, ?_⟩
  · intro other member
    rw [transitioned.updated] at member
    rcases (mem_transitionedRows _ _ _ _ _).mp member with ⟨old, elsewhere⟩ | ⟨previous, old, here, rfl⟩
    · rw [historyOf_concat_of_none _ _ _ (by simp [entry, Ne.symm elsewhere])]
      exact journaled.histories other old
    · have same := journaled.valid.row_unique old transitioned.member here
      subst same
      obtain ⟨path, ⟨last, lastState, named⟩, revision⟩ := journaled.histories previous old
      have reached : last = current.state := by
        refine mutationOperationStateName_injective _ _ (named.symm.trans ?_)
        exact (readOperation_some previous current transitioned.readable).state
      have extended : historyOf previous.operationId (journal ++ [(request, (step store request).2)]) =
          historyOf previous.operationId journal ++ [arguments.nextState] := by
        simp [historyOf, transitionsOn_concat, entry]
      change FollowsHistory _ (historyOf previous.operationId _)
      rw [extended]
      refine ⟨path.append (List.isChain_singleton _) ?_, ⟨arguments.nextState, by simp, rfl⟩, ?_⟩
      · intro source isLast target isHead
        rw [lastState, reached] at isLast
        cases isLast
        cases isHead
        exact transitioned.allowed
      · simp [transitionedRow, revision]
  · intro operationId moved
    have ids : operationId ∈ store.operations.map (·.operationId) := by
      rw [transitionsOn_concat, entry] at moved
      by_cases here : row.operationId = operationId
      · exact List.mem_map.mpr ⟨row, transitioned.member, here⟩
      · rw [if_neg here, Option.toList_none, List.append_nil] at moved
        obtain ⟨other, member, same⟩ := journaled.known operationId moved
        exact List.mem_map.mpr ⟨other, member, same⟩
    rw [← map_transitionedRows (·.operationId) arguments row.operationRevision row.operationId
      store.operations fun _ => rfl] at ids
    obtain ⟨other, member, same⟩ := List.mem_map.mp ids
    rw [transitioned.updated]
    exact ⟨other, member, same⟩

theorem run_journaled (requests : List Request) :
    Journaled (runStore requests) (runJournal requests) := by
  refine Run.final_journal_preserves step Journaled {} ⟨.empty, by simp, by simp [transitionsOn]⟩ ?_
    requests
  intro store journal request journaled
  rcases step_effect store journaled.valid request with
    ⟨same, refused⟩ | ⟨operation, payload, reserves, reserved⟩ | ⟨arguments, row, current, call, transitioned⟩
  · refine journaled.of_still (step_valid store request journaled.valid)
      (fun operationId => transitionOn_of_refused operationId request _ refused) ?_ ?_
    · rw [same]
      exact fun _ member => member
    · rw [same]
      exact fun row member absent => absurd member absent
  · exact journaled.reserved reserves reserved
  · exact journaled.transitioned call transitioned

/-! ## Creation -/

/-- A row that did not exist before one `ok` reservation of the run and carries its identity. -/
def CreatedBy (requests : List Request) (row : MutationOperationRow) : Prop :=
  ∃ earlier request later operation payload,
    requests = earlier ++ request :: later ∧
    request.call.reservation = some (operation, payload) ∧
    (step (runStore earlier) request).2.status = .ok ∧
    (∀ old ∈ (runStore earlier).operations, old.operationId ≠ row.operationId) ∧
    operationRow operation ∈ (step (runStore earlier) request).1.operations ∧
    row.identity = (operationRow operation).identity

/-- A payload row inserted by the `ok` reservation that also inserted its operation. -/
def CreatedWithOperation (requests : List Request) (row : MutationOperationPayloadRow) : Prop :=
  ∃ earlier request later operation payload,
    requests = earlier ++ request :: later ∧
    request.call = .reserveWithPayload operation payload ∧
    (step (runStore earlier) request).2.status = .ok ∧
    (∀ old ∈ (runStore earlier).operations, old.operationId ≠ row.operationId) ∧
    operationRow operation ∈ (step (runStore earlier) request).1.operations ∧
    (operationRow operation).operationId = row.operationId ∧
    row = payloadRow payload

theorem CreatedBy.extend {requests : List Request} {row successor : MutationOperationRow}
    (created : CreatedBy requests row) (request : Request) (same : successor.identity = row.identity) :
    CreatedBy (requests ++ [request]) successor := by
  obtain ⟨earlier, creator, later, operation, payload, split, reserves, accepted, fresh, stored, identity⟩ :=
    created
  refine ⟨earlier, creator, later ++ [request], operation, payload, by simp [split], reserves, accepted, ?_,
    stored, same.trans identity⟩
  rwa [MutationOperationRow.operationId_of_identity same]

theorem CreatedWithOperation.extend {requests : List Request} {row : MutationOperationPayloadRow}
    (created : CreatedWithOperation requests row) (request : Request) :
    CreatedWithOperation (requests ++ [request]) row := by
  obtain ⟨earlier, creator, later, operation, payload, split, facts⟩ := created
  exact ⟨earlier, creator, later ++ [request], operation, payload, by simp [split], facts⟩

theorem runStore_concat (requests : List Request) (request : Request) :
    runStore (requests ++ [request]) = (step (runStore requests) request).1 :=
  Run.final_concat step {} requests request

theorem run_operation_created (requests : List Request) :
    ∀ row ∈ (runStore requests).operations, CreatedBy requests row := by
  induction requests using List.reverseRecOn with
  | nil => simp [runStore]
  | append_singleton earlier request ih =>
    rw [runStore_concat]
    rcases step_effect (runStore earlier) (runStore_valid earlier) request with
      ⟨same, -⟩ | ⟨operation, payload, reserves, reserved⟩ | ⟨arguments, target, current, -, transitioned⟩
    · rw [same]
      exact fun row member => (ih row member).extend request rfl
    · intro row member
      by_cases old : row ∈ (runStore earlier).operations
      · exact (ih row old).extend request rfl
      · have created : row = operationRow operation := by
          rw [reserved.inserted] at member
          simpa [old] using member
        refine ⟨earlier, request, [], operation, payload, rfl, reserves, ?_, ?_, ?_, by rw [created]⟩
        · rw [reserved.inserted]
          rfl
        · rw [created]
          exact reserved.freshId
        · exact created ▸ member
    · rw [transitioned.updated]
      intro row member
      rcases (mem_transitionedRows _ _ _ _ _).mp member with ⟨old, -⟩ | ⟨previous, old, -, rfl⟩
      · exact (ih row old).extend request rfl
      · exact (ih previous old).extend request rfl

theorem run_payload_created (requests : List Request) :
    ∀ row ∈ (runStore requests).payloads, CreatedWithOperation requests row := by
  induction requests using List.reverseRecOn with
  | nil => simp [runStore]
  | append_singleton earlier request ih =>
    rw [runStore_concat]
    rcases step_effect (runStore earlier) (runStore_valid earlier) request with
      ⟨same, -⟩ | ⟨operation, payload, reserves, reserved⟩ | ⟨arguments, target, current, -, transitioned⟩
    · rw [same]
      exact fun row member => (ih row member).extend request
    · intro row member
      by_cases old : row ∈ (runStore earlier).payloads
      · exact (ih row old).extend request
      · rw [reserved.inserted] at member
        cases payload with
        | none => simp [old] at member
        | some value =>
          have created : row = payloadRow value := by simpa [old] using member
          have sameId : (operationRow operation).operationId = (payloadRow value).operationId :=
            congrArg cString (reserved.validPayload value rfl).2.symm
          have call : request.call = .reserveWithPayload operation value := by
            cases shape : request.call <;> simp_all [Call.reservation]
          refine ⟨earlier, request, [], operation, value, rfl, call, ?_, ?_, ?_, ?_, created⟩
          · rw [reserved.inserted]
            rfl
          · rw [created, ← sameId]
            exact reserved.freshId
          · rw [reserved.inserted]
            simp
          · rw [created, sameId]
    · rw [transitioned.updated]
      exact fun row member => (ih row member).extend request

structure RepositoryRunInvariant (requests : List Request) : Prop where
  uniqueIds : ((runStore requests).operations.map (·.operationId)).Nodup
  uniqueScopes : ((runStore requests).operations.map (·.scope)).Nodup
  created : ∀ row ∈ (runStore requests).operations, CreatedBy requests row
  identityKept : ∀ earlier later, requests = earlier ++ later →
    ∀ row ∈ (runStore earlier).operations, ∃ successor ∈ (runStore requests).operations,
      successor.identity = row.identity ∧ row.updatedAt ≤ successor.updatedAt
  historyIsPath : ∀ row ∈ (runStore requests).operations,
    (historyOf row.operationId (runJournal requests)).IsChain
      fun source target => mutationOperationTransitionAllowed source target = true
  historyEndsInState : ∀ row ∈ (runStore requests).operations,
    ∃ last, (historyOf row.operationId (runJournal requests)).getLast? = some last ∧
      row.state = mutationOperationStateName last
  revisionCounts : ∀ row ∈ (runStore requests).operations,
    row.operationRevision = 1 + (transitionsOn row.operationId (runJournal requests)).length
  uniquePayloads : ((runStore requests).payloads.map (·.operationId)).Nodup
  payloadCreated : ∀ row ∈ (runStore requests).payloads, CreatedWithOperation requests row
  payloadKept : ∀ earlier later, requests = earlier ++ later →
    ∀ row ∈ (runStore earlier).payloads, row ∈ (runStore requests).payloads
  failureChangesNothing : ∀ earlier request later, requests = earlier ++ request :: later →
    (step (runStore earlier) request).2.status ≠ .ok →
    (step (runStore earlier) request).1 = runStore earlier

theorem repository_run_invariant (requests : List Request) : RepositoryRunInvariant requests where
  uniqueIds := (runStore_valid requests).uniqueIds
  uniqueScopes := (runStore_valid requests).uniqueScopes
  created := run_operation_created requests
  identityKept earlier later split row member := by
    rw [split]
    exact (runStore_continues earlier later).operations row member
  historyIsPath row member := ((run_journaled requests).histories row member).path
  historyEndsInState row member := ((run_journaled requests).histories row member).state
  revisionCounts row member := by
    rw [((run_journaled requests).histories row member).revision, historyOf, List.length_cons,
      Nat.add_comm]
  uniquePayloads := (runStore_valid requests).uniquePayloads
  payloadCreated := run_payload_created requests
  payloadKept earlier later split row member := by
    rw [split]
    exact (runStore_continues earlier later).payloads row member
  failureChangesNothing earlier request later _ refused := by
    rcases step_effect (runStore earlier) (runStore_valid earlier) request with
      ⟨same, -⟩ | ⟨_, _, -, reserved⟩ | ⟨_, _, _, -, transitioned⟩
    · exact same
    · rw [reserved.inserted] at refused
      exact absurd rfl refused
    · exact absurd transitioned.succeeded refused

end VdrSuite.Operations
