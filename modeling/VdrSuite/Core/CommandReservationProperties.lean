import VdrSuite.Core.CommandLedger
import VdrSuite.Core.CommandReservation

/-! At most one active command for each reserved operation, whatever callers do in between. -/

set_option autoImplicit false

namespace VdrSuite.Core

open Library Agent

/-- What the reservation table and `activate` mean by one operation. -/
def operationKey (assignment : BackendAgentCommandAssignment) : Bytes × Bytes × Bytes :=
  (assignment.backendId, assignment.operationId, assignment.commandType)

theorem forOperation_iff {assignment row : BackendAgentCommandAssignment} :
    forOperation assignment.backendId assignment.operationId assignment.commandType row = true ↔
      operationKey row = (cString assignment.backendId, cString assignment.operationId,
        cString assignment.commandType) := by
  simp [forOperation, operationKey, Bool.and_eq_true, and_assoc]

/-! ## Assignments without truncation -/

theorem valid_identifiers {assignment : BackendAgentCommandAssignment}
    (valid : backendAgentCommandValidAssignment assignment = true) :
    backendAgentCommandSafeIdentifier assignment.commandId = true ∧
      backendAgentCommandSafeIdentifier assignment.backendId = true ∧
      backendAgentCommandSafeIdentifier assignment.operationId = true := by
  simp only [backendAgentCommandValidAssignment, Bool.and_eq_true] at valid
  obtain ⟨⟨⟨⟨⟨⟨⟨⟨⟨⟨⟨⟨⟨⟨⟨⟨-, -⟩, -⟩, operation⟩, -⟩, -⟩, -⟩, command⟩, backend⟩, -⟩, -⟩, -⟩, -⟩, -⟩, -⟩,
    -⟩, -⟩ := valid
  exact ⟨command, backend, operation⟩

theorem valid_payload {assignment : BackendAgentCommandAssignment}
    (valid : backendAgentCommandValidAssignment assignment = true) :
    validCommandPayload assignment = true := by
  simp only [backendAgentCommandValidAssignment, Bool.and_eq_true] at valid
  exact valid.1.1.1.1.2

theorem valid_fingerprint {assignment : BackendAgentCommandAssignment}
    (valid : backendAgentCommandValidAssignment assignment = true) :
    assignment.requestFingerprint = backendAgentCommandFingerprint assignment := by
  simp only [backendAgentCommandValidAssignment, Bool.and_eq_true, beq_iff_eq] at valid
  exact valid.2

theorem operationKey_cString {assignment : BackendAgentCommandAssignment}
    (valid : backendAgentCommandValidAssignment assignment = true) :
    (cString assignment.backendId, cString assignment.operationId,
      cString assignment.commandType) = operationKey assignment := by
  obtain ⟨-, backend, operation⟩ := valid_identifiers valid
  rw [cString_safeIdentifier _ backend, cString_safeIdentifier _ operation,
    cString_safeIdentifier _ (validCommandPayload_identifiers (valid_payload valid)).1]
  rfl

theorem boundAssignment_eq {assignment : BackendAgentCommandAssignment}
    (valid : backendAgentCommandValidAssignment assignment = true)
    (nulFree : (0 : UInt8) ∉ assignment.payload) :
    boundAssignment assignment = { assignment with present := true } := by
  obtain ⟨commandType, policy⟩ := validCommandPayload_identifiers (valid_payload valid)
  have fingerprint : cString assignment.requestFingerprint = assignment.requestFingerprint := by
    rw [valid_fingerprint valid]
    exact cString_stableIdentity _
  have payload := (cString_eq_self_iff _).mpr nulFree
  simp only [backendAgentCommandValidAssignment, Bool.and_eq_true, beq_iff_eq] at valid
  obtain ⟨⟨⟨⟨⟨⟨⟨⟨⟨⟨⟨⟨⟨⟨⟨⟨protocol, request⟩, correlation⟩, operation⟩, job⟩, attempt⟩, -⟩, command⟩,
    backend⟩, agent⟩, instanceId⟩, -⟩, -⟩, -⟩, -⟩, -⟩, -⟩ := valid
  have protocolVersion : cString assignment.protocolVersion = assignment.protocolVersion := by
    rw [protocol]
    decide
  simp only [boundAssignment, protocolVersion, cString_safeIdentifier _ request,
    cString_safeIdentifier _ correlation, cString_safeIdentifier _ operation,
    cString_safeIdentifier _ job, cString_safeIdentifier _ attempt,
    cString_safeIdentifier _ command, cString_safeIdentifier _ backend,
    cString_safeIdentifier _ agent, cString_safeIdentifier _ instanceId,
    cString_safeIdentifier _ commandType, cString_safeIdentifier _ policy, fingerprint, payload]

/-! ## Readable reservations -/

structure ReservationReadable (row : BackendAgentCommandReservation) : Prop where
  assignment : backendAgentCommandValidAssignment row.assignment = true
  fingerprint : row.assignmentFingerprint = backendAgentCommandFingerprint row.assignment
  unselected : row.localProviderSelection = none → row.localProviderSelectionIdentity = []
  selected : ∀ selection, row.localProviderSelection = some selection →
    backendAgentLocalProviderValidSelection selection = true ∧
      selection.backendId = row.assignment.backendId ∧
      selection.requiredCapability = row.assignment.commandType ∧
      row.localProviderSelectionIdentity = backendAgentLocalProviderSelectionIdentity selection

theorem readReservation_iff {row reservation : BackendAgentCommandReservation} :
    readReservation row = some reservation ↔ ReservationReadable row ∧ reservation = row := by
  unfold readReservation
  constructor
  · intro read
    by_cases valid : backendAgentCommandValidAssignment row.assignment = false ∨
        row.assignmentFingerprint ≠ backendAgentCommandFingerprint row.assignment
    · rw [if_pos valid] at read
      simp at read
    rw [if_neg valid] at read
    simp only [not_or, Bool.not_eq_false, ne_eq, not_not] at valid
    cases chosen : row.localProviderSelection with
    | none =>
      simp only [chosen, List.isEmpty_iff, Option.ite_none_right_eq_some, Option.some.injEq]
        at read
      exact ⟨⟨valid.1, valid.2, fun _ => read.1, by simp [chosen]⟩, read.2.symm⟩
    | some selection =>
      simp only [chosen, Bool.and_eq_true, beq_iff_eq, and_assoc,
        Option.ite_none_right_eq_some, Option.some.injEq] at read
      obtain ⟨selectionValid, backend, capability, identity, same⟩ := read
      refine ⟨⟨valid.1, valid.2, by simp [chosen], ?_⟩, same.symm⟩
      intro other selected
      rw [chosen, Option.some.injEq] at selected
      subst selected
      exact ⟨selectionValid, backend, capability, identity⟩
  · rintro ⟨⟨valid, fingerprint, unselected, selected⟩, rfl⟩
    rw [if_neg (by simp [valid, fingerprint])]
    cases chosen : reservation.localProviderSelection with
    | none => simp [unselected chosen]
    | some selection =>
      obtain ⟨selectionValid, backend, capability, identity⟩ := selected selection chosen
      simp [selectionValid, backend, capability, identity]

theorem selectReservation_some {rows : List BackendAgentCommandReservation}
    {whereClause : BackendAgentCommandReservation → Bool}
    {reservation : BackendAgentCommandReservation}
    (selected : selectReservation rows whereClause = .ok (some reservation)) :
    reservation ∈ rows ∧ whereClause reservation = true ∧ ReservationReadable reservation := by
  unfold selectReservation at selected
  split at selected
  · simp at selected
  · rename_i row found
    split at selected
    · simp at selected
    · rename_i read
      obtain ⟨readable, same⟩ := (readReservation_iff).mp read
      simp only [Except.ok.injEq, Option.some.injEq] at selected
      subst selected
      subst same
      exact ⟨List.mem_of_find?_eq_some found, List.find?_some found, readable⟩

theorem selectReservation_unique {rows : List BackendAgentCommandReservation}
    {whereClause : BackendAgentCommandReservation → Bool}
    {reservation : BackendAgentCommandReservation} (member : reservation ∈ rows)
    (holds : whereClause reservation = true) (readable : ReservationReadable reservation)
    (unique : ∀ row ∈ rows, whereClause row = true → row = reservation) :
    selectReservation rows whereClause = .ok (some reservation) := by
  have found : rows.find? whereClause = some reservation := by
    cases result : rows.find? whereClause with
    | none => exact absurd holds (List.find?_eq_none.mp result _ member)
    | some row =>
      rw [unique row (List.mem_of_find?_eq_some result) (List.find?_some result)]
  simp only [selectReservation, found, (readReservation_iff).mpr ⟨readable, rfl⟩]

/-! ## The reservation table -/

structure ReservationTableValid (rows : List BackendAgentCommandReservation) : Prop where
  stored : ∀ row ∈ rows, reservationRow row = row
  operationsUnique : (rows.map fun row => operationKey row.assignment).Nodup
  commandsUnique : (rows.map fun row => row.assignment.commandId).Nodup

theorem reservationRow_idempotent (reservation : BackendAgentCommandReservation) :
    reservationRow (reservationRow reservation) = reservationRow reservation := by
  cases chosen : reservation.localProviderSelection <;>
    simp [reservationRow, chosen, boundAssignment]

theorem insertReservation_some {rows updated : List BackendAgentCommandReservation}
    {reservation : BackendAgentCommandReservation}
    (inserted : insertReservation rows reservation = some updated) :
    updated = rows ++ [reservationRow reservation] ∧
      ∀ row ∈ rows, row.assignment.commandId ≠ cString reservation.assignment.commandId ∧
        operationKey row.assignment ≠ operationKey (boundAssignment reservation.assignment) := by
  unfold insertReservation at inserted
  dsimp only at inserted
  split at inserted
  · simp at inserted
  · rename_i admitted
    refine ⟨(Option.some.inj inserted).symm, ?_⟩
    intro row member
    simp only [Bool.or_eq_true, not_or, Bool.not_eq_true, List.any_eq_false, beq_eq_false_iff_ne]
      at admitted
    obtain ⟨command, operation⟩ := admitted.1.1.1 row member
    refine ⟨by simpa using command, ?_⟩
    intro same
    rw [(forOperation_iff).mpr same] at operation
    exact absurd operation (by decide)

/-- A call of `reserve` leaves the table as it is, or reserves what the input says. -/
theorem reserve_cases (works : Bool) (rows : List BackendAgentCommandReservation)
    (assignment : BackendAgentCommandAssignment)
    (selection : Option BackendAgentLocalProviderSelection) :
    ((reserve works rows assignment selection).1 = rows ∧
      (reserve works rows assignment selection).2.status ≠ .reserved) ∨
    (validReservationInput assignment selection = true ∧
      insertReservation rows (makeReservation assignment selection) =
        some (reserve works rows assignment selection).1) := by
  unfold reserve
  dsimp only
  split
  · exact .inl ⟨rfl, by simp⟩
  rename_i valid
  split
  · exact .inl ⟨rfl, by simp⟩
  split
  · exact .inl ⟨rfl, by simp⟩
  · refine .inl ⟨rfl, ?_⟩
    dsimp only
    split <;> simp
  split
  · exact .inl ⟨rfl, by simp⟩
  · refine .inl ⟨rfl, ?_⟩
    dsimp only
    split <;> simp
  split
  · exact .inl ⟨rfl, by simp⟩
  · rename_i updated inserted
    exact .inr ⟨by simpa using valid, inserted⟩

theorem ReservationTableValid.reserve {rows : List BackendAgentCommandReservation}
    (table : ReservationTableValid rows) (works : Bool)
    (assignment : BackendAgentCommandAssignment)
    (selection : Option BackendAgentLocalProviderSelection) :
    ReservationTableValid (reserve works rows assignment selection).1 := by
  obtain ⟨same, -⟩ | ⟨-, inserted⟩ := reserve_cases works rows assignment selection
  · rw [same]
    exact table
  · obtain ⟨updated, fresh⟩ := insertReservation_some inserted
    rw [updated]
    refine ⟨?_, ?_, ?_⟩
    · intro row member
      obtain member | added := List.mem_append.mp member
      · exact table.stored row member
      · rw [List.mem_singleton.mp added]
        exact reservationRow_idempotent _
    · rw [List.map_append]
      refine nodup_append_singleton table.operationsUnique ?_
      intro taken
      obtain ⟨row, member, same⟩ := List.mem_map.mp taken
      exact (fresh row member).2 same
    · rw [List.map_append]
      refine nodup_append_singleton table.commandsUnique ?_
      intro taken
      obtain ⟨row, member, same⟩ := List.mem_map.mp taken
      exact (fresh row member).1 same

theorem ReservationTableValid.operation {rows : List BackendAgentCommandReservation}
    (table : ReservationTableValid rows) {left right : BackendAgentCommandReservation}
    (leftMember : left ∈ rows) (rightMember : right ∈ rows)
    (same : operationKey left.assignment = operationKey right.assignment) : left = right :=
  List.inj_on_of_nodup_map table.operationsUnique leftMember rightMember same

theorem ReservationTableValid.command {rows : List BackendAgentCommandReservation}
    (table : ReservationTableValid rows) {left right : BackendAgentCommandReservation}
    (leftMember : left ∈ rows) (rightMember : right ∈ rows)
    (same : left.assignment.commandId = right.assignment.commandId) : left = right :=
  List.inj_on_of_nodup_map table.commandsUnique leftMember rightMember same

theorem reserve_subset (works : Bool) (rows : List BackendAgentCommandReservation)
    (assignment : BackendAgentCommandAssignment)
    (selection : Option BackendAgentLocalProviderSelection) :
    rows ⊆ (reserve works rows assignment selection).1 := by
  obtain ⟨same, -⟩ | ⟨-, inserted⟩ := reserve_cases works rows assignment selection
  · rw [same]
    exact List.Subset.refl rows
  · rw [(insertReservation_some inserted).1]
    exact List.subset_append_left _ _

/-! ## Commands inserted for readable reservations -/

theorem firstAssigned_mem {rows : List CommandRow} {row : CommandRow}
    (first : firstAssigned rows = some row) : row ∈ rows := by
  induction rows with
  | nil => simp [firstAssigned] at first
  | cons head rest ih =>
    unfold firstAssigned at first
    cases later : firstAssigned rest with
    | none =>
      simp only [later, Option.some.injEq] at first
      simp [first]
    | some other =>
      simp only [later] at first
      split at first
      · exact List.mem_cons_of_mem _ (ih (by rw [later]; exact first))
      · rw [Option.some.inj first]
        exact List.mem_cons_self

theorem firstAssigned_none {rows : List CommandRow} (first : firstAssigned rows = none) :
    rows = [] := by
  cases rows with
  | nil => rfl
  | cons head rest =>
    unfold firstAssigned at first
    cases later : firstAssigned rest with
    | none => simp [later] at first
    | some other =>
      simp only [later] at first
      split at first <;> simp at first

theorem findAssignmentForOperation_some {works : Bool} {ledger : Ledger}
    {assignment found : BackendAgentCommandAssignment}
    (result : findAssignmentForOperation works ledger assignment.backendId assignment.operationId
      assignment.commandType = some found) :
    ∃ row ∈ ledger.commands, row.assignment = found ∧
      operationKey found = (cString assignment.backendId, cString assignment.operationId,
        cString assignment.commandType) := by
  unfold findAssignmentForOperation at result
  split at result
  · simp at result
  · obtain ⟨row, first, same⟩ := Option.map_eq_some_iff.mp result
    obtain ⟨member, fits⟩ := List.mem_filter.mp (firstAssigned_mem first)
    exact ⟨row, member, same, same ▸ (forOperation_iff).mp fits⟩

theorem findAssignmentForOperation_none {ledger : Ledger}
    {assignment : BackendAgentCommandAssignment}
    (valid : backendAgentCommandValidAssignment assignment = true) :
    findAssignmentForOperation true ledger assignment.backendId assignment.operationId
        assignment.commandType = none ↔
      ∀ row ∈ ledger.commands, operationKey row.assignment ≠ operationKey assignment := by
  obtain ⟨-, backend, operation⟩ := valid_identifiers valid
  have commandType := (validCommandPayload_identifiers (valid_payload valid)).1
  unfold findAssignmentForOperation
  rw [if_neg (by simp [backend, operation, commandType]), Option.map_eq_none_iff]
  constructor
  · intro none row member same
    have absent := List.filter_eq_nil_iff.mp (firstAssigned_none none) row member
    exact absent ((forOperation_iff).mpr (by rw [same, operationKey_cString valid]))
  · intro absent
    cases first : firstAssigned (ledger.commands.filter fun row => forOperation
        assignment.backendId assignment.operationId assignment.commandType row.assignment) with
    | none => rfl
    | some row =>
      obtain ⟨member, fits⟩ := List.mem_filter.mp (firstAssigned_mem first)
      rw [forOperation_iff, operationKey_cString valid] at fits
      exact absurd fits (absent row member)

theorem insertAssignment_false {works : Bool} {ledger : Ledger}
    {assignment : BackendAgentCommandAssignment}
    {selection : Option BackendAgentLocalProviderSelection}
    (refused : (insertAssignment works ledger assignment selection).2 = false) :
    (insertAssignment works ledger assignment selection).1 = ledger := by
  unfold insertAssignment at refused ⊢
  dsimp only at refused ⊢
  split
  · rfl
  split
  · rfl
  · rename_i invalid conflicting
    rw [if_neg invalid, if_neg conflicting] at refused
    split at refused
    · rfl
    · simp at refused

theorem insertSelection_some {ledger updated : Ledger} {commandId : Bytes}
    {selection : Option BackendAgentLocalProviderSelection}
    (inserted : insertSelection ledger commandId selection = some updated) :
    updated = { ledger with
      selections := ledger.selections ++ (selection.map (selectionRow commandId)).toList } := by
  cases selection with
  | none => simpa [insertSelection] using inserted.symm
  | some chosen =>
    simp only [insertSelection] at inserted
    split at inserted
    · simp at inserted
    · simpa using inserted.symm

theorem insertAssignment_true {works : Bool} {ledger : Ledger}
    {assignment : BackendAgentCommandAssignment}
    {selection : Option BackendAgentLocalProviderSelection}
    (inserted : (insertAssignment works ledger assignment selection).2 = true) :
    (∀ row ∈ ledger.commands, conflictsWith assignment row = false) ∧
      (insertAssignment works ledger assignment selection).1 =
        { ledger with
          commands := ledger.commands ++
            [{ assignment := boundAssignment assignment, updatedAt := assignment.assignedAt }]
          selections := ledger.selections ++
            (selection.map (selectionRow assignment.commandId)).toList } := by
  unfold insertAssignment at inserted ⊢
  dsimp only at inserted ⊢
  split at inserted
  · simp at inserted
  split at inserted
  · simp at inserted
  · rename_i invalid conflicting
    rw [if_neg invalid, if_neg conflicting]
    simp only [not_or, Bool.not_eq_true, List.any_eq_false] at conflicting
    refine ⟨fun row member => by simpa using conflicting.2 row member, ?_⟩
    split at inserted
    · simp at inserted
    · rename_i updated selected
      rw [insertSelection_some selected]

/-! ## The invariant -/

def ActivationStage.reservation : ActivationStage → Option BackendAgentCommandReservation
  | .findReservation | .done _ => none
  | .findActive reservation _ | .readSelection reservation _ _ | .findExisting reservation
  | .insert reservation => some reservation

def ActivatesReservation (ledger : Ledger) (row : CommandRow)
    (reservation : BackendAgentCommandReservation) : Prop :=
  row.assignment = reservation.assignment ∧
    localProviderSelectionForCommand ledger row.assignment.commandId =
      reservation.localProviderSelection

structure ReservationStateValid (state : ReservationState) : Prop where
  table : ReservationTableValid state.reservations
  commandsUnique : (state.ledger.commands.map fun row => row.assignment.commandId).Nodup
  reserved : ∀ row ∈ state.ledger.commands, ∃ reservation ∈ state.reservations,
    ReservationReadable reservation ∧ ActivatesReservation state.ledger row reservation
  selectionsOwned : ∀ recorded ∈ state.ledger.selections,
    ∃ row ∈ state.ledger.commands, row.assignment.commandId = recorded.commandId
  stages : ∀ activation ∈ state.activations, ∀ reservation,
    activation.stage.reservation = some reservation →
      reservation ∈ state.reservations ∧ ReservationReadable reservation

theorem reservationStateValid_empty : ReservationStateValid {} :=
  ⟨⟨by simp, List.nodup_nil, List.nodup_nil⟩, List.nodup_nil, by simp, by simp, by simp⟩

theorem readSelection_selectionRow {reservation : BackendAgentCommandReservation}
    (stored : reservationRow reservation = reservation)
    (readable : ReservationReadable reservation)
    {selection : BackendAgentLocalProviderSelection}
    (selected : reservation.localProviderSelection = some selection) :
    readSelection (selectionRow reservation.assignment.commandId selection) = some selection := by
  obtain ⟨valid, backend, -, identity⟩ := readable.selected selection selected
  have identityKept := congrArg BackendAgentCommandReservation.localProviderSelectionIdentity stored
  have selectionKept := congrArg BackendAgentCommandReservation.localProviderSelection stored
  simp only [reservationRow, selected, Option.map_some, Option.some.injEq] at selectionKept
  rw [reservationRow, identity] at identityKept
  have bound : (selectionRow reservation.assignment.commandId selection).selection = selection := by
    rw [← backend] at selectionKept
    exact selectionKept
  rw [readSelection, bound, if_pos ⟨valid, identityKept⟩]

theorem localProviderSelectionForCommand_other {ledger : Ledger} {rows : List CommandRow}
    {added : List SelectionRow} {commandId : Bytes}
    (foreign : ∀ recorded ∈ added, recorded.commandId ≠ cString commandId) :
    localProviderSelectionForCommand
        { ledger with commands := rows, selections := ledger.selections ++ added } commandId =
      localProviderSelectionForCommand ledger commandId := by
  have absent : added.find? (fun recorded => recorded.commandId == cString commandId) = none := by
    rw [List.find?_eq_none]
    intro recorded member
    simpa using foreign recorded member
  simp only [localProviderSelectionForCommand, Ledger.selection, List.find?_append, absent,
    Option.or_none]

theorem boundAssignment_stored {reservation : BackendAgentCommandReservation}
    (stored : reservationRow reservation = reservation) :
    boundAssignment reservation.assignment = reservation.assignment :=
  congrArg BackendAgentCommandReservation.assignment stored

theorem ReservationStateValid.insert {state : ReservationState} (valid : ReservationStateValid state)
    {reservation : BackendAgentCommandReservation} (member : reservation ∈ state.reservations)
    (readable : ReservationReadable reservation) (works : Bool)
    (activations : List Activation)
    (stages : ∀ activation ∈ activations, ∀ reservation,
      activation.stage.reservation = some reservation →
        reservation ∈ state.reservations ∧ ReservationReadable reservation) :
    ReservationStateValid
      { state with
        ledger := (insertAssignment works state.ledger reservation.assignment
          reservation.localProviderSelection).1
        activations := activations } := by
  cases inserted : (insertAssignment works state.ledger reservation.assignment
      reservation.localProviderSelection).2 with
  | false =>
    rw [insertAssignment_false inserted]
    exact ⟨valid.table, valid.commandsUnique, valid.reserved, valid.selectionsOwned, stages⟩
  | true =>
    obtain ⟨free, updated⟩ := insertAssignment_true inserted
    have bound := boundAssignment_stored (valid.table.stored reservation member)
    have commandKept : cString reservation.assignment.commandId =
        reservation.assignment.commandId :=
      cString_safeIdentifier _ (valid_identifiers readable.assignment).1
    have fresh : ∀ row ∈ state.ledger.commands,
        row.assignment.commandId ≠ reservation.assignment.commandId := by
      intro row rowMember same
      have := free row rowMember
      simp [conflictsWith, same, commandKept] at this
    have unselected : ∀ recorded ∈ state.ledger.selections,
        recorded.commandId ≠ reservation.assignment.commandId := by
      intro recorded recordedMember same
      obtain ⟨row, rowMember, owned⟩ := valid.selectionsOwned recorded recordedMember
      exact fresh row rowMember (owned.trans same)
    have added : ∀ recorded ∈ (reservation.localProviderSelection.map
        (selectionRow reservation.assignment.commandId)).toList,
        recorded.commandId = reservation.assignment.commandId := by
      intro recorded recordedMember
      rw [Option.mem_toList, Option.map_eq_some_iff] at recordedMember
      obtain ⟨selection, -, rfl⟩ := recordedMember
      exact commandKept
    rw [updated, bound]
    refine ⟨valid.table, ?_, ?_, ?_, stages⟩
    · rw [List.map_append]
      refine nodup_append_singleton valid.commandsUnique ?_
      intro taken
      obtain ⟨row, rowMember, same⟩ := List.mem_map.mp taken
      exact fresh row rowMember same
    · intro row rowMember
      obtain rowMember | rowAdded := List.mem_append.mp rowMember
      · obtain ⟨source, sourceMember, sourceReadable, same, selected⟩ :=
          valid.reserved row rowMember
        refine ⟨source, sourceMember, sourceReadable, same, ?_⟩
        rw [localProviderSelectionForCommand_other, selected]
        intro recorded recordedMember clash
        have rowSafe := (valid_identifiers sourceReadable.assignment).1
        rw [← same] at rowSafe
        rw [added recorded recordedMember, cString_safeIdentifier _ rowSafe] at clash
        exact fresh row rowMember clash.symm
      · rw [List.mem_singleton.mp rowAdded]
        refine ⟨reservation, member, readable, rfl, ?_⟩
        have absent : state.ledger.selections.find? (fun recorded =>
            recorded.commandId == cString reservation.assignment.commandId) = none := by
          rw [List.find?_eq_none, commandKept]
          intro recorded recordedMember
          simpa using unselected recorded recordedMember
        rw [localProviderSelectionForCommand,
          if_neg (by simp [(valid_identifiers readable.assignment).1]), Ledger.selection,
          List.find?_append, absent, Option.none_or]
        cases selected : reservation.localProviderSelection with
        | none => rfl
        | some selection =>
          have own : (selectionRow reservation.assignment.commandId selection).commandId =
              cString reservation.assignment.commandId := rfl
          simp only [Option.map_some, Option.toList_some, List.find?_cons, own, beq_self_eq_true,
            Option.bind_some]
          exact readSelection_selectionRow (valid.table.stored reservation member) readable
            selected
    · intro recorded recordedMember
      obtain recordedMember | recordedAdded := List.mem_append.mp recordedMember
      · obtain ⟨row, rowMember, owned⟩ := valid.selectionsOwned recorded recordedMember
        exact ⟨row, List.mem_append_left _ rowMember, owned⟩
      · exact ⟨_, List.mem_append_right _ (List.mem_singleton_self _),
          (added recorded recordedAdded).symm⟩

theorem findByCommandId_reserved {works : Bool} {rows : List BackendAgentCommandReservation}
    {commandId : Bytes} {reservation : BackendAgentCommandReservation}
    (found : findByCommandId works rows commandId =
      { status := .reserved, reservation := reservation }) :
    reservation ∈ rows ∧ ReservationReadable reservation := by
  unfold findByCommandId at found
  split at found
  · simp at found
  split at found
  · simp at found
  split at found
  · simp at found
  · simp at found
  · rename_i selected
    obtain ⟨member, -, readable⟩ := selectReservation_some selected
    simp only [BackendAgentCommandReservationResult.mk.injEq, true_and] at found
    exact found ▸ ⟨member, readable⟩

theorem findByCommandId_status (works : Bool) (rows : List BackendAgentCommandReservation)
    (commandId : Bytes) :
    (findByCommandId works rows commandId).status ≠ .alreadyReserved := by
  unfold findByCommandId
  split
  · simp
  split
  · simp
  split <;> simp

theorem afterFinding_cases (works : Bool) (rows : List BackendAgentCommandReservation)
    (commandId : Bytes) :
    (∃ reservation, findByCommandId works rows commandId =
        { status := .reserved, reservation := reservation } ∧
      afterFinding (findByCommandId works rows commandId) = .findActive reservation false) ∨
    ∃ status, afterFinding (findByCommandId works rows commandId) = .done { status := status } := by
  have never := findByCommandId_status works rows commandId
  generalize findByCommandId works rows commandId = found at never
  obtain ⟨status, reservation⟩ := found
  cases status with
  | reserved => exact .inl ⟨reservation, rfl, rfl⟩
  | alreadyReserved => exact absurd rfl never
  | notFound => exact .inr ⟨_, rfl⟩
  | invalid => exact .inr ⟨_, rfl⟩
  | activated => exact .inr ⟨_, rfl⟩
  | alreadyActivated => exact .inr ⟨_, rfl⟩
  | conflict => exact .inr ⟨_, rfl⟩
  | storageError => exact .inr ⟨_, rfl⟩

theorem afterMismatch_reservation {reservation other : BackendAgentCommandReservation}
    {inserted : Bool} (next : (afterMismatch reservation inserted).reservation = some other) :
    other = reservation := by
  unfold afterMismatch at next
  split at next
  · simp [ActivationStage.reservation] at next
  · simpa [ActivationStage.reservation] using next.symm

theorem activationStep_reservation {works : Bool} {rows : List BackendAgentCommandReservation}
    {ledger : Ledger} {commandId : Bytes} {stage : ActivationStage}
    {reservation : BackendAgentCommandReservation}
    (next : (activationStep works rows ledger commandId stage).2.reservation = some reservation) :
    stage.reservation = some reservation ∨
      (reservation ∈ rows ∧ ReservationReadable reservation) := by
  cases stage with
  | findReservation =>
    rw [activationStep] at next
    obtain ⟨found, reserved, step⟩ | ⟨status, step⟩ := afterFinding_cases works rows commandId
    · rw [step] at next
      exact .inr (Option.some.inj next ▸ findByCommandId_reserved reserved)
    · rw [step] at next
      simp [ActivationStage.reservation] at next
  | findActive current inserted =>
    rw [activationStep] at next
    split at next
    · exact .inl (congrArg some (afterMismatch_reservation next).symm)
    · split at next
      · exact .inl (congrArg some (afterMismatch_reservation next).symm)
      · exact .inl next
  | readSelection current inserted active =>
    rw [activationStep] at next
    split at next
    · simp [ActivationStage.reservation] at next
    · exact .inl (congrArg some (afterMismatch_reservation next).symm)
  | findExisting current =>
    rw [activationStep] at next
    split at next
    · simp [ActivationStage.reservation] at next
    · exact .inl next
  | insert current =>
    rw [activationStep] at next
    dsimp only at next
    split at next
    · simp [ActivationStage.reservation] at next
    · exact .inl next
  | done result => simp [activationStep, ActivationStage.reservation] at next

theorem activationStep_ledger (works : Bool) (rows : List BackendAgentCommandReservation)
    (ledger : Ledger) (commandId : Bytes) (stage : ActivationStage) :
    (activationStep works rows ledger commandId stage).1 = ledger ∨
      ∃ reservation, stage = .insert reservation ∧
        (activationStep works rows ledger commandId stage).1 =
          (insertAssignment works ledger reservation.assignment
            reservation.localProviderSelection).1 := by
  cases stage with
  | findReservation => exact .inl rfl
  | findActive reservation inserted =>
    left
    rw [activationStep]
    split
    · rfl
    · split <;> rfl
  | readSelection reservation inserted active =>
    left
    rw [activationStep]
    split <;> rfl
  | findExisting reservation =>
    left
    rw [activationStep]
    split <;> rfl
  | insert reservation => exact .inr ⟨reservation, rfl, rfl⟩
  | done result => exact .inl rfl

theorem ReservationStateValid.step {state : ReservationState} (valid : ReservationStateValid state)
    (request : ReservationRequest) : ReservationStateValid (reservationStep state request).1 := by
  cases request with
  | reserve works assignment selection =>
    have kept := reserve_subset works state.reservations assignment selection
    refine ⟨valid.table.reserve works assignment selection, valid.commandsUnique, ?_,
      valid.selectionsOwned, ?_⟩
    · intro row member
      obtain ⟨reservation, reserved, activates⟩ := valid.reserved row member
      exact ⟨reservation, kept reserved, activates⟩
    · intro activation member reservation works
      obtain ⟨reserved, readable⟩ := valid.stages activation member reservation works
      exact ⟨kept reserved, readable⟩
  | activate commandId =>
    refine ⟨valid.table, valid.commandsUnique, valid.reserved, valid.selectionsOwned, ?_⟩
    intro activation member reservation works
    obtain begun | fresh := List.mem_append.mp member
    · exact valid.stages activation begun reservation works
    · rw [List.mem_singleton.mp fresh] at works
      simp [ActivationStage.reservation] at works
  | advance works index =>
    unfold reservationStep
    dsimp only
    split
    · exact valid
    · rename_i activation found
      have begun := List.mem_of_getElem? found
      have stages : ∀ other ∈ state.activations.set index
          { activation with stage := (activationStep works state.reservations state.ledger
            activation.commandId activation.stage).2 }, ∀ reservation,
          other.stage.reservation = some reservation →
            reservation ∈ state.reservations ∧ ReservationReadable reservation := by
        intro other member reservation works
        obtain kept | advanced := List.mem_or_eq_of_mem_set member
        · exact valid.stages other kept reservation works
        · rw [advanced] at works
          obtain earlier | read := activationStep_reservation works
          · exact valid.stages activation begun reservation earlier
          · exact read
      obtain same | ⟨reservation, stage, inserted⟩ := activationStep_ledger works
        state.reservations state.ledger activation.commandId activation.stage
      · rw [same]
        exact ⟨valid.table, valid.commandsUnique, valid.reserved, valid.selectionsOwned, stages⟩
      · obtain ⟨member, readable⟩ := valid.stages activation begun reservation
          (by rw [stage]; rfl)
        rw [inserted]
        exact valid.insert member readable works _ stages

theorem reservationStateValid_final (requests : List ReservationRequest) :
    ReservationStateValid (Run.final reservationStep {} requests) :=
  Run.final_preserves reservationStep ReservationStateValid
    (fun _ request valid => valid.step request) {} reservationStateValid_empty requests

/-! ## At most one command for each operation -/

/-- Each operation has at most one command, and that is its only reservation, selection included. -/
structure ActivatedOnce (state : ReservationState) : Prop where
  reservedOnce :
    (state.reservations.map fun reservation => operationKey reservation.assignment).Nodup
  activatedOnce : (state.ledger.commands.map fun row => operationKey row.assignment).Nodup
  reserved : ∀ row ∈ state.ledger.commands, ∃ reservation ∈ state.reservations,
    operationKey reservation.assignment = operationKey row.assignment ∧
      ActivatesReservation state.ledger row reservation

theorem ReservationStateValid.activatedOnce {state : ReservationState}
    (valid : ReservationStateValid state) : ActivatedOnce state := by
  refine ⟨valid.table.operationsUnique, ?_, ?_⟩
  · refine List.Nodup.map_on ?_ (List.Nodup.of_map _ valid.commandsUnique)
    intro left leftMember right rightMember same
    obtain ⟨first, firstMember, -, firstSame, -⟩ := valid.reserved left leftMember
    obtain ⟨second, secondMember, -, secondSame, -⟩ := valid.reserved right rightMember
    have one : first = second := valid.table.operation firstMember secondMember
      (by rw [← firstSame, ← secondSame]; exact same)
    refine List.inj_on_of_nodup_map valid.commandsUnique leftMember rightMember ?_
    rw [firstSame, secondSame, one]
  · intro row member
    obtain ⟨reservation, reserved, -, activates⟩ := valid.reserved row member
    exact ⟨reservation, reserved, by rw [activates.1], activates⟩

end VdrSuite.Core
