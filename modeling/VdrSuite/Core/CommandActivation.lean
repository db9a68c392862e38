import VdrSuite.Core.CommandReservationProperties

/-! What callers of `reserve` and `activate` are told about a reserved operation. -/

set_option autoImplicit false

namespace VdrSuite.Core

open Library Agent

/-! ## Repeated reservations -/

theorem validInput_assignment {assignment : BackendAgentCommandAssignment}
    {selection : Option BackendAgentLocalProviderSelection}
    (valid : validReservationInput assignment selection = true) :
    backendAgentCommandValidAssignment assignment = true := by
  simp only [validReservationInput, Bool.and_eq_true] at valid
  exact valid.1

theorem validInput_selection {assignment : BackendAgentCommandAssignment}
    {selection : BackendAgentLocalProviderSelection}
    (valid : validReservationInput assignment (some selection) = true) :
    backendAgentLocalProviderValidSelection selection = true ∧
      selection.backendId = assignment.backendId ∧
      selection.requiredCapability = assignment.commandType := by
  simp only [validReservationInput, Bool.and_eq_true, beq_iff_eq] at valid
  exact ⟨valid.2.1.1.1, valid.2.1.1.2, valid.2.1.2⟩

theorem storedSelection_eq {assignment : BackendAgentCommandAssignment}
    {selection : BackendAgentLocalProviderSelection}
    (valid : validReservationInput assignment (some selection) = true) :
    (reservationRow (makeReservation assignment (some selection))).localProviderSelection =
      some selection := by
  obtain ⟨selectionValid, backend, -⟩ := validInput_selection valid
  simp only [backendAgentLocalProviderValidSelection, Bool.and_eq_true] at selectionValid
  obtain ⟨⟨⟨⟨⟨⟨⟨⟨backendSafe, domain⟩, provider⟩, kind⟩, -⟩, epoch⟩, -⟩, -⟩, capability⟩ := selectionValid
  rw [backend] at backendSafe
  simp only [reservationRow, makeReservation, Option.map_some, cString_safeIdentifier _ backendSafe,
    cString_safeIdentifier _ domain, cString_safeIdentifier _ provider, cString_knownKind _ kind,
    cString_safeIdentifier _ epoch, cString_safeIdentifier _ capability]
  rw [← backend]

theorem makeReservation_readable {assignment : BackendAgentCommandAssignment}
    {selection : Option BackendAgentLocalProviderSelection}
    (valid : validReservationInput assignment selection = true) :
    ReservationReadable (makeReservation assignment selection) := by
  refine ⟨validInput_assignment valid, rfl, ?_, ?_⟩
  · rintro rfl
    rfl
  · rintro chosen rfl
    obtain ⟨selectionValid, backend, capability⟩ := validInput_selection valid
    exact ⟨selectionValid, backend, capability, rfl⟩

theorem reservationRow_makeReservation {assignment : BackendAgentCommandAssignment}
    {selection : Option BackendAgentLocalProviderSelection}
    (valid : validReservationInput assignment selection = true)
    (nulFree : (0 : UInt8) ∉ assignment.payload) :
    reservationRow (makeReservation assignment selection) =
      makeReservation assignment selection := by
  have bound : boundAssignment { assignment with present := true } =
      { assignment with present := true } :=
    boundAssignment_eq (validInput_assignment valid) nulFree
  have fingerprint : cString (backendAgentCommandFingerprint assignment) =
      backendAgentCommandFingerprint assignment := cString_stableIdentity _
  cases selection with
  | none =>
    simp only [reservationRow, makeReservation, bound, fingerprint, Option.map_none,
      Option.getD_none]
    rfl
  | some chosen =>
    have identity := cString_selectionIdentity (validInput_selection valid).1
    have stored := storedSelection_eq valid
    simp only [reservationRow, makeReservation] at stored
    simp only [reservationRow, makeReservation, bound, fingerprint, stored, Option.map_some,
      Option.getD_some, identity]

/-- Reservations agree exactly when their assignments and selections do, unless two canonical
texts share a fingerprint. -/
theorem sameReservation_iff {assignment other : BackendAgentCommandAssignment}
    {selection otherSelection : Option BackendAgentLocalProviderSelection}
    (valid : validReservationInput assignment selection = true)
    (otherValid : validReservationInput other otherSelection = true)
    (collisionFree : backendAgentCommandFingerprint other =
      backendAgentCommandFingerprint assignment → other.canonical = assignment.canonical) :
    sameReservation (makeReservation assignment selection)
        (makeReservation other otherSelection) = true ↔
      { other with present := true } = { assignment with present := true } ∧
        otherSelection = selection := by
  simp only [sameReservation, Bool.and_eq_true, beq_iff_eq]
  constructor
  · rintro ⟨⟨⟨-, fingerprint⟩, presence⟩, identity⟩
    have canonical := collisionFree fingerprint.symm
    have fields := canonical_injective canonical
    have requestFingerprint : assignment.requestFingerprint = other.requestFingerprint := by
      rw [valid_fingerprint (validInput_assignment valid),
        valid_fingerprint (validInput_assignment otherValid)]
      exact fingerprint
    refine ⟨by rw [fields, requestFingerprint], ?_⟩
    cases selection with
    | none =>
      cases otherSelection with
      | none => rfl
      | some _ => simp [makeReservation] at presence
    | some chosen =>
      cases otherSelection with
      | none => simp [makeReservation] at presence
      | some otherChosen =>
        exact congrArg some (selectionIdentity_injective
          (validInput_selection otherValid).1 (validInput_selection valid).1 identity.symm)
  · rintro ⟨same, rfl⟩
    have fingerprint : backendAgentCommandFingerprint other =
        backendAgentCommandFingerprint assignment := by
      have marked := congrArg backendAgentCommandFingerprint same
      exact marked
    have commandId := congrArg BackendAgentCommandAssignment.commandId same
    exact ⟨⟨⟨commandId.symm, fingerprint.symm⟩, rfl⟩, rfl⟩

theorem reserve_repeated {rows : List BackendAgentCommandReservation}
    (table : ReservationTableValid rows) {reservation : BackendAgentCommandReservation}
    (member : reservation ∈ rows) (readable : ReservationReadable reservation)
    {assignment : BackendAgentCommandAssignment}
    {selection : Option BackendAgentLocalProviderSelection}
    (valid : validReservationInput assignment selection = true)
    (same : operationKey assignment = operationKey reservation.assignment) :
    reserve true rows assignment selection =
      (rows,
        { status := if sameReservation reservation (makeReservation assignment selection) then
            .alreadyReserved else .conflict
          reservation := reservation }) := by
  have key := operationKey_cString (validInput_assignment valid)
  have selected : selectReservation rows (fun row => forOperation assignment.backendId
      assignment.operationId assignment.commandType row.assignment) = .ok (some reservation) := by
    refine selectReservation_unique member ?_ readable ?_
    · rw [forOperation_iff, key, same]
    · intro row rowMember fits
      rw [forOperation_iff, key, same] at fits
      exact table.operation rowMember member fits
  rw [reserve, if_neg (by simp [valid]), if_neg (by simp), selected]

theorem reservationStep_subset (state : ReservationState) (request : ReservationRequest) :
    state.reservations ⊆ (reservationStep state request).1.reservations ∧
      state.ledger.commands ⊆ (reservationStep state request).1.ledger.commands := by
  cases request with
  | reserve works assignment selection =>
    exact ⟨reserve_subset works state.reservations assignment selection,
      List.Subset.refl _⟩
  | activate commandId => exact ⟨List.Subset.refl _, List.Subset.refl _⟩
  | advance works index =>
    unfold reservationStep
    dsimp only
    split
    · exact ⟨List.Subset.refl _, List.Subset.refl _⟩
    · rename_i activation found
      refine ⟨List.Subset.refl _, ?_⟩
      obtain same | ⟨reservation, -, inserted⟩ := activationStep_ledger works
        state.reservations state.ledger activation.commandId activation.stage
      · rw [same]
        exact List.Subset.refl _
      · rw [inserted]
        cases outcome : (insertAssignment works state.ledger reservation.assignment
            reservation.localProviderSelection).2 with
        | false => rw [insertAssignment_false outcome]; exact List.Subset.refl _
        | true =>
          rw [(insertAssignment_true outcome).2]
          exact List.subset_append_left _ _

theorem reservations_subset_final (state : ReservationState)
    (requests : List ReservationRequest) :
    state.reservations ⊆ (Run.final reservationStep state requests).reservations := by
  induction requests generalizing state with
  | nil => exact List.Subset.refl _
  | cons request rest ih =>
    exact List.Subset.trans (reservationStep_subset state request).1 (ih _)

/-- A call that reserves a payload without NUL leaves a readable row of exactly its input. -/
theorem reserve_reserved {works : Bool} {rows : List BackendAgentCommandReservation}
    {assignment : BackendAgentCommandAssignment}
    {selection : Option BackendAgentLocalProviderSelection}
    (reserved : (reserve works rows assignment selection).2.status = .reserved)
    (nulFree : (0 : UInt8) ∉ assignment.payload) :
    validReservationInput assignment selection = true ∧
      makeReservation assignment selection ∈ (reserve works rows assignment selection).1 := by
  obtain ⟨-, refused⟩ | ⟨valid, inserted⟩ := reserve_cases works rows assignment selection
  · exact absurd reserved refused
  · refine ⟨valid, ?_⟩
    rw [(insertReservation_some inserted).1, reservationRow_makeReservation valid nulFree]
    exact List.mem_append_right _ (List.mem_singleton_self _)

/-- The answers for an operation that a call has reserved, however the run goes on: the same
assignment with the same selection is `alreadyReserved`, another valid one is a `conflict`. -/
structure RepeatsAnswered (state : ReservationState) : Prop where
  answered : ∀ (works : Bool) (assignment : BackendAgentCommandAssignment)
    (selection : Option BackendAgentLocalProviderSelection),
    (reserve works state.reservations assignment selection).2.status = .reserved →
    (0 : UInt8) ∉ assignment.payload →
    ∀ (later : List ReservationRequest) (other : BackendAgentCommandAssignment)
      (otherSelection : Option BackendAgentLocalProviderSelection),
      operationKey other = operationKey assignment →
      (backendAgentCommandFingerprint other = backendAgentCommandFingerprint assignment →
        other.canonical = assignment.canonical) →
      (reserve true
        (Run.final reservationStep
          (reservationStep state (.reserve works assignment selection)).1 later).reservations
        other otherSelection).2.status =
        if validReservationInput other otherSelection = false then .invalid
        else if { other with present := true } = { assignment with present := true } ∧
          otherSelection = selection then .alreadyReserved
        else .conflict

theorem ReservationStateValid.repeatsAnswered {state : ReservationState}
    (valid : ReservationStateValid state) : RepeatsAnswered state := by
  refine ⟨?_⟩
  intro works assignment selection reserved nulFree later other otherSelection same collisionFree
  obtain ⟨input, added⟩ := reserve_reserved reserved nulFree
  have member := reservations_subset_final
    (reservationStep state (.reserve works assignment selection)).1 later added
  have table := (Run.final_preserves reservationStep ReservationStateValid
    (fun _ request valid => valid.step request) _
    (valid.step (.reserve works assignment selection)) later).table
  cases otherInput : validReservationInput other otherSelection with
  | false => simp [reserve, otherInput]
  | true =>
    rw [reserve_repeated table member (makeReservation_readable input) otherInput same]
    have agree := sameReservation_iff input otherInput collisionFree
    simp only [Bool.true_eq_false, if_false, agree]

/-! ## Activations that meet no obstacle -/

/-- The slot that an activation is about to look for or to fill is free: no command of the
operation stands where it has found none, and no other command has its job, attempt and epoch. -/
def SlotFree (ledger : Ledger) : ActivationStage → Prop
  | .findExisting reservation => ∀ row ∈ ledger.commands,
      operationKey row.assignment ≠ operationKey reservation.assignment
  | .insert reservation => ∀ row ∈ ledger.commands,
      row.assignment.commandId ≠ reservation.assignment.commandId →
        (row.assignment.jobId, row.assignment.attemptId, row.assignment.claimEpoch) ≠
          (reservation.assignment.jobId, reservation.assignment.attemptId,
            reservation.assignment.claimEpoch)
  | _ => True

def advances (index : Nat) : ReservationRequest → Bool
  | .advance _ other => other == index
  | _ => false

/-- A request that, when it is the activation's own, meets a working database and a free slot. -/
def Unobstructed (index : Nat) (state : ReservationState) : ReservationRequest → Prop
  | .advance works other => other = index → works = true ∧
      ∀ activation, state.activations[index]? = some activation →
        SlotFree state.ledger activation.stage
  | _ => True

def ActivationStage.remaining : ActivationStage → Nat
  | .findReservation => 7
  | .findActive _ false => 6
  | .readSelection _ false _ => 5
  | .findExisting _ => 4
  | .insert _ => 3
  | .findActive _ true => 2
  | .readSelection _ true _ => 1
  | .done _ => 0

def OnCourse (ledger : Ledger) (reservation : BackendAgentCommandReservation) :
    ActivationStage → Prop
  | .findReservation => True
  | .findActive current inserted => current = reservation ∧
      (inserted = true → ∃ row ∈ ledger.commands, row.assignment = reservation.assignment)
  | .readSelection current _ active => current = reservation ∧ active = reservation.assignment ∧
      ∃ row ∈ ledger.commands, row.assignment = reservation.assignment
  | .findExisting current | .insert current => current = reservation
  | .done result => result.ok = true ∧ result.assignment = reservation.assignment

theorem OnCourse.extend {earlier later : Ledger} {reservation : BackendAgentCommandReservation}
    {stage : ActivationStage} (course : OnCourse earlier reservation stage)
    (kept : earlier.commands ⊆ later.commands) : OnCourse later reservation stage := by
  cases stage with
  | findReservation => exact course
  | findActive current inserted =>
    refine ⟨course.1, fun marked => ?_⟩
    obtain ⟨row, member, same⟩ := course.2 marked
    exact ⟨row, kept member, same⟩
  | readSelection current inserted active =>
    obtain ⟨own, same, row, member, kin⟩ := course
    exact ⟨own, same, row, kept member, kin⟩
  | findExisting current => exact course
  | insert current => exact course
  | done result => exact course

theorem insertAssignment_free {ledger : Ledger} {reservation : BackendAgentCommandReservation}
    (readable : ReservationReadable reservation)
    (free : ∀ row ∈ ledger.commands, conflictsWith reservation.assignment row = false)
    (unselected : ledger.selection reservation.assignment.commandId = none) :
    (insertAssignment true ledger reservation.assignment
      reservation.localProviderSelection).2 = true := by
  have fits : reservation.localProviderSelection.all (fun chosen =>
      backendAgentLocalProviderValidSelection chosen &&
      chosen.backendId == reservation.assignment.backendId &&
      chosen.requiredCapability == reservation.assignment.commandType) = true := by
    cases selected : reservation.localProviderSelection with
    | none => rfl
    | some selection =>
      obtain ⟨valid, backend, capability, -⟩ := readable.selected selection selected
      simp [valid, backend, capability]
  have noConflict : ledger.commands.any (conflictsWith reservation.assignment) = false := by
    rw [List.any_eq_false]
    intro row member
    simp [free row member]
  unfold insertAssignment
  dsimp only
  rw [if_neg (by simp [readable.assignment, fits]), if_neg (by simp [noConflict])]
  cases selected : reservation.localProviderSelection with
  | none => rfl
  | some selection =>
    have identity := selectionIdentity_ne_nil (readable.selected selection selected).1
    have absent : Ledger.selection
        { ledger with commands := ledger.commands ++
          [{ assignment := boundAssignment reservation.assignment
             updatedAt := reservation.assignment.assignedAt }] }
        reservation.assignment.commandId = none := unselected
    simp only [insertSelection, absent, List.isEmpty_iff, identity, Option.isSome_none,
      Bool.false_eq_true, or_self, if_false]

theorem activated_of_refused {state : ReservationState} (valid : ReservationStateValid state)
    {reservation : BackendAgentCommandReservation} (member : reservation ∈ state.reservations)
    (readable : ReservationReadable reservation)
    (free : SlotFree state.ledger (.insert reservation))
    (refused : (insertAssignment true state.ledger reservation.assignment
      reservation.localProviderSelection).2 = false) :
    ∃ row ∈ state.ledger.commands, row.assignment = reservation.assignment := by
  have bound := boundAssignment_stored (valid.table.stored reservation member)
  have commandKept := congrArg BackendAgentCommandAssignment.commandId bound
  have jobKept := congrArg BackendAgentCommandAssignment.jobId bound
  have attemptKept := congrArg BackendAgentCommandAssignment.attemptId bound
  simp only [boundAssignment] at commandKept jobKept attemptKept
  by_contra absent
  have fresh : ∀ row ∈ state.ledger.commands,
      row.assignment.commandId ≠ reservation.assignment.commandId := by
    intro row rowMember same
    obtain ⟨source, sourceMember, -, kin, -⟩ := valid.reserved row rowMember
    have one := valid.table.command sourceMember member (by rw [← kin, same])
    exact absent ⟨row, rowMember, by rw [kin, one]⟩
  have noConflict : ∀ row ∈ state.ledger.commands,
      conflictsWith reservation.assignment row = false := by
    intro row rowMember
    have slot := free row rowMember (fresh row rowMember)
    simp only [ne_eq, Prod.mk.injEq] at slot
    simp only [conflictsWith, commandKept, jobKept, attemptKept, Bool.or_eq_false_iff,
      beq_eq_false_iff_ne]
    refine ⟨fresh row rowMember, ?_⟩
    rw [Bool.eq_false_iff]
    simp only [ne_eq, Bool.and_eq_true, beq_iff_eq, and_assoc]
    exact slot
  have unselected : state.ledger.selection reservation.assignment.commandId = none := by
    rw [Ledger.selection, List.find?_eq_none, commandKept]
    intro recorded recordedMember
    obtain ⟨row, rowMember, owned⟩ := valid.selectionsOwned recorded recordedMember
    simpa [← owned] using fresh row rowMember
  rw [insertAssignment_free readable noConflict unselected] at refused
  exact absurd refused (by decide)

theorem ReservationStateValid.activates {state : ReservationState}
    (valid : ReservationStateValid state) {reservation : BackendAgentCommandReservation}
    (member : reservation ∈ state.reservations) {row : CommandRow}
    (active : row ∈ state.ledger.commands)
    (same : operationKey row.assignment = operationKey reservation.assignment) :
    ActivatesReservation state.ledger row reservation := by
  obtain ⟨source, sourceMember, -, activates⟩ := valid.reserved row active
  have one := valid.table.operation sourceMember member (by rw [← activates.1, same])
  exact one ▸ activates

theorem selectionMatches_own {reservation : BackendAgentCommandReservation}
    (readable : ReservationReadable reservation) :
    selectionMatches reservation reservation.localProviderSelection = true := by
  unfold selectionMatches
  split
  · rename_i unselected
    rw [unselected]
    rfl
  · rename_i selection selected
    rw [selected, (readable.selected selection selected).2.2.2]
    simp

theorem findByCommandId_stored {rows : List BackendAgentCommandReservation}
    (table : ReservationTableValid rows) {reservation : BackendAgentCommandReservation}
    (member : reservation ∈ rows) (readable : ReservationReadable reservation) :
    findByCommandId true rows reservation.assignment.commandId =
      { status := .reserved, reservation := reservation } := by
  have safe := (valid_identifiers readable.assignment).1
  have selected : selectReservation rows (fun row =>
      row.assignment.commandId == cString reservation.assignment.commandId) =
      .ok (some reservation) := by
    refine selectReservation_unique member ?_ readable ?_
    · rw [cString_safeIdentifier _ safe, beq_self_eq_true]
    · intro row rowMember fits
      rw [cString_safeIdentifier _ safe, beq_iff_eq] at fits
      exact table.command rowMember member fits
  rw [findByCommandId, if_neg (by simp [safe]), if_neg (by simp), selected]

theorem findActive_cases {state : ReservationState} (valid : ReservationStateValid state)
    {reservation : BackendAgentCommandReservation} (member : reservation ∈ state.reservations)
    (readable : ReservationReadable reservation) (inserted : Bool) :
    (activationStep true state.reservations state.ledger reservation.assignment.commandId
          (.findActive reservation inserted) =
        (state.ledger, afterMismatch reservation inserted) ∧
      ∀ row ∈ state.ledger.commands,
        operationKey row.assignment ≠ operationKey reservation.assignment) ∨
    (activationStep true state.reservations state.ledger reservation.assignment.commandId
          (.findActive reservation inserted) =
        (state.ledger, .readSelection reservation inserted reservation.assignment) ∧
      ∃ row ∈ state.ledger.commands, row.assignment = reservation.assignment) := by
  rw [activationStep]
  cases result : findAssignmentForOperation true state.ledger reservation.assignment.backendId
      reservation.assignment.operationId reservation.assignment.commandType with
  | none => exact .inl ⟨rfl, (findAssignmentForOperation_none readable.assignment).mp result⟩
  | some found =>
    obtain ⟨row, active, rfl, key⟩ := findAssignmentForOperation_some result
    rw [operationKey_cString readable.assignment] at key
    have same := (valid.activates member active key).1
    rw [same]
    dsimp only
    rw [if_neg (by simp [readable.fingerprint])]
    exact .inr ⟨rfl, row, active, same⟩

/-- One unobstructed repository call keeps an activation on course and brings it nearer its end. -/
theorem OnCourse.step {state : ReservationState} (valid : ReservationStateValid state)
    {reservation : BackendAgentCommandReservation} (member : reservation ∈ state.reservations)
    (readable : ReservationReadable reservation) {stage : ActivationStage}
    (course : OnCourse state.ledger reservation stage) (free : SlotFree state.ledger stage) :
    OnCourse
        (activationStep true state.reservations state.ledger reservation.assignment.commandId
          stage).1 reservation
        (activationStep true state.reservations state.ledger reservation.assignment.commandId
          stage).2 ∧
      (activationStep true state.reservations state.ledger reservation.assignment.commandId
        stage).2.remaining ≤ stage.remaining - 1 := by
  cases stage with
  | findReservation =>
    rw [activationStep, findByCommandId_stored valid.table member readable]
    exact ⟨⟨rfl, by simp⟩, by simp [afterFinding, ActivationStage.remaining]⟩
  | findActive current inserted =>
    obtain ⟨rfl, activated⟩ := course
    obtain ⟨step, absent⟩ | ⟨step, activates⟩ :=
      findActive_cases valid member readable inserted
    · rw [step]
      cases inserted with
      | false => exact ⟨rfl, by simp [afterMismatch, ActivationStage.remaining]⟩
      | true =>
        obtain ⟨row, active, same⟩ := activated rfl
        exact absurd (congrArg operationKey same) (absent row active)
    · rw [step]
      refine ⟨⟨rfl, rfl, activates⟩, ?_⟩
      cases inserted <;> simp [ActivationStage.remaining]
  | readSelection current inserted active =>
    obtain ⟨rfl, rfl, row, rowMember, same⟩ := course
    have selected := (valid.activates member rowMember (congrArg operationKey same)).2
    rw [same] at selected
    have matched : selectionMatches current
        (readActiveSelection true state.ledger current.assignment.commandId) = true := by
      rw [readActiveSelection, if_pos rfl, selected]
      exact selectionMatches_own readable
    rw [activationStep, if_pos matched]
    exact ⟨⟨rfl, rfl⟩, by cases inserted <;> simp [ActivationStage.remaining]⟩
  | findExisting current =>
    obtain rfl := course
    rw [activationStep, (findAssignmentForOperation_none readable.assignment).mpr free]
    exact ⟨rfl, by simp [ActivationStage.remaining]⟩
  | insert current =>
    obtain rfl := course
    rw [activationStep]
    cases outcome : (insertAssignment true state.ledger current.assignment
        current.localProviderSelection).2 with
    | true =>
      simp only [if_true]
      exact ⟨⟨rfl, rfl⟩, by simp [ActivationStage.remaining]⟩
    | false =>
      have activated := activated_of_refused valid member readable free outcome
      simp only [Bool.false_eq_true, if_false, insertAssignment_false outcome]
      exact ⟨⟨rfl, fun _ => activated⟩, by simp [ActivationStage.remaining]⟩
  | done result => exact ⟨course, by simp [activationStep, ActivationStage.remaining]⟩

def Proceeds (index : Nat) (reservation : BackendAgentCommandReservation) (state : ReservationState)
    (remaining : Nat) : Prop :=
  ∃ stage, state.activations[index]? =
      some { commandId := reservation.assignment.commandId, stage := stage } ∧
    OnCourse state.ledger reservation stage ∧ stage.remaining ≤ remaining

theorem reservationStep_advance {state : ReservationState} {index : Nat} {activation : Activation}
    (found : state.activations[index]? = some activation) (works : Bool) :
    (reservationStep state (.advance works index)).1 =
      { state with
        ledger := (activationStep works state.reservations state.ledger activation.commandId
          activation.stage).1
        activations := state.activations.set index
          { activation with
            stage := (activationStep works state.reservations state.ledger activation.commandId
              activation.stage).2 } } := by
  unfold reservationStep
  dsimp only
  rw [found]

theorem Proceeds.step {index remaining : Nat} {state : ReservationState}
    (valid : ReservationStateValid state) {reservation : BackendAgentCommandReservation}
    (member : reservation ∈ state.reservations) (readable : ReservationReadable reservation)
    (proceeds : Proceeds index reservation state remaining) {request : ReservationRequest}
    (unobstructed : Unobstructed index state request) :
    Proceeds index reservation (reservationStep state request).1
      (if advances index request then remaining - 1 else remaining) := by
  obtain ⟨stage, found, course, near⟩ := proceeds
  have kept := (reservationStep_subset state request).2
  cases request with
  | reserve works assignment selection => exact ⟨stage, found, course.extend kept, near⟩
  | activate commandId =>
    refine ⟨stage, ?_, course.extend kept, near⟩
    have inside := (List.getElem?_eq_some_iff.mp found).1
    exact (List.getElem?_append_left inside).trans found
  | advance works other =>
    by_cases own : other = index
    · subst own
      obtain ⟨rfl, free⟩ := unobstructed rfl
      obtain ⟨onward, nearer⟩ := course.step valid member readable (free _ found)
      have inside := (List.getElem?_eq_some_iff.mp found).1
      rw [reservationStep_advance found, if_pos (by simp [advances])]
      exact ⟨_, List.getElem?_set_self inside, onward, Nat.le_trans nearer (by omega)⟩
    · have still : (reservationStep state (.advance works other)).1.activations[index]? =
          state.activations[index]? := by
        unfold reservationStep
        dsimp only
        split
        · rfl
        · exact List.getElem?_set_ne own
      refine ⟨stage, still.trans found, course.extend kept, ?_⟩
      simp only [advances, beq_eq_false_iff_ne.mpr own, Bool.false_eq_true, if_false]
      exact near

theorem Proceeds.run {index remaining : Nat} {state : ReservationState}
    (valid : ReservationStateValid state) {reservation : BackendAgentCommandReservation}
    (member : reservation ∈ state.reservations) (readable : ReservationReadable reservation)
    (proceeds : Proceeds index reservation state remaining) (requests : List ReservationRequest)
    (unobstructed : ∀ before request after, requests = before ++ request :: after →
      Unobstructed index (Run.final reservationStep state before) request) :
    Proceeds index reservation (Run.final reservationStep state requests)
      (remaining - requests.countP (advances index)) := by
  induction requests generalizing state remaining with
  | nil => exact proceeds
  | cons request rest ih =>
    have next := proceeds.step valid member readable (unobstructed [] request rest rfl)
    have rested := ih (valid.step request) ((reservationStep_subset state request).1 member) next
      (fun before other after split => unobstructed (request :: before) other after
        (by rw [split]; rfl))
    have counted : (if advances index request then remaining - 1 else remaining) -
        rest.countP (advances index) = remaining - (request :: rest).countP (advances index) := by
      rw [List.countP_cons]
      split <;> omega
    rw [Run.final_cons, ← counted]
    exact rested

/-- An activation of a reserved command, whose own repository calls meet no obstacle, never ends
otherwise than with the reserved assignment active, and has ended after seven of them. -/
structure ActivationsSucceed (state : ReservationState) : Prop where
  succeeds : ∀ (works : Bool) (assignment : BackendAgentCommandAssignment)
    (selection : Option BackendAgentLocalProviderSelection),
    (reserve works state.reservations assignment selection).2.status = .reserved →
    (0 : UInt8) ∉ assignment.payload →
    ∀ (earlier later : List ReservationRequest) (started : ReservationState) (index : Nat),
      started = Run.final reservationStep
        (reservationStep state (.reserve works assignment selection)).1 earlier →
      index = started.activations.length →
      (∀ before request after, later = before ++ request :: after →
        Unobstructed index
          (Run.final reservationStep started (.activate assignment.commandId :: before))
          request) →
      ∃ stage, (Run.final reservationStep started
          (.activate assignment.commandId :: later)).activations[index]? =
            some { commandId := assignment.commandId, stage := stage } ∧
        (∀ result, stage = .done result →
          result.ok = true ∧ result.assignment = { assignment with present := true }) ∧
        (7 ≤ later.countP (advances index) → ∃ result, stage = .done result)

theorem ReservationStateValid.activationsSucceed {state : ReservationState}
    (valid : ReservationStateValid state) : ActivationsSucceed state := by
  refine ⟨?_⟩
  rintro works assignment selection reserved nulFree earlier later started index rfl rfl unobstructed
  obtain ⟨input, added⟩ := reserve_reserved reserved nulFree
  have readable := makeReservation_readable input
  have member := reservations_subset_final
    (reservationStep state (.reserve works assignment selection)).1 earlier added
  have startedValid := Run.final_preserves reservationStep ReservationStateValid
    (fun _ request valid => valid.step request) _
    (valid.step (.reserve works assignment selection)) earlier
  have begun : Proceeds (Run.final reservationStep
        (reservationStep state (.reserve works assignment selection)).1 earlier).activations.length
      (makeReservation assignment selection)
      (reservationStep (Run.final reservationStep
        (reservationStep state (.reserve works assignment selection)).1 earlier)
        (.activate assignment.commandId)).1 7 :=
    ⟨.findReservation, List.getElem?_concat_length, trivial, Nat.le_refl 7⟩
  obtain ⟨stage, found, course, near⟩ := begun.run (startedValid.step _) member readable later
    unobstructed
  refine ⟨stage, found, ?_, ?_⟩
  · rintro result rfl
    exact course
  · intro enough
    have ended : stage.remaining = 0 := by omega
    cases stage with
    | done result => exact ⟨result, rfl⟩
    | findActive current inserted => cases inserted <;> simp [ActivationStage.remaining] at ended
    | readSelection current inserted active =>
      cases inserted <;> simp [ActivationStage.remaining] at ended
    | findReservation => simp [ActivationStage.remaining] at ended
    | findExisting current => simp [ActivationStage.remaining] at ended
    | insert current => simp [ActivationStage.remaining] at ended

/-- Reservations and activations in any order: every operation is activated at most once and as
reserved, repeated reservations are told so, and unobstructed activations succeed. -/
theorem reserved_then_activated_once (requests : List ReservationRequest) :
    ActivatedOnce (Run.final reservationStep {} requests) ∧
      RepeatsAnswered (Run.final reservationStep {} requests) ∧
      ActivationsSucceed (Run.final reservationStep {} requests) := by
  have valid := reservationStateValid_final requests
  exact ⟨valid.activatedOnce, valid.repeatsAnswered, valid.activationsSucceed⟩

/-! ### An activation that overtakes another -/

def noopProbe : BackendAgentCommandAssignment :=
  let command : BackendAgentCommandAssignment :=
    { present := true
      requestId := text "r1"
      correlationId := text "r1"
      operationId := text "o1"
      jobId := text "j1"
      attemptId := text "a1"
      claimEpoch := 1
      commandId := text "c1"
      backendId := text "be1"
      agentId := text "ag1"
      agentInstanceId := text "i1"
      backendGeneration := 1
      commandType := probeNoopCommandType
      payloadVersion := 1
      payload := text "\x7b\x7d"
      verificationPolicy := text "none"
      assignedAt := 10
      deadline := 100 }
  { command with requestFingerprint := backendAgentCommandFingerprint command }

def overtakenActivation : List ReservationRequest :=
  [.reserve true noopProbe none, .activate (text "c1"), .activate (text "c1"),
    .advance true 0, .advance true 0,
    .advance true 1, .advance true 1, .advance true 1, .advance true 1,
    .advance true 0]

/-- Both activate the same reserved command, and one of them is told of a conflict. -/
theorem overtaken_activation_conflicts :
    (Run.final reservationStep {} overtakenActivation).activations =
      [{ commandId := text "c1"
         stage := .done { status := .conflict, assignment := noopProbe } },
        { commandId := text "c1"
          stage := .done { status := .activated, assignment := noopProbe } }] := by
  decide +kernel

end VdrSuite.Core
