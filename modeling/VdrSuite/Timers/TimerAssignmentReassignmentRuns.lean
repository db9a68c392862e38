import VdrSuite.Timers.TimerAssignmentHandover
import VdrSuite.Timers.TimerAssignmentSchedulingRuns

/-! Repeated reassignments: what a call has done when it answers that it persisted, and what later
calls with the same request are answered. -/

set_option autoImplicit false

namespace VdrSuite.Timers

open Library Library.Interleaving

variable {request : TimerAssignmentReassignmentRequest} {old : TimerAssignment} {intent : TimerIntent}

abbrev ReassignmentEvent : Type := Event ReassignmentReply

/-! ## What an answer says -/

/-- The old owner was read as the request expects it, and the replacement that the request asks for
was created with the evidence that the answer gives. -/
structure PersistedBy (events : List ReassignmentEvent) (answer : AnsweredRequest) : Prop where
  valid : validReassignmentRequest answer.1 = true
  old : ∃ found : TimerAssignmentRepositoryResult,
    ⟨.findById answer.1.oldTimerAssignmentId, found⟩ ∈ events ∧ found.ok = true ∧
      found.assignment.assignmentRevision = answer.1.expectedOldAssignmentRevision ∧
      found.assignment.assignmentEpoch = answer.1.expectedOldAssignmentEpoch ∧
      found.assignment.backendGeneration = answer.1.expectedOldBackendGeneration
  created : ∃ (replacement : TimerAssignment) (expectedAssignmentSetRevision : Bytes)
      (persisted : TimerAssignmentControlledReplacementResult),
    ⟨.createControlledReplacement replacement expectedAssignmentSetRevision
      (evidenceFor answer.1 replacement), persisted⟩ ∈ events ∧ persisted.ok = true ∧
      ReplacementFor answer.1 replacement ∧ answer.2.evidence = persisted.evidence

def LooksUp (events : List ReassignmentEvent) (answer : AnsweredRequest) : Prop :=
  ∃ (replay : TimerAssignmentControlledReplacementResult) (rest : List ReassignmentEvent),
    events = ⟨.findControlledReplacement answer.1.replacementTimerAssignmentId, replay⟩ :: rest ∧
      (replay.ok = true → answer.2 = replayResult answer.1 replay)

def Concludes (events : List ReassignmentEvent) (answer : AnsweredRequest) : Prop :=
  (answer.2.status = .persisted → PersistedBy events answer) ∧
    (validReassignmentRequest answer.1 = true → LooksUp events answer)

structure FoundNew (request : TimerAssignmentReassignmentRequest) (events : List ReassignmentEvent) :
    Prop where
  valid : validReassignmentRequest request = true
  lookup : ∃ (replay : TimerAssignmentControlledReplacementResult) (rest : List ReassignmentEvent),
    events = ⟨.findControlledReplacement request.replacementTimerAssignmentId, replay⟩ :: rest ∧
      replay.ok = false

theorem FoundNew.more {events later : List ReassignmentEvent} (new : FoundNew request events)
    (further : events <+: later) : FoundNew request later := by
  obtain ⟨valid, replay, rest, rfl, failed⟩ := new
  obtain ⟨more, rfl⟩ := further
  exact ⟨valid, replay, rest ++ more, List.cons_append, failed⟩

theorem FoundNew.looksUp {events : List ReassignmentEvent} (new : FoundNew request events)
    (result : TimerAssignmentReassignmentResult) : LooksUp events (request, result) := by
  obtain ⟨-, replay, rest, same, failed⟩ := new
  refine ⟨replay, rest, same, fun ok => ?_⟩
  rw [failed] at ok
  cases ok

theorem FoundNew.refused {events : List ReassignmentEvent}
    {result : TimerAssignmentReassignmentResult} (new : FoundNew request events)
    (status : result.status ≠ .persisted) : Concludes events (request, result) :=
  ⟨fun persisted => absurd persisted status, fun _ => new.looksUp result⟩

/-! ## The call -/

abbrev AlwaysAllowed : List ReassignmentEvent → ReassignmentCall → Prop := fun _ _ => True

theorem oldOwnerConflict_ne_persisted :
    oldOwnerConflict request old intent ≠ some .persisted := by
  unfold oldOwnerConflict
  split
  · exact fun same => by cases same
  · split
    · exact fun same => by cases same
    · split
      · exact fun same => by cases same
      · split
        · exact fun same => by cases same
        · split
          · exact fun same => by cases same
          · split
            · exact fun same => by cases same
            · exact fun same => by cases same

theorem of_oldOwnerConflict_none (agrees : oldOwnerConflict request old intent = none) :
    intent.intentRevision = request.expectedIntentRevision ∧
      old.assignmentRevision = request.expectedOldAssignmentRevision ∧
      old.assignmentEpoch = request.expectedOldAssignmentEpoch ∧
      old.backendGeneration = request.expectedOldBackendGeneration := by
  unfold oldOwnerConflict at agrees
  split at agrees
  case isTrue => cases agrees
  case isFalse revisions =>
  split at agrees
  case isTrue => cases agrees
  case isFalse revision =>
  split at agrees
  case isTrue => cases agrees
  case isFalse epoch =>
  split at agrees
  case isTrue => cases agrees
  case isFalse =>
  split at agrees
  case isTrue => cases agrees
  case isFalse generation =>
  rw [ne_eq, not_not] at revision epoch generation
  exact ⟨not_not.mp (not_or.mp revisions).1, revision, epoch, generation⟩

theorem bindingConflict_ne_persisted {binding : NativeTimerBinding} :
    bindingConflict request old binding ≠ some .persisted := by
  unfold bindingConflict
  split
  · exact fun same => by cases same
  · split
    · exact fun same => by cases same
    · exact fun same => by cases same

theorem mapReplacementStatus_ne_persisted (status : TimerAssignmentRepositoryStatus) :
    mapReplacementStatus status ≠ .persisted := by
  cases status <;> exact fun same => by cases same

theorem nativeOutcomeConflict_obeys (earlier : List ReassignmentEvent) :
    Obeys AlwaysAllowed (fun _ refused => refused ≠ some .persisted) earlier
      (nativeOutcomeConflict request old) := by
  unfold nativeOutcomeConflict
  cases request.oldNativeOutcome with
  | beforeDispatch =>
    dsimp only
    split
    · exact fun same => by cases same
    · exact fun same => by cases same
  | verifiedAbsent =>
    dsimp only
    split
    · exact fun same => by cases same
    · refine ⟨trivial, fun found => ?_⟩
      change Obeys _ _ _ (ite _ _ _)
      split
      · exact fun same => by cases same
      · split
        · exact fun same => by cases same
        · cases conflict : bindingConflict request old found.binding with
          | some status =>
            intro same
            exact bindingConflict_ne_persisted (conflict.trans same)
          | none =>
            refine ⟨trivial, fun operation => ?_⟩
            change Obeys _ _ _ (ite _ _ _)
            split
            · exact fun same => by cases same
            · split
              · exact fun same => by cases same
              · split
                · exact fun same => by cases same
                · exact fun same => by cases same

theorem replacementFromDecision_for {listed : List TimerAssignment}
    (revision : intent.intentRevision = request.expectedIntentRevision) :
    ReplacementFor request (replacementFromDecision request
      (planTimerAssignment (replacementPlanning request intent listed))) :=
  ⟨rfl, (planTimerAssignment_intent _).2.trans revision, rfl⟩

theorem replaceOwner_concludes {events : List ReassignmentEvent}
    {found : TimerAssignmentRepositoryResult} (new : FoundNew request events)
    (read : ⟨.findById request.oldTimerAssignmentId, found⟩ ∈ events) (foundOk : found.ok = true)
    (agrees : oldOwnerConflict request found.assignment intent = none) :
    Obeys AlwaysAllowed (fun events result => Concludes events (request, result)) events
      (replaceOwner request found.assignment intent) := by
  obtain ⟨intentRevision, revision, epoch, generation⟩ := of_oldOwnerConflict_none agrees
  refine ⟨trivial, fun setRevision => ?_⟩
  change Obeys _ _ _ (ite _ _ _)
  have newSet := new.more (List.prefix_append events
    [⟨.assignmentSetRevisionForIntent found.assignment.timerIntentId, setRevision⟩])
  split
  · exact newSet.refused fun same => by cases same
  · refine ⟨trivial, fun listed => ?_⟩
    change Obeys _ _ _ (ite _ _ _)
    have newListed := newSet.more (List.prefix_append _
      [⟨.listForIntent found.assignment.timerIntentId, listed⟩])
    split
    · exact newListed.refused fun same => by cases same
    · split
      · exact newListed.refused fun same => by cases same
      · split
        · exact newListed.refused fun same => by cases same
        · refine ⟨trivial, fun persisted => ?_⟩
          change Obeys _ _ _ (ite _ _ _)
          have newPersisted := newListed.more (List.prefix_append _
            [⟨.createControlledReplacement _ _ _, persisted⟩])
          split
          · exact newPersisted.refused (mapReplacementStatus_ne_persisted _)
          · next succeeded =>
            rw [Bool.not_eq_false] at succeeded
            refine ⟨fun _ => ⟨new.valid, ⟨found, ?_, foundOk, revision, epoch, generation⟩,
              ⟨_, _, persisted, List.mem_append_right _ List.mem_cons_self, succeeded,
                replacementFromDecision_for intentRevision, rfl⟩⟩, fun _ => newPersisted.looksUp _⟩
            exact List.mem_append_left _ (List.mem_append_left _ (List.mem_append_left _ read))

theorem reassign_concludes (request : TimerAssignmentReassignmentRequest) :
    Obeys AlwaysAllowed (fun events result => Concludes events (request, result)) []
      (reassign request) := by
  unfold reassign
  split
  · next invalid =>
    constructor
    · intro persisted
      cases persisted
    · intro valid
      rw [invalid] at valid
      cases valid
  · next valid =>
    rw [Bool.not_eq_false] at valid
    refine ⟨trivial, fun replay => ?_⟩
    change Obeys _ _ _ (ite _ _ _)
    split
    · refine ⟨fun same => ?_, fun _ => ⟨replay, [], rfl, fun _ => rfl⟩⟩
      have never : (replayResult request replay).status ≠ .persisted := by
        unfold replayResult
        split
        · exact fun same => by cases same
        · exact fun same => by cases same
      exact absurd same never
    · next failed =>
      have new : FoundNew request
          [⟨.findControlledReplacement request.replacementTimerAssignmentId, replay⟩] :=
        ⟨valid, replay, [], rfl, eq_false_of_ne_true failed⟩
      split
      · exact new.refused fun same => by cases same
      · refine ⟨trivial, fun oldFound => ?_⟩
        change Obeys _ _ _ (ite _ _ _)
        have newOld := new.more (List.prefix_append _
          [⟨.findById request.oldTimerAssignmentId, oldFound⟩])
        split
        · exact newOld.refused fun same => by cases same
        · split
          · exact newOld.refused fun same => by cases same
          · next oldOk =>
            rw [Bool.not_eq_false] at oldOk
            refine ⟨trivial, fun intentFound => ?_⟩
            change Obeys _ _ _ (ite _ _ _)
            have newIntent := newOld.more (List.prefix_append _
              [⟨.findIntent oldFound.assignment.timerIntentId, intentFound⟩])
            split
            · exact newIntent.refused fun same => by cases same
            · split
              · exact newIntent.refused fun same => by cases same
              · cases agrees : oldOwnerConflict request oldFound.assignment intentFound.intent with
                | some status =>
                  refine newIntent.refused fun same => ?_
                  have persisted : status = .persisted := same
                  exact oldOwnerConflict_ne_persisted (persisted ▸ agrees)
                | none =>
                  refine obeys_bind (nativeOutcomeConflict_obeys _).extends ?_
                  intro events refused reached
                  obtain ⟨notPersisted, further⟩ := reached
                  have newOutcome := newIntent.more further
                  cases refused with
                  | some status =>
                    refine newOutcome.refused fun same => ?_
                    exact notPersisted (congrArg some same)
                  | none =>
                    refine replaceOwner_concludes newOutcome (further.subset ?_) oldOk agrees
                    exact List.mem_append_left _ (List.mem_append_right _ List.mem_cons_self)

/-! ## Moves -/

variable {system : ReassignmentSystem}

def MoveRenames (system : ReassignmentSystem) (move : ReassignmentMove)
    (timerAssignmentId intentRevision : Bytes) : Prop :=
  match move with
  | .change (.call call) => RenamedBy system.state.timers call timerAssignmentId intentRevision
  | _ => False

theorem carryOutReassignment_carries {store : ReassignmentStore} (valid : HandoversValid store.timers)
    (oracle : ReassignmentOracle) (call : ReassignmentCall) :
    Carries (fun _ _ => False) store.timers (carryOutReassignment oracle call store).2.timers := by
  have unchanged : Carries (fun _ _ => False) store.timers store.timers :=
    (RecordsUnchanged.refl store.timers).carries valid
  cases call with
  | findControlledReplacement _ | findById _ | findIntent _ | findBinding _ | findOperation _
    | listForIntent _ => exact unchanged
  | assignmentSetRevisionForIntent timerIntentId =>
    exact (assignmentSetRevisionForIntent_unchanged (oracle.works .calling) timerIntentId
      store.timers).toRecordsUnchanged.carries valid
  | createControlledReplacement replacement expectedAssignmentSetRevision evidence =>
    exact perform_carries valid (.createControlledReplacement oracle.works replacement
      expectedAssignmentSetRevision evidence)

theorem reassignmentStep_carries (valid : HandoversValid system.state.timers)
    (move : ReassignmentMove) :
    Carries (MoveRenames system move) system.state.timers
      (reassignmentStep system move).1.state.timers := by
  have unchanged : Carries (MoveRenames system move) system.state.timers system.state.timers :=
    (RecordsUnchanged.refl system.state.timers).carries valid
  cases move with
  | request request => exact unchanged
  | change change =>
    cases change with
    | call call => exact perform_carries valid call
    | intents intents => exact unchanged
    | bindings bindings => exact unchanged
    | observe works timerIntentId =>
      exact (assignmentSetRevisionForIntent_unchanged works timerIntentId
        system.state.timers).toRecordsUnchanged.carries valid
    | refresh reads writes binding generation observedAt =>
      cases done : refreshBoundAssignmentGeneration reads writes binding generation.toNat
          observedAt system.state.timers with
      | error refusal =>
        simp only [reassignmentStep, machine, Interleaving.step, reassignmentMove,
          applyReassignmentChange, done]
        exact unchanged
      | ok timers =>
        simp only [reassignmentStep, machine, Interleaving.step, reassignmentMove,
          applyReassignmentChange, done]
        exact refresh_carries generation.toNat_lt valid done
  | advance index oracle =>
    cases found : system.processes[index]? with
    | none =>
      simp only [reassignmentStep, machine, Interleaving.step, reassignmentMove, found]
      exact unchanged
    | some process =>
      obtain ⟨earlier, program⟩ := process
      cases program with
      | done result =>
        simp only [reassignmentStep, machine, Interleaving.step, reassignmentMove, found]
        exact unchanged
      | perform call next =>
        simp only [reassignmentStep, machine, Interleaving.step, reassignmentMove, found]
        exact carryOutReassignment_carries valid oracle call

/-! ## Runs -/

theorem final_carries (valid : HandoversValid system.state.timers) (moves : List ReassignmentMove) :
    HandoversValid (Run.final reassignmentStep system moves).state.timers ∧
      Evolves system.state.timers.assignments
        (Run.final reassignmentStep system moves).state.timers.assignments := by
  refine Run.final_preserves reassignmentStep (fun later =>
    HandoversValid later.state.timers ∧
      Evolves system.state.timers.assignments later.state.timers.assignments) ?_ system
    ⟨valid, Evolves.refl _⟩ moves
  intro later move reached
  obtain ⟨laterValid, evolved⟩ := reached
  have carries := reassignmentStep_carries laterValid move
  exact ⟨carries.valid, evolved.trans carries.rows⟩

theorem reassignmentsAfter_valid (moves : List ReassignmentMove) :
    HandoversValid (reassignmentsAfter moves).state.timers :=
  (@final_carries { state := {} } handoversValid_empty moves).1

/-- The move keeps a request repeatable: no accepted update names the replacement under another
intent revision than the request does, and in the repeated call the statements of the lookup are
carried out. -/
def Undisturbed (request : TimerAssignmentReassignmentRequest) (repeated : Nat)
    (system : ReassignmentSystem) (move : ReassignmentMove) : Prop :=
  match move with
  | .advance index oracle => index = repeated → LookupCarriedOut oracle.works
  | .change (.call (.update works later expectedRevision)) =>
    later.timerAssignmentId = request.replacementTimerAssignmentId →
      (update works later expectedRevision system.state.timers).1.ok = true →
        later.intentRevision = request.expectedIntentRevision
  | _ => True

instance (request : TimerAssignmentReassignmentRequest) (repeated : Nat)
    (system : ReassignmentSystem) (move : ReassignmentMove) :
    Decidable (Undisturbed request repeated system move) := by
  unfold Undisturbed
  split <;> infer_instance

theorem Undisturbed.revision {repeated : Nat} {move : ReassignmentMove} {intentRevision : Bytes}
    (undisturbed : Undisturbed request repeated system move)
    (renames : MoveRenames system move request.replacementTimerAssignmentId intentRevision) :
    intentRevision = request.expectedIntentRevision := by
  cases move with
  | request _ => cases renames
  | advance _ _ => cases renames
  | change change =>
    cases change with
    | refresh _ _ _ _ _ | observe _ _ | intents _ | bindings _ => cases renames
    | call call =>
      cases call with
      | create _ _ | createAgainstAssignmentSetRevision _ _ _
        | createControlledReplacement _ _ _ _ | environment _ _ _ => cases renames
      | update works later expectedRevision =>
        obtain ⟨named, revision, accepted⟩ := renames
        rw [← revision]
        exact undisturbed named accepted

theorem HandedOver.final {link : TimerAssignmentReassignmentRow} {repeated : Nat}
    (handed : HandedOver request link system.state.timers)
    (valid : HandoversValid system.state.timers) {moves : List ReassignmentMove}
    (undisturbed : Run.Admits reassignmentStep (Undisturbed request repeated) system moves) :
    HandedOver request link (Run.final reassignmentStep system moves).state.timers := by
  refine (Run.final_preserves_of_admits reassignmentStep (fun later =>
    HandoversValid later.state.timers ∧ HandedOver request link later.state.timers) ?_
    ⟨valid, handed⟩ undisturbed).2
  intro later move reached admitted
  obtain ⟨laterValid, laterHanded⟩ := reached
  have carries := reassignmentStep_carries laterValid move
  exact ⟨carries.valid, laterHanded.carried carries fun revision => admitted.revision⟩

/-! ## Answers -/

theorem of_answerOf {index : Nat} {answer : AnsweredRequest}
    (answered : answerOf system index = some answer) :
    ∃ events, system.processes[index]? = some ⟨events, .done answer⟩ := by
  unfold answerOf at answered
  cases found : system.processes[index]? with
  | none =>
    simp only [found] at answered
    cases answered
  | some process =>
    obtain ⟨events, program⟩ := process
    cases program with
    | done result =>
      simp only [found] at answered
      cases answered
      exact ⟨events, rfl⟩
    | perform call next =>
      simp only [found] at answered
      cases answered

theorem answer_concludes {moves : List ReassignmentMove} {index : Nat} {answer : AnsweredRequest}
    (answered : answerOf (reassignmentsAfter moves) index = some answer) :
    ∃ events, (reassignmentsAfter moves).processes[index]? = some ⟨events, .done answer⟩ ∧
      Concludes events answer := by
  obtain ⟨events, found⟩ := of_answerOf answered
  refine ⟨events, found, ?_⟩
  have obeys : ∀ process ∈ (reassignmentsAfter moves).processes,
      Obeys AlwaysAllowed Concludes process.earlier process.program := by
    refine final_obeys carryOutReassignment applyReassignmentChange reassignmentMove rfl ?_ moves
    intro move program started
    cases move with
    | advance _ _ => cases started
    | change _ => cases started
    | request request =>
      cases started
      exact obeys_bind (reassign_concludes request) fun events result concluded => concluded
  exact obeys _ (List.mem_of_getElem? found)

theorem findById_read {works : CarriedOut} {timerAssignmentId : Bytes} {store : TimerStore}
    (ok : (findById works timerAssignmentId store).ok = true) :
    ∃ row ∈ store.assignments,
      readAssignment row = some (findById works timerAssignmentId store).assignment := by
  unfold findById at ok ⊢
  split at ok
  case isTrue => cases ok
  case isFalse safe =>
  rw [if_neg safe]
  split at ok
  case isTrue => cases ok
  case isFalse schema =>
  rw [if_neg schema]
  cases selected : selectById works timerAssignmentId store with
  | error result =>
    have refused := selectById_refuses works timerAssignmentId store result selected
    simp only [selected, not_ok_of_mem (mem_updateRefusals refused)] at ok
    cases ok
  | ok found =>
    obtain ⟨rfl, -⟩ | ⟨row, assignment, rfl, present, -, read⟩ := selectById_ok selected
    · simp only [selected] at ok
      cases ok
    · exact ⟨row, present, read⟩

theorem numbersRead_of_found {works : CarriedOut} {timerAssignmentId : Bytes} {store : TimerStore}
    (valid : HandoversValid store) (ok : (findById works timerAssignmentId store).ok = true)
    (revision : (findById works timerAssignmentId store).assignment.assignmentRevision =
      request.expectedOldAssignmentRevision)
    (epoch : (findById works timerAssignmentId store).assignment.assignmentEpoch =
      request.expectedOldAssignmentEpoch)
    (generation : (findById works timerAssignmentId store).assignment.backendGeneration =
      request.expectedOldBackendGeneration) :
    NumbersRead request := by
  obtain ⟨row, present, read⟩ := findById_read ok
  obtain ⟨-, rowRevision, -, -, rowEpoch, rowGeneration, -, -, -⟩ := readAssignment_fields read
  have bounded := valid.bounded row present
  exact ⟨⟨row.assignmentRevision, revision.symm.trans rowRevision⟩,
    epoch.symm.trans rowEpoch ▸ bounded.epoch, generation.symm.trans rowGeneration ▸ bounded.generation⟩

theorem advance_of_reassignmentMove {move : ReassignmentMove} {index : Nat}
    {oracle : ReassignmentOracle} (advanced : reassignmentMove move = .advance index oracle) :
    move = .advance index oracle := by
  cases move with
  | request _ => cases advanced
  | change _ => cases advanced
  | advance _ _ =>
    cases advanced
    rfl

theorem handedOver_of_persisted {moves : List ReassignmentMove} {index repeated : Nat}
    {first : TimerAssignmentReassignmentResult}
    (answered : answerOf (reassignmentsAfter moves) index = some (request, first))
    (persisted : first.status = .persisted) (whole : RequestWhole request)
    (undisturbed : Run.Admits reassignmentStep (Undisturbed request repeated) { state := {} } moves) :
    validReassignmentRequest request = true ∧
      ∃ link, HandedOver request link (reassignmentsAfter moves).state.timers ∧
        Records request (evidenceOfRow request.replacementTimerAssignmentId link) ∧
        first.evidence = evidenceOfRow request.replacementTimerAssignmentId link := by
  obtain ⟨events, found, concludes, -⟩ := answer_concludes answered
  obtain ⟨valid, ⟨old, oldRead, oldOk, revision, epoch, generation⟩,
    replacement, expectedAssignmentSetRevision, created, creation, createdOk, asked, evidence⟩ :=
    concludes persisted
  refine ⟨valid, ?_⟩
  -- where the old owner was read
  have numbers : NumbersRead request := by
    obtain ⟨front, back, split⟩ := List.append_of_mem oldRead
    obtain ⟨before, move, oracle, after, next, -, -, -, reply⟩ :=
      exists_performed carryOutReassignment applyReassignmentChange reassignmentMove rfl moves found
        split
    have same : findById (oracle.works .calling) request.oldTimerAssignmentId
        (reassignmentsAfter before).state.timers = old := reply
    rw [← same] at oldOk revision epoch generation
    exact numbersRead_of_found (reassignmentsAfter_valid before) oldOk revision epoch generation
  -- where the replacement was created
  obtain ⟨front, back, split⟩ := List.append_of_mem creation
  obtain ⟨before, move, oracle, after, next, parts, advanced, current, reply⟩ :=
    exists_performed carryOutReassignment applyReassignmentChange reassignmentMove rfl moves found
      split
  have same : (createControlledReplacement oracle.works replacement expectedAssignmentSetRevision
      (evidenceFor request replacement) (reassignmentsAfter before).state.timers).1 = created := reply
  rw [← same] at createdOk evidence
  obtain ⟨link, handed, records, recorded⟩ := createControlledReplacement_handsOver
    (reassignmentsAfter_valid before) asked numbers whole createdOk
  have reached : (reassignmentsAfter (before ++ [move])).state.timers =
      (createControlledReplacement oracle.works replacement expectedAssignmentSetRevision
        (evidenceFor request replacement) (reassignmentsAfter before).state.timers).2 := by
    have stepped : Interleaving.step carryOutReassignment applyReassignmentChange
        (reassignmentsAfter before) (.advance index oracle) = _ :=
      step_advance carryOutReassignment applyReassignmentChange current
    rw [reassignmentsAfter, Run.final_concat, reassignmentStep, machine, advanced]
    exact congrArg (fun outcome => outcome.1.state.timers) stepped
  have rest : moves = (before ++ [move]) ++ after := by rw [parts, List.append_assoc]; rfl
  have final : reassignmentsAfter moves =
      Run.final reassignmentStep (reassignmentsAfter (before ++ [move])) after := by
    rw [rest]
    exact Run.final_append reassignmentStep { state := {} } (before ++ [move]) after
  rw [rest, Run.admits_append] at undisturbed
  rw [← reached] at handed
  refine ⟨link, ?_, records, evidence.trans recorded⟩
  rw [final]
  exact handed.final (reassignmentsAfter_valid (before ++ [move])) undisturbed.2

/-! ## Repeated requests -/

def SupersededOnce (store : TimerStore) : Prop :=
  (store.reassignments.map TimerAssignmentReassignmentRow.oldAssignmentId).Nodup ∧
    (store.reassignments.map TimerAssignmentReassignmentRow.replacementAssignmentId).Nodup

theorem validReassignmentRequest_safe (valid : validReassignmentRequest request = true) :
    safeIdentity request.oldTimerAssignmentId = true ∧
      safeIdentity request.replacementTimerAssignmentId = true := by
  simp only [validReassignmentRequest, Bool.and_eq_true] at valid
  obtain ⟨⟨⟨⟨⟨⟨⟨⟨⟨replacement, old⟩, -⟩, -⟩, -⟩, -⟩, -⟩, -⟩, -⟩, -⟩ := valid
  exact ⟨old, replacement⟩

/-- A call that starts after its request has been answered as persisted is answered from the
handover. -/
theorem repeated_answer {earlier later : List ReassignmentMove} {index repeated : Nat}
    {first second : TimerAssignmentReassignmentResult}
    (answered : answerOf (reassignmentsAfter earlier) index = some (request, first))
    (persisted : first.status = .persisted)
    (starts : (reassignmentsAfter earlier).processes[repeated]? = none)
    (replayed : answerOf (reassignmentsAfter (earlier ++ later)) repeated = some (request, second))
    (whole : RequestWhole request)
    (undisturbed : Run.Admits reassignmentStep (Undisturbed request repeated) { state := {} }
      (earlier ++ later)) :
    second.status = .alreadyPersisted ∧ second.evidence = first.evidence := by
  obtain ⟨before, after⟩ := (Run.admits_append reassignmentStep).mp undisturbed
  obtain ⟨valid, link, handed, records, evidence⟩ :=
    handedOver_of_persisted answered persisted whole before
  obtain ⟨events, found, -, looksUp⟩ := answer_concludes replayed
  obtain ⟨replay, rest, split, answer⟩ := looksUp valid
  obtain ⟨between, move, oracle, others, parts, advanced, reply⟩ :=
    exists_performed_after carryOutReassignment applyReassignmentChange reassignmentMove rfl earlier
      later starts found (show events = [] ++ _ :: rest from split)
  rw [parts, Run.admits_append] at after
  obtain ⟨untilLookup, lookup, -⟩ := after
  have carriedOut : LookupCarriedOut oracle.works := by
    rw [advance_of_reassignmentMove advanced] at lookup
    exact lookup rfl
  have reached : reassignmentsAfter (earlier ++ between) =
      Run.final reassignmentStep (reassignmentsAfter earlier) between :=
    Run.final_append reassignmentStep { state := {} } earlier between
  have same : findControlledReplacement oracle.works request.replacementTimerAssignmentId
      (reassignmentsAfter (earlier ++ between)).state.timers = replay := reply
  have kept := handed.final (reassignmentsAfter_valid earlier) untilLookup
  rw [← reached] at kept
  obtain ⟨oldSafe, newSafe⟩ := validReassignmentRequest_safe valid
  obtain ⟨ok, matching, recorded⟩ := replay_of_handedOver
    (reassignmentsAfter_valid (earlier ++ between)) kept records oldSafe newSafe carriedOut
  rw [same] at ok matching recorded
  have result : second = replayResult request replay := answer ok
  rw [replayResult, matching, Bool.not_true, if_neg Bool.false_ne_true] at result
  rw [result, evidence]
  exact ⟨rfl, recorded⟩

/-- In no run is an assignment superseded twice: every handover has an old assignment of its own,
which stays superseded as it is. A request that was answered as persisted is answered from the
recorded evidence ever after, if its texts can be read back whole, the replacement stays under the
intent revision of the request, and the lookup is carried out. -/
theorem reassign_replayed (earlier later : List ReassignmentMove) :
    (SupersededOnce (reassignmentsAfter (earlier ++ later)).state.timers ∧
      TerminalUnmodified (reassignmentsAfter earlier).state.timers
        (reassignmentsAfter (earlier ++ later)).state.timers) ∧
    ∀ request first second index repeated,
      answerOf (reassignmentsAfter earlier) index = some (request, first) →
      first.status = .persisted →
      (reassignmentsAfter earlier).processes[repeated]? = none →
      answerOf (reassignmentsAfter (earlier ++ later)) repeated = some (request, second) →
      RequestWhole request →
      Run.Admits reassignmentStep (Undisturbed request repeated) { state := {} }
        (earlier ++ later) →
      second.status = .alreadyPersisted ∧ second.evidence = first.evidence := by
  have valid := reassignmentsAfter_valid (earlier ++ later)
  obtain ⟨-, evolves⟩ := final_carries (reassignmentsAfter_valid earlier) later
  have reached : reassignmentsAfter (earlier ++ later) =
      Run.final reassignmentStep (reassignmentsAfter earlier) later :=
    Run.final_append reassignmentStep { state := {} } earlier later
  rw [← reached] at evolves
  refine ⟨⟨⟨valid.olds, valid.replacements⟩, terminalUnmodified_of_evolves valid.rows evolves⟩, ?_⟩
  intro request first second index repeated answered persisted starts replayed whole undisturbed
  exact repeated_answer answered persisted starts replayed whole undisturbed

/-! ## Requests that are refused when they are repeated -/

def failoverIntent (intentRevision : Bytes) : TimerIntent :=
  { sampleIntent with
    intentRevision := intentRevision
    spec := { sampleIntent.spec with assignmentPolicy := { allowFailover := true } } }

/-- The owner `o` on the backend `b` is to be replaced by `n` on the backend `d`. -/
def sampleReassignment (reason : Bytes) : TimerAssignmentReassignmentRequest :=
  { replacementTimerAssignmentId := text "n"
    oldTimerAssignmentId := text "o"
    expectedOldAssignmentRevision := text "1"
    expectedOldAssignmentEpoch := 1
    expectedIntentRevision := text "1"
    expectedOldBackendId := text "b"
    expectedOldBackendGeneration := 1
    reason := reason
    createdAt := 2
    candidates := [sampleCandidate (text "d")] }

def sampleHandover (reason : Bytes) : List ReassignmentMove :=
  [.change (.intents [failoverIntent (text "1")]),
    .change (.call (.environment [⟨text "i", 1, true, text "active"⟩] [] [])),
    .change (.call (.create (fun _ => true) (sampleOwner (text "o")))),
    .request (sampleReassignment reason)] ++ List.replicate 6 (.advance 0 {})

def sampleRepetition (reason : Bytes) : List ReassignmentMove :=
  [.request (sampleReassignment reason), .advance 1 {}]

def sampleRevision : List ReassignmentMove :=
  [.change (.intents [failoverIntent (text "2")]),
    .change (.call (.environment [⟨text "i", 2, true, text "active"⟩] [] [])),
    .change (.call (.update (fun _ => true)
      { sampleReplacement with
        assignmentRevision := text "1"
        intentRevision := text "2"
        assignmentEpoch := 2
        desiredNativeTimerSpecification :=
          some { channelId := text "c", startTime := text "0000", endTime := text "0100" }
        updatedAt := 3 } (text "1")))]

def resultOf (moves : List ReassignmentMove) (index : Nat)
    (request : TimerAssignmentReassignmentRequest) : TimerAssignmentReassignmentResult :=
  ((answerOf (reassignmentsAfter moves) index).getD (request, {})).2

/-- The samples: the first call persists; its repetition is refused after the revision, and when the
reason has a NUL byte, but not otherwise. -/
theorem sample_answers :
    ∀ reason ∈ [text "r", [114, 0]], ∀ later ∈ [[], sampleRevision],
      answerOf (reassignmentsAfter (sampleHandover reason)) 0 =
          some (sampleReassignment reason,
            resultOf (sampleHandover reason) 0 (sampleReassignment reason)) ∧
        (resultOf (sampleHandover reason) 0 (sampleReassignment reason)).status = .persisted ∧
        (reassignmentsAfter (sampleHandover reason)).processes[1]?.isNone = true ∧
        answerOf (reassignmentsAfter (sampleHandover reason ++
            (later ++ sampleRepetition reason))) 1 =
          some (sampleReassignment reason,
            resultOf (sampleHandover reason ++ (later ++ sampleRepetition reason)) 1
              (sampleReassignment reason)) ∧
        ((resultOf (sampleHandover reason ++ (later ++ sampleRepetition reason)) 1
            (sampleReassignment reason)).status =
          if later.isEmpty && reason == text "r" then .alreadyPersisted
          else .replacementIdConflict) := by
  decide

theorem sample_undisturbed :
    Run.Admits reassignmentStep (Undisturbed (sampleReassignment (text "r")) 1) { state := {} }
        (sampleHandover (text "r") ++ sampleRepetition (text "r")) ∧
      Run.Admits reassignmentStep (Undisturbed (sampleReassignment [114, 0]) 1) { state := {} }
        (sampleHandover [114, 0] ++ sampleRepetition [114, 0]) := by
  decide

/-- A repeated request is refused for a NUL byte in its reason alone, and for a new revision of the
intent alone. -/
theorem reassign_not_replayed :
    (¬ ∀ earlier later request first second index repeated,
      answerOf (reassignmentsAfter earlier) index = some (request, first) →
      first.status = .persisted →
      (reassignmentsAfter earlier).processes[repeated]? = none →
      answerOf (reassignmentsAfter (earlier ++ later)) repeated = some (request, second) →
      Run.Admits reassignmentStep (Undisturbed request repeated) { state := {} }
        (earlier ++ later) →
      second.status = .alreadyPersisted ∧ second.evidence = first.evidence) ∧
    ¬ ∀ earlier later request first second index repeated,
      answerOf (reassignmentsAfter earlier) index = some (request, first) →
      first.status = .persisted →
      (reassignmentsAfter earlier).processes[repeated]? = none →
      answerOf (reassignmentsAfter (earlier ++ later)) repeated = some (request, second) →
      RequestWhole request →
      second.status = .alreadyPersisted ∧ second.evidence = first.evidence := by
  constructor
  · intro replayed
    obtain ⟨answered, persisted, absent, repeated, refused⟩ :=
      sample_answers [114, 0] (by simp) [] (by simp)
    obtain ⟨accepted, -⟩ := replayed _ _ _ _ _ _ _ answered persisted
      (Option.isNone_iff_eq_none.mp absent) repeated (sample_undisturbed).2
    rw [refused] at accepted
    cases accepted
  · intro replayed
    obtain ⟨answered, persisted, absent, repeated, refused⟩ :=
      sample_answers (text "r") (by simp) sampleRevision (by simp)
    obtain ⟨accepted, -⟩ := replayed _ _ _ _ _ _ _ answered persisted
      (Option.isNone_iff_eq_none.mp absent) repeated (by decide)
    rw [refused] at accepted
    cases accepted

theorem reassign_replayed_sample :
    (resultOf (sampleHandover (text "r") ++ sampleRepetition (text "r")) 1
        (sampleReassignment (text "r"))).evidence =
      (resultOf (sampleHandover (text "r")) 0 (sampleReassignment (text "r"))).evidence := by
  obtain ⟨answered, persisted, absent, repeated, -⟩ :=
    sample_answers (text "r") (by simp) [] (by simp)
  exact ((reassign_replayed (sampleHandover (text "r")) (sampleRepetition (text "r"))).2
    _ _ _ _ _ answered persisted (Option.isNone_iff_eq_none.mp absent) repeated (by decide)
    (sample_undisturbed).1).2

end VdrSuite.Timers
