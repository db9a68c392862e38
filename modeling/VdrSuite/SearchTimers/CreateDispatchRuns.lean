import Mathlib.Algebra.BigOperators.Group.List.Basic
import VdrSuite.SearchTimers.CreateDispatchProperties

/-! Runs of callers of the creation services beside others: how often a search timer is created, and
what its operation can become after that. -/

set_option autoImplicit false

namespace VdrSuite.SearchTimers

open Library Library.Interleaving Operations

variable {sha256 : Bytes → Option Bytes} {operationId : Bytes}
  {source target : MutationOperationState}

abbrev CreateProcess : Type := Process CreateCall CreateReply CreateOutcome

def finalSystem (sha256 : Bytes → Option Bytes) (moves : List CreateMove) : CreateSystem :=
  Run.final (createStep sha256) { state := {} } moves

/-! ## What is said of a run -/

def operationOf : List CreateEvent → Option Bytes
  | ⟨.findById operationId, _⟩ :: _ => some operationId
  | _ => none

def isCreate : CreateEvent → Bool
  | ⟨.create _, _⟩ => true
  | _ => false

def createCallsOf (operationId : Bytes) (process : CreateProcess) : Nat :=
  if operationOf process.earlier = some operationId then process.earlier.countP isCreate else 0

/-- How often the executor's `create` has been called for an operation. -/
def createCalls (operationId : Bytes) (system : CreateSystem) : Nat :=
  (system.processes.map (createCallsOf operationId)).sum

def Commits (sha256 : Bytes → Option Bytes) (moves : List CreateMove) (index : Nat)
    (operationId : Bytes) : Prop :=
  ∃ before oracle after, moves = before ++ .advance index oracle :: after ∧
    (finalSystem sha256 before).state.HasState operationId .accepted ∧
    (finalSystem sha256 (before ++ [.advance index oracle])).state.HasState operationId .dispatching

def AskedByOthers (operationId : Bytes) (source target : MutationOperationState) (move : CreateMove) :
    Prop :=
  ∃ request arguments, move = .other request ∧ request.call = .transition arguments ∧
    arguments.Moves operationId source target

def AskedByCaller (system : CreateSystem) (operationId : Bytes)
    (source target : MutationOperationState) (move : CreateMove) : Prop :=
  ∃ index oracle earlier arguments next, move = .advance index oracle ∧
    system.processes[index]? = some ⟨earlier, .perform (.transition arguments) next⟩ ∧
    arguments.Moves operationId source target

/-- A move makes the operation succeed only for another caller who asks for that, or for a caller who
has verified the creation. -/
def SucceedsVerified (sha256 : Bytes → Option Bytes) (operationId : Bytes) (system : CreateSystem)
    (move : CreateMove) : Prop :=
  ¬ system.state.HasState operationId .succeeded →
  (createStep sha256 system move).1.state.HasState operationId .succeeded →
  (∃ source, AskedByOthers operationId source .succeeded move) ∨
  ∃ index oracle process, move = .advance index oracle ∧ system.processes[index]? = some process ∧
    Verified sha256 process.earlier operationId

def Dispatched : MutationOperationState → Prop
  | .dispatching | .executedUnverified | .outcomeUnknown | .succeeded | .failedVerified => True
  | .accepted | .rejected | .conflict | .queued | .failedBeforeDispatch | .cancelled => False

structure CreationGuarded (sha256 : Bytes → Option Bytes) (moves : List CreateMove)
    (operationId : Bytes) : Prop where
  once : createCalls operationId (finalSystem sha256 moves) ≤ 1
  committedFirst : ∀ (index : Nat) (process : CreateProcess),
    (finalSystem sha256 moves).processes[index]? = some process →
    0 < createCallsOf operationId process → Commits sha256 moves index operationId
  verified : Run.Admits (createStep sha256) (SucceedsVerified sha256 operationId) { state := {} } moves
  neverUndone : 0 < createCalls operationId (finalSystem sha256 moves) →
    ∃ state, (finalSystem sha256 moves).state.HasState operationId state ∧
      (Dispatched state ∨ state = .failedBeforeDispatch ∧
        ∃ move ∈ moves, AskedByOthers operationId .dispatching .failedBeforeDispatch move)
  inactive : ∀ row ∈ (finalSystem sha256 moves).state.payloads, row.operationId = operationId →
    ∀ payload, parseSearchTimerCreateOperationPayload row.payload = some payload →
      payload.active = true →
      createCalls operationId (finalSystem sha256 moves) = 0 ∧
        ∀ index, ¬ Commits sha256 moves index operationId

/-! ## One move -/

abbrev CreateSound (sha256 : Bytes → Option Bytes) (system : CreateSystem) : Prop :=
  Sound (CallRule sha256) Store.Valid Knows system

theorem toMove_admitted (system : CreateSystem) (move : CreateMove) :
    MoveAdmitted (CallRule sha256) (fun _ _ _ => True) (fun _ _ => True) system
      (toMove sha256 move) := by
  cases move with
  | dispatch request =>
    exact obeys_bind (dispatchOnce_follows request) fun _ _ _ => trivial
  | recover request =>
    exact obeys_bind (markOrphanedUnknown_follows request) fun _ _ _ => trivial
  | advance index oracle => exact fun _ _ _ _ => trivial
  | other request => trivial

theorem createStep_sound {system : CreateSystem} (sound : CreateSound sha256 system)
    (move : CreateMove) : CreateSound sha256 (createStep sha256 system move).1 :=
  create_discipline.step sound (toMove_admitted system move)

theorem createStep_continues {system : CreateSystem} (sound : CreateSound sha256 system)
    (move : CreateMove) :
    system.state.Continues (createStep sha256 system move).1.state :=
  create_discipline.related Store.Continues.refl sound (toMove_admitted system move)

theorem finalSystem_sound (moves : List CreateMove) :
    CreateSound sha256 (finalSystem sha256 moves) := by
  apply Run.final_preserves (createStep sha256) (CreateSound sha256)
    (fun _ move sound => createStep_sound sound move)
  exact ⟨Store.Valid.empty, fun _ member => absurd member List.not_mem_nil,
    fun _ member => absurd member List.not_mem_nil⟩

theorem finalSystem_continues (earlier later : List CreateMove) :
    (finalSystem sha256 earlier).state.Continues (finalSystem sha256 (earlier ++ later)).state := by
  unfold finalSystem
  rw [Run.final_append]
  exact Run.final_relates (createStep sha256) (CreateSound sha256) (fun _ _ => True)
    (fun before after => before.state.Continues after.state) (fun system => .refl system.state)
    (fun _ _ _ first second => first.trans second) (fun _ move sound => createStep_sound sound move)
    (fun _ move sound _ => createStep_continues sound move) _ (finalSystem_sound earlier) later
    fun _ _ _ _ => trivial

theorem advance_of_toMove {move : CreateMove} {index : Nat} {oracle : CreateOracle}
    (advanced : toMove sha256 move = .advance index oracle) : move = .advance index oracle := by
  cases move with
  | dispatch _ | recover _ | other _ => cases advanced
  | advance _ _ =>
    cases advanced
    rfl

/-- After a move, the state of an operation is the one before it, that of a reservation, or one that
somebody asks for. -/
theorem createStep_hasState {system : CreateSystem} (sound : CreateSound sha256 system)
    (move : CreateMove)
    (reached : (createStep sha256 system move).1.state.HasState operationId target) :
    system.state.HasState operationId target ∨
      (target = .accepted ∧ ∀ source, ¬ system.state.HasState operationId source) ∨
      ∃ source, system.state.HasState operationId source ∧
        (AskedByOthers operationId source target move ∨
          AskedByCaller system operationId source target move) := by
  cases move with
  | dispatch _ | recover _ => exact .inl reached
  | other request =>
    rcases step_hasState sound.valid request reached with
      old | fresh | ⟨arguments, source, call, stored, moves⟩
    · exact .inl old
    · exact .inr (.inl fresh)
    · exact .inr (.inr ⟨source, stored, .inl ⟨request, arguments, rfl, call, moves⟩⟩)
  | advance index oracle =>
    cases current : system.processes[index]? with
    | none =>
      simp only [createStep, machine, toMove, Interleaving.step, current] at reached
      exact .inl reached
    | some process =>
      obtain ⟨earlier, program⟩ := process
      cases program with
      | done result =>
        simp only [createStep, machine, toMove, Interleaving.step, current] at reached
        exact .inl reached
      | perform call next =>
        have stepped : (createStep sha256 system (.advance index oracle)).1.state =
            (carryOut oracle call system.state).2 := by
          simp only [createStep, machine, toMove, Interleaving.step, current]
        rw [stepped] at reached
        cases call with
        | findById _ | findPayloadByOperationId _ | currentGeneration _ | list _ | create _ =>
          exact .inl reached
        | transition arguments =>
          rcases transition_cases oracle.environment system.state sound.valid arguments with
            ⟨same, -⟩ | ⟨row, operation, transitioned⟩
          · change (transition _ _ _).1.HasState _ _ at reached
            rw [same] at reached
            exact .inl reached
          · rcases transitioned.hasState reached with old | ⟨source, stored, moves⟩
            · exact .inl old
            · exact .inr (.inr ⟨source, stored, .inr
                ⟨index, oracle, earlier, arguments, next, rfl, current, moves⟩⟩)

/-- A stored operation keeps its state in a move, or somebody asks for another that may follow. -/
theorem createStep_progress {system : CreateSystem} (sound : CreateSound sha256 system)
    (move : CreateMove) (stored : system.state.HasState operationId source) :
    ∃ target, (createStep sha256 system move).1.state.HasState operationId target ∧
      (target = source ∨ AskedByOthers operationId source target move ∨
        AskedByCaller system operationId source target move) := by
  obtain ⟨target, reached⟩ :=
    (createStep_continues sound move).hasState (createStep_sound sound move).valid stored
  refine ⟨target, reached, ?_⟩
  rcases createStep_hasState sound move reached with old | ⟨-, absent⟩ | ⟨other, earlier, asked⟩
  · exact .inl (sound.valid.state_unique old stored)
  · exact absurd stored (absent source)
  · cases sound.valid.state_unique earlier stored
    exact .inr asked

/-- What a caller of the services has established and knows when it asks for a transition. -/
theorem AskedByCaller.rule {system : CreateSystem} (sound : CreateSound sha256 system)
    {move : CreateMove} (asked : AskedByCaller system operationId source target move) :
    ∃ index oracle earlier arguments next, move = .advance index oracle ∧
      system.processes[index]? = some ⟨earlier, .perform (.transition arguments) next⟩ ∧
      arguments.Moves operationId source target ∧
      CallRule sha256 earlier (.transition arguments) ∧ Knows system.state earlier := by
  obtain ⟨index, oracle, earlier, arguments, next, advanced, current, moves⟩ := asked
  have member := List.mem_of_getElem? current
  exact ⟨index, oracle, earlier, arguments, next, advanced, current, moves,
    (sound.obeys _ member).1, sound.consistent _ member⟩

/-! ## Operations that have been dispatched -/

theorem dispatched_or_failed_of_allowed
    (allowed : mutationOperationTransitionAllowed source target = true)
    (dispatched : Dispatched source) :
    Dispatched target ∨ source = .dispatching ∧ target = .failedBeforeDispatch := by
  cases source with
  | accepted | rejected | conflict | queued | failedBeforeDispatch | cancelled => cases dispatched
  | dispatching | executedUnverified | succeeded | failedVerified | outcomeUnknown =>
    revert allowed
    cases target <;> simp [mutationOperationTransitionAllowed, Dispatched]

theorem AskedByCaller.not_failed {system : CreateSystem} (sound : CreateSound sha256 system)
    {move : CreateMove} :
    ¬ AskedByCaller system operationId .dispatching .failedBeforeDispatch move := by
  intro asked
  obtain ⟨_, _, earlier, arguments, _, -, -, moves, ruled, -⟩ := asked.rule sound
  rw [CallRule, moves.enters] at ruled
  cases moves.leaves.symm.trans ruled

theorem AskedByOthers.moves {move : CreateMove} (asked : AskedByOthers operationId source target move) :
    mutationOperationTransitionAllowed source target = true := by
  obtain ⟨_, _, -, -, moves⟩ := asked
  exact moves.allowed

theorem AskedByCaller.moves {system : CreateSystem} {move : CreateMove}
    (asked : AskedByCaller system operationId source target move) :
    mutationOperationTransitionAllowed source target = true := by
  obtain ⟨_, _, _, _, _, -, -, moves⟩ := asked
  exact moves.allowed

theorem createStep_dispatched {system : CreateSystem} (sound : CreateSound sha256 system)
    (move : CreateMove) (stored : system.state.HasState operationId source)
    (dispatched : Dispatched source) :
    ∃ target, (createStep sha256 system move).1.state.HasState operationId target ∧
      (Dispatched target ∨ target = .failedBeforeDispatch ∧
        AskedByOthers operationId .dispatching .failedBeforeDispatch move) := by
  obtain ⟨target, reached, rfl | asked⟩ := createStep_progress sound move stored
  · exact ⟨target, reached, .inl dispatched⟩
  · have allowed : mutationOperationTransitionAllowed source target = true := by
      rcases asked with others | caller
      · exact others.moves
      · exact caller.moves
    rcases dispatched_or_failed_of_allowed allowed dispatched with kept | ⟨rfl, rfl⟩
    · exact ⟨target, reached, .inl kept⟩
    · rcases asked with others | caller
      · exact ⟨_, reached, .inr ⟨rfl, others⟩⟩
      · exact absurd caller (AskedByCaller.not_failed sound)

theorem createStep_failed {system : CreateSystem} (sound : CreateSound sha256 system)
    (move : CreateMove) (failed : system.state.HasState operationId .failedBeforeDispatch) :
    (createStep sha256 system move).1.state.HasState operationId .failedBeforeDispatch := by
  obtain ⟨target, reached, rfl | asked⟩ := createStep_progress sound move failed
  · exact reached
  · have allowed : mutationOperationTransitionAllowed .failedBeforeDispatch target = true := by
      rcases asked with others | caller
      · exact others.moves
      · exact caller.moves
    cases (mutationOperationTransitionAllowed_of_terminal _ target rfl).mp allowed
    exact reached

theorem final_failed {system : CreateSystem} (sound : CreateSound sha256 system)
    (moves : List CreateMove) (failed : system.state.HasState operationId .failedBeforeDispatch) :
    (Run.final (createStep sha256) system moves).state.HasState operationId
      .failedBeforeDispatch :=
  (Run.final_preserves (createStep sha256)
    (fun system => CreateSound sha256 system ∧
      system.state.HasState operationId .failedBeforeDispatch)
    (fun _ move kept => ⟨createStep_sound kept.1 move, createStep_failed kept.1 move kept.2⟩)
    system ⟨sound, failed⟩ moves).2

theorem final_dispatched {system : CreateSystem} (sound : CreateSound sha256 system)
    (moves : List CreateMove) (stored : system.state.HasState operationId source)
    (dispatched : Dispatched source) :
    ∃ target, (Run.final (createStep sha256) system moves).state.HasState operationId target ∧
      (Dispatched target ∨ target = .failedBeforeDispatch ∧
        ∃ move ∈ moves, AskedByOthers operationId .dispatching .failedBeforeDispatch move) := by
  induction moves generalizing system source with
  | nil => exact ⟨source, stored, .inl dispatched⟩
  | cons move rest ih =>
    have next := createStep_sound sound move
    obtain ⟨middle, reached, kept | ⟨rfl, asked⟩⟩ :=
      createStep_dispatched sound move stored dispatched
    · obtain ⟨target, last, still | ⟨failed, later, member, asked⟩⟩ := ih next reached kept
      · exact ⟨target, last, .inl still⟩
      · exact ⟨target, last, .inr ⟨failed, later, List.mem_cons_of_mem move member, asked⟩⟩
    · exact ⟨_, final_failed next rest reached, .inr ⟨rfl, move, List.mem_cons_self, asked⟩⟩

/-! ## The commit -/

theorem dispatched_after_commit {before : List CreateMove} {move : CreateMove}
    (committed : (finalSystem sha256 (before ++ [move])).state.HasState operationId .dispatching)
    (after : List CreateMove) :
    ∃ state, (finalSystem sha256 (before ++ move :: after)).state.HasState operationId state ∧
      (Dispatched state ∨ state = .failedBeforeDispatch ∧
        ∃ later ∈ before ++ move :: after,
          AskedByOthers operationId .dispatching .failedBeforeDispatch later) := by
  obtain ⟨state, reached, kept | ⟨failed, later, member, asked⟩⟩ :=
    final_dispatched (finalSystem_sound (before ++ [move])) after committed trivial
  all_goals
    rw [finalSystem, ← Run.final_append, List.append_assoc, List.singleton_append] at reached
  · exact ⟨state, reached, .inl kept⟩
  · refine ⟨state, reached, .inr ⟨failed, later, ?_, asked⟩⟩
    exact List.mem_append_right _ (List.mem_cons_of_mem move member)

theorem not_accepted_after_commit {before after : List CreateMove} {move : CreateMove}
    (committed : (finalSystem sha256 (before ++ [move])).state.HasState operationId .dispatching) :
    ¬ (finalSystem sha256 (before ++ move :: after)).state.HasState operationId .accepted := by
  intro accepted
  obtain ⟨state, reached, kept⟩ := dispatched_after_commit committed after
  cases (finalSystem_sound _).valid.state_unique accepted reached
  rcases kept with impossible | ⟨impossible, -⟩
  · exact impossible
  · cases impossible

theorem Commits.unique {moves : List CreateMove} {first second : Nat}
    (left : Commits sha256 moves first operationId)
    (right : Commits sha256 moves second operationId) : first = second := by
  obtain ⟨before, oracle, after, split, accepted, dispatching⟩ := left
  obtain ⟨earlier, other, later, same, otherAccepted, otherDispatching⟩ := right
  rcases List.append_eq_append_iff.mp (split.symm.trans same) with
    ⟨between, rfl, parts⟩ | ⟨between, rfl, parts⟩
  · cases between with
    | nil =>
      cases parts
      rfl
    | cons move between =>
      cases parts
      exact absurd otherAccepted (not_accepted_after_commit dispatching)
  · cases between with
    | nil =>
      cases parts
      rfl
    | cons move between =>
      cases parts
      exact absurd accepted (not_accepted_after_commit otherDispatching)

/-! ## The callers of a run -/

theorem committed_of_create {moves : List CreateMove} {index : Nat} {process : CreateProcess}
    (found : (finalSystem sha256 moves).processes[index]? = some process)
    {first rest : List CreateEvent} {event : CreateEvent}
    (split : process.earlier = first ++ event :: rest) (creates : isCreate event = true) :
    ∃ operation payload baseline, Committed sha256 first operation payload baseline := by
  obtain ⟨before, request, oracle, after, next, -, -, current, -⟩ :=
    exists_performed carryOut applyOther (toMove sha256) rfl moves found split
  have ruled := ((finalSystem_sound before).obeys _ (List.mem_of_getElem? current)).1
  obtain ⟨call, reply⟩ := event
  cases call with
  | create command =>
    obtain ⟨operation, payload, baseline, committed, -⟩ := ruled
    exact ⟨operation, payload, baseline, committed⟩
  | findById _ | findPayloadByOperationId _ | transition _ | currentGeneration _ | list _ =>
    cases creates

theorem Committed.no_create {events : List CreateEvent} {operation : MutationOperation}
    {payload : SearchTimerCreateOperationPayload} {baseline : SearchTimerResult}
    (committed : Committed sha256 events operation payload baseline) :
    events.countP isCreate = 0 := by
  obtain ⟨reads, arguments, locked, prepared, -, -, -, -, rfl⟩ := committed
  obtain ⟨stored, -, rfl⟩ := prepared.reads
  rfl

theorem countP_le_one {Value : Type} {counted : Value → Bool} {values : List Value}
    (alone : ∀ first value rest, values = first ++ value :: rest → counted value = true →
      first.countP counted = 0) : values.countP counted ≤ 1 := by
  induction values using List.reverseRecOn with
  | nil => exact Nat.zero_le 1
  | append_singleton earlier last ih =>
    rw [List.countP_append, List.countP_singleton]
    split
    · next counts => rw [alone earlier last [] rfl counts]
    · apply ih
      intro first value rest split
      exact alone first value (rest ++ [last]) (by simp [split])

theorem createCallsOf_le_one {moves : List CreateMove} {index : Nat} {process : CreateProcess}
    (found : (finalSystem sha256 moves).processes[index]? = some process) :
    createCallsOf operationId process ≤ 1 := by
  unfold createCallsOf
  split
  · apply countP_le_one
    intro first event rest split creates
    obtain ⟨_, _, _, committed⟩ := committed_of_create found split creates
    exact committed.no_create
  · exact Nat.zero_le 1

theorem Prepared.cString_operationId {store : Store} {events : List CreateEvent}
    {operation : MutationOperation} {payload : SearchTimerCreateOperationPayload}
    {baseline : SearchTimerResult} (prepared : Prepared sha256 events operation payload baseline)
    (knows : Knows store events) : cString operation.operationId = operation.operationId := by
  obtain ⟨stored, -, rfl⟩ := prepared.reads
  obtain ⟨row, -, named, same⟩ := knows _ List.mem_cons_self rfl
  exact named.symm.trans same

/-- A transition that succeeds for a caller moves the operation from the expected state to the next. -/
theorem moved_of_transition {system : CreateSystem} (sound : CreateSound sha256 system) {index : Nat}
    {oracle : CreateOracle} {earlier : List CreateEvent} {arguments : TransitionArguments}
    {next : MutationOperationRepositoryResult → Program CreateCall CreateReply CreateOutcome}
    (current : system.processes[index]? = some ⟨earlier, .perform (.transition arguments) next⟩)
    (ok : (transition oracle.environment system.state arguments).2.status = .ok) :
    system.state.HasState (cString arguments.operationId) arguments.expectedState ∧
      (createStep sha256 system (.advance index oracle)).1.state.HasState
        (cString arguments.operationId) arguments.nextState := by
  have stepped : (createStep sha256 system (.advance index oracle)).1.state =
      (transition oracle.environment system.state arguments).1 := by
    simp only [createStep, machine, toMove, Interleaving.step, current]
    rfl
  rw [stepped]
  rcases transition_cases oracle.environment system.state sound.valid arguments with
    ⟨-, refused⟩ | ⟨row, operation, transitioned⟩
  · exact absurd ok refused
  · obtain ⟨before, after, -⟩ := transitioned.moves
    rw [← transitioned.addressed]
    exact ⟨before, after⟩

theorem Verified.cString_operationId {store : Store} {events : List CreateEvent}
    (verified : Verified sha256 events operationId) (knows : Knows store events) :
    cString operationId = operationId := by
  obtain ⟨operation, payload, baseline, created, creation, recording, timer, after, rfl, made, -, -, -,
    rfl⟩ := verified
  obtain ⟨committed, answer, committing, -, -, -, -, rfl⟩ := made
  obtain ⟨reads, arguments, locked, prepared, -, -, -, -, rfl⟩ := committing
  exact prepared.cString_operationId fun event member => knows event (by simp [member])

/-- A caller that calls `create` for an operation has moved it from accepted to dispatching. -/
theorem commits_of_create {moves : List CreateMove} {index : Nat} {process : CreateProcess}
    (found : (finalSystem sha256 moves).processes[index]? = some process)
    (called : 0 < createCallsOf operationId process) : Commits sha256 moves index operationId := by
  unfold createCallsOf at called
  split at called
  · next own =>
    obtain ⟨event, member, creates⟩ := List.countP_pos_iff.mp called
    obtain ⟨first, rest, split⟩ := List.append_of_mem member
    obtain ⟨operation, payload, baseline, committed⟩ := committed_of_create found split creates
    obtain ⟨reads, arguments, locked, prepared, addressed, expected, following, ok, rfl⟩ := committed
    -- what the caller read first tells which operation it is about
    have knows := (finalSystem_sound moves).consistent process (List.mem_of_getElem? found)
    have identified := prepared.cString_operationId fun event inside =>
      knows event (by rw [split]; simp [inside])
    have same : operation.operationId = operationId := by
      obtain ⟨stored, -, rfl⟩ := prepared.reads
      rw [split] at own
      exact Option.some.inj own
    -- the move at which the transition was carried out
    rw [List.append_assoc] at split
    obtain ⟨before, request, oracle, after, onward, parts, advanced, current, replied⟩ :=
      exists_performed carryOut applyOther (toMove sha256) rfl moves found split
    cases advance_of_toMove advanced
    have accepted : (transition oracle.environment (finalSystem sha256 before).state
        arguments).2.status = .ok :=
      (congrArg MutationOperationRepositoryResult.status replied).trans ok
    obtain ⟨left, reached⟩ := moved_of_transition (finalSystem_sound before) current accepted
    rw [addressed, identified, same] at left reached
    rw [expected] at left
    rw [following] at reached
    refine ⟨before, oracle, after, parts, left, ?_⟩
    rw [finalSystem, Run.final_concat]
    exact reached
  · cases called

theorem exists_call_of_createCalls {system : CreateSystem}
    (called : 0 < createCalls operationId system) :
    ∃ (index : Nat) (process : CreateProcess), system.processes[index]? = some process ∧
      0 < createCallsOf operationId process := by
  by_contra none
  refine absurd (List.sum_eq_zero ?_) called.ne'
  intro calls member
  obtain ⟨process, inside, rfl⟩ := List.mem_map.mp member
  obtain ⟨index, found⟩ := List.mem_iff_getElem?.mp inside
  by_contra some
  exact none ⟨index, process, found, Nat.pos_of_ne_zero some⟩

theorem sum_le_one {values : List Nat} (small : ∀ value ∈ values, value ≤ 1)
    (alone : ∀ first second left right : Nat, values[first]? = some left →
      values[second]? = some right → 0 < left → 0 < right → first = second) : values.sum ≤ 1 := by
  induction values with
  | nil => exact Nat.zero_le 1
  | cons value rest ih =>
    rw [List.sum_cons]
    have first := small value List.mem_cons_self
    have later := ih (fun other member => small other (List.mem_cons_of_mem value member))
      fun first second left right leftFound rightFound leftPos rightPos =>
        Nat.succ.inj (alone (first + 1) (second + 1) left right leftFound rightFound leftPos rightPos)
    rcases Nat.eq_zero_or_pos value with zero | positive
    · omega
    · have none : rest.sum = 0 := by
        refine List.sum_eq_zero fun other member => ?_
        obtain ⟨index, found⟩ := List.mem_iff_getElem?.mp member
        by_contra some
        cases alone 0 (index + 1) value other rfl found positive (Nat.pos_of_ne_zero some)
      omega

theorem createCalls_le_one (moves : List CreateMove) :
    createCalls operationId (finalSystem sha256 moves) ≤ 1 := by
  apply sum_le_one
  · intro calls member
    obtain ⟨process, inside, rfl⟩ := List.mem_map.mp member
    obtain ⟨index, found⟩ := List.mem_iff_getElem?.mp inside
    exact createCallsOf_le_one found
  · intro first second left right leftFound rightFound leftCalls rightCalls
    rw [List.getElem?_map, Option.map_eq_some_iff] at leftFound rightFound
    obtain ⟨process, found, rfl⟩ := leftFound
    obtain ⟨other, otherFound, rfl⟩ := rightFound
    exact (commits_of_create found leftCalls).unique (commits_of_create otherFound rightCalls)

/-! ## Runs -/

theorem succeedsVerified {system : CreateSystem} (sound : CreateSound sha256 system)
    (move : CreateMove) : SucceedsVerified sha256 operationId system move := by
  intro fresh reached
  rcases createStep_hasState sound move reached with
    old | ⟨impossible, -⟩ | ⟨source, -, others | caller⟩
  · exact absurd old fresh
  · cases impossible
  · exact .inl ⟨source, others⟩
  · obtain ⟨index, oracle, earlier, arguments, onward, advanced, current, moves, ruled, knows⟩ :=
      caller.rule sound
    rw [CallRule, moves.enters] at ruled
    have verified : Verified sha256 earlier arguments.operationId := ruled
    have same : arguments.operationId = operationId :=
      (verified.cString_operationId knows).symm.trans moves.addressed
    exact .inr ⟨index, oracle, _, advanced, current, same ▸ verified⟩

theorem Prepared.stored {store : Store} {events : List CreateEvent} {operation : MutationOperation}
    {payload : SearchTimerCreateOperationPayload} {baseline : SearchTimerResult}
    (prepared : Prepared sha256 events operation payload baseline) (knows : Knows store events) :
    ∃ row ∈ store.payloads, row.operationId = cString operation.operationId ∧
      parseSearchTimerCreateOperationPayload row.payload = some payload := by
  obtain ⟨stored, decoded, rfl⟩ := prepared.reads
  unfold storedPayload at decoded
  split at decoded
  · cases decoded
  · next form =>
    rw [not_or, not_ne_iff] at form
    split at decoded
    · cases decoded
    · next found parsed =>
      split at decoded
      · cases decoded
      · cases decoded
        obtain ⟨row, member, named, same⟩ :=
          knows _ (List.mem_cons_of_mem _ List.mem_cons_self) form.1
        exact ⟨row, member, named, same ▸ parsed⟩

theorem not_commits_of_active {moves : List CreateMove} {row : MutationOperationPayloadRow}
    (member : row ∈ (finalSystem sha256 moves).state.payloads) (owned : row.operationId = operationId)
    {payload : SearchTimerCreateOperationPayload}
    (parsed : parseSearchTimerCreateOperationPayload row.payload = some payload)
    (active : payload.active = true) (index : Nat) : ¬ Commits sha256 moves index operationId := by
  rintro ⟨before, oracle, after, rfl, accepted, dispatching⟩
  have sound : CreateSound sha256 (finalSystem sha256 before) := finalSystem_sound before
  rw [finalSystem, Run.final_concat] at dispatching
  rcases createStep_hasState sound _ dispatching with
    old | ⟨impossible, -⟩ | ⟨source, -, others | caller⟩
  · cases sound.valid.state_unique accepted old
  · cases impossible
  · obtain ⟨_, _, ⟨⟩, -⟩ := others
  · obtain ⟨_, _, earlier, arguments, _, -, -, asked, ruled, knows⟩ := caller.rule sound
    rw [CallRule, asked.enters] at ruled
    obtain ⟨-, operation, decoded, baseline, prepared, addressed⟩ := ruled
    obtain ⟨stored, storedMember, named, storedParsed⟩ := prepared.stored knows
    have kept := (finalSystem_continues before (.advance index oracle :: after)).payloads stored
      storedMember
    rw [← addressed, asked.addressed] at named
    have same := (finalSystem_sound _).valid.payload_unique kept member (named.trans owned.symm)
    rw [same, parsed] at storedParsed
    cases storedParsed
    rw [prepared.inactive] at active
    cases active

/-- However callers of the two services and others interleave: `create` is called once at most, by
the caller whose transition to dispatching has been committed. Nobody but another caller of the
repository makes the operation succeed without the evidence, or declares it undone after that, and
never is it accepted or rejected again. An active search timer is not dispatched. -/
theorem searchTimer_create_guarded (sha256 : Bytes → Option Bytes) (moves : List CreateMove)
    (operationId : Bytes) : CreationGuarded sha256 moves operationId where
  once := createCalls_le_one moves
  committedFirst _ _ := commits_of_create
  verified := (Run.admits_iff_forall_split (createStep sha256)).mpr fun before move _ _ =>
    succeedsVerified (finalSystem_sound before) move
  neverUndone called := by
    obtain ⟨index, process, found, calls⟩ := exists_call_of_createCalls called
    obtain ⟨before, oracle, after, rfl, -, dispatching⟩ := commits_of_create found calls
    exact dispatched_after_commit dispatching after
  inactive row member owned payload parsed active := by
    have uncommitted := not_commits_of_active member owned parsed active
    refine ⟨?_, uncommitted⟩
    by_contra called
    obtain ⟨index, process, found, calls⟩ :=
      exists_call_of_createCalls (Nat.pos_of_ne_zero called)
    exact uncommitted index (commits_of_create found calls)

/-! ## A creation that others declare undone -/

def samplePayload : SearchTimerCreateOperationPayload :=
  { name := text "n", query := text "qq", active := false }

def sampleDigest : Bytes :=
  [141, 27, 67, 255, 24, 180, 196, 124, 176, 110, 18, 215, 254, 83, 104, 108, 226, 74, 86, 205, 53, 211,
    89, 217, 14, 220, 203, 30, 165, 172, 93, 238]

def sampleFingerprint : Bytes :=
  searchTimerCreateOperationPayloadFingerprint (fun _ => some sampleDigest) samplePayload

def sampleOperation : MutationOperation :=
  { operationId := text "o"
    idempotencyKey := text "k"
    actorId := text "a"
    backendId := text "b"
    backendGeneration := 1
    resourceType := text "SearchTimer"
    resourceId := text "new"
    expectedRevision := text "new"
    expectedResourceFingerprint := sampleFingerprint
    actionFamily := text "searchtimer.create"
    requestFingerprint := sampleFingerprint
    requestedAt := 1
    updatedAt := 1 }

def sampleStoredPayload : MutationOperationPayload :=
  { operationId := text "o"
    payloadType := text "searchtimer.create"
    payloadVersion := 2
    payload := serializeSearchTimerCreateOperationPayload samplePayload
    payloadFingerprint := sampleFingerprint }

def sampleRequest : SearchTimerCreateDispatchRequest :=
  { operationId := text "o"
    actorId := text "a"
    backendId := text "b"
    backendGeneration := 1
    now := 2
    operatorConfirmed := true
    backendWriteAllowed := true
    executorOptIn := true }

def sampleOracle : CreateOracle :=
  { generation := .returned (some 1), inventory := .returned {}, created := .threw }

def sampleReservation : CreateMove :=
  .other ⟨{}, .reserveWithPayload sampleOperation sampleStoredPayload⟩

def sampleTransition (revision : Nat) (source target : MutationOperationState) : CreateMove :=
  .other ⟨{}, .transition
    { operationId := text "o"
      expectedOperationRevision := decimal revision
      expectedState := source
      nextState := target
      resultReference := []
      updatedAt := 3 }⟩

/-- A caller dispatches the operation as far as the creation, and another one declares it undone. -/
def sampleUndone : List CreateMove :=
  [sampleReservation, .dispatch sampleRequest] ++ List.replicate 7 (.advance 0 sampleOracle) ++
    [sampleTransition 2 .dispatching .failedBeforeDispatch]

/-- The timer that the sample payload asks for. -/
def sampleTimer : SearchTimer :=
  { id := ⟨text "b", text "1"⟩
    name := text "n"
    query := text "qq"
    state := .inactive
    comparisonOptions := { compareTitle := true } }

/-- The backend creates the sample timer, and lists it from then on. -/
def createdOracle : CreateOracle :=
  { sampleOracle with
    inventory := .returned { items := [sampleTimer], totalCount := 1 }
    created := .returned { success := true, searchTimer := sampleTimer } }

def sampleCompleted : List CreateMove :=
  [sampleReservation, sampleTransition 1 .accepted .dispatching,
    sampleTransition 2 .dispatching .executedUnverified,
    sampleTransition 3 .executedUnverified .succeeded]

/-- Left to itself, the caller verifies the creation. -/
example :
    (finalSystem (fun _ => some sampleDigest)
      ([sampleReservation, .dispatch sampleRequest] ++ List.replicate 6 (.advance 0 sampleOracle) ++
        List.replicate 5 (.advance 0 createdOracle))).state.HasState (text "o") .succeeded := by
  decide +kernel

/-- Other callers of the repository can declare a creation undone, and complete one that has not
happened. -/
theorem creation_undone_and_completed_by_others :
    (¬ ∀ (sha256 : Bytes → Option Bytes) (moves : List CreateMove) (operationId : Bytes),
      0 < createCalls operationId (finalSystem sha256 moves) →
        ¬ (finalSystem sha256 moves).state.HasState operationId .failedBeforeDispatch) ∧
    ¬ ∀ (sha256 : Bytes → Option Bytes) (moves : List CreateMove) (operationId : Bytes),
      (finalSystem sha256 moves).state.HasState operationId .succeeded →
        0 < createCalls operationId (finalSystem sha256 moves) := by
  constructor
  · intro claimed
    exact claimed (fun _ => some sampleDigest) sampleUndone (text "o") (by decide)
      (by decide)
  · intro claimed
    have called := claimed (fun _ => some sampleDigest) sampleCompleted (text "o") (by decide)
    exact absurd called (by decide)

end VdrSuite.SearchTimers
