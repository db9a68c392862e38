import VdrSuite.Library.Bytes
import VdrSuite.Library.OrderedMap
import VdrSuite.Library.Run

/-! The queue of backends whose recordings are to be read again: hints are kept until the work is
taken, failed work comes back after a growing delay, and finished work is reported once. -/

set_option autoImplicit false

namespace VdrSuite.Recordings

open Library

abbrev TimePoint := Int

def seconds (count : Nat) : Int := count * 1000000000

structure Retry where
  delaySeconds : Nat := 0
  due : TimePoint := 0
  deriving DecidableEq

structure RecordingCacheRefreshQueue where
  retries : OrderedMap Bytes Retry := .empty
  pending : OrderedMap Bytes Int := .empty
  completed : OrderedMap Bytes Unit := .empty

namespace RecordingCacheRefreshQueue

variable (queue : RecordingCacheRefreshQueue)

def request (backendId : Bytes) (attempts : Int) : RecordingCacheRefreshQueue :=
  if backendId.isEmpty ∨ attempts < 1 then queue
  else
    { queue with
      pending := queue.pending.assign backendId
        (max ((queue.pending.get backendId).getD 0) attempts) }

def withheld (now : TimePoint) (backendId : Bytes) : Bool :=
  match queue.retries.get backendId with
  | none => false
  | some retry => now < retry.due

def takePending (now : TimePoint) : RecordingCacheRefreshQueue × List Bytes :=
  ({ queue with
      pending := queue.pending.filterMap fun backendId attempts =>
        if queue.withheld now backendId then some attempts
        else if attempts - 1 = 0 then none
        else some (attempts - 1) },
    queue.pending.keys.filter fun backendId => !queue.withheld now backendId)

def delayed (retry : Retry) (now : TimePoint) : Retry :=
  let delaySeconds := if retry.delaySeconds = 0 then 5 else min 60 (retry.delaySeconds * 2)
  { delaySeconds := delaySeconds, due := now + seconds delaySeconds }

def failed (backendId : Bytes) (now : TimePoint) : RecordingCacheRefreshQueue :=
  if backendId.isEmpty then queue
  else
    { queue with
      retries := queue.retries.assign backendId
        (delayed ((queue.retries.get backendId).getD {}) now)
      pending := queue.pending.assign backendId
        (max ((queue.pending.get backendId).getD 0) 1) }

def complete (backendId : Bytes) : RecordingCacheRefreshQueue :=
  { queue with
    retries := queue.retries.erase backendId
    completed := queue.completed.assign backendId () }

def takeCompleted : RecordingCacheRefreshQueue × List Bytes :=
  ({ queue with completed := .empty }, queue.completed.keys)

end RecordingCacheRefreshQueue

/-! ## Runs -/

inductive QueueCall where
  | request (backendId : Bytes) (attempts : Int)
  | takePending (now : TimePoint)
  | failed (backendId : Bytes) (now : TimePoint)
  | completed (backendId : Bytes)
  | takeCompleted
  deriving DecidableEq

inductive QueueAnswer where
  | nothing
  | pending (backendIds : List Bytes)
  | completed (backendIds : List Bytes)
  deriving DecidableEq

def queueStep (queue : RecordingCacheRefreshQueue) :
    QueueCall → RecordingCacheRefreshQueue × QueueAnswer
  | .request backendId attempts => (queue.request backendId attempts, .nothing)
  | .takePending now => ((queue.takePending now).1, .pending (queue.takePending now).2)
  | .failed backendId now => (queue.failed backendId now, .nothing)
  | .completed backendId => (queue.complete backendId, .nothing)
  | .takeCompleted => (queue.takeCompleted.1, .completed queue.takeCompleted.2)

def queueAfter (calls : List QueueCall) : RecordingCacheRefreshQueue :=
  Run.final queueStep {} calls

namespace RecordingCacheRefreshQueue

variable {queue : RecordingCacheRefreshQueue}

/-! ## What each call changes -/

theorem mem_takePending_iff {now : TimePoint} {backendId : Bytes} :
    backendId ∈ (queue.takePending now).2 ↔
      (queue.pending.get backendId).isSome = true ∧ queue.withheld now backendId = false := by
  rw [takePending, List.mem_filter, OrderedMap.mem_keys_iff, Bool.not_eq_true']

theorem takePending_nodup (now : TimePoint) : (queue.takePending now).2.Nodup :=
  queue.pending.distinct.filter _

theorem withheld_eq_false_iff {now : TimePoint} {backendId : Bytes} :
    queue.withheld now backendId = false ↔
      ∀ retry, queue.retries.get backendId = some retry → retry.due ≤ now := by
  unfold withheld
  cases queue.retries.get backendId with
  | none => simp
  | some retry => simp

theorem pending_takePending {now : TimePoint} {backendId : Bytes}
    (pending : (queue.pending.get backendId).isSome = true)
    (left : backendId ∉ (queue.takePending now).2) :
    ((queue.takePending now).1.pending.get backendId).isSome = true := by
  have waits : queue.withheld now backendId = true := by
    rw [mem_takePending_iff, not_and, Bool.not_eq_false] at left
    exact left pending
  obtain ⟨attempts, found⟩ := Option.isSome_iff_exists.mp pending
  rw [takePending]
  simp [found, waits]

theorem pending_request (backendId other : Bytes) (attempts : Int) :
    ((queue.request backendId attempts).pending.get other).isSome = true ↔
      (queue.pending.get other).isSome = true ∨
        other = backendId ∧ backendId ≠ [] ∧ 1 ≤ attempts := by
  unfold request
  split
  · next ignored =>
    rw [List.isEmpty_iff] at ignored
    constructor
    · exact .inl
    · rintro (pending | ⟨-, named, some⟩)
      · exact pending
      · rcases ignored with unnamed | none
        · exact absurd unnamed named
        · omega
  · next accepted =>
    rw [List.isEmpty_iff, not_or, not_lt] at accepted
    rw [OrderedMap.get_assign]
    split
    · next same => exact iff_of_true rfl (.inr ⟨same, accepted⟩)
    · next different => simp [different]

theorem pending_failed (backendId other : Bytes) (now : TimePoint) :
    ((queue.failed backendId now).pending.get other).isSome = true ↔
      (queue.pending.get other).isSome = true ∨ other = backendId ∧ backendId ≠ [] := by
  unfold failed
  split
  · next ignored =>
    rw [List.isEmpty_iff] at ignored
    simp [ignored]
  · next accepted =>
    rw [List.isEmpty_iff] at accepted
    rw [OrderedMap.get_assign]
    split
    · next same => exact iff_of_true rfl (.inr ⟨same, accepted⟩)
    · next different => simp [different]

@[simp] theorem retries_request (backendId : Bytes) (attempts : Int) :
    (queue.request backendId attempts).retries = queue.retries := by
  unfold request
  split <;> rfl

@[simp] theorem completed_request (backendId : Bytes) (attempts : Int) :
    (queue.request backendId attempts).completed = queue.completed := by
  unfold request
  split <;> rfl

@[simp] theorem completed_failed (backendId : Bytes) (now : TimePoint) :
    (queue.failed backendId now).completed = queue.completed := by
  unfold failed
  split <;> rfl

theorem retries_failed (backendId other : Bytes) (now : TimePoint) :
    (queue.failed backendId now).retries.get other =
      if other = backendId ∧ backendId ≠ [] then
        some (delayed ((queue.retries.get backendId).getD {}) now)
      else queue.retries.get other := by
  unfold failed
  split
  · next ignored =>
    rw [List.isEmpty_iff] at ignored
    rw [if_neg (fun both => both.2 ignored)]
  · next accepted =>
    rw [List.isEmpty_iff] at accepted
    rw [OrderedMap.get_assign]
    simp [accepted]

end RecordingCacheRefreshQueue

/-! ## Outstanding work -/

def QueueCall.AsksFor (backendId : Bytes) : QueueCall → Prop
  | .request requested attempts => requested = backendId ∧ backendId ≠ [] ∧ 1 ≤ attempts
  | .failed requested _ => requested = backendId ∧ backendId ≠ []
  | _ => False

def QueueAnswer.Returns (backendId : Bytes) : QueueAnswer → Prop
  | .pending backendIds => backendId ∈ backendIds
  | _ => False

def RecordingCacheRefreshQueue.Outstanding (queue : RecordingCacheRefreshQueue)
    (backendId : Bytes) : Prop :=
  (queue.pending.get backendId).isSome = true ∧
    ∀ now, (∀ retry, queue.retries.get backendId = some retry → retry.due ≤ now) →
      backendId ∈ (queue.takePending now).2

section
variable {queue : RecordingCacheRefreshQueue} {backendId : Bytes}

theorem outstanding_iff :
    queue.Outstanding backendId ↔ (queue.pending.get backendId).isSome = true := by
  constructor
  · exact And.left
  · intro pending
    refine ⟨pending, fun now due => ?_⟩
    rw [RecordingCacheRefreshQueue.mem_takePending_iff,
      RecordingCacheRefreshQueue.withheld_eq_false_iff]
    exact ⟨pending, due⟩

theorem outstanding_of_asksFor {call : QueueCall} (asks : call.AsksFor backendId) :
    (queueStep queue call).1.Outstanding backendId := by
  rw [outstanding_iff]
  cases call with
  | request requested attempts =>
    obtain ⟨rfl, named, some⟩ := asks
    exact (RecordingCacheRefreshQueue.pending_request _ _ _).mpr (.inr ⟨rfl, named, some⟩)
  | failed requested now =>
    obtain ⟨rfl, named⟩ := asks
    exact (RecordingCacheRefreshQueue.pending_failed _ _ _).mpr (.inr ⟨rfl, named⟩)
  | takePending now => cases asks
  | completed requested => cases asks
  | takeCompleted => cases asks

theorem outstanding_step {call : QueueCall} (outstanding : queue.Outstanding backendId)
    (left : ¬(queueStep queue call).2.Returns backendId) :
    (queueStep queue call).1.Outstanding backendId := by
  rw [outstanding_iff] at outstanding ⊢
  cases call with
  | request requested attempts =>
    exact (RecordingCacheRefreshQueue.pending_request _ _ _).mpr (.inl outstanding)
  | failed requested now =>
    exact (RecordingCacheRefreshQueue.pending_failed _ _ _).mpr (.inl outstanding)
  | takePending now => exact RecordingCacheRefreshQueue.pending_takePending outstanding left
  | completed requested => exact outstanding
  | takeCompleted => exact outstanding

theorem outstanding_run {calls : List QueueCall} (outstanding : queue.Outstanding backendId)
    (left : ∀ entry ∈ Run.journal queueStep queue calls, ¬entry.2.Returns backendId) :
    (Run.final queueStep queue calls).Outstanding backendId := by
  induction calls generalizing queue with
  | nil => exact outstanding
  | cons call rest ih =>
    rw [Run.journal, List.forall_mem_cons] at left
    exact ih (outstanding_step outstanding left.1) left.2

end

/-! ## Delays -/

def failuresSince (backendId : Bytes) (calls : List QueueCall) : List TimePoint :=
  calls.foldl (fun times call => match call with
    | .failed failed now => if failed = backendId then times ++ [now] else times
    | .completed completed => if completed = backendId then [] else times
    | _ => times) []

def backoffSeconds (failures : Nat) : Nat := min 60 (5 * 2 ^ (failures - 1))

example : (List.range 7).map (fun earlier => backoffSeconds (earlier + 1)) =
    [5, 10, 20, 40, 60, 60, 60] := by decide

def retryAfter (failures : List TimePoint) : Option Retry :=
  failures.getLast?.map fun last =>
    { delaySeconds := backoffSeconds failures.length
      due := last + seconds (backoffSeconds failures.length) }

theorem backoffSeconds_succ {failures : Nat} (some : 0 < failures) :
    backoffSeconds (failures + 1) = min 60 (backoffSeconds failures * 2) := by
  obtain ⟨earlier, rfl⟩ := Nat.exists_eq_succ_of_ne_zero some.ne'
  simp only [backoffSeconds, Nat.succ_eq_add_one, Nat.add_sub_cancel, Nat.pow_succ]
  omega

theorem backoffSeconds_pos (failures : Nat) : 0 < backoffSeconds failures := by
  have power : 0 < 2 ^ (failures - 1) := Nat.two_pow_pos _
  simp only [backoffSeconds]
  omega

theorem delayed_retryAfter (failures : List TimePoint) (now : TimePoint) :
    some (RecordingCacheRefreshQueue.delayed ((retryAfter failures).getD {}) now) =
      retryAfter (failures ++ [now]) := by
  cases failures using List.reverseRecOn with
  | nil => rfl
  | append_singleton earlier last =>
    have pos := backoffSeconds_pos (earlier.length + 1)
    simp only [retryAfter, List.getLast?_concat, Option.map_some, Option.getD_some,
      List.length_append, List.length_singleton, RecordingCacheRefreshQueue.delayed]
    rw [if_neg pos.ne', backoffSeconds_succ (Nat.succ_pos _)]

theorem retries_queueAfter {backendId : Bytes} (named : backendId ≠ []) (calls : List QueueCall) :
    (queueAfter calls).retries.get backendId = retryAfter (failuresSince backendId calls) := by
  induction calls using List.reverseRecOn with
  | nil => rfl
  | append_singleton earlier call ih =>
    rw [queueAfter, Run.final_concat, failuresSince, List.foldl_concat]
    change (queueStep (queueAfter earlier) call).1.retries.get backendId = _
    cases call with
    | request requested attempts =>
      rw [queueStep, RecordingCacheRefreshQueue.retries_request]
      exact ih
    | takePending now => exact ih
    | failed failed now =>
      rw [queueStep, RecordingCacheRefreshQueue.retries_failed]
      by_cases same : failed = backendId
      · subst same
        rw [if_pos ⟨rfl, named⟩, ih, delayed_retryAfter]
        simp only [if_true]
        rfl
      · rw [if_neg (fun both => same both.1.symm)]
        simp only [if_neg same]
        exact ih
    | completed completed =>
      change ((queueAfter earlier).retries.erase completed).get backendId = _
      rw [OrderedMap.get_erase]
      by_cases same : completed = backendId
      · simp [same, retryAfter]
      · rw [if_neg (Ne.symm same)]
        simp only [if_neg same]
        exact ih
    | takeCompleted => exact ih

/-! ## Reports -/

theorem completed_step {queue : RecordingCacheRefreshQueue} {call : QueueCall} {backendId : Bytes} :
    ((queueStep queue call).1.completed.get backendId).isSome = true ↔
      call = .completed backendId ∨
        call ≠ .takeCompleted ∧ (queue.completed.get backendId).isSome = true := by
  cases call with
  | request requested attempts => simp [queueStep]
  | takePending now => simp [queueStep, RecordingCacheRefreshQueue.takePending]
  | failed failed now => simp [queueStep]
  | completed completed =>
    simp only [queueStep, RecordingCacheRefreshQueue.complete, OrderedMap.get_assign]
    by_cases same : backendId = completed
    · simp [same]
    · simp [same, Ne.symm same]
  | takeCompleted => simp [queueStep, RecordingCacheRefreshQueue.takeCompleted]

theorem completed_kept {queue : RecordingCacheRefreshQueue} {backendId : Bytes}
    {calls : List QueueCall} (unreported : .takeCompleted ∉ calls)
    (completed : (queue.completed.get backendId).isSome = true) :
    ((Run.final queueStep queue calls).completed.get backendId).isSome = true := by
  induction calls generalizing queue with
  | nil => exact completed
  | cons call rest ih =>
    rw [List.mem_cons, not_or] at unreported
    exact ih unreported.2 ((completed_step).mpr (.inr ⟨Ne.symm unreported.1, completed⟩))

theorem uncompleted_kept {queue : RecordingCacheRefreshQueue} {backendId : Bytes}
    {calls : List QueueCall} (absent : .completed backendId ∉ calls)
    (uncompleted : (queue.completed.get backendId).isSome = false) :
    ((Run.final queueStep queue calls).completed.get backendId).isSome = false := by
  induction calls generalizing queue with
  | nil => exact uncompleted
  | cons call rest ih =>
    rw [List.mem_cons, not_or] at absent
    refine ih absent.2 ?_
    rw [Bool.eq_false_iff, ne_eq, completed_step, uncompleted]
    simp [Ne.symm absent.1]

/-! ## Independence of backends -/

def RecordingCacheRefreshQueue.held (queue : RecordingCacheRefreshQueue) (backendId : Bytes) :
    Option Int × Option Retry × Option Unit :=
  (queue.pending.get backendId, queue.retries.get backendId, queue.completed.get backendId)

def QueueCall.backend : QueueCall → Option Bytes
  | .request backendId _ => some backendId
  | .failed backendId _ => some backendId
  | .completed backendId => some backendId
  | .takePending _ => none
  | .takeCompleted => none

theorem held_step {queue : RecordingCacheRefreshQueue} {call : QueueCall} {backendId other : Bytes}
    (about : call.backend = some backendId) (different : other ≠ backendId) :
    (queueStep queue call).1.held other = queue.held other := by
  cases call with
  | request requested attempts =>
    cases about
    simp only [RecordingCacheRefreshQueue.held, queueStep,
      RecordingCacheRefreshQueue.request]
    split
    · rfl
    · simp [different]
  | failed failed now =>
    cases about
    simp only [RecordingCacheRefreshQueue.held, queueStep, RecordingCacheRefreshQueue.failed]
    split
    · rfl
    · simp [different]
  | completed completed =>
    cases about
    simp [RecordingCacheRefreshQueue.held, queueStep, RecordingCacheRefreshQueue.complete,
      different]
  | takePending now => cases about
  | takeCompleted => cases about

/-! ## The queue as a whole -/

theorem queueAfter_append (before after : List QueueCall) (call : QueueCall) :
    queueAfter (before ++ [call] ++ after) =
      Run.final queueStep (queueStep (queueAfter before) call).1 after := by
  rw [queueAfter, Run.final_append, Run.final_concat]
  rfl

theorem mem_takeCompleted_iff {queue : RecordingCacheRefreshQueue} {backendId : Bytes} :
    backendId ∈ queue.takeCompleted.2 ↔ (queue.completed.get backendId).isSome = true :=
  OrderedMap.mem_keys_iff

/-- No work is dropped: what is asked for stays outstanding until it is handed out, `takePending`
hands out each backend once and no earlier than its retry is due, failures in a row delay the retry
more and more, each completion is reported by the next `takeCompleted` and by no later one, and no
backend disturbs another. -/
theorem queue_drops_no_work :
    (∀ (before after : List QueueCall) (call : QueueCall) (backendId : Bytes),
      call.AsksFor backendId →
      (∀ entry ∈ Run.journal queueStep (queueAfter (before ++ [call])) after,
        ¬entry.2.Returns backendId) →
      (queueAfter (before ++ [call] ++ after)).Outstanding backendId) ∧
    (∀ (calls : List QueueCall) (now : TimePoint),
      ((queueAfter calls).takePending now).2.Nodup ∧
      ∀ backendId ∈ ((queueAfter calls).takePending now).2, ∀ retry,
        (queueAfter calls).retries.get backendId = some retry → retry.due ≤ now) ∧
    (∀ (calls : List QueueCall) (backendId : Bytes), backendId ≠ [] →
      (queueAfter calls).retries.get backendId = retryAfter (failuresSince backendId calls)) ∧
    (∀ (before after : List QueueCall) (backendId : Bytes), .takeCompleted ∉ after →
      backendId ∈ (queueAfter (before ++ [.completed backendId] ++ after)).takeCompleted.2) ∧
    (∀ (before after : List QueueCall) (backendId : Bytes), .completed backendId ∉ after →
      backendId ∉ (queueAfter (before ++ [.takeCompleted] ++ after)).takeCompleted.2) ∧
    (∀ (calls : List QueueCall) (call : QueueCall) (backendId other : Bytes),
      call.backend = some backendId → other ≠ backendId →
      (queueAfter (calls ++ [call])).held other = (queueAfter calls).held other) := by
  refine ⟨?_, ?_, ?_, ?_, ?_, ?_⟩
  · intro before after call backendId asks left
    rw [queueAfter, Run.final_concat] at left
    rw [queueAfter_append]
    exact outstanding_run (outstanding_of_asksFor asks) left
  · intro calls now
    refine ⟨RecordingCacheRefreshQueue.takePending_nodup now, fun backendId returned => ?_⟩
    rw [RecordingCacheRefreshQueue.mem_takePending_iff] at returned
    exact RecordingCacheRefreshQueue.withheld_eq_false_iff.mp returned.2
  · intro calls backendId named
    exact retries_queueAfter named calls
  · intro before after backendId unreported
    rw [mem_takeCompleted_iff, queueAfter_append]
    exact completed_kept unreported ((completed_step).mpr (.inl rfl))
  · intro before after backendId absent
    rw [mem_takeCompleted_iff, queueAfter_append, Bool.not_eq_true]
    refine uncompleted_kept absent ?_
    rw [Bool.eq_false_iff, ne_eq, completed_step]
    simp
  · intro calls call backendId other about different
    rw [queueAfter, Run.final_concat]
    exact held_step about different

/-- A request without an attempt is ignored. -/
theorem request_without_attempts_ignored :
    ∃ (call : QueueCall) (backendId : Bytes), call = .request backendId 0 ∧ backendId ≠ [] ∧
      (∀ entry ∈ Run.journal queueStep (queueAfter [call]) [], ¬entry.2.Returns backendId) ∧
      ¬(queueAfter [call]).Outstanding backendId ∧
      ((queueAfter [call]).takePending 0).2 = [] := by
  refine ⟨.request (text "A") 0, text "A", rfl, by decide, by simp [Run.journal], ?_, by decide⟩
  rw [outstanding_iff]
  decide

end VdrSuite.Recordings
