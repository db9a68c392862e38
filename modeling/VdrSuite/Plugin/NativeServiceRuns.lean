import VdrSuite.Plugin.NativeService

/-! A native service over one lifetime of the plugin: the callback is called at most once for an
operation and for a command, repeated requests get the recorded result, and a request that is
rejected without effect has had none. -/

set_option autoImplicit false

namespace VdrSuite.Plugin

open Library

/-! ## Journals -/

section Journal

variable {Request : Type}

abbrev ServiceJournal (Request : Type) := List (ServiceStep Request × ServiceAnswer Request)

def callbackCalls (entries : ServiceJournal Request) : List Request :=
  entries.filterMap fun entry =>
    match entry.2 with
    | .called request => some request
    | _ => none

def callbackOutcomes (entries : ServiceJournal Request) : List (Request × Option MutationResult) :=
  entries.filterMap fun entry =>
    match entry.2 with
    | .finished request outcome _ => some (request, outcome)
    | _ => none

def serviceReplies (entries : ServiceJournal Request) : List (NativeReply Request) :=
  entries.filterMap fun entry =>
    match entry.2 with
    | .replied reply => some reply
    | .finished _ _ reply => some reply
    | _ => none

variable (service : NativeService Request)

def CallsOnce (entries : ServiceJournal Request) : Prop :=
  ((callbackCalls entries).map fun request => (service.command request).operationId).Nodup ∧
  ((callbackCalls entries).map fun request => (service.command request).commandId).Nodup

def RepeatsRecorded (entries : ServiceJournal Request) : Prop :=
  ∀ earlier option answer later request outcome,
    entries = earlier ++ (.execute option, answer) :: later →
    service.parseExecute option = some request →
    (request, outcome) ∈ callbackOutcomes earlier →
    answer = .replied (mutationReply request (normalizedCallbackResult service request outcome))

def WithoutEffect (entries : ServiceJournal Request) (request : Request) : Prop :=
  request ∉ callbackCalls entries ∨
  ∃ evidenceReference,
    (request, some { disposition := .rejectedWithoutEffect, evidenceReference }) ∈
      callbackOutcomes entries

/-- A rejection is true of its request, and unless another request has taken the command or the
fence is stale, of every request of the command. -/
def TruthfulRejections (entries : ServiceJournal Request) : Prop :=
  ∀ replyCode request reason evidenceReference,
    .typed replyCode request .rejectedWithoutEffect reason evidenceReference ∈
      serviceReplies entries →
    WithoutEffect entries request ∧
    (reason ≠ .stale → reason ≠ .replayConflict → ∀ other,
      (service.command other).commandId = (service.command request).commandId →
      WithoutEffect entries other)

end Journal

/-! ## What the ledger knows of the calls -/

section Runs

variable {Request : Type} (service : NativeService Request) (setup : ServiceSetup)

abbrev Calls (Request : Type) := List (Request × Option (Option MutationResult))

def recordedCalls (calls : Calls Request) :
    ReplayLedger.History Bytes Bytes (Bytes × Bytes) MutationResult :=
  calls.map fun call =>
    (replayKey service call.1, call.2.map (normalizedCallbackResult service call.1))

inductive Refused (calls : Calls Request) (request : Request) : ReplyReason → Prop
  | stale (fenced : currentFence service setup request = false) : Refused calls request .stale
  | disabled (off : setup.executionConfigured = false) : Refused calls request .disabled
  | conflict {call : Request × Option (Option MutationResult)} (member : call ∈ calls)
      (different : replayKey service call.1 ≠ replayKey service request)
      (shared : (service.command call.1).operationId = (service.command request).operationId ∨
        (service.command call.1).commandId = (service.command request).commandId) :
      Refused calls request .replayConflict
  | full (filled : setup.maximumReplayEntries ≤ calls.length)
      (apart : ∀ call ∈ calls,
        (service.command call.1).operationId ≠ (service.command request).operationId ∧
        (service.command call.1).commandId ≠ (service.command request).commandId) :
      Refused calls request .ledgerFull
  | rejected {other : Request} {evidenceReference : Bytes}
      (member : (other, some (some { disposition := .rejectedWithoutEffect, evidenceReference })) ∈
        calls)
      (same : replayKey service other = replayKey service request) :
      Refused calls request .callbackRejected

structure ServiceInvariant (state : ServiceState Request) (entries : ServiceJournal Request)
    (calls : Calls Request) : Prop where
  represents : ReplayLedger.Represents (recordedCalls service calls) state.ledger
  distinct : ReplayLedger.Distinct (recordedCalls service calls)
  called : callbackCalls entries = calls.map Prod.fst
  ended : ∀ request outcome,
    (request, outcome) ∈ callbackOutcomes entries ↔ (request, some outcome) ∈ calls
  running : state.running.Nodup ∧ ∀ request, request ∈ state.running ↔ (request, none) ∈ calls
  admitted : ∀ call ∈ calls,
    currentFence service setup call.1 = true ∧ setup.executionConfigured = true
  refused : ∀ replyCode request reason evidenceReference,
    .typed replyCode request .rejectedWithoutEffect reason evidenceReference ∈
      serviceReplies entries → Refused service setup calls request reason

variable {service setup} {state : ServiceState Request} {entries : ServiceJournal Request}
  {calls : Calls Request}

theorem operations_nodup (distinct : ReplayLedger.Distinct (recordedCalls service calls)) :
    (calls.map fun call => (service.command call.1).operationId).Nodup := by
  have operations := distinct.operations
  rw [recordedCalls, List.map_map] at operations
  exact operations

theorem commands_nodup (distinct : ReplayLedger.Distinct (recordedCalls service calls)) :
    (calls.map fun call => (service.command call.1).commandId).Nodup := by
  have owners := distinct.owners
  rw [recordedCalls, List.map_map] at owners
  exact owners

theorem call_unique (distinct : ReplayLedger.Distinct (recordedCalls service calls))
    {request : Request} {first second : Option (Option MutationResult)}
    (firstMember : (request, first) ∈ calls) (secondMember : (request, second) ∈ calls) :
    first = second :=
  congrArg Prod.snd
    (List.inj_on_of_nodup_map (operations_nodup distinct) firstMember secondMember rfl)

theorem mem_recordedCalls {request : Request} {outcome : Option (Option MutationResult)}
    (member : (request, outcome) ∈ calls) :
    (replayKey service request, outcome.map (normalizedCallbackResult service request)) ∈
      recordedCalls service calls :=
  List.mem_map_of_mem (f := fun call : Request × Option (Option MutationResult) =>
    (replayKey service call.1, call.2.map (normalizedCallbackResult service call.1))) member

/-! ## Refusals stay -/

theorem Refused.append {request : Request} {reason : ReplyReason}
    (refused : Refused service setup calls request reason)
    (room : calls.length < setup.maximumReplayEntries)
    (call : Request × Option (Option MutationResult)) :
    Refused service setup (calls ++ [call]) request reason := by
  cases refused with
  | stale fenced => exact .stale fenced
  | disabled off => exact .disabled off
  | conflict member different shared =>
    exact .conflict (List.mem_append_left _ member) different shared
  | full filled _ => omega
  | rejected member same => exact .rejected (List.mem_append_left _ member) same

section Finish

variable [DecidableEq Request]

def endCall (request : Request) (outcome : Option MutationResult) (calls : Calls Request) :
    Calls Request :=
  calls.map fun call => if call.1 = request then (call.1, some outcome) else call

theorem map_fst_endCall (request : Request) (outcome : Option MutationResult)
    (calls : Calls Request) : (endCall request outcome calls).map Prod.fst = calls.map Prod.fst := by
  simp only [endCall, List.map_map, List.map_inj_left, Function.comp_apply]
  intro call _
  split <;> rfl

theorem mem_endCall {request other : Request} {outcome : Option MutationResult}
    {known : Option (Option MutationResult)} :
    (other, known) ∈ endCall request outcome calls ↔
      (other ≠ request ∧ (other, known) ∈ calls) ∨
      (other = request ∧ known = some outcome ∧ ∃ earlier, (request, earlier) ∈ calls) := by
  simp only [endCall, List.mem_map, Prod.exists]
  constructor
  · rintro ⟨called, earlier, member, changed⟩
    by_cases same : called = request
    · subst same
      rw [if_pos rfl, Prod.mk.injEq] at changed
      exact .inr ⟨changed.1.symm, changed.2.symm, earlier, member⟩
    · rw [if_neg same, Prod.mk.injEq] at changed
      obtain ⟨rfl, rfl⟩ := changed
      exact .inl ⟨same, member⟩
  · rintro (⟨different, member⟩ | ⟨rfl, rfl, earlier, member⟩)
    · exact ⟨other, known, member, by rw [if_neg different]⟩
    · exact ⟨other, earlier, member, by rw [if_pos rfl]⟩

theorem recordedCalls_endCall (distinct : ReplayLedger.Distinct (recordedCalls service calls))
    {request : Request} {earlier : Option (Option MutationResult)}
    (member : (request, earlier) ∈ calls) (outcome : Option MutationResult) :
    recordedCalls service (endCall request outcome calls) =
      (recordedCalls service calls).finish (replayKey service request)
        (normalizedCallbackResult service request outcome) := by
  simp only [recordedCalls, endCall, ReplayLedger.History.finish, List.map_map, List.map_inj_left,
    Function.comp_apply]
  intro call present
  by_cases same : call.1 = request
  · simp [same]
  · have different : replayKey service call.1 ≠ replayKey service request := by
      intro key
      have operation : (service.command call.1).operationId = (service.command request).operationId :=
        congrArg ReplayLedger.Key.operation key
      exact same (congrArg Prod.fst
        (List.inj_on_of_nodup_map (operations_nodup distinct) present member operation))
    simp [same, different]

theorem Refused.endCall {request other : Request} {reason : ReplyReason}
    (distinct : ReplayLedger.Distinct (recordedCalls service calls))
    (refused : Refused service setup calls other reason) (running : (request, none) ∈ calls)
    (outcome : Option MutationResult) :
    Refused service setup (endCall request outcome calls) other reason := by
  have requests := map_fst_endCall request outcome calls
  cases refused with
  | stale fenced => exact .stale fenced
  | disabled off => exact .disabled off
  | @conflict call member different shared =>
    have kept : call.1 ∈ (Plugin.endCall request outcome calls).map Prod.fst := by
      rw [requests]
      exact List.mem_map_of_mem member
    obtain ⟨later, present, same⟩ := List.mem_map.mp kept
    rw [← same] at different shared
    exact .conflict present different shared
  | full filled apart =>
    refine .full ?_ ?_
    · simpa [Plugin.endCall] using filled
    · intro later present
      have kept : later.1 ∈ calls.map Prod.fst := by
        rw [← requests]
        exact List.mem_map_of_mem present
      obtain ⟨call, member, same⟩ := List.mem_map.mp kept
      rw [← same]
      exact apart call member
  | @rejected rejecting evidenceReference member same =>
    refine .rejected ((mem_endCall).mpr (.inl ⟨?_, member⟩)) same
    rintro rfl
    exact absurd (call_unique distinct member running) (by simp)

end Finish

/-! ## Steps -/

theorem mutationReply_rejected {request other : Request} {result : MutationResult}
    {replyCode : Nat} {reason : ReplyReason} {evidenceReference : Bytes}
    (equal : mutationReply request result =
      .typed replyCode other .rejectedWithoutEffect reason evidenceReference) :
    other = request ∧ reason = .callbackRejected ∧
      result.disposition = .rejectedWithoutEffect := by
  cases disposition : result.disposition with
  | rejectedWithoutEffect =>
    simp only [mutationReply, disposition, NativeReply.typed.injEq] at equal
    exact ⟨equal.2.1.symm, equal.2.2.2.1.symm, rfl⟩
  | appliedUnverified => simp [mutationReply, disposition] at equal
  | outcomeUnknown => simp [mutationReply, disposition] at equal

theorem normalizedCallbackResult_rejected {request : Request} {outcome : Option MutationResult}
    (rejects : (normalizedCallbackResult service request outcome).disposition =
      .rejectedWithoutEffect) :
    ∃ evidenceReference,
      outcome = some { disposition := .rejectedWithoutEffect, evidenceReference } := by
  cases outcome with
  | none => cases rejects
  | some result =>
    simp only [normalizedCallbackResult] at rejects
    split at rejects
    · refine ⟨result.evidenceReference, ?_⟩
      rw [← rejects]
    · cases rejects

/-- A line gets its reply at once, for a reason when it is refused, or its request is called. -/
theorem execute_cases (represents : ReplayLedger.Represents (recordedCalls service calls) state.ledger)
    (distinct : ReplayLedger.Distinct (recordedCalls service calls)) (option : Bytes) :
    (∃ reply, execute service setup state option = (state, .replied reply) ∧
      ∀ replyCode request reason evidenceReference,
        reply = .typed replyCode request .rejectedWithoutEffect reason evidenceReference →
        Refused service setup calls request reason) ∨
    (∃ request, service.parseExecute option = some request ∧
      currentFence service setup request = true ∧ setup.executionConfigured = true ∧
      calls.length < setup.maximumReplayEntries ∧
      (∀ call ∈ calls,
        (service.command call.1).operationId ≠ (service.command request).operationId ∧
        (service.command call.1).commandId ≠ (service.command request).commandId) ∧
      execute service setup state option =
        ({ ledger := ReplayLedger.enter (replayKey service request) state.ledger
           running := state.running ++ [request] }, .called request) ∧
      ReplayLedger.Represents (recordedCalls service (calls ++ [(request, none)]))
        (ReplayLedger.enter (replayKey service request) state.ledger)) := by
  unfold execute
  cases parsed : service.parseExecute option with
  | none =>
    left
    refine ⟨_, rfl, ?_⟩
    intro _ _ _ _ equal
    cases equal
  | some request =>
    by_cases fenced : currentFence service setup request = false
    · left
      refine ⟨_, if_pos fenced, ?_⟩
      intro _ _ _ _ equal
      cases equal
      exact .stale fenced
    · by_cases off : setup.executionConfigured = false
      · left
        refine ⟨_, (if_neg fenced).trans (if_pos off), ?_⟩
        intro _ _ _ _ equal
        cases equal
        exact .disabled off
      · simp only [if_neg fenced, if_neg off]
        rcases ReplayLedger.reserve_cases represents distinct setup.maximumReplayEntries
            (replayKey service request) with
          ⟨reserved, past, member, different, shared⟩ | ⟨reserved, -⟩ |
          ⟨result, reserved, member⟩ | ⟨reserved, filled, apart⟩ |
          ⟨reserved, room, apart, represented⟩
        · left
          simp only [reserved]
          refine ⟨_, rfl, ?_⟩
          intro _ _ _ _ equal
          cases equal
          obtain ⟨call, present, rfl⟩ := List.mem_map.mp member
          exact .conflict present different shared
        · left
          simp only [reserved]
          refine ⟨_, rfl, ?_⟩
          intro _ _ _ _ equal
          cases equal
        · left
          simp only [reserved]
          refine ⟨_, rfl, ?_⟩
          intro replyCode other reason evidenceReference equal
          obtain ⟨rfl, rfl, rejects⟩ := mutationReply_rejected equal
          obtain ⟨⟨called, known⟩, present, same⟩ := List.mem_map.mp member
          rw [Prod.mk.injEq] at same
          cases known with
          | none => cases same.2
          | some outcome =>
            have recorded := Option.some.inj same.2
            rw [← recorded] at rejects
            obtain ⟨evidence, rfl⟩ := normalizedCallbackResult_rejected rejects
            exact .rejected present same.1
        · left
          simp only [reserved]
          refine ⟨_, rfl, ?_⟩
          intro _ _ _ _ equal
          cases equal
          refine .full (by simpa [recordedCalls] using filled) ?_
          intro call present
          exact apart _ (mem_recordedCalls present)
        · right
          simp only [reserved]
          refine ⟨request, rfl, by simpa using fenced, by simpa using off,
            by simpa [recordedCalls] using room, ?_, rfl, ?_⟩
          · intro call present
            exact apart _ (mem_recordedCalls present)
          · rw [recordedCalls, List.map_append]
            exact represented

theorem execute_repeated
    (represents : ReplayLedger.Represents (recordedCalls service calls) state.ledger)
    (distinct : ReplayLedger.Distinct (recordedCalls service calls)) {option : Bytes}
    {request : Request} (parsed : service.parseExecute option = some request)
    (current : currentFence service setup request = true)
    (configured : setup.executionConfigured = true) {outcome : Option MutationResult}
    (member : (request, some outcome) ∈ calls) :
    execute service setup state option =
      (state, .replied
        (mutationReply request (normalizedCallbackResult service request outcome))) := by
  have recorded : (replayKey service request, some (normalizedCallbackResult service request outcome)) ∈
      recordedCalls service calls := mem_recordedCalls member
  unfold execute
  simp only [parsed, current, configured, Bool.true_eq_false, if_false]
  rcases ReplayLedger.reserve_cases represents distinct setup.maximumReplayEntries
      (replayKey service request) with
    ⟨-, past, present, different, shared⟩ | ⟨-, running⟩ | ⟨result, reserved, found⟩ |
    ⟨-, -, apart⟩ | ⟨-, -, apart, -⟩
  · refine absurd ?_ different
    rcases shared with operation | owner
    · exact congrArg Prod.fst
        (List.inj_on_of_nodup_map distinct.operations present recorded operation)
    · exact congrArg Prod.fst (List.inj_on_of_nodup_map distinct.owners present recorded owner)
  · have same := congrArg Prod.snd
      (List.inj_on_of_nodup_map distinct.operations running recorded rfl)
    cases same
  · have same := congrArg Prod.snd
      (List.inj_on_of_nodup_map distinct.operations found recorded rfl)
    simp only [Option.some.injEq] at same
    simp only [reserved, same]
  · exact absurd rfl (apart _ recorded).1
  · exact absurd rfl (apart _ recorded).1

/-! ## The invariant -/

theorem invariant_initial : ServiceInvariant service setup {} [] [] := by
  constructor
  · exact ReplayLedger.represents_nil
  · exact ReplayLedger.distinct_nil
  · rfl
  · simp [callbackOutcomes]
  · simp
  · simp
  · simp [serviceReplies]

theorem invariant_replied (invariant : ServiceInvariant service setup state entries calls)
    (step : ServiceStep Request) {reply : NativeReply Request}
    (reasoned : ∀ replyCode request reason evidenceReference,
      reply = .typed replyCode request .rejectedWithoutEffect reason evidenceReference →
      Refused service setup calls request reason) :
    ServiceInvariant service setup state (entries ++ [(step, .replied reply)]) calls := by
  constructor
  · exact invariant.represents
  · exact invariant.distinct
  · rw [callbackCalls, List.filterMap_append, ← callbackCalls, invariant.called]
    simp
  · intro request outcome
    rw [callbackOutcomes, List.filterMap_append, ← callbackOutcomes]
    simpa using invariant.ended request outcome
  · exact invariant.running
  · exact invariant.admitted
  · intro replyCode request reason evidenceReference member
    rw [serviceReplies, List.filterMap_append, ← serviceReplies, List.mem_append] at member
    rcases member with earlier | last
    · exact invariant.refused _ _ _ _ earlier
    · simp only [List.filterMap_cons, List.filterMap_nil, List.mem_singleton] at last
      exact reasoned _ _ _ _ last.symm

theorem invariant_nothing (invariant : ServiceInvariant service setup state entries calls)
    (step : ServiceStep Request) :
    ServiceInvariant service setup state (entries ++ [(step, .nothing)]) calls := by
  constructor
  · exact invariant.represents
  · exact invariant.distinct
  · rw [callbackCalls, List.filterMap_append, ← callbackCalls, invariant.called]
    simp
  · intro request outcome
    rw [callbackOutcomes, List.filterMap_append, ← callbackOutcomes]
    simpa using invariant.ended request outcome
  · exact invariant.running
  · exact invariant.admitted
  · intro replyCode request reason evidenceReference member
    rw [serviceReplies, List.filterMap_append, ← serviceReplies] at member
    exact invariant.refused replyCode request reason evidenceReference (by simpa using member)

theorem invariant_called (invariant : ServiceInvariant service setup state entries calls)
    (step : ServiceStep Request) {request : Request}
    (current : currentFence service setup request = true)
    (configured : setup.executionConfigured = true)
    (room : calls.length < setup.maximumReplayEntries)
    (apart : ∀ call ∈ calls,
      (service.command call.1).operationId ≠ (service.command request).operationId ∧
      (service.command call.1).commandId ≠ (service.command request).commandId)
    {ledger : ReplayLedgers}
    (represents :
      ReplayLedger.Represents (recordedCalls service (calls ++ [(request, none)])) ledger) :
    ServiceInvariant service setup { ledger, running := state.running ++ [request] }
      (entries ++ [(step, .called request)]) (calls ++ [(request, none)]) := by
  have fresh (outcome : Option (Option MutationResult)) : (request, outcome) ∉ calls :=
    fun member => (apart _ member).1 rfl
  constructor
  · exact represents
  · rw [recordedCalls, List.map_append]
    refine ReplayLedger.distinct_append invariant.distinct ?_ none
    intro past member
    obtain ⟨call, present, rfl⟩ := List.mem_map.mp member
    exact apart call present
  · rw [callbackCalls, List.filterMap_append, ← callbackCalls, invariant.called]
    simp
  · intro other outcome
    rw [callbackOutcomes, List.filterMap_append, ← callbackOutcomes]
    simpa using invariant.ended other outcome
  · obtain ⟨nodup, members⟩ := invariant.running
    refine ⟨?_, ?_⟩
    · rw [List.nodup_append]
      refine ⟨nodup, List.nodup_singleton _, ?_⟩
      intro first member second last same
      rw [same, List.mem_singleton.mp last] at member
      exact fresh none ((members request).mp member)
    · intro other
      simp [members other]
  · intro call member
    rcases List.mem_append.mp member with earlier | last
    · exact invariant.admitted call earlier
    · rw [List.mem_singleton.mp last]
      exact ⟨current, configured⟩
  · intro replyCode other reason evidenceReference member
    rw [serviceReplies, List.filterMap_append, ← serviceReplies] at member
    exact (invariant.refused replyCode other reason evidenceReference
      (by simpa using member)).append room _

theorem invariant_finished [DecidableEq Request]
    (invariant : ServiceInvariant service setup state entries calls)
    (step : ServiceStep Request) {request : Request} (running : request ∈ state.running)
    (outcome : Option MutationResult) :
    ServiceInvariant service setup
      { ledger := ReplayLedger.record service.rechecksEntry (replayKey service request)
          (normalizedCallbackResult service request outcome) state.ledger
        running := state.running.erase request }
      (entries ++ [(step, .finished request outcome
        (mutationReply request (normalizedCallbackResult service request outcome)))])
      (endCall request outcome calls) := by
  obtain ⟨nodup, members⟩ := invariant.running
  have called := (members request).mp running
  have recorded := recordedCalls_endCall invariant.distinct called outcome
  constructor
  · rw [recorded]
    exact ReplayLedger.record_represents invariant.represents invariant.distinct _
      (mem_recordedCalls called) _
  · rw [recorded]
    exact ReplayLedger.distinct_finish invariant.distinct _
  · rw [callbackCalls, List.filterMap_append, ← callbackCalls, invariant.called,
      map_fst_endCall]
    simp
  · intro other known
    rw [callbackOutcomes, List.filterMap_append, ← callbackOutcomes, List.mem_append,
      invariant.ended, mem_endCall]
    simp only [List.filterMap_cons, List.filterMap_nil, List.mem_singleton, Prod.mk.injEq,
      Option.some.injEq]
    constructor
    · rintro (earlier | ⟨rfl, rfl⟩)
      · refine .inl ⟨?_, earlier⟩
        rintro rfl
        exact absurd (call_unique invariant.distinct earlier called) (by simp)
      · exact .inr ⟨rfl, rfl, none, called⟩
    · rintro (⟨-, earlier⟩ | ⟨same, equal, -⟩)
      · exact .inl earlier
      · exact .inr ⟨same, equal⟩
  · refine ⟨nodup.erase request, ?_⟩
    intro other
    rw [nodup.mem_erase_iff, members, mem_endCall]
    simp
  · intro call member
    have kept : call.1 ∈ calls.map Prod.fst := by
      rw [← map_fst_endCall request outcome calls]
      exact List.mem_map_of_mem member
    obtain ⟨earlier, present, same⟩ := List.mem_map.mp kept
    rw [← same]
    exact invariant.admitted earlier present
  · intro replyCode other reason evidenceReference member
    rw [serviceReplies, List.filterMap_append, ← serviceReplies, List.mem_append] at member
    rcases member with earlier | last
    · exact (invariant.refused _ _ _ _ earlier).endCall invariant.distinct called outcome
    · simp only [List.filterMap_cons, List.filterMap_nil, List.mem_singleton] at last
      obtain ⟨rfl, rfl, rejects⟩ := mutationReply_rejected last.symm
      obtain ⟨evidence, rfl⟩ := normalizedCallbackResult_rejected rejects
      exact .rejected ((mem_endCall).mpr (.inr ⟨rfl, rfl, none, called⟩)) rfl

theorem invariant_serviceStep [DecidableEq Request]
    (invariant : ServiceInvariant service setup state entries calls)
    (step : ServiceStep Request) :
    ∃ later, ServiceInvariant service setup (serviceStep service setup state step).1
      (entries ++ [(step, (serviceStep service setup state step).2)]) later := by
  cases step with
  | execute option =>
    rcases execute_cases invariant.represents invariant.distinct option with
      ⟨reply, executed, reasoned⟩ |
      ⟨request, -, current, configured, room, apart, executed, represents⟩
    · rw [serviceStep, executed]
      exact ⟨calls, invariant_replied invariant _ reasoned⟩
    · rw [serviceStep, executed]
      exact ⟨_, invariant_called invariant _ current configured room apart represents⟩
  | callbackReturned request outcome =>
    by_cases running : request ∈ state.running
    · simp only [serviceStep, callbackReturned, if_pos running]
      exact ⟨_, invariant_finished invariant _ running outcome⟩
    · simp only [serviceStep, callbackReturned, if_neg running]
      exact ⟨calls, invariant_nothing invariant _⟩

/-! ## What follows for the journal -/

theorem callsOnce_of_invariant (invariant : ServiceInvariant service setup state entries calls) :
    CallsOnce service entries := by
  unfold CallsOnce
  rw [invariant.called, List.map_map, List.map_map]
  exact ⟨operations_nodup invariant.distinct, commands_nodup invariant.distinct⟩

theorem mem_callbackCalls (invariant : ServiceInvariant service setup state entries calls)
    (request : Request) :
    request ∈ callbackCalls entries ↔ ∃ outcome, (request, outcome) ∈ calls := by
  rw [invariant.called]
  simp

theorem withoutEffect_of_notMem (invariant : ServiceInvariant service setup state entries calls)
    {request : Request} (absent : ∀ outcome, (request, outcome) ∉ calls) :
    WithoutEffect entries request := by
  left
  rw [mem_callbackCalls invariant]
  rintro ⟨outcome, member⟩
  exact absent outcome member

theorem withoutEffect_of_rejected (invariant : ServiceInvariant service setup state entries calls)
    {rejecting other : Request} {evidenceReference : Bytes}
    (member : (rejecting,
      some (some { disposition := .rejectedWithoutEffect, evidenceReference })) ∈ calls)
    (command : (service.command other).commandId = (service.command rejecting).commandId) :
    WithoutEffect entries other := by
  by_cases called : other ∈ callbackCalls entries
  · right
    obtain ⟨outcome, present⟩ := (mem_callbackCalls invariant other).mp called
    have same : other = rejecting := congrArg Prod.fst
      (List.inj_on_of_nodup_map (commands_nodup invariant.distinct) present member command)
    exact ⟨evidenceReference, (invariant.ended _ _).mpr (same ▸ member)⟩
  · exact .inl called

theorem withoutEffect_of_unconfigured
    (invariant : ServiceInvariant service setup state entries calls)
    (off : setup.executionConfigured = false) (request : Request) :
    WithoutEffect entries request := by
  refine withoutEffect_of_notMem invariant ?_
  intro outcome member
  have configured := (invariant.admitted _ member).2
  rw [off] at configured
  cases configured

theorem truthful_of_invariant (invariant : ServiceInvariant service setup state entries calls) :
    TruthfulRejections service entries := by
  intro replyCode request reason evidenceReference member
  cases invariant.refused _ _ _ _ member with
  | stale fenced =>
    refine ⟨withoutEffect_of_notMem invariant ?_, fun known => absurd rfl known⟩
    intro outcome present
    have current := (invariant.admitted _ present).1
    rw [fenced] at current
    cases current
  | disabled off =>
    refine ⟨withoutEffect_of_unconfigured invariant off request, ?_⟩
    intro _ _ other _
    exact withoutEffect_of_unconfigured invariant off other
  | conflict present different shared =>
    refine ⟨withoutEffect_of_notMem invariant ?_, fun _ known => absurd rfl known⟩
    intro outcome called
    refine different ?_
    rcases shared with operation | command
    · rw [List.inj_on_of_nodup_map (operations_nodup invariant.distinct) present called operation]
    · rw [List.inj_on_of_nodup_map (commands_nodup invariant.distinct) present called command]
  | full filled apart =>
    refine ⟨withoutEffect_of_notMem invariant ?_, ?_⟩
    · intro outcome called
      exact (apart _ called).1 rfl
    · intro _ _ other command
      refine withoutEffect_of_notMem invariant ?_
      intro outcome called
      exact (apart _ called).2 command
  | @rejected rejecting evidence present same =>
    have command : (service.command rejecting).commandId = (service.command request).commandId :=
      congrArg ReplayLedger.Key.owner same
    refine ⟨withoutEffect_of_rejected invariant present command.symm, ?_⟩
    intro _ _ other shared
    exact withoutEffect_of_rejected invariant present (shared.trans command.symm)

theorem repeatsRecorded_append [DecidableEq Request]
    (invariant : ServiceInvariant service setup state entries calls)
    (repeats : RepeatsRecorded service entries) (step : ServiceStep Request) :
    RepeatsRecorded service (entries ++ [(step, (serviceStep service setup state step).2)]) := by
  intro earlier option answer later request outcome journal parsed ended
  rcases List.eq_nil_or_concat later with rfl | ⟨front, last, rfl⟩
  · obtain ⟨rfl, same⟩ := List.append_inj' journal rfl
    simp only [List.cons.injEq, Prod.mk.injEq, and_true] at same
    obtain ⟨rfl, rfl⟩ := same
    have member := (invariant.ended request outcome).mp ended
    obtain ⟨current, configured⟩ := invariant.admitted _ member
    rw [serviceStep, execute_repeated invariant.represents invariant.distinct parsed current
      configured member]
  · rw [List.concat_eq_append, ← List.cons_append, ← List.append_assoc] at journal
    exact repeats earlier option answer front request outcome
      (List.append_inj' journal rfl).1 parsed ended

variable (service setup)

theorem service_lifetime [DecidableEq Request] (steps : List (ServiceStep Request)) :
    CallsOnce service (Run.journal (serviceStep service setup) {} steps) ∧
    RepeatsRecorded service (Run.journal (serviceStep service setup) {} steps) ∧
    TruthfulRejections service (Run.journal (serviceStep service setup) {} steps) := by
  have lifetime := Run.final_journal_preserves (serviceStep service setup)
    (fun state entries => (∃ calls, ServiceInvariant service setup state entries calls) ∧
      RepeatsRecorded service entries) {}
    ⟨⟨[], invariant_initial⟩, by
      intro earlier option answer later request outcome journal
      simp at journal⟩
    (by
      rintro state entries step ⟨⟨calls, invariant⟩, repeats⟩
      exact ⟨invariant_serviceStep invariant step, repeatsRecorded_append invariant repeats step⟩)
    steps
  obtain ⟨⟨calls, invariant⟩, repeats⟩ := lifetime
  exact ⟨callsOnce_of_invariant invariant, repeats, truthful_of_invariant invariant⟩

end Runs

end VdrSuite.Plugin
