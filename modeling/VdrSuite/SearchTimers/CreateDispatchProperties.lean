import VdrSuite.Operations.MutationOperationProgress
import VdrSuite.SearchTimers.CreateDispatch

/-! What a caller of the creation services has established before each of its calls, and what the
replies that it got go on to mean. -/

set_option autoImplicit false

namespace VdrSuite.SearchTimers

open Library Library.Interleaving Operations

abbrev CreateEvent : Type := Event CreateReply

variable {sha256 : Bytes → Option Bytes}

/-! ## What a dispatch establishes -/

def generationEvent (operation : MutationOperation) : CreateEvent :=
  ⟨.currentGeneration operation.backendId,
    Outcome.returned (some operation.backendGeneration)⟩

def inventoryEvent (operation : MutationOperation) (inventory : SearchTimerResult) : CreateEvent :=
  ⟨.list operation.backendId, Outcome.returned inventory⟩

structure Prepared (sha256 : Bytes → Option Bytes) (events : List CreateEvent)
    (operation : MutationOperation) (payload : SearchTimerCreateOperationPayload)
    (baseline : SearchTimerResult) : Prop where
  reads : ∃ stored, storedPayload sha256 operation stored = some payload ∧
    events =
      [⟨.findById operation.operationId, operationResult .ok operation⟩,
        ⟨.findPayloadByOperationId operation.operationId, stored⟩,
        generationEvent operation, inventoryEvent operation baseline, generationEvent operation]
  inactive : payload.active = false
  complete : completeInventory baseline = true

def Committed (sha256 : Bytes → Option Bytes) (events : List CreateEvent)
    (operation : MutationOperation) (payload : SearchTimerCreateOperationPayload)
    (baseline : SearchTimerResult) : Prop :=
  ∃ reads arguments, ∃ locked : MutationOperationRepositoryResult,
    Prepared sha256 reads operation payload baseline ∧
    arguments.operationId = operation.operationId ∧ arguments.expectedState = .accepted ∧
    arguments.nextState = .dispatching ∧ locked.status = .ok ∧
    events = reads ++ [⟨.transition arguments, locked⟩]

def Created (sha256 : Bytes → Option Bytes) (events : List CreateEvent)
    (operation : MutationOperation) (payload : SearchTimerCreateOperationPayload)
    (baseline : SearchTimerResult) (created : SearchTimer) : Prop :=
  ∃ committed, ∃ answer : SearchTimerCreateResult,
    Committed sha256 committed operation payload baseline ∧ answer.success = true ∧
    answer.searchTimer = created ∧ created.backendNativeId ≠ [] ∧
    created.backendNativeId ∉ baseline.items.map SearchTimer.backendNativeId ∧
    events = committed ++ [⟨.create (commandFor operation payload), Outcome.returned answer⟩]

/-- After the creation, a complete inventory had one row with the created id, as requested, and the
backend was still of the generation that it was before. -/
def Verified (sha256 : Bytes → Option Bytes) (events : List CreateEvent) (operationId : Bytes) :
    Prop :=
  ∃ operation payload baseline created creation recording timer, ∃ after : SearchTimerResult,
    operation.operationId = operationId ∧
    Created sha256 creation operation payload baseline created ∧
    completeInventory after = true ∧
    after.items.filter (fun row => row.backendNativeId == created.backendNativeId) = [timer] ∧
    matchesRequested timer (commandFor operation payload) = true ∧
    events = creation ++
      [recording, inventoryEvent operation after, generationEvent operation]

def CallRule (sha256 : Bytes → Option Bytes) (earlier : List CreateEvent) : CreateCall → Prop
  | .create command => ∃ operation payload baseline,
      Committed sha256 earlier operation payload baseline ∧ command = commandFor operation payload
  | .transition arguments =>
    match arguments.nextState with
    | .dispatching => arguments.expectedState = .accepted ∧ ∃ operation payload baseline,
        Prepared sha256 earlier operation payload baseline ∧
        arguments.operationId = operation.operationId
    | .failedBeforeDispatch => arguments.expectedState = .accepted
    | .executedUnverified | .outcomeUnknown => True
    | .succeeded => Verified sha256 earlier arguments.operationId
    | _ => False
  | _ => True

abbrev Follows {Result : Type} (sha256 : Bytes → Option Bytes) (earlier : List CreateEvent)
    (program : Creating Result) : Prop :=
  Obeys (CallRule sha256) (fun _ _ => True) earlier program

/-! ## Checks -/

theorem generationIs_returned {operation : MutationOperation} {live : Outcome (Option Nat)}
    (current : generationIs operation live = true) :
    live = .returned (some operation.backendGeneration) := by
  unfold generationIs at current
  split at current
  · rw [beq_iff_eq.mp current]
  · cases current

theorem collectIds_some {backendId : Bytes} {seen ids : List Bytes} {items : List SearchTimer}
    (collected : collectIds backendId seen items = some ids) :
    ∀ id, id ∈ seen ∨ id ∈ items.map SearchTimer.backendNativeId → id ∈ ids := by
  induction items generalizing seen with
  | nil =>
    cases collected
    rintro id (old | new)
    · exact old
    · cases new
  | cons timer rest ih =>
    rw [collectIds] at collected
    split at collected
    · cases collected
    · intro id member
      apply ih collected
      rw [List.map_cons, List.mem_cons] at member
      rw [List.mem_cons]
      tauto

theorem existingIds_some {operation : MutationOperation} {baseline : Outcome SearchTimerResult}
    {existing : List Bytes} (listed : existingIds operation baseline = some existing) :
    ∃ inventory, baseline = .returned inventory ∧ completeInventory inventory = true ∧
      ∀ id ∈ inventory.items.map SearchTimer.backendNativeId, id ∈ existing := by
  cases baseline with
  | threw => cases listed
  | returned inventory =>
    rw [existingIds] at listed
    split at listed
    · cases listed
    · next complete =>
      refine ⟨inventory, rfl, by simpa using complete, ?_⟩
      intro id member
      exact collectIds_some listed id (.inr member)

theorem createdTimer_some {operation : MutationOperation}
    {payload : SearchTimerCreateOperationPayload} {existing : List Bytes}
    {answer : Outcome SearchTimerCreateResult} {created : SearchTimer}
    (accepted : createdTimer operation payload existing answer = some created) :
    ∃ result, answer = .returned result ∧ result.success = true ∧ result.searchTimer = created ∧
      created.backendNativeId ≠ [] ∧ created.backendNativeId ∉ existing := by
  cases answer with
  | threw => cases accepted
  | returned result =>
    rw [createdTimer] at accepted
    split at accepted
    · cases accepted
    · next checks =>
      cases accepted
      simp only [not_or, Bool.not_eq_false, List.isEmpty_iff] at checks
      exact ⟨result, rfl, checks.1, rfl, checks.2.1, checks.2.2.1⟩

theorem verifiedBy_true {command : SearchTimerCreateRequest} {created : SearchTimer}
    {after : Outcome SearchTimerResult} (verified : verifiedBy command created after = true) :
    ∃ inventory timer, after = .returned inventory ∧ completeInventory inventory = true ∧
      inventory.items.filter (fun row => row.backendNativeId == created.backendNativeId) = [timer] ∧
      matchesRequested timer command = true := by
  cases after with
  | threw => cases verified
  | returned inventory =>
    simp only [verifiedBy, Bool.and_eq_true, beq_iff_eq] at verified
    obtain ⟨⟨complete, single⟩, matching⟩ := verified
    obtain ⟨timer, named⟩ := List.length_eq_one_iff.mp single
    refine ⟨inventory, timer, rfl, complete, named, ?_⟩
    rw [named, List.countP_singleton] at matching
    by_contra different
    rw [if_neg different] at matching
    cases matching

/-! ## Programs -/

theorem unknown_follows (earlier : List CreateEvent) (request : SearchTimerCreateDispatchRequest)
    (current : MutationOperation) : Follows sha256 earlier (unknown request current) :=
  ⟨trivial, fun _ => trivial⟩

theorem blockActive_follows (earlier : List CreateEvent)
    (request : SearchTimerCreateDispatchRequest) (operation : MutationOperation) :
    Follows sha256 earlier (blockActive request operation) :=
  ⟨rfl, fun _ => trivial⟩

theorem verifyCreated_follows {creation : List CreateEvent}
    {request : SearchTimerCreateDispatchRequest} {operation : MutationOperation}
    {payload : SearchTimerCreateOperationPayload} {baseline : SearchTimerResult}
    {created : SearchTimer} (made : Created sha256 creation operation payload baseline created)
    (recording : CreateEvent) (unverified : MutationOperation) :
    Follows sha256 (creation ++ [recording])
      (verifyCreated request operation payload created unverified) := by
  refine ⟨trivial, fun after => ?_⟩
  change Follows _ _ (ite _ _ _)
  split
  · exact unknown_follows _ request unverified
  · next verified =>
    refine ⟨trivial, fun live => ?_⟩
    change Follows _ _ (ite _ _ _)
    split
    · exact unknown_follows _ request unverified
    · next current =>
      obtain ⟨inventory, timer, rfl, complete, named, matching⟩ :=
        verifiedBy_true (Bool.not_eq_false _ ▸ verified)
      cases generationIs_returned (Bool.not_eq_false _ ▸ current)
      refine ⟨?_, fun _ => trivial⟩
      refine ⟨operation, payload, baseline, created, creation, recording, timer, inventory, rfl, made,
        complete, named, matching, ?_⟩
      simp only [List.append_assoc]
      rfl

theorem createLocked_follows {committed : List CreateEvent}
    {request : SearchTimerCreateDispatchRequest} {operation : MutationOperation}
    {payload : SearchTimerCreateOperationPayload} {baseline : SearchTimerResult}
    {existing : List Bytes} (locking : Committed sha256 committed operation payload baseline)
    (listed : ∀ id ∈ baseline.items.map SearchTimer.backendNativeId, id ∈ existing)
    (locked : MutationOperation) :
    Follows sha256 committed (createLocked request operation payload existing locked) := by
  refine obeys_request_bind ⟨operation, payload, baseline, locking, rfl⟩ fun answer => ?_
  cases accepted : createdTimer operation payload existing answer with
  | none => exact unknown_follows _ request locked
  | some created =>
    obtain ⟨result, rfl, success, same, named, fresh⟩ := createdTimer_some accepted
    refine obeys_request_bind trivial fun unverified => ?_
    split
    · trivial
    · apply verifyCreated_follows
      exact ⟨committed, result, locking, success, same, named,
        fun member => fresh (listed _ member), rfl⟩

theorem dispatchInactive_follows (request : SearchTimerCreateDispatchRequest)
    {operation : MutationOperation} {payload : SearchTimerCreateOperationPayload}
    {stored : MutationOperationPayloadRepositoryResult}
    (read : storedPayload sha256 operation stored = some payload) (inactive : payload.active = false) :
    Follows sha256
      [⟨.findById operation.operationId, operationResult .ok operation⟩,
        ⟨.findPayloadByOperationId operation.operationId, stored⟩]
      (dispatchInactive request operation payload) := by
  refine obeys_request_bind trivial fun before => ?_
  split
  · trivial
  · next first =>
    refine obeys_request_bind trivial fun listing => ?_
    cases listed : existingIds operation listing with
    | none => trivial
    | some existing =>
      refine obeys_request_bind trivial fun live => ?_
      split
      · trivial
      · next second =>
        obtain ⟨baseline, rfl, complete, known⟩ := existingIds_some listed
        cases generationIs_returned (Bool.not_eq_false _ ▸ first)
        cases generationIs_returned (Bool.not_eq_false _ ▸ second)
        have prepared : Prepared sha256
            [⟨.findById operation.operationId, operationResult .ok operation⟩,
              ⟨.findPayloadByOperationId operation.operationId, stored⟩,
              generationEvent operation, inventoryEvent operation baseline,
              generationEvent operation] operation payload baseline :=
          ⟨⟨stored, read, rfl⟩, inactive, complete⟩
        refine obeys_request_bind ⟨rfl, operation, payload, baseline, prepared, rfl⟩
          fun locked => ?_
        split
        · trivial
        · next committed =>
          exact createLocked_follows
            ⟨_, _, locked, prepared, rfl, rfl, rfl, not_ne_iff.mp committed, rfl⟩ known _

theorem dispatchOnce_follows (request : SearchTimerCreateDispatchRequest) :
    Follows sha256 [] (dispatchOnce sha256 request) := by
  unfold dispatchOnce
  split
  · trivial
  · refine obeys_request_bind trivial fun found => ?_
    split
    · trivial
    · next ok =>
      split
      · trivial
      · next correct =>
        split
        · trivial
        · split
          · trivial
          · refine obeys_request_bind trivial fun stored => ?_
            cases read : storedPayload sha256 found.operation stored with
            | none => trivial
            | some payload =>
              dsimp only
              split
              · exact blockActive_follows _ request found.operation
              · next inactive =>
                have named : found.operation.operationId = request.operationId := by
                  simp only [correctOperation, namesCreate, Bool.not_eq_false, Bool.and_eq_true,
                    beq_iff_eq] at correct
                  tauto
                have shape : found = operationResult .ok found.operation := by
                  cases found
                  cases not_ne_iff.mp ok
                  rfl
                have follows := dispatchInactive_follows request read (Bool.eq_false_iff.mpr inactive)
                rw [named, ← shape] at follows
                rw [named]
                exact follows

theorem markOrphanedUnknown_follows (request : SearchTimerCreateRecoveryRequest) :
    Follows sha256 [] (markOrphanedUnknown request) := by
  unfold markOrphanedUnknown
  split
  · trivial
  · refine obeys_request_bind trivial fun found => ?_
    split
    · trivial
    · split
      · trivial
      · split
        · trivial
        · split
          · trivial
          · split
            · trivial
            · exact obeys_request_bind trivial fun _ => trivial

/-! ## Knowledge -/

def Known (store : Store) : CreateEvent → Prop
  | ⟨.findById operationId, (found : MutationOperationRepositoryResult)⟩ =>
    found.status = .ok → ∃ row ∈ store.operations,
      row.operationId = cString operationId ∧ row.operationId = found.operation.operationId
  | ⟨.findPayloadByOperationId operationId, (stored : MutationOperationPayloadRepositoryResult)⟩ =>
    stored.status = .ok → ∃ row ∈ store.payloads,
      row.operationId = cString operationId ∧ row.payload = stored.payload.payload
  | _ => True

def Knows (store : Store) (events : List CreateEvent) : Prop := ∀ event ∈ events, Known store event

theorem Known.stable {before after : Store} (continued : before.Continues after)
    {event : CreateEvent} (known : Known before event) : Known after event := by
  obtain ⟨call, reply⟩ := event
  cases call with
  | findById operationId =>
    intro ok
    obtain ⟨row, member, named, same⟩ := known ok
    obtain ⟨successor, later, identity, -⟩ := continued.operations row member
    have kept := MutationOperationRow.operationId_of_identity identity
    exact ⟨successor, later, kept.trans named, kept.trans same⟩
  | findPayloadByOperationId operationId =>
    intro ok
    obtain ⟨row, member, facts⟩ := known ok
    exact ⟨row, continued.payloads row member, facts⟩
  | transition _ | currentGeneration _ | list _ | create _ => trivial

theorem findById_known (environment : Environment) (store : Store) (operationId : Bytes)
    (ok : (Operations.findById environment store operationId).status = .ok) :
    ∃ row ∈ store.operations, row.operationId = cString operationId ∧
      row.operationId = (Operations.findById environment store operationId).operation.operationId := by
  unfold Operations.findById at ok ⊢
  split
  · next unsafeId =>
    rw [if_pos unsafeId] at ok
    cases ok
  · next safeId =>
    rw [if_neg safeId] at ok
    cases selected : selectById environment store operationId with
    | failed =>
      rw [selected] at ok
      cases ok
    | absent =>
      rw [selected] at ok
      cases ok
    | found operation =>
      obtain ⟨-, row, found, readable⟩ := lookupRow_found _ _ _ _ _ selected
      exact ⟨row, List.mem_of_find?_eq_some found, by simpa using List.find?_some found,
        (readOperation_some row operation readable).operationId.symm⟩

theorem readPayload_payload {row : MutationOperationPayloadRow} {payload : MutationOperationPayload}
    (readable : readPayload row = some payload) : row.payload = payload.payload := by
  unfold readPayload at readable
  split at readable
  · cases readable
  · dsimp only at readable
    split at readable
    · cases readable
      rfl
    · cases readable

theorem findPayloadByOperationId_known (environment : Environment) (store : Store)
    (operationId : Bytes)
    (ok : (Operations.findPayloadByOperationId environment store operationId).status = .ok) :
    ∃ row ∈ store.payloads, row.operationId = cString operationId ∧
      row.payload =
        (Operations.findPayloadByOperationId environment store operationId).payload.payload := by
  unfold Operations.findPayloadByOperationId at ok ⊢
  split
  · next unsafeId =>
    rw [if_pos unsafeId] at ok
    cases ok
  · next safeId =>
    rw [if_neg safeId] at ok
    cases selected : selectPayloadByOperationId environment store operationId with
    | failed =>
      rw [selected] at ok
      cases ok
    | absent =>
      rw [selected] at ok
      cases ok
    | found payload =>
      obtain ⟨-, row, found, readable⟩ := lookupRow_found _ _ _ _ _ selected
      exact ⟨row, List.mem_of_find?_eq_some found, by simpa using List.find?_some found,
        readPayload_payload readable⟩

/-! ## Calls -/

theorem transition_keeps (environment : Environment) {store : Store} (valid : store.Valid)
    (arguments : TransitionArguments) :
    (transition environment store arguments).1.Valid ∧
      store.Continues (transition environment store arguments).1 :=
  ⟨step_valid store ⟨environment, .transition arguments⟩ valid,
    step_continues store ⟨environment, .transition arguments⟩ valid⟩

theorem carryOut_keeps (oracle : CreateOracle) (call : CreateCall) {store : Store}
    (valid : store.Valid) :
    (carryOut oracle call store).2.Valid ∧ store.Continues (carryOut oracle call store).2 := by
  cases call with
  | transition arguments => exact transition_keeps oracle.environment valid arguments
  | findById _ | findPayloadByOperationId _ | currentGeneration _ | list _ | create _ =>
    exact ⟨valid, .refl store⟩

theorem carryOut_known (oracle : CreateOracle) (call : CreateCall) (store : Store) :
    Known (carryOut oracle call store).2 ⟨call, (carryOut oracle call store).1⟩ := by
  cases call with
  | findById operationId => exact findById_known oracle.environment store operationId
  | findPayloadByOperationId operationId =>
    exact findPayloadByOperationId_known oracle.environment store operationId
  | transition _ | currentGeneration _ | list _ | create _ => trivial

theorem create_discipline : Discipline carryOut applyOther (CallRule sha256) (fun _ _ _ => True)
    (fun _ _ => True) Store.Valid Store.Continues Knows where
  empty _ _ := fun _ member => absurd member List.not_mem_nil
  performed oracle call store earlier valid knows _ _ := by
    obtain ⟨stillValid, continued⟩ := carryOut_keeps oracle call valid
    refine ⟨stillValid, continued, ?_⟩
    intro event member
    rcases List.mem_append.mp member with old | new
    · exact (knows event old).stable continued
    · rw [List.mem_singleton.mp new]
      exact carryOut_known oracle call store
  changed request store valid _ :=
    ⟨step_valid store request valid, step_continues store request valid⟩
  stable _ _ _ _ continued knows event member := (knows event member).stable continued

end VdrSuite.SearchTimers
