import VdrSuite.Agent.CommandStateStore
import VdrSuite.Core.CommandReservationProperties
import VdrSuite.Core.ProviderOwnershipProperties
import VdrSuite.Core.RecordingReconciliation
import VdrSuite.Library.Table

/-! A recording command is completed by its own readback only, and at most once. -/

set_option autoImplicit false

namespace VdrSuite.Core

open Library Agent

/-! ## Evidence -/

theorem expectedEvidence_some {family : RecordingReconciliation} {diagnostics commandId token : Bytes}
    (read : expectedEvidence family diagnostics commandId = some token) :
    diagnostics = family.evidence ++ token ++ text ":" ++ commandId := by
  unfold expectedEvidence at read
  dsimp only at read
  split at read
  · cases read
  · rename_i shape
    simp only [not_or, not_not] at shape
    obtain ⟨size, start, stop⟩ := shape
    split at read
    · cases read
      have middle : diagnostics.drop family.evidence.length =
          (diagnostics.drop family.evidence.length).take 32 ++
            (diagnostics.drop family.evidence.length).drop 32 :=
        (List.take_append_drop 32 _).symm
      have rest : (diagnostics.drop family.evidence.length).drop 32 = text ":" ++ commandId := by
        rw [List.drop_drop, ← stop]
        congr 1
        omega
      calc diagnostics
        _ = diagnostics.take family.evidence.length ++ diagnostics.drop family.evidence.length :=
            (List.take_append_drop _ _).symm
        _ = family.evidence ++ ((diagnostics.drop family.evidence.length).take 32 ++
              (text ":" ++ commandId)) := by rw [start, ← rest, ← middle]
        _ = _ := by simp only [List.append_assoc]
    · cases read

theorem cString_recordingToken {token : Bytes} (valid : recordingRevisionTokenValid token = true) :
    cString token = token := by
  rw [cString_eq_self_iff]
  intro member
  simp only [recordingRevisionTokenValid, Bool.and_eq_true, List.all_eq_true] at valid
  exact absurd (valid.2 0 member) (by decide)

theorem validRequest_commandId {family : RecordingReconciliation} {request : ReadbackRequest}
    (valid : readbackRequestValid family request = true) :
    backendAgentCommandSafeIdentifier request.commandId = true := by
  simp only [readbackRequestValid, Bool.and_eq_true] at valid
  exact valid.1.1.1.1.1.1

/-! ## What a verification has checked -/

def FenceCurrent (ledger : Ledger) (assignment : BackendAgentCommandAssignment)
    (authorityDomain capability : Bytes) : Prop :=
  ∃ recorded, localProviderSelectionForCommand ledger assignment.commandId = some recorded ∧
    selectLocalProvider ledger.ownership ledger.facts assignment.backendId assignment.agentId
      assignment.agentInstanceId assignment.backendGeneration authorityDomain capability =
        .ok recorded

/-- The observation is the one that the executor's evidence for the command announces. -/
structure OwnReadback (family : RecordingReconciliation) (ledger : Ledger) (command : CommandRow)
    (result : ResultRow) (request : ReadbackRequest) : Prop where
  requested : readbackRequestValid family request = true
  found : ledger.command request.commandId = some command
  stored : ledger.result request.commandId = some result
  commandId : command.assignment.commandId = request.commandId
  commandType : command.assignment.commandType = family.commandType
  assignment : backendAgentCommandValidAssignment command.assignment = true
  fingerprint : command.assignment.requestFingerprint = request.requestFingerprint
  waiting : command.state = .waitingReconciliation
  evidence : result.boundedDiagnostics =
    family.evidence ++ request.observed ++ text ":" ++ command.assignment.commandId
  completed : result.completedAt ≤ request.observedAt
  fence : FenceCurrent ledger command.assignment family.authorityDomain family.capability

theorem readbackCandidate_some {family : RecordingReconciliation} {command : CommandRow}
    {result : ResultRow} {request : ReadbackRequest} {candidate : ReadbackCandidate}
    (found : readbackCandidate family command result request = some candidate) :
    candidate.command = command ∧ awaitsReadback family command result request = true ∧
      payloadFitsReadback command result candidate.payload request = true ∧
      expectedEvidence family result.boundedDiagnostics command.assignment.commandId =
        some candidate.token := by
  unfold readbackCandidate at found
  split at found
  · cases found
  rename_i awaits
  split at found
  · cases found
  split at found
  · cases found
  rename_i fits
  split at found
  · cases found
  · rename_i token evidence
    cases found
    exact ⟨rfl, by simpa using awaits, by simpa using fits, evidence⟩

theorem readbackProvider_ok {family : RecordingReconciliation} {ledger : Ledger}
    {candidate : ReadbackCandidate} {commandId : Bytes}
    (checked : readbackProvider family ledger candidate commandId = .ok ())
    (named : candidate.command.assignment.commandId = commandId) :
    FenceCurrent ledger candidate.command.assignment family.authorityDomain
      family.capability := by
  unfold readbackProvider at checked
  dsimp only at checked
  split at checked
  · cases checked
  rename_i selected recorded
  split at checked
  · cases checked
  split at checked
  · cases checked
  rename_i current chosen
  split at checked
  · rename_i same
    obtain ⟨-, rfl⟩ := (backendAgentLocalProviderSameFence_iff _ _).mp same
    exact ⟨selected, named ▸ recorded, chosen⟩
  · cases checked

/-! ## The outcomes of a call -/

theorem persistReadback_some {persists : Bool} {ledger : Ledger}
    {rows : List RecordingVerification} {verification : RecordingVerification}
    {updated : Ledger × List RecordingVerification}
    (written : persistReadback persists ledger rows verification = some updated) :
    (∀ row ∈ rows, verification.bound.collides row = false) ∧
      updated = (ledger.completeWaiting verification.commandId verification.verifiedAt,
        rows ++ [verification.bound]) := by
  unfold persistReadback at written
  split at written
  · cases written
  · rename_i free
    simp only [not_or, Bool.not_eq_true, List.any_eq_false] at free
    cases written
    exact ⟨free.2.1, rfl⟩

theorem verifyCandidate_cases (family : RecordingReconciliation) (storage : ReadbackStorage)
    (ledger : Ledger) (rows : List RecordingVerification) (request : ReadbackRequest)
    (valid : readbackRequestValid family request = true) :
    (∃ reason, verifyCandidate family storage ledger rows request =
      ((ledger, rows), .error reason)) ∨
    ∃ command result updated, OwnReadback family ledger command result request ∧
      persistReadback storage.persists ledger rows (verificationFor command.assignment request) =
        some updated ∧
      verifyCandidate family storage ledger rows request =
        (updated, .ok (verificationFor command.assignment request, family.reasons.verified)) := by
  unfold verifyCandidate
  dsimp only
  split
  · exact .inl ⟨_, rfl⟩
  split
  · exact .inl ⟨_, rfl⟩
  split
  · exact .inl ⟨_, rfl⟩
  split
  · rename_i command result found stored
    split
    · exact .inl ⟨_, rfl⟩
    rename_i candidate read
    split
    · exact .inl ⟨_, rfl⟩
    rename_i token
    split
    · exact .inl ⟨_, rfl⟩
    rename_i checked
    split
    · exact .inl ⟨_, rfl⟩
    rename_i updated written
    obtain ⟨same, awaits, fits, evidence⟩ := readbackCandidate_some read
    simp only [not_or, not_not] at token
    have named : command.assignment.commandId = request.commandId := by
      rw [(command_mem found).2, cString_safeIdentifier _ (validRequest_commandId valid)]
    simp only [awaitsReadback, Bool.and_eq_true, beq_iff_eq] at awaits
    simp only [payloadFitsReadback, Bool.and_eq_true, decide_eq_true_eq] at fits
    have fence := readbackProvider_ok checked (same ▸ named)
    rw [same] at fence
    refine .inr ⟨command, result, updated, ?_, written, rfl⟩
    exact
      { requested := valid
        found := found
        stored := stored
        commandId := named
        commandType := awaits.1.1.1.1.1.1.1.2
        assignment := awaits.1.1.1.1.1.1.1.1
        fingerprint := awaits.1.1.1.1.1.2
        waiting := awaits.1.1.1.1.2
        evidence := by rw [token.2]; exact expectedEvidence_some evidence
        completed := fits.1.2
        fence := fence }
  · exact .inl ⟨_, rfl⟩

/-- A call is refused and changes nothing, repeats a stored verification and changes nothing, or
completes one command by its own readback. -/
theorem verifyReadback_cases (family : RecordingReconciliation) (storage : ReadbackStorage)
    (ledger : Ledger) (rows : List RecordingVerification) (request : ReadbackRequest) :
    (∃ reason, verifyReadback family storage ledger rows request =
      ((ledger, rows), .error reason)) ∨
    (∃ row ∈ rows, exactVerificationRequest row request = true ∧
      readVerification family row = true ∧
      verifyReadback family storage ledger rows request =
        ((ledger, rows), .ok (row, family.reasons.replayed))) ∨
    ∃ command result updated, OwnReadback family ledger command result request ∧
      persistReadback storage.persists ledger rows (verificationFor command.assignment request) =
        some updated ∧
      verifyReadback family storage ledger rows request =
        (updated, .ok (verificationFor command.assignment request, family.reasons.verified)) := by
  unfold verifyReadback
  split
  · exact .inl ⟨_, rfl⟩
  rename_i valid
  have fresh := verifyCandidate_cases family storage ledger rows request (by simpa using valid)
  split
  · exact .inl ⟨_, rfl⟩
  split
  · exact fresh.imp_right .inr
  split
  · exact fresh.imp_right .inr
  · rename_i row found
    split
    · rename_i same
      exact .inr (.inl ⟨row, List.mem_of_find?_eq_some found, same.2, same.1, rfl⟩)
    · exact .inl ⟨_, rfl⟩

/-! ## The ledger after a completion -/

theorem completeWaiting_assignment (commandId : Bytes) (observedAt : Int) (row : CommandRow) :
    (completeWaiting commandId observedAt row).assignment = row.assignment := by
  unfold completeWaiting
  split <;> rfl

theorem command_completeWaiting (ledger : Ledger) (completed : Bytes) (observedAt : Int)
    (commandId : Bytes) : (ledger.completeWaiting completed observedAt).command commandId =
      (ledger.command commandId).map (completeWaiting completed observedAt) :=
  find_command_map _ _ (completeWaiting_assignment completed observedAt) _

theorem LedgerValid.completeWaiting {ledger : Ledger} (valid : LedgerValid ledger)
    (commandId : Bytes) (observedAt : Int) :
    LedgerValid (ledger.completeWaiting commandId observedAt) := by
  have kept := completeWaiting_assignment commandId observedAt
  have successor : ∀ command ∈ ledger.commands, Core.completeWaiting commandId observedAt command ∈
      (ledger.completeWaiting commandId observedAt).commands :=
    fun command member => List.mem_map_of_mem member
  refine ⟨?_, valid.receiptsUnique, valid.resultsUnique, ?_, ?_, valid.resultsReceived, ?_⟩
  · have ids : (ledger.completeWaiting commandId observedAt).commands.map
        (fun row => row.assignment.commandId) =
          ledger.commands.map fun row => row.assignment.commandId := by
      simp [Ledger.completeWaiting, kept]
    rw [ids]
    exact valid.commandsUnique
  · intro stored member
    obtain ⟨command, present, same, receipt, shape, fence⟩ := valid.receiptsOwned stored member
    exact ⟨_, successor command present, by rw [kept, same], receipt, shape,
      by rw [matchesFence_congr (kept command)]; exact fence⟩
  · intro stored member
    obtain ⟨command, present, same, result, shape, fence⟩ := valid.resultsOwned stored member
    exact ⟨_, successor command present, by rw [kept, same], result, shape,
      by rw [matchesFence_congr (kept command)]; exact fence⟩
  · intro row member
    obtain ⟨command, present, rfl⟩ := List.mem_map.mp member
    have backed := valid.statesBacked command present
    by_cases addressed : waitingCommand commandId command = true
    · rw [Core.completeWaiting, if_pos addressed]
      simp only [waitingCommand, Bool.and_eq_true, beq_iff_eq] at addressed
      exact ⟨by simp, fun _ => backed.2 (.inr addressed.2)⟩
    · rw [Core.completeWaiting, if_neg addressed]
      exact backed

/-! ## Readbacks over runs -/

/-- What every reachable state keeps: its ledger's rules, one readable readback for each command and
for each operation of a backend, and of a command's own kind. -/
structure ReconciliationValid (state : ReconciliationState) : Prop where
  ledger : LedgerValid state.ledger
  commandsUnique : ∀ kind,
    ((state.readbacks kind).map RecordingVerification.commandId).Nodup
  operationsUnique : ∀ kind,
    ((state.readbacks kind).map fun row => (row.backendId, row.operationId)).Nodup
  readable : ∀ kind, ∀ row ∈ state.readbacks kind, readVerification kind.family row = true
  owned : ∀ kind, ∀ row ∈ state.readbacks kind, ∃ command,
    state.ledger.command row.commandId = some command ∧
      command.assignment.commandType = kind.family.commandType

theorem reconciliationValid_empty : ReconciliationValid {} := by
  refine ⟨ledgerValid_empty, ?_, ?_, ?_, ?_⟩
  all_goals
    rintro (_ | _)
    all_goals simp [ReconciliationState.readbacks]

/-- A readback of its own command, as its row holds it, reads back and is exactly requested. -/
theorem OwnReadback.readable {family : RecordingReconciliation} {ledger : Ledger}
    {command : CommandRow} {result : ResultRow} {request : ReadbackRequest}
    (own : OwnReadback family ledger command result request) :
    (verificationFor command.assignment request).bound =
        verificationFor command.assignment request ∧
      readVerification family (verificationFor command.assignment request) = true := by
  have valid := own.requested
  simp only [readbackRequestValid, Bool.and_eq_true] at valid
  obtain ⟨⟨⟨⟨⟨⟨commandSafe, fingerprintSafe⟩, key⟩, expected⟩, observed⟩, different⟩, positive⟩ := valid
  obtain ⟨commandId, backend, operation⟩ := valid_identifiers own.assignment
  rw [← own.fingerprint] at fingerprintSafe
  constructor
  · simp [RecordingVerification.bound, verificationFor, cString_safeIdentifier _ commandId,
      cString_safeIdentifier _ backend, cString_safeIdentifier _ operation,
      cString_safeIdentifier _ fingerprintSafe, cString_recordingToken key,
      cString_recordingToken expected, cString_recordingToken observed]
  · simp only [readVerification, verificationFor, Bool.and_eq_true]
    exact ⟨⟨⟨⟨⟨⟨⟨⟨commandId, fingerprintSafe⟩, operation⟩, backend⟩, key⟩, expected⟩, observed⟩,
      different⟩, positive⟩

def ReconciliationState.complete (state : ReconciliationState)
    (verification : RecordingVerification) : RecordingCommandKind → ReconciliationState
  | .marksModify =>
    { state with
      ledger := state.ledger.completeWaiting verification.commandId verification.verifiedAt
      marksReadbacks := state.marksReadbacks ++ [verification] }
  | .cut =>
    { state with
      ledger := state.ledger.completeWaiting verification.commandId verification.verifiedAt
      cutReadbacks := state.cutReadbacks ++ [verification] }

theorem complete_ledger (state : ReconciliationState) (verification : RecordingVerification)
    (kind : RecordingCommandKind) : (state.complete verification kind).ledger =
      state.ledger.completeWaiting verification.commandId verification.verifiedAt := by
  cases kind <;> rfl

theorem complete_readbacks (state : ReconciliationState) (verification : RecordingVerification)
    (kind other : RecordingCommandKind) : (state.complete verification kind).readbacks other =
      if other = kind then state.readbacks other ++ [verification] else state.readbacks other := by
  cases kind <;> cases other <;> rfl

theorem reconciliationStep_verify (state : ReconciliationState) (kind : RecordingCommandKind)
    (storage : ReadbackStorage) (request : ReadbackRequest) :
    (∃ reason, reconciliationStep state (.verify kind storage request) =
      (state, .readback (.error reason))) ∨
    (∃ row ∈ state.readbacks kind, exactVerificationRequest row request = true ∧
      reconciliationStep state (.verify kind storage request) =
        (state, .readback (.ok (row, kind.family.reasons.replayed)))) ∨
    ∃ command result, OwnReadback kind.family state.ledger command result request ∧
      (∀ row ∈ state.readbacks kind,
        (verificationFor command.assignment request).collides row = false) ∧
      reconciliationStep state (.verify kind storage request) =
        (state.complete (verificationFor command.assignment request) kind,
          .readback (.ok (verificationFor command.assignment request,
            kind.family.reasons.verified))) := by
  have shape : reconciliationStep state (.verify kind storage request) =
      (match kind with
        | .marksModify =>
          { state with
            ledger := (verifyReadback kind.family storage state.ledger (state.readbacks kind)
              request).1.1
            marksReadbacks := (verifyReadback kind.family storage state.ledger
              (state.readbacks kind) request).1.2 }
        | .cut =>
          { state with
            ledger := (verifyReadback kind.family storage state.ledger (state.readbacks kind)
              request).1.1
            cutReadbacks := (verifyReadback kind.family storage state.ledger
              (state.readbacks kind) request).1.2 },
        .readback (verifyReadback kind.family storage state.ledger (state.readbacks kind)
          request).2) := by
    cases kind <;> rfl
  rw [shape]
  obtain ⟨reason, refused⟩ | ⟨row, member, exactly, -, replayed⟩ |
      ⟨command, result, updated, own, written, verified⟩ :=
    verifyReadback_cases kind.family storage state.ledger (state.readbacks kind) request
  · refine .inl ⟨reason, ?_⟩
    rw [refused]
    cases kind <;> rfl
  · refine .inr (.inl ⟨row, member, exactly, ?_⟩)
    rw [replayed]
    cases kind <;> rfl
  · obtain ⟨free, rfl⟩ := persistReadback_some written
    rw [own.readable.1] at free
    refine .inr (.inr ⟨command, result, own, free, ?_⟩)
    rw [verified, own.readable.1]
    cases kind <;> rfl

theorem collides_false {row other : RecordingVerification} (free : row.collides other = false) :
    other.commandId ≠ row.commandId ∧
      (other.backendId, other.operationId) ≠ (row.backendId, row.operationId) := by
  simpa [RecordingVerification.collides] using free

theorem ReconciliationValid.complete {state : ReconciliationState}
    (valid : ReconciliationValid state) {kind : RecordingCommandKind} {command : CommandRow}
    {result : ResultRow} {request : ReadbackRequest}
    (own : OwnReadback kind.family state.ledger command result request)
    (free : ∀ row ∈ state.readbacks kind,
      (verificationFor command.assignment request).collides row = false) :
    ReconciliationValid (state.complete (verificationFor command.assignment request) kind) := by
  have fresh : ∀ {α : Type} (key : RecordingVerification → α) (other : RecordingCommandKind),
      ((state.readbacks other).map key).Nodup →
      (∀ row ∈ state.readbacks kind,
        key row ≠ key (verificationFor command.assignment request)) →
      (((state.complete (verificationFor command.assignment request) kind).readbacks other).map
        key).Nodup := by
    intro α key other unique different
    rw [complete_readbacks]
    split
    · rename_i same
      subst same
      rw [List.map_append]
      refine nodup_append_singleton unique ?_
      intro present
      obtain ⟨row, member, same⟩ := List.mem_map.mp present
      exact different row member same
    · exact unique
  have member : ∀ other, ∀ row ∈
      (state.complete (verificationFor command.assignment request) kind).readbacks other,
      row ∈ state.readbacks other ∨
        (other = kind ∧ row = verificationFor command.assignment request) := by
    intro other row present
    rw [complete_readbacks] at present
    split at present
    · rename_i same
      rw [List.mem_append, List.mem_singleton] at present
      exact present.imp_right fun fresh => ⟨same, fresh⟩
    · exact .inl present
  refine ⟨?_, ?_, ?_, ?_, ?_⟩
  · rw [complete_ledger]
    exact valid.ledger.completeWaiting _ _
  · exact fun other => fresh _ other (valid.commandsUnique other)
      fun row member => (collides_false (free row member)).1
  · exact fun other => fresh _ other (valid.operationsUnique other)
      fun row member => (collides_false (free row member)).2
  · intro other row present
    obtain old | ⟨rfl, rfl⟩ := member other row present
    · exact valid.readable other row old
    · exact own.readable.2
  · intro other row present
    rw [complete_ledger]
    simp only [command_completeWaiting, Option.map_eq_some_iff]
    obtain old | ⟨rfl, rfl⟩ := member other row present
    · obtain ⟨owner, found, type⟩ := valid.owned other row old
      exact ⟨_, ⟨owner, found, rfl⟩, by rw [completeWaiting_assignment]; exact type⟩
    · refine ⟨_, ⟨command, ?_, rfl⟩, by rw [completeWaiting_assignment]; exact own.commandType⟩
      rw [verificationFor, own.commandId]
      exact own.found

theorem ReconciliationValid.step {state : ReconciliationState} (valid : ReconciliationValid state)
    (call : ReconciliationCall) : ReconciliationValid (reconciliationStep state call).1 := by
  cases call with
  | verify kind storage request =>
    obtain ⟨reason, refused⟩ | ⟨row, -, -, replayed⟩ | ⟨command, result, own, free, verified⟩ :=
      reconciliationStep_verify state kind storage request
    · rw [refused]
      exact valid
    · rw [replayed]
      exact valid
    · rw [verified]
      exact valid.complete own free
  | ledger call =>
    have change := ledgerStep_change state.ledger call
    refine ⟨change.valid valid.ledger, ?_, ?_, ?_, ?_⟩
    · rintro (_ | _)
      · exact valid.commandsUnique .marksModify
      · exact valid.commandsUnique .cut
    · rintro (_ | _)
      · exact valid.operationsUnique .marksModify
      · exact valid.operationsUnique .cut
    · rintro (_ | _)
      · exact valid.readable .marksModify
      · exact valid.readable .cut
    · intro kind row member
      have old : row ∈ state.readbacks kind := by
        cases kind <;> exact member
      obtain ⟨command, found, type⟩ := valid.owned kind row old
      obtain ⟨successor, again, same⟩ := change.continues.command _ _ found
      exact ⟨successor, again, by rw [same]; exact type⟩

theorem reconciliationValid_final (calls : List ReconciliationCall) :
    ReconciliationValid (Run.final reconciliationStep {} calls) :=
  Run.final_preserves reconciliationStep ReconciliationValid (fun _ call valid => valid.step call) {}
    reconciliationValid_empty calls

/-! ## Completions -/

/-- No other call of the ledger completes a command that awaits its readback: such a command has its
result already. -/
theorem LedgerChange.waiting {before after : Ledger} (change : LedgerChange before after)
    (valid : LedgerValid before) {commandId : Bytes} {row successor : CommandRow}
    (found : before.command commandId = some row) (waiting : row.state = .waitingReconciliation)
    (later : after.command commandId = some successor) : successor.state ≠ .completed := by
  have mapped : ∀ map : CommandRow → CommandRow,
      (∀ row, (map row).assignment = row.assignment) → after.commands = before.commands.map map →
      successor = map row := by
    intro map keeps commands
    unfold Ledger.command at found later
    rw [commands, find_command_map _ _ keeps, found] at later
    exact (Option.some.inj later).symm
  cases change with
  | inserted fresh _ _ _ _ commands =>
    unfold Ledger.command at found later
    rw [commands, List.find?_append, found] at later
    cases later
    simp [waiting]
  | maintained map keeps states commands =>
    rw [mapped map keeps commands]
    obtain same | expired := states row
    · simp [same, waiting]
    · simp [expired]
  | received receipt _ _ _ _ commands =>
    rw [mapped _ ?_ commands]
    · split <;> simp [receiveCommand, waiting]
    · intro row
      split
      · unfold receiveCommand
        split <;> rfl
      · rfl
  | finished result _ _ _ _ fresh commands =>
    rw [mapped _ ?_ commands]
    · split
      · rename_i addressed
        obtain ⟨member, -⟩ := command_mem found
        obtain ⟨stored, present, same⟩ := (valid.statesBacked row member).2 (.inr waiting)
        exact absurd (List.mem_map.mpr ⟨stored, present, same.trans addressed⟩)
          (result_none fresh)
      · simp [waiting]
    · intro row
      split <;> rfl

/-- A command leaves `waiting_reconciliation` for `completed` by its own readback only. -/
theorem ReconciliationValid.completes {state : ReconciliationState}
    (valid : ReconciliationValid state) {call : ReconciliationCall} {commandId : Bytes}
    {row successor : CommandRow} (found : state.ledger.command commandId = some row)
    (waiting : row.state = .waitingReconciliation)
    (later : (reconciliationStep state call).1.ledger.command commandId = some successor)
    (completed : successor.state = .completed) :
    ∃ kind storage request result, call = .verify kind storage request ∧
      OwnReadback kind.family state.ledger row result request ∧
      (reconciliationStep state call).1.readbacks kind =
        state.readbacks kind ++ [verificationFor row.assignment request] := by
  cases call with
  | ledger call =>
    exact absurd completed
      ((ledgerStep_change state.ledger call).waiting valid.ledger found waiting later)
  | verify kind storage request =>
    have unmoved : (reconciliationStep state (.verify kind storage request)).1 ≠ state := by
      intro same
      rw [same, found] at later
      cases later
      simp [waiting] at completed
    obtain ⟨reason, refused⟩ | ⟨other, -, -, replayed⟩ |
        ⟨command, result, own, -, verified⟩ := reconciliationStep_verify state kind storage request
    · exact absurd (congrArg Prod.fst refused) unmoved
    · exact absurd (congrArg Prod.fst replayed) unmoved
    · rw [verified, complete_ledger, command_completeWaiting, found, Option.map_some,
        Option.some.injEq] at later
      subst later
      -- The completed row is the one of the verified command, as identifiers are unique.
      have addressed : waitingCommand command.assignment.commandId row = true := by
        by_contra other
        rw [completeWaiting, verificationFor, if_neg other, waiting] at completed
        cases completed
      simp only [waitingCommand, Bool.and_eq_true, beq_iff_eq] at addressed
      have same : command = row := by
        have sameId : command.assignment.commandId = row.assignment.commandId := by
          rw [addressed.1,
            cString_safeIdentifier _ (valid_identifiers own.assignment).1]
        exact List.inj_on_of_nodup_map valid.ledger.commandsUnique (command_mem own.found).1
          (command_mem found).1 sameId
      subst same
      refine ⟨kind, storage, request, result, rfl, own, ?_⟩
      rw [verified, complete_readbacks, if_pos rfl]

/-! ## Repetitions -/

theorem ReconciliationValid.kind_unique {state : ReconciliationState}
    (valid : ReconciliationValid state) {first second : RecordingCommandKind}
    {row other : RecordingVerification} (member : row ∈ state.readbacks first)
    (otherMember : other ∈ state.readbacks second) (same : row.commandId = other.commandId) :
    first = second := by
  obtain ⟨command, found, type⟩ := valid.owned first row member
  obtain ⟨again, foundAgain, otherType⟩ := valid.owned second other otherMember
  rw [same, foundAgain] at found
  cases found
  rw [type] at otherType
  cases first <;> cases second
  · rfl
  · exact absurd otherType (by decide)
  · exact absurd otherType (by decide)
  · rfl

theorem readbacks_kept {kind : RecordingCommandKind} {verification : RecordingVerification}
    (state : ReconciliationState) (call : ReconciliationCall)
    (member : verification ∈ state.readbacks kind) :
    verification ∈ (reconciliationStep state call).1.readbacks kind := by
  cases call with
  | ledger call => cases kind <;> exact member
  | verify other storage request =>
    obtain ⟨reason, refused⟩ | ⟨row, -, -, replayed⟩ | ⟨command, result, -, -, verified⟩ :=
      reconciliationStep_verify state other storage request
    · rw [refused]
      exact member
    · rw [replayed]
      exact member
    · rw [verified, complete_readbacks]
      split
      · exact List.mem_append_left _ member
      · exact member

theorem recorded_of_ok {state : ReconciliationState} {kind : RecordingCommandKind}
    {storage : ReadbackStorage} {request : ReadbackRequest} {verification : RecordingVerification}
    {reason : String} (accepted : (reconciliationStep state (.verify kind storage request)).2 =
      .readback (.ok (verification, reason))) :
    verification ∈ (reconciliationStep state (.verify kind storage request)).1.readbacks kind ∧
      exactVerificationRequest verification request = true := by
  obtain ⟨reason, refused⟩ | ⟨row, member, exactly, replayed⟩ | ⟨command, result, own, -, verified⟩ :=
    reconciliationStep_verify state kind storage request
  · rw [refused] at accepted
    cases accepted
  · rw [replayed] at accepted ⊢
    cases accepted
    exact ⟨member, exactly⟩
  · rw [verified] at accepted ⊢
    cases accepted
    refine ⟨?_, ?_⟩
    · rw [complete_readbacks, if_pos rfl]
      exact List.mem_append_right _ (List.mem_singleton_self _)
    · simp [exactVerificationRequest, verificationFor, own.commandId, own.fingerprint]

theorem exactVerificationRequest_commandId {row : RecordingVerification}
    {request : ReadbackRequest} (same : exactVerificationRequest row request = true) :
    row.commandId = request.commandId := by
  simp only [exactVerificationRequest, Bool.and_eq_true, beq_iff_eq] at same
  exact same.1.1.1.1

theorem repeated_unchanged {state : ReconciliationState} {kind : RecordingCommandKind}
    {verification : RecordingVerification} (member : verification ∈ state.readbacks kind)
    (storage : ReadbackStorage) {request : ReadbackRequest}
    (same : exactVerificationRequest verification request = true) :
    (reconciliationStep state (.verify kind storage request)).1 = state := by
  obtain ⟨reason, refused⟩ | ⟨row, -, -, replayed⟩ | ⟨command, result, own, free, -⟩ :=
    reconciliationStep_verify state kind storage request
  · exact congrArg Prod.fst refused
  · exact congrArg Prod.fst replayed
  · refine absurd ?_ (collides_false (free verification member)).1
    rw [exactVerificationRequest_commandId same, verificationFor, own.commandId]

theorem ReconciliationValid.replayed {state : ReconciliationState}
    (valid : ReconciliationValid state) {kind : RecordingCommandKind}
    {verification : RecordingVerification} (member : verification ∈ state.readbacks kind)
    {storage : ReadbackStorage} (prepared : storage.existingPrepared = true)
    (read : storage.existingRead = true) {request : ReadbackRequest}
    (same : exactVerificationRequest verification request = true)
    (observed : 0 < request.observedAt) :
    (reconciliationStep state (.verify kind storage request)).2 =
      .readback (.ok (verification, kind.family.reasons.replayed)) := by
  have readable := valid.readable kind verification member
  have parts := readable
  have named := exactVerificationRequest_commandId same
  have fields := same
  simp only [readVerification, Bool.and_eq_true] at parts
  simp only [exactVerificationRequest, Bool.and_eq_true, beq_iff_eq] at fields
  obtain ⟨⟨⟨⟨commandId, fingerprint⟩, key⟩, expected⟩, revision⟩ := fields
  rw [commandId, fingerprint, key, expected, revision] at parts
  obtain ⟨⟨⟨⟨⟨⟨⟨⟨commandId, fingerprint⟩, -⟩, -⟩, key⟩, expected⟩, revision⟩, different⟩, -⟩ := parts
  have requestValid : readbackRequestValid kind.family request = true := by
    simp only [readbackRequestValid, Bool.and_eq_true]
    exact ⟨⟨⟨⟨⟨⟨commandId, fingerprint⟩, key⟩, expected⟩, revision⟩, different⟩,
      decide_eq_true observed⟩
  have found : (state.readbacks kind).find?
      (fun row => row.commandId == cString request.commandId) = some verification := by
    rw [cString_safeIdentifier _ commandId, ← named]
    have stored := (Table.mem_iff_lookup _ (valid.commandsUnique kind) verification).mp member
    simpa [Table.lookup, beq_eq_decide] using stored
  have outcome : verifyReadback kind.family storage state.ledger (state.readbacks kind) request =
      ((state.ledger, state.readbacks kind),
        .ok (verification, kind.family.reasons.replayed)) := by
    simp only [verifyReadback, requestValid, prepared, read, found, readable, same, and_self,
      Bool.true_eq_false, ↓reduceIte]
  cases kind
  · exact congrArg (fun outcome => ReconciliationAnswer.readback outcome.2) outcome
  · exact congrArg (fun outcome => ReconciliationAnswer.readback outcome.2) outcome

/-! ## The result -/

structure ReadbacksUnique (state : ReconciliationState) : Prop where
  commands : ∀ kind, ((state.readbacks kind).map RecordingVerification.commandId).Nodup
  operations : ∀ kind,
    ((state.readbacks kind).map fun row => (row.backendId, row.operationId)).Nodup
  kinds : ∀ first second, ∀ row ∈ state.readbacks first, ∀ other ∈ state.readbacks second,
    row.commandId = other.commandId → first = second

def cutSelection : BackendAgentLocalProviderSelection :=
  { backendId := text "be1"
    authorityDomain := text "vdr.recording.cut"
    providerId := text "suitebridge:recording-cut"
    providerKind := text "suitebridge"
    ownershipGeneration := 1
    providerInstanceEpoch := text "e1"
    providerGeneration := 1
    capabilityRevision := 1
    requiredCapability := text "vdr.recording.cut" }

def cutAssignment : BackendAgentCommandAssignment :=
  let command : BackendAgentCommandAssignment :=
    { requestId := text "r1"
      correlationId := text "x1"
      operationId := text "o1"
      jobId := text "j1"
      attemptId := text "a1"
      claimEpoch := 1
      commandId := text "c1"
      backendId := text "be1"
      agentId := text "ag1"
      agentInstanceId := text "i1"
      backendGeneration := 1
      commandType := recordingCutCommandType
      payloadVersion := 1
      payload := backendAgentRecordingCutPayload
        { operationRevision := text "v1"
          recordingKey := List.replicate 32 97
          expectedMarksRevision := List.replicate 32 98
          backendId := text "be1"
          backendGeneration := 1
          controlPlaneClaimedAt := 5
          localProviderSelection := cutSelection }
      verificationPolicy := text "readback_required"
      assignedAt := 10
      deadline := 100 }
  { command with requestFingerprint := backendAgentCommandFingerprint command }

def cutCalls : List ReconciliationCall :=
  [.ledger ⟨true, .setLocalProviderOwnership
      { backendId := text "be1", authorityDomain := text "vdr.recording.cut"
        providerId := text "suitebridge:recording-cut", providerKind := text "suitebridge"
        allowedCapabilities := [text "vdr.recording.cut"], updatedAt := 5 }⟩,
    .ledger ⟨true, .poll
      { backendId := text "be1", agentInstanceId := text "i1", backendGeneration := 1
        supportedCommandTypes := [text "vdr.recording.cut"]
        localProviders :=
          [{ providerId := text "suitebridge:recording-cut", providerKind := text "suitebridge"
             providerInstanceEpoch := text "e1", providerGeneration := 1, capabilityRevision := 1
             available := true, capabilities := [text "vdr.recording.cut"] }] }
      { agentId := text "ag1", now := 6, operations := none, tie := 0 }⟩,
    .ledger ⟨true, .insertAssignment cutAssignment (some cutSelection)⟩,
    .ledger ⟨true, .acceptReceipt (receiptFor cutAssignment (text "accepted") 20
      (text "accepted_locally"))⟩,
    .ledger ⟨true, .acceptResult (resultFor cutAssignment (text "accepted_by_executor")
      (text "outcome_unknown") (text "outcome_unknown") (text "none") (text "reconcile_only")
      (recordingCutReconciliation.evidence ++ List.replicate 32 99 ++ text ":c1") 30)⟩]

def cutReadback : ReadbackRequest :=
  { commandId := text "c1"
    requestFingerprint := cutAssignment.requestFingerprint
    recordingKey := List.replicate 32 97
    expectedMarksRevision := List.replicate 32 98
    observed := List.replicate 32 99
    observedAt := 40 }

end VdrSuite.Core
