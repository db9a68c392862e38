import VdrSuite.Security.DevicePairingProperties

/-! Pairing requests over every interleaving of the calls: they only move on, each is decided once and
gives one credential, and a call that gives none leaves nothing behind. -/

set_option autoImplicit false

namespace VdrSuite.Security.DevicePairing

open Library Library.Interleaving

/-! ## The rule that every call follows -/

def Idle : PairingEvent → Prop
  | ⟨.register _ _, _⟩ | ⟨.recordDecision _ _ _ _, _⟩ => False
  | ⟨.createCredential _ _, result⟩ =>
    let result : DevicePairingCredentialIssueResult := result
    result.status ≠ .issued
  | _ => True

/-- A decision is for the revision that its request names, and a call for a credential that reports
none has done nothing. -/
def PairingRule (earlier : List PairingEvent) : PairingEffect → Prop
  | .recordDecision request expectedRevision _ _ =>
    parseAdministrativeRevision request.expectedResourceRevision request.pairingRequestId =
      some expectedRevision
  | .leave (.issueDeviceCredential result) => result.status ≠ .issued → ∀ event ∈ earlier, Idle event
  | _ => True

abbrev Follows {Result : Type} (reached : List PairingEvent → Result → Prop)
    (earlier : List PairingEvent) (program : Pairing Result) : Prop :=
  Obeys PairingRule reached earlier program

variable {platform : Platform} {earlier : List PairingEvent}

abbrev AllIdle (events : List PairingEvent) : Prop := ∀ event ∈ events, Idle event

theorem allIdle_concat {event : PairingEvent} (idle : AllIdle earlier) (last : Idle event) :
    AllIdle (earlier ++ [event]) := by
  intro other member
  rcases List.mem_append.mp member with old | fresh
  · exact idle other old
  · cases List.mem_singleton.mp fresh
    exact last

theorem draw_follows (sizes : List Nat) :
    Follows (fun events _ => AllIdle earlier → AllIdle events) earlier (draw sizes) := by
  induction sizes generalizing earlier with
  | nil => exact fun idle => idle
  | cons size rest ih =>
    refine obeys_request_bind trivial fun (bytes : Option Bytes) => ?_
    have drawn (idle : AllIdle earlier) : AllIdle (earlier ++ [⟨.entropy size, bytes⟩]) :=
      allIdle_concat idle trivial
    cases bytes with
    | none => exact drawn
    | some bytes =>
      refine obeys_bind ih ?_
      rintro events (none | others) idle
      · exact fun start => idle (drawn start)
      · exact fun start => idle (drawn start)

theorem issue_follows (request : DevicePairingIssueRequest) :
    Follows (fun _ _ => True) earlier (issue platform request) := by
  unfold issue
  split
  · trivial
  · refine obeys_bind (draw_follows _) ?_
    intro events drawn _
    split
    · split
      · trivial
      · refine obeys_request_bind trivial fun now => ?_
        dsimp only
        split
        · trivial
        · refine obeys_request_bind trivial fun (status : DevicePairingIssueStatus) => ?_
          split
          · trivial
          · trivial
    · trivial

theorem decide_follows (request : DevicePairingDecisionRequest) :
    Follows (fun _ _ => True) earlier (decide platform request) := by
  unfold decide
  split
  · trivial
  · cases parsed : parseAdministrativeRevision request.expectedResourceRevision
      request.pairingRequestId with
    | none => trivial
    | some expectedRevision =>
      refine obeys_request_bind trivial fun (bytes : Option Bytes) => ?_
      refine obeys_request_bind trivial fun now => ?_
      dsimp only
      split
      · trivial
      · split
        · trivial
        · exact ⟨parsed, fun _ => trivial⟩

theorem issueDeviceCredential_follows (idle : AllIdle earlier)
    (request : DevicePairingCredentialIssueRequest) :
    Follows (fun events result => result.status ≠ .issued → AllIdle events) earlier
      (issueDeviceCredential platform request) := by
  unfold issueDeviceCredential
  split
  · exact fun _ => idle
  · refine obeys_request_bind trivial fun found => ?_
    have looked : AllIdle (earlier ++ [⟨.find request.pairingRequestId, found⟩]) :=
      allIdle_concat idle trivial
    split
    · exact fun _ => looked
    · refine obeys_bind (draw_follows _) ?_
      intro events drawn kept
      have idle := kept looked
      split
      · unfold issueMaterial
        split
        · exact fun _ => idle
        · refine ⟨trivial, fun result withheld => ?_⟩
          exact allIdle_concat idle withheld
      · exact fun _ => idle

theorem poll_follows (request : DevicePairingPollRequest) :
    Follows (fun _ _ => True) earlier (poll platform request) := by
  unfold poll
  split
  · trivial
  · exact obeys_request_bind trivial fun _ => trivial

def Reports (events : List PairingEvent) : PairingResult → Prop
  | .issueDeviceCredential result => result.status ≠ .issued → AllIdle events
  | _ => True

theorem answerCall_follows (call : PairingCall) (idle : AllIdle earlier) :
    Follows Reports earlier (answerCall platform call) := by
  cases call with
  | issue request =>
    refine obeys_bind (issue_follows request) ?_
    exact fun _ _ _ => trivial
  | decide request =>
    refine obeys_bind (decide_follows request) ?_
    exact fun _ _ _ => trivial
  | issueDeviceCredential request =>
    refine obeys_bind (issueDeviceCredential_follows idle request) ?_
    exact fun _ _ withheld => withheld
  | poll request =>
    refine obeys_bind (poll_follows request) ?_
    exact fun _ _ _ => trivial

theorem serve_follows (call : PairingCall) : Follows (fun _ _ => True) [] (serve platform call) := by
  refine obeys_request_bind trivial fun entered => ?_
  have idle : AllIdle [(⟨.enter call, entered⟩ : PairingEvent)] := by
    intro event member
    cases List.mem_singleton.mp member
    trivial
  refine obeys_bind (answerCall_follows call idle) ?_
  intro events result reports
  refine ⟨?_, fun _ => trivial⟩
  cases result with
  | issueDeviceCredential result => exact reports
  | issue | decide | poll => trivial

/-! ## Runs -/

abbrev PairingSound (system : PairingSystem) : Prop :=
  Sound PairingRule (fun _ => True) (fun _ _ => True) system

theorem pairingDiscipline (platform : Platform) :
    Discipline (perform platform) Empty.elim PairingRule (fun _ _ _ => True) (fun _ _ => True)
      (fun _ => True) (fun _ _ => True) (fun _ _ => True) where
  empty := fun _ _ => trivial
  performed := fun _ _ _ _ _ _ _ _ => ⟨trivial, trivial, trivial⟩
  changed := fun change => change.elim
  stable := fun _ _ _ _ _ _ => trivial

theorem pairingStep_sound {system : PairingSystem} (sound : PairingSound system)
    (move : PairingMove) : PairingSound (pairingStep platform system move).1 := by
  refine (pairingDiscipline platform).step sound ?_
  cases move with
  | call entered => exact serve_follows entered
  | advance thread answers => exact fun _ _ _ _ => trivial

variable (platform) (identity : IdentityStore Timestamp)

def started : PairingSystem := { state := { identity := identity } }

def systemAfter (moves : List PairingMove) : PairingSystem :=
  Run.final (pairingStep platform) (started identity) moves

def storeAfter (moves : List PairingMove) : PairingStore := (systemAfter platform identity moves).state

def eventAfter (before : List PairingMove) (move : PairingMove) : Option PairingEvent :=
  (pairingStep platform (systemAfter platform identity before) move).2

variable {platform identity}

theorem systemAfter_concat (before : List PairingMove) (move : PairingMove) :
    systemAfter platform identity (before ++ [move]) =
      (pairingStep platform (systemAfter platform identity before) move).1 :=
  Run.final_concat (pairingStep platform) _ before move

theorem systemAfter_sound (moves : List PairingMove) :
    PairingSound (systemAfter platform identity moves) :=
  Run.final_preserves (pairingStep platform) PairingSound
    (fun _ move sound => pairingStep_sound sound move) (started identity)
    ⟨trivial, fun _ member => absurd member List.not_mem_nil,
      fun _ member => absurd member List.not_mem_nil⟩ moves

theorem toMove_advance {move : PairingMove} {thread : Nat} {answers : PairingAnswers}
    (advanced : move.toMove platform = .advance thread answers) : move = .advance thread answers := by
  cases move with
  | call entered => cases advanced
  | advance other otherAnswers =>
    cases advanced
    rfl

theorem eventAfter_cases {before : List PairingMove} {move : PairingMove} {event : PairingEvent}
    (happened : eventAfter platform identity before move = some event) :
    ∃ thread answers earlier next, move = .advance thread answers ∧
      (systemAfter platform identity before).processes[thread]? =
        some ⟨earlier, .perform event.1 next⟩ ∧
      PairingRule earlier event.1 ∧
      (perform platform answers event.1 (storeAfter platform identity before)).1 = event.2 ∧
      storeAfter platform identity (before ++ [move]) =
        (perform platform answers event.1 (storeAfter platform identity before)).2 ∧
      (systemAfter platform identity (before ++ [move])).processes[thread]? =
        some ⟨earlier ++ [event], next event.2⟩ := by
  obtain ⟨thread, answers, earlier, next, advanced, current, replied, stepped⟩ :=
    event_of_step (perform platform) Empty.elim happened
  have member := List.mem_of_getElem? current
  have obeys := (systemAfter_sound before).obeys _ member
  refine ⟨thread, answers, earlier, next, toMove_advance advanced, current, obeys.1, replied, ?_, ?_⟩
  · unfold storeAfter
    rw [systemAfter_concat]
    exact congrArg Interleaving.System.state stepped
  · rw [systemAfter_concat]
    have processes := congrArg Interleaving.System.processes stepped
    refine (congrArg (·[thread]?) processes).trans ?_
    exact List.getElem?_set_self (List.getElem?_eq_some_iff.mp current).1

theorem storeAfter_of_no_event {before : List PairingMove} {move : PairingMove}
    (none : eventAfter platform identity before move = none) :
    storeAfter platform identity (before ++ [move]) = storeAfter platform identity before := by
  unfold storeAfter
  rw [systemAfter_concat]
  rcases state_of_no_event (perform platform) Empty.elim none with same | ⟨change, -⟩
  · exact same
  · exact change.elim

/-- A move changes nothing, or is the step of a thread, which does one of what a step may do. -/
theorem step_cases (platform : Platform) (identity : IdentityStore Timestamp)
    (before : List PairingMove) (move : PairingMove) :
    (eventAfter platform identity before move = none ∧
      storeAfter platform identity (before ++ [move]) = storeAfter platform identity before) ∨
    ∃ thread answers event, move = .advance thread answers ∧
      eventAfter platform identity before move = some event ∧
      StoreMove platform answers event (storeAfter platform identity before)
        (storeAfter platform identity (before ++ [move])) := by
  cases happened : eventAfter platform identity before move with
  | none => exact .inl ⟨rfl, storeAfter_of_no_event happened⟩
  | some event =>
    obtain ⟨thread, answers, earlier, next, rfl, -, -, replied, stepped, -⟩ :=
      eventAfter_cases happened
    have moves := perform_moves platform answers event.1 (storeAfter platform identity before)
    rw [replied] at moves
    exact .inr ⟨thread, answers, event, rfl, rfl, stepped ▸ moves⟩

/-! ## What a run leaves -/

def ApprovedBefore (platform : Platform) (identity : IdentityStore Timestamp)
    (moves : List PairingMove) (row : StoredDevicePairingRequest) : Prop :=
  ∃ before approving after event request revision, moves = before ++ approving :: after ∧
    eventAfter platform identity before approving = some event ∧
    decisionOf event = some (request, revision) ∧
    request.pairingRequestId = row.pairingRequestId ∧ request.state = .approved ∧
    row.revision = revision + 1

variable (platform identity) in
/-- Requests only move on, and by nothing but a decision at the revision shown or the creation of a
credential; each is decided once and gives one credential, after its approval and in the transaction
that found it approved, unexpired and its token right; nothing else touches an identity, and a call
for a credential that ends without one has changed nothing at all. -/
structure DevicePairings (moves : List PairingMove) : Prop where
  moved : ∀ before move after pairingRequestId row, moves = before ++ move :: after →
    (storeAfter platform identity before).request pairingRequestId = some row →
    ∃ next, (storeAfter platform identity (before ++ [move])).request pairingRequestId = some next ∧
      (next = row ∨ ∃ thread answers event, move = .advance thread answers ∧
        eventAfter platform identity before move = some event ∧
        RequestMove platform answers event row next ∧
        next.state.stage = row.state.stage + 1 ∧ next.revision = row.revision + 1)
  fresh : ∀ before move after pairingRequestId row, moves = before ++ move :: after →
    (storeAfter platform identity before).request pairingRequestId = none →
    (storeAfter platform identity (before ++ [move])).request pairingRequestId = some row →
    row.state = .pending ∧ row.revision = 1
  decided : ∀ before move after event request revision, moves = before ++ move :: after →
    eventAfter platform identity before move = some event →
    decisionOf event = some (request, revision) →
    parseAdministrativeRevision request.expectedResourceRevision request.pairingRequestId =
      some revision ∧
    ∃ thread answers row next, move = .advance thread answers ∧
      (storeAfter platform identity before).request request.pairingRequestId = some row ∧
      row.revision = revision ∧ RequestMove platform answers event row next ∧
      next.state = request.state ∧
      (storeAfter platform identity (before ++ [move])).request request.pairingRequestId = some next
  decidedOnce : ∀ before first middle second after event other decision later,
    moves = before ++ first :: middle ++ second :: after →
    eventAfter platform identity before first = some event →
    eventAfter platform identity (before ++ first :: middle) second = some other →
    decisionOf event = some decision → decisionOf other = some later →
    decision.1.pairingRequestId ≠ later.1.pairingRequestId
  issued : ∀ before move after event request material, moves = before ++ move :: after →
    eventAfter platform identity before move = some event →
    issuanceOf event = some (request, material) →
    ∃ thread answers row, move = .advance thread answers ∧
      (storeAfter platform identity before).request request.pairingRequestId = some row ∧
      RequestMove platform answers event row (consumed row) ∧
      (storeAfter platform identity (before ++ [move])).request request.pairingRequestId =
        some (consumed row) ∧
      ApprovedBefore platform identity before row ∧
      ∃ events, (storeAfter platform identity (before ++ [move])).identity =
        { withDevice row.displayName material (storeAfter platform identity before).identity with
          events := events }
  issuedOnce : ∀ before first middle second after event other issuance later,
    moves = before ++ first :: middle ++ second :: after →
    eventAfter platform identity before first = some event →
    eventAfter platform identity (before ++ first :: middle) second = some other →
    issuanceOf event = some issuance → issuanceOf other = some later →
    issuance.1.pairingRequestId ≠ later.1.pairingRequestId
  identities : ∀ before move after, moves = before ++ move :: after →
    (eventAfter platform identity before move).bind issuanceOf = none →
    ∃ events, (storeAfter platform identity (before ++ [move])).identity =
      { (storeAfter platform identity before).identity with events := events }
  withheld : ∀ before thread answers after result, moves = before ++ .advance thread answers :: after →
    eventAfter platform identity before (.advance thread answers) =
      some ⟨.leave (.issueDeviceCredential result), ()⟩ → result.status ≠ .issued →
    ∀ earlier own rest, before = earlier ++ .advance thread own :: rest →
      storeAfter platform identity (earlier ++ [.advance thread own]) =
        storeAfter platform identity earlier

theorem decision_cases {platform : Platform} {answers : PairingAnswers} {event : PairingEvent}
    {before after : PairingStore} (moves : StoreMove platform answers event before after)
    {request : DevicePairingDecisionRequest} {revision : Nat}
    (records : decisionOf event = some (request, revision)) :
    ∃ row next, before.request request.pairingRequestId = some row ∧ row.revision = revision ∧
      RequestMove platform answers event row next ∧ next.state = request.state ∧
      after.request request.pairingRequestId = some next := by
  cases moves with
  | kept undecided | registered undecided | issued _ _ _ undecided =>
    rw [undecided] at records
    cases records
  | decided other row next recorded unissued found moved state requests =>
    rw [recorded] at records
    cases records
    exact ⟨row, next, found, rfl, moved, state, (request_moved found moved requests _).trans
      (if_pos rfl)⟩

theorem issuance_cases {platform : Platform} {answers : PairingAnswers} {event : PairingEvent}
    {before after : PairingStore} (moves : StoreMove platform answers event before after)
    {request : DevicePairingCredentialIssueRequest} {material : CredentialMaterial}
    (creates : issuanceOf event = some (request, material)) :
    ∃ row, before.request request.pairingRequestId = some row ∧
      RequestMove platform answers event row (consumed row) ∧
      after.request request.pairingRequestId = some (consumed row) ∧
      ∃ events, after.identity =
        { withDevice row.displayName material before.identity with events := events } := by
  cases moves with
  | kept undecided unissued | registered undecided unissued | decided _ _ _ _ unissued =>
    rw [unissued] at creates
    cases creates
  | issued other made row undecided created found moved requests identity =>
    rw [created] at creates
    cases creates
    exact ⟨row, found, moved, (request_moved found moved requests _).trans (if_pos rfl), identity⟩

theorem identity_of_move {platform : Platform} {answers : PairingAnswers} {event : PairingEvent}
    {before after : PairingStore} (moves : StoreMove platform answers event before after)
    (none : issuanceOf event = none) :
    ∃ events, after.identity = { before.identity with events := events } := by
  cases moves with
  | kept undecided unissued requests identity => exact identity
  | registered undecided unissued registration createdAt fresh requests identity => exact identity
  | decided request row next records unissued found moved state requests identity => exact identity
  | issued request material row undecided creates =>
    rw [none] at creates
    cases creates

theorem stage_le (before more : List PairingMove) {pairingRequestId : Bytes}
    {row : StoredDevicePairingRequest}
    (found : (storeAfter platform identity before).request pairingRequestId = some row) :
    ∃ later, (storeAfter platform identity (before ++ more)).request pairingRequestId = some later ∧
      row.state.stage ≤ later.state.stage := by
  induction more using List.reverseRecOn with
  | nil => exact ⟨row, by rw [List.append_nil]; exact found, le_refl _⟩
  | append_singleton more move ih =>
    obtain ⟨later, present, further⟩ := ih
    rw [← List.append_assoc]
    rcases step_cases platform identity (before ++ more) move with
      ⟨-, same⟩ | ⟨thread, answers, event, -, -, moves⟩
    · exact ⟨later, same ▸ present, further⟩
    · obtain ⟨next, nextPresent, rfl | moved⟩ := moves.request present
      · exact ⟨next, nextPresent, further⟩
      · exact ⟨next, nextPresent, further.trans (moved.advances.1 ▸ Nat.le_succ _)⟩

theorem approvedBefore_of_approved (moves : List PairingMove) {pairingRequestId : Bytes}
    {row : StoredDevicePairingRequest}
    (found : (storeAfter platform identity moves).request pairingRequestId = some row)
    (approved : row.state = .approved) : ApprovedBefore platform identity moves row := by
  induction moves using List.reverseRecOn generalizing row with
  | nil => cases found
  | append_singleton moves move ih =>
    have extend (earlier : ApprovedBefore platform identity moves row) :
        ApprovedBefore platform identity (moves ++ [move]) row := by
      obtain ⟨before, approving, after, event, request, revision, rfl, rest⟩ := earlier
      refine ⟨before, approving, after ++ [move], event, request, revision, ?_, rest⟩
      rw [List.append_assoc, List.cons_append]
    rcases step_cases platform identity moves move with
      ⟨-, same⟩ | ⟨thread, answers, event, -, happened, stepped⟩
    · exact extend (ih (same ▸ found) approved)
    · cases present : (storeAfter platform identity moves).request pairingRequestId with
      | none =>
        obtain ⟨registration, createdAt, rfl⟩ := stepped.fresh present found
        cases approved
      | some earlier =>
        obtain ⟨next, nextFound, moved⟩ := stepped.request present
        cases Option.some.inj (nextFound.symm.trans found)
        rcases moved with rfl | moved
        · exact extend (ih present approved)
        · cases moved with
          | decided request records names pending valid unexpired =>
            exact ⟨moves, move, [], event, request, earlier.revision, rfl, happened, records,
              names, approved, rfl⟩
          | consumed => cases approved

/-! ## Calls that end without a credential -/

theorem perform_idle {answers : PairingAnswers} {effect : PairingEffect} {store : PairingStore}
    (idle : Idle ⟨effect, (perform platform answers effect store).1⟩) :
    (perform platform answers effect store).2 = store := by
  cases effect with
  | enter | leave | entropy | now | find => rfl
  | register registration event => exact idle.elim
  | recordDecision request expectedRevision eventId occurredAt => exact idle.elim
  | createCredential request material =>
    rcases createCredential_cases platform ⟨answers.entropy, answers.now⟩ answers.statement request
      material store with ⟨-, same⟩ | ⟨issued, -⟩
    · exact same
    · exact absurd issued idle

theorem storeAfter_of_allIdle {earlier rest : List PairingMove} {thread : Nat}
    {own : PairingAnswers} {process : Process PairingEffect PairingReply Unit}
    (found : (systemAfter platform identity (earlier ++ .advance thread own :: rest)).processes[thread]? =
      some process) (idle : AllIdle process.earlier) :
    storeAfter platform identity (earlier ++ [.advance thread own]) =
      storeAfter platform identity earlier := by
  cases happened : eventAfter platform identity earlier (.advance thread own) with
  | none => exact storeAfter_of_no_event happened
  | some event =>
    obtain ⟨_, answers, events, next, same, -, -, replied, stepped, current⟩ :=
      eventAfter_cases happened
    cases same
    -- the event is still among those of the thread when it leaves
    obtain ⟨later, laterFound, kept⟩ := final_keeps (perform platform) Empty.elim
      (PairingMove.toMove platform) rest current
    have whole : systemAfter platform identity (earlier ++ .advance thread own :: rest) =
        Run.final (pairingStep platform)
          (systemAfter platform identity (earlier ++ [.advance thread own])) rest := by
      unfold systemAfter
      rw [← Run.final_append, List.append_assoc, List.singleton_append]
    rw [whole] at found
    cases Option.some.inj (laterFound.symm.trans found)
    have idleEvent : Idle event := idle event (kept (List.mem_append_right _ List.mem_cons_self))
    have performed : (⟨event.1, (perform platform own event.1
        (storeAfter platform identity earlier)).1⟩ : PairingEvent) = event := by
      rw [replied]
    rw [stepped]
    exact perform_idle (performed ▸ idleEvent)

/-! ## Every run -/

theorem step_of_event {before : List PairingMove} {move : PairingMove} {event : PairingEvent}
    (happened : eventAfter platform identity before move = some event) :
    ∃ thread answers, move = .advance thread answers ∧
      StoreMove platform answers event (storeAfter platform identity before)
        (storeAfter platform identity (before ++ [move])) := by
  rcases step_cases platform identity before move with
    ⟨none, -⟩ | ⟨thread, answers, other, advanced, same, moves⟩
  · rw [none] at happened
    cases happened
  · cases Option.some.inj (same.symm.trans happened)
    exact ⟨thread, answers, advanced, moves⟩

/-- A request that has moved on to a stage is there at the next event, at that stage or beyond. -/
theorem stage_le_of_split {before middle : List PairingMove} {first : PairingMove}
    {pairingRequestId : Bytes} {row later : StoredDevicePairingRequest}
    (found : (storeAfter platform identity (before ++ [first])).request pairingRequestId = some row)
    (laterFound : (storeAfter platform identity (before ++ first :: middle)).request
      pairingRequestId = some later) : row.state.stage ≤ later.state.stage := by
  obtain ⟨other, otherFound, further⟩ := stage_le (before ++ [first]) middle found
  rw [List.append_assoc, List.singleton_append] at otherFound
  cases Option.some.inj (otherFound.symm.trans laterFound)
  exact further

theorem decisionOf_eq_some {event : PairingEvent} {request : DevicePairingDecisionRequest}
    {revision : Nat} (records : decisionOf event = some (request, revision)) :
    ∃ eventId occurredAt reply, event = ⟨.recordDecision request revision eventId occurredAt, reply⟩ := by
  unfold decisionOf at records
  split at records
  · next other expected eventId occurredAt result =>
    dsimp only at records
    split at records
    · cases records
      exact ⟨eventId, occurredAt, result, rfl⟩
    · cases records
  · cases records

theorem approved_of_issuance {answers : PairingAnswers} {event : PairingEvent}
    {row next : StoredDevicePairingRequest} (moved : RequestMove platform answers event row next)
    {issuance : DevicePairingCredentialIssueRequest × CredentialMaterial}
    (creates : issuanceOf event = some issuance) : row.state = .approved := by
  cases moved with
  | decided request records =>
    obtain ⟨eventId, occurredAt, reply, rfl⟩ := decisionOf_eq_some records
    cases creates
  | consumed request material created names approved => exact approved

theorem pending_of_decision {answers : PairingAnswers} {event : PairingEvent}
    {row next : StoredDevicePairingRequest} (moved : RequestMove platform answers event row next)
    {decision : DevicePairingDecisionRequest × Nat} (records : decisionOf event = some decision) :
    row.state = .pending := by
  cases moved with
  | decided request recorded names pending => exact pending
  | consumed request material creates =>
    obtain ⟨eventId, occurredAt, reply, rfl⟩ := decisionOf_eq_some records
    cases creates

theorem devicePairings (platform : Platform) (identity : IdentityStore Timestamp)
    (moves : List PairingMove) : DevicePairings platform identity moves where
  moved := by
    rintro before move after pairingRequestId row - found
    rcases step_cases platform identity before move with
      ⟨-, same⟩ | ⟨thread, answers, event, advanced, happened, stepped⟩
    · exact ⟨row, same ▸ found, .inl rfl⟩
    · obtain ⟨next, nextFound, same | moved⟩ := stepped.request found
      · exact ⟨next, nextFound, .inl same⟩
      · exact ⟨next, nextFound, .inr ⟨thread, answers, event, advanced, happened, moved,
          moved.advances.1, moved.advances.2⟩⟩
  fresh := by
    rintro before move after pairingRequestId row - absent found
    rcases step_cases platform identity before move with
      ⟨-, same⟩ | ⟨thread, answers, event, -, -, stepped⟩
    · rw [same, absent] at found
      cases found
    · obtain ⟨registration, createdAt, rfl⟩ := stepped.fresh absent found
      exact ⟨rfl, rfl⟩
  decided := by
    rintro before move after event request revision - happened records
    obtain ⟨_, _, earlier, _, -, -, rule, -⟩ := eventAfter_cases happened
    obtain ⟨thread, answers, advanced, stepped⟩ := step_of_event happened
    obtain ⟨row, next, found, current, moved, state, nextFound⟩ := decision_cases stepped records
    obtain ⟨eventId, occurredAt, reply, rfl⟩ := decisionOf_eq_some records
    exact ⟨rule, thread, answers, row, next, advanced, found, current, moved, state, nextFound⟩
  decidedOnce := by
    rintro before first middle second after event other decision later - happened laterHappened
      records laterRecords same
    obtain ⟨_, _, -, stepped⟩ := step_of_event happened
    obtain ⟨row, next, found, -, moved, -, nextFound⟩ := decision_cases stepped records
    obtain ⟨_, _, -, laterStepped⟩ := step_of_event laterHappened
    obtain ⟨laterRow, _, laterFound, -, laterMoved, -⟩ := decision_cases laterStepped laterRecords
    -- the request was pending before the first decision, is decided after it, and stays so
    have decided := stage_le_of_split nextFound (same ▸ laterFound)
    have pending := pending_of_decision laterMoved laterRecords
    rw [moved.advances.1, pending] at decided
    exact Nat.not_succ_le_zero _ decided
  issued := by
    rintro before move after event request material - happened creates
    obtain ⟨thread, answers, advanced, stepped⟩ := step_of_event happened
    obtain ⟨row, found, moved, nextFound, created⟩ := issuance_cases stepped creates
    exact ⟨thread, answers, row, advanced, found, moved, nextFound,
      approvedBefore_of_approved before found (approved_of_issuance moved creates), created⟩
  issuedOnce := by
    rintro before first middle second after event other issuance later - happened laterHappened
      creates laterCreates same
    obtain ⟨_, _, -, stepped⟩ := step_of_event happened
    obtain ⟨row, found, moved, nextFound, -⟩ := issuance_cases stepped creates
    obtain ⟨_, _, -, laterStepped⟩ := step_of_event laterHappened
    obtain ⟨laterRow, laterFound, laterMoved, -⟩ := issuance_cases laterStepped laterCreates
    -- the request is consumed after the first creation, and the second has found it approved
    have consumed := stage_le_of_split nextFound (same ▸ laterFound)
    have approved := approved_of_issuance laterMoved laterCreates
    rw [approved] at consumed
    exact Nat.not_succ_le_self 1 consumed
  identities := by
    rintro before move after - none
    rcases step_cases platform identity before move with
      ⟨-, same⟩ | ⟨thread, answers, event, -, happened, stepped⟩
    · rw [same]
      exact ⟨_, rfl⟩
    · rw [happened] at none
      exact identity_of_move stepped none
  withheld := by
    rintro before thread answers after result - left withheld earlier own rest rfl
    obtain ⟨_, _, events, next, same, current, rule, -⟩ := eventAfter_cases left
    cases same
    exact storeAfter_of_allIdle current (rule withheld)

end VdrSuite.Security.DevicePairing
