import VdrSuite.Hbbtv.ApplicationSession

/-! What the interleaved calls keep of a session, and when an ended session stays ended. -/

set_option autoImplicit false

namespace VdrSuite.Hbbtv

open Library Library.Interleaving

abbrev SessionEvent : Type := Event SessionReply

/-! ## The rule that every call follows -/

def ended : BroadcastApplicationSessionState → Bool
  | .closed | .expired => true
  | _ => false

def identity (session : BroadcastApplicationSession) : BroadcastApplicationSession :=
  { session with state := .requested, closeReason := [] }

def copied : SessionEvent → Option BroadcastApplicationSession
  | ⟨.find _, found⟩ => found
  | ⟨.emplace session, emplaced⟩ => cond emplaced (some session) none
  | _ => none

def lookedUp (earlier : List SessionEvent) : Option BroadcastApplicationSession :=
  earlier.findSome? copied

/-- How the end of a session has been reported last: the clock has passed its expiry, or the runtime
holds it closed. -/
def toldBy (base : BroadcastApplicationSession) :
    Option SessionEvent → Option BroadcastApplicationSessionState
  | some ⟨.now, reply⟩ =>
    let time : Int := reply
    if base.expiresAt ≤ time then some .expired else none
  | some ⟨.control request, reply⟩ =>
    let resolution : SuiteBridgeHbbtvRuntimeResolution := reply
    if resolution.payloadValid = true ∧ resolution.resultCode = 6 ∧
        (request.operation = .close ∨ request.operation = .status ∧ base.state = .closing) then
      some .closed
    else none
  | _ => none

def told (earlier : List SessionEvent) : Option BroadcastApplicationSessionState :=
  (lookedUp earlier).bind fun base => toldBy base earlier.getLast?

/-- A copy is stored with another state at most, and as ended only when that is what was told. -/
def StoreRule (earlier : List SessionEvent) (session : BroadcastApplicationSession) : Prop :=
  ∃ base, lookedUp earlier = some base ∧ identity session = identity base ∧
    ∀ state, ended state = true → (session.state = state ↔ told earlier = some state)

def launchedBy : SessionEvent → Option Bytes
  | ⟨.control request, _⟩ => if request.operation = .launch then some request.sessionId else none
  | _ => none

def LaunchRule (earlier : List SessionEvent) (sessionId : Bytes) : Prop :=
  (∃ session : BroadcastApplicationSession, ⟨.emplace session, true⟩ ∈ earlier ∧
    session.broadcastApplicationSessionId = sessionId) ∧
  ∀ event ∈ earlier, launchedBy event = none

/-- Input follows the lookup of an active session of the caller, and a later look at the clock. -/
def InputRule (earlier : List SessionEvent) (sessionId : Bytes) : Prop :=
  ∃ (named actorId clientContext : Bytes) (action : SuiteBridgeHbbtvInputAction)
    (session : BroadcastApplicationSession) (time : Int),
    List.Sublist [⟨.enter (.input named actorId clientContext action), ()⟩,
      ⟨.find named, some session⟩, ⟨.now, time⟩] earlier ∧
    session.broadcastApplicationSessionId = sessionId ∧ session.state = .active ∧
    time < session.expiresAt ∧ session.actorId = actorId ∧ session.clientContext = clientContext

def SessionRule (earlier : List SessionEvent) : SessionEffect → Prop
  | .store session => StoreRule earlier session
  | .control request =>
    (request.operation = .launch → LaunchRule earlier request.sessionId) ∧
    (request.operation = .input → InputRule earlier request.sessionId)
  | _ => True

abbrev Follows {Result : Type} (earlier : List SessionEvent) (program : Serving Result) : Prop :=
  Obeys SessionRule (fun _ _ => True) earlier program

/-! ## Every call follows it -/

variable {earlier : List SessionEvent} {base session : BroadcastApplicationSession}

theorem lookedUp_append (looked : lookedUp earlier = some base) (later : List SessionEvent) :
    lookedUp (earlier ++ later) = some base := by
  unfold lookedUp at looked ⊢
  rw [List.findSome?_append, looked]
  rfl

theorem told_concat (looked : lookedUp earlier = some base) (event : SessionEvent) :
    told (earlier ++ [event]) = toldBy base (some event) := by
  rw [told, lookedUp_append looked, List.getLast?_concat]
  rfl

theorem storeFailing_follows (rule : StoreRule earlier session) (error : Bytes) :
    Follows earlier (storeFailing session error) :=
  ⟨rule, fun _ => trivial⟩

theorem storeAccepting_follows (rule : StoreRule earlier session) :
    Follows earlier (storeAccepting session) :=
  ⟨rule, fun _ => trivial⟩

theorem storeRule_open (looked : lookedUp earlier = some base) (event : SessionEvent)
    (notEnded : ended session.state = false) (untold : toldBy base (some event) = none)
    (same : identity session = identity base) : StoreRule (earlier ++ [event]) session := by
  refine ⟨base, lookedUp_append looked _, same, fun state isEnd => ?_⟩
  rw [told_concat looked, untold]
  constructor
  · rintro rfl
    rw [notEnded] at isEnd
    cases isEnd
  · exact nofun

theorem storeRule_ended (looked : lookedUp earlier = some base) (event : SessionEvent)
    (isTold : toldBy base (some event) = some session.state)
    (same : identity session = identity base) : StoreRule (earlier ++ [event]) session := by
  refine ⟨base, lookedUp_append looked _, same, fun state _ => ?_⟩
  rw [told_concat looked, isTold, Option.some_inj]

theorem lookedUp_find (fresh : lookedUp earlier = none) (sessionId : Bytes) :
    lookedUp (earlier ++ [⟨.find sessionId, some base⟩]) = some base := by
  unfold lookedUp at fresh ⊢
  rw [List.findSome?_append, fresh]
  rfl

theorem lookedUp_emplace (fresh : lookedUp earlier = none) :
    lookedUp (earlier ++ [⟨.emplace base, true⟩]) = some base := by
  unfold lookedUp at fresh ⊢
  rw [List.findSome?_append, fresh]
  rfl

theorem lookedUp_concat_none (fresh : lookedUp earlier = none) {event : SessionEvent}
    (notCopied : copied event = none) : lookedUp (earlier ++ [event]) = none := by
  unfold lookedUp at fresh ⊢
  rw [List.findSome?_append, fresh]
  simp [notCopied]

theorem toldBy_control (request : SuiteBridgeHbbtvRuntimeRequest)
    (resolution : SuiteBridgeHbbtvRuntimeResolution) :
    toldBy base (some ⟨.control request, resolution⟩) =
      if resolution.payloadValid = true ∧ resolution.resultCode = 6 ∧
          (request.operation = .close ∨ request.operation = .status ∧ base.state = .closing) then
        some .closed
      else none := rfl

theorem control_follows {request : SuiteBridgeHbbtvRuntimeRequest}
    {rest : SuiteBridgeHbbtvRuntimeResolution → Serving BroadcastApplicationSessionResult}
    (notLaunch : request.operation ≠ .launch) (notInput : request.operation ≠ .input)
    (further : ∀ resolution : SuiteBridgeHbbtvRuntimeResolution,
      Follows (earlier ++ [⟨.control request, resolution⟩]) (rest resolution)) :
    Follows earlier (Serving.control request >>= rest) :=
  obeys_request_bind ⟨fun launches => absurd launches notLaunch, fun inputs => absurd inputs notInput⟩
    further

theorem expireSession_follows (looked : lookedUp earlier = some base) {now : Int}
    (passed : base.expiresAt ≤ now) :
    Follows (earlier ++ [⟨.now, now⟩]) (expireSession base) := by
  apply storeFailing_follows
  refine storeRule_ended looked _ ?_ rfl
  change ite _ _ _ = _
  rw [if_pos passed]

theorem staleState_cases (closeResult : SuiteBridgeHbbtvRuntimeResolution) :
    (closeResult.payloadValid = true ∧ closeResult.resultCode = 6 ∧
      staleState closeResult = .closed) ∨
    (¬ (closeResult.payloadValid = true ∧ closeResult.resultCode = 6) ∧
      ended (staleState closeResult) = false) := by
  unfold staleState
  split
  · next closed => exact .inl ⟨closed.1, closed.2, rfl⟩
  · next notClosed =>
    refine .inr ⟨notClosed, ?_⟩
    split
    · rfl
    · rfl

theorem closeStaleSession_follows (looked : lookedUp earlier = some base) (error reason : Bytes) :
    Follows earlier (closeStaleSession base error reason) := by
  refine obeys_request_bind trivial fun runtime => ?_
  split
  · apply storeFailing_follows
    exact storeRule_open looked _ rfl rfl rfl
  · refine control_follows (by rintro ⟨⟩) (by rintro ⟨⟩) fun closeResult => ?_
    apply storeFailing_follows
    have looked := lookedUp_append looked
      [⟨.runtimeFor base.backendId, runtime⟩]
    rcases staleState_cases closeResult with ⟨valid, code, closed⟩ | ⟨other, notEnded⟩
    · refine storeRule_ended looked _ ?_ rfl
      rw [toldBy_control, if_pos ⟨valid, code, .inl rfl⟩]
      exact congrArg some closed.symm
    · refine storeRule_open looked _ notEnded ?_ rfl
      rw [toldBy_control, if_neg fun both => other ⟨both.1, both.2.1⟩]

theorem ended_applyRuntimeState {state : BroadcastApplicationSessionState}
    (notEnded : ended state = false) (stateCode : Nat) :
    ended (applyRuntimeState state stateCode) = false := by
  unfold applyRuntimeState
  split
  · rfl
  · rfl
  · rfl
  · rfl
  · exact notEnded

theorem launchSession_follows (looked : lookedUp earlier = some base)
    (requested : ended base.state = false) (emplaced : ⟨.emplace base, true⟩ ∈ earlier)
    (first : ∀ event ∈ earlier, launchedBy event = none) : Follows earlier (launchSession base) := by
  refine obeys_request_bind trivial fun runtime => ?_
  split
  · apply storeFailing_follows
    exact storeRule_open looked _ rfl rfl rfl
  · refine obeys_request_bind ⟨fun _ => ⟨⟨base, ?_, rfl⟩, ?_⟩, nofun⟩ ?_
    · exact List.mem_append_left _ emplaced
    · intro event member
      rcases List.mem_append.mp member with old | last
      · exact first event old
      · cases List.mem_singleton.mp last
        rfl
    intro (runtimeResult : SuiteBridgeHbbtvRuntimeResolution)
    have looked := lookedUp_append looked [⟨.runtimeFor base.backendId, runtime⟩]
    have untold : toldBy base (some ⟨.control (runtimeRequest base .launch), runtimeResult⟩) = none := by
      rw [toldBy_control, if_neg]
      rintro ⟨-, -, close | ⟨status, -⟩⟩
      · cases close
      · cases status
    split
    · apply storeFailing_follows
      exact storeRule_open looked _ rfl untold rfl
    · split
      · apply storeFailing_follows
        exact storeRule_open looked _ rfl untold rfl
      · apply storeAccepting_follows
        exact storeRule_open looked _ (ended_applyRuntimeState requested _) untold rfl

theorem applicationCurrent_follows {application : BroadcastApplicationRef}
    {rest : Bool → Serving BroadcastApplicationSessionResult}
    (further : ∀ snapshot current, Follows
      (earlier ++ [⟨.discoverApplications application.backendId application.channelId, snapshot⟩])
      (rest current)) : Follows earlier (applicationCurrent application >>= rest) :=
  ⟨trivial, fun snapshot => further snapshot _⟩

theorem launch_follows (fresh : lookedUp earlier = none)
    (first : ∀ event ∈ earlier, launchedBy event = none) (request : BroadcastApplicationLaunchRequest) :
    Follows earlier (launch request) := by
  unfold launch
  split
  · trivial
  · refine obeys_request_bind trivial fun createdAt => obeys_request_bind trivial fun authorized => ?_
    split
    · trivial
    · refine applicationCurrent_follows fun snapshot current => ?_
      split
      · trivial
      · refine obeys_request_bind trivial fun sessionId => ?_
        split
        · trivial
        · refine obeys_request_bind trivial fun (emplaced : Bool) => ?_
          split
          · trivial
          · next succeeded =>
            rw [Bool.not_eq_false] at succeeded
            subst succeeded
            refine launchSession_follows ?_ rfl ?_ ?_
            · apply lookedUp_emplace
              exact lookedUp_concat_none (lookedUp_concat_none (lookedUp_concat_none
                (lookedUp_concat_none fresh rfl) rfl) rfl) rfl
            · exact List.mem_append_right _ List.mem_cons_self
            · intro event member
              simp only [List.append_assoc, List.cons_append, List.nil_append, List.mem_append,
                List.mem_cons, List.not_mem_nil, or_false] at member
              rcases member with old | rfl | rfl | rfl | rfl | rfl
              · exact first event old
              all_goals rfl

theorem ownedSession_follows
    {sessionId actorId clientContext permission unauthorized : Bytes}
    {rest : BroadcastApplicationSession → Serving BroadcastApplicationSessionResult}
    (further : ∀ session authorized, owns session actorId clientContext = true →
      Follows (earlier ++ [⟨.find sessionId, some session⟩] ++
        [⟨.authorized permission session.actorId session.backendId, authorized⟩]) (rest session)) :
    Follows earlier (ownedSession sessionId actorId clientContext permission unauthorized rest) := by
  refine obeys_request_bind trivial fun (stored : Option BroadcastApplicationSession) => ?_
  cases stored with
  | none => trivial
  | some session =>
    change Follows _ (ite _ _ _)
    split
    · trivial
    · next owned =>
      rw [Bool.not_eq_false] at owned
      refine obeys_request_bind trivial fun authorized => ?_
      split
      · trivial
      · exact further session authorized owned

theorem refreshStatus_follows (looked : lookedUp earlier = some base)
    (notEnded : ended base.state = false) : Follows earlier (refreshStatus base) := by
  refine obeys_request_bind trivial fun runtime => ?_
  split
  · trivial
  · refine control_follows (by rintro ⟨⟩) (by rintro ⟨⟩) fun runtimeResult => ?_
    have looked := lookedUp_append looked [⟨.runtimeFor base.backendId, runtime⟩]
    have untold (other : ¬ (runtimeResult.resultCode = 6 ∧ base.state = .closing)) :
        toldBy base (some ⟨.control (runtimeRequest base .status), runtimeResult⟩) = none := by
      rw [toldBy_control, if_neg]
      rintro ⟨-, code, close | ⟨-, closing⟩⟩
      · cases close
      · exact other ⟨code, closing⟩
    split
    · trivial
    · next invalid =>
      split
      · next closed =>
        apply storeAccepting_follows
        refine storeRule_ended looked _ ?_ rfl
        rw [toldBy_control, if_pos ⟨by simpa using invalid, closed.1, .inr ⟨rfl, closed.2⟩⟩]
      · next notClosed =>
        split
        · apply storeFailing_follows
          exact storeRule_open looked _ rfl (untold notClosed) rfl
        · apply storeAccepting_follows
          exact storeRule_open looked _ (ended_applyRuntimeState notEnded _) (untold notClosed) rfl

theorem ended_of_not_terminal {state : BroadcastApplicationSessionState}
    (notTerminal : terminal state ≠ true) : ended state = false := by
  cases state
  case closed => exact absurd rfl notTerminal
  case expired => exact absurd rfl notTerminal
  all_goals rfl

theorem refresh_follows (fresh : lookedUp earlier = none) (sessionId actorId clientContext : Bytes) :
    Follows earlier (refresh sessionId actorId clientContext) := by
  refine ownedSession_follows fun session authorized _ => ?_
  have found : lookedUp (earlier ++ [⟨.find sessionId, some session⟩]) = some session :=
    lookedUp_find fresh sessionId
  have looked := lookedUp_append found
    [⟨.authorized (text "broadcast.session.manage_own") session.actorId session.backendId, authorized⟩]
  split
  · trivial
  · next notTerminal =>
    refine obeys_request_bind trivial fun (now : Int) => ?_
    have later := lookedUp_append looked [⟨.now, now⟩]
    split
    · next passed => exact expireSession_follows looked passed
    · split
      · exact refreshStatus_follows later (ended_of_not_terminal notTerminal)
      · refine applicationCurrent_follows fun snapshot current => ?_
        have later := lookedUp_append later
          [⟨.discoverApplications session.application.backendId session.application.channelId, snapshot⟩]
        split
        · exact closeStaleSession_follows later _ _
        · exact refreshStatus_follows later (ended_of_not_terminal notTerminal)

theorem authorizePresentation_follows (fresh : lookedUp earlier = none)
    (sessionId actorId clientContext : Bytes) :
    Follows earlier (authorizePresentation sessionId actorId clientContext) := by
  refine ownedSession_follows fun session authorized _ => ?_
  have found : lookedUp (earlier ++ [⟨.find sessionId, some session⟩]) = some session :=
    lookedUp_find fresh sessionId
  have looked := lookedUp_append found
    [⟨.authorized (text "broadcast.session.manage_own") session.actorId session.backendId, authorized⟩]
  refine obeys_request_bind trivial fun (now : Int) => ?_
  have later := lookedUp_append looked [⟨.now, now⟩]
  split
  · next passed => exact expireSession_follows looked passed
  · split
    · trivial
    · refine applicationCurrent_follows fun snapshot current => ?_
      split
      · exact closeStaleSession_follows (lookedUp_append later _) _ _
      · trivial

theorem input_follows (fresh : lookedUp earlier = none) {sessionId actorId clientContext : Bytes}
    {action : SuiteBridgeHbbtvInputAction}
    (entered : ⟨.enter (.input sessionId actorId clientContext action), ()⟩ ∈ earlier) :
    Follows earlier (input sessionId actorId clientContext action) := by
  refine ownedSession_follows fun session authorized owned => ?_
  have found : lookedUp (earlier ++ [⟨.find sessionId, some session⟩]) = some session :=
    lookedUp_find fresh sessionId
  have looked := lookedUp_append found
    [⟨.authorized (text "broadcast.hbbtv.input") session.actorId session.backendId, authorized⟩]
  refine obeys_request_bind trivial fun (now : Int) => ?_
  have later := lookedUp_append looked [⟨.now, now⟩]
  split
  · next passed => exact expireSession_follows looked passed
  · next unexpired =>
    split
    · trivial
    · next active =>
      split
      · trivial
      · refine applicationCurrent_follows fun snapshot current => ?_
        have later := lookedUp_append later
          [⟨.discoverApplications session.application.backendId session.application.channelId, snapshot⟩]
        split
        · exact closeStaleSession_follows later _ _
        · refine obeys_request_bind trivial fun runtime => ?_
          have later := lookedUp_append later [⟨.runtimeFor session.backendId, runtime⟩]
          split
          · trivial
          · refine obeys_request_bind ⟨by rintro ⟨⟩, fun _ => ?_⟩ ?_
            · simp only [owns, Bool.and_eq_true, beq_iff_eq] at owned
              rw [not_ne_iff] at active
              refine ⟨sessionId, actorId, clientContext, action, session, now, ?_, rfl, active,
                not_le.mp unexpired, owned.1, owned.2⟩
              have order := (List.singleton_sublist.mpr entered).append
                (List.Sublist.refl [(⟨.find sessionId, some session⟩ : SessionEvent)])
              exact ((((order.trans (List.sublist_append_left _ _)).append (List.Sublist.refl
                [⟨.now, now⟩])).trans (List.sublist_append_left _ _)).trans
                  (List.sublist_append_left _ _))
            · intro (runtimeResult : SuiteBridgeHbbtvRuntimeResolution)
              split
              · trivial
              · split
                · exact closeStaleSession_follows (lookedUp_append later _) _ _
                · split
                  · trivial
                  · apply storeAccepting_follows
                    refine storeRule_open later _ rfl ?_ rfl
                    rw [toldBy_control, if_neg]
                    rintro ⟨-, -, close | ⟨status, -⟩⟩
                    · cases close
                    · cases status

theorem close_follows (fresh : lookedUp earlier = none)
    (sessionId actorId clientContext reason : Bytes) :
    Follows earlier (close sessionId actorId clientContext reason) := by
  refine ownedSession_follows fun session authorized _ => ?_
  have found : lookedUp (earlier ++ [⟨.find sessionId, some session⟩]) = some session :=
    lookedUp_find fresh sessionId
  have looked := lookedUp_append found
    [⟨.authorized (text "broadcast.session.manage_own") session.actorId session.backendId, authorized⟩]
  split
  · trivial
  · split
    · trivial
    · refine obeys_request_bind trivial fun runtime => ?_
      have later := lookedUp_append looked [⟨.runtimeFor session.backendId, runtime⟩]
      split
      · trivial
      · refine control_follows (by rintro ⟨⟩) (by rintro ⟨⟩) fun runtimeResult => ?_
        split
        · trivial
        · next valid =>
          split
          · next code =>
            apply storeAccepting_follows
            refine storeRule_ended later _ ?_ rfl
            rw [toldBy_control, if_pos ⟨by simpa using valid, code, .inl rfl⟩]
          · next notClosed =>
            split
            · trivial
            · apply storeAccepting_follows
              refine storeRule_open later _ rfl ?_ rfl
              rw [toldBy_control, if_neg fun all => notClosed all.2.1]

theorem serve_follows (call : SessionCall) : Follows [] (serve call) := by
  refine obeys_request_bind trivial fun _ => ?_
  cases call with
  | launch request =>
    refine launch_follows rfl ?_ request
    intro event member
    cases List.mem_singleton.mp member
    rfl
  | refresh sessionId actorId clientContext => exact refresh_follows rfl _ _ _
  | authorizePresentation sessionId actorId clientContext =>
    exact authorizePresentation_follows rfl _ _ _
  | input sessionId actorId clientContext action => exact input_follows rfl List.mem_cons_self
  | close sessionId actorId clientContext reason => exact close_follows rfl _ _ _ _

/-! ## What a call knows of the stored sessions -/

/-- Every session stays, with what does not change during its life, and the clock does not go back. -/
structure Later (before after : SessionStore) : Prop where
  sessions : ∀ sessionId session, before.session sessionId = some session →
    ∃ current, after.session sessionId = some current ∧ identity current = identity session
  clock : before.clock ≤ after.clock

theorem Later.refl (store : SessionStore) : Later store store where
  sessions := fun _ session found => ⟨session, found, rfl⟩
  clock := Int.le_refl _

theorem Later.trans {first second third : SessionStore} (earlier : Later first second)
    (later : Later second third) : Later first third where
  sessions := by
    intro sessionId session found
    obtain ⟨middle, middleFound, middleSame⟩ := earlier.sessions sessionId session found
    obtain ⟨last, lastFound, lastSame⟩ := later.sessions sessionId middle middleFound
    exact ⟨last, lastFound, lastSame.trans middleSame⟩
  clock := Int.le_trans earlier.clock later.clock

def Kept (store : SessionStore) (session : BroadcastApplicationSession) : Prop :=
  ∃ current, store.session session.broadcastApplicationSessionId = some current ∧
    identity current = identity session

structure Knows (store : SessionStore) (earlier : List SessionEvent) : Prop where
  kept : ∀ event ∈ earlier, ∀ session, copied event = some session → Kept store session
  launched : ∀ event ∈ earlier, ∀ sessionId, launchedBy event = some sessionId →
    ∃ session : BroadcastApplicationSession, ⟨.emplace session, true⟩ ∈ earlier ∧
      session.broadcastApplicationSessionId = sessionId

theorem Knows.kept_base {store : SessionStore} (knows : Knows store earlier)
    (looked : lookedUp earlier = some base) : Kept store base := by
  obtain ⟨event, member, copy⟩ := List.exists_of_findSome?_eq_some looked
  exact knows.kept event member base copy

theorem identity_sessionId {left right : BroadcastApplicationSession}
    (same : identity left = identity right) :
    left.broadcastApplicationSessionId = right.broadcastApplicationSessionId := by
  have projected := congrArg BroadcastApplicationSession.broadcastApplicationSessionId same
  exact projected

theorem session_sessionId {store : SessionStore} {sessionId : Bytes}
    (found : store.session sessionId = some session) :
    session.broadcastApplicationSessionId = sessionId :=
  Table.key_of_lookup _ found

theorem perform_emplace_present (answers : Answers) {store : SessionStore}
    (present : (store.session session.broadcastApplicationSessionId).isSome = true) :
    perform answers (.emplace session) store = (false, store) :=
  if_pos present

theorem perform_emplace_absent (answers : Answers) {store : SessionStore}
    (absent : store.session session.broadcastApplicationSessionId = none) :
    perform answers (.emplace session) store =
      (true, { store with sessions := store.sessions ++ [session] }) :=
  if_neg (by rw [absent]; exact Bool.false_ne_true)

/-- What a step does to the sessions: nothing, or one session is emplaced under a new id, or one
session is stored. -/
theorem perform_cases (answers : Answers) (effect : SessionEffect) (store : SessionStore) :
    (perform answers effect store).2 = store ∨
    (∃ session, effect = .emplace session ∧
      store.session session.broadcastApplicationSessionId = none ∧
      (perform answers effect store).2 = { store with sessions := store.sessions ++ [session] }) ∨
    ∃ session, effect = .store session ∧
      (perform answers effect store).2 = { store with
        sessions := Table.upsert BroadcastApplicationSession.broadcastApplicationSessionId session
          store.sessions } := by
  cases effect
  case emplace session =>
    cases found : store.session session.broadcastApplicationSessionId with
    | none =>
      refine .inr (.inl ⟨session, rfl, found, ?_⟩)
      rw [perform_emplace_absent answers found]
    | some current =>
      refine .inl ?_
      rw [perform_emplace_present answers (by rw [found]; rfl)]
  case store session => exact .inr (.inr ⟨session, rfl, rfl⟩)
  all_goals exact .inl rfl

theorem session_emplaced {store : SessionStore} {sessionId : Bytes}
    (found : store.session sessionId = some session) (other : BroadcastApplicationSession) :
    ({ store with sessions := store.sessions ++ [other] } : SessionStore).session sessionId =
      some session := by
  unfold SessionStore.session at found ⊢
  rw [Table.lookup_append_new, found]
  rfl

theorem session_stored (store : SessionStore) (sessionId : Bytes) :
    ({ store with
        sessions := Table.upsert BroadcastApplicationSession.broadcastApplicationSessionId session
          store.sessions } : SessionStore).session sessionId =
      if session.broadcastApplicationSessionId = sessionId then some session
      else store.session sessionId :=
  Table.lookup_upsert _ _ _ _

theorem perform_later {store : SessionStore} (knows : Knows store earlier) {effect : SessionEffect}
    (rule : SessionRule earlier effect) (answers : Answers) :
    Later store (perform answers effect store).2 := by
  rcases perform_cases answers effect store with
    same | ⟨session, rfl, absent, next⟩ | ⟨session, rfl, next⟩
  · rw [same]
    exact Later.refl store
  · rw [next]
    exact ⟨fun sessionId current found => ⟨current, session_emplaced found session, rfl⟩,
      Int.le_refl _⟩
  · rw [next]
    refine ⟨fun sessionId current found => ?_, Int.le_refl _⟩
    rw [session_stored]
    split
    · next named =>
      obtain ⟨base, looked, same, -⟩ := rule
      obtain ⟨stored, storedFound, storedSame⟩ := knows.kept_base looked
      refine ⟨session, rfl, ?_⟩
      rw [← identity_sessionId same, named, found] at storedFound
      cases storedFound
      rw [same, storedSame]
    · exact ⟨current, found, rfl⟩

theorem perform_copied (answers : Answers) (effect : SessionEffect) (store : SessionStore)
    (copy : copied ⟨effect, (perform answers effect store).1⟩ = some session) :
    Kept (perform answers effect store).2 session := by
  cases effect
  case find sessionId =>
    have found : store.session sessionId = some session := copy
    refine ⟨session, ?_, rfl⟩
    rw [session_sessionId found]
    exact found
  case emplace other =>
    have value : cond (perform answers (.emplace other) store).1 (some other) none = some session :=
      copy
    cases found : store.session other.broadcastApplicationSessionId with
    | none =>
      rw [perform_emplace_absent answers found] at value ⊢
      cases value
      refine ⟨session, ?_, rfl⟩
      unfold SessionStore.session at found ⊢
      rw [Table.lookup_append_new, found]
      simp
    | some current =>
      rw [perform_emplace_present answers (by rw [found]; rfl)] at value
      cases value
  all_goals cases copy

theorem Knows.stable {before after : SessionStore} (later : Later before after)
    (knows : Knows before earlier) : Knows after earlier where
  kept := by
    intro event member session copy
    obtain ⟨current, found, same⟩ := knows.kept event member session copy
    obtain ⟨last, lastFound, lastSame⟩ := later.sessions _ current found
    exact ⟨last, lastFound, lastSame.trans same⟩
  launched := knows.launched

theorem launchedBy_eq_some {event : SessionEvent} {sessionId : Bytes}
    (launched : launchedBy event = some sessionId) :
    ∃ request reply, event = ⟨.control request, reply⟩ ∧ request.operation = .launch ∧
      request.sessionId = sessionId := by
  obtain ⟨effect, reply⟩ := event
  cases effect
  case control request =>
    have value : (if request.operation = .launch then some request.sessionId else none) =
        some sessionId := launched
    split at value
    · next launches => exact ⟨request, reply, rfl, launches, Option.some.inj value⟩
    · cases value
  all_goals cases launched

theorem sessionDiscipline :
    Discipline perform passTime SessionRule (fun _ _ _ => True) (fun _ _ => True) (fun _ => True)
      Later Knows where
  empty := fun _ _ => ⟨nofun, nofun⟩
  performed := by
    intro answers effect store earlier _ knows rule _
    have later := perform_later knows rule answers
    refine ⟨trivial, later, ?_, ?_⟩
    · intro event member session copy
      rcases List.mem_append.mp member with old | last
      · exact (knows.stable later).kept event old session copy
      · cases List.mem_singleton.mp last
        exact perform_copied answers effect store copy
    · intro event member sessionId launched
      have found : ∃ session : BroadcastApplicationSession, ⟨.emplace session, true⟩ ∈ earlier ∧
          session.broadcastApplicationSessionId = sessionId := by
        rcases List.mem_append.mp member with old | last
        · exact knows.launched event old sessionId launched
        · obtain ⟨request, reply, same, launches, named⟩ := launchedBy_eq_some launched
          cases (List.mem_singleton.mp last).symm.trans same
          exact named ▸ (rule.1 launches).1
      obtain ⟨session, emplaced, named⟩ := found
      exact ⟨session, List.mem_append_left _ emplaced, named⟩
  changed := fun seconds store _ _ =>
    ⟨trivial, fun _ session found => ⟨session, found, rfl⟩, by simp [passTime]⟩
  stable := fun _ _ _ _ later knows => knows.stable later

/-! ## Runs -/

variable {clock : Int} {moves : List SessionMove}

abbrev SessionThread : Type := Process SessionEffect SessionReply BroadcastApplicationSessionResult

abbrev SessionSound (system : SessionSystem) : Prop :=
  Sound SessionRule (fun _ => True) Knows system

theorem idle (clock : Int) : (started clock).processes = [] := rfl

theorem sessionStep_admitted (system : SessionSystem) (move : SessionMove) :
    MoveAdmitted SessionRule (fun _ _ _ => True) (fun _ _ => True) system move.toMove := by
  cases move with
  | call entered => exact serve_follows entered
  | advance thread answers => exact fun _ _ _ _ => trivial
  | pass seconds => trivial

theorem sessionStep_sound {system : SessionSystem} (sound : SessionSound system)
    (move : SessionMove) : SessionSound (sessionStep system move).1 :=
  sessionDiscipline.step sound (sessionStep_admitted system move)

theorem final_sound (clock : Int) (moves : List SessionMove) :
    SessionSound (Run.final sessionStep (started clock) moves) :=
  Run.final_preserves sessionStep SessionSound (fun _ move sound => sessionStep_sound sound move) _
    ⟨trivial, fun _ member => absurd member List.not_mem_nil,
      fun _ member => absurd member List.not_mem_nil⟩ moves

theorem sessionStep_later {system : SessionSystem} (sound : SessionSound system)
    (move : SessionMove) : Later system.state (sessionStep system move).1.state :=
  sessionDiscipline.related Later.refl sound (sessionStep_admitted system move)

theorem final_later (clock : Int) (before middle : List SessionMove) :
    Later (Run.final sessionStep (started clock) before).state
      (Run.final sessionStep (started clock) (before ++ middle)).state := by
  rw [Run.final_append]
  refine Run.final_relates sessionStep SessionSound (fun _ _ => True)
    (fun first second => Later first.state second.state) (fun system => Later.refl system.state)
    (fun _ _ _ => Later.trans) (fun _ move sound => sessionStep_sound sound move)
    (fun _ move sound _ => sessionStep_later sound move) _ (final_sound clock before) middle
    fun _ _ _ _ => trivial

/-! ## One launch for each session -/

def emplacedBy : SessionEvent → Option Bytes
  | ⟨.emplace session, emplaced⟩ => cond emplaced (some session.broadcastApplicationSessionId) none
  | _ => none

def launchedSessions (entries : List (SessionMove × Option SessionEvent)) : List Bytes :=
  entries.filterMap fun entry => entry.2.bind launchedBy

/-- What keeps launches apart: no two threads have emplaced one session, and every launch is on
record with the thread that made it. -/
structure LaunchesApart (system : SessionSystem)
    (entries : List (SessionMove × Option SessionEvent)) : Prop where
  sound : SessionSound system
  exclusive : Exclusive emplacedBy system
  recorded : ∀ sessionId ∈ launchedSessions entries, ∃ process ∈ system.processes,
    ∃ event ∈ process.earlier, launchedBy event = some sessionId
  once : (launchedSessions entries).Nodup

theorem emplacedBy_copied {event : SessionEvent} {sessionId : Bytes}
    (emplaced : emplacedBy event = some sessionId) :
    ∃ session, copied event = some session ∧ session.broadcastApplicationSessionId = sessionId := by
  obtain ⟨effect, reply⟩ := event
  cases effect
  case emplace session =>
    have value : cond reply (some session.broadcastApplicationSessionId) none = some sessionId :=
      emplaced
    cases reply
    · cases value
    · exact ⟨session, rfl, Option.some.inj value⟩
  all_goals cases emplaced

theorem emplaced_absent (answers : Answers) {effect : SessionEffect} {store : SessionStore}
    {sessionId : Bytes}
    (emplaced : emplacedBy ⟨effect, (perform answers effect store).1⟩ = some sessionId) :
    store.session sessionId = none := by
  cases effect
  case emplace session =>
    have value : cond (perform answers (.emplace session) store).1
        (some session.broadcastApplicationSessionId) none = some sessionId := emplaced
    cases found : store.session session.broadcastApplicationSessionId with
    | none =>
      rw [perform_emplace_absent answers found] at value
      cases value
      exact found
    | some current =>
      rw [perform_emplace_present answers (by rw [found]; rfl)] at value
      cases value
  all_goals cases emplaced

theorem sessionStep_exclusive {system : SessionSystem} (sound : SessionSound system)
    (exclusive : Exclusive emplacedBy system) (move : SessionMove) :
    Exclusive emplacedBy (sessionStep system move).1 := by
  have known : ∀ process ∈ system.processes, ∀ event ∈ process.earlier, ∀ sessionId,
      emplacedBy event = some sessionId → (system.state.session sessionId).isSome = true := by
    intro process member event eventMember sessionId emplaced
    obtain ⟨session, copy, rfl⟩ := emplacedBy_copied emplaced
    obtain ⟨current, found, -⟩ :=
      (sound.consistent process member).kept event eventMember session copy
    rw [found]
    rfl
  refine exclusive.step perform passTime known ?_ move.toMove
  intro answers effect sessionId emplaced present
  rw [emplaced_absent answers emplaced] at present
  cases present

theorem launchedSessions_concat (entries : List (SessionMove × Option SessionEvent))
    (move : SessionMove) (event : Option SessionEvent) :
    launchedSessions (entries ++ [(move, event)]) =
      launchedSessions entries ++ (event.bind launchedBy).toList := by
  unfold launchedSessions
  rw [List.filterMap_append]
  cases launched : event.bind launchedBy with
  | none => simp [launched]
  | some sessionId => simp [launched]

theorem sessionStep_launch {system : SessionSystem} (sound : SessionSound system) {move : SessionMove}
    {event : SessionEvent} {sessionId : Bytes} (stepped : (sessionStep system move).2 = some event)
    (launched : launchedBy event = some sessionId) :
    ∃ (thread : Nat) (process : SessionThread), system.processes[thread]? = some process ∧
      (∃ past ∈ process.earlier, emplacedBy past = some sessionId) ∧
      (∀ past ∈ process.earlier, launchedBy past = none) ∧
      ∃ later ∈ (sessionStep system move).1.processes, event ∈ later.earlier := by
  obtain ⟨thread, answers, earlier, next, -, current, -, after⟩ :=
    event_of_step perform passTime stepped
  obtain ⟨request, reply, rfl, launches, rfl⟩ := launchedBy_eq_some launched
  have member := List.mem_of_getElem? current
  obtain ⟨⟨session, emplaced, named⟩, first⟩ := (sound.obeys _ member).1.1 launches
  have kept : (⟨earlier ++ [⟨.control request, reply⟩], next reply⟩ : SessionThread) ∈
      (sessionStep system move).1.processes := by
    change _ ∈ (Interleaving.step perform passTime system move.toMove).1.processes
    rw [after]
    exact List.mem_set (List.getElem?_eq_some_iff.mp current).1 _
  exact ⟨thread, _, current, ⟨_, emplaced, congrArg some named⟩, first, _, kept,
    List.mem_append_right _ List.mem_cons_self⟩

theorem LaunchesApart.step {system : SessionSystem}
    {entries : List (SessionMove × Option SessionEvent)} (apart : LaunchesApart system entries)
    (move : SessionMove) :
    LaunchesApart (sessionStep system move).1 (entries ++ [(move, (sessionStep system move).2)]) := by
  have recorded : ∀ sessionId ∈ launchedSessions entries,
      ∃ process ∈ (sessionStep system move).1.processes,
        ∃ event ∈ process.earlier, launchedBy event = some sessionId := by
    intro sessionId member
    obtain ⟨process, processMember, event, past, launched⟩ := apart.recorded sessionId member
    obtain ⟨thread, found⟩ := List.getElem?_of_mem processMember
    obtain ⟨later, laterFound, subset⟩ := step_keeps perform passTime move.toMove found
    exact ⟨later, List.mem_of_getElem? laterFound, event, subset past, launched⟩
  refine ⟨sessionStep_sound apart.sound move, sessionStep_exclusive apart.sound apart.exclusive move,
    ?_, ?_⟩
  · rw [launchedSessions_concat]
    intro sessionId member
    rcases List.mem_append.mp member with old | last
    · exact recorded sessionId old
    · obtain ⟨event, stepped, launched⟩ := Option.bind_eq_some_iff.mp (Option.mem_toList.mp last)
      obtain ⟨-, -, -, -, -, later, laterMember, past⟩ :=
        sessionStep_launch apart.sound stepped launched
      exact ⟨later, laterMember, event, past, launched⟩
  · rw [launchedSessions_concat]
    cases launched : (sessionStep system move).2.bind launchedBy with
    | none =>
      rw [Option.toList_none, List.append_nil]
      exact apart.once
    | some sessionId =>
      refine List.nodup_append.mpr ⟨apart.once, List.nodup_singleton sessionId, ?_⟩
      intro other member last lastMember same
      cases List.mem_singleton.mp lastMember
      subst same
      obtain ⟨event, stepped, launch⟩ := Option.bind_eq_some_iff.mp launched
      obtain ⟨thread, process, found, ⟨own, ownMember, ownEmplaced⟩, first, -⟩ :=
        sessionStep_launch apart.sound stepped launch
      -- the earlier launch was made by the thread that emplaced the session, which is this one
      obtain ⟨holder, holderMember, past, pastMember, pastLaunch⟩ := apart.recorded other member
      obtain ⟨session, emplaced, named⟩ :=
        (apart.sound.consistent holder holderMember).launched past pastMember other pastLaunch
      obtain ⟨index, holderFound⟩ := List.getElem?_of_mem holderMember
      have one := apart.exclusive holderFound found _ emplaced own ownMember other
        (congrArg some named) ownEmplaced
      subst one
      cases holderFound.symm.trans found
      rw [first past pastMember] at pastLaunch
      cases pastLaunch

theorem launchedSessions_nodup (clock : Int) (moves : List SessionMove) :
    (launchedSessions (Run.journal sessionStep (started clock) moves)).Nodup := by
  have apart := Run.final_journal_preserves sessionStep LaunchesApart (started clock)
    ⟨final_sound clock [], fun _ _ _ _ found => (by cases found),
      fun _ member => absurd member List.not_mem_nil, List.nodup_nil⟩
    (fun _ _ move apart => apart.step move) moves
  exact apart.once

/-! ## What a session's life promises -/

structure InputLookup (clock : Int) (before : List SessionMove) (thread : Nat) (sessionId : Bytes)
    (lookup : List SessionMove) (session : BroadcastApplicationSession) : Prop where
  earlier : ∃ move between, before = lookup ++ move :: between ∧
    (sessionStep (Run.final sessionStep (started clock) lookup) move).2 =
      some ⟨.find sessionId, some session⟩
  stored : (Run.final sessionStep (started clock) lookup).state.session sessionId = some session
  active : session.state = .active
  unexpired : (Run.final sessionStep (started clock) lookup).state.clock < session.expiresAt
  owned : ∃ (process : SessionThread) (action : SuiteBridgeHbbtvInputAction),
    (Run.final sessionStep (started clock) lookup).processes[thread]? = some process ∧
    ⟨.enter (.input sessionId session.actorId session.clientContext action), ()⟩ ∈ process.earlier

structure SessionLifecycle (clock : Int) (moves : List SessionMove) : Prop where
  ended : ∀ before middle after, moves = before ++ middle ++ after → ∀ sessionId session,
    (Run.final sessionStep (started clock) before).state.session sessionId = some session →
    ended session.state = true →
    ∃ later, (Run.final sessionStep (started clock) (before ++ middle)).state.session sessionId =
      some later ∧ later.state = session.state
  identity : ∀ before middle after, moves = before ++ middle ++ after → ∀ sessionId session,
    (Run.final sessionStep (started clock) before).state.session sessionId = some session →
    ∃ later, (Run.final sessionStep (started clock) (before ++ middle)).state.session sessionId =
      some later ∧ identity later = identity session
  launches : (launchedSessions (Run.journal sessionStep (started clock) moves)).Nodup
  inputs : ∀ before move after request resolution, moves = before ++ move :: after →
    (sessionStep (Run.final sessionStep (started clock) before) move).2 =
      some ⟨.control request, resolution⟩ → request.operation = .input →
    ∃ thread answers, move = .advance thread answers ∧
      ∃ lookup session, InputLookup clock before thread request.sessionId lookup session

/-- Input goes back to a lookup by the same thread, before which the clock cannot have been later. -/
theorem exists_inputLookup {before after : List SessionMove} {move : SessionMove}
    {request : SuiteBridgeHbbtvRuntimeRequest} {resolution : SuiteBridgeHbbtvRuntimeResolution}
    (split : moves = before ++ move :: after)
    (stepped : (sessionStep (Run.final sessionStep (started clock) before) move).2 =
      some ⟨.control request, resolution⟩) (inputs : request.operation = .input) :
    ∃ thread answers, move = .advance thread answers ∧
      ∃ lookup session, InputLookup clock before thread request.sessionId lookup session := by
  obtain ⟨thread, answers, earlier, next, advanced, current, -, -⟩ :=
    event_of_step perform passTime stepped
  have isAdvance : move = .advance thread answers := by
    cases move with
    | call entered => cases advanced
    | pass seconds => cases advanced
    | advance other otherAnswers =>
      cases advanced
      rfl
  refine ⟨thread, answers, isAdvance, ?_⟩
  have member := List.mem_of_getElem? current
  obtain ⟨named, actorId, clientContext, action, session, time, order, sameId, active, unexpired,
    rfl, rfl⟩ := ((final_sound clock before).obeys _ member).1.2 inputs
  obtain ⟨entering, others, rfl, entered, orderAfter⟩ := List.cons_sublist_iff.mp order
  obtain ⟨finding, rest, rfl, found, orderLast⟩ := List.cons_sublist_iff.mp orderAfter
  obtain ⟨first, between, rfl⟩ := List.append_of_mem found
  obtain ⟨second, last, rfl⟩ := List.append_of_mem (List.singleton_sublist.mp orderLast)
  -- the look at the clock, and before it the lookup
  obtain ⟨sofar, nowMove, nowAnswers, nowAfter, nowNext, rfl, -, nowCurrent, looked⟩ :=
    exists_performed perform passTime SessionMove.toMove (idle clock) before current
      (show _ = (entering ++ (first ++ ⟨.find named, some session⟩ :: between) ++ second) ++
        (⟨.now, time⟩ : SessionEvent) :: last by simp)
  obtain ⟨lookup, findMove, findAnswers, findAfter, findNext, rfl, finds, findCurrent, found⟩ :=
    exists_performed perform passTime SessionMove.toMove (idle clock) sofar nowCurrent
      (show _ = (entering ++ first) ++ (⟨.find named, some session⟩ : SessionEvent) ::
        (between ++ second) by simp)
  have stored : (Run.final sessionStep (started clock) lookup).state.session named = some session :=
    found
  have read : (Run.final sessionStep (started clock) (lookup ++ findMove :: findAfter)).state.clock =
    time := looked
  have named := session_sessionId stored
  subst named
  rw [← sameId]
  refine ⟨lookup, session, ⟨findMove, findAfter ++ nowMove :: nowAfter, by simp, ?_⟩, stored, active,
    ?_, _, action, findCurrent, ?_⟩
  · change (Interleaving.step perform passTime _ findMove.toMove).2 = _
    rw [finds]
    refine (congrArg Prod.snd (step_advance perform passTime findCurrent)).trans ?_
    exact congrArg some (congrArg (Sigma.mk _) found)
  · have elapsed := (final_later clock lookup (findMove :: findAfter)).clock
    rw [read] at elapsed
    exact Int.lt_of_le_of_lt elapsed unexpired
  · exact List.mem_append_left _ entered

/-! ## When ended sessions stay ended -/

/-- A thread that is about to store a copy over a session that has ended, has been told of that very
end itself. -/
def EndsAlike (system : SessionSystem) : SessionMove → Prop
  | .advance thread _ => ∀ earlier session next current,
      system.processes[thread]? = some ⟨earlier, .perform (.store session) next⟩ →
      system.state.session session.broadcastApplicationSessionId = some current →
      ended current.state = true → told earlier = some current.state
  | _ => True

theorem sessionStep_cases (system : SessionSystem) (move : SessionMove) (sessionId : Bytes) :
    (∀ session, system.state.session sessionId = some session →
      (sessionStep system move).1.state.session sessionId = some session) ∨
    ∃ thread answers earlier session next, move = .advance thread answers ∧
      system.processes[thread]? = some ⟨earlier, .perform (.store session) next⟩ ∧
      session.broadcastApplicationSessionId = sessionId ∧
      (sessionStep system move).1.state.session sessionId = some session := by
  cases stepped : (sessionStep system move).2 with
  | none =>
    refine .inl fun session found => ?_
    rcases state_of_no_event perform passTime stepped with same | ⟨seconds, -, passed⟩
    · change (sessionStep system move).1.state = _ at same
      rw [same]
      exact found
    · change (sessionStep system move).1.state = _ at passed
      rw [passed]
      exact found
  | some event =>
    obtain ⟨thread, answers, earlier, next, advanced, current, replied, after⟩ :=
      event_of_step perform passTime stepped
    change (sessionStep system move).1 = _ at after
    rw [after]
    dsimp only
    obtain ⟨effect, reply⟩ := event
    rcases perform_cases answers effect system.state with
      same | ⟨session, rfl, absent, emplaced⟩ | ⟨session, rfl, stored⟩
    · refine .inl fun session found => ?_
      rw [same]
      exact found
    · refine .inl fun other found => ?_
      rw [emplaced]
      exact session_emplaced found session
    · rw [stored, session_stored]
      by_cases named : session.broadcastApplicationSessionId = sessionId
      · refine .inr ⟨thread, answers, earlier, session, next, ?_, current, named, if_pos named⟩
        cases move with
        | call entered => cases advanced
        | pass seconds => cases advanced
        | advance other otherAnswers =>
          cases advanced
          rfl
      · refine .inl fun other found => ?_
        rw [if_neg named]
        exact found

/-- A store over an ended session keeps its end exactly when the thread has been told of it. -/
theorem store_told {system : SessionSystem} (sound : SessionSound system) {thread : Nat}
    {next : SessionReply (.store session) → Serving BroadcastApplicationSessionResult}
    (current : system.processes[thread]? = some ⟨earlier, .perform (.store session) next⟩)
    {state : BroadcastApplicationSessionState} (isEnd : ended state = true) :
    session.state = state ↔ told earlier = some state := by
  obtain ⟨base, -, -, ends⟩ := (sound.obeys _ (List.mem_of_getElem? current)).1
  exact ends state isEnd

theorem sessionStep_ended {system : SessionSystem} (sound : SessionSound system) {move : SessionMove}
    (alike : EndsAlike system move) {sessionId : Bytes}
    (found : system.state.session sessionId = some session) (isEnd : ended session.state = true) :
    ∃ later, (sessionStep system move).1.state.session sessionId = some later ∧
      later.state = session.state := by
  rcases sessionStep_cases system move sessionId with
    same | ⟨thread, answers, earlier, stored, next, rfl, current, rfl, after⟩
  · exact ⟨session, same session found, rfl⟩
  · exact ⟨stored, after, (store_told sound current isEnd).mpr
      (alike earlier stored next session current found isEnd)⟩

theorem final_ended {start : SessionSystem} (sound : SessionSound start)
    (alike : Run.Admits sessionStep EndsAlike start moves) {sessionId : Bytes}
    (found : start.state.session sessionId = some session) (isEnd : ended session.state = true) :
    ∃ later, (Run.final sessionStep start moves).state.session sessionId = some later ∧
      later.state = session.state := by
  induction moves generalizing start session with
  | nil => exact ⟨session, found, rfl⟩
  | cons move rest ih =>
    obtain ⟨next, nextFound, nextSame⟩ := sessionStep_ended sound alike.1 found isEnd
    obtain ⟨later, laterFound, laterSame⟩ :=
      ih (sessionStep_sound sound move) alike.2 nextFound (nextSame ▸ isEnd)
    exact ⟨later, laterFound, laterSame.trans nextSame⟩

/-- Whatever a session is, it keeps its identity, is launched once and gets input only as an active
session of the caller; and what has ended stays ended exactly in the runs in which no thread stores
a copy over an end that it has not been told of. -/
theorem session_lifecycle_iff (clock : Int) (moves : List SessionMove) :
    SessionLifecycle clock moves ↔ Run.Admits sessionStep EndsAlike (started clock) moves := by
  constructor
  · intro lifecycle
    refine (Run.admits_iff_forall_split sessionStep).mpr fun before move after split => ?_
    have sound := final_sound clock before
    cases move with
    | call entered => trivial
    | pass seconds => trivial
    | advance thread answers =>
      intro earlier session next current atThread found isEnd
      have parts : moves = before ++ [.advance thread answers] ++ after := by simp [split]
      obtain ⟨later, laterFound, same⟩ :=
        lifecycle.ended before [.advance thread answers] after parts _ current found isEnd
      rw [Run.final_concat] at laterFound
      have stored : (sessionStep (Run.final sessionStep (started clock) before)
          (.advance thread answers)).1.state.session session.broadcastApplicationSessionId =
            some session := by
        change (Interleaving.step perform passTime _ (.advance thread answers)).1.state.session _ = _
        rw [step_advance perform passTime atThread]
        exact (session_stored _ _).trans (if_pos rfl)
      rw [stored] at laterFound
      cases laterFound
      exact (store_told sound atThread isEnd).mp same
  · intro alike
    refine ⟨?_, ?_, launchedSessions_nodup clock moves, ?_⟩
    · rintro before middle after rfl sessionId session found isEnd
      have splits := (Run.admits_iff_forall_split sessionStep).mp alike
      rw [Run.final_append]
      refine final_ended (final_sound clock before) ?_ found isEnd
      refine (Run.admits_iff_forall_split sessionStep).mpr fun earlier move later split => ?_
      rw [← Run.final_append]
      exact splits (before ++ earlier) move (later ++ after) (by simp [split])
    · rintro before middle after rfl sessionId session found
      exact (final_later clock before middle).sessions sessionId session found
    · intro before move after request resolution split stepped inputs
      exact exists_inputLookup split stepped inputs

def sampleApplication : BroadcastApplicationRef :=
  { backendId := text "default"
    backendGeneration := 7
    channelId := text "C-1-1051-10301"
    provider := { providerId := text "vdr-plugin-web", providerSchemaVersion := 1, capabilityRevision := 17 }
    applicationId := 1
    descriptorRevision := 17 }

def sampleLaunch : BroadcastApplicationLaunchRequest :=
  { actorId := text "user-1"
    clientContext := text "living-room-tv"
    correlationContext := text "corr-1"
    application := sampleApplication }

def sampleAnswers (resultCode stateCode : Nat) : Answers
  | .enter _ | .store _ => ()
  | .now => (0 : Int)
  | .authorized _ _ _ | .runtimeFor _ => true
  | .emplace _ => false
  | .discoverApplications backendId channelId =>
    ({ backendId := backendId
       backendGeneration := 7
       payloadValid := true
       result := text "ok"
       channelId := channelId
       applications := [sampleApplication] } : BroadcastApplicationDiscoverySnapshot)
  | .newSessionId => text "bas_1"
  | .control _ =>
    ({ payloadValid := true
       resultCode := resultCode
       stateCode := stateCode } : SuiteBridgeHbbtvRuntimeResolution)
  | .find _ => none

def overtakenRefresh : List SessionMove :=
  .call (.launch sampleLaunch) :: List.replicate 9 (.advance 0 (sampleAnswers 0 2)) ++
  .call (.refresh (text "bas_1") (text "user-1") (text "living-room-tv")) ::
    List.replicate 7 (.advance 1 (sampleAnswers 0 2)) ++
  .call (.close (text "bas_1") (text "user-1") (text "living-room-tv") (text "done")) ::
    List.replicate 6 (.advance 2 (sampleAnswers 6 0)) ++
  [.advance 1 (sampleAnswers 0 2)]

/-- The refresh stores the closed session as active again. -/
theorem overtaken_refresh_reopens :
    ((Run.final sessionStep (started 100) (overtakenRefresh.take 25)).state.sessions.map (·.state),
      (Run.final sessionStep (started 100) overtakenRefresh).state.sessions.map (·.state)) =
        ([.closed], [.active]) ∧
    ¬ SessionLifecycle 100 overtakenRefresh := by
  have states :
      ((Run.final sessionStep (started 100) (overtakenRefresh.take 25)).state.session (text "bas_1")).map
          (·.state) = some .closed ∧
        ((Run.final sessionStep (started 100)
            (overtakenRefresh.take 25 ++ overtakenRefresh.drop 25)).state.session (text "bas_1")).map
          (·.state) = some .active := by
    decide
  refine ⟨by decide, fun lifecycle => ?_⟩
  obtain ⟨closed, closedFound, isClosed⟩ := Option.map_eq_some_iff.mp states.1
  obtain ⟨active, activeFound, isActive⟩ := Option.map_eq_some_iff.mp states.2
  obtain ⟨later, laterFound, same⟩ :=
    lifecycle.ended (overtakenRefresh.take 25) (overtakenRefresh.drop 25) [] (by rfl) _ closed
      closedFound (by rw [isClosed]; rfl)
  rw [activeFound] at laterFound
  cases laterFound
  rw [isActive, isClosed] at same
  cases same

end VdrSuite.Hbbtv
