import VdrSuite.Live.DeviceLiveEventHub

/-! What the reader of a device's event stream sees over every order of deliveries, reads and a
close. -/

set_option autoImplicit false

namespace VdrSuite.Live

open Library

section Steps

variable (subscription : DeviceLiveEventSubscription)

/-! ## One step -/

theorem frameText_ne_nil (frame : DeviceEventFrame) : frameText subscription frame ≠ [] := by
  cases frame with
  | hello => simp [frameText, text]
  | hint sequence content => cases content <;> simp [frameText, hintText, text]
  | resync => simp [frameText, text]

inductive Moved (queue : DeviceEventQueue) (step : StreamStep) : Prop where
  | idle (same : streamStep subscription queue step = (queue, none))
      (none : taken subscription queue step = none)
  | told {content : HintContent} (alive : queue.closed = false)
      (short : queue.pending.length < maximumPending)
      (after : streamStep subscription queue step =
        ({ queue with
            sequence := queue.sequence + 1
            pending := queue.pending ++ [.hint (queue.sequence + 1) content] }, none))
      (some : taken subscription queue step = some content)
  | overflow (alive : queue.closed = false)
      (after : streamStep subscription queue step =
        ({ queue with
            pending := [.resync]
            closed := true }, none))
      (none : taken subscription queue step = none)
  | closed (after : streamStep subscription queue step =
        ({ queue with
            pending := []
            closed := true }, none))
      (none : taken subscription queue step = none)

theorem moved_of_push {queue : DeviceEventQueue} {step : StreamStep} {content : HintContent}
    {now : Nat} (offered : offer subscription step = some (content, now))
    (steps : streamStep subscription queue step =
      (if subscription.refuses queue now then queue else queue.push content, none)) :
    Moved subscription queue step := by
  cases refused : subscription.refuses queue now with
  | true =>
    refine .idle ?_ ?_
    · rw [steps, if_pos refused]
    · simp [taken, offered, refused]
  | false =>
    have alive : queue.closed = false := by
      simp only [DeviceLiveEventSubscription.refuses, Bool.or_eq_false_iff] at refused
      exact refused.1
    have admitted : ¬ subscription.refuses queue now = true := by simp [refused]
    rw [if_neg admitted, DeviceEventQueue.push] at steps
    by_cases full : maximumPending ≤ queue.pending.length
    · rw [if_pos full] at steps
      refine .overflow alive steps ?_
      simp [taken, offered, full]
    · rw [if_neg full] at steps
      refine @Moved.told _ _ _ content alive (Nat.lt_of_not_le full) steps ?_
      simp [taken, offered, refused, full]

theorem step_of_offer {queue : DeviceEventQueue} {step : StreamStep} {content : HintContent}
    {now : Nat} (offered : offer subscription step = some (content, now)) :
    streamStep subscription queue step =
      (if subscription.refuses queue now then queue else queue.push content, none) := by
  cases step with
  | deliver event now =>
    rw [offer] at offered
    split at offered
    · cases offered
    · next concerned =>
        cases offered
        obtain ⟨same, changed⟩ := not_or.mp concerned
        simp only [streamStep, DeviceLiveEventSubscription.deliver, if_neg same, if_neg changed]
  | deliverOperation operationId now =>
    rw [offer] at offered
    split at offered
    · cases offered
    · next concerned =>
        cases offered
        simp only [streamStep, DeviceLiveEventSubscription.deliverOperation, if_neg concerned]
  | next now => cases offered
  | close => cases offered

theorem step_of_no_offer {queue : DeviceEventQueue} {step : StreamStep}
    (none : offer subscription step = none) :
    (∃ now, step = .next now) ∨ step = .close ∨
      streamStep subscription queue step = (queue, Option.none) := by
  cases step with
  | deliver event now =>
    refine .inr (.inr ?_)
    by_cases foreign : event.backendId ≠ subscription.backend
    · simp only [streamStep, DeviceLiveEventSubscription.deliver, if_pos foreign]
    · by_cases unchanged : subscription.changes event = .domains false false
      · simp only [streamStep, DeviceLiveEventSubscription.deliver, if_neg foreign,
          if_pos unchanged, ite_self]
      · rw [offer, if_neg (not_or.mpr ⟨foreign, unchanged⟩)] at none
        cases none
  | deliverOperation operationId now =>
    refine .inr (.inr ?_)
    by_cases other : subscription.operationId.isEmpty ∨ subscription.operationId ≠ operationId
    · simp only [streamStep, DeviceLiveEventSubscription.deliverOperation, if_pos other]
    · rw [offer, if_neg other] at none
      cases none
  | next now => exact .inl ⟨now, rfl⟩
  | close => exact .inr (.inl rfl)

theorem step_moved (queue : DeviceEventQueue) (step : StreamStep) :
    (∃ now, step = .next now) ∨ Moved subscription queue step := by
  cases offered : offer subscription step with
  | none =>
    obtain read | rfl | idle := @step_of_no_offer subscription queue step offered
    · exact .inl read
    · exact .inr (.closed rfl rfl)
    · exact .inr (.idle idle (by simp [taken, offered]))
  | some pair =>
    exact .inr (moved_of_push subscription offered (step_of_offer subscription offered))

theorem next_cases (queue : DeviceEventQueue) (now : Nat) :
    (subscription.next now queue =
        ({ queue with
            closed := true
            pending := [] }, { alive := false, frame := [] })) ∨
      (queue.pending = [] ∧
        subscription.next now queue = (queue, { alive := !queue.closed, frame := [] })) ∨
      ∃ first rest, queue.pending = first :: rest ∧
        subscription.next now queue =
          ({ queue with pending := rest },
            { alive := true, frame := frameText subscription first }) := by
  by_cases expired : subscription.expires ≤ now
  · refine .inl ?_
    simp only [DeviceLiveEventSubscription.next, DeviceLiveEventSubscription.expire, if_pos expired,
      Bool.not_true]
  · refine .inr ?_
    cases waiting : queue.pending with
    | nil =>
      refine .inl ⟨rfl, ?_⟩
      simp only [DeviceLiveEventSubscription.next, DeviceLiveEventSubscription.expire,
        if_neg expired, waiting]
    | cons first rest =>
      refine .inr ⟨first, rest, rfl, ?_⟩
      simp only [DeviceLiveEventSubscription.next, DeviceLiveEventSubscription.expire,
        if_neg expired, waiting]

/-! ## What is returned -/

variable {subscription}

theorem returned_cons (queue : DeviceEventQueue) (step : StreamStep) (rest : List StreamStep) :
    returned subscription queue (step :: rest) =
      ((streamStep subscription queue step).2.bind fun answer =>
          if answer.frame.isEmpty then none else some answer.frame).toList ++
        returned subscription (streamStep subscription queue step).1 rest := by
  rw [returned, Run.journal, List.filterMap_cons]
  dsimp only
  cases (streamStep subscription queue step).2.bind fun answer =>
      if answer.frame.isEmpty then none else some answer.frame with
  | none => rfl
  | some frame => rfl

theorem returned_silent {queue after : DeviceEventQueue} {step : StreamStep}
    (steps : streamStep subscription queue step = (after, none)) (rest : List StreamStep) :
    returned subscription queue (step :: rest) = returned subscription after rest := by
  rw [returned_cons, steps]
  rfl

theorem returned_empty {queue after : DeviceEventQueue} {now : Nat} {alive : Bool}
    (read : subscription.next now queue = (after, { alive := alive, frame := [] }))
    (rest : List StreamStep) :
    returned subscription queue (.next now :: rest) = returned subscription after rest := by
  rw [returned_cons, streamStep, read]
  rfl

theorem returned_frame {queue after : DeviceEventQueue} {now : Nat} {frame : DeviceEventFrame}
    (read : subscription.next now queue =
      (after, { alive := true, frame := frameText subscription frame }))
    (rest : List StreamStep) :
    returned subscription queue (.next now :: rest) =
      frameText subscription frame :: returned subscription after rest := by
  have present := frameText_ne_nil subscription frame
  rw [returned_cons, streamStep, read]
  simp [present]

theorem ended_of_later {queue : DeviceEventQueue} {step : StreamStep} {rest : List StreamStep}
    (later : Ended subscription (streamStep subscription queue step).1 rest) :
    Ended subscription queue (step :: rest) := by
  obtain ⟨entry, member, told⟩ := later
  exact ⟨entry, List.mem_cons_of_mem _ member, told⟩

theorem hints_cons_none {queue : DeviceEventQueue} {step : StreamStep}
    (none : taken subscription queue step = none) (rest : List StreamStep) :
    hints subscription queue (step :: rest) =
      hints subscription (streamStep subscription queue step).1 rest := by
  rw [hints, none]
  rfl

theorem hints_cons_some {queue : DeviceEventQueue} {step : StreamStep} {content : HintContent}
    (some : taken subscription queue step = some content) (rest : List StreamStep) :
    hints subscription queue (step :: rest) =
      content :: hints subscription (streamStep subscription queue step).1 rest := by
  rw [hints, some]
  rfl

/-! ## Runs -/

theorem closed_returned {queue : DeviceEventQueue} (closed : queue.closed = true)
    (steps : List StreamStep) :
    ∃ count, returned subscription queue steps =
      (queue.pending.take count).map (frameText subscription) := by
  induction steps generalizing queue with
  | nil => exact ⟨0, rfl⟩
  | cons step rest ih =>
    obtain ⟨now, rfl⟩ | moved := step_moved subscription queue step
    · obtain read | ⟨empty, read⟩ | ⟨first, later, waiting, read⟩ :=
        next_cases subscription queue now
      · obtain ⟨count, same⟩ := @ih { queue with closed := true, pending := [] } rfl
        refine ⟨0, ?_⟩
        rw [returned_empty read, same]
        simp
      · rw [returned_empty read]
        exact ih closed
      · obtain ⟨count, same⟩ := @ih { queue with pending := later } closed
        refine ⟨count + 1, ?_⟩
        rw [returned_frame read, same, waiting]
        rfl
    · cases moved with
      | idle same none =>
        rw [returned_silent same]
        exact ih closed
      | told alive short after some =>
        rw [alive] at closed
        cases closed
      | overflow alive after none =>
        rw [alive] at closed
        cases closed
      | closed after none =>
        obtain ⟨count, same⟩ := @ih { queue with pending := [], closed := true } rfl
        refine ⟨0, ?_⟩
        rw [returned_silent after, same]
        simp

/-- An open stream returns what was waiting and then the hints that it takes up, without a gap and
up to some point, and at most one request to reload behind them. -/
theorem open_returned {queue : DeviceEventQueue} (alive : queue.closed = false)
    (steps : List StreamStep) :
    ∃ count,
      returned subscription queue steps =
          ((queue.pending ++ numbered queue.sequence (hints subscription queue steps)).take
            count).map (frameText subscription) ∨
        returned subscription queue steps =
          ((queue.pending ++ numbered queue.sequence (hints subscription queue steps)).take
            count).map (frameText subscription) ++ [frameText subscription .resync] := by
  induction steps generalizing queue with
  | nil => exact ⟨0, .inl rfl⟩
  | cons step rest ih =>
    obtain ⟨now, rfl⟩ | moved := step_moved subscription queue step
    · have untold : taken subscription queue (.next now) = none := rfl
      rw [hints_cons_none untold]
      obtain read | ⟨empty, read⟩ | ⟨first, later, waiting, read⟩ :=
        next_cases subscription queue now
      · obtain ⟨count, same⟩ :=
          @closed_returned subscription { queue with closed := true, pending := [] } rfl rest
        refine ⟨0, .inl ?_⟩
        rw [returned_empty read, same]
        simp
      · rw [returned_empty read, streamStep, read]
        exact ih alive
      · obtain ⟨count, same⟩ := @ih { queue with pending := later } alive
        refine ⟨count + 1, ?_⟩
        rw [returned_frame read, streamStep, read, waiting, List.cons_append, List.take_succ_cons,
          List.map_cons, List.cons_append]
        exact same.imp (congrArg _) (congrArg _)
    · cases moved with
      | idle same none =>
        rw [hints_cons_none none, returned_silent same, same]
        exact ih alive
      | @told content _ short after some =>
        obtain ⟨count, same⟩ := @ih { queue with
          sequence := queue.sequence + 1
          pending := queue.pending ++ [.hint (queue.sequence + 1) content] } alive
        refine ⟨count, ?_⟩
        rw [hints_cons_some some, returned_silent after, after, numbered]
        rw [List.append_assoc, List.singleton_append] at same
        exact same
      | overflow _ after none =>
        obtain ⟨count, same⟩ := @closed_returned subscription
          { queue with pending := [.resync], closed := true } rfl rest
        rw [returned_silent after, same]
        cases count with
        | zero => exact ⟨0, .inl rfl⟩
        | succ count => exact ⟨0, .inr (by simp)⟩
      | closed after none =>
        obtain ⟨count, same⟩ :=
          @closed_returned subscription { queue with pending := [], closed := true } rfl rest
        refine ⟨0, .inl ?_⟩
        rw [returned_silent after, same]
        simp

theorem readerSteps_next (now : Nat) (rest : List StreamStep) :
    readerSteps (.next now :: rest) = readerSteps rest + 1 := rfl

theorem readerSteps_moved {queue : DeviceEventQueue} {step : StreamStep}
    (silent : (streamStep subscription queue step).2 = none) (rest : List StreamStep) :
    readerSteps (step :: rest) = readerSteps rest := by
  cases step with
  | next now => cases silent
  | deliver event now => rfl
  | deliverOperation operationId now => rfl
  | close => rfl

theorem closed_ends {queue : DeviceEventQueue} (closed : queue.closed = true)
    (empty : queue.pending = []) {steps : List StreamStep} (reads : 0 < readerSteps steps) :
    Ended subscription queue steps := by
  induction steps generalizing queue with
  | nil => cases reads
  | cons step rest ih =>
    obtain ⟨now, rfl⟩ | moved := step_moved subscription queue step
    · obtain read | ⟨-, read⟩ | ⟨first, later, waiting, read⟩ :=
        next_cases subscription queue now
      · exact ⟨_, List.mem_cons_self, _, congrArg some (congrArg Prod.snd read), rfl⟩
      · refine ⟨_, List.mem_cons_self, _, congrArg some (congrArg Prod.snd read), ?_⟩
        simp [closed]
      · rw [empty] at waiting
        cases waiting
    · refine ended_of_later ?_
      cases moved with
      | idle same none =>
        rw [readerSteps_moved (congrArg Prod.snd same)] at reads
        rw [same]
        exact ih closed empty reads
      | told alive short after some =>
        rw [alive] at closed
        cases closed
      | overflow alive after none =>
        rw [alive] at closed
        cases closed
      | closed after none =>
        rw [readerSteps_moved (congrArg Prod.snd after)] at reads
        rw [after]
        exact ih rfl rfl reads

/-- A frame that waits is returned by a read that comes late enough, or replaced by the request to
reload, or the reader is told that the stream is over. -/
theorem waiting_returned {queue : DeviceEventQueue} {earlier later : List DeviceEventFrame}
    {frame : DeviceEventFrame} (waiting : queue.pending = earlier ++ frame :: later)
    {steps : List StreamStep} (reads : earlier.length < readerSteps steps) :
    frameText subscription frame ∈ returned subscription queue steps ∨
      frameText subscription .resync ∈ returned subscription queue steps ∨
      Ended subscription queue steps := by
  induction steps generalizing queue earlier later frame with
  | nil => cases reads
  | cons step rest ih =>
    obtain ⟨now, rfl⟩ | moved := step_moved subscription queue step
    · rw [readerSteps_next] at reads
      obtain read | ⟨empty, -⟩ | ⟨first, others, taken, read⟩ :=
        next_cases subscription queue now
      · exact .inr (.inr ⟨_, List.mem_cons_self, _, congrArg some (congrArg Prod.snd read), rfl⟩)
      · rw [empty] at waiting
        exact absurd waiting (by simp)
      · rw [returned_frame read]
        rw [waiting] at taken
        cases earlier with
        | nil =>
          obtain ⟨rfl, -⟩ := List.cons.inj taken
          exact .inl List.mem_cons_self
        | cons head earlier =>
          obtain ⟨rfl, rfl⟩ := List.cons.inj taken
          rw [List.length_cons] at reads
          have after : (streamStep subscription queue (.next now)).1 =
              { queue with pending := earlier ++ frame :: later } := congrArg Prod.fst read
          obtain found | reload | told := @ih { queue with pending := earlier ++ frame :: later }
            earlier later frame rfl (by omega)
          · exact .inl (List.mem_cons_of_mem _ found)
          · exact .inr (.inl (List.mem_cons_of_mem _ reload))
          · exact .inr (.inr (ended_of_later (after ▸ told)))
    · cases moved with
      | idle same none =>
        rw [readerSteps_moved (congrArg Prod.snd same)] at reads
        rw [returned_silent same]
        refine (ih waiting reads).imp_right (Or.imp_right fun told => ended_of_later ?_)
        rwa [same]
      | @told content alive short after some =>
        rw [readerSteps_moved (congrArg Prod.snd after)] at reads
        rw [returned_silent after]
        have joined : queue.pending ++ [.hint (queue.sequence + 1) content] =
            earlier ++ frame :: (later ++ [.hint (queue.sequence + 1) content]) := by
          rw [waiting]
          simp
        refine (@ih { queue with
            sequence := queue.sequence + 1
            pending := queue.pending ++ [.hint (queue.sequence + 1) content] }
          earlier _ frame joined reads).imp_right (Or.imp_right fun told => ended_of_later ?_)
        rwa [after]
      | overflow alive after none =>
        rw [readerSteps_moved (congrArg Prod.snd after)] at reads
        rw [returned_silent after]
        obtain reload | reload | told := @ih { queue with pending := [.resync], closed := true }
          [] [] .resync rfl (Nat.zero_lt_of_lt reads)
        · exact .inr (.inl reload)
        · exact .inr (.inl reload)
        · refine .inr (.inr (ended_of_later ?_))
          rwa [after]
      | closed after none =>
        rw [readerSteps_moved (congrArg Prod.snd after)] at reads
        refine .inr (.inr (ended_of_later ?_))
        rw [after]
        exact closed_ends rfl rfl (Nat.zero_lt_of_lt reads)

end Steps

/-! ## What concerns a stream -/

def DeviceEventDomain.ChangedBy (event : LiveUpdateEvent) : DeviceEventDomain → Prop
  | .timers => text "timers" ∈ event.changedDomains
  | .recordings =>
    text "recordings" ∈ event.changedDomains ∨ text "recordingMarks" ∈ event.changedDomains

/-- The backend or the operation that a step is about is the subscribed one, and so is one of the
domains that it changes. -/
def Concerns (scope : DeviceEventScope) : StreamStep → Prop
  | .deliver event _ =>
    ∃ domains, scope = .backend event.backendId domains ∧
      ∃ domain ∈ domains, domain.ChangedBy event
  | .deliverOperation operationId _ =>
    ∃ suffix, scope = .operation suffix ∧ operationId = operationPrefix ++ suffix
  | .next _ => False
  | .close => False

def DeviceEventScope.Subscribes (domain : DeviceEventDomain) : DeviceEventScope → Prop
  | .backend _ domains => domain ∈ domains
  | .operation _ => False

def HintContent.names (domain : DeviceEventDomain) : HintContent → Bool
  | .domains timers recordings =>
    match domain with
    | .timers => timers
    | .recordings => recordings
  | .operation => false

/-- A hint names the subscribed domains that the event changes, or it is about the operation. -/
def Tells (scope : DeviceEventScope) (content : HintContent) : StreamStep → Prop
  | .deliver event _ => ∀ domain : DeviceEventDomain,
      content.names domain = true ↔ scope.Subscribes domain ∧ domain.ChangedBy event
  | .deliverOperation _ _ => content = .operation
  | .next _ => False
  | .close => False

def WithinScope (scope : DeviceEventScope) (content : HintContent) : Prop :=
  (∀ domain : DeviceEventDomain, content.names domain = true → scope.Subscribes domain) ∧
    (content = .operation → ∃ suffix, scope = .operation suffix)

section Scopes

variable (epoch : Bytes) (start : Nat)

theorem hasDomain_iff (scope : DeviceEventScope) (domain : DeviceEventDomain) :
    (subscribe epoch start scope).hasDomain domain.name = true ↔ scope.Subscribes domain := by
  cases scope with
  | backend backendId domains =>
    simp only [DeviceLiveEventSubscription.hasDomain, subscribe, List.contains_iff_mem,
      List.mem_map, DeviceEventScope.Subscribes]
    constructor
    · rintro ⟨other, member, same⟩
      cases other with
      | timers =>
        cases domain with
        | timers => exact member
        | recordings => exact absurd same (by decide)
      | recordings =>
        cases domain with
        | timers => exact absurd same (by decide)
        | recordings => exact member
    · exact fun member => ⟨domain, member, rfl⟩
  | operation suffix =>
    cases domain with
    | timers => exact iff_of_false (by simp [DeviceLiveEventSubscription.hasDomain, subscribe,
        DeviceEventDomain.name, text]) id
    | recordings => exact iff_of_false (by simp [DeviceLiveEventSubscription.hasDomain, subscribe,
        DeviceEventDomain.name, text]) id

theorem changes_names (scope : DeviceEventScope) (event : LiveUpdateEvent)
    (domain : DeviceEventDomain) :
    ((subscribe epoch start scope).changes event).names domain = true ↔
      scope.Subscribes domain ∧ domain.ChangedBy event := by
  rw [← hasDomain_iff epoch start]
  cases domain with
  | timers =>
    simp only [DeviceLiveEventSubscription.changes, HintContent.names, List.any_eq_true,
      Bool.and_eq_true, beq_iff_eq, DeviceEventDomain.ChangedBy, DeviceEventDomain.name]
    constructor
    · rintro ⟨_, member, rfl, subscribed⟩
      exact ⟨subscribed, member⟩
    · rintro ⟨subscribed, member⟩
      exact ⟨_, member, rfl, subscribed⟩
  | recordings =>
    simp only [DeviceLiveEventSubscription.changes, HintContent.names, List.any_eq_true,
      Bool.and_eq_true, Bool.or_eq_true, beq_iff_eq, DeviceEventDomain.ChangedBy,
      DeviceEventDomain.name]
    constructor
    · rintro ⟨_, member, rfl | rfl, subscribed⟩
      · exact ⟨subscribed, .inl member⟩
      · exact ⟨subscribed, .inr member⟩
    · rintro ⟨subscribed, member | member⟩
      · exact ⟨_, member, .inl rfl, subscribed⟩
      · exact ⟨_, member, .inr rfl, subscribed⟩

theorem changes_eq_none_iff (scope : DeviceEventScope) (event : LiveUpdateEvent) :
    (subscribe epoch start scope).changes event = .domains false false ↔
      ∀ domain : DeviceEventDomain, ¬ (scope.Subscribes domain ∧ domain.ChangedBy event) := by
  constructor
  · intro unchanged domain concerned
    have named := (changes_names epoch start scope event domain).mpr concerned
    rw [unchanged] at named
    cases domain <;> cases named
  · intro unconcerned
    have unnamed (domain : DeviceEventDomain) :
        ((subscribe epoch start scope).changes event).names domain = false :=
      Bool.eq_false_iff.mpr fun named =>
        unconcerned domain ((changes_names epoch start scope event domain).mp named)
    exact congrArg₂ HintContent.domains (unnamed .timers) (unnamed .recordings)

theorem offer_of_concerns {scope : DeviceEventScope} {step : StreamStep}
    (concerned : Concerns scope step) : ∃ content now,
      offer (subscribe epoch start scope) step = some (content, now) ∧ Tells scope content step := by
  cases step with
  | deliver event now =>
    obtain ⟨domains, rfl, domain, member, changed⟩ := concerned
    have changes : ¬ (subscribe epoch start (.backend event.backendId domains)).changes event =
        .domains false false := fun unchanged =>
      (changes_eq_none_iff epoch start _ event).mp unchanged domain ⟨member, changed⟩
    exact ⟨_, now, if_neg (not_or.mpr ⟨fun other => other rfl, changes⟩),
      changes_names epoch start _ event⟩
  | deliverOperation operationId now =>
    obtain ⟨suffix, rfl, rfl⟩ := concerned
    exact ⟨.operation, now, if_neg (by simp [subscribe, operationPrefix, text]), rfl⟩
  | next now => cases concerned
  | close => cases concerned

theorem concerns_of_offer {scope : DeviceEventScope} {step : StreamStep} {content : HintContent}
    {now : Nat} (offered : offer (subscribe epoch start scope) step = some (content, now)) :
    Concerns scope step := by
  cases step with
  | deliver event now =>
    rw [offer] at offered
    split at offered
    · cases offered
    · next concerned =>
        obtain ⟨same, changes⟩ := not_or.mp concerned
        rw [changes_eq_none_iff] at changes
        obtain ⟨domain, concern⟩ := not_forall.mp changes
        obtain ⟨subscribed, changed⟩ := not_not.mp concern
        cases scope with
        | backend backendId domains =>
          exact ⟨domains, by rw [not_not.mp same]; rfl, domain, subscribed, changed⟩
        | operation suffix => cases subscribed
  | deliverOperation operationId now =>
    rw [offer] at offered
    split at offered
    · cases offered
    · next concerned =>
        obtain ⟨present, same⟩ := not_or.mp concerned
        cases scope with
        | backend backendId domains => exact absurd rfl present
        | operation suffix => exact ⟨suffix, rfl, (not_not.mp same).symm⟩
  | next now => cases offered
  | close => cases offered

theorem tells_within {scope : DeviceEventScope} {step : StreamStep} {content : HintContent}
    {now : Nat} (offered : offer (subscribe epoch start scope) step = some (content, now)) :
    WithinScope scope content := by
  cases step with
  | deliver event now =>
    rw [offer] at offered
    split at offered
    · cases offered
    · cases offered
      refine ⟨fun domain named => ((changes_names epoch start scope event domain).mp named).1, ?_⟩
      intro operation
      cases operation
  | deliverOperation operationId now =>
    rw [offer] at offered
    split at offered
    · cases offered
    · next concerned =>
        cases offered
        refine ⟨fun domain named => (Bool.false_ne_true named).elim, fun _ => ?_⟩
        cases scope with
        | backend backendId domains => exact absurd (.inl rfl) concerned
        | operation suffix => exact ⟨suffix, rfl⟩
  | next now => cases offered
  | close => cases offered

theorem taken_offered {subscription : DeviceLiveEventSubscription} {queue : DeviceEventQueue}
    {step : StreamStep} {content : HintContent}
    (told : taken subscription queue step = some content) :
    ∃ now, offer subscription step = some (content, now) := by
  unfold taken at told
  cases offered : offer subscription step with
  | none =>
    rw [offered] at told
    cases told
  | some pair =>
    obtain ⟨other, now⟩ := pair
    rw [offered] at told
    simp only [Option.ite_none_left_eq_some, Option.some.injEq] at told
    exact ⟨now, by rw [told.2]⟩

theorem hints_within {scope : DeviceEventScope} (queue : DeviceEventQueue)
    (steps : List StreamStep) :
    ∀ content ∈ hints (subscribe epoch start scope) queue steps, WithinScope scope content := by
  induction steps generalizing queue with
  | nil => exact fun _ none => absurd none List.not_mem_nil
  | cons step rest ih =>
    intro content member
    rw [hints] at member
    obtain first | later := List.mem_append.mp member
    · obtain ⟨now, offered⟩ := taken_offered (Option.mem_toList.mp first)
      exact tells_within epoch start offered
    · exact ih _ content later

theorem unconcerned_unchanged {scope : DeviceEventScope} {step : StreamStep}
    (unconcerned : ¬ Concerns scope step) (reads : ∀ now, step ≠ .next now) (closes : step ≠ .close)
    (queue : DeviceEventQueue) :
    streamStep (subscribe epoch start scope) queue step = (queue, none) := by
  cases offered : offer (subscribe epoch start scope) step with
  | none =>
    obtain ⟨now, read⟩ | close | idle :=
      @step_of_no_offer (subscribe epoch start scope) queue step offered
    · exact absurd read (reads now)
    · exact absurd close closes
    · exact idle
  | some pair =>
    obtain ⟨content, now⟩ := pair
    exact absurd (concerns_of_offer epoch start offered) unconcerned

def StreamStep.moment : StreamStep → Nat
  | .deliver _ now => now
  | .deliverOperation _ now => now
  | .next now => now
  | .close => 0

theorem offer_moment {subscription : DeviceLiveEventSubscription} {step : StreamStep}
    {content : HintContent} {now : Nat} (offered : offer subscription step = some (content, now)) :
    now = step.moment := by
  cases step with
  | deliver event now =>
    rw [offer] at offered
    split at offered
    · cases offered
    · cases offered
      rfl
  | deliverOperation operationId now =>
    rw [offer] at offered
    split at offered
    · cases offered
    · cases offered
      rfl
  | next now => cases offered
  | close => cases offered

/-- What concerns an open stream is told by a read that comes late enough, or the reader is asked
to reload, or told that the stream is over. -/
theorem concerned_told {scope : DeviceEventScope} {queue : DeviceEventQueue} {step : StreamStep}
    (concerned : Concerns scope step) (alive : queue.closed = false)
    (unexpired : step.moment < (subscribe epoch start scope).expires) {later : List StreamStep}
    (reads : maximumPending ≤ readerSteps later) :
    (∃ content, Tells scope content step ∧
        hintText (subscribe epoch start scope) (queue.sequence + 1) content ∈
          returned (subscribe epoch start scope)
            (streamStep (subscribe epoch start scope) queue step).1 later) ∨
      frameText (subscribe epoch start scope) .resync ∈
        returned (subscribe epoch start scope)
          (streamStep (subscribe epoch start scope) queue step).1 later ∨
      Ended (subscribe epoch start scope)
        (streamStep (subscribe epoch start scope) queue step).1 later := by
  obtain ⟨content, now, offered, tells⟩ := offer_of_concerns epoch start concerned
  have admitted : ¬ (subscribe epoch start scope).refuses queue now = true := by
    rw [offer_moment offered, DeviceLiveEventSubscription.refuses, alive, Bool.false_or,
      decide_eq_true_eq]
    omega
  have stepped := @step_of_offer (subscribe epoch start scope) queue _ _ _ offered
  rw [if_neg admitted, DeviceEventQueue.push] at stepped
  by_cases full : maximumPending ≤ queue.pending.length
  · rw [if_pos full] at stepped
    rw [stepped]
    obtain reload | reload | told := @waiting_returned (subscribe epoch start scope)
      { queue with pending := [.resync], closed := true } [] [] .resync rfl later
      (Nat.lt_of_lt_of_le (by decide) reads)
    · exact .inr (.inl reload)
    · exact .inr (.inl reload)
    · exact .inr (.inr told)
  · rw [if_neg full] at stepped
    rw [stepped]
    have found := @waiting_returned (subscribe epoch start scope)
      { queue with
        sequence := queue.sequence + 1
        pending := queue.pending ++ [.hint (queue.sequence + 1) content] }
      queue.pending [] (.hint (queue.sequence + 1) content) rfl later
      (Nat.lt_of_lt_of_le (Nat.lt_of_not_le full) reads)
    exact found.imp_left fun told => ⟨content, tells, told⟩

theorem final_sequence (subscription : DeviceLiveEventSubscription) (queue : DeviceEventQueue)
    (steps : List StreamStep) :
    (Run.final (streamStep subscription) queue steps).sequence =
      queue.sequence + (hints subscription queue steps).length := by
  induction steps generalizing queue with
  | nil => rfl
  | cons step rest ih =>
    rw [Run.final_cons, ih]
    obtain ⟨now, rfl⟩ | moved := step_moved subscription queue step
    · have untold : taken subscription queue (.next now) = none := rfl
      have kept : (streamStep subscription queue (.next now)).1.sequence = queue.sequence := by
        obtain read | ⟨-, read⟩ | ⟨first, later, -, read⟩ := next_cases subscription queue now
        all_goals rw [streamStep, read]
      rw [hints_cons_none untold, kept]
    · cases moved with
      | idle same none => rw [hints_cons_none none, same]
      | told alive short after some =>
        rw [hints_cons_some some, after, List.length_cons]
        simp only
        omega
      | overflow alive after none => rw [hints_cons_none none, after]
      | closed after none => rw [hints_cons_none none, after]

/-- Over every run of a device's stream the reader gets the greeting and then the hints by their
numbers without a gap, up to some point, and at most one request to reload behind them; a hint is
only about what is subscribed; what concerns the open stream is told, or the reader is asked to
reload, or told that the stream is over, as soon as it has read often enough; and what does not
concern the stream changes nothing. -/
theorem device_stream_has_no_unnoticed_gap (scope : DeviceEventScope) (steps : List StreamStep) :
    (∃ count,
      returned (subscribe epoch start scope) {} steps =
          ((.hello :: numbered 0 (hints (subscribe epoch start scope) {} steps)).take
            count).map (frameText (subscribe epoch start scope)) ∨
        returned (subscribe epoch start scope) {} steps =
          ((.hello :: numbered 0 (hints (subscribe epoch start scope) {} steps)).take
            count).map (frameText (subscribe epoch start scope)) ++
              [frameText (subscribe epoch start scope) .resync]) ∧
      (∀ content ∈ hints (subscribe epoch start scope) {} steps, WithinScope scope content) ∧
      ∀ earlier step later, steps = earlier ++ step :: later →
        (Concerns scope step →
          (Run.final (streamStep (subscribe epoch start scope)) {} earlier).closed = false →
          step.moment < (subscribe epoch start scope).expires →
          maximumPending ≤ readerSteps later →
          (∃ content, Tells scope content step ∧
            hintText (subscribe epoch start scope)
                ((hints (subscribe epoch start scope) {} earlier).length + 1) content ∈
              returned (subscribe epoch start scope)
                (Run.final (streamStep (subscribe epoch start scope)) {} (earlier ++ [step]))
                later) ∨
            frameText (subscribe epoch start scope) .resync ∈
              returned (subscribe epoch start scope)
                (Run.final (streamStep (subscribe epoch start scope)) {} (earlier ++ [step]))
                later ∨
            Ended (subscribe epoch start scope)
              (Run.final (streamStep (subscribe epoch start scope)) {} (earlier ++ [step]))
              later) ∧
        (¬ Concerns scope step → (∀ now, step ≠ .next now) → step ≠ .close →
          streamStep (subscribe epoch start scope)
              (Run.final (streamStep (subscribe epoch start scope)) {} earlier) step =
            (Run.final (streamStep (subscribe epoch start scope)) {} earlier, none)) := by
  refine ⟨@open_returned (subscribe epoch start scope) {} rfl steps, hints_within epoch start {} steps,
    ?_⟩
  intro earlier step later _
  constructor
  · intro concerned alive unexpired reads
    have count := final_sequence (subscribe epoch start scope) {} earlier
    rw [Nat.zero_add] at count
    rw [← count, Run.final_concat]
    exact concerned_told epoch start concerned alive unexpired reads
  · exact fun unconcerned reads closes => unconcerned_unchanged epoch start unconcerned reads closes _

end Scopes

def homeTimers : DeviceEventScope := .backend (text "home") [.timers]

def timersChanged : StreamStep :=
  .deliver { backendId := text "home", changedDomains := [text "timers"] } 5

/-- A device that watches the timers and reads 64 times behind a change. -/
theorem device_stream_has_no_unnoticed_gap_timers :
    (∃ content, Tells homeTimers content timersChanged ∧
        hintText (subscribe [] 0 homeTimers) 1 content ∈
          returned (subscribe [] 0 homeTimers)
            (Run.final (streamStep (subscribe [] 0 homeTimers)) {} [timersChanged])
            (List.replicate 64 (.next 6))) ∨
      frameText (subscribe [] 0 homeTimers) .resync ∈
        returned (subscribe [] 0 homeTimers)
          (Run.final (streamStep (subscribe [] 0 homeTimers)) {} [timersChanged])
          (List.replicate 64 (.next 6)) ∨
      Ended (subscribe [] 0 homeTimers)
        (Run.final (streamStep (subscribe [] 0 homeTimers)) {} [timersChanged])
        (List.replicate 64 (.next 6)) :=
  ((device_stream_has_no_unnoticed_gap [] 0 homeTimers
    (timersChanged :: List.replicate 64 (.next 6))).2.2 [] timersChanged _ rfl).1
      ⟨[.timers], rfl, .timers, List.mem_cons_self, List.mem_cons_self⟩ rfl (by decide) (by decide)

end VdrSuite.Live
