import VdrSuite.Osd.OsdViewerDelivery

/-! The reads of one binding, over every run of the service from its start. -/

set_option autoImplicit false

namespace VdrSuite.Osd.Viewer

open Library

section
variable {viewerBindingId : Bytes}

theorem heardOf_append (viewerBindingId : Bytes) (earlier later : List (ViewerStep × ViewerAnswer)) :
    heardOf viewerBindingId (earlier ++ later) =
      heardOf viewerBindingId earlier ++ heardOf viewerBindingId later :=
  List.filterMap_append

/-! ## Before the binding is there -/

theorem Unknown.step {service : ViewerService} (unknown : Unknown viewerBindingId service)
    {step : ViewerStep} (other : ¬step.Attaches viewerBindingId) :
    Unknown viewerBindingId (service.step step).1 := by
  have gone {bindings : OsdViewerBindings}
      (kept : ∀ binding, bindings.find viewerBindingId = some binding →
        service.bindings.find viewerBindingId = some binding) :
      bindings.find viewerBindingId = none := by
    cases found : bindings.find viewerBindingId with
    | none => rfl
    | some binding =>
      have there := kept binding found
      rw [unknown.absent] at there
      cases there
  cases step with
  | attach request now sessionResult viewerId =>
    refine ⟨gone fun binding found => ?_, unknown.own, unknown.unread⟩
    rcases find_attach found with kept | ⟨same, -⟩
    · exact kept
    · exact absurd same other
  | beginRead request now =>
    rw [ViewerService.step]
    cases began : beginRead service.bindings request now with
    | mk bindings answer =>
      have kept : ∀ binding, bindings.find viewerBindingId = some binding →
          service.bindings.find viewerBindingId = some binding := fun binding found =>
        @find_beginRead _ _ _ request now (by rwa [began])
      cases answer with
      | error error => exact ⟨gone kept, unknown.own, unknown.unread⟩
      | ok found =>
        have there := @found_of_beginRead service.bindings found request now (by rw [began])
        rw [began] at there
        have named : found.viewerBindingId = request.viewerBindingId :=
          (OsdViewerBindings.find_eq_some_iff.mp there).2
        refine ⟨gone kept, ?_, ?_⟩
        · intro read member
          rcases List.mem_append.mp member with earlier | new
          · exact unknown.own read earlier
          · rw [List.mem_singleton] at new
            rw [new]
            exact named
        · intro read member same
          rcases List.mem_append.mp member with earlier | new
          · exact unknown.unread read earlier same
          · rw [List.mem_singleton] at new
            subst new
            rw [← named, show found.viewerBindingId = viewerBindingId from same,
              gone kept] at there
            cases there
  | concludeRead index sessionResult =>
    rw [ViewerService.step]
    cases there : service.reads[index]? with
    | none => exact unknown
    | some read =>
      have listed := List.mem_of_getElem? there
      have earlier : ∀ other ∈ service.reads.eraseIdx index, other ∈ service.reads :=
        fun other listed => List.mem_of_mem_eraseIdx listed
      dsimp only
      refine ⟨?_, fun other member => unknown.own other (earlier other member),
        fun other member => unknown.unread other (earlier other member)⟩
      exact gone fun binding found =>
        (concludeRead_cases service.bindings read sessionResult).find_other
          (unknown.unread read listed) found
  | detach request now =>
    exact ⟨gone fun binding found => find_detach found, unknown.own, unknown.unread⟩

theorem unknown_run {steps : List ViewerStep} (others : ∀ step ∈ steps, ¬step.Attaches viewerBindingId) :
    Unknown viewerBindingId (Run.final ViewerService.step {} steps) := by
  refine Run.final_preserves_of_admits ViewerService.step (Unknown viewerBindingId)
    (fun service step unknown other => unknown.step other) ⟨rfl, by simp, by simp⟩
    (Run.admits_of_forall ViewerService.step others)

/-! ## After it -/

theorem Unknown.attach {service : ViewerService} (unknown : Unknown viewerBindingId service)
    (request : OsdViewerAttachRequest) (now : Int) (sessionResult : LegacyOsdSessionResult) :
    Followed viewerBindingId
      (service.step (.attach request now sessionResult viewerBindingId)).1 [] := by
  refine ⟨unknown.own, fun read member _ same _ => absurd same (unknown.unread read member), ?_,
    trivial⟩
  intro stored found
  rcases find_attach found with kept | ⟨-, rfl⟩
  · rw [unknown.absent] at kept
    cases kept
  · exact ⟨rfl, fun _ => rfl, fun _ => rfl, .inl rfl, .inl rfl⟩

theorem followed_run {service : ViewerService} (followed : Followed viewerBindingId service [])
    {steps : List ViewerStep} (others : ∀ step ∈ steps, ¬step.Attaches viewerBindingId) :
    Followed viewerBindingId (Run.final ViewerService.step service steps)
      (heardOf viewerBindingId (Run.journal ViewerService.step service steps)) := by
  refine @Run.final_journal_preserves_of_admits _ _ _ ViewerService.step
    (fun _ step => ¬step.Attaches viewerBindingId)
    (fun service entries => Followed viewerBindingId service (heardOf viewerBindingId entries))
    ?_ service [] followed steps (Run.admits_of_forall ViewerService.step others)
  intro service entries step followed other
  rw [heardOf_append]
  exact followed.step other

/-! ## Revisions -/

theorem Concluded.revision {bindings remaining : OsdViewerBindings} {read : PendingRead}
    {sessionResult : LegacyOsdSessionResult} {result : OsdViewerDeliveryResult}
    (concluded : Concluded bindings read sessionResult remaining result) {new : OsdViewerBinding}
    (found : remaining.find viewerBindingId = some new) :
    ∃ old, bindings.find viewerBindingId = some old ∧
      (new = old ∨ old.bindingRevision < new.bindingRevision) := by
  by_cases mine : read.found.viewerBindingId = viewerBindingId
  · cases concluded with
    | dropped error kept => exact ⟨new, kept viewerBindingId new found, .inl rfl⟩
    | @stored current stored result there same examined =>
      rw [OsdViewerBindings.find_put, if_pos (examined.kept.trans mine)] at found
      cases found
      rw [mine] at there
      refine ⟨current, there, .inr ?_⟩
      simp only
      omega
  · exact ⟨new, concluded.find_other mine found, .inl rfl⟩

theorem revision_step {service : ViewerService} {step : ViewerStep}
    (other : ¬step.Attaches viewerBindingId) {new : OsdViewerBinding}
    (found : (service.step step).1.bindings.find viewerBindingId = some new) :
    ∃ old, service.bindings.find viewerBindingId = some old ∧
      (new = old ∨ old.bindingRevision < new.bindingRevision) := by
  cases step with
  | attach request now sessionResult viewerId =>
    rcases find_attach found with kept | ⟨same, -⟩
    · exact ⟨new, kept, .inl rfl⟩
    · exact absurd same other
  | beginRead request now =>
    refine ⟨new, @find_beginRead _ _ _ request now ?_, .inl rfl⟩
    rw [ViewerService.step] at found
    cases began : beginRead service.bindings request now with
    | mk bindings answer =>
      rw [began] at found
      cases answer with
      | error error => exact found
      | ok binding => exact found
  | concludeRead index sessionResult =>
    rw [ViewerService.step] at found
    cases there : service.reads[index]? with
    | none =>
      rw [there] at found
      exact ⟨new, found, .inl rfl⟩
    | some read =>
      rw [there] at found
      dsimp only at found
      exact (concludeRead_cases service.bindings read sessionResult).revision found
  | detach request now => exact ⟨new, find_detach found, .inl rfl⟩

theorem revision_run {steps : List ViewerStep} (others : ∀ step ∈ steps, ¬step.Attaches viewerBindingId)
    {service : ViewerService} {new : OsdViewerBinding}
    (found : (Run.final ViewerService.step service steps).bindings.find viewerBindingId = some new) :
    ∃ old, service.bindings.find viewerBindingId = some old ∧
      (new = old ∨ old.bindingRevision < new.bindingRevision) := by
  induction steps generalizing service with
  | nil => exact ⟨new, found, .inl rfl⟩
  | cons step rest ih =>
    obtain ⟨between, there, grown⟩ :=
      ih (fun other later => others other (List.mem_cons_of_mem step later)) found
    obtain ⟨old, before, grew⟩ := revision_step (others step List.mem_cons_self) there
    refine ⟨old, before, ?_⟩
    rcases grown with rfl | grown
    · exact grew
    · rcases grew with rfl | grew
      · exact .inr grown
      · exact .inr (grew.trans grown)

end

/-! ## What is delivered -/

/-- An accepted result says nothing but what the session has shown to the read. -/
structure Shown (read : PendingRead) (sessionResult : LegacyOsdSessionResult)
    (result : OsdViewerDeliveryResult) : Prop where
  own : result.accepted = true → result.binding.viewerBindingId = read.request.viewerBindingId
  noChange : result.accepted = true → result.state = .noChange →
    read.request.acknowledgedFrameSequence =
      sessionResult.observation.buffer.observed.frame.frameSequence
  frame : result.accepted = true → result.state = .frame →
    result.hasFrame = true ∧ result.frame = sessionResult.observation.buffer.observed.frame ∧
      Deliverable result.binding result.frame

theorem Concluded.shown {bindings remaining : OsdViewerBindings} {read : PendingRead}
    {sessionResult : LegacyOsdSessionResult} {result : OsdViewerDeliveryResult}
    (named : read.found.viewerBindingId = read.request.viewerBindingId)
    (concluded : Concluded bindings read sessionResult remaining result) :
    Shown read sessionResult result := by
  cases concluded with
  | dropped error kept =>
    constructor <;> intro accepted <;> cases accepted
  | @stored current stored result there same examined =>
    refine ⟨fun _ => examined.kept.trans named, ?_, ?_⟩
    · intro accepted state
      cases examined with
      | noChange kept delivered acked current => exact current
      | notice reason kept => cases state
      | suspension reason kept delivered acked => cases state
      | frame kept acked deliverable follows => cases state
    · intro accepted state
      cases examined with
      | frame kept acked deliverable follows =>
        exact ⟨rfl, rfl, deliverable.fullFrame, deliverable.complete, deliverable.numbered,
          deliverable.withinLimits, deliverable.sameSurface⟩
      | notice reason kept => cases state
      | suspension reason kept delivered acked => cases state
      | noChange kept delivered acked current => cases state

/-- The reads that have begun have found their own bindings, and all answered reads were shown what
they were told. -/
structure Answered (service : ViewerService) (journal : List (ViewerStep × ViewerAnswer)) :
    Prop where
  own : ∀ read ∈ service.reads, read.found.viewerBindingId = read.request.viewerBindingId
  shown : ∀ index sessionResult read result,
    (.concludeRead index sessionResult, .delivered read result) ∈ journal →
    Shown read sessionResult result

theorem Answered.step {service : ViewerService} {journal : List (ViewerStep × ViewerAnswer)}
    (answered : Answered service journal) (step : ViewerStep) :
    Answered (service.step step).1 (journal ++ [(step, (service.step step).2)]) := by
  have silent {reads : List PendingRead} {bindings : OsdViewerBindings} {answer : ViewerAnswer}
      (own : ∀ read ∈ reads, read.found.viewerBindingId = read.request.viewerBindingId)
      (quiet : ∀ read result, answer ≠ .delivered read result) :
      Answered { bindings := bindings, reads := reads } (journal ++ [(step, answer)]) := by
    refine ⟨own, fun index sessionResult read result member => ?_⟩
    rcases List.mem_append.mp member with earlier | new
    · exact answered.shown index sessionResult read result earlier
    · rw [List.mem_singleton, Prod.mk.injEq] at new
      exact absurd new.2.symm (quiet read result)
  cases step with
  | attach request now sessionResult viewerId => exact silent answered.own (by intro _ _ told; cases told)
  | beginRead request now =>
    rw [ViewerService.step]
    cases began : beginRead service.bindings request now with
    | mk bindings answer =>
      cases answer with
      | error error => exact silent answered.own (by intro _ _ told; cases told)
      | ok found =>
        refine silent (fun read member => ?_) (by intro _ _ told; cases told)
        rcases List.mem_append.mp member with earlier | new
        · exact answered.own read earlier
        · have there := @found_of_beginRead service.bindings found request now (by rw [began])
          rw [List.mem_singleton] at new
          rw [new]
          exact (OsdViewerBindings.find_eq_some_iff.mp there).2
  | concludeRead index sessionResult =>
    rw [ViewerService.step]
    cases there : service.reads[index]? with
    | none => exact silent answered.own (by intro _ _ told; cases told)
    | some read =>
      have named := answered.own read (List.mem_of_getElem? there)
      have shown := (concludeRead_cases service.bindings read sessionResult).shown named
      refine ⟨fun other member => answered.own other (List.mem_of_mem_eraseIdx member), ?_⟩
      intro otherIndex otherResult other result member
      rcases List.mem_append.mp member with earlier | new
      · exact answered.shown otherIndex otherResult other result earlier
      · rw [List.mem_singleton] at new
        cases new
        exact shown
  | detach request now => exact silent answered.own (by intro _ _ told; cases told)

theorem answered_run {service : ViewerService}
    (own : ∀ read ∈ service.reads, read.found.viewerBindingId = read.request.viewerBindingId)
    (steps : List ViewerStep) :
    Answered (Run.final ViewerService.step service steps)
      (Run.journal ViewerService.step service steps) := by
  refine Run.final_journal_preserves ViewerService.step Answered service ⟨own, ?_⟩
    (fun service journal step answered => answered.step step) steps
  intro _ _ _ _ member
  cases member

/-! ## Reads that nothing comes in between -/

theorem final_read {service : ViewerService} {request : OsdViewerReadRequest} {now : Int}
    {found : OsdViewerBinding} (began : (beginRead service.bindings request now).2 = .ok found)
    (sessionResult : LegacyOsdSessionResult) :
    Run.final ViewerService.step service
        [.beginRead request now, .concludeRead service.reads.length sessionResult] =
      { bindings := (read service.bindings request now sessionResult).1
        reads := service.reads } := by
  simp only [Run.final_cons, Run.final_nil, ViewerService.step, read]
  cases begins : beginRead service.bindings request now with
  | mk bindings answer =>
    rw [begins] at began
    cases began
    simp [List.eraseIdx_append_of_length_le]

section
variable {bindings : OsdViewerBindings} {stored : OsdViewerBinding} {frame : OsdFrame}

structure Readable (bindings : OsdViewerBindings) (stored : OsdViewerBinding)
    (request : OsdViewerReadRequest) (now : Int) : Prop where
  found : bindings.find request.viewerBindingId = some stored
  safe : request.safe = true
  views : request.views stored.toOsdViewerBinding = true
  begun : 0 ≤ now
  unexpired : now < stored.expiresAt

theorem Readable.read {request : OsdViewerReadRequest} {now : Int}
    (readable : Readable bindings stored request now) {sessionResult : LegacyOsdSessionResult}
    {binding : OsdViewerBinding} {result : OsdViewerDeliveryResult}
    (kept : binding.viewerBindingId = stored.viewerBindingId)
    (examined : examine stored request.acknowledgedFrameSequence now sessionResult =
      .store binding result) :
    read bindings request now sessionResult =
      ((bindings.reapExpired now).put
          { binding with bindingRevision := stored.bindingRevision + 1 },
        { result with binding := { binding with bindingRevision := stored.bindingRevision + 1 } }) := by
  have there := OsdViewerBindings.find_reapExpired_iff.mpr ⟨readable.found, readable.unexpired⟩
  have named : stored.viewerBindingId = request.viewerBindingId :=
    (OsdViewerBindings.find_eq_some_iff.mp readable.found).2
  have began : beginRead bindings request now = (bindings.reapExpired now, .ok stored) := by
    rw [beginRead, if_neg (by simp [readable.safe]), if_neg (not_lt.mpr readable.begun), there]
    simp [readable.views]
  have same : (bindings.reapExpired now).find binding.viewerBindingId = some stored := by
    rw [kept, named]
    exact there
  rw [Viewer.read, began]
  dsimp only
  rw [examined, concludeRead, OsdViewerBindings.updateBinding, same]
  simp

structure Shows (stored : OsdViewerBinding) (sessionResult : LegacyOsdSessionResult)
    (frame : OsdFrame) : Prop where
  accepted : sessionResult.accepted = true
  active : sessionResult.session.state = .active
  generation : sessionResult.session.backendGeneration = stored.backendGeneration
  surfaced : sessionResult.session.osdSurfaceId ≠ []
  timed : sessionResult.session.osdEpoch ≠ []
  available : sessionResult.observation.available = true
  hasFrame : sessionResult.observation.buffer.hasFrame = true
  current : sessionResult.observation.buffer.observed.frame = frame
  fullFrame : frame.fullFrame = true
  complete : frame.complete = true
  numbered : frame.frameSequence ≠ 0
  withinLimits : osdFrameWithinLimits frame = true
  backend : frame.surface.backendId = stored.backendId
  backendGeneration : frame.surface.backendGeneration = stored.backendGeneration
  surface : frame.surface.surfaceId = sessionResult.session.osdSurfaceId
  epoch : frame.surface.osdEpoch = sessionResult.session.osdEpoch

structure Awaits (stored : OsdViewerBinding) (frame : OsdFrame) : Prop where
  state : stored.state = .resyncRequired
  acknowledged : stored.lastAcknowledgedFrameSequence = 0
  delivered : stored.lastDeliveredFrameSequence = 0
  surface : stored.osdSurfaceId = frame.surface.surfaceId
  epoch : stored.osdEpoch = frame.surface.osdEpoch

theorem Shows.examined {sessionResult : LegacyOsdSessionResult}
    (shows : Shows stored sessionResult frame) (acknowledged : Nat) (now : Int) :
    examine stored acknowledged now sessionResult =
      if stored.osdSurfaceId ≠ frame.surface.surfaceId ∨ stored.osdEpoch ≠ frame.surface.osdEpoch then
        resyncNotice
          { refreshed stored sessionResult.session now with
            osdSurfaceId := frame.surface.surfaceId
            osdEpoch := frame.surface.osdEpoch }
          (text "osd_surface_or_epoch_changed")
      else if stored.state = .suspended then
        resyncNotice (refreshed stored sessionResult.session now)
          (text "viewer_resume_resync_required")
      else examineFrame (refreshed stored sessionResult.session now) acknowledged frame := by
  have viewable : sessionViewable sessionResult.session = true := by
    rw [sessionViewable, shows.active]
    rfl
  rw [examine]
  dsimp only
  rw [if_neg (by simp [shows.accepted]), if_neg (by simp [refreshed, shows.generation]),
    if_neg (by rw [shows.active]; decide),
    if_neg (by simp [viewable, shows.surfaced, shows.timed])]
  rw [← shows.surface, ← shows.epoch]
  by_cases moved : stored.osdSurfaceId ≠ frame.surface.surfaceId ∨
      stored.osdEpoch ≠ frame.surface.osdEpoch
  · rw [if_pos moved, if_pos (by simpa [refreshed] using moved)]
  · rw [if_neg moved, if_neg (by simpa [refreshed] using moved),
      if_neg (by rw [shows.active]; decide)]
    by_cases suspended : stored.state = .suspended
    · rw [if_pos suspended, if_pos (by simpa [refreshed] using suspended)]
    · rw [if_neg suspended, if_neg (by simpa [refreshed] using suspended),
        if_neg (by simp [shows.available, shows.hasFrame]), shows.current, if_neg]
      simp only [not_or, not_not] at moved
      simp [shows.fullFrame, shows.complete, shows.numbered, shows.withinLimits, sameSurface,
        refreshed, shows.backend, shows.backendGeneration, moved]

theorem examineFrame_unheard {binding : OsdViewerBinding}
    (acknowledged : binding.lastAcknowledgedFrameSequence = 0)
    (delivered : binding.lastDeliveredFrameSequence = 0) :
    examineFrame binding 0 frame = frameDelivery binding frame := by
  rw [examineFrame]
  simp [acknowledged, delivered]

theorem examineFrame_acknowledged {binding : OsdViewerBinding}
    (numbered : binding.lastDeliveredFrameSequence ≠ 0) (settled : binding.state ≠ .resyncRequired) :
    examineFrame binding binding.lastDeliveredFrameSequence frame =
      if frame.frameSequence = binding.lastDeliveredFrameSequence then
        noChange { binding with
          lastAcknowledgedFrameSequence := binding.lastDeliveredFrameSequence }
      else if binding.lastDeliveredFrameSequence ≠ 18446744073709551615 ∧
          frame.frameSequence = binding.lastDeliveredFrameSequence + 1 then
        frameDelivery
          { binding with lastAcknowledgedFrameSequence := binding.lastDeliveredFrameSequence } frame
      else
        resyncNotice
          { binding with lastAcknowledgedFrameSequence := binding.lastDeliveredFrameSequence }
          (text "viewer_sequence_gap") := by
  rw [examineFrame, if_neg (by simp)]
  simp [numbered, settled]

theorem Awaits.examined {sessionResult : LegacyOsdSessionResult} (awaits : Awaits stored frame)
    (shows : Shows stored sessionResult frame) (now : Int) :
    examine stored 0 now sessionResult =
      frameDelivery (refreshed stored sessionResult.session now) frame := by
  rw [shows.examined, if_neg (by simp [awaits.surface, awaits.epoch]),
    if_neg (by simp [awaits.state])]
  exact examineFrame_unheard awaits.acknowledged awaits.delivered

structure Succeeds (stored next : OsdViewerBinding) (session : LegacyOsdSession) : Prop where
  named : next.viewerBindingId = stored.viewerBindingId
  actorId : next.actorId = stored.actorId
  clientInstanceId : next.clientInstanceId = stored.clientInstanceId
  legacyOsdSessionId : next.legacyOsdSessionId = stored.legacyOsdSessionId
  backendId : next.backendId = stored.backendId
  backendGeneration : next.backendGeneration = stored.backendGeneration
  expiresAt : next.expiresAt = min stored.expiresAt session.expiresAt

theorem Succeeds.views {next : OsdViewerBinding} {session : LegacyOsdSession}
    (succeeds : Succeeds stored next session) (holder : OsdControllerHolder) :
    holder.views next.toOsdViewerBinding = holder.views stored.toOsdViewerBinding := by
  simp only [OsdControllerHolder.views, succeeds.actorId, succeeds.clientInstanceId,
    succeeds.backendId, succeeds.legacyOsdSessionId]

theorem Shows.of_succeeds {next : OsdViewerBinding} {session : LegacyOsdSession}
    {sessionResult : LegacyOsdSessionResult} (shows : Shows stored sessionResult frame)
    (succeeds : Succeeds stored next session) : Shows next sessionResult frame :=
  { shows with
    generation := shows.generation.trans succeeds.backendGeneration.symm
    backend := shows.backend.trans succeeds.backendId.symm
    backendGeneration := shows.backendGeneration.trans succeeds.backendGeneration.symm }

/-- What the examination finds for a client that acknowledges the last frame it has heard. -/
inductive Progress (stored : OsdViewerBinding) (session : LegacyOsdSession) (frame : OsdFrame)
    (heard : List Heard) : Examination → Prop where
  | frame {binding : OsdViewerBinding} (succeeds : Succeeds stored binding session) :
      Progress stored session frame heard (frameDelivery binding frame)
  | noChange {binding : OsdViewerBinding} (succeeds : Succeeds stored binding session)
      (current : lastFrame heard = some frame.frameSequence) :
      Progress stored session frame heard (noChange binding)
  | notice {binding : OsdViewerBinding} (reason : Bytes)
      (succeeds : Succeeds stored binding session)
      (surface : binding.osdSurfaceId = frame.surface.surfaceId)
      (epoch : binding.osdEpoch = frame.surface.osdEpoch) :
      Progress stored session frame heard (resyncNotice binding reason)

theorem Shows.progress {sessionResult : LegacyOsdSessionResult}
    (shows : Shows stored sessionResult frame) {heard : List Heard}
    (remembers : Remembers heard stored) (now : Int) :
    Progress stored sessionResult.session frame heard
      (examine stored ((lastFrame heard).getD 0) now sessionResult) := by
  have acknowledged : (lastFrame heard).getD 0 = stored.lastDeliveredFrameSequence := by
    rw [remembers.last]
    split
    · next zero => exact zero.symm
    · rfl
  rw [shows.examined, acknowledged]
  by_cases moved : stored.osdSurfaceId ≠ frame.surface.surfaceId ∨
      stored.osdEpoch ≠ frame.surface.osdEpoch
  · rw [if_pos moved]
    exact .notice _ ⟨rfl, rfl, rfl, rfl, rfl, rfl, rfl⟩ rfl rfl
  · rw [if_neg moved]
    simp only [not_or, not_not] at moved
    by_cases suspended : stored.state = .suspended
    · rw [if_pos suspended]
      exact .notice _ ⟨rfl, rfl, rfl, rfl, rfl, rfl, rfl⟩ moved.1 moved.2
    · rw [if_neg suspended]
      by_cases zero : stored.lastDeliveredFrameSequence = 0
      · -- nothing has been heard since the last notice
        have examined := @examineFrame_unheard frame (refreshed stored sessionResult.session now)
          (remembers.unacked zero) zero
        rw [zero, examined]
        exact .frame ⟨rfl, rfl, rfl, rfl, rfl, rfl, rfl⟩
      · have settled : stored.state ≠ .resyncRequired := fun resync => zero (remembers.fresh resync)
        have last := remembers.last
        rw [if_neg zero] at last
        have examined := @examineFrame_acknowledged frame
          (refreshed stored sessionResult.session now) zero settled
        rw [show stored.lastDeliveredFrameSequence = (refreshed stored sessionResult.session
          now).lastDeliveredFrameSequence from rfl, examined]
        split
        · next current => exact .noChange ⟨rfl, rfl, rfl, rfl, rfl, rfl, rfl⟩ (current ▸ last)
        · split
          · exact .frame ⟨rfl, rfl, rfl, rfl, rfl, rfl, rfl⟩
          · exact .notice _ ⟨rfl, rfl, rfl, rfl, rfl, rfl, rfl⟩ moved.1 moved.2

theorem Progress.named {session : LegacyOsdSession} {heard : List Heard} {binding : OsdViewerBinding}
    {result : OsdViewerDeliveryResult}
    (progress : Progress stored session frame heard (.store binding result)) :
    binding.viewerBindingId = stored.viewerBindingId := by
  cases progress with
  | frame succeeds => exact succeeds.named
  | noChange succeeds current => exact succeeds.named
  | notice reason succeeds surface epoch => exact succeeds.named

/-- The client has the current frame, or is told to start anew and has it with the next read. -/
theorem Shows.reaches {request : OsdViewerReadRequest} {now : Int}
    {sessionResult : LegacyOsdSessionResult} (shows : Shows stored sessionResult frame)
    {heard : List Heard} (remembers : Remembers heard stored)
    (readable : Readable bindings stored request now)
    (acknowledges : request.acknowledgedFrameSequence = (lastFrame heard).getD 0) :
    (read bindings request now sessionResult).2.accepted = true ∧
      ((read bindings request now sessionResult).2.state = .frame ∧
          (read bindings request now sessionResult).2.frame = frame ∨
        (read bindings request now sessionResult).2.state = .noChange ∧
          lastFrame heard = some frame.frameSequence ∨
        (read bindings request now sessionResult).2.state = .resyncRequired ∧
          ∃ next, (read bindings request now sessionResult).1.find request.viewerBindingId =
              some next ∧ Succeeds stored next sessionResult.session ∧ Awaits next frame) := by
  have progress := shows.progress remembers now
  rw [← acknowledges] at progress
  cases examined : examine stored request.acknowledgedFrameSequence now sessionResult with
  | erase error =>
    rw [examined] at progress
    cases progress
  | store binding result =>
    rw [examined] at progress
    rw [readable.read progress.named examined]
    cases progress with
    | frame succeeds => exact ⟨rfl, .inl ⟨rfl, rfl⟩⟩
    | noChange succeeds current => exact ⟨rfl, .inr (.inl ⟨rfl, current⟩)⟩
    | @notice binding reason succeeds surface epoch =>
      refine ⟨rfl, .inr (.inr ⟨rfl, { requireResync binding reason with
        bindingRevision := stored.bindingRevision + 1 }, ?_, ?_, rfl, rfl, rfl, surface, epoch⟩)⟩
      · refine (OsdViewerBindings.find_put _).trans (if_pos ?_)
        exact succeeds.named.trans (OsdViewerBindings.find_eq_some_iff.mp readable.found).2
      · exact ⟨succeeds.named, succeeds.actorId, succeeds.clientInstanceId,
          succeeds.legacyOsdSessionId, succeeds.backendId, succeeds.backendGeneration,
          succeeds.expiresAt⟩

theorem Awaits.reaches {request : OsdViewerReadRequest} {now : Int}
    {sessionResult : LegacyOsdSessionResult} (awaits : Awaits stored frame)
    (shows : Shows stored sessionResult frame)
    (readable : Readable bindings stored request now)
    (acknowledges : request.acknowledgedFrameSequence = 0) :
    (read bindings request now sessionResult).2.accepted = true ∧
      (read bindings request now sessionResult).2.state = .frame ∧
      (read bindings request now sessionResult).2.frame = frame := by
  have examined := awaits.examined shows now
  rw [← acknowledges] at examined
  have answered := @Readable.read bindings stored request now readable sessionResult
    { refreshed stored sessionResult.session now with
      state := .attached
      closeReason := []
      lastDeliveredFrameSequence := frame.frameSequence }
    { accepted := true, state := .frame, hasFrame := true, frame := frame } rfl examined
  rw [answered]
  exact ⟨rfl, rfl, rfl⟩

end

/-! ## One binding over a run -/

def ViewerService.opened (before : List ViewerStep) (request : OsdViewerAttachRequest) (now : Int)
    (sessionResult : LegacyOsdSessionResult) (viewerBindingId : Bytes) : ViewerService :=
  ((Run.final ViewerService.step {} before).step
    (.attach request now sessionResult viewerBindingId)).1

structure NeverSkips (viewerBindingId : Bytes) (opened : ViewerService) (steps : List ViewerStep) :
    Prop where
  /-- No change is told only to a client that acknowledges the current frame. -/
  noChange : ∀ index sessionResult read result,
    (.concludeRead index sessionResult, .delivered read result) ∈
      Run.journal ViewerService.step opened steps →
    result.accepted = true → result.state = .noChange →
    read.request.acknowledgedFrameSequence =
      sessionResult.observation.buffer.observed.frame.frameSequence
  /-- A delivered frame is the full and complete frame of the surface of its binding. -/
  frame : ∀ index sessionResult read result,
    (.concludeRead index sessionResult, .delivered read result) ∈
      Run.journal ViewerService.step opened steps →
    result.accepted = true → result.state = .frame →
    result.hasFrame = true ∧ result.frame = sessionResult.observation.buffer.observed.frame ∧
      result.binding.viewerBindingId = read.request.viewerBindingId ∧
      Deliverable result.binding result.frame
  /-- Between two notices the sequences of the delivered frames grow by zero or one. -/
  grows : Grows none (heardOf viewerBindingId (Run.journal ViewerService.step opened steps))
  /-- What counts as acknowledged has been delivered. -/
  acknowledged : ∀ binding,
    (Run.final ViewerService.step opened steps).bindings.find viewerBindingId = some binding →
    binding.lastAcknowledgedFrameSequence = 0 ∨
      .frame binding.lastAcknowledgedFrameSequence ∈
        heardOf viewerBindingId (Run.journal ViewerService.step opened steps)
  /-- A binding that has changed has a greater revision. -/
  revision : ∀ earlier later old new, steps = earlier ++ later →
    (Run.final ViewerService.step opened earlier).bindings.find viewerBindingId = some old →
    (Run.final ViewerService.step opened steps).bindings.find viewerBindingId = some new →
    new = old ∨ old.bindingRevision < new.bindingRevision
  /-- A client that acknowledges what it has heard has the current frame after two reads at most,
  whatever happens to other bindings in between. -/
  current : ∀ stored frame request now sessionResult,
    request.viewerBindingId = viewerBindingId →
    Readable (Run.final ViewerService.step opened steps).bindings stored request now →
    Shows stored sessionResult frame →
    request.acknowledgedFrameSequence =
      (lastFrame (heardOf viewerBindingId (Run.journal ViewerService.step opened steps))).getD 0 →
    (read (Run.final ViewerService.step opened steps).bindings request now
        sessionResult).2.accepted = true ∧
      ((read (Run.final ViewerService.step opened steps).bindings request now
            sessionResult).2.state = .frame ∧
          (read (Run.final ViewerService.step opened steps).bindings request now
            sessionResult).2.frame = frame ∨
        (read (Run.final ViewerService.step opened steps).bindings request now
            sessionResult).2.state = .noChange ∧
          lastFrame (heardOf viewerBindingId (Run.journal ViewerService.step opened steps)) =
            some frame.frameSequence ∨
        (read (Run.final ViewerService.step opened steps).bindings request now
            sessionResult).2.state = .resyncRequired ∧
          ∀ (bindings : OsdViewerBindings) (nextNow : Int) (nextResult : LegacyOsdSessionResult),
            bindings.find viewerBindingId =
              (read (Run.final ViewerService.step opened steps).bindings request now
                sessionResult).1.find viewerBindingId →
            0 ≤ nextNow → nextNow < min stored.expiresAt sessionResult.session.expiresAt →
            Shows stored nextResult frame →
            (read bindings { request with acknowledgedFrameSequence := 0 } nextNow
                nextResult).2.accepted = true ∧
              (read bindings { request with acknowledgedFrameSequence := 0 } nextNow
                nextResult).2.state = .frame ∧
              (read bindings { request with acknowledgedFrameSequence := 0 } nextNow
                nextResult).2.frame = frame)

/-- In a run in which the identifier of the binding is made once. -/
theorem viewer_never_skips {before after : List ViewerStep} {viewerBindingId : Bytes}
    (once : ∀ step ∈ before ++ after, ¬step.Attaches viewerBindingId)
    (request : OsdViewerAttachRequest) (now : Int) (sessionResult : LegacyOsdSessionResult) :
    NeverSkips viewerBindingId
      (ViewerService.opened before request now sessionResult viewerBindingId) after := by
  have unknown := unknown_run fun step earlier => once step (List.mem_append_left after earlier)
  have others := fun step later => once step (List.mem_append_right before later)
  have attached := unknown.attach request now sessionResult
  have followed := followed_run attached others
  have answered := answered_run attached.own after
  constructor
  · intro index sessionResult read result told
    exact (answered.shown index sessionResult read result told).noChange
  · intro index sessionResult read result told accepted state
    have shown := answered.shown index sessionResult read result told
    obtain ⟨has, same, deliverable⟩ := shown.frame accepted state
    exact ⟨has, same, shown.own accepted, deliverable⟩
  · exact followed.grows
  · intro binding found
    exact (followed.remembers binding found).acked
  · intro earlier later old new split before found
    rw [split, Run.final_append] at found
    obtain ⟨same, there, grown⟩ := revision_run
      (fun step member => others step (split ▸ List.mem_append_right earlier member)) found
    rw [before] at there
    cases there
    exact grown
  · intro stored frame request now sessionResult own readable shows acknowledges
    have remembers := followed.remembers stored (own ▸ readable.found)
    refine (shows.reaches remembers readable acknowledges).imp_right (Or.imp_right (Or.imp_right ?_))
    rintro ⟨notified, next, found, succeeds, awaits⟩
    refine ⟨notified, fun bindings nextNow nextResult kept begun unexpired nextShows => ?_⟩
    refine awaits.reaches (nextShows.of_succeeds succeeds) ⟨?_, ?_, ?_, begun, ?_⟩ rfl
    · rw [own] at found
      rw [own, kept]
      exact found
    · exact readable.safe
    · rw [succeeds.views]
      exact readable.views
    · rw [succeeds.expiresAt]
      exact unexpired

def sampleAttachment : OsdViewerAttachRequest where
  actorId := text "user:viewer"
  clientInstanceId := text "device:viewer"
  backendId := text "default"
  legacyOsdSessionId := text "los_001"

def sampleViewing (sequence : Nat) : LegacyOsdSessionResult where
  accepted := true
  session :=
    { backendId := text "default", backendGeneration := 7, state := .active, expiresAt := 300
      osdSurfaceId := text "primary-native-osd", osdEpoch := text "e1" }
  observation :=
    { available := true
      buffer :=
        { hasFrame := true
          observed :=
            { frame :=
                { surface :=
                    { backendId := text "default", backendGeneration := 7
                      surfaceId := text "primary-native-osd", osdEpoch := text "e1" }
                  frameSequence := sequence } } } }

def sampleReading (acknowledged : Nat) : OsdViewerReadRequest where
  actorId := text "user:viewer"
  clientInstanceId := text "device:viewer"
  backendId := text "default"
  legacyOsdSessionId := text "los_001"
  viewerBindingId := text "ovb_001"
  acknowledgedFrameSequence := acknowledged

def sampleReads : List ViewerStep :=
  [.beginRead (sampleReading 0) 11, .concludeRead 0 (sampleViewing 1),
    .beginRead (sampleReading 1) 12, .concludeRead 0 (sampleViewing 3)]

theorem viewer_never_skips_gap :
    heardOf (text "ovb_001") (Run.journal ViewerService.step
        (ViewerService.opened [] sampleAttachment 10 (sampleViewing 1) (text "ovb_001"))
        sampleReads) = [.frame 1, .notice] ∧
      NeverSkips (text "ovb_001")
        (ViewerService.opened [] sampleAttachment 10 (sampleViewing 1) (text "ovb_001"))
        sampleReads :=
  ⟨by decide,
    viewer_never_skips (by simp [sampleReads, ViewerStep.Attaches]) sampleAttachment 10
      (sampleViewing 1)⟩

/-! ## After the binding -/

/-- A read in progress that found the binding has nothing left to store over. -/
theorem absent_step {viewerBindingId : Bytes} {service : ViewerService} {step : ViewerStep}
    (absent : service.bindings.find viewerBindingId = none)
    (other : ¬step.Attaches viewerBindingId) :
    (service.step step).1.bindings.find viewerBindingId = none ∧
      ∀ read result, (service.step step).2 = .delivered read result →
        read.found.viewerBindingId = viewerBindingId → result.accepted = false := by
  have unknown : Unknown viewerBindingId { service with reads := [] } :=
    ⟨absent, by simp, by simp⟩
  have still := (unknown.step other).absent
  cases step with
  | attach request now sessionResult viewerId => exact ⟨still, by rintro _ _ ⟨⟩⟩
  | beginRead request now =>
    simp only [ViewerService.step] at still ⊢
    cases began : beginRead service.bindings request now with
    | mk bindings answer =>
      rw [began] at still
      cases answer <;> exact ⟨still, by rintro _ _ ⟨⟩⟩
  | concludeRead index sessionResult =>
    rw [ViewerService.step]
    cases there : service.reads[index]? with
    | none => exact ⟨absent, by rintro _ _ ⟨⟩⟩
    | some read =>
      have concluded := concludeRead_cases service.bindings read sessionResult
      dsimp only
      generalize concludeRead service.bindings read.found _ = outcome at concluded
      obtain ⟨remaining, result⟩ := outcome
      cases concluded with
      | dropped error kept =>
        refine ⟨Option.eq_none_iff_forall_ne_some.mpr fun binding found => ?_, ?_⟩
        · have earlier := kept viewerBindingId binding found
          rw [absent] at earlier
          cases earlier
        · rintro _ _ ⟨⟩ -
          rfl
      | stored present same examined =>
        have apart : read.found.viewerBindingId ≠ viewerBindingId := by
          rintro rfl
          rw [absent] at present
          cases present
        refine ⟨(OsdViewerBindings.find_put _).trans ?_, ?_⟩
        · rw [← examined.kept] at apart
          exact (if_neg apart).trans absent
        · rintro _ _ ⟨⟩ mine
          exact absurd mine apart
  | detach request now => exact ⟨still, by rintro _ _ ⟨⟩⟩

def Unanswered (viewerBindingId : Bytes) (journal : List (ViewerStep × ViewerAnswer)) : Prop :=
  ∀ step read result, (step, .delivered read result) ∈ journal →
    read.found.viewerBindingId = viewerBindingId → result.accepted = false

/-- A binding that was detached, expired or ended with its session stays away, and no read of it is
accepted again, not even one that had found it before. -/
theorem gone_viewer_unanswered {before after : List ViewerStep} {viewerBindingId : Bytes}
    (gone : (Run.final ViewerService.step {} before).bindings.find viewerBindingId = none)
    (others : ∀ step ∈ after, ¬step.Attaches viewerBindingId) :
    (Run.final ViewerService.step {} (before ++ after)).bindings.find viewerBindingId = none ∧
      Unanswered viewerBindingId
        (Run.journal ViewerService.step (Run.final ViewerService.step {} before) after) := by
  rw [Run.final_append]
  refine @Run.final_journal_preserves_of_admits _ _ _ ViewerService.step
    (fun _ step => ¬step.Attaches viewerBindingId)
    (fun service entries => service.bindings.find viewerBindingId = none ∧
      Unanswered viewerBindingId entries)
    ?_ _ [] ⟨gone, by simp [Unanswered]⟩ after (Run.admits_of_forall ViewerService.step others)
  rintro service entries step ⟨absent, unanswered⟩ other
  obtain ⟨still, answer⟩ := absent_step absent other
  refine ⟨still, fun told read result member mine => ?_⟩
  rcases List.mem_append.mp member with earlier | new
  · exact unanswered told read result earlier mine
  · rw [List.mem_singleton, Prod.mk.injEq] at new
    exact answer read result new.2.symm mine

def detachedWhileRead : List ViewerStep :=
  [.attach sampleAttachment 10 (sampleViewing 1) (text "ovb_001"), .beginRead (sampleReading 0) 11,
    .detach (sampleReading 0).toOsdControllerHolder 12]

theorem gone_viewer_unanswered_pending :
    (Run.final ViewerService.step {} (detachedWhileRead ++
        [.concludeRead 0 (sampleViewing 1)])).bindings.find (text "ovb_001") = none ∧
      Unanswered (text "ovb_001") (Run.journal ViewerService.step
        (Run.final ViewerService.step {} detachedWhileRead) [.concludeRead 0 (sampleViewing 1)]) :=
  gone_viewer_unanswered (by decide) (by simp [ViewerStep.Attaches])

end VdrSuite.Osd.Viewer
