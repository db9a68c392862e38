import VdrSuite.Osd.OsdViewerBinding

/-! What a viewer is told over a run: frames that follow one another until a notice says that some may
be missing, and acknowledgements of delivered frames only. -/

set_option autoImplicit false

namespace VdrSuite.Osd.Viewer

open Library

/-! ## What a read can do -/

structure Deliverable (binding : OsdViewerBinding) (frame : OsdFrame) : Prop where
  fullFrame : frame.fullFrame = true
  complete : frame.complete = true
  numbered : frame.frameSequence ≠ 0
  withinLimits : osdFrameWithinLimits frame = true
  sameSurface : sameSurface binding frame.surface = true

/-- The outcomes of a read that stores its binding: a notice, a suspension, no change or a frame. -/
inductive Examined (found : OsdViewerBinding) (acknowledged : Nat) (observed : OsdFrame) :
    OsdViewerBinding → OsdViewerDeliveryResult → Prop where
  | notice {binding : OsdViewerBinding} (reason : Bytes)
      (kept : binding.viewerBindingId = found.viewerBindingId) :
      Examined found acknowledged observed (requireResync binding reason)
        { accepted := true, state := .resyncRequired, reasonCode := reason }
  | suspension {binding : OsdViewerBinding} (reason : Bytes)
      (kept : binding.viewerBindingId = found.viewerBindingId)
      (delivered : binding.lastDeliveredFrameSequence = found.lastDeliveredFrameSequence)
      (acked : binding.lastAcknowledgedFrameSequence = found.lastAcknowledgedFrameSequence) :
      Examined found acknowledged observed
        { binding with state := .suspended, closeReason := reason }
        { accepted := true, state := .suspended, reasonCode := reason }
  | noChange {binding : OsdViewerBinding}
      (kept : binding.viewerBindingId = found.viewerBindingId)
      (delivered : binding.lastDeliveredFrameSequence = found.lastDeliveredFrameSequence)
      (acked : binding.lastAcknowledgedFrameSequence = found.lastDeliveredFrameSequence)
      (current : acknowledged = observed.frameSequence) :
      Examined found acknowledged observed { binding with state := .attached, closeReason := [] }
        { accepted := true, state := .noChange }
  | frame {binding : OsdViewerBinding}
      (kept : binding.viewerBindingId = found.viewerBindingId)
      (acked : binding.lastAcknowledgedFrameSequence = found.lastAcknowledgedFrameSequence ∨
        binding.lastAcknowledgedFrameSequence = found.lastDeliveredFrameSequence)
      (deliverable : Deliverable binding observed)
      (follows : observed.frameSequence = found.lastDeliveredFrameSequence ∨
        observed.frameSequence = found.lastDeliveredFrameSequence + 1 ∨
        found.lastDeliveredFrameSequence = 0 ∨ found.state = .resyncRequired) :
      Examined found acknowledged observed
        { binding with
          state := .attached
          closeReason := []
          lastDeliveredFrameSequence := observed.frameSequence }
        { accepted := true, state := .frame, hasFrame := true, frame := observed }

def acknowledgedBinding (binding : OsdViewerBinding) (acknowledged : Nat) : OsdViewerBinding :=
  if binding.lastDeliveredFrameSequence ≠ 0 ∧
      acknowledged = binding.lastDeliveredFrameSequence then
    { binding with lastAcknowledgedFrameSequence := binding.lastDeliveredFrameSequence }
  else binding

theorem acknowledgedBinding_cases (binding : OsdViewerBinding) (acknowledged : Nat) :
    acknowledgedBinding binding acknowledged = binding ∨
      (acknowledged = binding.lastDeliveredFrameSequence ∧
        acknowledgedBinding binding acknowledged =
          { binding with lastAcknowledgedFrameSequence := binding.lastDeliveredFrameSequence }) := by
  rw [acknowledgedBinding]
  split
  · next told => exact .inr ⟨told.2, rfl⟩
  · exact .inl rfl

theorem examineFrame_cases {binding stored : OsdViewerBinding} {acknowledged : Nat}
    {frame : OsdFrame} {result : OsdViewerDeliveryResult} (deliverable : Deliverable binding frame)
    (examined : examineFrame binding acknowledged frame = .store stored result) :
    Examined binding acknowledged frame stored result := by
  rw [examineFrame] at examined
  split at examined
  · cases examined
    exact .notice _ rfl
  · next told =>
    rw [← acknowledgedBinding] at examined
    dsimp only at examined
    have same_surface : Deliverable (acknowledgedBinding binding acknowledged) frame := by
      rcases acknowledgedBinding_cases binding acknowledged with same | ⟨-, same⟩
      · rw [same]
        exact deliverable
      · rw [same]
        exact ⟨deliverable.fullFrame, deliverable.complete, deliverable.numbered,
          deliverable.withinLimits, deliverable.sameSurface⟩
    have kept : (acknowledgedBinding binding acknowledged).viewerBindingId =
        binding.viewerBindingId := by
      rcases acknowledgedBinding_cases binding acknowledged with same | ⟨-, same⟩ <;> rw [same]
    have delivered : (acknowledgedBinding binding acknowledged).lastDeliveredFrameSequence =
        binding.lastDeliveredFrameSequence := by
      rcases acknowledgedBinding_cases binding acknowledged with same | ⟨-, same⟩ <;> rw [same]
    have state : (acknowledgedBinding binding acknowledged).state = binding.state := by
      rcases acknowledgedBinding_cases binding acknowledged with same | ⟨-, same⟩ <;> rw [same]
    have acked : (acknowledgedBinding binding acknowledged).lastAcknowledgedFrameSequence =
          binding.lastAcknowledgedFrameSequence ∨
        (acknowledgedBinding binding acknowledged).lastAcknowledgedFrameSequence =
          binding.lastDeliveredFrameSequence := by
      rcases acknowledgedBinding_cases binding acknowledged with same | ⟨-, same⟩
      · rw [same]
        exact .inl rfl
      · rw [same]
        exact .inr rfl
    split at examined
    · split at examined
      · cases examined
        exact .notice _ kept
      · next same =>
        cases examined
        exact .frame kept acked same_surface (.inl (by omega))
    · next settled =>
      split at examined
      · next begins =>
        cases examined
        refine .frame kept acked same_surface (.inr (.inr ?_))
        rcases begins with zero | resync
        · exact .inl (by omega)
        · exact .inr (state ▸ resync)
      · next continues =>
        split at examined
        · next current =>
          cases examined
          refine .noChange kept delivered (by omega) ?_
          rcases acknowledgedBinding_cases binding acknowledged with same | ⟨last, -⟩
          · rw [same] at settled current
            omega
          · omega
        · split at examined
          · next following =>
            cases examined
            exact .frame kept acked same_surface (.inr (.inl (by omega)))
          · cases examined
            exact .notice _ kept

theorem Examined.of_refreshed {found stored : OsdViewerBinding} {session : LegacyOsdSession}
    {now : Int} {acknowledged : Nat} {frame : OsdFrame} {result : OsdViewerDeliveryResult}
    (examined : Examined (refreshed found session now) acknowledged frame stored result) :
    Examined found acknowledged frame stored result := by
  cases examined with
  | notice reason kept => exact .notice reason kept
  | suspension reason kept delivered acked => exact .suspension reason kept delivered acked
  | noChange kept delivered acked current => exact .noChange kept delivered acked current
  | frame kept acked deliverable follows => exact .frame kept acked deliverable follows

theorem examine_cases {found stored : OsdViewerBinding} {acknowledged : Nat} {now : Int}
    {sessionResult : LegacyOsdSessionResult} {result : OsdViewerDeliveryResult}
    (examined : examine found acknowledged now sessionResult = .store stored result) :
    Examined found acknowledged sessionResult.observation.buffer.observed.frame stored result := by
  rw [examine] at examined
  split at examined
  · cases examined
  · split at examined
    · cases examined
    · split at examined
      · cases examined
        exact @Examined.suspension found _ _ (refreshed found sessionResult.session now) _ rfl rfl rfl
      · split at examined
        · cases examined
        · split at examined
          · cases examined
            exact .notice _ rfl
          · split at examined
            · cases examined
              exact .notice _ rfl
            · split at examined
              · cases examined
                exact .notice _ rfl
              · split at examined
                · cases examined
                  exact @Examined.suspension found _ _ (refreshed found sessionResult.session now) _
                    rfl rfl rfl
                · split at examined
                  · cases examined
                    exact .notice _ rfl
                  · next consistent =>
                    simp only [not_or, Bool.not_eq_false] at consistent
                    obtain ⟨fullFrame, complete, numbered, withinLimits, surface⟩ := consistent
                    exact (examineFrame_cases ⟨fullFrame, complete, numbered, withinLimits, surface⟩
                      examined).of_refreshed

namespace Examined

variable {found stored : OsdViewerBinding} {acknowledged : Nat} {observed : OsdFrame}
  {result : OsdViewerDeliveryResult}

theorem kept (examined : Examined found acknowledged observed stored result) :
    stored.viewerBindingId = found.viewerBindingId := by
  cases examined <;> assumption

end Examined

/-! ## What a viewer hears -/

/-- What counts of the results: a frame's sequence, or a notice that the viewer must start anew. -/
inductive Heard where
  | frame (sequence : Nat)
  | notice
  deriving DecidableEq

def OsdViewerDeliveryResult.heard (result : OsdViewerDeliveryResult) : Option Heard :=
  if result.accepted = false then none
  else
    match result.state with
    | .frame => some (.frame result.frame.frameSequence)
    | .resyncRequired => some .notice
    | _ => none

def heardOf (viewerBindingId : Bytes) (journal : List (ViewerStep × ViewerAnswer)) : List Heard :=
  journal.filterMap fun entry =>
    match entry.2 with
    | .delivered read result =>
      if read.request.viewerBindingId = viewerBindingId then result.heard else none
    | _ => none

theorem heardOf_delivered (viewerBindingId : Bytes) (step : ViewerStep) (read : PendingRead)
    (result : OsdViewerDeliveryResult) :
    heardOf viewerBindingId [(step, .delivered read result)] =
      if read.request.viewerBindingId = viewerBindingId then result.heard.toList else [] := by
  simp only [heardOf, List.filterMap_cons, List.filterMap_nil]
  by_cases mine : read.request.viewerBindingId = viewerBindingId
  · rw [if_pos mine, if_pos mine]
    cases result.heard <;> rfl
  · rw [if_neg mine, if_neg mine]

def lastFrame (heard : List Heard) : Option Nat :=
  heard.foldl (fun _ next => match next with
    | .frame sequence => some sequence
    | .notice => none) none

/-- Between two notices every frame has the sequence of the one before it or the next one. -/
def Grows : Option Nat → List Heard → Prop
  | _, [] => True
  | last, .frame sequence :: later =>
    (∀ previous, last = some previous → sequence = previous ∨ sequence = previous + 1) ∧
      Grows (some sequence) later
  | _, .notice :: later => Grows none later

theorem grows_concat {last : Option Nat} {heard : List Heard} {next : Heard}
    (grows : Grows last heard)
    (follows : ∀ sequence previous, next = .frame sequence →
      heard.foldl (fun _ next => match next with
        | .frame sequence => some sequence
        | .notice => none) last = some previous →
      sequence = previous ∨ sequence = previous + 1) : Grows last (heard ++ [next]) := by
  induction heard generalizing last with
  | nil =>
    cases next with
    | notice => exact trivial
    | frame sequence => exact ⟨fun previous same => follows sequence previous rfl same, trivial⟩
  | cons first heard ih =>
    cases first with
    | notice => exact ih grows follows
    | frame sequence => exact ⟨grows.1, ih grows.2 follows⟩

theorem lastFrame_concat (heard : List Heard) (next : Heard) :
    lastFrame (heard ++ [next]) = match next with
      | .frame sequence => some sequence
      | .notice => none := by
  rw [lastFrame, List.foldl_append]
  rfl

structure Remembers (heard : List Heard) (binding : OsdViewerBinding) : Prop where
  last : lastFrame heard = if binding.lastDeliveredFrameSequence = 0 then none
    else some binding.lastDeliveredFrameSequence
  fresh : binding.state = .resyncRequired → binding.lastDeliveredFrameSequence = 0
  unacked : binding.lastDeliveredFrameSequence = 0 → binding.lastAcknowledgedFrameSequence = 0
  acked : binding.lastAcknowledgedFrameSequence = 0 ∨
    .frame binding.lastAcknowledgedFrameSequence ∈ heard
  delivered : binding.lastDeliveredFrameSequence = 0 ∨
    .frame binding.lastDeliveredFrameSequence ∈ heard

theorem Examined.remembers {found stored : OsdViewerBinding} {acknowledged : Nat}
    {observed : OsdFrame} {result : OsdViewerDeliveryResult} {heard : List Heard}
    (examined : Examined found acknowledged observed stored result)
    (remembers : Remembers heard found) (grows : Grows none heard) :
    Remembers (heard ++ result.heard.toList) stored ∧ Grows none (heard ++ result.heard.toList) := by
  cases examined with
  | notice reason kept =>
    refine ⟨⟨lastFrame_concat heard .notice, fun _ => rfl, fun _ => rfl, .inl rfl, .inl rfl⟩, ?_⟩
    exact grows_concat grows fun sequence previous absurdity => by cases absurdity
  | suspension reason kept delivered acked =>
    have silent : heard ++ Option.toList (OsdViewerDeliveryResult.heard
        { accepted := true, state := .suspended, reasonCode := reason }) = heard :=
      List.append_nil heard
    rw [silent]
    refine ⟨⟨?_, ?_, ?_, ?_, ?_⟩, grows⟩
    · simp only [delivered]
      exact remembers.last
    · intro absurdity
      cases absurdity
    · simp only [delivered, acked]
      exact remembers.unacked
    · simp only [acked]
      exact remembers.acked
    · simp only [delivered]
      exact remembers.delivered
  | noChange kept delivered acked current =>
    have silent : heard ++ Option.toList (OsdViewerDeliveryResult.heard
        { accepted := true, state := .noChange }) = heard := List.append_nil heard
    rw [silent]
    refine ⟨⟨?_, ?_, ?_, ?_, ?_⟩, grows⟩
    · simp only [delivered]
      exact remembers.last
    · intro absurdity
      cases absurdity
    · simp only [delivered, acked]
      exact id
    · simp only [acked]
      exact remembers.delivered
    · simp only [delivered]
      exact remembers.delivered
  | frame kept acked deliverable follows =>
    have told : Option.toList (OsdViewerDeliveryResult.heard
        { accepted := true, state := .frame, hasFrame := true, frame := observed }) =
        [.frame observed.frameSequence] := rfl
    rw [told]
    refine ⟨⟨?_, ?_, ?_, ?_, ?_⟩, ?_⟩
    · rw [lastFrame_concat]
      simp [deliverable.numbered]
    · intro absurdity
      cases absurdity
    · exact fun zero => absurd zero deliverable.numbered
    · rcases acked with same | same
      · simp only [same]
        exact remembers.acked.imp id (List.mem_append_left _)
      · simp only [same]
        exact remembers.delivered.imp id (List.mem_append_left _)
    · exact .inr (List.mem_append_right _ List.mem_cons_self)
    · refine grows_concat grows fun sequence previous same earlier => ?_
      cases same
      have last := remembers.last
      rw [lastFrame, earlier] at last
      split at last
      · simp at last
      · next numbered =>
        rw [Option.some.injEq] at last
        rcases follows with again | next | zero | resync
        · exact .inl (by omega)
        · exact .inr (by omega)
        · exact absurd zero numbered
        · exact absurd (remembers.fresh resync) numbered

/-! ## One binding among the others -/

namespace OsdViewerBindings

variable {bindings : OsdViewerBindings} {viewerBindingId : Bytes}

theorem find_eq_some_iff {binding : OsdViewerBinding} :
    bindings.find viewerBindingId = some binding ↔
      binding ∈ bindings.rows ∧ binding.viewerBindingId = viewerBindingId := by
  constructor
  · intro found
    exact ⟨Table.mem_of_lookup _ found, Table.key_of_lookup _ found⟩
  · rintro ⟨member, rfl⟩
    exact (Table.mem_iff_lookup _ bindings.keyed binding).mp member

theorem find_reapExpired_iff {now : Int} {binding : OsdViewerBinding} :
    (bindings.reapExpired now).find viewerBindingId = some binding ↔
      bindings.find viewerBindingId = some binding ∧ now < binding.expiresAt := by
  rw [find_eq_some_iff, find_eq_some_iff]
  simp only [reapExpired, Table.delete, List.mem_filter, Bool.not_eq_true', decide_eq_false_iff_not,
    ge_iff_le, not_le]
  exact and_right_comm

theorem find_erase_iff {erased : Bytes} {binding : OsdViewerBinding} :
    (bindings.erase erased).find viewerBindingId = some binding ↔
      bindings.find viewerBindingId = some binding ∧ binding.viewerBindingId ≠ erased := by
  rw [find_eq_some_iff, find_eq_some_iff]
  simp only [erase, Table.delete, List.mem_filter, Bool.not_eq_true', beq_eq_false_iff_ne, ne_eq]
  exact and_right_comm

theorem find_put (binding : OsdViewerBinding) :
    (bindings.put binding).find viewerBindingId =
      if binding.viewerBindingId = viewerBindingId then some binding
      else bindings.find viewerBindingId :=
  Table.lookup_upsert _ viewerBindingId binding bindings.rows

theorem find_eraseBinding {erased : Bytes} {expectedRevision : Nat} {binding : OsdViewerBinding}
    (found : (bindings.eraseBinding erased expectedRevision).find viewerBindingId = some binding) :
    bindings.find viewerBindingId = some binding := by
  unfold eraseBinding at found
  split at found
  · exact found
  · split at found
    · exact ((find_erase_iff).mp found).1
    · exact found

end OsdViewerBindings

def ViewerStep.Attaches (viewerBindingId : Bytes) : ViewerStep → Prop
  | .attach _ _ _ viewerId => viewerId = viewerBindingId
  | _ => False

section
variable {bindings : OsdViewerBindings} {viewerBindingId : Bytes} {binding : OsdViewerBinding}

theorem find_insertBinding {inserted : OsdViewerBinding}
    (found : (insertBinding bindings inserted).1.find viewerBindingId = some binding) :
    bindings.find viewerBindingId = some binding ∨
      inserted.viewerBindingId = viewerBindingId ∧ binding = inserted := by
  unfold insertBinding at found
  split at found
  · exact .inl found
  · split at found
    · exact .inl found
    · split at found
      · exact .inl found
      · rw [OsdViewerBindings.find_put] at found
        split at found
        · next same =>
          cases found
          exact .inr ⟨same, rfl⟩
        · exact .inl found

theorem find_attach {request : OsdViewerAttachRequest} {now : Int}
    {sessionResult : LegacyOsdSessionResult} {viewerId : Bytes}
    (found : (attach bindings request now sessionResult viewerId).1.find viewerBindingId =
      some binding) :
    bindings.find viewerBindingId = some binding ∨
      viewerId = viewerBindingId ∧
        binding = attachedBinding request sessionResult.session now viewerId := by
  unfold attach at found
  split at found
  · exact .inl found
  · split at found
    · exact .inl found
    · split at found
      · exact .inl (OsdViewerBindings.find_reapExpired_iff.mp found).1
      · split at found
        · exact .inl (OsdViewerBindings.find_reapExpired_iff.mp found).1
        · split at found
          · exact .inl (OsdViewerBindings.find_reapExpired_iff.mp found).1
          · rcases find_insertBinding found with kept | new
            · exact .inl (OsdViewerBindings.find_reapExpired_iff.mp kept).1
            · exact .inr new

theorem find_detach {request : OsdViewerDetachRequest} {now : Int}
    (found : (detach bindings request now).1.find viewerBindingId = some binding) :
    bindings.find viewerBindingId = some binding := by
  unfold detach at found
  split at found
  · exact found
  · split at found
    · exact found
    · split at found
      · exact (OsdViewerBindings.find_reapExpired_iff.mp found).1
      · split at found
        · exact (OsdViewerBindings.find_reapExpired_iff.mp found).1
        · have kept := (OsdViewerBindings.find_erase_iff.mp found).1
          exact (OsdViewerBindings.find_reapExpired_iff.mp kept).1

theorem find_beginRead {request : OsdViewerReadRequest} {now : Int}
    (found : (beginRead bindings request now).1.find viewerBindingId = some binding) :
    bindings.find viewerBindingId = some binding := by
  unfold beginRead at found
  split at found
  · exact found
  · split at found
    · exact found
    · split at found
      · exact (OsdViewerBindings.find_reapExpired_iff.mp found).1
      · split at found
        · exact (OsdViewerBindings.find_reapExpired_iff.mp found).1
        · exact (OsdViewerBindings.find_reapExpired_iff.mp found).1

theorem found_of_beginRead {request : OsdViewerReadRequest} {now : Int}
    (began : (beginRead bindings request now).2 = .ok binding) :
    (beginRead bindings request now).1.find request.viewerBindingId = some binding := by
  unfold beginRead at began ⊢
  by_cases invalid : request.safe = false
  · rw [if_pos invalid] at began
    cases began
  · rw [if_neg invalid] at began ⊢
    by_cases timeless : now < 0
    · rw [if_pos timeless] at began
      cases began
    · rw [if_neg timeless] at began ⊢
      cases there : (bindings.reapExpired now).find request.viewerBindingId with
      | none =>
        simp only [there] at began
        cases began
      | some found =>
        simp only [there] at began ⊢
        by_cases foreign : request.views found.toOsdViewerBinding = false
        · rw [if_pos foreign] at began
          cases began
        · rw [if_neg foreign] at began ⊢
          cases began
          exact there

/-- What the second section of a read does: nothing that is heard, or it stores the examined binding
over the very revision that it has found. -/
inductive Concluded (bindings : OsdViewerBindings) (read : PendingRead)
    (sessionResult : LegacyOsdSessionResult) :
    OsdViewerBindings → OsdViewerDeliveryResult → Prop where
  | dropped {remaining : OsdViewerBindings} (error : Bytes)
      (kept : ∀ viewerBindingId binding, remaining.find viewerBindingId = some binding →
        bindings.find viewerBindingId = some binding) :
      Concluded bindings read sessionResult remaining (rejectDelivery error)
  | stored {current stored : OsdViewerBinding} {result : OsdViewerDeliveryResult}
      (there : bindings.find read.found.viewerBindingId = some current)
      (same : current.bindingRevision = read.found.bindingRevision)
      (examined : Examined read.found read.request.acknowledgedFrameSequence
        sessionResult.observation.buffer.observed.frame stored result) :
      Concluded bindings read sessionResult
        (bindings.put { stored with bindingRevision := read.found.bindingRevision + 1 })
        { result with
          binding := { stored with bindingRevision := read.found.bindingRevision + 1 } }

theorem Concluded.find_other {read : PendingRead} {sessionResult : LegacyOsdSessionResult}
    {remaining : OsdViewerBindings} {result : OsdViewerDeliveryResult}
    (concluded : Concluded bindings read sessionResult remaining result)
    (other : read.found.viewerBindingId ≠ viewerBindingId)
    (found : remaining.find viewerBindingId = some binding) :
    bindings.find viewerBindingId = some binding := by
  cases concluded with
  | dropped error kept => exact kept viewerBindingId binding found
  | @stored current stored result there same examined =>
    have apart : stored.viewerBindingId ≠ viewerBindingId := by
      rw [examined.kept]
      exact other
    rwa [OsdViewerBindings.find_put, if_neg apart] at found

theorem concludeRead_cases (bindings : OsdViewerBindings) (read : PendingRead)
    (sessionResult : LegacyOsdSessionResult) :
    Concluded bindings read sessionResult
      (concludeRead bindings read.found (examine read.found
        read.request.acknowledgedFrameSequence read.now sessionResult)).1
      (concludeRead bindings read.found (examine read.found
        read.request.acknowledgedFrameSequence read.now sessionResult)).2 := by
  cases examined : examine read.found read.request.acknowledgedFrameSequence read.now
      sessionResult with
  | erase error =>
    exact .dropped error fun viewerBindingId binding found =>
      OsdViewerBindings.find_eraseBinding found
  | store stored result =>
    have cases := examine_cases examined
    rw [concludeRead, OsdViewerBindings.updateBinding]
    cases there : bindings.find stored.viewerBindingId with
    | none => exact .dropped _ fun _ _ found => found
    | some current =>
      dsimp only
      by_cases same : current.bindingRevision = read.found.bindingRevision
      · rw [if_neg (not_not.mpr same)]
        rw [cases.kept] at there
        exact .stored there same cases
      · rw [if_pos same]
        exact .dropped _ fun _ _ found => found

end

/-! ## Runs -/

structure Unknown (viewerBindingId : Bytes) (service : ViewerService) : Prop where
  absent : service.bindings.find viewerBindingId = none
  own : ∀ read ∈ service.reads, read.found.viewerBindingId = read.request.viewerBindingId
  unread : ∀ read ∈ service.reads, read.found.viewerBindingId ≠ viewerBindingId

/-- A binding and the reads of it that have begun, behind what its viewer has heard. A read that has
found the stored revision has found the stored binding. -/
structure Followed (viewerBindingId : Bytes) (service : ViewerService) (heard : List Heard) :
    Prop where
  own : ∀ read ∈ service.reads, read.found.viewerBindingId = read.request.viewerBindingId
  pending : ∀ read ∈ service.reads, ∀ stored, read.found.viewerBindingId = viewerBindingId →
    service.bindings.find viewerBindingId = some stored →
    read.found.bindingRevision ≤ stored.bindingRevision ∧
      (read.found.bindingRevision = stored.bindingRevision → read.found = stored)
  remembers : ∀ stored, service.bindings.find viewerBindingId = some stored →
    Remembers heard stored
  grows : Grows none heard

section
variable {viewerBindingId : Bytes} {service : ViewerService} {heard : List Heard}

theorem Followed.shrink (followed : Followed viewerBindingId service heard)
    {bindings : OsdViewerBindings} {reads : List PendingRead}
    (kept : ∀ binding, bindings.find viewerBindingId = some binding →
      service.bindings.find viewerBindingId = some binding)
    (earlier : ∀ read ∈ reads, read ∈ service.reads) :
    Followed viewerBindingId { bindings := bindings, reads := reads } heard where
  own := fun read member => followed.own read (earlier read member)
  pending := fun read member stored same found =>
    followed.pending read (earlier read member) stored same (kept stored found)
  remembers := fun stored found => followed.remembers stored (kept stored found)
  grows := followed.grows

theorem Followed.begin (followed : Followed viewerBindingId service heard)
    {request : OsdViewerReadRequest} {now : Int} {found : OsdViewerBinding}
    (began : (beginRead service.bindings request now).2 = .ok found) :
    Followed viewerBindingId
      { bindings := (beginRead service.bindings request now).1
        reads := service.reads ++ [⟨request, now, found⟩] } heard := by
  have there := found_of_beginRead began
  have named : found.viewerBindingId = request.viewerBindingId :=
    (OsdViewerBindings.find_eq_some_iff.mp there).2
  refine ⟨?_, ?_, fun stored stays => followed.remembers stored (find_beginRead stays),
    followed.grows⟩
  · intro read member
    rcases List.mem_append.mp member with earlier | new
    · exact followed.own read earlier
    · rw [List.mem_singleton] at new
      rw [new]
      exact named
  · intro read member stored same stays
    rcases List.mem_append.mp member with earlier | new
    · exact followed.pending read earlier stored same (find_beginRead stays)
    · rw [List.mem_singleton] at new
      subst new
      rw [← named, show found.viewerBindingId = viewerBindingId from same] at there
      rw [there] at stays
      cases stays
      exact ⟨Nat.le_refl _, fun _ => rfl⟩

theorem Followed.conclude (followed : Followed viewerBindingId service heard)
    {read : PendingRead} (member : read ∈ service.reads) {reads : List PendingRead}
    (earlier : ∀ other ∈ reads, other ∈ service.reads)
    {sessionResult : LegacyOsdSessionResult} {bindings : OsdViewerBindings}
    {result : OsdViewerDeliveryResult}
    (concluded : Concluded service.bindings read sessionResult bindings result) :
    Followed viewerBindingId { bindings := bindings, reads := reads }
      (heard ++ if read.request.viewerBindingId = viewerBindingId then result.heard.toList
        else []) := by
  cases concluded with
  | dropped error kept =>
    have silent : heard ++ (if read.request.viewerBindingId = viewerBindingId then
        (rejectDelivery error).heard.toList else []) = heard := by
      split <;> exact List.append_nil heard
    rw [silent]
    exact followed.shrink (kept viewerBindingId) earlier
  | @stored current stored result there same examined =>
    by_cases mine : read.request.viewerBindingId = viewerBindingId
    · rw [if_pos mine]
      have named : read.found.viewerBindingId = viewerBindingId :=
        (followed.own read member).trans mine
      rw [named] at there
      have found : read.found = current :=
        (followed.pending read member current named there).2 same.symm
      obtain ⟨remembers, grows⟩ :=
        examined.remembers (found ▸ followed.remembers current there) followed.grows
      have stays : ∀ binding, (service.bindings.put
          { stored with bindingRevision := read.found.bindingRevision + 1 }).find
            viewerBindingId = some binding →
          binding = { stored with bindingRevision := read.found.bindingRevision + 1 } := by
        intro binding looked
        rw [OsdViewerBindings.find_put, if_pos (examined.kept.trans named)] at looked
        exact (Option.some.inj looked).symm
      refine ⟨fun other listed => followed.own other (earlier other listed), ?_, ?_, grows⟩
      · intro other listed binding sameId looked
        have old := (followed.pending other (earlier other listed) current sameId there).1
        rw [stays binding looked]
        constructor
        · simp only
          omega
        · simp only
          omega
      · intro binding looked
        rw [stays binding looked]
        exact ⟨remembers.last, remembers.fresh, remembers.unacked, remembers.acked,
          remembers.delivered⟩
    · rw [if_neg mine, List.append_nil]
      have other : read.found.viewerBindingId ≠ viewerBindingId := by
        rw [followed.own read member]
        exact mine
      have concluded := @Concluded.stored _ _ sessionResult _ _ _ there same examined
      exact followed.shrink (fun binding looked => concluded.find_other other looked) earlier

theorem Followed.step (followed : Followed viewerBindingId service heard) {step : ViewerStep}
    (other : ¬step.Attaches viewerBindingId) :
    Followed viewerBindingId (service.step step).1
      (heard ++ heardOf viewerBindingId [(step, (service.step step).2)]) := by
  cases step with
  | attach request now sessionResult viewerId =>
    rw [show heardOf viewerBindingId _ = [] from rfl, List.append_nil]
    refine followed.shrink (fun binding found => ?_) fun read member => member
    rcases find_attach found with kept | ⟨same, -⟩
    · exact kept
    · exact absurd same other
  | beginRead request now =>
    rw [ViewerService.step]
    cases began : beginRead service.bindings request now with
    | mk bindings answer =>
      cases answer with
      | error error =>
        dsimp only
        rw [show heardOf viewerBindingId _ = [] from rfl, List.append_nil]
        refine followed.shrink (fun binding found => ?_) fun read member => member
        refine @find_beginRead _ _ _ request now ?_
        rwa [began]
      | ok found =>
        dsimp only
        rw [show heardOf viewerBindingId _ = [] from rfl, List.append_nil]
        have begins := @Followed.begin _ _ _ followed request now found (by rw [began])
        rwa [began] at begins
  | concludeRead index sessionResult =>
    rw [ViewerService.step]
    cases there : service.reads[index]? with
    | none =>
      dsimp only
      rw [show heardOf viewerBindingId _ = [] from rfl, List.append_nil]
      exact followed
    | some read =>
      have earlier : ∀ other ∈ service.reads.eraseIdx index, other ∈ service.reads :=
        fun other listed => List.mem_of_mem_eraseIdx listed
      have concludes := followed.conclude (List.mem_of_getElem? there) earlier
        (concludeRead_cases service.bindings read sessionResult)
      dsimp only
      rw [heardOf_delivered]
      exact concludes
  | detach request now =>
    rw [show heardOf viewerBindingId _ = [] from rfl, List.append_nil]
    exact followed.shrink (fun binding found => find_detach found) fun read member => member

end

end VdrSuite.Osd.Viewer
