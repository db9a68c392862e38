import VdrSuite.Library.Run
import VdrSuite.Plugin.OsdState

/-! A complete OSD snapshot shows what all callbacks of its surface have written, as long as no
step that clears the continuity flag forgets a dropped one. -/

set_option autoImplicit false

namespace VdrSuite.Plugin

open Library

/-! ## Surfaces without loss -/

@[simp] theorem emptySurface_kind (kind : SuiteBridgeOsdFrameKind) :
    (emptySurface kind).kind = kind := by
  cases kind <;> rfl

@[simp] theorem emptySurface_active (kind : SuiteBridgeOsdFrameKind) :
    (emptySurface kind).active = decide (kind ≠ .inactive) := by
  cases kind <;> rfl

theorem writePayload_keeps (callback : StatusCallback) (surface : OsdSurface) :
    (writePayload callback surface).kind = surface.kind ∧
      (writePayload callback surface).active = surface.active := by
  cases callback with
  | item text index selectable =>
    simp only [writePayload]
    cases itemIndex index <;> exact ⟨rfl, rfl⟩
  | currentItem text index =>
    simp only [writePayload]
    cases itemIndex index with
    | none => exact ⟨rfl, rfl⟩
    | some position => cases text <;> exact ⟨rfl, rfl⟩
  | textItem text scroll => cases text <;> exact ⟨rfl, rfl⟩
  | _ => exact ⟨rfl, rfl⟩

def Shown (surface : OsdSurface) : Prop := surface.active = decide (surface.kind ≠ .inactive)

theorem begins_iff (callback : StatusCallback) {surface : OsdSurface} (shown : Shown surface) :
    begins callback surface = true ↔
      callback.kind = .inactive ∨ surface.kind ≠ callback.kind := by
  unfold Shown at shown
  cases callback with
  | clear => simp [begins, StatusCallback.kind]
  | _ =>
    simp only [begins, StatusCallback.kind, shown]
    cases surface.kind <;> simp

theorem startSurface_kind (callback : StatusCallback) {surface : OsdSurface}
    (shown : Shown surface) :
    (startSurface callback surface).kind = callback.kind ∧
      Shown (startSurface callback surface) := by
  unfold startSurface
  split
  · exact ⟨emptySurface_kind _, by simp [Shown]⟩
  · next stays =>
    rw [begins_iff callback shown, not_or, not_not] at stays
    exact ⟨stays.2, shown⟩

theorem applyCallback_kind (callback : StatusCallback) {surface : OsdSurface}
    (shown : Shown surface) :
    (applyCallback surface callback).kind = callback.kind ∧
      Shown (applyCallback surface callback) := by
  obtain ⟨kind, active⟩ := writePayload_keeps callback (startSurface callback surface)
  obtain ⟨started, startedShown⟩ := startSurface_kind callback shown
  unfold applyCallback
  refine ⟨kind.trans started, ?_⟩
  unfold Shown at startedShown ⊢
  rw [active, kind, startedShown]

theorem applyCallback_of_begins {callback : StatusCallback} {surface other : OsdSurface}
    (first : begins callback surface = true) (second : begins callback other = true) :
    applyCallback surface callback = applyCallback other callback := by
  simp [applyCallback, startSurface, first, second]

theorem lastKind_concat (issued : List StatusCallback) (callback : StatusCallback) :
    lastKind (issued ++ [callback]) = callback.kind := by
  simp [lastKind]

theorem foldl_applyCallback_kind (issued : List StatusCallback) :
    (issued.foldl applyCallback {}).kind = lastKind issued ∧
      Shown (issued.foldl applyCallback {}) := by
  induction issued using List.reverseRecOn with
  | nil => exact ⟨rfl, rfl⟩
  | append_singleton earlier callback ih =>
    rw [List.foldl_append, List.foldl_cons, List.foldl_nil, lastKind_concat]
    exact applyCallback_kind callback ih.2

theorem currentSurface_concat (issued : List StatusCallback) (callback : StatusCallback) :
    currentSurface (issued ++ [callback]) = extendSurface (currentSurface issued) callback := by
  simp [currentSurface, List.foldl_append]

theorem lastKind_currentSurface (issued : List StatusCallback) :
    lastKind (currentSurface issued) = lastKind issued := by
  induction issued using List.reverseRecOn with
  | nil => rfl
  | append_singleton earlier callback _ =>
    rw [currentSurface_concat, lastKind_concat]
    unfold extendSurface
    split
    · rfl
    · exact lastKind_concat _ _

theorem withoutLoss_kind (issued : List StatusCallback) :
    (withoutLoss issued).kind = lastKind issued ∧ Shown (withoutLoss issued) := by
  obtain ⟨kind, shown⟩ := foldl_applyCallback_kind (currentSurface issued)
  exact ⟨kind.trans (lastKind_currentSurface issued), shown⟩

theorem withoutLoss_concat (issued : List StatusCallback) (callback : StatusCallback) :
    withoutLoss (issued ++ [callback]) = applyCallback (withoutLoss issued) callback := by
  unfold withoutLoss
  rw [currentSurface_concat]
  unfold extendSurface
  split
  · next anew =>
    obtain ⟨kind, shown⟩ := foldl_applyCallback_kind (currentSurface issued)
    apply applyCallback_of_begins
    · rw [@begins_iff callback {} rfl]
      rcases anew with cleared | ⟨-, changed⟩
      · exact .inl cleared
      · by_cases idle : callback.kind = .inactive
        · exact .inl idle
        · exact .inr fun same => idle same.symm
    · rw [begins_iff callback shown, kind]
      rcases anew with cleared | ⟨-, changed⟩
      · exact .inl cleared
      · exact .inr changed
  · rw [List.foldl_append, List.foldl_cons, List.foldl_nil]

/-! ## The invariant -/

/-- A step that clears the flag forgets no callback: none was dropped since its holder took the
gate, the surface was not begun by a dropped callback before, and no capture still has to look at
a flag that was set when it copied. -/
def KeepsMarks (shared : SuiteBridgeOsdState) (step : OsdStep) : Prop :=
  match step, shared.gate with
  | .proceed _ _, some (.callback callback .acquired earlier) =>
    begins callback shared.state.surface = true →
      shared.issued = earlier ++ [callback] ∧
      (callback.kind = .inactive ∨ lastKind earlier ≠ callback.kind) ∧
      ∀ copied ∈ shared.copies, copied.broken = false
  | _, _ => True

instance (shared : SuiteBridgeOsdState) (step : OsdStep) : Decidable (KeepsMarks shared step) := by
  unfold KeepsMarks
  split <;> infer_instance

def Faithful (shared : SuiteBridgeOsdState) : Prop :=
  shared.continuityBroken = true ∨
    (shared.frameSequence.overflowed = true ∧ shared.state.surface.complete = false) ∨
    shared.state.surface = withoutLoss shared.issued

def SurfaceFaithful (shared : SuiteBridgeOsdState) : Option GateHolder → Prop
  | none => Faithful shared
  | some .capture => Faithful shared
  | some (.callback callback .acquired earlier) =>
    shared.continuityBroken = true ∨ (shared.issued = earlier ++ [callback] ∧
      (shared.frameSequence.overflowed = true ∨
        shared.state.surface = withoutLoss earlier))
  | some (.callback callback .started earlier) =>
    shared.continuityBroken = true ∨ (shared.issued = earlier ++ [callback] ∧
      (shared.frameSequence.overflowed = true ∨
        shared.state.surface = startSurface callback (withoutLoss earlier)))
  | some (.callback _ .advanced _) => Faithful shared

def CopyFaithful (shared : SuiteBridgeOsdState) (copied : CopiedSnapshot) : Prop :=
  (copied.broken = true → shared.continuityBroken = true) ∧
    (copied.broken = true ∨ copied.snapshot.surface.complete = false ∨
      copied.snapshot.surface = withoutLoss copied.issued)

structure Continuous (shared : SuiteBridgeOsdState) : Prop where
  shown : Shown shared.state.surface
  surface : SurfaceFaithful shared shared.gate
  copies : ∀ copied ∈ shared.copies, CopyFaithful shared copied

theorem continuous_initial : Continuous {} :=
  { shown := rfl
    surface := .inr (.inr rfl)
    copies := by simp }

theorem continuous_of_broken {shared next : SuiteBridgeOsdState} (valid : Continuous shared)
    (broken : next.continuityBroken = true) (same : next.state = shared.state)
    (copies : next.copies = shared.copies) : Continuous next := by
  refine ⟨same ▸ valid.shown, ?_, ?_⟩
  · cases next.gate with
    | none => exact .inl broken
    | some holder =>
      cases holder with
      | capture => exact .inl broken
      | callback callback phase earlier => cases phase <;> exact .inl broken
  · intro copied member
    exact ⟨fun _ => broken, (valid.copies copied (copies ▸ member)).2⟩

theorem increment_overflowed {counter : SuiteBridgeSaturatingCounter}
    (overflowed : counter.overflowed = true) : counter.increment.overflowed = true := by
  unfold SuiteBridgeSaturatingCounter.increment
  split
  · rfl
  · exact overflowed

/-! ## Steps -/

theorem startSurfaceLocked_continuous {shared : SuiteBridgeOsdState} {callback : StatusCallback}
    {earlier : List StatusCallback} (epoch : Bytes) (valid : Continuous shared)
    (held : shared.gate = some (.callback callback .acquired earlier))
    (keeps : begins callback shared.state.surface = true →
      shared.issued = earlier ++ [callback] ∧
        (callback.kind = .inactive ∨ lastKind earlier ≠ callback.kind) ∧
        ∀ copied ∈ shared.copies, copied.broken = false) :
    Continuous { startSurfaceLocked callback epoch shared with
      gate := some (.callback callback .started earlier) } := by
  obtain ⟨kind, shown⟩ := withoutLoss_kind earlier
  cases beginning : begins callback shared.state.surface with
  | true =>
    obtain ⟨issued, anew, unbroken⟩ := keeps beginning
    have begun : begins callback (withoutLoss earlier) = true := by
      rw [begins_iff callback shown, kind]
      exact anew
    simp only [startSurfaceLocked, beginning, if_true]
    refine ⟨(startSurface_kind callback valid.shown).2, .inr ⟨issued, .inr ?_⟩, ?_⟩
    · simp [startSurface, beginning, begun]
    · intro copied member
      refine ⟨fun broken => ?_, (valid.copies copied member).2⟩
      rw [unbroken copied member] at broken
      cases broken
  | false =>
    simp only [startSurfaceLocked, beginning, Bool.false_eq_true, if_false]
    refine ⟨valid.shown, ?_, valid.copies⟩
    have surface := valid.surface
    rw [held] at surface
    rcases surface with broken | ⟨issued, overflowed | same⟩
    · exact .inl broken
    · exact .inr ⟨issued, .inl overflowed⟩
    · refine .inr ⟨issued, .inr ?_⟩
      rw [same] at beginning
      simp [startSurface, same, beginning]

theorem advanceLocked_continuous {shared : SuiteBridgeOsdState} {callback : StatusCallback}
    {earlier : List StatusCallback} (now : Nat) (valid : Continuous shared)
    (held : shared.gate = some (.callback callback .started earlier)) :
    Continuous { advanceLocked now (writePayloadLocked callback shared) with
      gate := some (.callback callback .advanced earlier) } := by
  obtain ⟨kind, active⟩ := writePayload_keeps callback shared.state.surface
  refine ⟨?_, ?_, valid.copies⟩
  · have shown := valid.shown
    unfold Shown at shown ⊢
    simp only [advanceLocked, writePayloadLocked, active, kind]
    exact shown
  · have surface := valid.surface
    rw [held] at surface
    rcases surface with broken | ⟨issued, rest⟩
    · exact .inl broken
    · cases lost : shared.continuityBroken with
      | true => exact .inl lost
      | false =>
        cases overflow : shared.frameSequence.increment.overflowed with
        | true =>
          exact .inr (.inl ⟨overflow, by simp [advanceLocked, writePayloadLocked, overflow]⟩)
        | false =>
          rcases rest with overflowed | same
          · rw [increment_overflowed overflowed] at overflow
            cases overflow
          · refine .inr (.inr ?_)
            simp only [advanceLocked, writePayloadLocked, lost, overflow, issued,
              Bool.or_self, Bool.not_false, Bool.and_true]
            rw [withoutLoss_concat, applyCallback, same]

theorem proceed_continuous {shared : SuiteBridgeOsdState} (epoch : Bytes) (now : Nat)
    (valid : Continuous shared) (keeps : KeepsMarks shared (.proceed epoch now)) :
    Continuous (proceed epoch now shared) := by
  unfold proceed
  split
  · exact valid
  · next callback earlier held =>
    apply startSurfaceLocked_continuous epoch valid held
    simpa only [KeepsMarks, held] using keeps
  · next callback earlier held => exact advanceLocked_continuous now valid held
  · next callback earlier held =>
    have surface := valid.surface
    rw [held] at surface
    exact ⟨valid.shown, surface, valid.copies⟩
  · next held =>
    have surface := valid.surface
    rw [held] at surface
    refine ⟨valid.shown, surface, ?_⟩
    intro copied member
    rcases List.mem_append.mp member with old | new
    · exact valid.copies copied old
    · obtain rfl := List.mem_singleton.mp new
      refine ⟨id, ?_⟩
      rcases surface with broken | ⟨-, incomplete⟩ | same
      · exact .inl broken
      · exact .inr (.inl incomplete)
      · exact .inr (.inr same)

theorem osdStep_continuous {shared : SuiteBridgeOsdState} (step : OsdStep)
    (valid : Continuous shared) (keeps : KeepsMarks shared step) :
    Continuous (osdStep shared step).1 := by
  cases step with
  | callback callback =>
    unfold osdStep
    cases held : shared.gate with
    | some holder => exact continuous_of_broken valid rfl rfl rfl
    | none =>
      have surface := valid.surface
      rw [held] at surface
      refine ⟨valid.shown, ?_, valid.copies⟩
      rcases surface with broken | ⟨overflowed, -⟩ | same
      · exact .inl broken
      · exact .inr ⟨rfl, .inl overflowed⟩
      · exact .inr ⟨rfl, .inr same⟩
  | capture =>
    unfold osdStep
    cases held : shared.gate with
    | some holder => exact valid
    | none =>
      have surface := valid.surface
      rw [held] at surface
      exact ⟨valid.shown, surface, valid.copies⟩
  | proceed epoch now => exact proceed_continuous epoch now valid keeps
  | finish index =>
    simp only [osdStep]
    cases found : shared.copies[index]? with
    | none => exact valid
    | some copied =>
      exact ⟨valid.shown, valid.surface,
        fun other member => valid.copies other (List.mem_of_mem_eraseIdx member)⟩

theorem osdStep_captured {shared : SuiteBridgeOsdState} (step : OsdStep)
    (valid : Continuous shared) {snapshot : SuiteBridgeOsdSnapshot}
    {issued : List StatusCallback} (captured : (osdStep shared step).2 = some (snapshot, issued))
    (complete : snapshot.surface.complete = true)
    (consistent : snapshot.surface.consistent = true) :
    snapshot.surface = withoutLoss issued := by
  cases step with
  | callback callback =>
    unfold osdStep at captured
    cases held : shared.gate <;> simp [held] at captured
  | capture =>
    unfold osdStep at captured
    cases held : shared.gate with
    | none => simp [held] at captured
    | some holder =>
      simp only [held, Option.some.injEq, Prod.mk.injEq] at captured
      obtain ⟨rfl, -⟩ := captured
      cases consistent
  | proceed epoch now => cases captured
  | finish index =>
    unfold osdStep at captured
    cases found : shared.copies[index]? with
    | none => simp [found] at captured
    | some copied =>
      simp only [found, Option.some.injEq, Prod.mk.injEq] at captured
      obtain ⟨rfl, rfl⟩ := captured
      simp only [finished, Bool.and_eq_true, Bool.not_eq_true'] at complete
      obtain ⟨stillBroken, faithful⟩ := valid.copies copied (List.mem_of_getElem? found)
      rcases faithful with broken | incomplete | same
      · rw [stillBroken broken] at complete
        cases complete.2
      · rw [incomplete] at complete
        cases complete.1
      · simp only [finished, complete, Bool.not_false, Bool.and_true]
        rw [← same, ← complete.1]

/-! ## Runs -/

def undisturbed (callback : StatusCallback) : List OsdStep :=
  [.callback callback, .proceed [] 0, .proceed [] 0, .proceed [] 0]

/-- A title that is dropped while a capture holds the gate, before the first item of its menu: the
item opens the menu and clears the flag. -/
def titleDropped : List OsdStep :=
  undisturbed .clear ++ [.capture, .callback (.title (some (text "Menu"))), .proceed [] 0] ++
  undisturbed (.item (some (text "Setup")) 0 true) ++ [.capture, .proceed [] 0]

end VdrSuite.Plugin
