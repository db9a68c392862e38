import VdrSuite.Plugin.OsdContinuity
import VdrSuite.Plugin.OsdSnapshotContract

/-! What every snapshot of the OSD keeps to: the limits of its texts, its items and its numbers. -/

set_option autoImplicit false

namespace VdrSuite.Plugin

open Library

/-! ## Bounds -/

def Fits (maximum : Nat) (value : Bytes) : Prop :=
  value.length ≤ maximum ∧ (0 : UInt8) ∉ value

def WithinInt64 (value : Int) : Prop := -(int64Max : Int) - 1 ≤ value ∧ value ≤ int64Max

instance (value : Int) : Decidable (WithinInt64 value) := by
  unfold WithinInt64
  infer_instance

structure SurfaceBounded (surface : OsdSurface) : Prop where
  shown : Shown surface
  title : Fits titleBytes surface.title
  statusMessage : Fits statusBytes surface.statusMessage
  red : Fits buttonBytes surface.red
  green : Fits buttonBytes surface.green
  yellow : Fits buttonBytes surface.yellow
  blue : Fits buttonBytes surface.blue
  items : ∀ item ∈ surface.items, Fits itemTextBytes item.text
  room : surface.items.length = maximumItems
  itemCount : surface.itemCount ≤ maximumItems
  selectedIndex : -1 ≤ surface.selectedIndex ∧ surface.selectedIndex < surface.itemCount
  detailText : Fits detailTextBytes surface.detailText
  channel : Fits channelBytes surface.channel
  presentTime : WithinInt64 surface.presentTime
  presentTitle : Fits programmeTextBytes surface.presentTitle
  presentSubtitle : Fits programmeTextBytes surface.presentSubtitle
  followingTime : WithinInt64 surface.followingTime
  followingTitle : Fits programmeTextBytes surface.followingTitle
  followingSubtitle : Fits programmeTextBytes surface.followingSubtitle

def CounterEpoch (epoch : Bytes) : Prop := ∃ source, epoch = suiteBridgeCounterEpoch source

structure SnapshotBounded (snapshot : SuiteBridgeOsdSnapshot) : Prop where
  surface : SurfaceBounded snapshot.surface
  frameSequence : snapshot.frameSequence ≤ unsignedLongLongMax
  observedAtMilliseconds : snapshot.observedAtMilliseconds ≤ unsignedLongLongMax
  droppedUpdates : snapshot.droppedUpdates ≤ unsignedLongLongMax
  osdEpoch : snapshot.osdEpoch = [] ∨ CounterEpoch snapshot.osdEpoch
  active : snapshot.surface.active = true → CounterEpoch snapshot.osdEpoch

/-- The values that VDR and the system hand over fit their types, and an epoch is made from a
source. -/
def Attested : OsdStep → Prop
  | .callback (.programme presentTime _ _ followingTime _ _) =>
    WithinInt64 presentTime ∧ WithinInt64 followingTime
  | .proceed epoch now => CounterEpoch epoch ∧ now ≤ unsignedLongLongMax
  | _ => True

def TimesFit (callback : StatusCallback) : Prop := Attested (.callback callback)

/-! ## Surfaces -/

theorem copyBounded_fits (maximum : Nat) (source : Option Bytes) :
    Fits maximum (copyBounded maximum source).1 := by
  cases source with
  | none => exact ⟨Nat.zero_le maximum, List.not_mem_nil⟩
  | some source =>
    refine ⟨List.length_take_le maximum _, ?_⟩
    intro member
    exact zero_notMem_cString source (List.mem_of_mem_take member)

theorem emptySurface_bounded (kind : SuiteBridgeOsdFrameKind) :
    SurfaceBounded (emptySurface kind) := by
  have blank (maximum : Nat) : Fits maximum [] := ⟨Nat.zero_le maximum, List.not_mem_nil⟩
  have zero : WithinInt64 0 := by decide
  have items : ∀ item ∈ List.replicate maximumItems ({} : SuiteBridgeOsdItemSnapshot),
      Fits itemTextBytes item.text := by
    intro item member
    obtain rfl := List.eq_of_mem_replicate member
    exact blank _
  have room : (List.replicate maximumItems ({} : SuiteBridgeOsdItemSnapshot)).length =
      maximumItems := List.length_replicate
  have selected : (-1 : Int) ≤ -1 ∧ (-1 : Int) < (0 : Nat) := by decide
  cases kind with
  | inactive =>
    exact ⟨rfl, blank _, blank _, blank _, blank _, blank _, blank _, items, room, Nat.zero_le _,
      selected, blank _, blank _, zero, blank _, blank _, zero, blank _, blank _⟩
  | menu =>
    exact ⟨rfl, blank _, blank _, blank _, blank _, blank _, blank _, items, room, Nat.zero_le _,
      selected, blank _, blank _, zero, blank _, blank _, zero, blank _, blank _⟩
  | channelInfo =>
    exact ⟨rfl, blank _, blank _, blank _, blank _, blank _, blank _, items, room, Nat.zero_le _,
      selected, blank _, blank _, zero, blank _, blank _, zero, blank _, blank _⟩

theorem startSurface_bounded (callback : StatusCallback) {surface : OsdSurface}
    (bounded : SurfaceBounded surface) : SurfaceBounded (startSurface callback surface) := by
  unfold startSurface
  split
  case isTrue => exact emptySurface_bounded _
  case isFalse => exact bounded

theorem itemIndex_some {index : Int} {position : Nat} (named : itemIndex index = some position) :
    index = position ∧ position < maximumItems := by
  unfold itemIndex at named
  split at named
  case isTrue => cases named
  case isFalse inside =>
    obtain rfl := Option.some.inj named
    omega

theorem modify_fits {items : List SuiteBridgeOsdItemSnapshot} (position : Nat)
    {change : SuiteBridgeOsdItemSnapshot → SuiteBridgeOsdItemSnapshot}
    (fits : ∀ item ∈ items, Fits itemTextBytes item.text)
    (changed : ∀ item, Fits itemTextBytes item.text → Fits itemTextBytes (change item).text) :
    ∀ item ∈ items.modify position change, Fits itemTextBytes item.text := by
  induction items generalizing position with
  | nil => simp
  | cons first rest ih =>
    obtain ⟨head, others⟩ := List.forall_mem_cons.mp fits
    cases position with
    | zero => exact List.forall_mem_cons.mpr ⟨changed first head, others⟩
    | succ position => exact List.forall_mem_cons.mpr ⟨head, ih position others⟩

theorem writeItemText_bounded {surface : OsdSurface} (position : Nat) (source : Option Bytes)
    (bounded : SurfaceBounded surface) : SurfaceBounded (surface.writeItemText position source) :=
  { bounded with
    shown := bounded.shown
    items := modify_fits position bounded.items fun _ _ => copyBounded_fits itemTextBytes source
    room := (List.length_modify _ _ _).trans bounded.room }

theorem writePayload_bounded (callback : StatusCallback) (times : TimesFit callback)
    {surface : OsdSurface} (bounded : SurfaceBounded surface) :
    SurfaceBounded (writePayload callback surface) := by
  have grown (position : Nat) (inside : position < maximumItems) :
      max surface.itemCount (position + 1) ≤ maximumItems :=
    Nat.max_le.mpr ⟨bounded.itemCount, inside⟩
  have still (position : Nat) :
      -1 ≤ surface.selectedIndex ∧
        surface.selectedIndex < (max surface.itemCount (position + 1) : Nat) := by
    have := bounded.selectedIndex
    omega
  cases callback with
  | clear => exact bounded
  | title source =>
    exact { bounded with shown := bounded.shown, title := copyBounded_fits _ source }
  | statusMessage source =>
    exact { bounded with shown := bounded.shown, statusMessage := copyBounded_fits _ source }
  | helpKeys red green yellow blue =>
    exact
      { bounded with
        shown := bounded.shown
        red := copyBounded_fits _ red
        green := copyBounded_fits _ green
        yellow := copyBounded_fits _ yellow
        blue := copyBounded_fits _ blue }
  | item source index selectable =>
    simp only [writePayload]
    cases named : itemIndex index with
    | none => exact { bounded with shown := bounded.shown }
    | some position =>
      have written := writeItemText_bounded position source bounded
      exact
        { written with
          shown := bounded.shown
          items := modify_fits position written.items fun _ fits => fits
          room := (List.length_modify _ _ _).trans written.room
          itemCount := grown position (itemIndex_some named).2
          selectedIndex := still position }
  | currentItem source index =>
    simp only [writePayload]
    cases named : itemIndex index with
    | none =>
      exact
        { bounded with
          shown := bounded.shown
          selectedIndex := ⟨by simp, by simp only; omega⟩ }
    | some position =>
      obtain ⟨same, inside⟩ := itemIndex_some named
      have selected : SurfaceBounded
          { surface with
            selectedIndex := index
            itemCount := max surface.itemCount (position + 1) } :=
        { bounded with
          shown := bounded.shown
          itemCount := grown position inside
          selectedIndex := ⟨by simp only; omega, by simp only; omega⟩ }
      dsimp only
      split
      case isTrue => exact writeItemText_bounded position source selected
      case isFalse => exact selected
  | textItem source scroll =>
    cases source with
    | none => exact { bounded with shown := bounded.shown }
    | some value =>
      exact
        { bounded with
          shown := bounded.shown
          detailText := copyBounded_fits _ (some value) }
  | channel source =>
    exact { bounded with shown := bounded.shown, channel := copyBounded_fits _ source }
  | programme presentTime presentTitle presentSubtitle followingTime followingTitle
      followingSubtitle =>
      exact
        { bounded with
          shown := bounded.shown
          presentTime := times.1
          presentTitle := copyBounded_fits _ presentTitle
          presentSubtitle := copyBounded_fits _ presentSubtitle
          followingTime := times.2
          followingTitle := copyBounded_fits _ followingTitle
          followingSubtitle := copyBounded_fits _ followingSubtitle }

/-! ## Steps -/

structure StateBounded (shared : SuiteBridgeOsdState) : Prop where
  state : SnapshotBounded shared.state
  frameSequence : shared.frameSequence.value ≤ unsignedLongLongMax
  droppedUpdates : shared.droppedUpdates.value ≤ unsignedLongLongMax
  holder : ∀ callback phase earlier,
    shared.gate = some (.callback callback phase earlier) → TimesFit callback
  copies : ∀ copied ∈ shared.copies, SnapshotBounded copied.snapshot

theorem increment_bounded {counter : SuiteBridgeSaturatingCounter}
    (bounded : counter.value ≤ unsignedLongLongMax) :
    counter.increment.value ≤ unsignedLongLongMax := by
  unfold SuiteBridgeSaturatingCounter.increment
  split
  case isTrue => exact bounded
  case isFalse below => exact Nat.succ_le_of_lt (Nat.lt_of_not_le below)

theorem SurfaceBounded.flags {surface : OsdSurface} (bounded : SurfaceBounded surface)
    (complete consistent : Bool) :
    SurfaceBounded { surface with complete := complete, consistent := consistent } :=
  { bounded with shown := bounded.shown }

theorem initial_bounded : StateBounded {} where
  state :=
    { surface := emptySurface_bounded .inactive
      frameSequence := Nat.zero_le _
      observedAtMilliseconds := Nat.zero_le _
      droppedUpdates := Nat.zero_le _
      osdEpoch := .inl rfl
      active := fun shown => by cases shown }
  frameSequence := Nat.zero_le _
  droppedUpdates := Nat.zero_le _
  holder := fun _ _ _ held => by cases held
  copies := fun _ member => absurd member List.not_mem_nil

theorem startSurfaceLocked_bounded (callback : StatusCallback) {epoch : Bytes}
    (attested : CounterEpoch epoch) {shared : SuiteBridgeOsdState} (bounded : StateBounded shared) :
    SnapshotBounded (startSurfaceLocked callback epoch shared).state := by
  unfold startSurfaceLocked
  cases beginning : begins callback shared.state.surface with
  | false => exact bounded.state
  | true =>
    simp only [if_true]
    have started : startSurface callback shared.state.surface = emptySurface callback.kind := by
      simp only [startSurface, beginning, if_true]
    refine
      { surface := startSurface_bounded callback bounded.state.surface
        frameSequence := bounded.state.frameSequence
        observedAtMilliseconds := Nat.zero_le _
        droppedUpdates := bounded.droppedUpdates
        osdEpoch := ?_
        active := ?_ }
    · cases kind : callback.kind with
      | inactive => exact .inl rfl
      | _ => exact .inr attested
    · intro active
      simp only [started, emptySurface_active, decide_eq_true_eq] at active
      simpa only [active, if_false] using attested

theorem advanceLocked_bounded (callback : StatusCallback) (times : TimesFit callback) {now : Nat}
    (attested : now ≤ unsignedLongLongMax) {shared : SuiteBridgeOsdState}
    (bounded : StateBounded shared) :
    SnapshotBounded (advanceLocked now (writePayloadLocked callback shared)).state := by
  have written := writePayload_bounded callback times bounded.state.surface
  exact
    { surface := written.flags _ _
      frameSequence := increment_bounded bounded.frameSequence
      observedAtMilliseconds := attested
      droppedUpdates := bounded.droppedUpdates
      osdEpoch := bounded.state.osdEpoch
      active := fun active => bounded.state.active
        ((writePayload_keeps callback shared.state.surface).2 ▸ active) }

theorem startSurfaceLocked_counters (callback : StatusCallback) (epoch : Bytes)
    (shared : SuiteBridgeOsdState) :
    (startSurfaceLocked callback epoch shared).frameSequence = shared.frameSequence ∧
      (startSurfaceLocked callback epoch shared).droppedUpdates = shared.droppedUpdates ∧
      (startSurfaceLocked callback epoch shared).copies = shared.copies := by
  unfold startSurfaceLocked
  split <;> exact ⟨rfl, rfl, rfl⟩

theorem proceed_bounded {epoch : Bytes} {now : Nat} (attested : Attested (.proceed epoch now))
    {shared : SuiteBridgeOsdState} (bounded : StateBounded shared) :
    StateBounded (proceed epoch now shared) := by
  unfold proceed
  cases held : shared.gate with
  | none => exact bounded
  | some holder =>
    cases holder with
    | capture =>
      refine { bounded with holder := fun _ _ _ free => (by cases free), copies := ?_ }
      intro copied member
      cases List.mem_append.mp member with
      | inl old => exact bounded.copies copied old
      | inr new =>
        obtain rfl := List.mem_singleton.mp new
        exact bounded.state
    | callback callback phase earlier =>
      have times : TimesFit callback := bounded.holder callback phase earlier held
      cases phase with
      | acquired =>
        obtain ⟨frames, dropped, copies⟩ := startSurfaceLocked_counters callback epoch shared
        exact
          { state := startSurfaceLocked_bounded callback attested.1 bounded
            frameSequence := frames ▸ bounded.frameSequence
            droppedUpdates := dropped ▸ bounded.droppedUpdates
            holder := fun _ _ _ same => by cases same; exact times
            copies := copies ▸ bounded.copies }
      | started =>
        exact
          { state := advanceLocked_bounded callback times attested.2 bounded
            frameSequence := increment_bounded bounded.frameSequence
            droppedUpdates := bounded.droppedUpdates
            holder := fun _ _ _ same => by cases same; exact times
            copies := bounded.copies }
      | advanced => exact { bounded with holder := fun _ _ _ free => by cases free }

theorem osdStep_bounded {shared : SuiteBridgeOsdState} (step : OsdStep)
    (bounded : StateBounded shared) (attested : Attested step) :
    StateBounded (osdStep shared step).1 := by
  cases step with
  | callback callback =>
    unfold osdStep
    cases held : shared.gate with
    | none =>
      exact { bounded with holder := fun _ _ _ same => by cases same; exact attested }
    | some holder =>
      exact
        { bounded with
          droppedUpdates := increment_bounded bounded.droppedUpdates
          holder := fun callback phase earlier same =>
            bounded.holder callback phase earlier same }
  | capture =>
    unfold osdStep
    cases held : shared.gate with
    | none => exact { bounded with holder := fun _ _ _ same => by cases same }
    | some holder => exact bounded
  | proceed epoch now => exact proceed_bounded attested bounded
  | finish index =>
    simp only [osdStep]
    cases found : shared.copies[index]? with
    | none => exact bounded
    | some copied =>
      exact
        { bounded with
          holder := bounded.holder
          copies := fun other member =>
            bounded.copies other (List.mem_of_mem_eraseIdx member) }

theorem osdStep_captured_bounded {shared : SuiteBridgeOsdState} (step : OsdStep)
    (bounded : StateBounded shared) {snapshot : SuiteBridgeOsdSnapshot}
    {issued : List StatusCallback} (captured : (osdStep shared step).2 = some (snapshot, issued)) :
    SnapshotBounded snapshot := by
  cases step with
  | callback callback =>
    unfold osdStep at captured
    cases held : shared.gate <;> simp [held] at captured
  | capture =>
    unfold osdStep at captured
    cases held : shared.gate with
    | none => simp [held] at captured
    | some holder =>
      simp only [held, Option.some.injEq, Prod.mk.injEq] at captured
      obtain ⟨rfl, -⟩ := captured
      exact
        { surface := (emptySurface_bounded .inactive).flags false false
          frameSequence := Nat.zero_le _
          observedAtMilliseconds := Nat.zero_le _
          droppedUpdates := bounded.droppedUpdates
          osdEpoch := .inl rfl
          active := fun shown => by cases shown }
  | proceed epoch now => cases captured
  | finish index =>
    unfold osdStep at captured
    cases found : shared.copies[index]? with
    | none => simp [found] at captured
    | some copied =>
      simp only [found, Option.some.injEq, Prod.mk.injEq] at captured
      obtain ⟨rfl, rfl⟩ := captured
      have copy := bounded.copies copied (List.mem_of_getElem? found)
      exact
        { copy with
          surface := copy.surface.flags _ _
          droppedUpdates := bounded.droppedUpdates
          active := copy.active }

theorem captured_bounded {steps : List OsdStep} (attested : ∀ step ∈ steps, Attested step)
    (step : OsdStep) {snapshot : SuiteBridgeOsdSnapshot} {issued : List StatusCallback}
    (captured : (osdStep (Run.final osdStep {} steps) step).2 = some (snapshot, issued)) :
    SnapshotBounded snapshot := by
  have bounded : StateBounded (Run.final osdStep {} steps) :=
    Run.final_preserves_of_admits osdStep StateBounded
      (fun _ step bounded attested => osdStep_bounded step bounded attested) initial_bounded
      (Run.admits_of_forall osdStep attested)
  exact osdStep_captured_bounded step bounded captured

end VdrSuite.Plugin
