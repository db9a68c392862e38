import VdrSuite.Library.Run
import VdrSuite.Osd.OsdFrame

/-! The agent's buffer of the latest full OSD frame: what one application stores, and what holds
over every sequence of them. -/

set_option autoImplicit false

namespace VdrSuite.Osd

open Library

/-! ## Fingerprints -/

def fnvOffset : UInt64 := 1469598103934665603
def fnvPrime : UInt64 := 1099511628211

def mixByte (value : UInt64) (byte : UInt8) : UInt64 :=
  (value ^^^ byte.toUInt64) * fnvPrime

def mixString (value : UInt64) (text : Bytes) : UInt64 :=
  mixByte (text.foldl mixByte value) 255

def mixUnsigned (value number : UInt64) : UInt64 :=
  [(0 : UInt64), 8, 16, 24, 32, 40, 48, 56].foldl
    (fun mixed shift => mixByte mixed (number >>> shift).toUInt8) value

def mixSigned (value : UInt64) (number : Int) : UInt64 :=
  mixUnsigned value (UInt64.ofNat (number % 18446744073709551616).toNat)

def mixBool (value : UInt64) (flag : Bool) : UInt64 :=
  mixByte value (if flag then 1 else 0)

def OsdSurfaceState.code : OsdSurfaceState → UInt64
  | .inactive => 0
  | .active => 1
  | .degraded => 2
  | .suppressed => 3

def OsdFrameKind.code : OsdFrameKind → UInt64
  | .none => 0
  | .menu => 1
  | .channelInfo => 2

def fingerprint (frame : OsdFrame) : UInt64 :=
  let value := mixUnsigned (mixUnsigned fnvOffset frame.state.code) frame.kind.code
  let value := [frame.surface.osdEpoch, frame.title, frame.statusMessage, frame.red, frame.green,
    frame.yellow, frame.blue].foldl mixString value
  let value := mixString (mixString (mixSigned value frame.selectedIndex) frame.text) frame.channel
  let value := mixString (mixString (mixSigned value frame.programme.presentTime)
    frame.programme.presentTitle) frame.programme.presentSubtitle
  let value := mixString (mixString (mixSigned value frame.programme.followingTime)
    frame.programme.followingTitle) frame.programme.followingSubtitle
  frame.items.foldl (fun mixed item => mixBool (mixString mixed item.text) item.selectable) value

/-! ## The buffer -/

inductive SuiteBridgeOsdFrameBufferApplyResult
  | adopted
  | updated
  | duplicate
  | replacedEpoch
  | replacedBackendGeneration
  | becameInactive
  | resyncRequired
  | rejected
  deriving DecidableEq

structure SuiteBridgeOsdFrameBufferSnapshot where
  hasFrame : Bool := false
  resyncRequired : Bool := false
  observed : SuiteBridgeOsdObservedFrame := {}
  contentFingerprint : UInt64 := 0
  deriving DecidableEq

def validIdentity (frame : OsdFrame) : Bool :=
  !frame.surface.backendId.isEmpty && decide (frame.surface.backendId.length ≤ 128) &&
    !frame.surface.surfaceId.isEmpty && decide (frame.surface.surfaceId.length ≤ 128)

def degraded (observed : SuiteBridgeOsdObservedFrame) : Bool :=
  !observed.sourceConsistent || !observed.frame.complete || observed.frame.state == .degraded

/-- Stores a frame that begins anew: only its own degradation asks for a resynchronisation. -/
def storeAnew (observed : SuiteBridgeOsdObservedFrame)
    (result : SuiteBridgeOsdFrameBufferApplyResult) :
    SuiteBridgeOsdFrameBufferSnapshot × SuiteBridgeOsdFrameBufferApplyResult :=
  (⟨true, degraded observed, observed, fingerprint observed.frame⟩,
    if degraded observed then .resyncRequired else result)

def apply (snapshot : SuiteBridgeOsdFrameBufferSnapshot) (observed : SuiteBridgeOsdObservedFrame) :
    SuiteBridgeOsdFrameBufferSnapshot × SuiteBridgeOsdFrameBufferApplyResult :=
  let previous := snapshot.observed.frame
  let following := observed.frame
  if !validIdentity following || !following.fullFrame || !osdFrameWithinLimits following then
    ({ snapshot with resyncRequired := true }, .rejected)
  else if !snapshot.hasFrame then storeAnew observed .adopted
  else if previous.surface.backendId ≠ following.surface.backendId ∨
      previous.surface.surfaceId ≠ following.surface.surfaceId then
    ({ snapshot with resyncRequired := true }, .rejected)
  else if previous.surface.backendGeneration ≠ following.surface.backendGeneration then
    storeAnew observed .replacedBackendGeneration
  else if following.state = .inactive then
    (⟨true, false, observed, fingerprint following⟩, .becameInactive)
  else if previous.state = .inactive ∨ previous.surface.osdEpoch ≠ following.surface.osdEpoch then
    storeAnew observed .replacedEpoch
  else if following.frameSequence < previous.frameSequence then
    ({ snapshot with resyncRequired := true }, .resyncRequired)
  else if following.frameSequence = previous.frameSequence then
    if fingerprint following = snapshot.contentFingerprint ∧
        observed.droppedUpdates = snapshot.observed.droppedUpdates ∧
        observed.sourceConsistent = snapshot.observed.sourceConsistent then (snapshot, .duplicate)
    else ({ snapshot with resyncRequired := true }, .resyncRequired)
  else
    let continuityLost := decide (observed.droppedUpdates > snapshot.observed.droppedUpdates) ||
      degraded observed
    if snapshot.resyncRequired || continuityLost then
      (⟨true, true, observed, fingerprint following⟩, .resyncRequired)
    else (⟨true, snapshot.resyncRequired, observed, fingerprint following⟩, .updated)

/-! ## What one application does -/

def Acceptable (following : OsdFrame) : Prop :=
  validIdentity following = true ∧ following.fullFrame = true ∧
    osdFrameWithinLimits following = true

def SameSurface (previous following : OsdFrame) : Prop :=
  following.surface.backendId = previous.surface.backendId ∧
    following.surface.surfaceId = previous.surface.surfaceId

def BeginsAnew (snapshot : SuiteBridgeOsdFrameBufferSnapshot) (following : OsdFrame) : Prop :=
  snapshot.hasFrame = false ∨
    following.surface.backendGeneration ≠ snapshot.observed.frame.surface.backendGeneration ∨
    following.surface.osdEpoch ≠ snapshot.observed.frame.surface.osdEpoch ∨
    following.state = .inactive ∨ snapshot.observed.frame.state = .inactive

def Replaces (snapshot : SuiteBridgeOsdFrameBufferSnapshot) (following : OsdFrame) : Prop :=
  Acceptable following ∧
    (snapshot.hasFrame = true → SameSurface snapshot.observed.frame following) ∧
    (BeginsAnew snapshot following ∨
      snapshot.observed.frame.frameSequence < following.frameSequence)

instance (following : OsdFrame) : Decidable (Acceptable following) :=
  inferInstanceAs (Decidable (_ ∧ _ ∧ _))

instance (previous following : OsdFrame) : Decidable (SameSurface previous following) :=
  inferInstanceAs (Decidable (_ ∧ _))

instance (snapshot : SuiteBridgeOsdFrameBufferSnapshot) (following : OsdFrame) :
    Decidable (BeginsAnew snapshot following) :=
  inferInstanceAs (Decidable (_ ∨ _ ∨ _ ∨ _ ∨ _))

instance (snapshot : SuiteBridgeOsdFrameBufferSnapshot) (following : OsdFrame) :
    Decidable (Replaces snapshot following) :=
  inferInstanceAs (Decidable (_ ∧ _ ∧ _))

inductive Forward (snapshot : SuiteBridgeOsdFrameBufferSnapshot)
    (observed : SuiteBridgeOsdObservedFrame) : Bool → SuiteBridgeOsdFrameBufferApplyResult → Prop
  | lost : Forward snapshot observed true .resyncRequired
  | updated (steady : snapshot.resyncRequired = false) (intact : degraded observed = false)
      (undropped : observed.droppedUpdates ≤ snapshot.observed.droppedUpdates) :
      Forward snapshot observed false .updated

inductive Applied (snapshot : SuiteBridgeOsdFrameBufferSnapshot)
    (observed : SuiteBridgeOsdObservedFrame) :
    SuiteBridgeOsdFrameBufferSnapshot × SuiteBridgeOsdFrameBufferApplyResult → Prop
  | refused (result : SuiteBridgeOsdFrameBufferApplyResult)
      (kept : ¬ Replaces snapshot observed.frame)
      (negative : result = .rejected ∨ result = .resyncRequired) :
      Applied snapshot observed ({ snapshot with resyncRequired := true }, result)
  | duplicate (kept : ¬ Replaces snapshot observed.frame) :
      Applied snapshot observed (snapshot, .duplicate)
  | anew (result : SuiteBridgeOsdFrameBufferApplyResult)
      (replaces : Replaces snapshot observed.frame) (begins : BeginsAnew snapshot observed.frame)
      (positive : result ∈
        [SuiteBridgeOsdFrameBufferApplyResult.adopted, .replacedBackendGeneration, .replacedEpoch]) :
      Applied snapshot observed (storeAnew observed result)
  | becameInactive (replaces : Replaces snapshot observed.frame)
      (begins : BeginsAnew snapshot observed.frame) :
      Applied snapshot observed
        (⟨true, false, observed, fingerprint observed.frame⟩, .becameInactive)
  | forward (resync : Bool) (result : SuiteBridgeOsdFrameBufferApplyResult)
      (replaces : Replaces snapshot observed.frame)
      (continues : ¬ BeginsAnew snapshot observed.frame)
      (outcome : Forward snapshot observed resync result) :
      Applied snapshot observed (⟨true, resync, observed, fingerprint observed.frame⟩, result)

theorem apply_applied (snapshot : SuiteBridgeOsdFrameBufferSnapshot)
    (observed : SuiteBridgeOsdObservedFrame) :
    Applied snapshot observed (apply snapshot observed) := by
  unfold apply
  by_cases acceptable : Acceptable observed.frame
  case neg =>
    rw [if_pos (by simpa [Acceptable, imp_iff_not_or, or_assoc] using acceptable)]
    exact .refused _ (fun replaces => acceptable replaces.1) (.inl rfl)
  rw [if_neg (by simpa [Acceptable, and_assoc] using acceptable)]
  by_cases has : snapshot.hasFrame = true
  case neg =>
    have absent : snapshot.hasFrame = false := by simpa using has
    rw [if_pos (by simp [absent])]
    exact .anew _ ⟨acceptable, fun present => absurd present has, .inl (.inl absent)⟩ (.inl absent)
      (by decide)
  rw [if_neg (by simp [has])]
  by_cases same : SameSurface snapshot.observed.frame observed.frame
  case neg =>
    rw [if_pos (by simpa [SameSurface, imp_iff_not_or, eq_comm] using same)]
    exact .refused _ (fun replaces => same (replaces.2.1 has)) (.inl rfl)
  rw [if_neg (by simpa [SameSurface, eq_comm] using same)]
  have stores : BeginsAnew snapshot observed.frame → Replaces snapshot observed.frame :=
    fun begins => ⟨acceptable, fun _ => same, .inl begins⟩
  split
  case isTrue generation =>
    have begins : BeginsAnew snapshot observed.frame := .inr (.inl (Ne.symm generation))
    exact .anew _ (stores begins) begins (by decide)
  case isFalse generation =>
  split
  case isTrue inactive =>
    have begins : BeginsAnew snapshot observed.frame := .inr (.inr (.inr (.inl inactive)))
    exact .becameInactive (stores begins) begins
  case isFalse showing =>
  split
  case isTrue epoch =>
    have begins : BeginsAnew snapshot observed.frame :=
      .inr (.inr (epoch.elim (fun inactive => .inr (.inr inactive))
        (fun another => .inl (Ne.symm another))))
    exact .anew _ (stores begins) begins (by decide)
  case isFalse epoch =>
  have continues : ¬ BeginsAnew snapshot observed.frame := by
    simp only [not_or, not_not] at epoch generation
    simp only [BeginsAnew, not_or, not_not]
    exact ⟨by simp [has], generation.symm, epoch.2.symm, showing, epoch.1⟩
  have stays : observed.frame.frameSequence ≤ snapshot.observed.frame.frameSequence →
      ¬ Replaces snapshot observed.frame := by
    intro notLater replaces
    cases replaces.2.2 with
    | inl begins => exact continues begins
    | inr later => omega
  split
  case isTrue earlier => exact .refused _ (stays (Nat.le_of_lt earlier)) (.inr rfl)
  case isFalse notEarlier =>
  split
  case isTrue same =>
    have kept := stays (Nat.le_of_eq same)
    split
    · exact .duplicate kept
    · exact .refused _ kept (.inr rfl)
  case isFalse different =>
  have replaces : Replaces snapshot observed.frame := ⟨acceptable, fun _ => same, .inr (by omega)⟩
  dsimp only
  split
  case isTrue lost => exact .forward _ _ replaces continues .lost
  case isFalse steady =>
    simp only [Bool.or_eq_true, decide_eq_true_eq, not_or, Bool.not_eq_true, Nat.not_lt] at steady
    rw [steady.1]
    exact .forward _ _ replaces continues (.updated steady.1 steady.2.2 steady.2.1)

section Outcomes

variable {snapshot : SuiteBridgeOsdFrameBufferSnapshot} {observed : SuiteBridgeOsdObservedFrame}
  {outcome : SuiteBridgeOsdFrameBufferSnapshot × SuiteBridgeOsdFrameBufferApplyResult}

theorem Applied.replaced (applied : Applied snapshot observed outcome)
    (replaces : Replaces snapshot observed.frame) :
    outcome.1.hasFrame = true ∧ outcome.1.observed = observed := by
  cases applied with
  | refused _ kept _ => exact absurd replaces kept
  | duplicate kept => exact absurd replaces kept
  | anew | becameInactive | forward => exact ⟨rfl, rfl⟩

theorem Applied.kept (applied : Applied snapshot observed outcome)
    (kept : ¬ Replaces snapshot observed.frame) :
    outcome.1.hasFrame = snapshot.hasFrame ∧ outcome.1.observed = snapshot.observed := by
  cases applied with
  | refused | duplicate => exact ⟨rfl, rfl⟩
  | anew _ replaces _ _ => exact absurd replaces kept
  | becameInactive replaces _ => exact absurd replaces kept
  | forward _ _ replaces _ _ => exact absurd replaces kept

theorem Applied.answer (applied : Applied snapshot observed outcome) :
    (outcome.2 = .rejected ∨ outcome.2 = .duplicate →
      outcome.1.hasFrame = snapshot.hasFrame ∧ outcome.1.observed = snapshot.observed) ∧
    (outcome.2 ∈
        [SuiteBridgeOsdFrameBufferApplyResult.updated, .adopted, .replacedEpoch,
          .replacedBackendGeneration] →
      outcome.1.observed.frame.complete = true ∧
      outcome.1.observed.sourceConsistent = true) ∧
    (outcome.2 = .updated →
      outcome.1.observed.droppedUpdates ≤ snapshot.observed.droppedUpdates) := by
  have intact : degraded observed = false →
      observed.frame.complete = true ∧ observed.sourceConsistent = true := by
    intro undegraded
    simp only [degraded, Bool.or_eq_false_iff, Bool.not_eq_false'] at undegraded
    exact ⟨undegraded.1.2, undegraded.1.1⟩
  cases applied with
  | refused result kept negative =>
    refine ⟨fun _ => ⟨rfl, rfl⟩, ?_, ?_⟩
    · cases negative with
      | inl rejected => subst rejected; simp
      | inr resync => subst resync; simp
    · cases negative with
      | inl rejected => subst rejected; simp
      | inr resync => subst resync; simp
  | duplicate => exact ⟨fun _ => ⟨rfl, rfl⟩, by simp, by simp⟩
  | anew result replaces begins positive =>
    simp only [storeAnew]
    cases lost : degraded observed with
    | true => exact ⟨by simp, by simp, by simp⟩
    | false =>
      refine ⟨?_, fun _ => intact lost, ?_⟩
      · rintro (rejected | duplicate)
        · subst rejected; exact absurd positive (by decide)
        · subst duplicate; exact absurd positive (by decide)
      · intro updated
        subst updated
        exact absurd positive (by decide)
  | becameInactive => exact ⟨by simp, by simp, by simp⟩
  | forward resync result replaces continues outcome =>
    cases outcome with
    | lost => exact ⟨by simp, by simp, by simp⟩
    | updated steady undegraded undropped =>
      exact ⟨by simp, fun _ => intact undegraded, fun _ => undropped⟩

/-- The call stores the first frame, one of another generation or epoch, an inactive one, or one
that follows an inactive one. -/
def StoresAnew (snapshot : SuiteBridgeOsdFrameBufferSnapshot)
    (observed : SuiteBridgeOsdObservedFrame) : Prop :=
  Replaces snapshot observed.frame ∧ BeginsAnew snapshot observed.frame

theorem Applied.resync (applied : Applied snapshot observed outcome)
    (resync : snapshot.resyncRequired = true)
    (continues : ¬ StoresAnew snapshot observed) :
    outcome.1.resyncRequired = true := by
  cases applied with
  | refused => rfl
  | duplicate => exact resync
  | anew _ replaces begins _ => exact absurd ⟨replaces, begins⟩ continues
  | becameInactive replaces begins => exact absurd ⟨replaces, begins⟩ continues
  | forward _ _ _ _ outcome =>
    cases outcome with
    | lost => rfl
    | updated steady => exact absurd (resync.symm.trans steady) (by decide)

end Outcomes

theorem apply_replaced {snapshot : SuiteBridgeOsdFrameBufferSnapshot}
    {observed : SuiteBridgeOsdObservedFrame} (replaces : Replaces snapshot observed.frame) :
    (apply snapshot observed).1.hasFrame = true ∧
      (apply snapshot observed).1.observed = observed :=
  (apply_applied snapshot observed).replaced replaces

theorem apply_kept {snapshot : SuiteBridgeOsdFrameBufferSnapshot}
    {observed : SuiteBridgeOsdObservedFrame} (kept : ¬ Replaces snapshot observed.frame) :
    (apply snapshot observed).1.hasFrame = snapshot.hasFrame ∧
      (apply snapshot observed).1.observed = snapshot.observed :=
  (apply_applied snapshot observed).kept kept

/-! ## Runs -/

def bufferAfter (frames : List SuiteBridgeOsdObservedFrame) : SuiteBridgeOsdFrameBufferSnapshot :=
  Run.final apply {} frames

theorem stored_applied (frames : List SuiteBridgeOsdObservedFrame)
    (has : (bufferAfter frames).hasFrame = true) : (bufferAfter frames).observed ∈ frames := by
  induction frames using List.reverseRecOn with
  | nil => cases has
  | append_singleton earlier observed ih =>
    rw [bufferAfter, Run.final_concat] at has ⊢
    by_cases replaces : Replaces (bufferAfter earlier) observed.frame
    · have stored := (apply_replaced replaces).2
      exact List.mem_append_right _ (List.mem_singleton.mpr stored)
    · obtain ⟨present, stored⟩ := apply_kept replaces
      rw [bufferAfter] at present stored
      rw [present] at has
      rw [stored]
      exact List.mem_append_left _ (ih has)

theorem apply_surface (snapshot : SuiteBridgeOsdFrameBufferSnapshot)
    (observed : SuiteBridgeOsdObservedFrame) (has : snapshot.hasFrame = true) :
    (apply snapshot observed).1.hasFrame = true ∧
      SameSurface snapshot.observed.frame (apply snapshot observed).1.observed.frame := by
  by_cases replaces : Replaces snapshot observed.frame
  · obtain ⟨present, stored⟩ := apply_replaced replaces
    refine ⟨present, ?_⟩
    rw [stored]
    exact replaces.2.1 has
  · obtain ⟨present, stored⟩ := apply_kept replaces
    rw [present, stored]
    exact ⟨has, rfl, rfl⟩

theorem final_surface (snapshot : SuiteBridgeOsdFrameBufferSnapshot)
    (has : snapshot.hasFrame = true) (frames : List SuiteBridgeOsdObservedFrame) :
    (Run.final apply snapshot frames).hasFrame = true ∧
      SameSurface snapshot.observed.frame (Run.final apply snapshot frames).observed.frame := by
  induction frames generalizing snapshot with
  | nil => exact ⟨has, rfl, rfl⟩
  | cons observed rest ih =>
    obtain ⟨present, backend, surface⟩ := apply_surface snapshot observed has
    obtain ⟨last, lastBackend, lastSurface⟩ := ih _ present
    exact ⟨last, lastBackend.trans backend, lastSurface.trans surface⟩

/-- A stored generation falls exactly where an acceptable frame of the surface has a smaller one. -/
theorem apply_generation_falls (snapshot : SuiteBridgeOsdFrameBufferSnapshot)
    (observed : SuiteBridgeOsdObservedFrame) (has : snapshot.hasFrame = true) :
    (apply snapshot observed).1.observed.frame.surface.backendGeneration <
        snapshot.observed.frame.surface.backendGeneration ↔
      Acceptable observed.frame ∧ SameSurface snapshot.observed.frame observed.frame ∧
        observed.frame.surface.backendGeneration <
          snapshot.observed.frame.surface.backendGeneration := by
  by_cases replaces : Replaces snapshot observed.frame
  · rw [(apply_replaced replaces).2]
    constructor
    · intro falls
      exact ⟨replaces.1, replaces.2.1 has, falls⟩
    · intro falls
      exact falls.2.2
  · rw [(apply_kept replaces).2]
    constructor
    · intro falls
      exact absurd falls (Nat.lt_irrefl _)
    · intro falls
      refine absurd ⟨falls.1, fun _ => falls.2.1, ?_⟩ replaces
      exact .inl (.inr (.inl (Nat.ne_of_lt falls.2.2)))

/-- The stored frames before and after a call are of one generation and one epoch, and neither is
inactive. -/
def SameStretch (snapshot : SuiteBridgeOsdFrameBufferSnapshot)
    (observed : SuiteBridgeOsdObservedFrame) : Prop :=
  let following := (apply snapshot observed).1.observed.frame
  following.surface.backendGeneration = snapshot.observed.frame.surface.backendGeneration ∧
    following.surface.osdEpoch = snapshot.observed.frame.surface.osdEpoch ∧
    following.state ≠ .inactive ∧ snapshot.observed.frame.state ≠ .inactive

def replacements : SuiteBridgeOsdFrameBufferSnapshot → List SuiteBridgeOsdObservedFrame → Nat
  | _, [] => 0
  | snapshot, observed :: rest =>
    (if Replaces snapshot observed.frame then 1 else 0) +
      replacements (apply snapshot observed).1 rest

theorem apply_sequence {snapshot : SuiteBridgeOsdFrameBufferSnapshot}
    {observed : SuiteBridgeOsdObservedFrame} (has : snapshot.hasFrame = true)
    (stretch : SameStretch snapshot observed) :
    snapshot.observed.frame.frameSequence +
        (if Replaces snapshot observed.frame then 1 else 0) ≤
      (apply snapshot observed).1.observed.frame.frameSequence := by
  by_cases replaces : Replaces snapshot observed.frame
  · rw [if_pos replaces]
    have stored := (apply_replaced replaces).2
    simp only [SameStretch, stored] at stretch
    rw [stored]
    cases replaces.2.2 with
    | inr later => exact later
    | inl begins =>
      obtain absent | generation | epoch | inactive | inactive := begins
      · exact absurd (has.symm.trans absent) (by decide)
      · exact absurd stretch.1 generation
      · exact absurd stretch.2.1 epoch
      · exact absurd inactive stretch.2.2.1
      · exact absurd inactive stretch.2.2.2
  · rw [if_neg replaces, (apply_kept replaces).2]
    exact Nat.le_refl _

theorem final_sequence (snapshot : SuiteBridgeOsdFrameBufferSnapshot)
    (has : snapshot.hasFrame = true) (frames : List SuiteBridgeOsdObservedFrame)
    (stretch : Run.Admits apply SameStretch snapshot frames) :
    snapshot.observed.frame.frameSequence + replacements snapshot frames ≤
      (Run.final apply snapshot frames).observed.frame.frameSequence := by
  induction frames generalizing snapshot with
  | nil => exact Nat.le_refl _
  | cons observed rest ih =>
    have first := apply_sequence has stretch.1
    have later := ih _ (apply_surface snapshot observed has).1 stretch.2
    rw [replacements, Run.final_cons]
    omega

theorem final_resync (snapshot : SuiteBridgeOsdFrameBufferSnapshot)
    (resync : snapshot.resyncRequired = true) (frames : List SuiteBridgeOsdObservedFrame)
    (continues : Run.Admits apply (fun before observed => ¬ StoresAnew before observed)
      snapshot frames) : (Run.final apply snapshot frames).resyncRequired = true :=
  Run.final_preserves_of_admits apply (fun current => current.resyncRequired = true)
    (fun _ _ set unbroken => (apply_applied _ _).resync set unbroken) resync continues

/-! ## The buffer never regresses -/

theorem osd_frame_buffer_never_regresses (frames : List SuiteBridgeOsdObservedFrame) :
    ((bufferAfter frames).hasFrame = true → (bufferAfter frames).observed ∈ frames) ∧
    ((bufferAfter frames).hasFrame = true → ∀ later,
      (bufferAfter (frames ++ later)).hasFrame = true ∧
      SameSurface (bufferAfter frames).observed.frame
        (bufferAfter (frames ++ later)).observed.frame) ∧
    ((bufferAfter frames).hasFrame = true → ∀ observed,
      ((apply (bufferAfter frames) observed).1.observed.frame.surface.backendGeneration <
          (bufferAfter frames).observed.frame.surface.backendGeneration ↔
        Acceptable observed.frame ∧
        SameSurface (bufferAfter frames).observed.frame observed.frame ∧
        observed.frame.surface.backendGeneration <
          (bufferAfter frames).observed.frame.surface.backendGeneration)) ∧
    ((bufferAfter frames).hasFrame = true → ∀ later,
      Run.Admits apply SameStretch (bufferAfter frames) later →
      (bufferAfter frames).observed.frame.frameSequence +
          replacements (bufferAfter frames) later ≤
        (bufferAfter (frames ++ later)).observed.frame.frameSequence) ∧
    ((bufferAfter frames).resyncRequired = true → ∀ later,
      Run.Admits apply (fun before observed => ¬ StoresAnew before observed)
        (bufferAfter frames) later →
      (bufferAfter (frames ++ later)).resyncRequired = true) ∧
    ∀ observed,
      ((apply (bufferAfter frames) observed).2 = .rejected ∨
          (apply (bufferAfter frames) observed).2 = .duplicate →
        (apply (bufferAfter frames) observed).1.hasFrame = (bufferAfter frames).hasFrame ∧
        (apply (bufferAfter frames) observed).1.observed = (bufferAfter frames).observed) ∧
      ((apply (bufferAfter frames) observed).2 ∈
          [SuiteBridgeOsdFrameBufferApplyResult.updated, .adopted, .replacedEpoch,
            .replacedBackendGeneration] →
        (apply (bufferAfter frames) observed).1.observed.frame.complete = true ∧
        (apply (bufferAfter frames) observed).1.observed.sourceConsistent = true) ∧
      ((apply (bufferAfter frames) observed).2 = .updated →
        (apply (bufferAfter frames) observed).1.observed.droppedUpdates ≤
          (bufferAfter frames).observed.droppedUpdates) := by
  refine ⟨stored_applied frames, ?_, ?_, ?_, ?_, fun observed => (apply_applied _ observed).answer⟩
  · intro has later
    rw [bufferAfter, bufferAfter, Run.final_append]
    exact final_surface _ has later
  · intro has observed
    exact apply_generation_falls _ observed has
  · intro has later stretch
    rw [bufferAfter, bufferAfter, Run.final_append]
    exact final_sequence _ has later stretch
  · intro resync later continues
    rw [bufferAfter, Run.final_append]
    exact final_resync _ resync later continues

def sampleFrame (backendGeneration frameSequence : Nat) (osdEpoch : Bytes)
    (state : OsdSurfaceState) : SuiteBridgeOsdObservedFrame :=
  { frame :=
      { surface := ⟨text "default", backendGeneration, text "primary-native-osd", osdEpoch⟩
        state := state
        frameSequence := frameSequence }
    sourceConsistent := true }

def sampleNameless : SuiteBridgeOsdObservedFrame :=
  { frame := { surface := { surfaceId := text "primary-native-osd" } }, sourceConsistent := true }

/-- A late frame of an earlier generation is stored; and the mark that a refused frame has set is
cleared by the first frame, and by a frame of the same generation and epoch that follows an inactive
one. -/
theorem osd_frame_buffer_regresses :
    (¬ ∀ frames observed, (bufferAfter frames).hasFrame = true →
      (bufferAfter frames).observed.frame.surface.backendGeneration ≤
        (bufferAfter (frames ++ [observed])).observed.frame.surface.backendGeneration) ∧
    (¬ ∀ frames observed, (bufferAfter frames).hasFrame = true →
      (bufferAfter frames).resyncRequired = true →
      observed.frame.surface.backendGeneration =
        (bufferAfter frames).observed.frame.surface.backendGeneration →
      observed.frame.surface.osdEpoch = (bufferAfter frames).observed.frame.surface.osdEpoch →
      observed.frame.state ≠ .inactive →
      (bufferAfter (frames ++ [observed])).resyncRequired = true) ∧
    (¬ ∀ frames observed, (bufferAfter frames).hasFrame = false →
      (bufferAfter frames).resyncRequired = true → observed.frame.state ≠ .inactive →
      (bufferAfter (frames ++ [observed])).resyncRequired = true) := by
  refine ⟨?_, ?_, ?_⟩
  · intro claimed
    have kept := claimed [sampleFrame 8 1 (text "epoch") .active]
      (sampleFrame 7 1 (text "epoch") .active) (by decide)
    exact absurd kept (by decide)
  · intro claimed
    have kept := claimed [sampleFrame 7 1 (text "epoch") .inactive, sampleNameless]
      (sampleFrame 7 2 (text "epoch") .active) (by decide) (by decide)
      (by decide) (by decide) (by decide)
    exact absurd kept (by decide)
  · intro claimed
    have kept := claimed [sampleNameless] (sampleFrame 7 1 (text "epoch") .active)
      (by decide) (by decide) (by decide)
    exact absurd kept (by decide)

end VdrSuite.Osd
