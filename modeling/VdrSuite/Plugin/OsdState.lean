import VdrSuite.Library.Bytes

/-! The plugin's OSD state: status callbacks behind a try-lock, and the snapshots taken of it. -/

set_option autoImplicit false

namespace VdrSuite.Plugin

open Library

/-! ## Snapshots -/

inductive SuiteBridgeOsdFrameKind
  | inactive
  | menu
  | channelInfo
  deriving DecidableEq

structure SuiteBridgeOsdItemSnapshot where
  text : Bytes := []
  selectable : Bool := true
  deriving DecidableEq

def maximumItems : Nat := 128
def itemTextBytes : Nat := 512
def titleBytes : Nat := 256
def statusBytes : Nat := 512
def buttonBytes : Nat := 128
def detailTextBytes : Nat := 4096
def channelBytes : Nat := 512
def programmeTextBytes : Nat := 512

structure OsdSurface where
  consistent : Bool := true
  active : Bool := false
  complete : Bool := true
  kind : SuiteBridgeOsdFrameKind := .inactive
  title : Bytes := []
  statusMessage : Bytes := []
  red : Bytes := []
  green : Bytes := []
  yellow : Bytes := []
  blue : Bytes := []
  items : List SuiteBridgeOsdItemSnapshot := List.replicate maximumItems {}
  itemCount : Nat := 0
  selectedIndex : Int := -1
  detailText : Bytes := []
  channel : Bytes := []
  presentTime : Int := 0
  presentTitle : Bytes := []
  presentSubtitle : Bytes := []
  followingTime : Int := 0
  followingTitle : Bytes := []
  followingSubtitle : Bytes := []
  deriving DecidableEq

structure SuiteBridgeOsdSnapshot where
  surface : OsdSurface := {}
  frameSequence : Nat := 0
  observedAtMilliseconds : Nat := 0
  droppedUpdates : Nat := 0
  osdEpoch : Bytes := []
  deriving DecidableEq

/-! ## Status callbacks -/

/-- A status callback of VDR; a null pointer is `none`. -/
inductive StatusCallback
  | clear
  | title (text : Option Bytes)
  | statusMessage (text : Option Bytes)
  | helpKeys (red green yellow blue : Option Bytes)
  | item (text : Option Bytes) (index : Int) (selectable : Bool)
  | currentItem (text : Option Bytes) (index : Int)
  | textItem (text : Option Bytes) (scroll : Bool)
  | channel (text : Option Bytes)
  | programme (presentTime : Int) (presentTitle presentSubtitle : Option Bytes)
      (followingTime : Int) (followingTitle followingSubtitle : Option Bytes)
  deriving DecidableEq

def StatusCallback.kind : StatusCallback → SuiteBridgeOsdFrameKind
  | .clear => .inactive
  | .channel _ => .channelInfo
  | .programme .. => .channelInfo
  | _ => .menu

def copyBounded (maximum : Nat) : Option Bytes → Bytes × Bool
  | none => ([], true)
  | some source => ((cString source).take maximum, decide ((cString source).length ≤ maximum))

def begins (callback : StatusCallback) (surface : OsdSurface) : Bool :=
  match callback with
  | .clear => true
  | _ => !(surface.active && surface.kind == callback.kind)

def emptySurface : SuiteBridgeOsdFrameKind → OsdSurface
  | .inactive => {}
  | kind => { active := true, kind := kind }

def startSurface (callback : StatusCallback) (surface : OsdSurface) : OsdSurface :=
  if begins callback surface then emptySurface callback.kind else surface

def itemIndex (index : Int) : Option Nat :=
  if index < 0 ∨ maximumItems ≤ index.toNat then none else some index.toNat

def OsdSurface.writeItemText (surface : OsdSurface) (index : Nat) (text : Option Bytes) :
    OsdSurface :=
  { surface with
    items := surface.items.modify index fun item =>
      { item with text := (copyBounded itemTextBytes text).1 }
    complete := surface.complete && (copyBounded itemTextBytes text).2 }

def writePayload (callback : StatusCallback) (surface : OsdSurface) : OsdSurface :=
  match callback with
  | .clear => surface
  | .title text =>
    { surface with
      title := (copyBounded titleBytes text).1
      complete := surface.complete && (copyBounded titleBytes text).2 }
  | .statusMessage text =>
    { surface with
      statusMessage := (copyBounded statusBytes text).1
      complete := surface.complete && (copyBounded statusBytes text).2 }
  | .helpKeys red green yellow blue =>
    { surface with
      red := (copyBounded buttonBytes red).1
      green := (copyBounded buttonBytes green).1
      yellow := (copyBounded buttonBytes yellow).1
      blue := (copyBounded buttonBytes blue).1
      complete := surface.complete && (copyBounded buttonBytes red).2 &&
        (copyBounded buttonBytes green).2 && (copyBounded buttonBytes yellow).2 &&
        (copyBounded buttonBytes blue).2 }
  | .item text index selectable =>
    match itemIndex index with
    | none => { surface with complete := false }
    | some position =>
      let written := surface.writeItemText position text
      { written with
        items := written.items.modify position fun item =>
          { item with selectable := selectable }
        itemCount := max surface.itemCount (position + 1) }
  | .currentItem text index =>
    match itemIndex index with
    | none => { surface with selectedIndex := -1, complete := false }
    | some position =>
      let selected :=
        { surface with
          selectedIndex := index
          itemCount := max surface.itemCount (position + 1) }
      if text.isSome then selected.writeItemText position text else selected
  | .textItem text _ =>
    match text with
    | none => { surface with complete := false }
    | some _ =>
      { surface with
        detailText := (copyBounded detailTextBytes text).1
        complete := surface.complete && (copyBounded detailTextBytes text).2 }
  | .channel text =>
    { surface with
      channel := (copyBounded channelBytes text).1
      complete := surface.complete && (copyBounded channelBytes text).2 }
  | .programme presentTime presentTitle presentSubtitle followingTime followingTitle
      followingSubtitle =>
      { surface with
        presentTime := presentTime
        followingTime := followingTime
        presentTitle := (copyBounded programmeTextBytes presentTitle).1
        presentSubtitle := (copyBounded programmeTextBytes presentSubtitle).1
        followingTitle := (copyBounded programmeTextBytes followingTitle).1
        followingSubtitle := (copyBounded programmeTextBytes followingSubtitle).1
        complete := surface.complete && (copyBounded programmeTextBytes presentTitle).2 &&
          (copyBounded programmeTextBytes presentSubtitle).2 &&
          (copyBounded programmeTextBytes followingTitle).2 &&
          (copyBounded programmeTextBytes followingSubtitle).2 }

/-! ## The state behind the gate -/

structure SuiteBridgeSaturatingCounter where
  value : Nat := 0
  overflowed : Bool := false
  deriving DecidableEq

def unsignedLongLongMax : Nat := 18446744073709551615

def SuiteBridgeSaturatingCounter.increment (counter : SuiteBridgeSaturatingCounter) :
    SuiteBridgeSaturatingCounter :=
  if unsignedLongLongMax ≤ counter.value then { counter with overflowed := true }
  else { counter with value := counter.value + 1 }

inductive CallbackPhase
  | acquired
  | started
  | advanced
  deriving DecidableEq

inductive GateHolder
  | callback (callback : StatusCallback) (phase : CallbackPhase) (earlier : List StatusCallback)
  | capture
  deriving DecidableEq

/-- A snapshot between the release of the gate and the last look at the flag, with the flag and
the callbacks at the time of the copy. -/
structure CopiedSnapshot where
  snapshot : SuiteBridgeOsdSnapshot
  broken : Bool
  issued : List StatusCallback
  deriving DecidableEq

/-- The shared state; `issued` is its history and read by nobody. -/
structure SuiteBridgeOsdState where
  gate : Option GateHolder := none
  continuityBroken : Bool := false
  frameSequence : SuiteBridgeSaturatingCounter := {}
  droppedUpdates : SuiteBridgeSaturatingCounter := {}
  state : SuiteBridgeOsdSnapshot := {}
  copies : List CopiedSnapshot := []
  issued : List StatusCallback := []
  deriving DecidableEq

/-- One access to the shared state. A callback that finds the gate held is dropped; the holder of
the gate proceeds step by step, and others may run between its steps. -/
inductive OsdStep
  | callback (callback : StatusCallback)
  | capture
  | proceed (epoch : Bytes) (now : Nat)
  | finish (copied : Nat)
  deriving DecidableEq

abbrev Captured : Type := SuiteBridgeOsdSnapshot × List StatusCallback

def markDroppedUpdate (shared : SuiteBridgeOsdState) : SuiteBridgeOsdState :=
  { shared with droppedUpdates := shared.droppedUpdates.increment, continuityBroken := true }

/-- `StartSurfaceLocked`, and the beginning of `Clear`. -/
def startSurfaceLocked (callback : StatusCallback) (epoch : Bytes)
    (shared : SuiteBridgeOsdState) : SuiteBridgeOsdState :=
  if begins callback shared.state.surface then
    { shared with
      continuityBroken := false
      state :=
        { surface := startSurface callback shared.state.surface
          frameSequence := shared.state.frameSequence
          droppedUpdates := shared.droppedUpdates.value
          osdEpoch := if callback.kind = .inactive then [] else epoch } }
  else shared

def advanceLocked (now : Nat) (shared : SuiteBridgeOsdState) : SuiteBridgeOsdState :=
  let frameSequence := shared.frameSequence.increment
  let lost := shared.continuityBroken || frameSequence.overflowed
  { shared with
    frameSequence := frameSequence
    state :=
      { shared.state with
        frameSequence := frameSequence.value
        observedAtMilliseconds := now
        droppedUpdates := shared.droppedUpdates.value
        surface :=
          { shared.state.surface with complete := shared.state.surface.complete && !lost } } }

def writePayloadLocked (callback : StatusCallback) (shared : SuiteBridgeOsdState) :
    SuiteBridgeOsdState :=
  { shared with
    state := { shared.state with surface := writePayload callback shared.state.surface } }

def proceed (epoch : Bytes) (now : Nat) (shared : SuiteBridgeOsdState) : SuiteBridgeOsdState :=
  match shared.gate with
  | none => shared
  | some (.callback callback .acquired earlier) =>
    { startSurfaceLocked callback epoch shared with
      gate := some (.callback callback .started earlier) }
  | some (.callback callback .started earlier) =>
    { advanceLocked now (writePayloadLocked callback shared) with
      gate := some (.callback callback .advanced earlier) }
  | some (.callback _ .advanced _) => { shared with gate := none }
  | some .capture =>
    { shared with
      gate := none
      copies := shared.copies ++ [⟨shared.state, shared.continuityBroken, shared.issued⟩] }

/-- What `CaptureSnapshot` returns when the gate is held. -/
def unavailable (shared : SuiteBridgeOsdState) : SuiteBridgeOsdSnapshot :=
  { surface := { consistent := false, complete := false }
    droppedUpdates := shared.droppedUpdates.value }

def finished (shared : SuiteBridgeOsdState) (copied : CopiedSnapshot) : SuiteBridgeOsdSnapshot :=
  { copied.snapshot with
    droppedUpdates := shared.droppedUpdates.value
    surface :=
      { copied.snapshot.surface with
        complete := copied.snapshot.surface.complete && !shared.continuityBroken } }

def osdStep (shared : SuiteBridgeOsdState) : OsdStep → SuiteBridgeOsdState × Option Captured
  | .callback callback =>
    match shared.gate with
    | none =>
      ({ shared with
        gate := some (.callback callback .acquired shared.issued)
        issued := shared.issued ++ [callback] }, none)
    | some _ => ({ markDroppedUpdate shared with issued := shared.issued ++ [callback] }, none)
  | .capture =>
    match shared.gate with
    | none => ({ shared with gate := some .capture }, none)
    | some _ => (shared, some (unavailable shared, shared.issued))
  | .proceed epoch now => (proceed epoch now shared, none)
  | .finish index =>
    match shared.copies[index]? with
    | none => (shared, none)
    | some copied =>
      ({ shared with copies := shared.copies.eraseIdx index },
        some (finished shared copied, copied.issued))

/-! ## What a loss-free surface would show -/

def applyCallback (surface : OsdSurface) (callback : StatusCallback) : OsdSurface :=
  writePayload callback (startSurface callback surface)

def lastKind (issued : List StatusCallback) : SuiteBridgeOsdFrameKind :=
  match issued.getLast? with
  | none => .inactive
  | some callback => callback.kind

/-- One more callback: `Clear`, and a change between menu and channel info, begin anew. -/
def extendSurface (current : List StatusCallback) (callback : StatusCallback) :
    List StatusCallback :=
  if callback.kind = .inactive ∨ (lastKind current ≠ .inactive ∧ lastKind current ≠ callback.kind)
  then [callback]
  else current ++ [callback]

def currentSurface (issued : List StatusCallback) : List StatusCallback :=
  issued.foldl extendSurface []

def withoutLoss (issued : List StatusCallback) : OsdSurface :=
  (currentSurface issued).foldl applyCallback {}

end VdrSuite.Plugin
