import VdrSuite.Library.Bytes

/-! Semantic OSD frames and the limits of their contents. -/

set_option autoImplicit false

namespace VdrSuite.Osd

open Library

namespace OsdFrameLimits

def maximumItems : Nat := 128
def titleBytes : Nat := 256
def statusBytes : Nat := 512
def buttonBytes : Nat := 128
def itemTextBytes : Nat := 512
def detailTextBytes : Nat := 4096
def channelBytes : Nat := 512
def programmeTextBytes : Nat := 512

end OsdFrameLimits

inductive OsdSurfaceState
  | inactive
  | active
  | degraded
  | suppressed
  deriving DecidableEq

inductive OsdFrameKind
  | none
  | menu
  | channelInfo
  deriving DecidableEq

structure OsdSurfaceRef where
  backendId : Bytes := []
  backendGeneration : Nat := 0
  surfaceId : Bytes := []
  osdEpoch : Bytes := []
  deriving DecidableEq

structure OsdTextItem where
  text : Bytes := []
  selectable : Bool := true
  deriving DecidableEq

structure OsdProgrammeInfo where
  presentTime : Int := 0
  presentTitle : Bytes := []
  presentSubtitle : Bytes := []
  followingTime : Int := 0
  followingTitle : Bytes := []
  followingSubtitle : Bytes := []
  deriving DecidableEq

structure OsdFrame where
  surface : OsdSurfaceRef := {}
  state : OsdSurfaceState := .inactive
  kind : OsdFrameKind := .none
  frameSequence : Nat := 0
  observedAt : Nat := 0
  fullFrame : Bool := true
  complete : Bool := true
  title : Bytes := []
  statusMessage : Bytes := []
  red : Bytes := []
  green : Bytes := []
  yellow : Bytes := []
  blue : Bytes := []
  items : List OsdTextItem := []
  selectedIndex : Int := -1
  text : Bytes := []
  channel : Bytes := []
  programme : OsdProgrammeInfo := {}
  deriving DecidableEq

def osdFrameWithinLimits (frame : OsdFrame) : Bool :=
  if frame.title.length > OsdFrameLimits.titleBytes ∨
      frame.statusMessage.length > OsdFrameLimits.statusBytes ∨
      frame.red.length > OsdFrameLimits.buttonBytes ∨
      frame.green.length > OsdFrameLimits.buttonBytes ∨
      frame.yellow.length > OsdFrameLimits.buttonBytes ∨
      frame.blue.length > OsdFrameLimits.buttonBytes ∨
      frame.text.length > OsdFrameLimits.detailTextBytes ∨
      frame.channel.length > OsdFrameLimits.channelBytes ∨
      frame.items.length > OsdFrameLimits.maximumItems ∨
      frame.programme.presentTitle.length > OsdFrameLimits.programmeTextBytes ∨
      frame.programme.presentSubtitle.length > OsdFrameLimits.programmeTextBytes ∨
      frame.programme.followingTitle.length > OsdFrameLimits.programmeTextBytes ∨
      frame.programme.followingSubtitle.length > OsdFrameLimits.programmeTextBytes then false
  else frame.items.all fun item => decide (item.text.length ≤ OsdFrameLimits.itemTextBytes)

structure SuiteBridgeOsdObservedFrame where
  frame : OsdFrame := {}
  sourceConsistent : Bool := false
  droppedUpdates : Nat := 0
  deriving DecidableEq

end VdrSuite.Osd
