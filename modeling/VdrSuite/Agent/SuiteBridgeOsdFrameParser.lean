import VdrSuite.Library.JsonCursor
import VdrSuite.Osd.OsdFrame

/-! The agent's parser of the OSD snapshots that the local bridge reports. -/

set_option autoImplicit false

namespace VdrSuite.Agent

open Library Library.JsonCursor Osd

inductive SuiteBridgeOsdFrameParseStatus
  | ok
  | payloadTooLarge
  | invalidJson
  | unsupportedSchema
  | invalidFrame
  deriving DecidableEq

structure SuiteBridgeOsdFrameParseResult where
  status : SuiteBridgeOsdFrameParseStatus := .invalidJson
  value : SuiteBridgeOsdObservedFrame := {}
  diagnostic : Bytes := []
  deriving DecidableEq

namespace SuiteBridgeOsdFrameParser

def maximumPayloadBytes : Nat := 131000

def failure (status : SuiteBridgeOsdFrameParseStatus) (diagnostic : String) :
    SuiteBridgeOsdFrameParseResult :=
  { status := status, diagnostic := text diagnostic }

def validEpoch (value : Bytes) : Bool :=
  value.length == 32 && value.all fun character =>
    (48 ≤ character && character ≤ 57) || (97 ≤ character && character ≤ 102)

def parseKind (value : Bytes) : Option OsdFrameKind :=
  if value = text "inactive" then some .none
  else if value = text "menu" then some .menu
  else if value = text "channel_info" then some .channelInfo
  else none

/-! ## Members -/

structure Head where
  schema : Nat
  active : Bool
  complete : Bool
  consistent : Bool
  kindText : Bytes
  frameSequence : Nat
  observedAt : Nat
  droppedUpdates : Nat
  osdEpoch : Bytes

structure Texts where
  title : Bytes
  statusMessage : Bytes
  red : Bytes
  green : Bytes
  yellow : Bytes
  blue : Bytes

structure Tail where
  selectedIndex : Int
  text : Bytes
  channel : Bytes
  programme : OsdProgrammeInfo

def readHead : Reader Head := fun input => do
  let input ← consume 123 input
  let (schema, input) ← member "osd_schema" unsignedInteger input
  let (active, input) ← following "active" boolean input
  let (complete, input) ← following "complete" boolean input
  let (consistent, input) ← following "consistent" boolean input
  let (kindText, input) ← following "kind" (string 32) input
  let (frameSequence, input) ← following "frame_sequence" unsignedInteger input
  let (observedAt, input) ← following "observed_at_ms" unsignedInteger input
  let (droppedUpdates, input) ← following "dropped_updates" unsignedInteger input
  let (osdEpoch, input) ← following "osd_epoch" (string 32) input
  .ok (⟨schema, active, complete, consistent, kindText, frameSequence, observedAt, droppedUpdates,
    osdEpoch⟩, input)

def readTexts : Reader Texts := fun input => do
  let (title, input) ← following "title" (string OsdFrameLimits.titleBytes) input
  let (statusMessage, input) ← following "status" (string OsdFrameLimits.statusBytes) input
  let (red, input) ← following "red" (string OsdFrameLimits.buttonBytes) input
  let (green, input) ← following "green" (string OsdFrameLimits.buttonBytes) input
  let (yellow, input) ← following "yellow" (string OsdFrameLimits.buttonBytes) input
  let (blue, input) ← following "blue" (string OsdFrameLimits.buttonBytes) input
  .ok (⟨title, statusMessage, red, green, yellow, blue⟩, input)

def openItems (input : Bytes) : Except Bytes Bytes := do
  let input ← consume 44 input
  let input ← key "items" input
  consume 91 input

def readItem : Reader OsdTextItem := fun input => do
  let input ← consume 123 input
  let (value, input) ← member "text" (string OsdFrameLimits.itemTextBytes) input
  let (selectable, input) ← following "selectable" boolean input
  let input ← consume 125 input
  .ok (⟨value, selectable⟩, input)

def readProgramme : Reader OsdProgrammeInfo := fun input => do
  let input ← consume 123 input
  let (presentTime, input) ← member "present_time" signedInteger input
  let (presentTitle, input) ←
    following "present_title" (string OsdFrameLimits.programmeTextBytes) input
  let (presentSubtitle, input) ←
    following "present_subtitle" (string OsdFrameLimits.programmeTextBytes) input
  let (followingTime, input) ← following "following_time" signedInteger input
  let (followingTitle, input) ←
    following "following_title" (string OsdFrameLimits.programmeTextBytes) input
  let (followingSubtitle, input) ←
    following "following_subtitle" (string OsdFrameLimits.programmeTextBytes) input
  let input ← consume 125 input
  .ok (⟨presentTime, presentTitle, presentSubtitle, followingTime, followingTitle,
    followingSubtitle⟩, input)

def readTail (input : Bytes) : Except Bytes Tail := do
  let (selectedIndex, input) ← following "selected_index" signedInteger input
  let (value, input) ← following "text" (string OsdFrameLimits.detailTextBytes) input
  let (channel, input) ← following "channel" (string OsdFrameLimits.channelBytes) input
  let (programme, input) ← following "programme" readProgramme input
  let input ← consume 125 input
  if finished input then .ok ⟨selectedIndex, value, channel, programme⟩ else .error []

/-! ## Frames -/

abbrev Parsed (α : Type) : Type := Except SuiteBridgeOsdFrameParseResult α

def json {α : Type} : Except Bytes α → Parsed α
  | .ok value => .ok value
  | .error diagnostic => .error { status := .invalidJson, diagnostic := diagnostic }

def jsonToEnd {α : Type} : Except Bytes α → Parsed α
  | .ok value => .ok value
  | .error diagnostic =>
    if diagnostic.isEmpty then .error (failure .invalidJson "trailing OSD snapshot payload data")
    else .error { status := .invalidJson, diagnostic := diagnostic }

def readItems : Nat → Bytes → Parsed (List OsdTextItem × Bytes)
  | 0, _ => .error (failure .invalidFrame "too many OSD items")
  | room + 1, input => do
      let (item, input) ← json (readItem input)
      match consumeIf 93 input with
      | some input => .ok ([item], input)
      | none => do
          let input ← json (consume 44 input)
          let (items, input) ← readItems room input
          .ok (item :: items, input)

def readItemArray (input : Bytes) : Parsed (List OsdTextItem × Bytes) :=
  match consumeIf 93 input with
  | some input => .ok ([], input)
  | none => readItems OsdFrameLimits.maximumItems input

structure Content where
  head : Head
  texts : Texts
  items : List OsdTextItem
  tail : Tail

def readContent (payload : Bytes) : Parsed Content := do
  let (head, input) ← json (readHead payload)
  let (texts, input) ← json (readTexts input)
  let input ← json (openItems input)
  let (items, input) ← readItemArray input
  let tail ← jsonToEnd (readTail input)
  .ok ⟨head, texts, items, tail⟩

def frameOf (backendId : Bytes) (backendGeneration : Nat) (kind : OsdFrameKind)
    (content : Content) : OsdFrame :=
  { surface :=
      { backendId := backendId
        backendGeneration := backendGeneration
        surfaceId := text "primary-native-osd"
        osdEpoch := content.head.osdEpoch }
    state :=
      if content.head.active = false then .inactive
      else if content.head.complete = false ∨ content.head.consistent = false then .degraded
      else .active
    kind := kind
    frameSequence := content.head.frameSequence
    observedAt := content.head.observedAt
    fullFrame := true
    complete := content.head.complete && content.head.consistent
    title := content.texts.title
    statusMessage := content.texts.statusMessage
    red := content.texts.red
    green := content.texts.green
    yellow := content.texts.yellow
    blue := content.texts.blue
    items := content.items
    selectedIndex := content.tail.selectedIndex
    text := content.tail.text
    channel := content.tail.channel
    programme := content.tail.programme }

def selectsNothing (content : Content) : Prop :=
  content.tail.selectedIndex < -1 ∨
    (OsdFrameLimits.maximumItems : Int) ≤ content.tail.selectedIndex ∨
    (0 ≤ content.tail.selectedIndex ∧ content.items.length ≤ content.tail.selectedIndex.toNat)

instance (content : Content) : Decidable (selectsNothing content) := by
  unfold selectsNothing
  infer_instance

def observe (backendId : Bytes) (backendGeneration : Nat) (content : Content) :
    Parsed SuiteBridgeOsdObservedFrame :=
  if content.head.schema ≠ 1 then
    .error (failure .unsupportedSchema "unsupported OSD snapshot schema")
  else
    match parseKind content.head.kindText with
    | none => .error (failure .invalidFrame "invalid OSD frame kind")
    | some kind =>
      if (content.head.active = true ∧ kind = .none) ∨
          (content.head.active = false ∧ kind ≠ .none) then
        .error (failure .invalidFrame "OSD active state and frame kind disagree")
      else if content.head.active = true ∧ validEpoch content.head.osdEpoch = false then
        .error (failure .invalidFrame "active OSD frame has invalid epoch")
      else if content.head.active = false ∧ content.head.osdEpoch ≠ [] ∧
          validEpoch content.head.osdEpoch = false then
        .error (failure .invalidFrame "inactive OSD frame has invalid epoch")
      else if selectsNothing content then
        .error (failure .invalidFrame "invalid OSD selected item index")
      else if osdFrameWithinLimits (frameOf backendId backendGeneration kind content) then
        .ok
          { frame := frameOf backendId backendGeneration kind content
            sourceConsistent := content.head.consistent
            droppedUpdates := content.head.droppedUpdates }
      else .error (failure .invalidFrame "OSD frame exceeds domain limits")

def parsed (payload backendId : Bytes) (backendGeneration : Nat) :
    Parsed SuiteBridgeOsdObservedFrame :=
  if payload.length > maximumPayloadBytes then
    .error (failure .payloadTooLarge "OSD snapshot payload exceeds bounded size")
  else if backendId = [] ∨ backendId.length > 128 then
    .error (failure .invalidFrame "invalid backend identity for OSD frame")
  else do
    let content ← readContent payload
    observe backendId backendGeneration content

def parse (payload backendId : Bytes) (backendGeneration : Nat) : SuiteBridgeOsdFrameParseResult :=
  match parsed payload backendId backendGeneration with
  | .ok value => { status := .ok, value := value }
  | .error failure => failure

end SuiteBridgeOsdFrameParser

end VdrSuite.Agent
