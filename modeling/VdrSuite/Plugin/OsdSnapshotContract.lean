import VdrSuite.Library.JsonCursor
import VdrSuite.Plugin.OsdState

/-! The payload in which the plugin reports a snapshot of the OSD. -/

set_option autoImplicit false

namespace VdrSuite.Plugin

open Library
open Library.JsonCursor (keyText)

/-! ## Epochs -/

def mix64 (value : UInt64) : UInt64 :=
  let value := (value ^^^ (value >>> 30)) * 0xbf58476d1ce4e5b9
  let value := (value ^^^ (value >>> 27)) * 0x94d049bb133111eb
  value ^^^ (value >>> 31)

/-- What an epoch is made from: a count of epochs, the process and two clocks. -/
structure EpochSource where
  sequence : UInt64
  processId : UInt64
  monotonicTicks : UInt64
  wallClockTicks : UInt64

def suiteBridgeCounterEpoch (source : EpochSource) : Bytes :=
  let high := mix64 (source.monotonicTicks ^^^ (source.processId <<< 32) ^^^ source.sequence)
  let low := mix64 (source.wallClockTicks ^^^ source.monotonicTicks ^^^ (source.processId <<< 16) ^^^
    (source.sequence * 0x9e3779b97f4a7c15))
  let low := if high = 0 ∧ low = 0 then source.sequence else low
  Hex.word64 high.toNat ++ Hex.word64 low.toNat

/-! ## Payloads -/

def schemaVersion : Nat := 1
def maximumPayloadBytes : Nat := 131000

def kindName : SuiteBridgeOsdFrameKind → Bytes
  | .inactive => text "inactive"
  | .menu => text "menu"
  | .channelInfo => text "channel_info"

def append (data : Option Bytes) (value : Bytes) : Option Bytes :=
  match data with
  | none => none
  | some data =>
    if data.length > maximumPayloadBytes ∨ value.length > maximumPayloadBytes - data.length then none
    else some (data ++ value)

def jsonString (value : Bytes) : List Bytes :=
  [text "\""] ++ (cString value).map JsonCursor.escapeByte ++ [text "\""]

def itemPieces (item : SuiteBridgeOsdItemSnapshot) : List Bytes :=
  [123 :: keyText "text"] ++ jsonString item.text ++
    [44 :: keyText "selectable", JsonCursor.booleanText item.selectable, [125]]

def itemsPieces : Bool → List SuiteBridgeOsdItemSnapshot → List Bytes
  | _, [] => []
  | first, item :: rest =>
    (if first then [] else [[44]]) ++ itemPieces item ++ itemsPieces false rest

def headPieces (snapshot : SuiteBridgeOsdSnapshot) : List Bytes :=
  [123 :: keyText "osd_schema", decimal schemaVersion,
    44 :: keyText "active", JsonCursor.booleanText snapshot.surface.active,
    44 :: keyText "complete", JsonCursor.booleanText snapshot.surface.complete,
    44 :: keyText "consistent", JsonCursor.booleanText snapshot.surface.consistent,
    44 :: keyText "kind"] ++ jsonString (kindName snapshot.surface.kind) ++
  [44 :: keyText "frame_sequence", decimal snapshot.frameSequence,
    44 :: keyText "observed_at_ms", decimal snapshot.observedAtMilliseconds,
    44 :: keyText "dropped_updates", decimal snapshot.droppedUpdates,
    44 :: keyText "osd_epoch"] ++ jsonString snapshot.osdEpoch

def textPieces (surface : OsdSurface) : List Bytes :=
  [44 :: keyText "title"] ++ jsonString surface.title ++
  [44 :: keyText "status"] ++ jsonString surface.statusMessage ++
  [44 :: keyText "red"] ++ jsonString surface.red ++
  [44 :: keyText "green"] ++ jsonString surface.green ++
  [44 :: keyText "yellow"] ++ jsonString surface.yellow ++
  [44 :: keyText "blue"] ++ jsonString surface.blue

def tailPieces (surface : OsdSurface) : List Bytes :=
  [93 :: 44 :: keyText "selected_index", signedDecimal surface.selectedIndex,
    44 :: keyText "text"] ++ jsonString surface.detailText ++
  [44 :: keyText "channel"] ++ jsonString surface.channel ++
  [44 :: keyText "programme" ++ 123 :: keyText "present_time", signedDecimal surface.presentTime,
    44 :: keyText "present_title"] ++ jsonString surface.presentTitle ++
  [44 :: keyText "present_subtitle"] ++ jsonString surface.presentSubtitle ++
  [44 :: keyText "following_time", signedDecimal surface.followingTime,
    44 :: keyText "following_title"] ++ jsonString surface.followingTitle ++
  [44 :: keyText "following_subtitle"] ++ jsonString surface.followingSubtitle ++ [[125, 125]]

def snapshotPieces (snapshot : SuiteBridgeOsdSnapshot) : List Bytes :=
  headPieces snapshot ++ textPieces snapshot.surface ++ [44 :: keyText "items" ++ [91]] ++
    itemsPieces true (snapshot.surface.items.take snapshot.surface.itemCount) ++
    tailPieces snapshot.surface

def suiteBridgeOsdSnapshotPayload (snapshot : SuiteBridgeOsdSnapshot) : Option Bytes :=
  if snapshot.surface.itemCount > maximumItems then none
  else (snapshotPieces snapshot).foldl append (some [])

theorem foldl_append_none (pieces : List Bytes) : pieces.foldl append none = none := by
  induction pieces with
  | nil => rfl
  | cons piece pieces ih => exact ih

theorem foldl_append_some {pieces : List Bytes} {data payload : Bytes}
    (complete : pieces.foldl append (some data) = some payload) :
    payload = data ++ pieces.flatten ∧
      (data.length ≤ maximumPayloadBytes → payload.length ≤ maximumPayloadBytes) := by
  induction pieces generalizing data with
  | nil =>
    obtain rfl := Option.some.inj complete
    exact ⟨by simp, id⟩
  | cons piece pieces ih =>
    rw [List.foldl_cons, append] at complete
    split at complete
    case isTrue => cases (foldl_append_none pieces).symm.trans complete
    case isFalse fits =>
      obtain ⟨same, short⟩ := ih complete
      refine ⟨by rw [same, List.flatten_cons, List.append_assoc], fun bounded => short ?_⟩
      rw [List.length_append]
      omega

theorem foldl_append_fits {pieces : List Bytes} {data : Bytes}
    (fits : data.length + pieces.flatten.length ≤ maximumPayloadBytes) :
    pieces.foldl append (some data) = some (data ++ pieces.flatten) := by
  induction pieces generalizing data with
  | nil => simp
  | cons piece pieces ih =>
    rw [List.flatten_cons, List.length_append] at fits
    have room : ¬ (data.length > maximumPayloadBytes ∨
        piece.length > maximumPayloadBytes - data.length) := by
      omega
    have rest : (data ++ piece).length + pieces.flatten.length ≤ maximumPayloadBytes := by
      rw [List.length_append]
      omega
    rw [List.foldl_cons, append, if_neg room, ih rest, List.flatten_cons, List.append_assoc]

theorem suiteBridgeOsdSnapshotPayload_fits {snapshot : SuiteBridgeOsdSnapshot}
    (count : snapshot.surface.itemCount ≤ maximumItems)
    (fits : (snapshotPieces snapshot).flatten.length ≤ maximumPayloadBytes) :
    suiteBridgeOsdSnapshotPayload snapshot = some (snapshotPieces snapshot).flatten := by
  rw [suiteBridgeOsdSnapshotPayload, if_neg (Nat.not_lt.mpr count)]
  apply foldl_append_fits
  rwa [List.length_nil, Nat.zero_add]

theorem jsonString_flatten (value : Bytes) :
    (jsonString value).flatten = JsonCursor.quoted (cString value) := by
  simp [jsonString, JsonCursor.quoted, List.flatMap, text]

end VdrSuite.Plugin
