import VdrSuite.Epg.AuthoritativeWindow

/-! The queries of the event cache: the window of events with its pages, the anchor of a page's
cursor, and the current and next events of channels. -/

set_option autoImplicit false

namespace VdrSuite.Epg

open Library

def splitChannelIdsParameter (channelId : Bytes) : List Bytes :=
  (channelId.splitOn 44).filter (· ≠ [])

def splitContentDescriptors (serialized : Bytes) : List Bytes :=
  (serialized.splitOn 10).filter (· ≠ [])

def readEvent (row : EpgEventRow) : VdrEvent where
  id := cString row.key.eventId
  channelId := cString row.key.channelId
  title := cString row.title
  subtitle := cString row.subtitle
  description := cString row.description
  startTime := cString row.startTime
  endTime := cString row.endTime
  durationSeconds := row.durationSeconds
  contentDescriptors := splitContentDescriptors (cString row.contentDescriptors)
  parentalRating := row.parentalRating

def boundChannels (channelId : Bytes) : List Bytes :=
  (splitChannelIdsParameter channelId).map cString

def ofBackend (backendId : Bytes) (row : EpgEventRow) : Bool :=
  row.key.backendId == cString (normalizeBackendId backendId)

/-! ## The window -/

structure WindowQuery where
  backendId : Bytes
  channelId : Bytes
  fromTime : Bytes
  untilTime : Bytes
  deriving DecidableEq

def WindowQuery.inChannels (query : WindowQuery) (row : EpgEventRow) : Bool :=
  (boundChannels query.channelId).isEmpty ||
    (boundChannels query.channelId).contains row.key.channelId

def WindowQuery.overlaps (query : WindowQuery) (row : EpgEventRow) : Bool :=
  decide (cString query.fromTime < row.endTime) &&
    (query.untilTime.isEmpty || decide (row.startTime < cString query.untilTime))

def WindowQuery.selects (query : WindowQuery) (row : EpgEventRow) : Bool :=
  ofBackend query.backendId row && query.overlaps row && query.inChannels row

/-- `start_time > ? OR (start_time = ? AND event_id > ?)`. -/
def startsBehind (afterStartTime afterEventId startTime eventId : Bytes) : Bool :=
  decide (cString afterStartTime < startTime) ||
    (startTime == cString afterStartTime && decide (cString afterEventId < eventId))

/-- `ORDER BY start_time ASC, channel_id ASC, event_id ASC`. -/
def windowOrder (first second : EpgEventRow) : Prop :=
  first.startTime < second.startTime ∨
    first.startTime = second.startTime ∧ AuthoritativeWindow.rowOrder first second

instance : DecidableRel windowOrder := fun _ _ => inferInstanceAs (Decidable (_ ∨ _ ∧ _))

def findWindowForBackend (cache : EpgCache) (query : WindowQuery) (eventLimit : Int)
    (afterStartTime afterEventId : Bytes) : List VdrEvent :=
  if afterStartTime.isEmpty != afterEventId.isEmpty then []
  else
    let selected := cache.events.filter fun row =>
      query.selects row && (afterStartTime.isEmpty ||
        startsBehind afterStartTime afterEventId row.startTime row.key.eventId)
    let rows := selected.insertionSort windowOrder
    (if eventLimit > 0 then rows.take eventLimit.toNat else rows).map readEvent

def unpagedWindow (cache : EpgCache) (query : WindowQuery) : List VdrEvent :=
  findWindowForBackend cache query 0 [] []

def hasWindowCursorAnchorForBackend (cache : EpgCache)
    (backendId channelId fromTime untilTime startTime cacheEventId : Bytes) : Bool :=
  if channelId.isEmpty || startTime.isEmpty || cacheEventId.isEmpty then false
  else
    cache.events.any fun row =>
      ofBackend backendId row && row.key.channelId == cString channelId &&
        row.key.eventId == cString cacheEventId && row.startTime == cString startTime &&
        decide (cString fromTime < row.endTime) && decide (row.startTime < cString untilTime)

/-! ## Current and next events -/

/-- The order within a channel: `CAST(start_time AS INTEGER) ASC, event_id ASC`. -/
def earlierOnChannel (first second : EpgEventRow) : Bool :=
  decide (castInteger first.startTime < castInteger second.startTime) ||
    (castInteger first.startTime == castInteger second.startTime &&
      decide (first.key.eventId < second.key.eventId))

def channelRow (rows : List EpgEventRow) (row : EpgEventRow) : Nat :=
  1 + rows.countP fun other =>
    other.key.channelId == row.key.channelId && earlierOnChannel other row

def nowNextOrder (first second : EpgEventRow) : Prop :=
  castInteger first.startTime < castInteger second.startTime ∨
    castInteger first.startTime = castInteger second.startTime ∧
      AuthoritativeWindow.rowOrder first second

instance : DecidableRel nowNextOrder := fun _ _ => inferInstanceAs (Decidable (_ ∨ _ ∧ _))

def findNowNextPerChannelForBackend (cache : EpgCache) (backendId channelId fromTime : Bytes)
    (perChannelLimit : Int) : List VdrEvent :=
  if fromTime.isEmpty || perChannelLimit ≤ 0 then []
  else if (splitChannelIdsParameter channelId).isEmpty then []
  else
    let rows := cache.events.filter fun row =>
      ofBackend backendId row &&
        decide (castInteger (cString fromTime) < castInteger row.endTime) &&
        (boundChannels channelId).contains row.key.channelId
    let ranked := rows.filter fun row => decide (channelRow rows row ≤ perChannelLimit.toNat)
    (ranked.insertionSort nowNextOrder).map readEvent

end VdrSuite.Epg
