import VdrSuite.Library.Bytes
import VdrSuite.Library.Table
import VdrSuite.Library.Transaction
import Mathlib.Data.List.Sort

/-! The cache of programme events, and the call that makes one window of it authoritative. -/

set_option autoImplicit false

namespace VdrSuite.Epg

open Library

structure VdrEvent where
  id : Bytes
  channelId : Bytes
  title : Bytes
  subtitle : Bytes
  description : Bytes
  startTime : Bytes
  endTime : Bytes
  durationSeconds : Int
  contentDescriptors : List Bytes
  parentalRating : Int
  deriving DecidableEq

structure EpgEventCacheKey where
  channelId : Bytes
  eventId : Bytes
  deriving DecidableEq

structure EpgAuthoritativeWindowResult where
  stored : Bool := false
  removedEvents : List EpgEventCacheKey := []
  deriving DecidableEq

/-! ## Tables -/

structure EventRowKey where
  backendId : Bytes
  channelId : Bytes
  eventId : Bytes
  deriving DecidableEq

/-- A row of `epg_events`. -/
structure EpgEventRow where
  key : EventRowKey
  title : Bytes
  subtitle : Bytes
  description : Bytes
  startTime : Bytes
  endTime : Bytes
  durationSeconds : Int
  parentalRating : Int
  contentDescriptors : Bytes
  deriving DecidableEq

/-- A row of `epg_event_id_source_evidence`. -/
structure EventIdEvidenceRow where
  key : EventRowKey
  sourceIdPresent : Bool
  deriving DecidableEq

inductive DependentTable
  | epgEventArtwork
  | epgScraperMetadataCache
  | epgScraperMetadataImages
  | epgScraperMetadataPeople
  deriving DecidableEq

/-- A row of one of the dependent tables; its other columns are only kept or deleted with it. -/
structure DependentRow where
  key : EventRowKey
  columns : List Bytes
  deriving DecidableEq

inductive MetadataTargetType
  | recording
  | programEvent
  deriving DecidableEq

inductive MetadataLifecycleState
  | active
  | stale
  | retired
  deriving DecidableEq

/-- A row of `suite_metadata_target_bindings`. -/
structure MetadataTargetBindingRow where
  metadataTargetId : Bytes
  targetType : MetadataTargetType
  backendId : Bytes
  nativeId : Bytes
  channelId : Bytes
  lifecycleState : MetadataLifecycleState
  deriving DecidableEq

/-- A row of `suite_metadata_targets`. -/
structure MetadataTargetRow where
  metadataTargetId : Bytes
  lifecycleState : MetadataLifecycleState
  deriving DecidableEq

inductive GenreAssignmentState
  | active
  | missing
  | unknown
  | stale
  | conflict
  deriving DecidableEq

/-- A row of `suite_metadata_genre_assignments`. -/
structure GenreAssignmentRow where
  metadataTargetId : Bytes
  assignmentState : GenreAssignmentState
  deriving DecidableEq

/-- The cached events and everything that hangs on them; a table that does not exist is absent. -/
structure EpgCache where
  events : List EpgEventRow
  evidence : List EventIdEvidenceRow
  dependents : DependentTable → Option (List DependentRow)
  genreAssignments : Option (List GenreAssignmentRow)
  targets : Option (List MetadataTargetRow)
  bindings : Option (List MetadataTargetBindingRow)
  eventsKeyed : Table.Keyed EpgEventRow.key events
  evidenceKeyed : Table.Keyed EventIdEvidenceRow.key evidence

/-! ## Texts -/

/-- `CAST(… AS INTEGER)` of a text: the longest integral beginning after leading white space, kept
within 64 bits. -/
def castInteger (stored : Bytes) : Int :=
  let magnitude (digits : Bytes) : Int :=
    (digits.takeWhile isDigit).foldl (fun value digit => 10 * value + digitValue digit) 0
  match stored.dropWhile fun byte => byte == 32 || (9 ≤ byte && byte ≤ 13) with
  | [] => 0
  | sign :: rest =>
    if sign = 45 then max (-int64Max - 1) (-magnitude rest)
    else if sign = 43 then min int64Max (magnitude rest)
    else min int64Max (magnitude (sign :: rest))

def joinContentDescriptors (descriptors : List Bytes) : Bytes :=
  [10].intercalate descriptors

def stableEventId (event : VdrEvent) : Bytes :=
  if event.id ≠ [] then event.id
  else event.channelId ++ [58] ++ event.startTime ++ [58] ++ event.title

def eventCacheKey (channelId eventId : Bytes) : Bytes :=
  channelId ++ [31] ++ eventId

def normalizeBackendId (backendId : Bytes) : Bytes :=
  if backendId = [] then text "default" else backendId

/-! ## Writing events -/

def eventRow (backendId : Bytes) (event : VdrEvent) : EpgEventRow where
  key := ⟨cString backendId, cString event.channelId, cString (stableEventId event)⟩
  title := cString event.title
  subtitle := cString event.subtitle
  description := cString event.description
  startTime := cString event.startTime
  endTime := cString event.endTime
  durationSeconds := event.durationSeconds
  parentalRating := event.parentalRating
  contentDescriptors := cString (joinContentDescriptors event.contentDescriptors)

def evidenceRow (backendId : Bytes) (event : VdrEvent) : EventIdEvidenceRow where
  key := (eventRow backendId event).key
  sourceIdPresent := event.id ≠ []

/-- Both statements skip an update that would change no column, which leaves the row as it is. -/
def upsertEvent (backendId : Bytes) (cache : EpgCache) (event : VdrEvent) : EpgCache :=
  if event.channelId = [] then cache
  else
    { cache with
      events := Table.upsert EpgEventRow.key (eventRow backendId event) cache.events
      evidence := Table.upsert EventIdEvidenceRow.key (evidenceRow backendId event) cache.evidence
      eventsKeyed := Table.keyed_upsert EpgEventRow.key cache.eventsKeyed
      evidenceKeyed := Table.keyed_upsert EventIdEvidenceRow.key cache.evidenceKeyed }

def upsertEvents (backendId : Bytes) (events : List VdrEvent) (cache : EpgCache) : EpgCache :=
  events.foldl (upsertEvent backendId) cache

/-! ## Removing events -/

def rowKey (backendId : Bytes) (key : EpgEventCacheKey) : EventRowKey :=
  ⟨cString backendId, key.channelId, key.eventId⟩

def bindsEvent (key : EventRowKey) (binding : MetadataTargetBindingRow) : Bool :=
  binding.backendId == key.backendId && binding.targetType == .programEvent &&
    binding.channelId == key.channelId && binding.nativeId == key.eventId

def isTargetOf (bindings : List MetadataTargetBindingRow) (key : EventRowKey)
    (metadataTargetId : Bytes) : Bool :=
  bindings.any fun binding => bindsEvent key binding && binding.metadataTargetId == metadataTargetId

def retireBinding (binding : MetadataTargetBindingRow) : MetadataTargetBindingRow :=
  { binding with lifecycleState := .retired }

def retireTarget (target : MetadataTargetRow) : MetadataTargetRow :=
  { target with lifecycleState := .retired }

def staleAssignment (assignment : GenreAssignmentRow) : GenreAssignmentRow :=
  { assignment with assignmentState := .stale }

def retireMetadataTarget (key : EventRowKey) (cache : EpgCache) : EpgCache :=
  match cache.bindings with
  | none => cache
  | some bindings =>
    { cache with
      genreAssignments := cache.genreAssignments.map <| Table.update
        (fun assignment => isTargetOf bindings key assignment.metadataTargetId &&
          [.active, .unknown, .conflict, .missing].contains assignment.assignmentState)
        staleAssignment
      targets := cache.targets.map <| Table.update
        (fun target => isTargetOf bindings key target.metadataTargetId) retireTarget
      bindings := some (Table.update (bindsEvent key) retireBinding bindings) }

/-- The deletion from `epg_events`, with the trigger that deletes the evidence of every deleted row. -/
def deleteEvent (key : EventRowKey) (cache : EpgCache) : EpgCache :=
  { cache with
    events := Table.delete (fun row => row.key == key) cache.events
    evidence := Table.delete
      (fun row => cache.events.any fun event => event.key == key && event.key == row.key)
      cache.evidence
    eventsKeyed := Table.keyed_delete EpgEventRow.key _ cache.eventsKeyed
    evidenceKeyed := Table.keyed_delete EventIdEvidenceRow.key _ cache.evidenceKeyed }

def removeDependentRows (cache : EpgCache) (key : EventRowKey) : EpgCache :=
  deleteEvent key <| retireMetadataTarget key
    { cache with
      dependents := fun table => (cache.dependents table).map <| Table.delete fun row => row.key == key }

/-! ## The call -/

structure AuthoritativeWindow where
  backendId : Bytes
  fromTime : Bytes
  untilTime : Bytes
  authoritativeChannelIds : List Bytes
  events : List VdrEvent
  deriving DecidableEq

structure StatementOutcomes where
  schemaEnsured : Bool := true
  begins : Bool := true
  selectPrepared : Bool := true
  /-- How many rows the selection gives before it fails, if it does. -/
  rowsRead : Option Nat := none
  upserted : Bool := true
  removed : EpgEventCacheKey → Bool := fun _ => true
  commits : Bool := true

namespace AuthoritativeWindow

def authoritativeChannels (window : AuthoritativeWindow) : List Bytes :=
  window.authoritativeChannelIds.filter (· ≠ [])

def normalizedBackendId (window : AuthoritativeWindow) : Bytes :=
  normalizeBackendId window.backendId

def incoming (window : AuthoritativeWindow) : List Bytes :=
  (window.events.filter fun event => window.authoritativeChannels.contains event.channelId).map
    fun event => eventCacheKey event.channelId (stableEventId event)

def overlapsWindow (window : AuthoritativeWindow) (row : EpgEventRow) : Bool :=
  castInteger row.endTime > castInteger (cString window.fromTime) &&
    castInteger row.startTime < castInteger (cString window.untilTime)

/-- The `WHERE` clause of the selection. -/
def selects (window : AuthoritativeWindow) (row : EpgEventRow) : Bool :=
  row.key.backendId == cString window.normalizedBackendId && window.overlapsWindow row &&
    (window.authoritativeChannels.map cString).contains row.key.channelId

/-- `ORDER BY channel_id,event_id`. -/
def rowOrder (first second : EpgEventRow) : Prop :=
  first.key.channelId < second.key.channelId ∨
    first.key.channelId = second.key.channelId ∧ first.key.eventId ≤ second.key.eventId

instance : DecidableRel rowOrder := fun _ _ => inferInstanceAs (Decidable (_ ∨ _ ∧ _))

def rowsRead (window : AuthoritativeWindow) (outcomes : StatementOutcomes) (cache : EpgCache) :
    List EpgEventRow :=
  let rows := (cache.events.filter window.selects).insertionSort rowOrder
  match outcomes.rowsRead with
  | none => rows
  | some count => rows.take count

def missing (window : AuthoritativeWindow) (row : EpgEventRow) : Bool :=
  !window.incoming.contains (eventCacheKey row.key.channelId row.key.eventId)

def removedEvents (window : AuthoritativeWindow) (outcomes : StatementOutcomes) (cache : EpgCache) :
    List EpgEventCacheKey :=
  ((window.rowsRead outcomes cache).filter window.missing).map fun row =>
    ⟨row.key.channelId, row.key.eventId⟩

def replaced (window : AuthoritativeWindow) (removed : List EpgEventCacheKey) (cache : EpgCache) :
    EpgCache :=
  (removed.map (rowKey window.normalizedBackendId)).foldl removeDependentRows
    (upsertEvents window.normalizedBackendId window.events cache)

end AuthoritativeWindow

def replaceAuthoritativeWindowForBackend (outcomes : StatementOutcomes)
    (window : AuthoritativeWindow) (cache : EpgCache) : EpgAuthoritativeWindowResult × EpgCache :=
  if outcomes.schemaEnsured = false ∨ window.fromTime = [] ∨ window.untilTime = [] ∨
      window.authoritativeChannelIds = [] then ({}, cache)
  else if window.authoritativeChannels = [] then ({}, cache)
  else
    Transaction.atomically outcomes.begins outcomes.commits {}
      (fun cache => do
        Transaction.demand {} (outcomes.selectPrepared = true)
        let removed := window.removedEvents outcomes cache
        Transaction.demand {} (outcomes.upserted = true)
        Transaction.demand {} (removed.all outcomes.removed = true)
        pure ({ stored := true, removedEvents := removed }, window.replaced removed cache))
      cache

end VdrSuite.Epg
