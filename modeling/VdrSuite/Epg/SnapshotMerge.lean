import VdrSuite.Epg.AuthoritativeWindow
import VdrSuite.Library.OrderedMap
import VdrSuite.Library.Override

/-! The snapshots of the backends, and how events are merged into them: by the event id alone, whereas
the cache of events goes by channel and event id. -/

set_option autoImplicit false

namespace VdrSuite.Epg

open Library

/-- A snapshot. Its content is the status, the recordings, the timers, the search timers and the
channels, which merging events only carries along. -/
structure VdrSnapshot (Content : Type) where
  backendId : Bytes := text "default"
  content : Content
  events : List VdrEvent := []

/-- The last snapshot that was written, if any was, and the snapshots of the backends. -/
structure SnapshotCache (Content : Type) where
  snapshot : Option (VdrSnapshot Content) := none
  snapshotsByBackend : OrderedMap Bytes (VdrSnapshot Content) := .empty

inductive SearchTimerPreviewEpgCacheStatus where
  | unknown
  | warming
  | ready
  | stale
  | unavailable
  deriving DecidableEq

structure SearchTimerPreviewEpgCacheEntry where
  status : SearchTimerPreviewEpgCacheStatus := .unknown
  events : Option (List VdrEvent) := none
  deriving DecidableEq

structure SnapshotCacheService (Content : Type) where
  cache : SnapshotCache Content := {}
  generation : Int := 0
  searchTimerPreviewEpgCache : OrderedMap Bytes SearchTimerPreviewEpgCacheEntry := .empty

section
variable {Content : Type}

def SnapshotCache.update (cache : SnapshotCache Content) (snapshot : VdrSnapshot Content) :
    SnapshotCache Content :=
  { snapshot := some snapshot
    snapshotsByBackend := cache.snapshotsByBackend.assign (normalizeBackendId snapshot.backendId)
      { snapshot with backendId := normalizeBackendId snapshot.backendId } }

def SnapshotCache.updateForBackend (cache : SnapshotCache Content) (backendId : Bytes)
    (snapshot : VdrSnapshot Content) : SnapshotCache Content :=
  { snapshot := some { snapshot with backendId := backendId }
    snapshotsByBackend := cache.snapshotsByBackend.assign backendId
      { snapshot with backendId := backendId } }

def updateReady (entries : OrderedMap Bytes SearchTimerPreviewEpgCacheEntry) (backendId : Bytes)
    (events : List VdrEvent) : OrderedMap Bytes SearchTimerPreviewEpgCacheEntry :=
  entries.assign (normalizeBackendId backendId) { status := .ready, events := some events }

def mergeEvent (events : List VdrEvent) (event : VdrEvent) : List VdrEvent :=
  match events.findIdx? fun cachedEvent => cachedEvent.id = event.id with
  | none => events ++ [event]
  | some existing => events.set existing event

def mergedEvents (events incoming : List VdrEvent) : List VdrEvent :=
  incoming.foldl mergeEvent events

namespace SnapshotCacheService

variable [Inhabited Content] (service : SnapshotCacheService Content)

def emptySnapshot : VdrSnapshot Content := { content := default }

def currentSnapshot : VdrSnapshot Content := service.cache.snapshot.getD emptySnapshot

def snapshotForBackendOrEmpty (backendId : Bytes) : VdrSnapshot Content :=
  match service.cache.snapshotsByBackend.get backendId with
  | none => { emptySnapshot with backendId := backendId }
  | some snapshot => snapshot

def mergeEvents (events : List VdrEvent) : SnapshotCacheService Content :=
  let snapshot := service.currentSnapshot
  let merged := { snapshot with events := mergedEvents snapshot.events events }
  { cache := service.cache.update merged
    generation := service.generation + 1
    searchTimerPreviewEpgCache :=
      updateReady service.searchTimerPreviewEpgCache snapshot.backendId merged.events }

def mergeEventsForBackend (backendId : Bytes) (events : List VdrEvent) :
    SnapshotCacheService Content :=
  let snapshot := service.snapshotForBackendOrEmpty backendId
  let merged := { snapshot with events := mergedEvents snapshot.events events }
  { cache := service.cache.updateForBackend backendId merged
    generation := service.generation + 1
    searchTimerPreviewEpgCache :=
      updateReady service.searchTimerPreviewEpgCache backendId merged.events }

end SnapshotCacheService

inductive MergeTarget where
  | current
  | backend (backendId : Bytes)
  deriving DecidableEq

namespace SnapshotCacheService

variable [Inhabited Content]

def merge (service : SnapshotCacheService Content) (incoming : List VdrEvent) :
    MergeTarget → SnapshotCacheService Content
  | .current => service.mergeEvents incoming
  | .backend backendId => service.mergeEventsForBackend backendId incoming

def cachedEvents (service : SnapshotCacheService Content) : MergeTarget → List VdrEvent
  | .current => service.currentSnapshot.events
  | .backend backendId => (service.snapshotForBackendOrEmpty backendId).events

@[simp] theorem cachedEvents_merge (service : SnapshotCacheService Content)
    (incoming : List VdrEvent) (target : MergeTarget) :
    (service.merge incoming target).cachedEvents target =
      mergedEvents (service.cachedEvents target) incoming := by
  cases target with
  | current => rfl
  | backend backendId =>
    simp [merge, mergeEventsForBackend, cachedEvents, snapshotForBackendOrEmpty,
      SnapshotCache.updateForBackend]

end SnapshotCacheService

end

/-! ## The key of an event -/

/-- The key under which the cache of events stores an event of a backend; an event without an id has a
substitute. -/
def storedKey (event : VdrEvent) : EpgEventCacheKey :=
  { channelId := event.channelId, eventId := stableEventId event }

def replacedEvent (events : List VdrEvent) (event : VdrEvent) : Option VdrEvent :=
  events.find? fun cachedEvent => cachedEvent.id = event.id

/-- What merging owes: the result is the cached list, overridden from left to right under the stored
keys, and merging the same events again changes nothing. -/
structure MergesByKey (cached incoming merged again : List VdrEvent) : Prop where
  overridden : merged = Override.override storedKey cached incoming
  kept : ∀ (position : Nat) (event : VdrEvent), cached[position]? = some event →
    storedKey event ∉ incoming.map storedKey → merged[position]? = some event
  latest : ∀ event ∈ incoming, ∃ last,
    incoming.reverse.find? (fun other => storedKey other = storedKey event) = some last ∧
      merged.filter (fun other => storedKey other = storedKey event) = [last]
  distinct : (merged.map storedKey).Nodup
  apart : ∀ earlier event later, incoming = earlier ++ event :: later →
    ∀ old, replacedEvent (mergedEvents cached earlier) event = some old →
      storedKey old = storedKey event
  again : again = merged

/-- Whenever an event comes in, the first event with its id, cached or come in before, is the first
one with its key. -/
def IdsAgreeWithKeys (cached incoming : List VdrEvent) : Prop :=
  ∀ earlier event later, incoming = earlier ++ event :: later →
    (cached ++ earlier).find? (fun other => other.id = event.id) =
      (cached ++ earlier).find? fun other => storedKey other = storedKey event

/-! ## The merge as an override -/

theorem mergeEvent_eq_place (events : List VdrEvent) (event : VdrEvent) :
    mergeEvent events event = Override.place (·.id) event events := by
  unfold mergeEvent
  induction events with
  | nil => rfl
  | cons other rest ih =>
    rw [Override.place, List.findIdx?_cons]
    by_cases same : other.id = event.id
    · simp [same]
    · simp only [same, decide_false, if_false, Bool.false_eq_true]
      rw [← ih]
      cases rest.findIdx? fun cachedEvent => decide (cachedEvent.id = event.id) with
      | none => rfl
      | some existing => rfl

theorem mergedEvents_eq_override (events incoming : List VdrEvent) :
    mergedEvents events incoming = Override.override (·.id) events incoming := by
  unfold mergedEvents Override.override
  congr 1
  funext merged event
  exact mergeEvent_eq_place merged event

theorem latest_of_override {cached incoming : List VdrEvent}
    (distinct : Table.Keyed storedKey cached) {event : VdrEvent} (member : event ∈ incoming) :
    ∃ last, incoming.reverse.find? (fun other => storedKey other = storedKey event) = some last ∧
      (Override.override storedKey cached incoming).filter
        (fun other => storedKey other = storedKey event) = [last] := by
  have keyed := Override.keyed_override distinct incoming
  have written := @Override.first_override _ _ _ storedKey event cached incoming
  cases found : Override.first storedKey event incoming.reverse with
  | none =>
    have absent := Override.first_eq_none_iff.mp found
    rw [List.map_reverse, List.mem_reverse] at absent
    exact absurd (List.mem_map_of_mem member) absent
  | some last =>
    rw [found, Option.some_or] at written
    refine ⟨last, found, ?_⟩
    have own := Override.key_of_first written
    refine Table.filter_eq_singleton storedKey keyed (Override.mem_of_first written)
      (decide_eq_true own) fun other _ chosen => ?_
    rw [own]
    exact of_decide_eq_true chosen

theorem mergesByKey_iff {cached incoming : List VdrEvent}
    (distinct : Table.Keyed storedKey cached) :
    MergesByKey cached incoming (mergedEvents cached incoming)
        (mergedEvents (mergedEvents cached incoming) incoming) ↔
      IdsAgreeWithKeys cached incoming := by
  have condition : IdsAgreeWithKeys cached incoming ↔
      Override.Along (fun earlier => Override.Agree (·.id) storedKey (cached ++ earlier))
        incoming := Iff.rfl
  rw [condition]
  simp only [mergedEvents_eq_override]
  constructor
  · intro merges
    refine Override.along_agree_iff.mp (Override.Apart.agree distinct merges.overridden ?_)
    intro earlier event later split old found
    rw [← mergedEvents_eq_override] at found
    exact merges.apart earlier event later split old found
  · intro agree
    have along := Override.along_agree_iff.mpr agree
    obtain ⟨same, -⟩ := Override.override_of_agree along
    have again := Override.along_agree_again agree
    obtain ⟨sameAgain, -⟩ := Override.override_of_agree (Override.along_agree_iff.mpr again)
    constructor
    · exact same
    · intro position event there absent
      rw [same]
      exact Override.getElem?_override there absent
    · intro event member
      rw [same]
      exact latest_of_override distinct member
    · rw [same]
      exact Override.keyed_override distinct incoming
    · intro earlier event later split old found
      rw [mergedEvents_eq_override] at found
      exact Override.apart_of_agree along earlier event later split old found
    · rw [same, sameAgain, Override.override_override distinct]

/-- The two merges of the service. -/
theorem merge_mergesByKey_iff {Content : Type} [Inhabited Content]
    (service : SnapshotCacheService Content) (target : MergeTarget) (incoming : List VdrEvent)
    (distinct : ((service.cachedEvents target).map storedKey).Nodup) :
    MergesByKey (service.cachedEvents target) incoming
        ((service.merge incoming target).cachedEvents target)
        (((service.merge incoming target).merge incoming target).cachedEvents target) ↔
      IdsAgreeWithKeys (service.cachedEvents target) incoming := by
  simp only [SnapshotCacheService.cachedEvents_merge]
  exact mergesByKey_iff distinct

/-! Two channels with events of one id. -/

def eventOf (channelId : String) (title : String) : VdrEvent :=
  { id := text "7", channelId := text channelId, title := text title, subtitle := [],
    description := [], startTime := text "100", endTime := text "200", durationSeconds := 100,
    contentDescriptors := [], parentalRating := 0 }

def morningNews : VdrEvent := eventOf "S19.2E-1-1019-10301" "Morgenmagazin"

def otherNews : VdrEvent := eventOf "S19.2E-1-1011-11110" "heute"

def oneEventCached : SnapshotCacheService Unit :=
  ({} : SnapshotCacheService Unit).mergeEventsForBackend (text "home-vdr") [morningNews]

theorem merge_mergesByKey_iff_same_channel :
    MergesByKey (oneEventCached.cachedEvents (.backend (text "home-vdr"))) [morningNews]
        ((oneEventCached.merge [morningNews] (.backend (text "home-vdr"))).cachedEvents
          (.backend (text "home-vdr")))
        (((oneEventCached.merge [morningNews] (.backend (text "home-vdr"))).merge [morningNews]
          (.backend (text "home-vdr"))).cachedEvents (.backend (text "home-vdr"))) ↔
      IdsAgreeWithKeys (oneEventCached.cachedEvents (.backend (text "home-vdr"))) [morningNews] :=
  merge_mergesByKey_iff oneEventCached _ _ (by decide)

/-- The event of the other channel takes the place of the cached one, which is lost. -/
theorem event_of_other_channel_replaced :
    ((oneEventCached.cachedEvents (.backend (text "home-vdr"))).map storedKey).Nodup ∧
    storedKey morningNews ∉ [otherNews].map storedKey ∧
    (oneEventCached.cachedEvents (.backend (text "home-vdr")))[0]? = some morningNews ∧
    (oneEventCached.merge [otherNews] (.backend (text "home-vdr"))).cachedEvents
      (.backend (text "home-vdr")) = [otherNews] ∧
    ¬MergesByKey (oneEventCached.cachedEvents (.backend (text "home-vdr"))) [otherNews]
      ((oneEventCached.merge [otherNews] (.backend (text "home-vdr"))).cachedEvents
        (.backend (text "home-vdr")))
      (((oneEventCached.merge [otherNews] (.backend (text "home-vdr"))).merge [otherNews]
        (.backend (text "home-vdr"))).cachedEvents (.backend (text "home-vdr"))) := by
  refine ⟨by decide, by decide, by decide, by decide, fun merges => ?_⟩
  have kept := merges.kept 0 morningNews (by decide) (by decide)
  exact absurd kept (by decide)

end VdrSuite.Epg
