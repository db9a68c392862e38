import VdrSuite.Epg.AuthoritativeWindow
import VdrSuite.Library.Netstring

/-! The authoritative replacement of one window of cached events. -/

set_option autoImplicit false

namespace VdrSuite.Epg

open Library

/-! ## Writing events -/

def writtenRows (backendId : Bytes) (events : List VdrEvent) : List EpgEventRow :=
  (events.filter (·.channelId ≠ [])).map (eventRow backendId)

def writtenEvidence (backendId : Bytes) (events : List VdrEvent) : List EventIdEvidenceRow :=
  (events.filter (·.channelId ≠ [])).map (evidenceRow backendId)

theorem upsertEvents_events (backendId : Bytes) (events : List VdrEvent) (cache : EpgCache) :
    (upsertEvents backendId events cache).events =
      (writtenRows backendId events).foldl
        (fun rows row => Table.upsert EpgEventRow.key row rows) cache.events := by
  induction events generalizing cache with
  | nil => rfl
  | cons event events ih =>
    have rest := ih (upsertEvent backendId cache event)
    by_cases unnamed : event.channelId = []
    · simpa [upsertEvents, writtenRows, upsertEvent, unnamed] using rest
    · simpa [upsertEvents, writtenRows, upsertEvent, unnamed] using rest

theorem upsertEvents_evidence (backendId : Bytes) (events : List VdrEvent) (cache : EpgCache) :
    (upsertEvents backendId events cache).evidence =
      (writtenEvidence backendId events).foldl
        (fun rows row => Table.upsert EventIdEvidenceRow.key row rows) cache.evidence := by
  induction events generalizing cache with
  | nil => rfl
  | cons event events ih =>
    have rest := ih (upsertEvent backendId cache event)
    by_cases unnamed : event.channelId = []
    · simpa [upsertEvents, writtenEvidence, upsertEvent, unnamed] using rest
    · simpa [upsertEvents, writtenEvidence, upsertEvent, unnamed] using rest

structure OthersKept (before after : EpgCache) : Prop where
  dependents : after.dependents = before.dependents
  genreAssignments : after.genreAssignments = before.genreAssignments
  targets : after.targets = before.targets
  bindings : after.bindings = before.bindings

theorem upsertEvents_others (backendId : Bytes) (events : List VdrEvent) (cache : EpgCache) :
    OthersKept cache (upsertEvents backendId events cache) := by
  induction events generalizing cache with
  | nil => exact ⟨rfl, rfl, rfl, rfl⟩
  | cons event events ih =>
    have first : OthersKept cache (upsertEvent backendId cache event) := by
      unfold upsertEvent
      split
      · exact ⟨rfl, rfl, rfl, rfl⟩
      · exact ⟨rfl, rfl, rfl, rfl⟩
    have rest := ih (upsertEvent backendId cache event)
    exact ⟨rest.dependents.trans first.dependents,
      rest.genreAssignments.trans first.genreAssignments,
      rest.targets.trans first.targets, rest.bindings.trans first.bindings⟩

/-! ## Removing events -/

theorem isTargetOf_retired (bindings : List MetadataTargetBindingRow)
    (selected : MetadataTargetBindingRow → Bool) (key : EventRowKey) (metadataTargetId : Bytes) :
    isTargetOf (Table.update selected retireBinding bindings) key metadataTargetId =
      isTargetOf bindings key metadataTargetId := by
  simp only [isTargetOf, Table.update, List.any_map]
  congr 1
  funext binding
  simp only [Function.comp_apply]
  split
  · rfl
  · rfl

/-- What hangs on removed events is gone or retired, and everything else is as it was. -/
structure DependentsRemoved (removed : List EventRowKey) (before after : EpgCache) : Prop where
  dependents : ∀ table, after.dependents table =
    (before.dependents table).map (Table.delete fun row => removed.contains row.key)
  bindings : after.bindings = before.bindings.map
    (Table.update (fun binding => removed.any fun key => bindsEvent key binding) retireBinding)
  targets : after.targets = before.targets.map
    (Table.update (fun target => removed.any fun key =>
      isTargetOf (before.bindings.getD []) key target.metadataTargetId) retireTarget)
  genreAssignments : after.genreAssignments = before.genreAssignments.map
    (Table.update (fun assignment => removed.any fun key =>
      isTargetOf (before.bindings.getD []) key assignment.metadataTargetId) staleAssignment)

theorem DependentsRemoved.bindings_getD {removed : List EventRowKey} {before after : EpgCache}
    (step : DependentsRemoved removed before after) :
    after.bindings.getD [] = Table.update (fun binding => removed.any fun key => bindsEvent key binding)
      retireBinding (before.bindings.getD []) := by
  rw [step.bindings]
  cases before.bindings with
  | none => rfl
  | some bindings => rfl

theorem DependentsRemoved.nil (cache : EpgCache) : DependentsRemoved [] cache cache where
  dependents := by
    intro table
    cases cache.dependents table with
    | none => rfl
    | some rows => simp [Table.delete]
  bindings := by
    cases cache.bindings with
    | none => rfl
    | some rows => simp [Table.update]
  targets := by
    cases cache.targets with
    | none => rfl
    | some rows => simp [Table.update]
  genreAssignments := by
    cases cache.genreAssignments with
    | none => rfl
    | some rows => simp [Table.update]

theorem DependentsRemoved.append {first second : List EventRowKey} {before middle after : EpgCache}
    (start : DependentsRemoved first before middle) (rest : DependentsRemoved second middle after) :
    DependentsRemoved (first ++ second) before after where
  dependents := by
    intro table
    rw [rest.dependents, start.dependents, Option.map_map]
    congr 1
    funext rows
    simp [Table.delete_delete]
  bindings := by
    rw [rest.bindings, start.bindings, Option.map_map]
    congr 1
    funext rows
    simp only [List.any_append, Function.comp_apply]
    exact Table.update_update retireBinding (fun _ => rfl) (fun _ => rfl) rows
  targets := by
    rw [rest.targets, start.targets, Option.map_map, start.bindings_getD]
    congr 1
    funext rows
    simp only [isTargetOf_retired, List.any_append, Function.comp_apply]
    exact Table.update_update retireTarget (fun _ => rfl) (fun _ => rfl) rows
  genreAssignments := by
    rw [rest.genreAssignments, start.genreAssignments, Option.map_map, start.bindings_getD]
    congr 1
    funext rows
    simp only [isTargetOf_retired, List.any_append, Function.comp_apply]
    exact Table.update_update staleAssignment (fun _ => rfl) (fun _ => rfl) rows

theorem staleAssignment_all (selected : GenreAssignmentRow → Bool) (rows : List GenreAssignmentRow) :
    Table.update (fun assignment => selected assignment &&
        [.active, .unknown, .conflict, .missing].contains assignment.assignmentState)
      staleAssignment rows = Table.update selected staleAssignment rows := by
  apply Table.update_congr
  intro assignment
  cases assignment with
  | mk metadataTargetId assignmentState =>
    cases assignmentState with
    | stale => exact .inr rfl
    | active => exact .inl (Bool.and_true _)
    | missing => exact .inl (Bool.and_true _)
    | unknown => exact .inl (Bool.and_true _)
    | conflict => exact .inl (Bool.and_true _)

theorem removeDependentRows_step (cache : EpgCache) (key : EventRowKey) :
    DependentsRemoved [key] cache (removeDependentRows cache key) where
  dependents := by
    intro table
    have same : (fun row : DependentRow => [key].contains row.key) = fun row => row.key == key := by
      funext row
      rw [Bool.eq_iff_iff]
      simp
    rw [same]
    unfold removeDependentRows retireMetadataTarget
    cases cache.bindings with
    | none => rfl
    | some bindings => rfl
  bindings := by
    unfold removeDependentRows retireMetadataTarget
    cases cache.bindings with
    | none => rfl
    | some bindings => simp [deleteEvent]
  targets := by
    unfold removeDependentRows retireMetadataTarget
    cases cache.bindings with
    | none => cases cache.targets <;> simp [deleteEvent, isTargetOf, Table.update]
    | some bindings => simp [deleteEvent]
  genreAssignments := by
    unfold removeDependentRows retireMetadataTarget
    cases cache.bindings with
    | none => cases cache.genreAssignments <;> simp [deleteEvent, isTargetOf, Table.update]
    | some bindings =>
      have stale := funext (staleAssignment_all fun assignment =>
        isTargetOf bindings key assignment.metadataTargetId)
      simp only [deleteEvent, stale]
      simp

theorem removeDependentRows_all (removed : List EventRowKey) (cache : EpgCache) :
    DependentsRemoved removed cache (removed.foldl removeDependentRows cache) := by
  induction removed generalizing cache with
  | nil => exact .nil cache
  | cons key removed ih =>
    exact (removeDependentRows_step cache key).append (ih (removeDependentRows cache key))

theorem removeDependentRows_events (cache : EpgCache) (key : EventRowKey) :
    (removeDependentRows cache key).events =
      Table.delete (fun row => row.key == key) cache.events := by
  unfold removeDependentRows retireMetadataTarget
  cases cache.bindings with
  | none => rfl
  | some bindings => rfl

theorem removeDependentRows_evidence (cache : EpgCache) (key : EventRowKey) :
    (removeDependentRows cache key).evidence =
      Table.delete (fun row => cache.events.any fun event => event.key == key && event.key == row.key)
        cache.evidence := by
  unfold removeDependentRows retireMetadataTarget
  cases cache.bindings with
  | none => rfl
  | some bindings => rfl

theorem lookup_events_removed (wanted : EventRowKey) (removed : List EventRowKey) (cache : EpgCache) :
    Table.lookup EpgEventRow.key wanted (removed.foldl removeDependentRows cache).events =
      if wanted ∈ removed then none else Table.lookup EpgEventRow.key wanted cache.events := by
  induction removed generalizing cache with
  | nil => rfl
  | cons key removed ih =>
    rw [List.foldl_cons, ih, removeDependentRows_events,
      @Table.lookup_delete _ _ EpgEventRow.key _ _ (· == key) fun _ => rfl]
    by_cases same : wanted = key
    · simp [same]
    · simp [same]

theorem lookup_evidence_removed (wanted : EventRowKey) (removed : List EventRowKey)
    (cache : EpgCache) :
    Table.lookup EventIdEvidenceRow.key wanted (removed.foldl removeDependentRows cache).evidence =
      if wanted ∈ removed ∧ (Table.lookup EpgEventRow.key wanted cache.events).isSome then none
      else Table.lookup EventIdEvidenceRow.key wanted cache.evidence := by
  induction removed generalizing cache with
  | nil => simp
  | cons key removed ih =>
    rw [List.foldl_cons, ih, removeDependentRows_events, removeDependentRows_evidence,
      @Table.lookup_delete _ _ EpgEventRow.key _ _ (· == key) fun _ => rfl,
      @Table.lookup_delete _ _ EventIdEvidenceRow.key _ _
        (fun wanted => cache.events.any fun event => event.key == key && event.key == wanted)
        fun _ => rfl]
    by_cases same : wanted = key
    · subst same
      have present : (cache.events.any fun event => event.key == wanted && event.key == wanted) =
          (Table.lookup EpgEventRow.key wanted cache.events).isSome := by
        rw [Bool.eq_iff_iff]
        simp [Table.lookup]
      rw [present]
      by_cases cached : (Table.lookup EpgEventRow.key wanted cache.events).isSome = true
      · simp [cached]
      · simp [cached]
    · have absent : (cache.events.any fun event => event.key == key && event.key == wanted) = false := by
        simp only [List.any_eq_false, Bool.and_eq_true, beq_iff_eq, not_and]
        rintro event - rfl other
        exact same other.symm
      simp [same, absent]

/-! ## The result of a call -/

namespace AuthoritativeWindow

variable (window : AuthoritativeWindow) (outcomes : StatementOutcomes) (cache : EpgCache)

def lastIncoming (key : EventRowKey) : Option EpgEventRow :=
  Table.lookup EpgEventRow.key key (writtenRows window.normalizedBackendId window.events).reverse

def lastEvidence (key : EventRowKey) : Option EventIdEvidenceRow :=
  Table.lookup EventIdEvidenceRow.key key
    (writtenEvidence window.normalizedBackendId window.events).reverse

def removedKeys (removed : List EpgEventCacheKey) : List EventRowKey :=
  removed.map (rowKey window.normalizedBackendId)

def Accepted : Prop :=
  outcomes.schemaEnsured = true ∧ window.fromTime ≠ [] ∧ window.untilTime ≠ [] ∧
    window.authoritativeChannels ≠ [] ∧ outcomes.begins = true ∧ outcomes.selectPrepared = true ∧
    outcomes.upserted = true ∧ (window.removedEvents outcomes cache).all outcomes.removed = true ∧
    outcomes.commits = true

end AuthoritativeWindow

theorem replace_of_accepted {outcomes : StatementOutcomes} {window : AuthoritativeWindow}
    {cache : EpgCache} (accepted : window.Accepted outcomes cache) :
    replaceAuthoritativeWindowForBackend outcomes window cache =
      ({ stored := true, removedEvents := window.removedEvents outcomes cache },
        window.replaced (window.removedEvents outcomes cache) cache) := by
  obtain ⟨schema, start, finish, channels, begins, prepared, upserted, removed, commits⟩ := accepted
  have named : window.authoritativeChannelIds ≠ [] := by
    intro none
    exact channels (by simp [AuthoritativeWindow.authoritativeChannels, none])
  unfold replaceAuthoritativeWindowForBackend
  rw [if_neg (by simp [schema, start, finish, named]), if_neg channels]
  simp [Transaction.atomically, Transaction.demand, begins, prepared, upserted, removed, commits]
  rfl

theorem replace_of_not_accepted {outcomes : StatementOutcomes} {window : AuthoritativeWindow}
    {cache : EpgCache} (refused : ¬ window.Accepted outcomes cache) :
    replaceAuthoritativeWindowForBackend outcomes window cache = ({}, cache) := by
  unfold replaceAuthoritativeWindowForBackend
  split
  · rfl
  · next complete =>
    simp only [not_or, Bool.not_eq_false] at complete
    obtain ⟨schema, start, finish, -⟩ := complete
    split
    · rfl
    · next channels =>
      unfold Transaction.atomically
      split
      · rfl
      · next begins =>
        rw [Bool.not_eq_false] at begins
        by_cases prepared : outcomes.selectPrepared = true
        · by_cases upserted : outcomes.upserted = true
          · by_cases removed : (window.removedEvents outcomes cache).all outcomes.removed = true
            · cases commits : outcomes.commits with
              | true =>
                exact absurd ⟨schema, start, finish, channels, begins, prepared, upserted, removed,
                  commits⟩ refused
              | false => simp [Transaction.demand, prepared, upserted, removed]; rfl
            · simp only [Transaction.demand, prepared, upserted, removed]; rfl
          · simp only [Transaction.demand, prepared, upserted]; rfl
        · simp only [Transaction.demand, prepared]; rfl

namespace AuthoritativeWindow

variable {window : AuthoritativeWindow} {outcomes : StatementOutcomes} {cache : EpgCache}

theorem lookup_replaced (removed : List EpgEventCacheKey) (key : EventRowKey) :
    Table.lookup EpgEventRow.key key (window.replaced removed cache).events =
      if key ∈ window.removedKeys removed then none
      else (window.lastIncoming key).or (Table.lookup EpgEventRow.key key cache.events) := by
  rw [replaced, lookup_events_removed, upsertEvents_events, Table.lookup_upsertAll]
  rfl

theorem key_of_lastIncoming {key : EventRowKey} {row : EpgEventRow}
    (last : window.lastIncoming key = some row) : row.key = key :=
  Table.key_of_lookup EpgEventRow.key last

def Listed (window : AuthoritativeWindow) (outcomes : StatementOutcomes) (cache : EpgCache)
    (row : EpgEventRow) : Prop :=
  row ∈ window.rowsRead outcomes cache ∧ window.missing row = true

theorem selects_of_mem_rowsRead {row : EpgEventRow} (read : row ∈ window.rowsRead outcomes cache) :
    row ∈ cache.events ∧ window.selects row = true := by
  have sorted : row ∈ (cache.events.filter window.selects).insertionSort rowOrder := by
    unfold rowsRead at read
    cases limit : outcomes.rowsRead with
    | none => simpa only [limit] using read
    | some count => exact List.mem_of_mem_take (by simpa only [limit] using read)
  rw [List.mem_insertionSort, List.mem_filter] at sorted
  exact sorted

theorem backendId_of_selects {row : EpgEventRow} (selected : window.selects row = true) :
    row.key.backendId = cString window.normalizedBackendId := by
  simp only [selects, Bool.and_eq_true, beq_iff_eq] at selected
  exact selected.1.1

theorem mem_removedKeys_iff {key : EventRowKey} :
    key ∈ window.removedKeys (window.removedEvents outcomes cache) ↔
      ∃ row, row.key = key ∧ window.Listed outcomes cache row := by
  simp only [removedKeys, removedEvents, List.map_map, List.mem_map, List.mem_filter,
    Function.comp_apply]
  constructor
  · intro image
    obtain ⟨row, ⟨read, absent⟩, same⟩ := image
    have backend := backendId_of_selects (selects_of_mem_rowsRead read).2
    refine ⟨row, ?_, read, absent⟩
    rw [← same, rowKey, ← backend]
  · intro listed
    obtain ⟨row, rfl, read, absent⟩ := listed
    have backend := backendId_of_selects (selects_of_mem_rowsRead read).2
    exact ⟨row, ⟨read, absent⟩, by rw [rowKey, ← backend]⟩

/-! ## The specification -/

/-- A row of an authoritative channel of the backend that overlaps the window. The channel is taken
as the cache stores it. -/
def InWindow (window : AuthoritativeWindow) (row : EpgEventRow) : Prop :=
  row.key.backendId = cString window.normalizedBackendId ∧ window.overlapsWindow row = true ∧
    ∃ channel ∈ window.authoritativeChannelIds, channel ≠ [] ∧ cString channel = row.key.channelId

theorem selects_iff (row : EpgEventRow) : window.selects row = true ↔ window.InWindow row := by
  simp [selects, InWindow, authoritativeChannels, and_assoc]

structure Replaced (window : AuthoritativeWindow) (removed : List EpgEventCacheKey)
    (before after : EpgCache) : Prop where
  /-- The window holds the incoming events that overlap it, the last one under each key. -/
  contents : ∀ row, window.InWindow row →
    (row ∈ after.events ↔ window.lastIncoming row.key = some row)
  others : ∀ key, (∀ row ∈ before.events, row.key = key → ¬ window.InWindow row) →
    window.lastIncoming key = none →
    Table.lookup EpgEventRow.key key after.events = Table.lookup EpgEventRow.key key before.events
  reported : ∀ key, key ∈ window.removedKeys removed ↔
    (Table.lookup EpgEventRow.key key before.events).isSome ∧
      Table.lookup EpgEventRow.key key after.events = none
  dependents : DependentsRemoved (window.removedKeys removed) before after
  evidenceGone : ∀ key ∈ window.removedKeys removed,
    Table.lookup EventIdEvidenceRow.key key after.evidence = none
  evidenceKept : ∀ key, key ∉ window.removedKeys removed →
    Table.lookup EventIdEvidenceRow.key key after.evidence =
      (window.lastEvidence key).or (Table.lookup EventIdEvidenceRow.key key before.evidence)

/-- Every cached row of the window that is listed for removal has no incoming event that overlaps
the window under its key, and every other one has an incoming event under its key. -/
def KeysAgree (window : AuthoritativeWindow) (outcomes : StatementOutcomes) (cache : EpgCache) :
    Prop :=
  ∀ row ∈ cache.events, window.InWindow row →
    (window.Listed outcomes cache row → ∀ last, window.lastIncoming row.key = some last →
      window.overlapsWindow last = false) ∧
    (¬ window.Listed outcomes cache row → (window.lastIncoming row.key).isSome)

theorem listed_of_mem_removedKeys {row : EpgEventRow} (cached : row ∈ cache.events)
    (gone : row.key ∈ window.removedKeys (window.removedEvents outcomes cache)) :
    window.Listed outcomes cache row := by
  obtain ⟨other, same, listed⟩ := (mem_removedKeys_iff).mp gone
  have otherCached := (selects_of_mem_rowsRead listed.1).1
  rwa [List.inj_on_of_nodup_map cache.eventsKeyed otherCached cached same] at listed

theorem mem_replaced_iff (removed : List EpgEventCacheKey) (row : EpgEventRow) :
    row ∈ (window.replaced removed cache).events ↔
      row.key ∉ window.removedKeys removed ∧
        (window.lastIncoming row.key).or (Table.lookup EpgEventRow.key row.key cache.events) =
          some row := by
  rw [Table.mem_iff_lookup EpgEventRow.key (window.replaced removed cache).eventsKeyed,
    lookup_replaced]
  split
  · next gone => simp [gone]
  · next kept => simp [kept]

theorem evidence_replaced (key : EventRowKey) :
    Table.lookup EventIdEvidenceRow.key key
        (window.replaced (window.removedEvents outcomes cache) cache).evidence =
      if key ∈ window.removedKeys (window.removedEvents outcomes cache) then none
      else (window.lastEvidence key).or (Table.lookup EventIdEvidenceRow.key key cache.evidence) := by
  rw [replaced, lookup_evidence_removed, upsertEvents_events, upsertEvents_evidence,
    Table.lookup_upsertAll, Table.lookup_upsertAll]
  by_cases gone : key ∈ window.removedKeys (window.removedEvents outcomes cache)
  · obtain ⟨row, rfl, listed⟩ := (mem_removedKeys_iff).mp gone
    have cached := (Table.mem_iff_lookup EpgEventRow.key cache.eventsKeyed row).mp
      (selects_of_mem_rowsRead listed.1).1
    rw [if_pos gone, if_pos ⟨gone, by rw [cached]; simp⟩]
  · rw [if_neg gone, if_neg (fun both => gone both.1)]
    rfl

theorem dependents_replaced (removed : List EpgEventCacheKey) :
    DependentsRemoved (window.removedKeys removed) cache (window.replaced removed cache) := by
  have written := upsertEvents_others window.normalizedBackendId window.events cache
  have step : DependentsRemoved (window.removedKeys removed)
      (upsertEvents window.normalizedBackendId window.events cache)
      (window.replaced removed cache) := removeDependentRows_all _ _
  exact {
    dependents := by simpa only [written.dependents] using step.dependents
    bindings := by simpa only [written.bindings] using step.bindings
    targets := by simpa only [written.bindings, written.targets] using step.targets
    genreAssignments := by
      simpa only [written.bindings, written.genreAssignments] using step.genreAssignments }

theorem contents_of_keysAgree (agree : window.KeysAgree outcomes cache) (row : EpgEventRow)
    (inWindow : window.InWindow row) :
    row ∈ (window.replaced (window.removedEvents outcomes cache) cache).events ↔
      window.lastIncoming row.key = some row := by
  rw [mem_replaced_iff]
  constructor
  · intro present
    obtain ⟨kept, found⟩ := present
    cases last : window.lastIncoming row.key with
    | some other => simpa [last] using found
    | none =>
      have cached := Table.mem_of_lookup EpgEventRow.key (by simpa [last] using found)
      have incoming := (agree row cached inWindow).2 fun listed =>
        kept ((mem_removedKeys_iff).mpr ⟨row, rfl, listed⟩)
      simp [last] at incoming
  · intro last
    refine ⟨?_, by simp [last]⟩
    intro gone
    obtain ⟨other, same, listed⟩ := (mem_removedKeys_iff).mp gone
    obtain ⟨cached, selected⟩ := selects_of_mem_rowsRead listed.1
    have outside := (agree other cached ((selects_iff other).mp selected)).1 listed row
      (by rw [same]; exact last)
    rw [inWindow.2.1] at outside
    cases outside

theorem replaced_iff_keysAgree :
    window.Replaced (window.removedEvents outcomes cache) cache
        (window.replaced (window.removedEvents outcomes cache) cache) ↔
      window.KeysAgree outcomes cache := by
  constructor
  · intro correct row cached inWindow
    constructor
    · intro listed last incoming
      have gone := (mem_removedKeys_iff).mpr ⟨row, rfl, listed⟩
      have same := key_of_lastIncoming incoming
      rw [Bool.eq_false_iff]
      intro overlaps
      have lastInWindow : window.InWindow last := by
        obtain ⟨backend, -, channel⟩ := inWindow
        exact ⟨by rw [same]; exact backend, overlaps, by rw [same]; exact channel⟩
      have present := (correct.contents last lastInWindow).mpr (by rw [same]; exact incoming)
      exact ((mem_replaced_iff _ last).mp present).1 (by rw [same]; exact gone)
    · intro unlisted
      rw [Option.isSome_iff_ne_none]
      intro none
      have found := (Table.mem_iff_lookup EpgEventRow.key cache.eventsKeyed row).mp cached
      have present : row ∈ (window.replaced (window.removedEvents outcomes cache) cache).events := by
        rw [mem_replaced_iff]
        exact ⟨fun gone => unlisted (listed_of_mem_removedKeys cached gone), by simp [none, found]⟩
      have incoming := (correct.contents row inWindow).mp present
      rw [none] at incoming
      cases incoming
  · intro agree
    refine ⟨contents_of_keysAgree agree, ?_, ?_, dependents_replaced _, ?_, ?_⟩
    · intro key outside absent
      rw [lookup_replaced, absent, Option.none_or, if_neg]
      intro gone
      obtain ⟨row, same, listed⟩ := (mem_removedKeys_iff).mp gone
      obtain ⟨cached, selected⟩ := selects_of_mem_rowsRead listed.1
      exact outside row cached same ((selects_iff row).mp selected)
    · intro key
      rw [lookup_replaced]
      by_cases gone : key ∈ window.removedKeys (window.removedEvents outcomes cache)
      · obtain ⟨row, rfl, listed⟩ := (mem_removedKeys_iff).mp gone
        have found := (Table.mem_iff_lookup EpgEventRow.key cache.eventsKeyed row).mp
          (selects_of_mem_rowsRead listed.1).1
        simp [gone, found]
      · simp only [gone, if_false, Option.or_eq_none_iff, false_iff, not_and]
        intro present _
        exact Option.isSome_iff_ne_none.mp present
    · intro key gone
      rw [evidence_replaced, if_pos gone]
    · intro key kept
      rw [evidence_replaced, if_neg kept]

end AuthoritativeWindow

namespace AuthoritativeWindow

variable {window : AuthoritativeWindow} {outcomes : StatementOutcomes} {cache : EpgCache}

end AuthoritativeWindow

def ReplacementCorrect (outcomes : StatementOutcomes) (window : AuthoritativeWindow)
    (cache : EpgCache) : Prop :=
  ((replaceAuthoritativeWindowForBackend outcomes window cache).1.stored = true →
    window.Replaced (replaceAuthoritativeWindowForBackend outcomes window cache).1.removedEvents cache
      (replaceAuthoritativeWindowForBackend outcomes window cache).2) ∧
  ((replaceAuthoritativeWindowForBackend outcomes window cache).1.stored = false →
    (replaceAuthoritativeWindowForBackend outcomes window cache).2 = cache)

theorem replaceAuthoritativeWindowForBackend_correct_iff (outcomes : StatementOutcomes)
    (window : AuthoritativeWindow) (cache : EpgCache) :
    ReplacementCorrect outcomes window cache ↔
      (window.Accepted outcomes cache → window.KeysAgree outcomes cache) := by
  unfold ReplacementCorrect
  by_cases accepted : window.Accepted outcomes cache
  · rw [replace_of_accepted accepted]
    simp [accepted, AuthoritativeWindow.replaced_iff_keysAgree]
  · rw [replace_of_not_accepted accepted]
    simp [accepted]

def joinedWindow : AuthoritativeWindow where
  backendId := text "default"
  fromTime := text "900"
  untilTime := text "2100"
  authoritativeChannelIds := [text "A", text "A" ++ [31] ++ text "x"]
  events :=
    [{ id := text "y", channelId := text "A" ++ [31] ++ text "x", title := text "News", subtitle := [],
       description := [], startTime := text "1000", endTime := text "2000", durationSeconds := 1000,
       contentDescriptors := [], parentalRating := 0 }]

def withdrawnEvent : VdrEvent where
  id := text "x" ++ [31] ++ text "y"
  channelId := text "A"
  title := text "Withdrawn"
  subtitle := []
  description := []
  startTime := text "1000"
  endTime := text "2000"
  durationSeconds := 1000
  contentDescriptors := []
  parentalRating := 0

def withdrawnCache : EpgCache where
  events := [eventRow (text "default") withdrawnEvent]
  evidence := [evidenceRow (text "default") withdrawnEvent]
  dependents := fun _ => none
  genreAssignments := none
  targets := none
  bindings := none
  eventsKeyed := List.nodup_singleton _
  evidenceKeyed := List.nodup_singleton _

theorem withdrawn_event_kept :
    (replaceAuthoritativeWindowForBackend {} joinedWindow withdrawnCache).1 =
      { stored := true, removedEvents := [] } ∧
    eventRow (text "default") withdrawnEvent ∈
      (replaceAuthoritativeWindowForBackend {} joinedWindow withdrawnCache).2.events ∧
    joinedWindow.InWindow (eventRow (text "default") withdrawnEvent) ∧
    joinedWindow.lastIncoming (eventRow (text "default") withdrawnEvent).key = none ∧
    ¬ ReplacementCorrect {} joinedWindow withdrawnCache := by
  have stored : (replaceAuthoritativeWindowForBackend {} joinedWindow withdrawnCache).1 =
      { stored := true, removedEvents := [] } := by decide
  have present : eventRow (text "default") withdrawnEvent ∈
      (replaceAuthoritativeWindowForBackend {} joinedWindow withdrawnCache).2.events := by
    decide
  have inWindow : joinedWindow.InWindow (eventRow (text "default") withdrawnEvent) :=
    ⟨by decide, by decide, text "A", by decide, by decide,
      by decide⟩
  have absent : joinedWindow.lastIncoming (eventRow (text "default") withdrawnEvent).key = none := by
    decide
  refine ⟨stored, present, inWindow, absent, ?_⟩
  intro correct
  have replaced := correct.1 (by rw [stored])
  have incoming := (replaced.contents _ inWindow).mp present
  rw [absent] at incoming
  cases incoming

end VdrSuite.Epg
