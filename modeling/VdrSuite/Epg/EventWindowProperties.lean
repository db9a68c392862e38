import VdrSuite.Epg.EventWindow
import VdrSuite.Library.Numerals
import VdrSuite.Library.Paging
import Mathlib.Data.List.Pairwise

/-! Pages of the event window: when they visit the window once and in order, when the window holds
the events that overlap it as numbers, and how anchors and current events agree with it. -/

set_option autoImplicit false

namespace VdrSuite.Epg

open Library Library.Paging

/-! ## Stored events -/

def DecimalTime (time : Bytes) : Prop := time ≠ [] ∧ ∀ byte ∈ time, isDigit byte = true

/-- A row as the cache holds it: its texts are C strings and its times are digits. -/
structure StoredEvent (row : EpgEventRow) : Prop where
  channelText : (0 : UInt8) ∉ row.key.channelId
  eventText : (0 : UInt8) ∉ row.key.eventId
  startTime : DecimalTime row.startTime
  endTime : DecimalTime row.endTime

theorem DecimalTime.cString_eq {time : Bytes} (decimal : DecimalTime time) : cString time = time := by
  rw [cString_eq_self_iff]
  intro member
  exact absurd (decimal.2 0 member) (by decide)

namespace StoredEvent

variable {row : EpgEventRow}

theorem read_id (stored : StoredEvent row) : (readEvent row).id = row.key.eventId :=
  (cString_eq_self_iff _).mpr stored.eventText

theorem read_channelId (stored : StoredEvent row) : (readEvent row).channelId = row.key.channelId :=
  (cString_eq_self_iff _).mpr stored.channelText

theorem read_startTime (stored : StoredEvent row) : (readEvent row).startTime = row.startTime :=
  stored.startTime.cString_eq

end StoredEvent

/-! ## The order of the window -/

theorem text_trichotomy (first second : Bytes) : first < second ∨ first = second ∨ second < first := by
  by_cases less : first < second
  · exact .inl less
  · by_cases more : second < first
    · exact .inr (.inr more)
    · exact .inr (.inl (List.le_antisymm (List.not_lt.mp more) (List.not_lt.mp less)))

theorem rowOrder_total (first second : EpgEventRow) :
    AuthoritativeWindow.rowOrder first second ∨ AuthoritativeWindow.rowOrder second first := by
  rcases text_trichotomy first.key.channelId second.key.channelId with less | same | more
  · exact .inl (.inl less)
  · exact (List.le_total first.key.eventId second.key.eventId).imp
      (fun le => .inr ⟨same, le⟩) fun le => .inr ⟨same.symm, le⟩
  · exact .inr (.inl more)

theorem rowOrder_trans {first second third : EpgEventRow}
    (early : AuthoritativeWindow.rowOrder first second)
    (late : AuthoritativeWindow.rowOrder second third) :
    AuthoritativeWindow.rowOrder first third := by
  rcases early with less | ⟨same, le⟩
  · rcases late with more | ⟨equal, -⟩
    · exact .inl (List.lt_trans less more)
    · exact .inl (equal ▸ less)
  · rcases late with more | ⟨equal, later⟩
    · exact .inl (same ▸ more)
    · exact .inr ⟨same.trans equal, List.le_trans le later⟩

theorem rowOrder_antisymm {first second : EpgEventRow}
    (forward : AuthoritativeWindow.rowOrder first second)
    (backward : AuthoritativeWindow.rowOrder second first) :
    first.key.channelId = second.key.channelId ∧ first.key.eventId = second.key.eventId := by
  rcases forward with less | ⟨same, le⟩
  · rcases backward with more | ⟨equal, -⟩
    · exact absurd (List.lt_trans less more) (List.lt_irrefl _)
    · exact absurd less (equal ▸ List.lt_irrefl _)
  · rcases backward with more | ⟨-, ge⟩
    · exact absurd more (same ▸ List.lt_irrefl _)
    · exact ⟨same, List.le_antisymm le ge⟩

instance : Std.Total windowOrder where
  total first second := by
    rcases text_trichotomy first.startTime second.startTime with less | same | more
    · exact .inl (.inl less)
    · exact (rowOrder_total first second).imp (fun le => .inr ⟨same, le⟩)
        fun le => .inr ⟨same.symm, le⟩
    · exact .inr (.inl more)

instance : IsTrans EpgEventRow windowOrder where
  trans first second third early late := by
    rcases early with less | ⟨same, le⟩
    · rcases late with more | ⟨equal, -⟩
      · exact .inl (List.lt_trans less more)
      · exact .inl (equal ▸ less)
    · rcases late with more | ⟨equal, later⟩
      · exact .inl (same ▸ more)
      · exact .inr ⟨same.trans equal, rowOrder_trans le later⟩

theorem windowOrder_antisymm {first second : EpgEventRow} (forward : windowOrder first second)
    (backward : windowOrder second first) :
    first.key.channelId = second.key.channelId ∧ first.key.eventId = second.key.eventId := by
  rcases forward with less | ⟨same, le⟩
  · rcases backward with more | ⟨equal, -⟩
    · exact absurd (List.lt_trans less more) (List.lt_irrefl _)
    · exact absurd less (equal ▸ List.lt_irrefl _)
  · rcases backward with more | ⟨-, ge⟩
    · exact absurd more (same ▸ List.lt_irrefl _)
    · exact rowOrder_antisymm le ge

/-! ## The pages of a query -/

def cursorOf (event : VdrEvent) : Bytes × Bytes := (event.startTime, event.id)

def windowPage (cache : EpgCache) (query : WindowQuery) (limit : Nat) (cursor : Bytes × Bytes) :
    List VdrEvent :=
  findWindowForBackend cache query limit cursor.1 cursor.2

def behind (cursor : Bytes × Bytes) (event : VdrEvent) : Bool :=
  decide (cursor.1 < event.startTime ∨ event.startTime = cursor.1 ∧ cursor.2 < event.id)

theorem behind_iff {earlier event : VdrEvent} :
    behind (cursorOf earlier) event = true ↔
      earlier.startTime < event.startTime ∨
        event.startTime = earlier.startTime ∧ earlier.id < event.id :=
  decide_eq_true_iff

theorem behind_trans (first second third : VdrEvent) (early : behind (cursorOf first) second = true)
    (late : behind (cursorOf second) third = true) : behind (cursorOf first) third = true := by
  rw [behind_iff] at early late ⊢
  rcases early with less | ⟨same, less⟩
  · rcases late with more | ⟨equal, -⟩
    · exact .inl (List.lt_trans less more)
    · exact .inl (equal ▸ less)
  · rcases late with more | ⟨equal, more⟩
    · exact .inl (same ▸ more)
    · exact .inr ⟨equal.trans same, List.lt_trans less more⟩

theorem behind_asymm (first second : VdrEvent) (early : behind (cursorOf first) second = true) :
    behind (cursorOf second) first = false := by
  by_contra late
  rw [Bool.not_eq_false] at late
  rcases (behind_iff).mp (behind_trans _ _ _ early late) with less | ⟨-, less⟩
  · exact List.lt_irrefl _ less
  · exact List.lt_irrefl _ less

section

variable {cache : EpgCache} {query : WindowQuery}

def windowRows (cache : EpgCache) (query : WindowQuery) : List EpgEventRow :=
  (cache.events.filter query.selects).insertionSort windowOrder

theorem unpagedWindow_eq : unpagedWindow cache query = (windowRows cache query).map readEvent := by
  simp [unpagedWindow, findWindowForBackend, windowRows]

theorem mem_windowRows {row : EpgEventRow} :
    row ∈ windowRows cache query ↔ row ∈ cache.events ∧ query.selects row = true := by
  rw [windowRows, List.mem_insertionSort, List.mem_filter]

theorem windowPage_initial {limit : Nat} (positive : 0 < limit) :
    windowPage cache query limit ([], []) = (unpagedWindow cache query).take limit := by
  simp [windowPage, findWindowForBackend, unpagedWindow_eq, windowRows, positive]

theorem row_unique {first second : EpgEventRow} (firstMember : first ∈ cache.events)
    (secondMember : second ∈ cache.events) (firstBackend : ofBackend query.backendId first = true)
    (secondBackend : ofBackend query.backendId second = true)
    (channel : first.key.channelId = second.key.channelId)
    (event : first.key.eventId = second.key.eventId) : first = second := by
  refine List.inj_on_of_nodup_map cache.eventsKeyed firstMember secondMember ?_
  have backend : first.key.backendId = second.key.backendId := by
    rw [ofBackend, beq_iff_eq] at firstBackend secondBackend
    rw [firstBackend, secondBackend]
  cases firstKey : first.key
  cases secondKey : second.key
  rw [firstKey, secondKey] at backend channel event
  simp only [EventRowKey.mk.injEq]
  exact ⟨backend, channel, event⟩

theorem ofBackend_of_selects {row : EpgEventRow} (selected : query.selects row = true) :
    ofBackend query.backendId row = true := by
  rw [WindowQuery.selects, Bool.and_eq_true, Bool.and_eq_true] at selected
  exact selected.1.1

theorem windowPage_cursor (stored : ∀ row ∈ cache.events, StoredEvent row) {limit : Nat}
    (positive : 0 < limit) {event : VdrEvent} (listed : event ∈ unpagedWindow cache query)
    (named : event.id ≠ []) :
    windowPage cache query limit (cursorOf event) =
      ((unpagedWindow cache query).filter (behind (cursorOf event))).take limit := by
  have given : (limit : Int) > 0 := by omega
  rw [unpagedWindow_eq] at listed ⊢
  obtain ⟨row, rowListed, rfl⟩ := List.mem_map.mp listed
  have rowStored := stored row ((mem_windowRows).mp rowListed).1
  have started : (readEvent row).startTime ≠ [] := by
    rw [rowStored.read_startTime]
    exact rowStored.startTime.1
  have bound : cString (readEvent row).startTime = (readEvent row).startTime :=
    cString_idempotent _
  have boundId : cString (readEvent row).id = (readEvent row).id := cString_idempotent _
  have filtered : (cache.events.filter fun other => query.selects other &&
        startsBehind (readEvent row).startTime (readEvent row).id other.startTime
          other.key.eventId).insertionSort windowOrder =
      (windowRows cache query).filter fun other => behind (cursorOf (readEvent row)) (readEvent other) := by
    have same : (cache.events.filter fun other => query.selects other &&
        startsBehind (readEvent row).startTime (readEvent row).id other.startTime
          other.key.eventId) =
        (cache.events.filter query.selects).filter fun other =>
          behind (cursorOf (readEvent row)) (readEvent other) := by
      rw [List.filter_filter]
      refine List.filter_congr fun other member => ?_
      have otherStored := stored other member
      rw [Bool.and_comm, startsBehind, behind, cursorOf, bound, boundId, otherStored.read_startTime,
        otherStored.read_id]
      simp [Bool.decide_or, Bool.decide_and, beq_eq_decide]
    rw [same, windowRows]
    refine insertionSort_filter _ _ fun first firstMember second secondMember forward backward => ?_
    obtain ⟨firstEvent, firstSelected⟩ := List.mem_filter.mp firstMember
    obtain ⟨secondEvent, secondSelected⟩ := List.mem_filter.mp secondMember
    obtain ⟨channel, id⟩ := windowOrder_antisymm forward backward
    exact row_unique firstEvent secondEvent (ofBackend_of_selects firstSelected)
      (ofBackend_of_selects secondSelected) channel id
  have both : (cursorOf (readEvent row)).1.isEmpty = false := by simpa [cursorOf] using started
  have bothId : (cursorOf (readEvent row)).2.isEmpty = false := by simpa [cursorOf] using named
  rw [windowPage, findWindowForBackend, both, bothId]
  simp only [bne_self_eq_false, Bool.false_eq_true, if_false, Bool.false_or, given, if_true,
    Int.toNat_natCast]
  rw [List.filter_map, ← List.map_take]
  exact congrArg (fun rows => (rows.take limit).map readEvent) filtered

/-! ## Texts and numbers -/

def WindowQuery.candidate (query : WindowQuery) (row : EpgEventRow) : Bool :=
  ofBackend query.backendId row && query.inChannels row

def WindowQuery.Within (query : WindowQuery) (row : EpgEventRow) : Prop :=
  digitsValue query.fromTime < digitsValue row.endTime ∧
    digitsValue row.startTime < digitsValue query.untilTime

theorem selects_iff {row : EpgEventRow} (stored : StoredEvent row)
    (fromTime : DecimalTime query.fromTime) (untilTime : DecimalTime query.untilTime) :
    query.selects row = true ↔ query.candidate row = true ∧
      LeadingLess query.fromTime row.endTime ∧ LeadingLess row.startTime query.untilTime := by
  have ended : query.untilTime.isEmpty = false := by simpa using untilTime.1
  rw [← lt_iff_leadingLess fromTime.2 stored.endTime.2,
    ← lt_iff_leadingLess stored.startTime.2 untilTime.2]
  simp only [WindowQuery.selects, WindowQuery.overlaps, WindowQuery.candidate, fromTime.cString_eq,
    untilTime.cString_eq, ended, Bool.false_or, Bool.and_eq_true, decide_eq_true_eq]
  constructor
  · rintro ⟨⟨backend, times⟩, channels⟩
    exact ⟨⟨backend, channels⟩, times⟩
  · rintro ⟨⟨backend, channels⟩, times⟩
    exact ⟨⟨backend, times⟩, channels⟩

private theorem foldl_cast (digits : Bytes) (start : Nat) :
    digits.foldl (fun (value : Int) digit => 10 * value + digitValue digit) start =
      (digits.foldl (fun number digit => number * 10 + digitValue digit) start : Nat) := by
  induction digits generalizing start with
  | nil => rfl
  | cons digit digits ih =>
    rw [List.foldl_cons, List.foldl_cons, ← ih]
    congr 1
    push_cast
    ring

theorem castInteger_decimal {time : Bytes} (decimal : DecimalTime time) :
    castInteger time = min int64Max (digitsValue time) := by
  obtain ⟨nonempty, digits⟩ := decimal
  cases time with
  | nil => exact absurd rfl nonempty
  | cons first rest =>
    have leading : isDigit first = true := digits first List.mem_cons_self
    simp only [isDigit, Bool.and_eq_true, decide_eq_true_eq, UInt8.le_iff_toNat_le] at leading
    have lower : 48 ≤ first.toNat := leading.1
    have not_blank : (first == 32 || (9 ≤ first && first ≤ 13)) = false := by
      rw [Bool.eq_false_iff]
      intro blank
      simp only [Bool.or_eq_true, Bool.and_eq_true, beq_iff_eq, decide_eq_true_eq,
        UInt8.le_iff_toNat_le] at blank
      rcases blank with rfl | ⟨-, upper⟩
      · exact absurd lower (by decide)
      · have : first.toNat ≤ 13 := upper
        omega
    have unsigned : first ≠ 45 ∧ first ≠ 43 := by
      constructor <;> rintro rfl <;> exact absurd lower (by decide)
    have whole : (first :: rest).takeWhile isDigit = first :: rest :=
      List.takeWhile_eq_self_iff.mpr digits
    rw [castInteger, List.dropWhile_cons_of_neg (by simp [not_blank])]
    simp only [unsigned.1, unsigned.2, if_false, whole]
    rw [Nat.cast_min]
    exact congrArg _ (foldl_cast (first :: rest) 0)

theorem digitsValue_lt_of_castInteger {first second : Bytes} (firstDecimal : DecimalTime first)
    (secondDecimal : DecimalTime second) (less : castInteger first < castInteger second) :
    digitsValue first < digitsValue second := by
  rw [castInteger_decimal firstDecimal, castInteger_decimal secondDecimal] at less
  omega

/-! ## What a window owes its readers -/

/-- The pages, the events, the anchors and the current events of a window agree. -/
structure WindowExact (cache : EpgCache) (query : WindowQuery) : Prop where
  paging : ∀ limit, 0 < limit → ∀ visited,
    PageRun cursorOf (windowPage cache query limit) limit ([], []) visited ↔
      visited = unpagedWindow cache query
  interval : ∀ event, event ∈ unpagedWindow cache query ↔
    ∃ row ∈ cache.events, query.candidate row = true ∧ query.Within row ∧ event = readEvent row
  anchor : ∀ channelId startTime cacheEventId,
    (boundChannels query.channelId = [] ∨
      cString channelId ∈ boundChannels query.channelId) →
    (hasWindowCursorAnchorForBackend cache query.backendId channelId query.fromTime query.untilTime
        startTime cacheEventId = true ↔
      ∃ event ∈ unpagedWindow cache query, event.channelId = cString channelId ∧
        event.startTime = cString startTime ∧ event.id = cString cacheEventId)
  nowNext : ∀ time perChannelLimit event, DecimalTime time →
    digitsValue query.fromTime ≤ digitsValue time → digitsValue time < digitsValue query.untilTime →
    event ∈ findNowNextPerChannelForBackend cache query.backendId query.channelId time
      perChannelLimit →
    digitsValue event.startTime ≤ digitsValue time → event ∈ unpagedWindow cache query

/-- When it is exact: the leading digits tell the events of the window as the numbers do; of events
that start at one time the one of the earlier channel has the earlier identity; and no channel or
identity is empty. -/
structure OrderedAsNumbers (cache : EpgCache) (query : WindowQuery) : Prop where
  digits : ∀ row ∈ cache.events, query.candidate row = true →
    (LeadingLess query.fromTime row.endTime ∧ LeadingLess row.startTime query.untilTime ↔
      query.Within row)
  ties : ∀ first ∈ cache.events, ∀ second ∈ cache.events,
    query.candidate first = true → query.Within first → query.candidate second = true →
    query.Within second → first.startTime = second.startTime →
    first.key.channelId < second.key.channelId → first.key.eventId < second.key.eventId
  named : ∀ row ∈ cache.events, query.candidate row = true → query.Within row →
    row.key.channelId ≠ [] ∧ row.key.eventId ≠ []

/-! ### The events of the window -/

theorem readEvent_row {first second : EpgEventRow} (stored : ∀ row ∈ cache.events, StoredEvent row)
    (firstMember : first ∈ cache.events) (secondMember : second ∈ cache.events)
    (firstCandidate : query.candidate first = true)
    (secondCandidate : query.candidate second = true)
    (same : readEvent first = readEvent second) : first = second := by
  have firstStored := stored first firstMember
  have secondStored := stored second secondMember
  rw [WindowQuery.candidate, Bool.and_eq_true] at firstCandidate secondCandidate
  refine row_unique firstMember secondMember firstCandidate.1 secondCandidate.1 ?_ ?_
  · rw [← firstStored.read_channelId, same, secondStored.read_channelId]
  · rw [← firstStored.read_id, same, secondStored.read_id]

theorem candidate_of_selects {row : EpgEventRow} (selected : query.selects row = true) :
    query.candidate row = true := by
  rw [WindowQuery.selects, Bool.and_eq_true, Bool.and_eq_true] at selected
  rw [WindowQuery.candidate, selected.1.1, selected.2]
  rfl

theorem mem_unpagedWindow {event : VdrEvent} :
    event ∈ unpagedWindow cache query ↔
      ∃ row ∈ cache.events, query.selects row = true ∧ event = readEvent row := by
  rw [unpagedWindow_eq, List.mem_map]
  constructor
  · rintro ⟨row, listed, rfl⟩
    obtain ⟨member, selected⟩ := (mem_windowRows).mp listed
    exact ⟨row, member, selected, rfl⟩
  · rintro ⟨row, member, selected, rfl⟩
    exact ⟨row, (mem_windowRows).mpr ⟨member, selected⟩, rfl⟩

theorem interval_iff (stored : ∀ row ∈ cache.events, StoredEvent row)
    (fromTime : DecimalTime query.fromTime) (untilTime : DecimalTime query.untilTime) :
    (∀ event, event ∈ unpagedWindow cache query ↔
      ∃ row ∈ cache.events, query.candidate row = true ∧ query.Within row ∧ event = readEvent row) ↔
    ∀ row ∈ cache.events, query.candidate row = true →
      (LeadingLess query.fromTime row.endTime ∧ LeadingLess row.startTime query.untilTime ↔
        query.Within row) := by
  constructor
  · intro interval row member candidate
    constructor
    · intro leading
      have selected := (selects_iff (stored row member) fromTime untilTime).mpr ⟨candidate, leading⟩
      obtain ⟨other, otherMember, otherCandidate, within, same⟩ := (interval (readEvent row)).mp
        ((mem_unpagedWindow).mpr ⟨row, member, selected, rfl⟩)
      rwa [readEvent_row stored member otherMember candidate otherCandidate same]
    · intro within
      obtain ⟨other, otherMember, selected, same⟩ := (mem_unpagedWindow).mp
        ((interval (readEvent row)).mpr ⟨row, member, candidate, within, rfl⟩)
      rw [readEvent_row stored member otherMember candidate (candidate_of_selects selected) same]
      exact ((selects_iff (stored other otherMember) fromTime untilTime).mp selected).2
  · intro digits event
    rw [mem_unpagedWindow]
    constructor
    · rintro ⟨row, member, selected, rfl⟩
      obtain ⟨candidate, leading⟩ := (selects_iff (stored row member) fromTime untilTime).mp selected
      exact ⟨row, member, candidate, (digits row member candidate).mp leading, rfl⟩
    · rintro ⟨row, member, candidate, within, rfl⟩
      exact ⟨row, member, (selects_iff (stored row member) fromTime untilTime).mpr
        ⟨candidate, (digits row member candidate).mpr within⟩, rfl⟩

/-! ### Pages, anchors and current events -/

/-- In the window every event is behind the ones before it exactly if ties are ordered alike. -/
theorem window_ordered_iff (stored : ∀ row ∈ cache.events, StoredEvent row) :
    (unpagedWindow cache query).Pairwise
        (fun first second => behind (cursorOf first) second = true) ↔
      ∀ first ∈ windowRows cache query, ∀ second ∈ windowRows cache query,
        first.startTime = second.startTime → first.key.channelId < second.key.channelId →
        first.key.eventId < second.key.eventId := by
  have sorted : (windowRows cache query).Pairwise windowOrder :=
    List.pairwise_insertionSort windowOrder _
  have reads : ∀ row ∈ windowRows cache query, StoredEvent row :=
    fun row member => stored row ((mem_windowRows).mp member).1
  rw [unpagedWindow_eq, List.pairwise_map]
  constructor
  · intro ordered first firstMember second secondMember same channels
    have either : (windowRows cache query).Pairwise fun left right =>
        (windowOrder left right ∧ behind (cursorOf (readEvent left)) (readEvent right) = true) ∨
        (windowOrder right left ∧ behind (cursorOf (readEvent right)) (readEvent left) = true) :=
      (sorted.and ordered).imp .inl
    have : Std.Symm fun left right =>
        (windowOrder left right ∧ behind (cursorOf (readEvent left)) (readEvent right) = true) ∨
        (windowOrder right left ∧ behind (cursorOf (readEvent right)) (readEvent left) = true) :=
      ⟨fun _ _ => Or.symm⟩
    have different : first ≠ second := by
      rintro rfl
      exact List.lt_irrefl _ channels
    rcases either.forall firstMember secondMember different with ⟨-, later⟩ | ⟨before, -⟩
    · rw [behind_iff, (reads first firstMember).read_startTime,
        (reads second secondMember).read_startTime, (reads first firstMember).read_id,
        (reads second secondMember).read_id] at later
      rcases later with less | ⟨-, less⟩
      · exact absurd less (same ▸ List.lt_irrefl _)
      · exact less
    · exfalso
      rcases before with less | ⟨-, less | ⟨equal, -⟩⟩
      · exact List.lt_irrefl _ (same ▸ less)
      · exact List.lt_irrefl _ (List.lt_trans less channels)
      · exact List.lt_irrefl _ (equal ▸ channels)
  · intro ties
    have distinct : (windowRows cache query).Nodup :=
      (List.perm_insertionSort windowOrder _).nodup_iff.mpr
        ((List.Nodup.of_map _ cache.eventsKeyed).filter _)
    refine (sorted.and distinct).imp_of_mem fun {first second} firstMember secondMember both => ?_
    obtain ⟨before, different⟩ := both
    rw [behind_iff, (reads first firstMember).read_startTime,
      (reads second secondMember).read_startTime, (reads first firstMember).read_id,
      (reads second secondMember).read_id]
    rcases before with less | ⟨same, channels | ⟨channel, le⟩⟩
    · exact .inl less
    · exact .inr ⟨same.symm, ties first firstMember second secondMember same channels⟩
    · refine .inr ⟨same.symm, ?_⟩
      rcases text_trichotomy first.key.eventId second.key.eventId with less | equal | more
      · exact less
      · obtain ⟨firstEvent, firstSelected⟩ := (mem_windowRows).mp firstMember
        obtain ⟨secondEvent, secondSelected⟩ := (mem_windowRows).mp secondMember
        exact absurd (row_unique firstEvent secondEvent (ofBackend_of_selects firstSelected)
          (ofBackend_of_selects secondSelected) channel equal) different
      · exact absurd more (List.not_lt.mpr le)

theorem paging_iff (stored : ∀ row ∈ cache.events, StoredEvent row)
    (named : ∀ event ∈ unpagedWindow cache query, event.id ≠ []) :
    (∀ limit, 0 < limit → ∀ visited,
      PageRun cursorOf (windowPage cache query limit) limit ([], []) visited ↔
        visited = unpagedWindow cache query) ↔
      (unpagedWindow cache query).Pairwise
        fun first second => behind (cursorOf first) second = true := by
  constructor
  · intro paging
    exact ordered_of_pageRun behind_trans
      (fun event listed => windowPage_cursor stored Nat.one_pos listed (named event listed))
      (windowPage_initial Nat.one_pos) ((paging 1 Nat.one_pos _).mpr rfl)
  · intro ordered limit positive visited
    have run := pageRun_of_ordered positive ordered behind_asymm (windowPage_initial positive)
      (fun event listed => windowPage_cursor stored positive listed (named event listed))
    constructor
    · intro other
      exact other.deterministic run
    · rintro rfl
      exact run

theorem inChannels_iff {row : EpgEventRow} :
    query.inChannels row = true ↔
      boundChannels query.channelId = [] ∨ row.key.channelId ∈ boundChannels query.channelId := by
  rw [WindowQuery.inChannels, Bool.or_eq_true, List.isEmpty_iff, List.contains_iff_mem]

theorem anchor_iff (stored : ∀ row ∈ cache.events, StoredEvent row)
    (untilTime : DecimalTime query.untilTime) :
    (∀ channelId startTime cacheEventId,
      (boundChannels query.channelId = [] ∨
        cString channelId ∈ boundChannels query.channelId) →
      (hasWindowCursorAnchorForBackend cache query.backendId channelId query.fromTime
          query.untilTime startTime cacheEventId = true ↔
        ∃ event ∈ unpagedWindow cache query, event.channelId = cString channelId ∧
          event.startTime = cString startTime ∧ event.id = cString cacheEventId)) ↔
    ∀ row ∈ windowRows cache query, row.key.channelId ≠ [] ∧ row.key.eventId ≠ [] := by
  have ended : query.untilTime.isEmpty = false := by simpa using untilTime.1
  constructor
  · intro anchor row listed
    obtain ⟨member, selected⟩ := (mem_windowRows).mp listed
    have rowStored := stored row member
    have channelText := (cString_eq_self_iff _).mpr rowStored.channelText
    have channels : boundChannels query.channelId = [] ∨
        cString row.key.channelId ∈ boundChannels query.channelId := by
      rw [channelText]
      rw [WindowQuery.selects, Bool.and_eq_true, inChannels_iff] at selected
      exact selected.2
    have found := (anchor row.key.channelId row.startTime row.key.eventId channels).mpr
      ⟨readEvent row, (mem_unpagedWindow).mpr ⟨row, member, selected, rfl⟩, rfl, rfl, rfl⟩
    rw [hasWindowCursorAnchorForBackend] at found
    split at found
    · simp at found
    · next given =>
      simp only [Bool.or_eq_true, List.isEmpty_iff, not_or] at given
      exact ⟨given.1.1, given.2⟩
  · intro named channelId startTime cacheEventId channels
    rw [hasWindowCursorAnchorForBackend]
    constructor
    · intro found
      split at found
      · simp at found
      · rw [List.any_eq_true] at found
        obtain ⟨row, member, matched⟩ := found
        simp only [Bool.and_eq_true, beq_iff_eq, decide_eq_true_eq] at matched
        obtain ⟨⟨⟨⟨⟨backend, channel⟩, id⟩, start⟩, ends⟩, starts⟩ := matched
        have rowStored := stored row member
        have selected : query.selects row = true := by
          rw [WindowQuery.selects, Bool.and_eq_true, Bool.and_eq_true, inChannels_iff,
            WindowQuery.overlaps, Bool.and_eq_true, ended, Bool.false_or, decide_eq_true_eq,
            decide_eq_true_eq, channel]
          exact ⟨⟨backend, ends, starts⟩, channels⟩
        exact ⟨readEvent row, (mem_unpagedWindow).mpr ⟨row, member, selected, rfl⟩,
          rowStored.read_channelId.trans channel, rowStored.read_startTime.trans start,
          rowStored.read_id.trans id⟩
    · rintro ⟨event, listed, channel, start, id⟩
      obtain ⟨row, member, selected, rfl⟩ := (mem_unpagedWindow).mp listed
      have rowStored := stored row member
      rw [rowStored.read_channelId] at channel
      rw [rowStored.read_startTime] at start
      rw [rowStored.read_id] at id
      obtain ⟨channelNamed, idNamed⟩ := named row ((mem_windowRows).mpr ⟨member, selected⟩)
      have bound_ne : ∀ {value : Bytes}, cString value ≠ [] → value ≠ [] := by
        rintro value some rfl
        exact some rfl
      have given : ¬ (channelId.isEmpty || startTime.isEmpty || cacheEventId.isEmpty) = true := by
        simp only [Bool.or_eq_true, List.isEmpty_iff, not_or]
        exact ⟨⟨bound_ne (channel ▸ channelNamed), bound_ne (start ▸ rowStored.startTime.1)⟩,
          bound_ne (id ▸ idNamed)⟩
      rw [if_neg given, List.any_eq_true]
      rw [WindowQuery.selects, Bool.and_eq_true, Bool.and_eq_true, WindowQuery.overlaps,
        Bool.and_eq_true, ended, Bool.false_or, decide_eq_true_eq, decide_eq_true_eq] at selected
      refine ⟨row, member, ?_⟩
      simp only [Bool.and_eq_true, beq_iff_eq, decide_eq_true_eq]
      exact ⟨⟨⟨⟨⟨selected.1.1, channel⟩, id⟩, start⟩, selected.1.2.1⟩, selected.1.2.2⟩

/-- A current event that the channels report lies in every window around the time, as numbers. -/
theorem within_of_nowNext (stored : ∀ row ∈ cache.events, StoredEvent row) {time : Bytes}
    {perChannelLimit : Int} {event : VdrEvent} (decimal : DecimalTime time)
    (begun : digitsValue query.fromTime ≤ digitsValue time)
    (open_ended : digitsValue time < digitsValue query.untilTime)
    (reported : event ∈ findNowNextPerChannelForBackend cache query.backendId query.channelId time
      perChannelLimit)
    (current : digitsValue event.startTime ≤ digitsValue time) :
    ∃ row ∈ cache.events, query.candidate row = true ∧ query.Within row ∧
      event = readEvent row := by
  rw [findNowNextPerChannelForBackend] at reported
  split at reported
  · simp at reported
  · split at reported
    · simp at reported
    · obtain ⟨row, ranked, rfl⟩ := List.mem_map.mp reported
      have selected := (List.mem_filter.mp
        (List.mem_filter.mp ((List.mem_insertionSort _).mp ranked)).1)
      obtain ⟨member, conditions⟩ := selected
      have rowStored := stored row member
      simp only [Bool.and_eq_true, decide_eq_true_eq, decimal.cString_eq] at conditions
      obtain ⟨⟨backend, running⟩, channels⟩ := conditions
      have later := digitsValue_lt_of_castInteger decimal rowStored.endTime running
      rw [rowStored.read_startTime] at current
      refine ⟨row, member, ?_, ⟨by omega, by omega⟩, rfl⟩
      rw [WindowQuery.candidate, backend, WindowQuery.inChannels, channels, Bool.or_true]
      rfl

end

/-- Windows of a cache of decimal times are exact in exactly the ordered ones. -/
theorem window_exact_iff {cache : EpgCache} {query : WindowQuery}
    (stored : ∀ row ∈ cache.events, StoredEvent row) (fromTime : DecimalTime query.fromTime)
    (untilTime : DecimalTime query.untilTime) :
    WindowExact cache query ↔ OrderedAsNumbers cache query := by
  have rows_iff : (∀ row ∈ cache.events, query.candidate row = true →
      (LeadingLess query.fromTime row.endTime ∧ LeadingLess row.startTime query.untilTime ↔
        query.Within row)) →
      ∀ {row}, row ∈ windowRows cache query ↔
        row ∈ cache.events ∧ query.candidate row = true ∧ query.Within row := by
    intro digits row
    rw [mem_windowRows]
    refine and_congr_right fun member => ?_
    rw [selects_iff (stored row member) fromTime untilTime]
    exact and_congr_right fun candidate => digits row member candidate
  have ids_named : (∀ row ∈ windowRows cache query, row.key.channelId ≠ [] ∧
      row.key.eventId ≠ []) → ∀ event ∈ unpagedWindow cache query, event.id ≠ [] := by
    intro named event listed
    obtain ⟨row, member, selected, rfl⟩ := (mem_unpagedWindow).mp listed
    rw [(stored row member).read_id]
    exact (named row ((mem_windowRows).mpr ⟨member, selected⟩)).2
  constructor
  · intro exact
    have digits := (interval_iff stored fromTime untilTime).mp exact.interval
    have named := (anchor_iff stored untilTime).mp exact.anchor
    have ties := (window_ordered_iff stored).mp
      ((paging_iff stored (ids_named named)).mp exact.paging)
    constructor
    · exact digits
    · intro first firstMember second secondMember firstCandidate firstWithin secondCandidate
        secondWithin
      exact ties first ((rows_iff digits).mpr ⟨firstMember, firstCandidate, firstWithin⟩) second
        ((rows_iff digits).mpr ⟨secondMember, secondCandidate, secondWithin⟩)
    · intro row member candidate within
      exact named row ((rows_iff digits).mpr ⟨member, candidate, within⟩)
  · intro ordered
    have named : ∀ row ∈ windowRows cache query, row.key.channelId ≠ [] ∧ row.key.eventId ≠ [] := by
      intro row listed
      obtain ⟨member, candidate, within⟩ := (rows_iff ordered.digits).mp listed
      exact ordered.named row member candidate within
    have interval := (interval_iff stored fromTime untilTime).mpr ordered.digits
    constructor
    · refine (paging_iff stored (ids_named named)).mpr ((window_ordered_iff stored).mpr ?_)
      intro first firstListed second secondListed
      obtain ⟨firstMember, firstCandidate, firstWithin⟩ := (rows_iff ordered.digits).mp firstListed
      obtain ⟨secondMember, secondCandidate, secondWithin⟩ :=
        (rows_iff ordered.digits).mp secondListed
      exact ordered.ties first firstMember second secondMember firstCandidate firstWithin
        secondCandidate secondWithin
    · exact interval
    · exact (anchor_iff stored untilTime).mpr named
    · intro time perChannelLimit event decimal begun open_ended reported current
      exact (interval event).mpr
        (within_of_nowNext stored decimal begun open_ended reported current)

/-! ## Sample windows -/

def sampleRow (channelId eventId startTime endTime : Bytes) : EpgEventRow where
  key := ⟨text "home", channelId, eventId⟩
  title := text "news"
  subtitle := []
  description := []
  startTime := startTime
  endTime := endTime
  durationSeconds := 100
  parentalRating := 0
  contentDescriptors := []

def sampleCache (first second : EpgEventRow) (different : first.key ≠ second.key) : EpgCache where
  events := [first, second]
  evidence := []
  dependents := fun _ => none
  genreAssignments := none
  targets := none
  bindings := none
  eventsKeyed := by simp [Table.Keyed, different]
  evidenceKeyed := List.nodup_nil

def sampleQuery : WindowQuery where
  backendId := text "home"
  channelId := []
  fromTime := text "1500"
  untilTime := text "1700"

def orderedCache : EpgCache :=
  sampleCache (sampleRow (text "A") (text "1") (text "1400") (text "1600"))
    (sampleRow (text "B") (text "2") (text "1400") (text "1600")) (by decide)

theorem sampleRow_stored {channelId eventId startTime endTime : Bytes}
    (channelText : (0 : UInt8) ∉ channelId) (eventText : (0 : UInt8) ∉ eventId)
    (starts : DecimalTime startTime) (ends : DecimalTime endTime) :
    StoredEvent (sampleRow channelId eventId startTime endTime) :=
  ⟨channelText, eventText, starts, ends⟩

theorem window_exact_iff_sample : WindowExact orderedCache sampleQuery ↔
    OrderedAsNumbers orderedCache sampleQuery := by
  refine window_exact_iff ?_ ⟨by decide, by decide⟩ ⟨by decide, by decide⟩
  intro row member
  rcases List.mem_cons.mp member with rfl | last
  · exact sampleRow_stored (by decide) (by decide) ⟨by decide, by decide⟩
      ⟨by decide, by decide⟩
  · rw [List.mem_singleton.mp last]
    exact sampleRow_stored (by decide) (by decide) ⟨by decide, by decide⟩
      ⟨by decide, by decide⟩

def tiedCache : EpgCache :=
  sampleCache (sampleRow (text "A") (text "2") (text "1400") (text "1600"))
    (sampleRow (text "B") (text "1") (text "1400") (text "1600")) (by decide)

/-- Pages skip an event of a later channel that starts with the last event of a page. -/
theorem tied_window_not_exact : ¬ WindowExact tiedCache sampleQuery := by
  intro exact
  have first : windowPage tiedCache sampleQuery 1 ([], []) =
      [readEvent (sampleRow (text "A") (text "2") (text "1400") (text "1600"))] := by decide
  have second : windowPage tiedCache sampleQuery 1 (text "1400", text "2") = [] := by decide
  have ending : PageRun cursorOf (windowPage tiedCache sampleQuery 1) 1
      (cursorOf (readEvent (sampleRow (text "A") (text "2") (text "1400") (text "1600")))) [] := by
    have short : (windowPage tiedCache sampleQuery 1 (text "1400", text "2")).length < 1 := by
      rw [second]
      exact Nat.one_pos
    have run := @PageRun.short _ _ cursorOf _ _ _ short
    rwa [second] at run
  have run := @PageRun.full _ _ cursorOf (windowPage tiedCache sampleQuery 1) 1 ([], []) _ []
    (by rw [first]; decide) (by rw [first]; rfl) ending
  have visited := (exact.paging 1 Nat.one_pos _).mp run
  rw [first] at visited
  exact absurd visited (by decide)

end VdrSuite.Epg
