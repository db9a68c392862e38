import VdrSuite.Media.SegmentedRecordingByteSource

/-! Reads of an unchanging recording: every successful read shows a window of the segments' joined
contents, and reads that follow the next offset put the recording together. -/

set_option autoImplicit false

namespace VdrSuite.Media

open Library

/-- Every listed file is as long as its contents, and the joined contents are the recording. -/
def SegmentCatalog.Unchanging (content : Bytes) : SegmentCatalog → Prop
  | .entries segments =>
    content = segments.flatMap (·.file.contents) ∧
    ∀ entry ∈ segments, ∀ status, entry.file.listed = some status → status.regular = true →
      status.size = entry.file.contents.length
  | _ => True

inductive Tiled : Nat → List Segment → Bytes → Prop where
  | nil (offset : Nat) : Tiled offset [] []
  | cons {offset : Nat} {segment : Segment} {rest : List Segment} {content : Bytes}
      (starts : segment.start = offset)
      (stops : segment.stop = offset + segment.file.contents.length)
      (later : Tiled segment.stop rest content) :
      Tiled offset (segment :: rest) (segment.file.contents ++ content)

theorem appendSegments_tiled {entries : List CatalogSegment} {result : Snapshot} {offset : Nat}
    (sizes : ∀ entry ∈ entries, ∀ status, entry.file.listed = some status →
      status.regular = true → status.size = entry.file.contents.length)
    (invalid : result.valid = false)
    (valid : (appendSegments result offset entries).valid = true) :
    ∃ added,
      (appendSegments result offset entries).segments = result.segments ++ added ∧
      (appendSegments result offset entries).extent.readableBytes =
        offset + (entries.flatMap (·.file.contents)).length ∧
      Tiled offset added (entries.flatMap (·.file.contents)) := by
  induction entries generalizing result offset with
  | nil => exact ⟨[], by simp [appendSegments], by simp [appendSegments], .nil offset⟩
  | cons entry entries ih =>
    rw [appendSegments] at valid ⊢
    cases observed : entry.lstat with
    | none =>
      simp only [observed] at valid
      exact absurd valid (by simp [invalid])
    | some metadata =>
      simp only [observed] at valid ⊢
      split at valid
      · exact absurd valid (by simp [invalid])
      · next regular =>
        split at valid
        · exact absurd valid (by simp [invalid])
        · next room =>
          rw [if_neg regular, if_neg room]
          have listed : entry.file.listed = some metadata := by
            rw [CatalogSegment.lstat] at observed
            split at observed
            · simp at observed
            · exact observed
          have exact := sizes entry List.mem_cons_self metadata listed (by simp_all)
          have length : metadata.size.toNat = entry.file.contents.length := by
            rw [exact, Int.toNat_natCast]
          obtain ⟨added, segments, extent, tiled⟩ := @ih
            { result with
              segments := result.segments ++ [segmentAt offset entry.file metadata] } _
            (fun other member => sizes other (List.mem_cons_of_mem _ member)) invalid valid
          refine ⟨segmentAt offset entry.file metadata :: added, ?_, ?_, ?_⟩
          · rw [segments, List.append_assoc, List.singleton_append]
          · rw [extent, List.flatMap_cons, List.length_append, length]
            omega
          · rw [List.flatMap_cons]
            have stops : (segmentAt offset entry.file metadata).stop =
                offset + (segmentAt offset entry.file metadata).file.contents.length := by
              simp [segmentAt, length]
            exact Tiled.cons rfl stops tiled

theorem SegmentedRecordingByteSource.snapshot_tiled {source : SegmentedRecordingByteSource}
    {catalog : SegmentCatalog} {content : Bytes} (unchanging : catalog.Unchanging content)
    (valid : (source.snapshot catalog).valid = true) :
    (source.snapshot catalog).extent.readableBytes = content.length ∧
      Tiled 0 (source.snapshot catalog).segments content := by
  cases catalog with
  | unset => simp [snapshot] at valid
  | throwing => simp [snapshot] at valid
  | entries paths =>
    obtain ⟨rfl, sizes⟩ := unchanging
    rw [snapshot] at valid ⊢
    split at valid
    · simp at valid
    · next some =>
      rw [if_neg some]
      obtain ⟨added, segments, extent, tiled⟩ := appendSegments_tiled sizes rfl valid
      rw [segments]
      exact ⟨by rw [extent, Nat.zero_add], tiled⟩

/-! ## The loops -/

theorem readChunk_window {contents buffer read : Bytes} {localOffset chunk : Nat}
    {attempts : List ReadAttempt} (short : buffer.length ≤ chunk)
    (shows : buffer = window localOffset buffer.length contents)
    (result : readChunk contents localOffset chunk attempts buffer = some read) :
    read.length ≤ chunk ∧ read = window localOffset read.length contents := by
  induction attempts generalizing buffer with
  | nil =>
    rw [readChunk] at result
    split at result
    · simp at result
    · cases result
      exact ⟨short, shows⟩
  | cons attempt later ih =>
    rw [readChunk.eq_def] at result
    dsimp only at result
    split at result
    · cases attempt with
      | interrupted => exact ih short shows result
      | failed =>
        cases result
        exact ⟨short, shows⟩
      | transferred count =>
        dsimp only at result
        split at result
        · cases result
          exact ⟨short, shows⟩
        · refine ih ?_ ?_ result
          · rw [List.length_append, window_length]
            omega
          · rw [List.length_append, ← window_append_window, ← shows, window_self_length]
    · cases result
      exact ⟨short, shows⟩

theorem readSegments_window {growing : Bool} {segments : List Segment} {before after : Bytes}
    {start offset cursor remaining : Nat} {bytes read : Bytes} (tiled : Tiled start segments after)
    (begins : start = before.length) (at_cursor : cursor = offset + bytes.length)
    (shows : bytes = window offset bytes.length (before ++ after))
    (result : readSegments growing segments cursor remaining bytes = some (.ok read)) :
    read.length ≤ bytes.length + remaining ∧
      read = window offset read.length (before ++ after) := by
  induction tiled generalizing before cursor remaining bytes with
  | nil start =>
    cases result
    exact ⟨Nat.le_add_right _ _, shows⟩
  | @cons start segment rest content starts stops later ih =>
    have next : segment.stop = (before ++ segment.file.contents).length := by
      rw [List.length_append, stops, begins]
    rw [← List.append_assoc] at shows ⊢
    rw [readSegments] at result
    split at result
    · cases result
      exact ⟨Nat.le_add_right _ _, shows⟩
    · split at result
      · exact ih next at_cursor shows result
      · split at result
        · simp at result
        · split at result
          · simp at result
          · split at result
            · simp at result
            · cases transferred : readChunk segment.file.contents (cursor - segment.start)
                  (min (segment.stop - cursor) remaining) segment.file.attempts [] with
              | none => simp [transferred] at result
              | some chunkRead =>
                simp only [transferred] at result
                obtain ⟨short, received⟩ := readChunk_window (Nat.zero_le _) (by simp) transferred
                have joined : bytes ++ chunkRead = window offset (bytes ++ chunkRead).length
                    (before ++ segment.file.contents ++ content) := by
                  have inside := @window_middle _ before segment.file.contents content
                    (cursor - segment.start) chunkRead.length (by omega)
                  rw [← received, ← List.append_assoc] at inside
                  have position : before.length + (cursor - segment.start) =
                      offset + bytes.length := by omega
                  rw [position] at inside
                  rw [List.length_append, ← window_append_window, ← shows, inside]
                split at result
                · simp at result
                · split at result
                  · simp at result
                  · split at result
                    · cases result
                      refine ⟨?_, joined⟩
                      rw [List.length_append]
                      omega
                    · obtain ⟨bounded, whole⟩ := ih next
                        (by rw [List.length_append, at_cursor, Nat.add_assoc]) joined result
                      rw [List.length_append] at bounded
                      exact ⟨by omega, whole⟩

/-! ## The read -/

structure ExactRead (content : Bytes) (offset requestedBytes : Nat)
    (result : RecordingByteReadResult) : Prop where
  bytes : result.bytes = window offset result.bytes.length content
  bounded : result.bytes.length ≤ requestedBytes
  nextOffset : result.nextOffset = offset + result.bytes.length
  inside : result.nextOffset ≤ content.length
  empty : result.bytes = [] ↔ requestedBytes = 0 ∨ offset = content.length
  ended : result.endOfReadableExtent = true ↔ result.nextOffset = content.length

theorem SegmentedRecordingByteSource.read_exact {source : SegmentedRecordingByteSource}
    {catalog : SegmentCatalog} {content : Bytes} {offset requestedBytes : Nat}
    {result : RecordingByteReadResult} (unchanging : catalog.Unchanging content)
    (returned : source.read catalog offset requestedBytes = some result)
    (success : result.success = true) : ExactRead content offset requestedBytes result := by
  rw [read] at returned
  dsimp only at returned
  split at returned
  · cases returned
    simp at success
  · next valid =>
    obtain ⟨extent, tiled⟩ := snapshot_tiled unchanging (by simpa using valid)
    rw [extent] at returned
    split at returned
    · cases returned
      simp at success
    · next reachable =>
      split at returned
      · next trivially =>
        cases returned
        exact ⟨by simp, by simp, by simp, by simpa using reachable, by simpa using trivially, by simp⟩
      · next proper =>
        cases crossed : readSegments source.growing (source.snapshot catalog).segments offset
            (min (content.length - offset) (min requestedBytes source.maximumReadBytes)) [] with
        | none => simp [crossed] at returned
        | some outcome =>
          cases outcome with
          | error reasonCode =>
            simp only [crossed, Option.some.injEq] at returned
            rw [← returned] at success
            simp at success
          | ok bytes =>
            obtain ⟨bounded, shows⟩ := @readSegments_window _ _ [] content _ offset
              _ _ _ _ tiled rfl rfl (window_zero offset content).symm crossed
            simp only [crossed] at returned
            split at returned
            · cases returned
              simp at success
            · next some =>
              cases returned
              simp only [List.length_nil, Nat.zero_add] at bounded
              constructor
              · exact shows
              · exact bounded.trans (by omega)
              · rfl
              · change offset + bytes.length ≤ content.length
                omega
              · exact iff_of_false (by simpa using some) proper
              · simp only [decide_eq_true_eq]
                omega

/-! ## Following the next offset -/

structure FollowedReads where
  gathered : Bytes
  nextOffset : Nat
  ended : Bool
  deriving DecidableEq

/-- Reads in a row, each at the next offset of the one before, up to the end of the extent. There
is no result once a read fails or has not returned. -/
def SegmentedRecordingByteSource.follow (source : SegmentedRecordingByteSource) :
    List (SegmentCatalog × Nat) → Nat → Option FollowedReads
  | [], offset => some { gathered := [], nextOffset := offset, ended := false }
  | (catalog, requestedBytes) :: later, offset =>
    match source.read catalog offset requestedBytes with
    | none => none
    | some result =>
      if result.success = false then none
      else if result.endOfReadableExtent then
        some { gathered := result.bytes, nextOffset := result.nextOffset, ended := true }
      else
        match source.follow later result.nextOffset with
        | none => none
        | some rest => some { rest with gathered := result.bytes ++ rest.gathered }

/-- Followed reads show one window, they reach the end as soon as there are more of them than
bytes, and at the end the window is the rest of the recording. -/
theorem SegmentedRecordingByteSource.follow_exact {source : SegmentedRecordingByteSource}
    {content : Bytes} {reads : List (SegmentCatalog × Nat)} {offset : Nat} {followed : FollowedReads}
    (unchanging : ∀ read ∈ reads, read.1.Unchanging content)
    (result : source.follow reads offset = some followed) :
    followed.gathered = window offset followed.gathered.length content ∧
    (followed.ended = true → followed.gathered = content.drop offset) ∧
    ((∀ read ∈ reads, 0 < read.2) → content.length - offset < reads.length →
      followed.ended = true) := by
  induction reads generalizing offset followed with
  | nil =>
    cases result
    exact ⟨by simp, by simp, by simp⟩
  | cons read reads ih =>
    obtain ⟨catalog, requestedBytes⟩ := read
    rw [follow] at result
    cases returned : source.read catalog offset requestedBytes with
    | none => simp [returned] at result
    | some first =>
      simp only [returned] at result
      split at result
      · simp at result
      · next success =>
        have exact := read_exact (unchanging _ List.mem_cons_self) returned (by simpa using success)
        split at result
        · next ended =>
          cases result
          refine ⟨exact.bytes, fun _ => ?_, fun _ _ => rfl⟩
          have reached := exact.ended.mp ended
          rw [exact.nextOffset] at reached
          rw [exact.bytes, window_eq_drop reached.ge]
        · next open_ended =>
          cases later : source.follow reads first.nextOffset with
          | none => simp [later] at result
          | some rest =>
            simp only [later, Option.some.injEq] at result
            obtain ⟨shows, whole, terminates⟩ :=
              ih (fun read member => unchanging read (List.mem_cons_of_mem _ member)) later
            rw [← result]
            have joined : first.bytes ++ rest.gathered =
                window offset (first.bytes ++ rest.gathered).length content := by
              rw [List.length_append, ← window_append_window, ← exact.bytes,
                ← exact.nextOffset, ← shows]
            refine ⟨joined, fun ended => ?_, fun positive many => ?_⟩
            · have rest_whole := whole ended
              rw [exact.nextOffset] at rest_whole
              change first.bytes ++ rest.gathered = _
              rw [rest_whole, ← List.drop_drop]
              nth_rewrite 1 [exact.bytes]
              exact List.take_append_drop _ _
            · refine terminates (fun read member => positive read (List.mem_cons_of_mem _ member)) ?_
              have asked := positive _ List.mem_cons_self
              have below : first.nextOffset ≠ content.length :=
                fun reached => open_ended (exact.ended.mpr reached)
              have progress : 0 < first.bytes.length := by
                refine List.length_pos_iff.mpr fun nothing => ?_
                have next := exact.nextOffset
                rw [nothing] at next
                rcases exact.empty.mp nothing with zero | at_end
                · exact absurd asked (by simp [zero])
                · exact below (by simpa [at_end] using next)
              have next := exact.nextOffset
              have inside := exact.inside
              rw [List.length_cons] at many
              omega

/-! ## Reads in which nothing fails -/

def ReadAttempt.Moves : ReadAttempt → Prop
  | .interrupted => True
  | .failed => False
  | .transferred count => 0 < count

def ReadAttempt.isTransfer : ReadAttempt → Bool
  | .transferred _ => true
  | _ => false

/-- A regular file that stays as it was listed and whose positional reads all move on. -/
structure CatalogSegment.Healthy (entry : CatalogSegment) (status : FileStatus) : Prop where
  named : entry.path ≠ []
  listed : entry.file.listed = some status
  regular : status.regular = true
  size : status.size = entry.file.contents.length
  opens : entry.file.opens = true
  openedStatus : entry.file.openedStatus = some status
  finalStatus : entry.file.finalStatus = some status
  moves : ∀ attempt ∈ entry.file.attempts, attempt.Moves
  enough : entry.file.contents.length ≤ entry.file.attempts.countP ReadAttempt.isTransfer

theorem readChunk_complete {contents buffer : Bytes} {localOffset chunk : Nat}
    {attempts : List ReadAttempt} (inside : localOffset + chunk ≤ contents.length)
    (short : buffer.length ≤ chunk) (moves : ∀ attempt ∈ attempts, attempt.Moves)
    (enough : chunk - buffer.length ≤ attempts.countP ReadAttempt.isTransfer) :
    ∃ read, readChunk contents localOffset chunk attempts buffer = some read ∧
      read.length = chunk := by
  induction attempts generalizing buffer with
  | nil =>
    rw [List.countP_nil] at enough
    rw [readChunk, if_neg (by omega)]
    exact ⟨buffer, rfl, by omega⟩
  | cons attempt later ih =>
    rw [readChunk.eq_def]
    dsimp only
    have moves_later : ∀ attempt ∈ later, attempt.Moves :=
      fun attempt member => moves attempt (List.mem_cons_of_mem _ member)
    have moving := moves attempt List.mem_cons_self
    split
    · cases attempt with
      | interrupted =>
        rw [List.countP_cons_of_neg (by simp [ReadAttempt.isTransfer])] at enough
        exact ih short moves_later enough
      | failed => exact moving.elim
      | transferred count =>
        have positive : 0 < count := moving
        rw [List.countP_cons_of_pos rfl] at enough
        have received : (window (localOffset + buffer.length) (min count (chunk - buffer.length))
            contents).length = min count (chunk - buffer.length) := by
          rw [window_length]
          omega
        dsimp only
        rw [if_neg]
        · refine ih ?_ moves_later ?_
          · rw [List.length_append, received]
            omega
          · rw [List.length_append, received]
            omega
        · rw [List.isEmpty_iff]
          intro nothing
          rw [nothing, List.length_nil] at received
          omega
    · exact ⟨buffer, rfl, by omega⟩

/-- A segment whose file stays as it was listed, and whose positional reads all move on. -/
structure Segment.Healthy (growing : Bool) (segment : Segment) : Prop where
  opens : segment.file.opens = true
  opened : sameOpenedSegment segment segment.file.openedStatus growing = true
  final : sameOpenedSegment segment segment.file.finalStatus growing = true
  moves : ∀ attempt ∈ segment.file.attempts, attempt.Moves
  enough : segment.file.contents.length ≤ segment.file.attempts.countP ReadAttempt.isTransfer

theorem segmentAt_healthy {entry : CatalogSegment} {status : FileStatus} (growing : Bool)
    (offset : Nat) (healthy : entry.Healthy status) :
    (segmentAt offset entry.file status).Healthy growing := by
  have same : sameOpenedSegment (segmentAt offset entry.file status) (some status) growing = true := by
    have size := healthy.size
    simp only [sameOpenedSegment, segmentAt, healthy.regular]
    cases growing <;> simp [size]
  constructor
  · exact healthy.opens
  · rw [segmentAt, healthy.openedStatus]
    exact same
  · rw [segmentAt, healthy.finalStatus]
    exact same
  · exact healthy.moves
  · exact healthy.enough

theorem appendSegments_healthy {entries : List CatalogSegment} {result : Snapshot} {offset : Nat}
    (growing : Bool) (healthy : ∀ entry ∈ entries, ∃ status, entry.Healthy status)
    (fits : offset + (entries.flatMap (·.file.contents)).length ≤ Netstring.uint64Max)
    (earlier : ∀ segment ∈ result.segments, segment.Healthy growing) :
    (appendSegments result offset entries).valid = true ∧
      ∀ segment ∈ (appendSegments result offset entries).segments, segment.Healthy growing := by
  induction entries generalizing result offset with
  | nil => exact ⟨rfl, earlier⟩
  | cons entry entries ih =>
    obtain ⟨status, intact⟩ := healthy entry List.mem_cons_self
    have size : status.size.toNat = entry.file.contents.length := by
      rw [intact.size, Int.toNat_natCast]
    have nonneg : ¬ (status.regular = false ∨ status.size < 0) := by
      rw [intact.regular, intact.size]
      simp
    rw [List.flatMap_cons, List.length_append] at fits
    have listed : entry.lstat = some status := by
      rw [CatalogSegment.lstat, if_neg (by simpa using intact.named), intact.listed]
    rw [appendSegments]
    simp only [listed]
    rw [if_neg nonneg, if_neg (by omega)]
    refine ih (fun other member => healthy other (List.mem_cons_of_mem _ member)) ?_ ?_
    · omega
    · intro segment member
      rcases List.mem_append.mp member with before | last
      · exact earlier segment before
      · rw [List.mem_singleton.mp last]
        exact segmentAt_healthy growing offset intact

theorem readSegments_complete {growing : Bool} {segments : List Segment} {after : Bytes}
    {start cursor remaining : Nat} {bytes : Bytes} (tiled : Tiled start segments after)
    (healthy : ∀ segment ∈ segments, segment.Healthy growing)
    (covered : remaining = 0 ∨ start ≤ cursor ∧ cursor + remaining ≤ start + after.length) :
    ∃ read, readSegments growing segments cursor remaining bytes = some (.ok read) ∧
      read.length = bytes.length + remaining := by
  induction tiled generalizing cursor remaining bytes with
  | nil start =>
    rw [List.length_nil] at covered
    exact ⟨bytes, rfl, by omega⟩
  | @cons start segment rest content starts stops later ih =>
    have intact := healthy segment List.mem_cons_self
    have rest_healthy : ∀ segment ∈ rest, segment.Healthy growing :=
      fun other member => healthy other (List.mem_cons_of_mem _ member)
    rw [List.length_append] at covered
    rw [readSegments]
    split
    · exact ⟨bytes, rfl, by omega⟩
    · split
      · exact ih rest_healthy (by omega)
      · next inside =>
        have bounded : cursor - segment.start + min (segment.stop - cursor) remaining ≤
            segment.file.contents.length := by omega
        obtain ⟨chunkRead, transferred, full⟩ := @readChunk_complete segment.file.contents []
          (cursor - segment.start) (min (segment.stop - cursor) remaining) segment.file.attempts
          bounded (Nat.zero_le _) intact.moves (by
            have := intact.enough
            rw [List.length_nil]
            omega)
        have some_read : ¬ chunkRead.isEmpty = true := by
          rw [List.isEmpty_iff]
          rintro rfl
          rw [List.length_nil] at full
          omega
        rw [if_neg (by omega), if_neg (by simp [intact.opens]), if_neg (by simp [intact.opened])]
        simp only [transferred]
        rw [if_neg (by simp [intact.final]), if_neg some_read, if_neg (by omega)]
        obtain ⟨read, result, length⟩ := @ih (cursor + chunkRead.length)
          (remaining - chunkRead.length) (bytes ++ chunkRead) rest_healthy (by omega)
        refine ⟨read, result, ?_⟩
        rw [length, List.length_append]
        omega

theorem Healthy.unchanging {entries : List CatalogSegment}
    (healthy : ∀ entry ∈ entries, ∃ status, entry.Healthy status) :
    (SegmentCatalog.entries entries).Unchanging (entries.flatMap (·.file.contents)) := by
  refine ⟨rfl, fun entry member status observed _ => ?_⟩
  obtain ⟨known, intact⟩ := healthy entry member
  rw [intact.listed, Option.some.injEq] at observed
  rw [← observed, intact.size]

theorem SegmentedRecordingByteSource.read_complete {source : SegmentedRecordingByteSource}
    {entries : List CatalogSegment} {offset requestedBytes : Nat} (nonempty : entries ≠ [])
    (healthy : ∀ entry ∈ entries, ∃ status, entry.Healthy status)
    (fits : (entries.flatMap (·.file.contents)).length ≤ Netstring.uint64Max)
    (inside : offset ≤ (entries.flatMap (·.file.contents)).length) :
    ∃ result, source.read (.entries entries) offset requestedBytes = some result ∧
      result.success = true := by
  have snapshot_eq : source.snapshot (.entries entries) =
      appendSegments { extent := { growing := source.growing } } 0 entries := by
    rw [snapshot, if_neg (by simpa using nonempty)]
  obtain ⟨valid, segments_healthy⟩ := @appendSegments_healthy entries
    { extent := { growing := source.growing } } 0 source.growing healthy (by omega) (by simp)
  rw [← snapshot_eq] at valid segments_healthy
  obtain ⟨extent, tiled⟩ := snapshot_tiled (Healthy.unchanging healthy) valid
  rw [read]
  dsimp only
  rw [if_neg (by simp [valid]), extent, if_neg (by omega)]
  split
  · exact ⟨_, rfl, rfl⟩
  · next proper =>
    have positive := source.positive
    obtain ⟨bytes, crossed, length⟩ := @readSegments_complete _ _ _ _ offset
      (min ((entries.flatMap (·.file.contents)).length - offset)
        (min requestedBytes source.maximumReadBytes)) [] tiled segments_healthy (by omega)
    simp only [crossed]
    rw [if_neg]
    · exact ⟨_, rfl, rfl⟩
    · rw [List.isEmpty_iff]
      rintro rfl
      rw [List.length_nil] at length
      omega

def SegmentCatalog.Intact (content : Bytes) (catalog : SegmentCatalog) : Prop :=
  ∃ entries, catalog = .entries entries ∧ entries ≠ [] ∧
    content = entries.flatMap (·.file.contents) ∧
    ∀ entry ∈ entries, ∃ status, entry.Healthy status

theorem SegmentCatalog.Intact.unchanging {content : Bytes} {catalog : SegmentCatalog}
    (intact : catalog.Intact content) : catalog.Unchanging content := by
  obtain ⟨entries, rfl, -, rfl, healthy⟩ := intact
  exact Healthy.unchanging healthy

theorem SegmentedRecordingByteSource.follow_complete {source : SegmentedRecordingByteSource}
    {content : Bytes} {reads : List (SegmentCatalog × Nat)} {offset : Nat}
    (intact : ∀ read ∈ reads, read.1.Intact content)
    (fits : content.length ≤ Netstring.uint64Max) (inside : offset ≤ content.length) :
    ∃ followed, source.follow reads offset = some followed := by
  induction reads generalizing offset with
  | nil => exact ⟨_, rfl⟩
  | cons read reads ih =>
    obtain ⟨catalog, requestedBytes⟩ := read
    have whole := intact _ List.mem_cons_self
    obtain ⟨entries, same, nonempty, rfl, healthy⟩ := id whole
    dsimp only at same
    obtain ⟨result, returned, success⟩ := @read_complete source entries offset requestedBytes
      nonempty healthy fits inside
    rw [← same] at returned
    have exact := read_exact whole.unchanging returned success
    rw [follow]
    simp only [returned]
    rw [if_neg (by simp [success])]
    split
    · exact ⟨_, rfl⟩
    · obtain ⟨followed, later⟩ := ih
        (fun read member => intact read (List.mem_cons_of_mem _ member)) exact.inside
      simp only [later]
      exact ⟨_, rfl⟩

end VdrSuite.Media
