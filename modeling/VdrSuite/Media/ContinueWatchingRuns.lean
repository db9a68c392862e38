import VdrSuite.Media.ContinueWatching

/-! Revisions of continue-watching rows over whole runs: which calls keep them a fence against lost
updates. -/

set_option autoImplicit false

namespace VdrSuite.Media

open Library

def ContinueWatchingState.native (state : ContinueWatchingState) : Option (Bytes × Bytes × Bytes) :=
  if state.backendNativeId.isEmpty then none
  else some (state.actorId, state.backendId, state.backendNativeId)

theorem ContinueWatchingState.columns_of_native {state : ContinueWatchingState}
    {actorId backendId backendNativeId : Bytes}
    (named : state.native = some (actorId, backendId, backendNativeId)) :
    state.actorId = actorId ∧ state.backendId = backendId ∧
      state.backendNativeId = backendNativeId := by
  unfold native at named
  split at named
  · cases named
  · simpa only [Option.some.injEq, Prod.mk.injEq] using named

/-- One row for each recording and for each native id, and revisions that count from one. -/
structure WatchValid (table : WatchTable) : Prop where
  keyed : Table.Keyed ContinueWatchingState.key table
  natives : Table.Unique ContinueWatchingState.native table
  revisions : ∀ row ∈ table, 1 ≤ row.revision ∧ row.revision ≤ int64Max

variable {table : WatchTable}

theorem watchValid_nil : WatchValid [] :=
  { keyed := List.nodup_nil
    natives := Table.unique_nil _
    revisions := by simp }

theorem WatchValid.eq_of_key (valid : WatchValid table) {first second : ContinueWatchingState}
    (firstMember : first ∈ table) (secondMember : second ∈ table) (same : first.key = second.key) :
    first = second :=
  List.inj_on_of_nodup_map valid.keyed firstMember secondMember same

theorem mem_delete {selected : ContinueWatchingState → Bool} {row : ContinueWatchingState} :
    row ∈ Table.delete selected table ↔ row ∈ table ∧ selected row = false := by
  simp [Table.delete]

theorem WatchValid.delete (valid : WatchValid table) (selected : ContinueWatchingState → Bool) :
    WatchValid (Table.delete selected table) where
  keyed := Table.keyed_delete _ selected valid.keyed
  natives := by
    intro first firstMember second secondMember
    exact valid.natives first ((mem_delete).mp firstMember).1 second ((mem_delete).mp secondMember).1
  revisions := fun row member => valid.revisions row ((mem_delete).mp member).1

theorem nextRevision_bounds (revision : Nat) (positive : 1 ≤ revision) :
    1 ≤ nextRevision revision ∧ nextRevision revision ≤ int64Max := by
  unfold nextRevision int64Max
  omega

theorem one_revision : 1 ≤ 1 ∧ 1 ≤ int64Max := by decide

/-! ## Recording a position -/

namespace ProgressUpsert

variable (upsert : ProgressUpsert)

theorem native_raised (filled : upsert.valid = true) (now : Bytes) (row : ContinueWatchingState) :
    (upsert.raised now row).native =
      some (row.actorId, row.backendId, upsert.backendNativeId) := by
  simp only [valid, Bool.and_eq_true, Bool.not_eq_true'] at filled
  simp [ContinueWatchingState.native, raised, filled.1.1.2]

theorem native_inserted (filled : upsert.valid = true) (now : Bytes) :
    (upsert.inserted now).native =
      some (upsert.actorId, upsert.backendId, upsert.backendNativeId) := by
  simp only [valid, Bool.and_eq_true, Bool.not_eq_true'] at filled
  simp [ContinueWatchingState.native, inserted, filled.1.1.2]

theorem key_of_native {row : ContinueWatchingState}
    (member : row ∈ Table.delete upsert.supersedes table)
    (native : row.native = some (upsert.actorId, upsert.backendId, upsert.backendNativeId)) :
    row.key = upsert.key := by
  have kept := ((mem_delete).mp member).2
  obtain ⟨actor, backend, same⟩ := row.columns_of_native native
  simp only [supersedes, actor, backend, same, beq_self_eq_true, Bool.true_and,
    bne_eq_false_iff_eq] at kept
  rw [ContinueWatchingState.key, key, actor, backend, kept]

def updated (now : Bytes) (row : ContinueWatchingState) : ContinueWatchingState :=
  if row.key == upsert.key && row.lastOperationId != upsert.operationId then upsert.raised now row
  else row

theorem key_of_updated (now : Bytes) {row : ContinueWatchingState}
    (member : row ∈ Table.delete upsert.supersedes table)
    (native : (upsert.updated now row).native =
      some (upsert.actorId, upsert.backendId, upsert.backendNativeId)) :
    row.key = upsert.key := by
  unfold updated at native
  split at native
  · next chosen =>
    rw [Bool.and_eq_true, beq_iff_eq] at chosen
    exact chosen.1
  · exact upsert.key_of_native member native

theorem not_updated (filled : upsert.valid = true) (now : Bytes) {row : ContinueWatchingState}
    {value : Bytes × Bytes × Bytes}
    (other : value ≠ (upsert.actorId, upsert.backendId, upsert.backendNativeId))
    (native : (upsert.updated now row).native = some value) : upsert.updated now row = row := by
  unfold updated at native ⊢
  split
  · next chosen =>
    rw [if_pos chosen, upsert.native_raised filled] at native
    rw [Bool.and_eq_true, beq_iff_eq] at chosen
    obtain ⟨actor, backend, -⟩ := Prod.mk.inj chosen.1 |>.imp_right Prod.mk.inj
    rw [actor, backend] at native
    exact absurd (Option.some.inj native).symm other
  · rfl

theorem written_cases (now : Bytes) (rows : WatchTable) {row : ContinueWatchingState}
    (member : row ∈ upsert.written now rows) :
    row ∈ rows ∨
    (∃ old ∈ rows, old.key = upsert.key ∧ old.lastOperationId ≠ upsert.operationId ∧
      row = upsert.raised now old) ∨
    ((∀ other ∈ rows, other.key ≠ upsert.key) ∧ row = upsert.inserted now) := by
  unfold written at member
  split at member
  · obtain ⟨old, present, rfl⟩ := List.mem_map.mp member
    split
    · next chosen =>
      rw [Bool.and_eq_true, beq_iff_eq, bne_iff_ne] at chosen
      exact .inr (.inl ⟨old, present, chosen.1, chosen.2, rfl⟩)
    · exact .inl present
  · next absent =>
    obtain old | fresh := List.mem_append.mp member
    · exact .inl old
    · refine .inr (.inr ⟨?_, List.mem_singleton.mp fresh⟩)
      rw [Bool.not_eq_true, Option.isSome_eq_false_iff, Option.isNone_iff_eq_none,
        Table.lookup_eq_none_iff] at absent
      intro other present same
      exact absent (same ▸ List.mem_map_of_mem present)

theorem written_valid (filled : upsert.valid = true) (now : Bytes) (valid : WatchValid table) :
    WatchValid (upsert.written now (Table.delete upsert.supersedes table)) where
  keyed := by
    unfold written
    split
    · have remaining := valid.delete upsert.supersedes
      refine Table.keyed_update _ ?_ remaining.keyed
      intro row chosen
      rfl
    · next absent =>
      refine Table.keyed_append_new _ (valid.delete upsert.supersedes).keyed ?_
      rw [Bool.not_eq_true, Option.isSome_eq_false_iff, Option.isNone_iff_eq_none] at absent
      exact absent
  natives := by
    have remaining := valid.delete upsert.supersedes
    unfold written
    split
    · intro _ firstImage _ secondImage value firstNative secondNative
      obtain ⟨first, firstMember, rfl⟩ := List.mem_map.mp firstImage
      obtain ⟨second, secondMember, rfl⟩ := List.mem_map.mp secondImage
      change (upsert.updated now first).native = some value at firstNative
      change (upsert.updated now second).native = some value at secondNative
      change upsert.updated now first = upsert.updated now second
      by_cases target : value = (upsert.actorId, upsert.backendId, upsert.backendNativeId)
      · -- both rows are the one of the recording
        subst target
        rw [remaining.eq_of_key firstMember secondMember
          ((upsert.key_of_updated now firstMember firstNative).trans
            (upsert.key_of_updated now secondMember secondNative).symm)]
      · have firstSame := upsert.not_updated filled now target firstNative
        have secondSame := upsert.not_updated filled now target secondNative
        rw [firstSame] at firstNative ⊢
        rw [secondSame] at secondNative ⊢
        exact remaining.natives first firstMember second secondMember value firstNative secondNative
    · next absent =>
      refine Table.unique_append remaining.natives ?_
      intro other member value native same
      rw [upsert.native_inserted filled] at native
      cases native
      rw [Bool.not_eq_true, Option.isSome_eq_false_iff, Option.isNone_iff_eq_none,
        Table.lookup_eq_none_iff] at absent
      exact absent (upsert.key_of_native member same ▸ List.mem_map_of_mem member)
  revisions := by
    intro row member
    have remaining := valid.delete upsert.supersedes
    rcases upsert.written_cases now _ member with old | ⟨old, present, -, -, rfl⟩ | ⟨-, rfl⟩
    · exact remaining.revisions row old
    · exact nextRevision_bounds _ (remaining.revisions old present).1
    · exact one_revision

end ProgressUpsert

/-! ## Conditional updates -/

namespace ProgressUpdate

variable (update : ProgressUpdate)

/-- A row that is found is one of the recording, or there is none and it has the native id. -/
theorem found_cases {existing : ContinueWatchingState} (found : update.found table = some existing) :
    existing ∈ table ∧ (existing.key = update.key ∨
      (∀ row ∈ table, row.key ≠ update.key) ∧ existing.actorId = update.actorId ∧
        existing.backendId = update.backendId ∧
        existing.backendNativeId = update.backendNativeId) := by
  rw [ProgressUpdate.found, Option.or_eq_some_iff] at found
  rcases found with own | ⟨absent, byNative⟩
  · have selected := List.find?_some own
    simp only [Bool.and_eq_true, beq_iff_eq] at selected
    obtain ⟨⟨actor, backend⟩, recording⟩ := selected
    refine ⟨List.mem_of_find?_eq_some own, .inl ?_⟩
    rw [ContinueWatchingState.key, key, actor, backend, recording]
  · have selected := List.find?_some byNative
    simp only [Bool.and_eq_true, beq_iff_eq] at selected
    refine ⟨List.mem_of_find?_eq_some byNative, .inr ⟨?_, selected.1.1, selected.1.2, selected.2⟩⟩
    intro row member same
    obtain ⟨actor, rest⟩ := Prod.mk.inj same
    obtain ⟨backend, recording⟩ := Prod.mk.inj rest
    have other := List.find?_eq_none.mp absent row member
    rw [actor, backend, recording] at other
    simp at other

theorem key_ne_of_not_found (absent : update.found table = none) :
    (∀ row ∈ table, row.key ≠ update.key) ∧
      ∀ row ∈ table, row.actorId = update.actorId → row.backendId = update.backendId →
        row.backendNativeId ≠ update.backendNativeId := by
  rw [ProgressUpdate.found, Option.or_eq_none_iff] at absent
  constructor
  · intro row member same
    obtain ⟨actor, rest⟩ := Prod.mk.inj same
    obtain ⟨backend, recording⟩ := Prod.mk.inj rest
    have other := List.find?_eq_none.mp absent.1 row member
    rw [actor, backend, recording] at other
    simp at other
  · intro row member actor backend native
    have other := List.find?_eq_none.mp absent.2 row member
    rw [actor, backend, native] at other
    simp at other

theorem native_filled (filled : update.valid = true) : update.backendNativeId.isEmpty = false := by
  simp only [valid, Bool.and_eq_true, Bool.not_eq_true'] at filled
  exact filled.1.1.1.1.2

/-- The `UPDATE` changes the row that was found and no other. -/
theorem updateRow_found (filled : update.valid = true) (valid : WatchValid table)
    {existing : ContinueWatchingState} (found : update.found table = some existing) {now : Bytes}
    {next : WatchTable}
    (done : update.updateRow (cString existing.recordingId) now table = some next) :
    next = table.map (fun row => if row = existing then update.moved now row else row) ∧
      (existing.revision : Int) = update.expectedRevision ∧
      existing.actorId = update.actorId ∧ existing.backendId = update.backendId ∧
      ∀ row ∈ table, row ≠ existing → row.key ≠ update.key := by
  unfold updateRow at done
  split at done
  · next allowed =>
    cases done
    obtain ⟨one, free⟩ := allowed
    have free : ∀ row ∈ table, update.selects (cString existing.recordingId) row = false →
        row.key ≠ update.key := by
      intro row member other
      have kept := List.all_eq_true.mp free row (List.mem_filter.mpr ⟨member, by rw [other]; rfl⟩)
      exact bne_iff_ne.mp kept
    obtain ⟨member, named⟩ := update.found_cases found
    have only : ∀ row ∈ table, update.selects (cString existing.recordingId) row = true →
        row = existing := by
      intro row rowMember chosen
      have selected := chosen
      simp only [selects, Bool.and_eq_true, beq_iff_eq] at selected
      obtain ⟨⟨⟨⟨actor, backend⟩, recording⟩, native⟩, -⟩ := selected
      rcases named with own | ⟨-, existingActor, existingBackend, existingNative⟩
      · -- the recording's own row is itself selected, or its key would be taken
        cases self : update.selects (cString existing.recordingId) existing with
        | false => exact absurd own (free existing member self)
        | true =>
          simp only [selects, Bool.and_eq_true, beq_iff_eq] at self
          refine valid.eq_of_key rowMember member ?_
          rw [ContinueWatchingState.key, ContinueWatchingState.key, actor, backend, recording,
            self.1.1.1.1, self.1.1.1.2, ← self.1.1.2]
      · refine valid.natives row rowMember existing member
          (update.actorId, update.backendId, update.backendNativeId) ?_ ?_
        · rw [ContinueWatchingState.native, native, update.native_filled filled, actor, backend]
          rfl
        · rw [ContinueWatchingState.native, existingNative, update.native_filled filled,
            existingActor, existingBackend]
          rfl
    obtain ⟨chosen, chosenMember, selected⟩ := List.countP_pos_iff.mp (one ▸ Nat.one_pos)
    have isExisting := only chosen chosenMember selected
    subst isExisting
    have conditions := selected
    simp only [selects, Bool.and_eq_true, beq_iff_eq] at conditions
    refine ⟨?_, conditions.2, conditions.1.1.1.1, conditions.1.1.1.2, ?_⟩
    · refine List.map_congr_left fun row rowMember => ?_
      by_cases same : row = chosen
      · rw [if_pos same, same, if_pos selected]
      · rw [if_neg same, if_neg fun picked => same (only row rowMember picked)]
    · intro row rowMember different
      refine free row rowMember (Bool.eq_false_iff.mpr fun picked => ?_)
      exact different (only row rowMember picked)
  · cases done

inductive Applied (now : Bytes) (table : WatchTable) : WatchTable → Prop
  | inserted (absent : update.found table = none) (expected : update.expectedRevision = 0) :
      Applied now table (table ++ [update.inserted now])
  | moved (existing : ContinueWatchingState) (found : update.found table = some existing)
      (expected : (existing.revision : Int) = update.expectedRevision)
      (small : existing.revision < int64Max) (actor : existing.actorId = update.actorId)
      (backend : existing.backendId = update.backendId)
      (free : ∀ row ∈ table, row ≠ existing → row.key ≠ update.key) :
      Applied now table
        (table.map fun row => if row = existing then update.moved now row else row)

theorem updateConditional_cases (valid : WatchValid table) (environment : WatchEnvironment) :
    ((updateConditional environment update table).1.status ≠ .applied ∧
      (updateConditional environment update table).2 = table) ∨
    ((updateConditional environment update table).1.status = .applied ∧ update.valid = true ∧
      update.Applied environment.now table (updateConditional environment update table).2) := by
  unfold updateConditional
  split
  · exact .inl ⟨nofun, rfl⟩
  · next filled =>
    rw [Bool.not_eq_false] at filled
    split
    · exact .inl ⟨nofun, rfl⟩
    · cases looked : update.found table with
      | none =>
        dsimp only
        split
        · exact .inl ⟨nofun, rfl⟩
        · next expected =>
          split
          · exact .inl ⟨nofun, rfl⟩
          · next next done =>
            split
            · exact .inl ⟨nofun, rfl⟩
            · unfold insertRow at done
              split at done
              · cases done
              · cases done
                exact .inr ⟨rfl, filled, .inserted looked (not_not.mp expected)⟩
      | some existing =>
        dsimp only
        split
        · exact .inl ⟨nofun, rfl⟩
        · split
          · refine .inl ⟨?_, rfl⟩
            dsimp only
            split
            · nofun
            · nofun
          · split
            · exact .inl ⟨nofun, rfl⟩
            · next fresh =>
              rw [not_or, not_not] at fresh
              split
              · exact .inl ⟨nofun, rfl⟩
              · next next done =>
                split
                · exact .inl ⟨nofun, rfl⟩
                · obtain ⟨rfl, expected, actor, backend, free⟩ :=
                    update.updateRow_found filled valid looked done
                  have member := (update.found_cases looked).1
                  have small : existing.revision < int64Max :=
                    lt_of_le_of_ne (valid.revisions existing member).2 fresh.2
                  exact .inr ⟨rfl, filled,
                    .moved existing looked expected small actor backend free⟩

variable {update}

theorem key_moved {existing : ContinueWatchingState} (now : Bytes)
    (actor : existing.actorId = update.actorId) (backend : existing.backendId = update.backendId) :
    (update.moved now existing).key = update.key := by
  rw [ContinueWatchingState.key, key, moved, actor, backend]

theorem Applied.row {now : Bytes} {next : WatchTable} (applied : update.Applied now table next) :
    ∃ row ∈ next, row.key = update.key ∧ (row.revision : Int) = update.expectedRevision + 1 := by
  cases applied with
  | inserted absent expected =>
    refine ⟨update.inserted now, by simp, rfl, ?_⟩
    rw [expected]
    rfl
  | moved existing found expected small actor backend free =>
    refine ⟨update.moved now existing, ?_, key_moved now actor backend, ?_⟩
    · refine List.mem_map.mpr ⟨existing, (update.found_cases found).1, if_pos rfl⟩
    · have raised : (update.moved now existing).revision = existing.revision + 1 := by
        change nextRevision existing.revision = _
        unfold nextRevision
        omega
      rw [raised, ← expected]
      rfl

theorem Applied.valid (filled : update.valid = true) {now : Bytes} {next : WatchTable}
    (valid : WatchValid table) (applied : update.Applied now table next) : WatchValid next := by
  have target := update.native_filled filled
  cases applied with
  | inserted absent expected =>
    obtain ⟨noKey, noNative⟩ := update.key_ne_of_not_found absent
    refine ⟨?_, ?_, ?_⟩
    · refine Table.keyed_append_new _ valid.keyed ((Table.lookup_eq_none_iff _).mpr ?_)
      intro taken
      obtain ⟨row, member, same⟩ := List.mem_map.mp taken
      exact noKey row member same
    · refine Table.unique_append valid.natives ?_
      intro other member value native same
      have named : (update.inserted now).native =
          some (update.actorId, update.backendId, update.backendNativeId) := by
        rw [ContinueWatchingState.native, ProgressUpdate.inserted, target]
        rfl
      rw [named] at native
      cases native
      obtain ⟨actor, backend, taken⟩ := other.columns_of_native same
      exact noNative other member actor backend taken
    · intro row member
      obtain old | fresh := List.mem_append.mp member
      · exact valid.revisions row old
      · exact List.mem_singleton.mp fresh ▸ one_revision
  | moved existing found expected small actor backend free =>
    refine ⟨?_, ?_, ?_⟩
    · unfold Table.Keyed
      rw [List.map_map]
      refine List.Nodup.map_on ?_ (List.Nodup.of_map _ valid.keyed)
      intro first firstMember second secondMember same
      rw [Function.comp_apply, Function.comp_apply] at same
      by_cases isFirst : first = existing
      · by_cases isSecond : second = existing
        · rw [isFirst, isSecond]
        · rw [if_pos isFirst, if_neg isSecond, isFirst, key_moved now actor backend] at same
          exact absurd same.symm (free second secondMember isSecond)
      · by_cases isSecond : second = existing
        · rw [if_neg isFirst, if_pos isSecond, isSecond, key_moved now actor backend] at same
          exact absurd same (free first firstMember isFirst)
        · rw [if_neg isFirst, if_neg isSecond] at same
          exact valid.eq_of_key firstMember secondMember same
    · refine Table.unique_map valid.natives fun row member => ?_
      split
      · rfl
      · rfl
    · intro row member
      obtain ⟨old, oldMember, rfl⟩ := List.mem_map.mp member
      split
      · exact nextRevision_bounds _ (valid.revisions old oldMember).1
      · exact valid.revisions old oldMember

end ProgressUpdate

/-! ## Steps -/

theorem watchStep_valid (valid : WatchValid table) (request : WatchRequest) :
    WatchValid (watchStep table request).1 := by
  obtain ⟨environment, call⟩ := request
  cases call with
  | upsert request =>
    simp only [watchStep, upsert]
    split
    · exact valid
    · next filled =>
      split
      · exact valid
      · split
        · exact valid.delete request.supersedes
        · exact request.written_valid (eq_true_of_ne_false filled) environment.now valid
  | updateConditional request =>
    rcases request.updateConditional_cases valid environment with ⟨-, same⟩ | ⟨-, filled, applied⟩
    · change WatchValid (updateConditional environment request table).2
      rw [same]
      exact valid
    · exact applied.valid filled valid
  | clear request =>
    simp only [watchStep, clear]
    split
    · exact valid
    · split
      · exact valid
      · exact valid.delete request.selects

/-! ## Runs that keep their revisions -/

abbrev WatchKey : Type := Bytes × Bytes × Bytes

def Held (start : WatchTable) (earlier : List WatchRequest) (key : WatchKey) (revision : Nat) : Prop :=
  ∃ before after, earlier = before ++ after ∧
    ∃ row ∈ Run.final watchStep start before, row.key = key ∧ row.revision = revision

/-- A call takes no revision back: a recording that has no row gets one only above all the revisions
that it has had, no revision overflows, and no row is lost to an upsert that fails. -/
def KeepsRevisions (held : WatchKey → Nat → Prop) (table : WatchTable) : WatchRequest → Prop
  | (environment, .upsert request) =>
    request.valid = true → environment.carriedOut 0 = true →
      (environment.carriedOut 1 = false → ∀ row ∈ table, request.supersedes row = false) ∧
      (environment.carriedOut 1 = true →
        ((∀ row ∈ table, row.key ≠ request.key) → ∀ revision, ¬ held request.key revision) ∧
        ∀ row ∈ table, row.key = request.key → row.lastOperationId ≠ request.operationId →
          row.revision < int64Max)
  | (_, .updateConditional request) =>
    request.valid = true → (∀ row ∈ table, row.key ≠ request.key) →
      (((request.found table).map (·.revision)).getD 0 : Int) = request.expectedRevision →
      ∀ revision, held request.key revision → (revision : Int) ≤ request.expectedRevision
  | (_, .clear _) => True

def KeepsRevisionsThroughout (start : WatchTable) (requests : List WatchRequest) : Prop :=
  ∀ earlier request later, requests = earlier ++ request :: later →
    KeepsRevisions (Held start earlier) (Run.final watchStep start earlier) request

theorem ProgressUpdate.applied_grows (update : ProgressUpdate) {held : WatchKey → Nat → Prop}
    (current : ∀ row ∈ table, ∀ revision, held row.key revision → revision ≤ row.revision)
    (kept : (∀ row ∈ table, row.key ≠ update.key) →
      (((update.found table).map (·.revision)).getD 0 : Int) = update.expectedRevision →
      ∀ revision, held update.key revision → (revision : Int) ≤ update.expectedRevision)
    {now : Bytes} {next : WatchTable} (applied : update.Applied now table next)
    {row : ContinueWatchingState} (member : row ∈ next) :
    row ∈ table ∨ ∀ revision, held row.key revision → revision < row.revision := by
  cases applied with
  | inserted absent expected =>
    obtain old | fresh := List.mem_append.mp member
    · exact .inl old
    · cases List.mem_singleton.mp fresh
      right
      intro revision before
      have bounded := kept (update.key_ne_of_not_found absent).1
        (by rw [absent, expected]; rfl) revision before
      change revision < 1
      omega
  | moved existing found expected small actor backend free =>
    obtain ⟨old, oldMember, rfl⟩ := List.mem_map.mp member
    split
    · next isExisting =>
      subst isExisting
      right
      intro revision before
      rw [key_moved now actor backend] at before
      have bounded : revision ≤ old.revision := by
        by_cases own : old.key = update.key
        · exact current old oldMember revision (own.symm ▸ before)
        · have absent : ∀ row ∈ table, row.key ≠ update.key := by
            intro row rowMember
            by_cases same : row = old
            · exact same.symm ▸ own
            · exact free row rowMember same
          have bound := kept absent (by rw [found]; exact expected) revision before
          omega
      change revision < nextRevision old.revision
      unfold nextRevision
      omega
    · exact .inl oldMember

/-- Every row after a call was there before, or its revision is above all that its recording had. -/
theorem watchStep_grows (valid : WatchValid table) {held : WatchKey → Nat → Prop}
    (current : ∀ row ∈ table, ∀ revision, held row.key revision → revision ≤ row.revision)
    {request : WatchRequest} (kept : KeepsRevisions held table request) :
    ∀ row ∈ (watchStep table request).1,
      row ∈ table ∨ ∀ revision, held row.key revision → revision < row.revision := by
  obtain ⟨environment, call⟩ := request
  intro row member
  cases call with
  | upsert request =>
    simp only [watchStep, upsert] at member
    split at member
    · exact .inl member
    · next filled =>
      split at member
      · exact .inl member
      · next first =>
        split at member
        · exact .inl ((mem_delete).mp member).1
        · next second =>
          rw [Bool.not_eq_false] at filled first second
          obtain ⟨fresh, small⟩ := (kept filled first).2 second
          rcases request.written_cases environment.now _ member with
            old | ⟨old, present, own, other, rfl⟩ | ⟨absent, rfl⟩
          · exact .inl ((mem_delete).mp old).1
          · right
            intro revision before
            have member := ((mem_delete).mp present).1
            have bounded := current old member revision before
            have raised : (request.raised environment.now old).revision = old.revision + 1 := by
              change nextRevision old.revision = _
              have room := small old member own other
              unfold nextRevision
              omega
            omega
          · right
            intro revision before
            refine absurd before (fresh ?_ revision)
            intro row member same
            refine absent row ((mem_delete).mpr ⟨member, ?_⟩) same
            obtain ⟨-, rest⟩ := Prod.mk.inj same
            simp [ProgressUpsert.supersedes, (Prod.mk.inj rest).2]
  | updateConditional request =>
    rcases request.updateConditional_cases valid environment with ⟨-, same⟩ | ⟨-, filled, applied⟩
    · exact .inl (same ▸ member)
    · change row ∈ (updateConditional environment request table).2 at member
      exact request.applied_grows current (kept filled) applied member
  | clear request =>
    simp only [watchStep, clear] at member
    split at member
    · exact .inl member
    · split at member
      · exact .inl member
      · exact .inl ((mem_delete).mp member).1

theorem watchStep_failed (valid : WatchValid table) {held : WatchKey → Nat → Prop}
    {request : WatchRequest} (kept : KeepsRevisions held table request)
    (failed : (watchStep table request).2.failed = true) : (watchStep table request).1 = table := by
  obtain ⟨environment, call⟩ := request
  cases call with
  | upsert request =>
    simp only [watchStep, upsert] at failed ⊢
    split
    · rfl
    · next filled =>
      rw [if_neg filled] at failed
      split
      · rfl
      · next first =>
        rw [if_neg first] at failed
        rw [Bool.not_eq_false] at filled first
        split
        · next second =>
          refine List.filter_eq_self.mpr fun row member => ?_
          rw [(kept filled first).1 second row member]
          rfl
        · next second =>
          rw [if_neg second] at failed
          cases failed
  | updateConditional request =>
    rcases request.updateConditional_cases valid environment with ⟨-, same⟩ | ⟨status, -, -⟩
    · exact same
    · simp only [watchStep, WatchAnswer.failed, status] at failed
      cases failed
  | clear request =>
    simp only [watchStep, clear] at failed ⊢
    split
    · rfl
    · next named =>
      rw [if_neg named] at failed
      split
      · rfl
      · next carriedOut =>
        rw [if_neg carriedOut] at failed
        cases failed

/-! ## Histories -/

variable {start : WatchTable} {requests : List WatchRequest}

theorem final_valid (valid : WatchValid start) (requests : List WatchRequest) :
    WatchValid (Run.final watchStep start requests) :=
  Run.final_preserves watchStep WatchValid (fun _ request valid => watchStep_valid valid request)
    start valid requests

theorem held_of_mem {earlier : List WatchRequest} (later : List WatchRequest)
    {row : ContinueWatchingState} (member : row ∈ Run.final watchStep start earlier) :
    Held start (earlier ++ later) row.key row.revision :=
  ⟨earlier, later, rfl, row, member, rfl, rfl⟩

theorem held_le (valid : WatchValid start) (kept : KeepsRevisionsThroughout start requests)
    {earlier later : List WatchRequest} (split : requests = earlier ++ later) :
    ∀ row ∈ Run.final watchStep start earlier, ∀ revision,
      Held start earlier row.key revision → revision ≤ row.revision := by
  induction earlier using List.reverseRecOn generalizing later with
  | nil =>
    rintro row member revision ⟨before, after, parts, held, heldMember, named, rfl⟩
    obtain ⟨rfl, rfl⟩ := List.append_eq_nil_iff.mp parts.symm
    rw [valid.eq_of_key heldMember member named]
  | append_singleton earlier request ih =>
    rintro row member revision ⟨before, after, parts, held, heldMember, named, rfl⟩
    have split : requests = earlier ++ request :: later := by simpa using split
    obtain rfl | ⟨rest, last, rfl⟩ := List.eq_nil_or_concat' after
    · rw [List.append_nil] at parts
      subst parts
      rw [(final_valid valid _).eq_of_key heldMember member named]
    · obtain ⟨sameRest, -⟩ := List.append_inj' (parts.trans (List.append_assoc _ _ _).symm) rfl
      have before := held_of_mem rest heldMember
      rw [← sameRest, named] at before
      rw [Run.final_concat] at member
      have grown := watchStep_grows (final_valid valid earlier) (ih split)
        (kept earlier request later split) row member
      rcases grown with old | above
      · exact ih split row old _ before
      · exact Nat.le_of_lt (above _ before)

/-- Between two times with a row of one recording the revision has grown, or the row is untouched. -/
theorem revisions_increase (valid : WatchValid start)
    (kept : KeepsRevisionsThroughout start requests) {before middle after : List WatchRequest}
    (split : requests = before ++ middle ++ after) {row later : ContinueWatchingState}
    (rowMember : row ∈ Run.final watchStep start before)
    (laterMember : later ∈ Run.final watchStep start (before ++ middle))
    (named : later.key = row.key) :
    row.revision ≤ later.revision ∧ (later.revision = row.revision →
      ∀ first second, middle = first ++ second → row ∈ Run.final watchStep start (before ++ first)) := by
  induction middle using List.reverseRecOn generalizing later after with
  | nil =>
    rw [List.append_nil] at laterMember
    have same := (final_valid valid before).eq_of_key laterMember rowMember named
    subst same
    refine ⟨Nat.le_refl _, fun _ first second parts => ?_⟩
    obtain ⟨rfl, -⟩ := List.append_eq_nil_iff.mp parts.symm
    rwa [List.append_nil]
  | append_singleton middle request ih =>
    have splitHere : requests = (before ++ middle) ++ request :: after := by simpa using split
    rw [← List.append_assoc, Run.final_concat] at laterMember
    have reached := final_valid valid (before ++ middle)
    have grown := watchStep_grows reached (held_le valid kept splitHere)
      (kept (before ++ middle) request after splitHere) later laterMember
    rcases grown with old | above
    · obtain ⟨grows, untouched⟩ := ih (by simpa using splitHere) old named
      refine ⟨grows, fun equal first second parts => ?_⟩
      obtain rfl | ⟨rest, last, rfl⟩ := List.eq_nil_or_concat' second
      · rw [List.append_nil] at parts
        subst parts
        have still := untouched equal middle [] (List.append_nil _).symm
        rw [← List.append_assoc, Run.final_concat, ← reached.eq_of_key old still named]
        exact laterMember
      · obtain ⟨sameRest, -⟩ := List.append_inj' (parts.trans (List.append_assoc _ _ _).symm) rfl
        exact untouched equal first rest sameRest
    · have larger := above row.revision (named ▸ held_of_mem middle rowMember)
      exact ⟨Nat.le_of_lt larger, fun equal => absurd equal (Nat.ne_of_gt larger)⟩

def observedRevision (key : WatchKey) (table : WatchTable) : Nat :=
  ((Table.lookup ContinueWatchingState.key key table).map (·.revision)).getD 0

def ProgressUpdate.target (update : ProgressUpdate) (table : WatchTable) : WatchKey :=
  ((update.found table).map (·.key)).getD update.key

theorem WatchValid.lookup_of_mem (valid : WatchValid table) {row : ContinueWatchingState}
    (member : row ∈ table) : Table.lookup ContinueWatchingState.key row.key table = some row :=
  (Table.mem_iff_lookup _ valid.keyed row).mp member

theorem observedRevision_cases (valid : WatchValid table) (key : WatchKey) :
    (Table.lookup ContinueWatchingState.key key table = none ∧ observedRevision key table = 0) ∨
    ∃ row ∈ table, row.key = key ∧ Table.lookup ContinueWatchingState.key key table = some row ∧
      observedRevision key table = row.revision ∧ 1 ≤ row.revision := by
  cases found : Table.lookup ContinueWatchingState.key key table with
  | none => exact .inl ⟨rfl, by rw [observedRevision, found]; rfl⟩
  | some row =>
    have member := Table.mem_of_lookup _ found
    refine .inr ⟨row, member, Table.key_of_lookup _ found, rfl, ?_, (valid.revisions row member).1⟩
    rw [observedRevision, found]
    rfl

theorem applied_untouched (valid : WatchValid start)
    (kept : KeepsRevisionsThroughout start requests) {before middle after : List WatchRequest}
    {environment : WatchEnvironment} {update : ProgressUpdate}
    (split : requests = before ++ middle ++ (environment, .updateConditional update) :: after)
    (applied : (updateConditional environment update
      (Run.final watchStep start (before ++ middle))).1.status = .applied)
    (read : (observedRevision (update.target (Run.final watchStep start (before ++ middle)))
      (Run.final watchStep start before) : Int) = update.expectedRevision)
    {first second : List WatchRequest} (parts : middle = first ++ second) :
    Table.lookup ContinueWatchingState.key
        (update.target (Run.final watchStep start (before ++ middle)))
        (Run.final watchStep start (before ++ first)) =
      Table.lookup ContinueWatchingState.key
        (update.target (Run.final watchStep start (before ++ middle)))
        (Run.final watchStep start before) := by
  have reached := final_valid valid (before ++ middle)
  have earlierValid := final_valid valid before
  have splitHere : requests = (before ++ middle) ++ (environment, .updateConditional update) :: after :=
    split
  obtain ⟨other, -⟩ | ⟨-, filled, outcome⟩ := update.updateConditional_cases reached environment
  · exact absurd applied other
  · generalize (updateConditional environment update _).2 = next at outcome
    cases outcome with
    | inserted absent expected =>
      have isTarget : update.target (Run.final watchStep start (before ++ middle)) = update.key := by
        rw [ProgressUpdate.target, absent]
        rfl
      rw [isTarget] at read ⊢
      have never : ∀ revision, Held start (before ++ middle) update.key revision → revision = 0 := by
        intro revision held
        have bound := kept (before ++ middle) _ after splitHere filled
          (update.key_ne_of_not_found absent).1 (by rw [absent, expected]; rfl) revision held
        omega
      rcases observedRevision_cases earlierValid update.key with
        ⟨none, -⟩ | ⟨row, -, -, -, observed, positive⟩
      · rw [none]
        rcases observedRevision_cases (final_valid valid (before ++ first)) update.key with
          ⟨stillNone, -⟩ | ⟨row, member, named, -, -, positive⟩
        · exact stillNone
        · have held := held_of_mem second member
          rw [List.append_assoc, ← parts, named] at held
          have zero := never row.revision held
          omega
      · omega
    | moved existing found expected small actor backend free =>
      have member := (update.found_cases found).1
      have isTarget : update.target (Run.final watchStep start (before ++ middle)) = existing.key := by
        rw [ProgressUpdate.target, found]
        rfl
      rw [isTarget] at read ⊢
      have positive := (reached.revisions existing member).1
      rcases observedRevision_cases earlierValid existing.key with
        ⟨-, zero⟩ | ⟨row, rowMember, named, looked, observed, -⟩
      · omega
      · have untouched := (revisions_increase valid kept split rowMember member named.symm).2
          (by omega) first second parts
        rw [looked, ← named]
        exact (final_valid valid (before ++ first)).lookup_of_mem untouched

theorem repeated_unchanged (valid : WatchValid start)
    (kept : KeepsRevisionsThroughout start requests) {before middle after : List WatchRequest}
    {environment again : WatchEnvironment} {update : ProgressUpdate}
    (split : requests = before ++ (environment, .updateConditional update) :: middle ++
      (again, .updateConditional update) :: after)
    (applied : (updateConditional environment update
      (Run.final watchStep start before)).1.status = .applied) :
    (updateConditional again update (Run.final watchStep start
        (before ++ (environment, .updateConditional update) :: middle))).2 =
      Run.final watchStep start (before ++ (environment, .updateConditional update) :: middle) := by
  -- the recording has had a revision above the expected one since the first time
  have held : ∃ revision, Held start (before ++ (environment, .updateConditional update) :: middle)
      update.key revision ∧ (revision : Int) = update.expectedRevision + 1 := by
    obtain ⟨other, -⟩ | ⟨-, -, outcome⟩ :=
      update.updateConditional_cases (final_valid valid before) environment
    · exact absurd applied other
    · obtain ⟨row, member, named, revision⟩ := outcome.row
      refine ⟨row.revision, ?_, revision⟩
      have after : row ∈ Run.final watchStep start
          (before ++ [(environment, .updateConditional update)]) := by
        rw [Run.final_concat]
        exact member
      have held := held_of_mem middle after
      rwa [named, List.append_assoc] at held
  obtain ⟨revision, held, above⟩ := held
  have reached := final_valid valid (before ++ (environment, .updateConditional update) :: middle)
  have current := held_le valid kept split
  have admitted := kept _ _ _ split
  generalize Run.final watchStep start (before ++ (environment, .updateConditional update) :: middle) =
    state at reached current admitted ⊢
  obtain ⟨-, same⟩ | ⟨-, filled, outcome⟩ := update.updateConditional_cases reached again
  · exact same
  · generalize (updateConditional again update state).2 = next at outcome
    cases outcome with
    | inserted absent expected =>
      have bound := admitted filled (update.key_ne_of_not_found absent).1
        (by rw [absent, expected]; rfl) revision held
      omega
    | moved existing found expected small actor backend free =>
      have member := (update.found_cases found).1
      by_cases own : existing.key = update.key
      · have bound := current existing member revision (own.symm ▸ held)
        omega
      · have absent : ∀ row ∈ state, row.key ≠ update.key := by
          intro row rowMember
          by_cases same : row = existing
          · exact same.symm ▸ own
          · exact free row rowMember same
        have bound := admitted filled absent (by rw [found]; exact expected) revision held
        omega

/-! ## No lost update -/

structure NoLostUpdate (start : WatchTable) (requests : List WatchRequest) : Prop where
  oneRow : ∀ earlier later, requests = earlier ++ later →
    Table.Keyed ContinueWatchingState.key (Run.final watchStep start earlier) ∧
      Table.Unique ContinueWatchingState.native (Run.final watchStep start earlier)
  increasing : ∀ before middle after, requests = before ++ middle ++ after →
    ∀ row ∈ Run.final watchStep start before, ∀ later ∈ Run.final watchStep start (before ++ middle),
      later.key = row.key →
      row.revision ≤ later.revision ∧ (later.revision = row.revision →
        ∀ first second, middle = first ++ second →
          row ∈ Run.final watchStep start (before ++ first))
  conditional : ∀ before middle environment update after,
    requests = before ++ middle ++ (environment, .updateConditional update) :: after →
    (updateConditional environment update
      (Run.final watchStep start (before ++ middle))).1.status = .applied →
    (observedRevision (update.target (Run.final watchStep start (before ++ middle)))
      (Run.final watchStep start before) : Int) = update.expectedRevision →
    ∀ first second, middle = first ++ second →
      Table.lookup ContinueWatchingState.key
          (update.target (Run.final watchStep start (before ++ middle)))
          (Run.final watchStep start (before ++ first)) =
        Table.lookup ContinueWatchingState.key
          (update.target (Run.final watchStep start (before ++ middle)))
          (Run.final watchStep start before)
  repeated : ∀ before environment update middle again after,
    requests = before ++ (environment, .updateConditional update) :: middle ++
      (again, .updateConditional update) :: after →
    (updateConditional environment update
      (Run.final watchStep start before)).1.status = .applied →
    (updateConditional again update (Run.final watchStep start
        (before ++ (environment, .updateConditional update) :: middle))).2 =
      Run.final watchStep start (before ++ (environment, .updateConditional update) :: middle)
  failures : ∀ earlier request later, requests = earlier ++ request :: later →
    (watchStep (Run.final watchStep start earlier) request).2.failed = true →
    (watchStep (Run.final watchStep start earlier) request).1 = Run.final watchStep start earlier

def sampleUpsert (operationId : Bytes) : ProgressUpsert :=
  { actorId := text "actor"
    backendId := text "default"
    recordingId := text "r1"
    backendNativeId := text "n1"
    positionSeconds := 120
    operationId := operationId }

def sampleUpdate : ProgressUpdate :=
  { actorId := text "actor"
    backendId := text "default"
    recordingId := text "r1"
    backendNativeId := text "n1"
    positionSeconds := 300
    operationId := text "op-3"
    expectedRevision := 1 }

def sampleClear : ProgressClear :=
  { actorId := text "actor", backendId := text "default", recordingId := text "r1" }

/-- A position, a clear, another position, and an update that names the first position's revision. -/
def clearedRun : List WatchRequest :=
  [({ now := text "t1" }, .upsert (sampleUpsert (text "op-1"))),
    ({ now := text "t2" }, .clear sampleClear),
    ({ now := text "t3" }, .upsert (sampleUpsert (text "op-2"))),
    ({ now := text "t4" }, .updateConditional sampleUpdate)]

end VdrSuite.Media
