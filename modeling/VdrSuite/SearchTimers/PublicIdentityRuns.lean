import VdrSuite.SearchTimers.PublicIdentityProperties
import VdrSuite.Library.Run

/-! Public identities of search timers over a history of snapshots. -/

set_option autoImplicit false

namespace VdrSuite.SearchTimers

open Library

namespace IdentityStore

variable {store : IdentityStore}

/-! ## One step of a history -/

theorem reconcile_cases (valid : store.Valid) {call : SnapshotCall} (clean : call.Clean) :
    (reconcileAuthoritativeSnapshot store call = (store, none)) ∨
      ∃ ids, (reconcileAuthoritativeSnapshot store call).2 = some ids ∧
        Reconciled store (reconcileAuthoritativeSnapshot store call).1 call ids := by
  cases answer : (reconcileAuthoritativeSnapshot store call).2 with
  | none => exact .inl (Prod.ext (reconcile_eq_none answer) answer)
  | some ids => exact .inr ⟨ids, rfl, reconcile_spec valid clean (Prod.ext rfl answer)⟩

theorem valid_step {call : SnapshotCall} (clean : call.Clean) (valid : store.Valid) :
    (reconcileAuthoritativeSnapshot store call).1.Valid := by
  cases reconcile_cases valid clean with
  | inl failed => rw [failed]; exact valid
  | inr accepted =>
    obtain ⟨ids, -, reconciled⟩ := accepted
    exact reconciled.valid

theorem retired_step {call : SnapshotCall} (clean : call.Clean) (valid : store.Valid)
    {publicId : Bytes} (retired : store.Retired publicId) :
    (reconcileAuthoritativeSnapshot store call).1.Retired publicId := by
  cases reconcile_cases valid clean with
  | inl failed => rw [failed]; exact retired
  | inr accepted =>
    obtain ⟨ids, -, reconciled⟩ := accepted
    exact reconciled.remembered publicId retired

/-- A live public id stays with its native id exactly through the snapshots that observe it. -/
theorem live_step {call : SnapshotCall} (clean : call.Clean) (valid : store.Valid)
    {publicId backend native signature : Bytes}
    (live : store.Live publicId backend native signature) :
    ((reconcileAuthoritativeSnapshot store call).1.Live publicId backend native signature ∧
      ((reconcileAuthoritativeSnapshot store call).2.isSome → call.backend = backend →
        Observed call.observations native signature)) ∨
    ((reconcileAuthoritativeSnapshot store call).1.Retired publicId ∧
      (reconcileAuthoritativeSnapshot store call).2.isSome ∧ call.backend = backend ∧
        ¬ Observed call.observations native signature) := by
  cases reconcile_cases valid clean with
  | inl failed =>
    rw [failed]
    exact .inl ⟨live, fun accepted => by cases accepted⟩
  | inr accepted =>
    obtain ⟨ids, answer, reconciled⟩ := accepted
    by_cases own : call.backend = backend
    · subst own
      by_cases seen : Observed call.observations native signature
      · exact .inl ⟨reconciled.observed live seen, fun _ _ => seen⟩
      · exact .inr ⟨reconciled.withdrawn live seen, by rw [answer]; rfl, rfl, seen⟩
    · refine .inl ⟨⟨?_, ?_⟩, fun _ same => absurd same own⟩
      · exact reconciled.kept _ live.1 (Ne.symm own)
      · exact (reconciled.keptSignatures _ live.1 (Ne.symm own) signature).mpr live.2

/-! ## Histories -/

theorem valid_final {calls : List SnapshotCall} (clean : ∀ call ∈ calls, call.Clean)
    (valid : store.Valid) : (Run.final reconcileAuthoritativeSnapshot store calls).Valid :=
  Run.final_preserves_of_admits reconcileAuthoritativeSnapshot Valid
    (fun _ _ before admitted => valid_step admitted before) valid
    (Run.admits_of_forall reconcileAuthoritativeSnapshot clean)

theorem retired_final {calls : List SnapshotCall} (clean : ∀ call ∈ calls, call.Clean)
    (valid : store.Valid) {publicId : Bytes} (retired : store.Retired publicId) :
    (Run.final reconcileAuthoritativeSnapshot store calls).Retired publicId := by
  induction calls generalizing store with
  | nil => exact retired
  | cons call rest ih =>
    have first := clean call List.mem_cons_self
    exact ih (fun other member => clean other (List.mem_cons_of_mem call member))
      (valid_step first valid) (retired_step first valid retired)

def ObservedThroughout (backend native signature : Bytes)
    (entries : List (SnapshotCall × Option (List Bytes))) : Prop :=
  ∀ entry ∈ entries, entry.2.isSome → entry.1.backend = backend →
    Observed entry.1.observations native signature

theorem live_final {calls : List SnapshotCall} (clean : ∀ call ∈ calls, call.Clean)
    (valid : store.Valid) {publicId backend native signature : Bytes}
    (live : store.Live publicId backend native signature) :
    ((Run.final reconcileAuthoritativeSnapshot store calls).Live publicId backend native signature ∧
      ObservedThroughout backend native signature
        (Run.journal reconcileAuthoritativeSnapshot store calls)) ∨
    ((Run.final reconcileAuthoritativeSnapshot store calls).Retired publicId ∧
      ¬ ObservedThroughout backend native signature
        (Run.journal reconcileAuthoritativeSnapshot store calls)) := by
  induction calls generalizing store with
  | nil => exact .inl ⟨live, by intro entry member; cases member⟩
  | cons call rest ih =>
    have first := clean call List.mem_cons_self
    have restClean : ∀ other ∈ rest, other.Clean :=
      fun other member => clean other (List.mem_cons_of_mem call member)
    have nextValid := valid_step first valid
    rw [Run.final_cons, Run.journal]
    cases live_step first valid live with
    | inl stayed =>
      obtain ⟨nextLive, seen⟩ := stayed
      cases ih restClean nextValid nextLive with
      | inl last =>
        refine .inl ⟨last.1, ?_⟩
        intro entry member
        cases member with
        | head => exact seen
        | tail _ later => exact last.2 entry later
      | inr last =>
        refine .inr ⟨last.1, ?_⟩
        intro throughout
        exact last.2 fun entry member => throughout entry (List.mem_cons_of_mem _ member)
    | inr gone =>
      obtain ⟨retired, accepted, own, unseen⟩ := gone
      refine .inr ⟨retired_final restClean nextValid retired, ?_⟩
      intro throughout
      exact unseen (throughout _ List.mem_cons_self accepted own)

end IdentityStore

structure IdentitiesStable (start : IdentityStore) (calls : List SnapshotCall) : Prop where
  /-- Whenever a public id is live, it stands for the same native id and configuration. -/
  bound : ∀ earlier later rest, calls = earlier ++ later ++ rest →
    ∀ publicId backend native signature otherBackend otherNative otherSignature,
      (Run.final reconcileAuthoritativeSnapshot start earlier).Live publicId backend native
        signature →
      (Run.final reconcileAuthoritativeSnapshot start (earlier ++ later)).Live publicId otherBackend
        otherNative otherSignature →
      backend = otherBackend ∧ native = otherNative ∧ signature = otherSignature
  /-- A retired public id is neither resolved nor assigned again. -/
  retired : ∀ earlier later rest, calls = earlier ++ later ++ rest → ∀ publicId,
    (Run.final reconcileAuthoritativeSnapshot start earlier).Retired publicId →
    (∀ backend, resolveActiveNativeId
      (Run.final reconcileAuthoritativeSnapshot start (earlier ++ later)) backend publicId = none) ∧
    (∀ row ∈ (Run.final reconcileAuthoritativeSnapshot start (earlier ++ later)).identities,
      row.publicId ≠ publicId) ∧
    ∀ entry ∈ Run.journal reconcileAuthoritativeSnapshot
      (Run.final reconcileAuthoritativeSnapshot start earlier) later,
      ∀ ids, entry.2 = some ids → publicId ∉ ids
  /-- A live native id keeps its public id exactly if every accepted snapshot of its backend in
  between observes it with its fingerprint, and otherwise the public id is retired. -/
  kept : ∀ earlier later rest, calls = earlier ++ later ++ rest →
    ∀ publicId backend native signature,
      (Run.final reconcileAuthoritativeSnapshot start earlier).Live publicId backend native
        signature →
      ((Run.final reconcileAuthoritativeSnapshot start (earlier ++ later)).Live publicId backend
          native signature ↔
        IdentityStore.ObservedThroughout backend native signature
          (Run.journal reconcileAuthoritativeSnapshot
            (Run.final reconcileAuthoritativeSnapshot start earlier) later)) ∧
      ((Run.final reconcileAuthoritativeSnapshot start (earlier ++ later)).Retired publicId ↔
        ¬ IdentityStore.ObservedThroughout backend native signature
          (Run.journal reconcileAuthoritativeSnapshot
            (Run.final reconcileAuthoritativeSnapshot start earlier) later))
  /-- An accepted snapshot returns the one live public id of every observation, in their order. -/
  assigned : ∀ earlier call rest, calls = earlier ++ call :: rest → ∀ ids,
    (reconcileAuthoritativeSnapshot (Run.final reconcileAuthoritativeSnapshot start earlier) call).2 =
      some ids →
    List.Forall₂ (fun timer id =>
      (Run.final reconcileAuthoritativeSnapshot start (earlier ++ [call])).Live id call.backend
        timer.backendNativeId (fingerprint timer) ∧
      resolveActiveNativeId (Run.final reconcileAuthoritativeSnapshot start (earlier ++ [call]))
        call.backend id = some timer.backendNativeId ∧
      ∀ row ∈ (Run.final reconcileAuthoritativeSnapshot start (earlier ++ [call])).identities,
        row.backendId = call.backend → row.nativeId = timer.backendNativeId → row.publicId = id)
      call.observations ids
  /-- A snapshot of one backend leaves the identities of the others alone. -/
  others : ∀ earlier call rest, calls = earlier ++ call :: rest → ∀ row : IdentityRow,
    row.backendId ≠ call.backend →
    (row ∈ (Run.final reconcileAuthoritativeSnapshot start (earlier ++ [call])).identities ↔
      row ∈ (Run.final reconcileAuthoritativeSnapshot start earlier).identities) ∧
    ∀ signature, row ∈ (Run.final reconcileAuthoritativeSnapshot start earlier).identities →
      ((⟨row.publicId, signature⟩ ∈
          (Run.final reconcileAuthoritativeSnapshot start (earlier ++ [call])).signatures) ↔
        ⟨row.publicId, signature⟩ ∈
          (Run.final reconcileAuthoritativeSnapshot start earlier).signatures)
  failed : ∀ earlier call rest, calls = earlier ++ call :: rest →
    (reconcileAuthoritativeSnapshot (Run.final reconcileAuthoritativeSnapshot start earlier) call).2 =
      none →
    Run.final reconcileAuthoritativeSnapshot start (earlier ++ [call]) =
      Run.final reconcileAuthoritativeSnapshot start earlier

theorem exists_of_forall₂_right {Left Right : Type} {related : Left → Right → Prop}
    {left : List Left} {right : List Right} (all : List.Forall₂ related left right)
    {second : Right} (member : second ∈ right) : ∃ first ∈ left, related first second := by
  induction all with
  | nil => cases member
  | cons head _ ih =>
    cases member with
    | head => exact ⟨_, List.mem_cons_self, head⟩
    | tail _ later =>
      obtain ⟨first, listed, holds⟩ := ih later
      exact ⟨first, List.mem_cons_of_mem _ listed, holds⟩

namespace IdentityStore

variable {store : IdentityStore}

theorem retired_throughout {calls : List SnapshotCall} (clean : ∀ call ∈ calls, call.Clean)
    (valid : store.Valid) {publicId : Bytes} (retired : store.Retired publicId) :
    ∀ entry ∈ Run.journal reconcileAuthoritativeSnapshot store calls,
      ∀ ids, entry.2 = some ids → publicId ∉ ids := by
  induction calls generalizing store with
  | nil =>
    intro entry member
    cases member
  | cons call rest ih =>
    have first := clean call List.mem_cons_self
    intro entry member ids answer
    rw [Run.journal, List.mem_cons] at member
    cases member with
    | inl head =>
      subst head
      have reconciled := reconcile_spec valid first (Prod.ext rfl answer)
      intro assigned
      obtain ⟨timer, -, live⟩ := exists_of_forall₂_right reconciled.assigned assigned
      exact reconciled.valid.not_retired_of_live live (reconciled.remembered publicId retired)
    | inr later =>
      exact ih (fun other member => clean other (List.mem_cons_of_mem call member))
        (valid_step first valid) (retired_step first valid retired) entry later ids answer

end IdentityStore

theorem clean_parts {calls earlier later rest : List SnapshotCall}
    (clean : ∀ call ∈ calls, call.Clean) (split : calls = earlier ++ later ++ rest) :
    (∀ call ∈ earlier, call.Clean) ∧ (∀ call ∈ later, call.Clean) ∧ ∀ call ∈ rest, call.Clean := by
  subst split
  refine ⟨fun call member => clean call ?_, fun call member => clean call ?_,
    fun call member => clean call ?_⟩
  all_goals simp [member]

theorem clean_call {calls earlier rest : List SnapshotCall} {call : SnapshotCall}
    (clean : ∀ call ∈ calls, call.Clean) (split : calls = earlier ++ call :: rest) :
    (∀ call ∈ earlier, call.Clean) ∧ call.Clean := by
  subst split
  exact ⟨fun other member => clean other (by simp [member]), clean call (by simp)⟩

theorem identitiesStable_of_clean {start : IdentityStore} {calls : List SnapshotCall}
    (valid : start.Valid) (clean : ∀ call ∈ calls, call.Clean) : IdentitiesStable start calls where
  bound := by
    intro earlier later rest split publicId backend native signature otherBackend otherNative
      otherSignature live other
    obtain ⟨earlierClean, laterClean, -⟩ := clean_parts clean split
    have middle := IdentityStore.valid_final earlierClean valid
    have last := IdentityStore.valid_final laterClean middle
    rw [Run.final_append] at other
    cases IdentityStore.live_final laterClean middle live with
    | inl stayed => exact last.live_unique stayed.1 other
    | inr gone => exact absurd gone.1 (last.not_retired_of_live other)
  retired := by
    intro earlier later rest split publicId retired
    obtain ⟨earlierClean, laterClean, -⟩ := clean_parts clean split
    have middle := IdentityStore.valid_final earlierClean valid
    have last := IdentityStore.valid_final laterClean middle
    have still := IdentityStore.retired_final laterClean middle retired
    rw [Run.final_append]
    refine ⟨IdentityStore.resolve_of_retired still, ?_,
      IdentityStore.retired_throughout laterClean middle retired⟩
    intro row listed same
    obtain ⟨gone, member, equal⟩ := still
    exact last.notRetired row listed gone member (equal.trans same.symm)
  kept := by
    intro earlier later rest split publicId backend native signature live
    obtain ⟨earlierClean, laterClean, -⟩ := clean_parts clean split
    have middle := IdentityStore.valid_final earlierClean valid
    have last := IdentityStore.valid_final laterClean middle
    rw [Run.final_append]
    cases IdentityStore.live_final laterClean middle live with
    | inl stayed =>
      exact ⟨iff_of_true stayed.1 stayed.2,
        iff_of_false (last.not_retired_of_live stayed.1) (fun unseen => unseen stayed.2)⟩
    | inr gone =>
      exact ⟨iff_of_false (fun live => last.not_retired_of_live live gone.1) gone.2,
        iff_of_true gone.1 gone.2⟩
  assigned := by
    intro earlier call rest split ids answer
    obtain ⟨earlierClean, callClean⟩ := clean_call clean split
    have before := IdentityStore.valid_final earlierClean valid
    have reconciled := IdentityStore.reconcile_spec before callClean (Prod.ext rfl answer)
    rw [Run.final_concat]
    refine reconciled.assigned.imp fun timer id live => ⟨live, ?_, ?_⟩
    · exact IdentityStore.resolve_of_live reconciled.valid live
    · intro row listed backend native
      rw [reconciled.valid.native_eq listed live.1 backend native]
  others := by
    intro earlier call rest split row foreign
    obtain ⟨earlierClean, callClean⟩ := clean_call clean split
    have before := IdentityStore.valid_final earlierClean valid
    rw [Run.final_concat]
    cases IdentityStore.reconcile_cases before callClean with
    | inl failed =>
      rw [failed]
      exact ⟨Iff.rfl, fun _ _ => Iff.rfl⟩
    | inr accepted =>
      obtain ⟨ids, -, reconciled⟩ := accepted
      refine ⟨⟨?_, fun listed => reconciled.kept row listed foreign⟩, ?_⟩
      · intro listed
        cases reconciled.introduced row listed with
        | inl old => exact old
        | inr own => exact absurd own foreign
      · intro signature listed
        exact reconciled.keptSignatures row listed foreign signature
  failed := by
    intro earlier call rest split answer
    rw [Run.final_concat]
    exact IdentityStore.reconcile_eq_none answer

/-- Public ids are stable and never used again in every history of snapshots without NUL bytes, and
fingerprints tell all configurations apart but for the active flag. -/
theorem public_identities_stable (start : IdentityStore) (calls : List SnapshotCall)
    (valid : start.Valid) (clean : ∀ call ∈ calls, call.Clean) :
    IdentitiesStable start calls ∧ ∀ first second : SearchTimer,
      (fingerprint first = fingerprint second ↔ SameConfiguration first second) :=
  ⟨identitiesStable_of_clean valid clean, fingerprint_eq_iff⟩

instance (call : SnapshotCall) : Decidable call.Clean :=
  inferInstanceAs (Decidable (∀ timer ∈ call.observations, _ ∧ _))

def drawnBlob (byte : UInt8) : RandomBlob :=
  ⟨List.replicate 16 byte, List.length_replicate⟩

def snapshotOf (name : Bytes) (byte : UInt8) : SnapshotCall where
  backend := text "home"
  observations := [{ id := ⟨text "home", text "5"⟩, name := name, query := text "news" }]
  blobs := [drawnBlob byte]

theorem public_identities_stable_twice :
    ((Run.journal reconcileAuthoritativeSnapshot {}
        [snapshotOf (text "News") 1, snapshotOf (text "News") 2]).map Prod.snd =
      [some [candidateId (drawnBlob 1)], some [candidateId (drawnBlob 1)]]) ∧
    IdentitiesStable {} [snapshotOf (text "News") 1, snapshotOf (text "News") 2] :=
  ⟨by decide +kernel, (public_identities_stable {} _ IdentityStore.valid_empty
    (by decide)).1⟩

def splitName : Bytes := text "a" ++ [0] ++ text "b"

theorem split_name_rotated :
    ((Run.journal reconcileAuthoritativeSnapshot {} [snapshotOf splitName 1, snapshotOf splitName 2]).map
        Prod.snd =
      [some [candidateId (drawnBlob 1)], some [candidateId (drawnBlob 2)]]) ∧
    ¬ IdentitiesStable {} [snapshotOf splitName 1, snapshotOf splitName 2] := by
  refine ⟨by decide +kernel, ?_⟩
  intro stable
  have live : (Run.final reconcileAuthoritativeSnapshot {} [snapshotOf splitName 1]).Live
      (candidateId (drawnBlob 1)) (text "home") (text "5")
      (fingerprint { id := ⟨text "home", text "5"⟩, name := splitName, query := text "news" }) :=
    ⟨by decide +kernel, by decide +kernel⟩
  have observed : IdentityStore.ObservedThroughout (text "home") (text "5")
      (fingerprint { id := ⟨text "home", text "5"⟩, name := splitName, query := text "news" })
      (Run.journal reconcileAuthoritativeSnapshot
        (Run.final reconcileAuthoritativeSnapshot {} [snapshotOf splitName 1])
        [snapshotOf splitName 2]) := by
    intro entry member _ _
    rw [Run.journal, Run.journal, List.mem_singleton] at member
    subst member
    exact ⟨_, List.mem_cons_self, rfl, rfl⟩
  have kept := (stable.kept [snapshotOf splitName 1] [snapshotOf splitName 2] [] rfl _ _ _ _ live).1.mpr
    observed
  have gone : (⟨candidateId (drawnBlob 1), text "home", text "5"⟩ : IdentityRow) ∉
      (Run.final reconcileAuthoritativeSnapshot {}
        [snapshotOf splitName 1, snapshotOf splitName 2]).identities := by
    decide +kernel
  exact gone kept.1

end VdrSuite.SearchTimers
