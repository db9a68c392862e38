import VdrSuite.SearchTimers.PublicIdentity

/-! Public identities of search timers: what one snapshot retires, keeps and assigns. -/

set_option autoImplicit false

namespace VdrSuite.SearchTimers

open Library

def PublicId (id : Bytes) : Prop :=
  id.length = 35 ∧ id.take 3 = text "st_" ∧ (id.drop 3).all lowerHex = true

def SnapshotCall.Clean (call : SnapshotCall) : Prop :=
  ∀ timer ∈ call.observations,
    (0 : UInt8) ∉ timer.backendNativeId ∧ (0 : UInt8) ∉ fingerprint timer

namespace IdentityStore

/-- What the constraints of the tables and the statements of the repository maintain, as long as
they are only given texts without a NUL byte. -/
structure Valid (store : IdentityStore) : Prop where
  identitiesKeyed : Table.Keyed IdentityRow.publicId store.identities
  nativesUnique : (store.identities.map fun row => (row.backendId, row.nativeId)).Nodup
  signaturesKeyed : Table.Keyed SignatureRow.publicId store.signatures
  signaturesOwned : ∀ signature ∈ store.signatures, ∃ row ∈ store.identities,
    row.publicId = signature.publicId
  notRetired : ∀ row ∈ store.identities, ∀ gone ∈ store.retired, gone.publicId ≠ row.publicId
  publicIds : ∀ row ∈ store.identities, PublicId row.publicId
  backends : ∀ row ∈ store.identities, row.backendId ≠ [] ∧ row.backendId.length ≤ 128
  natives : ∀ row ∈ store.identities, row.nativeId ≠ [] ∧ (0 : UInt8) ∉ row.nativeId
  signatures : ∀ signature ∈ store.signatures,
    signature.signature ≠ [] ∧ (0 : UInt8) ∉ signature.signature

theorem valid_empty : ({} : IdentityStore).Valid := by
  constructor <;> simp [Table.Keyed]

/-- A public id stands for a native id of a backend, with the fingerprint it was given for. -/
def Live (store : IdentityStore) (publicId backend native signature : Bytes) : Prop :=
  ⟨publicId, backend, native⟩ ∈ store.identities ∧ ⟨publicId, signature⟩ ∈ store.signatures

def Retired (store : IdentityStore) (publicId : Bytes) : Prop :=
  ∃ gone ∈ store.retired, gone.publicId = publicId

variable {store : IdentityStore}

theorem Valid.row_eq (valid : store.Valid) {first second : IdentityRow}
    (firstMember : first ∈ store.identities) (secondMember : second ∈ store.identities)
    (same : first.publicId = second.publicId) : first = second :=
  List.inj_on_of_nodup_map valid.identitiesKeyed firstMember secondMember same

theorem Valid.signature_eq (valid : store.Valid) {first second : SignatureRow}
    (firstMember : first ∈ store.signatures) (secondMember : second ∈ store.signatures)
    (same : first.publicId = second.publicId) : first = second :=
  List.inj_on_of_nodup_map valid.signaturesKeyed firstMember secondMember same

theorem Valid.native_eq (valid : store.Valid) {first second : IdentityRow}
    (firstMember : first ∈ store.identities) (secondMember : second ∈ store.identities)
    (backend : first.backendId = second.backendId) (native : first.nativeId = second.nativeId) :
    first = second :=
  List.inj_on_of_nodup_map valid.nativesUnique firstMember secondMember
    (Prod.ext backend native)

theorem Valid.live_unique (valid : store.Valid) {publicId backend native signature : Bytes}
    {otherBackend otherNative otherSignature : Bytes}
    (live : store.Live publicId backend native signature)
    (other : store.Live publicId otherBackend otherNative otherSignature) :
    backend = otherBackend ∧ native = otherNative ∧ signature = otherSignature := by
  have row := valid.row_eq live.1 other.1 rfl
  have signatureRow := valid.signature_eq live.2 other.2 rfl
  simp only [IdentityRow.mk.injEq, true_and] at row
  simp only [SignatureRow.mk.injEq, true_and] at signatureRow
  exact ⟨row.1, row.2, signatureRow⟩

theorem Valid.not_retired_of_live (valid : store.Valid) {publicId backend native signature : Bytes}
    (live : store.Live publicId backend native signature) : ¬ store.Retired publicId := by
  intro retired
  obtain ⟨gone, member, same⟩ := retired
  exact valid.notRetired _ live.1 gone member same

theorem zero_notMem_publicId {id : Bytes} (formed : PublicId id) : (0 : UInt8) ∉ id := by
  obtain ⟨-, heading, digits⟩ := formed
  rw [← List.take_append_drop 3 id, heading, List.mem_append]
  intro member
  cases member with
  | inl inHeading => exact absurd inHeading (by decide)
  | inr inDigits => exact absurd (List.all_eq_true.mp digits 0 inDigits) (by decide)

/-! ## Lookup -/

theorem resolve_of_live (valid : store.Valid) {publicId backend native signature : Bytes}
    (live : store.Live publicId backend native signature) :
    resolveActiveNativeId store backend publicId = some native := by
  obtain ⟨row, signed⟩ := live
  obtain ⟨length, heading, digits⟩ := valid.publicIds _ row
  obtain ⟨named, short⟩ := valid.backends _ row
  obtain ⟨nonempty, clean⟩ := valid.natives _ row
  have only : (store.identities.filter fun other =>
      other.backendId == backend && other.publicId == publicId &&
      (store.signatures.any fun signature =>
        signature.publicId == other.publicId && signature.signature != []) &&
      !store.retired.any fun gone => gone.publicId == other.publicId) =
      [⟨publicId, backend, native⟩] := by
    apply Table.filter_eq_singleton IdentityRow.publicId valid.identitiesKeyed row
    · simp only [beq_self_eq_true, Bool.true_and, Bool.and_eq_true, Bool.not_eq_true',
        List.any_eq_true, List.any_eq_false, bne_iff_ne, beq_iff_eq]
      exact ⟨⟨_, signed, rfl, (valid.signatures _ signed).1⟩, valid.notRetired _ row⟩
    · intro other _ conditions
      simp only [Bool.and_eq_true, beq_iff_eq] at conditions
      exact conditions.1.1.2
  unfold resolveActiveNativeId
  rw [if_neg (by simp_all), only]
  simp only [if_neg nonempty, (cString_eq_self_iff native).mpr clean]

theorem resolve_of_retired {publicId : Bytes} (retired : store.Retired publicId) (backend : Bytes) :
    resolveActiveNativeId store backend publicId = none := by
  obtain ⟨gone, member, same⟩ := retired
  have none : (store.identities.filter fun other =>
      other.backendId == backend && other.publicId == publicId &&
      (store.signatures.any fun signature =>
        signature.publicId == other.publicId && signature.signature != []) &&
      !store.retired.any fun gone => gone.publicId == other.publicId) = [] := by
    simp only [List.filter_eq_nil_iff, Bool.and_eq_true, beq_iff_eq, Bool.not_eq_true',
      List.any_eq_false]
    intro row _ conditions
    exact conditions.2 gone member (same.trans conditions.1.1.2.symm)
  unfold resolveActiveNativeId
  split
  · rfl
  · rw [none]

/-! ## Bindings of a backend -/

theorem signatureOf_eq_iff (valid : store.Valid) (publicId signature : Bytes) :
    signature ≠ [] ∧ signatureOf store publicId = signature ↔
      ⟨publicId, signature⟩ ∈ store.signatures := by
  unfold signatureOf
  constructor
  · intro named
    obtain ⟨nonempty, same⟩ := named
    cases found : Table.lookup SignatureRow.publicId publicId store.signatures with
    | none =>
      rw [found] at same
      exact absurd same.symm nonempty
    | some row =>
      rw [found] at same
      have key := Table.key_of_lookup SignatureRow.publicId found
      rw [← same, ← key]
      exact Table.mem_of_lookup SignatureRow.publicId found
  · intro member
    have found := (Table.mem_iff_lookup SignatureRow.publicId valid.signaturesKeyed _).mp member
    simp only at found
    rw [found]
    exact ⟨(valid.signatures _ member).1, rfl⟩

theorem zero_notMem_signatureOf (valid : store.Valid) (publicId : Bytes) :
    (0 : UInt8) ∉ signatureOf store publicId := by
  unfold signatureOf
  cases found : Table.lookup SignatureRow.publicId publicId store.signatures with
  | none => simp
  | some row => exact (valid.signatures row (Table.mem_of_lookup SignatureRow.publicId found)).2

def bindingOf (store : IdentityStore) (row : IdentityRow) : Bytes × Binding :=
  (row.nativeId, ⟨row.publicId, signatureOf store row.publicId⟩)

def rowsOf (store : IdentityStore) (backend : Bytes) : List IdentityRow :=
  store.identities.filter (·.backendId == backend)

theorem mem_rowsOf {backend : Bytes} {row : IdentityRow} :
    row ∈ store.rowsOf backend ↔ row ∈ store.identities ∧ row.backendId = backend := by
  simp [rowsOf]

theorem rowsOf_nodup (valid : store.Valid) (backend : Bytes) :
    ((store.rowsOf backend).map IdentityRow.nativeId).Nodup := by
  have kept : ((store.rowsOf backend).map fun row => (row.backendId, row.nativeId)).Nodup :=
    valid.nativesUnique.sublist ((List.filter_sublist).map _)
  rw [List.Nodup, List.pairwise_map] at kept ⊢
  refine kept.imp_of_mem ?_
  intro first second firstMember secondMember apart same
  refine apart (Prod.ext ?_ same)
  rw [((mem_rowsOf).mp firstMember).2, ((mem_rowsOf).mp secondMember).2]

theorem currentBindings_eq (valid : store.Valid) (backend : Bytes) :
    currentBindings store backend = some ((store.rowsOf backend).map store.bindingOf) := by
  have read : (store.identities.filter (·.backendId == backend)).map (fun row =>
      (cString row.nativeId, (⟨cString row.publicId, cString (signatureOf store row.publicId)⟩ : Binding))) =
        (store.rowsOf backend).map store.bindingOf := by
    apply List.map_congr_left
    intro row member
    have listed := ((mem_rowsOf).mp member).1
    rw [(cString_eq_self_iff _).mpr (valid.natives row listed).2,
      (cString_eq_self_iff _).mpr (zero_notMem_publicId (valid.publicIds row listed)),
      (cString_eq_self_iff _).mpr (zero_notMem_signatureOf valid _)]
    rfl
  unfold currentBindings
  simp only [read, List.map_map]
  rw [if_pos]
  exact rowsOf_nodup valid backend

theorem existingId_eq_some_iff (valid : store.Valid) (backend : Bytes) (timer : SearchTimer)
    (id : Bytes) :
    existingId ((store.rowsOf backend).map store.bindingOf) timer = some id ↔
      store.Live id backend timer.backendNativeId (fingerprint timer) := by
  have distinct : (((store.rowsOf backend).map store.bindingOf).map Prod.fst).Nodup := by
    rw [List.map_map]
    exact rowsOf_nodup valid backend
  unfold existingId
  constructor
  · intro found
    cases bound : ((store.rowsOf backend).map store.bindingOf).lookup timer.backendNativeId with
    | none => simp [bound] at found
    | some binding =>
      simp only [bound] at found
      split at found
      · next matching =>
        cases found
        obtain ⟨row, member, same⟩ := List.mem_map.mp
          ((Table.assoc_eq_some_iff distinct _ _).mp bound)
        obtain ⟨listed, owned⟩ := (mem_rowsOf).mp member
        simp only [bindingOf, Prod.mk.injEq] at same
        obtain ⟨native, rfl⟩ := same
        have signed := (signatureOf_eq_iff valid row.publicId (fingerprint timer)).mp
          ⟨fingerprint_ne_nil timer, matching.2⟩
        refine ⟨?_, signed⟩
        rw [← native, ← owned]
        exact listed
      · cases found
  · intro live
    have member : (timer.backendNativeId, (⟨id, fingerprint timer⟩ : Binding)) ∈
        (store.rowsOf backend).map store.bindingOf := by
      refine List.mem_map.mpr ⟨_, (mem_rowsOf).mpr ⟨live.1, rfl⟩, ?_⟩
      rw [bindingOf, ((signatureOf_eq_iff valid id _).mpr live.2).2]
    rw [(Table.assoc_eq_some_iff distinct _ _).mpr member]
    simp [fingerprint_ne_nil]

theorem signaturesOf_eq_some {backend : Bytes} {observations : List SearchTimer}
    {signatures : List (Bytes × Bytes)} (taken : signaturesOf backend observations = some signatures) :
    signatures = observations.map (fun timer => (timer.backendNativeId, fingerprint timer)) ∧
      (observations.map SearchTimer.backendNativeId).Nodup ∧
      ∀ timer ∈ observations, acceptable backend timer = true := by
  induction observations generalizing signatures with
  | nil =>
    cases taken
    simp
  | cons timer rest ih =>
    rw [signaturesOf] at taken
    cases tail : signaturesOf backend rest with
    | none => simp [tail] at taken
    | some others =>
      simp only [tail] at taken
      split at taken
      · cases taken
      · next passes =>
        cases taken
        obtain ⟨rfl, distinct, all⟩ := ih tail
        simp only [not_or, Bool.not_eq_false, Bool.not_eq_true, Option.isSome_eq_false_iff,
          Option.isNone_iff_eq_none] at passes
        have fresh : timer.backendNativeId ∉ rest.map SearchTimer.backendNativeId := by
          intro member
          obtain ⟨other, listed, same⟩ := List.mem_map.mp member
          have absent := List.lookup_eq_none_iff.mp passes.2 (other.backendNativeId, fingerprint other)
            (List.mem_map_of_mem (f := fun timer => (timer.backendNativeId, fingerprint timer)) listed)
          simp [same] at absent
        refine ⟨rfl, List.nodup_cons.mpr ⟨fresh, distinct⟩, ?_⟩
        simpa [passes.1] using all

def Observed (observations : List SearchTimer) (native signature : Bytes) : Prop :=
  ∃ timer ∈ observations, timer.backendNativeId = native ∧ fingerprint timer = signature

theorem stays_iff (valid : store.Valid) {observations : List SearchTimer}
    (distinct : (observations.map SearchTimer.backendNativeId).Nodup) (row : IdentityRow) :
    stays (observations.map fun timer => (timer.backendNativeId, fingerprint timer))
        (store.bindingOf row) = true ↔
      ∃ signature, ⟨row.publicId, signature⟩ ∈ store.signatures ∧
        Observed observations row.nativeId signature := by
  have keys : ((observations.map fun timer => (timer.backendNativeId, fingerprint timer)).map
      Prod.fst).Nodup := by
    rw [List.map_map]
    exact distinct
  unfold stays bindingOf
  constructor
  · intro kept
    cases observed : (observations.map fun timer =>
        (timer.backendNativeId, fingerprint timer)).lookup row.nativeId with
    | none => simp [observed] at kept
    | some fingerprint =>
      simp only [observed, Bool.and_eq_true, bne_iff_ne, beq_iff_eq] at kept
      obtain ⟨timer, member, same⟩ := List.mem_map.mp
        ((Table.assoc_eq_some_iff keys _ _).mp observed)
      simp only [Prod.mk.injEq] at same
      refine ⟨fingerprint, ?_, timer, member, same⟩
      exact (signatureOf_eq_iff valid row.publicId fingerprint).mp
        ⟨by rw [kept.2]; exact kept.1, kept.2.symm⟩
  · intro kept
    obtain ⟨signature, signed, timer, member, native, same⟩ := kept
    obtain ⟨nonempty, joined⟩ := (signatureOf_eq_iff valid row.publicId signature).mpr signed
    have observed := (Table.assoc_eq_some_iff keys row.nativeId signature).mpr
      (List.mem_map.mpr ⟨timer, member, by rw [native, same]⟩)
    simp [observed, joined, nonempty]

/-! ## Retiring -/

def withdraw (store : IdentityStore) (gone : List IdentityRow) : IdentityStore where
  identities := Table.delete (fun row => gone.any (·.publicId == row.publicId)) store.identities
  signatures := Table.delete (fun row => gone.any (·.publicId == row.publicId)) store.signatures
  retired := store.retired ++ gone

theorem retire_eq (keyed : Table.Keyed IdentityRow.publicId store.identities) {row : IdentityRow}
    (listed : row ∈ store.identities) {signature : Bytes} {next : IdentityStore}
    (done : retire row.backendId row.nativeId ⟨row.publicId, signature⟩ store = some next) :
    next = store.withdraw [row] := by
  unfold retire at done
  split at done
  · cases done
  · cases done
    have same : Table.delete (fun other => other.publicId == row.publicId &&
        other.backendId == row.backendId && other.nativeId == row.nativeId) store.identities =
        Table.delete (fun other => [row].any (·.publicId == other.publicId)) store.identities := by
      apply List.filter_congr
      intro other member
      by_cases key : other.publicId = row.publicId
      · rw [List.inj_on_of_nodup_map keyed member listed key]
        simp
      · have apart : (other.publicId == row.publicId) = false := beq_eq_false_iff_ne.mpr key
        have reversed : (row.publicId == other.publicId) = false :=
          beq_eq_false_iff_ne.mpr (Ne.symm key)
        simp [apart, reversed]
    have signatures : Table.delete (fun other => other.publicId == row.publicId) store.signatures =
        Table.delete (fun other => [row].any (·.publicId == other.publicId)) store.signatures := by
      apply List.filter_congr
      intro other _
      simp [eq_comm]
    simp only [withdraw, same, signatures]

theorem withdraw_withdraw (first second : List IdentityRow) :
    (store.withdraw first).withdraw second = store.withdraw (first ++ second) := by
  simp [withdraw, Table.delete_delete]

theorem retireAll_eq {backend : Bytes} {signature : IdentityRow → Bytes} {gone : List IdentityRow}
    {next : IdentityStore} (keyed : Table.Keyed IdentityRow.publicId store.identities)
    (listed : ∀ row ∈ gone, row ∈ store.identities ∧ row.backendId = backend)
    (distinct : (gone.map IdentityRow.publicId).Nodup)
    (done : retireAll backend (gone.map fun row => (row.nativeId, ⟨row.publicId, signature row⟩))
      store = some next) : next = store.withdraw gone := by
  induction gone generalizing store with
  | nil =>
    cases done
    simp [withdraw, Table.delete]
  | cons row rest ih =>
    obtain ⟨fresh, restDistinct⟩ := List.nodup_cons.mp distinct
    obtain ⟨rowListed, rfl⟩ := listed row List.mem_cons_self
    simp only [List.map_cons, retireAll] at done
    cases first : retire row.backendId row.nativeId ⟨row.publicId, signature row⟩ store with
    | none => simp [first] at done
    | some middle =>
      simp only [first] at done
      have moved := retire_eq keyed rowListed first
      subst moved
      have rest := ih (Table.keyed_delete IdentityRow.publicId _ keyed) ?_ restDistinct done
      · rw [rest, withdraw_withdraw]
        rfl
      · intro other member
        obtain ⟨otherListed, owned⟩ := listed other (List.mem_cons_of_mem row member)
        refine ⟨List.mem_filter.mpr ⟨otherListed, ?_⟩, owned⟩
        have apart : row.publicId ≠ other.publicId := by
          intro same
          exact fresh (same ▸ List.mem_map_of_mem member)
        simp [apart]

theorem mem_withdraw_identities {gone : List IdentityRow} {row : IdentityRow} :
    row ∈ (store.withdraw gone).identities ↔
      row ∈ store.identities ∧ ∀ other ∈ gone, other.publicId ≠ row.publicId := by
  simp [withdraw, Table.delete]

theorem mem_withdraw_signatures {gone : List IdentityRow} {row : SignatureRow} :
    row ∈ (store.withdraw gone).signatures ↔
      row ∈ store.signatures ∧ ∀ other ∈ gone, other.publicId ≠ row.publicId := by
  simp [withdraw, Table.delete]

theorem valid_withdraw (valid : store.Valid) (gone : List IdentityRow) :
    (store.withdraw gone).Valid where
  identitiesKeyed := Table.keyed_delete IdentityRow.publicId _ valid.identitiesKeyed
  nativesUnique := valid.nativesUnique.sublist ((List.filter_sublist).map _)
  signaturesKeyed := Table.keyed_delete SignatureRow.publicId _ valid.signaturesKeyed
  signaturesOwned := by
    intro signature member
    obtain ⟨signed, kept⟩ := (mem_withdraw_signatures).mp member
    obtain ⟨row, owner, same⟩ := valid.signaturesOwned signature signed
    exact ⟨row, (mem_withdraw_identities).mpr ⟨owner, by rw [same]; exact kept⟩, same⟩
  notRetired := by
    intro row member other retired
    obtain ⟨rowListed, kept⟩ := (mem_withdraw_identities).mp member
    cases List.mem_append.mp retired with
    | inl before => exact valid.notRetired row rowListed other before
    | inr now => exact kept other now
  publicIds := fun row member => valid.publicIds row ((mem_withdraw_identities).mp member).1
  backends := fun row member => valid.backends row ((mem_withdraw_identities).mp member).1
  natives := fun row member => valid.natives row ((mem_withdraw_identities).mp member).1
  signatures := fun row member => valid.signatures row ((mem_withdraw_signatures).mp member).1

/-! ## Inserting -/

def add (store : IdentityStore) (row : IdentityRow) (signature : Bytes) : IdentityStore :=
  { store with
    identities := store.identities ++ [row]
    signatures := store.signatures ++ [⟨row.publicId, signature⟩] }

structure Fresh (store : IdentityStore) (row : IdentityRow) : Prop where
  notRetired : ¬ store.Retired row.publicId
  publicId : ∀ other ∈ store.identities, other.publicId ≠ row.publicId
  native : ∀ other ∈ store.identities,
    ¬ (other.backendId = row.backendId ∧ other.nativeId = row.nativeId)
  unsigned : ∀ signature ∈ store.signatures, signature.publicId ≠ row.publicId

theorem insertNew_eq {backend native signature candidate id : Bytes} {next : IdentityStore}
    (formed : PublicId candidate)
    (done : insertNew backend native signature candidate store = some (id, next)) :
    id = candidate ∧ next = store.add ⟨candidate, backend, native⟩ signature ∧
      store.Fresh ⟨candidate, backend, native⟩ := by
  unfold insertNew at done
  split at done
  · cases done
  · next unretired =>
    split at done
    · cases done
    · next unused =>
      simp only [Bool.not_eq_true, List.any_eq_false, Bool.or_eq_true, beq_iff_eq,
        Bool.and_eq_true, not_or] at unused
      have first : publicIdForNative (store.identities ++ [⟨candidate, backend, native⟩]) backend
          native = some candidate := by
        have absent : (store.identities.find? fun row =>
            row.backendId == backend && row.nativeId == native) = none := by
          simpa [List.find?_eq_none] using fun row member => (unused row member).2
        rw [publicIdForNative, List.find?_append, absent]
        simp [(cString_eq_self_iff candidate).mpr (zero_notMem_publicId formed)]
      simp only [first] at done
      split at done
      · cases done
      · next unsigned =>
        cases done
        refine ⟨rfl, rfl, ?_, fun row member => (unused row member).1,
          fun row member => (unused row member).2, ?_⟩
        · intro retired
          obtain ⟨gone, member, same⟩ := retired
          simp only [Bool.not_eq_true, Option.isSome_eq_false_iff, Option.isNone_iff_eq_none,
            Table.lookup_eq_none_iff] at unretired
          exact unretired (List.mem_map.mpr ⟨gone, member, same⟩)
        · intro other member same
          simp only [Bool.not_eq_true, Option.isSome_eq_false_iff, Option.isNone_iff_eq_none,
            Table.lookup_eq_none_iff] at unsigned
          exact unsigned (List.mem_map.mpr ⟨other, member, same⟩)

theorem valid_add (valid : store.Valid) {row : IdentityRow} {signature : Bytes}
    (fresh : store.Fresh row) (formed : PublicId row.publicId)
    (backend : row.backendId ≠ [] ∧ row.backendId.length ≤ 128)
    (native : row.nativeId ≠ [] ∧ (0 : UInt8) ∉ row.nativeId)
    (signed : signature ≠ [] ∧ (0 : UInt8) ∉ signature) : (store.add row signature).Valid := by
  have forRows {Property : IdentityRow → Prop} (before : ∀ other ∈ store.identities, Property other)
      (new : Property row) : ∀ other ∈ (store.add row signature).identities, Property other := by
    intro other member
    cases List.mem_append.mp member with
    | inl old => exact before other old
    | inr last =>
      rw [List.mem_singleton.mp last]
      exact new
  constructor
  · exact Table.keyed_append_new IdentityRow.publicId valid.identitiesKeyed
      ((Table.lookup_eq_none_iff _).mpr fun member => by
        obtain ⟨other, listed, same⟩ := List.mem_map.mp member
        exact fresh.publicId other listed same)
  · rw [add, List.map_append, List.nodup_append]
    refine ⟨valid.nativesUnique, by simp, ?_⟩
    intro first member second last same
    obtain ⟨other, listed, rfl⟩ := List.mem_map.mp member
    rw [List.map_singleton, List.mem_singleton] at last
    rw [last, Prod.mk.injEq] at same
    exact fresh.native other listed same
  · exact Table.keyed_append_new SignatureRow.publicId valid.signaturesKeyed
      ((Table.lookup_eq_none_iff _).mpr fun member => by
        obtain ⟨other, listed, same⟩ := List.mem_map.mp member
        exact fresh.unsigned other listed same)
  · intro other member
    cases List.mem_append.mp member with
    | inl old =>
      obtain ⟨owner, listed, same⟩ := valid.signaturesOwned other old
      exact ⟨owner, List.mem_append_left _ listed, same⟩
    | inr last =>
      rw [List.mem_singleton.mp last]
      exact ⟨row, List.mem_append_right _ List.mem_cons_self, rfl⟩
  · exact forRows valid.notRetired fun gone member same => fresh.notRetired ⟨gone, member, same⟩
  · exact forRows valid.publicIds formed
  · exact forRows valid.backends backend
  · exact forRows valid.natives native
  · intro other member
    cases List.mem_append.mp member with
    | inl old => exact valid.signatures other old
    | inr last =>
      rw [List.mem_singleton.mp last]
      exact signed

theorem publicId_candidateId (blob : RandomBlob) : PublicId (candidateId blob) := by
  refine ⟨?_, rfl, ?_⟩
  · rw [candidateId, List.length_append, Hex.encode_length, blob.property]
    rfl
  · refine List.all_eq_true.mpr fun byte member => ?_
    have digit := Hex.hexValue_of_mem_encode blob.val byte member
    unfold Hex.hexValue at digit
    split at digit
    · next decimal => simp [lowerHex, decimal]
    · split at digit
      · next letter => simp [lowerHex, letter]
      · cases digit

structure Extends (before after : IdentityStore) (backend : Bytes) : Prop where
  identities : ∀ row ∈ before.identities, row ∈ after.identities
  signatures : ∀ row ∈ before.signatures, row ∈ after.signatures
  introduced : ∀ row ∈ after.identities, row ∈ before.identities ∨ row.backendId = backend
  signed : ∀ signature ∈ after.signatures, signature ∈ before.signatures ∨
    ∀ row ∈ before.identities, row.publicId ≠ signature.publicId
  retired : after.retired = before.retired

theorem Extends.refl (store : IdentityStore) (backend : Bytes) : Extends store store backend :=
  ⟨fun _ member => member, fun _ member => member, fun _ member => .inl member,
    fun _ member => .inl member, rfl⟩

theorem Extends.trans {first second third : IdentityStore} {backend : Bytes}
    (start : Extends first second backend) (rest : Extends second third backend) :
    Extends first third backend where
  identities := fun row member => rest.identities row (start.identities row member)
  signatures := fun row member => rest.signatures row (start.signatures row member)
  introduced := by
    intro row member
    cases rest.introduced row member with
    | inl middle => exact start.introduced row middle
    | inr owned => exact .inr owned
  signed := by
    intro signature member
    cases rest.signed signature member with
    | inl middle => exact start.signed signature middle
    | inr apart => exact .inr fun row listed => apart row (start.identities row listed)
  retired := rest.retired.trans start.retired

theorem extends_add {row : IdentityRow} (fresh : store.Fresh row) (signature : Bytes) :
    Extends store (store.add row signature) row.backendId where
  identities := fun _ member => List.mem_append_left _ member
  signatures := fun _ member => List.mem_append_left _ member
  introduced := by
    intro other member
    cases List.mem_append.mp member with
    | inl old => exact .inl old
    | inr last =>
      rw [List.mem_singleton.mp last]
      exact .inr rfl
  signed := by
    intro other member
    cases List.mem_append.mp member with
    | inl old => exact .inl old
    | inr last =>
      rw [List.mem_singleton.mp last]
      exact .inr fresh.publicId
  retired := rfl

theorem Extends.live {before after : IdentityStore} {backend : Bytes}
    (extends_ : Extends before after backend) {publicId owner native signature : Bytes}
    (live : before.Live publicId owner native signature) :
    after.Live publicId owner native signature :=
  ⟨extends_.identities _ live.1, extends_.signatures _ live.2⟩

structure Storable (timer : SearchTimer) : Prop where
  named : timer.backendNativeId ≠ []
  native : (0 : UInt8) ∉ timer.backendNativeId
  signature : (0 : UInt8) ∉ fingerprint timer

theorem assignAll_spec {backend : Bytes} {old : List (Bytes × Binding)}
    {observations : List SearchTimer} {blobs : List RandomBlob} {ids : List Bytes}
    {final : IdentityStore} (valid : store.Valid)
    (named : backend ≠ [] ∧ backend.length ≤ 128)
    (storable : ∀ timer ∈ observations, Storable timer)
    (done : assignAll backend old observations blobs store = some (ids, final)) :
    final.Valid ∧ Extends store final backend ∧
      List.Forall₂ (fun timer id => existingId old timer = some id ∨
        final.Live id backend timer.backendNativeId (fingerprint timer)) observations ids := by
  induction observations generalizing blobs ids store with
  | nil =>
    cases done
    exact ⟨valid, .refl _ backend, .nil⟩
  | cons timer rest ih =>
    have restStorable : ∀ other ∈ rest, Storable other :=
      fun other member => storable other (List.mem_cons_of_mem timer member)
    unfold assignAll at done
    cases known : existingId old timer with
    | some id =>
      simp only [known, Option.map_eq_some_iff, Prod.exists, Prod.mk.injEq] at done
      obtain ⟨others, last, tail, rfl, rfl⟩ := done
      obtain ⟨lastValid, extended, assigned⟩ := ih valid restStorable tail
      exact ⟨lastValid, extended, .cons (.inl known) assigned⟩
    | none =>
      cases blobs with
      | nil => simp [known] at done
      | cons blob blobs =>
        simp only [known] at done
        cases inserted : insertNew backend timer.backendNativeId (fingerprint timer)
            (candidateId blob) store with
        | none => simp [inserted] at done
        | some result =>
          obtain ⟨id, next⟩ := result
          simp only [inserted, Option.map_eq_some_iff, Prod.exists, Prod.mk.injEq] at done
          obtain ⟨others, last, tail, rfl, rfl⟩ := done
          have formed := publicId_candidateId blob
          obtain ⟨rfl, rfl, fresh⟩ := insertNew_eq formed inserted
          obtain ⟨nonempty, native, signature⟩ := storable timer List.mem_cons_self
          have nextValid := valid_add valid fresh formed named ⟨nonempty, native⟩
            ⟨fingerprint_ne_nil timer, signature⟩
          obtain ⟨lastValid, extended, assigned⟩ := ih nextValid restStorable tail
          have new : (store.add ⟨candidateId blob, backend, timer.backendNativeId⟩
              (fingerprint timer)).Live (candidateId blob) backend timer.backendNativeId
                (fingerprint timer) :=
            ⟨List.mem_append_right _ List.mem_cons_self,
              List.mem_append_right _ List.mem_cons_self⟩
          exact ⟨lastValid, (extends_add fresh _).trans extended,
            .cons (.inr (extended.live new)) assigned⟩

/-! ## One call -/

structure Reconciled (before after : IdentityStore) (call : SnapshotCall) (ids : List Bytes) :
    Prop where
  valid : after.Valid
  assigned : List.Forall₂ (fun timer id =>
    after.Live id call.backend timer.backendNativeId (fingerprint timer)) call.observations ids
  kept : ∀ row ∈ before.identities, row.backendId ≠ call.backend → row ∈ after.identities
  keptSignatures : ∀ row ∈ before.identities, row.backendId ≠ call.backend → ∀ signature,
    (⟨row.publicId, signature⟩ ∈ after.signatures ↔ ⟨row.publicId, signature⟩ ∈ before.signatures)
  observed : ∀ {publicId native signature : Bytes},
    before.Live publicId call.backend native signature →
    Observed call.observations native signature →
    after.Live publicId call.backend native signature
  withdrawn : ∀ {publicId native signature : Bytes},
    before.Live publicId call.backend native signature →
    ¬ Observed call.observations native signature → after.Retired publicId
  remembered : ∀ publicId, before.Retired publicId → after.Retired publicId
  introduced : ∀ row ∈ after.identities, row ∈ before.identities ∨ row.backendId = call.backend

theorem reconcile_eq_some {call : SnapshotCall} {after : IdentityStore} {ids : List Bytes}
    (done : reconcileAuthoritativeSnapshot store call = (after, some ids)) :
    (call.backend ≠ [] ∧ call.backend.length ≤ 128) ∧ ∃ signatures,
      signaturesOf call.backend call.observations = some signatures ∧
      reconcileBindings call signatures store = some (ids, after) := by
  unfold reconcileAuthoritativeSnapshot at done
  split at done
  · cases done
  · next sized =>
    simp only [not_or, Nat.not_lt] at sized
    refine ⟨⟨sized.1, sized.2.1⟩, ?_⟩
    cases taken : signaturesOf call.backend call.observations with
    | none => simp [taken] at done
    | some signatures =>
      simp only [taken] at done
      split at done
      · cases done
      · cases body : reconcileBindings call signatures store with
        | none => simp [body] at done
        | some result =>
          obtain ⟨assigned, next⟩ := result
          simp only [body] at done
          split at done
          · cases done
            exact ⟨signatures, rfl, body⟩
          · cases done

theorem reconcile_eq_none {call : SnapshotCall}
    (failed : (reconcileAuthoritativeSnapshot store call).2 = none) :
    (reconcileAuthoritativeSnapshot store call).1 = store := by
  revert failed
  unfold reconcileAuthoritativeSnapshot
  split
  · exact fun _ => rfl
  · cases signaturesOf call.backend call.observations with
    | none => exact fun _ => rfl
    | some signatures =>
      dsimp only
      split
      · exact fun _ => rfl
      · cases reconcileBindings call signatures store with
        | none => exact fun _ => rfl
        | some result =>
          obtain ⟨assigned, next⟩ := result
          dsimp only
          split
          · intro failed
            cases failed
          · exact fun _ => rfl

def unobserved (store : IdentityStore) (call : SnapshotCall) : List IdentityRow :=
  (store.rowsOf call.backend).filter fun row =>
    !stays (call.observations.map fun timer => (timer.backendNativeId, fingerprint timer))
      (store.bindingOf row)

theorem mem_unobserved (valid : store.Valid) {call : SnapshotCall}
    (distinct : (call.observations.map SearchTimer.backendNativeId).Nodup)
    {publicId native signature : Bytes} (live : store.Live publicId call.backend native signature) :
    ⟨publicId, call.backend, native⟩ ∈ store.unobserved call ↔
      ¬ Observed call.observations native signature := by
  rw [unobserved, List.mem_filter, mem_rowsOf, Bool.not_eq_true', ← Bool.not_eq_true,
    stays_iff valid distinct]
  constructor
  · intro found seen
    exact found.2 ⟨signature, live.2, seen⟩
  · intro unseen
    refine ⟨⟨live.1, rfl⟩, ?_⟩
    intro stayed
    obtain ⟨other, signed, seen⟩ := stayed
    have same := valid.signature_eq signed live.2 rfl
    simp only [SignatureRow.mk.injEq, true_and] at same
    exact unseen (same ▸ seen)

theorem reconcileBindings_eq_some (valid : store.Valid) {call : SnapshotCall}
    {ids : List Bytes} {after : IdentityStore}
    (body : reconcileBindings call
      (call.observations.map fun timer => (timer.backendNativeId, fingerprint timer)) store =
        some (ids, after)) :
    ∃ next, retireAll call.backend ((store.unobserved call).map store.bindingOf) store = some next ∧
      assignAll call.backend ((store.rowsOf call.backend).map store.bindingOf) call.observations
        call.blobs next = some (ids, after) := by
  unfold reconcileBindings at body
  split at body
  · cases body
  · rw [currentBindings_eq valid] at body
    dsimp only at body
    rw [List.filter_map] at body
    split at body
    · cases body
    · split at body
      · cases body
      · next next retired => exact ⟨next, retired, body⟩

theorem reconcile_spec (valid : store.Valid) {call : SnapshotCall} (clean : call.Clean)
    {after : IdentityStore} {ids : List Bytes}
    (done : reconcileAuthoritativeSnapshot store call = (after, some ids)) :
    Reconciled store after call ids := by
  obtain ⟨named, signatures, taken, body⟩ := reconcile_eq_some done
  obtain ⟨rfl, distinct, acceptable⟩ := signaturesOf_eq_some taken
  obtain ⟨next, retired, assigned⟩ := reconcileBindings_eq_some valid body
  have moved : next = store.withdraw (store.unobserved call) :=
    retireAll_eq valid.identitiesKeyed (fun row member => (mem_rowsOf).mp (List.mem_of_mem_filter member))
      (valid.identitiesKeyed.sublist
        (((List.filter_sublist).trans List.filter_sublist).map IdentityRow.publicId)) retired
  subst moved
  have storable : ∀ timer ∈ call.observations, Storable timer := by
    intro timer member
    have accepted := acceptable timer member
    simp only [SearchTimers.acceptable, Bool.and_eq_true, bne_iff_ne] at accepted
    exact ⟨accepted.1.1.1.1.1.1.2, (clean timer member).1, (clean timer member).2⟩
  obtain ⟨afterValid, extended, all⟩ :=
    assignAll_spec (valid_withdraw valid _) named storable assigned
  have keeps : ∀ row ∈ store.identities, row ∉ store.unobserved call →
      ∀ gone ∈ store.unobserved call, gone.publicId ≠ row.publicId := by
    intro row listed kept gone member same
    have goneListed := ((mem_rowsOf).mp (List.mem_of_mem_filter member)).1
    exact kept (valid.row_eq goneListed listed same ▸ member)
  have observed : ∀ {publicId native signature : Bytes},
      store.Live publicId call.backend native signature →
      Observed call.observations native signature →
      after.Live publicId call.backend native signature := by
    intro publicId native signature live seen
    have kept := keeps _ live.1 fun member =>
      (mem_unobserved valid distinct live).mp member seen
    exact extended.live ⟨(mem_withdraw_identities).mpr ⟨live.1, kept⟩,
      (mem_withdraw_signatures).mpr ⟨live.2, kept⟩⟩
  have foreign : ∀ row ∈ store.identities, row.backendId ≠ call.backend →
      ∀ gone ∈ store.unobserved call, gone.publicId ≠ row.publicId := by
    intro row listed other
    exact keeps row listed fun member =>
      other ((mem_rowsOf).mp (List.mem_of_mem_filter member)).2
  refine ⟨afterValid, ?_, ?_, ?_, observed, ?_, ?_, ?_⟩
  · have listed := (@List.forall₂_and_left _ _ _ (· ∈ call.observations) _ _).mpr
      ⟨fun _ member => member, all⟩
    refine listed.imp ?_
    intro timer id assignment
    obtain ⟨member, known | new⟩ := assignment
    · exact observed ((existingId_eq_some_iff valid call.backend timer id).mp known)
        ⟨timer, member, rfl, rfl⟩
    · exact new
  · intro row listed other
    exact extended.identities row ((mem_withdraw_identities).mpr ⟨listed, foreign row listed other⟩)
  · intro row listed other signature
    have apart := foreign row listed other
    constructor
    · intro signed
      cases extended.signed _ signed with
      | inl middle => exact ((mem_withdraw_signatures).mp middle).1
      | inr unsigned => exact absurd rfl (unsigned row ((mem_withdraw_identities).mpr ⟨listed, apart⟩))
    · intro signed
      exact extended.signatures _ ((mem_withdraw_signatures).mpr ⟨signed, apart⟩)
  · intro publicId native signature live unseen
    have gone := (mem_unobserved valid distinct live).mpr unseen
    refine ⟨⟨publicId, call.backend, native⟩, ?_, rfl⟩
    rw [extended.retired]
    exact List.mem_append_right _ gone
  · intro publicId before
    obtain ⟨gone, member, same⟩ := before
    refine ⟨gone, ?_, same⟩
    rw [extended.retired]
    exact List.mem_append_left _ member
  · intro row member
    cases extended.introduced row member with
    | inl middle => exact .inl ((mem_withdraw_identities).mp middle).1
    | inr owned => exact .inr owned

end IdentityStore

end VdrSuite.SearchTimers
