import Mathlib.Data.List.Nodup
import Mathlib.Tactic.Tauto
import VdrSuite.Core.ProviderOwnership

/-! Laws of the ownership table: readable rows, and generations that grow with every change. -/

set_option autoImplicit false

namespace VdrSuite.Core

open Library Agent

/-! ## Capability lists -/

theorem boundedUniqueIdentifiers_iff (values : List Bytes) :
    boundedUniqueIdentifiers values = true ↔
      values ≠ [] ∧ values.length ≤ 64 ∧ (∀ value ∈ values, safeIdentifier value = true) ∧
        values.Nodup := by
  simp [boundedUniqueIdentifiers, and_assoc]

private theorem foldlM_appendIdentifier (values accumulated : List Bytes)
    (safe : ∀ value ∈ values, safeIdentifier value = true)
    (unique : (accumulated ++ values).Nodup) (bounded : (accumulated ++ values).length ≤ 64) :
    values.foldlM appendIdentifier accumulated = some (accumulated ++ values) := by
  induction values generalizing accumulated with
  | nil => simp
  | cons value rest ih =>
    have fresh : value ∉ accumulated := fun member =>
      (List.nodup_append.mp unique).2.2 value member value List.mem_cons_self rfl
    have room : ¬ (accumulated ++ [value]).length > 64 := by
      simp only [List.length_append, List.length_cons, List.length_nil] at bounded ⊢
      omega
    have step : appendIdentifier accumulated value = some (accumulated ++ [value]) := by
      simp only [appendIdentifier, safe value List.mem_cons_self, Bool.true_eq_false, false_or,
        if_neg fresh, if_neg room]
    rw [List.foldlM_cons, step]
    have shape : accumulated ++ value :: rest = (accumulated ++ [value]) ++ rest := by simp
    rw [shape] at unique bounded ⊢
    exact ih (accumulated ++ [value])
      (fun other member => safe other (List.mem_cons_of_mem _ member)) unique bounded

theorem identifiers_ne_nil (values : List Bytes)
    (bounded : boundedUniqueIdentifiers values = true) : identifiers values ≠ [] := by
  obtain ⟨nonempty, -, safe, -⟩ := (boundedUniqueIdentifiers_iff values).mp bounded
  cases values with
  | nil => exact absurd rfl nonempty
  | cons value rest =>
    have filled := (safeIdentifier_spec value (safe value List.mem_cons_self)).1
    cases value with
    | nil => exact absurd rfl filled
    | cons byte bytes =>
      cases rest <;> simp [identifiers, List.intercalate]

theorem parseIdentifiers_identifiers (values : List Bytes)
    (bounded : boundedUniqueIdentifiers values = true) :
    parseIdentifiers (identifiers values) = some values := by
  obtain ⟨nonempty, short, safe, unique⟩ := (boundedUniqueIdentifiers_iff values).mp bounded
  have commaFree : ∀ value ∈ values, (44 : UInt8) ∉ value := fun value member =>
    (safeIdentifier_notMem value (safe value member)).2.2.1
  have filled := identifiers_ne_nil values bounded
  rw [parseIdentifiers, if_neg (by simpa using filled), identifiers,
    List.splitOn_intercalate 44 commaFree nonempty]
  simpa using foldlM_appendIdentifier values [] safe (by simpa using unique) (by simpa using short)

private theorem mem_intercalate (separator byte : UInt8) (values : List Bytes)
    (member : byte ∈ [separator].intercalate values) :
    byte = separator ∨ ∃ value ∈ values, byte ∈ value := by
  induction values with
  | nil => simp at member
  | cons value rest ih =>
    cases rest with
    | nil =>
      simp only [List.intercalate_singleton] at member
      exact .inr ⟨value, List.mem_cons_self, member⟩
    | cons next others =>
      rw [List.intercalate_cons_cons] at member
      simp only [List.append_assoc, List.cons_append, List.nil_append, List.mem_append,
        List.mem_cons] at member
      rcases member with inValue | isSeparator | inRest
      · exact .inr ⟨value, List.mem_cons_self, inValue⟩
      · exact .inl isSeparator
      · rcases ih inRest with isSeparator | ⟨other, inOthers, inOther⟩
        · exact .inl isSeparator
        · exact .inr ⟨other, List.mem_cons_of_mem _ inOthers, inOther⟩

theorem cString_identifiers (values : List Bytes)
    (safe : ∀ value ∈ values, safeIdentifier value = true) :
    cString (identifiers values) = identifiers values := by
  refine (cString_eq_self_iff _).mpr fun member => ?_
  rcases mem_intercalate 44 0 values member with separator | ⟨value, inValues, inValue⟩
  · exact absurd separator (by decide)
  · exact (safeIdentifier_notMem value (safe value inValues)).1 inValue

/-! ## Readable rows -/

def OwnershipRow.key (row : OwnershipRow) : Bytes × Bytes :=
  (row.backendId, row.authorityDomain)

def OwnershipRow.ownership (row : OwnershipRow) (allowedCapabilities : List Bytes) :
    BackendAgentLocalProviderOwnership :=
  { backendId := row.backendId
    authorityDomain := row.authorityDomain
    providerId := row.providerId
    providerKind := row.providerKind
    ownershipGeneration := row.ownershipGeneration
    allowedCapabilities := allowedCapabilities }

def OwnershipRow.Valid (row : OwnershipRow) : Prop :=
  ∃ allowedCapabilities, row.allowedCapabilities = identifiers allowedCapabilities ∧
    backendAgentLocalProviderValidOwnership (row.ownership allowedCapabilities) = true

structure OwnershipTableValid (rows : List OwnershipRow) : Prop where
  unique : (rows.map OwnershipRow.key).Nodup
  valid : ∀ row ∈ rows, row.Valid

theorem OwnershipTableValid.row_unique {rows : List OwnershipRow} (table : OwnershipTableValid rows)
    {left right : OwnershipRow} (leftMember : left ∈ rows) (rightMember : right ∈ rows)
    (same : left.key = right.key) : left = right :=
  List.inj_on_of_nodup_map table.unique leftMember rightMember same

theorem keyed_iff (backendId authorityDomain : Bytes) (row : OwnershipRow) :
    row.keyed backendId authorityDomain = true ↔
      row.key = (cString backendId, cString authorityDomain) := by
  simp [OwnershipRow.keyed, OwnershipRow.key]

theorem validOwnership_parts (ownership : BackendAgentLocalProviderOwnership)
    (valid : backendAgentLocalProviderValidOwnership ownership = true) :
    safeIdentifier ownership.backendId = true ∧ safeIdentifier ownership.authorityDomain = true ∧
    safeIdentifier ownership.providerId = true ∧
    backendAgentLocalProviderKnownKind ownership.providerKind = true ∧
    0 < ownership.ownershipGeneration ∧
    boundedUniqueIdentifiers ownership.allowedCapabilities = true := by
  simpa [backendAgentLocalProviderValidOwnership, and_assoc] using valid

theorem readOwnership_of_valid (row : OwnershipRow) (valid : row.Valid) :
    ∃ allowedCapabilities, row.allowedCapabilities = identifiers allowedCapabilities ∧
      boundedUniqueIdentifiers allowedCapabilities = true ∧
      readOwnership row.backendId row.authorityDomain row =
        { present := true, active := row.active, ownership := row.ownership allowedCapabilities } := by
  obtain ⟨allowedCapabilities, encoded, accepted⟩ := valid
  have bounded := (validOwnership_parts _ accepted).2.2.2.2.2
  refine ⟨allowedCapabilities, encoded, bounded, ?_⟩
  have parsed : parseIdentifiers row.allowedCapabilities = some allowedCapabilities := by
    rw [encoded]
    exact parseIdentifiers_identifiers allowedCapabilities bounded
  simp only [OwnershipRow.ownership] at accepted
  simp [readOwnership, parsed, accepted, OwnershipRow.ownership]

theorem localProviderOwnershipStatus_cases (rows : List OwnershipRow)
    (table : OwnershipTableValid rows) (backendId authorityDomain : Bytes)
    (backendSafe : cString backendId = backendId)
    (domainSafe : cString authorityDomain = authorityDomain) :
    (localProviderOwnershipStatus rows backendId authorityDomain = {} ∧
      ∀ row ∈ rows, row.key ≠ (backendId, authorityDomain)) ∨
    ∃ row ∈ rows, row.key = (backendId, authorityDomain) ∧ ∃ allowedCapabilities,
      row.allowedCapabilities = identifiers allowedCapabilities ∧
      boundedUniqueIdentifiers allowedCapabilities = true ∧
      localProviderOwnershipStatus rows backendId authorityDomain =
        { present := true, active := row.active, ownership := row.ownership allowedCapabilities } := by
  cases found : rows.find? (OwnershipRow.keyed backendId authorityDomain) with
  | none =>
    refine .inl ⟨by simp [localProviderOwnershipStatus, found], ?_⟩
    intro row member same
    have excluded := List.find?_eq_none.mp found row member
    exact excluded ((keyed_iff _ _ _).mpr (by rw [same, backendSafe, domainSafe]))
  | some row =>
    have member := List.mem_of_find?_eq_some found
    have key : row.key = (backendId, authorityDomain) := by
      rw [(keyed_iff _ _ _).mp (List.find?_some found), backendSafe, domainSafe]
    obtain ⟨allowedCapabilities, encoded, bounded, read⟩ :=
      readOwnership_of_valid row (table.valid row member)
    refine .inr ⟨row, member, key, allowedCapabilities, encoded, bounded, ?_⟩
    rw [localProviderOwnershipStatus, found, ← read]
    simp only [OwnershipRow.key, Prod.mk.injEq] at key
    rw [key.1, key.2]

/-! ## Changes -/

def OwnershipContinues (earlier later : List OwnershipRow) : Prop :=
  ∀ row ∈ earlier, ∃ successor ∈ later, successor.key = row.key ∧
    (successor = row ∨ row.ownershipGeneration < successor.ownershipGeneration)

theorem OwnershipContinues.refl (rows : List OwnershipRow) : OwnershipContinues rows rows :=
  fun row member => ⟨row, member, rfl, .inl rfl⟩

theorem OwnershipContinues.trans {first second third : List OwnershipRow}
    (earlier : OwnershipContinues first second) (later : OwnershipContinues second third) :
    OwnershipContinues first third := by
  intro row member
  obtain ⟨middle, middleMember, middleKey, middleChange⟩ := earlier row member
  obtain ⟨last, lastMember, lastKey, lastChange⟩ := later middle middleMember
  refine ⟨last, lastMember, lastKey.trans middleKey, ?_⟩
  rcases middleChange with rfl | middleGrew
  · exact lastChange
  · rcases lastChange with rfl | lastGrew
    · exact .inr middleGrew
    · exact .inr (lt_trans middleGrew lastGrew)

def OwnershipRow.standing (row : OwnershipRow) : Bytes × Bytes × Bytes × Bool :=
  (row.providerId, row.providerKind, row.allowedCapabilities, row.active)

def OwnershipSteps (before after : List OwnershipRow) : Prop :=
  ∀ row ∈ before, ∃ successor ∈ after, successor.key = row.key ∧
    (successor = row ∨ (successor.standing ≠ row.standing ∧
      row.ownershipGeneration < successor.ownershipGeneration))

theorem OwnershipSteps.refl (rows : List OwnershipRow) : OwnershipSteps rows rows :=
  fun row member => ⟨row, member, rfl, .inl rfl⟩

theorem OwnershipSteps.continues {before after : List OwnershipRow}
    (steps : OwnershipSteps before after) : OwnershipContinues before after := by
  intro row member
  obtain ⟨successor, successorMember, key, change⟩ := steps row member
  exact ⟨successor, successorMember, key, change.imp_right And.right⟩

/-- A valid row written under its key, with another standing than the row it replaces and a larger
generation. -/
structure OwnershipWrite (rows : List OwnershipRow) (written : OwnershipRow)
    (outcome : List OwnershipRow) : Prop where
  valid : written.Valid
  grows : ∀ row ∈ rows, row.key = written.key →
    row.ownershipGeneration < written.ownershipGeneration
  moves : ∀ row ∈ rows, row.key = written.key → written.standing ≠ row.standing
  upserted : outcome = upsertOwnership rows written

theorem OwnershipRow.Valid.key_cString {row : OwnershipRow} (valid : row.Valid) :
    cString row.backendId = row.backendId ∧ cString row.authorityDomain = row.authorityDomain := by
  obtain ⟨_, -, accepted⟩ := valid
  obtain ⟨backend, domain, -⟩ := validOwnership_parts _ accepted
  exact ⟨cString_safeIdentifier _ backend, cString_safeIdentifier _ domain⟩

private theorem keyed_of_valid {written : OwnershipRow} (valid : written.Valid) (row : OwnershipRow) :
    row.keyed written.backendId written.authorityDomain = true ↔ row.key = written.key := by
  rw [keyed_iff, valid.key_cString.1, valid.key_cString.2]
  rfl

theorem upsertOwnership_cases (rows : List OwnershipRow) (written : OwnershipRow)
    (valid : written.Valid) :
    (written.key ∈ rows.map OwnershipRow.key ∧ upsertOwnership rows written =
      rows.map fun row => if row.key = written.key then written else row) ∨
    (written.key ∉ rows.map OwnershipRow.key ∧ upsertOwnership rows written = rows ++ [written]) := by
  have present : rows.any (OwnershipRow.keyed written.backendId written.authorityDomain) = true ↔
      written.key ∈ rows.map OwnershipRow.key := by
    simp only [List.any_eq_true, keyed_of_valid valid, List.mem_map]
  by_cases occupied : written.key ∈ rows.map OwnershipRow.key
  · refine .inl ⟨occupied, ?_⟩
    simp only [upsertOwnership, present.mpr occupied, if_true, keyed_of_valid valid]
  · refine .inr ⟨occupied, ?_⟩
    simp [upsertOwnership, mt present.mp occupied]

theorem OwnershipWrite.table {rows outcome : List OwnershipRow} {written : OwnershipRow}
    (write : OwnershipWrite rows written outcome) (table : OwnershipTableValid rows) :
    OwnershipTableValid outcome := by
  rw [write.upserted]
  rcases upsertOwnership_cases rows written write.valid with ⟨-, shape⟩ | ⟨fresh, shape⟩
  · rw [shape]
    constructor
    · have keys : ((rows.map fun row => if row.key = written.key then written else row).map
          OwnershipRow.key) = rows.map OwnershipRow.key := by
        rw [List.map_map]
        refine List.map_congr_left fun row _ => ?_
        by_cases same : row.key = written.key <;> simp [same]
      rw [keys]
      exact table.unique
    · intro row member
      obtain ⟨previous, previousMember, rfl⟩ := List.mem_map.mp member
      by_cases same : previous.key = written.key
      · simpa [same] using write.valid
      · simpa [same] using table.valid previous previousMember
  · rw [shape]
    constructor
    · rw [List.map_append]
      refine List.nodup_append.mpr ⟨table.unique, List.nodup_singleton _, ?_⟩
      intro key member other otherMember
      simp only [List.map_cons, List.map_nil, List.mem_singleton] at otherMember
      rintro rfl
      exact fresh (otherMember ▸ member)
    · intro row member
      rcases List.mem_append.mp member with old | new
      · exact table.valid row old
      · exact List.mem_singleton.mp new ▸ write.valid

theorem OwnershipWrite.steps {rows outcome : List OwnershipRow} {written : OwnershipRow}
    (write : OwnershipWrite rows written outcome) : OwnershipSteps rows outcome := by
  intro row member
  rw [write.upserted]
  rcases upsertOwnership_cases rows written write.valid with ⟨-, shape⟩ | ⟨-, shape⟩
  · rw [shape]
    by_cases same : row.key = written.key
    · exact ⟨written, List.mem_map.mpr ⟨row, member, by simp [same]⟩, same.symm,
        .inr ⟨write.moves row member same, write.grows row member same⟩⟩
    · exact ⟨row, List.mem_map.mpr ⟨row, member, by simp [same]⟩, rfl, .inl rfl⟩
  · rw [shape]
    exact ⟨row, List.mem_append_left _ member, rfl, .inl rfl⟩

theorem ownershipRow_spec (arguments : OwnershipArguments) (generation : Nat)
    (admissible : backendAgentLocalProviderValidOwnership (arguments.candidate 1) = true)
    (positive : 0 < generation) :
    (ownershipRow arguments generation).Valid ∧
    (ownershipRow arguments generation).key = (arguments.backendId, arguments.authorityDomain) ∧
    cString arguments.backendId = arguments.backendId ∧
    cString arguments.authorityDomain = arguments.authorityDomain := by
  obtain ⟨backend, domain, provider, kind, -, capabilities⟩ := validOwnership_parts _ admissible
  have backendSafe : cString arguments.backendId = arguments.backendId :=
    cString_safeIdentifier _ backend
  have domainSafe : cString arguments.authorityDomain = arguments.authorityDomain :=
    cString_safeIdentifier _ domain
  have providerSafe : cString arguments.providerId = arguments.providerId :=
    cString_safeIdentifier _ provider
  have kindSafe : cString arguments.providerKind = arguments.providerKind :=
    cString_knownKind _ kind
  refine ⟨⟨arguments.allowedCapabilities, ?_, ?_⟩, ?_, backendSafe, domainSafe⟩
  · exact cString_identifiers _ ((boundedUniqueIdentifiers_iff _).mp capabilities).2.2.1
  · simp only [OwnershipRow.ownership, ownershipRow, backendSafe, domainSafe, providerSafe, kindSafe]
    simp only [backendAgentLocalProviderValidOwnership, OwnershipArguments.candidate,
      Bool.and_eq_true, decide_eq_true_eq] at admissible ⊢
    exact ⟨⟨admissible.1.1, positive⟩, admissible.2⟩
  · simp [OwnershipRow.key, ownershipRow, backendSafe, domainSafe]

/-- A set call leaves the table alone or writes the requested owner under a new generation. -/
theorem setLocalProviderOwnership_cases (persists : Bool) (rows : List OwnershipRow)
    (table : OwnershipTableValid rows) (arguments : OwnershipArguments) :
    (setLocalProviderOwnership persists rows arguments).1 = rows ∨
    ∃ generation, OwnershipWrite rows (ownershipRow arguments generation)
      (setLocalProviderOwnership persists rows arguments).1 := by
  simp only [setLocalProviderOwnership]
  split
  · exact .inl rfl
  · rename_i admissible
    simp only [not_or, Bool.not_eq_false] at admissible
    split
    · exact .inl rfl
    · rename_i changed
      split
      · exact .inl rfl
      · split
        · exact .inl rfl
        · have positive : 0 < if (localProviderOwnershipStatus rows arguments.backendId
              arguments.authorityDomain).present = true then
              (localProviderOwnershipStatus rows arguments.backendId
                arguments.authorityDomain).ownership.ownershipGeneration + 1 else 1 := by
            split <;> omega
          obtain ⟨valid, key, backendSafe, domainSafe⟩ :=
            ownershipRow_spec arguments _ admissible.2 positive
          obtain ⟨-, -, provider, kind, -, capabilities⟩ := validOwnership_parts _ admissible.2
          refine .inr ⟨_, valid, ?_, ?_, rfl⟩
          · intro row member same
            rcases localProviderOwnershipStatus_cases rows table arguments.backendId
                arguments.authorityDomain backendSafe domainSafe with
              ⟨-, absent⟩ | ⟨current, currentMember, currentKey, _, -, -, status⟩
            · exact absurd (same.trans key) (absent row member)
            · have sameRow : row = current :=
                table.row_unique member currentMember ((same.trans key).trans currentKey.symm)
              simp [status, sameRow, ownershipRow, OwnershipRow.ownership]
          · intro row member same standing
            rcases localProviderOwnershipStatus_cases rows table arguments.backendId
                arguments.authorityDomain backendSafe domainSafe with
              ⟨-, absent⟩ | ⟨current, currentMember, currentKey, allowed, spelled, bounded, status⟩
            · exact absurd (same.trans key) (absent row member)
            · have sameRow : row = current :=
                table.row_unique member currentMember ((same.trans key).trans currentKey.symm)
              rw [sameRow] at standing
              have providerSafe : cString arguments.providerId = arguments.providerId :=
                cString_safeIdentifier _ provider
              have kindSafe : cString arguments.providerKind = arguments.providerKind :=
                cString_knownKind _ kind
              have listSafe : cString (identifiers arguments.allowedCapabilities) =
                  identifiers arguments.allowedCapabilities :=
                cString_identifiers _ ((boundedUniqueIdentifiers_iff _).mp capabilities).2.2.1
              simp only [OwnershipRow.standing, ownershipRow, Prod.mk.injEq, providerSafe,
                kindSafe, listSafe] at standing
              obtain ⟨sameProvider, sameKind, sameColumn, active⟩ := standing
              -- Two capability lists in one column are one list, so the call was idempotent.
              have sameList : allowed = arguments.allowedCapabilities := by
                have parsed := parseIdentifiers_identifiers allowed bounded
                have requested : parseIdentifiers (identifiers arguments.allowedCapabilities) =
                    some arguments.allowedCapabilities :=
                  parseIdentifiers_identifiers _ capabilities
                rw [← spelled, ← sameColumn] at parsed
                exact Option.some.inj (parsed.symm.trans requested)
              refine changed ?_
              rw [status]
              exact ⟨rfl, active.symm, sameProvider.symm, sameKind.symm, sameList⟩

private theorem deactivateOwnership_write (persists : Bool) {rows updated : List OwnershipRow}
    (table : OwnershipTableValid rows) (backendId authorityDomain : Bytes) (updatedAt : Int)
    (backendSafe : cString backendId = backendId)
    (domainSafe : cString authorityDomain = authorityDomain)
    (current : OwnershipRow) (currentMember : current ∈ rows)
    (currentKey : current.key = (backendId, authorityDomain)) (active : current.active = true)
    (update : deactivateOwnership persists rows backendId authorityDomain
      (current.ownershipGeneration + 1) updatedAt = some updated) :
    ∃ written, OwnershipWrite rows written updated := by
  let written : OwnershipRow :=
    { current with
      active := false, ownershipGeneration := current.ownershipGeneration + 1
      updatedAt := updatedAt }
  have valid : written.Valid := by
    obtain ⟨allowed, spelled, accepted⟩ := table.valid current currentMember
    refine ⟨allowed, spelled, ?_⟩
    simp only [OwnershipRow.ownership, backendAgentLocalProviderValidOwnership,
      Bool.and_eq_true] at accepted ⊢
    exact ⟨⟨accepted.1.1, by simp [written]⟩, accepted.2⟩
  refine ⟨written, valid, ?_, ?_, ?_⟩
  · intro row member same
    have sameRow : row = current := table.row_unique member currentMember same
    simp [sameRow, written]
  · intro row member same standing
    have sameRow : row = current := table.row_unique member currentMember same
    rw [sameRow] at standing
    simp [OwnershipRow.standing, written, active] at standing
  · simp only [deactivateOwnership] at update
    split at update
    · cases update
    · simp only [Option.some.injEq] at update
      rcases upsertOwnership_cases rows written valid with ⟨-, shape⟩ | ⟨fresh, -⟩
      · rw [shape, ← update]
        refine List.map_congr_left fun row member => ?_
        have addressed : (row.keyed backendId authorityDomain && row.active) = true ↔
            row.key = written.key := by
          rw [Bool.and_eq_true, keyed_iff, backendSafe, domainSafe, ← currentKey]
          constructor
          · exact fun both => both.1
          · intro same
            have sameRow : row = current := table.row_unique member currentMember same
            rw [sameRow]
            exact ⟨rfl, active⟩
        by_cases same : row.key = written.key
        · have sameRow : row = current := table.row_unique member currentMember same
          rw [if_pos (addressed.mpr same), if_pos same, sameRow]
        · rw [if_neg (mt addressed.mp same), if_neg same]
      · exact absurd (List.mem_map.mpr ⟨current, currentMember, rfl⟩) fresh

/-- A clear call leaves the table alone or writes the same owner, inactive, one generation on. -/
theorem clearLocalProviderOwnership_cases (persists : Bool) (rows : List OwnershipRow)
    (table : OwnershipTableValid rows) (backendId authorityDomain : Bytes) (updatedAt : Int) :
    (clearLocalProviderOwnership persists rows backendId authorityDomain updatedAt).1 = rows ∨
    ∃ written, OwnershipWrite rows written
      (clearLocalProviderOwnership persists rows backendId authorityDomain updatedAt).1 := by
  simp only [clearLocalProviderOwnership]
  split
  · exact .inl rfl
  · rename_i admissible
    simp only [not_or, Bool.not_eq_false] at admissible
    have backendSafe := cString_safeIdentifier _ admissible.2.1
    have domainSafe := cString_safeIdentifier _ admissible.2.2
    rcases localProviderOwnershipStatus_cases rows table backendId authorityDomain backendSafe
        domainSafe with
      ⟨status, -⟩ | ⟨current, currentMember, currentKey, capabilities, -, -, status⟩
    · simp [status]
    · rw [status]
      split
      · exact .inl rfl
      · rename_i present
        simp only [not_or, Bool.not_eq_false] at present
        split
        · exact .inl rfl
        · split
          · exact .inl rfl
          · rename_i updated update
            exact .inr (deactivateOwnership_write persists table backendId authorityDomain updatedAt
              backendSafe domainSafe current currentMember currentKey present.2 update)

/-! ## Fences -/

/-- The row under which a selection was made: the active owner, its kind and its generation. -/
def OwnershipRow.Grants (row : OwnershipRow) (selection : BackendAgentLocalProviderSelection) : Prop :=
  row.key = (selection.backendId, selection.authorityDomain) ∧ row.active = true ∧
  row.providerId = selection.providerId ∧ row.providerKind = selection.providerKind ∧
  row.ownershipGeneration = selection.ownershipGeneration

/-- Ownership has moved past a selection: its row is as recent as the selection but grants it not. -/
def OwnershipMoved (rows : List OwnershipRow) (selection : BackendAgentLocalProviderSelection) : Prop :=
  ∃ row ∈ rows, row.key = (selection.backendId, selection.authorityDomain) ∧
    selection.ownershipGeneration ≤ row.ownershipGeneration ∧ ¬ row.Grants selection

theorem OwnershipMoved.continues {earlier later : List OwnershipRow}
    {selection : BackendAgentLocalProviderSelection} (moved : OwnershipMoved earlier selection)
    (continued : OwnershipContinues earlier later) : OwnershipMoved later selection := by
  obtain ⟨row, member, key, recent, refused⟩ := moved
  obtain ⟨successor, successorMember, successorKey, change⟩ := continued row member
  refine ⟨successor, successorMember, successorKey.trans key, ?_⟩
  rcases change with rfl | grew
  · exact ⟨recent, refused⟩
  · refine ⟨le_trans recent (le_of_lt grew), ?_⟩
    rintro ⟨-, -, -, -, generation⟩
    omega

/-- A selection that was granted once has been moved past as soon as it is no longer granted. -/
theorem OwnershipMoved.of_granted {earlier later : List OwnershipRow} {selection : BackendAgentLocalProviderSelection}
    (continued : OwnershipContinues earlier later)
    (granted : ∃ row ∈ earlier, row.Grants selection)
    (refused : ¬ ∃ row ∈ later, row.Grants selection) : OwnershipMoved later selection := by
  obtain ⟨row, member, grants⟩ := granted
  obtain ⟨successor, successorMember, successorKey, change⟩ := continued row member
  refine ⟨successor, successorMember, successorKey.trans grants.1, ?_, ?_⟩
  · have generation := grants.2.2.2.2
    rcases change with rfl | grew <;> omega
  · exact fun grantsAgain => refused ⟨successor, successorMember, grantsAgain⟩

theorem backendAgentLocalProviderSelect_ok (ownership : BackendAgentLocalProviderOwnership)
    (facts : BackendAgentLocalProviderFacts) (requiredCapability : Bytes)
    (selection : BackendAgentLocalProviderSelection)
    (success : backendAgentLocalProviderSelect ownership facts requiredCapability = .ok selection) :
    selection.backendId = ownership.backendId ∧
    selection.authorityDomain = ownership.authorityDomain ∧
    selection.providerId = ownership.providerId ∧
    selection.providerKind = ownership.providerKind ∧
    selection.ownershipGeneration = ownership.ownershipGeneration := by
  simp only [backendAgentLocalProviderSelect] at success
  repeat' split at success
  all_goals cases success
  exact ⟨rfl, rfl, rfl, rfl, rfl⟩

theorem selectLocalProvider_ok (ownershipRows : List OwnershipRow)
    (table : OwnershipTableValid ownershipRows) (factsRows : List FactsRow)
    (backendId agentId agentInstanceId : Bytes) (backendGeneration : Nat)
    (authorityDomain requiredCapability : Bytes) (selection : BackendAgentLocalProviderSelection)
    (backendSafe : cString backendId = backendId)
    (domainSafe : cString authorityDomain = authorityDomain)
    (success : selectLocalProvider ownershipRows factsRows backendId agentId agentInstanceId
      backendGeneration authorityDomain requiredCapability = .ok selection) :
    ∃ row ∈ ownershipRows, row.Grants selection := by
  simp only [selectLocalProvider] at success
  rcases localProviderOwnershipStatus_cases ownershipRows table backendId authorityDomain backendSafe
      domainSafe with
    ⟨status, -⟩ | ⟨row, member, key, capabilities, -, -, status⟩
  · simp [status] at success
  · rw [status] at success
    split at success
    · cases success
    · rename_i present
      simp only [not_or, Bool.not_eq_false] at present
      split at success
      · cases success
      · split at success
        · cases success
        · split at success
          · cases success
          · rename_i facts _ chosen selected
            split at success
            · simp only [Except.ok.injEq] at success
              subst success
              obtain ⟨backend, domain, provider, kind, generation⟩ :=
                backendAgentLocalProviderSelect_ok _ _ _ _ selected
              refine ⟨row, member, ?_, present.2, provider.symm, kind.symm, generation.symm⟩
              rw [backend, domain]
              rfl
            · cases success

theorem backendAgentLocalProviderSameFence_iff (left right : BackendAgentLocalProviderSelection) :
    backendAgentLocalProviderSameFence left right = true ↔
      backendAgentLocalProviderValidSelection left = true ∧ left = right := by
  constructor
  · intro same
    cases left
    cases right
    simp only [backendAgentLocalProviderSameFence, Bool.and_eq_true, beq_iff_eq] at same
    simp only [BackendAgentLocalProviderSelection.mk.injEq]
    tauto
  · rintro ⟨valid, rfl⟩
    simp [backendAgentLocalProviderSameFence, valid]

end VdrSuite.Core
