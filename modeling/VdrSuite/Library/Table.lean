import Mathlib.Data.List.Nodup

/-! Tables of rows with a primary key and unique indexes: lookups, and how the usual statements change
them. -/

set_option autoImplicit false

namespace VdrSuite.Library.Table

variable {Row Key : Type} (key : Row → Key)

/-- `UPDATE … WHERE`. -/
def update (selected : Row → Bool) (change : Row → Row) (rows : List Row) : List Row :=
  rows.map fun row => if selected row then change row else row

/-- `DELETE … WHERE`. -/
def delete (selected : Row → Bool) (rows : List Row) : List Row :=
  rows.filter fun row => !selected row

def Keyed (rows : List Row) : Prop := (rows.map key).Nodup

theorem map_key_update {selected : Row → Bool} {change : Row → Row}
    (keeps : ∀ row, selected row = true → key (change row) = key row) (rows : List Row) :
    (update selected change rows).map key = rows.map key := by
  simp only [update, List.map_map, List.map_inj_left, Function.comp_apply]
  intro row _
  split
  · next chosen => exact keeps row chosen
  · rfl

theorem keyed_update {selected : Row → Bool} {change : Row → Row}
    (keeps : ∀ row, selected row = true → key (change row) = key row) {rows : List Row}
    (keyed : Keyed key rows) : Keyed key (update selected change rows) := by
  unfold Keyed
  rw [map_key_update key keeps]
  exact keyed

theorem keyed_delete (selected : Row → Bool) {rows : List Row} (keyed : Keyed key rows) :
    Keyed key (delete selected rows) :=
  keyed.sublist ((List.filter_sublist).map key)

/-! ## Statements in a row -/

theorem delete_delete (first second : Row → Bool) (rows : List Row) :
    delete second (delete first rows) = delete (fun row => first row || second row) rows := by
  simp only [delete, List.filter_filter]
  congr 1
  funext row
  cases first row <;> cases second row <;> rfl

/-- Two updates that make the same change select together, if the change is made once for all. -/
theorem update_update {first second : Row → Bool} (change : Row → Row)
    (same : ∀ row, second (change row) = second row)
    (once : ∀ row, change (change row) = change row) (rows : List Row) :
    update second change (update first change rows) =
      update (fun row => first row || second row) change rows := by
  simp only [update, List.map_map, List.map_inj_left, Function.comp_apply]
  intro row _
  by_cases chosen : first row = true
  · simp [chosen, same, once]
  · simp [chosen]

theorem update_congr {first second : Row → Bool} {change : Row → Row}
    (agree : ∀ row, first row = second row ∨ change row = row) (rows : List Row) :
    update first change rows = update second change rows := by
  simp only [update, List.map_inj_left]
  intro row _
  rcases agree row with same | unchanged
  · rw [same]
  · simp [unchanged]

/-! ## Unique indexes -/

def Unique {Value : Type} (index : Row → Option Value) (rows : List Row) : Prop :=
  ∀ first ∈ rows, ∀ second ∈ rows, ∀ value, index first = some value → index second = some value →
    first = second

theorem unique_nil {Value : Type} (index : Row → Option Value) : Unique index [] := by
  intro first member
  cases member

theorem unique_append {Value : Type} {index : Row → Option Value} {rows : List Row}
    (unique : Unique index rows) {row : Row}
    (free : ∀ other ∈ rows, ∀ value, index row = some value → index other ≠ some value) :
    Unique index (rows ++ [row]) := by
  intro first firstMember second secondMember value firstIndexed secondIndexed
  rw [List.mem_append, List.mem_singleton] at firstMember secondMember
  rcases firstMember with firstMember | rfl
  · rcases secondMember with secondMember | rfl
    · exact unique first firstMember second secondMember value firstIndexed secondIndexed
    · exact absurd firstIndexed (free first firstMember value secondIndexed)
  · rcases secondMember with secondMember | rfl
    · exact absurd secondIndexed (free second secondMember value firstIndexed)
    · rfl

theorem unique_map {Value : Type} {index : Row → Option Value} {rows : List Row}
    (unique : Unique index rows) {change : Row → Row}
    (kept : ∀ row ∈ rows, index (change row) = index row) : Unique index (rows.map change) := by
  intro _ firstImage _ secondImage value firstIndexed secondIndexed
  obtain ⟨first, firstMember, rfl⟩ := List.mem_map.mp firstImage
  obtain ⟨second, secondMember, rfl⟩ := List.mem_map.mp secondImage
  rw [kept first firstMember] at firstIndexed
  rw [kept second secondMember] at secondIndexed
  rw [unique first firstMember second secondMember value firstIndexed secondIndexed]

theorem unique_change {Value : Type} {index : Row → Option Value} {rows : List Row}
    (unique : Unique index rows) {row : Row} {change : Row → Row}
    (only : ∀ other ∈ rows, other ≠ row → change other = other)
    (free : ∀ other ∈ rows, other ≠ row → ∀ value, index (change row) = some value →
      index other ≠ some value) : Unique index (rows.map change) := by
  intro _ firstImage _ secondImage value firstIndexed secondIndexed
  obtain ⟨first, firstMember, rfl⟩ := List.mem_map.mp firstImage
  obtain ⟨second, secondMember, rfl⟩ := List.mem_map.mp secondImage
  by_cases firstChanged : first = row
  · subst firstChanged
    by_cases secondChanged : second = first
    · rw [secondChanged]
    · rw [only second secondMember secondChanged] at secondIndexed
      exact absurd secondIndexed (free second secondMember secondChanged value firstIndexed)
  · rw [only first firstMember firstChanged] at firstIndexed ⊢
    by_cases secondChanged : second = row
    · subst secondChanged
      exact absurd firstIndexed (free first firstMember firstChanged value secondIndexed)
    · rw [only second secondMember secondChanged] at secondIndexed ⊢
      exact unique first firstMember second secondMember value firstIndexed secondIndexed

theorem keyed_map {change : Row → Row} {rows : List Row} (keyed : Keyed key rows)
    (keeps : ∀ row ∈ rows, key (change row) = key row) : Keyed key (rows.map change) := by
  have same : rows.map (key ∘ change) = rows.map key := List.map_congr_left keeps
  unfold Keyed
  rw [List.map_map, same]
  exact keyed

theorem filter_eq_singleton {selected : Row → Bool} {rows : List Row} (keyed : Keyed key rows)
    {row : Row} (member : row ∈ rows) (chosen : selected row = true)
    (only : ∀ other ∈ rows, selected other = true → key other = key row) :
    rows.filter selected = [row] := by
  have unique : ∀ other ∈ rows.filter selected, other = row := by
    intro other found
    obtain ⟨listed, holds⟩ := List.mem_filter.mp found
    exact List.inj_on_of_nodup_map keyed listed member (only other listed holds)
  have distinct : (rows.filter selected).Nodup := (List.Nodup.of_map key keyed).filter selected
  have present : row ∈ rows.filter selected := List.mem_filter.mpr ⟨member, chosen⟩
  cases found : rows.filter selected with
  | nil => simp [found] at present
  | cons first rest =>
    rw [found] at unique distinct
    have leading := unique first List.mem_cons_self
    cases rest with
    | nil => rw [leading]
    | cons second rest =>
      have following := unique second (by simp)
      simp [leading, following] at distinct

theorem assoc_eq_some_iff {Name Value : Type} [BEq Name] [LawfulBEq Name]
    {entries : List (Name × Value)} (distinct : (entries.map Prod.fst).Nodup) (name : Name) (value : Value) :
    entries.lookup name = some value ↔ (name, value) ∈ entries := by
  induction entries with
  | nil => simp
  | cons entry rest ih =>
    obtain ⟨fresh, rest⟩ := List.nodup_cons.mp distinct
    rw [List.lookup_cons]
    by_cases same : name = entry.1
    · subst same
      simp only [beq_self_eq_true, Option.some.injEq, List.mem_cons]
      constructor
      · intro equal
        exact .inl (Prod.ext rfl equal.symm)
      · intro found
        cases found with
        | inl equal => rw [← equal]
        | inr later => exact absurd (List.mem_map_of_mem later) fresh
    · have apart : (name, value) ≠ entry := fun equal => same (congrArg Prod.fst equal)
      simp only [beq_eq_false_iff_ne.mpr same, List.mem_cons, apart, false_or]
      exact ih rest

variable [DecidableEq Key]

def lookup (wanted : Key) (rows : List Row) : Option Row :=
  rows.find? fun row => key row == wanted

/-- `INSERT … ON CONFLICT(key) DO UPDATE` of every other column. -/
def upsert (row : Row) (rows : List Row) : List Row :=
  if (lookup key (key row) rows).isSome then
    update (fun other => key other == key row) (fun _ => row) rows
  else rows ++ [row]

/-- `INSERT OR IGNORE` under a primary key. -/
def insertIfMissing (row : Row) (rows : List Row) : List Row :=
  if (lookup key (key row) rows).isSome then rows else rows ++ [row]

/-! ## Lookups -/

@[simp] theorem lookup_nil (wanted : Key) : lookup key wanted [] = none := rfl

theorem key_of_lookup {wanted : Key} {rows : List Row} {row : Row}
    (found : lookup key wanted rows = some row) : key row = wanted := by
  simpa using List.find?_some found

theorem mem_of_lookup {wanted : Key} {rows : List Row} {row : Row}
    (found : lookup key wanted rows = some row) : row ∈ rows :=
  List.mem_of_find?_eq_some found

theorem lookup_eq_none_iff {wanted : Key} {rows : List Row} :
    lookup key wanted rows = none ↔ wanted ∉ rows.map key := by
  simp [lookup, List.find?_eq_none]

theorem mem_iff_lookup {rows : List Row} (keyed : Keyed key rows) (row : Row) :
    row ∈ rows ↔ lookup key (key row) rows = some row := by
  constructor
  · intro member
    cases found : lookup key (key row) rows with
    | none => exact absurd (List.mem_map_of_mem member) ((lookup_eq_none_iff key).mp found)
    | some other =>
      rw [List.inj_on_of_nodup_map keyed (mem_of_lookup key found) member
        (key_of_lookup key found)]
  · exact mem_of_lookup key

/-! ## Updates -/

theorem lookup_update {selected : Row → Bool} {change : Row → Row}
    (keeps : ∀ row, selected row = true → key (change row) = key row) (wanted : Key)
    (rows : List Row) :
    lookup key wanted (update selected change rows) =
      (lookup key wanted rows).map fun row => if selected row then change row else row := by
  unfold lookup update
  rw [List.find?_map]
  congr 2
  funext row
  simp only [Function.comp_apply]
  split
  · next chosen => rw [keeps row chosen]
  · rfl

/-! ## Deletions -/

theorem lookup_delete {selected : Row → Bool} {gone : Key → Bool}
    (byKey : ∀ row, selected row = gone (key row)) (wanted : Key) (rows : List Row) :
    lookup key wanted (delete selected rows) =
      if gone wanted then none else lookup key wanted rows := by
  induction rows with
  | nil => simp [delete]
  | cons row rest ih =>
    simp only [lookup, delete, List.filter_cons, byKey] at ih ⊢
    by_cases same : key row = wanted
    · subst same
      cases erased : gone (key row) with
      | true => simpa [erased] using ih
      | false => simp
    · cases erased : gone (key row) with
      | true => simpa [erased, same] using ih
      | false => simpa [erased, same] using ih

/-! ## Insertions -/

theorem lookup_append_new {wanted : Key} {rows : List Row} {row : Row} :
    lookup key wanted (rows ++ [row]) =
      (lookup key wanted rows).or (if key row = wanted then some row else none) := by
  unfold lookup
  rw [List.find?_append]
  congr 1
  by_cases same : key row = wanted
  · simp [same]
  · simp [same]

theorem keyed_append_new {rows : List Row} {row : Row} (keyed : Keyed key rows)
    (fresh : lookup key (key row) rows = none) : Keyed key (rows ++ [row]) := by
  unfold Keyed
  rw [List.map_append, List.nodup_append]
  refine ⟨keyed, by simp, ?_⟩
  rintro first member second ⟨⟩ same
  · rw [same] at member
    exact (lookup_eq_none_iff key).mp fresh member
  · next absurdity => cases absurdity

theorem keyed_upsert {rows : List Row} {row : Row} (keyed : Keyed key rows) :
    Keyed key (upsert key row rows) := by
  unfold upsert
  split
  · apply keyed_update key _ keyed
    intro other same
    exact (beq_iff_eq.mp same).symm
  · next absent => exact keyed_append_new key keyed (by simpa using absent)

theorem lookup_upsert (wanted : Key) (row : Row) (rows : List Row) :
    lookup key wanted (upsert key row rows) =
      if key row = wanted then some row else lookup key wanted rows := by
  unfold upsert
  split
  · next present =>
    rw [lookup_update key (by intro other same; exact (beq_iff_eq.mp same).symm)]
    by_cases same : key row = wanted
    · subst same
      obtain ⟨other, found⟩ := Option.isSome_iff_exists.mp present
      simp [found, key_of_lookup key found]
    · rw [if_neg same]
      cases found : lookup key wanted rows with
      | none => rfl
      | some other =>
        have different : key other ≠ key row := by
          rw [key_of_lookup key found]
          exact fun equal => same equal.symm
        simp [different]
  · next absent =>
    have none : lookup key (key row) rows = none := by simpa using absent
    rw [lookup_append_new]
    by_cases same : key row = wanted
    · subst same
      simp [none]
    · simp [same]

theorem lookup_upsertAll (wanted : Key) (written rows : List Row) :
    lookup key wanted (written.foldl (fun rows row => upsert key row rows) rows) =
      (lookup key wanted written.reverse).or (lookup key wanted rows) := by
  induction written generalizing rows with
  | nil => rfl
  | cons row written ih =>
    rw [List.foldl_cons, ih, lookup_upsert, List.reverse_cons, lookup_append_new, Option.or_assoc]
    congr 1
    split <;> rfl

end VdrSuite.Library.Table
