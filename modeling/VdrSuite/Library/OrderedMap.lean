import Mathlib.Data.List.Nodup

/-! Maps with one value for each key; a new entry goes before the first one with a larger key. -/

set_option autoImplicit false

namespace VdrSuite.Library

structure OrderedMap (Key Value : Type) where
  entries : List (Key × Value)
  distinct : (entries.map Prod.fst).Nodup

namespace OrderedMap

variable {Key Value : Type}

def empty : OrderedMap Key Value := ⟨[], List.nodup_nil⟩

def keys (table : OrderedMap Key Value) : List Key := table.entries.map Prod.fst

def insertEntry [LT Key] [DecidableLT Key] (key : Key) (value : Value) :
    List (Key × Value) → List (Key × Value)
  | [] => [(key, value)]
  | entry :: rest =>
    if key < entry.1 then (key, value) :: entry :: rest
    else entry :: insertEntry key value rest

theorem insertEntry_perm [LT Key] [DecidableLT Key] (key : Key) (value : Value)
    (entries : List (Key × Value)) : (insertEntry key value entries).Perm ((key, value) :: entries) := by
  induction entries with
  | nil => exact .refl _
  | cons entry rest ih =>
    rw [insertEntry]
    split
    · exact .refl _
    · exact (ih.cons entry).trans (.swap (key, value) entry rest)

def changedEntries (change : Key → Value → Option Value) (entries : List (Key × Value)) :
    List (Key × Value) :=
  entries.filterMap fun entry => (change entry.1 entry.2).map (entry.1, ·)

theorem changedEntries_keys (change : Key → Value → Option Value) (entries : List (Key × Value)) :
    ((changedEntries change entries).map Prod.fst).Sublist (entries.map Prod.fst) := by
  induction entries with
  | nil => exact .refl _
  | cons entry rest ih =>
    rw [changedEntries, List.filterMap_cons]
    cases change entry.1 entry.2 with
    | none => exact ih.cons entry.1
    | some value => exact ih.cons_cons entry.1

theorem mem_changedEntries {change : Key → Value → Option Value} {entries : List (Key × Value)}
    {key : Key} {value : Value} :
    (key, value) ∈ changedEntries change entries ↔
      ∃ old, (key, old) ∈ entries ∧ change key old = some value := by
  simp only [changedEntries, List.mem_filterMap, Option.map_eq_some_iff, Prod.mk.injEq, Prod.exists]
  constructor
  · rintro ⟨_, old, member, _, changed, rfl, rfl⟩
    exact ⟨old, member, changed⟩
  · rintro ⟨old, member, changed⟩
    exact ⟨key, old, member, value, changed, rfl, rfl⟩

section
variable [DecidableEq Key]

def get (table : OrderedMap Key Value) (key : Key) : Option Value :=
  (table.entries.find? fun entry => entry.1 = key).map Prod.snd

def erase (table : OrderedMap Key Value) (key : Key) : OrderedMap Key Value :=
  ⟨table.entries.filter fun entry => entry.1 ≠ key,
    table.distinct.sublist (List.filter_sublist.map Prod.fst)⟩

def assign [LT Key] [DecidableLT Key] (table : OrderedMap Key Value) (key : Key) (value : Value) :
    OrderedMap Key Value :=
  ⟨insertEntry key value (table.erase key).entries, by
    have keys := (insertEntry_perm key value (table.erase key).entries).map Prod.fst
    rw [keys.nodup_iff, List.map_cons, List.nodup_cons]
    refine ⟨?_, (table.erase key).distinct⟩
    simp [erase]⟩

def filterMap (table : OrderedMap Key Value) (change : Key → Value → Option Value) :
    OrderedMap Key Value :=
  ⟨changedEntries change table.entries,
    table.distinct.sublist (changedEntries_keys change table.entries)⟩

/-! ## Lookups -/

variable {table : OrderedMap Key Value}

theorem get_eq_some_iff {key : Key} {value : Value} :
    table.get key = some value ↔ (key, value) ∈ table.entries := by
  rw [get, Option.map_eq_some_iff]
  constructor
  · rintro ⟨entry, found, rfl⟩
    have same : entry.1 = key := by simpa using List.find?_some found
    rw [← same]
    exact List.mem_of_find?_eq_some found
  · intro member
    cases found : table.entries.find? fun entry => entry.1 = key with
    | none =>
      have other := List.find?_eq_none.mp found (key, value) member
      simp at other
    | some entry =>
      have same : entry.1 = key := by simpa using List.find?_some found
      have equal := List.inj_on_of_nodup_map table.distinct (List.mem_of_find?_eq_some found)
        member same
      exact ⟨entry, rfl, by rw [equal]⟩

theorem mem_keys_iff {key : Key} : key ∈ table.keys ↔ (table.get key).isSome = true := by
  rw [keys, List.mem_map, Option.isSome_iff_exists]
  constructor
  · rintro ⟨⟨_, value⟩, member, rfl⟩
    exact ⟨value, (get_eq_some_iff).mpr member⟩
  · rintro ⟨value, found⟩
    exact ⟨(key, value), (get_eq_some_iff).mp found, rfl⟩

@[simp] theorem get_empty (key : Key) : (empty : OrderedMap Key Value).get key = none := rfl

@[simp] theorem get_erase (key wanted : Key) :
    (table.erase key).get wanted = if wanted = key then none else table.get wanted := by
  apply Option.ext
  intro value
  rw [get_eq_some_iff]
  split
  · next same => simp [erase, same]
  · next other => simp [erase, other, get_eq_some_iff]

@[simp] theorem get_assign [LT Key] [DecidableLT Key] (key wanted : Key) (value : Value) :
    (table.assign key value).get wanted =
      if wanted = key then some value else table.get wanted := by
  apply Option.ext
  intro found
  rw [get_eq_some_iff, assign, (insertEntry_perm key value _).mem_iff, List.mem_cons,
    ← get_eq_some_iff, get_erase]
  split
  · next same => simp [same, eq_comm]
  · next other => simp [other]

@[simp] theorem get_filterMap (change : Key → Value → Option Value) (key : Key) :
    (table.filterMap change).get key = (table.get key).bind (change key) := by
  apply Option.ext
  intro value
  rw [get_eq_some_iff, filterMap, mem_changedEntries, Option.bind_eq_some_iff]
  simp only [get_eq_some_iff]

end

end OrderedMap

end VdrSuite.Library
