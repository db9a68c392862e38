import Mathlib.Data.List.Nodup
import Mathlib.Data.List.Sort

/-! The first admissible item in an order that keys decide, however the items are listed. -/

set_option autoImplicit false

namespace VdrSuite.Library.Choice

variable {Item Key : Type}

section Order

variable {before : Item → Item → Prop} [DecidableRel before] [Std.Total before] [IsTrans Item before]
  {items others : List Item}

def Decided (before : Item → Item → Prop) (items : List Item) : Prop :=
  ∀ first ∈ items, ∀ second ∈ items, before first second → before second first → first = second

theorem insertionSort_of_perm (decided : Decided before items) (same : items.Perm others) :
    items.insertionSort before = others.insertionSort before := by
  have sorted := List.perm_insertionSort before items
  have resorted := List.perm_insertionSort before others
  apply List.Perm.eq_of_pairwise _ (List.pairwise_insertionSort before items)
    (List.pairwise_insertionSort before others) (sorted.trans (same.trans resorted.symm))
  intro first second listed relisted
  exact decided first (sorted.mem_iff.mp listed) second
    (same.mem_iff.mpr (resorted.mem_iff.mp relisted))

theorem find?_insertionSort {admissible : Item → Bool} {chosen : Item}
    (found : (items.insertionSort before).find? admissible = some chosen) :
    chosen ∈ items ∧ admissible chosen = true ∧
      ∀ other ∈ items, admissible other = true → before chosen other := by
  have listed := List.mem_of_find?_eq_some found
  refine ⟨(List.mem_insertionSort before).mp listed, List.find?_some found, ?_⟩
  intro other member admitted
  obtain ⟨_, earlier, later, split, skipped⟩ := List.find?_eq_some_iff_append.mp found
  have sorted := List.pairwise_insertionSort before items
  rw [split, List.pairwise_append, List.pairwise_cons] at sorted
  have place := (List.mem_insertionSort before).mpr member
  rw [split] at place
  cases List.mem_append.mp place with
  | inl early =>
    have refused := skipped other early
    rw [admitted] at refused
    cases refused
  | inr late =>
    cases List.mem_cons.mp late with
    | inl same =>
      obtain rfl := same
      exact (Std.Total.total other other).elim id id
    | inr behind => exact sorted.2.1.1 other behind

omit [Std.Total before] [IsTrans Item before] in
theorem find?_insertionSort_none {admissible : Item → Bool} :
    (items.insertionSort before).find? admissible = none ↔
      ∀ item ∈ items, admissible item = false := by
  simp [List.find?_eq_none]

end Order

section Keys

variable [BEq Key] [LawfulBEq Key] {key : Item → Key} {items others : List Item}

theorem find?_key_of_perm (unique : (items.map key).Nodup) (same : items.Perm others)
    (wanted : Key) :
    items.find? (fun item => key item == wanted) = others.find? fun item => key item == wanted := by
  cases found : others.find? fun item => key item == wanted with
  | none =>
    rw [List.find?_eq_none] at found ⊢
    intro item member
    exact found item (same.mem_iff.mp member)
  | some item =>
    have named := List.find?_some found
    have listed := same.mem_iff.mpr (List.mem_of_find?_eq_some found)
    cases refound : items.find? fun item => key item == wanted with
    | none => exact absurd named (List.find?_eq_none.mp refound item listed)
    | some other =>
      have renamed := List.find?_some refound
      rw [beq_iff_eq] at named renamed
      congr 1
      exact List.inj_on_of_nodup_map unique (List.mem_of_find?_eq_some refound) listed
        (renamed.trans named.symm)

end Keys

end VdrSuite.Library.Choice
