import Mathlib.Data.List.Sort
import Mathlib.Logic.Function.Iterate

/-! Lists that are worked off a page at a time: which of their entries are ever shown when some stay. -/

set_option autoImplicit false

namespace VdrSuite.Library.Paging

variable {Entry : Type} (size : Nat) (stays : Entry → Bool)

def turn (entries : List Entry) : List Entry :=
  (entries.take size).filter stays ++ entries.drop size

def Shown (entries : List Entry) (entry : Entry) : Prop :=
  ∃ turns, entry ∈ ((turn size stays)^[turns] entries).take size

variable {size} {stays}

theorem turn_before {before after : List Entry} {entry : Entry} (full : size ≤ before.length) :
    turn size stays (before ++ entry :: after) = turn size stays before ++ entry :: after := by
  rw [turn, turn, List.take_append_of_le_length full, List.drop_append_of_le_length full,
    List.append_assoc]

theorem countP_turn (entries : List Entry) :
    (turn size stays entries).countP stays = entries.countP stays := by
  rw [turn, List.countP_append, List.countP_filter]
  simp only [Bool.and_self]
  rw [← List.countP_append, List.take_append_drop]

theorem mem_of_mem_turn {entries : List Entry} {entry : Entry}
    (member : entry ∈ turn size stays entries) : entry ∈ entries := by
  rcases List.mem_append.mp member with kept | later
  · exact List.mem_of_mem_take (List.mem_filter.mp kept).1
  · exact List.mem_of_mem_drop later

theorem turn_length_lt {entries : List Entry} (full : size ≤ entries.length)
    (some_ : entries.countP stays < size) :
    (turn size stays entries).length < entries.length := by
  have fewer : (entries.take size).countP stays < size :=
    Nat.lt_of_le_of_lt ((List.take_sublist size entries).countP_le) some_
  rw [turn, List.length_append, List.length_drop, ← List.countP_eq_length_filter]
  omega

theorem shown_of_few {before after : List Entry} {entry : Entry}
    (few : before.countP stays < size) : Shown size stays (before ++ entry :: after) entry := by
  induction length : before.length using Nat.strong_induction_on generalizing before with
  | _ count ih =>
    subst length
    by_cases full : size ≤ before.length
    · have fewer : (turn size stays before).countP stays < size := by rwa [countP_turn]
      obtain ⟨turns, shown⟩ := ih _ (turn_length_lt full few) fewer rfl
      refine ⟨turns + 1, ?_⟩
      rw [Function.iterate_succ_apply, turn_before full]
      exact shown
    · refine ⟨0, ?_⟩
      rw [Function.iterate_zero_apply]
      have onPage : before.length < size := by omega
      exact List.mem_take_iff_getElem.mpr ⟨before.length, by simp; omega, by simp⟩

theorem not_shown_of_many {before after : List Entry} {entry : Entry}
    (many : size ≤ before.countP stays) (fresh : entry ∉ before) :
    ¬ Shown size stays (before ++ entry :: after) entry := by
  rintro ⟨turns, shown⟩
  induction turns generalizing before with
  | zero =>
    rw [Function.iterate_zero_apply,
      List.take_append_of_le_length (many.trans List.countP_le_length)] at shown
    exact fresh (List.mem_of_mem_take shown)
  | succ turns ih =>
    rw [Function.iterate_succ_apply, turn_before (many.trans List.countP_le_length)] at shown
    exact ih (by rwa [countP_turn]) (fun member => fresh (mem_of_mem_turn member)) shown

theorem shown_iff {before after : List Entry} {entry : Entry} (fresh : entry ∉ before) :
    Shown size stays (before ++ entry :: after) entry ↔ before.countP stays < size := by
  constructor
  · intro shown
    by_contra many
    exact not_shown_of_many (by omega) fresh shown
  · exact shown_of_few

/-! ## Sorted listings -/

theorem insertionSort_filter {before : Entry → Entry → Prop} [DecidableRel before]
    [Std.Total before] [IsTrans Entry before] (selected : Entry → Bool) (entries : List Entry)
    (distinct : ∀ first ∈ entries, ∀ second ∈ entries, before first second → before second first →
      first = second) :
    (entries.filter selected).insertionSort before =
      (entries.insertionSort before).filter selected := by
  refine List.Perm.eq_of_pairwise ?_ (List.pairwise_insertionSort before _)
    ((List.pairwise_insertionSort before entries).filter selected) ?_
  · intro first second firstMember secondMember forward backward
    have original := (List.mem_filter.mp ((List.mem_insertionSort before).mp firstMember)).1
    have listed := (List.mem_insertionSort before).mp (List.mem_filter.mp secondMember).1
    exact distinct first original second listed forward backward
  · exact (List.perm_insertionSort before _).trans
      ((List.perm_insertionSort before entries).symm.filter selected)

/-! ## Pages behind a cursor -/

section Cursors

variable {Cursor : Type} {cursor : Entry → Cursor} {page : Cursor → List Entry}

/-- Pages read one behind the other, each behind the cursor of the last entry of the one before,
until a page comes back short. -/
inductive PageRun (cursor : Entry → Cursor) (page : Cursor → List Entry) (size : Nat) :
    Cursor → List Entry → Prop where
  | short {after : Cursor} (few : (page after).length < size) :
      PageRun cursor page size after (page after)
  | full {after : Cursor} {last : Entry} {rest : List Entry} (whole : ¬ (page after).length < size)
      (ends : (page after).getLast? = some last)
      (later : PageRun cursor page size (cursor last) rest) :
      PageRun cursor page size after (page after ++ rest)

theorem PageRun.deterministic {size : Nat} {after : Cursor} {visited other : List Entry}
    (run : PageRun cursor page size after visited) (again : PageRun cursor page size after other) :
    visited = other := by
  induction run generalizing other with
  | short few =>
    cases again with
    | short _ => rfl
    | full whole _ _ => exact absurd few whole
  | full whole ends later ih =>
    cases again with
    | short few => exact absurd few whole
    | full _ ends_again later_again =>
      rw [ends, Option.some.injEq] at ends_again
      rw [ih (ends_again ▸ later_again)]

variable {beyond : Cursor → Entry → Bool} {listing : List Entry}

/-- In a listing in which every entry is beyond the ones before it, the entries beyond the last of a
beginning are the rest. -/
theorem filter_beyond {front back : List Entry} {last : Entry}
    (ordered : (front ++ back).Pairwise fun first second => beyond (cursor first) second = true)
    (asymmetric : ∀ first second, beyond (cursor first) second = true →
      beyond (cursor second) first = false)
    (ends : front.getLast? = some last) :
    (front ++ back).filter (beyond (cursor last)) = back := by
  obtain ⟨earlier, rfl⟩ := List.getLast?_eq_some_iff.mp ends
  obtain ⟨front_ordered, -, across⟩ := List.pairwise_append.mp ordered
  have irreflexive : beyond (cursor last) last = false := by
    by_contra itself
    rw [Bool.not_eq_false] at itself
    rw [asymmetric last last itself] at itself
    exact absurd itself (by decide)
  have none_before : (earlier ++ [last]).filter (beyond (cursor last)) = [] := by
    rw [List.filter_eq_nil_iff]
    intro entry member
    rcases List.mem_append.mp member with before | same
    · have later := (List.pairwise_append.mp front_ordered).2.2 entry before last
        List.mem_cons_self
      rw [asymmetric entry last later]
      exact Bool.false_ne_true
    · rw [List.mem_singleton.mp same, irreflexive]
      exact Bool.false_ne_true
  have all_behind : back.filter (beyond (cursor last)) = back := by
    rw [List.filter_eq_self]
    intro entry member
    exact across last (by simp) entry member
  rw [List.filter_append, none_before, all_behind, List.nil_append]

theorem pageRun_of_ordered {size : Nat} {initial : Cursor} (positive : 0 < size)
    (ordered : listing.Pairwise fun first second => beyond (cursor first) second = true)
    (asymmetric : ∀ first second, beyond (cursor first) second = true →
      beyond (cursor second) first = false)
    (first_page : page initial = listing.take size)
    (next_page : ∀ entry ∈ listing,
      page (cursor entry) = (listing.filter (beyond (cursor entry))).take size) :
    PageRun cursor page size initial listing := by
  have behind : ∀ (count : Nat) (front back : List Entry) (after : Cursor),
      back.length = count → listing = front ++ back → page after = back.take size →
      PageRun cursor page size after back := by
    intro count
    induction count using Nat.strong_induction_on with
    | _ count ih =>
      intro front back after length whole shown
      by_cases few : back.length < size
      · have same : page after = back := by rw [shown, List.take_of_length_le (by omega)]
        rw [← same]
        exact .short (by rw [same]; exact few)
      · have enough : (page after).length = size := by
          rw [shown, List.length_take]
          omega
        obtain ⟨last, ends⟩ : ∃ last, (page after).getLast? = some last := by
          cases shown_last : (page after).getLast? with
          | some last => exact ⟨last, rfl⟩
          | none =>
            rw [List.getLast?_eq_none_iff] at shown_last
            rw [shown_last, List.length_nil] at enough
            omega
        have parts : listing = (front ++ page after) ++ back.drop size := by
          rw [whole, shown, List.append_assoc, List.take_append_drop]
        have member : last ∈ listing := by
          rw [parts]
          exact List.mem_append_left _ (List.mem_append_right _ (List.mem_of_getLast? ends))
        have ends_front : (front ++ page after).getLast? = some last := by
          rw [List.getLast?_append, ends, Option.some_or]
        have rest : page (cursor last) = (back.drop size).take size := by
          rw [next_page last member]
          conv_lhs => rw [parts]
          rw [filter_beyond (parts ▸ ordered) asymmetric ends_front]
        have later := ih (back.drop size).length (by rw [List.length_drop]; omega)
          (front ++ page after) (back.drop size) (cursor last) rfl parts rest
        have joined := PageRun.full (by omega) ends later
        rwa [shown, List.take_append_drop] at joined
  exact behind listing.length [] listing initial rfl rfl first_page

/-- Pages of one entry that visit the whole listing find every entry beyond the ones before it. -/
theorem ordered_of_pageRun {initial : Cursor}
    (transitive : ∀ first second third, beyond (cursor first) second = true →
      beyond (cursor second) third = true → beyond (cursor first) third = true)
    (next_page : ∀ entry ∈ listing,
      page (cursor entry) = (listing.filter (beyond (cursor entry))).take 1)
    (first_page : page initial = listing.take 1)
    (run : PageRun cursor page 1 initial listing) :
    listing.Pairwise fun first second => beyond (cursor first) second = true := by
  have within : ∀ {after visited}, PageRun cursor page 1 after visited →
      (page after).length ≤ 1 → (∀ entry ∈ page after, entry ∈ listing) →
      visited.Pairwise (fun first second => beyond (cursor first) second = true) ∧
      ∀ earlier ∈ listing, after = cursor earlier →
        ∀ entry ∈ visited, beyond (cursor earlier) entry = true := by
    intro after visited run
    induction run with
    | @short after few =>
      intro _ _
      rw [List.length_eq_zero_iff.mp (by omega : (page after).length = 0)]
      exact ⟨List.Pairwise.nil, fun _ _ _ entry member => absurd member List.not_mem_nil⟩
    | @full after last rest whole ends later ih =>
      intro narrow listed
      have single : page after = [last] := by
        obtain ⟨front, shown⟩ := List.getLast?_eq_some_iff.mp ends
        rw [shown, List.length_append, List.length_singleton] at narrow
        rw [shown, List.length_eq_zero_iff.mp (by omega : front.length = 0), List.nil_append]
      have last_listed : last ∈ listing := listed last (by rw [single]; exact List.mem_cons_self)
      have next := next_page last last_listed
      obtain ⟨rest_ordered, rest_beyond⟩ := ih
        (by rw [next, List.length_take]; exact Nat.min_le_left _ _)
        (fun entry member => by
          rw [next] at member
          exact (List.mem_filter.mp (List.mem_of_mem_take member)).1)
      have behind_last := rest_beyond last last_listed rfl
      rw [single, List.singleton_append]
      refine ⟨List.pairwise_cons.mpr ⟨behind_last, rest_ordered⟩, ?_⟩
      intro earlier earlier_listed same entry member
      have last_beyond : beyond (cursor earlier) last = true := by
        have shown : last ∈ page after := by rw [single]; exact List.mem_cons_self
        rw [same, next_page earlier earlier_listed] at shown
        exact (List.mem_filter.mp (List.mem_of_mem_take shown)).2
      rcases List.mem_cons.mp member with rfl | behind
      · exact last_beyond
      · exact transitive _ _ _ last_beyond (behind_last entry behind)
  refine (within run ?_ fun entry member => ?_).1
  · rw [first_page, List.length_take]
    exact Nat.min_le_left _ _
  · rw [first_page] at member
    exact List.mem_of_mem_take member

end Cursors

end VdrSuite.Library.Paging
