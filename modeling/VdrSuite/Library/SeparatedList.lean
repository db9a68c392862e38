import Mathlib.Data.List.Basic
import VdrSuite.Library.Netstring

/-! Membership in a separated list, decided by looking for the value between two separators. -/

set_option autoImplicit false

namespace VdrSuite.Library

theorem splitAtFirst_isSome_iff (needle haystack : Bytes) :
    (splitAtFirst needle haystack).isSome = true ↔ needle <:+: haystack := by
  induction haystack with
  | nil =>
    cases needle with
    | nil => simp [splitAtFirst]
    | cons byte needle => simp [splitAtFirst]
  | cons byte rest ih =>
    rw [List.infix_cons_iff, ← ih, splitAtFirst]
    by_cases leading : needle.isPrefixOf (byte :: rest) = true
    · rw [if_pos leading]
      simp [List.isPrefixOf_iff_prefix.mp leading]
    · rw [if_neg leading, ← List.isPrefixOf_iff_prefix]
      cases splitAtFirst needle rest <;> simp [leading]

theorem eq_of_splitAtFirst {needle input before after : Bytes}
    (found : splitAtFirst needle input = some (before, after)) :
    input = before ++ (needle ++ after) := by
  induction input generalizing before with
  | nil =>
    rw [splitAtFirst] at found
    split at found
    · next nothing =>
      cases found
      rw [List.isEmpty_iff.mp nothing]
      rfl
    · simp at found
  | cons byte rest ih =>
    rw [splitAtFirst] at found
    split at found
    · next leading =>
      obtain ⟨tail, whole⟩ := List.isPrefixOf_iff_prefix.mp leading
      cases found
      rw [← whole, List.drop_left, List.nil_append]
    · cases later : splitAtFirst needle rest with
      | none => simp [later] at found
      | some pieces =>
        obtain ⟨earlier, remaining⟩ := pieces
        simp only [later, Option.some.injEq, Prod.mk.injEq] at found
        obtain ⟨rfl, rfl⟩ := found
        rw [List.cons_append, ← ih later]

theorem splitAtFirst_append {needle input before after : Bytes} (more : Bytes)
    (found : splitAtFirst needle input = some (before, after)) :
    splitAtFirst needle (input ++ more) = some (before, after ++ more) := by
  induction input generalizing before with
  | nil =>
    rw [splitAtFirst] at found
    split at found
    · next nothing =>
      cases found
      rw [List.isEmpty_iff.mp nothing]
      cases more <;> simp [splitAtFirst]
    · simp at found
  | cons byte rest ih =>
    rw [splitAtFirst] at found
    rw [List.cons_append, splitAtFirst]
    split at found
    · next leading =>
      obtain ⟨tail, whole⟩ := List.isPrefixOf_iff_prefix.mp leading
      cases found
      rw [← List.cons_append, ← whole, List.append_assoc]
      simp
    · next trailing =>
      cases later : splitAtFirst needle rest with
      | none => simp [later] at found
      | some pieces =>
        obtain ⟨earlier, remaining⟩ := pieces
        simp only [later, Option.some.injEq, Prod.mk.injEq] at found
        obtain ⟨rfl, rfl⟩ := found
        have long : needle.length ≤ (byte :: rest).length := by
          have whole := congrArg List.length (eq_of_splitAtFirst later)
          simp only [List.length_append] at whole
          rw [List.length_cons]
          omega
        have still : ¬ needle.isPrefixOf (byte :: (rest ++ more)) = true := by
          rw [List.isPrefixOf_iff_prefix, ← List.cons_append]
          rw [List.isPrefixOf_iff_prefix] at trailing
          exact fun leading => trailing
            (List.prefix_of_prefix_length_le leading (List.prefix_append _ _) long)
        rw [if_neg still, ih later]

theorem splitAtFirst_prefix {needle input before after : Bytes}
    (found : splitAtFirst needle input = some (before, after)) {beginning : Bytes}
    (leading : beginning <+: input) :
    splitAtFirst needle beginning =
      if before.length + needle.length ≤ beginning.length then
        some (before, after.take (beginning.length - (before.length + needle.length)))
      else none := by
  obtain ⟨more, whole⟩ := leading
  have same : ∀ {pieces}, splitAtFirst needle beginning = some pieces →
      pieces.1 = before ∧ pieces.2 ++ more = after := by
    rintro ⟨earlier, remaining⟩ shown
    have moved := splitAtFirst_append more shown
    rw [whole, found, Option.some.injEq, Prod.mk.injEq] at moved
    exact ⟨moved.1.symm, moved.2.symm⟩
  have input_eq := eq_of_splitAtFirst found
  split
  · next long =>
    have piece : needle <:+: beginning := by
      have start : before ++ needle <+: input := by
        rw [input_eq, ← List.append_assoc]
        exact List.prefix_append _ _
      obtain ⟨tail, rfl⟩ := List.prefix_of_prefix_length_le start ⟨more, whole⟩
        (by rw [List.length_append]; exact long)
      exact ⟨before, tail, rfl⟩
    cases shown : splitAtFirst needle beginning with
    | none =>
      have some := (splitAtFirst_isSome_iff needle beginning).mpr piece
      rw [shown] at some
      simp at some
    | some pieces =>
      obtain ⟨first, second⟩ := same shown
      have parts := congrArg List.length (eq_of_splitAtFirst shown)
      simp only [List.length_append] at parts
      rw [← second, ← first, List.take_append_of_le_length, List.take_of_length_le]
      · omega
      · omega
  · next short =>
    cases shown : splitAtFirst needle beginning with
    | none => rfl
    | some pieces =>
      obtain ⟨first, -⟩ := same shown
      have parts := congrArg List.length (eq_of_splitAtFirst shown)
      simp only [List.length_append, first] at parts
      omega

theorem splitAtFirst_singleton_iff {byte : UInt8} {input before after : Bytes} :
    splitAtFirst [byte] input = some (before, after) ↔
      input = before ++ byte :: after ∧ byte ∉ before := by
  induction input generalizing before with
  | nil => simp [splitAtFirst]
  | cons head rest ih =>
    have leading : [byte].isPrefixOf (head :: rest) = true ↔ byte = head := by
      rw [List.isPrefixOf_iff_prefix, List.cons_prefix_cons]
      simp
    rw [splitAtFirst]
    by_cases found : byte = head
    · rw [if_pos (leading.mpr found), found]
      cases before with
      | nil => simp
      | cons first before =>
        simp only [Option.some.injEq, Prod.mk.injEq, List.cons_append, List.cons.injEq,
          List.mem_cons, not_or]
        constructor
        · rintro ⟨nothing, -⟩
          exact absurd nothing (by simp)
        · rintro ⟨⟨same, -⟩, different, -⟩
          exact absurd same different
    · rw [if_neg (fun starts => found (leading.mp starts))]
      cases before with
      | nil =>
        have different : ¬ head = byte := fun same => found same.symm
        cases splitAtFirst [byte] rest <;> simp [different]
      | cons first before =>
        have here := @ih before
        have split_here : head :: rest = first :: before ++ byte :: after ∧
              byte ∉ first :: before ↔
            head = first ∧ splitAtFirst [byte] rest = some (before, after) := by
          rw [here, List.cons_append, List.cons.injEq, List.mem_cons, not_or]
          constructor
          · rintro ⟨⟨same, whole⟩, -, free⟩
            exact ⟨same, whole, free⟩
          · rintro ⟨rfl, whole, free⟩
            exact ⟨⟨rfl, whole⟩, found, free⟩
        rw [split_here]
        cases splitAtFirst [byte] rest with
        | none => simp
        | some pieces =>
          obtain ⟨earlier, remaining⟩ := pieces
          simp [and_assoc]

namespace SeparatedList

variable {separator : UInt8}

def enclosed (separator : UInt8) (values : List Bytes) : Bytes :=
  values.flatMap (separator :: ·) ++ [separator]

theorem enclosed_cons (value : Bytes) (values : List Bytes) :
    enclosed separator (value :: values) = separator :: (value ++ enclosed separator values) := by
  simp [enclosed]

theorem enclosed_eq_intercalate {values : List Bytes} (nonempty : values ≠ []) :
    enclosed separator values = [separator] ++ [separator].intercalate values ++ [separator] := by
  induction values with
  | nil => exact absurd rfl nonempty
  | cons value values ih =>
    cases values with
    | nil => simp [enclosed]
    | cons next values =>
      rw [enclosed_cons, ih (by simp), List.intercalate_cons_cons]
      simp

theorem infix_of_infix_append {piece clean rest : Bytes} (free : separator ∉ clean)
    (found : separator :: piece <:+: clean ++ rest) : separator :: piece <:+: rest := by
  induction clean with
  | nil => exact found
  | cons byte clean ih =>
    rw [List.cons_append, List.infix_cons_iff] at found
    rcases found with leading | later
    · obtain ⟨same, -⟩ := List.cons_prefix_cons.mp leading
      exact absurd (same ▸ List.mem_cons_self) free
    · exact ih (fun member => free (List.mem_cons_of_mem _ member)) later

theorem mem_iff_infix_enclosed {value : Bytes} {values : List Bytes} (free : separator ∉ value)
    (allFree : ∀ other ∈ values, separator ∉ other) :
    value ∈ values ↔ separator :: (value ++ [separator]) <:+: enclosed separator values := by
  induction values with
  | nil =>
    simp only [List.not_mem_nil, false_iff]
    intro found
    have short := found.length_le
    simp [enclosed] at short
  | cons first values ih =>
    have rest := ih fun other member => allFree other (List.mem_cons_of_mem _ member)
    have firstFree := allFree first List.mem_cons_self
    rw [enclosed_cons, List.mem_cons, List.infix_cons_iff, List.cons_prefix_cons]
    constructor
    · rintro (rfl | later)
      · refine .inl ⟨rfl, ?_⟩
        rw [List.prefix_append_right_inj]
        cases values with
        | nil => exact List.prefix_refl _
        | cons next values =>
          rw [enclosed_cons]
          exact List.cons_prefix_cons.mpr ⟨rfl, List.nil_prefix⟩
      · exact .inr ((rest.mp later).trans (List.suffix_append first _).isInfix)
    · rintro (⟨-, leading⟩ | later)
      · obtain ⟨remainder, same⟩ := leading
        left
        cases values with
        | nil =>
          have whole : value ++ [separator] ++ remainder = first ++ [separator] ++ [] := by
            simpa [enclosed] using same
          exact (Netstring.terminated_append_inj free firstFree whole).1
        | cons next values =>
          rw [enclosed_cons] at same
          exact (Netstring.terminated_append_inj free firstFree (by simpa using same)).1
      · exact .inr (rest.mpr (infix_of_infix_append firstFree later))

end SeparatedList

end VdrSuite.Library
