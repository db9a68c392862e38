import Mathlib.Data.List.Nodup
import VdrSuite.Library.Bytes

/-! Records of `key=value` lines: how they are written and what reading them back accepts. -/

set_option autoImplicit false

namespace VdrSuite.Library.LineRecord

def lines (input : Bytes) : List Bytes :=
  let pieces := input.splitOn 10
  if pieces.getLast? = some [] then pieces.dropLast else pieces

def splitLine (line : Bytes) : Option (Bytes × Bytes) :=
  let key := line.takeWhile (· != 61)
  if key.length = line.length ∨ key = [] then none
  else some (key, line.drop (key.length + 1))

def insert (values : List (Bytes × Bytes)) (line : Bytes) : Option (List (Bytes × Bytes)) :=
  match splitLine line with
  | none => none
  | some (key, value) =>
    if key ∈ values.map Prod.fst then none else some (values ++ [(key, value)])

/-- The keyed values of a stream; a malformed line or a repeated key fails the whole record. -/
def read (input : Bytes) : Option (List (Bytes × Bytes)) :=
  (lines input).foldlM insert []

def exactKeys (values : List (Bytes × Bytes)) (keys : List Bytes) : Bool :=
  values.length == keys.length && keys.all fun key => key ∈ values.map Prod.fst

def get (values : List (Bytes × Bytes)) (key : Bytes) : Bytes :=
  ((values.find? fun entry => entry.1 == key).map Prod.snd).getD []

def line (entry : Bytes × Bytes) : Bytes := entry.1 ++ text "=" ++ entry.2

def write (entries : List (Bytes × Bytes)) : Bytes :=
  entries.flatMap fun entry => line entry ++ text "\n"

/-! ## Lines of a written record -/

private theorem splitOn_write (entries : List (Bytes × Bytes)) :
    (write entries).splitOn 10 =
      (entries.flatMap fun entry => (line entry).splitOn 10) ++ [[]] := by
  induction entries with
  | nil => rfl
  | cons entry rest ih =>
    have unfolded : write (entry :: rest) = line entry ++ 10 :: write rest := by
      simp only [write, List.flatMap_cons, List.append_assoc]
      rfl
    rw [unfolded, List.splitOn_append_cons_self, ih, List.flatMap_cons, List.append_assoc]

theorem lines_write (entries : List (Bytes × Bytes)) :
    lines (write entries) = entries.flatMap fun entry => (line entry).splitOn 10 := by
  simp [lines, splitOn_write]

private theorem one_lt_length_splitOn (input : Bytes) (broken : (10 : UInt8) ∈ input) :
    1 < (input.splitOn 10).length := by
  obtain ⟨before, after, rfl⟩ := List.append_of_mem broken
  have first := List.length_pos_iff.mpr (List.splitOn_ne_nil (10 : UInt8) before)
  have second := List.length_pos_iff.mpr (List.splitOn_ne_nil (10 : UInt8) after)
  rw [List.splitOn_append_cons_self, List.length_append]
  omega

private theorem unbroken_of_length_lines (entries : List (Bytes × Bytes))
    (count : (lines (write entries)).length ≤ entries.length) :
    ∀ entry ∈ entries, (10 : UInt8) ∉ line entry := by
  rw [lines_write] at count
  have atLeast : ∀ others : List (Bytes × Bytes),
      others.length ≤ (others.flatMap fun entry => (line entry).splitOn 10).length := by
    intro others
    induction others with
    | nil => simp
    | cons entry rest ih =>
      have := List.length_pos_iff.mpr (List.splitOn_ne_nil (10 : UInt8) (line entry))
      simp only [List.flatMap_cons, List.length_append, List.length_cons]
      omega
  induction entries with
  | nil => simp
  | cons entry rest ih =>
    have bound := atLeast rest
    simp only [List.flatMap_cons, List.length_append, List.length_cons] at count
    have one := List.length_pos_iff.mpr (List.splitOn_ne_nil (10 : UInt8) (line entry))
    intro other member
    rcases List.mem_cons.mp member with rfl | later
    · intro broken
      have := one_lt_length_splitOn _ broken
      omega
    · exact ih (by omega) other later

/-! ## Reading a record back -/

/-- Keys that a reader recovers: not empty, without an equals sign, each once. -/
structure KeysReadable (keys : List Bytes) : Prop where
  nonempty : ∀ key ∈ keys, key ≠ []
  separable : ∀ key ∈ keys, (61 : UInt8) ∉ key
  unbroken : ∀ key ∈ keys, (10 : UInt8) ∉ key
  unique : keys.Nodup

theorem splitLine_line (entry : Bytes × Bytes) (nonempty : entry.1 ≠ [])
    (separable : (61 : UInt8) ∉ entry.1) : splitLine (line entry) = some entry := by
  obtain ⟨key, value⟩ := entry
  have shape : line (key, value) = key ++ 61 :: value := by
    simp only [line, List.append_assoc]
    rfl
  have taken : (line (key, value)).takeWhile (· != 61) = key := by
    rw [shape, List.takeWhile_append_of_pos, List.takeWhile_cons_of_neg (by simp),
      List.append_nil]
    intro byte member
    simp only [bne_iff_ne]
    rintro rfl
    exact separable member
  have shorter : key.length ≠ (line (key, value)).length := by
    rw [shape]
    simp
  simp only [splitLine, taken, shorter, false_or]
  rw [if_neg nonempty, shape]
  simp

private theorem length_foldlM_insert (pieces : List Bytes) (start values : List (Bytes × Bytes))
    (result : pieces.foldlM insert start = some values) :
    values.length = start.length + pieces.length := by
  induction pieces generalizing start with
  | nil =>
    simp only [List.foldlM_nil, Option.pure_def, Option.some.injEq] at result
    simp [result]
  | cons piece rest ih =>
    simp only [List.foldlM_cons, Option.bind_eq_bind, Option.bind_eq_some_iff] at result
    obtain ⟨next, inserted, later⟩ := result
    have grown : next.length = start.length + 1 := by
      simp only [insert] at inserted
      split at inserted
      · simp at inserted
      · split at inserted
        · simp at inserted
        · simp only [Option.some.injEq] at inserted
          simp [← inserted]
    rw [ih next later, grown, List.length_cons]
    omega

private theorem foldlM_insert_lines (entries start : List (Bytes × Bytes))
    (readable : KeysReadable ((start ++ entries).map Prod.fst)) :
    (entries.map line).foldlM insert start = some (start ++ entries) := by
  induction entries generalizing start with
  | nil => simp
  | cons entry rest ih =>
    have member : entry.1 ∈ (start ++ entry :: rest).map Prod.fst := by simp
    have fresh : entry.1 ∉ start.map Prod.fst := by
      have := readable.unique
      rw [List.map_append, List.nodup_append] at this
      intro present
      exact this.2.2 _ present _ (by simp) rfl
    have inserted : insert start (line entry) = some (start ++ [entry]) := by
      simp only [insert, splitLine_line entry (readable.nonempty _ member)
        (readable.separable _ member)]
      rw [if_neg fresh]
    rw [List.map_cons, List.foldlM_cons, inserted, Option.bind_eq_bind, Option.bind_some,
      ih (start ++ [entry]) (by simpa using readable)]
    simp

theorem read_write (entries : List (Bytes × Bytes))
    (readable : KeysReadable (entries.map Prod.fst))
    (unbroken : ∀ entry ∈ entries, (10 : UInt8) ∉ entry.2) :
    read (write entries) = some entries := by
  have whole : ∀ entry ∈ entries, (line entry).splitOn 10 = [line entry] := by
    intro entry member
    refine List.splitOn_eq_singleton ?_
    simp only [line, List.mem_append, not_or]
    exact ⟨⟨readable.unbroken _ (List.mem_map_of_mem member), by decide⟩, unbroken entry member⟩
  have separate : (entries.flatMap fun entry => (line entry).splitOn 10) = entries.map line := by
    clear readable unbroken
    induction entries with
    | nil => rfl
    | cons entry rest ih =>
      rw [List.flatMap_cons, whole entry (by simp), ih fun other member => whole other (by simp [member])]
      rfl
  rw [read, lines_write, separate]
  simpa using foldlM_insert_lines entries [] (by simpa using readable)

theorem of_read_write (entries values : List (Bytes × Bytes))
    (readable : KeysReadable (entries.map Prod.fst))
    (result : read (write entries) = some values)
    (exact : exactKeys values (entries.map Prod.fst) = true) :
    values = entries ∧ ∀ entry ∈ entries, (10 : UInt8) ∉ entry.2 := by
  have count := length_foldlM_insert _ _ _ result
  have size : values.length = entries.length := by
    simp only [exactKeys, Bool.and_eq_true, beq_iff_eq, List.length_map] at exact
    exact exact.1
  have whole := unbroken_of_length_lines entries (by simp only [List.length_nil] at count; omega)
  have unbroken : ∀ entry ∈ entries, (10 : UInt8) ∉ entry.2 := by
    intro entry member broken
    exact whole entry member (by simp [line, broken])
  rw [read_write entries readable unbroken] at result
  exact ⟨(Option.some.inj result).symm, unbroken⟩

private theorem foldlM_insert_extends (pieces : List Bytes) (start values : List (Bytes × Bytes))
    (result : pieces.foldlM insert start = some values) : start <+: values := by
  induction pieces generalizing start with
  | nil =>
    simp only [List.foldlM_nil, Option.pure_def, Option.some.injEq] at result
    simp [result]
  | cons piece rest ih =>
    simp only [List.foldlM_cons, Option.bind_eq_bind, Option.bind_eq_some_iff] at result
    obtain ⟨next, inserted, later⟩ := result
    refine List.IsPrefix.trans ?_ (ih next later)
    simp only [insert] at inserted
    split at inserted
    · simp at inserted
    · split at inserted
      · simp at inserted
      · simp only [Option.some.injEq] at inserted
        rw [← inserted]
        exact List.prefix_append _ _

theorem get_first_of_read (entry : Bytes × Bytes) (rest values : List (Bytes × Bytes))
    (readable : KeysReadable [entry.1]) (unbroken : (10 : UInt8) ∉ entry.2)
    (result : read (write (entry :: rest)) = some values) : get values entry.1 = entry.2 := by
  have whole : (line entry).splitOn 10 = [line entry] := by
    refine List.splitOn_eq_singleton ?_
    simp only [line, List.mem_append, not_or]
    exact ⟨⟨readable.unbroken _ (by simp), by decide⟩, unbroken⟩
  have inserted : insert [] (line entry) = some [entry] := by
    simp [insert, splitLine_line entry (readable.nonempty _ (by simp))
      (readable.separable _ (by simp))]
  rw [read, lines_write, List.flatMap_cons, whole, List.singleton_append, List.foldlM_cons,
    inserted, Option.bind_eq_bind, Option.bind_some] at result
  obtain ⟨others, rfl⟩ := foldlM_insert_extends _ _ _ result
  simp [get]

theorem exactKeys_self (entries : List (Bytes × Bytes)) :
    exactKeys entries (entries.map Prod.fst) = true := by
  simp only [exactKeys, List.length_map, beq_self_eq_true, Bool.true_and, List.all_eq_true,
    decide_eq_true_eq]
  exact fun key member => member

theorem get_eq_getElem (entries : List (Bytes × Bytes)) (key : Bytes) :
    get entries key =
      ((entries.map Prod.snd)[(entries.map Prod.fst).idxOf key]?).getD [] := by
  induction entries with
  | nil => rfl
  | cons entry rest ih =>
    by_cases found : entry.1 = key
    · simp [get, found]
    · have skipped : get (entry :: rest) key = get rest key := by
        simp [get, found]
      rw [skipped, ih, List.map_cons, List.map_cons, List.idxOf_cons_ne _ found]
      rfl

end VdrSuite.Library.LineRecord
