import VdrSuite.Library.Bytes

/-! Lines of words: the runs of bytes between blanks. -/

set_option autoImplicit false

namespace VdrSuite.Library.Words

def words (line : Bytes) : List Bytes :=
  (line.splitOn 32).filter fun word => !word.isEmpty

def unwords (tokens : List Bytes) : Bytes :=
  List.intercalate [32] tokens

/-- The words of a line that has at most `maximum` of them, else none at all. -/
def split (maximum : Nat) (line : Bytes) : List Bytes :=
  if (words line).length > maximum then [] else words line

def Word (token : Bytes) : Prop := token ≠ [] ∧ (32 : UInt8) ∉ token

theorem words_unwords {tokens : List Bytes} (all : ∀ token ∈ tokens, Word token) :
    words (unwords tokens) = tokens := by
  by_cases empty : tokens = []
  · subst empty
    rfl
  · have pieces : (unwords tokens).splitOn 32 = tokens :=
      List.splitOn_intercalate 32 (fun token member => (all token member).2) empty
    rw [words, pieces, List.filter_eq_self]
    intro token member
    simp [(all token member).1]

theorem split_unwords {maximum : Nat} {tokens : List Bytes} (few : tokens.length ≤ maximum)
    (all : ∀ token ∈ tokens, Word token) : split maximum (unwords tokens) = tokens := by
  rw [split, words_unwords all, if_neg (by omega)]

/-! ## Lines as C strings -/

def LineWord (token : Bytes) : Prop := Word token ∧ (0 : UInt8) ∉ token

theorem notMem_unwords {byte : UInt8} (notBlank : byte ≠ 32) {tokens : List Bytes}
    (absent : ∀ token ∈ tokens, byte ∉ token) : byte ∉ unwords tokens := by
  induction tokens with
  | nil => simp [unwords]
  | cons token tokens ih =>
    have first := absent token List.mem_cons_self
    have later := ih fun other member => absent other (List.mem_cons_of_mem _ member)
    cases tokens with
    | nil => simpa [unwords] using first
    | cons other tokens =>
      rw [unwords, List.intercalate_cons_cons, ← unwords]
      simp [first, later, notBlank]

theorem split_cString_unwords {maximum : Nat} {tokens : List Bytes}
    (few : tokens.length ≤ maximum) (all : ∀ token ∈ tokens, LineWord token) :
    split maximum (cString (unwords tokens)) = tokens := by
  have whole : cString (unwords tokens) = unwords tokens := by
    rw [cString_eq_self_iff]
    exact notMem_unwords (by decide) fun token member => (all token member).2
  rw [whole]
  exact split_unwords few fun token member => (all token member).1

/-! ## Texts that are words -/

theorem lineWord_decimal (value : Nat) : LineWord (decimal value) :=
  ⟨⟨decimal_ne_nil value, notMem_decimal value 32 (by decide)⟩,
    notMem_decimal value 0 (by decide)⟩

theorem lineWord_signedDecimal (value : Int) : LineWord (signedDecimal value) := by
  refine ⟨⟨?_, notMem_signedDecimal value 32 (by decide) (by decide)⟩,
    notMem_signedDecimal value 0 (by decide) (by decide)⟩
  unfold signedDecimal
  split
  · exact List.cons_ne_nil _ _
  · exact decimal_ne_nil _

end VdrSuite.Library.Words
