import VdrSuite.Library.Netstring

/-! Readers of counted texts. A reader is run over bytes, or over the texts themselves, and both
agree on what is accepted. -/

set_option autoImplicit false

namespace VdrSuite.Library

/-- A reader takes tokens one after another, and each decides how it goes on. -/
inductive TokenReader (α : Type) : Type where
  | done (value : α)
  | fail
  | next (resume : Bytes → TokenReader α)

namespace TokenReader

variable {α β : Type} {limit : Nat}

def bind : TokenReader α → (α → TokenReader β) → TokenReader β
  | .done value, rest => rest value
  | .fail, _ => .fail
  | .next resume, rest => .next fun token => bind (resume token) rest

instance : Monad TokenReader where
  pure := .done
  bind := bind

def ofOption : Option α → TokenReader α
  | none => .fail
  | some value => .done value

def token : TokenReader Bytes := .next .done

def tokenAs (parse : Bytes → Option α) : TokenReader α := .next fun token => ofOption (parse token)

/-! ## The two ways to run a reader -/

def readToken (limit : Nat) (input : Bytes) : Option (Bytes × Bytes) :=
  match Netstring.readLength limit 0 false input with
  | none => none
  | some (length, rest) =>
    if rest.length < length then none else some (rest.take length, rest.drop length)

def run (limit : Nat) : TokenReader α → Bytes → Option (α × Bytes)
  | .done value, input => some (value, input)
  | .fail, _ => none
  | .next resume, input =>
    match readToken limit input with
    | none => none
    | some (token, rest) => run limit (resume token) rest

def accepts : TokenReader α → List Bytes → Option α
  | .done value, [] => some value
  | .done _, _ :: _ => none
  | .fail, _ => none
  | .next _, [] => none
  | .next resume, token :: tokens => accepts (resume token) tokens

/-! ## The texts that spell tokens -/

def Spells (limit : Nat) (written token : Bytes) : Prop :=
  ∃ digits, parseDecimal limit digits = some token.length ∧ written = digits ++ 58 :: token

inductive Spelled (limit : Nat) : List Bytes → Bytes → Prop where
  | nil : Spelled limit [] []
  | cons {written token rest : Bytes} {tokens : List Bytes} (first : Spells limit written token)
      (later : Spelled limit tokens rest) : Spelled limit (token :: tokens) (written ++ rest)

theorem readLength_iff {length count : Nat} {seen : Bool} {input rest : Bytes} :
    Netstring.readLength limit length seen input = some (count, rest) ↔
      ∃ digits : Bytes, digits.foldlM (accumulateDigit limit) length = some count ∧
        (seen = true ∨ digits ≠ []) ∧ input = digits ++ 58 :: rest := by
  induction input generalizing length seen with
  | nil =>
    constructor
    · intro read
      cases read
    · rintro ⟨digits, -, -, same⟩
      exact absurd same.symm (by simp)
  | cons byte input ih =>
    unfold Netstring.readLength
    by_cases colon : byte = 58
    · subst colon
      rw [if_pos rfl]
      constructor
      · intro read
        split at read
        · next seen =>
            cases read
            exact ⟨[], rfl, .inl seen, rfl⟩
        · cases read
      · rintro ⟨digits, folded, nonempty, same⟩
        cases digits with
        | nil =>
          cases same
          cases folded
          obtain rfl | absent := nonempty
          · rfl
          · exact absurd rfl absent
        | cons digit digits =>
          obtain ⟨rfl, -⟩ := List.cons.inj same
          exact absurd folded (by simp [accumulateDigit, isDigit])
    · rw [if_neg colon]
      constructor
      · intro read
        cases accumulated : accumulateDigit limit length byte with
        | none =>
          rw [accumulated] at read
          cases read
        | some more =>
          rw [accumulated] at read
          obtain ⟨digits, folded, -, same⟩ := ih.mp read
          refine ⟨byte :: digits, ?_, .inr (by simp), by rw [same]; rfl⟩
          rw [List.foldlM_cons, accumulated]
          exact folded
      · rintro ⟨digits, folded, -, same⟩
        cases digits with
        | nil => exact absurd (List.cons.inj same).1 colon
        | cons digit digits =>
          obtain ⟨rfl, tail⟩ := List.cons.inj same
          cases accumulated : accumulateDigit limit length byte with
          | none =>
            rw [List.foldlM_cons, accumulated] at folded
            cases folded
          | some more =>
            rw [List.foldlM_cons, accumulated] at folded
            exact ih.mpr ⟨digits, folded, .inl rfl, tail⟩

theorem readToken_iff {input token rest : Bytes} :
    readToken limit input = some (token, rest) ↔
      ∃ written, Spells limit written token ∧ input = written ++ rest := by
  constructor
  · intro read
    unfold readToken at read
    cases measured : Netstring.readLength limit 0 false input with
    | none =>
      rw [measured] at read
      cases read
    | some found =>
      obtain ⟨length, behind⟩ := found
      rw [measured] at read
      obtain ⟨digits, folded, nonempty, rfl⟩ := (readLength_iff).mp measured
      by_cases short : behind.length < length
      · simp only [if_pos short] at read
        cases read
      · simp only [if_neg short] at read
        cases read
        have taken : (behind.take length).length = length := by
          rw [List.length_take]
          omega
        refine ⟨digits ++ 58 :: behind.take length, ⟨digits, ?_, rfl⟩, by simp⟩
        have present : digits ≠ [] := nonempty.resolve_left (by simp)
        rw [taken, parseDecimal, if_neg (by simpa using present)]
        exact folded
  · rintro ⟨written, ⟨digits, denotes, rfl⟩, rfl⟩
    unfold parseDecimal at denotes
    by_cases empty : digits.isEmpty = true
    · rw [if_pos empty] at denotes
      cases denotes
    · rw [if_neg empty] at denotes
      have measured : Netstring.readLength limit 0 false (digits ++ 58 :: (token ++ rest)) =
          some (token.length, token ++ rest) :=
        (readLength_iff).mpr ⟨digits, denotes, .inr (by simpa using empty), rfl⟩
      rw [readToken, List.append_assoc, List.cons_append, measured]
      simp

theorem Spelled.unique {tokens others : List Bytes} {bytes : Bytes}
    (spelled : Spelled limit tokens bytes) (again : Spelled limit others bytes) :
    tokens = others := by
  have present {written token rest : Bytes} (spells : Spells limit written token) :
      written ++ rest ≠ [] := by
    obtain ⟨digits, -, rfl⟩ := spells
    simp
  induction spelled generalizing others with
  | nil =>
    generalize empty : ([] : Bytes) = bytes at again
    cases again with
    | nil => rfl
    | cons first later => exact absurd empty.symm (present first)
  | @cons written token rest tokens first later ih =>
    generalize same : written ++ rest = bytes at again
    cases again with
    | nil => exact absurd same (present first)
    | @cons written' other rest' others first' later' =>
      have read : readToken limit (written ++ rest) = some (token, rest) :=
        (readToken_iff).mpr ⟨written, first, rfl⟩
      have reread : readToken limit (written' ++ rest') = some (other, rest') :=
        (readToken_iff).mpr ⟨written', first', rfl⟩
      rw [same, reread] at read
      cases read
      rw [ih later']

theorem run_iff {reader : TokenReader α} {input rest : Bytes} {value : α} :
    reader.run limit input = some (value, rest) ↔
      ∃ tokens bytes, Spelled limit tokens bytes ∧ input = bytes ++ rest ∧
        reader.accepts tokens = some value := by
  induction reader generalizing input with
  | done result =>
    constructor
    · intro ran
      cases ran
      exact ⟨[], [], .nil, rfl, rfl⟩
    · rintro ⟨tokens, bytes, spelled, rfl, accepted⟩
      cases spelled with
      | nil =>
        cases accepted
        rfl
      | cons first later => cases accepted
  | fail =>
    constructor
    · intro ran
      cases ran
    · rintro ⟨tokens, bytes, -, -, accepted⟩
      cases accepted
  | next resume ih =>
    constructor
    · intro ran
      cases read : readToken limit input with
      | none =>
        rw [run, read] at ran
        cases ran
      | some found =>
        obtain ⟨first, behind⟩ := found
        rw [run, read] at ran
        obtain ⟨tokens, bytes, spelled, rfl, accepted⟩ := (ih first).mp ran
        obtain ⟨written, spells, rfl⟩ := (readToken_iff).mp read
        exact ⟨first :: tokens, written ++ bytes, .cons spells spelled,
          (List.append_assoc _ _ _).symm, accepted⟩
    · rintro ⟨tokens, bytes, spelled, rfl, accepted⟩
      cases spelled with
      | nil => cases accepted
      | @cons written first more tokens spells later =>
        have read : readToken limit (written ++ more ++ rest) = some (first, more ++ rest) :=
          (readToken_iff).mpr ⟨written, spells, List.append_assoc _ _ _⟩
        rw [run, read]
        exact (ih first).mpr ⟨tokens, more, later, rfl, accepted⟩

def complete (limit : Nat) (reader : TokenReader α) (input : Bytes) : Option α :=
  match reader.run limit input with
  | none => none
  | some (value, rest) => if rest.isEmpty then some value else none

theorem complete_iff {reader : TokenReader α} {input : Bytes} {value : α} :
    reader.complete limit input = some value ↔
      ∃ tokens, Spelled limit tokens input ∧ reader.accepts tokens = some value := by
  have whole : reader.complete limit input = some value ↔
      reader.run limit input = some (value, []) := by
    unfold complete
    cases ran : reader.run limit input with
    | none => simp
    | some found =>
      obtain ⟨result, rest⟩ := found
      cases rest with
      | nil => simp
      | cons byte rest => simp
  rw [whole, run_iff]
  constructor
  · rintro ⟨tokens, bytes, spelled, rfl, accepted⟩
    rw [List.append_nil]
    exact ⟨tokens, spelled, accepted⟩
  · rintro ⟨tokens, spelled, accepted⟩
    exact ⟨tokens, input, spelled, (List.append_nil _).symm, accepted⟩

/-! ## Composition -/

theorem accepts_bind {reader : TokenReader α} {rest : α → TokenReader β} {tokens more : List Bytes}
    {value : α} (accepted : reader.accepts tokens = some value) :
    (reader >>= rest).accepts (tokens ++ more) = (rest value).accepts more := by
  induction reader generalizing tokens with
  | done result =>
    cases tokens with
    | nil =>
      cases accepted
      rfl
    | cons token tokens => cases accepted
  | fail => cases accepted
  | next resume ih =>
    cases tokens with
    | nil => cases accepted
    | cons token tokens => exact ih token accepted

theorem exists_of_accepts_bind {reader : TokenReader α} {rest : α → TokenReader β}
    {tokens : List Bytes} {result : β} (accepted : (reader >>= rest).accepts tokens = some result) :
    ∃ first more value, tokens = first ++ more ∧ reader.accepts first = some value ∧
      (rest value).accepts more = some result := by
  induction reader generalizing tokens with
  | done value => exact ⟨[], tokens, value, rfl, rfl, accepted⟩
  | fail => cases accepted
  | next resume ih =>
    cases tokens with
    | nil => cases accepted
    | cons token tokens =>
      obtain ⟨first, more, value, rfl, leading, later⟩ := ih token accepted
      exact ⟨token :: first, more, value, rfl, leading, later⟩

theorem accepts_token_bind {rest : Bytes → TokenReader β} (value : Bytes) (more : List Bytes) :
    (token >>= rest).accepts (value :: more) = (rest value).accepts more := rfl

theorem accepts_tokenAs_bind {parse : Bytes → Option α} {rest : α → TokenReader β} {written : Bytes}
    {value : α} (denotes : parse written = some value) (more : List Bytes) :
    (tokenAs parse >>= rest).accepts (written :: more) = (rest value).accepts more := by
  have single : (tokenAs parse).accepts [written] = some value := by
    rw [tokenAs, accepts, denotes]
    rfl
  exact @accepts_bind _ _ (tokenAs parse) rest [written] more value single

theorem exists_of_token_bind {rest : Bytes → TokenReader β} {tokens : List Bytes} {result : β}
    (accepted : (token >>= rest).accepts tokens = some result) :
    ∃ value more, tokens = value :: more ∧ (rest value).accepts more = some result := by
  cases tokens with
  | nil => cases accepted
  | cons value more => exact ⟨value, more, rfl, accepted⟩

theorem exists_of_tokenAs_bind {parse : Bytes → Option α} {rest : α → TokenReader β}
    {tokens : List Bytes} {result : β}
    (accepted : (tokenAs parse >>= rest).accepts tokens = some result) :
    ∃ written value more, tokens = written :: more ∧ parse written = some value ∧
      (rest value).accepts more = some result := by
  cases tokens with
  | nil => cases accepted
  | cons written more =>
    cases denotes : parse written with
    | none =>
      change ((ofOption (parse written)).bind rest).accepts more = some result at accepted
      rw [denotes] at accepted
      cases accepted
    | some value =>
      rw [accepts_tokenAs_bind denotes] at accepted
      exact ⟨written, value, more, rfl, denotes, accepted⟩

theorem exists_of_accepts_pure {value result : α} {tokens : List Bytes}
    (accepted : (pure value : TokenReader α).accepts tokens = some result) :
    tokens = [] ∧ value = result := by
  cases tokens with
  | nil =>
    cases accepted
    exact ⟨rfl, rfl⟩
  | cons token tokens => cases accepted

theorem spells_counted {token : Bytes} (short : token.length ≤ limit) :
    Spells limit (Netstring.counted token) token :=
  ⟨decimal token.length, parseDecimal_decimal limit _ short, by simp [Netstring.counted, text]⟩

theorem spelled_countedList {tokens : List Bytes} (short : ∀ token ∈ tokens, token.length ≤ limit) :
    Spelled limit tokens (Netstring.countedList tokens) := by
  induction tokens with
  | nil => exact .nil
  | cons token tokens ih =>
    rw [Netstring.countedList, List.flatMap_cons, ← Netstring.countedList]
    exact .cons (spells_counted (short token List.mem_cons_self))
      (ih fun other member => short other (List.mem_cons_of_mem _ member))

end TokenReader

end VdrSuite.Library
