import Mathlib.Logic.Basic

/-! Database statements: several committed one by one, and several inside one transaction. -/

set_option autoImplicit false

namespace VdrSuite.Library.Transaction

variable {Store Answer : Type}

/-- Why a statement was refused; a refused statement leaves nothing behind. -/
inductive Refusal
  | constraint
  | error
  deriving DecidableEq

abbrev Statement (Store : Type) : Type := Store → Except Refusal Store

def attempt (carriedOut : Bool) (statement : Statement Store) : Statement Store :=
  fun store => if carriedOut then statement store else .error .error

def executeAll : List (Statement Store) → Store → Bool × Store
  | [], store => (true, store)
  | statement :: rest, store =>
    match statement store with
    | .error _ => (false, store)
    | .ok next => executeAll rest next

def inSequence : List (Statement Store) → Statement Store
  | [], store => .ok store
  | statement :: rest, store =>
    match statement store with
    | .error refusal => .error refusal
    | .ok next => inSequence rest next

def committed (statement : Statement Store) (store : Store) : Bool × Store :=
  match statement store with
  | .error _ => (false, store)
  | .ok next => (true, next)

/-- `BEGIN`, a body, and `COMMIT` when the body succeeded; everything else is rolled back. -/
def transaction (begins commits : Bool) (refused : Answer) (succeeded : Answer → Bool)
    (body : Store → Answer × Store) (store : Store) : Answer × Store :=
  if begins = false then (refused, store)
  else if succeeded (body store).1 = false then ((body store).1, store)
  else if commits = false then (refused, store)
  else body store

/-- A transaction around a body that ends with an answer to be rolled back, or with one to be
committed. -/
def atomically (begins commits : Bool) (refused : Answer)
    (body : Store → Except Answer (Answer × Store)) (store : Store) : Answer × Store :=
  if begins = false then (refused, store)
  else
    match body store with
    | .error answer => (answer, store)
    | .ok (answer, next) => if commits then (answer, next) else (refused, store)

def required {Value : Type} (refused : Answer) (value : Option Value) : Except Answer Value :=
  match value with
  | none => .error refused
  | some value => .ok value

def demand (refused : Answer) (condition : Prop) [Decidable condition] : Except Answer Unit :=
  if condition then .ok () else .error refused

def EndsWith {Result Value : Type} (kind : Result → Prop) (checks : Except Result Value) : Prop :=
  ∀ result, checks = .error result → kind result

/-! ## Rules -/

section Checks

variable {Result First Second : Type} {kind : Result → Prop}

theorem endsWith_ok (value : First) : EndsWith kind (.ok value) := by
  rintro result ⟨⟩

theorem endsWith_error {refused : Result} (ofKind : kind refused) :
    EndsWith kind (.error refused : Except Result First) := by
  rintro result ⟨⟩
  exact ofKind

theorem endsWith_bind {first : Except Result First} {rest : First → Except Result Second}
    (start : EndsWith kind first) (following : ∀ value, EndsWith kind (rest value)) :
    EndsWith kind (first >>= rest) := by
  cases first with
  | error refused => exact endsWith_error (start refused rfl)
  | ok value => exact following value

theorem endsWith_required {refused : Result} (ofKind : kind refused) (value : Option First) :
    EndsWith kind (required refused value) := by
  cases value with
  | none => exact endsWith_error ofKind
  | some value => exact endsWith_ok value

theorem endsWith_demand {refused : Result} {condition : Prop} [Decidable condition]
    (ofKind : ¬ condition → kind refused) : EndsWith kind (demand refused condition) := by
  unfold demand
  split
  · exact endsWith_ok ()
  · next unmet => exact endsWith_error (ofKind unmet)

theorem endsWith_mapError {Refused : Type} {change : Refused → Result}
    (ofKind : ∀ refused, kind (change refused)) (tried : Except Refused First) :
    EndsWith kind (tried.mapError change) := by
  cases tried with
  | error refused => exact endsWith_error (ofKind refused)
  | ok value => exact endsWith_ok value

theorem EndsWith.mono {checks : Except Result First} {weaker : Result → Prop}
    (ends : EndsWith kind checks) (implied : ∀ result, kind result → weaker result) :
    EndsWith weaker checks :=
  fun result refused => implied result (ends result refused)

end Checks

/-- A reflexive and transitive relation that every statement keeps is kept by all of them. -/
theorem executeAll_relates {Related : Store → Store → Prop} (reflexive : ∀ store, Related store store)
    (transitive : ∀ {first second third}, Related first second → Related second third →
      Related first third)
    {statements : List (Statement Store)}
    (each : ∀ statement ∈ statements, ∀ store next, statement store = .ok next →
      Related store next) (store : Store) :
    Related store (executeAll statements store).2 := by
  induction statements generalizing store with
  | nil => exact reflexive store
  | cons statement rest ih =>
    unfold executeAll
    cases step : statement store with
    | error refusal => exact reflexive store
    | ok next =>
      have first := each statement List.mem_cons_self store next step
      exact transitive first (ih (fun other member => each other (by simp [member])) next)

theorem inSequence_cons_ok {statement : Statement Store} {rest : List (Statement Store)}
    {store last : Store} (done : inSequence (statement :: rest) store = .ok last) :
    ∃ next, statement store = .ok next ∧ inSequence rest next = .ok last := by
  unfold inSequence at done
  cases step : statement store with
  | error refusal =>
    rw [step] at done
    cases done
  | ok next =>
    rw [step] at done
    exact ⟨next, rfl, done⟩

theorem executeAll_cons_true {statement : Statement Store} {rest : List (Statement Store)}
    {store : Store} (all : (executeAll (statement :: rest) store).1 = true) :
    ∃ next, statement store = .ok next ∧ (executeAll rest next).1 = true ∧
      (executeAll (statement :: rest) store).2 = (executeAll rest next).2 := by
  simp only [executeAll] at all ⊢
  cases step : statement store with
  | error refusal => simp [step] at all
  | ok next =>
    simp only [step] at all
    exact ⟨next, rfl, all, rfl⟩

theorem committed_cases (statement : Statement Store) (store : Store) :
    (∃ next, statement store = .ok next ∧ committed statement store = (true, next)) ∨
      committed statement store = (false, store) := by
  unfold committed
  cases done : statement store with
  | error refusal => exact .inr rfl
  | ok next => exact .inl ⟨next, rfl, rfl⟩

theorem transaction_cases {begins commits : Bool} {refused : Answer} {succeeded : Answer → Bool}
    {body : Store → Answer × Store} (failing : succeeded refused = false) (store : Store) :
    (transaction begins commits refused succeeded body store = body store ∧
      succeeded (body store).1 = true) ∨
    ((transaction begins commits refused succeeded body store).2 = store ∧
      succeeded (transaction begins commits refused succeeded body store).1 = false) := by
  unfold transaction
  split
  · exact .inr ⟨rfl, failing⟩
  · split
    · next unsuccessful => exact .inr ⟨rfl, unsuccessful⟩
    · next successful =>
      split
      · exact .inr ⟨rfl, failing⟩
      · exact .inl ⟨rfl, eq_true_of_ne_false successful⟩

theorem transaction_failed {begins commits : Bool} {refused : Answer} {succeeded : Answer → Bool}
    {body : Store → Answer × Store} (failing : succeeded refused = false) {store : Store}
    (failed : succeeded (transaction begins commits refused succeeded body store).1 = false) :
    (transaction begins commits refused succeeded body store).2 = store := by
  have outcome : (transaction begins commits refused succeeded body store = body store ∧
      succeeded (body store).1 = true) ∨ _ := transaction_cases failing store
  rcases outcome with ⟨same, ok⟩ | ⟨kept, -⟩
  · rw [same, ok] at failed
    cases failed
  · exact kept

theorem committed_failed {statement : Statement Store} {store : Store}
    (failed : (committed statement store).1 = false) : (committed statement store).2 = store := by
  rcases committed_cases statement store with ⟨next, -, result⟩ | refused
  · rw [result] at failed
    cases failed
  · rw [refused]

theorem bind_eq_ok_iff {Refused First Second : Type} {first : Except Refused First}
    {rest : First → Except Refused Second} {value : Second} :
    first >>= rest = .ok value ↔ ∃ middle, first = .ok middle ∧ rest middle = .ok value := by
  cases first with
  | error refused => exact ⟨nofun, fun ⟨_, done, _⟩ => nomatch done⟩
  | ok middle => exact ⟨fun done => ⟨middle, rfl, done⟩, fun ⟨_, rfl, done⟩ => done⟩

theorem mapError_eq_ok_iff {Refused Other Value : Type} {change : Refused → Other}
    {tried : Except Refused Value} {value : Value} :
    tried.mapError change = .ok value ↔ tried = .ok value := by
  cases tried with
  | error refused => exact ⟨nofun, nofun⟩
  | ok other => exact ⟨fun | rfl => rfl, fun | rfl => rfl⟩

theorem required_eq_ok_iff {Value : Type} {refused : Answer} {value : Option Value} {present : Value} :
    required refused value = .ok present ↔ value = some present := by
  cases value with
  | none => exact ⟨nofun, nofun⟩
  | some other => exact ⟨fun | rfl => rfl, fun | rfl => rfl⟩

theorem demand_eq_ok_iff {refused : Answer} {condition : Prop} [Decidable condition] {value : Unit} :
    demand refused condition = .ok value ↔ condition := by
  unfold demand
  split
  · next met => exact ⟨fun _ => met, fun _ => rfl⟩
  · next unmet => exact ⟨nofun, fun met => absurd met unmet⟩

theorem atomically_cases (begins commits : Bool) (refused : Answer)
    (body : Store → Except Answer (Answer × Store)) (store : Store) :
    (begins = true ∧ commits = true ∧
      body store = .ok (atomically begins commits refused body store)) ∨
    (atomically begins commits refused body store).2 = store ∧
      ((atomically begins commits refused body store).1 = refused ∨
        body store = .error (atomically begins commits refused body store).1) := by
  unfold atomically
  cases begins with
  | false => exact .inr ⟨rfl, .inl rfl⟩
  | true =>
    cases done : body store with
    | error answer => exact .inr ⟨rfl, .inr rfl⟩
    | ok finished =>
      cases commits with
      | false => exact .inr ⟨rfl, .inl rfl⟩
      | true => exact .inl ⟨rfl, rfl, rfl⟩

theorem attempt_ok {carriedOut : Bool} {statement : Statement Store} {store next : Store}
    (done : attempt carriedOut statement store = .ok next) :
    carriedOut = true ∧ statement store = .ok next := by
  unfold attempt at done
  cases carriedOut with
  | false => cases done
  | true => exact ⟨rfl, done⟩

end VdrSuite.Library.Transaction
