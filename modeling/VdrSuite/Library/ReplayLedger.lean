import Mathlib.Data.List.Nodup

/-! Replay ledgers: each operation is reserved once, by one owner and for one content, and repeated
requests for it are answered with the result recorded for the first. -/

set_option autoImplicit false

namespace VdrSuite.Library.ReplayLedger

/-- What a request claims: the operation, who asks for it and what is to be done. -/
structure Key (Operation Owner Content : Type) where
  operation : Operation
  owner : Owner
  content : Content
  deriving DecidableEq

/-- What is kept of a reserved operation; the result is absent while it is in progress. -/
structure Entry (Owner Content Result : Type) where
  owner : Owner
  content : Content
  result : Option Result := none
  deriving DecidableEq

structure Ledger (Operation Owner Content Result : Type) where
  entries : List (Operation × Entry Owner Content Result) := []
  owners : List (Owner × Operation) := []
  deriving DecidableEq

inductive Reservation (Result : Type) where
  | conflict
  | inProgress
  | finished (result : Result)
  | full
  | reserved
  deriving DecidableEq

variable {Operation Owner Content Result : Type} [DecidableEq Operation] [DecidableEq Owner]
  [DecidableEq Content]

def emplace {Index Value : Type} [DecidableEq Index] (index : Index) (value : Value)
    (table : List (Index × Value)) : List (Index × Value) :=
  if (table.lookup index).isSome then table else table ++ [(index, value)]

def classify (capacity : Nat) (ledger : Ledger Operation Owner Content Result)
    (key : Key Operation Owner Content) : Reservation Result :=
  if (ledger.owners.lookup key.owner).any (· ≠ key.operation) then .conflict
  else
    match ledger.entries.lookup key.operation with
    | some entry =>
      if entry.owner ≠ key.owner ∨ entry.content ≠ key.content then .conflict
      else
        match entry.result with
        | none => .inProgress
        | some result => .finished result
    | none => if capacity ≤ ledger.entries.length then .full else .reserved

def enter (key : Key Operation Owner Content) (ledger : Ledger Operation Owner Content Result) :
    Ledger Operation Owner Content Result :=
  { entries := emplace key.operation { owner := key.owner, content := key.content } ledger.entries
    owners := emplace key.owner key.operation ledger.owners }

def reserve (capacity : Nat) (ledger : Ledger Operation Owner Content Result)
    (key : Key Operation Owner Content) :
    Reservation Result × Ledger Operation Owner Content Result :=
  match classify capacity ledger key with
  | .reserved => (.reserved, enter key ledger)
  | other => (other, ledger)

/-- Stores the result of a reserved operation; a checked ledger also compares its owner and content. -/
def record (checked : Bool) (key : Key Operation Owner Content) (result : Result)
    (ledger : Ledger Operation Owner Content Result) : Ledger Operation Owner Content Result :=
  { ledger with
    entries := ledger.entries.map fun (operation, entry) =>
      if operation = key.operation ∧
          (checked = true → entry.owner = key.owner ∧ entry.content = key.content) then
        (operation, { entry with result := some result })
      else (operation, entry) }

/-! ## Histories -/

abbrev History (Operation Owner Content Result : Type) :=
  List (Key Operation Owner Content × Option Result)

variable {history : History Operation Owner Content Result}
  {ledger : Ledger Operation Owner Content Result} {key : Key Operation Owner Content}

structure Represents (history : History Operation Owner Content Result)
    (ledger : Ledger Operation Owner Content Result) : Prop where
  entries : ledger.entries = history.map fun past =>
    (past.1.operation, { owner := past.1.owner, content := past.1.content, result := past.2 })
  owners : ledger.owners = history.map fun past => (past.1.owner, past.1.operation)

structure Distinct (history : History Operation Owner Content Result) : Prop where
  operations : (history.map fun past => past.1.operation).Nodup
  owners : (history.map fun past => past.1.owner).Nodup

omit [DecidableEq Operation] [DecidableEq Owner] [DecidableEq Content] in
theorem represents_nil :
    Represents ([] : History Operation Owner Content Result) {} := ⟨rfl, rfl⟩

omit [DecidableEq Operation] [DecidableEq Owner] [DecidableEq Content] in
theorem distinct_nil : Distinct ([] : History Operation Owner Content Result) := by
  constructor <;> exact List.nodup_nil

theorem lookup_map {Index Value Row : Type} [DecidableEq Index] (index : Row → Index)
    (value : Row → Value) (wanted : Index) (rows : List Row) :
    (rows.map fun row => (index row, value row)).lookup wanted =
      (rows.find? fun row => index row == wanted).map value := by
  induction rows with
  | nil => rfl
  | cons row rows ih =>
    rw [List.map_cons, List.lookup_cons, List.find?_cons, ih]
    by_cases same : index row = wanted
    · simp [same]
    · have different : (wanted == index row) = false := by
        simpa using fun equal : wanted = index row => same equal.symm
      have other : (index row == wanted) = false := by simpa using same
      simp only [different, other]

theorem emplace_new {Index Value : Type} [DecidableEq Index] {index : Index} {value : Value}
    {table : List (Index × Value)} (absent : table.lookup index = none) :
    emplace index value table = table ++ [(index, value)] := by
  simp [emplace, absent]

omit [DecidableEq Operation] [DecidableEq Owner] [DecidableEq Content] in
theorem key_eq {first second : Key Operation Owner Content}
    (operation : first.operation = second.operation) (owner : first.owner = second.owner)
    (content : first.content = second.content) : first = second := by
  cases first
  cases second
  simp_all only

omit [DecidableEq Operation] [DecidableEq Content] in
theorem find?_owner (distinct : Distinct history) {past : Key Operation Owner Content × Option Result}
    (member : past ∈ history) {owner : Owner} (owned : past.1.owner = owner) :
    (history.find? fun other => other.1.owner == owner) = some past := by
  cases found : history.find? fun other => other.1.owner == owner with
  | none => exact absurd owned (by simpa using List.find?_eq_none.mp found past member)
  | some other =>
    have same : other.1.owner = past.1.owner := by
      rw [owned]
      simpa using List.find?_some found
    rw [List.inj_on_of_nodup_map distinct.owners (List.mem_of_find?_eq_some found) member same]

/-! ## What reservations and records do to the history -/

/-- A request against a ledger meets an earlier one that it contradicts, or repeats one, or finds no
room, or is reserved. -/
theorem reserve_cases (represents : Represents history ledger) (distinct : Distinct history)
    (capacity : Nat) (key : Key Operation Owner Content) :
    (reserve capacity ledger key = (.conflict, ledger) ∧
      ∃ past ∈ history, past.1 ≠ key ∧
        (past.1.operation = key.operation ∨ past.1.owner = key.owner)) ∨
    (reserve capacity ledger key = (.inProgress, ledger) ∧ (key, none) ∈ history) ∨
    (∃ result, reserve capacity ledger key = (.finished result, ledger) ∧
      (key, some result) ∈ history) ∨
    (reserve capacity ledger key = (.full, ledger) ∧ capacity ≤ history.length ∧
      ∀ past ∈ history, past.1.operation ≠ key.operation ∧ past.1.owner ≠ key.owner) ∨
    (reserve capacity ledger key = (.reserved, enter key ledger) ∧ history.length < capacity ∧
      (∀ past ∈ history, past.1.operation ≠ key.operation ∧ past.1.owner ≠ key.owner) ∧
      Represents (history ++ [(key, none)]) (enter key ledger)) := by
  have owned : ledger.owners.lookup key.owner =
      (history.find? fun past => past.1.owner == key.owner).map fun past => past.1.operation := by
    rw [represents.owners]
    exact lookup_map _ _ _ _
  have entered : ledger.entries.lookup key.operation =
      (history.find? fun past => past.1.operation == key.operation).map fun past =>
        { owner := past.1.owner, content := past.1.content, result := past.2 } := by
    rw [represents.entries]
    exact lookup_map _ _ _ _
  have size : ledger.entries.length = history.length := by simp [represents.entries]
  cases found : history.find? fun past => past.1.operation == key.operation with
  | some past =>
    have member := List.mem_of_find?_eq_some found
    have operation : past.1.operation = key.operation := by simpa using List.find?_some found
    by_cases same : past.1 = key
    · have ownedBySame : ledger.owners.lookup key.owner = some key.operation := by
        rw [owned, find?_owner distinct member (by rw [same]), Option.map_some, operation]
      right
      cases result : past.2 with
      | none =>
        left
        refine ⟨?_, ?_⟩
        · simp [reserve, classify, ownedBySame, entered, found, same, result]
        · rw [← same, ← result]
          exact member
      | some result' =>
        right
        left
        refine ⟨result', ?_, ?_⟩
        · simp [reserve, classify, ownedBySame, entered, found, same, result]
        · rw [← same, ← result]
          exact member
    · left
      refine ⟨?_, past, member, same, .inl operation⟩
      have contradicts : past.1.owner ≠ key.owner ∨ past.1.content ≠ key.content := by
        by_contra agree
        rw [not_or, not_not, not_not] at agree
        exact same (key_eq operation agree.1 agree.2)
      have conflict : classify capacity ledger key = .conflict := by
        simp only [classify, entered, found, Option.map_some, contradicts, if_true, ite_self]
      simp only [reserve, conflict]
  | none =>
    have free : ∀ past ∈ history, past.1.operation ≠ key.operation := by
      simpa using found
    cases owner : history.find? fun past => past.1.owner == key.owner with
    | some past =>
      have member := List.mem_of_find?_eq_some owner
      left
      refine ⟨?_, past, member, ?_, .inr (by simpa using List.find?_some owner)⟩
      · simp [reserve, classify, owned, owner, free past member]
      · rintro rfl
        exact free past member rfl
    | none =>
      have fresh : ∀ past ∈ history, past.1.owner ≠ key.owner := by
        simpa using owner
      have apart : ∀ past ∈ history,
          past.1.operation ≠ key.operation ∧ past.1.owner ≠ key.owner :=
        fun past member => ⟨free past member, fresh past member⟩
      right; right; right
      by_cases room : capacity ≤ history.length
      · left
        refine ⟨?_, room, apart⟩
        simp [reserve, classify, owned, owner, entered, found, size, room]
      · right
        refine ⟨?_, by omega, apart, ?_⟩
        · simp [reserve, classify, owned, owner, entered, found, size, room]
        · have newEntry : ledger.entries.lookup key.operation = none := by
            rw [entered, found, Option.map_none]
          have newOwner : ledger.owners.lookup key.owner = none := by
            rw [owned, owner, Option.map_none]
          constructor
          · simp only [enter, emplace_new newEntry, List.map_append, List.map_cons,
              List.map_nil]
            rw [← represents.entries]
          · simp only [enter, emplace_new newOwner, List.map_append, List.map_cons,
              List.map_nil]
            rw [← represents.owners]

omit [DecidableEq Operation] [DecidableEq Owner] [DecidableEq Content] in
theorem distinct_append (distinct : Distinct history)
    (apart : ∀ past ∈ history,
      past.1.operation ≠ key.operation ∧ past.1.owner ≠ key.owner) (result : Option Result) :
    Distinct (history ++ [(key, result)]) := by
  constructor
  · rw [List.map_append, List.nodup_append]
    refine ⟨distinct.operations, List.nodup_singleton _, ?_⟩
    intro first earlier second later
    obtain ⟨past, member, rfl⟩ := List.mem_map.mp earlier
    rw [List.mem_singleton.mp later]
    exact (apart past member).1
  · rw [List.map_append, List.nodup_append]
    refine ⟨distinct.owners, List.nodup_singleton _, ?_⟩
    intro first earlier second later
    obtain ⟨past, member, rfl⟩ := List.mem_map.mp earlier
    rw [List.mem_singleton.mp later]
    exact (apart past member).2

def History.finish (key : Key Operation Owner Content) (result : Result)
    (history : History Operation Owner Content Result) : History Operation Owner Content Result :=
  history.map fun past => if past.1 = key then (past.1, some result) else past

theorem record_represents (represents : Represents history ledger) (distinct : Distinct history)
    (checked : Bool) {prior : Option Result} (member : (key, prior) ∈ history) (result : Result) :
    Represents (history.finish key result) (record checked key result ledger) := by
  constructor
  · simp only [record, History.finish, represents.entries, List.map_map, List.map_inj_left,
      Function.comp_apply]
    intro past present
    by_cases same : past.1 = key
    · simp [same]
    · have other : past.1.operation ≠ key.operation := by
        intro operation
        have equal := List.inj_on_of_nodup_map distinct.operations present member operation
        exact same (congrArg Prod.fst equal)
      simp [same, other]
  · simp only [record, History.finish, represents.owners, List.map_map, List.map_inj_left,
      Function.comp_apply]
    intro past _
    split <;> rfl

theorem map_key_finish (key : Key Operation Owner Content) (result : Result)
    (history : History Operation Owner Content Result) :
    (history.finish key result).map Prod.fst = history.map Prod.fst := by
  simp only [History.finish, List.map_map, List.map_inj_left, Function.comp_apply]
  intro past _
  split <;> rfl

theorem distinct_finish (distinct : Distinct history) (result : Result) :
    Distinct (history.finish key result) := by
  have keys := map_key_finish key result history
  constructor
  · have same := congrArg (List.map fun key => key.operation) keys
    rw [List.map_map, List.map_map] at same
    exact same ▸ distinct.operations
  · have same := congrArg (List.map fun key => key.owner) keys
    rw [List.map_map, List.map_map] at same
    exact same ▸ distinct.owners

end VdrSuite.Library.ReplayLedger
