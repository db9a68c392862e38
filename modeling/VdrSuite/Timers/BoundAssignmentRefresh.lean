import VdrSuite.Timers.NativeTimerBinding
import VdrSuite.Timers.TimerAssignmentRepositoryProperties

/-! A passive refresh of a native timer binding moves the generation of its bound assignment along. -/

set_option autoImplicit false

namespace VdrSuite.Timers

open Library Library.Transaction

def isSpace (byte : UInt8) : Bool := byte == 32 || (9 ≤ byte && byte ≤ 13)

def castDigits (digits : Bytes) : Nat :=
  (digits.takeWhile isDigit).foldl (fun value byte => value * 10 + digitValue byte) 0

/-- `CAST(… AS INTEGER)` of a text: the number at its start, inside the range of 64 bits. -/
def castInteger (value : Bytes) : Int :=
  match value.dropWhile isSpace with
  | 45 :: digits => max (-(castDigits digits : Int)) (-9223372036854775808)
  | 43 :: digits => min (castDigits digits) int64Max
  | digits => min (castDigits digits) int64Max

def boundToBinding (binding : NativeTimerBinding) (row : TimerAssignmentRow) : Bool :=
  row.timerAssignmentId == cString binding.timerAssignmentId &&
  row.nativeTimerBindingId == cString binding.nativeTimerBindingId &&
  row.backendId == cString binding.backendId &&
  row.state == .bound

def currentIntent (row : TimerAssignmentRow) (intent : TimerIntentRow) : Bool :=
  intent.timerIntentId == row.timerIntentId &&
  castInteger row.intentRevision == intent.intentRevision &&
  (intent.state == text "active" || intent.state == text "paused")

def refreshedRow (generation : Nat) (observedAt : Int) (row : TimerAssignmentRow) :
    TimerAssignmentRow :=
  { row with
    backendGeneration := generation
    assignmentRevision := row.assignmentRevision + 1
    updatedAt := max (row.updatedAt + 1) observedAt }

/-- The `UPDATE`, which selects the row that the query has found and no other. -/
def refreshRow (binding : NativeTimerBinding) (generation : Nat) (observedAt : Int)
    (found row : TimerAssignmentRow) : TimerAssignmentRow :=
  if boundToBinding binding row && row.backendGeneration == found.backendGeneration &&
      row.assignmentRevision == found.assignmentRevision then refreshedRow generation observedAt row
  else row

def refreshBoundAssignmentGeneration (reads writes : Bool) (binding : NativeTimerBinding)
    (generation : Nat) (observedAt : Int) : Statement TimerStore := fun store =>
  if reads = false then .error .error
  else
    match store.assignments.find? fun row =>
        boundToBinding binding row && store.intents.any (currentIntent row) with
    | none => .error .error
    | some row =>
      if row.backendGeneration = 0 ∨ row.backendGeneration > asInt64 generation ∨
          row.assignmentRevision = 0 ∨ row.assignmentRevision = int64Max ∨
          row.updatedAt ≤ 0 ∨ row.updatedAt = int64Max then .error .error
      else if row.backendGeneration = asInt64 generation then .ok store
      else
        attempt writes (fun store =>
          .ok (afterUpdate row.timerIntentId
            { store with
              assignments :=
                store.assignments.map (refreshRow binding generation observedAt row) })) store

variable {store next : TimerStore} {reads writes : Bool} {binding : NativeTimerBinding}
  {generation : Nat} {observedAt : Int}

theorem refreshBoundAssignmentGeneration_ok
    (done : refreshBoundAssignmentGeneration reads writes binding generation observedAt store =
      .ok next) :
    ∃ row ∈ store.assignments, boundToBinding binding row = true ∧
      (row.backendGeneration : Int) ≤ asInt64 generation ∧
      ((next = store ∧ (row.backendGeneration : Int) = asInt64 generation) ∨
        next = afterUpdate row.timerIntentId
          { store with
            assignments := store.assignments.map (refreshRow binding generation observedAt row) }) := by
  unfold refreshBoundAssignmentGeneration at done
  split at done
  · cases done
  · split at done
    · cases done
    · next row found =>
      have present := List.mem_of_find?_eq_some found
      have selected := List.find?_some found
      rw [Bool.and_eq_true] at selected
      split at done
      · cases done
      · next usable =>
        have older : (row.backendGeneration : Int) ≤ asInt64 generation := by
          have := (not_or.mp (not_or.mp usable).2).1
          omega
        refine ⟨row, present, selected.1, older, ?_⟩
        split at done
        · next same =>
          cases done
          exact .inl ⟨rfl, same⟩
        · obtain ⟨-, written⟩ := attempt_ok done
          exact .inr (Except.ok.inj written).symm

theorem refreshRow_identity (found row : TimerAssignmentRow) :
    (refreshRow binding generation observedAt found row).timerAssignmentId = row.timerAssignmentId ∧
      (refreshRow binding generation observedAt found row).timerIntentId = row.timerIntentId := by
  unfold refreshRow
  split
  · exact ⟨rfl, rfl⟩
  · exact ⟨rfl, rfl⟩

end VdrSuite.Timers
