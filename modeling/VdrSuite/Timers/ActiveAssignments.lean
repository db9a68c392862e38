import Mathlib.Data.List.Perm.Subperm
import VdrSuite.Timers.AssignmentSetFence

/-! Which assignments one call of the repository makes active, and what that means for a bound on
the active ones. -/

set_option autoImplicit false

namespace VdrSuite.Timers

open Library Library.Transaction

variable {store next before after : TimerStore} {row : TimerAssignmentRow} {timerIntentId : Bytes}

/-! ## Active assignments -/

def Active (store : TimerStore) (row : TimerAssignmentRow) : Prop :=
  row ∈ store.assignments ∧ timerAssignmentActiveOwnershipState row.state = true

def activeOf (timerIntentId : Bytes) (store : TimerStore) : List TimerAssignmentRow :=
  store.assignments.filter fun row =>
    row.timerIntentId == timerIntentId && timerAssignmentActiveOwnershipState row.state

theorem mem_activeOf :
    row ∈ activeOf timerIntentId store ↔ Active store row ∧ row.timerIntentId = timerIntentId := by
  rw [activeOf, List.mem_filter, Bool.and_eq_true, beq_iff_eq, Active]
  constructor
  · rintro ⟨member, intent, active⟩
    exact ⟨⟨member, active⟩, intent⟩
  · rintro ⟨⟨member, active⟩, intent⟩
    exact ⟨member, intent, active⟩

structure SameOwnership (old new : TimerAssignmentRow) : Prop where
  identity : old.timerAssignmentId = new.timerAssignmentId
  intent : old.timerIntentId = new.timerIntentId
  role : old.role = new.role
  backend : old.backendId = new.backendId

theorem SameOwnership.refl (row : TimerAssignmentRow) : SameOwnership row row :=
  ⟨rfl, rfl, rfl, rfl⟩

def Activated (before after : TimerStore) (row : TimerAssignmentRow) : Prop :=
  Active after row ∧ ∀ old, Active before old → old.timerAssignmentId ≠ row.timerAssignmentId

/-- At most one assignment becomes active; the other active ones have been active before. -/
structure ActivatesOne (before after : TimerStore) : Prop where
  kept : ∀ row, Active after row →
    Activated before after row ∨ ∃ old, Active before old ∧ SameOwnership old row
  single : ∀ first second, Activated before after first → Activated before after second →
    first = second

theorem ActivatesOne.of_assignments (same : after.assignments = before.assignments) :
    ActivatesOne before after ∧ ∀ row, ¬ Activated before after row := by
  have none (row : TimerAssignmentRow) : ¬ Activated before after row := by
    rintro ⟨⟨member, active⟩, fresh⟩
    rw [same] at member
    exact fresh row ⟨member, active⟩ rfl
  refine ⟨⟨?_, fun first _ activated => absurd activated (none first)⟩, none⟩
  rintro row ⟨member, active⟩
  rw [same] at member
  exact .inr ⟨row, ⟨member, active⟩, SameOwnership.refl row⟩

theorem activated_congr {ready written : TimerStore}
    (install : ready.assignments = before.assignments)
    (remove : after.assignments = written.assignments) :
    Activated before after row ↔ Activated ready written row := by
  unfold Activated Active
  rw [install, remove]

theorem ActivatesOne.between {ready written : TimerStore} (activates : ActivatesOne ready written)
    (install : ready.assignments = before.assignments)
    (remove : after.assignments = written.assignments) : ActivatesOne before after := by
  obtain ⟨kept, single⟩ := activates
  constructor
  · intro row active
    rw [activated_congr install remove]
    unfold Active at active kept ⊢
    rw [remove] at active
    rw [← install]
    exact kept row active
  · intro first second
    rw [activated_congr install remove, activated_congr install remove]
    exact single first second

/-! ## Insertions -/

theorem insertAssignment_active (done : insertAssignment row store = .ok next)
    {other : TimerAssignmentRow} (active : Active next other) : other = row ∨ Active store other := by
  obtain ⟨member, owning⟩ := active
  obtain ⟨change, rows, changes, -⟩ := insertAssignment_rows done
  rw [rows] at member
  rcases List.mem_append.mp member with image | new
  · obtain ⟨old, present, rfl⟩ := List.mem_map.mp image
    rcases changes old with same | superseded
    · rw [same] at owning ⊢
      exact .inr ⟨present, owning⟩
    · rw [superseded] at owning
      cases owning
  · exact .inl (List.mem_singleton.mp new)

theorem insertAssignment_activated (done : insertAssignment row store = .ok next)
    {other : TimerAssignmentRow} (activated : Activated store next other) : other = row := by
  obtain ⟨active, fresh⟩ := activated
  rcases insertAssignment_active done active with same | old
  · exact same
  · exact absurd rfl (fresh other old)

theorem insertAssignment_activatesOne (done : insertAssignment row store = .ok next) :
    ActivatesOne store next := by
  constructor
  · intro other active
    rcases insertAssignment_active done active with rfl | old
    · obtain ⟨-, -, -, fresh⟩ := insertAssignment_rows done
      exact .inl ⟨active, fun old present => fresh old present.1⟩
    · exact .inr ⟨other, old, SameOwnership.refl other⟩
  · intro first second firstActivated secondActivated
    rw [insertAssignment_activated done firstActivated,
      insertAssignment_activated done secondActivated]

/-! ## Updates -/

theorem Active.placed (valid : RowsValid store.assignments) (active : Active store row) :
    row.backendId ≠ [] := by
  obtain ⟨assignment, read⟩ := valid.readable row active.1
  obtain ⟨-, -, evidence, desired, -, -, rfl, checked, -⟩ :=
    (readAssignment_eq_some_iff row assignment).mp read
  have assigned : assignedShapeValid (assignmentOfRow row evidence desired) = true := by
    apply assignedShape_of_valid checked
    intro unassigned
    have owning : timerAssignmentActiveOwnershipState row.state = true := active.2
    change row.state = .unassigned at unassigned
    rw [unassigned] at owning
    cases owning
  simp only [assignedShapeValid, Bool.and_eq_true, nonEmptyBounded_iff] at assigned
  exact assigned.1.1.1.1.1

theorem Updated.activatesOne {current : TimerAssignmentRow} {expectedRevision : Nat}
    (written : Updated store next current row expectedRevision)
    (valid : RowsValid store.assignments) : ActivatesOne store next := by
  have rows : next.assignments = store.assignments.map fun other =>
      if other.timerAssignmentId = row.timerAssignmentId then row else other := by
    have done := written.updated
    unfold updateAssignment at done
    split at done
    · cases done
    · split at done
      · cases done
      · rw [← Except.ok.inj done, afterUpdate_assignments]
  have others {other : TimerAssignmentRow} (active : Active next other) :
      other = row ∨ Active store other := by
    obtain ⟨member, owning⟩ := active
    rw [rows] at member
    obtain ⟨old, present, image⟩ := List.mem_map.mp member
    split at image
    · exact .inl image.symm
    · subst image
      exact .inr ⟨present, owning⟩
  have changed {other : TimerAssignmentRow} (activated : Activated store next other) :
      other = row := by
    rcases others activated.1 with same | old
    · exact same
    · exact absurd rfl (activated.2 other old)
  constructor
  · intro other active
    rcases others active with rfl | old
    · by_cases owning : timerAssignmentActiveOwnershipState current.state = true
      · have placed := Active.placed valid ⟨written.present, owning⟩
        exact .inr ⟨current, ⟨written.present, owning⟩, written.kept.identity.symm,
          written.kept.intent.symm, written.role.symm, (written.backend placed).symm⟩
      · refine .inl ⟨active, fun old present same => owning ?_⟩
        rw [← valid.eq_of_identity present.1 written.present (same.trans written.kept.identity)]
        exact present.2
    · exact .inr ⟨other, old, SameOwnership.refl other⟩
  · intro first second firstActivated secondActivated
    rw [changed firstActivated, changed secondActivated]

/-! ## Calls -/

theorem perform_activatesOne (valid : RowsValid store.assignments) (call : TimerAssignmentCall) :
    ActivatesOne store (perform store call).1 := by
  have unchanged {after : TimerStore} (same : after.assignments = store.assignments) :
      ActivatesOne store after := (ActivatesOne.of_assignments same).1
  cases call with
  | create works assignment =>
    rcases create_cases works assignment store with ⟨-, same⟩ | ⟨-, row, created⟩
    · exact unchanged (congrArg TimerStore.assignments same)
    · exact insertAssignment_activatesOne created.inserted
  | update works assignment expectedRevision =>
    rcases update_cases works assignment expectedRevision store with
      ⟨-, same⟩ | ⟨current, row, number, written⟩
    · exact unchanged (congrArg TimerStore.assignments same)
    · exact written.activatesOne valid
  | createAgainstAssignmentSetRevision works assignment expectedAssignmentSetRevision =>
    rcases createAgainstAssignmentSetRevision_cases works assignment expectedAssignmentSetRevision
      store with ⟨-, same, -⟩ | ⟨-, _, _, _, _, -, -, -, install, created, remove⟩
    · exact unchanged same.assignments
    · exact (insertAssignment_activatesOne created.inserted).between install.assignments
        remove.assignments
  | createControlledReplacement works replacement expectedAssignmentSetRevision evidence =>
    rcases createControlledReplacement_steps works replacement expectedAssignmentSetRevision
      evidence store with ⟨-, same, -⟩ | ⟨-, -, -, _, _, _, _, -, install, created, remove⟩
    · exact unchanged same.assignments
    · exact (insertAssignment_activatesOne created.inserted).between install.assignments
        remove.assignments
  | environment intents bindings operations => exact unchanged rfl

end VdrSuite.Timers
