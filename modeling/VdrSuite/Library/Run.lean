import Mathlib.Data.List.Induction

/-! Request/answer machines: finite runs, their journals and what a run inherits from one step. -/

set_option autoImplicit false

namespace VdrSuite.Library.Run

variable {State Request Answer : Type}

def final (step : State → Request → State × Answer) (start : State) (requests : List Request) : State :=
  requests.foldl (fun state request => (step state request).1) start

def journal (step : State → Request → State × Answer) :
    State → List Request → List (Request × Answer)
  | _, [] => []
  | state, request :: rest =>
    (request, (step state request).2) :: journal step (step state request).1 rest

def Admits (step : State → Request → State × Answer) (Admitted : State → Request → Prop) :
    State → List Request → Prop
  | _, [] => True
  | state, request :: rest => Admitted state request ∧ Admits step Admitted (step state request).1 rest

def Untouched {View : Type} (step : State → Request → State × Answer) (view : State → View) :
    State → List Request → Prop :=
  Admits step fun state request => view (step state request).1 = view state

variable (step : State → Request → State × Answer)

@[simp] theorem final_nil (start : State) : final step start [] = start := rfl

@[simp] theorem final_cons (start : State) (request : Request) (rest : List Request) :
    final step start (request :: rest) = final step (step start request).1 rest := rfl

theorem final_append (start : State) (earlier later : List Request) :
    final step start (earlier ++ later) = final step (final step start earlier) later := by
  simp [final, List.foldl_append]

theorem final_concat (start : State) (earlier : List Request) (request : Request) :
    final step start (earlier ++ [request]) = (step (final step start earlier) request).1 := by
  simp [final_append]

theorem journal_append (start : State) (earlier later : List Request) :
    journal step start (earlier ++ later) =
      journal step start earlier ++ journal step (final step start earlier) later := by
  induction earlier generalizing start with
  | nil => rfl
  | cons request rest ih => simp [journal, ih]

theorem journal_concat (start : State) (earlier : List Request) (request : Request) :
    journal step start (earlier ++ [request]) =
      journal step start earlier ++ [(request, (step (final step start earlier) request).2)] := by
  simp [journal_append, journal]

theorem final_preserves (Invariant : State → Prop)
    (preserved : ∀ state request, Invariant state → Invariant (step state request).1)
    (start : State) (valid : Invariant start) (requests : List Request) :
    Invariant (final step start requests) := by
  induction requests generalizing start with
  | nil => exact valid
  | cons request rest ih => exact ih _ (preserved start request valid)

/-- A reflexive and transitive relation between the two ends of every step, for states that keep
an invariant, relates the two ends of every run whose requests are all admitted. -/
theorem final_relates (Invariant : State → Prop) (Admitted : State → Request → Prop)
    (Related : State → State → Prop)
    (reflexive : ∀ state, Related state state)
    (transitive : ∀ first second third, Related first second → Related second third →
      Related first third)
    (preserved : ∀ state request, Invariant state → Invariant (step state request).1)
    (related : ∀ state request, Invariant state → Admitted state request →
      Related state (step state request).1)
    (start : State) (valid : Invariant start) (requests : List Request)
    (admitted : ∀ earlier request later, requests = earlier ++ request :: later →
      Admitted (final step start earlier) request) :
    Related start (final step start requests) := by
  induction requests generalizing start with
  | nil => exact reflexive start
  | cons request rest ih =>
    refine transitive _ _ _ (related start request valid (admitted [] request rest rfl)) ?_
    refine ih _ (preserved start request valid) ?_
    intro earlier next later split
    exact admitted (request :: earlier) next later (by simp [split])

/-- An invariant of every admitted step is an invariant of every run of admitted requests. -/
theorem final_preserves_of_admits {Admitted : State → Request → Prop} (Invariant : State → Prop)
    (preserved : ∀ state request, Invariant state → Admitted state request →
      Invariant (step state request).1)
    {start : State} (valid : Invariant start) {requests : List Request}
    (admits : Admits step Admitted start requests) : Invariant (final step start requests) := by
  induction requests generalizing start with
  | nil => exact valid
  | cons request rest ih => exact ih (preserved start request valid admits.1) admits.2

/-- What an invariant and the admission of a request imply, holds of every request of a run. -/
theorem Admits.imp {Admitted Conclusion : State → Request → Prop} (Invariant : State → Prop)
    (preserved : ∀ state request, Invariant state → Admitted state request →
      Invariant (step state request).1)
    (implied : ∀ state request, Invariant state → Admitted state request →
      Conclusion state request)
    {start : State} (valid : Invariant start) {requests : List Request}
    (admits : Admits step Admitted start requests) : Admits step Conclusion start requests := by
  induction requests generalizing start with
  | nil => trivial
  | cons request rest ih =>
    exact ⟨implied start request valid admits.1, ih (preserved start request valid admits.1) admits.2⟩

theorem admits_of_forall {Admitted : Request → Prop} {requests : List Request}
    (all : ∀ request ∈ requests, Admitted request) {start : State} :
    Admits step (fun _ => Admitted) start requests := by
  induction requests generalizing start with
  | nil => trivial
  | cons request rest ih =>
    exact ⟨all request List.mem_cons_self, ih fun other later =>
      all other (List.mem_cons_of_mem request later)⟩

theorem admits_append {Admitted : State → Request → Prop} {start : State}
    {earlier later : List Request} :
    Admits step Admitted start (earlier ++ later) ↔
      Admits step Admitted start earlier ∧ Admits step Admitted (final step start earlier) later := by
  induction earlier generalizing start with
  | nil => exact (and_iff_right trivial).symm
  | cons request rest ih => exact (and_congr_right fun _ => ih).trans and_assoc.symm

def decidableAdmits {Admitted : State → Request → Prop}
    [decide : ∀ state request, Decidable (Admitted state request)] :
    (start : State) → (requests : List Request) → Decidable (Admits step Admitted start requests)
  | _, [] => .isTrue trivial
  | start, request :: rest =>
    @instDecidableAnd _ _ (decide start request) (decidableAdmits (step start request).1 rest)

instance {Admitted : State → Request → Prop} [∀ state request, Decidable (Admitted state request)]
    (start : State) (requests : List Request) : Decidable (Admits step Admitted start requests) :=
  decidableAdmits step start requests

theorem admits_iff_forall_split {Admitted : State → Request → Prop} {start : State}
    {requests : List Request} :
    Admits step Admitted start requests ↔ ∀ before request after,
      requests = before ++ request :: after → Admitted (final step start before) request := by
  induction requests generalizing start with
  | nil =>
    refine iff_of_true trivial fun before request after split => ?_
    cases before with
    | nil => cases split
    | cons _ _ => cases split
  | cons first rest ih =>
    constructor
    · rintro ⟨admitted, later⟩ before request after split
      cases before with
      | nil =>
        cases split
        exact admitted
      | cons _ before =>
        obtain ⟨rfl, splitRest⟩ := List.cons.inj split
        exact ih.mp later before request after splitRest
    · intro all
      refine ⟨all [] first rest rfl, ih.mpr fun before request after split => ?_⟩
      exact all (first :: before) request after (by rw [split, List.cons_append])

theorem Admits.and {First Second : State → Request → Prop} {start : State}
    {requests : List Request} (first : Admits step First start requests)
    (second : Admits step Second start requests) :
    Admits step (fun state request => First state request ∧ Second state request) start requests := by
  induction requests generalizing start with
  | nil => trivial
  | cons request rest ih => exact ⟨⟨first.1, second.1⟩, ih first.2 second.2⟩

/-- A property of states and journals that every admitted step extends holds of every run of
admitted requests. -/
theorem final_journal_preserves_of_admits {Admitted : State → Request → Prop}
    (Invariant : State → List (Request × Answer) → Prop)
    (extended : ∀ state entries request, Invariant state entries → Admitted state request →
      Invariant (step state request).1 (entries ++ [(request, (step state request).2)]))
    {start : State} {entries : List (Request × Answer)} (valid : Invariant start entries)
    {requests : List Request} (admits : Admits step Admitted start requests) :
    Invariant (final step start requests) (entries ++ journal step start requests) := by
  induction requests generalizing start entries with
  | nil => simpa [journal] using valid
  | cons request rest ih =>
    have later := ih (extended start entries request valid admits.1) admits.2
    simpa [journal] using later

/-- A number that grows with every change of a view, and only with one, tells at the end of a run
whether the view has been changed. -/
theorem stamp_eq_iff_untouched {View : Type} (Invariant : State → Prop) (view : State → View)
    (stamp : State → Nat)
    (preserved : ∀ state request, Invariant state → Invariant (step state request).1)
    (stamped : ∀ state request, Invariant state →
      (view (step state request).1 = view state ∧ stamp (step state request).1 = stamp state) ∨
      (view (step state request).1 ≠ view state ∧ stamp state < stamp (step state request).1))
    {start : State} (valid : Invariant start) (requests : List Request) :
    stamp start ≤ stamp (final step start requests) ∧
      (stamp (final step start requests) = stamp start ↔ Untouched step view start requests) := by
  induction requests generalizing start with
  | nil => exact ⟨Nat.le_refl _, iff_of_true rfl trivial⟩
  | cons request rest ih =>
    obtain ⟨grown, same⟩ := ih (preserved start request valid)
    rw [final_cons]
    rcases stamped start request valid with ⟨kept, equal⟩ | ⟨changed, larger⟩
    · rw [equal] at grown same
      exact ⟨grown, same.trans (and_iff_right kept).symm⟩
    · refine ⟨by omega, iff_of_false (by omega) ?_⟩
      exact fun untouched => changed untouched.1

/-- The part of a journal that belongs to a component is the journal of the component on its own. -/
theorem journal_component {Own OwnRequest OwnAnswer : Type}
    (ownStep : Own → OwnRequest → Own × OwnAnswer) (view : State → Own)
    (select : Request → Option OwnRequest)
    (part : Request × Answer → Option (OwnRequest × OwnAnswer))
    (others : ∀ state request, select request = none →
      view (step state request).1 = view state ∧ part (request, (step state request).2) = none)
    (own : ∀ state request ownRequest, select request = some ownRequest →
      view (step state request).1 = (ownStep (view state) ownRequest).1 ∧
      part (request, (step state request).2) =
        some (ownRequest, (ownStep (view state) ownRequest).2))
    (start : State) (requests : List Request) :
    (journal step start requests).filterMap part =
      journal ownStep (view start) (requests.filterMap select) := by
  induction requests generalizing start with
  | nil => rfl
  | cons request rest ih =>
    rw [journal, List.filterMap_cons, List.filterMap_cons, ih]
    cases selected : select request with
    | none =>
      obtain ⟨kept, absent⟩ := others start request selected
      rw [absent, kept]
    | some ownRequest =>
      obtain ⟨changed, present⟩ := own start request ownRequest selected
      rw [present, changed, journal]

theorem final_journal_preserves (Invariant : State → List (Request × Answer) → Prop)
    (start : State) (initial : Invariant start [])
    (extended : ∀ state entries request, Invariant state entries →
      Invariant (step state request).1 (entries ++ [(request, (step state request).2)]))
    (requests : List Request) :
    Invariant (final step start requests) (journal step start requests) := by
  induction requests using List.reverseRecOn with
  | nil => exact initial
  | append_singleton earlier request ih =>
    rw [final_concat, journal_concat]
    exact extended _ _ request ih

end VdrSuite.Library.Run
