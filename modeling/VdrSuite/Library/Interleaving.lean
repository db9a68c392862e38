import VdrSuite.Library.Program
import VdrSuite.Library.Run

/-! Programs that run interleaved over one shared state, and what each may conclude from the replies
it has got. -/

set_option autoImplicit false

namespace VdrSuite.Library.Interleaving

variable {Effect : Type} {Reply : Effect → Type} {Result First Second State Oracle Change : Type}

abbrev Event (Reply : Effect → Type) : Type := (effect : Effect) × Reply effect

/-- Every effect that a program performs satisfies a rule about the events before it, and so does
every result that it reaches. -/
def Obeys (rule : List (Event Reply) → Effect → Prop) (reached : List (Event Reply) → Result → Prop) :
    List (Event Reply) → Program Effect Reply Result → Prop
  | earlier, .done result => reached earlier result
  | earlier, .perform effect next =>
    rule earlier effect ∧ ∀ reply, Obeys rule reached (earlier ++ [⟨effect, reply⟩]) (next reply)

variable {rule : List (Event Reply) → Effect → Prop}

theorem Obeys.mono {program : Program Effect Reply Result}
    {reached conclusion : List (Event Reply) → Result → Prop} {earlier : List (Event Reply)}
    (obeys : Obeys rule reached earlier program)
    (weaker : ∀ events result, reached events result → conclusion events result) :
    Obeys rule conclusion earlier program := by
  induction program generalizing earlier with
  | done result => exact weaker earlier result obeys
  | perform effect next ih => exact ⟨obeys.1, fun reply => ih reply (obeys.2 reply)⟩

theorem Obeys.extends {program : Program Effect Reply Result}
    {reached : List (Event Reply) → Result → Prop} {earlier : List (Event Reply)}
    (obeys : Obeys rule reached earlier program) :
    Obeys rule (fun events result => reached events result ∧ earlier <+: events) earlier program := by
  induction program generalizing earlier with
  | done result => exact ⟨obeys, List.prefix_refl _⟩
  | perform effect next ih =>
    refine ⟨obeys.1, fun reply => (ih reply (obeys.2 reply)).mono ?_⟩
    rintro events result ⟨holds, further⟩
    exact ⟨holds, (List.prefix_append _ _).trans further⟩

theorem obeys_bind {program : Program Effect Reply First}
    {rest : First → Program Effect Reply Second} {middle : List (Event Reply) → First → Prop}
    {reached : List (Event Reply) → Second → Prop} {earlier : List (Event Reply)}
    (first : Obeys rule middle earlier program)
    (second : ∀ events result, middle events result → Obeys rule reached events (rest result)) :
    Obeys rule reached earlier (program >>= rest) := by
  induction program generalizing earlier with
  | done result => exact second earlier result first
  | perform effect next ih => exact ⟨first.1, fun reply => ih reply (first.2 reply)⟩

theorem obeys_request_bind {effect : Effect} {rest : Reply effect → Program Effect Reply Second}
    {reached : List (Event Reply) → Second → Prop} {earlier : List (Event Reply)}
    (admitted : rule earlier effect)
    (second : ∀ reply, Obeys rule reached (earlier ++ [⟨effect, reply⟩]) (rest reply)) :
    Obeys rule reached earlier (Program.request effect >>= rest) :=
  ⟨admitted, second⟩

/-! ## Systems of processes -/

structure Process (Effect : Type) (Reply : Effect → Type) (Result : Type) where
  earlier : List (Event Reply)
  program : Program Effect Reply Result

structure System (Effect : Type) (Reply : Effect → Type) (Result State : Type) where
  state : State
  processes : List (Process Effect Reply Result) := []

/-- What can happen next: a program starts, a process performs its next effect, or something else
changes the state. -/
inductive Move (Effect : Type) (Reply : Effect → Type) (Result Oracle Change : Type) where
  | start (program : Program Effect Reply Result)
  | advance (index : Nat) (oracle : Oracle)
  | change (change : Change)

variable (perform : Oracle → (effect : Effect) → State → Reply effect × State)
  (interfere : Change → State → State)

def step (system : System Effect Reply Result State) :
    Move Effect Reply Result Oracle Change →
      System Effect Reply Result State × Option (Event Reply)
  | .start program => ({ system with processes := system.processes ++ [⟨[], program⟩] }, none)
  | .change change => ({ system with state := interfere change system.state }, none)
  | .advance index oracle =>
    match system.processes[index]? with
    | some ⟨earlier, .perform effect next⟩ =>
      let (reply, state) := perform oracle effect system.state
      ({ state := state
         processes := system.processes.set index
           ⟨earlier ++ [⟨effect, reply⟩], next reply⟩ }, some ⟨effect, reply⟩)
    | _ => (system, none)

/-! ## The invariant of a discipline -/

/-- What keeps the conclusions of every process true: its own effects establish them, and nothing
that others do invalidates them. -/
structure Discipline (rule : List (Event Reply) → Effect → Prop)
    (Admitted : Oracle → Effect → State → Prop) (Permitted : Change → State → Prop)
    (Valid : State → Prop) (Related : State → State → Prop)
    (Consistent : State → List (Event Reply) → Prop) : Prop where
  empty : ∀ state, Valid state → Consistent state []
  performed : ∀ oracle effect state earlier, Valid state → Consistent state earlier →
    rule earlier effect → Admitted oracle effect state →
    Valid (perform oracle effect state).2 ∧ Related state (perform oracle effect state).2 ∧
      Consistent (perform oracle effect state).2
        (earlier ++ [⟨effect, (perform oracle effect state).1⟩])
  changed : ∀ change state, Valid state → Permitted change state →
    Valid (interfere change state) ∧ Related state (interfere change state)
  stable : ∀ before after earlier, Valid before → Related before after →
    Consistent before earlier → Consistent after earlier

/-- Every process knows what its events say, and its program goes on obeying the rule. -/
structure Sound (rule : List (Event Reply) → Effect → Prop) (Valid : State → Prop)
    (Consistent : State → List (Event Reply) → Prop)
    (system : System Effect Reply Result State) : Prop where
  valid : Valid system.state
  consistent : ∀ process ∈ system.processes, Consistent system.state process.earlier
  obeys : ∀ process ∈ system.processes,
    Obeys rule (fun _ _ => True) process.earlier process.program

/-- A move that starts an obedient program, advances a process with an admitted oracle, or is a
permitted change. -/
def MoveAdmitted (rule : List (Event Reply) → Effect → Prop)
    (Admitted : Oracle → Effect → State → Prop) (Permitted : Change → State → Prop)
    (system : System Effect Reply Result State) :
    Move Effect Reply Result Oracle Change → Prop
  | .start program => Obeys rule (fun _ _ => True) [] program
  | .change change => Permitted change system.state
  | .advance index oracle => ∀ earlier effect next,
      system.processes[index]? = some ⟨earlier, .perform effect next⟩ →
      Admitted oracle effect system.state

variable {perform interfere} {Admitted : Oracle → Effect → State → Prop}
  {Permitted : Change → State → Prop} {Valid : State → Prop} {Related : State → State → Prop}
  {Consistent : State → List (Event Reply) → Prop}

theorem Discipline.step (discipline : Discipline perform interfere rule Admitted Permitted Valid
    Related Consistent) {system : System Effect Reply Result State}
    (sound : Sound rule Valid Consistent system) {move : Move Effect Reply Result Oracle Change}
    (admitted : MoveAdmitted rule Admitted Permitted system move) :
    Sound rule Valid Consistent (Interleaving.step perform interfere system move).1 := by
  cases move with
  | start program =>
    refine ⟨sound.valid, ?_, ?_⟩
    · intro process member
      obtain old | fresh := List.mem_append.mp member
      · exact sound.consistent process old
      · cases List.mem_singleton.mp fresh
        exact discipline.empty _ sound.valid
    · intro process member
      obtain old | fresh := List.mem_append.mp member
      · exact sound.obeys process old
      · cases List.mem_singleton.mp fresh
        exact admitted
  | change change =>
    obtain ⟨valid, related⟩ := discipline.changed change system.state sound.valid admitted
    exact ⟨valid, fun process member =>
      discipline.stable _ _ _ sound.valid related (sound.consistent process member), sound.obeys⟩
  | advance index oracle =>
    unfold Interleaving.step
    dsimp only
    split
    · rename_i earlier effect next found
      have member := List.mem_of_getElem? found
      obtain ⟨ruled, onward⟩ := sound.obeys _ member
      obtain ⟨valid, related, own⟩ := discipline.performed oracle effect system.state earlier
        sound.valid (sound.consistent _ member) ruled (admitted earlier effect next found)
      refine ⟨valid, ?_, ?_⟩
      · intro process present
        obtain old | rfl := List.mem_or_eq_of_mem_set present
        · exact discipline.stable _ _ _ sound.valid related (sound.consistent process old)
        · exact own
      · intro process present
        obtain old | rfl := List.mem_or_eq_of_mem_set present
        · exact sound.obeys process old
        · exact onward _
    · exact sound

theorem step_obeys {reached : List (Event Reply) → Result → Prop}
    {system : System Effect Reply Result State}
    (obeys : ∀ process ∈ system.processes, Obeys rule reached process.earlier process.program)
    {move : Move Effect Reply Result Oracle Change}
    (started : ∀ program, move = .start program → Obeys rule reached [] program) :
    ∀ process ∈ (Interleaving.step perform interfere system move).1.processes,
      Obeys rule reached process.earlier process.program := by
  cases move with
  | start program =>
    intro process member
    cases List.mem_append.mp member with
    | inl old => exact obeys process old
    | inr fresh =>
      cases List.mem_singleton.mp fresh
      exact started program rfl
  | change change => exact obeys
  | advance index oracle =>
    unfold Interleaving.step
    dsimp only
    split
    · rename_i earlier effect next found
      intro process present
      cases List.mem_or_eq_of_mem_set present with
      | inl old => exact obeys process old
      | inr same =>
        subst same
        exact (obeys _ (List.mem_of_getElem? found)).2 _
    · exact obeys

theorem Discipline.related (discipline : Discipline perform interfere rule Admitted Permitted Valid
    Related Consistent) (reflexive : ∀ state, Related state state)
    {system : System Effect Reply Result State} (sound : Sound rule Valid Consistent system)
    {move : Move Effect Reply Result Oracle Change}
    (admitted : MoveAdmitted rule Admitted Permitted system move) :
    Related system.state (Interleaving.step perform interfere system move).1.state := by
  cases move with
  | start program => exact reflexive system.state
  | change change => exact (discipline.changed change system.state sound.valid admitted).2
  | advance index oracle =>
    unfold Interleaving.step
    dsimp only
    split
    · rename_i earlier effect next found
      have member := List.mem_of_getElem? found
      exact (discipline.performed oracle effect system.state earlier sound.valid
        (sound.consistent _ member) (sound.obeys _ member).1 (admitted earlier effect next found)).2.1
    · exact reflexive system.state

/-! ## The processes of a run -/

variable (perform interfere)

/-- A process after a move is as it was before, has just started, or has performed its next effect. -/
theorem process_of_step {system : System Effect Reply Result State}
    {move : Move Effect Reply Result Oracle Change} {index : Nat}
    {process : Process Effect Reply Result}
    (found : (Interleaving.step perform interfere system move).1.processes[index]? = some process) :
    system.processes[index]? = some process ∨
    (process.earlier = [] ∧ system.processes[index]? = none) ∨
    ∃ oracle earlier effect next, move = .advance index oracle ∧
      system.processes[index]? = some ⟨earlier, .perform effect next⟩ ∧
      process = ⟨earlier ++ [⟨effect, (perform oracle effect system.state).1⟩],
        next (perform oracle effect system.state).1⟩ := by
  cases move with
  | start program =>
    simp only [Interleaving.step, List.getElem?_append] at found
    split at found
    · exact .inl found
    · next beyond =>
      refine .inr (.inl ⟨?_, List.getElem?_eq_none (Nat.le_of_not_lt beyond)⟩)
      rw [List.mem_singleton.mp (List.mem_of_getElem? found)]
  | change change => exact .inl found
  | advance advanced oracle =>
    unfold Interleaving.step at found
    dsimp only at found
    split at found
    · rename_i earlier effect next current
      rw [List.getElem?_set] at found
      split at found
      · next same =>
        subst same
        split at found
        · cases found
          exact .inr (.inr ⟨oracle, earlier, effect, next, rfl, current, rfl⟩)
        · cases found
      · exact .inl found
    · exact .inl found

theorem event_of_step {system : System Effect Reply Result State}
    {move : Move Effect Reply Result Oracle Change} {event : Event Reply}
    (stepped : (Interleaving.step perform interfere system move).2 = some event) :
    ∃ index oracle earlier next, move = .advance index oracle ∧
      system.processes[index]? = some ⟨earlier, .perform event.1 next⟩ ∧
      (perform oracle event.1 system.state).1 = event.2 ∧
      (Interleaving.step perform interfere system move).1 =
        { state := (perform oracle event.1 system.state).2
          processes := system.processes.set index ⟨earlier ++ [event], next event.2⟩ } := by
  cases move with
  | start program => cases stepped
  | change change => cases stepped
  | advance index oracle =>
    cases current : system.processes[index]? with
    | none =>
      simp only [Interleaving.step, current] at stepped
      cases stepped
    | some process =>
      obtain ⟨earlier, program⟩ := process
      cases program with
      | done result =>
        simp only [Interleaving.step, current] at stepped
        cases stepped
      | perform effect next =>
        simp only [Interleaving.step, current] at stepped ⊢
        cases stepped
        exact ⟨index, oracle, earlier, next, rfl, current, rfl, rfl⟩

theorem state_of_no_event {system : System Effect Reply Result State}
    {move : Move Effect Reply Result Oracle Change}
    (stepped : (Interleaving.step perform interfere system move).2 = none) :
    (Interleaving.step perform interfere system move).1.state = system.state ∨
      ∃ change, move = .change change ∧
        (Interleaving.step perform interfere system move).1.state = interfere change system.state := by
  cases move with
  | start program => exact .inl rfl
  | change change => exact .inr ⟨change, rfl, rfl⟩
  | advance index oracle =>
    cases current : system.processes[index]? with
    | none =>
      refine .inl ?_
      simp only [Interleaving.step, current]
    | some process =>
      obtain ⟨earlier, program⟩ := process
      cases program with
      | done result =>
        refine .inl ?_
        simp only [Interleaving.step, current]
      | perform effect next =>
        simp only [Interleaving.step, current] at stepped
        cases stepped

theorem step_advance {system : System Effect Reply Result State} {index : Nat} {oracle : Oracle}
    {earlier : List (Event Reply)} {effect : Effect}
    {next : Reply effect → Program Effect Reply Result}
    (current : system.processes[index]? = some ⟨earlier, .perform effect next⟩) :
    Interleaving.step perform interfere system (.advance index oracle) =
      ({ state := (perform oracle effect system.state).2
         processes := system.processes.set index
           ⟨earlier ++ [⟨effect, (perform oracle effect system.state).1⟩],
             next (perform oracle effect system.state).1⟩ },
        some ⟨effect, (perform oracle effect system.state).1⟩) := by
  simp only [Interleaving.step, current]

theorem step_keeps {system : System Effect Reply Result State}
    (move : Move Effect Reply Result Oracle Change) {index : Nat}
    {process : Process Effect Reply Result} (found : system.processes[index]? = some process) :
    ∃ later, (Interleaving.step perform interfere system move).1.processes[index]? = some later ∧
      process.earlier ⊆ later.earlier := by
  have inside := (List.getElem?_eq_some_iff.mp found).1
  cases move with
  | start program =>
    refine ⟨process, ?_, List.Subset.refl _⟩
    simp only [Interleaving.step]
    rw [List.getElem?_append_left inside]
    exact found
  | change change => exact ⟨process, found, List.Subset.refl _⟩
  | advance advanced oracle =>
    unfold Interleaving.step
    dsimp only
    split
    · rename_i earlier effect next current
      by_cases same : advanced = index
      · subst same
        rw [found] at current
        cases current
        exact ⟨_, List.getElem?_set_self inside, List.subset_append_left _ _⟩
      · refine ⟨process, ?_, List.Subset.refl _⟩
        rw [List.getElem?_set_ne same]
        exact found
    · exact ⟨process, found, List.Subset.refl _⟩

def Exclusive {Key : Type} (takes : Event Reply → Option Key)
    (system : System Effect Reply Result State) : Prop :=
  ∀ ⦃first second : Nat⦄ ⦃left right : Process Effect Reply Result⦄,
    system.processes[first]? = some left → system.processes[second]? = some right →
    ∀ event ∈ left.earlier, ∀ other ∈ right.earlier, ∀ key, takes event = some key →
      takes other = some key → first = second

theorem Exclusive.step {Key : Type} {takes : Event Reply → Option Key} {Taken : Key → Prop}
    {system : System Effect Reply Result State} (exclusive : Exclusive takes system)
    (known : ∀ process ∈ system.processes, ∀ event ∈ process.earlier, ∀ key,
      takes event = some key → Taken key)
    (fresh : ∀ oracle effect key, takes ⟨effect, (perform oracle effect system.state).1⟩ = some key →
      ¬ Taken key)
    (move : Move Effect Reply Result Oracle Change) :
    Exclusive takes (Interleaving.step perform interfere system move).1 := by
  -- the process that has just taken a key is the only one that can have it
  have alone {index other : Nat} {oracle : Oracle} {effect : Effect} {events : List (Event Reply)}
      {next : Reply effect → Program Effect Reply Result} {process : Process Effect Reply Result}
      (current : system.processes[index]? = some ⟨events, .perform effect next⟩)
      (found : system.processes[other]? = some process) :
      ∀ event ∈ events ++ [⟨effect, (perform oracle effect system.state).1⟩],
        ∀ kept ∈ process.earlier, ∀ key, takes event = some key → takes kept = some key →
          index = other := by
    intro event member kept keptMember key taken keptTaken
    rcases List.mem_append.mp member with old | last
    · exact exclusive current found event old kept keptMember key taken keptTaken
    · cases List.mem_singleton.mp last
      exact absurd (known process (List.mem_of_getElem? found) kept keptMember key keptTaken)
        (fresh oracle effect key taken)
  intro first second left right leftFound rightFound
  rcases process_of_step perform interfere leftFound with
    leftOld | ⟨leftFresh, -⟩ | ⟨oracle, events, effect, next, leftMove, leftCurrent, rfl⟩
  · rcases process_of_step perform interfere rightFound with
      rightOld | ⟨rightFresh, -⟩ | ⟨oracle, events, effect, next, -, rightCurrent, rfl⟩
    · exact exclusive leftOld rightOld
    · intro event _ other member
      rw [rightFresh] at member
      cases member
    · intro event member other otherMember key taken otherTaken
      exact (alone rightCurrent leftOld other otherMember event member key otherTaken taken).symm
  · intro event member
    rw [leftFresh] at member
    cases member
  · rcases process_of_step perform interfere rightFound with
      rightOld | ⟨rightFresh, -⟩ | ⟨_, _, _, _, rightMove, -, rfl⟩
    · exact alone leftCurrent rightOld
    · intro event _ other member
      rw [rightFresh] at member
      cases member
    · cases leftMove.symm.trans rightMove
      exact fun _ _ _ _ _ _ _ => rfl

variable {Request : Type} (toMove : Request → Move Effect Reply Result Oracle Change)

def machine (system : System Effect Reply Result State) (request : Request) :
    System Effect Reply Result State × Option (Event Reply) :=
  Interleaving.step perform interfere system (toMove request)

theorem final_keeps (requests : List Request) {system : System Effect Reply Result State} {index : Nat}
    {process : Process Effect Reply Result} (found : system.processes[index]? = some process) :
    ∃ later, (Run.final (machine perform interfere toMove) system requests).processes[index]? =
      some later ∧ process.earlier ⊆ later.earlier := by
  induction requests generalizing system process with
  | nil => exact ⟨process, found, List.Subset.refl _⟩
  | cons request rest ih =>
    obtain ⟨middle, middleFound, first⟩ := step_keeps perform interfere (toMove request) found
    obtain ⟨later, laterFound, second⟩ := ih middleFound
    exact ⟨later, laterFound, List.Subset.trans first second⟩

/-- Every event of a process happened at a move of the run, with the process as it was then. -/
theorem exists_performed {start : System Effect Reply Result State} (idle : start.processes = [])
    (requests : List Request) {index : Nat} {process : Process Effect Reply Result}
    (found : (Run.final (machine perform interfere toMove) start requests).processes[index]? =
      some process)
    {first rest : List (Event Reply)} {event : Event Reply}
    (split : process.earlier = first ++ event :: rest) :
    ∃ before request oracle after next, requests = before ++ request :: after ∧
      toMove request = .advance index oracle ∧
      (Run.final (machine perform interfere toMove) start before).processes[index]? =
        some ⟨first, .perform event.1 next⟩ ∧
      (perform oracle event.1
        (Run.final (machine perform interfere toMove) start before).state).1 = event.2 := by
  induction requests using List.reverseRecOn generalizing process rest with
  | nil =>
    rw [Run.final_nil, idle] at found
    cases found
  | append_singleton earlier request ih =>
    have extend {before after : List Request} {later : Request}
        (parts : earlier = before ++ later :: after) :
        earlier ++ [request] = before ++ later :: (after ++ [request]) := by
      rw [parts, List.append_assoc, List.cons_append]
    rw [Run.final_concat] at found
    rcases process_of_step perform interfere found with
      old | ⟨fresh, -⟩ | ⟨oracle, events, effect, next, advanced, current, rfl⟩
    · obtain ⟨before, later, oracle, after, next, parts, rest⟩ := ih old split
      exact ⟨before, later, oracle, after ++ [request], next, extend parts, rest⟩
    · rw [fresh] at split
      cases first with
      | nil => cases split
      | cons _ _ => cases split
    · obtain rfl | ⟨others, last, rfl⟩ := rest.eq_nil_or_concat
      · obtain ⟨rfl, same⟩ := List.append_inj' split rfl
        obtain ⟨rfl, -⟩ := List.cons.inj same
        exact ⟨earlier, request, oracle, [], next, rfl, advanced, current, rfl⟩
      · rw [List.concat_eq_append] at split
        obtain ⟨same, -⟩ := List.append_inj'
          (split.trans (List.append_assoc first (event :: others) [last]).symm) rfl
        obtain ⟨before, later, oracle, after, next, parts, rest⟩ := ih current same
        exact ⟨before, later, oracle, after ++ [request], next, extend parts, rest⟩

theorem exists_performed_after {start : System Effect Reply Result State}
    (idle : start.processes = []) (earlier later : List Request) {index : Nat}
    {process : Process Effect Reply Result}
    (absent : (Run.final (machine perform interfere toMove) start earlier).processes[index]? = none)
    (found : (Run.final (machine perform interfere toMove) start
      (earlier ++ later)).processes[index]? = some process)
    {first rest : List (Event Reply)} {event : Event Reply}
    (split : process.earlier = first ++ event :: rest) :
    ∃ between request oracle after, later = between ++ request :: after ∧
      toMove request = .advance index oracle ∧
      (perform oracle event.1
        (Run.final (machine perform interfere toMove) start (earlier ++ between)).state).1 =
          event.2 := by
  obtain ⟨before, request, oracle, after, next, parts, advanced, current, reply⟩ :=
    exists_performed perform interfere toMove idle (earlier ++ later) found split
  obtain ⟨between, rfl, rest⟩ | ⟨gap, rfl, -⟩ := List.append_eq_append_iff.mp parts
  · exact ⟨between, request, oracle, after, rest, advanced, reply⟩
  · rw [Run.final_append] at absent
    obtain ⟨_, kept, -⟩ := final_keeps perform interfere toMove gap current
    rw [absent] at kept
    cases kept

theorem final_obeys {reached : List (Event Reply) → Result → Prop}
    {start : System Effect Reply Result State} (idle : start.processes = [])
    (started : ∀ request program, toMove request = .start program → Obeys rule reached [] program)
    (requests : List Request) :
    ∀ process ∈ (Run.final (machine perform interfere toMove) start requests).processes,
      Obeys rule reached process.earlier process.program := by
  refine Run.final_preserves (machine perform interfere toMove) (fun system =>
    ∀ process ∈ system.processes, Obeys rule reached process.earlier process.program) ?_ start ?_
    requests
  · intro system request obeys
    exact step_obeys obeys fun program => started request program
  · rw [idle]
    intro process member
    cases member

end VdrSuite.Library.Interleaving
