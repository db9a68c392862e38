import Mathlib.Data.List.Basic

/-! A stream that arrives in chunks: the loop that receives until what it has is complete. -/

set_option autoImplicit false

namespace VdrSuite.Library.Chunks

variable {α : Type} {complete : List α → Bool}

/-- Append chunks until the received stream is complete. There is no result when it ends before. -/
@[grind =] def receiveUntil (complete : List α → Bool) : List α → List (List α) → Option (List α × List (List α))
  | received, [] => if complete received then some (received, []) else none
  | received, chunk :: later =>
    if complete received then some (received, chunk :: later)
    else receiveUntil complete (received ++ chunk) later

theorem of_receiveUntil {received stopped : List α} {chunks later : List (List α)}
    (result : receiveUntil complete received chunks = some (stopped, later)) :
    complete stopped = true ∧ stopped ++ later.flatten = received ++ chunks.flatten := by
  induction chunks generalizing received with
  | nil =>
    rw [receiveUntil] at result
    split at result
    · next reached =>
      cases result
      exact ⟨reached, rfl⟩
    · simp at result
  | cons chunk chunks ih =>
    rw [receiveUntil] at result
    split at result
    · next reached =>
      cases result
      exact ⟨reached, rfl⟩
    · obtain ⟨reached, whole⟩ := ih result
      exact ⟨reached, by rw [whole, List.append_assoc, List.flatten_cons]⟩

theorem receiveUntil_isSome {received : List α} {chunks : List (List α)}
    (reached : complete (received ++ chunks.flatten) = true) :
    ∃ stopped later, receiveUntil complete received chunks = some (stopped, later) := by
  induction chunks generalizing received with
  | nil =>
    rw [List.flatten_nil, List.append_nil] at reached
    rw [receiveUntil, if_pos reached]
    exact ⟨received, [], rfl⟩
  | cons chunk chunks ih =>
    rw [receiveUntil]
    split
    · exact ⟨received, chunk :: chunks, rfl⟩
    · rw [List.flatten_cons, ← List.append_assoc] at reached
      exact ih reached

/-- Receiving until a first condition and on until a stronger one is receiving until that one. -/
theorem receiveUntil_bind {first second : List α → Bool}
    (weaker : ∀ stream, second stream = true → first stream = true) (received : List α)
    (chunks : List (List α)) :
    ((receiveUntil first received chunks).bind fun (stopped, later) =>
      receiveUntil second stopped later) = receiveUntil second received chunks := by
  induction chunks generalizing received with
  | nil =>
    cases reached : first received with
    | true => simp [receiveUntil, reached]
    | false =>
      have open_ended : second received = false := by
        by_contra done
        rw [weaker received (by simpa using done)] at reached
        simp at reached
      simp [receiveUntil, reached, open_ended]
  | cons chunk chunks ih =>
    cases reached : first received with
    | true =>
      rw [receiveUntil, if_pos reached]
      rfl
    | false =>
      have open_ended : second received = false := by
        by_contra done
        rw [weaker received (by simpa using done)] at reached
        simp at reached
      rw [receiveUntil, if_neg (by simp [reached]), ih, receiveUntil, if_neg (by simp [open_ended])]

theorem receiveUntil_congr {first second : List α → Bool} {received : List α}
    {chunks : List (List α)}
    (agree : ∀ beginning, received <+: beginning → beginning <+: received ++ chunks.flatten →
      first beginning = second beginning) :
    receiveUntil first received chunks = receiveUntil second received chunks := by
  induction chunks generalizing received with
  | nil =>
    rw [receiveUntil, receiveUntil, agree received List.prefix_rfl (List.prefix_append _ _)]
  | cons chunk chunks ih =>
    rw [List.flatten_cons, ← List.append_assoc] at agree
    have later : receiveUntil first (received ++ chunk) chunks =
        receiveUntil second (received ++ chunk) chunks :=
      ih fun beginning extends_received within =>
        agree beginning ((List.prefix_append _ _).trans extends_received) within
    rw [receiveUntil, receiveUntil, later,
      agree received List.prefix_rfl ((List.prefix_append _ _).trans (List.prefix_append _ _))]

/-! ## A wanted length -/

@[grind =] def hasLength (wanted : Nat) (received : List α) : Bool := decide (wanted ≤ received.length)

theorem receiveUntil_exact {wanted : Nat} {chunks : List (List α)}
    (long : chunks.flatten.length = wanted) :
    ∃ later, receiveUntil (hasLength wanted) [] chunks = some (chunks.flatten, later) := by
  obtain ⟨stopped, later, result⟩ := @receiveUntil_isSome α (hasLength wanted) [] chunks
    (by simp [hasLength, long])
  obtain ⟨reached, whole⟩ := of_receiveUntil result
  rw [List.nil_append] at whole
  have nothing : later.flatten = [] := by
    have lengths := congrArg List.length whole
    simp only [hasLength, decide_eq_true_eq] at reached
    rw [List.length_append, long] at lengths
    exact List.length_eq_zero_iff.mp (by omega)
  rw [nothing, List.append_nil] at whole
  exact ⟨later, whole ▸ result⟩

theorem receiveUntil_short {wanted : Nat} {chunks : List (List α)}
    (short : chunks.flatten.length < wanted) :
    receiveUntil (hasLength wanted) [] chunks = none := by
  cases result : receiveUntil (hasLength wanted) [] chunks with
  | none => rfl
  | some outcome =>
    obtain ⟨stopped, later⟩ := outcome
    obtain ⟨reached, whole⟩ := of_receiveUntil result
    have lengths := congrArg List.length whole
    simp only [hasLength, decide_eq_true_eq] at reached
    simp only [List.length_append, List.nil_append] at lengths
    omega

theorem receiveUntil_crossing {wanted : Nat} {received chunk : List α} {front later : List (List α)}
    (before : (received ++ front.flatten).length < wanted)
    (after : wanted ≤ (received ++ front.flatten ++ chunk).length) :
    receiveUntil (hasLength wanted) received (front ++ chunk :: later) =
      some (received ++ front.flatten ++ chunk, later) := by
  induction front generalizing received with
  | nil =>
    rw [List.flatten_nil, List.append_nil] at before after ⊢
    rw [List.nil_append, receiveUntil, if_neg (by simp [hasLength]; omega)]
    cases later with
    | nil => rw [receiveUntil, if_pos (by simpa [hasLength] using after)]
    | cons next later => rw [receiveUntil, if_pos (by simpa [hasLength] using after)]
  | cons first front ih =>
    rw [List.flatten_cons, ← List.append_assoc] at before after ⊢
    have open_ended : ¬ hasLength wanted received = true := by
      simp only [hasLength, decide_eq_true_eq]
      simp only [List.length_append] at before
      omega
    rw [List.cons_append, receiveUntil, if_neg open_ended]
    exact ih before after

/-! ## Chunks of a stream -/

/-- A way in which a stream can arrive: no chunk is empty or longer than the buffer. -/
structure Chunking (buffer : Nat) (stream : List α) (chunks : List (List α)) : Prop where
  whole : chunks.flatten = stream
  sizes : ∀ chunk ∈ chunks, 0 < chunk.length ∧ chunk.length ≤ buffer

def pieces (stream : List α) : List (List α) := stream.map fun item => [item]

@[simp] theorem pieces_flatten (stream : List α) : (pieces stream).flatten = stream := by
  induction stream with
  | nil => rfl
  | cons item stream ih =>
    rw [pieces, List.map_cons, List.flatten_cons, ← pieces, ih]
    rfl

theorem pieces_sizes {buffer : Nat} (positive : 0 < buffer) (stream : List α) :
    ∀ chunk ∈ pieces stream, 0 < chunk.length ∧ chunk.length ≤ buffer := by
  intro chunk member
  obtain ⟨item, -, rfl⟩ := List.mem_map.mp member
  exact ⟨Nat.one_pos, positive⟩

theorem chunking_pieces {buffer : Nat} (positive : 0 < buffer) (stream : List α) :
    Chunking buffer stream (pieces stream) :=
  ⟨pieces_flatten stream, pieces_sizes positive stream⟩

@[grind =] def mergedAt (position width : Nat) (stream : List α) : List (List α) :=
  pieces (stream.take position) ++
    (stream.drop position).take width :: pieces ((stream.drop position).drop width)

theorem chunking_mergedAt {buffer position width : Nat} {stream : List α} (positive : 0 < width)
    (fits : width ≤ buffer) (inside : position < stream.length) :
    Chunking buffer stream (mergedAt position width stream) := by
  constructor
  · rw [mergedAt, List.flatten_append, List.flatten_cons, pieces_flatten, pieces_flatten,
      List.take_append_drop, List.take_append_drop]
  · intro chunk member
    rcases List.mem_append.mp member with before | rest
    · exact pieces_sizes (by omega) _ chunk before
    · rcases List.mem_cons.mp rest with rfl | after
      · rw [List.length_take, List.length_drop]
        omega
      · exact pieces_sizes (by omega) _ chunk after

theorem receiveUntil_mergedAt {wanted width : Nat} {stream : List α} (positive : 0 < width)
    (inside : wanted < stream.length) :
    ∃ later, receiveUntil (hasLength (wanted + 1)) [] (mergedAt wanted width stream) =
      some (stream.take (wanted + width), later) := by
  refine ⟨pieces ((stream.drop wanted).drop width), ?_⟩
  rw [mergedAt, receiveUntil_crossing]
  · rw [List.nil_append, pieces_flatten, List.take_add]
  · rw [List.nil_append, pieces_flatten, List.length_take]
    omega
  · rw [List.nil_append, pieces_flatten, List.length_append, List.length_take, List.length_take,
      List.length_drop]
    omega

end VdrSuite.Library.Chunks
