import VdrSuite.Library.Utf8
import VdrSuite.SearchTimers.CreateOperationPayload

/-! The texts of a stored creation request are the printable well-formed UTF-8 texts, and its
encoding is exact. -/

set_option autoImplicit false

namespace VdrSuite.SearchTimers

open Library

/-! ## The bytes of a text -/

def Printable (bytes : Bytes) : Prop := ∀ byte ∈ bytes, 0x20 ≤ byte ∧ byte ≠ 0x7f

theorem printable_append {left right : Bytes} :
    Printable (left ++ right) ↔ Printable left ∧ Printable right :=
  List.forall_mem_append

theorem printable_cons {byte : UInt8} {rest : Bytes} :
    Printable (byte :: rest) ↔ (0x20 ≤ byte ∧ byte ≠ 0x7f) ∧ Printable rest := by
  simp only [Printable, List.forall_mem_cons]

theorem printable_high {byte : UInt8} (high : 0x80 ≤ byte) : 0x20 ≤ byte ∧ byte ≠ 0x7f := by
  refine ⟨UInt8.le_trans (by decide) high, ?_⟩
  rintro rfl
  exact absurd high (by decide)

theorem le_7e_iff {byte : UInt8} : byte ≤ 0x7e ↔ byte ≤ 0x7f ∧ byte ≠ 0x7f := by
  rw [UInt8.le_iff_toNat_le, UInt8.le_iff_toNat_le, ne_eq, ← UInt8.toNat_inj]
  change byte.toNat ≤ 126 ↔ byte.toNat ≤ 127 ∧ ¬ byte.toNat = 127
  omega

theorem sequenceLength_some {first : UInt8} {count : Nat}
    (found : sequenceLength first = some count) :
    (0xc2 ≤ first ∧ first ≤ 0xdf ∧ count = 2) ∨ (0xe0 ≤ first ∧ first ≤ 0xef ∧ count = 3) ∨
      (0xf0 ≤ first ∧ first ≤ 0xf4 ∧ count = 4) := by
  unfold sequenceLength at found
  split at found
  · next two =>
      cases found
      exact .inl ⟨two.1, two.2, rfl⟩
  · split at found
    · next three =>
        cases found
        exact .inr (.inl ⟨three.1, three.2, rfl⟩)
    · split at found
      · next four =>
          cases found
          exact .inr (.inr ⟨four.1, four.2, rfl⟩)
      · cases found

theorem secondAllowed_iff {first second : UInt8} :
    secondAllowed first second = true ↔
      (first = 0xe0 → 0xa0 ≤ second) ∧ (first = 0xed → second ≤ 0x9f) ∧
        (first = 0xf0 → 0x90 ≤ second) ∧ (first = 0xf4 → second ≤ 0x8f) := by
  simp only [secondAllowed, Bool.not_eq_true', Bool.or_eq_false_iff, Bool.and_eq_false_imp,
    beq_iff_eq, decide_eq_false_iff_not, UInt8.not_lt, and_assoc]

theorem continuation_iff {byte : UInt8} :
    (decide (0x80 ≤ byte) && decide (byte ≤ 0xbf)) = true ↔ Utf8.Continuation byte := by
  simp only [Bool.and_eq_true, decide_eq_true_eq, Utf8.Continuation]

theorem sequence_of_allowed {first : UInt8} {rest : Bytes} {count : Nat}
    (found : sequenceLength first = some count) (whole : (rest.take (count - 1)).length = count - 1)
    (continued : ∀ byte ∈ rest.take (count - 1), Utf8.Continuation byte)
    (allowed : (rest.take (count - 1)).head?.all (secondAllowed first) = true) :
    Utf8.Sequence (first :: rest.take (count - 1)) := by
  obtain ⟨least, most, rfl⟩ | ⟨least, most, rfl⟩ | ⟨least, most, rfl⟩ := sequenceLength_some found
  · match following : rest.take 1, whole with
    | [second], _ =>
      rw [following] at continued
      exact .two least most (continued second (by simp))
  · match following : rest.take 2, whole with
    | [second, third], _ =>
      rw [following] at continued allowed
      obtain ⟨overlong, surrogate, -, -⟩ := (secondAllowed_iff).mp allowed
      exact .three least most (continued second (by simp)) (continued third (by simp)) overlong
        surrogate
  · match following : rest.take 3, whole with
    | [second, third, fourth], _ =>
      rw [following] at continued allowed
      obtain ⟨-, -, overlong, beyond⟩ := (secondAllowed_iff).mp allowed
      exact .four least most (continued second (by simp)) (continued third (by simp))
        (continued fourth (by simp)) overlong beyond

theorem wellFormed_of_safeUtf8Within {fuel : Nat} {input : Bytes}
    (safe : safeUtf8Within fuel input = true) : Utf8.WellFormed input ∧ Printable input := by
  induction fuel generalizing input with
  | zero =>
    cases input with
    | nil => exact ⟨Utf8.wellFormed_nil, fun _ none => absurd none List.not_mem_nil⟩
    | cons first rest => cases safe
  | succ fuel ih =>
    cases input with
    | nil => exact ⟨Utf8.wellFormed_nil, fun _ none => absurd none List.not_mem_nil⟩
    | cons first rest =>
      by_cases ascii : 0x20 ≤ first ∧ first ≤ 0x7e
      · rw [safeUtf8Within, if_pos ascii] at safe
        obtain ⟨formed, printable⟩ := ih safe
        obtain ⟨single, visible⟩ := (le_7e_iff).mp ascii.2
        exact ⟨Utf8.wellFormed_iff.mpr (.inr ⟨[first], rest, .one single, formed, rfl⟩),
          (printable_cons).mpr ⟨⟨ascii.1, visible⟩, printable⟩⟩
      · rw [safeUtf8Within, if_neg ascii] at safe
        cases found : sequenceLength first with
        | none =>
          rw [found] at safe
          cases safe
        | some count =>
          rw [found] at safe
          simp only [Bool.and_eq_true, beq_iff_eq, List.all_eq_true] at safe
          obtain ⟨⟨⟨whole, continued⟩, allowed⟩, later⟩ := safe
          obtain ⟨formed, printable⟩ := ih later
          have following : ∀ byte ∈ rest.take (count - 1), Utf8.Continuation byte :=
            fun byte member => by simpa [Utf8.Continuation] using continued byte member
          have sequence := sequence_of_allowed found whole following allowed
          have split : first :: rest =
              (first :: rest.take (count - 1)) ++ rest.drop (count - 1) := by simp
          have high : 0x80 ≤ first := by
            obtain range | range | range := sequenceLength_some found
            all_goals exact UInt8.le_trans (by decide) range.1
          refine ⟨Utf8.wellFormed_iff.mpr (.inr ⟨_, _, sequence, formed, split⟩), ?_⟩
          rw [split, printable_append, printable_cons]
          exact ⟨⟨printable_high high, fun byte member => printable_high
            (following byte member).1⟩, printable⟩

theorem safeUtf8Within_sequence {fuel count : Nat} {first : UInt8} {following rest : Bytes}
    (high : 0x80 ≤ first) (found : sequenceLength first = some count)
    (whole : following.length = count - 1)
    (continued : ∀ byte ∈ following, Utf8.Continuation byte)
    (allowed : following.head?.all (secondAllowed first) = true)
    (later : safeUtf8Within fuel rest = true) :
    safeUtf8Within (fuel + 1) (first :: (following ++ rest)) = true := by
  have beyond : ¬ (0x20 ≤ first ∧ first ≤ 0x7e) := fun ascii =>
    absurd (UInt8.le_trans high ascii.2) (by decide)
  have taken : (following ++ rest).take (count - 1) = following := by
    rw [← whole, List.take_left]
  have dropped : (following ++ rest).drop (count - 1) = rest := by
    rw [← whole, List.drop_left]
  rw [safeUtf8Within, if_neg beyond, found]
  simp only [taken, dropped, whole, allowed, later, beq_self_eq_true, Bool.true_and, Bool.and_true,
    List.all_eq_true]
  exact fun byte member => (continuation_iff).mpr (continued byte member)

theorem sequenceLength_two {first : UInt8} (least : 0xc2 ≤ first) (most : first ≤ 0xdf) :
    sequenceLength first = some 2 :=
  if_pos ⟨least, most⟩

theorem sequenceLength_three {first : UInt8} (least : 0xe0 ≤ first) (most : first ≤ 0xef) :
    sequenceLength first = some 3 := by
  rw [sequenceLength, if_neg fun two => absurd (UInt8.le_trans least two.2) (by decide),
    if_pos ⟨least, most⟩]

theorem sequenceLength_four {first : UInt8} (least : 0xf0 ≤ first) (most : first ≤ 0xf4) :
    sequenceLength first = some 4 := by
  rw [sequenceLength, if_neg fun two => absurd (UInt8.le_trans least two.2) (by decide),
    if_neg fun three => absurd (UInt8.le_trans least three.2) (by decide), if_pos ⟨least, most⟩]

theorem safeUtf8Within_of_wellFormed {fuel : Nat} {input : Bytes} (fits : input.length ≤ fuel)
    (formed : Utf8.WellFormed input) (printable : Printable input) :
    safeUtf8Within fuel input = true := by
  induction fuel generalizing input with
  | zero =>
    cases input with
    | nil => rfl
    | cons first rest => exact absurd fits (by simp)
  | succ fuel ih =>
    obtain rfl | ⟨leading, rest, sequence, later, rfl⟩ := Utf8.wellFormed_iff.mp formed
    · rfl
    · obtain ⟨visible, behind⟩ := (printable_append).mp printable
      rw [List.length_append] at fits
      cases sequence with
      | @one first ascii =>
        have allowed := ((printable_cons).mp visible).1
        have inside : 0x20 ≤ first ∧ first ≤ 0x7e :=
          ⟨allowed.1, (le_7e_iff).mpr ⟨ascii, allowed.2⟩⟩
        rw [List.singleton_append, safeUtf8Within, if_pos inside]
        exact ih (by rw [List.length_singleton] at fits; omega) later behind
      | @two first second least most one =>
        refine @safeUtf8Within_sequence fuel 2 first [second] rest
          (UInt8.le_trans (by decide) least) (sequenceLength_two least most) rfl (by simpa) ?_
          (ih (by simp only [List.length_cons] at fits; omega) later behind)
        refine (secondAllowed_iff).mpr ⟨?_, ?_, ?_, ?_⟩
        all_goals
          rintro rfl
          exact absurd most (by decide)
      | @three first second third least most one two overlong surrogate =>
        refine @safeUtf8Within_sequence fuel 3 first [second, third] rest
          (UInt8.le_trans (by decide) least) (sequenceLength_three least most) rfl
          (by simp [one, two]) ?_
          (ih (by simp only [List.length_cons] at fits; omega) later behind)
        refine (secondAllowed_iff).mpr ⟨overlong, surrogate, ?_, ?_⟩
        all_goals
          rintro rfl
          exact absurd most (by decide)
      | @four first second third fourth least most one two three overlong beyond =>
        refine @safeUtf8Within_sequence fuel 4 first [second, third, fourth] rest
          (UInt8.le_trans (by decide) least) (sequenceLength_four least most) rfl
          (by simp [one, two, three]) ?_
          (ih (by simp only [List.length_cons] at fits; omega) later behind)
        refine (secondAllowed_iff).mpr ⟨?_, ?_, overlong, beyond⟩
        all_goals
          rintro rfl
          exact absurd least (by decide)

/-! ## Texts of a valid payload -/

structure RequestText (value : Bytes) : Prop where
  present : value ≠ []
  short : value.length ≤ 240
  leading : value.head? ≠ some 32
  trailing : value.getLast? ≠ some 32
  printable : Printable value
  formed : Utf8.WellFormed value

theorem safeUtf8Text_iff {value : Bytes} : safeUtf8Text value = true ↔ RequestText value := by
  simp only [safeUtf8Text, Bool.and_eq_true, Bool.not_eq_true', decide_eq_true_eq, bne_iff_ne]
  constructor
  · rintro ⟨⟨⟨⟨present, short⟩, leading⟩, trailing⟩, safe⟩
    obtain ⟨formed, printable⟩ := wellFormed_of_safeUtf8Within safe
    exact ⟨by simpa using present, short, leading, trailing, printable, formed⟩
  · rintro ⟨present, short, leading, trailing, printable, formed⟩
    exact ⟨⟨⟨⟨by simpa using present, short⟩, leading⟩, trailing⟩,
      safeUtf8Within_of_wellFormed (Nat.le_refl _) formed printable⟩

structure SettingsValid (payload : SearchTimerCreateOperationPayload) : Prop where
  mode : payload.matchMode ∈ [0, 1, 2, 3, 5]
  tolerance : 0 ≤ payload.matchTolerance ∧ payload.matchTolerance ≤ 3
  fuzzy : payload.matchMode = 5 ∨ payload.matchTolerance = 0
  compared : payload.compareTitle = true ∨ payload.compareSubtitle = true ∨
    payload.compareSummary = true
  start : 0 ≤ payload.marginStartMinutes ∧ payload.marginStartMinutes ≤ 1440
  stop : 0 ≤ payload.marginStopMinutes ∧ payload.marginStopMinutes ≤ 1440

theorem searchTimerCreateOperationPayloadValid_iff {payload : SearchTimerCreateOperationPayload} :
    searchTimerCreateOperationPayloadValid payload = true ↔
      RequestText payload.name ∧ RequestText payload.query ∧ 2 ≤ payload.query.length ∧
        SettingsValid payload := by
  simp only [searchTimerCreateOperationPayloadValid, allowedMode, Bool.and_eq_true, Bool.or_eq_true,
    decide_eq_true_eq, beq_iff_eq, safeUtf8Text_iff]
  constructor
  · rintro ⟨⟨⟨⟨⟨⟨⟨⟨⟨⟨⟨name, query⟩, long⟩, mode⟩, least⟩, most⟩, fuzzy⟩, compared⟩, startLeast⟩,
      startMost⟩, stopLeast⟩, stopMost⟩
    exact ⟨name, query, long, by simpa [or_assoc] using mode, ⟨least, most⟩, fuzzy,
      or_assoc.mp compared, ⟨startLeast, startMost⟩, ⟨stopLeast, stopMost⟩⟩
  · rintro ⟨name, query, long, mode, tolerance, fuzzy, compared, start, stop⟩
    exact ⟨⟨⟨⟨⟨⟨⟨⟨⟨⟨⟨name, query⟩, long⟩, by simpa [or_assoc] using mode⟩, tolerance.1⟩,
      tolerance.2⟩, fuzzy⟩, or_assoc.mpr compared⟩, start.1⟩, start.2⟩, stop.1⟩, stop.2⟩

/-- The encoding of a creation request is exact, and its texts are exactly the printable
well-formed UTF-8 texts within the limit. -/
theorem create_payload_exact (payload : SearchTimerCreateOperationPayload) (serialized : Bytes) :
    (searchTimerCreateOperationPayloadValid payload = true →
        parseSearchTimerCreateOperationPayload
          (serializeSearchTimerCreateOperationPayload payload) = some payload) ∧
      (parseSearchTimerCreateOperationPayload serialized = some payload →
        searchTimerCreateOperationPayloadValid payload = true ∧
          serialized = serializeSearchTimerCreateOperationPayload payload) ∧
      (∀ other, searchTimerCreateOperationPayloadValid payload = true →
        searchTimerCreateOperationPayloadValid other = true →
        serializeSearchTimerCreateOperationPayload payload =
          serializeSearchTimerCreateOperationPayload other → payload = other) ∧
      (searchTimerCreateOperationPayloadValid payload = true ↔
        RequestText payload.name ∧ RequestText payload.query ∧ 2 ≤ payload.query.length ∧
          SettingsValid payload) ∧
      (∀ name, (∃ valid, searchTimerCreateOperationPayloadValid valid = true ∧ valid.name = name) ↔
        RequestText name) ∧
      ∀ query, (∃ valid, searchTimerCreateOperationPayloadValid valid = true ∧
          valid.query = query) ↔ RequestText query ∧ 2 ≤ query.length := by
  have reads {valid : SearchTimerCreateOperationPayload}
      (accepted : searchTimerCreateOperationPayloadValid valid = true) :
      parseSearchTimerCreateOperationPayload
        (serializeSearchTimerCreateOperationPayload valid) = some valid :=
    (parseSearchTimerCreateOperationPayload_eq_some_iff _ _).mpr ⟨accepted, rfl⟩
  have settings (name query : Bytes) : SettingsValid { name := name, query := query } :=
    ⟨by simp, by simp, .inr rfl, .inl rfl, by simp, by simp⟩
  have plain : RequestText (text "news") := (safeUtf8Text_iff).mp (by decide)
  have enough : 2 ≤ (text "news").length := by decide
  refine ⟨reads, (parseSearchTimerCreateOperationPayload_eq_some_iff _ _).mp, ?_,
    searchTimerCreateOperationPayloadValid_iff, ?_, ?_⟩
  · intro other first second same
    have read := reads first
    rw [same, reads second] at read
    exact (Option.some.inj read).symm
  · intro name
    constructor
    · rintro ⟨valid, accepted, rfl⟩
      exact ((searchTimerCreateOperationPayloadValid_iff).mp accepted).1
    · intro named
      exact ⟨{ name := name, query := text "news" }, (searchTimerCreateOperationPayloadValid_iff).mpr
        ⟨named, plain, enough, settings name (text "news")⟩, rfl⟩
  · intro query
    constructor
    · rintro ⟨valid, accepted, rfl⟩
      obtain ⟨-, asked, long, -⟩ := (searchTimerCreateOperationPayloadValid_iff).mp accepted
      exact ⟨asked, long⟩
    · rintro ⟨asked, long⟩
      exact ⟨{ name := text "news", query := query },
        (searchTimerCreateOperationPayloadValid_iff).mpr
          ⟨plain, asked, long, settings (text "news") query⟩, rfl⟩

/-- A request for a title with an umlaut. -/
theorem create_payload_exact_umlaut :
    parseSearchTimerCreateOperationPayload (serializeSearchTimerCreateOperationPayload
        { name := text "news", query := [0xc3, 0xa4] }) =
      some { name := text "news", query := [0xc3, 0xa4] } :=
  (create_payload_exact { name := text "news", query := [0xc3, 0xa4] } []).1 (by decide)

end VdrSuite.SearchTimers
