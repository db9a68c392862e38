import VdrSuite.Library.Hex

/-! Entity tags of public resources: how a revision becomes a strong tag and is read back from
it, and how a list of tags is compared with the current one. -/

set_option autoImplicit false

namespace VdrSuite.Http

open Library

inductive PublicEntityTagConditionResult where
  | missing
  | matched
  | notMatched
  | malformed
  deriving DecidableEq

structure PublicEntityTag where
  weak : Bool := false
  opaqueText : Bytes
  deriving DecidableEq

def tagPrefix : Bytes := text "vsr-"

def publicStrongEntityTag (resourceRevision : Bytes) : Bytes :=
  if resourceRevision.isEmpty then []
  else 34 :: (tagPrefix ++ Hex.encode resourceRevision ++ [34])

/-! ## The list of tags -/

def isOws (byte : UInt8) : Bool := byte == 32 || byte == 9

def skipOws (input : Bytes) : Bytes := input.dropWhile isOws

def readOpaque : Bytes → Option (Bytes × Bytes)
  | [] => none
  | byte :: rest =>
    if byte = 34 then some ([], rest)
    else if byte = 0x7f ∨ byte < 0x21 then none
    else
      match readOpaque rest with
      | none => none
      | some (characters, after) => some (byte :: characters, after)

def readQuoted (weak : Bool) : Bytes → Option (PublicEntityTag × Bytes)
  | [] => none
  | byte :: rest =>
    if byte = 34 then
      match readOpaque rest with
      | none => none
      | some (characters, after) => some ({ weak := weak, opaqueText := characters }, after)
    else none

def readTag : Bytes → Option (PublicEntityTag × Bytes)
  | 87 :: 47 :: rest => readQuoted true rest
  | input => readQuoted false input

theorem readOpaque_shorter {input characters after : Bytes}
    (read : readOpaque input = some (characters, after)) : after.length < input.length := by
  induction input generalizing characters with
  | nil => cases read
  | cons byte rest ih =>
    unfold readOpaque at read
    split at read
    · cases read
      exact Nat.lt_succ_self _
    · split at read
      · cases read
      · cases inside : readOpaque rest with
        | none =>
          rw [inside] at read
          cases read
        | some found =>
          obtain ⟨more, behind⟩ := found
          rw [inside] at read
          cases read
          exact Nat.lt_succ_of_lt (ih inside)

theorem readQuoted_shorter {weak : Bool} {input after : Bytes} {tag : PublicEntityTag}
    (read : readQuoted weak input = some (tag, after)) : after.length < input.length := by
  cases input with
  | nil => cases read
  | cons byte rest =>
    by_cases quote : byte = 34
    · rw [readQuoted, if_pos quote] at read
      cases inside : readOpaque rest with
      | none =>
        rw [inside] at read
        cases read
      | some found =>
        obtain ⟨characters, behind⟩ := found
        rw [inside] at read
        cases read
        exact Nat.lt_succ_of_lt (readOpaque_shorter inside)
    · rw [readQuoted, if_neg quote] at read
      cases read

theorem readTag_shorter {input after : Bytes} {tag : PublicEntityTag}
    (read : readTag input = some (tag, after)) : after.length < input.length := by
  unfold readTag at read
  split at read
  · exact Nat.lt_succ_of_lt (Nat.lt_succ_of_lt (readQuoted_shorter read))
  · exact readQuoted_shorter read

theorem skipOws_length_le (input : Bytes) : (skipOws input).length ≤ input.length :=
  (List.dropWhile_sublist _).length_le

def parseTags (input : Bytes) : Option (List PublicEntityTag) :=
  match _ : readTag (skipOws input) with
  | none => none
  | some (tag, after) =>
    match _ : skipOws after with
    | [] => some [tag]
    | byte :: rest =>
      if byte = 44 then
        if (skipOws rest).isEmpty then none
        else
          match parseTags (skipOws rest) with
          | none => none
          | some tags => some (tag :: tags)
      else none
termination_by input.length
decreasing_by
  have tagged := readTag_shorter ‹readTag (skipOws input) = some (tag, after)›
  have skipped := skipOws_length_le input
  have shorter : (skipOws after).length ≤ after.length := skipOws_length_le after
  have last := skipOws_length_le rest
  rw [‹skipOws after = byte :: rest›, List.length_cons] at shorter
  omega

def publicEntityTagParseList (headerValue : Bytes) : Option (Bool × List PublicEntityTag) :=
  match skipOws headerValue with
  | [] => none
  | 42 :: rest => if (skipOws rest).isEmpty then some (true, []) else none
  | input =>
    match parseTags input with
    | none => none
    | some tags => some (false, tags)

def publicEntityTagParseSingle (value : Bytes) : Option PublicEntityTag :=
  match publicEntityTagParseList value with
  | some (false, [tag]) => some tag
  | _ => none

/-! ## Revisions and conditions -/

def publicStrongEntityTagResourceRevision (entityTag : Bytes) : Option Bytes :=
  match publicEntityTagParseSingle entityTag with
  | none => none
  | some parsed =>
    if parsed.weak then none
    else if parsed.opaqueText.length ≤ tagPrefix.length ||
        !tagPrefix.isPrefixOf parsed.opaqueText then none
    else
      -- an odd number of digits or a digit that is none of `0-9a-f`
      match Hex.decode (parsed.opaqueText.drop tagPrefix.length) with
      | none => none
      | some decoded =>
        if decoded.isEmpty || publicStrongEntityTag decoded != entityTag then none
        else some decoded

def publicEvaluateIfMatch (headerValue currentEntityTag : Bytes) :
    PublicEntityTagConditionResult :=
  if headerValue.isEmpty then .missing
  else
    match publicEntityTagParseSingle currentEntityTag with
    | none => .malformed
    | some current =>
      if current.weak then .malformed
      else
        match publicEntityTagParseList headerValue with
        | none => .malformed
        | some (true, _) => .matched
        | some (false, candidates) =>
          if candidates.any fun candidate =>
              !candidate.weak && candidate.opaqueText == current.opaqueText
          then .matched
          else .notMatched

/-! ## The grammar of the header -/

def Blanks (bytes : Bytes) : Prop := ∀ byte ∈ bytes, byte = 32 ∨ byte = 9

def OpaqueText (bytes : Bytes) : Prop := ∀ byte ∈ bytes, 0x21 ≤ byte ∧ byte ≠ 34 ∧ byte ≠ 0x7f

def PublicEntityTag.spelled (tag : PublicEntityTag) : Bytes :=
  (if tag.weak then [87, 47] else []) ++ 34 :: (tag.opaqueText ++ [34])

inductive Listed : Bytes → List PublicEntityTag → Prop where
  | last {before after : Bytes} {tag : PublicEntityTag} (leading : Blanks before)
      (trailing : Blanks after) (characters : OpaqueText tag.opaqueText) :
      Listed (before ++ tag.spelled ++ after) [tag]
  | more {before after rest : Bytes} {tag : PublicEntityTag} {tags : List PublicEntityTag}
      (leading : Blanks before) (trailing : Blanks after)
      (characters : OpaqueText tag.opaqueText) (following : Listed rest tags) :
      Listed (before ++ tag.spelled ++ after ++ 44 :: rest) (tag :: tags)

def Starred (header : Bytes) : Prop :=
  ∃ before after, Blanks before ∧ Blanks after ∧ header = before ++ 42 :: after

/-! ## What the reader accepts -/

theorem readOpaque_iff {input characters after : Bytes} :
    readOpaque input = some (characters, after) ↔
      OpaqueText characters ∧ input = characters ++ 34 :: after := by
  induction input generalizing characters with
  | nil =>
    constructor
    · intro read
      cases read
    · rintro ⟨-, same⟩
      exact absurd same.symm (by simp)
  | cons byte rest ih =>
    unfold readOpaque
    by_cases quote : byte = 34
    · subst quote
      rw [if_pos rfl]
      constructor
      · intro read
        cases read
        exact ⟨fun _ none => absurd none List.not_mem_nil, rfl⟩
      · rintro ⟨plain, same⟩
        cases characters with
        | nil =>
          cases same
          rfl
        | cons first characters =>
          obtain ⟨rfl, -⟩ := List.cons.inj same
          exact absurd rfl (plain _ List.mem_cons_self).2.1
    · rw [if_neg quote]
      by_cases refused : byte = 0x7f ∨ byte < 0x21
      · rw [if_pos refused]
        constructor
        · intro read
          cases read
        · rintro ⟨plain, same⟩
          cases characters with
          | nil => exact absurd (List.cons.inj same).1 quote
          | cons first characters =>
            obtain ⟨rfl, -⟩ := List.cons.inj same
            obtain ⟨printable, -, visible⟩ := plain _ List.mem_cons_self
            obtain delete | control := refused
            · exact absurd delete visible
            · exact absurd printable (UInt8.not_le.mpr control)
      · rw [if_neg refused]
        have allowed : 0x21 ≤ byte ∧ byte ≠ 34 ∧ byte ≠ 0x7f :=
          ⟨UInt8.not_lt.mp fun control => refused (.inr control), quote,
            fun delete => refused (.inl delete)⟩
        constructor
        · intro read
          cases inside : readOpaque rest with
          | none =>
            rw [inside] at read
            cases read
          | some found =>
            obtain ⟨more, behind⟩ := found
            rw [inside] at read
            cases read
            obtain ⟨plain, same⟩ := ih.mp inside
            refine ⟨?_, by rw [same]; rfl⟩
            intro other member
            cases member with
            | head => exact allowed
            | tail _ later => exact plain other later
        · rintro ⟨plain, same⟩
          cases characters with
          | nil => exact absurd (List.cons.inj same).1 quote
          | cons first characters =>
            obtain ⟨rfl, tail⟩ := List.cons.inj same
            have inside : readOpaque rest = some (characters, after) :=
              ih.mpr ⟨fun other member => plain other (List.mem_cons_of_mem _ member), tail⟩
            rw [inside]

theorem readQuoted_iff {weak : Bool} {input after : Bytes} {tag : PublicEntityTag} :
    readQuoted weak input = some (tag, after) ↔
      tag.weak = weak ∧ OpaqueText tag.opaqueText ∧
        input = 34 :: (tag.opaqueText ++ 34 :: after) := by
  cases input with
  | nil =>
    constructor
    · intro read
      cases read
    · rintro ⟨-, -, same⟩
      cases same
  | cons byte rest =>
    constructor
    · intro read
      by_cases quote : byte = 34
      · rw [readQuoted, if_pos quote] at read
        cases inside : readOpaque rest with
        | none =>
          rw [inside] at read
          cases read
        | some found =>
          obtain ⟨characters, behind⟩ := found
          rw [inside] at read
          cases read
          obtain ⟨plain, same⟩ := (readOpaque_iff).mp inside
          exact ⟨rfl, plain, by rw [quote, same]⟩
      · rw [readQuoted, if_neg quote] at read
        cases read
    · rintro ⟨rfl, plain, same⟩
      obtain ⟨rfl, rfl⟩ := List.cons.inj same
      rw [readQuoted, if_pos rfl, (readOpaque_iff).mpr ⟨plain, rfl⟩]

theorem readTag_iff {input after : Bytes} {tag : PublicEntityTag} :
    readTag input = some (tag, after) ↔
      OpaqueText tag.opaqueText ∧ input = tag.spelled ++ after := by
  obtain ⟨weak, characters⟩ := tag
  have quoted : 34 :: (characters ++ [34]) ++ after = 34 :: (characters ++ 34 :: after) := by simp
  constructor
  · intro read
    unfold readTag at read
    split at read
    · next rest =>
        obtain ⟨marked, plain, same⟩ := (readQuoted_iff).mp read
        dsimp only at marked plain same
        refine ⟨plain, ?_⟩
        rw [same, PublicEntityTag.spelled, marked, if_pos rfl, List.append_assoc, quoted]
        rfl
    · obtain ⟨unmarked, plain, same⟩ := (readQuoted_iff).mp read
      dsimp only at unmarked plain same
      refine ⟨plain, ?_⟩
      rw [same, PublicEntityTag.spelled, unmarked, if_neg Bool.false_ne_true, List.nil_append,
        quoted]
  · rintro ⟨plain, rfl⟩
    cases weak with
    | true =>
      have same : (PublicEntityTag.mk true characters).spelled ++ after =
          87 :: 47 :: 34 :: (characters ++ 34 :: after) := by
        rw [PublicEntityTag.spelled, if_pos rfl, List.append_assoc, quoted]
        rfl
      rw [same]
      exact (readQuoted_iff).mpr ⟨rfl, plain, rfl⟩
    | false =>
      have same : (PublicEntityTag.mk false characters).spelled ++ after =
          34 :: (characters ++ 34 :: after) := by
        rw [PublicEntityTag.spelled, if_neg Bool.false_ne_true, List.nil_append, quoted]
      rw [same]
      exact (readQuoted_iff).mpr ⟨rfl, plain, rfl⟩

/-! ### Blanks -/

theorem isOws_iff {byte : UInt8} : isOws byte = true ↔ byte = 32 ∨ byte = 9 := by
  simp only [isOws, Bool.or_eq_true, beq_iff_eq]

theorem skipOws_blanks_append {before : Bytes} (blanks : Blanks before) (rest : Bytes) :
    skipOws (before ++ rest) = skipOws rest :=
  List.dropWhile_append_of_pos fun byte member => (isOws_iff).mpr (blanks byte member)

theorem skipOws_solid {byte : UInt8} (solid : isOws byte = false) (rest : Bytes) :
    skipOws (byte :: rest) = byte :: rest :=
  List.dropWhile_cons_of_neg (by simp [solid])

theorem skipOws_blanks {bytes : Bytes} (blanks : Blanks bytes) : skipOws bytes = [] := by
  have skipped := skipOws_blanks_append blanks []
  rwa [List.append_nil] at skipped

theorem exists_blanks (input : Bytes) : ∃ before, Blanks before ∧ input = before ++ skipOws input := by
  refine ⟨input.takeWhile isOws, ?_, (List.takeWhile_append_dropWhile).symm⟩
  intro byte member
  exact (isOws_iff).mp (List.mem_takeWhile_imp member)

theorem blanks_of_skipOws {input : Bytes} (empty : skipOws input = []) : Blanks input := by
  obtain ⟨before, blanks, same⟩ := exists_blanks input
  rw [empty, List.append_nil] at same
  exact same ▸ blanks

theorem skipOws_skipOws (input : Bytes) : skipOws (skipOws input) = skipOws input := by
  obtain ⟨before, blanks, same⟩ := exists_blanks input
  have skipped := skipOws_blanks_append blanks (skipOws input)
  rw [← same] at skipped
  exact skipped.symm

theorem skipOws_spelled (tag : PublicEntityTag) (rest : Bytes) :
    skipOws (tag.spelled ++ rest) = tag.spelled ++ rest := by
  obtain ⟨weak, characters⟩ := tag
  cases weak with
  | true => exact skipOws_solid (by decide) _
  | false => exact skipOws_solid (by decide) _

/-! ### Lists of tags -/

theorem parseTags_last {input after : Bytes} {tag : PublicEntityTag}
    (read : readTag (skipOws input) = some (tag, after)) (ended : skipOws after = []) :
    parseTags input = some [tag] := by
  rw [parseTags]
  split
  · next failed =>
      rw [failed] at read
      cases read
  · next other behind found =>
      rw [found] at read
      cases read
      split
      · rfl
      · next byte rest following =>
          rw [following] at ended
          cases ended

theorem parseTags_more {input after rest : Bytes} {tag : PublicEntityTag}
    {tags : List PublicEntityTag} (read : readTag (skipOws input) = some (tag, after))
    (comma : skipOws after = 44 :: rest) (present : skipOws rest ≠ [])
    (following : parseTags (skipOws rest) = some tags) : parseTags input = some (tag :: tags) := by
  rw [parseTags]
  split
  · next failed =>
      rw [failed] at read
      cases read
  · next other behind found =>
      rw [found] at read
      cases read
      split
      · next ended =>
          rw [ended] at comma
          cases comma
      · next byte more behind =>
          rw [behind] at comma
          cases comma
          rw [if_pos rfl, if_neg (by simpa using present), following]

theorem parseTags_some {input : Bytes} {tags : List PublicEntityTag}
    (parsed : parseTags input = some tags) :
    ∃ tag after, readTag (skipOws input) = some (tag, after) ∧
      ((skipOws after = [] ∧ tags = [tag]) ∨
        ∃ rest later, skipOws after = 44 :: rest ∧ parseTags (skipOws rest) = some later ∧
          tags = tag :: later) := by
  rw [parseTags] at parsed
  split at parsed
  · cases parsed
  · next tag after read =>
      refine ⟨tag, after, read, ?_⟩
      split at parsed
      · next ended =>
          cases parsed
          exact .inl ⟨ended, rfl⟩
      · next byte rest following =>
          by_cases comma : byte = 44
          · rw [if_pos comma] at parsed
            split at parsed
            · cases parsed
            · cases more : parseTags (skipOws rest) with
              | none =>
                rw [more] at parsed
                cases parsed
              | some later =>
                rw [more] at parsed
                cases parsed
                exact .inr ⟨rest, later, comma ▸ following, more, rfl⟩
          · rw [if_neg comma] at parsed
            cases parsed

theorem Listed.of_blanks {before input : Bytes} {tags : List PublicEntityTag}
    (blanks : Blanks before) (listed : Listed input tags) : Listed (before ++ input) tags := by
  have joined {leading : Bytes} (others : Blanks leading) : Blanks (before ++ leading) := by
    intro byte member
    obtain first | second := List.mem_append.mp member
    · exact blanks byte first
    · exact others byte second
  cases listed with
  | last leading trailing characters =>
    rw [← List.append_assoc, ← List.append_assoc]
    exact .last (joined leading) trailing characters
  | more leading trailing characters following =>
    rw [← List.append_assoc, ← List.append_assoc, ← List.append_assoc]
    exact .more (joined leading) trailing characters following

theorem Listed.skipOws_ne_nil {input : Bytes} {tags : List PublicEntityTag}
    (listed : Listed input tags) : skipOws input ≠ [] := by
  have solid (tag : PublicEntityTag) (rest : Bytes) : skipOws (tag.spelled ++ rest) ≠ [] := by
    rw [skipOws_spelled]
    simp [PublicEntityTag.spelled]
  cases listed with
  | last leading trailing characters =>
    rw [List.append_assoc, skipOws_blanks_append leading]
    exact solid _ _
  | more leading trailing characters following =>
    rw [List.append_assoc, List.append_assoc, skipOws_blanks_append leading]
    exact solid _ _

theorem parseTags_skipOws (input : Bytes) : parseTags (skipOws input) = parseTags input := by
  rw [parseTags, skipOws_skipOws, parseTags]

theorem parseTags_iff {input : Bytes} {tags : List PublicEntityTag} :
    parseTags input = some tags ↔ Listed input tags := by
  constructor
  · intro parsed
    induction size : input.length using Nat.strong_induction_on generalizing input tags with
    | _ size ih =>
      subst size
      obtain ⟨tag, after, read, ⟨ended, rfl⟩ | ⟨rest, later, comma, more, rfl⟩⟩ :=
        parseTags_some parsed
      all_goals
        obtain ⟨before, blanks, same⟩ := exists_blanks input
        obtain ⟨characters, spelled⟩ := (readTag_iff).mp read
        rw [spelled, ← List.append_assoc] at same
      · rw [same]
        exact .last blanks (blanks_of_skipOws ended) characters
      · obtain ⟨between, separated, whole⟩ := exists_blanks after
        obtain ⟨leading, skipped, tail⟩ := exists_blanks rest
        have shorter := readTag_shorter read
        have skippedShort := skipOws_length_le input
        have behind : (skipOws after).length ≤ after.length := skipOws_length_le after
        have last := skipOws_length_le rest
        rw [comma, List.length_cons] at behind
        have listed : Listed (skipOws rest) later := ih _ (by omega) more rfl
        have following : Listed rest later := by
          rw [tail]
          exact listed.of_blanks skipped
        rw [comma] at whole
        rw [same, whole, ← List.append_assoc]
        exact .more blanks separated characters following
  · intro listed
    induction listed with
    | @last before after tag leading trailing characters =>
      refine parseTags_last ?_ (skipOws_blanks trailing)
      rw [List.append_assoc, skipOws_blanks_append leading, skipOws_spelled]
      exact (readTag_iff).mpr ⟨characters, rfl⟩
    | @more before after rest tag tags leading trailing characters following ih =>
      refine @parseTags_more _ (after ++ 44 :: rest) rest tag tags ?_ ?_
        following.skipOws_ne_nil ((parseTags_skipOws rest).trans ih)
      · rw [List.append_assoc, List.append_assoc, skipOws_blanks_append leading, skipOws_spelled]
        exact (readTag_iff).mpr ⟨characters, rfl⟩
      · rw [skipOws_blanks_append trailing]
        exact skipOws_solid (by decide) rest

theorem Listed.ne_star {input rest : Bytes} {tags : List PublicEntityTag}
    (listed : Listed input tags) : skipOws input ≠ 42 :: rest := by
  intro starred
  have parsed := (parseTags_skipOws input).trans ((parseTags_iff).mpr listed)
  obtain ⟨tag, after, read, -⟩ := parseTags_some parsed
  obtain ⟨-, spelled⟩ := (readTag_iff).mp read
  rw [skipOws_skipOws, starred, PublicEntityTag.spelled] at spelled
  split at spelled
  · cases spelled
  · cases spelled

/-! ## The header as a whole -/

theorem publicEntityTagParseList_of_listed {header : Bytes} {tags : List PublicEntityTag}
    (listed : Listed header tags) : publicEntityTagParseList header = some (false, tags) := by
  unfold publicEntityTagParseList
  split
  · next empty => exact absurd empty listed.skipOws_ne_nil
  · next rest starred => exact absurd starred listed.ne_star
  · rw [parseTags_skipOws, (parseTags_iff).mpr listed]

theorem publicEntityTagParseList_of_starred {header : Bytes} (starred : Starred header) :
    publicEntityTagParseList header = some (true, []) := by
  obtain ⟨before, after, leading, trailing, rfl⟩ := starred
  have star : skipOws (before ++ 42 :: after) = 42 :: after :=
    (skipOws_blanks_append leading _).trans (skipOws_solid (by decide) after)
  simp only [publicEntityTagParseList, star, skipOws_blanks trailing, List.isEmpty_nil, if_true]

theorem publicEntityTagParseList_some {header : Bytes} {wildcard : Bool}
    {tags : List PublicEntityTag} (parsed : publicEntityTagParseList header = some (wildcard, tags)) :
    (wildcard = true ∧ tags = [] ∧ Starred header) ∨ (wildcard = false ∧ Listed header tags) := by
  obtain ⟨before, blanks, same⟩ := exists_blanks header
  unfold publicEntityTagParseList at parsed
  split at parsed
  · cases parsed
  · next rest star =>
      by_cases ended : (skipOws rest).isEmpty = true
      · rw [if_pos ended] at parsed
        cases parsed
        rw [star] at same
        exact .inl ⟨rfl, rfl, before, rest, blanks, blanks_of_skipOws (List.isEmpty_iff.mp ended), same⟩
      · rw [if_neg ended] at parsed
        cases parsed
  · cases listed : parseTags (skipOws header) with
    | none =>
      rw [listed] at parsed
      cases parsed
    | some found =>
      rw [listed] at parsed
      cases parsed
      rw [parseTags_skipOws] at listed
      exact .inr ⟨rfl, (parseTags_iff).mp listed⟩

theorem publicEntityTagParseList_listed_iff {header : Bytes} {tags : List PublicEntityTag} :
    publicEntityTagParseList header = some (false, tags) ↔ Listed header tags := by
  constructor
  · intro parsed
    obtain ⟨wild, -, -⟩ | ⟨-, listed⟩ := publicEntityTagParseList_some parsed
    · cases wild
    · exact listed
  · exact publicEntityTagParseList_of_listed

theorem publicEntityTagParseList_starred_iff {header : Bytes} {tags : List PublicEntityTag} :
    publicEntityTagParseList header = some (true, tags) ↔ Starred header ∧ tags = [] := by
  constructor
  · intro parsed
    obtain ⟨-, none, starred⟩ | ⟨tame, -⟩ := publicEntityTagParseList_some parsed
    · exact ⟨starred, none⟩
    · cases tame
  · rintro ⟨starred, rfl⟩
    exact publicEntityTagParseList_of_starred starred

/-! ## The tag of a revision -/

def strongTag (resourceRevision : Bytes) : PublicEntityTag :=
  { opaqueText := tagPrefix ++ Hex.encode resourceRevision }

theorem strongTag_spelled {resourceRevision : Bytes} (present : resourceRevision ≠ []) :
    (strongTag resourceRevision).spelled = publicStrongEntityTag resourceRevision := by
  rw [publicStrongEntityTag, if_neg (by simpa using present)]
  rfl

theorem strongTag_opaqueText (resourceRevision : Bytes) :
    OpaqueText (strongTag resourceRevision).opaqueText := by
  intro byte member
  obtain marker | digit := List.mem_append.mp member
  · have every : ∀ byte ∈ tagPrefix, 0x21 ≤ byte ∧ byte ≠ 34 ∧ byte ≠ 0x7f := by decide
    exact every byte marker
  · have digits := Hex.hexValue_of_mem_encode resourceRevision byte digit
    unfold Hex.hexValue at digits
    split at digits
    · next range =>
        refine ⟨UInt8.le_trans (by decide) range.1, ?_, ?_⟩
        · rintro rfl
          exact absurd range.1 (by decide)
        · rintro rfl
          exact absurd range.2 (by decide)
    · split at digits
      · next range =>
          refine ⟨UInt8.le_trans (by decide) range.1, ?_, ?_⟩
          · rintro rfl
            exact absurd range.1 (by decide)
          · rintro rfl
            exact absurd range.2 (by decide)
      · cases digits

theorem spelled_injective {tag other : PublicEntityTag} (same : tag.spelled = other.spelled) :
    tag = other := by
  obtain ⟨weak, characters⟩ := tag
  obtain ⟨otherWeak, others⟩ := other
  cases weak with
  | true =>
    cases otherWeak with
    | true => simpa [PublicEntityTag.spelled] using same
    | false => simp [PublicEntityTag.spelled] at same
  | false =>
    cases otherWeak with
    | true => simp [PublicEntityTag.spelled] at same
    | false => simpa [PublicEntityTag.spelled] using same

theorem publicEntityTagParseSingle_strongTag {resourceRevision : Bytes}
    (present : resourceRevision ≠ []) :
    publicEntityTagParseSingle (publicStrongEntityTag resourceRevision) =
      some (strongTag resourceRevision) := by
  have blanks : Blanks [] := fun _ none => absurd none List.not_mem_nil
  have listed : Listed (publicStrongEntityTag resourceRevision) [strongTag resourceRevision] := by
    have single := Listed.last blanks blanks (strongTag_opaqueText resourceRevision)
    rwa [List.nil_append, List.append_nil, strongTag_spelled present] at single
  rw [publicEntityTagParseSingle, publicEntityTagParseList_of_listed listed]

theorem resourceRevision_of_strongEntityTag {resourceRevision : Bytes}
    (present : resourceRevision ≠ []) :
    publicStrongEntityTagResourceRevision (publicStrongEntityTag resourceRevision) =
      some resourceRevision := by
  have digits : 0 < (Hex.encode resourceRevision).length := by
    have count := List.length_pos_iff.mpr present
    rw [Hex.encode_length]
    omega
  have longer : ¬ (strongTag resourceRevision).opaqueText.length ≤ tagPrefix.length := by
    rw [strongTag, List.length_append]
    omega
  have leading : tagPrefix.isPrefixOf (strongTag resourceRevision).opaqueText = true :=
    List.isPrefixOf_iff_prefix.mpr (List.prefix_append _ _)
  have strong : (strongTag resourceRevision).weak = false := rfl
  have encoded : (strongTag resourceRevision).opaqueText.drop tagPrefix.length =
      Hex.encode resourceRevision := List.drop_left
  have filled : resourceRevision.isEmpty = false := by simpa using present
  simp only [publicStrongEntityTagResourceRevision, publicEntityTagParseSingle_strongTag present,
    strong, longer, leading, encoded, Hex.decode_encode, filled, decide_false, Bool.not_true,
    Bool.or_self, Bool.false_eq_true, if_false, bne_self_eq_false]

theorem strongEntityTag_of_resourceRevision {entityTag resourceRevision : Bytes}
    (read : publicStrongEntityTagResourceRevision entityTag = some resourceRevision) :
    resourceRevision ≠ [] ∧ publicStrongEntityTag resourceRevision = entityTag := by
  unfold publicStrongEntityTagResourceRevision at read
  split at read
  · cases read
  · split at read
    · cases read
    · split at read
      · cases read
      · split at read
        · cases read
        · next decoded _ =>
            split at read
            · cases read
            · next accepted =>
                cases read
                simpa using accepted

/-! ## If-Match -/

def Names (header entityTag : Bytes) : Prop :=
  ∃ tags, Listed header tags ∧ ∃ tag ∈ tags, tag.weak = false ∧ tag.spelled = entityTag

theorem any_candidate_iff {tags : List PublicEntityTag} {resourceRevision : Bytes}
    (present : resourceRevision ≠ []) :
    (tags.any fun candidate => !candidate.weak &&
        candidate.opaqueText == (strongTag resourceRevision).opaqueText) = true ↔
      ∃ tag ∈ tags, tag.weak = false ∧ tag.spelled = publicStrongEntityTag resourceRevision := by
  rw [List.any_eq_true]
  constructor
  · rintro ⟨tag, member, found⟩
    simp only [Bool.and_eq_true, Bool.not_eq_true', beq_iff_eq] at found
    obtain ⟨strong, same⟩ := found
    refine ⟨tag, member, strong, ?_⟩
    rw [← strongTag_spelled present, PublicEntityTag.spelled, PublicEntityTag.spelled, strong, same]
    rfl
  · rintro ⟨tag, member, strong, same⟩
    rw [← strongTag_spelled present] at same
    refine ⟨tag, member, ?_⟩
    rw [spelled_injective same]
    simp [strongTag]

theorem publicEvaluateIfMatch_cases (header : Bytes) {resourceRevision : Bytes}
    (present : resourceRevision ≠ []) :
    (header = [] ∧
        publicEvaluateIfMatch header (publicStrongEntityTag resourceRevision) = .missing) ∨
      (Starred header ∧
        publicEvaluateIfMatch header (publicStrongEntityTag resourceRevision) = .matched) ∨
      (∃ tags, Listed header tags ∧
        publicEvaluateIfMatch header (publicStrongEntityTag resourceRevision) =
          if tags.any fun candidate => !candidate.weak &&
              candidate.opaqueText == (strongTag resourceRevision).opaqueText
          then .matched else .notMatched) ∨
      (header ≠ [] ∧ ¬ Starred header ∧ (¬ ∃ tags, Listed header tags) ∧
        publicEvaluateIfMatch header (publicStrongEntityTag resourceRevision) = .malformed) := by
  have strong : (strongTag resourceRevision).weak = false := rfl
  by_cases empty : header = []
  · exact .inl ⟨empty, by rw [empty]; rfl⟩
  · have filled : header.isEmpty = false := by simpa using empty
    simp only [publicEvaluateIfMatch, filled, publicEntityTagParseSingle_strongTag present, strong,
      Bool.false_eq_true, if_false]
    cases parsed : publicEntityTagParseList header with
    | none =>
      refine .inr (.inr (.inr ⟨empty, ?_, ?_, rfl⟩))
      · intro starred
        rw [publicEntityTagParseList_of_starred starred] at parsed
        cases parsed
      · rintro ⟨tags, listed⟩
        rw [publicEntityTagParseList_of_listed listed] at parsed
        cases parsed
    | some found =>
      obtain ⟨wildcard, tags⟩ := found
      obtain ⟨rfl, -, starred⟩ | ⟨rfl, listed⟩ := publicEntityTagParseList_some parsed
      · exact .inr (.inl ⟨starred, rfl⟩)
      · exact .inr (.inr (.inl ⟨tags, listed, rfl⟩))

theorem Listed.unique {header : Bytes} {tags others : List PublicEntityTag}
    (listed : Listed header tags) (again : Listed header others) : tags = others := by
  have first := publicEntityTagParseList_of_listed listed
  rw [publicEntityTagParseList_of_listed again] at first
  cases first
  rfl

theorem Listed.not_starred {header : Bytes} {tags : List PublicEntityTag}
    (listed : Listed header tags) : ¬ Starred header := by
  intro starred
  have first := publicEntityTagParseList_of_listed listed
  rw [publicEntityTagParseList_of_starred starred] at first
  cases first

theorem Listed.ne_nil {header : Bytes} {tags : List PublicEntityTag}
    (listed : Listed header tags) : header ≠ [] := by
  rintro rfl
  exact listed.skipOws_ne_nil rfl

theorem Starred.ne_nil {header : Bytes} (starred : Starred header) : header ≠ [] := by
  obtain ⟨before, after, -, -, rfl⟩ := starred
  simp

/-- Tags and revisions are exact, the reader accepts the grammar with its tags in order, and for
every current revision the condition is what the grammar says. -/
theorem entity_tags_exact (header resourceRevision : Bytes) (present : resourceRevision ≠ []) :
    publicStrongEntityTagResourceRevision (publicStrongEntityTag resourceRevision) =
        some resourceRevision ∧
      (∀ entityTag accepted, publicStrongEntityTagResourceRevision entityTag = some accepted →
        accepted ≠ [] ∧ publicStrongEntityTag accepted = entityTag) ∧
      (∀ tags, publicEntityTagParseList header = some (false, tags) ↔ Listed header tags) ∧
      (∀ tags, publicEntityTagParseList header = some (true, tags) ↔
        Starred header ∧ tags = []) ∧
      (publicEvaluateIfMatch header (publicStrongEntityTag resourceRevision) = .missing ↔
        header = []) ∧
      (publicEvaluateIfMatch header (publicStrongEntityTag resourceRevision) = .matched ↔
        Starred header ∨ Names header (publicStrongEntityTag resourceRevision)) ∧
      (publicEvaluateIfMatch header (publicStrongEntityTag resourceRevision) = .notMatched ↔
        (∃ tags, Listed header tags) ∧ ¬ Names header (publicStrongEntityTag resourceRevision)) ∧
      (publicEvaluateIfMatch header (publicStrongEntityTag resourceRevision) = .malformed ↔
        header ≠ [] ∧ ¬ Starred header ∧ ¬ ∃ tags, Listed header tags) := by
  refine ⟨resourceRevision_of_strongEntityTag present,
    fun _ _ read => strongEntityTag_of_resourceRevision read,
    fun _ => publicEntityTagParseList_listed_iff, fun _ => publicEntityTagParseList_starred_iff, ?_⟩
  obtain ⟨rfl, answer⟩ | ⟨starred, answer⟩ | ⟨tags, listed, answer⟩ |
      ⟨filled, plain, unlisted, answer⟩ := publicEvaluateIfMatch_cases header present
  all_goals rw [answer]
  · have unstarred : ¬ Starred [] := fun starred => starred.ne_nil rfl
    have unlisted : ¬ ∃ tags, Listed [] tags := fun ⟨_, listed⟩ => listed.ne_nil rfl
    have unnamed : ¬ Names [] (publicStrongEntityTag resourceRevision) :=
      fun ⟨tags, listed, _⟩ => unlisted ⟨tags, listed⟩
    simp [unstarred, unlisted, unnamed]
  · have unlisted : ¬ ∃ tags, Listed header tags := fun ⟨_, listed⟩ => listed.not_starred starred
    simp [starred, unlisted, starred.ne_nil]
  · have some : ∃ tags, Listed header tags := ⟨tags, listed⟩
    have names : Names header (publicStrongEntityTag resourceRevision) ↔
        ∃ tag ∈ tags, tag.weak = false ∧
          tag.spelled = publicStrongEntityTag resourceRevision := by
      constructor
      · rintro ⟨others, again, found⟩
        exact listed.unique again ▸ found
      · exact fun found => ⟨tags, listed, found⟩
    rw [names, ← any_candidate_iff present]
    split
    · next found => simp [some, found, listed.not_starred, listed.ne_nil]
    · next missed => simp [some, missed, listed.not_starred, listed.ne_nil]
  · have unnamed : ¬ Names header (publicStrongEntityTag resourceRevision) :=
      fun ⟨tags, listed, _⟩ => unlisted ⟨tags, listed⟩
    simp [filled, plain, unlisted, unnamed]

/-- A weak tag with a comma, a slash and a star, and the strong tag of the revision `1`. -/
theorem entity_tags_exact_sample :
    publicEvaluateIfMatch (text "W/\"a,/*\" ,\"vsr-31\"") (publicStrongEntityTag [49]) = .matched := by
  have none : Blanks [] := fun _ absent => absurd absent List.not_mem_nil
  have blank : Blanks [32] := by simp [Blanks]
  have weakText : OpaqueText (text "a,/*") := by unfold OpaqueText; decide
  have strongText : OpaqueText (text "vsr-31") := by unfold OpaqueText; decide
  have final : Listed (text "\"vsr-31\"") [{ opaqueText := text "vsr-31" }] :=
    @Listed.last [] [] { opaqueText := text "vsr-31" } none none strongText
  have listed : Listed (text "W/\"a,/*\" ,\"vsr-31\"")
      [{ weak := true, opaqueText := text "a,/*" }, { opaqueText := text "vsr-31" }] :=
    @Listed.more [] [32] _ { weak := true, opaqueText := text "a,/*" } _ none blank weakText final
  have exact := entity_tags_exact (text "W/\"a,/*\" ,\"vsr-31\"") [49] (by decide)
  exact exact.2.2.2.2.2.1.mpr (.inr ⟨_, listed, { opaqueText := text "vsr-31" }, by simp, rfl,
    by decide⟩)

/-- A resource without a revision has no tag, and then not even `*` matches. -/
theorem missing_revision_refuses_star :
    ¬ ∀ header resourceRevision : Bytes,
      publicEvaluateIfMatch header (publicStrongEntityTag resourceRevision) = .matched ↔
        Starred header ∨ Names header (publicStrongEntityTag resourceRevision) := by
  intro claimed
  have blanks : Blanks [] := fun _ none => absurd none List.not_mem_nil
  have starred : Starred [42] := ⟨[], [], blanks, blanks, rfl⟩
  have refused : publicEvaluateIfMatch [42] (publicStrongEntityTag []) = .malformed := rfl
  have matched := (claimed [42] []).mpr (.inl starred)
  rw [refused] at matched
  cases matched

end VdrSuite.Http
