import VdrSuite.Recordings.RecordingMetadataCacheCodec
import Mathlib.Data.ZMod.Defs

/-! What a metadata payload stands for, and which metadata survives the cache. -/

set_option autoImplicit false

namespace VdrSuite.Recordings

open Library

/-! ## Numerals -/

def Int32Range (value : Int) : Prop := -2147483648 ≤ value ∧ value ≤ 2147483647

instance (value : Int) : Decidable (Int32Range value) :=
  inferInstanceAs (Decidable (-2147483648 ≤ value ∧ value ≤ 2147483647))

theorem isSpace_of_isDigit {byte : UInt8} (digit : isDigit byte = true) : isSpace byte = false := by
  simp only [isDigit, Bool.and_eq_true, decide_eq_true_eq, UInt8.le_iff_toNat_le] at digit
  have low : 48 ≤ byte.toNat := digit.1
  cases space : isSpace byte with
  | false => rfl
  | true =>
    simp only [isSpace, Bool.or_eq_true, Bool.and_eq_true, beq_iff_eq, decide_eq_true_eq,
      UInt8.le_iff_toNat_le] at space
    obtain rfl | ⟨-, high⟩ := space
    · exact absurd low (by decide)
    · have short : byte.toNat ≤ 13 := high
      omega

theorem parseLongLong_decimal {count : Nat} (bounded : count ≤ int64Max) :
    parseLongLong (decimal count) = some (count : Int) := by
  have read := parseDecimal_decimal int64Max count bounded
  have digits := isDigit_of_mem_decimal count
  cases written : decimal count with
  | nil => exact absurd written (decimal_ne_nil count)
  | cons first rest =>
    rw [written] at read digits
    have digit := digits first List.mem_cons_self
    have solid : (first :: rest).dropWhile isSpace = first :: rest :=
      List.dropWhile_cons_of_neg (by simp [isSpace_of_isDigit digit])
    rw [parseLongLong, solid]
    split
    · next same =>
        cases same
        exact absurd digit (by decide)
    · next same =>
        cases same
        exact absurd digit (by decide)
    · rw [read]
      rfl

theorem parseLongLong_signedDecimal {value : Int} (least : -9223372036854775808 ≤ value)
    (most : value ≤ 9223372036854775807) : parseLongLong (signedDecimal value) = some value := by
  by_cases negative : value < 0
  · have solid : (45 :: decimal value.natAbs).dropWhile isSpace = 45 :: decimal value.natAbs :=
      List.dropWhile_cons_of_neg (by decide)
    have read := parseDecimal_decimal 9223372036854775808 value.natAbs (by omega)
    rw [signedDecimal, if_pos negative, parseLongLong, solid]
    simp only [read, Option.map_some, Option.some.injEq, Int.ofNat_eq_natCast]
    omega
  · rw [signedDecimal, if_neg negative, parseLongLong_decimal (by unfold int64Max; omega)]
    simp only [Option.some.injEq]
    omega

theorem parseInt_signedDecimal {value : Int} (range : Int32Range value) :
    parseInt (signedDecimal value) = some value := by
  obtain ⟨least, most⟩ := range
  rw [parseInt, parseLongLong_signedDecimal (by omega) (by omega)]
  simp only
  rw [if_neg (by omega)]

theorem parseMetadataSource_code (source : VdrRecordingMetadataSource) :
    parseMetadataSource (signedDecimal source.code) = some source := by
  cases source with
  | none => rw [parseMetadataSource, parseInt_signedDecimal (by decide)]; rfl
  | restfulApiScraperBridge => rw [parseMetadataSource, parseInt_signedDecimal (by decide)]; rfl

theorem parseContentKind_code (kind : VdrRecordingContentKind) :
    parseContentKind (signedDecimal kind.code) = some kind := by
  cases kind with
  | unknown => rw [parseContentKind, parseInt_signedDecimal (by decide)]; rfl
  | movie => rw [parseContentKind, parseInt_signedDecimal (by decide)]; rfl
  | seriesEpisode => rw [parseContentKind, parseInt_signedDecimal (by decide)]; rfl

theorem parseArtworkKind_code (kind : VdrRecordingArtworkKind) :
    parseArtworkKind (signedDecimal kind.code) = some kind := by
  cases kind with
  | poster => rw [parseArtworkKind, parseInt_signedDecimal (by decide)]; rfl
  | fanart => rw [parseArtworkKind, parseInt_signedDecimal (by decide)]; rfl
  | banner => rw [parseArtworkKind, parseInt_signedDecimal (by decide)]; rfl
  | still => rw [parseArtworkKind, parseInt_signedDecimal (by decide)]; rfl

theorem parseTemporary_flag (temporary : Bool) :
    parseTemporary (if temporary then text "1" else text "0") = some temporary := by
  cases temporary <;> decide

theorem parseArtworkCount_length {count : Nat} (bounded : count ≤ int64Max) :
    parseArtworkCount (signedDecimal count) =
      if count ≤ maximumArtworkCount then some count else none := by
  have spelled : signedDecimal (count : Int) = decimal count :=
    signedDecimal_of_nonneg _ (Int.natCast_nonneg count)
  rw [parseArtworkCount, spelled, parseLongLong_decimal bounded]
  simp only
  by_cases few : count ≤ maximumArtworkCount
  · rw [if_pos few, if_neg (by omega), Int.toNat_natCast]
  · rw [if_neg few, if_pos (by omega)]

/-! ## What a payload stands for -/

def ReadsArtwork (tokens : List Bytes) (artwork : VdrRecordingArtworkRef) : Prop :=
  ∃ kind source width height temporary,
    tokens = [kind, source, artwork.reference, width, height, temporary] ∧
      parseArtworkKind kind = some artwork.kind ∧
      parseMetadataSource source = some artwork.source ∧
      parseInt width = some artwork.width ∧ parseInt height = some artwork.height ∧
      parseTemporary temporary = some artwork.temporary

structure NumeralTokens where
  source : Bytes
  contentKind : Bytes
  seasonNumber : Bytes
  episodeNumber : Bytes
  runtimeMinutes : Bytes
  rating : Bytes
  artworkCount : Bytes

variable {Double : Type} [Zero Double]

def headTokens (numerals : NumeralTokens) (metadata : VdrRecordingMetadata Double) : List Bytes :=
  [metadata.native.eventTitle, metadata.native.shortText, metadata.native.description,
    numerals.source, numerals.contentKind, metadata.provider.movieId, metadata.provider.seriesId,
    metadata.provider.episodeId, metadata.provider.title, metadata.provider.originalTitle,
    metadata.provider.tagline, metadata.provider.overview, metadata.provider.genreText,
    metadata.provider.releaseDate, metadata.provider.seriesTitle, metadata.provider.episodeTitle,
    numerals.seasonNumber, numerals.episodeNumber, numerals.runtimeMinutes, numerals.rating,
    numerals.artworkCount]

/-- Every field of the metadata comes from its own token, and the artwork is what is valid among
the references that are listed. -/
structure Reads (conversion : DoubleConversion Double) (tokens : List Bytes)
    (metadata : VdrRecordingMetadata Double) (numerals : NumeralTokens)
    (groups : List (List Bytes)) (listed : List VdrRecordingArtworkRef) : Prop where
  tokens : tokens = headTokens numerals metadata ++ groups.flatten
  source : parseMetadataSource numerals.source = some metadata.provider.source
  contentKind : parseContentKind numerals.contentKind = some metadata.provider.contentKind
  seasonNumber : parseInt numerals.seasonNumber = some metadata.provider.seasonNumber
  episodeNumber : parseInt numerals.episodeNumber = some metadata.provider.episodeNumber
  runtimeMinutes : parseInt numerals.runtimeMinutes = some metadata.provider.runtimeMinutes
  rating : conversion.parseDouble numerals.rating = some metadata.provider.rating
  artworkCount : parseArtworkCount numerals.artworkCount = some listed.length
  groups : List.Forall₂ ReadsArtwork groups listed
  artwork : metadata.artwork = listed.filter VdrRecordingArtworkRef.isValid

theorem readArtwork_iff {tokens : List Bytes} {artwork : VdrRecordingArtworkRef} :
    readArtwork.accepts tokens = some artwork ↔ ReadsArtwork tokens artwork := by
  constructor
  · intro accepted
    obtain ⟨kind, _, _, rfl, kindRead, accepted⟩ := TokenReader.exists_of_tokenAs_bind accepted
    obtain ⟨source, _, _, rfl, sourceRead, accepted⟩ := TokenReader.exists_of_tokenAs_bind accepted
    obtain ⟨reference, _, rfl, accepted⟩ := TokenReader.exists_of_token_bind accepted
    obtain ⟨width, _, _, rfl, widthRead, accepted⟩ := TokenReader.exists_of_tokenAs_bind accepted
    obtain ⟨height, _, _, rfl, heightRead, accepted⟩ := TokenReader.exists_of_tokenAs_bind accepted
    obtain ⟨flag, _, _, rfl, flagRead, accepted⟩ := TokenReader.exists_of_tokenAs_bind accepted
    obtain ⟨rfl, rfl⟩ := TokenReader.exists_of_accepts_pure accepted
    exact ⟨kind, source, width, height, flag, rfl, kindRead, sourceRead, widthRead, heightRead,
      flagRead⟩
  · rintro ⟨kind, source, width, height, temporary, rfl, kindRead, sourceRead, widthRead,
      heightRead, flagRead⟩
    rw [readArtwork, TokenReader.accepts_tokenAs_bind kindRead,
      TokenReader.accepts_tokenAs_bind sourceRead, TokenReader.accepts_token_bind,
      TokenReader.accepts_tokenAs_bind widthRead, TokenReader.accepts_tokenAs_bind heightRead,
      TokenReader.accepts_tokenAs_bind flagRead]
    rfl

theorem readArtworks_iff {count : Nat} {tokens : List Bytes}
    {artwork : List VdrRecordingArtworkRef} :
    (readArtworks count).accepts tokens = some artwork ↔
      ∃ groups listed, tokens = groups.flatten ∧ listed.length = count ∧
        List.Forall₂ ReadsArtwork groups listed ∧
        artwork = listed.filter VdrRecordingArtworkRef.isValid := by
  induction count generalizing tokens artwork with
  | zero =>
    constructor
    · intro accepted
      obtain ⟨rfl, rfl⟩ := TokenReader.exists_of_accepts_pure accepted
      exact ⟨[], [], rfl, rfl, .nil, rfl⟩
    · rintro ⟨groups, listed, rfl, empty, pairs, rfl⟩
      obtain rfl := List.eq_nil_of_length_eq_zero empty
      cases pairs
      rfl
  | succ count ih =>
    constructor
    · intro accepted
      obtain ⟨group, _, first, rfl, leading, accepted⟩ :=
        TokenReader.exists_of_accepts_bind accepted
      obtain ⟨more, _, others, rfl, later, accepted⟩ :=
        TokenReader.exists_of_accepts_bind accepted
      obtain ⟨rfl, rfl⟩ := TokenReader.exists_of_accepts_pure accepted
      obtain ⟨groups, listed, rfl, size, pairs, rfl⟩ := ih.mp later
      refine ⟨group :: groups, first :: listed, by simp, by simp [size],
        .cons ((readArtwork_iff).mp leading) pairs, ?_⟩
      rw [List.filter_cons]
    · rintro ⟨groups, listed, rfl, size, pairs, rfl⟩
      cases pairs with
      | nil => cases size
      | @cons group first groups listed leading later =>
        have others : (readArtworks count).accepts groups.flatten =
            some (listed.filter VdrRecordingArtworkRef.isValid) :=
          ih.mpr ⟨groups, listed, rfl, by simpa using size, later, rfl⟩
        rw [readArtworks, List.flatten_cons,
          TokenReader.accepts_bind ((readArtwork_iff).mpr leading),
          ← List.append_nil groups.flatten, TokenReader.accepts_bind others, List.filter_cons]
        rfl

theorem readMetadata_iff {conversion : DoubleConversion Double} {tokens : List Bytes}
    {metadata : VdrRecordingMetadata Double} :
    (readMetadata conversion).accepts tokens = some metadata ↔
      ∃ numerals groups listed, Reads conversion tokens metadata numerals groups listed := by
  constructor
  · intro accepted
    replace accepted := TokenReader.exists_of_token_bind accepted
    obtain ⟨eventTitle, _, rfl, accepted⟩ := accepted
    replace accepted := TokenReader.exists_of_token_bind accepted
    obtain ⟨shortText, _, rfl, accepted⟩ := accepted
    replace accepted := TokenReader.exists_of_token_bind accepted
    obtain ⟨description, _, rfl, accepted⟩ := accepted
    replace accepted := TokenReader.exists_of_tokenAs_bind accepted
    obtain ⟨source, _, _, rfl, sourceRead, accepted⟩ := accepted
    replace accepted := TokenReader.exists_of_tokenAs_bind accepted
    obtain ⟨kind, _, _, rfl, kindRead, accepted⟩ := accepted
    replace accepted := TokenReader.exists_of_token_bind accepted
    obtain ⟨movieId, _, rfl, accepted⟩ := accepted
    replace accepted := TokenReader.exists_of_token_bind accepted
    obtain ⟨seriesId, _, rfl, accepted⟩ := accepted
    replace accepted := TokenReader.exists_of_token_bind accepted
    obtain ⟨episodeId, _, rfl, accepted⟩ := accepted
    replace accepted := TokenReader.exists_of_token_bind accepted
    obtain ⟨title, _, rfl, accepted⟩ := accepted
    replace accepted := TokenReader.exists_of_token_bind accepted
    obtain ⟨originalTitle, _, rfl, accepted⟩ := accepted
    replace accepted := TokenReader.exists_of_token_bind accepted
    obtain ⟨tagline, _, rfl, accepted⟩ := accepted
    replace accepted := TokenReader.exists_of_token_bind accepted
    obtain ⟨overview, _, rfl, accepted⟩ := accepted
    replace accepted := TokenReader.exists_of_token_bind accepted
    obtain ⟨genreText, _, rfl, accepted⟩ := accepted
    replace accepted := TokenReader.exists_of_token_bind accepted
    obtain ⟨releaseDate, _, rfl, accepted⟩ := accepted
    replace accepted := TokenReader.exists_of_token_bind accepted
    obtain ⟨seriesTitle, _, rfl, accepted⟩ := accepted
    replace accepted := TokenReader.exists_of_token_bind accepted
    obtain ⟨episodeTitle, _, rfl, accepted⟩ := accepted
    replace accepted := TokenReader.exists_of_tokenAs_bind accepted
    obtain ⟨season, _, _, rfl, seasonRead, accepted⟩ := accepted
    replace accepted := TokenReader.exists_of_tokenAs_bind accepted
    obtain ⟨episode, _, _, rfl, episodeRead, accepted⟩ := accepted
    replace accepted := TokenReader.exists_of_tokenAs_bind accepted
    obtain ⟨runtime, _, _, rfl, runtimeRead, accepted⟩ := accepted
    replace accepted := TokenReader.exists_of_tokenAs_bind accepted
    obtain ⟨rating, _, _, rfl, ratingRead, accepted⟩ := accepted
    replace accepted := TokenReader.exists_of_tokenAs_bind accepted
    obtain ⟨count, total, _, rfl, countRead, accepted⟩ := accepted
    replace accepted := TokenReader.exists_of_accepts_bind accepted
    obtain ⟨more, _, artwork, rfl, artworkRead, accepted⟩ := accepted
    obtain ⟨rfl, rfl⟩ := TokenReader.exists_of_accepts_pure accepted
    obtain ⟨groups, listed, rfl, rfl, pairs, rfl⟩ := (readArtworks_iff).mp artworkRead
    exact ⟨⟨source, kind, season, episode, runtime, rating, count⟩, groups, listed,
      { tokens := by rw [List.append_nil]; rfl
        source := sourceRead
        contentKind := kindRead
        seasonNumber := seasonRead
        episodeNumber := episodeRead
        runtimeMinutes := runtimeRead
        rating := ratingRead
        artworkCount := countRead
        groups := pairs
        artwork := rfl }⟩
  · rintro ⟨numerals, groups, listed, reads⟩
    have artworkRead : (readArtworks listed.length).accepts groups.flatten = some metadata.artwork :=
      (readArtworks_iff).mpr ⟨groups, listed, rfl, rfl, reads.groups, reads.artwork⟩
    rw [reads.tokens, headTokens, readMetadata]
    simp only [List.cons_append, List.nil_append, TokenReader.accepts_token_bind,
      TokenReader.accepts_tokenAs_bind reads.source,
      TokenReader.accepts_tokenAs_bind reads.contentKind,
      TokenReader.accepts_tokenAs_bind reads.seasonNumber,
      TokenReader.accepts_tokenAs_bind reads.episodeNumber,
      TokenReader.accepts_tokenAs_bind reads.runtimeMinutes,
      TokenReader.accepts_tokenAs_bind reads.rating,
      TokenReader.accepts_tokenAs_bind reads.artworkCount]
    rw [← List.append_nil groups.flatten, TokenReader.accepts_bind artworkRead]
    rfl

/-! ## Whole payloads -/

def Complete (conversion : DoubleConversion Double) (payload : Bytes)
    (metadata : VdrRecordingMetadata Double) : Prop :=
  ∃ tokens bytes numerals groups listed, payload = payloadPrefix ++ bytes ∧
    TokenReader.Spelled Netstring.uint64Max tokens bytes ∧
    Reads conversion tokens metadata numerals groups listed

theorem complete_readMetadata_iff {conversion : DoubleConversion Double} {bytes : Bytes}
    {metadata : VdrRecordingMetadata Double} :
    (readMetadata conversion).complete Netstring.uint64Max bytes = some metadata ↔
      Complete conversion (payloadPrefix ++ bytes) metadata := by
  rw [TokenReader.complete_iff]
  constructor
  · rintro ⟨tokens, spelled, accepted⟩
    obtain ⟨numerals, groups, listed, reads⟩ := (readMetadata_iff).mp accepted
    exact ⟨tokens, bytes, numerals, groups, listed, rfl, spelled, reads⟩
  · rintro ⟨tokens, others, numerals, groups, listed, same, spelled, reads⟩
    obtain rfl := List.append_cancel_left same
    exact ⟨tokens, spelled, (readMetadata_iff).mpr ⟨numerals, groups, listed, reads⟩⟩

theorem decode_complete {conversion : DoubleConversion Double} {payload : Bytes}
    {metadata : VdrRecordingMetadata Double} (complete : Complete conversion payload metadata) :
    decode conversion payload = metadata := by
  obtain ⟨tokens, bytes, numerals, groups, listed, rfl, spelled, reads⟩ := complete
  have read := (complete_readMetadata_iff).mpr
    ⟨tokens, bytes, numerals, groups, listed, rfl, spelled, reads⟩
  have present : (payloadPrefix ++ bytes).isEmpty = false := rfl
  rw [decode, present, afterHeading_append]
  simp only [read]
  rfl

theorem decode_cases (conversion : DoubleConversion Double) (payload : Bytes) :
    decode conversion payload = {} ∨
      Complete conversion payload (decode conversion payload) := by
  cases headed : afterHeading payloadPrefix payload with
  | none =>
    refine .inl ?_
    unfold decode
    rw [headed]
    exact ite_self _
  | some bytes =>
    have same : payload = payloadPrefix ++ bytes := by
      unfold afterHeading at headed
      split at headed
      · next leading =>
          cases headed
          obtain ⟨rest, rfl⟩ := List.isPrefixOf_iff_prefix.mp leading
          rw [List.drop_left]
      · cases headed
    cases read : (readMetadata conversion).complete Netstring.uint64Max bytes with
    | none =>
      refine .inl ?_
      unfold decode
      rw [headed]
      simp only [read]
      exact ite_self _
    | some metadata =>
      have complete : Complete conversion payload metadata :=
        same ▸ (complete_readMetadata_iff).mp read
      rw [decode_complete complete]
      exact .inr complete

/-! ## What the cache keeps -/

/-- What the types of the source can hold: 32-bit numbers, and texts whose length is a 64-bit
number. -/
structure Representable (conversion : DoubleConversion Double)
    (metadata : VdrRecordingMetadata Double) : Prop where
  tokens : ∀ token ∈ metadataTokens conversion metadata, token.length ≤ Netstring.uint64Max
  seasonNumber : Int32Range metadata.provider.seasonNumber
  episodeNumber : Int32Range metadata.provider.episodeNumber
  runtimeMinutes : Int32Range metadata.provider.runtimeMinutes
  sizes : ∀ artwork ∈ metadata.artwork, Int32Range artwork.width ∧ Int32Range artwork.height
  count : metadata.artwork.length ≤ int64Max

theorem readsArtwork_tokens {artwork : VdrRecordingArtworkRef} (width : Int32Range artwork.width)
    (height : Int32Range artwork.height) : ReadsArtwork (artworkTokens artwork) artwork :=
  ⟨_, _, _, _, _, rfl, parseArtworkKind_code _, parseMetadataSource_code _,
    parseInt_signedDecimal width, parseInt_signedDecimal height, parseTemporary_flag _⟩

theorem readsArtwork_map {listed : List VdrRecordingArtworkRef}
    (sizes : ∀ artwork ∈ listed, Int32Range artwork.width ∧ Int32Range artwork.height) :
    List.Forall₂ ReadsArtwork (listed.map artworkTokens) listed := by
  induction listed with
  | nil => exact .nil
  | cons artwork listed ih =>
    obtain ⟨width, height⟩ := sizes artwork List.mem_cons_self
    exact .cons (readsArtwork_tokens width height)
      (ih fun other member => sizes other (List.mem_cons_of_mem _ member))

def numeralTokens (conversion : DoubleConversion Double) (metadata : VdrRecordingMetadata Double) :
    NumeralTokens :=
  { source := signedDecimal metadata.provider.source.code
    contentKind := signedDecimal metadata.provider.contentKind.code
    seasonNumber := signedDecimal metadata.provider.seasonNumber
    episodeNumber := signedDecimal metadata.provider.episodeNumber
    runtimeMinutes := signedDecimal metadata.provider.runtimeMinutes
    rating := conversion.doubleToken metadata.provider.rating
    artworkCount := signedDecimal metadata.artwork.length }

theorem metadataTokens_eq (conversion : DoubleConversion Double)
    (metadata : VdrRecordingMetadata Double) :
    metadataTokens conversion metadata =
      headTokens (numeralTokens conversion metadata) metadata ++
        (metadata.artwork.map artworkTokens).flatten := by
  rw [← List.flatMap_def]
  rfl

theorem encode_filled {conversion : DoubleConversion Double}
    {metadata : VdrRecordingMetadata Double} (filled : metadataIsEmpty metadata = false) :
    encode conversion metadata =
      payloadPrefix ++ Netstring.countedList (metadataTokens conversion metadata) := by
  rw [encode, filled]
  rfl

theorem encode_complete {conversion : DoubleConversion Double}
    {metadata : VdrRecordingMetadata Double}
    (reads : ∀ rating, conversion.parseDouble (conversion.doubleToken rating) = some rating)
    (representable : Representable conversion metadata) (filled : metadataIsEmpty metadata = false)
    (valid : ∀ artwork ∈ metadata.artwork, artwork.isValid = true)
    (few : metadata.artwork.length ≤ maximumArtworkCount) :
    Complete conversion (encode conversion metadata) metadata := by
  have tokensRead : Reads conversion (metadataTokens conversion metadata) metadata
      (numeralTokens conversion metadata) (metadata.artwork.map artworkTokens) metadata.artwork :=
    { tokens := metadataTokens_eq conversion metadata
      source := parseMetadataSource_code _
      contentKind := parseContentKind_code _
      seasonNumber := parseInt_signedDecimal representable.seasonNumber
      episodeNumber := parseInt_signedDecimal representable.episodeNumber
      runtimeMinutes := parseInt_signedDecimal representable.runtimeMinutes
      rating := reads _
      artworkCount := (parseArtworkCount_length representable.count).trans (if_pos few)
      groups := readsArtwork_map representable.sizes
      artwork := (List.filter_eq_self.mpr valid).symm }
  exact ⟨_, _, _, _, _, encode_filled filled,
    TokenReader.spelled_countedList representable.tokens, tokensRead⟩

theorem decode_encode_overlong {conversion : DoubleConversion Double}
    {metadata : VdrRecordingMetadata Double} (representable : Representable conversion metadata)
    (filled : metadataIsEmpty metadata = false)
    (many : ¬ metadata.artwork.length ≤ maximumArtworkCount) :
    decode conversion (encode conversion metadata) = {} := by
  obtain empty | complete := decode_cases conversion (encode conversion metadata)
  · exact empty
  · obtain ⟨tokens, bytes, numerals, groups, listed, same, spelled, reads⟩ := complete
    rw [encode_filled filled] at same
    obtain rfl := List.append_cancel_left same
    have written := (TokenReader.spelled_countedList representable.tokens).unique spelled
    rw [reads.tokens, metadataTokens_eq, headTokens, headTokens] at written
    simp only [List.cons_append, List.nil_append, List.cons.injEq] at written
    have count : signedDecimal metadata.artwork.length = numerals.artworkCount := by
      obtain ⟨-, -, -, -, -, -, -, -, -, -, -, -, -, -, -, -, -, -, -, -, count, -⟩ := written
      exact count
    have refused := parseArtworkCount_length representable.count
    rw [if_neg many, count, reads.artworkCount] at refused
    cases refused

/-- The cache keeps metadata exactly if it has no more references than the reader admits, and no
payload is read in part. -/
theorem metadata_cached_iff (conversion : DoubleConversion Double)
    (reads : ∀ rating, conversion.parseDouble (conversion.doubleToken rating) = some rating)
    (metadata : VdrRecordingMetadata Double) (representable : Representable conversion metadata)
    (filled : metadataIsEmpty metadata = false)
    (valid : ∀ artwork ∈ metadata.artwork, artwork.isValid = true) :
    (decode conversion (encode conversion metadata) = metadata ↔
        metadata.artwork.length ≤ maximumArtworkCount) ∧
      ∀ payload, decode conversion payload = {} ∨
        Complete conversion payload (decode conversion payload) := by
  refine ⟨⟨?_, ?_⟩, decode_cases conversion⟩
  · intro kept
    by_contra many
    rw [decode_encode_overlong representable filled many] at kept
    rw [← kept] at many
    exact many (Nat.zero_le _)
  · intro few
    exact decode_complete (encode_complete reads representable filled valid few)

def digitConversion : DoubleConversion (Fin 10) where
  doubleToken rating := decimal rating.val
  parseDouble
    | [byte] => if isDigit byte then some (Fin.ofNat 10 (digitValue byte)) else none
    | _ => none

theorem digitConversion_reads (rating : Fin 10) :
    digitConversion.parseDouble (digitConversion.doubleToken rating) = some rating := by
  revert rating
  decide

def posterOf (reference : Bytes) : VdrRecordingArtworkRef :=
  { source := .restfulApiScraperBridge, reference := reference, width := 680, height := 1000 }

/-- A film with two posters comes back from the cache. -/
theorem metadata_cached_iff_posters :
    decode digitConversion (encode digitConversion
        { provider := { source := .restfulApiScraperBridge, contentKind := .movie, rating := 7 }
          artwork := [posterOf (text "front"), posterOf (text "back")] }) =
      { provider := { source := .restfulApiScraperBridge, contentKind := .movie, rating := 7 }
        artwork := [posterOf (text "front"), posterOf (text "back")] } :=
  (metadata_cached_iff digitConversion digitConversion_reads _
    ⟨by decide, by decide, by decide, by decide, by decide, by decide⟩ rfl
    (by decide)).1.mpr (by decide)

def manyPosters : VdrRecordingMetadata (Fin 10) :=
  { artwork := List.replicate 257 (posterOf (text "front")) }

theorem eq_of_mem_manyPosters {artwork : VdrRecordingArtworkRef}
    (member : artwork ∈ manyPosters.artwork) : artwork = posterOf (text "front") :=
  List.eq_of_mem_replicate member

theorem manyPosters_representable : Representable digitConversion manyPosters := by
  have count : manyPosters.artwork.length = 257 := List.length_replicate
  have head : ∀ token ∈ headTokens (numeralTokens digitConversion manyPosters) manyPosters,
      token.length ≤ Netstring.uint64Max := by decide +kernel
  have poster : ∀ token ∈ artworkTokens (posterOf (text "front")),
      token.length ≤ Netstring.uint64Max := by decide
  refine ⟨?_, by decide, by decide, by decide, ?_, by rw [count]; decide⟩
  · intro token member
    rw [metadataTokens_eq, ← List.flatMap_def] at member
    obtain leading | later := List.mem_append.mp member
    · exact head token leading
    · obtain ⟨artwork, listed, inside⟩ := List.mem_flatMap.mp later
      rw [eq_of_mem_manyPosters listed] at inside
      exact poster token inside
  · intro artwork member
    rw [eq_of_mem_manyPosters member]
    decide

/-- 257 posters are written, and nothing of them is read back. -/
theorem metadata_with_many_posters_lost :
    ¬ ∀ metadata : VdrRecordingMetadata (Fin 10), Representable digitConversion metadata →
      metadataIsEmpty metadata = false → (∀ artwork ∈ metadata.artwork, artwork.isValid = true) →
      decode digitConversion (encode digitConversion metadata) = metadata := by
  intro claimed
  have many : ¬ manyPosters.artwork.length ≤ maximumArtworkCount := by
    rw [show manyPosters.artwork.length = 257 from List.length_replicate]
    decide
  have kept := claimed manyPosters manyPosters_representable rfl fun artwork member => by
    rw [eq_of_mem_manyPosters member]
    decide
  rw [decode_encode_overlong manyPosters_representable rfl many] at kept
  cases kept

end VdrSuite.Recordings
