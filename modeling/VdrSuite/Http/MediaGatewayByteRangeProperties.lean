import VdrSuite.Http.MediaGatewayByteRanges
import VdrSuite.Library.Numerals
import VdrSuite.Library.SeparatedList

/-! The ranges that the media gateway reads from a header, and what a partial response shows of an
unchanging recording. -/

set_option autoImplicit false

namespace VdrSuite.Http.MediaGateway

open Library Media

/-! ## Single byte ranges -/

inductive ByteRangeRequest where
  | bounded (first last : Nat)
  | openEnded (first : Nat)
  | suffix (count : Nat)
  deriving DecidableEq

inductive Spells : Bytes → ByteRangeRequest → Prop where
  | bounded {firstText lastText : Bytes} {first last : Nat} (start : Numeral firstText first)
      (stop : Numeral lastText last) :
      Spells (text "bytes=" ++ (firstText ++ 45 :: lastText)) (.bounded first last)
  | openEnded {firstText : Bytes} {first : Nat} (start : Numeral firstText first) :
      Spells (text "bytes=" ++ (firstText ++ [45])) (.openEnded first)
  | suffix {lastText : Bytes} {count : Nat} (counted : Numeral lastText count) :
      Spells (text "bytes=" ++ 45 :: lastText) (.suffix count)

namespace ByteRangeRequest

def firstByte (length : Nat) : ByteRangeRequest → Nat
  | .bounded first _ => first
  | .openEnded first => first
  | .suffix count => length - count

def lastByte (length : Nat) : ByteRangeRequest → Nat
  | .bounded _ last => last
  | .openEnded _ => length - 1
  | .suffix _ => length - 1

def Satisfiable (length : Nat) : ByteRangeRequest → Prop
  | .bounded first last => first < length ∧ first ≤ last
  | .openEnded first => first < length
  | .suffix count => 0 < count ∧ 0 < length

/-- Every number of the range is below `2 ^ 64`. -/
def Representable : ByteRangeRequest → Prop
  | .bounded first last => first ≤ Netstring.uint64Max ∧ last ≤ Netstring.uint64Max
  | .openEnded first => first ≤ Netstring.uint64Max
  | .suffix count => count ≤ Netstring.uint64Max

theorem Satisfiable.ordered {length : Nat} {request : ByteRangeRequest}
    (satisfiable : request.Satisfiable length) :
    request.firstByte length ≤ min (request.lastByte length) (length - 1) := by
  cases request with
  | bounded first last =>
    obtain ⟨inside, ordered⟩ := satisfiable
    simp only [firstByte, lastByte]
    omega
  | openEnded first =>
    have inside : first < length := satisfiable
    simp only [firstByte, lastByte]
    omega
  | suffix count =>
    obtain ⟨nonzero, positive⟩ := satisfiable
    simp only [firstByte, lastByte]
    omega

end ByteRangeRequest

theorem decimalValue_iff {written : Bytes} {number : Nat} :
    decimalValue written = some number ↔ Numeral written number ∧ number ≤ Netstring.uint64Max :=
  parseDecimal_iff (by decide)

theorem notMem_header {firstText lastText : Bytes} (firstFree : (44 : UInt8) ∉ firstText)
    (lastFree : (44 : UInt8) ∉ lastText) :
    (44 : UInt8) ∉ text "bytes=" ++ (firstText ++ 45 :: lastText) := by
  rw [List.mem_append, List.mem_append, List.mem_cons]
  rintro (heading | first | dash | last)
  · exact absurd heading (by decide)
  · exact firstFree first
  · exact absurd dash (by decide)
  · exact lastFree last

theorem suffixRange_valid_iff {lastText : Bytes} {length first last : Nat} :
    suffixRange lastText length = { state := .valid, first := first, last := last } ↔
      ∃ count, Numeral lastText count ∧ count ≤ Netstring.uint64Max ∧ 0 < count ∧
        first = length - count ∧ last = length - 1 := by
  rw [suffixRange]
  cases read : decimalValue lastText with
  | none =>
    simp only [ByteRange.mk.injEq, reduceCtorEq, false_and, false_iff]
    rintro ⟨count, numeral, fits, -⟩
    rw [(decimalValue_iff).mpr ⟨numeral, fits⟩] at read
    simp at read
  | some suffixLength =>
    obtain ⟨numeral, fits⟩ := (decimalValue_iff).mp read
    have same : ∀ {count}, Numeral lastText count → count = suffixLength :=
      fun other => other.2.2.symm.trans numeral.2.2
    dsimp only
    by_cases zero : suffixLength = 0
    · rw [if_pos zero]
      simp only [ByteRange.mk.injEq, reduceCtorEq, false_and, false_iff]
      rintro ⟨count, other, -, nonzero, -⟩
      rw [same other, zero] at nonzero
      exact absurd nonzero (Nat.lt_irrefl 0)
    · have start : (if suffixLength ≥ length then 0 else length - suffixLength) =
          length - suffixLength := by
        split <;> omega
      rw [if_neg zero, start, ByteRange.mk.injEq]
      constructor
      · rintro ⟨-, rfl, rfl⟩
        exact ⟨suffixLength, numeral, fits, Nat.pos_of_ne_zero zero, rfl, rfl⟩
      · rintro ⟨count, other, -, -, rfl, rfl⟩
        rw [same other]
        exact ⟨rfl, rfl, rfl⟩

theorem boundedRange_valid_iff {firstText lastText : Bytes} {length first last : Nat} :
    boundedRange firstText lastText length = { state := .valid, first := first, last := last } ↔
      Numeral firstText first ∧ first ≤ Netstring.uint64Max ∧ first < length ∧
        ((lastText = [] ∧ last = length - 1) ∨
          ∃ requested, Numeral lastText requested ∧ requested ≤ Netstring.uint64Max ∧
            first ≤ requested ∧ last = min requested (length - 1)) := by
  rw [boundedRange]
  cases read : decimalValue firstText with
  | none =>
    simp only [ByteRange.mk.injEq, reduceCtorEq, false_and, false_iff]
    rintro ⟨numeral, fits, -⟩
    rw [(decimalValue_iff).mpr ⟨numeral, fits⟩] at read
    simp at read
  | some start =>
    obtain ⟨numeral, fits⟩ := (decimalValue_iff).mp read
    have same : ∀ {number}, Numeral firstText number → number = start :=
      fun other => other.2.2.symm.trans numeral.2.2
    dsimp only
    split
    · simp only [ByteRange.mk.injEq, reduceCtorEq, false_and, false_iff]
      rintro ⟨other, -, inside, -⟩
      have := same other
      omega
    · next inside =>
      split
      · next nothing =>
        rw [List.isEmpty_iff] at nothing
        rw [ByteRange.mk.injEq]
        constructor
        · rintro ⟨-, rfl, rfl⟩
          exact ⟨numeral, fits, by omega, .inl ⟨nothing, rfl⟩⟩
        · rintro ⟨other, -, -, ⟨-, rfl⟩ | ⟨requested, stop, -⟩⟩
          · exact ⟨rfl, (same other).symm, rfl⟩
          · exact absurd nothing stop.1
      · next some =>
        rw [List.isEmpty_iff] at some
        cases ending : decimalValue lastText with
        | none =>
          simp only [ByteRange.mk.injEq, reduceCtorEq, false_and, false_iff]
          rintro ⟨-, -, -, ⟨nothing, -⟩ | ⟨requested, stop, small, -⟩⟩
          · exact some nothing
          · rw [(decimalValue_iff).mpr ⟨stop, small⟩] at ending
            simp at ending
        | some asked =>
          obtain ⟨stop, small⟩ := (decimalValue_iff).mp ending
          have sameLast : ∀ {number}, Numeral lastText number → number = asked :=
            fun other => other.2.2.symm.trans stop.2.2
          dsimp only
          split
          · next inverted =>
            simp only [ByteRange.mk.injEq, reduceCtorEq, false_and, false_iff]
            rintro ⟨other, -, -, ⟨nothing, -⟩ | ⟨requested, another, -, ordered, -⟩⟩
            · exact some nothing
            · have := same other
              have := sameLast another
              omega
          · next ordered =>
            have clipped : (if asked ≥ length then length - 1 else asked) =
                min asked (length - 1) := by
              split <;> omega
            rw [clipped, ByteRange.mk.injEq]
            constructor
            · rintro ⟨-, rfl, rfl⟩
              exact ⟨numeral, fits, by omega, .inr ⟨asked, stop, small, by omega, rfl⟩⟩
            · rintro ⟨other, -, -, ⟨nothing, -⟩ | ⟨requested, another, -, -, rfl⟩⟩
              · exact absurd nothing some
              · rw [same other, sameLast another]
                exact ⟨rfl, rfl, rfl⟩

theorem parse_split {header : Bytes} {length : Nat} (positive : 0 < length)
    {firstText lastText : Bytes} (whole : header = text "bytes=" ++ (firstText ++ 45 :: lastText))
    (firstFree : (45 : UInt8) ∉ firstText) (lastFree : (45 : UInt8) ∉ lastText)
    (comma : (44 : UInt8) ∉ header) :
    parseSingleByteRange header length =
      if firstText.isEmpty then suffixRange lastText length
      else boundedRange firstText lastText length := by
  have split : splitAtFirst [45] (firstText ++ 45 :: lastText) = some (firstText, lastText) :=
    splitAtFirst_singleton_iff.mpr ⟨rfl, firstFree⟩
  have heading : afterHeading (text "bytes=") header = some (firstText ++ 45 :: lastText) := by
    rw [whole, afterHeading_append]
  have proper : ¬ ((44 : UInt8) ∈ header ∨ length = 0) := by
    rintro (member | zero)
    · exact comma member
    · exact absurd positive (by simp [zero])
  rw [parseSingleByteRange]
  simp only [heading, if_neg proper, split, if_neg lastFree]

theorem exists_split_of_valid {header : Bytes} {length first last : Nat}
    (valid : parseSingleByteRange header length =
      { state := .valid, first := first, last := last }) :
    0 < length ∧ (44 : UInt8) ∉ header ∧ ∃ firstText lastText,
      header = text "bytes=" ++ (firstText ++ 45 :: lastText) ∧
      (45 : UInt8) ∉ firstText ∧ (45 : UInt8) ∉ lastText := by
  rw [parseSingleByteRange] at valid
  cases heading : afterHeading (text "bytes=") header with
  | none => simp [heading] at valid
  | some spec =>
    simp only [heading] at valid
    split at valid
    · simp at valid
    · next proper =>
      cases split : splitAtFirst [45] spec with
      | none => simp [split] at valid
      | some pieces =>
        obtain ⟨firstText, lastText⟩ := pieces
        obtain ⟨rfl, firstFree⟩ := splitAtFirst_singleton_iff.mp split
        simp only [split] at valid
        split at valid
        · simp at valid
        · next lastFree =>
          have whole : header = text "bytes=" ++ (firstText ++ 45 :: lastText) := by
            rw [afterHeading] at heading
            split at heading
            · next starts =>
              obtain ⟨rest, rfl⟩ := List.isPrefixOf_iff_prefix.mp starts
              rw [List.drop_left, Option.some.injEq] at heading
              rw [heading]
            · simp at heading
          exact ⟨Nat.pos_of_ne_zero fun zero => proper (.inr zero),
            fun member => proper (.inl member), firstText, lastText, whole, firstFree, lastFree⟩

theorem parseSingleByteRange_valid_iff {header : Bytes} {length first last : Nat} :
    parseSingleByteRange header length = { state := .valid, first := first, last := last } ↔
      ∃ request, Spells header request ∧ request.Satisfiable length ∧ request.Representable ∧
        first = request.firstByte length ∧ last = min (request.lastByte length) (length - 1) := by
  constructor
  · intro valid
    obtain ⟨positive, comma, firstText, lastText, whole, firstFree, lastFree⟩ :=
      exists_split_of_valid valid
    rw [parse_split positive whole firstFree lastFree comma] at valid
    rw [whole]
    cases firstText with
    | nil =>
      obtain ⟨count, numeral, fits, nonzero, start, stop⟩ :=
        (suffixRange_valid_iff).mp valid
      exact ⟨.suffix count, .suffix numeral, ⟨nonzero, positive⟩, fits, start,
        stop.trans (Nat.min_self _).symm⟩
    | cons digit digits =>
      obtain ⟨numeral, fits, inside, ⟨rfl, stop⟩ | ⟨requested, ending, small, ordered, stop⟩⟩ :=
        (boundedRange_valid_iff).mp valid
      · exact ⟨.openEnded first, .openEnded numeral, inside, fits, rfl,
          stop.trans (Nat.min_self _).symm⟩
      · exact ⟨.bounded first requested, .bounded numeral ending, ⟨inside, ordered⟩,
          ⟨fits, small⟩, rfl, stop⟩
  · rintro ⟨request, spelled, satisfiable, fits, rfl, rfl⟩
    cases spelled with
    | @bounded firstText lastText first last start stop =>
      rw [parse_split (Nat.lt_of_le_of_lt (Nat.zero_le _) satisfiable.1) rfl
        (start.notMem (by decide)) (stop.notMem (by decide))
        (notMem_header (start.notMem (by decide)) (stop.notMem (by decide))),
        if_neg (by simpa using start.1)]
      exact (boundedRange_valid_iff).mpr ⟨start, fits.1, satisfiable.1,
        .inr ⟨last, stop, fits.2, satisfiable.2, rfl⟩⟩
    | @openEnded firstText first start =>
      rw [parse_split (Nat.lt_of_le_of_lt (Nat.zero_le _) satisfiable) rfl
        (start.notMem (by decide)) List.not_mem_nil
        (notMem_header (start.notMem (by decide)) List.not_mem_nil),
        if_neg (by simpa using start.1)]
      exact (boundedRange_valid_iff).mpr ⟨start, fits, satisfiable, .inl ⟨rfl, Nat.min_self _⟩⟩
    | @suffix lastText count counted =>
      change parseSingleByteRange (text "bytes=" ++ ([] ++ 45 :: lastText)) length = _
      rw [parse_split satisfiable.2 rfl List.not_mem_nil
        (counted.notMem (by decide))
        (notMem_header List.not_mem_nil (counted.notMem (by decide)))]
      exact (suffixRange_valid_iff).mpr
        ⟨count, counted, fits, satisfiable.1, rfl, Nat.min_self _⟩

/-! ## Partial content -/

structure Unchanging (contents : Nat → Bytes) (files : RecordingFiles) : Prop where
  opened : ∀ position, (files.opened position).contents = contents position
  sizes : ∀ position status,
    files.lookedUp.listed position = some status ∨ files.before.listed position = some status ∨
      (files.opened position).listed = some status ∨ files.after.listed position = some status →
    status.regular = true → status.size = (contents position).length

def recordingContent (entry : DirectSourceEntry) (contents : Nat → Bytes) : Bytes :=
  entry.segmentPaths.zipIdx.flatMap fun segment => contents segment.2

def ShowsRange (content header : Bytes) (response : HttpServerResponse) : Prop :=
  ∃ request last, Spells header request ∧ request.Satisfiable content.length ∧
    request.firstByte content.length ≤ last ∧ last ≤ request.lastByte content.length ∧
    last < content.length ∧
    response.body = window (request.firstByte content.length)
      (last - request.firstByte content.length + 1) content ∧
    List.lookup (text "Content-Range") response.headers =
      some (contentRange (request.firstByte content.length) last content.length)

theorem inspectSegments_readableBytes {directory : SourcePath} {listed : Nat → Option FileStatus}
    {contents : Nat → Bytes}
    (sizes : ∀ position status, listed position = some status → status.regular = true →
      status.size = (contents position).length)
    {segments : List (SourcePath × Nat)} {counted : Nat} {written : Bytes} {result : Nat × Bytes}
    (inspected : inspectSegments directory listed segments counted written = .ok result) :
    result.1 = counted + (segments.flatMap fun segment => contents segment.2).length := by
  induction segments generalizing counted written with
  | nil =>
    cases inspected
    simp
  | cons segment segments ih =>
    obtain ⟨path, position⟩ := segment
    rw [inspectSegments] at inspected
    split at inspected
    · simp at inspected
    · cases observed : listed position with
      | none => simp [observed] at inspected
      | some status =>
        simp only [observed] at inspected
        split at inspected
        · simp at inspected
        · next regular =>
          split at inspected
          · simp at inspected
          · have exact := sizes position status observed (by simp_all)
            rw [ih inspected, exact, Int.toNat_natCast, List.flatMap_cons, List.length_append,
              Nat.add_assoc]

theorem validate_readableBytes {entry : DirectSourceEntry} {inspection : SourceInspection}
    {contents : Nat → Bytes}
    (sizes : ∀ position status, inspection.listed position = some status →
      status.regular = true → status.size = (contents position).length)
    (available : (entry.validate inspection).available = true) :
    (entry.validate inspection).readableBytes = (recordingContent entry contents).length := by
  have inspected : (inspectRecordingSource entry.recordingDirectory entry.segmentPaths
      inspection).valid = true → (inspectRecordingSource entry.recordingDirectory
        entry.segmentPaths inspection).readableBytes = (recordingContent entry contents).length := by
    rw [inspectRecordingSource]
    split
    · simp
    · cases walked : inspectSegments entry.recordingDirectory inspection.listed
          entry.segmentPaths.zipIdx 0
          (text "v1|directory=" ++ Netstring.counted entry.recordingDirectory.normal) with
      | error reasonCode => simp
      | ok result =>
        have total := inspectSegments_readableBytes sizes walked
        rw [Nat.zero_add] at total
        cases inspection.timerMarker <;> simp [total, recordingContent]
  rw [DirectSourceEntry.validate] at available ⊢
  split at available
  · simp at available
  · next valid =>
    split at available
    · simp at available
    · next settled =>
      split at available
      · simp at available
      · next same =>
        rw [if_neg valid, if_neg settled, if_neg same]
        exact inspected (by simpa using valid)

theorem jsonError_statusCode (statusCode : Nat) (code : String) :
    (jsonError statusCode code).statusCode = statusCode := rfl

theorem rangeError_statusCode (statusCode : Nat) (code : String) (readableBytes : Nat) :
    (rangeError statusCode code readableBytes).statusCode = statusCode := rfl

theorem readError_statusCode (reasonCode : String) (readableBytes : Nat) :
    (readError reasonCode readableBytes).statusCode ≠ 206 := by
  rw [readError]
  split
  · rw [rangeError_statusCode]
    decide
  · split
    · rw [jsonError_statusCode]
      decide
    · rw [jsonError_statusCode]
      decide

theorem registry_read_exact {registry : RecordingDirectSourceRegistry} {sessionId : Bytes}
    {entry : DirectSourceEntry} {contents : Nat → Bytes} {files : RecordingFiles}
    {offset requestedBytes : Nat} {result : RecordingByteReadResult}
    (unchanging : Unchanging contents files) (found : List.lookup sessionId registry = some entry)
    (returned : registry.read sessionId files offset requestedBytes = some result)
    (success : result.success = true) :
    ∃ read, ExactRead (recordingContent entry contents) offset requestedBytes read ∧
      result.bytes = read.bytes := by
  have shown : (entry.catalog files.opened).Unchanging (recordingContent entry contents) := by
    refine ⟨?_, ?_⟩
    · rw [recordingContent, List.flatMap_map]
      exact List.flatMap_congr fun segment _ => (unchanging.opened segment.2).symm
    · intro listed member status observed regular
      obtain ⟨segment, -, rfl⟩ := List.mem_map.mp member
      rw [unchanging.sizes segment.2 status (.inr (.inr (.inl observed))) regular]
      exact congrArg _ (congrArg _ (unchanging.opened segment.2).symm)
  rw [RecordingDirectSourceRegistry.read, found] at returned
  dsimp only at returned
  split at returned
  · cases returned
    simp at success
  · cases read : (SegmentedRecordingByteSource.make false).read (entry.catalog files.opened) offset
        requestedBytes with
    | none => simp [read] at returned
    | some read_result =>
      simp only [read] at returned
      split at returned
      · next failed =>
        cases returned
        rw [failed] at success
        simp at success
      · next succeeded =>
        have exact := SegmentedRecordingByteSource.read_exact shown read (by simpa using succeeded)
        split at returned
        · cases returned
          simp at success
        · cases returned
          exact ⟨read_result, exact, rfl⟩

/-- A partial response to a valid range shows what the registry has read from the first byte. -/
theorem valid_range_shows {registry : RecordingDirectSourceRegistry} {sessionId header : Bytes}
    {entry : DirectSourceEntry} {contents : Nat → Bytes} {files : RecordingFiles}
    {first last : Nat} {response : HttpServerResponse}
    (unchanging : Unchanging contents files) (found : List.lookup sessionId registry = some entry)
    (parsed : parseSingleByteRange header (recordingContent entry contents).length =
      { state := .valid, first := first, last := last })
    (answered : (match registry.read sessionId files first (last - first + 1) with
      | none => none
      | some read =>
        if read.success = false ∨ read.bytes.isEmpty then
          some (readError read.reasonCode (recordingContent entry contents).length)
        else some (partialContent first (recordingContent entry contents).length read.bytes)) =
      some response)
    (partial_content : response.statusCode = 206) :
    ShowsRange (recordingContent entry contents) header response := by
  obtain ⟨requested, spelled, satisfiable, -, starts, ends⟩ :=
    (parseSingleByteRange_valid_iff).mp parsed
  cases returned : registry.read sessionId files first (last - first + 1) with
  | none => simp [returned] at answered
  | some read =>
    simp only [returned] at answered
    split at answered
    · cases answered
      exact absurd partial_content (readError_statusCode _ _)
    · next succeeded =>
      rw [not_or, Bool.not_eq_false, List.isEmpty_iff] at succeeded
      obtain ⟨exact_read, exact, same⟩ := registry_read_exact unchanging found returned succeeded.1
      have ordered := satisfiable.ordered
      rw [← starts, ← ends] at ordered
      have nonempty : 0 < read.bytes.length := List.length_pos_iff.mpr succeeded.2
      have shows := exact.bytes
      have bounded := exact.bounded
      have inside := exact.inside
      rw [exact.nextOffset] at inside
      rw [← same] at shows bounded inside
      cases answered
      refine ⟨requested, first + read.bytes.length - 1, spelled, satisfiable, ?_⟩
      rw [← starts]
      refine ⟨by omega, by omega, by omega, ?_, rfl⟩
      have width : first + read.bytes.length - 1 - first + 1 = read.bytes.length := by omega
      rw [width]
      exact shows

theorem partial_content_shows {directSourceRegistry : Option RecordingDirectSourceRegistry}
    {presentationProfileId sessionId : Bytes} {request : HttpServerRequest} {files : RecordingFiles}
    {contents : Nat → Bytes} {response : HttpServerResponse}
    (unchanging : Unchanging contents files)
    (answered : recordingDirectResponse directSourceRegistry presentationProfileId sessionId request
      files = some response)
    (partial_content : response.statusCode = 206) :
    ∃ registry entry, directSourceRegistry = some registry ∧
      List.lookup sessionId registry = some entry ∧
      ShowsRange (recordingContent entry contents) (headerValue request (text "Range")) response := by
  rw [recordingDirectResponse.eq_def] at answered
  split at answered
  · cases answered
    simp [jsonError_statusCode] at partial_content
  · cases directSourceRegistry with
    | none =>
      cases answered
      simp [jsonError_statusCode] at partial_content
    | some registry =>
      dsimp only at answered
      split at answered
      · cases answered
        simp [jsonError_statusCode] at partial_content
      · next available =>
        cases found : List.lookup sessionId registry with
        | none => simp [RecordingDirectSourceRegistry.lookup, found] at available
        | some entry =>
          refine ⟨registry, entry, rfl, found, ?_⟩
          have total : (registry.lookup sessionId files).readableBytes =
              (recordingContent entry contents).length := by
            rw [RecordingDirectSourceRegistry.lookup, found] at available ⊢
            exact validate_readableBytes
              (fun position status observed =>
                unchanging.sizes position status (.inl observed))
              (by simpa using available)
          split at answered
          · cases answered
            simp [rangeError_statusCode] at partial_content
          · rw [total] at answered
            generalize parsed : parseSingleByteRange (headerValue request (text "Range"))
                (recordingContent entry contents).length = range at answered
            obtain ⟨state, first, last⟩ := range
            cases state with
            | malformed =>
              cases answered
              simp [rangeError_statusCode] at partial_content
            | unsatisfiable =>
              cases answered
              simp [rangeError_statusCode] at partial_content
            | valid =>
              exact valid_range_shows unchanging found parsed answered partial_content

/-! ## The results together -/

/-- Reads and ranges of unchanging recordings are exact. -/
theorem recording_ranges_exact :
    (∀ (source : SegmentedRecordingByteSource) (catalog : SegmentCatalog) (content : Bytes)
      (offset requestedBytes : Nat) (result : RecordingByteReadResult),
      catalog.Unchanging content → source.read catalog offset requestedBytes = some result →
      result.success = true → ExactRead content offset requestedBytes result) ∧
    (∀ (source : SegmentedRecordingByteSource) (content : Bytes)
      (reads : List (SegmentCatalog × Nat)) (followed : FollowedReads),
      (∀ read ∈ reads, read.1.Unchanging content) → source.follow reads 0 = some followed →
      (followed.ended = true → followed.gathered = content) ∧
      ((∀ read ∈ reads, 0 < read.2) → content.length < reads.length → followed.ended = true)) ∧
    (∀ (source : SegmentedRecordingByteSource) (content : Bytes)
      (reads : List (SegmentCatalog × Nat)), content.length ≤ Netstring.uint64Max →
      (∀ read ∈ reads, read.1.Intact content ∧ 0 < read.2) → content.length < reads.length →
      ∃ followed, source.follow reads 0 = some followed ∧ followed.ended = true ∧
        followed.gathered = content) ∧
    (∀ (directSourceRegistry : Option RecordingDirectSourceRegistry)
      (presentationProfileId sessionId : Bytes) (request : HttpServerRequest)
      (files : RecordingFiles) (contents : Nat → Bytes) (response : HttpServerResponse),
      Unchanging contents files →
      recordingDirectResponse directSourceRegistry presentationProfileId sessionId request files =
        some response →
      response.statusCode = 206 →
      ∃ registry entry, directSourceRegistry = some registry ∧
        List.lookup sessionId registry = some entry ∧
        ShowsRange (recordingContent entry contents) (headerValue request (text "Range"))
          response) ∧
    (∀ (header : Bytes) (length : Nat), 0 < length →
      ((parseSingleByteRange header length).state = .valid ↔
        ∃ request, Spells header request ∧ request.Satisfiable length ∧
          request.Representable)) := by
  refine ⟨?_, ?_, ?_, ?_, ?_⟩
  · intro source catalog content offset requestedBytes result unchanging returned success
    exact SegmentedRecordingByteSource.read_exact unchanging returned success
  · intro source content reads followed unchanging result
    obtain ⟨-, whole, terminates⟩ := SegmentedRecordingByteSource.follow_exact unchanging result
    exact ⟨whole, terminates⟩
  · intro source content reads fits asked many
    obtain ⟨followed, result⟩ := @SegmentedRecordingByteSource.follow_complete source content reads 0
      (fun read member => (asked read member).1) fits (Nat.zero_le _)
    obtain ⟨-, whole, terminates⟩ := SegmentedRecordingByteSource.follow_exact
      (fun read member => (asked read member).1.unchanging) result
    have ended := terminates (fun read member => (asked read member).2) many
    exact ⟨followed, result, ended, whole ended⟩
  · intro directSourceRegistry presentationProfileId sessionId request files contents response
      unchanging answered partial_content
    exact partial_content_shows unchanging answered partial_content
  · intro header length _
    constructor
    · intro valid
      generalize parsed : parseSingleByteRange header length = range at valid
      obtain ⟨state, first, last⟩ := range
      cases valid
      obtain ⟨request, spelled, satisfiable, fits, -⟩ := (parseSingleByteRange_valid_iff).mp parsed
      exact ⟨request, spelled, satisfiable, fits⟩
    · rintro ⟨request, spelled, satisfiable, fits⟩
      rw [(parseSingleByteRange_valid_iff).mpr ⟨request, spelled, satisfiable, fits, rfl, rfl⟩]

def sampleStatus (size : Int) : FileStatus where
  regular := true
  size := size

def sampleFile (contents : Bytes) (attempts : List ReadAttempt) : FileObservation where
  listed := some (sampleStatus contents.length)
  openedStatus := some (sampleStatus contents.length)
  attempts := attempts
  finalStatus := some (sampleStatus contents.length)
  contents := contents

def sampleCatalog : SegmentCatalog :=
  .entries
    [⟨text "1", sampleFile (text "abc") [.interrupted, .transferred 1, .transferred 9]⟩,
      ⟨text "2", sampleFile [] []⟩, ⟨text "3", sampleFile (text "de") [.transferred 5]⟩]

theorem sampleCatalog_unchanging : sampleCatalog.Unchanging (text "abcde") := by
  refine ⟨by decide, ?_⟩
  intro entry member status observed _
  simp only [List.mem_cons, List.not_mem_nil, or_false] at member
  rcases member with rfl | rfl | rfl <;> cases observed <;> rfl

theorem recording_ranges_exact_sample :
    ∃ result, (SegmentedRecordingByteSource.make false).read sampleCatalog 1 9 = some result ∧
      ExactRead (text "abcde") 1 9 result := by
  cases returned : (SegmentedRecordingByteSource.make false).read sampleCatalog 1 9 with
  | none => exact absurd returned (by decide)
  | some result =>
    have success : result.success = true := by
      have all : ((SegmentedRecordingByteSource.make false).read sampleCatalog 1 9).all
          (·.success) = true := by decide
      rw [returned] at all
      exact all
    exact ⟨result, rfl, (recording_ranges_exact).1 _ _ _ _ _ _ sampleCatalog_unchanging returned
      success⟩

/-- A satisfiable range is not valid when it ends at `2 ^ 64`. -/
theorem large_range_end_refused :
    ¬ ((parseSingleByteRange (text "bytes=0-18446744073709551616") 10).state = .valid ↔
      ∃ request, Spells (text "bytes=0-18446744073709551616") request ∧
        request.Satisfiable 10) := by
  intro classified
  have spelled : Spells (text "bytes=0-18446744073709551616") (.bounded 0 18446744073709551616) :=
    @Spells.bounded (text "0") (text "18446744073709551616") _ _
      ⟨by decide, by decide, by decide⟩ ⟨by decide, by decide, by decide⟩
  have valid := classified.mpr ⟨_, spelled, by decide, by decide⟩
  exact absurd valid (by decide)

end VdrSuite.Http.MediaGateway
