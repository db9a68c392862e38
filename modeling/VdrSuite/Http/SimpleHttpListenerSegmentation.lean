import VdrSuite.Http.SimpleHttpListener
import VdrSuite.Library.SeparatedList

/-! What the request reader makes of a byte stream, whatever its chunks: a request with the
announced body is read from exactly the streams that nothing follows. -/

set_option autoImplicit false

namespace VdrSuite.Http.SimpleHttpListener

open Library Library.Chunks

def receiveBuffer : Nat := 4096

/-! ## The lengths that a header block names -/

def fieldsOf (headerBlock : Bytes) : List (Bytes × Bytes) := headerFields (getLines headerBlock).tail

/-- The number in the last field of the name as the listener spells it; zero if there is none. -/
def announcedLength (headerBlock : Bytes) : Nat :=
  match Table.lookup Prod.fst (text "Content-Length") (fieldsOf headerBlock).reverse with
  | none => 0
  | some field => strtoul field.2

def isBlank (byte : UInt8) : Bool := byte == 32 || byte == 9

def trimmed (value : Bytes) : Bytes :=
  ((value.dropWhile isBlank).reverse.dropWhile isBlank).reverse

def lengthFields (headerBlock : Bytes) : List (Bytes × Bytes) :=
  (fieldsOf headerBlock).filter fun field =>
    field.1.map lowerCase == text "content-length"

/-- The length that a header block gives its body: no field stands for no body, and several fields
give one length only when they agree. -/
def Declares (headerBlock : Bytes) (length : Nat) : Prop :=
  (lengthFields headerBlock = [] ∧ length = 0) ∨
  (lengthFields headerBlock ≠ [] ∧
    ∀ field ∈ lengthFields headerBlock, Numeral (trimmed field.2) length)

/-! ## The two properties -/

/-- Any two ways of cutting a stream into chunks give the same request or the same refusal. -/
def SegmentationFree (stream : Bytes) : Prop :=
  ∀ peer left right, Chunking receiveBuffer stream left → Chunking receiveBuffer stream right →
    prepareRequest peer left = prepareRequest peer right

def BodyDeclared (stream : Bytes) : Prop :=
  ∀ peer chunks request headerBlock rest length, Chunking receiveBuffer stream chunks →
    prepareRequest peer chunks = some request →
    splitAtFirst headerEnd stream = some (headerBlock, rest) → Declares headerBlock length →
    length ≤ rest.length ∧ request.body = rest.take length

/-- Nothing follows the announced body, and no field declares another length. A stream that ends
before its header block or its announced body does is only refused. -/
def EndsAsAnnounced (stream : Bytes) : Prop :=
  ∀ headerBlock rest, splitAtFirst headerEnd stream = some (headerBlock, rest) →
    rest.length < announcedLength headerBlock ∨
    (rest.length = announcedLength headerBlock ∧
      ∀ length, Declares headerBlock length → length = announcedLength headerBlock)

/-! ## The parser and the loops -/

theorem parseHeaderBlock_headers (headerBlock body : Bytes) :
    (parseHeaderBlock headerBlock body).headers = headersOf (fieldsOf headerBlock) := by
  rw [parseHeaderBlock, fieldsOf]
  cases getLines headerBlock <;> rfl

theorem parseHeaderBlock_body (headerBlock body : Bytes) :
    (parseHeaderBlock headerBlock body).body = body := by
  rw [parseHeaderBlock]
  cases getLines headerBlock <;> rfl

theorem contentLength_parseHeaderBlock (headerBlock body : Bytes) :
    contentLength (parseHeaderBlock headerBlock body) = announcedLength headerBlock := by
  rw [contentLength, parseHeaderBlock_headers, headersOf, Table.lookup_upsertAll,
    Table.lookup_nil, Option.or_none]
  rfl

/-- Of a beginning that has the header block, the parser sees the block and a beginning of the
body. -/
theorem parseRequest_beginning {stream headerBlock rest beginning : Bytes}
    (split : splitAtFirst headerEnd stream = some (headerBlock, rest))
    (leading : beginning <+: stream) (long : headerBlock.length + 4 ≤ beginning.length) :
    parseRequest beginning =
      parseHeaderBlock headerBlock (rest.take (beginning.length - (headerBlock.length + 4))) := by
  rw [parseRequest, splitAtFirst_prefix split leading]
  have reached : headerBlock.length + headerEnd.length ≤ beginning.length := long
  simp only [if_pos reached]
  rfl

theorem hasCompleteHeaders_beginning {stream headerBlock rest beginning : Bytes}
    (split : splitAtFirst headerEnd stream = some (headerBlock, rest))
    (leading : beginning <+: stream) :
    hasCompleteHeaders beginning = hasLength (headerBlock.length + 4) beginning := by
  rw [hasCompleteHeaders, splitAtFirst_prefix split leading, hasLength]
  have width : headerEnd.length = 4 := rfl
  rw [width]
  split
  · next long => simp [long]
  · next short => simp [short]

theorem prepareRequest_eq {stream headerBlock rest : Bytes} {chunks : List Bytes} (peer : Peer)
    (split : splitAtFirst headerEnd stream = some (headerBlock, rest))
    (whole : chunks.flatten = stream) :
    prepareRequest peer chunks =
      (receiveUntil (hasLength (headerBlock.length + 4 + announcedLength headerBlock)) []
        chunks).map fun received =>
        { parseHeaderBlock headerBlock
            (rest.take (received.1.length - (headerBlock.length + 4))) with
          peerIsTrustedLan := peer.trustedLan
          peerIsDirectPrivateLan := peer.trustedLan && peer.beyondLoopback } := by
  have heading : receiveUntil hasCompleteHeaders [] chunks =
      receiveUntil (hasLength (headerBlock.length + 4)) [] chunks :=
    receiveUntil_congr fun beginning _ within =>
      hasCompleteHeaders_beginning split (by rw [← whole]; simpa using within)
  have combined := @receiveUntil_bind _ (hasLength (headerBlock.length + 4))
    (hasLength (headerBlock.length + 4 + announcedLength headerBlock))
    (fun received => by simp only [hasLength, decide_eq_true_eq]; omega) [] chunks
  rw [prepareRequest, heading, ← combined]
  cases first : receiveUntil (hasLength (headerBlock.length + 4)) [] chunks with
  | none => rfl
  | some received =>
    obtain ⟨raw, later⟩ := received
    obtain ⟨reached, joined⟩ := of_receiveUntil first
    rw [List.nil_append, whole] at joined
    have long : headerBlock.length + 4 ≤ raw.length := by simpa [hasLength] using reached
    have announced : contentLength (parseRequest raw) = announcedLength headerBlock := by
      rw [parseRequest_beginning split ⟨_, joined⟩ long, contentLength_parseHeaderBlock]
    have waiting : receiveUntil
          (fun raw => hasCompleteBody (parseRequest raw) (announcedLength headerBlock)) raw later =
        receiveUntil (hasLength (headerBlock.length + 4 + announcedLength headerBlock)) raw later := by
      refine receiveUntil_congr fun beginning extends_raw within => ?_
      rw [joined] at within
      have longer := extends_raw.length_le
      have shorter := within.length_le
      have total := congrArg List.length (eq_of_splitAtFirst split)
      have width : headerEnd.length = 4 := rfl
      simp only [List.length_append, width] at total
      rw [parseRequest_beginning split within (by omega), hasCompleteBody, hasLength,
        parseHeaderBlock_body, List.length_take, decide_eq_decide]
      omega
    simp only [announced, waiting, Option.bind_some]
    cases second : receiveUntil
        (hasLength (headerBlock.length + 4 + announcedLength headerBlock)) raw later with
    | none => rfl
    | some received =>
      obtain ⟨stopped, remaining⟩ := received
      obtain ⟨complete, whole_again⟩ := of_receiveUntil second
      rw [joined] at whole_again
      have enough : headerBlock.length + 4 ≤ stopped.length := by
        simp only [hasLength, decide_eq_true_eq] at complete
        omega
      simp only [Option.map_some]
      rw [parseRequest_beginning split ⟨_, whole_again⟩ enough]

theorem prepareRequest_headless {stream : Bytes} {chunks : List Bytes} (peer : Peer)
    (headless : splitAtFirst headerEnd stream = none) (whole : chunks.flatten = stream) :
    prepareRequest peer chunks = none := by
  rw [prepareRequest]
  cases received : receiveUntil hasCompleteHeaders [] chunks with
  | none => rfl
  | some outcome =>
    obtain ⟨raw, later⟩ := outcome
    obtain ⟨complete, joined⟩ := of_receiveUntil received
    rw [List.nil_append, whole] at joined
    obtain ⟨pieces, found⟩ := Option.isSome_iff_exists.mp complete
    have longer := splitAtFirst_append later.flatten found
    rw [joined, headless] at longer
    simp at longer

/-! ## When a stream is read in one way -/

theorem prepareRequest_announced {stream headerBlock rest : Bytes} {chunks : List Bytes} (peer : Peer)
    (split : splitAtFirst headerEnd stream = some (headerBlock, rest))
    (whole : chunks.flatten = stream) (ends : rest.length = announcedLength headerBlock) :
    prepareRequest peer chunks =
      some { parseHeaderBlock headerBlock rest with
        peerIsTrustedLan := peer.trustedLan
        peerIsDirectPrivateLan := peer.trustedLan && peer.beyondLoopback } := by
  have total := congrArg List.length (eq_of_splitAtFirst split)
  have width : headerEnd.length = 4 := rfl
  simp only [List.length_append, width] at total
  obtain ⟨later, received⟩ := @receiveUntil_exact _
    (headerBlock.length + 4 + announcedLength headerBlock) chunks (by rw [whole]; omega)
  rw [prepareRequest_eq peer split whole, received, whole, Option.map_some]
  have body : rest.take (stream.length - (headerBlock.length + 4)) = rest :=
    List.take_of_length_le (by omega)
  simp only [body]

theorem prepareRequest_cut {stream headerBlock rest : Bytes} {chunks : List Bytes} (peer : Peer)
    (split : splitAtFirst headerEnd stream = some (headerBlock, rest))
    (whole : chunks.flatten = stream) (cut : rest.length < announcedLength headerBlock) :
    prepareRequest peer chunks = none := by
  have total := congrArg List.length (eq_of_splitAtFirst split)
  have width : headerEnd.length = 4 := rfl
  simp only [List.length_append, width] at total
  rw [prepareRequest_eq peer split whole, receiveUntil_short (by rw [whole]; omega), Option.map_none]

/-- When bytes follow the announced body, the chunk that ends it decides how many of them are taken
for the body. -/
theorem prepareRequest_surplus {stream headerBlock rest : Bytes} (peer : Peer)
    (split : splitAtFirst headerEnd stream = some (headerBlock, rest))
    (surplus : announcedLength headerBlock < rest.length) (width : Nat) (positive : 0 < width) :
    (prepareRequest peer
        (mergedAt (headerBlock.length + 3 + announcedLength headerBlock) width stream)).map
          (·.body) = some (rest.take (announcedLength headerBlock + (width - 1))) := by
  have total := congrArg List.length (eq_of_splitAtFirst split)
  have four : headerEnd.length = 4 := rfl
  simp only [List.length_append, four] at total
  have within : headerBlock.length + 3 + announcedLength headerBlock < stream.length := by omega
  obtain ⟨later, received⟩ := receiveUntil_mergedAt positive within
  have wanted : headerBlock.length + 3 + announcedLength headerBlock + 1 =
      headerBlock.length + 4 + announcedLength headerBlock := by omega
  rw [wanted] at received
  have whole : (mergedAt (headerBlock.length + 3 + announcedLength headerBlock) width
      stream).flatten = stream := (chunking_mergedAt positive (Nat.le_refl width) within).whole
  rw [prepareRequest_eq peer split whole, received, Option.map_some, Option.map_some,
    parseHeaderBlock_body, List.length_take, Option.some.injEq, List.take_eq_take_iff]
  omega

/-- Requests are read in one way, with the declared body, from exactly the streams that end as they
announce. -/
theorem segmentation_free_iff (stream : Bytes) :
    SegmentationFree stream ∧ BodyDeclared stream ↔ EndsAsAnnounced stream := by
  constructor
  · rintro ⟨free, declared⟩ headerBlock rest split
    rcases Nat.lt_trichotomy rest.length (announcedLength headerBlock) with cut | ends | surplus
    · exact .inl cut
    · refine .inr ⟨ends, fun length declares => ?_⟩
      have one_way := chunking_pieces (by decide : 0 < receiveBuffer) stream
      have read := prepareRequest_announced ⟨false, false⟩ split one_way.whole ends
      obtain ⟨bounded, body⟩ := declared _ _ _ headerBlock rest length one_way read split declares
      have whole : rest = rest.take length := by
        rw [← body]
        exact (parseHeaderBlock_body headerBlock rest).symm
      have lengths := congrArg List.length whole
      rw [List.length_take] at lengths
      omega
    · have total := congrArg List.length (eq_of_splitAtFirst split)
      have four : headerEnd.length = 4 := rfl
      simp only [List.length_append, four] at total
      have within : headerBlock.length + 3 + announcedLength headerBlock < stream.length := by omega
      have same := free ⟨false, false⟩ _ _
        (chunking_mergedAt (by decide : 0 < 1) (by decide) within)
        (chunking_mergedAt (by decide : 0 < 2) (by decide) within)
      have bodies := congrArg (Option.map (·.body)) same
      rw [prepareRequest_surplus _ split surplus 1 (by decide),
        prepareRequest_surplus _ split surplus 2 (by decide), Option.some.injEq] at bodies
      have lengths := congrArg List.length bodies
      simp only [List.length_take] at lengths
      omega
  · intro ends
    constructor
    · intro peer left right leftChunks rightChunks
      cases split : splitAtFirst headerEnd stream with
      | none =>
        rw [prepareRequest_headless peer split leftChunks.whole,
          prepareRequest_headless peer split rightChunks.whole]
      | some pieces =>
        obtain ⟨headerBlock, rest⟩ := pieces
        rcases ends headerBlock rest split with cut | ⟨exact_end, -⟩
        · rw [prepareRequest_cut peer split leftChunks.whole cut,
            prepareRequest_cut peer split rightChunks.whole cut]
        · rw [prepareRequest_announced peer split leftChunks.whole exact_end,
            prepareRequest_announced peer split rightChunks.whole exact_end]
    · intro peer chunks request headerBlock rest length chunking read split declares
      rcases ends headerBlock rest split with cut | ⟨exact_end, only⟩
      · rw [prepareRequest_cut peer split chunking.whole cut] at read
        simp at read
      · rw [prepareRequest_announced peer split chunking.whole exact_end, Option.some.injEq] at read
        rw [only length declares, ← exact_end, ← read, List.take_length]
        exact ⟨Nat.le_refl _, parseHeaderBlock_body headerBlock rest⟩

/-- One byte after the announced body is part of the body or is not, as the chunks have it; and a
length in lower case is not waited for. -/
theorem surplus_read_by_chunks :
    ¬ SegmentationFree (text "POST /a HTTP/1.1\r\nContent-Length: 1\r\n\r\nab") ∧
      ¬ BodyDeclared (text "POST /a HTTP/1.1\r\ncontent-length: 1\r\n\r\na") := by
  constructor
  · intro free
    have same := free ⟨false, false⟩
      [text "POST /a HTTP/1.1\r\nContent-Length: 1\r\n\r\na", text "b"]
      [text "POST /a HTTP/1.1\r\nContent-Length: 1\r\n\r\nab"] ⟨by decide, by decide⟩
      ⟨by decide, by decide⟩
    exact absurd same (by decide)
  · intro declared
    have fields : lengthFields (text "POST /a HTTP/1.1\r\ncontent-length: 1") =
        [(text "content-length", text "1")] := by decide
    have declares : Declares (text "POST /a HTTP/1.1\r\ncontent-length: 1") 1 := by
      refine .inr ⟨by rw [fields]; simp, fun field member => ?_⟩
      rw [fields] at member
      rw [List.mem_singleton.mp member]
      exact ⟨by decide, by decide, by decide⟩
    have read := declared ⟨false, false⟩
      [text "POST /a HTTP/1.1\r\ncontent-length: 1\r\n\r\n", text "a"]
      { method := text "POST", path := text "/a", headers := [(text "content-length", text "1")] }
      _ (text "a") 1 ⟨by decide, by decide⟩ (by decide) (by decide) declares
    exact absurd read.2 (by decide)

end VdrSuite.Http.SimpleHttpListener
