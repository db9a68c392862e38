import VdrSuite.Library.BigEndian

/-! The frames of the local control plane: requests and responses behind fixed big-endian headers. -/

set_option autoImplicit false

namespace VdrSuite.Agent.Control

open Library

/-! ## Registry -/

def magic : UInt32 := 0x56534350
def protocolMajor : UInt16 := 1
def protocolMinor : UInt16 := 0
def requestHeaderBytes : Nat := 32
def responseHeaderBytes : Nat := 32
def maximumRequestPayloadBytes : Nat := 12288
def legacyMaximumRequestPayloadBytes : Nat := 2048
def maximumResponsePayloadBytes : Nat := 131072
def maximumRequestFrameBytes : Nat := requestHeaderBytes + maximumRequestPayloadBytes
def maximumResponseFrameBytes : Nat := responseHeaderBytes + maximumResponsePayloadBytes

structure Operation where
  code : UInt16
  deriving DecidableEq

namespace Operation

def liveCapability : Operation := ⟨1⟩
def capabilityDiscovery : Operation := ⟨8⟩
def osdSnapshot : Operation := ⟨9⟩
def osdInput : Operation := ⟨10⟩
def hbbtvDiscovery : Operation := ⟨11⟩
def hbbtvRuntime : Operation := ⟨12⟩
def hbbtvPresentation : Operation := ⟨13⟩
def hbbtvMedia : Operation := ⟨14⟩
def teletextCapability : Operation := ⟨15⟩
def teletextPage : Operation := ⟨16⟩
def epgMetadata : Operation := ⟨17⟩
def epgArtwork : Operation := ⟨18⟩
def recordingMetadata : Operation := ⟨19⟩
def epgTypeSnapshot : Operation := ⟨20⟩
def searchTimerCasCapability : Operation := ⟨21⟩
def searchTimerCasObserve : Operation := ⟨22⟩
def searchTimerCasExecute : Operation := ⟨23⟩

end Operation

inductive ServiceClass
  | criticalControl
  | interactiveControlRead
  | externalPluginInteractive
  | backgroundProvider
  deriving DecidableEq

def ServiceClass.code : ServiceClass → UInt16
  | .criticalControl => 1
  | .interactiveControlRead => 2
  | .externalPluginInteractive => 3
  | .backgroundProvider => 4

structure Result where
  code : UInt16
  deriving DecidableEq

namespace Result

def success : Result := ⟨0⟩
def internalFailure : Result := ⟨8⟩

def Named (result : Result) : Prop := result.code ≤ internalFailure.code

instance (result : Result) : Decidable result.Named := inferInstanceAs (Decidable (_ ≤ _))

end Result

structure Request where
  major : UInt16 := protocolMajor
  minor : UInt16 := protocolMinor
  operation : Operation := .liveCapability
  requestId : UInt64 := 0
  deadlineNanoseconds : UInt64 := 0
  payload : Bytes := []
  deriving DecidableEq

structure Response where
  major : UInt16 := protocolMajor
  minor : UInt16 := protocolMinor
  result : Result := .internalFailure
  requestId : UInt64 := 0
  replyCode : Int32 := 0
  payload : Bytes := []
  deriving DecidableEq

def knownOperation (operation : Operation) : Bool :=
  decide (1 ≤ operation.code) && decide (operation.code ≤ 23)

def serviceClass (operation : Operation) : ServiceClass :=
  if operation ∈ [Operation.capabilityDiscovery, .osdSnapshot, .osdInput,
      .searchTimerCasCapability, .searchTimerCasObserve] then .interactiveControlRead
  else if operation ∈ [Operation.hbbtvDiscovery, .hbbtvRuntime, .hbbtvPresentation, .hbbtvMedia,
      .teletextCapability, .teletextPage] then .externalPluginInteractive
  else if operation ∈ [Operation.epgMetadata, .epgArtwork, .recordingMetadata,
      .epgTypeSnapshot] then .backgroundProvider
  else .criticalControl

def requestPayloadLimit (operation : Operation) : Nat :=
  if operation = .searchTimerCasExecute then maximumRequestPayloadBytes
  else legacyMaximumRequestPayloadBytes

/-! ## Words -/

def append16 (out : Bytes) (value : UInt16) : Bytes := out ++ BigEndian.bytes 2 value.toNat
def append32 (out : Bytes) (value : UInt32) : Bytes := out ++ BigEndian.bytes 4 value.toNat

def append64 (out : Bytes) (value : UInt64) : Bytes :=
  append32 (append32 out (UInt32.ofNat (value.toNat / 4294967296))) (UInt32.ofNat value.toNat)

def read16 (data : Bytes) (offset : Nat) : Option UInt16 :=
  (BigEndian.field data offset 2).map fun word => UInt16.ofNat (BigEndian.value word)

def read32 (data : Bytes) (offset : Nat) : Option UInt32 :=
  (BigEndian.field data offset 4).map fun word => UInt32.ofNat (BigEndian.value word)

def read64 (data : Bytes) (offset : Nat) : Option UInt64 :=
  match read32 data offset, read32 data (offset + 4) with
  | some high, some low => some (UInt64.ofNat (high.toNat * 4294967296 + low.toNat))
  | _, _ => none

/-! ## Requests -/

def encodeRequest (request : Request) : Option Bytes :=
  if knownOperation request.operation = false ∨ request.requestId = 0 ∨
      request.deadlineNanoseconds = 0 ∨
      request.payload.length > requestPayloadLimit request.operation then none
  else
    let out := append32 [] magic
    let out := append16 out request.major
    let out := append16 out request.minor
    let out := append16 out request.operation.code
    let out := append16 out (serviceClass request.operation).code
    let out := append64 out request.requestId
    let out := append64 out request.deadlineNanoseconds
    let out := append32 out (UInt32.ofNat request.payload.length)
    some (out ++ request.payload)

def decodeRequest (data : Bytes) : Except String Request :=
  if data.length < requestHeaderBytes ∨ data.length > maximumRequestFrameBytes then
    .error "request_frame_size"
  else
    match read32 data 0, read16 data 4, read16 data 6, read16 data 8, read16 data 10,
      read64 data 12, read64 data 20, read32 data 28 with
    | some word, some major, some minor, some operation, some wireClass, some requestId,
        some deadlineNanoseconds, some payloadSize =>
        if word ≠ magic then .error "magic"
        else if major ≠ protocolMajor ∨ minor > protocolMinor then .error "version"
        else if knownOperation ⟨operation⟩ = false ∨
            wireClass ≠ (serviceClass ⟨operation⟩).code then .error "operation_registry"
        else if requestId = 0 ∨ deadlineNanoseconds = 0 then .error "identity_deadline"
        else if payloadSize.toNat > requestPayloadLimit ⟨operation⟩ ∨
            data.length ≠ requestHeaderBytes + payloadSize.toNat then
          .error "request_payload_size"
        else
          .ok
            { major, minor, operation := ⟨operation⟩, requestId, deadlineNanoseconds
              payload := (data.drop requestHeaderBytes).take payloadSize.toNat }
    | _, _, _, _, _, _, _, _ => .error "request_header"

/-! ## Responses -/

def encodeResponse (response : Response) : Option Bytes :=
  if response.requestId = 0 ∨ response.payload.length > maximumResponsePayloadBytes then none
  else
    let out := append32 [] magic
    let out := append16 out response.major
    let out := append16 out response.minor
    let out := append16 out response.result.code
    let out := append16 out 0
    let out := append64 out response.requestId
    let out := append32 out response.replyCode.toUInt32
    let out := append32 out (UInt32.ofNat response.payload.length)
    let out := append32 out 0
    some (out ++ response.payload)

def decodeResponse (data : Bytes) : Except String Response :=
  if data.length < responseHeaderBytes ∨ data.length > maximumResponseFrameBytes then
    .error "response_frame_size"
  else
    match read32 data 0, read16 data 4, read16 data 6, read16 data 8, read16 data 10,
      read64 data 12, read32 data 20, read32 data 24, read32 data 28 with
    | some word, some major, some minor, some result, some reserved, some requestId,
        some replyCode, some payloadSize, some tailReserved =>
        if word ≠ magic ∨ major ≠ protocolMajor ∨ minor > protocolMinor ∨ reserved ≠ 0 ∨
            tailReserved ≠ 0 then .error "response_protocol"
        else if payloadSize.toNat > maximumResponsePayloadBytes ∨
            data.length ≠ responseHeaderBytes + payloadSize.toNat then
          .error "response_payload_size"
        else
          .ok
            { major, minor, result := ⟨result⟩, requestId
              replyCode := replyCode.toInt32
              payload := (data.drop responseHeaderBytes).take payloadSize.toNat }
    | _, _, _, _, _, _, _, _, _ => .error "response_header"

/-! ## Words at their places -/

def word16 (value : UInt16) : Bytes := BigEndian.bytes 2 value.toNat
def word32 (value : UInt32) : Bytes := BigEndian.bytes 4 value.toNat
def word64 (value : UInt64) : Bytes := BigEndian.bytes 8 value.toNat

@[simp] theorem word16_length (value : UInt16) : (word16 value).length = 2 :=
  BigEndian.bytes_length ..

@[simp] theorem word32_length (value : UInt32) : (word32 value).length = 4 :=
  BigEndian.bytes_length ..

@[simp] theorem word64_length (value : UInt64) : (word64 value).length = 8 :=
  BigEndian.bytes_length ..

@[simp] theorem append16_eq (out : Bytes) (value : UInt16) :
    append16 out value = out ++ word16 value := rfl

@[simp] theorem append32_eq (out : Bytes) (value : UInt32) :
    append32 out value = out ++ word32 value := rfl

@[simp] theorem append64_eq (out : Bytes) (value : UInt64) :
    append64 out value = out ++ word64 value := by
  have bound : value.toNat < 18446744073709551616 := value.toNat_lt
  have high : (UInt32.ofNat (value.toNat / 4294967296)).toNat = value.toNat / 256 ^ 4 := by
    rw [UInt32.toNat_ofNat']
    omega
  have low : (UInt32.ofNat value.toNat).toNat = value.toNat % 256 ^ 4 := by
    rw [UInt32.toNat_ofNat']
    omega
  rw [append64, append32, append32, high, low, BigEndian.bytes_mod, List.append_assoc,
    ← BigEndian.bytes_add, word64]

theorem read16_start (value : UInt16) (rest : Bytes) :
    read16 (word16 value ++ rest) 0 = some value := by
  have found := BigEndian.field_start (word16 value) rest
  rw [word16_length] at found
  rw [read16, found, Option.map_some, word16, BigEndian.value_bytes value.toNat_lt,
    UInt16.ofNat_toNat]

theorem read32_start (value : UInt32) (rest : Bytes) :
    read32 (word32 value ++ rest) 0 = some value := by
  have found := BigEndian.field_start (word32 value) rest
  rw [word32_length] at found
  rw [read32, found, Option.map_some, word32, BigEndian.value_bytes value.toNat_lt,
    UInt32.ofNat_toNat]

theorem read16_skip {front rest : Bytes} {offset : Nat} (past : front.length ≤ offset) :
    read16 (front ++ rest) offset = read16 rest (offset - front.length) := by
  rw [read16, read16, BigEndian.field_skip past]

theorem read32_skip {front rest : Bytes} {offset : Nat} (past : front.length ≤ offset) :
    read32 (front ++ rest) offset = read32 rest (offset - front.length) := by
  rw [read32, read32, BigEndian.field_skip past]

theorem read64_skip {front rest : Bytes} {offset : Nat} (past : front.length ≤ offset) :
    read64 (front ++ rest) offset = read64 rest (offset - front.length) := by
  have later : offset + 4 - front.length = offset - front.length + 4 := by omega
  rw [read64, read64, read32_skip past, read32_skip (past.trans (Nat.le_add_right _ _)), later]

theorem read64_start (value : UInt64) (rest : Bytes) :
    read64 (word64 value ++ rest) 0 = some value := by
  have bound : value.toNat < 18446744073709551616 := value.toNat_lt
  have parts : word64 value ++ rest =
      word32 (UInt32.ofNat (value.toNat / 4294967296)) ++
        (word32 (UInt32.ofNat value.toNat) ++ rest) := by
    have same := append64_eq [] value
    rw [append64, append32_eq, append32_eq] at same
    rw [List.nil_append, List.nil_append] at same
    rw [← same, List.append_assoc]
  rw [parts, read64, read32_start, read32_skip (by simp), word32_length, read32_start]
  simp only [Option.some.injEq]
  apply UInt64.toNat_inj.mp
  rw [UInt64.toNat_ofNat', UInt32.toNat_ofNat', UInt32.toNat_ofNat']
  omega

theorem read16_some {data : Bytes} {offset : Nat} {value : UInt16}
    (found : read16 data offset = some value) :
    data.drop offset = word16 value ++ data.drop (offset + 2) := by
  obtain ⟨word, present, rfl⟩ := Option.map_eq_some_iff.mp found
  obtain ⟨long, rest⟩ := BigEndian.drop_eq_of_field present
  have bound := BigEndian.value_lt word
  rw [long] at bound
  have same : (UInt16.ofNat (BigEndian.value word)).toNat = BigEndian.value word := by
    rw [UInt16.toNat_ofNat']
    omega
  rw [rest, word16, same, ← long, BigEndian.bytes_value]

theorem read32_some {data : Bytes} {offset : Nat} {value : UInt32}
    (found : read32 data offset = some value) :
    data.drop offset = word32 value ++ data.drop (offset + 4) := by
  obtain ⟨word, present, rfl⟩ := Option.map_eq_some_iff.mp found
  obtain ⟨long, rest⟩ := BigEndian.drop_eq_of_field present
  have bound := BigEndian.value_lt word
  rw [long] at bound
  have same : (UInt32.ofNat (BigEndian.value word)).toNat = BigEndian.value word := by
    rw [UInt32.toNat_ofNat']
    omega
  rw [rest, word32, same, ← long, BigEndian.bytes_value]

theorem read64_some {data : Bytes} {offset : Nat} {value : UInt64}
    (found : read64 data offset = some value) :
    data.drop offset = word64 value ++ data.drop (offset + 8) := by
  unfold read64 at found
  cases high : read32 data offset with
  | none => simp [high] at found
  | some upper =>
    cases low : read32 data (offset + 4) with
    | none => simp [high, low] at found
    | some lower =>
      simp only [high, low, Option.some.injEq] at found
      have upperBound : upper.toNat < 4294967296 := upper.toNat_lt
      have lowerBound : lower.toNat < 4294967296 := lower.toNat_lt
      have number : value.toNat = upper.toNat * 4294967296 + lower.toNat := by
        rw [← found, UInt64.toNat_ofNat']
        omega
      have upperWord : value.toNat / 256 ^ 4 = upper.toNat := by omega
      have lowerWord : value.toNat % 256 ^ 4 = lower.toNat := by omega
      rw [read32_some high, read32_some low, word64, BigEndian.bytes_add 4 4, upperWord,
        ← BigEndian.bytes_mod 4 value.toNat, lowerWord, List.append_assoc]
      rfl

/-! ## Round trips -/

theorem requestPayloadLimit_le (operation : Operation) :
    requestPayloadLimit operation ≤ maximumRequestPayloadBytes := by
  unfold requestPayloadLimit
  split <;> decide

theorem payloadSize_toNat {payload : Bytes} {limit : Nat} (fits : payload.length ≤ limit)
    (small : limit ≤ maximumResponsePayloadBytes) :
    (UInt32.ofNat payload.length).toNat = payload.length := by
  rw [UInt32.toNat_ofNat', Nat.mod_eq_of_lt]
  have bound : maximumResponsePayloadBytes < 2 ^ 32 := by decide
  omega

/-- What `encodeRequest` writes. -/
def requestFrame (request : Request) : Bytes :=
  word32 magic ++ (word16 request.major ++
    (word16 request.minor ++ (word16 request.operation.code ++
      (word16 (serviceClass request.operation).code ++
        (word64 request.requestId ++
          (word64 request.deadlineNanoseconds ++
            (word32 (UInt32.ofNat request.payload.length) ++
              request.payload)))))))

theorem encodeRequest_some {request : Request} {frame : Bytes} :
    encodeRequest request = some frame ↔
      (knownOperation request.operation = true ∧ request.requestId ≠ 0 ∧
        request.deadlineNanoseconds ≠ 0 ∧
        request.payload.length ≤ requestPayloadLimit request.operation) ∧
      requestFrame request = frame := by
  unfold encodeRequest
  split
  case isTrue refused =>
    refine iff_of_false (by simp) ?_
    intro accepted
    obtain unknown | unnamed | timeless | long := refused
    · exact absurd (accepted.1.1.symm.trans unknown) (by decide)
    · exact accepted.1.2.1 unnamed
    · exact accepted.1.2.2.1 timeless
    · have fits := accepted.1.2.2.2
      omega
  case isFalse accepted =>
    simp only [not_or, Bool.not_eq_false, gt_iff_lt, Nat.not_lt] at accepted
    simp only [append16_eq, append32_eq, append64_eq, List.nil_append, List.append_assoc,
      Option.some.injEq]
    exact (and_iff_right accepted).symm

theorem decodeRequest_encodeRequest {request : Request} {frame : Bytes}
    (major : request.major = protocolMajor) (minor : request.minor = protocolMinor)
    (encoded : encodeRequest request = some frame) : decodeRequest frame = .ok request := by
  obtain ⟨⟨known, named, timed, fits⟩, rfl⟩ := (encodeRequest_some).mp encoded
  have limit := requestPayloadLimit_le request.operation
  have small : maximumRequestPayloadBytes ≤ maximumResponsePayloadBytes := by decide
  have size := payloadSize_toNat (fits.trans limit) small
  have length : (requestFrame request).length = requestHeaderBytes + request.payload.length := by
    simp only [requestFrame, List.length_append, word16_length, word32_length, word64_length,
      requestHeaderBytes]
    omega
  have reads : read32 (requestFrame request) 0 = some magic ∧
      read16 (requestFrame request) 4 = some request.major ∧
      read16 (requestFrame request) 6 = some request.minor ∧
      read16 (requestFrame request) 8 = some request.operation.code ∧
      read16 (requestFrame request) 10 = some (serviceClass request.operation).code ∧
      read64 (requestFrame request) 12 = some request.requestId ∧
      read64 (requestFrame request) 20 = some request.deadlineNanoseconds ∧
      read32 (requestFrame request) 28 = some (UInt32.ofNat request.payload.length) := by
    simp [requestFrame, read16_skip, read32_skip, read64_skip, read16_start, read32_start,
      read64_start]
  obtain ⟨first, second, third, fourth, fifth, sixth, seventh, eighth⟩ := reads
  have payload : (requestFrame request).drop requestHeaderBytes = request.payload := by
    simp [requestFrame, requestHeaderBytes, List.drop_append, List.drop_eq_nil_of_le]
  unfold decodeRequest
  rw [if_neg (by rw [length, maximumRequestFrameBytes]; omega)]
  simp only [first, second, third, fourth, fifth, sixth, seventh, eighth]
  rw [if_neg (by simp), if_neg (by simp [major, minor]), if_neg (by simp [known]),
    if_neg (by simp [named, timed]), if_neg ?oversized, payload, size, List.take_length]
  rw [not_or, size, length, not_not, gt_iff_lt, Nat.not_lt]
  exact ⟨fits, rfl⟩

theorem encodeRequest_decodeRequest {frame : Bytes} {request : Request}
    (decoded : decodeRequest frame = .ok request) : encodeRequest request = some frame := by
  unfold decodeRequest at decoded
  split at decoded
  case isTrue => cases decoded
  case isFalse =>
  split at decoded
  case h_2 => cases decoded
  case h_1 word major minor operation wireClass requestId deadline payloadSize first second third
      fourth fifth sixth seventh eighth =>
  split at decoded
  case isTrue => cases decoded
  case isFalse magical =>
  split at decoded
  case isTrue => cases decoded
  case isFalse =>
  split at decoded
  case isTrue => cases decoded
  case isFalse registered =>
  split at decoded
  case isTrue => cases decoded
  case isFalse identified =>
  split at decoded
  case isTrue => cases decoded
  case isFalse sized =>
  cases decoded
  simp only [ne_eq, not_or, not_not, Bool.not_eq_false] at magical registered identified
  simp only [ne_eq, not_or, not_not, gt_iff_lt, Nat.not_lt] at sized
  have rest : (frame.drop requestHeaderBytes).length = payloadSize.toNat := by
    rw [List.length_drop, sized.2]
    omega
  have payload : (frame.drop requestHeaderBytes).take payloadSize.toNat =
      frame.drop requestHeaderBytes := by
    rw [← rest, List.take_length]
  rw [payload]
  refine (encodeRequest_some).mpr ⟨⟨registered.1, identified.1, identified.2, ?_⟩, ?_⟩
  · rw [rest]
    exact sized.1
  · rw [requestFrame, rest, UInt32.ofNat_toNat, requestHeaderBytes]
    rw [← read32_some eighth, ← read64_some seventh, ← read64_some sixth, ← registered.2,
      ← read16_some fifth, ← read16_some fourth, ← read16_some third, ← read16_some second,
      ← magical, ← read32_some first, List.drop_zero]

/-- What `encodeResponse` writes. -/
def responseFrame (response : Response) : Bytes :=
  word32 magic ++ (word16 response.major ++
    (word16 response.minor ++ (word16 response.result.code ++
      (word16 (0 : UInt16) ++ (word64 response.requestId ++
        (word32 response.replyCode.toUInt32 ++
          (word32 (UInt32.ofNat response.payload.length) ++
            (word32 (0 : UInt32) ++ response.payload))))))))

theorem encodeResponse_some {response : Response} {frame : Bytes} :
    encodeResponse response = some frame ↔
      (response.requestId ≠ 0 ∧ response.payload.length ≤ maximumResponsePayloadBytes) ∧
      responseFrame response = frame := by
  unfold encodeResponse
  split
  case isTrue refused =>
    refine iff_of_false (by simp) ?_
    intro accepted
    obtain unnamed | long := refused
    · exact accepted.1.1 unnamed
    · have fits := accepted.1.2
      omega
  case isFalse accepted =>
    simp only [not_or, gt_iff_lt, Nat.not_lt] at accepted
    simp only [append16_eq, append32_eq, append64_eq, List.nil_append, List.append_assoc,
      Option.some.injEq]
    exact (and_iff_right accepted).symm

theorem decodeResponse_encodeResponse {response : Response} {frame : Bytes}
    (major : response.major = protocolMajor) (minor : response.minor = protocolMinor)
    (encoded : encodeResponse response = some frame) : decodeResponse frame = .ok response := by
  obtain ⟨⟨named, fits⟩, rfl⟩ := (encodeResponse_some).mp encoded
  have size := payloadSize_toNat fits (Nat.le_refl _)
  have length : (responseFrame response).length =
      responseHeaderBytes + response.payload.length := by
    simp only [responseFrame, List.length_append, word16_length, word32_length, word64_length,
      responseHeaderBytes]
    omega
  have reads : read32 (responseFrame response) 0 = some magic ∧
      read16 (responseFrame response) 4 = some response.major ∧
      read16 (responseFrame response) 6 = some response.minor ∧
      read16 (responseFrame response) 8 = some response.result.code ∧
      read16 (responseFrame response) 10 = some 0 ∧
      read64 (responseFrame response) 12 = some response.requestId ∧
      read32 (responseFrame response) 20 = some response.replyCode.toUInt32 ∧
      read32 (responseFrame response) 24 = some (UInt32.ofNat response.payload.length) ∧
      read32 (responseFrame response) 28 = some 0 := by
    simp [responseFrame, read16_skip, read32_skip, read64_skip, read16_start, read32_start,
      read64_start]
  obtain ⟨first, second, third, fourth, fifth, sixth, seventh, eighth, ninth⟩ := reads
  have payload : (responseFrame response).drop responseHeaderBytes = response.payload := by
    simp [responseFrame, responseHeaderBytes, List.drop_append, List.drop_eq_nil_of_le]
  unfold decodeResponse
  rw [if_neg (by rw [length, maximumResponseFrameBytes]; omega)]
  simp only [first, second, third, fourth, fifth, sixth, seventh, eighth, ninth]
  rw [if_neg (by simp [major, minor]), if_neg (by rw [size, length]; omega), payload, size,
    List.take_length, Int32.toInt32_toUInt32]

theorem responseFrame_decodeResponse {frame : Bytes} {response : Response}
    (decoded : decodeResponse frame = .ok response) :
    response.payload.length ≤ maximumResponsePayloadBytes ∧ responseFrame response = frame ∧
      read16 frame 8 = some response.result.code ∧ read64 frame 12 = some response.requestId := by
  unfold decodeResponse at decoded
  split at decoded
  case isTrue => cases decoded
  case isFalse =>
  split at decoded
  case h_2 => cases decoded
  case h_1 word major minor result reserved requestId replyCode payloadSize tail first second third
      fourth fifth sixth seventh eighth ninth =>
  split at decoded
  case isTrue => cases decoded
  case isFalse shaped =>
  split at decoded
  case isTrue => cases decoded
  case isFalse sized =>
  cases decoded
  simp only [not_or, not_not, gt_iff_lt, Nat.not_lt] at shaped sized
  have rest : (frame.drop responseHeaderBytes).length = payloadSize.toNat := by
    rw [List.length_drop, sized.2]
    omega
  have payload : (frame.drop responseHeaderBytes).take payloadSize.toNat =
      frame.drop responseHeaderBytes := by
    rw [← rest, List.take_length]
  rw [payload]
  refine ⟨rest ▸ sized.1, ?_, fourth, sixth⟩
  rw [responseFrame, rest, UInt32.ofNat_toNat, responseHeaderBytes]
  simp only [UInt32.toUInt32_toInt32]
  rw [← shaped.2.2.2.2, ← read32_some ninth, ← read32_some eighth, ← read32_some seventh,
    ← read64_some sixth, ← shaped.2.2.2.1, ← read16_some fifth, ← read16_some fourth,
    ← read16_some third, ← read16_some second, ← shaped.1, ← read32_some first, List.drop_zero]

/-- The request id of a response frame is not zero, and its result code is one of the nine. -/
def KnownFields (frame : Bytes) : Prop :=
  read64 frame 12 ≠ some 0 ∧ ∃ code ≤ Result.internalFailure.code, read16 frame 8 = some code

/-- Both round trips; every accepted request frame is the encoding of its value; and an accepted
response frame is one of a named result, exactly if its fields are known. -/
theorem control_plane_frames_exact (frame : Bytes) :
    (∀ request : Request, request.major = protocolMajor → request.minor = protocolMinor →
      encodeRequest request = some frame → decodeRequest frame = .ok request) ∧
    (∀ response : Response, response.major = protocolMajor → response.minor = protocolMinor →
      encodeResponse response = some frame → decodeResponse frame = .ok response) ∧
    (∀ request, decodeRequest frame = .ok request → encodeRequest request = some frame) ∧
    ∀ response, decodeResponse frame = .ok response →
      (encodeResponse response = some frame ∧ response.result.Named ↔ KnownFields frame) := by
  refine ⟨fun _ => decodeRequest_encodeRequest, fun _ => decodeResponse_encodeResponse,
    fun _ => encodeRequest_decodeRequest, ?_⟩
  intro response decoded
  obtain ⟨fits, written, result, requestId⟩ := responseFrame_decodeResponse decoded
  rw [encodeResponse_some, KnownFields, result, requestId]
  constructor
  · intro exactly
    refine ⟨fun zero => exactly.1.1.1 (Option.some.inj zero), _, exactly.2, rfl⟩
  · intro known
    obtain ⟨named, code, small, same⟩ := known
    refine ⟨⟨⟨fun zero => named (congrArg some zero), fits⟩, written⟩, ?_⟩
    rw [Result.Named, Option.some.inj same]
    exact small

/-- A response without a request id and one with an unknown result are accepted, though the first is
no encoding at all. -/
theorem control_plane_accepts_unsendable :
    (¬ ∀ frame response, decodeResponse frame = .ok response →
      encodeResponse response = some frame) ∧
    ¬ ∀ frame response, decodeResponse frame = .ok response → response.result.Named := by
  constructor
  · intro claimed
    have encoded := claimed (responseFrame {}) {} (by decide)
    exact absurd encoded (by decide)
  · intro claimed
    have named := claimed (responseFrame { result := ⟨9⟩, requestId := 1 })
      { result := ⟨9⟩, requestId := 1 } (by decide)
    exact absurd named (by decide)

end VdrSuite.Agent.Control
