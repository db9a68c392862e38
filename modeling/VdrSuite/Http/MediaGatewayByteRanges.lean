import VdrSuite.Media.RecordingDirectSourceRegistry

/-! The byte ranges of the media gateway: the single range of a `Range` header and the response of
the direct recording path. -/

set_option autoImplicit false

namespace VdrSuite.Http.MediaGateway

open Library Media

structure HttpServerRequest where
  headers : List (Bytes × Bytes)
  deriving DecidableEq

structure HttpServerResponse where
  statusCode : Nat := 200
  headers : List (Bytes × Bytes) := []
  body : Bytes := []
  deriving DecidableEq

def headerValue (request : HttpServerRequest) (wanted : Bytes) : Bytes :=
  match request.headers.find? fun header => header.1.map lowerCase == wanted.map lowerCase with
  | none => []
  | some header => header.2

def jsonError (statusCode : Nat) (code : String) : HttpServerResponse where
  statusCode := statusCode
  headers :=
    [(text "Content-Type", text "application/json"), (text "Cache-Control", text "no-store"),
      (text "X-Content-Type-Options", text "nosniff")]
  body := text "\x7b\"error\":\x7b\"code\":\"" ++ text code ++ text "\"\x7d\x7d"

/-! ## The range of a header -/

def decimalValue (digits : Bytes) : Option Nat := parseDecimal Netstring.uint64Max digits

inductive RangeState where
  | valid
  | malformed
  | unsatisfiable
  deriving DecidableEq

structure ByteRange where
  state : RangeState := .malformed
  first : Nat := 0
  last : Nat := 0
  deriving DecidableEq

def suffixRange (lastText : Bytes) (length : Nat) : ByteRange :=
  match decimalValue lastText with
  | none => {}
  | some suffixLength =>
    if suffixLength = 0 then {}
    else
      { state := .valid
        first := if suffixLength ≥ length then 0 else length - suffixLength
        last := length - 1 }

def boundedRange (firstText lastText : Bytes) (length : Nat) : ByteRange :=
  match decimalValue firstText with
  | none => {}
  | some first =>
    if first ≥ length then { state := .unsatisfiable }
    else if lastText.isEmpty then { state := .valid, first := first, last := length - 1 }
    else
      match decimalValue lastText with
      | none => {}
      | some last =>
        if last < first then {}
        else
          { state := .valid
            first := first
            last := if last ≥ length then length - 1 else last }

def parseSingleByteRange (header : Bytes) (length : Nat) : ByteRange :=
  match afterHeading (text "bytes=") header with
  | none => {}
  | some spec =>
    if (44 : UInt8) ∈ header ∨ length = 0 then {}
    else
      match splitAtFirst [45] spec with
      | none => {}
      | some (firstText, lastText) =>
        if (45 : UInt8) ∈ lastText then {}
        else if firstText.isEmpty then suffixRange lastText length
        else boundedRange firstText lastText length

/-! ## The response -/

def rangeError (statusCode : Nat) (code : String) (readableBytes : Nat) : HttpServerResponse :=
  { jsonError statusCode code with
    headers := (jsonError statusCode code).headers ++ [(text "Accept-Ranges", text "bytes")] ++
      (if statusCode = 416 then
        [(text "Content-Range", text "bytes */" ++ decimal readableBytes)] else []) }

def contentRange (first last readableBytes : Nat) : Bytes :=
  text "bytes " ++ decimal first ++ text "-" ++ decimal last ++ text "/" ++ decimal readableBytes

def partialContent (first readableBytes : Nat) (bytes : Bytes) : HttpServerResponse where
  statusCode := 206
  headers :=
    [(text "Content-Type", text "video/mp2t"), (text "Cache-Control", text "no-store"),
      (text "X-Content-Type-Options", text "nosniff"),
      (text "Cross-Origin-Resource-Policy", text "same-origin"),
      (text "Accept-Ranges", text "bytes"),
      (text "Content-Range", contentRange first (first + bytes.length - 1) readableBytes)]
  body := bytes

def readError (reasonCode : String) (readableBytes : Nat) : HttpServerResponse :=
  if reasonCode = "recording_range_not_satisfiable" then
    rangeError 416 "media_byte_range_not_satisfiable" readableBytes
  else if reasonCode = "recording_source_changed" ∨ reasonCode = "recording_source_is_growing" ∨
      reasonCode = "recording_segment_changed" then jsonError 409 reasonCode
  else
    jsonError 503 (if reasonCode.isEmpty then "recording_direct_read_failed" else reasonCode)

/-- The branch of the request handler for an admitted request to the direct recording path. -/
def recordingDirectResponse (directSourceRegistry : Option RecordingDirectSourceRegistry)
    (presentationProfileId sessionId : Bytes) (request : HttpServerRequest)
    (files : RecordingFiles) : Option HttpServerResponse :=
  if presentationProfileId ≠ text "progressive-direct" then
    some (jsonError 409 "media_presentation_not_progressive_direct")
  else
    match directSourceRegistry with
    | none => some (jsonError 503 "recording_direct_source_unavailable")
    | some registry =>
      let direct := registry.lookup sessionId files
      if direct.available = false then
        some (jsonError 409
          (if direct.reasonCode.isEmpty then "recording_direct_source_unavailable"
            else direct.reasonCode))
      else if (headerValue request (text "Range")).isEmpty then
        some (rangeError 400 "media_byte_range_required" direct.readableBytes)
      else
        let range := parseSingleByteRange (headerValue request (text "Range"))
          direct.readableBytes
        match range.state with
        | .malformed => some (rangeError 400 "media_byte_range_invalid" direct.readableBytes)
        | .unsatisfiable =>
          some (rangeError 416 "media_byte_range_not_satisfiable" direct.readableBytes)
        | .valid =>
          match registry.read sessionId files range.first (range.last - range.first + 1) with
          | none => none
          | some read =>
            if read.success = false ∨ read.bytes.isEmpty then
              some (readError read.reasonCode direct.readableBytes)
            else some (partialContent range.first direct.readableBytes read.bytes)

end VdrSuite.Http.MediaGateway
