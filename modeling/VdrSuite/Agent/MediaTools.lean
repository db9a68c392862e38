import VdrSuite.Agent.NativeTimerDeletePayload

/-! The payloads and the result evidence of the media import and media shrink commands. -/

set_option autoImplicit false

namespace VdrSuite.Agent

open Library

def mediaImportCommandType : Bytes := text "addon.media.import"

def mediaImportReadbackCommandType : Bytes := text "addon.media.import.readback"

def mediaShrinkStageCommandType : Bytes := text "addon.media.shrink.stage"

def mediaShrinkPublishCommandType : Bytes := text "addon.media.shrink.publish"

def validSha256Evidence (heading evidence : Bytes) : Bool :=
  evidence.length == heading.length + 64 && heading.isPrefixOf evidence &&
  (evidence.drop heading.length).all isHexDigit

def validRecordingPathEvidence (evidence : Bytes) : Bool :=
  validSha256Evidence (text "media-import-path-sha256-v1:") evidence

def validMediaImportSourceEvidence (proof : Bytes) : Bool :=
  validSha256Evidence (text "media-import-source-sha256-v1:") proof

def parseMediaImportResultEvidence (input : Bytes) : Option (Bytes × Bytes) :=
  if validRecordingPathEvidence input then some (input, [])
  else
    match input.splitOn 124 with
    | [recording, source] =>
      if validRecordingPathEvidence recording && validMediaImportSourceEvidence source then
        some (recording, source)
      else none
    | _ => none

/-! ## Import readback -/

def isOpaqueByte (byte : UInt8) : Bool := isAlphanumeric byte || byte == 95 || byte == 45

def opaqueIdentifier (value : Bytes) (maximum : Nat) : Bool :=
  !value.isEmpty && value.length ≤ maximum && value.all isOpaqueByte

structure MediaImportReadback where
  sourceId : Bytes := []
  originalCommandId : Bytes := []
  recordingEvidence : Bytes := []
  sourceEvidence : Bytes := []
  deriving DecidableEq

def mediaImportReadbackPayload (readback : MediaImportReadback) : Bytes :=
  text "\x7b\"sourceId\":\"" ++ readback.sourceId ++
  text "\",\"originalCommandId\":\"" ++ readback.originalCommandId ++
  text "\",\"recordingEvidence\":\"" ++ readback.recordingEvidence ++ text "\"" ++
  (if readback.sourceEvidence.isEmpty then []
    else text ",\"sourceIdentity\":\"" ++ readback.sourceEvidence ++ text "\"") ++
  text "\x7d"

def parseMediaImportReadbackPayload (payload : Bytes) : Option MediaImportReadback := do
  let rest ← afterHeading (text "\x7b\"sourceId\":\"") payload
  let (sourceId, rest) ← splitAtFirst (text "\",\"originalCommandId\":\"") rest
  let (originalCommandId, rest) ← splitAtFirst (text "\",\"recordingEvidence\":\"") rest
  if rest.length < 3 ∨ rest.getLast? ≠ some 125 then none
  else
    let (recordingEvidence, suffix) ← splitAtFirst (text "\"") rest
    let sourceEvidence ←
      if suffix = text "\x7d" then some []
      else
        match enclosed (text ",\"sourceIdentity\":\"") (text "\"\x7d") suffix with
        | none => none
        | some evidence => if validMediaImportSourceEvidence evidence then some evidence else none
    let readback : MediaImportReadback :=
      { sourceId, originalCommandId, recordingEvidence, sourceEvidence }
    if (opaqueIdentifier sourceId 64 && 16 ≤ sourceId.length &&
        opaqueIdentifier originalCommandId 128 && validRecordingPathEvidence recordingEvidence &&
        payload == mediaImportReadbackPayload readback) = false then none
    else some readback

/-! ## Import selection -/

inductive MediaImportDecision where
  | importOnly
  | localEncoding
  | desktop
  | skip
  | release
  | duplicate
  | deleteDuplicate
  deriving DecidableEq

def sourceHeading : Bytes := text "\x7b\"sourceId\":\""

def parsePlainSelection (payload : Bytes) : Option Bytes :=
  match enclosed sourceHeading (text "\"\x7d") payload with
  | none => none
  | some sourceId => if opaqueIdentifier sourceId 64 then some sourceId else none

def decisionEnding (decision : String) : Bytes :=
  text "\",\"videoDecision\":\"" ++ text decision ++ text "\"\x7d"

def decisionSource (payload : Bytes) (decision : String) : Option Bytes :=
  match enclosed sourceHeading (decisionEnding decision) payload with
  | none => none
  | some sourceId => if sourceId.length < 16 then none else some sourceId

def parseApprovedSelection (payload : Bytes) : Option (Bytes × Bool) :=
  match parsePlainSelection payload with
  | some sourceId => some (sourceId, false)
  | none =>
    match decisionSource payload "local" with
    | none => none
    | some sourceId => if opaqueIdentifier sourceId 64 then some (sourceId, true) else none

def markerDecisions : List (String × MediaImportDecision) :=
  [("desktop", .desktop), ("skip", .skip), ("release", .release), ("duplicate", .duplicate),
    ("delete_duplicate", .deleteDuplicate)]

def markerSelection (payload : Bytes) : Option (Bytes × MediaImportDecision) :=
  markerDecisions.findSome? fun (name, decision) =>
    (decisionSource payload name).map fun sourceId => (sourceId, decision)

def isMetadataByte (byte : UInt8) : Bool :=
  isAlphanumeric byte || byte ∈ text "_%.~!*'()-|"

def isMixedHexDigit (byte : UInt8) : Bool := isHexDigit byte || (65 ≤ byte && byte ≤ 70)

def percentEncoded : Bytes → Bool
  | [] => true
  | byte :: rest =>
    if byte = 37 then
      match rest with
      | first :: second :: remaining =>
        isMixedHexDigit first && isMixedHexDigit second && percentEncoded remaining
      | _ => false
    else percentEncoded rest

def metadataSnapshotValid (snapshot : Bytes) : Bool :=
  12 ≤ snapshot.length && snapshot.length ≤ 4096 &&
  (((text "v1|").isPrefixOf snapshot && snapshot.count 124 == 6) ||
    ((text "v2|").isPrefixOf snapshot && snapshot.count 124 == 9)) &&
  snapshot.all isMetadataByte &&
  ((text "episode|").isPrefixOf (snapshot.drop 3) || (text "movie|").isPrefixOf (snapshot.drop 3)) &&
  percentEncoded snapshot

def metadataMarker : Bytes := text "\",\"metadata\":\""

def localMetadataMarker : Bytes := text "\",\"videoDecision\":\"local\"" ++ text ",\"metadata\":\""

def withoutLast (count : Nat) (value : Bytes) : Bytes := value.take (value.length - count)

def metadataSelection (payload : Bytes) : Option (Bytes × MediaImportDecision) := do
  let rest ← afterHeading sourceHeading payload
  -- The shortest identifier, the marker, four bytes of a snapshot and the ending.
  if payload.length < sourceHeading.length + 16 + metadataMarker.length + 6 ∨
      (text "\"\x7d").isSuffixOf payload = false then none
  else
    let (sourceId, snapshot, decision) ←
      match splitAtFirst localMetadataMarker rest with
      | some (sourceId, after) => some (sourceId, withoutLast 2 after, .localEncoding)
      | none =>
        match splitAtFirst metadataMarker rest with
        | some (sourceId, after) => some (sourceId, withoutLast 2 after, .importOnly)
        | none => none
    if opaqueIdentifier sourceId 64 && 16 ≤ sourceId.length && metadataSnapshotValid snapshot then
      some (sourceId, decision)
    else none

def parseMediaImportSelection (payload : Bytes) : Option (Bytes × MediaImportDecision) :=
  match parseApprovedSelection payload with
  | some (sourceId, approved) => some (sourceId, if approved then .localEncoding else .importOnly)
  | none =>
    match markerSelection payload with
    | some (sourceId, decision) =>
      if opaqueIdentifier sourceId 64 then some (sourceId, decision) else none
    | none => metadataSelection payload

def mediaImportSelectionMetadata (payload : Bytes) : Bytes :=
  match parseMediaImportSelection payload with
  | none => []
  | some _ =>
    match splitAtFirst metadataMarker payload with
    | none => []
    | some (_, after) => withoutLast 2 after

def mediaImportSelectionVersion (decision : MediaImportDecision) (payload : Bytes) : Nat :=
  if mediaImportSelectionMetadata payload = [] then
    match decision with
    | .importOnly => 1
    | .localEncoding => 2
    | .desktop => 3
    | .skip => 4
    | .release => 5
    | .duplicate => 6
    | .deleteDuplicate => 7
  else
    match decision with
    | .importOnly => 8
    | .localEncoding => 9
    | _ => 0

def mediaImportMarkerEvidence (sourceId : Bytes) : MediaImportDecision → Bytes
  | .importOnly => []
  | .localEncoding => []
  | .desktop => text "media-tools-mark:desktop:" ++ sourceId
  | .skip => text "media-tools-mark:skip:" ++ sourceId
  | .release => text "media-tools-mark:release:" ++ sourceId
  | .duplicate => text "media-tools-mark:duplicate:" ++ sourceId
  | .deleteDuplicate => text "media-tools-mark:delete_duplicate:" ++ sourceId

/-! ## Shrink selection -/

inductive ShrinkRequestAction where
  | plan
  | stage
  | publish
  deriving DecidableEq

structure MediaShrinkAgentSelection where
  action : ShrinkRequestAction := .plan
  recordingId : Bytes := []
  reviewId : Bytes := []
  encoder : Bytes := text "software"
  maxHeight : Nat := 0
  nightMode : Bool := false
  expectedReviewRevision : Nat := 0
  deriving DecidableEq

def shrinkOpaqueId (value heading : Bytes) : Bool :=
  value.length == heading.length + 32 && heading.isPrefixOf value &&
  (value.drop heading.length).all isHexDigit

/-- A decimal token of at most `digits` digits, without a leading zero unless it is zero itself. -/
def shrinkNumber (digits : Nat) (token : Bytes) : Option Nat :=
  if token = text "0" then some 0
  else if token.isEmpty ∨ token.head? = some 48 ∨ token.length > digits then none
  else parseDecimal Netstring.uint64Max token

def parseShrinkStage (payload : Bytes) : Option MediaShrinkAgentSelection := do
  let rest ← afterHeading (text "\x7b\"recordingId\":\"") payload
  let recordingId := rest.take 36
  let rest ← afterHeading (text "\",\"encoder\":\"") (rest.drop 36)
  let (encoder, rest) ← splitAtFirst (text "\"") rest
  let rest ← afterHeading (text ",\"maxHeight\":") rest
  let (height, rest) ← splitAtFirst (text ",") rest
  let maxHeight ← shrinkNumber 4 height
  let rest ← afterHeading (text "\"nightMode\":") rest
  let nightMode ←
    if rest = text "true\x7d" then some true
    else if rest = text "false\x7d" then some false
    else none
  if shrinkOpaqueId recordingId (text "rec_") = false ∨
      allowed encoder ["software", "vaapi", "qsv", "nvenc"] = false ∨
      (maxHeight ≠ 0 ∧ (maxHeight < 480 ∨ maxHeight > 2160)) then none
  else some { action := .stage, recordingId, encoder, maxHeight, nightMode }

def parseShrinkPublish (payload : Bytes) : Option MediaShrinkAgentSelection := do
  let rest ← afterHeading (text "\x7b\"reviewId\":\"") payload
  let reviewId := rest.take 36
  let rest ← afterHeading (text "\",\"revision\":") (rest.drop 36)
  let (token, rest) ← splitAtFirst (text "\x7d") rest
  let revision ← shrinkNumber 18 token
  if rest ≠ [] ∨ shrinkOpaqueId reviewId (text "shk_") = false ∨ revision = 0 ∨
      revision > int64Max - 1 then none
  else some { action := .publish, reviewId, expectedReviewRevision := revision }

def parseMediaShrinkAgentSelection (commandType payload : Bytes) :
    Option MediaShrinkAgentSelection :=
  if payload.length > 256 then none
  else if commandType = mediaShrinkStageCommandType then parseShrinkStage payload
  else if commandType = mediaShrinkPublishCommandType then parseShrinkPublish payload
  else none

end VdrSuite.Agent
