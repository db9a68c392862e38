import VdrSuite.Library.TokenReader

/-! The cached metadata of a recording: its payload, and what is read back from one. -/

set_option autoImplicit false

namespace VdrSuite.Recordings

open Library

inductive VdrRecordingMetadataSource where
  | none
  | restfulApiScraperBridge
  deriving DecidableEq

inductive VdrRecordingContentKind where
  | unknown
  | movie
  | seriesEpisode
  deriving DecidableEq

inductive VdrRecordingArtworkKind where
  | poster
  | fanart
  | banner
  | still
  deriving DecidableEq

structure VdrRecordingEventMetadata where
  eventTitle : Bytes := []
  shortText : Bytes := []
  description : Bytes := []
  deriving DecidableEq

def VdrRecordingEventMetadata.hasText (native : VdrRecordingEventMetadata) : Bool :=
  !native.eventTitle.isEmpty || !native.shortText.isEmpty || !native.description.isEmpty

structure VdrRecordingProviderMetadata (Double : Type) [Zero Double] where
  source : VdrRecordingMetadataSource := .none
  contentKind : VdrRecordingContentKind := .unknown
  movieId : Bytes := []
  seriesId : Bytes := []
  episodeId : Bytes := []
  title : Bytes := []
  originalTitle : Bytes := []
  tagline : Bytes := []
  overview : Bytes := []
  genreText : Bytes := []
  releaseDate : Bytes := []
  seriesTitle : Bytes := []
  episodeTitle : Bytes := []
  seasonNumber : Int := 0
  episodeNumber : Int := 0
  runtimeMinutes : Int := 0
  rating : Double := 0
  deriving DecidableEq

structure VdrRecordingArtworkRef where
  kind : VdrRecordingArtworkKind := .poster
  source : VdrRecordingMetadataSource := .none
  reference : Bytes := []
  width : Int := 0
  height : Int := 0
  temporary : Bool := true
  deriving DecidableEq

def VdrRecordingArtworkRef.isValid (artwork : VdrRecordingArtworkRef) : Bool :=
  artwork.source != .none && !artwork.reference.isEmpty

structure VdrRecordingMetadata (Double : Type) [Zero Double] where
  native : VdrRecordingEventMetadata := {}
  provider : VdrRecordingProviderMetadata Double := {}
  artwork : List VdrRecordingArtworkRef := []
  deriving DecidableEq

/-- The text conversion of the floating-point numbers, which is not part of this code. -/
structure DoubleConversion (Double : Type) where
  doubleToken : Double → Bytes
  parseDouble : Bytes → Option Double

variable {Double : Type} [Zero Double]

def metadataIsEmpty (metadata : VdrRecordingMetadata Double) : Bool :=
  !metadata.native.hasText && !(metadata.provider.source != .none) && metadata.artwork.isEmpty

/-! ## Numbers -/

def isSpace (byte : UInt8) : Bool := byte == 32 || (9 ≤ byte && byte ≤ 13)

def parseLongLong (value : Bytes) : Option Int :=
  match value.dropWhile isSpace with
  | 45 :: digits => (parseDecimal 9223372036854775808 digits).map fun count => -Int.ofNat count
  | 43 :: digits => (parseDecimal int64Max digits).map Int.ofNat
  | digits => (parseDecimal int64Max digits).map Int.ofNat

def parseInt (value : Bytes) : Option Int :=
  match parseLongLong value with
  | none => none
  | some parsed => if parsed < -2147483648 ∨ 2147483647 < parsed then none else some parsed

def VdrRecordingMetadataSource.code : VdrRecordingMetadataSource → Int
  | .none => 0
  | .restfulApiScraperBridge => 1

def VdrRecordingContentKind.code : VdrRecordingContentKind → Int
  | .unknown => 0
  | .movie => 1
  | .seriesEpisode => 2

def VdrRecordingArtworkKind.code : VdrRecordingArtworkKind → Int
  | .poster => 0
  | .fanart => 1
  | .banner => 2
  | .still => 3

def parseMetadataSource (value : Bytes) : Option VdrRecordingMetadataSource :=
  match parseInt value with
  | some 0 => some .none
  | some 1 => some .restfulApiScraperBridge
  | _ => none

def parseContentKind (value : Bytes) : Option VdrRecordingContentKind :=
  match parseInt value with
  | some 0 => some .unknown
  | some 1 => some .movie
  | some 2 => some .seriesEpisode
  | _ => none

def parseArtworkKind (value : Bytes) : Option VdrRecordingArtworkKind :=
  match parseInt value with
  | some 0 => some .poster
  | some 1 => some .fanart
  | some 2 => some .banner
  | some 3 => some .still
  | _ => none

def parseTemporary (value : Bytes) : Option Bool :=
  match parseInt value with
  | some 0 => some false
  | some 1 => some true
  | _ => none

def maximumArtworkCount : Nat := 256

def parseArtworkCount (value : Bytes) : Option Nat :=
  match parseLongLong value with
  | none => none
  | some count => if count < 0 ∨ maximumArtworkCount < count then none else some count.toNat

/-! ## Payloads -/

def payloadPrefix : Bytes := text "VRM1"

def artworkTokens (artwork : VdrRecordingArtworkRef) : List Bytes :=
  [signedDecimal artwork.kind.code,
   signedDecimal artwork.source.code,
   artwork.reference,
   signedDecimal artwork.width,
   signedDecimal artwork.height,
   if artwork.temporary then text "1" else text "0"]

def metadataTokens (conversion : DoubleConversion Double) (metadata : VdrRecordingMetadata Double) :
    List Bytes :=
  [metadata.native.eventTitle,
   metadata.native.shortText,
   metadata.native.description,
   signedDecimal metadata.provider.source.code,
   signedDecimal metadata.provider.contentKind.code,
   metadata.provider.movieId,
   metadata.provider.seriesId,
   metadata.provider.episodeId,
   metadata.provider.title,
   metadata.provider.originalTitle,
   metadata.provider.tagline,
   metadata.provider.overview,
   metadata.provider.genreText,
   metadata.provider.releaseDate,
   metadata.provider.seriesTitle,
   metadata.provider.episodeTitle,
   signedDecimal metadata.provider.seasonNumber,
   signedDecimal metadata.provider.episodeNumber,
   signedDecimal metadata.provider.runtimeMinutes,
   conversion.doubleToken metadata.provider.rating,
   signedDecimal metadata.artwork.length] ++
  metadata.artwork.flatMap artworkTokens

def encode (conversion : DoubleConversion Double) (metadata : VdrRecordingMetadata Double) : Bytes :=
  if metadataIsEmpty metadata then []
  else payloadPrefix ++ Netstring.countedList (metadataTokens conversion metadata)

open TokenReader in
def readArtwork : TokenReader VdrRecordingArtworkRef := do
  let kind ← tokenAs parseArtworkKind
  let source ← tokenAs parseMetadataSource
  let reference ← token
  let width ← tokenAs parseInt
  let height ← tokenAs parseInt
  let temporary ← tokenAs parseTemporary
  pure
    { kind := kind
      source := source
      reference := reference
      width := width
      height := height
      temporary := temporary }

def readArtworks : Nat → TokenReader (List VdrRecordingArtworkRef)
  | 0 => pure []
  | count + 1 => do
      let artwork ← readArtwork
      let others ← readArtworks count
      pure (if artwork.isValid then artwork :: others else others)

open TokenReader in
def readMetadata (conversion : DoubleConversion Double) :
    TokenReader (VdrRecordingMetadata Double) := do
  let eventTitle ← token
  let shortText ← token
  let description ← token
  let source ← tokenAs parseMetadataSource
  let contentKind ← tokenAs parseContentKind
  let movieId ← token
  let seriesId ← token
  let episodeId ← token
  let title ← token
  let originalTitle ← token
  let tagline ← token
  let overview ← token
  let genreText ← token
  let releaseDate ← token
  let seriesTitle ← token
  let episodeTitle ← token
  let seasonNumber ← tokenAs parseInt
  let episodeNumber ← tokenAs parseInt
  let runtimeMinutes ← tokenAs parseInt
  let rating ← tokenAs conversion.parseDouble
  let artworkCount ← tokenAs parseArtworkCount
  let artwork ← readArtworks artworkCount
  pure
    { native :=
        { eventTitle := eventTitle
          shortText := shortText
          description := description }
      provider :=
        { source := source
          contentKind := contentKind
          movieId := movieId
          seriesId := seriesId
          episodeId := episodeId
          title := title
          originalTitle := originalTitle
          tagline := tagline
          overview := overview
          genreText := genreText
          releaseDate := releaseDate
          seriesTitle := seriesTitle
          episodeTitle := episodeTitle
          seasonNumber := seasonNumber
          episodeNumber := episodeNumber
          runtimeMinutes := runtimeMinutes
          rating := rating }
      artwork := artwork }

def decode (conversion : DoubleConversion Double) (payload : Bytes) : VdrRecordingMetadata Double :=
  if payload.isEmpty then {}
  else
    match afterHeading payloadPrefix payload with
    | none => {}
    | some tokens =>
      match (readMetadata conversion).complete Netstring.uint64Max tokens with
      | none => {}
      | some metadata => metadata

end VdrSuite.Recordings
