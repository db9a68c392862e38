import VdrSuite.Library.Netstring
import VdrSuite.Library.Window

/-! The byte source of a recording in segments: the snapshot of what the catalogue lists, and the
read that crosses the segments with positional reads of any length. -/

set_option autoImplicit false

namespace VdrSuite.Media

open Library

/-- What `stat` tells of a file. -/
structure FileStatus where
  regular : Bool
  size : Int
  device : Nat := 0
  inode : Nat := 0
  mtimeSeconds : Int := 0
  mtimeNanoseconds : Int := 0
  deriving DecidableEq

/-- How one `pread` call ends. A transfer moves at most what is asked for and there. -/
inductive ReadAttempt where
  | interrupted
  | failed
  | transferred (count : Nat)
  deriving DecidableEq

structure FileObservation where
  listed : Option FileStatus
  opens : Bool := true
  openedStatus : Option FileStatus
  attempts : List ReadAttempt
  finalStatus : Option FileStatus
  contents : Bytes
  deriving DecidableEq

structure CatalogSegment where
  path : Bytes
  file : FileObservation
  deriving DecidableEq

inductive SegmentCatalog where
  | unset
  | throwing
  | entries (segments : List CatalogSegment)
  deriving DecidableEq

structure RecordingByteExtent where
  readableBytes : Nat := 0
  segmentCount : Nat := 0
  growing : Bool := false
  deriving DecidableEq

structure RecordingByteReadResult where
  success : Bool := false
  reasonCode : String := ""
  bytes : Bytes := []
  nextOffset : Nat := 0
  endOfReadableExtent : Bool := false
  extent : RecordingByteExtent := {}
  deriving DecidableEq

structure Segment where
  file : FileObservation
  start : Nat
  stop : Nat
  device : Nat
  inode : Nat
  size : Nat
  mtimeSeconds : Int
  mtimeNanoseconds : Int
  deriving DecidableEq

structure Snapshot where
  valid : Bool := false
  reasonCode : String := ""
  extent : RecordingByteExtent := {}
  segments : List Segment := []
  deriving DecidableEq

def defaultMaximumReadBytes : Nat := 512 * 1024

structure SegmentedRecordingByteSource where
  growing : Bool
  maximumReadBytes : Nat
  positive : 0 < maximumReadBytes
  deriving DecidableEq

def SegmentedRecordingByteSource.make (growing : Bool)
    (maximumReadBytes : Nat := defaultMaximumReadBytes) : SegmentedRecordingByteSource where
  growing := growing
  maximumReadBytes := if maximumReadBytes = 0 then defaultMaximumReadBytes else maximumReadBytes
  positive := by
    split
    · decide
    · next given => exact Nat.pos_of_ne_zero given

def sameOpenedSegment (segment : Segment) (metadata : Option FileStatus) (growing : Bool) : Bool :=
  match metadata with
  | none => false
  | some metadata =>
    if metadata.regular = false ∨ metadata.size < 0 ∨ metadata.device ≠ segment.device ∨
        metadata.inode ≠ segment.inode then false
    else if growing then decide (segment.size ≤ metadata.size.toNat)
    else
      decide (metadata.size.toNat = segment.size) &&
        decide (metadata.mtimeSeconds = segment.mtimeSeconds) &&
        decide (metadata.mtimeNanoseconds = segment.mtimeNanoseconds)

/-! ## The snapshot -/

def CatalogSegment.lstat (entry : CatalogSegment) : Option FileStatus :=
  if entry.path.isEmpty then none else entry.file.listed

def segmentAt (offset : Nat) (file : FileObservation) (metadata : FileStatus) : Segment where
  file := file
  start := offset
  stop := offset + metadata.size.toNat
  device := metadata.device
  inode := metadata.inode
  size := metadata.size.toNat
  mtimeSeconds := metadata.mtimeSeconds
  mtimeNanoseconds := metadata.mtimeNanoseconds

def appendSegments (result : Snapshot) (offset : Nat) : List CatalogSegment → Snapshot
  | [] =>
    { result with
      valid := true
      extent := { result.extent with
        readableBytes := offset
        segmentCount := result.segments.length } }
  | entry :: rest =>
    match entry.lstat with
    | none => { result with reasonCode := "recording_segment_stat_failed" }
    | some metadata =>
      if metadata.regular = false ∨ metadata.size < 0 then
        { result with reasonCode := "recording_segment_not_regular" }
      else if metadata.size.toNat > Netstring.uint64Max - offset then
        { result with reasonCode := "recording_extent_overflow" }
      else
        appendSegments
          { result with segments := result.segments ++ [segmentAt offset entry.file metadata] }
          (offset + metadata.size.toNat) rest

def SegmentedRecordingByteSource.snapshot (source : SegmentedRecordingByteSource) :
    SegmentCatalog → Snapshot
  | .unset =>
    { reasonCode := "recording_segment_catalog_unavailable"
      extent := { growing := source.growing } }
  | .throwing =>
    { reasonCode := "recording_segment_catalog_failed"
      extent := { growing := source.growing } }
  | .entries paths =>
    if paths.isEmpty then
      { reasonCode := "recording_segments_unavailable"
        extent := { growing := source.growing } }
    else appendSegments { extent := { growing := source.growing } } 0 paths

/-! ## The read -/

/-- The bytes that the loop of positional reads has put into the buffer. There is no result while
a call has not returned. -/
def readChunk (contents : Bytes) (localOffset chunk : Nat) : List ReadAttempt → Bytes → Option Bytes
  | [], buffer => if buffer.length < chunk then none else some buffer
  | attempt :: later, buffer =>
    if buffer.length < chunk then
      match attempt with
      | .interrupted => readChunk contents localOffset chunk later buffer
      | .failed => some buffer
      | .transferred count =>
        let received := window (localOffset + buffer.length) (min count (chunk - buffer.length))
          contents
        if received.isEmpty then some buffer
        else readChunk contents localOffset chunk later (buffer ++ received)
    else some buffer

/-- The loop over the segments, with the offset of the next byte, the bytes still wanted and the
bytes read. -/
def readSegments (growing : Bool) : List Segment → Nat → Nat → Bytes → Option (Except String Bytes)
  | [], _, _, bytes => some (.ok bytes)
  | segment :: rest, cursor, remaining, bytes =>
    if remaining = 0 then some (.ok bytes)
    else if segment.stop ≤ cursor ∨ segment.stop = segment.start then
      readSegments growing rest cursor remaining bytes
    else if cursor < segment.start then some (.error "recording_segment_map_gap")
    else if segment.file.opens = false then some (.error "recording_segment_open_failed")
    else if sameOpenedSegment segment segment.file.openedStatus growing = false then
      some (.error "recording_segment_changed")
    else
      match readChunk segment.file.contents (cursor - segment.start)
          (min (segment.stop - cursor) remaining) segment.file.attempts [] with
      | none => none
      | some chunkRead =>
        if sameOpenedSegment segment segment.file.finalStatus growing = false then
          some (.error "recording_segment_changed")
        else if chunkRead.isEmpty then some (.error "recording_segment_read_failed")
        else if chunkRead.length < min (segment.stop - cursor) remaining then
          some (.ok (bytes ++ chunkRead))
        else
          readSegments growing rest (cursor + chunkRead.length)
            (remaining - chunkRead.length) (bytes ++ chunkRead)

def SegmentedRecordingByteSource.read (source : SegmentedRecordingByteSource)
    (catalog : SegmentCatalog) (offset requestedBytes : Nat) : Option RecordingByteReadResult :=
  let current := source.snapshot catalog
  let result : RecordingByteReadResult := { extent := current.extent, nextOffset := offset }
  if current.valid = false then some { result with reasonCode := current.reasonCode }
  else if offset > current.extent.readableBytes then
    some { result with reasonCode := "recording_range_not_satisfiable" }
  else if requestedBytes = 0 ∨ offset = current.extent.readableBytes then
    some { result with
      success := true
      endOfReadableExtent := decide (offset = current.extent.readableBytes) }
  else
    let wanted := min (current.extent.readableBytes - offset)
      (min requestedBytes source.maximumReadBytes)
    match readSegments source.growing current.segments offset wanted [] with
    | none => none
    | some (.error reasonCode) => some { result with reasonCode := reasonCode }
    | some (.ok bytes) =>
      if bytes.isEmpty then some { result with reasonCode := "recording_read_empty" }
      else
        some { result with
          success := true
          bytes := bytes
          nextOffset := offset + bytes.length
          endOfReadableExtent :=
            decide (current.extent.readableBytes ≤ offset + bytes.length) }

end VdrSuite.Media
