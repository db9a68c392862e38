import VdrSuite.Media.SegmentedRecordingReads

/-! The registry of completed recordings that are delivered directly: an entry is valid as long as
the inspected source still has the registered fingerprint, and a read is framed by two inspections. -/

set_option autoImplicit false

namespace VdrSuite.Media

open Library

structure SourcePath where
  written : Bytes
  normal : Bytes
  absolute : Bool
  parent : Bytes
  filename : Bytes
  deriving DecidableEq

/-- What `lstat` finds for the `.timer` mark of a recording. -/
inductive TimerMarker where
  | present
  | absent
  | unreadable
  deriving DecidableEq

/-- What one inspection of a recording finds, by the position of the segment. -/
structure SourceInspection where
  listed : Nat → Option FileStatus
  timerMarker : TimerMarker

structure RecordingSourceFingerprint where
  valid : Bool := false
  reasonCode : String := ""
  growing : Bool := false
  readableBytes : Nat := 0
  value : Bytes := []
  deriving DecidableEq

def segmentFingerprint (segment : SourcePath) (status : FileStatus) : Bytes :=
  text "|segment=" ++ Netstring.counted segment.filename ++ text ":" ++
    decimal status.device ++ text ":" ++ decimal status.inode ++ text ":" ++
    decimal status.size.toNat ++ text ":" ++ signedDecimal status.mtimeSeconds ++ text ":" ++
    signedDecimal status.mtimeNanoseconds

/-- The loop over the segments, with the bytes counted and the fingerprint written so far. -/
def inspectSegments (directory : SourcePath) (listed : Nat → Option FileStatus) :
    List (SourcePath × Nat) → Nat → Bytes → Except String (Nat × Bytes)
  | [], readableBytes, fingerprint => .ok (readableBytes, fingerprint)
  | (segment, position) :: rest, readableBytes, fingerprint =>
    if segment.absolute = false ∨ segment.parent ≠ directory.normal then
      .error "recording_source_segment_outside_directory"
    else
      match listed position with
      | none => .error "recording_source_segment_unavailable"
      | some status =>
        if status.regular = false ∨ status.size < 0 then
          .error "recording_source_segment_unavailable"
        else if readableBytes > Netstring.uint64Max - status.size.toNat then
          .error "recording_source_extent_overflow"
        else
          inspectSegments directory listed rest (readableBytes + status.size.toNat)
            (fingerprint ++ segmentFingerprint segment status)

def inspectRecordingSource (recordingDirectory : SourcePath) (segmentPaths : List SourcePath)
    (inspection : SourceInspection) : RecordingSourceFingerprint :=
  if recordingDirectory.absolute = false ∨ segmentPaths.isEmpty then
    { reasonCode := "invalid_recording_source" }
  else
    match inspectSegments recordingDirectory inspection.listed segmentPaths.zipIdx 0
        (text "v1|directory=" ++ Netstring.counted recordingDirectory.normal) with
    | .error reasonCode => { reasonCode := reasonCode }
    | .ok (readableBytes, fingerprint) =>
      match inspection.timerMarker with
      | .unreadable => { reasonCode := "recording_source_state_unavailable" }
      | .present =>
        { valid := true, growing := true, readableBytes := readableBytes
          value := fingerprint ++ text "|growing=1" }
      | .absent =>
        { valid := true, growing := false, readableBytes := readableBytes
          value := fingerprint ++ text "|growing=0" }

/-! ## The registry -/

structure DirectSourceEntry where
  recordingDirectory : SourcePath
  segmentPaths : List SourcePath
  sourceFingerprint : Bytes
  readableBytes : Nat
  deriving DecidableEq

structure RecordingDirectSourceLookup where
  available : Bool := false
  reasonCode : String := ""
  readableBytes : Nat := 0
  deriving DecidableEq

abbrev RecordingDirectSourceRegistry : Type := List (Bytes × DirectSourceEntry)

structure RecordingFiles where
  lookedUp : SourceInspection
  before : SourceInspection
  opened : Nat → FileObservation
  after : SourceInspection

def DirectSourceEntry.validate (entry : DirectSourceEntry) (inspection : SourceInspection) :
    RecordingDirectSourceLookup :=
  let current := inspectRecordingSource entry.recordingDirectory entry.segmentPaths inspection
  if current.valid = false then
    { reasonCode :=
        if current.reasonCode.isEmpty then "recording_source_unavailable" else current.reasonCode }
  else if current.growing then { reasonCode := "recording_source_is_growing" }
  else if current.value ≠ entry.sourceFingerprint ∨ current.readableBytes ≠ entry.readableBytes then
    { reasonCode := "recording_source_changed" }
  else { available := true, readableBytes := current.readableBytes }

def RecordingDirectSourceRegistry.lookup (registry : RecordingDirectSourceRegistry)
    (sessionId : Bytes) (files : RecordingFiles) : RecordingDirectSourceLookup :=
  match List.lookup sessionId registry with
  | none => { reasonCode := "recording_direct_source_not_registered" }
  | some entry => entry.validate files.lookedUp

def DirectSourceEntry.catalog (entry : DirectSourceEntry) (opened : Nat → FileObservation) :
    SegmentCatalog :=
  .entries (entry.segmentPaths.zipIdx.map fun (path, position) =>
    { path := path.written, file := opened position })

def RecordingDirectSourceRegistry.read (registry : RecordingDirectSourceRegistry)
    (sessionId : Bytes) (files : RecordingFiles) (offset requestedBytes : Nat) :
    Option RecordingByteReadResult :=
  match List.lookup sessionId registry with
  | none => some { reasonCode := "recording_direct_source_not_registered" }
  | some entry =>
    if (entry.validate files.before).available = false then
      some { reasonCode := (entry.validate files.before).reasonCode }
    else
      match (SegmentedRecordingByteSource.make false).read (entry.catalog files.opened) offset
          requestedBytes with
      | none => none
      | some result =>
        if result.success = false then some result
        else if (entry.validate files.after).available = false then
          some { reasonCode := (entry.validate files.after).reasonCode }
        else
          some { result with
            extent := { result.extent with
              readableBytes := (entry.validate files.after).readableBytes
              growing := false } }

end VdrSuite.Media
