import VdrSuite.Osd.OsdControllerLease
import VdrSuite.Osd.OsdFrameBuffer

/-! Bindings of OSD viewers: attaching to a session, reading the frames of its surface with
acknowledgements, and the revision that makes a read store its binding only over the one it found. -/

set_option autoImplicit false

namespace VdrSuite.Osd.Viewer

open Library

/-! ## Bindings and sessions -/

/-- Revisions are counted without a bound: a binding ends with its session. -/
structure OsdViewerBinding extends Osd.OsdViewerBinding where
  viewerBindingId : Bytes := []
  bindingRevision : Nat := 0
  sessionRevision : Nat := 0
  lastAcknowledgedFrameSequence : Nat := 0
  lastDeliveredFrameSequence : Nat := 0
  lastAcknowledgedEventSequence : Nat := 0
  attachedAt : Int := 0
  lastSeenAt : Int := 0
  controlAuthorized : Bool := false
  closeReason : Bytes := []
  deriving DecidableEq

structure LegacyOsdSession extends Osd.LegacyOsdSession where
  closeReason : Bytes := []
  deriving DecidableEq

structure BackendAgentOsdReadResult where
  available : Bool := false
  reasonCode : Bytes := []
  buffer : SuiteBridgeOsdFrameBufferSnapshot := {}
  deriving DecidableEq

structure LegacyOsdSessionResult where
  accepted : Bool := false
  error : Bytes := []
  session : LegacyOsdSession := {}
  observation : BackendAgentOsdReadResult := {}
  deriving DecidableEq

def sessionViewable (session : LegacyOsdSession) : Bool :=
  session.state == .active || session.state == .resyncRequired

def sameSurface (binding : OsdViewerBinding) (surface : OsdSurfaceRef) : Bool :=
  binding.backendId == surface.backendId && binding.backendGeneration == surface.backendGeneration &&
    binding.osdSurfaceId == surface.surfaceId && binding.osdEpoch == surface.osdEpoch

/-! ## Requests and results -/

structure OsdViewerAttachRequest where
  actorId : Bytes
  clientInstanceId : Bytes
  backendId : Bytes
  legacyOsdSessionId : Bytes
  deriving DecidableEq

structure OsdViewerReadRequest extends OsdControllerHolder where
  acknowledgedFrameSequence : Nat := 0
  deriving DecidableEq

abbrev OsdViewerDetachRequest : Type := OsdControllerHolder

inductive OsdViewerDeliveryState
  | frame
  | noChange
  | resyncRequired
  | suspended
  deriving DecidableEq

structure OsdViewerBindingResult where
  accepted : Bool := false
  error : Bytes := []
  binding : OsdViewerBinding := {}
  deriving DecidableEq

structure OsdViewerDeliveryResult where
  accepted : Bool := false
  error : Bytes := []
  reasonCode : Bytes := []
  state : OsdViewerDeliveryState := .suspended
  binding : OsdViewerBinding := {}
  hasFrame : Bool := false
  frame : OsdFrame := {}
  deriving DecidableEq

def rejectBinding (error : Bytes) : OsdViewerBindingResult := { error := error }

def rejectDelivery (error : Bytes) : OsdViewerDeliveryResult := { error := error }

/-! ## The bindings behind the mutex -/

structure OsdViewerBindings where
  rows : List OsdViewerBinding := []
  keyed : Table.Keyed OsdViewerBinding.viewerBindingId rows := by exact List.nodup_nil

def maximumBindings : Nat := 64

def maximumBindingsPerSession : Nat := 8

namespace OsdViewerBindings

def find (bindings : OsdViewerBindings) (viewerBindingId : Bytes) : Option OsdViewerBinding :=
  Table.lookup OsdViewerBinding.viewerBindingId viewerBindingId bindings.rows

def reapExpired (bindings : OsdViewerBindings) (now : Int) : OsdViewerBindings where
  rows := Table.delete (fun binding => decide (now ≥ binding.expiresAt)) bindings.rows
  keyed := Table.keyed_delete _ _ bindings.keyed

def erase (bindings : OsdViewerBindings) (viewerBindingId : Bytes) : OsdViewerBindings where
  rows := Table.delete (fun binding => binding.viewerBindingId == viewerBindingId) bindings.rows
  keyed := Table.keyed_delete _ _ bindings.keyed

def put (bindings : OsdViewerBindings) (binding : OsdViewerBinding) : OsdViewerBindings where
  rows := Table.upsert OsdViewerBinding.viewerBindingId binding bindings.rows
  keyed := Table.keyed_upsert _ bindings.keyed

def updateBinding (bindings : OsdViewerBindings) (binding : OsdViewerBinding)
    (expectedRevision : Nat) : Option (OsdViewerBindings × OsdViewerBinding) :=
  match bindings.find binding.viewerBindingId with
  | none => none
  | some found =>
    if found.bindingRevision ≠ expectedRevision then none
    else
      some (bindings.put { binding with bindingRevision := expectedRevision + 1 },
        { binding with bindingRevision := expectedRevision + 1 })

def eraseBinding (bindings : OsdViewerBindings) (viewerBindingId : Bytes)
    (expectedRevision : Nat) : OsdViewerBindings :=
  match bindings.find viewerBindingId with
  | none => bindings
  | some found =>
    if found.bindingRevision = expectedRevision then bindings.erase viewerBindingId else bindings

end OsdViewerBindings

/-! ## Attaching and detaching -/

def OsdViewerAttachRequest.safe (request : OsdViewerAttachRequest) : Bool :=
  safeIdentifier request.actorId true && safeIdentifier request.clientInstanceId true &&
    safeIdentifier request.backendId false && safeIdentifier request.legacyOsdSessionId false

def attachedBinding (request : OsdViewerAttachRequest) (session : LegacyOsdSession) (now : Int)
    (viewerId : Bytes) : OsdViewerBinding where
  viewerBindingId := viewerId
  bindingRevision := 1
  actorId := request.actorId
  clientInstanceId := request.clientInstanceId
  legacyOsdSessionId := request.legacyOsdSessionId
  sessionRevision := session.sessionRevision
  backendId := session.backendId
  backendGeneration := session.backendGeneration
  osdSurfaceId := session.osdSurfaceId
  osdEpoch := session.osdEpoch
  attachedAt := now
  lastSeenAt := now
  expiresAt := session.expiresAt
  state := .resyncRequired
  controlAuthorized := false
  closeReason := text "initial_full_frame_required"

def insertBinding (bindings : OsdViewerBindings) (binding : OsdViewerBinding) :
    OsdViewerBindings × OsdViewerBindingResult :=
  if bindings.rows.length ≥ maximumBindings then
    (bindings, rejectBinding (text "legacy_osd_viewer_capacity_reached"))
  else if bindings.rows.countP (fun other =>
      other.legacyOsdSessionId == binding.legacyOsdSessionId) ≥ maximumBindingsPerSession then
    (bindings, rejectBinding (text "legacy_osd_viewer_session_capacity_reached"))
  else if (bindings.find binding.viewerBindingId).isSome then
    (bindings, rejectBinding (text "legacy_osd_viewer_id_collision"))
  else (bindings.put binding, { accepted := true, binding := binding })

def attach (bindings : OsdViewerBindings) (request : OsdViewerAttachRequest) (now : Int)
    (sessionResult : LegacyOsdSessionResult) (viewerId : Bytes) :
    OsdViewerBindings × OsdViewerBindingResult :=
  if request.safe = false then
    (bindings, rejectBinding (text "legacy_osd_viewer_request_invalid"))
  else if now < 0 then (bindings, rejectBinding (text "legacy_osd_time_unavailable"))
  else if sessionResult.accepted = false then
    (bindings.reapExpired now,
      rejectBinding (if sessionResult.error.isEmpty then text "legacy_osd_viewer_session_invalid"
        else sessionResult.error))
  else if sessionViewable sessionResult.session = false ∨
      sessionResult.session.backendGeneration = 0 ∨ sessionResult.session.osdSurfaceId.isEmpty ∨
      sessionResult.session.osdEpoch.isEmpty ∨ now ≥ sessionResult.session.expiresAt then
    (bindings.reapExpired now, rejectBinding (text "legacy_osd_viewer_session_unavailable"))
  else if safeIdentifier viewerId false = false then
    (bindings.reapExpired now, rejectBinding (text "legacy_osd_viewer_id_unavailable"))
  else
    insertBinding (bindings.reapExpired now)
      (attachedBinding request sessionResult.session now viewerId)

def detach (bindings : OsdViewerBindings) (request : OsdViewerDetachRequest) (now : Int) :
    OsdViewerBindings × OsdViewerBindingResult :=
  if request.safe = false then
    (bindings, rejectBinding (text "legacy_osd_viewer_request_invalid"))
  else if now < 0 then (bindings, rejectBinding (text "legacy_osd_time_unavailable"))
  else
    match (bindings.reapExpired now).find request.viewerBindingId with
    | none => (bindings.reapExpired now, rejectBinding (text "legacy_osd_viewer_not_found"))
    | some found =>
      if request.views found.toOsdViewerBinding = false then
        (bindings.reapExpired now, rejectBinding (text "legacy_osd_viewer_not_found"))
      else
        ((bindings.reapExpired now).erase request.viewerBindingId,
          { accepted := true
            binding := { found with
              bindingRevision := found.bindingRevision + 1
              lastSeenAt := now
              state := .closed
              controlAuthorized := false
              closeReason := text "detached" } })

/-! ## Reading -/

def requireResync (binding : OsdViewerBinding) (reason : Bytes) : OsdViewerBinding :=
  { binding with
    state := .resyncRequired
    lastAcknowledgedFrameSequence := 0
    lastDeliveredFrameSequence := 0
    lastAcknowledgedEventSequence := 0
    closeReason := reason }

inductive Examination where
  | erase (error : Bytes)
  | store (binding : OsdViewerBinding) (result : OsdViewerDeliveryResult)
  deriving DecidableEq

def resyncNotice (binding : OsdViewerBinding) (reason : Bytes) : Examination :=
  .store (requireResync binding reason)
    { accepted := true, state := .resyncRequired, reasonCode := reason }

def suspension (binding : OsdViewerBinding) (reason : Bytes) : Examination :=
  .store { binding with state := .suspended, closeReason := reason }
    { accepted := true, state := .suspended, reasonCode := reason }

def noChange (binding : OsdViewerBinding) : Examination :=
  .store { binding with state := .attached, closeReason := [] }
    { accepted := true, state := .noChange }

def frameDelivery (binding : OsdViewerBinding) (frame : OsdFrame) : Examination :=
  .store
    { binding with
      state := .attached
      closeReason := []
      lastDeliveredFrameSequence := frame.frameSequence }
    { accepted := true, state := .frame, hasFrame := true, frame := frame }

def examineFrame (binding : OsdViewerBinding) (acknowledged : Nat) (frame : OsdFrame) : Examination :=
  if acknowledged ≠ binding.lastAcknowledgedFrameSequence ∧
      acknowledged ≠ binding.lastDeliveredFrameSequence then
    resyncNotice binding (text "viewer_ack_conflict")
  else
    let binding :=
      if binding.lastDeliveredFrameSequence ≠ 0 ∧
          acknowledged = binding.lastDeliveredFrameSequence then
        { binding with lastAcknowledgedFrameSequence := binding.lastDeliveredFrameSequence }
      else binding
    if binding.lastDeliveredFrameSequence ≠ binding.lastAcknowledgedFrameSequence then
      if frame.frameSequence ≠ binding.lastDeliveredFrameSequence then
        resyncNotice binding (text "viewer_backpressure_resync_required")
      else frameDelivery binding frame
    else if binding.lastAcknowledgedFrameSequence = 0 ∨ binding.state = .resyncRequired then
      frameDelivery binding frame
    else if frame.frameSequence = binding.lastAcknowledgedFrameSequence then noChange binding
    else if binding.lastAcknowledgedFrameSequence ≠ 18446744073709551615 ∧
        frame.frameSequence = binding.lastAcknowledgedFrameSequence + 1 then
      frameDelivery binding frame
    else resyncNotice binding (text "viewer_sequence_gap")

def refreshed (found : OsdViewerBinding) (session : LegacyOsdSession) (now : Int) : OsdViewerBinding :=
  { found with
    sessionRevision := session.sessionRevision
    lastSeenAt := now
    expiresAt := min found.expiresAt session.expiresAt }

def examine (found : OsdViewerBinding) (acknowledged : Nat) (now : Int)
    (sessionResult : LegacyOsdSessionResult) : Examination :=
  let session := sessionResult.session
  let binding := refreshed found session now
  let observation := sessionResult.observation
  let frame := observation.buffer.observed.frame
  if sessionResult.accepted = false then
    .erase (if sessionResult.error.isEmpty then text "legacy_osd_viewer_session_invalid"
      else sessionResult.error)
  else if session.backendGeneration ≠ binding.backendGeneration then
    .erase (text "legacy_osd_backend_generation_changed")
  else if session.state = .suspended then
    suspension binding
      (if session.closeReason.isEmpty then text "osd_suspended" else session.closeReason)
  else if sessionViewable session = false ∨ session.osdSurfaceId.isEmpty ∨
      session.osdEpoch.isEmpty then
    .erase (text "legacy_osd_viewer_session_unavailable")
  else if binding.osdSurfaceId ≠ session.osdSurfaceId ∨ binding.osdEpoch ≠ session.osdEpoch then
    resyncNotice
      { binding with osdSurfaceId := session.osdSurfaceId, osdEpoch := session.osdEpoch }
      (text "osd_surface_or_epoch_changed")
  else if session.state = .resyncRequired then
    resyncNotice binding (text "osd_resync_required")
  else if binding.state = .suspended then
    resyncNotice binding (text "viewer_resume_resync_required")
  else if observation.available = false ∨ observation.buffer.hasFrame = false then
    suspension binding
      (if observation.reasonCode.isEmpty then text "osd_unavailable" else observation.reasonCode)
  else if frame.fullFrame = false ∨ frame.complete = false ∨ frame.frameSequence = 0 ∨
      osdFrameWithinLimits frame = false ∨ sameSurface binding frame.surface = false then
    resyncNotice binding (text "viewer_frame_inconsistent")
  else examineFrame binding acknowledged frame

def beginRead (bindings : OsdViewerBindings) (request : OsdViewerReadRequest) (now : Int) :
    OsdViewerBindings × Except Bytes OsdViewerBinding :=
  if request.safe = false then (bindings, .error (text "legacy_osd_viewer_request_invalid"))
  else if now < 0 then (bindings, .error (text "legacy_osd_time_unavailable"))
  else
    match (bindings.reapExpired now).find request.viewerBindingId with
    | none => (bindings.reapExpired now, .error (text "legacy_osd_viewer_not_found"))
    | some found =>
      if request.views found.toOsdViewerBinding = false then
        (bindings.reapExpired now, .error (text "legacy_osd_viewer_not_found"))
      else (bindings.reapExpired now, .ok found)

/-- The second section of a read: what it means to do, over the revision that it has found. -/
def concludeRead (bindings : OsdViewerBindings) (found : OsdViewerBinding) :
    Examination → OsdViewerBindings × OsdViewerDeliveryResult
  | .erase error =>
    (bindings.eraseBinding found.viewerBindingId found.bindingRevision, rejectDelivery error)
  | .store binding result =>
    match bindings.updateBinding binding found.bindingRevision with
    | none => (bindings, rejectDelivery (text "legacy_osd_viewer_concurrent_update"))
    | some (bindings, binding) => (bindings, { result with binding := binding })

def read (bindings : OsdViewerBindings) (request : OsdViewerReadRequest) (now : Int)
    (sessionResult : LegacyOsdSessionResult) : OsdViewerBindings × OsdViewerDeliveryResult :=
  match beginRead bindings request now with
  | (bindings, .error error) => (bindings, rejectDelivery error)
  | (bindings, .ok found) =>
    concludeRead bindings found (examine found request.acknowledgedFrameSequence now sessionResult)

/-! ## The service with reads in progress -/

structure PendingRead where
  request : OsdViewerReadRequest
  now : Int
  found : OsdViewerBinding
  deriving DecidableEq

structure ViewerService where
  bindings : OsdViewerBindings := {}
  reads : List PendingRead := []

/-- What one thread does at once. A read consults the session service between its sections. -/
inductive ViewerStep where
  | attach (request : OsdViewerAttachRequest) (now : Int) (sessionResult : LegacyOsdSessionResult)
      (viewerId : Bytes)
  | beginRead (request : OsdViewerReadRequest) (now : Int)
  | concludeRead (index : Nat) (sessionResult : LegacyOsdSessionResult)
  | detach (request : OsdViewerDetachRequest) (now : Int)
  deriving DecidableEq

inductive ViewerAnswer where
  | bound (result : OsdViewerBindingResult)
  | began
  | delivered (read : PendingRead) (result : OsdViewerDeliveryResult)
  | refused (result : OsdViewerDeliveryResult)
  | nothing
  deriving DecidableEq

namespace ViewerService

def step (service : ViewerService) : ViewerStep → ViewerService × ViewerAnswer
  | .attach request now sessionResult viewerId =>
    let (bindings, result) := Viewer.attach service.bindings request now sessionResult viewerId
    ({ service with bindings := bindings }, .bound result)
  | .beginRead request now =>
    match Viewer.beginRead service.bindings request now with
    | (bindings, .error error) =>
      ({ service with bindings := bindings }, .refused (rejectDelivery error))
    | (bindings, .ok found) =>
      ({ bindings := bindings, reads := service.reads ++ [⟨request, now, found⟩] }, .began)
  | .concludeRead index sessionResult =>
    match service.reads[index]? with
    | none => (service, .nothing)
    | some read =>
      let (bindings, result) := Viewer.concludeRead service.bindings read.found
        (examine read.found read.request.acknowledgedFrameSequence read.now sessionResult)
      ({ bindings := bindings, reads := service.reads.eraseIdx index }, .delivered read result)
  | .detach request now =>
    let (bindings, result) := Viewer.detach service.bindings request now
    ({ service with bindings := bindings }, .bound result)

end ViewerService

end VdrSuite.Osd.Viewer
