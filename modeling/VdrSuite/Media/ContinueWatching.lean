import Mathlib.Data.List.Sort
import VdrSuite.Library.Run
import VdrSuite.Library.Table
import VdrSuite.Library.Bytes

/-! Continue-watching positions: the SQLite repository with its revisions, and the service over it. -/

set_option autoImplicit false

namespace VdrSuite.Media

open Library

/-- A row of `continue_watching_state`. -/
structure ContinueWatchingState where
  actorId : Bytes
  backendId : Bytes
  recordingId : Bytes
  backendNativeId : Bytes
  positionSeconds : Int
  lastActivityAt : Bytes
  lastOperationId : Bytes
  revision : Nat
  deriving DecidableEq

def ContinueWatchingState.key (state : ContinueWatchingState) : Bytes × Bytes × Bytes :=
  (state.actorId, state.backendId, state.recordingId)

abbrev WatchTable : Type := List ContinueWatchingState

inductive ContinueWatchingMutationStatus
  | applied
  | replayed
  | conflict
  | invalid
  | unavailable
  deriving DecidableEq

structure ContinueWatchingMutationResult where
  status : ContinueWatchingMutationStatus := .unavailable
  revision : Nat := 0
  deriving DecidableEq

/-- What a call meets outside the table: which of its statements the database carries out, and the
text of the time. -/
structure WatchEnvironment where
  carriedOut : Nat → Bool := fun _ => true
  now : Bytes

def validScope (actorId backendId recordingId : Bytes) : Bool :=
  !actorId.isEmpty && !backendId.isEmpty && !recordingId.isEmpty

/-- `revision+1`: an integer that overflows becomes a real, which reads back as the largest integer. -/
def nextRevision (revision : Nat) : Nat := min (revision + 1) int64Max

/-! ## Recording a position -/

structure ProgressUpsert where
  actorId : Bytes
  backendId : Bytes
  recordingId : Bytes
  backendNativeId : Bytes
  positionSeconds : Int
  operationId : Bytes
  deriving DecidableEq

namespace ProgressUpsert

variable (upsert : ProgressUpsert)

def key : Bytes × Bytes × Bytes := (upsert.actorId, upsert.backendId, upsert.recordingId)

def valid : Bool :=
  validScope upsert.actorId upsert.backendId upsert.recordingId &&
  !upsert.backendNativeId.isEmpty && 0 < upsert.positionSeconds && !upsert.operationId.isEmpty

def supersedes (row : ContinueWatchingState) : Bool :=
  row.actorId == upsert.actorId && row.backendId == upsert.backendId &&
  row.backendNativeId == upsert.backendNativeId && row.recordingId != upsert.recordingId

def inserted (now : Bytes) : ContinueWatchingState :=
  { actorId := upsert.actorId
    backendId := upsert.backendId
    recordingId := upsert.recordingId
    backendNativeId := upsert.backendNativeId
    positionSeconds := upsert.positionSeconds
    lastActivityAt := now
    lastOperationId := upsert.operationId
    revision := 1 }

def raised (now : Bytes) (row : ContinueWatchingState) : ContinueWatchingState :=
  { row with
    backendNativeId := upsert.backendNativeId
    positionSeconds := upsert.positionSeconds
    lastActivityAt := now
    lastOperationId := upsert.operationId
    revision := nextRevision row.revision }

/-- `INSERT … ON CONFLICT … DO UPDATE … WHERE` another operation wrote the row. -/
def written (now : Bytes) (table : WatchTable) : WatchTable :=
  if (Table.lookup ContinueWatchingState.key upsert.key table).isSome then
    Table.update
      (fun row => row.key == upsert.key && row.lastOperationId != upsert.operationId)
      (upsert.raised now) table
  else table ++ [upsert.inserted now]

end ProgressUpsert

def upsert (environment : WatchEnvironment) (request : ProgressUpsert) (table : WatchTable) :
    Bool × WatchTable :=
  if request.valid = false then (false, table)
  else if environment.carriedOut 0 = false then (false, table)
  else
    let remaining := Table.delete request.supersedes table
    if environment.carriedOut 1 = false then (false, remaining)
    else (true, request.written environment.now remaining)

/-! ## Conditional updates -/

structure ProgressUpdate where
  actorId : Bytes
  backendId : Bytes
  recordingId : Bytes
  backendNativeId : Bytes
  positionSeconds : Int
  operationId : Bytes
  expectedRevision : Int
  deriving DecidableEq

namespace ProgressUpdate

variable (update : ProgressUpdate)

def key : Bytes × Bytes × Bytes := (update.actorId, update.backendId, update.recordingId)

def valid : Bool :=
  validScope update.actorId update.backendId update.recordingId &&
  !update.backendNativeId.isEmpty && !update.operationId.isEmpty &&
  update.operationId.length ≤ 128 && 0 ≤ update.positionSeconds && 0 ≤ update.expectedRevision

def found (table : WatchTable) : Option ContinueWatchingState :=
  (table.find? fun row => row.actorId == update.actorId && row.backendId == update.backendId &&
    row.recordingId == update.recordingId).or
  (table.find? fun row => row.actorId == update.actorId && row.backendId == update.backendId &&
    row.backendNativeId == update.backendNativeId)

def inserted (now : Bytes) : ContinueWatchingState :=
  { actorId := update.actorId
    backendId := update.backendId
    recordingId := update.recordingId
    backendNativeId := update.backendNativeId
    positionSeconds := update.positionSeconds
    lastActivityAt := now
    lastOperationId := update.operationId
    revision := 1 }

def moved (now : Bytes) (row : ContinueWatchingState) : ContinueWatchingState :=
  { row with
    recordingId := update.recordingId
    positionSeconds := update.positionSeconds
    lastActivityAt := now
    lastOperationId := update.operationId
    revision := nextRevision row.revision }

/-- `INSERT`; the row of a recording that has one already is refused. -/
def insertRow (now : Bytes) (table : WatchTable) : Option WatchTable :=
  if update.key ∈ table.map ContinueWatchingState.key then none
  else some (table ++ [update.inserted now])

/-- What the `UPDATE` selects; the recording is compared as it was read, as a C string. -/
def selects (existingRecording : Bytes) (row : ContinueWatchingState) : Bool :=
  row.actorId == update.actorId && row.backendId == update.backendId &&
  row.recordingId == existingRecording && row.backendNativeId == update.backendNativeId &&
  (row.revision : Int) == update.expectedRevision

/-- `UPDATE` of exactly one row, whose new recording no other row may have. -/
def updateRow (existingRecording : Bytes) (now : Bytes) (table : WatchTable) : Option WatchTable :=
  if table.countP (update.selects existingRecording) = 1 ∧
      ((table.filter fun row => !update.selects existingRecording row).all
        fun row => row.key != update.key) = true then
    some (Table.update (update.selects existingRecording) (update.moved now) table)
  else none

end ProgressUpdate

def updateConditional (environment : WatchEnvironment) (request : ProgressUpdate)
    (table : WatchTable) : ContinueWatchingMutationResult × WatchTable :=
  if request.valid = false then ({ status := .invalid, revision := 0 }, table)
  else if environment.carriedOut 0 = false then ({ status := .unavailable, revision := 0 }, table)
  else
    match request.found table with
    | none =>
      if request.expectedRevision ≠ 0 then ({ status := .conflict, revision := 0 }, table)
      else
        match request.insertRow environment.now table with
        | none => ({ status := .unavailable, revision := 0 }, table)
        | some next =>
          if environment.carriedOut 1 = false then
            ({ status := .unavailable, revision := 0 }, table)
          else ({ status := .applied, revision := 1 }, next)
    | some existing =>
      let revision := existing.revision
      if cString existing.backendNativeId ≠ request.backendNativeId then
        ({ status := .conflict, revision := revision }, table)
      else if cString existing.lastOperationId = request.operationId then
        ({ status :=
            if existing.positionSeconds = request.positionSeconds then .replayed else .conflict
           revision := revision }, table)
      else if (revision : Int) ≠ request.expectedRevision ∨ revision = int64Max then
        ({ status := .conflict, revision := revision }, table)
      else
        match request.updateRow (cString existing.recordingId) environment.now table with
        | none => ({ status := .unavailable, revision := revision }, table)
        | some next =>
          if environment.carriedOut 1 = false then
            ({ status := .unavailable, revision := revision }, table)
          else ({ status := .applied, revision := revision + 1 }, next)

/-! ## Clearing -/

structure ProgressClear where
  actorId : Bytes
  backendId : Bytes
  recordingId : Bytes
  backendNativeId : Bytes := []
  deriving DecidableEq

def ProgressClear.selects (clear : ProgressClear) (row : ContinueWatchingState) : Bool :=
  row.actorId == clear.actorId && row.backendId == clear.backendId &&
  (row.recordingId == clear.recordingId ||
    (!clear.backendNativeId.isEmpty && row.backendNativeId == clear.backendNativeId))

def clear (environment : WatchEnvironment) (request : ProgressClear) (table : WatchTable) :
    Bool × WatchTable :=
  if validScope request.actorId request.backendId request.recordingId = false then (false, table)
  else if environment.carriedOut 0 = false then (false, table)
  else (true, Table.delete request.selects table)

/-! ## Calls of the repository -/

inductive WatchCall
  | upsert (request : ProgressUpsert)
  | updateConditional (request : ProgressUpdate)
  | clear (request : ProgressClear)
  deriving DecidableEq

inductive WatchAnswer
  | reported (success : Bool)
  | mutated (result : ContinueWatchingMutationResult)
  deriving DecidableEq

def WatchAnswer.failed : WatchAnswer → Bool
  | .reported success => !success
  | .mutated result => result.status != .applied && result.status != .replayed

abbrev WatchRequest : Type := WatchEnvironment × WatchCall

def watchStep (table : WatchTable) : WatchRequest → WatchTable × WatchAnswer
  | (environment, .upsert request) =>
    let (success, next) := upsert environment request table
    (next, .reported success)
  | (environment, .updateConditional request) =>
    let (result, next) := updateConditional environment request table
    (next, .mutated result)
  | (environment, .clear request) =>
    let (success, next) := clear environment request table
    (next, .reported success)

end VdrSuite.Media
