import VdrSuite.Agent.CommandRecord

/-! The payload of `vdr.legacy-osd.input`. -/

set_option autoImplicit false

namespace VdrSuite.Agent

open Library

inductive LegacyOsdInputAction where
  | up
  | down
  | left
  | right
  | ok
  | back
  | red
  | green
  | yellow
  | blue
  deriving DecidableEq

def legacyOsdInputActionName : LegacyOsdInputAction → Bytes
  | .up => text "up"
  | .down => text "down"
  | .left => text "left"
  | .right => text "right"
  | .ok => text "ok"
  | .back => text "back"
  | .red => text "red"
  | .green => text "green"
  | .yellow => text "yellow"
  | .blue => text "blue"

def legacyOsdInputActionFromName (value : Bytes) : Option LegacyOsdInputAction :=
  [LegacyOsdInputAction.up, .down, .left, .right, .ok, .back, .red, .green, .yellow, .blue].find?
    fun action => value == legacyOsdInputActionName action

structure LegacyOsdInputCommand where
  inputCommandId : Bytes := []
  legacyOsdSessionId : Bytes := []
  sessionRevision : Nat := 0
  viewerBindingId : Bytes := []
  controllerLeaseId : Bytes := []
  controllerLeaseEpoch : Nat := 0
  leaseRevision : Nat := 0
  actorId : Bytes := []
  clientInstanceId : Bytes := []
  backendId : Bytes := []
  backendGeneration : Nat := 0
  osdSurfaceId : Bytes := []
  osdEpoch : Bytes := []
  action : LegacyOsdInputAction := .up
  inputMode : Bytes := text "press"
  repeatCount : Nat := 1
  deadline : Int := 0
  correlationId : Bytes := []
  deriving DecidableEq

def legacyOsdInputSafeToken (value : Bytes) (allowColon : Bool) (maximumBytes : Nat) : Bool :=
  !value.isEmpty && value.length ≤ maximumBytes &&
  value.all fun byte =>
    isAlphanumeric byte || byte == 45 || byte == 95 || byte == 46 || (allowColon && byte == 58)

def legacyOsdInputCommandValid (command : LegacyOsdInputCommand) : Bool :=
  legacyOsdInputSafeToken command.inputCommandId true 96 &&
  legacyOsdInputSafeToken command.legacyOsdSessionId false 128 &&
  0 < command.sessionRevision &&
  legacyOsdInputSafeToken command.viewerBindingId false 128 &&
  legacyOsdInputSafeToken command.controllerLeaseId false 128 &&
  0 < command.controllerLeaseEpoch && 0 < command.leaseRevision &&
  legacyOsdInputSafeToken command.actorId true 128 &&
  legacyOsdInputSafeToken command.clientInstanceId true 128 &&
  legacyOsdInputSafeToken command.backendId false 128 &&
  0 < command.backendGeneration &&
  legacyOsdInputSafeToken command.osdSurfaceId true 128 &&
  legacyOsdInputSafeToken command.osdEpoch false 128 &&
  legacyOsdInputSafeToken (legacyOsdInputActionName command.action) false 128 &&
  command.inputMode == text "press" && command.repeatCount == 1 &&
  decide (0 < command.deadline) &&
  legacyOsdInputSafeToken command.correlationId true 128

def legacyOsdInputParseUnsigned (value : Bytes) : Option Nat :=
  parseDecimal Netstring.uint64Max value

def legacyOsdInputCommandParse (encoded : Bytes) : Option LegacyOsdInputCommand :=
  if encoded.isEmpty ∨ encoded.length > 2048 then none
  else
    match encoded.splitOn 124 with
    | [heading, inputCommandId, legacyOsdSessionId, sessionRevision, viewerBindingId,
        controllerLeaseId, controllerLeaseEpoch, leaseRevision, actorId, clientInstanceId,
        backendId, backendGeneration, osdSurfaceId, osdEpoch, action, inputMode, repeatCount,
        deadline] => do
        let sessionRevision ← legacyOsdInputParseUnsigned sessionRevision
        let controllerLeaseEpoch ← legacyOsdInputParseUnsigned controllerLeaseEpoch
        let leaseRevision ← legacyOsdInputParseUnsigned leaseRevision
        let backendGeneration ← legacyOsdInputParseUnsigned backendGeneration
        let action ← legacyOsdInputActionFromName action
        let repeatCount ← legacyOsdInputParseUnsigned repeatCount
        let deadline ← legacyOsdInputParseUnsigned deadline
        let parsed : LegacyOsdInputCommand :=
          { inputCommandId, legacyOsdSessionId, sessionRevision, viewerBindingId
            controllerLeaseId, controllerLeaseEpoch, leaseRevision, actorId, clientInstanceId
            backendId, backendGeneration, osdSurfaceId, osdEpoch, action, inputMode, repeatCount
            deadline, correlationId := text "internal" }
        if heading ≠ text "osdi1" ∨ deadline > int64Max ∨
            legacyOsdInputCommandValid parsed = false then none
        else some parsed
    | _ => none

end VdrSuite.Agent
