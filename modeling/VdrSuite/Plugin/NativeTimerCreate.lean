import VdrSuite.Plugin.NativeRequest

/-! The plugin's reader of `NTCREATE EXEC` requests. -/

set_option autoImplicit false

namespace VdrSuite.Plugin

open Library Agent

structure SuiteBridgeNativeTimerCreateRequest extends SuiteBridgeNativeRequest where
  timerAssignmentId : Bytes := []
  expectedAssignmentRevision : Bytes := []
  expectedIntentRevision : Bytes := []
  assignmentEpoch : Nat := 0
  nativeTimerBindingId : Bytes := []
  expectedSpecificationFingerprint : Bytes := []
  channelId : Bytes := []
  title : Bytes := []
  directory : Bytes := []
  day : Bytes := []
  weekdays : Bytes := []
  startTime : Bytes := []
  endTime : Bytes := []
  priority : Nat := 0
  lifetime : Nat := 0
  enabled : Bool := false
  vps : Bool := false
  deriving DecidableEq

namespace NativeTimerCreate

def operation : Bytes := text "vdr.timer.create"

def maximumDecodedFieldBytes : Nat := 1024

def maximumDecodedSpecificationFingerprintBytes : Nat := 4096

def hexValue (maximum : Nat) (token : Bytes) : Option Bytes :=
  decodeText Hex.hexValue maximum token

def number (token : Bytes) : Option Nat := unsignedValue int64Max true token

def specificationFingerprint (request : SuiteBridgeNativeTimerCreateRequest) : Bytes :=
  text "native-timer-specification/1|" ++ Netstring.record
    [request.channelId, request.title, request.directory, request.day, request.weekdays,
      request.startTime, request.endTime, decimal request.priority, decimal request.lifetime,
      Netstring.boolField request.enabled, Netstring.boolField request.vps]

def validRequest (request : SuiteBridgeNativeTimerCreateRequest) : Bool :=
  safeCommand request.toSuiteBridgeNativeRequest &&
  safeToken 512 request.requestFingerprint &&
  safeToken 192 request.timerAssignmentId &&
  safeToken 192 request.expectedAssignmentRevision &&
  safeToken 192 request.expectedIntentRevision &&
  safeToken 192 request.nativeTimerBindingId &&
  request.expectedSpecificationFingerprint == specificationFingerprint request &&
  !request.channelId.isEmpty &&
  request.title.length ≤ 1024 && request.directory.length ≤ 1024 &&
  request.day.length ≤ 64 && request.weekdays.length ≤ 64 &&
  request.startTime.length ≤ 16 && decide (request.endTime.length ≤ 16)

def parseExecute (option : Bytes) : Option SuiteBridgeNativeTimerCreateRequest :=
  match Words.split 48 (cString option) with
  | exec :: protocol :: native :: schema :: commandId :: requestFingerprint :: operationId ::
      operationRevision :: timerAssignmentId :: expectedAssignmentRevision ::
      expectedIntentRevision :: assignmentEpoch :: nativeTimerBindingId ::
      expectedSpecificationFingerprint :: rest =>
      match rest.drop 17 with
      | [channelId, title, directory, day, weekdays, startTime, endTime, priority, lifetime,
          enabled, vps] =>
          if exec ≠ text "EXEC" ∨ protocol ≠ text "vdr-suite-native/1" ∨ native ≠ operation ∨
              schema ≠ text "1" then none
          else do
            let assignmentEpoch ← number assignmentEpoch
            let expectedSpecificationFingerprint ←
              hexValue maximumDecodedSpecificationFingerprintBytes expectedSpecificationFingerprint
            let context ← parseContext int64Max (rest.take 17)
            let channelId ← hexValue maximumDecodedFieldBytes channelId
            let title ← hexValue maximumDecodedFieldBytes title
            let directory ← hexValue maximumDecodedFieldBytes directory
            let day ← hexValue maximumDecodedFieldBytes day
            let weekdays ← hexValue maximumDecodedFieldBytes weekdays
            let startTime ← hexValue maximumDecodedFieldBytes startTime
            let endTime ← hexValue maximumDecodedFieldBytes endTime
            let priority ← number priority
            let lifetime ← number lifetime
            let enabled ← booleanValue enabled
            let vps ← booleanValue vps
            let request : SuiteBridgeNativeTimerCreateRequest :=
              { toNativeExecutionContext := context
                commandId, requestFingerprint, operationId, operationRevision, timerAssignmentId
                expectedAssignmentRevision, expectedIntentRevision, assignmentEpoch
                nativeTimerBindingId, expectedSpecificationFingerprint, channelId, title, directory
                day, weekdays, startTime, endTime, priority, lifetime, enabled, vps }
            if validRequest request then some request else none
      | _ => none
  | _ => none

def canonicalRequest (request : SuiteBridgeNativeTimerCreateRequest) : Bytes :=
  canonicalCommand request.toSuiteBridgeNativeRequest ++
  appendCanonical request.timerAssignmentId ++
  appendCanonical request.expectedAssignmentRevision ++
  appendCanonical request.expectedIntentRevision ++
  appendCanonicalNumber request.assignmentEpoch ++
  appendCanonical request.nativeTimerBindingId ++
  appendCanonical request.expectedSpecificationFingerprint ++
  canonicalContext request.toNativeExecutionContext ++
  appendCanonical request.channelId ++ appendCanonical request.title ++
  appendCanonical request.directory ++ appendCanonical request.day ++
  appendCanonical request.weekdays ++ appendCanonical request.startTime ++
  appendCanonical request.endTime ++ appendCanonicalNumber request.priority ++
  appendCanonicalNumber request.lifetime ++ appendCanonicalFlag request.enabled ++
  appendCanonicalFlag request.vps

end NativeTimerCreate

end VdrSuite.Plugin
