import VdrSuite.Plugin.NativeRequest

/-! The plugin's readers of `NTMOD EXEC` and `NTDEL EXEC` requests. -/

set_option autoImplicit false

namespace VdrSuite.Plugin

open Library Agent

/-- `sha256:` and 64 lower-case hexadecimal digits. -/
def safeNativeFingerprint (value : Bytes) : Bool :=
  value.length == 71 && (text "sha256:").isPrefixOf value &&
  (value.drop 7).all fun byte => (Hex.hexValue byte).isSome

/-! ## Update and toggle -/

inductive SuiteBridgeNativeTimerModifyKind where
  | update
  | toggle
  deriving DecidableEq

structure SuiteBridgeNativeTimerModifyRequest extends SuiteBridgeNativeRequest where
  kind : SuiteBridgeNativeTimerModifyKind := .update
  nativeTimerBindingId : Bytes := []
  expectedBindingRevision : Bytes := []
  expectedNativeTimerFingerprint : Bytes := []
  timerAssignmentId : Bytes := []
  backendNativeTimerId : Bytes := []
  channelId : Bytes := []
  title : Bytes := []
  directory : Bytes := []
  day : Bytes := []
  weekdays : Bytes := []
  startTime : Bytes := []
  endTime : Bytes := []
  priority : Nat := 0
  lifetime : Nat := 0
  enabled : Bool := false
  vps : Bool := false
  deriving DecidableEq

namespace NativeTimerModify

def operation : SuiteBridgeNativeTimerModifyKind → Bytes
  | .update => text "vdr.timer.update"
  | .toggle => text "vdr.timer.toggle"

def parseKind (token : Bytes) : Option SuiteBridgeNativeTimerModifyKind :=
  if token = operation .update then some .update
  else if token = operation .toggle then some .toggle
  else none

def smallValue (token : Bytes) : Option Nat :=
  match unsignedValue Netstring.uint64Max false token with
  | none => none
  | some value => if value > 99 then none else some value

def validTime (value : Bytes) : Bool :=
  if value.all isDigit = false then false
  else
    match value.map digitValue with
    | [hourTens, hourOnes, minuteTens, minuteOnes] =>
      hourTens * 10 + hourOnes ≤ 23 && minuteTens * 10 + minuteOnes ≤ 59
    | _ => false

def validWeekdays (value : Bytes) : Bool :=
  value.length == 7 && value.all fun byte =>
    byte == 45 || (65 ≤ byte && byte ≤ 90) || (97 ≤ byte && byte ≤ 122)

def validRequest (request : SuiteBridgeNativeTimerModifyRequest) : Bool :=
  safeCommand request.toSuiteBridgeNativeRequest &&
  safeToken 512 request.requestFingerprint &&
  safeToken 192 request.nativeTimerBindingId &&
  safeToken 192 request.expectedBindingRevision &&
  safeNativeFingerprint request.expectedNativeTimerFingerprint &&
  safeToken 192 request.timerAssignmentId &&
  safeToken 192 request.backendNativeTimerId &&
  !request.channelId.isEmpty && validWeekdays request.weekdays &&
  validTime request.startTime && validTime request.endTime

def parseExecute (option : Bytes) : Option SuiteBridgeNativeTimerModifyRequest :=
  match Words.split 48 (cString option) with
  | exec :: protocol :: native :: schema :: commandId :: requestFingerprint :: operationId ::
      operationRevision :: nativeTimerBindingId :: expectedBindingRevision ::
      expectedNativeTimerFingerprint :: timerAssignmentId :: backendNativeTimerId :: channelId ::
      title :: directory :: day :: weekdays :: startTime :: endTime :: priority :: lifetime ::
      enabled :: vps :: context =>
      if exec ≠ text "EXEC" ∨ protocol ≠ text "vdr-suite-native/1" ∨ schema ≠ text "1" then none
      else do
        let kind ← parseKind native
        let channelId ← decodeText anyCaseNibble 192 channelId
        let title ← decodeText anyCaseNibble 1024 title
        let directory ← decodeText anyCaseNibble 1024 directory
        let day ← decodeText anyCaseNibble 192 day
        let weekdays ← decodeText anyCaseNibble 16 weekdays
        let startTime ← decodeText anyCaseNibble 8 startTime
        let endTime ← decodeText anyCaseNibble 8 endTime
        let priority ← smallValue priority
        let lifetime ← smallValue lifetime
        let enabled ← booleanValue enabled
        let vps ← booleanValue vps
        let context ← parseContext Netstring.uint64Max context
        let request : SuiteBridgeNativeTimerModifyRequest :=
          { toNativeExecutionContext := context
            kind, commandId, requestFingerprint, operationId, operationRevision
            nativeTimerBindingId, expectedBindingRevision, expectedNativeTimerFingerprint
            timerAssignmentId, backendNativeTimerId, channelId, title, directory, day, weekdays
            startTime, endTime, priority, lifetime, enabled, vps }
        if validRequest request then some request else none
  | _ => none

def canonicalRequest (request : SuiteBridgeNativeTimerModifyRequest) : Bytes :=
  appendCanonical (operation request.kind) ++
  canonicalCommand request.toSuiteBridgeNativeRequest ++
  appendCanonical request.nativeTimerBindingId ++
  appendCanonical request.expectedBindingRevision ++
  appendCanonical request.expectedNativeTimerFingerprint ++
  appendCanonical request.timerAssignmentId ++ appendCanonical request.backendNativeTimerId ++
  appendCanonical request.channelId ++ appendCanonical request.title ++
  appendCanonical request.directory ++ appendCanonical request.day ++
  appendCanonical request.weekdays ++ appendCanonical request.startTime ++
  appendCanonical request.endTime ++ appendCanonicalNumber request.priority ++
  appendCanonicalNumber request.lifetime ++ appendCanonicalFlag request.enabled ++
  appendCanonicalFlag request.vps ++ canonicalContext request.toNativeExecutionContext

end NativeTimerModify

/-! ## Deletion -/

structure SuiteBridgeNativeTimerDeleteRequest extends SuiteBridgeNativeRequest where
  nativeTimerBindingId : Bytes := []
  expectedBindingRevision : Bytes := []
  expectedNativeTimerFingerprint : Bytes := []
  timerAssignmentId : Bytes := []
  backendNativeTimerId : Bytes := []
  deriving DecidableEq

namespace NativeTimerDelete

def operation : Bytes := text "vdr.timer.delete"

def validRequest (request : SuiteBridgeNativeTimerDeleteRequest) : Bool :=
  safeCommand request.toSuiteBridgeNativeRequest &&
  safeToken 512 request.requestFingerprint &&
  safeToken 192 request.nativeTimerBindingId &&
  safeToken 192 request.expectedBindingRevision &&
  safeNativeFingerprint request.expectedNativeTimerFingerprint &&
  safeToken 192 request.timerAssignmentId && safeToken 192 request.backendNativeTimerId

def parseExecute (option : Bytes) : Option SuiteBridgeNativeTimerDeleteRequest :=
  match Words.split 32 (cString option) with
  | exec :: protocol :: native :: schema :: commandId :: requestFingerprint :: operationId ::
      operationRevision :: nativeTimerBindingId :: expectedBindingRevision ::
      expectedNativeTimerFingerprint :: timerAssignmentId :: backendNativeTimerId :: context =>
      if exec ≠ text "EXEC" ∨ protocol ≠ text "vdr-suite-native/1" ∨ native ≠ operation ∨
          schema ≠ text "1" then none
      else do
        let context ← parseContext int64Max context
        let request : SuiteBridgeNativeTimerDeleteRequest :=
          { toNativeExecutionContext := context
            commandId, requestFingerprint, operationId, operationRevision, nativeTimerBindingId
            expectedBindingRevision, expectedNativeTimerFingerprint, timerAssignmentId
            backendNativeTimerId }
        if validRequest request then some request else none
  | _ => none

def canonicalRequest (request : SuiteBridgeNativeTimerDeleteRequest) : Bytes :=
  canonicalCommand request.toSuiteBridgeNativeRequest ++
  appendCanonical request.nativeTimerBindingId ++
  appendCanonical request.expectedBindingRevision ++
  appendCanonical request.expectedNativeTimerFingerprint ++
  appendCanonical request.timerAssignmentId ++ appendCanonical request.backendNativeTimerId ++
  canonicalContext request.toNativeExecutionContext

end NativeTimerDelete

end VdrSuite.Plugin
