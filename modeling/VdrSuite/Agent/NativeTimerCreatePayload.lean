import VdrSuite.Agent.NativeCommand

/-! The specification of a native timer and the payload of `vdr.timer.create`. -/

set_option autoImplicit false

namespace VdrSuite.Agent

open Library

structure BackendAgentNativeTimerCreateSpecification where
  channelId : Bytes := []
  title : Bytes := []
  directory : Bytes := []
  day : Bytes := []
  weekdays : Bytes := text "-------"
  startTime : Bytes := []
  endTime : Bytes := []
  priority : Int := 50
  lifetime : Int := 99
  enabled : Bool := true
  vps : Bool := false
  deriving DecidableEq

def normalizedHhmm (value : Bytes) : Bytes :=
  List.replicate (4 - value.length) 48 ++ value

def validHhmm (value : Bytes) : Bool :=
  if value.isEmpty ∨ value.length > 4 ∨ value.all isDigit = false then false
  else
    match (normalizedHhmm value).map digitValue with
    | [hourTens, hourOnes, minuteTens, minuteOnes] =>
      hourTens * 10 + hourOnes ≤ 23 && minuteTens * 10 + minuteOnes ≤ 59
    | _ => false

def isAlphabetic (byte : UInt8) : Bool :=
  (65 ≤ byte && byte ≤ 90) || (97 ≤ byte && byte ≤ 122)

def backendAgentNativeTimerCreateSpecificationValid
    (specification : BackendAgentNativeTimerCreateSpecification) : Bool :=
  !specification.channelId.isEmpty &&
  backendAgentCommandSafeText specification.channelId 160 &&
  backendAgentCommandSafeText specification.title 1024 &&
  backendAgentCommandSafeText specification.directory 1024 &&
  backendAgentCommandSafeText specification.day 160 &&
  specification.weekdays.length == 7 &&
  validHhmm specification.startTime &&
  validHhmm specification.endTime &&
  decide (0 ≤ specification.priority) && decide (specification.priority ≤ 99) &&
  decide (0 ≤ specification.lifetime) && decide (specification.lifetime ≤ 99) &&
  specification.weekdays.all fun byte => byte == 45 || isAlphabetic byte

def specificationFields (specification : BackendAgentNativeTimerCreateSpecification) : List Bytes :=
  [specification.channelId, specification.title, specification.directory, specification.day,
    specification.weekdays, normalizedHhmm specification.startTime,
    normalizedHhmm specification.endTime, signedDecimal specification.priority,
    signedDecimal specification.lifetime, Netstring.boolField specification.enabled,
    Netstring.boolField specification.vps]

def backendAgentNativeTimerCreateSpecificationFingerprint
    (specification : BackendAgentNativeTimerCreateSpecification) : Bytes :=
  if backendAgentNativeTimerCreateSpecificationValid specification = false then []
  else text "native-timer-specification/1|" ++ Netstring.record (specificationFields specification)

def parseSmallInt (token : Bytes) : Option Int :=
  match Netstring.parseUnsigned Netstring.uint64Max false token with
  | none => none
  | some value => if value > 99 then none else some value

def parseSpecification : List Bytes → Option BackendAgentNativeTimerCreateSpecification
  | [channelId, title, directory, day, weekdays, startTime, endTime, priority, lifetime, enabled,
      vps] => do
      let priority ← parseSmallInt priority
      let lifetime ← parseSmallInt lifetime
      let enabled ← Netstring.parseBool enabled
      let vps ← Netstring.parseBool vps
      some
        { channelId, title, directory, day, weekdays, startTime, endTime, priority, lifetime
          enabled, vps }
  | _ => none

/-! ## Payload -/

structure BackendAgentNativeTimerCreatePayload where
  operationRevision : Bytes := []
  timerAssignmentId : Bytes := []
  expectedAssignmentRevision : Bytes := []
  expectedIntentRevision : Bytes := []
  assignmentEpoch : Nat := 0
  nativeTimerBindingId : Bytes := []
  controlPlaneClaimedAt : Int := 0
  expectedSpecificationFingerprint : Bytes := []
  specification : BackendAgentNativeTimerCreateSpecification := {}
  localProviderSelection : BackendAgentLocalProviderSelection := {}
  deriving DecidableEq

def nativeTimerCreateExactProviderSelection (selection : BackendAgentLocalProviderSelection) : Bool :=
  exactProviderSelection (text "vdr.timer") (text "suitebridge:local") (text "suitebridge")
    (text "vdr.timer.create") selection

def backendAgentNativeTimerCreatePayloadValid (payload : BackendAgentNativeTimerCreatePayload) :
    Bool :=
  backendAgentCommandSafeIdentifier payload.operationRevision &&
  backendAgentCommandSafeIdentifier payload.timerAssignmentId &&
  backendAgentCommandSafeIdentifier payload.expectedAssignmentRevision &&
  backendAgentCommandSafeIdentifier payload.expectedIntentRevision &&
  0 < payload.assignmentEpoch &&
  backendAgentCommandSafeIdentifier payload.nativeTimerBindingId &&
  decide (0 < payload.controlPlaneClaimedAt) &&
  backendAgentNativeTimerCreateSpecificationValid payload.specification &&
  payload.expectedSpecificationFingerprint ==
    backendAgentNativeTimerCreateSpecificationFingerprint payload.specification &&
  nativeTimerCreateExactProviderSelection payload.localProviderSelection

def backendAgentNativeTimerCreatePayload (payload : BackendAgentNativeTimerCreatePayload) : Bytes :=
  if backendAgentNativeTimerCreatePayloadValid payload = false then []
  else text "native-timer-create-agent-payload/1|" ++ Netstring.record
    ([payload.operationRevision, payload.timerAssignmentId, payload.expectedAssignmentRevision,
        payload.expectedIntentRevision, decimal payload.assignmentEpoch,
        payload.nativeTimerBindingId, signedDecimal payload.controlPlaneClaimedAt,
        payload.expectedSpecificationFingerprint] ++
      specificationFields payload.specification ++
      selectionFields payload.localProviderSelection)

def positiveUnsigned (token : Bytes) : Option Nat :=
  Netstring.parseUnsigned Netstring.uint64Max true token

def backendAgentNativeTimerCreateParsePayload (encoded : Bytes) :
    Option BackendAgentNativeTimerCreatePayload :=
  match Netstring.readDocument Netstring.uint64Max 28
      (text "native-timer-create-agent-payload/1|") encoded with
  | some (operationRevision :: timerAssignmentId :: expectedAssignmentRevision ::
      expectedIntentRevision :: assignmentEpoch :: nativeTimerBindingId ::
      controlPlaneClaimedAt :: expectedSpecificationFingerprint :: rest) => do
      let assignmentEpoch ← positiveUnsigned assignmentEpoch
      let controlPlaneClaimedAt ← parseTime true controlPlaneClaimedAt
      let specification ← parseSpecification (rest.take 11)
      let localProviderSelection ← parseSelection positiveUnsigned (rest.drop 11)
      let candidate : BackendAgentNativeTimerCreatePayload :=
        { operationRevision, timerAssignmentId, expectedAssignmentRevision, expectedIntentRevision
          assignmentEpoch, nativeTimerBindingId, controlPlaneClaimedAt
          expectedSpecificationFingerprint, specification, localProviderSelection }
      if backendAgentNativeTimerCreatePayloadValid candidate = false ∨
          backendAgentNativeTimerCreatePayload candidate ≠ encoded then none
      else some candidate
  | _ => none

end VdrSuite.Agent
