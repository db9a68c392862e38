import VdrSuite.Library.Codec
import VdrSuite.Library.Numerals
import VdrSuite.Agent.NativeTimerCreateCodec
import VdrSuite.Timers.NativeTimerSpecification

/-! The payloads of operations on native timers, and the reference to the command reserved for one. -/

set_option autoImplicit false

namespace VdrSuite.Timers

open Library Agent

def validIdentity (value : Bytes) : Bool := nonEmptyBounded value 160

/-! ## Fields -/

def operationSpecificationFields (specification : NativeTimerSpecification) : List Bytes :=
  [specification.channelId, specification.title, specification.directory, specification.day,
    specification.weekdays, normalizedHhmm specification.startTime,
    normalizedHhmm specification.endTime, signedDecimal specification.priority,
    signedDecimal specification.lifetime, Netstring.boolField specification.enabled,
    Netstring.boolField specification.vps]

def nativeTimerSpecificationFingerprint (specification : NativeTimerSpecification) : Bytes :=
  if nativeTimerSpecificationValid specification = false then []
  else text "native-timer-specification/1|" ++
    Netstring.record (operationSpecificationFields specification)

def unsignedValue (token : Bytes) : Option UInt64 :=
  (Netstring.parseUnsigned Netstring.uint64Max true token).map UInt64.ofNat

def smallIntOfWidth (width : Nat) (token : Bytes) : Option Int :=
  if token.isEmpty ∨ token.length > width ∨ token.all isDigit = false then none
  else if digitsValue token > 99 then none
  else some (digitsValue token)

def operationSpecificationOfFields (width : Nat) : List Bytes → Option NativeTimerSpecification
  | [channelId, title, directory, day, weekdays, startTime, endTime, priority, lifetime, enabled,
      vps] => do
      let priority ← smallIntOfWidth width priority
      let lifetime ← smallIntOfWidth width lifetime
      let enabled ← Netstring.parseBool enabled
      let vps ← Netstring.parseBool vps
      some
        { channelId, title, directory, day, weekdays, startTime, endTime, priority, lifetime
          enabled, vps }
  | _ => none

/-! ## Create operations -/

structure NativeTimerCreateOperationPayload where
  timerAssignmentId : Bytes := []
  expectedAssignmentRevision : Bytes := []
  expectedIntentRevision : Bytes := []
  assignmentEpoch : UInt64 := 0
  nativeTimerBindingId : Bytes := []
  backendId : Bytes := []
  backendGeneration : UInt64 := 0
  expectedSpecification : NativeTimerSpecification := {}
  deriving DecidableEq

def createPayloadPrefix : Bytes := text "native-timer-create-operation-payload/1|"
def createFingerprintPrefix : Bytes :=
  text "native-timer-create-operation-payload-fingerprint/1|"

def nativeTimerCreateOperationPayloadValid (payload : NativeTimerCreateOperationPayload) : Bool :=
  validIdentity payload.timerAssignmentId &&
  validIdentity payload.expectedAssignmentRevision &&
  validIdentity payload.expectedIntentRevision &&
  decide (payload.assignmentEpoch > 0) &&
  validIdentity payload.nativeTimerBindingId &&
  validIdentity payload.backendId &&
  decide (payload.backendGeneration > 0) &&
  nativeTimerSpecificationValid payload.expectedSpecification

def createPayloadFields (payload : NativeTimerCreateOperationPayload) : List Bytes :=
  [payload.timerAssignmentId, payload.expectedAssignmentRevision, payload.expectedIntentRevision,
    decimal payload.assignmentEpoch.toNat, payload.nativeTimerBindingId, payload.backendId,
    decimal payload.backendGeneration.toNat] ++
  operationSpecificationFields payload.expectedSpecification

def createCanonicalBody (payload : NativeTimerCreateOperationPayload) : Bytes :=
  if nativeTimerCreateOperationPayloadValid payload = false then []
  else Netstring.record (createPayloadFields payload)

def serializeNativeTimerCreateOperationPayload (payload : NativeTimerCreateOperationPayload) :
    Bytes :=
  let body := createCanonicalBody payload
  if body.isEmpty then [] else createPayloadPrefix ++ body

def nativeTimerCreateOperationPayloadFingerprint (payload : NativeTimerCreateOperationPayload) :
    Bytes :=
  let body := createCanonicalBody payload
  if body.isEmpty then [] else createFingerprintPrefix ++ body

def createPayloadOfFields : List Bytes → Option NativeTimerCreateOperationPayload
  | timerAssignmentId :: expectedAssignmentRevision :: expectedIntentRevision ::
      assignmentEpoch :: nativeTimerBindingId :: backendId :: backendGeneration ::
      specification => do
      let assignmentEpoch ← unsignedValue assignmentEpoch
      let backendGeneration ← unsignedValue backendGeneration
      let expectedSpecification ← operationSpecificationOfFields 3 specification
      some
        { timerAssignmentId, expectedAssignmentRevision, expectedIntentRevision, assignmentEpoch
          nativeTimerBindingId, backendId, backendGeneration, expectedSpecification }
  | _ => none

def parseNativeTimerCreateOperationPayload (serialized : Bytes) :
    Option NativeTimerCreateOperationPayload :=
  Codec.readCanonical Netstring.uint64Max 18 createPayloadPrefix createPayloadOfFields
    nativeTimerCreateOperationPayloadValid serializeNativeTimerCreateOperationPayload serialized

/-! ## Modify operations -/

inductive NativeTimerModifyKind where
  | update
  | toggle
  deriving DecidableEq

def nativeTimerModifyKindName : NativeTimerModifyKind → Bytes
  | .update => text "update"
  | .toggle => text "toggle"

def kindValue (token : Bytes) : Option NativeTimerModifyKind :=
  if token = text "update" then some .update
  else if token = text "toggle" then some .toggle
  else none

structure NativeTimerModifyOperationPayload where
  kind : NativeTimerModifyKind := .update
  timerAssignmentId : Bytes := []
  expectedAssignmentRevision : Bytes := []
  expectedIntentRevision : Bytes := []
  assignmentEpoch : UInt64 := 0
  nativeTimerBindingId : Bytes := []
  expectedBindingRevision : Bytes := []
  backendId : Bytes := []
  backendGeneration : UInt64 := 0
  backendNativeTimerId : Bytes := []
  expectedCurrentFingerprint : Bytes := []
  expectedSpecification : NativeTimerSpecification := {}
  deriving DecidableEq

def modifyPayloadPrefix : Bytes := text "native-timer-modify-operation-payload/1|"
def modifyFingerprintPrefix : Bytes :=
  text "native-timer-modify-operation-payload-fingerprint/1|"

def nativeTimerModifyOperationPayloadValid (payload : NativeTimerModifyOperationPayload) : Bool :=
  nativeTimerModifyKindName payload.kind != text "invalid" &&
  validIdentity payload.timerAssignmentId &&
  validIdentity payload.expectedAssignmentRevision &&
  validIdentity payload.expectedIntentRevision &&
  decide (payload.assignmentEpoch > 0) &&
  validIdentity payload.nativeTimerBindingId &&
  validIdentity payload.expectedBindingRevision &&
  validIdentity payload.backendId &&
  decide (payload.backendGeneration > 0) &&
  validIdentity payload.backendNativeTimerId &&
  nonEmptyBounded payload.expectedCurrentFingerprint 4096 &&
  nativeTimerSpecificationValid payload.expectedSpecification

def modifyPayloadFields (payload : NativeTimerModifyOperationPayload) : List Bytes :=
  [nativeTimerModifyKindName payload.kind, payload.timerAssignmentId,
    payload.expectedAssignmentRevision, payload.expectedIntentRevision,
    decimal payload.assignmentEpoch.toNat, payload.nativeTimerBindingId,
    payload.expectedBindingRevision, payload.backendId, decimal payload.backendGeneration.toNat,
    payload.backendNativeTimerId, payload.expectedCurrentFingerprint] ++
  operationSpecificationFields payload.expectedSpecification

def modifyCanonical (payload : NativeTimerModifyOperationPayload) : Bytes :=
  if nativeTimerModifyOperationPayloadValid payload = false then []
  else Netstring.record (modifyPayloadFields payload)

def serializeNativeTimerModifyOperationPayload (payload : NativeTimerModifyOperationPayload) :
    Bytes :=
  let body := modifyCanonical payload
  if body.isEmpty then [] else modifyPayloadPrefix ++ body

def nativeTimerModifyOperationPayloadFingerprint (payload : NativeTimerModifyOperationPayload) :
    Bytes :=
  let body := modifyCanonical payload
  if body.isEmpty then [] else modifyFingerprintPrefix ++ body

def modifyPayloadOfFields : List Bytes → Option NativeTimerModifyOperationPayload
  | kind :: timerAssignmentId :: expectedAssignmentRevision :: expectedIntentRevision ::
      assignmentEpoch :: nativeTimerBindingId :: expectedBindingRevision :: backendId ::
      backendGeneration :: backendNativeTimerId :: expectedCurrentFingerprint ::
      specification => do
      let kind ← kindValue kind
      let assignmentEpoch ← unsignedValue assignmentEpoch
      let backendGeneration ← unsignedValue backendGeneration
      let expectedSpecification ← operationSpecificationOfFields 2 specification
      some
        { kind, timerAssignmentId, expectedAssignmentRevision, expectedIntentRevision
          assignmentEpoch, nativeTimerBindingId, expectedBindingRevision, backendId
          backendGeneration, backendNativeTimerId, expectedCurrentFingerprint
          expectedSpecification }
  | _ => none

def parseNativeTimerModifyOperationPayload (serialized : Bytes) :
    Option NativeTimerModifyOperationPayload :=
  Codec.readCanonical Netstring.uint64Max 22 modifyPayloadPrefix modifyPayloadOfFields
    nativeTimerModifyOperationPayloadValid serializeNativeTimerModifyOperationPayload serialized

/-! ## Command reservations -/

structure NativeTimerCreateCommandReservationReference where
  commandId : Bytes := []
  requestFingerprint : Bytes := []
  deriving DecidableEq

def referencePrefix : Bytes := text "native-timer-create-command-reservation/1|"
def maxEvidenceReferenceLength : Nat := 512

def nativeTimerCreateCommandReservationReferenceValid
    (reference : NativeTimerCreateCommandReservationReference) : Bool :=
  validIdentity reference.commandId && nonEmptyBounded reference.requestFingerprint 512

def referenceFields (reference : NativeTimerCreateCommandReservationReference) : List Bytes :=
  [reference.commandId, reference.requestFingerprint]

def serializeNativeTimerCreateCommandReservationReference
    (reference : NativeTimerCreateCommandReservationReference) : Bytes :=
  if nativeTimerCreateCommandReservationReferenceValid reference = false then []
  else
    let serialized := referencePrefix ++ Netstring.record (referenceFields reference)
    if serialized.length ≤ maxEvidenceReferenceLength then serialized else []

def referenceOfFields : List Bytes → Option NativeTimerCreateCommandReservationReference
  | [commandId, requestFingerprint] => some { commandId, requestFingerprint }
  | _ => none

def parseNativeTimerCreateCommandReservationReference (serialized : Bytes) :
    Option NativeTimerCreateCommandReservationReference :=
  if serialized.length > maxEvidenceReferenceLength then none
  else Codec.readCanonical Netstring.uint64Max 2 referencePrefix referenceOfFields
    nativeTimerCreateCommandReservationReferenceValid
    serializeNativeTimerCreateCommandReservationReference serialized

end VdrSuite.Timers
