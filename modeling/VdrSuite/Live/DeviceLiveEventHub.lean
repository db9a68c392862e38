import VdrSuite.Library.Bytes
import VdrSuite.Library.Run

/-! The event stream of one device: hints behind a greeting in a bounded queue, which gives way to
one request to reload when the reader falls behind. -/

set_option autoImplicit false

namespace VdrSuite.Live

open Library

structure LiveUpdateEvent where
  backendId : Bytes
  changedDomains : List Bytes
  deriving DecidableEq

inductive DeviceEventDomain where
  | timers
  | recordings
  deriving DecidableEq

def DeviceEventDomain.name : DeviceEventDomain → Bytes
  | .timers => text "timers"
  | .recordings => text "recordings"

inductive DeviceEventScope where
  | backend (backendId : Bytes) (domains : List DeviceEventDomain)
  | operation (suffix : Bytes)
  deriving DecidableEq

structure DeviceLiveEventSubscription where
  backend : Bytes
  domains : List Bytes
  epoch : Bytes
  operationId : Bytes := []
  expires : Nat
  deriving DecidableEq

def operationPrefix : Bytes := text "op_"

def subscribe (epoch : Bytes) (now : Nat) : DeviceEventScope → DeviceLiveEventSubscription
  | .backend backendId domains =>
    { backend := backendId
      domains := domains.map DeviceEventDomain.name
      epoch := epoch
      expires := now + 120000 }
  | .operation suffix =>
    { backend := []
      domains := [text "operations"]
      epoch := epoch
      operationId := operationPrefix ++ suffix
      expires := now + 86400000 }

/-! ## Frames -/

inductive HintContent where
  | domains (timers recordings : Bool)
  | operation
  deriving DecidableEq

inductive DeviceEventFrame where
  | hello
  | hint (sequence : Nat) (content : HintContent)
  | resync
  deriving DecidableEq

def quotedName (name : Bytes) : Bytes := 34 :: (name ++ [34])

def nameList (names : List Bytes) : Bytes := [44].intercalate (names.map quotedName)

def placeText (subscription : DeviceLiveEventSubscription) (sequence : Nat) : Bytes :=
  text "\x7b\"backendId\":" ++ quotedName subscription.backend ++
    text ",\"daemonEpoch\":" ++ quotedName subscription.epoch ++
    text ",\"subscriptionSequence\":" ++ decimal sequence

def hintText (subscription : DeviceLiveEventSubscription) (sequence : Nat) : HintContent → Bytes
  | .domains timers recordings =>
    text "event: update\nid: " ++ decimal sequence ++ text "\ndata: " ++
      placeText subscription sequence ++ text ",\"changedDomains\":[" ++
      nameList ((if timers then [text "timers"] else []) ++
        (if recordings then [text "recordings"] else [])) ++ text "]\x7d\n\n"
  | .operation =>
    text "event: operation\nid: " ++ decimal sequence ++ text "\ndata: \x7b\"operationId\":" ++
      quotedName subscription.operationId ++ text ",\"daemonEpoch\":" ++
      quotedName subscription.epoch ++ text ",\"subscriptionSequence\":" ++ decimal sequence ++
      text "\x7d\n\n"

def frameText (subscription : DeviceLiveEventSubscription) : DeviceEventFrame → Bytes
  | .hello =>
    text "event: hello\ndata: " ++ placeText subscription 0 ++ text ",\"authorizedDomains\":[" ++
      nameList subscription.domains ++ text "]\x7d\n\n"
  | .hint sequence content => hintText subscription sequence content
  | .resync => text "event: resync\ndata: \x7b\x7d\n\n"

/-! ## The queue -/

structure DeviceEventQueue where
  pending : List DeviceEventFrame := [.hello]
  sequence : Nat := 0
  closed : Bool := false
  deriving DecidableEq

def maximumPending : Nat := 64

def DeviceEventQueue.push (queue : DeviceEventQueue) (content : HintContent) : DeviceEventQueue :=
  if maximumPending ≤ queue.pending.length then
    { queue with
      pending := [.resync]
      closed := true }
  else
    { queue with
      sequence := queue.sequence + 1
      pending := queue.pending ++ [.hint (queue.sequence + 1) content] }

structure NextAnswer where
  alive : Bool
  frame : Bytes
  deriving DecidableEq

namespace DeviceLiveEventSubscription

variable (subscription : DeviceLiveEventSubscription)

def hasDomain (domain : Bytes) : Bool := subscription.domains.contains domain

def changes (event : LiveUpdateEvent) : HintContent :=
  .domains
    (event.changedDomains.any fun domain =>
      domain == text "timers" && subscription.hasDomain (text "timers"))
    (event.changedDomains.any fun domain =>
      (domain == text "recordings" || domain == text "recordingMarks") &&
        subscription.hasDomain (text "recordings"))

def refuses (queue : DeviceEventQueue) (now : Nat) : Bool :=
  queue.closed || subscription.expires ≤ now

def deliver (event : LiveUpdateEvent) (now : Nat) (queue : DeviceEventQueue) : DeviceEventQueue :=
  if event.backendId ≠ subscription.backend then queue
  else if subscription.refuses queue now then queue
  else if subscription.changes event = .domains false false then queue
  else queue.push (subscription.changes event)

def deliverOperation (operationId : Bytes) (now : Nat) (queue : DeviceEventQueue) :
    DeviceEventQueue :=
  if subscription.operationId.isEmpty ∨ subscription.operationId ≠ operationId then queue
  else if subscription.refuses queue now then queue
  else queue.push .operation

def expire (now : Nat) (queue : DeviceEventQueue) : DeviceEventQueue :=
  if subscription.expires ≤ now then
    { queue with
      closed := true
      pending := [] }
  else queue

/-- What `next` does once it stops waiting. -/
def next (now : Nat) (queue : DeviceEventQueue) : DeviceEventQueue × NextAnswer :=
  let queue := subscription.expire now queue
  match queue.pending with
  | [] => (queue, { alive := !queue.closed, frame := [] })
  | first :: rest =>
    ({ queue with pending := rest }, { alive := true, frame := frameText subscription first })

def close (queue : DeviceEventQueue) : DeviceEventQueue :=
  { queue with
    closed := true
    pending := [] }

end DeviceLiveEventSubscription

/-! ## Runs -/

inductive StreamStep where
  | deliver (event : LiveUpdateEvent) (now : Nat)
  | deliverOperation (operationId : Bytes) (now : Nat)
  | next (now : Nat)
  | close
  deriving DecidableEq

section Runs

variable (subscription : DeviceLiveEventSubscription)

def streamStep (queue : DeviceEventQueue) : StreamStep → DeviceEventQueue × Option NextAnswer
  | .deliver event now => (subscription.deliver event now queue, none)
  | .deliverOperation operationId now =>
    (subscription.deliverOperation operationId now queue, none)
  | .next now => ((subscription.next now queue).1, some (subscription.next now queue).2)
  | .close => (DeviceLiveEventSubscription.close queue, none)

def returned (queue : DeviceEventQueue) (steps : List StreamStep) : List Bytes :=
  (Run.journal (streamStep subscription) queue steps).filterMap fun entry =>
    entry.2.bind fun answer => if answer.frame.isEmpty then none else some answer.frame

def Ended (queue : DeviceEventQueue) (steps : List StreamStep) : Prop :=
  ∃ entry ∈ Run.journal (streamStep subscription) queue steps,
    ∃ answer, entry.2 = some answer ∧ answer.alive = false

def offer : StreamStep → Option (HintContent × Nat)
  | .deliver event now =>
    if event.backendId ≠ subscription.backend ∨
        subscription.changes event = .domains false false then none
    else some (subscription.changes event, now)
  | .deliverOperation operationId now =>
    if subscription.operationId.isEmpty ∨ subscription.operationId ≠ operationId then none
    else some (.operation, now)
  | .next _ => none
  | .close => none

def taken (queue : DeviceEventQueue) (step : StreamStep) : Option HintContent :=
  match offer subscription step with
  | none => none
  | some (content, now) =>
    if subscription.refuses queue now ∨ maximumPending ≤ queue.pending.length then none
    else some content

def hints : DeviceEventQueue → List StreamStep → List HintContent
  | _, [] => []
  | queue, step :: rest =>
    (taken subscription queue step).toList ++ hints (streamStep subscription queue step).1 rest

end Runs

def numbered : Nat → List HintContent → List DeviceEventFrame
  | _, [] => []
  | sequence, content :: rest => .hint (sequence + 1) content :: numbered (sequence + 1) rest

def readerSteps (steps : List StreamStep) : Nat :=
  (steps.filter fun step => match step with
    | .next _ => true
    | _ => false).length

end VdrSuite.Live
