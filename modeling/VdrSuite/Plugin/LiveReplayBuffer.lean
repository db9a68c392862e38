import VdrSuite.Library.Bytes
import VdrSuite.Library.Ring
import VdrSuite.Library.Run

/-! The replay buffer of a live source: transport packets in a ring, the newest clean start, and the
clients that follow their cursors through it. -/

set_option autoImplicit false

namespace VdrSuite.Plugin

open Library

/-! ## The buffer -/

def packetSize : Nat := 188
def syncByte : UInt8 := 71

def sequenceCount : Nat := 18446744073709551616

structure Packet where
  bytes : Bytes
  sized : bytes.length = packetSize
  deriving DecidableEq

def Packet.zero : Packet := ⟨List.replicate packetSize 0, List.length_replicate ..⟩

inductive PushResult
  | accepted
  | invalidPacket
  | startWindowExhausted
  deriving DecidableEq

inductive ReadResult
  | available (packet : Packet)
  | notYetAvailable
  | overrun
  deriving DecidableEq

/-- `accepted` is the history of the buffer, with the clean starts marked, and read by nobody. -/
structure SuiteBridgeTsReplayBuffer where
  slots : List Packet
  oldestSequence : Nat := 0
  nextSequence : Nat := 0
  startSequence : Nat := 0
  size : Nat := 0
  haveStart : Bool := false
  accepted : List (Packet × Bool) := []

namespace SuiteBridgeTsReplayBuffer

def empty (capacityPackets : Nat) : SuiteBridgeTsReplayBuffer :=
  { slots := List.replicate (if capacityPackets = 0 then 1 else capacityPackets) Packet.zero }

def capacityPackets (buffer : SuiteBridgeTsReplayBuffer) : Nat := buffer.slots.length

def evict (buffer : SuiteBridgeTsReplayBuffer) : SuiteBridgeTsReplayBuffer :=
  { buffer with
    oldestSequence := (buffer.oldestSequence + 1) % sequenceCount
    size := buffer.size - 1 }

def store (buffer : SuiteBridgeTsReplayBuffer) (packet : Packet) (cleanStart : Bool) :
    SuiteBridgeTsReplayBuffer :=
  { buffer with
    slots := buffer.slots.set (buffer.nextSequence % buffer.slots.length) packet
    nextSequence := (buffer.nextSequence + 1) % sequenceCount
    size := buffer.size + 1
    startSequence := if cleanStart then buffer.nextSequence else buffer.startSequence
    haveStart := cleanStart || buffer.haveStart
    accepted := buffer.accepted ++ [(packet, cleanStart)] }

/-- `Push` of a packet whose size and sync byte are right. -/
def pushPacket (buffer : SuiteBridgeTsReplayBuffer) (packet : Packet) (cleanStart : Bool) :
    SuiteBridgeTsReplayBuffer × PushResult :=
  if buffer.size = buffer.slots.length then
    if buffer.haveStart && buffer.oldestSequence == buffer.startSequence && !cleanStart then
      (buffer, .startWindowExhausted)
    else (buffer.evict.store packet cleanStart, .accepted)
  else (buffer.store packet cleanStart, .accepted)

/-- `Push`; a null pointer is `none`. -/
def push (buffer : SuiteBridgeTsReplayBuffer) (data : Option Bytes) (cleanStart : Bool) :
    SuiteBridgeTsReplayBuffer × PushResult :=
  match data with
  | none => (buffer, .invalidPacket)
  | some bytes =>
    if sized : bytes.length = packetSize then
      if bytes.head? = some syncByte then buffer.pushPacket ⟨bytes, sized⟩ cleanStart
      else (buffer, .invalidPacket)
    else (buffer, .invalidPacket)

def startCursor (buffer : SuiteBridgeTsReplayBuffer) : Option Nat :=
  if !buffer.haveStart || decide (buffer.startSequence < buffer.oldestSequence) ||
      decide (buffer.nextSequence ≤ buffer.startSequence) then none
  else some buffer.startSequence

def read (buffer : SuiteBridgeTsReplayBuffer) (sequence : Nat) : ReadResult :=
  if sequence < buffer.oldestSequence then .overrun
  else if buffer.nextSequence ≤ sequence then .notYetAvailable
  else .available (buffer.slots.getD (sequence % buffer.slots.length) Packet.zero)

end SuiteBridgeTsReplayBuffer

/-! ## The session -/

inductive TerminalReason
  | tsPacketContractViolation
  | replayWindowExhausted
  deriving DecidableEq

def processDetectedFrame (buffer : SuiteBridgeTsReplayBuffer) (cleanStart : Bool) :
    List Bytes → SuiteBridgeTsReplayBuffer × Option TerminalReason
  | [] => (buffer, none)
  | packet :: rest =>
    match buffer.push (some packet) cleanStart with
    | (pushed, .accepted) => processDetectedFrame pushed false rest
    | (pushed, .invalidPacket) => (pushed, some .tsPacketContractViolation)
    | (pushed, .startWindowExhausted) => (pushed, some .replayWindowExhausted)

/-- A client that has started; where it did and what it has received is read by nobody. -/
structure LiveClient where
  clientCursor : Nat
  first : Nat
  received : List Packet

structure LiveSession where
  replay : SuiteBridgeTsReplayBuffer
  clients : Nat → Option LiveClient := fun _ => none

inductive LiveStep
  | push (data : Option Bytes) (cleanStart : Bool)
  | frame (packets : List Bytes) (independentFrame : Bool)
  | start (client : Nat)
  | read (client : Nat)
  | leave (client : Nat)

def liveStep (session : LiveSession) : LiveStep → LiveSession × Option ReadResult
  | .push data cleanStart =>
    ({ session with replay := (session.replay.push data cleanStart).1 }, none)
  | .frame packets independentFrame =>
    ({ session with
      replay := (processDetectedFrame session.replay independentFrame packets).1 }, none)
  | .start client =>
    match session.clients client, session.replay.startCursor with
    | none, some start =>
      ({ session with
        clients := Function.update session.clients client (some ⟨start, start, []⟩) }, none)
    | _, _ => (session, none)
  | .read client =>
    match session.clients client with
    | none => (session, none)
    | some reader =>
      match session.replay.read reader.clientCursor with
      | .available packet =>
        ({ session with
          clients := Function.update session.clients client
            (some
              { reader with
                clientCursor := (reader.clientCursor + 1) % sequenceCount
                received := reader.received ++ [packet] }) },
          some (.available packet))
      | refused => (session, some refused)
  | .leave client =>
    ({ session with clients := Function.update session.clients client none }, none)

def newestStart (accepted : List (Packet × Bool)) : Option Nat :=
  (accepted.zipIdx.filter fun entry => entry.1.2).getLast?.map Prod.snd

theorem newestStart_append (accepted : List (Packet × Bool)) (packet : Packet)
    (cleanStart : Bool) :
    newestStart (accepted ++ [(packet, cleanStart)]) =
      if cleanStart then some accepted.length else newestStart accepted := by
  cases cleanStart with
  | true => simp [newestStart, List.zipIdx_append]
  | false => simp [newestStart, List.zipIdx_append]

/-! ## What the buffer retains -/

namespace SuiteBridgeTsReplayBuffer

def packets (buffer : SuiteBridgeTsReplayBuffer) : List Packet := buffer.accepted.map Prod.fst

@[simp] theorem packets_length (buffer : SuiteBridgeTsReplayBuffer) :
    buffer.packets.length = buffer.accepted.length :=
  List.length_map _

structure Retains (buffer : SuiteBridgeTsReplayBuffer) : Prop where
  occupied : 0 < buffer.slots.length
  counted : buffer.nextSequence = buffer.accepted.length
  sized : buffer.oldestSequence + buffer.size = buffer.nextSequence
  bounded : buffer.size ≤ buffer.slots.length
  holds : Ring.Holds buffer.slots buffer.packets buffer.oldestSequence
  newest : newestStart buffer.accepted =
    if buffer.haveStart then some buffer.startSequence else none

structure Valid (buffer : SuiteBridgeTsReplayBuffer) : Prop extends Retains buffer where
  kept : buffer.haveStart = true →
    buffer.oldestSequence ≤ buffer.startSequence ∧ buffer.startSequence < buffer.nextSequence

theorem empty_valid (capacityPackets : Nat) : (empty capacityPackets).Valid where
  occupied := by
    simp only [empty, List.length_replicate]
    split <;> omega
  counted := rfl
  sized := rfl
  bounded := Nat.zero_le _
  holds := Ring.holds_empty _ _
  newest := rfl
  kept := nofun

variable {buffer : SuiteBridgeTsReplayBuffer}

theorem Retains.evict (retains : buffer.Retains) (full : buffer.size = buffer.slots.length)
    (unwrapped : buffer.accepted.length < sequenceCount) : buffer.evict.Retains := by
  have occupied := retains.occupied
  have sized := retains.sized
  have counted := retains.counted
  have advanced : (buffer.oldestSequence + 1) % sequenceCount = buffer.oldestSequence + 1 :=
    Nat.mod_eq_of_lt (by omega)
  constructor
  case occupied => exact occupied
  case counted => exact counted
  case sized =>
    simp only [SuiteBridgeTsReplayBuffer.evict, advanced]
    omega
  case bounded =>
    simp only [SuiteBridgeTsReplayBuffer.evict]
    omega
  case holds =>
    simp only [SuiteBridgeTsReplayBuffer.evict, advanced]
    exact retains.holds.later (Nat.le_succ _)
  case newest => exact retains.newest

theorem Retains.store (retains : buffer.Retains) (packet : Packet) (cleanStart : Bool)
    (room : buffer.size < buffer.slots.length)
    (unwrapped : buffer.accepted.length + 1 < sequenceCount)
    (kept : cleanStart = false → buffer.haveStart = true →
      buffer.oldestSequence ≤ buffer.startSequence ∧
      buffer.startSequence < buffer.nextSequence) : (buffer.store packet cleanStart).Valid := by
  have sized := retains.sized
  have counted := retains.counted
  have advanced : (buffer.nextSequence + 1) % sequenceCount = buffer.nextSequence + 1 :=
    Nat.mod_eq_of_lt (by omega)
  constructor
  case toRetains =>
    constructor
    case occupied => simpa [SuiteBridgeTsReplayBuffer.store] using retains.occupied
    case counted =>
      simp only [SuiteBridgeTsReplayBuffer.store, advanced, List.length_append,
        List.length_singleton]
      omega
    case sized =>
      simp only [SuiteBridgeTsReplayBuffer.store, advanced]
      omega
    case bounded =>
      simp only [SuiteBridgeTsReplayBuffer.store, List.length_set]
      exact room
    case holds =>
      simp only [SuiteBridgeTsReplayBuffer.store, packets, List.map_append, List.map_cons,
        List.map_nil]
      have pushed := retains.holds.push packet (by rw [packets_length]; omega)
        (by rw [packets_length]; omega)
      rw [packets_length, ← counted] at pushed
      exact pushed
    case newest =>
      simp only [SuiteBridgeTsReplayBuffer.store]
      rw [newestStart_append]
      cases cleanStart with
      | true => simp [counted]
      | false => simpa using retains.newest
  case kept =>
    simp only [SuiteBridgeTsReplayBuffer.store, advanced]
    cases cleanStart with
    | true =>
      intro _
      rw [if_pos rfl]
      exact ⟨by omega, by omega⟩
    | false =>
      intro started
      have before := kept rfl (by simpa using started)
      exact ⟨before.1, by have := before.2; simp only [Bool.false_eq_true, if_false]; omega⟩

inductive Pushed (buffer : SuiteBridgeTsReplayBuffer) (data : Option Bytes) (cleanStart : Bool) :
    SuiteBridgeTsReplayBuffer × PushResult → Prop
  | refused (result : PushResult) (negative : result ≠ .accepted) :
      Pushed buffer data cleanStart (buffer, result)
  | accepted (packet : Packet) (given : data = some packet.bytes)
      (after : SuiteBridgeTsReplayBuffer)
      (appended : after.accepted = buffer.accepted ++ [(packet, cleanStart)])
      (same : after.slots.length = buffer.slots.length)
      (valid : buffer.Valid → after.accepted.length < sequenceCount → after.Valid) :
      Pushed buffer data cleanStart (after, .accepted)

theorem pushPacket_pushed (buffer : SuiteBridgeTsReplayBuffer) (packet : Packet)
    (cleanStart : Bool) :
    buffer.Pushed (some packet.bytes) cleanStart (buffer.pushPacket packet cleanStart) := by
  unfold pushPacket
  split
  case isTrue full =>
    split
    case isTrue => exact .refused _ (by decide)
    case isFalse free =>
      refine .accepted packet rfl _ rfl ?_ fun valid unwrapped => ?_
      · exact List.length_set
      simp only [SuiteBridgeTsReplayBuffer.store, evict, List.length_append,
        List.length_singleton] at unwrapped
      refine (valid.toRetains.evict full (by omega)).store packet cleanStart ?_ unwrapped ?_
      · have occupied := valid.occupied
        simp only [evict]
        omega
      · intro plain started
        have kept := valid.kept started
        have sized := valid.sized
        have counted := valid.counted
        have advanced : (buffer.oldestSequence + 1) % sequenceCount = buffer.oldestSequence + 1 :=
          Nat.mod_eq_of_lt (by omega)
        have other : buffer.oldestSequence ≠ buffer.startSequence := by
          intro same
          exact free (by simp only [evict] at started; simp [started, same, plain])
        simp only [evict, advanced]
        exact ⟨by omega, kept.2⟩
  case isFalse unfilled =>
    refine .accepted packet rfl _ rfl List.length_set fun valid unwrapped => ?_
    simp only [SuiteBridgeTsReplayBuffer.store, List.length_append, List.length_singleton]
      at unwrapped
    exact valid.toRetains.store packet cleanStart (by have := valid.bounded; omega) unwrapped
      fun _ started => valid.kept started

theorem push_pushed (buffer : SuiteBridgeTsReplayBuffer) (data : Option Bytes)
    (cleanStart : Bool) : buffer.Pushed data cleanStart (buffer.push data cleanStart) := by
  unfold push
  cases data with
  | none => exact .refused _ (by decide)
  | some bytes =>
    dsimp only
    split
    case isFalse => exact .refused _ (by decide)
    case isTrue sized =>
      split
      case isFalse => exact .refused _ (by decide)
      case isTrue => exact pushPacket_pushed buffer ⟨bytes, sized⟩ cleanStart

theorem Valid.read (valid : buffer.Valid) {sequence : Nat}
    (retained : buffer.oldestSequence ≤ sequence) (known : sequence < buffer.nextSequence) :
    ∃ entry, buffer.accepted[sequence]? = some entry ∧
      buffer.read sequence = .available entry.1 := by
  have present : sequence < buffer.accepted.length := valid.counted ▸ known
  refine ⟨buffer.accepted[sequence], List.getElem?_eq_getElem present, ?_⟩
  have held := valid.holds sequence retained (by rwa [packets_length])
  rw [SuiteBridgeTsReplayBuffer.read, if_neg (by omega), if_neg (by omega), List.getD, held]
  simp [packets, List.getElem?_eq_getElem present]

theorem Valid.startCursor (valid : buffer.Valid) :
    buffer.startCursor = newestStart buffer.accepted := by
  rw [valid.newest, SuiteBridgeTsReplayBuffer.startCursor]
  cases started : buffer.haveStart with
  | false => rfl
  | true =>
    have kept := valid.kept started
    rw [if_neg (by simp; omega), if_pos rfl]

/-! ## Growth -/

structure Grows (before after : SuiteBridgeTsReplayBuffer) : Prop where
  accepted : before.accepted <+: after.accepted
  slots : after.slots.length = before.slots.length
  valid : before.Valid → after.accepted.length < sequenceCount → after.Valid

theorem Grows.refl (buffer : SuiteBridgeTsReplayBuffer) : Grows buffer buffer :=
  ⟨List.prefix_rfl, rfl, fun valid _ => valid⟩

theorem Grows.trans {first second third : SuiteBridgeTsReplayBuffer} (early : Grows first second)
    (late : Grows second third) : Grows first third where
  accepted := early.accepted.trans late.accepted
  slots := late.slots.trans early.slots
  valid := by
    intro valid unwrapped
    have shorter := late.accepted.length_le
    exact late.valid (early.valid valid (by omega)) unwrapped

theorem push_grows (buffer : SuiteBridgeTsReplayBuffer) (data : Option Bytes)
    (cleanStart : Bool) : Grows buffer (buffer.push data cleanStart).1 := by
  have pushed := push_pushed buffer data cleanStart
  generalize buffer.push data cleanStart = outcome at pushed
  cases pushed with
  | refused => exact .refl buffer
  | accepted packet given after appended same valid =>
    exact ⟨appended ▸ List.prefix_append .., same, valid⟩

end SuiteBridgeTsReplayBuffer

open SuiteBridgeTsReplayBuffer (Grows)

theorem processDetectedFrame_grows (buffer : SuiteBridgeTsReplayBuffer) (cleanStart : Bool)
    (packets : List Bytes) : Grows buffer (processDetectedFrame buffer cleanStart packets).1 := by
  induction packets generalizing buffer cleanStart with
  | nil => exact .refl buffer
  | cons packet rest ih =>
    have grows := buffer.push_grows (some packet) cleanStart
    rw [processDetectedFrame]
    generalize buffer.push (some packet) cleanStart = outcome at grows ⊢
    obtain ⟨pushed, result⟩ := outcome
    cases result with
    | accepted => exact grows.trans (ih pushed false)
    | invalidPacket | startWindowExhausted => exact grows

/-! ## Runs -/

/-- The client has received every accepted packet from its start to its cursor. -/
structure LiveClient.Follows (client : LiveClient) (buffer : SuiteBridgeTsReplayBuffer) :
    Prop where
  forward : client.first ≤ client.clientCursor
  known : client.clientCursor ≤ buffer.accepted.length
  complete : client.received =
    (buffer.packets.drop client.first).take (client.clientCursor - client.first)

structure LiveSession.Valid (session : LiveSession) : Prop where
  replay : session.replay.Valid
  clients : ∀ client reader, session.clients client = some reader →
    reader.Follows session.replay

theorem LiveClient.Follows.grows {client : LiveClient} {before after : SuiteBridgeTsReplayBuffer}
    (follows : client.Follows before) (grown : Grows before after) : client.Follows after := by
  obtain ⟨more, appended⟩ := grown.accepted
  have known := follows.known
  refine ⟨follows.forward, known.trans grown.accepted.length_le, ?_⟩
  rw [follows.complete, SuiteBridgeTsReplayBuffer.packets, SuiteBridgeTsReplayBuffer.packets,
    ← appended, List.map_append]
  have started : client.first ≤ before.packets.length := by
    rw [SuiteBridgeTsReplayBuffer.packets_length]
    exact follows.forward.trans known
  rw [SuiteBridgeTsReplayBuffer.packets] at started
  rw [List.drop_append_of_le_length started, List.take_append_of_le_length]
  rw [List.length_drop, List.length_map]
  omega

theorem LiveSession.Valid.grows {session : LiveSession} (valid : session.Valid)
    {after : SuiteBridgeTsReplayBuffer} (grown : Grows session.replay after)
    (unwrapped : after.accepted.length < sequenceCount) :
    LiveSession.Valid { session with replay := after } :=
  ⟨grown.valid valid.replay unwrapped, fun client reader found =>
    (valid.clients client reader found).grows grown⟩

theorem LiveSession.Valid.update {session : LiveSession} (valid : session.Valid) (client : Nat)
    (reader : Option LiveClient)
    (follows : ∀ started, reader = some started → started.Follows session.replay) :
    LiveSession.Valid
      { session with clients := Function.update session.clients client reader } := by
  refine ⟨valid.replay, fun other current found => ?_⟩
  dsimp only at found
  by_cases same : other = client
  · subst same
    rw [Function.update_self] at found
    exact follows current found
  · rw [Function.update_of_ne same] at found
    exact valid.clients other current found

theorem start_follows {buffer : SuiteBridgeTsReplayBuffer} (valid : buffer.Valid) {start : Nat}
    (started : buffer.startCursor = some start) :
    LiveClient.Follows ⟨start, start, []⟩ buffer := by
  rw [valid.startCursor, valid.newest] at started
  cases have_ : buffer.haveStart with
  | false => simp [have_] at started
  | true =>
    simp only [have_, if_true, Option.some.injEq] at started
    have kept := (valid.kept have_).2
    have counted := valid.counted
    exact ⟨Nat.le_refl _, by dsimp only; omega, by simp⟩

theorem LiveClient.Follows.read {client : LiveClient} {buffer : SuiteBridgeTsReplayBuffer}
    (follows : client.Follows buffer) (valid : buffer.Valid)
    (unwrapped : buffer.accepted.length < sequenceCount) {packet : Packet}
    (available : buffer.read client.clientCursor = .available packet) :
    LiveClient.Follows
      { client with
        clientCursor := (client.clientCursor + 1) % sequenceCount
        received := client.received ++ [packet] } buffer := by
  by_cases retained : buffer.oldestSequence ≤ client.clientCursor
  case neg =>
    rw [SuiteBridgeTsReplayBuffer.read, if_pos (by omega)] at available
    cases available
  by_cases known : client.clientCursor < buffer.nextSequence
  case neg =>
    rw [SuiteBridgeTsReplayBuffer.read, if_neg (by omega), if_pos (by omega)] at available
    cases available
  obtain ⟨entry, present, shown⟩ := valid.read retained known
  obtain rfl : entry.1 = packet := by simpa [shown] using available
  have counted := valid.counted
  have forward := follows.forward
  have advanced : (client.clientCursor + 1) % sequenceCount = client.clientCursor + 1 :=
    Nat.mod_eq_of_lt (by omega)
  simp only [advanced]
  refine ⟨by dsimp only; omega, by dsimp only; omega, ?_⟩
  have length : client.clientCursor + 1 - client.first =
      client.clientCursor - client.first + 1 := by omega
  have position : client.first + (client.clientCursor - client.first) = client.clientCursor := by
    omega
  simp only [length]
  rw [List.take_add_one, ← follows.complete, List.getElem?_drop, position,
    SuiteBridgeTsReplayBuffer.packets, List.getElem?_map, present]
  rfl

theorem liveStep_grows (session : LiveSession) (step : LiveStep) :
    Grows session.replay (liveStep session step).1.replay := by
  cases step with
  | push data cleanStart => exact session.replay.push_grows data cleanStart
  | frame packets independentFrame => exact processDetectedFrame_grows _ _ packets
  | start client =>
    simp only [liveStep]
    split <;> exact .refl _
  | read client =>
    simp only [liveStep]
    split
    · exact .refl _
    · split <;> exact .refl _
  | leave => exact .refl _

theorem liveStep_valid (session : LiveSession) (step : LiveStep) (valid : session.Valid)
    (unwrapped : (liveStep session step).1.replay.accepted.length < sequenceCount) :
    (liveStep session step).1.Valid := by
  cases step with
  | push data cleanStart => exact valid.grows (session.replay.push_grows data cleanStart) unwrapped
  | frame packets independentFrame =>
    exact valid.grows (processDetectedFrame_grows _ _ packets) unwrapped
  | start client =>
    simp only [liveStep]
    cases session.clients client with
    | some reader => exact valid
    | none =>
      cases started : session.replay.startCursor with
      | none => exact valid
      | some start =>
        refine valid.update client _ fun reader same => ?_
        cases same
        exact start_follows valid.replay started
  | read client =>
    have room : session.replay.accepted.length < sequenceCount :=
      Nat.lt_of_le_of_lt (liveStep_grows session (.read client)).accepted.length_le unwrapped
    simp only [liveStep]
    cases found : session.clients client with
    | none => exact valid
    | some reader =>
      cases available : session.replay.read reader.clientCursor with
      | overrun => simp only [available]; exact valid
      | notYetAvailable => simp only [available]; exact valid
      | available packet =>
        simp only [available]
        refine valid.update client _ fun next same => ?_
        cases same
        exact (valid.clients client reader found).read valid.replay room available
  | leave client => exact valid.update client none nofun

def sessionAfter (capacityPackets : Nat) (steps : List LiveStep) : LiveSession :=
  Run.final liveStep { replay := .empty capacityPackets } steps

theorem sessionAfter_valid (capacityPackets : Nat) (steps : List LiveStep)
    (unwrapped :
      (sessionAfter capacityPackets steps).replay.accepted.length < sequenceCount) :
    (sessionAfter capacityPackets steps).Valid ∧
      (sessionAfter capacityPackets steps).replay.capacityPackets = max capacityPackets 1 := by
  induction steps using List.reverseRecOn with
  | nil =>
    refine ⟨⟨SuiteBridgeTsReplayBuffer.empty_valid _, nofun⟩, ?_⟩
    simp only [sessionAfter, Run.final_nil, SuiteBridgeTsReplayBuffer.capacityPackets,
      SuiteBridgeTsReplayBuffer.empty, List.length_replicate]
    split <;> omega
  | append_singleton earlier step ih =>
    rw [sessionAfter, Run.final_concat] at unwrapped ⊢
    have grown := liveStep_grows (sessionAfter capacityPackets earlier) step
    obtain ⟨valid, capacity⟩ :=
      ih (Nat.lt_of_le_of_lt grown.accepted.length_le unwrapped)
    exact ⟨liveStep_valid _ step valid unwrapped, grown.slots.trans capacity⟩

/-- What a buffer and its clients show of the packets that have been accepted. -/
structure LiveSession.Faithful (session : LiveSession) : Prop where
  next_counts : session.replay.nextSequence = session.replay.accepted.length
  oldest_known : session.replay.oldestSequence ≤ session.replay.nextSequence
  size_counts : session.replay.size = session.replay.nextSequence - session.replay.oldestSequence
  size_bounded : session.replay.size ≤ session.replay.capacityPackets
  read_retained : ∀ sequence, session.replay.oldestSequence ≤ sequence →
    sequence < session.replay.nextSequence →
    ∃ entry, session.replay.accepted[sequence]? = some entry ∧
      session.replay.read sequence = .available entry.1
  start_newest : session.replay.startCursor = newestStart session.replay.accepted
  start_retained : ∀ start, newestStart session.replay.accepted = some start →
    session.replay.oldestSequence ≤ start ∧ start < session.replay.nextSequence
  follows : ∀ client reader, session.clients client = some reader → reader.Follows session.replay
  answers : ∀ client reader, session.clients client = some reader →
    (liveStep session (.read client)).2 =
      if reader.clientCursor < session.replay.oldestSequence then some .overrun
      else
        match session.replay.accepted[reader.clientCursor]? with
        | none => some .notYetAvailable
        | some entry => some (.available entry.1)

theorem liveStep_read_answer {session : LiveSession} (valid : session.Valid) {client : Nat}
    {reader : LiveClient} (found : session.clients client = some reader) :
    (liveStep session (.read client)).2 =
      if reader.clientCursor < session.replay.oldestSequence then some .overrun
      else
        match session.replay.accepted[reader.clientCursor]? with
        | none => some .notYetAvailable
        | some entry => some (.available entry.1) := by
  have counted := valid.replay.counted
  simp only [liveStep, found]
  by_cases lost : reader.clientCursor < session.replay.oldestSequence
  · rw [if_pos lost]
    have told : session.replay.read reader.clientCursor = .overrun := if_pos lost
    simp only [told]
  rw [if_neg lost]
  by_cases known : reader.clientCursor < session.replay.nextSequence
  · obtain ⟨entry, present, shown⟩ := valid.replay.read (by omega) known
    simp only [shown, present]
  · have absent : session.replay.accepted[reader.clientCursor]? = none :=
      List.getElem?_eq_none (by omega)
    have later : session.replay.read reader.clientCursor = .notYetAvailable := by
      rw [SuiteBridgeTsReplayBuffer.read, if_neg lost, if_pos (by omega)]
    simp only [later, absent]

theorem LiveSession.Valid.faithful {session : LiveSession} (valid : session.Valid) :
    session.Faithful := by
  have retains := valid.replay
  have sized := retains.sized
  constructor
  case next_counts => exact retains.counted
  case oldest_known => omega
  case size_counts => omega
  case size_bounded => exact retains.bounded
  case read_retained => exact fun sequence retained known => retains.read retained known
  case start_newest => exact retains.startCursor
  case start_retained =>
    intro start newest
    rw [retains.newest] at newest
    cases started : session.replay.haveStart with
    | false => simp [started] at newest
    | true =>
      simp only [started, if_true, Option.some.injEq] at newest
      exact newest ▸ retains.kept started
  case follows => exact valid.clients
  case answers => exact fun client reader found => liveStep_read_answer valid found

end VdrSuite.Plugin
