import VdrSuite.Agent.SuiteBridgeOsdFrameParser
import VdrSuite.Plugin.OsdSnapshotBounds

/-! What the agent reads from the payload of a snapshot that the plugin took. -/

set_option autoImplicit false

namespace VdrSuite.Agent

open Library Library.JsonCursor Osd Plugin

namespace SuiteBridgeOsdFrameParser

/-! ## What a payload says -/

def headOf (snapshot : SuiteBridgeOsdSnapshot) : Head :=
  { schema := schemaVersion
    active := snapshot.surface.active
    complete := snapshot.surface.complete
    consistent := snapshot.surface.consistent
    kindText := kindName snapshot.surface.kind
    frameSequence := snapshot.frameSequence
    observedAt := snapshot.observedAtMilliseconds
    droppedUpdates := snapshot.droppedUpdates
    osdEpoch := snapshot.osdEpoch }

def textsOf (surface : OsdSurface) : Texts :=
  ⟨surface.title, surface.statusMessage, surface.red, surface.green, surface.yellow, surface.blue⟩

def itemOf (item : SuiteBridgeOsdItemSnapshot) : OsdTextItem := ⟨item.text, item.selectable⟩

def shownItems (surface : OsdSurface) : List SuiteBridgeOsdItemSnapshot :=
  surface.items.take surface.itemCount

def programmeOf (surface : OsdSurface) : OsdProgrammeInfo :=
  ⟨surface.presentTime, surface.presentTitle, surface.presentSubtitle, surface.followingTime,
    surface.followingTitle, surface.followingSubtitle⟩

def tailOf (surface : OsdSurface) : Tail :=
  ⟨surface.selectedIndex, surface.detailText, surface.channel, programmeOf surface⟩

def headTexts (surface : OsdSurface) : List Bytes :=
  [surface.title, surface.statusMessage, surface.red, surface.green, surface.yellow, surface.blue]

def tailTexts (surface : OsdSurface) : List Bytes :=
  [surface.detailText, surface.channel, surface.presentTitle, surface.presentSubtitle,
    surface.followingTitle, surface.followingSubtitle]

def copiedTexts (surface : OsdSurface) : List Bytes :=
  headTexts surface ++ (shownItems surface).map (fun item => item.text) ++ tailTexts surface

def Readable (texts : List Bytes) : Prop := ∀ value ∈ texts, Json.validUtf8 value = true

instance (texts : List Bytes) : Decidable (Readable texts) := by
  unfold Readable
  infer_instance

/-! ## Reading the groups -/

theorem written_text {maximum : Nat} {value : Bytes} (fits : Fits maximum value) :
    cString value = value :=
  (cString_eq_self_iff value).mpr fits.2

def unreadable : Bytes := text "invalid or oversized JSON string"

section Binds

variable {α β : Type}

theorem ok_bind {ε : Type} (value : α) (next : α → Except ε β) :
    ((.ok value : Except ε α) >>= next) = next value := rfl

theorem if_bind {ε : Type} (condition : Prop) [Decidable condition] (value : α) (error : ε)
    (next : α → Except ε β) :
    ((if condition then .ok value else .error error) >>= next) =
      if condition then next value else .error error := by
  split <;> rfl

theorem string_bind {limit : Nat} {value : Bytes} (short : value.length ≤ limit) (rest : Bytes)
    (next : Bytes × Bytes → Except Bytes β) :
    (string limit (quoted value ++ rest) >>= next) =
      if Json.validUtf8 value = true then next (value, rest) else .error unreadable := by
  rw [string_quoted value rest short]
  split <;> rfl

theorem consume_bind {expected : UInt8} (solid : isWhitespace expected = false) (rest : Bytes)
    (next : Bytes → Except Bytes β) : (consume expected (expected :: rest) >>= next) = next rest := by
  rw [consume_cons solid, ok_bind]

theorem boolean_bind (value : Bool) (rest : Bytes) (next : Bool × Bytes → Except Bytes β) :
    (boolean (booleanText value ++ rest) >>= next) = next (value, rest) := by
  rw [boolean_booleanText, ok_bind]

theorem unsignedInteger_bind {number : Nat} {rest : Bytes} (bounded : number ≤ unsignedLongLongMax)
    (ends : NoDigit rest) (next : Nat × Bytes → Except Bytes β) :
    (unsignedInteger (decimal number ++ rest) >>= next) = next (number, rest) := by
  rw [unsignedInteger_decimal bounded ends, ok_bind]

theorem signedInteger_bind {number : Int} {rest : Bytes} (bounded : WithinInt64 number)
    (ends : NoDigit rest) (next : Int × Bytes → Except Bytes β) :
    (signedInteger (signedDecimal number ++ rest) >>= next) = next (number, rest) := by
  rw [signedInteger_signedDecimal bounded.1 bounded.2 ends, ok_bind]

end Binds

def snapshotNames : List String :=
  ["osd_schema", "frame_sequence", "osd_epoch", "observed_at_ms", "complete", "consistent",
    "dropped_updates", "kind", "active", "title", "status", "red", "green", "yellow", "blue",
    "items", "text", "selectable", "selected_index", "channel", "programme", "present_time",
    "present_title", "present_subtitle", "following_time", "following_title",
    "following_subtitle"]

theorem name_of_mem {name : String} (member : name ∈ snapshotNames) : Name name := by
  have every : ∀ name ∈ snapshotNames, Name name := by decide +kernel
  exact every name member

theorem readItem_pieces {item : SuiteBridgeOsdItemSnapshot}
    (fits : Fits OsdFrameLimits.itemTextBytes item.text) (rest : Bytes) :
    readItem ((itemPieces item).flatten ++ rest) =
      if Json.validUtf8 item.text = true then .ok (itemOf item, rest) else .error unreadable := by
  have short := fits.1
  simp only [itemPieces, List.flatten_append, List.flatten_cons, List.flatten_nil,
    jsonString_flatten, List.append_assoc, List.cons_append, List.nil_append, List.append_nil,
    written_text fits, readItem]
  simp (disch := first | assumption | exact name_of_mem (by simp [snapshotNames]) | decide) only
    [consume_bind, member_keyText, following_keyText, string_bind, boolean_bind]
  rfl

theorem readHead_pieces {snapshot : SuiteBridgeOsdSnapshot} (bounded : SnapshotBounded snapshot)
    (epoch : snapshot.osdEpoch.length ≤ 32) (whole : cString snapshot.osdEpoch = snapshot.osdEpoch)
    (ascii : Json.validUtf8 snapshot.osdEpoch = true) (rest : Bytes) :
    readHead ((headPieces snapshot).flatten ++ rest) = .ok (headOf snapshot, rest) := by
  have frames := bounded.frameSequence
  have observed := bounded.observedAtMilliseconds
  have dropped := bounded.droppedUpdates
  have kind : (kindName snapshot.surface.kind).length ≤ 32 ∧
      cString (kindName snapshot.surface.kind) = kindName snapshot.surface.kind ∧
      Json.validUtf8 (kindName snapshot.surface.kind) = true := by
    cases snapshot.surface.kind <;> decide
  obtain ⟨kindShort, kindWhole, kindAscii⟩ := kind
  simp only [headPieces, List.flatten_append, List.flatten_cons, jsonString_flatten,
    List.append_assoc, List.cons_append, List.nil_append,
    kindWhole, whole, readHead]
  simp (disch := first
    | assumption | exact noDigit_cons rfl _ | exact name_of_mem (by simp [snapshotNames]) | decide) only [consume_bind,
    member_keyText, following_keyText, string_bind, boolean_bind, unsignedInteger_bind, kindAscii,
    ascii, if_true]
  rfl

theorem readTexts_pieces {surface : OsdSurface} (bounded : SurfaceBounded surface) (rest : Bytes) :
    readTexts ((textPieces surface).flatten ++ rest) =
      if Readable (headTexts surface) then .ok (textsOf surface, rest) else .error unreadable := by
  have title : surface.title.length ≤ OsdFrameLimits.titleBytes := bounded.title.1
  have statusMessage : surface.statusMessage.length ≤ OsdFrameLimits.statusBytes := bounded.statusMessage.1
  have red : surface.red.length ≤ OsdFrameLimits.buttonBytes := bounded.red.1
  have green : surface.green.length ≤ OsdFrameLimits.buttonBytes := bounded.green.1
  have yellow : surface.yellow.length ≤ OsdFrameLimits.buttonBytes := bounded.yellow.1
  have blue : surface.blue.length ≤ OsdFrameLimits.buttonBytes := bounded.blue.1
  simp only [textPieces, List.flatten_append, List.flatten_cons, jsonString_flatten,
    List.append_assoc, List.cons_append, List.nil_append,
    written_text bounded.title, written_text bounded.statusMessage, written_text bounded.red,
    written_text bounded.green, written_text bounded.yellow, written_text bounded.blue, readTexts]
  simp (disch := first
    | assumption | exact name_of_mem (by simp [snapshotNames]) | decide) only [following_keyText, string_bind]
  simp only [Readable, headTexts, List.forall_mem_cons, List.not_mem_nil, false_implies,
    implies_true, and_true, ite_and]
  rfl

theorem readProgramme_pieces {surface : OsdSurface} (bounded : SurfaceBounded surface)
    (rest : Bytes) :
    readProgramme (123 :: (keyText "present_time" ++ (signedDecimal surface.presentTime ++
        44 :: (keyText "present_title" ++ (quoted surface.presentTitle ++
        44 :: (keyText "present_subtitle" ++ (quoted surface.presentSubtitle ++
        44 :: (keyText "following_time" ++ (signedDecimal surface.followingTime ++
        44 :: (keyText "following_title" ++ (quoted surface.followingTitle ++
        44 :: (keyText "following_subtitle" ++ (quoted surface.followingSubtitle ++
        125 :: rest))))))))))))) =
      if Readable [surface.presentTitle, surface.presentSubtitle, surface.followingTitle,
          surface.followingSubtitle] then .ok (programmeOf surface, rest)
      else .error unreadable := by
  have presentTime := bounded.presentTime
  have presentTitle : surface.presentTitle.length ≤ OsdFrameLimits.programmeTextBytes :=
    bounded.presentTitle.1
  have presentSubtitle : surface.presentSubtitle.length ≤ OsdFrameLimits.programmeTextBytes :=
    bounded.presentSubtitle.1
  have followingTime := bounded.followingTime
  have followingTitle : surface.followingTitle.length ≤ OsdFrameLimits.programmeTextBytes :=
    bounded.followingTitle.1
  have followingSubtitle : surface.followingSubtitle.length ≤ OsdFrameLimits.programmeTextBytes :=
    bounded.followingSubtitle.1
  simp (disch := first
    | assumption | exact noDigit_cons rfl _ | exact name_of_mem (by simp [snapshotNames]) | decide) only [readProgramme,
    consume_bind, member_keyText, following_keyText, string_bind, signedInteger_bind]
  simp only [Readable, List.forall_mem_cons, List.not_mem_nil, false_implies, implies_true,
    and_true, ite_and]
  rfl

theorem readTail_pieces {surface : OsdSurface} (bounded : SurfaceBounded surface) :
    readTail ((tailPieces surface).flatten.tail) =
      if Readable (tailTexts surface) then .ok (tailOf surface) else .error unreadable := by
  have selectedIndex : WithinInt64 surface.selectedIndex := by
    have selected := bounded.selectedIndex
    have count := bounded.itemCount
    have wide : (maximumItems : Int) ≤ int64Max := by decide
    constructor <;> omega
  have detailText : surface.detailText.length ≤ OsdFrameLimits.detailTextBytes :=
    bounded.detailText.1
  have channel : surface.channel.length ≤ OsdFrameLimits.channelBytes := bounded.channel.1
  simp only [tailPieces, List.flatten_append, List.flatten_cons, List.flatten_nil,
    jsonString_flatten, List.append_assoc, List.cons_append, List.nil_append, List.append_nil,
    written_text bounded.detailText, written_text bounded.channel,
    written_text bounded.presentTitle, written_text bounded.presentSubtitle,
    written_text bounded.followingTitle, written_text bounded.followingSubtitle, List.tail_cons,
    readTail]
  simp (disch := first
    | assumption | exact noDigit_cons rfl _ | exact name_of_mem (by simp [snapshotNames]) | decide) only
    [following_keyText, string_bind, signedInteger_bind, readProgramme_pieces bounded, if_bind,
    consume_bind]
  simp only [Readable, tailTexts, List.forall_mem_cons, List.not_mem_nil, false_implies,
    implies_true, and_true, ite_and]
  rfl

/-! ## Reading the items -/

def refused : SuiteBridgeOsdFrameParseResult := { status := .invalidJson, diagnostic := unreadable }

theorem json_bind_if {α β : Type} (condition : Prop) [Decidable condition] (value : α)
    (next : α → Parsed β) :
    (json (if condition then .ok value else .error unreadable) >>= next) =
      if condition then next value else .error refused := by
  split <;> rfl

theorem jsonToEnd_if {α : Type} (condition : Prop) [Decidable condition] (value : α) :
    jsonToEnd (if condition then .ok value else .error unreadable) =
      if condition then .ok value else .error refused := by
  split <;> rfl

theorem readable_append (texts more : List Bytes) :
    Readable (texts ++ more) ↔ Readable texts ∧ Readable more :=
  List.forall_mem_append

theorem itemPieces_head (item : SuiteBridgeOsdItemSnapshot) :
    ∃ more, (itemPieces item).flatten = 123 :: more :=
  ⟨_, by simp only [itemPieces, List.cons_append, List.nil_append, List.flatten_cons]; rfl⟩

theorem itemsPieces_cons (item : SuiteBridgeOsdItemSnapshot)
    (rest : List SuiteBridgeOsdItemSnapshot) :
    (itemsPieces true (item :: rest)).flatten =
      (itemPieces item).flatten ++ (itemsPieces false rest).flatten := by
  simp [itemsPieces]

theorem itemsPieces_later (item : SuiteBridgeOsdItemSnapshot)
    (rest : List SuiteBridgeOsdItemSnapshot) :
    (itemsPieces false (item :: rest)).flatten =
      44 :: (itemsPieces true (item :: rest)).flatten := by
  simp [itemsPieces]

theorem readItems_pieces {room : Nat} {item : SuiteBridgeOsdItemSnapshot}
    {items : List SuiteBridgeOsdItemSnapshot}
    (fits : ∀ shown ∈ item :: items, Fits itemTextBytes shown.text)
    (enough : (item :: items).length ≤ room) (rest : Bytes) :
    readItems room ((itemsPieces true (item :: items)).flatten ++ 93 :: rest) =
      if Readable ((item :: items).map fun shown => shown.text) then
        .ok ((item :: items).map itemOf, rest)
      else .error refused := by
  induction items generalizing item room with
  | nil =>
    obtain ⟨room, rfl⟩ := Nat.exists_eq_add_of_lt enough
    have read := readItem_pieces (fits item List.mem_cons_self) (93 :: rest)
    have closed : consumeIf 93 (93 :: rest) = some rest := consumeIf_cons (by decide) rest
    rw [itemsPieces_cons, itemsPieces, List.flatten_nil, List.append_nil, readItems, read,
      json_bind_if]
    simp [closed, Readable]
  | cons second items ih =>
    obtain ⟨room, rfl⟩ : ∃ fewer, room = fewer + 1 :=
      ⟨room - 1, by rw [List.length_cons] at enough; omega⟩
    have read := readItem_pieces (fits item List.mem_cons_self)
      ((itemsPieces false (second :: items)).flatten ++ 93 :: rest)
    have later := ih (fun shown member => fits shown (List.mem_cons_of_mem item member))
      (Nat.le_of_succ_le_succ enough)
    have goesOn : consumeIf 93 ((itemsPieces false (second :: items)).flatten ++ 93 :: rest) =
        none := by
      rw [itemsPieces_later]
      exact consumeIf_other (by decide) (by decide) _
    have comma : consume 44 ((itemsPieces false (second :: items)).flatten ++ 93 :: rest) =
        .ok ((itemsPieces true (second :: items)).flatten ++ 93 :: rest) := by
      rw [itemsPieces_later]
      exact consume_cons (by decide) _
    rw [itemsPieces_cons, List.append_assoc, readItems, read, json_bind_if]
    simp only [goesOn, comma, json, ok_bind, later, if_bind]
    simp only [Readable, List.map_cons, List.forall_mem_cons, ite_and]

theorem readItemArray_pieces {items : List SuiteBridgeOsdItemSnapshot}
    (fits : ∀ shown ∈ items, Fits itemTextBytes shown.text)
    (enough : items.length ≤ OsdFrameLimits.maximumItems) (rest : Bytes) :
    readItemArray ((itemsPieces true items).flatten ++ 93 :: rest) =
      if Readable (items.map fun shown => shown.text) then .ok (items.map itemOf, rest)
      else .error refused := by
  unfold readItemArray
  cases items with
  | nil =>
    have closed : consumeIf 93 (93 :: rest) = some rest := consumeIf_cons (by decide) rest
    simp [itemsPieces, closed, Readable]
  | cons item items =>
    obtain ⟨more, head⟩ := itemPieces_head item
    have goesOn : consumeIf 93 ((itemsPieces true (item :: items)).flatten ++ 93 :: rest) =
        none := by
      rw [itemsPieces_cons, head]
      exact consumeIf_other (by decide) (by decide) _
    rw [goesOn]
    exact readItems_pieces fits enough rest

/-! ## Reading a payload -/

def contentOf (snapshot : SuiteBridgeOsdSnapshot) : Content :=
  { head := headOf snapshot
    texts := textsOf snapshot.surface
    items := (shownItems snapshot.surface).map itemOf
    tail := tailOf snapshot.surface }

theorem validEpoch_counterEpoch {epoch : Bytes} (made : CounterEpoch epoch) :
    validEpoch epoch = true := by
  obtain ⟨source, rfl⟩ := made
  have digits (value : Nat) : ∀ digit ∈ Hex.word64 value,
      ((48 ≤ digit && digit ≤ 57) || (97 ≤ digit && digit ≤ 102)) = true := by
    intro digit member
    obtain ⟨index, -, rfl⟩ := List.mem_map.mp member
    have small : value / 16 ^ (15 - index) % 16 < 16 := Nat.mod_lt _ (by decide)
    generalize value / 16 ^ (15 - index) % 16 = nibble at small
    interval_cases nibble <;> rfl
  simp only [validEpoch, suiteBridgeCounterEpoch, List.length_append, Hex.word64, List.length_map,
    List.length_range, BEq.rfl, Bool.true_and, List.all_append, Bool.and_eq_true, List.all_eq_true]
  exact ⟨digits _, digits _⟩

theorem validEpoch_text {epoch : Bytes} (valid : validEpoch epoch = true) :
    epoch.length = 32 ∧ cString epoch = epoch ∧ Json.validUtf8 epoch = true := by
  simp only [validEpoch, Bool.and_eq_true, beq_iff_eq, List.all_eq_true] at valid
  obtain ⟨length, digits⟩ := valid
  refine ⟨length, (cString_eq_self_iff epoch).mpr ?_, Json.validUtf8_of_ascii ?_⟩
  · intro zero
    exact absurd (digits 0 zero) (by decide)
  · intro byte member
    have digit := digits byte member
    simp only [Bool.or_eq_true, Bool.and_eq_true, decide_eq_true_eq] at digit
    cases digit with
    | inl numeral => exact UInt8.le_trans numeral.2 (by decide)
    | inr letter => exact UInt8.le_trans letter.2 (by decide)

theorem tailPieces_head (surface : OsdSurface) :
    (tailPieces surface).flatten = 93 :: (tailPieces surface).flatten.tail := by
  simp only [tailPieces, List.cons_append, List.nil_append, List.flatten_cons, List.tail_cons]

theorem shownItems_fit {surface : OsdSurface} (bounded : SurfaceBounded surface) :
    ∀ item ∈ shownItems surface, Fits itemTextBytes item.text := by
  intro item member
  exact bounded.items item (List.mem_of_mem_take member)

theorem shownItems_length {surface : OsdSurface} (bounded : SurfaceBounded surface) :
    (shownItems surface).length = surface.itemCount := by
  rw [shownItems, List.length_take, bounded.room]
  exact Nat.min_eq_left bounded.itemCount

theorem readContent_pieces {snapshot : SuiteBridgeOsdSnapshot} (bounded : SnapshotBounded snapshot) :
    readContent (snapshotPieces snapshot).flatten =
      if Readable (copiedTexts snapshot.surface) then .ok (contentOf snapshot)
      else .error refused := by
  have epoch : snapshot.osdEpoch.length ≤ 32 ∧ cString snapshot.osdEpoch = snapshot.osdEpoch ∧
      Json.validUtf8 snapshot.osdEpoch = true := by
    cases bounded.osdEpoch with
    | inl none => rw [none]; decide
    | inr made =>
      obtain ⟨length, whole, ascii⟩ := validEpoch_text (validEpoch_counterEpoch made)
      exact ⟨Nat.le_of_eq length, whole, ascii⟩
  have itemsOpened (rest : Bytes) :
      openItems (44 :: (keyText "items" ++ 91 :: rest)) = .ok rest := by
    have comma : consume 44 (44 :: (keyText "items" ++ 91 :: rest)) =
        .ok (keyText "items" ++ 91 :: rest) := consume_cons (by decide) _
    have name : Name "items" := name_of_mem (by simp [snapshotNames])
    have bracket : consume 91 (91 :: rest) = .ok rest := consume_cons (by decide) _
    simp only [openItems, comma, ok_bind, key_keyText name, bracket]
  have items := readItemArray_pieces (shownItems_fit bounded.surface)
    (shownItems_length bounded.surface ▸ bounded.surface.itemCount)
    (tailPieces snapshot.surface).flatten.tail
  have written : (snapshotPieces snapshot).flatten =
      (headPieces snapshot).flatten ++ ((textPieces snapshot.surface).flatten ++
        44 :: (keyText "items" ++ 91 :: ((itemsPieces true (shownItems snapshot.surface)).flatten ++
          93 :: (tailPieces snapshot.surface).flatten.tail))) := by
    rw [← tailPieces_head]
    simp [snapshotPieces, shownItems]
  rw [readContent, written, readHead_pieces bounded epoch.1 epoch.2.1 epoch.2.2]
  have opened (rest : Bytes) : json (openItems (44 :: (keyText "items" ++ 91 :: rest))) = .ok rest := by
    rw [itemsOpened]
    rfl
  have header : json (.ok (headOf snapshot, (textPieces snapshot.surface).flatten ++
      44 :: (keyText "items" ++ 91 :: ((itemsPieces true (shownItems snapshot.surface)).flatten ++
        93 :: (tailPieces snapshot.surface).flatten.tail)))) = .ok (headOf snapshot, _) := rfl
  rw [header, ok_bind]
  simp only [readTexts_pieces bounded.surface, json_bind_if, opened, ok_bind, items, if_bind,
    readTail_pieces bounded.surface, jsonToEnd_if]
  simp only [copiedTexts, readable_append, and_assoc, ite_and]
  rfl

/-! ## The frame of a snapshot -/

def frameKind : SuiteBridgeOsdFrameKind → OsdFrameKind
  | .inactive => .none
  | .menu => .menu
  | .channelInfo => .channelInfo

def surfaceState (surface : OsdSurface) : OsdSurfaceState :=
  if surface.active = false then .inactive
  else if surface.complete && surface.consistent then .active
  else .degraded

def reportedFrame (snapshot : SuiteBridgeOsdSnapshot) (backendId : Bytes)
    (backendGeneration : Nat) : SuiteBridgeOsdObservedFrame :=
  { frame :=
      { surface := ⟨backendId, backendGeneration, text "primary-native-osd", snapshot.osdEpoch⟩
        state := surfaceState snapshot.surface
        kind := frameKind snapshot.surface.kind
        frameSequence := snapshot.frameSequence
        observedAt := snapshot.observedAtMilliseconds
        fullFrame := true
        complete := snapshot.surface.complete && snapshot.surface.consistent
        title := snapshot.surface.title
        statusMessage := snapshot.surface.statusMessage
        red := snapshot.surface.red
        green := snapshot.surface.green
        yellow := snapshot.surface.yellow
        blue := snapshot.surface.blue
        items := (shownItems snapshot.surface).map itemOf
        selectedIndex := snapshot.surface.selectedIndex
        text := snapshot.surface.detailText
        channel := snapshot.surface.channel
        programme := programmeOf snapshot.surface }
    sourceConsistent := snapshot.surface.consistent
    droppedUpdates := snapshot.droppedUpdates }

theorem parseKind_kindName (kind : SuiteBridgeOsdFrameKind) :
    parseKind (kindName kind) = some (frameKind kind) := by
  cases kind <;> decide

theorem surfaceState_eq (surface : OsdSurface) :
    (if surface.active = false then .inactive
      else if surface.complete = false ∨ surface.consistent = false then .degraded
      else .active) = surfaceState surface := by
  unfold surfaceState
  by_cases active : surface.active = false
  · rw [if_pos active, if_pos active]
  · rw [if_neg active, if_neg active]
    by_cases lost : surface.complete = false ∨ surface.consistent = false
    · rw [if_pos lost, if_neg]
      cases lost with
      | inl incomplete => simp [incomplete]
      | inr inconsistent => simp [inconsistent]
    · rw [if_neg lost, if_pos]
      simpa using lost

theorem frameOf_contentOf (snapshot : SuiteBridgeOsdSnapshot) (backendId : Bytes)
    (backendGeneration : Nat) :
    frameOf backendId backendGeneration (frameKind snapshot.surface.kind) (contentOf snapshot) =
      (reportedFrame snapshot backendId backendGeneration).frame := by
  have state : (frameOf backendId backendGeneration (frameKind snapshot.surface.kind)
      (contentOf snapshot)).state = surfaceState snapshot.surface :=
    surfaceState_eq snapshot.surface
  unfold reportedFrame
  rw [← state]
  rfl

theorem reportedFrame_within {snapshot : SuiteBridgeOsdSnapshot}
    (bounded : SurfaceBounded snapshot.surface) (backendId : Bytes) (backendGeneration : Nat) :
    osdFrameWithinLimits (reportedFrame snapshot backendId backendGeneration).frame = true := by
  have shown : ((shownItems snapshot.surface).map itemOf).length ≤ OsdFrameLimits.maximumItems := by
    rw [List.length_map, shownItems_length bounded]
    exact bounded.itemCount
  unfold osdFrameWithinLimits
  rw [if_neg]
  · rw [List.all_eq_true]
    intro item member
    obtain ⟨source, present, rfl⟩ := List.mem_map.mp member
    exact decide_eq_true (shownItems_fit bounded source present).1
  · simp only [not_or, Nat.not_lt]
    exact ⟨bounded.title.1, bounded.statusMessage.1, bounded.red.1, bounded.green.1,
      bounded.yellow.1, bounded.blue.1, bounded.detailText.1, bounded.channel.1, shown,
      bounded.presentTitle.1, bounded.presentSubtitle.1, bounded.followingTitle.1,
      bounded.followingSubtitle.1⟩

theorem observe_contentOf {snapshot : SuiteBridgeOsdSnapshot} (bounded : SnapshotBounded snapshot)
    (backendId : Bytes) (backendGeneration : Nat) :
    observe backendId backendGeneration (contentOf snapshot) =
      .ok (reportedFrame snapshot backendId backendGeneration) := by
  have shown := bounded.surface.shown
  unfold Shown at shown
  have agree : ¬ (((contentOf snapshot).head.active = true ∧
        frameKind snapshot.surface.kind = .none) ∨
      ((contentOf snapshot).head.active = false ∧ frameKind snapshot.surface.kind ≠ .none)) := by
    simp only [contentOf, headOf, shown]
    cases snapshot.surface.kind <;> decide
  have activeEpoch : ¬ ((contentOf snapshot).head.active = true ∧
      validEpoch (contentOf snapshot).head.osdEpoch = false) := by
    intro ⟨active, invalid⟩
    cases (validEpoch_counterEpoch (bounded.active active)).symm.trans invalid
  have idleEpoch : ¬ ((contentOf snapshot).head.active = false ∧
      (contentOf snapshot).head.osdEpoch ≠ [] ∧
      validEpoch (contentOf snapshot).head.osdEpoch = false) := by
    intro ⟨_, present, invalid⟩
    cases bounded.osdEpoch with
    | inl none => exact present none
    | inr made => cases (validEpoch_counterEpoch made).symm.trans invalid
  have selected : ¬ selectsNothing (contentOf snapshot) := by
    have index := bounded.surface.selectedIndex
    have count := bounded.surface.itemCount
    have items : (contentOf snapshot).items.length = snapshot.surface.itemCount := by
      simp only [contentOf, List.length_map, shownItems_length bounded.surface]
    have room : OsdFrameLimits.maximumItems = maximumItems := rfl
    unfold selectsNothing
    rw [items, room]
    simp only [contentOf, tailOf]
    omega
  have within := reportedFrame_within bounded.surface backendId backendGeneration
  rw [← frameOf_contentOf] at within
  have schema : ¬ (contentOf snapshot).head.schema ≠ 1 := fun other => other rfl
  have kind : parseKind (contentOf snapshot).head.kindText =
      some (frameKind snapshot.surface.kind) := parseKind_kindName _
  unfold observe
  rw [if_neg schema, kind]
  dsimp only
  rw [if_neg agree, if_neg activeEpoch, if_neg idleEpoch, if_neg selected, if_pos within,
    frameOf_contentOf]
  rfl

theorem parse_snapshotPayload {snapshot : SuiteBridgeOsdSnapshot} (bounded : SnapshotBounded snapshot)
    {payload : Bytes} (complete : suiteBridgeOsdSnapshotPayload snapshot = some payload)
    {backendId : Bytes} (named : backendId ≠ []) (short : backendId.length ≤ 128)
    (backendGeneration : Nat) :
    parse payload backendId backendGeneration =
      if Readable (copiedTexts snapshot.surface) then
        { status := .ok, value := reportedFrame snapshot backendId backendGeneration }
      else refused := by
  have count : ¬ snapshot.surface.itemCount > maximumItems := Nat.not_lt.mpr bounded.surface.itemCount
  rw [suiteBridgeOsdSnapshotPayload, if_neg count] at complete
  obtain ⟨written, small⟩ := foldl_append_some complete
  rw [List.nil_append] at written
  have size : ¬ payload.length > SuiteBridgeOsdFrameParser.maximumPayloadBytes :=
    Nat.not_lt.mpr (small (Nat.zero_le _))
  have valid : ¬ (backendId = [] ∨ backendId.length > 128) := by
    rw [not_or]
    exact ⟨named, Nat.not_lt.mpr short⟩
  unfold parse parsed
  rw [if_neg size, if_neg valid, written, readContent_pieces bounded]
  by_cases readable : Readable (copiedTexts snapshot.surface)
  · rw [if_pos readable, if_pos readable, ok_bind, observe_contentOf bounded]
  · rw [if_neg readable, if_neg readable]
    rfl

/-- In every run, the agent reads back a snapshot from its complete payload exactly when all the
texts of the snapshot are valid UTF-8. -/
theorem snapshot_parsed_iff (steps : List OsdStep) (attested : ∀ step ∈ steps, Attested step)
    (step : OsdStep) (snapshot : SuiteBridgeOsdSnapshot) (issued : List StatusCallback)
    (captured : (osdStep (Run.final osdStep {} steps) step).2 = some (snapshot, issued))
    (payload : Bytes) (complete : suiteBridgeOsdSnapshotPayload snapshot = some payload)
    (backendId : Bytes) (named : backendId ≠ []) (short : backendId.length ≤ 128)
    (backendGeneration : Nat) :
    parse payload backendId backendGeneration =
        { status := .ok, value := reportedFrame snapshot backendId backendGeneration } ↔
      Readable (copiedTexts snapshot.surface) := by
  have bounded := captured_bounded attested step captured
  rw [parse_snapshotPayload bounded complete named short]
  constructor
  · intro accepted
    by_contra unreadable
    rw [if_neg unreadable] at accepted
    cases accepted
  · intro readable
    rw [if_pos readable]

/-! ## Two snapshots -/

def sampleEpochSource : EpochSource := ⟨1, 4711, 900, 1700⟩

def sampleTurn : OsdStep := .proceed (suiteBridgeCounterEpoch sampleEpochSource) 1000

/-- A callback that takes the free gate and runs to its end, and the copy of what it shows. -/
def displayed (callback : StatusCallback) : List OsdStep :=
  [.callback callback, sampleTurn, sampleTurn, sampleTurn, .capture, sampleTurn]

theorem displayed_attested (callback : StatusCallback) (times : TimesFit callback) :
    ∀ step ∈ displayed callback, Attested step := by
  have turn : Attested sampleTurn := ⟨⟨sampleEpochSource, rfl⟩, by decide⟩
  simp only [displayed, List.forall_mem_cons]
  exact ⟨times, turn, turn, turn, trivial, turn, fun _ none => absurd none List.not_mem_nil⟩

def displayedSnapshot (callback : StatusCallback) : SuiteBridgeOsdSnapshot :=
  (((osdStep (Run.final osdStep {} (displayed callback)) (.finish 0)).2).map Prod.fst).getD {}

theorem snapshot_parsed_iff_menu :
    ∃ snapshot issued payload,
      (osdStep (Run.final osdStep {} (displayed (.title (some (text "Menu"))))) (.finish 0)).2 =
        some (snapshot, issued) ∧
      suiteBridgeOsdSnapshotPayload snapshot = some payload ∧
      parse payload (text "vdr-1") 7 =
        { status := .ok, value := reportedFrame snapshot (text "vdr-1") 7 } := by
  have captured : (osdStep (Run.final osdStep {} (displayed (.title (some (text "Menu")))))
      (.finish 0)).2 =
        some (displayedSnapshot (.title (some (text "Menu"))), [.title (some (text "Menu"))]) := by
    decide
  have attested := displayed_attested (.title (some (text "Menu"))) trivial
  have complete := @suiteBridgeOsdSnapshotPayload_fits
    (displayedSnapshot (.title (some (text "Menu")))) (by decide) (by decide +kernel)
  refine ⟨_, _, _, captured, complete, ?_⟩
  exact (snapshot_parsed_iff _ attested (.finish 0) _ _ captured _ complete (text "vdr-1")
    (by decide) (by decide) 7).mpr (by decide)

def longButton : Bytes := List.replicate 127 97 ++ [0xc3, 0xa9]

theorem cut_button_refused :
    Json.validUtf8 longButton = true ∧
    ¬ ∀ steps, (∀ step ∈ steps, Attested step) → ∀ step snapshot issued,
      (osdStep (Run.final osdStep {} steps) step).2 = some (snapshot, issued) →
      ∀ payload, suiteBridgeOsdSnapshotPayload snapshot = some payload →
      ∀ backendId : Bytes, backendId ≠ [] → backendId.length ≤ 128 → ∀ backendGeneration : Nat,
        parse payload backendId backendGeneration =
          { status := .ok, value := reportedFrame snapshot backendId backendGeneration } := by
  refine ⟨by decide +kernel, fun claimed => ?_⟩
  have captured : (osdStep (Run.final osdStep {}
      (displayed (.helpKeys (some longButton) none none none))) (.finish 0)).2 =
        some (displayedSnapshot (.helpKeys (some longButton) none none none),
          [.helpKeys (some longButton) none none none]) := by
    decide +kernel
  have attested := displayed_attested (.helpKeys (some longButton) none none none) trivial
  have bounded := captured_bounded attested (.finish 0) captured
  have complete := @suiteBridgeOsdSnapshotPayload_fits
    (displayedSnapshot (.helpKeys (some longButton) none none none)) (by decide)
    (by decide +kernel)
  have named : text "vdr-1" ≠ [] := by decide
  have short : (text "vdr-1").length ≤ 128 := by decide
  have accepted := claimed _ attested (.finish 0) _ _ captured _ complete (text "vdr-1") named short 7
  rw [parse_snapshotPayload bounded complete named short, if_neg (by decide +kernel)] at accepted
  cases accepted

end SuiteBridgeOsdFrameParser

end VdrSuite.Agent
