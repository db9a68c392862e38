import VdrSuite.Core.CommandDeliveryProperties

/-! The ledger invariant over runs: whose receipts and results it stores, and that they stay. -/

set_option autoImplicit false

namespace VdrSuite.Core

open Library Agent

/-! ## The invariant -/

def StateBacked (ledger : Ledger) (row : CommandRow) : Prop :=
  (row.state = .received →
    ∃ receipt ∈ ledger.receipts, receipt.commandId = row.assignment.commandId) ∧
  (row.state = .completed ∨ row.state = .waitingReconciliation →
    ∃ result ∈ ledger.results, result.commandId = row.assignment.commandId)

/-- A receipt row is the one of an accepted receipt that carries the fields of its command. -/
def ReceiptOwned (ledger : Ledger) (stored : ReceiptRow) : Prop :=
  ∃ command ∈ ledger.commands, command.assignment.commandId = stored.commandId ∧
    ∃ receipt, stored = receiptRow receipt ∧ command.matchesFence receipt.fence = true

def ResultOwned (ledger : Ledger) (stored : ResultRow) : Prop :=
  ∃ command ∈ ledger.commands, command.assignment.commandId = stored.commandId ∧
    ∃ result, stored = resultRow result ∧ command.matchesFence result.fence = true

structure LedgerValid (ledger : Ledger) : Prop where
  commandsUnique : (ledger.commands.map fun row => row.assignment.commandId).Nodup
  receiptsUnique : (ledger.receipts.map ReceiptRow.commandId).Nodup
  resultsUnique : (ledger.results.map ResultRow.commandId).Nodup
  receiptsOwned : ∀ stored ∈ ledger.receipts, ReceiptOwned ledger stored
  resultsOwned : ∀ stored ∈ ledger.results, ResultOwned ledger stored
  resultsReceived : ∀ stored ∈ ledger.results,
    ∃ receipt ∈ ledger.receipts, receipt.commandId = stored.commandId
  statesBacked : ∀ row ∈ ledger.commands, StateBacked ledger row

theorem ledgerValid_empty : LedgerValid {} :=
  ⟨List.nodup_nil, List.nodup_nil, List.nodup_nil, by simp, by simp, by simp, by simp⟩

/-! ## Lookups -/

theorem matchesFence_congr {left right : CommandRow} (same : left.assignment = right.assignment)
    (fence : CommandFence) : left.matchesFence fence = right.matchesFence fence := by
  simp only [CommandRow.matchesFence, same]

theorem command_mem {ledger : Ledger} {commandId : Bytes} {row : CommandRow}
    (found : ledger.command commandId = some row) :
    row ∈ ledger.commands ∧ row.assignment.commandId = cString commandId :=
  ⟨List.mem_of_find?_eq_some found, by simpa using List.find?_some found⟩

theorem receipt_mem {ledger : Ledger} {commandId : Bytes} {row : ReceiptRow}
    (found : ledger.receipt commandId = some row) :
    row ∈ ledger.receipts ∧ row.commandId = cString commandId :=
  ⟨List.mem_of_find?_eq_some found, by simpa using List.find?_some found⟩

theorem receipt_none {ledger : Ledger} {commandId : Bytes}
    (absent : ledger.receipt commandId = none) :
    cString commandId ∉ ledger.receipts.map ReceiptRow.commandId := by
  intro present
  obtain ⟨row, member, same⟩ := List.mem_map.mp present
  exact absurd (List.find?_eq_none.mp absent row member) (by simp [same])

theorem result_none {ledger : Ledger} {commandId : Bytes}
    (absent : ledger.result commandId = none) :
    cString commandId ∉ ledger.results.map ResultRow.commandId := by
  intro present
  obtain ⟨row, member, same⟩ := List.mem_map.mp present
  exact absurd (List.find?_eq_none.mp absent row member) (by simp [same])

theorem nodup_append_singleton {α : Type} {values : List α} {value : α} (unique : values.Nodup)
    (fresh : value ∉ values) : (values ++ [value]).Nodup := by
  rw [List.nodup_append]
  refine ⟨unique, by simp, ?_⟩
  intro left leftMember right rightMember same
  rw [List.mem_singleton.mp rightMember] at same
  exact fresh (same ▸ leftMember)

/-! ## Preservation -/

/-- Every row of a changed ledger comes from a row with the same assignment, or is a fresh one. -/
theorem LedgerChange.commands_extend {before after : Ledger} (change : LedgerChange before after)
    {row : CommandRow} (member : row ∈ before.commands) :
    ∃ successor ∈ after.commands, successor.assignment = row.assignment := by
  cases change with
  | inserted fresh selections _ _ _ commands =>
    exact ⟨row, by rw [commands]; exact List.mem_append_left _ member, rfl⟩
  | maintained change keeps _ commands =>
    exact ⟨change row, by rw [commands]; exact List.mem_map_of_mem member, keeps row⟩
  | received receipt found _ _ _ commands =>
    refine ⟨_, by rw [commands]; exact List.mem_map_of_mem member, ?_⟩
    split
    · unfold receiveCommand
      split <;> rfl
    · rfl
  | finished result found _ _ _ _ commands =>
    refine ⟨_, by rw [commands]; exact List.mem_map_of_mem member, ?_⟩
    split <;> rfl

theorem LedgerChange.receipts_extend {before after : Ledger} (change : LedgerChange before after)
    {stored : ReceiptRow} (member : stored ∈ before.receipts) : stored ∈ after.receipts := by
  cases change <;> rename_i receipts _ <;> rw [receipts]
  case received => exact List.mem_append_left _ member
  all_goals exact member

theorem LedgerChange.results_extend {before after : Ledger} (change : LedgerChange before after)
    {stored : ResultRow} (member : stored ∈ before.results) : stored ∈ after.results := by
  cases change <;> rename_i results <;> rw [results]
  case finished => exact List.mem_append_left _ member
  all_goals exact member

theorem ReceiptOwned.extend {before after : Ledger} (change : LedgerChange before after)
    {stored : ReceiptRow} (owned : ReceiptOwned before stored) : ReceiptOwned after stored := by
  obtain ⟨command, member, same, receipt, shape, fence⟩ := owned
  obtain ⟨successor, successorMember, kept⟩ := change.commands_extend member
  exact ⟨successor, successorMember, by rw [kept, same], receipt, shape,
    by rw [matchesFence_congr kept]; exact fence⟩

theorem ResultOwned.extend {before after : Ledger} (change : LedgerChange before after)
    {stored : ResultRow} (owned : ResultOwned before stored) : ResultOwned after stored := by
  obtain ⟨command, member, same, result, shape, fence⟩ := owned
  obtain ⟨successor, successorMember, kept⟩ := change.commands_extend member
  exact ⟨successor, successorMember, by rw [kept, same], result, shape,
    by rw [matchesFence_congr kept]; exact fence⟩

theorem StateBacked.extend {before after : Ledger} (change : LedgerChange before after)
    {row successor : CommandRow} (backed : StateBacked before row)
    (kept : successor.assignment = row.assignment)
    (state : successor.state = row.state ∨ successor.state = .expired ∨
      successor.state = .assigned) : StateBacked after successor := by
  obtain state | state | state := state
  · refine ⟨?_, ?_⟩
    · intro received
      obtain ⟨receipt, member, same⟩ := backed.1 (state ▸ received)
      exact ⟨receipt, change.receipts_extend member, by rw [kept, same]⟩
    · intro finished
      obtain ⟨result, member, same⟩ := backed.2 (state ▸ finished)
      exact ⟨result, change.results_extend member, by rw [kept, same]⟩
  all_goals
    refine ⟨?_, ?_⟩
    · rw [state]
      simp
    · rw [state]
      simp

theorem LedgerChange.statesBacked {before after : Ledger} (change : LedgerChange before after)
    (backed : ∀ row ∈ before.commands, StateBacked before row) :
    ∀ row ∈ after.commands, StateBacked after row := by
  have extend : ∀ row ∈ before.commands, ∀ successor : CommandRow,
      successor.assignment = row.assignment →
      (successor.state = row.state ∨ successor.state = .expired ∨ successor.state = .assigned) →
      StateBacked after successor :=
    fun row member _ kept state => (backed row member).extend change kept state
  intro successor member
  cases change with
  | inserted fresh selections _ assigned _ commands =>
    rw [commands, List.mem_append, List.mem_singleton] at member
    obtain old | rfl := member
    · exact extend successor old successor rfl (.inl rfl)
    · exact ⟨by rw [assigned]; simp, by rw [assigned]; simp⟩
  | maintained change keeps states commands =>
    rw [commands] at member
    obtain ⟨row, old, rfl⟩ := List.mem_map.mp member
    exact extend row old _ (keeps row) ((states row).imp_right .inl)
  | received receipt found _ _ _ commands _ receipts =>
    rw [commands] at member
    obtain ⟨row, old, rfl⟩ := List.mem_map.mp member
    by_cases addressed : row.assignment.commandId = cString receipt.commandId
    · rw [if_pos addressed]
      unfold receiveCommand
      split
      · refine ⟨fun _ => ⟨receiptRow receipt, ?_, addressed.symm⟩, by simp⟩
        rw [receipts]
        exact List.mem_append_right _ (List.mem_singleton_self _)
      · exact extend row old row rfl (.inl rfl)
    · rw [if_neg addressed]
      exact extend row old row rfl (.inl rfl)
  | finished result found _ _ _ _ commands _ _ results =>
    rw [commands] at member
    obtain ⟨row, old, rfl⟩ := List.mem_map.mp member
    by_cases addressed : row.assignment.commandId = cString result.commandId
    · rw [if_pos addressed]
      refine ⟨?_, fun _ => ⟨resultRow result, ?_, addressed.symm⟩⟩
      · unfold completeCommand
        dsimp only
        split <;> simp
      · rw [results]
        exact List.mem_append_right _ (List.mem_singleton_self _)
    · rw [if_neg addressed]
      exact extend row old row rfl (.inl rfl)

theorem LedgerChange.commandIds {before after : Ledger} (change : LedgerChange before after)
    (unique : (before.commands.map fun row => row.assignment.commandId).Nodup) :
    (after.commands.map fun row => row.assignment.commandId).Nodup := by
  have kept : ∀ map : CommandRow → CommandRow,
      (∀ row, (map row).assignment = row.assignment) →
      after.commands = before.commands.map map →
      (after.commands.map fun row => row.assignment.commandId).Nodup := by
    intro map keeps commands
    rw [commands, List.map_map]
    have same : ((fun row : CommandRow => row.assignment.commandId) ∘ map) =
        fun row => row.assignment.commandId := by
      funext row
      simp [keeps row]
    rw [same]
    exact unique
  cases change with
  | inserted row selections fresh _ _ commands =>
    rw [commands, List.map_append]
    refine nodup_append_singleton unique ?_
    intro present
    obtain ⟨other, member, same⟩ := List.mem_map.mp present
    exact fresh other member same
  | maintained change keeps _ commands => exact kept change keeps commands
  | received receipt found _ _ _ commands =>
    refine kept _ ?_ commands
    intro row
    split
    · unfold receiveCommand
      split <;> rfl
    · rfl
  | finished result found _ _ _ _ commands =>
    refine kept _ ?_ commands
    intro row
    split <;> rfl

theorem LedgerChange.valid {before after : Ledger} (change : LedgerChange before after)
    (valid : LedgerValid before) : LedgerValid after := by
  have owned : ∀ stored ∈ before.receipts, ReceiptOwned after stored :=
    fun stored member => (valid.receiptsOwned stored member).extend change
  have resultOwned : ∀ stored ∈ before.results, ResultOwned after stored :=
    fun stored member => (valid.resultsOwned stored member).extend change
  have received : ∀ stored ∈ before.results,
      ∃ receipt ∈ after.receipts, receipt.commandId = stored.commandId := by
    intro stored member
    obtain ⟨receipt, receiptMember, same⟩ := valid.resultsReceived stored member
    exact ⟨receipt, change.receipts_extend receiptMember, same⟩
  have commandsUnique := change.commandIds valid.commandsUnique
  have statesBacked := change.statesBacked valid.statesBacked
  cases change with
  | inserted _ _ _ _ _ _ _ receipts results =>
    refine ⟨commandsUnique, ?_, ?_, ?_, ?_, ?_, statesBacked⟩
    · rw [receipts]; exact valid.receiptsUnique
    · rw [results]; exact valid.resultsUnique
    · rw [receipts]; exact owned
    · rw [results]; exact resultOwned
    · rw [results]; exact received
  | maintained _ _ _ _ _ receipts results =>
    refine ⟨commandsUnique, ?_, ?_, ?_, ?_, ?_, statesBacked⟩
    · rw [receipts]; exact valid.receiptsUnique
    · rw [results]; exact valid.resultsUnique
    · rw [receipts]; exact owned
    · rw [results]; exact resultOwned
    · rw [results]; exact received
  | received receipt row found fence fresh commands _ receipts results =>
    refine ⟨commandsUnique, ?_, ?_, ?_, ?_, ?_, statesBacked⟩
    · rw [receipts, List.map_append]
      exact nodup_append_singleton valid.receiptsUnique (receipt_none fresh)
    · rw [results]; exact valid.resultsUnique
    · rw [receipts]
      intro stored member
      rw [List.mem_append, List.mem_singleton] at member
      obtain old | rfl := member
      · exact owned stored old
      · obtain ⟨present, named⟩ := command_mem found
        have kept : (receiveCommand receipt.receivedAt row).assignment = row.assignment := by
          unfold receiveCommand
          split <;> rfl
        refine ⟨receiveCommand receipt.receivedAt row, ?_, ?_, receipt, rfl, ?_⟩
        · rw [commands]
          exact List.mem_map.mpr ⟨row, present, if_pos named⟩
        · rw [kept, named]
          rfl
        · rw [matchesFence_congr kept]
          exact fence
    · rw [results]; exact resultOwned
    · rw [results]; exact received
  | finished result row found fence acknowledged fresh commands _ receipts results =>
    refine ⟨commandsUnique, ?_, ?_, ?_, ?_, ?_, statesBacked⟩
    · rw [receipts]; exact valid.receiptsUnique
    · rw [results, List.map_append]
      exact nodup_append_singleton valid.resultsUnique (result_none fresh)
    · rw [receipts]; exact owned
    · rw [results]
      intro stored member
      rw [List.mem_append, List.mem_singleton] at member
      obtain old | rfl := member
      · exact resultOwned stored old
      · obtain ⟨present, named⟩ := command_mem found
        refine ⟨completeCommand result row, ?_, named, result, rfl, fence⟩
        rw [commands]
        exact List.mem_map.mpr ⟨row, present, if_pos named⟩
    · rw [results]
      intro stored member
      rw [List.mem_append, List.mem_singleton] at member
      obtain old | rfl := member
      · exact received stored old
      · obtain ⟨receipt, stored⟩ := Option.ne_none_iff_exists'.mp acknowledged
        obtain ⟨present, named⟩ := receipt_mem stored
        exact ⟨receipt, by rw [receipts]; exact present, named⟩

theorem ledgerValid_final (calls : List LedgerCall) : LedgerValid (Run.final ledgerStep {} calls) :=
  Run.final_preserves ledgerStep LedgerValid
    (fun ledger call valid => (ledgerStep_change ledger call).valid valid) {} ledgerValid_empty calls

/-! ## What stays -/

/-- What one command's rows keep from one ledger to a later one: its assignment, its selection, or
that it has none, its receipt and its result. -/
structure LedgerContinues (earlier later : Ledger) : Prop where
  command : ∀ commandId row, earlier.command commandId = some row →
    ∃ successor, later.command commandId = some successor ∧
      successor.assignment = row.assignment
  selection : ∀ commandId, earlier.command commandId ≠ none →
    later.selection commandId = earlier.selection commandId
  receipt : ∀ commandId stored, earlier.receipt commandId = some stored →
    later.receipt commandId = some stored
  result : ∀ commandId stored, earlier.result commandId = some stored →
    later.result commandId = some stored

theorem LedgerContinues.refl (ledger : Ledger) : LedgerContinues ledger ledger :=
  ⟨fun _ row found => ⟨row, found, rfl⟩, fun _ _ => rfl, fun _ _ found => found,
    fun _ _ found => found⟩

theorem LedgerContinues.trans {first second third : Ledger}
    (earlier : LedgerContinues first second) (later : LedgerContinues second third) :
    LedgerContinues first third := by
  refine ⟨?_, ?_, ?_, ?_⟩
  · intro commandId row found
    obtain ⟨middle, middleFound, middleSame⟩ := earlier.command commandId row found
    obtain ⟨last, lastFound, lastSame⟩ := later.command commandId middle middleFound
    exact ⟨last, lastFound, lastSame.trans middleSame⟩
  · intro commandId present
    obtain ⟨row, found⟩ := Option.ne_none_iff_exists'.mp present
    obtain ⟨middle, middleFound, -⟩ := earlier.command commandId row found
    rw [later.selection commandId (by rw [middleFound]; simp), earlier.selection commandId present]
  · intro commandId stored found
    exact later.receipt commandId stored (earlier.receipt commandId stored found)
  · intro commandId stored found
    exact later.result commandId stored (earlier.result commandId stored found)

theorem find_command_map (rows : List CommandRow) (change : CommandRow → CommandRow)
    (keeps : ∀ row, (change row).assignment = row.assignment) (commandId : Bytes) :
    ((rows.map change).find? fun row => row.assignment.commandId == commandId) =
      (rows.find? fun row => row.assignment.commandId == commandId).map change := by
  rw [List.find?_map]
  congr 2
  funext row
  simp [keeps row]

theorem LedgerChange.continues {before after : Ledger} (change : LedgerChange before after) :
    LedgerContinues before after := by
  have mapped : ∀ map : CommandRow → CommandRow,
      (∀ row, (map row).assignment = row.assignment) →
      after.commands = before.commands.map map → ∀ commandId row,
      before.command commandId = some row → ∃ successor,
        after.command commandId = some successor ∧ successor.assignment = row.assignment := by
    intro map keeps commands commandId row found
    refine ⟨map row, ?_, keeps row⟩
    unfold Ledger.command at found ⊢
    rw [commands, find_command_map _ _ keeps, found]
    rfl
  have appended : ∀ {α : Type} {rows : List α} {row : α} {p : α → Bool} {stored : α},
      rows.find? p = some stored → (rows ++ [row]).find? p = some stored := by
    intro α rows row p stored found
    rw [List.find?_append, found]
    rfl
  cases change with
  | inserted row selections fresh _ own commands selected receipts results =>
    refine ⟨?_, ?_, ?_, ?_⟩
    · intro commandId other found
      refine ⟨other, ?_, rfl⟩
      unfold Ledger.command at found ⊢
      rw [commands]
      exact appended found
    · intro commandId present
      obtain ⟨other, found⟩ := Option.ne_none_iff_exists'.mp present
      obtain ⟨member, named⟩ := command_mem found
      have foreign : selections.find? (fun row => row.commandId == cString commandId) = none := by
        rw [List.find?_eq_none]
        intro selection ownMember
        have different := fresh other member
        rw [own selection ownMember, ← named]
        simpa using fun same => different same.symm
      unfold Ledger.selection
      rw [selected, List.find?_append, foreign, Option.or_none]
    · intro commandId stored found
      unfold Ledger.receipt at found ⊢
      rwa [receipts]
    · intro commandId stored found
      unfold Ledger.result at found ⊢
      rwa [results]
  | maintained map keeps _ commands selected receipts results =>
    refine ⟨mapped map keeps commands, ?_, ?_, ?_⟩
    · intro commandId _
      simp only [Ledger.selection, selected]
    · intro commandId stored found
      unfold Ledger.receipt at found ⊢
      rwa [receipts]
    · intro commandId stored found
      unfold Ledger.result at found ⊢
      rwa [results]
  | received receipt row _ _ _ commands selected receipts results =>
    refine ⟨mapped _ ?_ commands, ?_, ?_, ?_⟩
    · intro row
      split
      · unfold receiveCommand
        split <;> rfl
      · rfl
    · intro commandId _
      simp only [Ledger.selection, selected]
    · intro commandId stored found
      unfold Ledger.receipt at found ⊢
      rw [receipts]
      exact appended found
    · intro commandId stored found
      unfold Ledger.result at found ⊢
      rwa [results]
  | finished result row _ _ _ _ commands selected receipts results =>
    refine ⟨mapped _ ?_ commands, ?_, ?_, ?_⟩
    · intro row
      split <;> rfl
    · intro commandId _
      simp only [Ledger.selection, selected]
    · intro commandId stored found
      unfold Ledger.receipt at found ⊢
      rwa [receipts]
    · intro commandId stored found
      unfold Ledger.result at found ⊢
      rw [results]
      exact appended found

theorem ledgerContinues_final (ledger : Ledger) (calls : List LedgerCall) :
    LedgerContinues ledger (Run.final ledgerStep ledger calls) :=
  Run.final_relates ledgerStep (fun _ => True) (fun _ _ => True) LedgerContinues
    LedgerContinues.refl (fun _ _ _ => LedgerContinues.trans) (fun _ _ _ => trivial)
    (fun ledger call _ _ => (ledgerStep_change ledger call).continues) ledger trivial calls
    (fun _ _ _ _ => trivial)

/-! ## Repeated messages -/

def countReceiptReplay (ledger : Ledger) (commandId : Bytes) : Ledger :=
  ledger.updateCommand commandId fun row =>
    { row with receiptReplayCount := row.receiptReplayCount + 1 }

def countResultReplay (ledger : Ledger) (commandId : Bytes) : Ledger :=
  ledger.updateCommand commandId fun row =>
    { row with resultReplayCount := row.resultReplayCount + 1 }

/-- A receipt that passes the checks of its command and meets a stored one is accepted if and only
if the identities agree, and is at most counted. -/
theorem acceptReceipt_repeated {ledger : Ledger} {receipt : BackendAgentCommandReceipt}
    {row : CommandRow} {existing : ReceiptRow} (found : ledger.command receipt.commandId = some row)
    (fence : row.matchesFence receipt.fence = true)
    (checked : checkReceipt ledger row receipt.commandId = .ok ())
    (stored : ledger.receipt receipt.commandId = some existing) :
    acceptReceipt true ledger receipt =
      if existing.receiptIdentity = backendAgentCommandReceiptIdentity receipt then
        (countReceiptReplay ledger receipt.commandId,
          { accepted := true, replayed := true, reasonCode := "command_receipt_replayed" })
      else (ledger, { reasonCode := "command_receipt_conflict" }) := by
  simp only [acceptReceipt, found, fence, checked, stored, Bool.true_eq_false, ↓reduceIte]
  by_cases same : existing.receiptIdentity = backendAgentCommandReceiptIdentity receipt
  · rw [if_neg (by simpa using same), if_pos same]
    rfl
  · rw [if_pos same, if_neg same]

theorem acceptResult_repeated {ledger : Ledger} {result : BackendAgentCommandResult}
    {row : CommandRow} {assignment : BackendAgentCommandAssignment} {receipt : ReceiptRow}
    {existing : ResultRow} (found : ledger.command result.commandId = some row)
    (fence : row.matchesFence result.fence = true)
    (durable : findAssignment ledger result.commandId = some assignment)
    (checked : checkResult ledger assignment result = .ok ())
    (acknowledged : ledger.receipt result.commandId = some receipt)
    (stored : ledger.result result.commandId = some existing) :
    acceptResult true ledger result =
      if existing.resultIdentity = backendAgentCommandResultIdentity result then
        (countResultReplay ledger result.commandId,
          { accepted := true, replayed := true, reasonCode := "command_result_replayed" })
      else (ledger, { reasonCode := "command_result_conflict" }) := by
  simp only [acceptResult, found, fence, durable, checked, acknowledged, stored,
    Bool.true_eq_false, ↓reduceIte, Option.isNone_some, Bool.false_eq_true]
  by_cases same : existing.resultIdentity = backendAgentCommandResultIdentity result
  · rw [if_neg (by simpa using same), if_pos same]
    rfl
  · rw [if_pos same, if_neg same]

theorem cString_stableIdentity (value : Bytes) : cString (stableIdentity value) = stableIdentity value := by
  have digits := fun hash => Hex.notMem_word64 hash 0 (by decide)
  rw [cString_eq_self_iff]
  simp [stableIdentity, digits]
  decide

/-! ## Messages sent again -/

/-- What a receipt must pass depends on its command's assignment, except for a native probe v2. -/
theorem checkReceipt_again {earlier later : Ledger} {row successor : CommandRow} {commandId : Bytes}
    (checked : checkReceipt earlier row commandId = .ok ())
    (same : successor.assignment = row.assignment)
    (current : successor.assignment.commandType = nativeProbeCommandType →
      successor.assignment.payloadVersion = 2 →
      ∃ reason, localProviderSelectionCurrent later commandId = .ok reason) :
    checkReceipt later successor commandId = .ok () := by
  unfold checkReceipt at checked ⊢
  dsimp only at checked ⊢
  rw [same] at current ⊢
  by_cases probe : row.assignment.commandType = nativeProbeCommandType
  · rw [if_pos probe] at checked ⊢
    by_cases selected : row.assignment.payloadVersion = 2
    · obtain ⟨reason, again⟩ := current probe selected
      rw [if_pos selected, again]
    · rw [if_neg selected] at checked ⊢
      exact checked
  · rw [if_neg probe] at checked ⊢
    exact checked

/-- What a result must pass depends on its command's assignment and recorded selection only. -/
theorem checkResult_again {earlier later : Ledger} {assignment : BackendAgentCommandAssignment}
    {result : BackendAgentCommandResult}
    (same : later.selection result.commandId = earlier.selection result.commandId) :
    checkResult later assignment result = checkResult earlier assignment result := by
  simp only [checkResult, checkCreateResult, checkModifyResult, checkCutResult,
    checkRecordedSelection, localProviderSelectionForCommand, same]

theorem acceptReceipt_stored {persists : Bool} {ledger : Ledger}
    {receipt : BackendAgentCommandReceipt}
    (accepted : (acceptReceipt persists ledger receipt).2.accepted = true) :
    ∃ row stored, ledger.command receipt.commandId = some row ∧
      row.matchesFence receipt.fence = true ∧
      checkReceipt ledger row receipt.commandId = .ok () ∧
      (acceptReceipt persists ledger receipt).1.receipt receipt.commandId = some stored ∧
      stored.receiptIdentity = backendAgentCommandReceiptIdentity receipt := by
  obtain ⟨-, refused⟩ | ⟨row, found, fence, checked, -, repeated | fresh⟩ :=
    acceptReceipt_cases persists ledger receipt
  · rw [refused] at accepted
    exact absurd accepted (by decide)
  · obtain ⟨existing, stored, same, after⟩ := repeated
    exact ⟨row, existing, found, fence, checked, by rw [after]; exact stored, same⟩
  · obtain ⟨absent, -, after⟩ := fresh
    refine ⟨row, receiptRow receipt, found, fence, checked, ?_, cString_stableIdentity _⟩
    rw [after]
    unfold Ledger.receipt at absent ⊢
    simp only [Ledger.updateCommand, List.find?_append, absent, Option.none_or]
    simp [receiptRow]

theorem acceptResult_stored {persists : Bool} {ledger : Ledger} {result : BackendAgentCommandResult}
    (accepted : (acceptResult persists ledger result).2.accepted = true) :
    ∃ row assignment received stored, ledger.command result.commandId = some row ∧
      row.matchesFence result.fence = true ∧
      findAssignment ledger result.commandId = some assignment ∧
      checkResult ledger assignment result = .ok () ∧
      (acceptResult persists ledger result).1.receipt result.commandId = some received ∧
      (acceptResult persists ledger result).1.result result.commandId = some stored ∧
      stored.resultIdentity = backendAgentCommandResultIdentity result := by
  obtain ⟨-, refused⟩ | ⟨row, assignment, found, fence, durable, checked, acknowledged, -,
    repeated | fresh⟩ := acceptResult_cases persists ledger result
  · rw [refused] at accepted
    exact absurd accepted (by decide)
  · obtain ⟨received, present⟩ := Option.ne_none_iff_exists'.mp acknowledged
    obtain ⟨existing, stored, same, after⟩ := repeated
    exact ⟨row, assignment, received, existing, found, fence, durable, checked,
      by rw [after]; exact present, by rw [after]; exact stored, same⟩
  · obtain ⟨received, present⟩ := Option.ne_none_iff_exists'.mp acknowledged
    obtain ⟨absent, after⟩ := fresh
    refine ⟨row, assignment, received, resultRow result, found, fence, durable, checked,
      by rw [after]; exact present, ?_, cString_stableIdentity _⟩
    rw [after]
    unfold Ledger.result at absent ⊢
    simp only [Ledger.updateCommand, List.find?_append, absent, Option.none_or]
    simp [resultRow]

theorem receipt_sent_again {persists : Bool} {before later : Ledger}
    {receipt : BackendAgentCommandReceipt}
    (accepted : (acceptReceipt persists before receipt).2.accepted = true)
    (continued : LedgerContinues (acceptReceipt persists before receipt).1 later)
    (current : ∀ row, later.command receipt.commandId = some row →
      row.assignment.commandType = nativeProbeCommandType → row.assignment.payloadVersion = 2 →
      ∃ reason, localProviderSelectionCurrent later receipt.commandId = .ok reason) :
    acceptReceipt true later receipt =
      (countReceiptReplay later receipt.commandId,
        { accepted := true, replayed := true, reasonCode := "command_receipt_replayed" }) := by
  obtain ⟨row, stored, found, fence, checked, present, identity⟩ := acceptReceipt_stored accepted
  obtain ⟨successor, again, same⟩ :=
    ((acceptReceipt_change persists before receipt).continues.trans continued).command _ row found
  rw [acceptReceipt_repeated again (by rw [matchesFence_congr same]; exact fence)
    (checkReceipt_again checked same (current successor again))
    (continued.receipt _ stored present), if_pos identity]

theorem result_sent_again {persists : Bool} {before later : Ledger}
    {result : BackendAgentCommandResult}
    (accepted : (acceptResult persists before result).2.accepted = true)
    (continued : LedgerContinues (acceptResult persists before result).1 later) :
    acceptResult true later result =
      (countResultReplay later result.commandId,
        { accepted := true, replayed := true, reasonCode := "command_result_replayed" }) := by
  obtain ⟨row, assignment, received, stored, found, fence, durable, checked, acknowledged, present,
    identity⟩ := acceptResult_stored accepted
  have whole := (acceptResult_change persists before result).continues.trans continued
  obtain ⟨successor, again, same⟩ := whole.command _ row found
  have durableAgain : findAssignment later result.commandId = some assignment := by
    unfold findAssignment at durable ⊢
    split
    · rename_i unsafeId
      rw [if_pos unsafeId] at durable
      exact durable
    · rename_i safeId
      rw [if_neg safeId, found] at durable
      rw [again]
      simpa [same] using durable
  have checkedAgain : checkResult later assignment result = .ok () := by
    rw [checkResult_again (whole.selection _ (by rw [found]; simp))]
    exact checked
  rw [acceptResult_repeated again (by rw [matchesFence_congr same]; exact fence) durableAgain
    checkedAgain (continued.receipt _ received acknowledged) (continued.result _ stored present),
    if_pos identity]

/-! ## Runs of the ledger -/

structure RepeatsCompared (ledger : Ledger) : Prop where
  receipt : ∀ receipt row existing, ledger.command receipt.commandId = some row →
    row.matchesFence receipt.fence = true → checkReceipt ledger row receipt.commandId = .ok () →
    ledger.receipt receipt.commandId = some existing →
    acceptReceipt true ledger receipt =
      if existing.receiptIdentity = backendAgentCommandReceiptIdentity receipt then
        (countReceiptReplay ledger receipt.commandId,
          { accepted := true, replayed := true, reasonCode := "command_receipt_replayed" })
      else (ledger, { reasonCode := "command_receipt_conflict" })
  receiptCounted : ∀ persists receipt existing, ledger.receipt receipt.commandId = some existing →
    ((acceptReceipt persists ledger receipt).2.accepted = true →
      existing.receiptIdentity = backendAgentCommandReceiptIdentity receipt) ∧
    ((acceptReceipt persists ledger receipt).1 = ledger ∨
      (acceptReceipt persists ledger receipt).1 = countReceiptReplay ledger receipt.commandId)
  result : ∀ result row assignment existing, ledger.command result.commandId = some row →
    row.matchesFence result.fence = true →
    findAssignment ledger result.commandId = some assignment →
    checkResult ledger assignment result = .ok () →
    ledger.result result.commandId = some existing →
    acceptResult true ledger result =
      if existing.resultIdentity = backendAgentCommandResultIdentity result then
        (countResultReplay ledger result.commandId,
          { accepted := true, replayed := true, reasonCode := "command_result_replayed" })
      else (ledger, { reasonCode := "command_result_conflict" })
  resultCounted : ∀ persists result existing, ledger.result result.commandId = some existing →
    ((acceptResult persists ledger result).2.accepted = true →
      existing.resultIdentity = backendAgentCommandResultIdentity result) ∧
    ((acceptResult persists ledger result).1 = ledger ∨
      (acceptResult persists ledger result).1 = countResultReplay ledger result.commandId)

/-- A message that was accepted is accepted again after any further calls, and only counted; the
receipt of a native probe v2 only while its provider selection is current. -/
structure AcceptedAgain (ledger : Ledger) (later : List LedgerCall) : Prop where
  receipt : ∀ persists receipt, (acceptReceipt persists ledger receipt).2.accepted = true →
    ∀ next, next = Run.final ledgerStep (acceptReceipt persists ledger receipt).1 later →
    (∀ row, next.command receipt.commandId = some row →
      row.assignment.commandType = nativeProbeCommandType → row.assignment.payloadVersion = 2 →
      ∃ reason, localProviderSelectionCurrent next receipt.commandId = .ok reason) →
    acceptReceipt true next receipt =
      (countReceiptReplay next receipt.commandId,
        { accepted := true, replayed := true, reasonCode := "command_receipt_replayed" })
  result : ∀ persists result, (acceptResult persists ledger result).2.accepted = true →
    ∀ next, next = Run.final ledgerStep (acceptResult persists ledger result).1 later →
    acceptResult true next result =
      (countResultReplay next result.commandId,
        { accepted := true, replayed := true, reasonCode := "command_result_replayed" })

theorem result_received {ledger : Ledger} (valid : LedgerValid ledger) {commandId : Bytes}
    {existing : ResultRow} (stored : ledger.result commandId = some existing) :
    ∃ received, ledger.receipt commandId = some received := by
  have member := List.mem_of_find?_eq_some stored
  have named : existing.commandId = cString commandId := by simpa using List.find?_some stored
  obtain ⟨receipt, present, same⟩ := valid.resultsReceived existing member
  cases found : ledger.receipt commandId with
  | none =>
    refine absurd ?_ (receipt_none found)
    exact List.mem_map.mpr ⟨receipt, present, same.trans named⟩
  | some received => exact ⟨received, rfl⟩

theorem repeatsCompared {ledger : Ledger} (valid : LedgerValid ledger) : RepeatsCompared ledger := by
  refine ⟨?_, ?_, ?_, ?_⟩
  · intro receipt row existing found fence checked stored
    exact acceptReceipt_repeated found fence checked stored
  · intro persists receipt existing stored
    obtain ⟨same, refused⟩ | ⟨row, -, -, -, -, repeated | fresh⟩ :=
      acceptReceipt_cases persists ledger receipt
    · exact ⟨fun accepted => absurd (refused.symm.trans accepted) (by decide), .inl same⟩
    · obtain ⟨other, present, identity, counted⟩ := repeated
      rw [stored, Option.some.injEq] at present
      exact ⟨fun _ => present ▸ identity, .inr counted⟩
    · rw [fresh.1] at stored
      simp at stored
  · intro result row assignment existing found fence durable checked stored
    obtain ⟨received, acknowledged⟩ := result_received valid stored
    exact acceptResult_repeated found fence durable checked acknowledged stored
  · intro persists result existing stored
    obtain ⟨same, refused⟩ | ⟨row, assignment, -, -, -, -, -, -, repeated | fresh⟩ :=
      acceptResult_cases persists ledger result
    · exact ⟨fun accepted => absurd (refused.symm.trans accepted) (by decide), .inl same⟩
    · obtain ⟨other, present, identity, counted⟩ := repeated
      rw [stored, Option.some.injEq] at present
      exact ⟨fun _ => present ▸ identity, .inr counted⟩
    · rw [fresh.1] at stored
      simp at stored

theorem acceptedAgain (ledger : Ledger) (later : List LedgerCall) : AcceptedAgain ledger later := by
  refine ⟨?_, ?_⟩
  · intro persists receipt accepted next ran current
    subst ran
    exact receipt_sent_again accepted (ledgerContinues_final _ later) current
  · intro persists result accepted next ran
    subst ran
    exact result_sent_again accepted (ledgerContinues_final _ later)

/-- In every run the ledger is valid, keeps what it stored, and compares repeated messages. -/
theorem command_ledger_run (earlier later : List LedgerCall) :
    LedgerValid (Run.final ledgerStep {} earlier) ∧
      LedgerContinues (Run.final ledgerStep {} earlier)
        (Run.final ledgerStep (Run.final ledgerStep {} earlier) later) ∧
      RepeatsCompared (Run.final ledgerStep {} earlier) ∧
      AcceptedAgain (Run.final ledgerStep {} earlier) later := by
  have valid := ledgerValid_final earlier
  exact ⟨valid, ledgerContinues_final _ later, repeatsCompared valid, acceptedAgain _ later⟩

/-! ### A repeated receipt whose provider is gone -/

def probeSelection : BackendAgentLocalProviderSelection :=
  { backendId := text "be1"
    authorityDomain := text "vdr.native"
    providerId := text "suitebridge:local"
    providerKind := text "suitebridge"
    ownershipGeneration := 1
    providerInstanceEpoch := text "e1"
    providerGeneration := 1
    capabilityRevision := 1
    requiredCapability := text "vdr.native.probe" }

def selectedProbe : BackendAgentCommandAssignment :=
  let command : BackendAgentCommandAssignment :=
    { present := true
      requestId := text "r1"
      correlationId := text "r1"
      operationId := text "o1"
      jobId := text "j1"
      attemptId := text "a1"
      claimEpoch := 1
      commandId := text "c1"
      backendId := text "be1"
      agentId := text "ag1"
      agentInstanceId := text "i1"
      backendGeneration := 1
      commandType := nativeProbeCommandType
      payloadVersion := 2
      payload := text "\x7b\"probeSchema\":2,\"probeNonce\":\"n1\",\"backendId\":\"be1\"," ++
        text "\"authorityDomain\":\"vdr.native\",\"providerId\":\"suitebridge:local\"," ++
        text "\"providerKind\":\"suitebridge\",\"ownershipGeneration\":1," ++
        text "\"providerInstanceEpoch\":\"e1\",\"providerGeneration\":1," ++
        text "\"capabilityRevision\":1,\"requiredCapability\":\"vdr.native.probe\"\x7d"
      verificationPolicy := text "readback_required"
      assignedAt := 10
      deadline := 100 }
  { command with requestFingerprint := backendAgentCommandFingerprint command }

def probeReceipt : BackendAgentCommandReceipt :=
  { commandId := selectedProbe.commandId
    requestFingerprint := selectedProbe.requestFingerprint
    jobId := selectedProbe.jobId
    attemptId := selectedProbe.attemptId
    claimEpoch := selectedProbe.claimEpoch
    backendId := selectedProbe.backendId
    agentId := selectedProbe.agentId
    agentInstanceId := selectedProbe.agentInstanceId
    backendGeneration := selectedProbe.backendGeneration
    receiptCategory := text "accepted"
    receivedAt := 20
    reasonCode := text "accepted_locally" }

def probeCalls : List LedgerCall :=
  [⟨true, .setLocalProviderOwnership
      { backendId := text "be1", authorityDomain := text "vdr.native"
        providerId := text "suitebridge:local", providerKind := text "suitebridge"
        allowedCapabilities := [text "vdr.native.probe"], updatedAt := 5 }⟩,
    ⟨true, .poll
      { backendId := text "be1", agentInstanceId := text "i1", backendGeneration := 1
        supportedCommandTypes := [text "vdr.native.probe"]
        localProviders :=
          [{ providerId := text "suitebridge:local", providerKind := text "suitebridge"
             providerInstanceEpoch := text "e1", providerGeneration := 1, capabilityRevision := 1
             available := true, capabilities := [text "vdr.native.probe"] }] }
      { agentId := text "ag1", now := 6, operations := none, tie := 0 }⟩,
    ⟨true, .insertAssignment selectedProbe (some probeSelection)⟩]

/-- The stored receipt itself is refused once the ownership is cleared. -/
theorem repeated_probe_receipt_refused :
    ∃ ledger later stored, ledger = Run.final ledgerStep {} probeCalls ∧
      (acceptReceipt true ledger probeReceipt).2.accepted = true ∧
      later = Run.final ledgerStep (acceptReceipt true ledger probeReceipt).1
        [⟨true, .clearLocalProviderOwnership (text "be1") (text "vdr.native") 30⟩] ∧
      later.receipt probeReceipt.commandId = some stored ∧
      stored.receiptIdentity = backendAgentCommandReceiptIdentity probeReceipt ∧
      (acceptReceipt true later probeReceipt).2 =
        { reasonCode := "local_provider_ownership_required" } :=
  ⟨_, _, receiptRow probeReceipt, rfl, by decide +kernel, rfl, by decide +kernel, by decide +kernel,
    by decide +kernel⟩

end VdrSuite.Core
