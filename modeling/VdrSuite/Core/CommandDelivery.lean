import VdrSuite.Agent.CommandStateExtension
import VdrSuite.Core.ProviderOwnership
import VdrSuite.Operations.MutationOperationRepository

/-! The command ledger of the core: delivery, receipts, results and requested replays. -/

set_option autoImplicit false

namespace VdrSuite.Core

open Library Agent

/-! ## Tables -/

inductive CommandState where
  | assigned
  | received
  | completed
  | expired
  | waitingReconciliation
  deriving DecidableEq

/-- A row of `backend_agent_commands`. -/
structure CommandRow where
  assignment : BackendAgentCommandAssignment
  state : CommandState := .assigned
  replayRequested : Bool := false
  lastDeliveredAt : Int := 0
  deliveryCount : Nat := 0
  receiptReplayCount : Nat := 0
  resultReplayCount : Nat := 0
  updatedAt : Int
  deriving DecidableEq

/-- A row of `backend_agent_command_provider_selections`. -/
structure SelectionRow where
  commandId : Bytes
  selectionIdentity : Bytes
  selection : BackendAgentLocalProviderSelection
  deriving DecidableEq

/-- A row of `backend_agent_command_receipts`. -/
structure ReceiptRow where
  commandId : Bytes
  receiptIdentity : Bytes
  receiptCategory : Bytes
  reasonCode : Bytes
  receivedAt : Int
  deriving DecidableEq

/-- A row of `backend_agent_command_results`. -/
structure ResultRow where
  commandId : Bytes
  resultIdentity : Bytes
  dispatchState : Bytes
  verificationState : Bytes
  resultCategory : Bytes
  errorCategory : Bytes
  retryClassification : Bytes
  boundedDiagnostics : Bytes
  resultEvidence : Bytes
  completedAt : Int
  deriving DecidableEq

/-- A row of `backend_agent_command_capabilities`. -/
structure CapabilityRow where
  backendId : Bytes
  agentId : Bytes
  agentInstanceId : Bytes
  backendGeneration : Nat
  commandType : Bytes
  publishedAt : Int
  deriving DecidableEq

structure Ledger where
  commands : List CommandRow := []
  selections : List SelectionRow := []
  receipts : List ReceiptRow := []
  results : List ResultRow := []
  capabilities : List CapabilityRow := []
  facts : List FactsRow := []
  ownership : List OwnershipRow := []
  deriving DecidableEq

def Ledger.command (ledger : Ledger) (commandId : Bytes) : Option CommandRow :=
  ledger.commands.find? fun row => row.assignment.commandId == cString commandId

def Ledger.selection (ledger : Ledger) (commandId : Bytes) : Option SelectionRow :=
  ledger.selections.find? fun row => row.commandId == cString commandId

def Ledger.receipt (ledger : Ledger) (commandId : Bytes) : Option ReceiptRow :=
  ledger.receipts.find? fun row => row.commandId == cString commandId

def Ledger.result (ledger : Ledger) (commandId : Bytes) : Option ResultRow :=
  ledger.results.find? fun row => row.commandId == cString commandId

def Ledger.updateCommand (ledger : Ledger) (commandId : Bytes) (change : CommandRow → CommandRow) :
    Ledger :=
  { ledger with
    commands := ledger.commands.map fun row =>
      if row.assignment.commandId = cString commandId then change row else row }

/-! ## Assignments -/

def boundAssignment (assignment : BackendAgentCommandAssignment) : BackendAgentCommandAssignment :=
  { assignment with
    present := true
    protocolVersion := cString assignment.protocolVersion
    requestId := cString assignment.requestId
    correlationId := cString assignment.correlationId
    operationId := cString assignment.operationId
    jobId := cString assignment.jobId
    attemptId := cString assignment.attemptId
    commandId := cString assignment.commandId
    backendId := cString assignment.backendId
    agentId := cString assignment.agentId
    agentInstanceId := cString assignment.agentInstanceId
    commandType := cString assignment.commandType
    payload := cString assignment.payload
    requestFingerprint := cString assignment.requestFingerprint
    verificationPolicy := cString assignment.verificationPolicy }

def selectionRow (commandId : Bytes) (selection : BackendAgentLocalProviderSelection) :
    SelectionRow :=
  { commandId := cString commandId
    selectionIdentity := cString (backendAgentLocalProviderSelectionIdentity selection)
    selection :=
      { backendId := cString selection.backendId
        authorityDomain := cString selection.authorityDomain
        providerId := cString selection.providerId
        providerKind := cString selection.providerKind
        ownershipGeneration := selection.ownershipGeneration
        providerInstanceEpoch := cString selection.providerInstanceEpoch
        providerGeneration := selection.providerGeneration
        capabilityRevision := selection.capabilityRevision
        requiredCapability := cString selection.requiredCapability } }

/-- The primary key and the unique job, attempt and epoch of `backend_agent_commands`. -/
def conflictsWith (assignment : BackendAgentCommandAssignment) (row : CommandRow) : Bool :=
  row.assignment.commandId == cString assignment.commandId ||
  (row.assignment.jobId == cString assignment.jobId &&
    row.assignment.attemptId == cString assignment.attemptId &&
    row.assignment.claimEpoch == assignment.claimEpoch)

def insertSelection (ledger : Ledger) (commandId : Bytes) :
    Option BackendAgentLocalProviderSelection → Option Ledger
  | none => some ledger
  | some selection =>
    if (backendAgentLocalProviderSelectionIdentity selection).isEmpty ∨
        (ledger.selection commandId).isSome then none
    else
      some { ledger with selections := ledger.selections ++ [selectionRow commandId selection] }

/-- `persists` says, here and in the other calls, whether SQLite carries out the writes. -/
def insertAssignment (persists : Bool) (ledger : Ledger)
    (assignment : BackendAgentCommandAssignment)
    (selection : Option BackendAgentLocalProviderSelection) : Ledger × Bool :=
  let selectionFits := selection.all fun chosen =>
    backendAgentLocalProviderValidSelection chosen && chosen.backendId == assignment.backendId &&
    chosen.requiredCapability == assignment.commandType
  if backendAgentCommandValidAssignment assignment = false ∨ selectionFits = false then
    (ledger, false)
  else if persists = false ∨ ledger.commands.any (conflictsWith assignment) = true then
    (ledger, false)
  else
    let row : CommandRow :=
      { assignment := boundAssignment assignment, updatedAt := assignment.assignedAt }
    match insertSelection { ledger with commands := ledger.commands ++ [row] }
        assignment.commandId selection with
    | none => (ledger, false)
    | some updated => (updated, true)

def findAssignment (ledger : Ledger) (commandId : Bytes) : Option BackendAgentCommandAssignment :=
  if backendAgentCommandSafeIdentifier commandId = false then none
  else (ledger.command commandId).map (·.assignment)

/-! ## Provider selections -/

def readSelection (row : SelectionRow) : Option BackendAgentLocalProviderSelection :=
  if backendAgentLocalProviderValidSelection row.selection = true ∧
      row.selectionIdentity = backendAgentLocalProviderSelectionIdentity row.selection then
    some row.selection
  else none

def localProviderSelectionForCommand (ledger : Ledger) (commandId : Bytes) :
    Option BackendAgentLocalProviderSelection :=
  if backendAgentCommandSafeIdentifier commandId = false then none
  else (ledger.selection commandId).bind readSelection

def mutatingNativeCommand (commandType : Bytes) : Bool :=
  commandType == nativeTimerCreateCommandType || commandType == nativeTimerDeleteCommandType ||
  commandType == nativeTimerUpdateCommandType || commandType == nativeTimerToggleCommandType ||
  commandType == recordingMarksModifyCommandType || commandType == recordingCutCommandType

/-- The provider that a mutating native command must have selected, and the reason otherwise. -/
structure RequiredProvider where
  authorityDomain : Bytes
  providerId : Bytes
  providerKind : Bytes
  capability : Bytes
  mismatch : String

def requiredProvider (commandType : Bytes) : Option RequiredProvider :=
  let timerProvider := fun (capability : Bytes) (mismatch : String) =>
    some
      { authorityDomain := text "vdr.timer", providerId := text "suitebridge:local"
        providerKind := text "suitebridge", capability, mismatch : RequiredProvider }
  if commandType = nativeTimerCreateCommandType then
    timerProvider (text "vdr.timer.create") "native_timer_create_provider_selection_mismatch"
  else if commandType = nativeTimerDeleteCommandType then
    timerProvider (text "vdr.timer.delete") "native_timer_delete_provider_selection_mismatch"
  else if commandType = nativeTimerToggleCommandType then
    timerProvider (text "vdr.timer.toggle") "native_timer_modify_provider_selection_mismatch"
  else if commandType = nativeTimerUpdateCommandType then
    timerProvider (text "vdr.timer.update") "native_timer_modify_provider_selection_mismatch"
  else if commandType = recordingMarksModifyCommandType then
    some
      { authorityDomain := text "vdr.recording.marks"
        providerId := text "suitebridge:recording-marks", providerKind := text "suitebridge"
        capability := text "vdr.recording.marks.modify"
        mismatch := "recording_marks_modify_provider_selection_mismatch" }
  else if commandType = recordingCutCommandType then
    some
      { authorityDomain := text "vdr.recording.cut", providerId := text "suitebridge:recording-cut"
        providerKind := text "suitebridge", capability := text "vdr.recording.cut"
        mismatch := "recording_cut_provider_selection_mismatch" }
  else none

def localProviderSelectionCurrent (ledger : Ledger) (commandId : Bytes) : Except String String :=
  match ledger.command commandId with
  | none => .error "command_not_found"
  | some row =>
    let assignment := row.assignment
    if (assignment.commandType == nativeProbeCommandType ||
        mutatingNativeCommand assignment.commandType) = false then
      .ok "local_provider_selection_not_required"
    else
      match ledger.selection commandId with
      | none => .error "local_provider_selection_required"
      | some recorded =>
        match readSelection recorded with
        | none => .error "local_provider_selection_invalid"
        | some selection =>
          let mismatch := (requiredProvider assignment.commandType).bind fun required =>
            if selection.authorityDomain ≠ required.authorityDomain ∨
                selection.providerId ≠ required.providerId ∨
                selection.providerKind ≠ required.providerKind ∨
                selection.requiredCapability ≠ required.capability then
              some required.mismatch
            else none
          match mismatch with
          | some reason => .error reason
          | none =>
            match selectLocalProvider ledger.ownership ledger.facts selection.backendId
                assignment.agentId assignment.agentInstanceId
                assignment.backendGeneration selection.authorityDomain
                selection.requiredCapability with
            | .error reason => .error reason
            | .ok current =>
              if backendAgentLocalProviderSameFence selection current then
                .ok "local_provider_selection_current"
              else .error "local_provider_selection_stale"

/-! ## Polls -/

structure BackendAgentCommandPollRequest where
  backendId : Bytes
  agentInstanceId : Bytes
  backendGeneration : Nat
  refreshCapabilities : Bool := true
  supportedCommandTypes : List Bytes := []
  localProviders : List BackendAgentLocalProviderFacts := []
  deriving DecidableEq

structure BackendAgentCommandPollResult where
  accepted : Bool
  reasonCode : String
  assignment : BackendAgentCommandAssignment := {}
  deriving DecidableEq

/-- An advertised timer command stands once and with an available provider of its capability. -/
def timerAdvertisementRequirement (request : BackendAgentCommandPollRequest)
    (commandType : Bytes) (duplicateReason providerReason : String) : Except String Unit :=
  let advertised := request.supportedCommandTypes.count commandType
  if advertised = 0 then .ok ()
  else if advertised ≠ 1 then .error duplicateReason
  else
    match request.localProviders.find? fun facts => facts.providerId == text "suitebridge:local" with
    | none => .error providerReason
    | some provider =>
      if backendAgentLocalProviderValidFacts provider = false ∨
          provider.providerKind ≠ text "suitebridge" ∨ provider.available = false ∨
          commandType ∉ provider.capabilities then .error providerReason
      else .ok ()

def backendAgentNativeTimerAdvertisementValid (request : BackendAgentCommandPollRequest) :
    Except String Unit := do
  timerAdvertisementRequirement request nativeTimerCreateCommandType
    "invalid_native_timer_create_advertisement"
    "native_timer_create_provider_advertisement_required"
  timerAdvertisementRequirement request nativeTimerUpdateCommandType
    "invalid_native_timer_update_advertisement"
    "native_timer_update_provider_advertisement_required"
  timerAdvertisementRequirement request nativeTimerToggleCommandType
    "invalid_native_timer_toggle_advertisement"
    "native_timer_toggle_provider_advertisement_required"
  timerAdvertisementRequirement request nativeTimerDeleteCommandType
    "invalid_native_timer_delete_advertisement"
    "native_timer_delete_provider_advertisement_required"

/-- What a poll meets besides the ledger: the agent that polls, the clock, the rows of
`mutation_operations` (`none` without that table) and the choice among equally old commands. -/
structure PollContext where
  agentId : Bytes
  now : Int
  operations : Option (List Operations.MutationOperationRow)
  tie : Nat

def capabilityRow (request : BackendAgentCommandPollRequest) (context : PollContext)
    (commandType : Bytes) : CapabilityRow :=
  { backendId := cString request.backendId
    agentId := cString context.agentId
    agentInstanceId := cString request.agentInstanceId
    backendGeneration := request.backendGeneration
    commandType := cString commandType
    publishedAt := context.now }

def factsRow (request : BackendAgentCommandPollRequest) (context : PollContext)
    (facts : BackendAgentLocalProviderFacts) : FactsRow :=
  { backendId := cString request.backendId
    agentId := cString context.agentId
    agentInstanceId := cString request.agentInstanceId
    backendGeneration := request.backendGeneration
    providerId := cString facts.providerId
    providerKind := cString facts.providerKind
    providerInstanceEpoch := cString facts.providerInstanceEpoch
    providerGeneration := facts.providerGeneration
    capabilityRevision := facts.capabilityRevision
    available := facts.available
    capabilities := cString (identifiers facts.capabilities)
    observedAt := context.now }

def insertCapability (rows : List CapabilityRow) (row : CapabilityRow) :
    Option (List CapabilityRow) :=
  if rows.any fun other =>
      other.backendId == row.backendId && other.commandType == row.commandType then none
  else some (rows ++ [row])

def insertFacts (rows : List FactsRow) (row : FactsRow) : Option (List FactsRow) :=
  if rows.any fun other =>
      other.backendId == row.backendId && other.providerId == row.providerId then none
  else some (rows ++ [row])

/-- Commands that nobody completed in time; a receipt does not keep a command from expiring. -/
def expireCommands (ledger : Ledger) (backendId : Bytes) (now : Int) : Ledger :=
  { ledger with
    commands := ledger.commands.map fun row =>
      if row.assignment.backendId = cString backendId ∧
          (row.state = .assigned ∨ row.state = .received) ∧ row.assignment.deadline < now then
        { row with state := .expired, updatedAt := now }
      else row }

def refreshAdvertisement (ledger : Ledger) (request : BackendAgentCommandPollRequest)
    (context : PollContext) : Option Ledger := do
  let capabilities ←
    (request.supportedCommandTypes.map (capabilityRow request context)).foldlM insertCapability
      (ledger.capabilities.filter fun row => row.backendId != cString request.backendId)
  if request.localProviders.all backendAgentLocalProviderValidFacts = false then none
  else
    let facts ← (request.localProviders.map (factsRow request context)).foldlM insertFacts
      (ledger.facts.filter fun row => row.backendId != cString request.backendId)
    some
      (expireCommands { ledger with capabilities := capabilities, facts := facts }
        request.backendId context.now)

/-- Read-back notices leave only for an import that the operation table reports as succeeded. -/
def readbackReleased (operations : Option (List Operations.MutationOperationRow))
    (assignment : BackendAgentCommandAssignment) : Bool :=
  if assignment.commandType = mediaImportReadbackCommandType then
    match operations with
    | none => false
    | some rows => rows.any fun operation =>
      operation.operationId == assignment.operationId &&
      operation.backendId == assignment.backendId &&
      operation.backendGeneration == assignment.backendGeneration &&
      operation.state == text "succeeded" && operation.actionFamily == text "media.import"
  else true

/-- SQL `instr` on a comma-separated column with commas put around both. -/
def listsCapability (capabilities requiredCapability : Bytes) : Bool :=
  (splitAtFirst ([44] ++ requiredCapability ++ [44]) ([44] ++ capabilities ++ [44])).isSome

/-- The join of selection, ownership and facts that probes and cuts must pass to be delivered. -/
def providerJoin (ledger : Ledger) (assignment : BackendAgentCommandAssignment) : Bool :=
  ledger.selections.any fun recorded =>
    recorded.commandId == assignment.commandId &&
    ledger.ownership.any fun owner =>
      owner.backendId == recorded.selection.backendId &&
      owner.authorityDomain == recorded.selection.authorityDomain && owner.active &&
      owner.providerId == recorded.selection.providerId &&
      owner.providerKind == recorded.selection.providerKind &&
      owner.ownershipGeneration == recorded.selection.ownershipGeneration &&
      ledger.facts.any fun facts =>
        facts.backendId == recorded.selection.backendId &&
        facts.providerId == recorded.selection.providerId &&
        facts.agentId == assignment.agentId &&
        facts.agentInstanceId == assignment.agentInstanceId &&
        facts.backendGeneration == assignment.backendGeneration &&
        facts.providerKind == recorded.selection.providerKind &&
        facts.providerInstanceEpoch == recorded.selection.providerInstanceEpoch &&
        facts.providerGeneration == recorded.selection.providerGeneration &&
        facts.capabilityRevision == recorded.selection.capabilityRevision && facts.available &&
        (assignment.commandType != recordingCutCommandType ||
          (recorded.selection.authorityDomain == text "vdr.recording.cut" &&
            recorded.selection.providerId == text "suitebridge:recording-cut" &&
            recorded.selection.providerKind == text "suitebridge" &&
            recorded.selection.requiredCapability == text "vdr.recording.cut" &&
            listsCapability owner.allowedCapabilities recorded.selection.requiredCapability &&
            listsCapability facts.capabilities recorded.selection.requiredCapability))

def deliverable (ledger : Ledger) (request : BackendAgentCommandPollRequest)
    (context : PollContext) (row : CommandRow) : Bool :=
  row.assignment.backendId == cString request.backendId &&
  row.assignment.agentId == cString context.agentId &&
  row.assignment.agentInstanceId == cString request.agentInstanceId &&
  row.assignment.backendGeneration == request.backendGeneration &&
  decide (context.now ≤ row.assignment.deadline) &&
  ((row.state == .assigned &&
      !(ledger.receipts.any fun receipt => receipt.commandId == row.assignment.commandId)) ||
    row.replayRequested) &&
  readbackReleased context.operations row.assignment &&
  (ledger.capabilities.any fun capability =>
    capability.backendId == row.assignment.backendId &&
    capability.agentId == row.assignment.agentId &&
    capability.agentInstanceId == row.assignment.agentInstanceId &&
    capability.backendGeneration == row.assignment.backendGeneration &&
    capability.commandType == row.assignment.commandType) &&
  ((row.assignment.commandType != nativeProbeCommandType &&
      row.assignment.commandType != recordingCutCommandType) ||
    providerJoin ledger row.assignment)

/-- The oldest of the rows; among equally old ones `tie` decides. -/
def oldest (tie : Nat) (rows : List CommandRow) : Option CommandRow :=
  let first := rows.filter fun row =>
    rows.all fun other => decide (row.assignment.assignedAt ≤ other.assignment.assignedAt)
  first[tie % first.length]?

def deliver (ledger : Ledger) (request : BackendAgentCommandPollRequest) (context : PollContext) :
    Ledger × BackendAgentCommandPollResult :=
  match oldest context.tie (ledger.commands.filter (deliverable ledger request context)) with
  | none => (ledger, { accepted := true, reasonCode := "no_command_available" })
  | some row =>
    let assignment := row.assignment
    let current : Except String String :=
      if mutatingNativeCommand assignment.commandType then
        localProviderSelectionCurrent ledger assignment.commandId
      else .ok "local_provider_selection_not_required"
    match current with
    | .error reason => (ledger, { accepted := true, reasonCode := reason })
    | .ok _ =>
      (ledger.updateCommand assignment.commandId fun row =>
        { row with
          replayRequested := false
          lastDeliveredAt := context.now
          deliveryCount := row.deliveryCount + 1
          updatedAt := context.now },
        { accepted := true, reasonCode := "command_assigned", assignment := assignment })

def poll (persists : Bool) (ledger : Ledger) (request : BackendAgentCommandPollRequest)
    (context : PollContext) : Ledger × BackendAgentCommandPollResult :=
  let unavailable : BackendAgentCommandPollResult :=
    { accepted := false, reasonCode := "command_database_unavailable" }
  let waiting := ledger.commands.any fun row =>
    row.assignment.backendId == cString request.backendId &&
    (row.state == .assigned || row.replayRequested)
  if request.refreshCapabilities = false ∧ waiting = false then
    (ledger, { accepted := true, reasonCode := "no_command_available" })
  else if request.refreshCapabilities then
    match backendAgentNativeTimerAdvertisementValid request with
    | .error reason => (ledger, { accepted := false, reasonCode := reason })
    | .ok _ =>
      if persists = false then (ledger, unavailable)
      else
        match refreshAdvertisement ledger request context with
        | none => (ledger, unavailable)
        | some refreshed => deliver refreshed request context
  else if persists = false then (ledger, unavailable)
  else deliver ledger request context

/-! ## Receipts -/

structure DeliveryAnswer where
  accepted : Bool := false
  replayed : Bool := false
  reasonCode : String
  deriving DecidableEq

/-- Whether a message speaks of the command of a row; the identifier is what found the row. -/
def CommandRow.matchesFence (row : CommandRow) (fence : CommandFence) : Bool :=
  row.assignment.jobId == fence.jobId && row.assignment.attemptId == fence.attemptId &&
  row.assignment.claimEpoch == fence.claimEpoch && row.assignment.backendId == fence.backendId &&
  row.assignment.agentId == fence.agentId &&
  row.assignment.agentInstanceId == fence.agentInstanceId &&
  row.assignment.backendGeneration == fence.backendGeneration &&
  row.assignment.requestFingerprint == fence.requestFingerprint

def checkReceipt (ledger : Ledger) (row : CommandRow) (commandId : Bytes) : Except String Unit :=
  let assignment := row.assignment
  if assignment.commandType = nativeProbeCommandType then
    if assignment.payloadVersion = 2 then
      match localProviderSelectionCurrent ledger commandId with
      | .error reason => .error reason
      | .ok _ => .ok ()
    else if assignment.payloadVersion ≠ 1 then .error "local_provider_selection_required"
    else .ok ()
  else if mutatingNativeCommand assignment.commandType = true ∧ assignment.payloadVersion ≠ 1 then
    .error "local_provider_selection_required"
  else .ok ()

def receiptRow (receipt : BackendAgentCommandReceipt) : ReceiptRow :=
  { commandId := cString receipt.commandId
    receiptIdentity := cString (backendAgentCommandReceiptIdentity receipt)
    receiptCategory := cString receipt.receiptCategory
    reasonCode := cString receipt.reasonCode
    receivedAt := receipt.receivedAt }

def databaseUnavailable : DeliveryAnswer := { reasonCode := "command_database_unavailable" }

def receiveCommand (updatedAt : Int) (row : CommandRow) : CommandRow :=
  if row.state = .assigned then { row with state := .received, updatedAt := updatedAt } else row

def acceptReceipt (persists : Bool) (ledger : Ledger) (receipt : BackendAgentCommandReceipt) :
    Ledger × DeliveryAnswer :=
  match ledger.command receipt.commandId with
  | none => (ledger, { reasonCode := "command_not_found" })
  | some row =>
    if row.matchesFence receipt.fence = false then
      (ledger, { reasonCode := "command_receipt_fenced" })
    else
      match checkReceipt ledger row receipt.commandId with
      | .error reason => (ledger, { reasonCode := reason })
      | .ok _ =>
        match ledger.receipt receipt.commandId with
        | some existing =>
          if existing.receiptIdentity ≠ backendAgentCommandReceiptIdentity receipt then
            (ledger, { reasonCode := "command_receipt_conflict" })
          else if persists = false then (ledger, databaseUnavailable)
          else
            (ledger.updateCommand receipt.commandId fun row =>
              { row with receiptReplayCount := row.receiptReplayCount + 1 },
              { accepted := true, replayed := true, reasonCode := "command_receipt_replayed" })
        | none =>
          let current : Except String String :=
            if mutatingNativeCommand row.assignment.commandType then
              localProviderSelectionCurrent ledger receipt.commandId
            else .ok "local_provider_selection_not_required"
          match current with
          | .error reason => (ledger, { reasonCode := reason })
          | .ok _ =>
            if persists = false then (ledger, databaseUnavailable)
            else
              ({ ledger with receipts := ledger.receipts ++ [receiptRow receipt] }
                |>.updateCommand receipt.commandId (receiveCommand receipt.receivedAt),
                { accepted := true, reasonCode := "command_receipt_accepted" })

/-! ## Results -/

def projectionMatches (outcome : NativeOutcomeCategory) (result : BackendAgentCommandResult) :
    Bool :=
  match outcome with
  | .rejectedWithoutEffect =>
    result.dispatchState == text "not_started" && result.verificationState == text "verified" &&
    result.resultCategory == text "rejected" && result.errorCategory == text "fenced" &&
    result.retryClassification == text "none"
  | .acceptedUnverified =>
    result.dispatchState == text "accepted_by_executor" &&
    result.verificationState == text "outcome_unknown" &&
    result.resultCategory == text "outcome_unknown" && result.errorCategory == text "none" &&
    result.retryClassification == text "reconcile_only"
  | .outcomeUnknown =>
    result.dispatchState == text "starting" &&
    result.verificationState == text "outcome_unknown" &&
    result.resultCategory == text "outcome_unknown" &&
    result.errorCategory == text "executor_unknown" &&
    result.retryClassification == text "reconcile_only"

def checkRecordedSelection (ledger : Ledger) (commandId : Bytes)
    (selection : Option BackendAgentLocalProviderSelection) : Except String Unit :=
  match selection with
  | none => .error "local_provider_selection_invalid"
  | some selection =>
    match ledger.selection commandId with
    | none => .error "local_provider_selection_required"
    | some recorded =>
      if recorded.selectionIdentity = backendAgentLocalProviderSelectionIdentity selection then
        .ok ()
      else .error "local_provider_selection_required"

/-- Whether the evidence of a timer result is its assignment's and says what the result says. -/
def checkTimerEvidence {Identity : Type} (invalid conflict : String)
    (evidence : Option (NativeEvidence Identity)) (kindFits : Bool)
    (result : BackendAgentCommandResult) : Except String Unit :=
  match evidence with
  | none => .error invalid
  | some evidence =>
    if result.resultEvidence = [] ∨ evidence.completedAt ≠ result.completedAt then .error invalid
    else if kindFits = false then .error conflict
    else if projectionMatches evidence.outcome result = false then .error conflict
    else .ok ()

def checkCreateResult (ledger : Ledger) (assignment : BackendAgentCommandAssignment)
    (result : BackendAgentCommandResult) : Except String Unit :=
  match checkRecordedSelection ledger result.commandId
      ((backendAgentNativeTimerCreateParsePayload assignment.payload).map
        (·.localProviderSelection)) with
  | .error reason => .error reason
  | .ok _ =>
    checkTimerEvidence "native_timer_create_result_evidence_invalid"
      "native_timer_create_result_evidence_conflict"
      (backendAgentNativeTimerCreateParseResultEvidence result.resultEvidence assignment) true
      result

def checkModifyResult (ledger : Ledger) (assignment : BackendAgentCommandAssignment)
    (result : BackendAgentCommandResult) : Except String Unit :=
  match backendAgentNativeTimerModifyParsePayload assignment.payload with
  | none => .error "local_provider_selection_invalid"
  | some payload =>
    match checkRecordedSelection ledger result.commandId
        (some payload.localProviderSelection) with
    | .error reason => .error reason
    | .ok _ =>
      checkTimerEvidence "native_timer_modify_result_evidence_invalid"
        "native_timer_modify_result_evidence_conflict"
        (backendAgentNativeTimerModifyParseResultEvidence result.resultEvidence assignment)
        (decide (payload.kind = .toggle) ==
          decide (assignment.commandType = nativeTimerToggleCommandType)) result

def checkCutResult (ledger : Ledger) (assignment : BackendAgentCommandAssignment)
    (commandId : Bytes) : Except String Unit :=
  match backendAgentRecordingCutParsePayload assignment.payload with
  | none => .error "local_provider_selection_invalid"
  | some payload =>
    match localProviderSelectionForCommand ledger commandId with
    | none => .error "local_provider_selection_required"
    | some recorded =>
      if backendAgentLocalProviderSameFence recorded payload.localProviderSelection then .ok ()
      else .error "local_provider_selection_required"

def checkResult (ledger : Ledger) (assignment : BackendAgentCommandAssignment)
    (result : BackendAgentCommandResult) : Except String Unit :=
  if assignment.commandType = nativeProbeCommandType then
    if assignment.payloadVersion = 2 then
      checkRecordedSelection ledger result.commandId
        ((backendAgentNativeProbeParseSelectedPayload assignment.payload).toOption.map
          (·.localProviderSelection))
    else if assignment.payloadVersion ≠ 1 then .error "local_provider_selection_required"
    else .ok ()
  else if mutatingNativeCommand assignment.commandType = false then .ok ()
  else if assignment.payloadVersion ≠ 1 then .error "local_provider_selection_required"
  else if assignment.commandType = nativeTimerCreateCommandType then
    checkCreateResult ledger assignment result
  else if assignment.commandType = nativeTimerDeleteCommandType then
    checkRecordedSelection ledger result.commandId
      ((backendAgentNativeTimerDeleteParsePayload assignment.payload).map
        (·.localProviderSelection))
  else if assignment.commandType = recordingMarksModifyCommandType then
    checkRecordedSelection ledger result.commandId
      ((backendAgentRecordingMarksModifyParsePayload assignment.payload).map
        (·.localProviderSelection))
  else if assignment.commandType = recordingCutCommandType then
    checkCutResult ledger assignment result.commandId
  else checkModifyResult ledger assignment result

def resultRow (result : BackendAgentCommandResult) : ResultRow :=
  { commandId := cString result.commandId
    resultIdentity := cString (backendAgentCommandResultIdentity result)
    dispatchState := cString result.dispatchState
    verificationState := cString result.verificationState
    resultCategory := cString result.resultCategory
    errorCategory := cString result.errorCategory
    retryClassification := cString result.retryClassification
    boundedDiagnostics := cString result.boundedDiagnostics
    resultEvidence := cString result.resultEvidence
    completedAt := result.completedAt }

def completeCommand (result : BackendAgentCommandResult) (row : CommandRow) : CommandRow :=
  { row with
    state := if result.resultCategory = text "outcome_unknown" then .waitingReconciliation
      else .completed
    updatedAt := result.completedAt }

def acceptResult (persists : Bool) (ledger : Ledger) (result : BackendAgentCommandResult) :
    Ledger × DeliveryAnswer :=
  match ledger.command result.commandId with
  | none => (ledger, { reasonCode := "command_not_found" })
  | some row =>
    if row.matchesFence result.fence = false then
      (ledger, { reasonCode := "command_result_fenced" })
    else
      match findAssignment ledger result.commandId with
      | none => (ledger, databaseUnavailable)
      | some assignment =>
        match checkResult ledger assignment result with
        | .error reason => (ledger, { reasonCode := reason })
        | .ok _ =>
          if (ledger.receipt result.commandId).isNone then
            (ledger, { reasonCode := "command_receipt_required" })
          else
            match ledger.result result.commandId with
            | some existing =>
              if existing.resultIdentity ≠ backendAgentCommandResultIdentity result then
                (ledger, { reasonCode := "command_result_conflict" })
              else if persists = false then (ledger, databaseUnavailable)
              else
                (ledger.updateCommand result.commandId fun row =>
                  { row with resultReplayCount := row.resultReplayCount + 1 },
                  { accepted := true
                    replayed := true
                    reasonCode := "command_result_replayed" })
            | none =>
              if persists = false then (ledger, databaseUnavailable)
              else
                ({ ledger with results := ledger.results ++ [resultRow result] }
                  |>.updateCommand result.commandId (completeCommand result),
                  { accepted := true, reasonCode := "command_result_accepted" })

/-! ## Replays -/

def requestReplay (persists : Bool) (ledger : Ledger) (backendId commandId : Bytes) :
    Ledger × Bool :=
  let addressed := fun row : CommandRow =>
    row.assignment.backendId == cString backendId && row.assignment.commandId == cString commandId
  if persists = false then (ledger, false)
  else
    ({ ledger with
        commands := ledger.commands.map fun row =>
          if addressed row then { row with replayRequested := true } else row },
      (ledger.commands.filter addressed).length == 1)

/-! ## Runs -/

inductive LedgerRequest where
  | insertAssignment (assignment : BackendAgentCommandAssignment)
      (selection : Option BackendAgentLocalProviderSelection)
  | poll (request : BackendAgentCommandPollRequest) (context : PollContext)
  | acceptReceipt (receipt : BackendAgentCommandReceipt)
  | acceptResult (result : BackendAgentCommandResult)
  | requestReplay (backendId commandId : Bytes)
  | setLocalProviderOwnership (arguments : OwnershipArguments)
  | clearLocalProviderOwnership (backendId authorityDomain : Bytes) (updatedAt : Int)

structure LedgerCall where
  persists : Bool
  request : LedgerRequest

inductive LedgerAnswer where
  | inserted (success : Bool)
  | polled (answer : BackendAgentCommandPollResult)
  | receipt (answer : DeliveryAnswer)
  | result (answer : DeliveryAnswer)
  | replayRequested (success : Bool)
  | ownershipSet (answer : Except String (BackendAgentLocalProviderOwnership × String))
  | ownershipCleared (answer : Except String String)
  deriving DecidableEq

def ledgerStep (ledger : Ledger) (call : LedgerCall) : Ledger × LedgerAnswer :=
  match call.request with
  | .insertAssignment assignment selection =>
    let (updated, success) := insertAssignment call.persists ledger assignment selection
    (updated, .inserted success)
  | .poll request context =>
    let (updated, answer) := poll call.persists ledger request context
    (updated, .polled answer)
  | .acceptReceipt receipt =>
    let (updated, answer) := acceptReceipt call.persists ledger receipt
    (updated, .receipt answer)
  | .acceptResult result =>
    let (updated, answer) := acceptResult call.persists ledger result
    (updated, .result answer)
  | .requestReplay backendId commandId =>
    let (updated, success) := requestReplay call.persists ledger backendId commandId
    (updated, .replayRequested success)
  | .setLocalProviderOwnership arguments =>
    let (rows, answer) := setLocalProviderOwnership call.persists ledger.ownership arguments
    ({ ledger with ownership := rows }, .ownershipSet answer)
  | .clearLocalProviderOwnership backendId authorityDomain updatedAt =>
    let (rows, answer) :=
      clearLocalProviderOwnership call.persists ledger.ownership backendId authorityDomain
        updatedAt
    ({ ledger with ownership := rows }, .ownershipCleared answer)

end VdrSuite.Core
