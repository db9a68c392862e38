import VdrSuite.Core.ProviderFence
import VdrSuite.Library.SeparatedList

/-! The provider fence of the poll's query and the one of `localProviderSelectionCurrent`: which
rows satisfy each, and when they agree. -/

set_option autoImplicit false

namespace VdrSuite.Core

open Library Agent

/-! ## Capability columns -/

theorem appendIdentifier_eq_some {values extended : List Bytes} {value : Bytes}
    (appended : appendIdentifier values value = some extended) :
    extended = values ++ [value] ∧ safeIdentifier value = true := by
  unfold appendIdentifier at appended
  split at appended
  · cases appended
  · rename_i admitted
    simp only [not_or, Bool.not_eq_false] at admitted
    split at appended
    · cases appended
    · cases appended
      exact ⟨rfl, admitted.1⟩

theorem foldlM_appendIdentifier_eq_some {values accumulated parsed : List Bytes}
    (folded : values.foldlM appendIdentifier accumulated = some parsed) :
    parsed = accumulated ++ values ∧ ∀ value ∈ values, safeIdentifier value = true := by
  induction values generalizing accumulated with
  | nil =>
    cases folded
    simp
  | cons value values ih =>
    obtain ⟨extended, appended, rest⟩ := Option.bind_eq_some_iff.mp folded
    obtain ⟨rfl, safe⟩ := appendIdentifier_eq_some appended
    obtain ⟨rfl, allSafe⟩ := ih rest
    exact ⟨by simp, List.forall_mem_cons.mpr ⟨safe, allSafe⟩⟩

theorem identifiers_of_parse {encoded : Bytes} {values : List Bytes}
    (parsed : parseIdentifiers encoded = some values) :
    encoded = identifiers values ∧ values ≠ [] ∧ ∀ value ∈ values, safeIdentifier value = true := by
  unfold parseIdentifiers at parsed
  split at parsed
  · cases parsed
  · obtain ⟨rfl, safe⟩ := foldlM_appendIdentifier_eq_some parsed
    refine ⟨?_, List.splitOn_ne_nil _ _, safe⟩
    exact (List.intercalate_splitOn (44 : UInt8)).symm

theorem listsCapability_iff {values : List Bytes} {capability : Bytes} (nonempty : values ≠ [])
    (allSafe : ∀ value ∈ values, safeIdentifier value = true)
    (safe : safeIdentifier capability = true) :
    listsCapability (identifiers values) capability = true ↔ capability ∈ values := by
  have commaFree (value : Bytes) (safe : safeIdentifier value = true) : (44 : UInt8) ∉ value :=
    (safeIdentifier_notMem value safe).2.2.1
  rw [listsCapability, splitAtFirst_isSome_iff,
    SeparatedList.mem_iff_infix_enclosed (commaFree _ safe)
      fun value member => commaFree _ (allSafe value member),
    SeparatedList.enclosed_eq_intercalate nonempty]
  rfl

/-! ## The rows of the query -/

/-- The rows of selection, ownership and facts that the query joins for a command. -/
structure JoinedRows (ledger : Ledger) (assignment : BackendAgentCommandAssignment)
    (recorded : SelectionRow) (owner : OwnershipRow) (facts : FactsRow) : Prop where
  recordedMember : recorded ∈ ledger.selections
  recordedFor : recorded.commandId = assignment.commandId
  ownerMember : owner ∈ ledger.ownership
  granted : owner.Grants recorded.selection
  factsMember : facts ∈ ledger.facts
  backendId : facts.backendId = recorded.selection.backendId
  providerId : facts.providerId = recorded.selection.providerId
  agentId : facts.agentId = assignment.agentId
  agentInstanceId : facts.agentInstanceId = assignment.agentInstanceId
  backendGeneration : facts.backendGeneration = assignment.backendGeneration
  providerKind : facts.providerKind = recorded.selection.providerKind
  providerInstanceEpoch : facts.providerInstanceEpoch = recorded.selection.providerInstanceEpoch
  providerGeneration : facts.providerGeneration = recorded.selection.providerGeneration
  capabilityRevision : facts.capabilityRevision = recorded.selection.capabilityRevision
  available : facts.available = true

def ColumnsName (recorded : SelectionRow) (owner : OwnershipRow) (facts : FactsRow) : Prop :=
  listsCapability owner.allowedCapabilities recorded.selection.requiredCapability = true ∧
  listsCapability facts.capabilities recorded.selection.requiredCapability = true

def RequiredProvider.MatchedBy (required : RequiredProvider)
    (selection : BackendAgentLocalProviderSelection) : Prop :=
  selection.authorityDomain = required.authorityDomain ∧
  selection.providerId = required.providerId ∧
  selection.providerKind = required.providerKind ∧
  selection.requiredCapability = required.capability

def cutProvider : RequiredProvider :=
  { authorityDomain := text "vdr.recording.cut", providerId := text "suitebridge:recording-cut"
    providerKind := text "suitebridge", capability := text "vdr.recording.cut"
    mismatch := "recording_cut_provider_selection_mismatch" }

theorem requiredProvider_cut : requiredProvider recordingCutCommandType = some cutProvider := by
  rfl

theorem requiredProvider_probe : requiredProvider nativeProbeCommandType = none := by
  rfl

theorem providerJoin_iff (ledger : Ledger) (assignment : BackendAgentCommandAssignment) :
    providerJoin ledger assignment = true ↔
      ∃ recorded owner facts, JoinedRows ledger assignment recorded owner facts ∧
        (assignment.commandType = recordingCutCommandType →
          cutProvider.MatchedBy recorded.selection ∧ ColumnsName recorded owner facts) := by
  simp only [providerJoin, List.any_eq_true, Bool.and_eq_true, Bool.or_eq_true, beq_iff_eq,
    bne_iff_ne]
  constructor
  · rintro ⟨recorded, recordedMember, named, owner, ownerMember, ⟨⟨⟨⟨⟨ownerBackend, ownerDomain⟩,
      active⟩, ownerProvider⟩, ownerKind⟩, ownerGeneration⟩, facts, factsMember,
      ⟨⟨⟨⟨⟨⟨⟨⟨⟨⟨backend, provider⟩, agent⟩, instanceId⟩, generation⟩, kind⟩, epoch⟩,
      providerGeneration⟩, revision⟩, available⟩, cut⟩⟩
    have granted : owner.Grants recorded.selection :=
      ⟨Prod.ext ownerBackend ownerDomain, active, ownerProvider, ownerKind, ownerGeneration⟩
    refine ⟨recorded, owner, facts, ⟨recordedMember, named, ownerMember, granted, factsMember,
      backend, provider, agent, instanceId, generation, kind, epoch, providerGeneration, revision,
      available⟩, ?_⟩
    intro isCut
    obtain ⟨⟨⟨⟨⟨domain, provider⟩, kind⟩, capability⟩, allowed⟩, observed⟩ :=
      cut.resolve_left (not_not.mpr isCut)
    exact ⟨⟨domain, provider, kind, capability⟩, allowed, observed⟩
  · rintro ⟨recorded, owner, facts, joined, cut⟩
    obtain ⟨key, active, ownerProvider, ownerKind, ownerGeneration⟩ := joined.granted
    obtain ⟨ownerBackend, ownerDomain⟩ := Prod.ext_iff.mp key
    refine ⟨recorded, joined.recordedMember, joined.recordedFor, owner, joined.ownerMember,
      ⟨⟨⟨⟨⟨ownerBackend, ownerDomain⟩, active⟩, ownerProvider⟩, ownerKind⟩, ownerGeneration⟩, facts,
      joined.factsMember, ⟨⟨⟨⟨⟨⟨⟨⟨⟨⟨joined.backendId, joined.providerId⟩, joined.agentId⟩,
      joined.agentInstanceId⟩, joined.backendGeneration⟩, joined.providerKind⟩,
      joined.providerInstanceEpoch⟩, joined.providerGeneration⟩, joined.capabilityRevision⟩,
      joined.available⟩, ?_⟩⟩
    by_cases isCut : assignment.commandType = recordingCutCommandType
    · obtain ⟨⟨domain, provider, kind, capability⟩, allowed, observed⟩ := cut isCut
      exact .inr ⟨⟨⟨⟨⟨domain, provider⟩, kind⟩, capability⟩, allowed⟩, observed⟩
    · exact .inl isCut

/-! ## The rows of a selection -/

theorem localProviderOwnershipStatus_present {rows : List OwnershipRow}
    {backendId authorityDomain : Bytes}
    (present : (localProviderOwnershipStatus rows backendId authorityDomain).present = true) :
    ∃ row ∈ rows, row.key = (cString backendId, cString authorityDomain) ∧ ∃ allowed,
      parseIdentifiers row.allowedCapabilities = some allowed ∧
      localProviderOwnershipStatus rows backendId authorityDomain =
        { present := true, active := row.active
          ownership :=
            { backendId, authorityDomain, providerId := row.providerId
              providerKind := row.providerKind, ownershipGeneration := row.ownershipGeneration
              allowedCapabilities := allowed } } := by
  unfold localProviderOwnershipStatus at present ⊢
  cases found : rows.find? (OwnershipRow.keyed backendId authorityDomain) with
  | none => simp [found] at present
  | some row =>
    rw [found] at present
    dsimp only at present ⊢
    refine ⟨row, List.mem_of_find?_eq_some found,
      (keyed_iff _ _ _).mp (List.find?_some found), ?_⟩
    unfold readOwnership at present ⊢
    cases parsed : parseIdentifiers row.allowedCapabilities with
    | none => simp [parsed] at present
    | some allowed =>
      rw [parsed] at present
      refine ⟨allowed, rfl, ?_⟩
      dsimp only at present ⊢
      split at present
      · rename_i valid
        rw [if_pos valid]
      · cases present

theorem readFacts_eq_some {providerId : Bytes} {row : FactsRow}
    {facts : BackendAgentLocalProviderFacts} (read : readFacts providerId row = some facts) :
    ∃ observed, parseIdentifiers row.capabilities = some observed ∧
      facts =
        { providerId, providerKind := row.providerKind
          providerInstanceEpoch := row.providerInstanceEpoch
          providerGeneration := row.providerGeneration
          capabilityRevision := row.capabilityRevision
          available := row.available
          capabilities := observed } := by
  unfold readFacts at read
  cases parsed : parseIdentifiers row.capabilities with
  | none => simp [parsed] at read
  | some observed =>
    rw [parsed] at read
    dsimp only at read
    split at read
    · cases read
      exact ⟨observed, rfl, rfl⟩
    · cases read

theorem select_eq_ok {ownership : BackendAgentLocalProviderOwnership}
    {facts : BackendAgentLocalProviderFacts} {requiredCapability : Bytes}
    {selection : BackendAgentLocalProviderSelection}
    (success : backendAgentLocalProviderSelect ownership facts requiredCapability = .ok selection) :
    safeIdentifier ownership.providerId = true ∧ ownership.providerId = facts.providerId ∧
    ownership.providerKind = facts.providerKind ∧
    requiredCapability ∈ ownership.allowedCapabilities ∧
    requiredCapability ∈ facts.capabilities ∧ facts.available = true ∧
    selection =
      { backendId := ownership.backendId
        authorityDomain := ownership.authorityDomain
        providerId := ownership.providerId
        providerKind := ownership.providerKind
        ownershipGeneration := ownership.ownershipGeneration
        providerInstanceEpoch := facts.providerInstanceEpoch
        providerGeneration := facts.providerGeneration
        capabilityRevision := facts.capabilityRevision
        requiredCapability } := by
  unfold backendAgentLocalProviderSelect at success
  split at success
  · cases success
  rename_i contract
  split at success
  · cases success
  rename_i owner
  split at success
  · cases success
  rename_i authorized
  split at success
  · cases success
  rename_i observed
  split at success
  · cases success
  rename_i available
  cases success
  simp only [Bool.not_eq_false, Bool.and_eq_true] at contract
  simp only [not_or, not_not] at owner
  exact ⟨(validOwnership_parts _ contract.1.1).2.2.1, owner.1, owner.2, not_not.mp authorized,
    not_not.mp observed, Bool.eq_true_of_not_eq_false available, rfl⟩

theorem selectLocalProvider_rows {ownershipRows : List OwnershipRow} {factsRows : List FactsRow}
    {backendId agentId agentInstanceId : Bytes} {backendGeneration : Nat}
    {authorityDomain requiredCapability : Bytes} {selection : BackendAgentLocalProviderSelection}
    (backendSafe : cString backendId = backendId)
    (domainSafe : cString authorityDomain = authorityDomain)
    (capabilitySafe : safeIdentifier requiredCapability = true)
    (success : selectLocalProvider ownershipRows factsRows backendId agentId agentInstanceId
      backendGeneration authorityDomain requiredCapability = .ok selection) :
    ∃ owner ∈ ownershipRows, owner.Grants selection ∧
      listsCapability owner.allowedCapabilities requiredCapability = true ∧
      ∃ facts ∈ factsRows, facts.backendId = selection.backendId ∧
        facts.providerId = selection.providerId ∧ facts.agentId = cString agentId ∧
        facts.agentInstanceId = cString agentInstanceId ∧
        facts.backendGeneration = backendGeneration ∧
        facts.providerKind = selection.providerKind ∧
        facts.providerInstanceEpoch = selection.providerInstanceEpoch ∧
        facts.providerGeneration = selection.providerGeneration ∧
        facts.capabilityRevision = selection.capabilityRevision ∧ facts.available = true ∧
        listsCapability facts.capabilities requiredCapability = true := by
  unfold selectLocalProvider at success
  dsimp only at success
  split at success
  · cases success
  rename_i active
  simp only [not_or, Bool.not_eq_false] at active
  obtain ⟨owner, ownerMember, key, allowed, allowedParsed, status⟩ :=
    localProviderOwnershipStatus_present active.1
  rw [status] at success active
  split at success
  · cases success
  rename_i facts observedRow
  split at success
  · cases success
  rename_i observedFacts read
  split at success
  · cases success
  rename_i chosen selected
  split at success
  swap
  · cases success
  cases success
  obtain ⟨observed, observedParsed, rfl⟩ := readFacts_eq_some read
  obtain ⟨providerSafe, -, kind, authorized, listed, available, rfl⟩ := select_eq_ok selected
  have fits := List.find?_some observedRow
  simp only [Bool.and_eq_true, beq_iff_eq] at fits
  obtain ⟨⟨⟨⟨factsBackend, factsAgent⟩, factsInstance⟩, factsGeneration⟩, factsProvider⟩ := fits
  rw [cString_safeIdentifier _ providerSafe] at factsProvider
  rw [backendSafe] at factsBackend key
  rw [domainSafe] at key
  obtain ⟨allowedText, allowedNonempty, allowedSafe⟩ := identifiers_of_parse allowedParsed
  obtain ⟨observedText, observedNonempty, observedSafe⟩ := identifiers_of_parse observedParsed
  refine ⟨owner, ownerMember, ⟨key, active.2, rfl, rfl, rfl⟩, ?_, facts,
    List.mem_of_find?_eq_some observedRow, factsBackend, factsProvider, factsAgent, factsInstance,
    factsGeneration, kind.symm, rfl, rfl, rfl, available, ?_⟩
  · rw [allowedText]
    exact (listsCapability_iff allowedNonempty allowedSafe capabilitySafe).mpr authorized
  · rw [observedText]
    exact (listsCapability_iff observedNonempty observedSafe capabilitySafe).mpr listed

theorem readSelection_eq_some {row : SelectionRow} {selection : BackendAgentLocalProviderSelection}
    (read : readSelection row = some selection) :
    row.selection = selection ∧ backendAgentLocalProviderValidSelection selection = true := by
  unfold readSelection at read
  split at read
  · rename_i valid
    cases read
    exact ⟨rfl, valid.1⟩
  · cases read

def selectsProvider (commandType : Bytes) : Bool :=
  commandType == nativeProbeCommandType || mutatingNativeCommand commandType

/-- Under a current selection the query finds its rows, and both columns name the capability. -/
theorem joined_of_current {ledger : Ledger} {row : CommandRow} {reason : String}
    (found : ledger.command row.assignment.commandId = some row)
    (named : cString row.assignment.commandId = row.assignment.commandId)
    (agent : cString row.assignment.agentId = row.assignment.agentId)
    (instanceId : cString row.assignment.agentInstanceId = row.assignment.agentInstanceId)
    (selects : selectsProvider row.assignment.commandType = true)
    (current : localProviderSelectionCurrent ledger row.assignment.commandId = .ok reason) :
    ∃ recorded owner facts, JoinedRows ledger row.assignment recorded owner facts ∧
      ColumnsName recorded owner facts ∧
      ∀ required, requiredProvider row.assignment.commandType = some required →
        required.MatchedBy recorded.selection := by
  unfold localProviderSelectionCurrent at current
  rw [found] at current
  dsimp only at current
  rw [if_neg (by rw [Bool.not_eq_false]; exact selects)] at current
  split at current
  · cases current
  rename_i recorded stored
  split at current
  · cases current
  rename_i selection read
  obtain ⟨rfl, valid⟩ := readSelection_eq_some read
  split at current
  · cases current
  rename_i matched
  split at current
  · cases current
  rename_i chosen selected
  split at current
  swap
  · cases current
  rename_i same
  obtain ⟨-, rfl⟩ := sameFence_iff.mp same
  simp only [backendAgentLocalProviderValidSelection, Bool.and_eq_true] at valid
  obtain ⟨owner, ownerMember, grants, allowed, facts, factsMember, backend, provider, factsAgent,
    factsInstance, generation, kind, epoch, providerGeneration, revision, available, observed⟩ :=
    selectLocalProvider_rows (cString_safeIdentifier _ valid.1.1.1.1.1.1.1.1)
      (cString_safeIdentifier _ valid.1.1.1.1.1.1.1.2) valid.2 selected
  have recordedNamed : recorded.commandId = cString row.assignment.commandId := by
    simpa using List.find?_some stored
  refine ⟨recorded, owner, facts, ⟨List.mem_of_find?_eq_some stored, recordedNamed.trans named,
    ownerMember, grants, factsMember, backend, provider, factsAgent.trans agent,
    factsInstance.trans instanceId, generation, kind, epoch, providerGeneration, revision,
    available⟩, ⟨allowed, observed⟩, ?_⟩
  intro required isRequired
  rw [isRequired] at matched
  simpa [RequiredProvider.MatchedBy] using matched

/-! ## Tables that the calls have written -/

def FactsRow.facts (row : FactsRow) (capabilities : List Bytes) : BackendAgentLocalProviderFacts :=
  { providerId := row.providerId
    providerKind := row.providerKind
    providerInstanceEpoch := row.providerInstanceEpoch
    providerGeneration := row.providerGeneration
    capabilityRevision := row.capabilityRevision
    available := row.available
    capabilities }

def FactsRow.key (row : FactsRow) : Bytes × Bytes := (row.backendId, row.providerId)

def FactsRow.Valid (row : FactsRow) : Prop :=
  ∃ capabilities, row.capabilities = identifiers capabilities ∧
    backendAgentLocalProviderValidFacts (row.facts capabilities) = true

structure FactsTableValid (rows : List FactsRow) : Prop where
  unique : (rows.map FactsRow.key).Nodup
  valid : ∀ row ∈ rows, row.Valid

def SelectionRow.Valid (row : SelectionRow) : Prop :=
  backendAgentLocalProviderValidSelection row.selection = true ∧
  row.selectionIdentity = backendAgentLocalProviderSelectionIdentity row.selection

structure SelectionTableValid (rows : List SelectionRow) : Prop where
  unique : (rows.map SelectionRow.commandId).Nodup
  valid : ∀ row ∈ rows, row.Valid

def CommandRow.Bound (row : CommandRow) : Prop :=
  cString row.assignment.commandId = row.assignment.commandId ∧
  cString row.assignment.agentId = row.assignment.agentId ∧
  cString row.assignment.agentInstanceId = row.assignment.agentInstanceId

structure CommandTableValid (rows : List CommandRow) : Prop where
  unique : (rows.map fun row => row.assignment.commandId).Nodup
  bound : ∀ row ∈ rows, row.Bound
  present : ∀ row ∈ rows, row.assignment.present = true

structure FenceTables (ledger : Ledger) : Prop where
  commands : CommandTableValid ledger.commands
  selections : SelectionTableValid ledger.selections
  ownership : OwnershipTableValid ledger.ownership
  facts : FactsTableValid ledger.facts

theorem validFacts_parts {facts : BackendAgentLocalProviderFacts}
    (valid : backendAgentLocalProviderValidFacts facts = true) :
    safeIdentifier facts.providerId = true ∧
    backendAgentLocalProviderKnownKind facts.providerKind = true ∧
    safeIdentifier facts.providerInstanceEpoch = true ∧
    boundedUniqueIdentifiers facts.capabilities = true := by
  simp only [backendAgentLocalProviderValidFacts, Bool.and_eq_true] at valid
  exact ⟨valid.1.1.1.1.1, valid.1.1.1.1.2, valid.1.1.1.2, valid.2⟩

theorem CommandTableValid.found {ledger : Ledger} (table : CommandTableValid ledger.commands)
    {row : CommandRow} (member : row ∈ ledger.commands) :
    ledger.command row.assignment.commandId = some row := by
  cases found : ledger.command row.assignment.commandId with
  | none =>
    have absent := List.find?_eq_none.mp found row member
    simp [(table.bound row member).1] at absent
  | some other =>
    obtain ⟨otherMember, named⟩ := command_mem found
    rw [(table.bound row member).1] at named
    exact congrArg some (List.inj_on_of_nodup_map table.unique otherMember member named)

theorem SelectionTableValid.found {ledger : Ledger} (table : SelectionTableValid ledger.selections)
    {row : SelectionRow} (member : row ∈ ledger.selections)
    (named : cString row.commandId = row.commandId) :
    ledger.selection row.commandId = some row := by
  cases found : ledger.selection row.commandId with
  | none =>
    have absent := List.find?_eq_none.mp found row member
    simp [named] at absent
  | some other =>
    have same : other.commandId = cString row.commandId := by
      simpa using List.find?_some found
    exact congrArg some (List.inj_on_of_nodup_map table.unique (List.mem_of_find?_eq_some found)
      member (same.trans named))

theorem FactsTableValid.found {ledger : Ledger} (table : FactsTableValid ledger.facts)
    {assignment : BackendAgentCommandAssignment} {recorded : SelectionRow} {owner : OwnershipRow}
    {facts : FactsRow} (joined : JoinedRows ledger assignment recorded owner facts)
    {backendId agentId agentInstanceId providerId : Bytes}
    (backend : backendId = recorded.selection.backendId) (agent : agentId = assignment.agentId)
    (instanceId : agentInstanceId = assignment.agentInstanceId)
    (provider : providerId = recorded.selection.providerId) :
    (ledger.facts.find? fun row =>
      row.backendId == backendId && row.agentId == agentId &&
      row.agentInstanceId == agentInstanceId &&
      row.backendGeneration == assignment.backendGeneration && row.providerId == providerId) =
        some facts := by
  subst backend agent instanceId provider
  have fits : (facts.backendId == recorded.selection.backendId &&
      facts.agentId == assignment.agentId && facts.agentInstanceId == assignment.agentInstanceId &&
      facts.backendGeneration == assignment.backendGeneration &&
      facts.providerId == recorded.selection.providerId) = true := by
    simp [joined.backendId, joined.agentId, joined.agentInstanceId, joined.backendGeneration,
      joined.providerId]
  have present : (ledger.facts.find? fun row =>
      row.backendId == recorded.selection.backendId && row.agentId == assignment.agentId &&
      row.agentInstanceId == assignment.agentInstanceId &&
      row.backendGeneration == assignment.backendGeneration &&
      row.providerId == recorded.selection.providerId).isSome = true :=
    List.find?_isSome.mpr ⟨facts, joined.factsMember, fits⟩
  obtain ⟨other, found⟩ := Option.isSome_iff_exists.mp present
  rw [found]
  have same := List.find?_some found
  simp only [Bool.and_eq_true, beq_iff_eq] at same
  have keys : other.key = facts.key :=
    Prod.ext (same.1.1.1.1.trans joined.backendId.symm) (same.2.trans joined.providerId.symm)
  exact congrArg some (List.inj_on_of_nodup_map table.unique (List.mem_of_find?_eq_some found)
    joined.factsMember keys)

theorem selectLocalProvider_of_joined {ledger : Ledger} (ownership : OwnershipTableValid ledger.ownership)
    (factsTable : FactsTableValid ledger.facts) {assignment : BackendAgentCommandAssignment}
    (agent : cString assignment.agentId = assignment.agentId)
    (instanceId : cString assignment.agentInstanceId = assignment.agentInstanceId)
    {recorded : SelectionRow} {owner : OwnershipRow} {facts : FactsRow}
    (joined : JoinedRows ledger assignment recorded owner facts)
    (valid : backendAgentLocalProviderValidSelection recorded.selection = true)
    (columns : ColumnsName recorded owner facts) :
    selectLocalProvider ledger.ownership ledger.facts recorded.selection.backendId
      assignment.agentId assignment.agentInstanceId assignment.backendGeneration
      recorded.selection.authorityDomain recorded.selection.requiredCapability =
        .ok recorded.selection := by
  obtain ⟨key, active, ownerProvider, ownerKind, ownerGeneration⟩ := joined.granted
  have validParts := valid
  simp only [backendAgentLocalProviderValidSelection, Bool.and_eq_true] at validParts
  obtain ⟨⟨⟨⟨⟨⟨⟨⟨backendSafe, domainSafe⟩, providerSafe⟩, -⟩, -⟩, -⟩, -⟩, -⟩, capabilitySafe⟩ :=
    validParts
  have backendText := cString_safeIdentifier _ backendSafe
  obtain ⟨-, absent⟩ | ⟨row, rowMember, rowKey, allowed, allowedText, allowedBounded, status⟩ :=
    localProviderOwnershipStatus_cases ledger.ownership ownership recorded.selection.backendId
      recorded.selection.authorityDomain backendText (cString_safeIdentifier _ domainSafe)
  · exact absurd key (absent owner joined.ownerMember)
  cases ownership.row_unique rowMember joined.ownerMember (rowKey.trans key.symm)
  obtain ⟨observed, observedText, factsValid⟩ := factsTable.valid facts joined.factsMember
  have observedBounded := (validFacts_parts factsValid).2.2.2
  obtain ⟨allowedNonempty, -, allowedSafe, -⟩ := (boundedUniqueIdentifiers_iff _).mp allowedBounded
  obtain ⟨observedNonempty, -, observedSafe, -⟩ :=
    (boundedUniqueIdentifiers_iff _).mp observedBounded
  obtain ⟨allowedNames, observedNames⟩ := columns
  rw [allowedText] at allowedNames
  rw [observedText] at observedNames
  have authorized := (listsCapability_iff allowedNonempty allowedSafe capabilitySafe).mp allowedNames
  have listed := (listsCapability_iff observedNonempty observedSafe capabilitySafe).mp observedNames
  have ownerValid : backendAgentLocalProviderValidOwnership (owner.ownership allowed) = true := by
    obtain ⟨others, othersText, accepted⟩ := ownership.valid owner joined.ownerMember
    have bounded := (validOwnership_parts _ accepted).2.2.2.2.2
    have parsed := parseIdentifiers_identifiers others bounded
    rw [← othersText, allowedText, parseIdentifiers_identifiers allowed allowedBounded,
      Option.some.injEq] at parsed
    rw [parsed]
    exact accepted
  have read : readFacts owner.providerId facts = some (facts.facts observed) := by
    have named : facts.facts observed =
        { facts.facts observed with providerId := owner.providerId } := by
      rw [ownerProvider, ← joined.providerId]
      rfl
    have accepted := factsValid
    rw [named] at accepted ⊢
    unfold readFacts
    rw [observedText, parseIdentifiers_identifiers observed observedBounded]
    exact if_pos accepted
  have lookup := factsTable.found joined backendText agent instanceId
    ((congrArg cString ownerProvider).trans (cString_safeIdentifier _ providerSafe))
  have selected : backendAgentLocalProviderSelect (owner.ownership allowed)
      (facts.facts observed) recorded.selection.requiredCapability = .ok recorded.selection := by
    have chosen : (⟨owner.backendId, owner.authorityDomain, owner.providerId, owner.providerKind,
        owner.ownershipGeneration, facts.providerInstanceEpoch, facts.providerGeneration,
        facts.capabilityRevision, recorded.selection.requiredCapability⟩ :
          BackendAgentLocalProviderSelection) = recorded.selection := by
      obtain ⟨ownerBackend, ownerDomain⟩ := Prod.ext_iff.mp key
      dsimp only [OwnershipRow.key] at ownerBackend ownerDomain
      rw [ownerBackend, ownerDomain, ownerProvider, ownerKind, ownerGeneration,
        joined.providerInstanceEpoch, joined.providerGeneration, joined.capabilityRevision]
    unfold backendAgentLocalProviderSelect
    rw [if_neg (by simp [ownerValid, factsValid, capabilitySafe]), if_neg ?_, if_neg ?_, if_neg ?_,
      if_neg ?_]
    · exact congrArg Except.ok chosen
    · simp [FactsRow.facts, joined.available]
    · simpa [FactsRow.facts] using listed
    · simpa [OwnershipRow.ownership] using authorized
    · simp [OwnershipRow.ownership, FactsRow.facts, ownerProvider, joined.providerId, ownerKind,
        joined.providerKind]
  unfold selectLocalProvider
  rw [status]
  dsimp only
  rw [if_neg (by simp [active])]
  dsimp only [OwnershipRow.ownership] at lookup read selected ⊢
  rw [lookup]
  dsimp only
  rw [read]
  dsimp only
  rw [selected]
  exact if_pos valid

/-- Rows that the query joins and whose columns name the capability make a selection current. -/
theorem current_of_joined {ledger : Ledger} (tables : FenceTables ledger) {row : CommandRow}
    (member : row ∈ ledger.commands) {recorded : SelectionRow} {owner : OwnershipRow}
    {facts : FactsRow} (joined : JoinedRows ledger row.assignment recorded owner facts)
    (columns : ColumnsName recorded owner facts)
    (matched : ∀ required, requiredProvider row.assignment.commandType = some required →
      required.MatchedBy recorded.selection) :
    ∃ reason, localProviderSelectionCurrent ledger row.assignment.commandId = .ok reason := by
  obtain ⟨named, agent, instanceId⟩ := tables.commands.bound row member
  obtain ⟨valid, identity⟩ := tables.selections.valid recorded joined.recordedMember
  have stored : ledger.selection row.assignment.commandId = some recorded := by
    rw [← joined.recordedFor]
    exact tables.selections.found joined.recordedMember (by rw [joined.recordedFor, named])
  have read : readSelection recorded = some recorded.selection := if_pos ⟨valid, identity⟩
  have selected := selectLocalProvider_of_joined tables.ownership tables.facts agent instanceId
    joined valid columns
  unfold localProviderSelectionCurrent
  rw [tables.commands.found member]
  dsimp only
  split
  · exact ⟨_, rfl⟩
  · rw [stored]
    dsimp only
    rw [read]
    dsimp only
    split
    · rename_i reason mismatch
      obtain ⟨required, isRequired, differs⟩ := Option.bind_eq_some_iff.mp mismatch
      obtain ⟨domain, provider, kind, capability⟩ := matched required isRequired
      simp [domain, provider, kind, capability] at differs
    · rw [selected]
      dsimp only
      rw [if_pos (sameFence_iff.mpr ⟨valid, rfl⟩)]
      exact ⟨_, rfl⟩

/-! ## What the calls write -/

inductive TableWrites (before after : Ledger) : Prop where
  | kept (change : CommandRow → CommandRow)
      (keeps : ∀ row, (change row).assignment = row.assignment)
      (commands : after.commands = before.commands.map change)
      (selections : after.selections = before.selections) (facts : after.facts = before.facts)
  | inserted (assignment : BackendAgentCommandAssignment)
      (chosen : Option BackendAgentLocalProviderSelection) (row : CommandRow)
      (bound : row.assignment = boundAssignment assignment)
      (fresh : ∀ other ∈ before.commands,
        other.assignment.commandId ≠ cString assignment.commandId)
      (fits : ∀ selection ∈ chosen, backendAgentLocalProviderValidSelection selection = true ∧
        before.selection assignment.commandId = none)
      (commands : after.commands = before.commands ++ [row])
      (selections : after.selections =
        before.selections ++ chosen.toList.map (selectionRow assignment.commandId))
      (facts : after.facts = before.facts)
  | advertised (request : BackendAgentCommandPollRequest) (context : PollContext) (base : Ledger)
      (refreshed : refreshAdvertisement before request context = some base)
      (change : CommandRow → CommandRow)
      (keeps : ∀ row, (change row).assignment = row.assignment)
      (commands : after.commands = before.commands.map change)
      (selections : after.selections = before.selections) (facts : after.facts = base.facts)

theorem TableWrites.refl (ledger : Ledger) : TableWrites ledger ledger :=
  .kept id (fun _ => rfl) (by simp) rfl rfl

theorem TableWrites.of_updateCommand {before after : Ledger} (commandId : Bytes)
    (change : CommandRow → CommandRow) (keeps : ∀ row, (change row).assignment = row.assignment)
    (commands : after.commands = (before.updateCommand commandId change).commands)
    (selections : after.selections = before.selections) (facts : after.facts = before.facts) :
    TableWrites before after := by
  refine .kept (fun row => if row.assignment.commandId = cString commandId then change row
    else row) ?_ commands selections facts
  intro row
  split
  · exact keeps row
  · rfl

theorem TableWrites.of_refreshed {before base after : Ledger}
    {request : BackendAgentCommandPollRequest} {context : PollContext}
    (refreshed : refreshAdvertisement before request context = some base)
    (change : CommandRow → CommandRow) (keeps : ∀ row, (change row).assignment = row.assignment)
    (commands : after.commands = base.commands.map change)
    (selections : after.selections = base.selections) (facts : after.facts = base.facts) :
    TableWrites before after := by
  obtain ⟨expired, kept, -, -, -⟩ := refreshAdvertisement_spec refreshed
  rw [expired] at commands
  refine .advertised request context base refreshed (change ∘ fun row =>
    if row.assignment.backendId = cString request.backendId ∧
        (row.state = .assigned ∨ row.state = .received) ∧
        row.assignment.deadline < context.now then
      { row with state := .expired, updatedAt := context.now }
    else row) ?_ ?_ (selections.trans kept) facts
  · intro row
    rw [Function.comp_apply, keeps]
    split <;> rfl
  · rw [commands, expireCommands, List.map_map]

theorem insertAssignment_writes (persists : Bool) (ledger : Ledger)
    (assignment : BackendAgentCommandAssignment)
    (selection : Option BackendAgentLocalProviderSelection) :
    TableWrites ledger (insertAssignment persists ledger assignment selection).1 := by
  unfold insertAssignment
  dsimp only
  split
  · exact TableWrites.refl ledger
  rename_i admitted
  split
  · exact TableWrites.refl ledger
  rename_i free
  simp only [not_or, Bool.not_eq_false, Option.all_eq_true, Bool.and_eq_true] at admitted
  simp only [not_or, List.any_eq_true, not_exists, not_and, Bool.not_eq_true] at free
  have fresh : ∀ other ∈ ledger.commands,
      other.assignment.commandId ≠ cString assignment.commandId := by
    intro other member same
    have clash := free.2 other member
    simp [conflictsWith, same] at clash
  cases selection with
  | none =>
    refine .inserted assignment none _ rfl fresh (by simp) rfl ?_ rfl
    simp [insertSelection]
  | some chosen =>
    unfold insertSelection
    dsimp only
    split
    · exact TableWrites.refl ledger
    · rename_i updated inserted
      split at inserted
      · cases inserted
      · rename_i absent
        cases inserted
        simp only [not_or, Bool.not_eq_true, Option.isSome_eq_false_iff, Option.isNone_iff_eq_none]
          at absent
        refine .inserted assignment (some chosen) _ rfl fresh ?_ rfl (by simp) rfl
        intro selection isChosen
        cases isChosen
        exact ⟨(admitted.2 _ rfl).1.1, absent.2⟩

theorem ledgerStep_writes (ledger : Ledger) (call : LedgerCall) :
    TableWrites ledger (ledgerStep ledger call).1 := by
  obtain ⟨persists, request⟩ := call
  cases request with
  | insertAssignment assignment selection =>
    exact insertAssignment_writes persists ledger assignment selection
  | poll request context =>
    have outcome : (ledgerStep ledger ⟨persists, .poll request context⟩).1 =
        (poll persists ledger request context).1 := rfl
    rw [outcome]
    obtain ⟨same, -⟩ | ⟨base, origin, same⟩ := poll_cases persists ledger request context
    · rw [same]
      exact TableWrites.refl ledger
    · rw [same]
      obtain rfl | refreshed := origin
      · obtain unchanged | ⟨row, -, -, -, delivered⟩ := deliver_cases base request context
        · rw [unchanged]
          exact TableWrites.refl base
        · rw [delivered]
          refine TableWrites.of_updateCommand _ _ ?_ rfl rfl rfl
          exact fun _ => rfl
      · obtain unchanged | ⟨row, -, -, -, delivered⟩ := deliver_cases base request context
        · rw [unchanged]
          exact TableWrites.of_refreshed refreshed id (fun _ => rfl) (by simp) rfl rfl
        · rw [delivered]
          refine TableWrites.of_refreshed refreshed _ ?_ rfl rfl rfl
          intro row
          split <;> rfl
  | acceptReceipt receipt =>
    have outcome : (ledgerStep ledger ⟨persists, .acceptReceipt receipt⟩).1 =
        (acceptReceipt persists ledger receipt).1 := rfl
    rw [outcome]
    obtain ⟨same, -⟩ | ⟨row, -, -, -, -, ⟨existing, -, -, counted⟩ | ⟨-, -, stored⟩⟩ :=
      acceptReceipt_cases persists ledger receipt
    · rw [same]
      exact TableWrites.refl ledger
    · rw [counted]
      refine TableWrites.of_updateCommand _ _ ?_ rfl rfl rfl
      exact fun _ => rfl
    · rw [stored]
      refine TableWrites.of_updateCommand _ (receiveCommand receipt.receivedAt) ?_ rfl rfl rfl
      intro row
      unfold receiveCommand
      split <;> rfl
  | acceptResult result =>
    have outcome : (ledgerStep ledger ⟨persists, .acceptResult result⟩).1 =
        (acceptResult persists ledger result).1 := rfl
    rw [outcome]
    obtain ⟨same, -⟩ | ⟨row, assignment, -, -, -, -, -, -, ⟨existing, -, -, counted⟩ | ⟨-, stored⟩⟩ :=
      acceptResult_cases persists ledger result
    · rw [same]
      exact TableWrites.refl ledger
    · rw [counted]
      refine TableWrites.of_updateCommand _ _ ?_ rfl rfl rfl
      exact fun _ => rfl
    · rw [stored]
      exact TableWrites.of_updateCommand _ (completeCommand result) (fun _ => rfl) rfl rfl rfl
  | requestReplay backendId commandId =>
    have outcome : (ledgerStep ledger ⟨persists, .requestReplay backendId commandId⟩).1 =
        (requestReplay persists ledger backendId commandId).1 := rfl
    rw [outcome]
    unfold requestReplay
    dsimp only
    split
    · exact TableWrites.refl ledger
    · refine .kept _ ?_ rfl rfl rfl
      intro row
      split <;> rfl
  | setLocalProviderOwnership arguments =>
    exact .kept id (fun _ => rfl) (by simp [ledgerStep]) rfl rfl
  | clearLocalProviderOwnership backendId authorityDomain updatedAt =>
    exact .kept id (fun _ => rfl) (by simp [ledgerStep]) rfl rfl

/-! ## The tables of every run -/

theorem CommandTableValid.map {rows : List CommandRow} (table : CommandTableValid rows)
    {change : CommandRow → CommandRow} (keeps : ∀ row, (change row).assignment = row.assignment) :
    CommandTableValid (rows.map change) := by
  constructor
  · rw [List.map_map]
    have same : ((fun row : CommandRow => row.assignment.commandId) ∘ change) =
        fun row => row.assignment.commandId := by
      funext row
      simp [keeps row]
    rw [same]
    exact table.unique
  · intro successor member
    obtain ⟨row, old, rfl⟩ := List.mem_map.mp member
    rw [CommandRow.Bound, keeps]
    exact table.bound row old
  · intro successor member
    obtain ⟨row, old, rfl⟩ := List.mem_map.mp member
    rw [keeps]
    exact table.present row old

theorem TableWrites.commands {before after : Ledger} (writes : TableWrites before after)
    (table : CommandTableValid before.commands) : CommandTableValid after.commands := by
  cases writes with
  | kept change keeps commands => rw [commands]; exact table.map keeps
  | advertised _ _ _ _ change keeps commands => rw [commands]; exact table.map keeps
  | inserted assignment _ row bound fresh _ commands =>
    rw [commands]
    constructor
    · rw [List.map_append]
      refine nodup_append_singleton table.unique ?_
      intro present
      obtain ⟨other, member, same⟩ := List.mem_map.mp present
      exact fresh other member
        (same.trans (congrArg BackendAgentCommandAssignment.commandId bound))
    · intro other member
      obtain old | added := List.mem_append.mp member
      · exact table.bound other old
      · cases List.mem_singleton.mp added
        rw [CommandRow.Bound, bound]
        exact ⟨cString_idempotent _, cString_idempotent _, cString_idempotent _⟩
    · intro other member
      obtain old | added := List.mem_append.mp member
      · exact table.present other old
      · cases List.mem_singleton.mp added
        rw [bound]
        rfl

theorem selectionRow_valid {commandId : Bytes} {selection : BackendAgentLocalProviderSelection}
    (valid : backendAgentLocalProviderValidSelection selection = true) :
    (selectionRow commandId selection).Valid := by
  have parts := valid
  simp only [backendAgentLocalProviderValidSelection, Bool.and_eq_true] at parts
  obtain ⟨⟨⟨⟨⟨⟨⟨⟨backend, domain⟩, provider⟩, kind⟩, -⟩, epoch⟩, -⟩, -⟩, capability⟩ := parts
  have stored : (selectionRow commandId selection).selection = selection := by
    simp only [selectionRow, cString_safeIdentifier _ backend, cString_safeIdentifier _ domain,
      cString_safeIdentifier _ provider, cString_knownKind _ kind, cString_safeIdentifier _ epoch,
      cString_safeIdentifier _ capability]
  constructor
  · rw [stored]
    exact valid
  · rw [stored]
    exact cString_selectionIdentity valid

theorem TableWrites.selections {before after : Ledger} (writes : TableWrites before after)
    (table : SelectionTableValid before.selections) : SelectionTableValid after.selections := by
  cases writes with
  | kept _ _ _ selections => rw [selections]; exact table
  | advertised _ _ _ _ _ _ _ selections => rw [selections]; exact table
  | inserted assignment chosen _ _ _ fits _ selections =>
    rw [selections]
    cases chosen with
    | none => simpa using table
    | some selection =>
      obtain ⟨valid, absent⟩ := fits selection rfl
      rw [Option.toList_some, List.map_singleton]
      constructor
      · rw [List.map_append]
        refine nodup_append_singleton table.unique ?_
        intro present
        obtain ⟨row, member, same⟩ := List.mem_map.mp present
        exact absurd (List.find?_eq_none.mp absent row member) (by simp [same, selectionRow])
      · intro row member
        obtain old | added := List.mem_append.mp member
        · exact table.valid row old
        · cases List.mem_singleton.mp added
          exact selectionRow_valid valid

theorem factsRow_valid {request : BackendAgentCommandPollRequest} {context : PollContext}
    {facts : BackendAgentLocalProviderFacts}
    (valid : backendAgentLocalProviderValidFacts facts = true) :
    (factsRow request context facts).Valid := by
  obtain ⟨provider, kind, epoch, capabilities⟩ := validFacts_parts valid
  obtain ⟨-, -, safe, -⟩ := (boundedUniqueIdentifiers_iff _).mp capabilities
  refine ⟨facts.capabilities, cString_identifiers _ safe, ?_⟩
  have stored : (factsRow request context facts).facts facts.capabilities = facts := by
    simp only [factsRow, FactsRow.facts, cString_safeIdentifier _ provider,
      cString_knownKind _ kind, cString_safeIdentifier _ epoch]
  rw [stored]
  exact valid

theorem insertFacts_valid {rows added result : List FactsRow} (table : FactsTableValid rows)
    (valid : ∀ row ∈ added, row.Valid) (inserted : added.foldlM insertFacts rows = some result) :
    FactsTableValid result := by
  induction added generalizing rows with
  | nil =>
    cases inserted
    exact table
  | cons row added ih =>
    obtain ⟨extended, first, rest⟩ := Option.bind_eq_some_iff.mp inserted
    refine ih ?_ (fun other member => valid other (List.mem_cons_of_mem _ member)) rest
    unfold insertFacts at first
    split at first
    · cases first
    · rename_i free
      cases first
      constructor
      · rw [List.map_append]
        refine nodup_append_singleton table.unique ?_
        intro present
        obtain ⟨other, member, same⟩ := List.mem_map.mp present
        obtain ⟨backend, provider⟩ := Prod.ext_iff.mp same
        exact free (List.any_eq_true.mpr ⟨other, member, by
          rw [Bool.and_eq_true, beq_iff_eq, beq_iff_eq]
          exact ⟨backend, provider⟩⟩)
      · intro other member
        obtain old | new := List.mem_append.mp member
        · exact table.valid other old
        · cases List.mem_singleton.mp new
          exact valid row List.mem_cons_self

theorem refreshAdvertisement_facts {ledger base : Ledger} {request : BackendAgentCommandPollRequest}
    {context : PollContext} (refreshed : refreshAdvertisement ledger request context = some base)
    (table : FactsTableValid ledger.facts) : FactsTableValid base.facts := by
  simp only [refreshAdvertisement, Option.bind_eq_bind, Option.bind_eq_some_iff] at refreshed
  obtain ⟨capabilities, -, refreshed⟩ := refreshed
  split at refreshed
  · cases refreshed
  · rename_i valid
    simp only [Bool.not_eq_false, List.all_eq_true] at valid
    obtain ⟨facts, inserted, same⟩ := Option.bind_eq_some_iff.mp refreshed
    cases same
    refine insertFacts_valid ⟨?_, ?_⟩ ?_ inserted
    · exact table.unique.sublist (List.filter_sublist.map _)
    · intro row member
      exact table.valid row (List.mem_of_mem_filter member)
    · intro row member
      obtain ⟨provider, listed, rfl⟩ := List.mem_map.mp member
      exact factsRow_valid (valid provider listed)

theorem ledgerStep_fenceTables {ledger : Ledger} (tables : FenceTables ledger) (call : LedgerCall) :
    FenceTables (ledgerStep ledger call).1 := by
  have writes := ledgerStep_writes ledger call
  refine ⟨writes.commands tables.commands, writes.selections tables.selections,
    (ledgerStep_ownership_steps ledger call tables.ownership).2, ?_⟩
  cases writes with
  | kept _ _ _ _ facts => rw [facts]; exact tables.facts
  | inserted _ _ _ _ _ _ _ _ facts => rw [facts]; exact tables.facts
  | advertised _ _ _ refreshed _ _ _ _ facts =>
    rw [facts]
    exact refreshAdvertisement_facts refreshed tables.facts

theorem fenceTables_final (calls : List LedgerCall) :
    FenceTables (Run.final ledgerStep {} calls) :=
  Run.final_preserves ledgerStep FenceTables
    (fun _ call tables => ledgerStep_fenceTables tables call) {}
    ⟨⟨List.nodup_nil, by simp, by simp⟩, ⟨List.nodup_nil, by simp⟩, ⟨List.nodup_nil, by simp⟩,
      ⟨List.nodup_nil, by simp⟩⟩ calls

/-! ## Agreement -/

/-- The query's provider conditions hold of a command exactly if its selection is current. -/
def FencesAgree (ledger : Ledger) (assignment : BackendAgentCommandAssignment) : Prop :=
  providerJoin ledger assignment = true ↔
    ∃ reason, localProviderSelectionCurrent ledger assignment.commandId = .ok reason

/-- The rows that the query joins for a command name the capability that its selection requires. -/
def JoinedColumnsName (ledger : Ledger) (assignment : BackendAgentCommandAssignment) : Prop :=
  ∀ recorded owner facts, JoinedRows ledger assignment recorded owner facts →
    ColumnsName recorded owner facts

theorem JoinedRows.unique {ledger : Ledger} (tables : FenceTables ledger)
    {assignment : BackendAgentCommandAssignment} {recorded other : SelectionRow}
    {owner otherOwner : OwnershipRow} {facts otherFacts : FactsRow}
    (joined : JoinedRows ledger assignment recorded owner facts)
    (again : JoinedRows ledger assignment other otherOwner otherFacts) :
    recorded = other ∧ owner = otherOwner ∧ facts = otherFacts := by
  cases List.inj_on_of_nodup_map tables.selections.unique joined.recordedMember
    again.recordedMember (joined.recordedFor.trans again.recordedFor.symm)
  refine ⟨rfl, tables.ownership.row_unique joined.ownerMember again.ownerMember
    (joined.granted.1.trans again.granted.1.symm), ?_⟩
  exact List.inj_on_of_nodup_map tables.facts.unique joined.factsMember again.factsMember
    (Prod.ext (joined.backendId.trans again.backendId.symm)
      (joined.providerId.trans again.providerId.symm))

theorem providerJoin_of_current {ledger : Ledger} (table : CommandTableValid ledger.commands)
    {row : CommandRow} (member : row ∈ ledger.commands)
    (kind : row.assignment.commandType = nativeProbeCommandType ∨
      row.assignment.commandType = recordingCutCommandType) {reason : String}
    (current : localProviderSelectionCurrent ledger row.assignment.commandId = .ok reason) :
    ∃ recorded owner facts, JoinedRows ledger row.assignment recorded owner facts ∧
      ColumnsName recorded owner facts ∧ providerJoin ledger row.assignment = true := by
  obtain ⟨named, agent, instanceId⟩ := table.bound row member
  have selects : selectsProvider row.assignment.commandType = true := by
    obtain probe | cut := kind
    · rw [probe]
      decide
    · rw [cut]
      decide
  obtain ⟨recorded, owner, facts, joined, columns, matched⟩ :=
    joined_of_current (table.found member) named agent instanceId selects current
  refine ⟨recorded, owner, facts, joined, columns, ?_⟩
  refine (providerJoin_iff _ _).mpr ⟨recorded, owner, facts, joined, ?_⟩
  intro cut
  exact ⟨matched cutProvider (by rw [cut, requiredProvider_cut]), columns⟩

/-- In every reachable ledger both fences say the same about cuts, and about a probe exactly if the
joined rows name its capability, which the query does not look at. -/
theorem provider_fences_agree_iff (calls : List LedgerCall) (row : CommandRow)
    (member : row ∈ (Run.final ledgerStep {} calls).commands)
    (kind : row.assignment.commandType = nativeProbeCommandType ∨
      row.assignment.commandType = recordingCutCommandType) :
    FencesAgree (Run.final ledgerStep {} calls) row.assignment ↔
      row.assignment.commandType = recordingCutCommandType ∨
        JoinedColumnsName (Run.final ledgerStep {} calls) row.assignment := by
  have tables := fenceTables_final calls
  generalize Run.final ledgerStep {} calls = ledger at member tables ⊢
  constructor
  · intro agree
    obtain probe | cut := kind
    · right
      intro recorded owner facts joined
      have passes : providerJoin ledger row.assignment = true := by
        refine (providerJoin_iff _ _).mpr ⟨recorded, owner, facts, joined, ?_⟩
        intro cut
        exact absurd (probe.symm.trans cut) (by decide)
      obtain ⟨reason, current⟩ := agree.mp passes
      obtain ⟨other, otherOwner, otherFacts, again, columns, -⟩ :=
        providerJoin_of_current tables.commands member (.inl probe) current
      obtain ⟨rfl, rfl, rfl⟩ := joined.unique tables again
      exact columns
    · exact .inl cut
  · intro named
    constructor
    · intro passes
      obtain ⟨recorded, owner, facts, joined, cutFits⟩ := (providerJoin_iff _ _).mp passes
      obtain probe | cut := kind
      · have columns : ColumnsName recorded owner facts := by
          obtain cut | named := named
          · exact (cutFits cut).2
          · exact named recorded owner facts joined
        refine current_of_joined tables member joined columns ?_
        intro required isRequired
        rw [probe, requiredProvider_probe] at isRequired
        cases isRequired
      · obtain ⟨matched, columns⟩ := cutFits cut
        refine current_of_joined tables member joined columns ?_
        intro required isRequired
        rw [cut, requiredProvider_cut] at isRequired
        cases isRequired
        exact matched
    · rintro ⟨reason, current⟩
      obtain ⟨-, -, -, -, -, passes⟩ := providerJoin_of_current tables.commands member kind current
      exact passes

theorem provider_fences_agree_iff_probe :
    FencesAgree (Run.final ledgerStep {} probeCalls) (boundAssignment selectedProbe) ↔
      (boundAssignment selectedProbe).commandType = recordingCutCommandType ∨
        JoinedColumnsName (Run.final ledgerStep {} probeCalls) (boundAssignment selectedProbe) :=
  provider_fences_agree_iff probeCalls
    { assignment := boundAssignment selectedProbe, updatedAt := 10 } (by decide +kernel)
    (.inl (by decide))

/-- The agent advertises again, under the same revision but without the probe's capability. -/
def withdrawnProbeCalls : List LedgerCall :=
  probeCalls ++
    [⟨true, .poll
      { backendId := text "be1", agentInstanceId := text "i1", backendGeneration := 1
        supportedCommandTypes := [text "vdr.native.probe"]
        localProviders :=
          [{ providerId := text "suitebridge:local", providerKind := text "suitebridge"
             providerInstanceEpoch := text "e1", providerGeneration := 1, capabilityRevision := 1
             available := true, capabilities := [text "vdr.timer.create"] }] }
      { agentId := text "ag1", now := 11, operations := none, tie := 0 }⟩]

/-- The query still delivers the probe, whose selection is no longer current. -/
theorem withdrawn_probe_fences_disagree :
    ∃ row ∈ (Run.final ledgerStep {} withdrawnProbeCalls).commands,
      row.assignment.commandType = nativeProbeCommandType ∧ row.assignment.payloadVersion = 2 ∧
      ¬ FencesAgree (Run.final ledgerStep {} withdrawnProbeCalls) row.assignment := by
  refine ⟨{ assignment := boundAssignment selectedProbe, lastDeliveredAt := 11, deliveryCount := 1
            updatedAt := 11 }, by decide +kernel, by decide, by decide, ?_⟩
  intro agree
  have passes : providerJoin (Run.final ledgerStep {} withdrawnProbeCalls)
      (boundAssignment selectedProbe) = true := by
    decide +kernel
  have refused : (localProviderSelectionCurrent (Run.final ledgerStep {} withdrawnProbeCalls)
      (boundAssignment selectedProbe).commandId).toBool = false := by
    decide +kernel
  obtain ⟨reason, current⟩ := agree.mp passes
  rw [current] at refused
  cases refused

end VdrSuite.Core
