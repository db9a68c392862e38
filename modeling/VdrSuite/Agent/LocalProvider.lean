import VdrSuite.Library.Netstring

/-! Local provider facts, ownership and selections, and the fence that compares two selections. -/

set_option autoImplicit false

namespace VdrSuite.Agent

open Library

def isAlphanumeric (byte : UInt8) : Bool :=
  (48 ≤ byte && byte ≤ 57) || (65 ≤ byte && byte ≤ 90) || (97 ≤ byte && byte ≤ 122)

/-- Letters, digits and the four separators `-`, `_`, `.` and `:`. -/
def isIdentifierByte (byte : UInt8) : Bool :=
  isAlphanumeric byte || byte == 45 || byte == 95 || byte == 46 || byte == 58

def safeIdentifier (value : Bytes) : Bool :=
  !value.isEmpty && value.length ≤ 128 && value.all isIdentifierByte

def boundedUniqueIdentifiers (values : List Bytes) : Bool :=
  !values.isEmpty && values.length ≤ 64 && values.all safeIdentifier && decide values.Nodup

structure BackendAgentLocalProviderFacts where
  providerId : Bytes := []
  providerKind : Bytes := []
  providerInstanceEpoch : Bytes := []
  providerGeneration : Nat := 0
  capabilityRevision : Nat := 0
  available : Bool := false
  capabilities : List Bytes := []
  deriving DecidableEq

structure BackendAgentLocalProviderOwnership where
  backendId : Bytes := []
  authorityDomain : Bytes := []
  providerId : Bytes := []
  providerKind : Bytes := []
  ownershipGeneration : Nat := 0
  allowedCapabilities : List Bytes := []
  deriving DecidableEq

structure BackendAgentLocalProviderSelection where
  backendId : Bytes := []
  authorityDomain : Bytes := []
  providerId : Bytes := []
  providerKind : Bytes := []
  ownershipGeneration : Nat := 0
  providerInstanceEpoch : Bytes := []
  providerGeneration : Nat := 0
  capabilityRevision : Nat := 0
  requiredCapability : Bytes := []
  deriving DecidableEq

def backendAgentLocalProviderKnownKind (providerKind : Bytes) : Bool :=
  providerKind == text "suitebridge" || providerKind == text "restfulapi" ||
  providerKind == text "external"

def backendAgentLocalProviderValidFacts (facts : BackendAgentLocalProviderFacts) : Bool :=
  safeIdentifier facts.providerId &&
  backendAgentLocalProviderKnownKind facts.providerKind &&
  safeIdentifier facts.providerInstanceEpoch &&
  0 < facts.providerGeneration && 0 < facts.capabilityRevision &&
  boundedUniqueIdentifiers facts.capabilities

def backendAgentLocalProviderValidOwnership (ownership : BackendAgentLocalProviderOwnership) : Bool :=
  safeIdentifier ownership.backendId &&
  safeIdentifier ownership.authorityDomain &&
  safeIdentifier ownership.providerId &&
  backendAgentLocalProviderKnownKind ownership.providerKind &&
  0 < ownership.ownershipGeneration &&
  boundedUniqueIdentifiers ownership.allowedCapabilities

def backendAgentLocalProviderValidSelection (selection : BackendAgentLocalProviderSelection) : Bool :=
  safeIdentifier selection.backendId &&
  safeIdentifier selection.authorityDomain &&
  safeIdentifier selection.providerId &&
  backendAgentLocalProviderKnownKind selection.providerKind &&
  0 < selection.ownershipGeneration &&
  safeIdentifier selection.providerInstanceEpoch &&
  0 < selection.providerGeneration &&
  0 < selection.capabilityRevision &&
  safeIdentifier selection.requiredCapability

/-- The selection of an owner that may and can serve a capability, or the reason there is none. -/
def backendAgentLocalProviderSelect (ownership : BackendAgentLocalProviderOwnership)
    (facts : BackendAgentLocalProviderFacts) (requiredCapability : Bytes) :
    Except String BackendAgentLocalProviderSelection :=
  if (backendAgentLocalProviderValidOwnership ownership &&
      backendAgentLocalProviderValidFacts facts && safeIdentifier requiredCapability) = false then
    .error "invalid_local_provider_contract"
  else if ownership.providerId ≠ facts.providerId ∨ ownership.providerKind ≠ facts.providerKind then
    .error "local_provider_not_owner"
  else if requiredCapability ∉ ownership.allowedCapabilities then
    .error "local_provider_capability_not_authorized"
  else if requiredCapability ∉ facts.capabilities then
    .error "local_provider_capability_not_observed"
  else if facts.available = false then .error "local_provider_unavailable"
  else .ok
    { backendId := ownership.backendId
      authorityDomain := ownership.authorityDomain
      providerId := ownership.providerId
      providerKind := ownership.providerKind
      ownershipGeneration := ownership.ownershipGeneration
      providerInstanceEpoch := facts.providerInstanceEpoch
      providerGeneration := facts.providerGeneration
      capabilityRevision := facts.capabilityRevision
      requiredCapability := requiredCapability }

def backendAgentLocalProviderSelectionUsable (selection : BackendAgentLocalProviderSelection)
    (ownership : BackendAgentLocalProviderOwnership) (facts : BackendAgentLocalProviderFacts) :
    Except String String :=
  if (backendAgentLocalProviderValidSelection selection &&
      backendAgentLocalProviderValidOwnership ownership &&
      backendAgentLocalProviderValidFacts facts) = false then
    .error "invalid_local_provider_fence"
  else if selection.backendId ≠ ownership.backendId ∨
      selection.authorityDomain ≠ ownership.authorityDomain ∨
      selection.providerId ≠ ownership.providerId ∨
      selection.providerKind ≠ ownership.providerKind ∨
      selection.ownershipGeneration ≠ ownership.ownershipGeneration then
    .error "local_provider_ownership_changed"
  else if selection.requiredCapability ∉ ownership.allowedCapabilities then
    .error "local_provider_capability_not_authorized"
  else if selection.providerId ≠ facts.providerId ∨
      selection.providerKind ≠ facts.providerKind then
    .error "local_provider_identity_changed"
  else if selection.providerInstanceEpoch ≠ facts.providerInstanceEpoch then
    .error "local_provider_instance_epoch_changed"
  else if selection.providerGeneration ≠ facts.providerGeneration then
    .error "local_provider_generation_changed"
  else if selection.capabilityRevision ≠ facts.capabilityRevision then
    .error "local_provider_capability_revision_changed"
  else if selection.requiredCapability ∉ facts.capabilities then
    .error "local_provider_capability_not_observed"
  else if facts.available = false then .error "local_provider_unavailable"
  else .ok "local_provider_fence_current"

def backendAgentLocalProviderSameFence (left right : BackendAgentLocalProviderSelection) : Bool :=
  backendAgentLocalProviderValidSelection left &&
  backendAgentLocalProviderValidSelection right &&
  left.backendId == right.backendId &&
  left.authorityDomain == right.authorityDomain &&
  left.providerId == right.providerId &&
  left.providerKind == right.providerKind &&
  left.ownershipGeneration == right.ownershipGeneration &&
  left.providerInstanceEpoch == right.providerInstanceEpoch &&
  left.providerGeneration == right.providerGeneration &&
  left.capabilityRevision == right.capabilityRevision &&
  left.requiredCapability == right.requiredCapability

theorem sameFence_iff {left right : BackendAgentLocalProviderSelection} :
    backendAgentLocalProviderSameFence left right = true ↔
      backendAgentLocalProviderValidSelection left = true ∧ left = right := by
  constructor
  · intro same
    simp only [backendAgentLocalProviderSameFence, Bool.and_eq_true, beq_iff_eq] at same
    obtain ⟨⟨⟨⟨⟨⟨⟨⟨⟨⟨valid, -⟩, backend⟩, domain⟩, provider⟩, kind⟩, ownership⟩, epoch⟩, generation⟩,
      revision⟩, capability⟩ := same
    refine ⟨valid, ?_⟩
    cases left
    cases right
    simp_all only
  · rintro ⟨valid, rfl⟩
    simp [backendAgentLocalProviderSameFence, valid]

def appendIdentityField (value : Bytes) : Bytes := Netstring.field value

def backendAgentLocalProviderSelectionIdentity (selection : BackendAgentLocalProviderSelection) :
    Bytes :=
  if backendAgentLocalProviderValidSelection selection = false then []
  else
    text "local-provider-selection/1|" ++
    appendIdentityField selection.backendId ++
    appendIdentityField selection.authorityDomain ++
    appendIdentityField selection.providerKind ++
    appendIdentityField selection.providerId ++
    text "ownershipGeneration=" ++ decimal selection.ownershipGeneration ++ text "|" ++
    appendIdentityField selection.providerInstanceEpoch ++
    text "providerGeneration=" ++ decimal selection.providerGeneration ++ text "|" ++
    text "capabilityRevision=" ++ decimal selection.capabilityRevision ++ text "|" ++
    appendIdentityField selection.requiredCapability

/-! ## Identifiers -/

theorem isIdentifierByte_spec (byte : UInt8) (safe : isIdentifierByte byte = true) :
    byte ≠ 0 ∧ byte ≠ 10 ∧ byte ≠ 13 ∧ byte ≠ 44 ∧ byte ≠ 61 := by
  refine ⟨?_, ?_, ?_, ?_, ?_⟩ <;>
  · rintro rfl
    revert safe
    decide

theorem safeIdentifier_spec (value : Bytes) (safe : safeIdentifier value = true) :
    value ≠ [] ∧ value.length ≤ 128 ∧ ∀ byte ∈ value, isIdentifierByte byte = true := by
  simp only [safeIdentifier, Bool.and_eq_true, Bool.not_eq_true', decide_eq_true_eq,
    List.isEmpty_eq_false_iff, List.all_eq_true] at safe
  exact ⟨safe.1.1, safe.1.2, safe.2⟩

theorem safeIdentifier_notMem (value : Bytes) (safe : safeIdentifier value = true) :
    (0 : UInt8) ∉ value ∧ (10 : UInt8) ∉ value ∧ (44 : UInt8) ∉ value ∧ (61 : UInt8) ∉ value := by
  obtain ⟨-, -, bytes⟩ := safeIdentifier_spec value safe
  refine ⟨?_, ?_, ?_, ?_⟩
  · exact fun member => (isIdentifierByte_spec _ (bytes _ member)).1 rfl
  · exact fun member => (isIdentifierByte_spec _ (bytes _ member)).2.1 rfl
  · exact fun member => (isIdentifierByte_spec _ (bytes _ member)).2.2.2.1 rfl
  · exact fun member => (isIdentifierByte_spec _ (bytes _ member)).2.2.2.2 rfl

theorem cString_safeIdentifier (value : Bytes) (safe : safeIdentifier value = true) :
    cString value = value :=
  (cString_eq_self_iff value).mpr (safeIdentifier_notMem value safe).1

theorem cString_knownKind (providerKind : Bytes)
    (known : backendAgentLocalProviderKnownKind providerKind = true) :
    cString providerKind = providerKind := by
  simp only [backendAgentLocalProviderKnownKind, Bool.or_eq_true, beq_iff_eq] at known
  rcases known with (rfl | rfl) | rfl <;> decide

/-! ## Selection identities -/

theorem selectionIdentity_ne_nil {selection : BackendAgentLocalProviderSelection}
    (valid : backendAgentLocalProviderValidSelection selection = true) :
    backendAgentLocalProviderSelectionIdentity selection ≠ [] := by
  rw [backendAgentLocalProviderSelectionIdentity, if_neg (by simp [valid])]
  simp [text]

theorem nulFree_field {value : Bytes} (nulFree : (0 : UInt8) ∉ value) :
    (0 : UInt8) ∉ Netstring.field value := by
  have digits := notMem_decimal value.length 0 (by decide)
  have colon : (0 : UInt8) ∉ text ":" := by decide
  have bar : (0 : UInt8) ∉ text "|" := by decide
  simp only [Netstring.field, List.mem_append, digits, colon, nulFree, bar, or_self,
    not_false_eq_true]

theorem cString_selectionIdentity {selection : BackendAgentLocalProviderSelection}
    (valid : backendAgentLocalProviderValidSelection selection = true) :
    cString (backendAgentLocalProviderSelectionIdentity selection) =
      backendAgentLocalProviderSelectionIdentity selection := by
  rw [cString_eq_self_iff, backendAgentLocalProviderSelectionIdentity,
    if_neg (by simp [valid])]
  simp only [backendAgentLocalProviderValidSelection, Bool.and_eq_true] at valid
  obtain ⟨⟨⟨⟨⟨⟨⟨⟨backend, domain⟩, provider⟩, kind⟩, -⟩, epoch⟩, -⟩, -⟩, capability⟩ := valid
  have identifier (value : Bytes) (safe : safeIdentifier value = true) :
      (0 : UInt8) ∉ appendIdentityField value :=
    nulFree_field (safeIdentifier_notMem value safe).1
  have providerKind : (0 : UInt8) ∉ appendIdentityField selection.providerKind :=
    nulFree_field ((cString_eq_self_iff _).mp (cString_knownKind _ kind))
  have number (value : Nat) : (0 : UInt8) ∉ decimal value := notMem_decimal value 0 (by decide)
  have heading : (0 : UInt8) ∉ text "local-provider-selection/1|" := by decide
  have ownership : (0 : UInt8) ∉ text "ownershipGeneration=" := by decide
  have generation : (0 : UInt8) ∉ text "providerGeneration=" := by decide
  have revision : (0 : UInt8) ∉ text "capabilityRevision=" := by decide
  have bar : (0 : UInt8) ∉ text "|" := by decide
  simp only [List.mem_append, heading, identifier _ backend, identifier _ domain, providerKind,
    identifier _ provider, ownership, number, bar, identifier _ epoch, generation, revision,
    identifier _ capability, or_self, not_false_eq_true]

theorem selectionIdentity_injective {left right : BackendAgentLocalProviderSelection}
    (leftValid : backendAgentLocalProviderValidSelection left = true)
    (rightValid : backendAgentLocalProviderValidSelection right = true)
    (same : backendAgentLocalProviderSelectionIdentity left =
      backendAgentLocalProviderSelectionIdentity right) : left = right := by
  rw [backendAgentLocalProviderSelectionIdentity, if_neg (by simp [leftValid]),
    backendAgentLocalProviderSelectionIdentity, if_neg (by simp [rightValid])] at same
  simp only [appendIdentityField, List.append_assoc] at same
  obtain ⟨backendId, same⟩ := Netstring.field_append_inj (List.append_cancel_left same)
  obtain ⟨authorityDomain, same⟩ := Netstring.field_append_inj same
  obtain ⟨providerKind, same⟩ := Netstring.field_append_inj same
  obtain ⟨providerId, same⟩ := Netstring.field_append_inj same
  obtain ⟨ownershipGeneration, same⟩ :=
    Netstring.decimal_append_inj (List.append_cancel_left same)
  obtain ⟨providerInstanceEpoch, same⟩ := Netstring.field_append_inj same
  obtain ⟨providerGeneration, same⟩ :=
    Netstring.decimal_append_inj (List.append_cancel_left same)
  obtain ⟨capabilityRevision, same⟩ :=
    Netstring.decimal_append_inj (List.append_cancel_left same)
  have requiredCapability := Netstring.field_injective same
  cases left
  cases right
  rw [BackendAgentLocalProviderSelection.mk.injEq]
  exact ⟨backendId, authorityDomain, providerId, providerKind, ownershipGeneration,
    providerInstanceEpoch, providerGeneration, capabilityRevision, requiredCapability⟩

end VdrSuite.Agent
