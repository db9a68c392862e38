import Mathlib.Data.List.Nodup
import Mathlib.Data.List.Perm.Subperm
import VdrSuite.Agent.ProtectedWrite

/-! When the gate lets a protected write pass, and why no key is executed twice. -/

set_option autoImplicit false

namespace VdrSuite.Agent

open Library

/-! ## Resources -/

theorem boundedUniqueResources_iff {Resource : Type} {identity : Resource → Bytes × Bytes}
    {validator : Resource → Bool} {values : List Resource} :
    boundedUniqueResources identity validator values = true ↔
      values ≠ [] ∧ values.length ≤ 64 ∧ (∀ value ∈ values, validator value = true) ∧
        (values.map identity).Nodup := by
  simp only [boundedUniqueResources, Bool.and_eq_true, Bool.not_eq_true', List.isEmpty_eq_false_iff,
    decide_eq_true_eq, List.all_eq_true, and_assoc]

theorem boundedUniqueResources_perm {Resource : Type} (identity : Resource → Bytes × Bytes)
    (validator : Resource → Bool) {values others : List Resource} (order : values.Perm others) :
    boundedUniqueResources identity validator values =
      boundedUniqueResources identity validator others := by
  rw [Bool.eq_iff_iff, boundedUniqueResources_iff, boundedUniqueResources_iff,
    order.length_eq, (order.map identity).nodup_iff]
  simp only [order.mem_iff, ne_eq, ← List.length_eq_zero_iff, order.length_eq]

theorem boundedUniqueIdentifiers_perm {values others : List Bytes} (order : values.Perm others) :
    boundedUniqueIdentifiers values = boundedUniqueIdentifiers others := by
  rw [Bool.eq_iff_iff]
  simp only [boundedUniqueIdentifiers, Bool.and_eq_true, Bool.not_eq_true',
    List.isEmpty_eq_false_iff, decide_eq_true_eq, List.all_eq_true, order.mem_iff,
    order.nodup_iff, ne_eq, ← List.length_eq_zero_iff, order.length_eq]

def BackendAgentProtectedWriteResourceRef.asExpected
    (resource : BackendAgentProtectedWriteResourceRef) :
    BackendAgentProtectedWriteObservedResource :=
  { resourceType := resource.resourceType
    resourceId := resource.resourceId
    currentRevision := resource.expectedRevision }

theorem identity_asExpected (resources : List BackendAgentProtectedWriteResourceRef) :
    (resources.map (·.asExpected)).map (·.identity) = resources.map (·.identity) := by
  rw [List.map_map]
  rfl

theorem revisionFault_eq_none_iff
    {observed : List BackendAgentProtectedWriteObservedResource}
    (unique : (observed.map (·.identity)).Nodup)
    {resource : BackendAgentProtectedWriteResourceRef} :
    revisionFault observed resource = none ↔ resource.asExpected ∈ observed := by
  unfold revisionFault
  constructor
  · intro faultless
    split at faultless
    · cases faultless
    · rename_i current found
      split at faultless
      · cases faultless
      · rename_i revision
        have named := List.find?_some found
        simp only [Bool.and_eq_true, beq_iff_eq] at named
        have same : current = resource.asExpected := by
          cases current
          simp_all [BackendAgentProtectedWriteResourceRef.asExpected]
        rw [← same]
        exact List.mem_of_find?_eq_some found
  · intro member
    have present : (findObserved observed resource).isSome := by
      refine List.find?_isSome.mpr ⟨resource.asExpected, member, ?_⟩
      simp [BackendAgentProtectedWriteResourceRef.asExpected]
    obtain ⟨current, found⟩ := Option.isSome_iff_exists.mp present
    have named := List.find?_some found
    simp only [Bool.and_eq_true, beq_iff_eq] at named
    have same : current = resource.asExpected :=
      List.inj_on_of_nodup_map unique (List.mem_of_find?_eq_some found) member
        (Prod.ext named.1 named.2)
    rw [found]
    simp [same, BackendAgentProtectedWriteResourceRef.asExpected]

/-- Two sizes, two uniqueness checks and a look in one direction say that the observed resources
are the requested ones at their expected revisions. -/
theorem observed_exactly_iff {resources : List BackendAgentProtectedWriteResourceRef}
    {observed : List BackendAgentProtectedWriteObservedResource}
    (valid : boundedUniqueResources (·.identity) validResourceRef resources = true) :
    (backendAgentProtectedWriteValidObservedResources observed = true ∧
      observed.length = resources.length ∧
      ∀ resource ∈ resources, revisionFault observed resource = none) ↔
    observed.Perm (resources.map (·.asExpected)) := by
  obtain ⟨nonempty, bounded, refsValid, unique⟩ := (boundedUniqueResources_iff).mp valid
  rw [← identity_asExpected] at unique
  constructor
  · rintro ⟨observedValid, sized, faultless⟩
    obtain ⟨-, -, -, observedUnique⟩ := (boundedUniqueResources_iff).mp observedValid
    have included : resources.map (·.asExpected) ⊆ observed := by
      intro snapshot member
      obtain ⟨resource, requested, rfl⟩ := List.mem_map.mp member
      exact (revisionFault_eq_none_iff observedUnique).mp (faultless resource requested)
    have sub := List.Nodup.subperm unique.of_map included
    exact (sub.perm_of_length_le (by simp [sized])).symm
  · intro order
    have observedUnique : (observed.map (·.identity)).Nodup :=
      (order.map _).nodup_iff.mpr unique
    refine ⟨?_, by simp [order.length_eq], ?_⟩
    · rw [backendAgentProtectedWriteValidObservedResources,
        boundedUniqueResources_perm _ _ order, boundedUniqueResources_iff]
      refine ⟨by simpa using nonempty, by simpa using bounded, ?_, unique⟩
      intro snapshot member
      obtain ⟨resource, requested, rfl⟩ := List.mem_map.mp member
      exact refsValid resource requested
    · intro resource requested
      rw [revisionFault_eq_none_iff observedUnique, order.mem_iff]
      exact List.mem_map_of_mem requested

/-! ## The fence -/

structure FreshWriteFenced (request : BackendAgentProtectedWriteRequest)
    (record : BackendAgentProtectedWriteIdempotencyRecord)
    (lease : BackendAgentProtectedWriteLease) (ownership : BackendAgentLocalProviderOwnership)
    (facts : BackendAgentLocalProviderFacts)
    (observed : List BackendAgentProtectedWriteObservedResource) (now : Int) : Prop where
  requestValid : backendAgentProtectedWriteValidRequest request = true
  recordValid : backendAgentProtectedWriteValidIdempotencyRecord record = true
  absent : record.present = false
  leaseValid : backendAgentProtectedWriteValidLease lease = true
  leaseActive : lease.active = true
  unexpired : now < lease.expiresAt
  leaseId : request.leaseId = lease.leaseId
  leaseExpiresAt : request.leaseExpiresAt = lease.expiresAt
  backendId : lease.backendId = request.providerSelection.backendId
  authorityDomain : lease.authorityDomain = request.providerSelection.authorityDomain
  capability : request.requiredWriteCapability ∈ lease.allowedCapabilities
  resources : ∀ resource ∈ request.resources,
    { resourceType := resource.resourceType, resourceId := resource.resourceId } ∈ lease.resources
  leaseGeneration : request.expectedAuthorityGeneration = lease.authorityGeneration
  selectionGeneration :
    request.expectedAuthorityGeneration = request.providerSelection.ownershipGeneration
  usable : ∃ reason, backendAgentLocalProviderSelectionUsable request.providerSelection ownership
    facts = .ok reason
  observed : observed.Perm (request.resources.map (·.asExpected))

theorem scopeContains_iff {scopes : List BackendAgentProtectedWriteResourceScope}
    {resource : BackendAgentProtectedWriteResourceRef} :
    scopeContains scopes resource = true ↔
      { resourceType := resource.resourceType, resourceId := resource.resourceId } ∈ scopes := by
  simp only [scopeContains, List.any_eq_true, Bool.and_eq_true, beq_iff_eq]
  constructor
  · rintro ⟨scope, member, resourceType, resourceId⟩
    rw [← resourceType, ← resourceId]
    exact member
  · intro member
    exact ⟨_, member, rfl, rfl⟩

theorem validRequest_resources {request : BackendAgentProtectedWriteRequest}
    (valid : backendAgentProtectedWriteValidRequest request = true) :
    boundedUniqueResources (·.identity) validResourceRef request.resources = true := by
  simp only [backendAgentProtectedWriteValidRequest, Bool.and_eq_true] at valid
  exact valid.1.1.1.2

section Decision

variable {request : BackendAgentProtectedWriteRequest}
  {record : BackendAgentProtectedWriteIdempotencyRecord}
  {lease : BackendAgentProtectedWriteLease} {ownership : BackendAgentLocalProviderOwnership}
  {facts : BackendAgentLocalProviderFacts}
  {observed : List BackendAgentProtectedWriteObservedResource} {now : Int}

theorem selectionUsable_valid {selection : BackendAgentLocalProviderSelection} {reason : String}
    (usable : backendAgentLocalProviderSelectionUsable selection ownership facts = .ok reason) :
    backendAgentLocalProviderValidOwnership ownership = true ∧
      backendAgentLocalProviderValidFacts facts = true := by
  unfold backendAgentLocalProviderSelectionUsable at usable
  split at usable
  · cases usable
  · rename_i valid
    simp only [Bool.not_eq_false, Bool.and_eq_true] at valid
    exact ⟨valid.1.2, valid.2⟩

theorem passes_check_iff {check : Prop} [Decidable check] {reasonCode : String}
    {rest : BackendAgentProtectedWriteDecisionResult} :
    (if check then reject reasonCode else rest).decision = .reserveThenExecuteOnce ↔
      ¬ check ∧ rest.decision = .reserveThenExecuteOnce := by
  by_cases checked : check <;> simp [checked, reject]

theorem fenced_of_reserve
    (authorized : (backendAgentProtectedWriteDecide request record lease ownership facts observed
      now).decision = .reserveThenExecuteOnce) :
    0 < now ∧ FreshWriteFenced request record lease ownership facts observed now := by
  unfold backendAgentProtectedWriteDecide at authorized
  obtain ⟨contract, authorized⟩ := (passes_check_iff).mp authorized
  simp only [not_or, Bool.not_eq_false, not_le] at contract
  obtain ⟨requestValid, recordValid, positive⟩ := contract
  cases absent : record.present with
  | true =>
    rw [if_pos absent] at authorized
    obtain ⟨-, authorized⟩ := (passes_check_iff).mp authorized
    obtain ⟨-, authorized⟩ := (passes_check_iff).mp authorized
    split at authorized <;> cases authorized
  | false =>
    rw [if_neg (by simp [absent])] at authorized
    obtain ⟨leaseValid, authorized⟩ := (passes_check_iff).mp authorized
    obtain ⟨active, authorized⟩ := (passes_check_iff).mp authorized
    obtain ⟨named, authorized⟩ := (passes_check_iff).mp authorized
    obtain ⟨unexpired, authorized⟩ := (passes_check_iff).mp authorized
    obtain ⟨scope, authorized⟩ := (passes_check_iff).mp authorized
    obtain ⟨capability, authorized⟩ := (passes_check_iff).mp authorized
    obtain ⟨resources, authorized⟩ := (passes_check_iff).mp authorized
    obtain ⟨generation, authorized⟩ := (passes_check_iff).mp authorized
    obtain ⟨-, authorized⟩ := (passes_check_iff).mp authorized
    simp only [Bool.not_eq_false] at leaseValid active resources
    simp only [not_or, not_not] at named scope generation capability
    split at authorized
    · cases authorized
    · rename_i reason usable
      obtain ⟨snapshot, authorized⟩ := (passes_check_iff).mp authorized
      simp only [not_or, not_not, Bool.not_eq_false] at snapshot
      split at authorized
      · cases authorized
      · rename_i faultless
        refine ⟨positive, ?_⟩
        exact
          { requestValid, recordValid, absent, leaseValid
            leaseActive := active
            unexpired := not_le.mp unexpired
            leaseId := named.1
            leaseExpiresAt := named.2
            backendId := scope.1
            authorityDomain := scope.2
            capability
            resources := fun resource member =>
              (scopeContains_iff).mp (List.all_eq_true.mp resources resource member)
            leaseGeneration := generation.1
            selectionGeneration := generation.2
            usable := ⟨reason, usable⟩
            observed := (observed_exactly_iff (validRequest_resources requestValid)).mp
              ⟨snapshot.1, snapshot.2, List.findSome?_eq_none_iff.mp faultless⟩ }

theorem reserve_of_fenced (positive : 0 < now)
    (fenced : FreshWriteFenced request record lease ownership facts observed now) :
    (backendAgentProtectedWriteDecide request record lease ownership facts observed now).decision =
      .reserveThenExecuteOnce := by
  obtain ⟨reason, usable⟩ := fenced.usable
  obtain ⟨ownershipValid, factsValid⟩ := selectionUsable_valid usable
  obtain ⟨observedValid, sized, faultless⟩ :=
    (observed_exactly_iff (validRequest_resources fenced.requestValid)).mpr fenced.observed
  have covered : request.resources.all (scopeContains lease.resources) = true :=
    List.all_eq_true.mpr fun resource member =>
      (scopeContains_iff).mpr (fenced.resources resource member)
  unfold backendAgentProtectedWriteDecide
  rw [if_neg (by simp [fenced.requestValid, fenced.recordValid, positive]),
    if_neg (by simp [fenced.absent]), if_neg (by simp [fenced.leaseValid]),
    if_neg (by simp [fenced.leaseActive]),
    if_neg (by simp [fenced.leaseId, fenced.leaseExpiresAt]),
    if_neg (not_le.mpr fenced.unexpired),
    if_neg (by simp [fenced.backendId, fenced.authorityDomain]),
    if_neg (not_not.mpr fenced.capability), if_neg (by simp [covered]),
    if_neg (by simp [← fenced.leaseGeneration, ← fenced.selectionGeneration]),
    if_neg (by simp [ownershipValid, factsValid]), usable]
  dsimp only
  rw [if_neg (by simp [observedValid, sized]), List.findSome?_eq_none_iff.mpr faultless]

theorem reserve_iff :
    (backendAgentProtectedWriteDecide request record lease ownership facts observed now).decision =
      .reserveThenExecuteOnce ↔
    0 < now ∧ FreshWriteFenced request record lease ownership facts observed now := by
  constructor
  · exact fenced_of_reserve
  · rintro ⟨positive, fenced⟩
    exact reserve_of_fenced positive fenced

theorem decide_of_present (present : record.present = true) (positive : 0 < now)
    (otherLease : BackendAgentProtectedWriteLease)
    (otherOwnership : BackendAgentLocalProviderOwnership)
    (otherFacts : BackendAgentLocalProviderFacts)
    (otherObserved : List BackendAgentProtectedWriteObservedResource) {otherNow : Int}
    (otherPositive : 0 < otherNow) :
    backendAgentProtectedWriteDecide request record lease ownership facts observed now =
      backendAgentProtectedWriteDecide request record otherLease otherOwnership otherFacts
        otherObserved otherNow := by
  simp only [backendAgentProtectedWriteDecide, present, if_true, not_le.mpr positive,
    not_le.mpr otherPositive]

theorem reserve_ne_of_present (present : record.present = true) :
    (backendAgentProtectedWriteDecide request record lease ownership facts observed now).decision ≠
      .reserveThenExecuteOnce := by
  intro authorized
  have absent := ((reserve_iff).mp authorized).2.absent
  rw [present] at absent
  cases absent

theorem rejects_or_reserves {check : Prop} [Decidable check] {reasonCode : String}
    {rest : BackendAgentProtectedWriteDecisionResult}
    (otherwise : rest.decision = .reject ∨ rest.decision = .reserveThenExecuteOnce) :
    (if check then reject reasonCode else rest).decision = .reject ∨
      (if check then reject reasonCode else rest).decision = .reserveThenExecuteOnce := by
  by_cases checked : check
  · exact .inl (by simp [checked, reject])
  · simpa [checked] using otherwise

theorem decision_of_absent (absent : record.present = false) :
    (backendAgentProtectedWriteDecide request record lease ownership facts observed now).decision =
        .reject ∨
      (backendAgentProtectedWriteDecide request record lease ownership facts observed
        now).decision = .reserveThenExecuteOnce := by
  unfold backendAgentProtectedWriteDecide
  refine rejects_or_reserves ?_
  rw [if_neg (by simp [absent])]
  iterate 9 refine rejects_or_reserves ?_
  split
  · exact .inl rfl
  · refine rejects_or_reserves ?_
    split
    · exact .inl rfl
    · exact .inr rfl

/-! ## The order of the lists -/

variable {resources : List BackendAgentProtectedWriteResourceRef}
  {scopes : List BackendAgentProtectedWriteResourceScope}
  {leaseCapabilities allowedCapabilities capabilities : List Bytes}
  {otherObserved : List BackendAgentProtectedWriteObservedResource}

theorem validRequest_perm (order : resources.Perm request.resources) :
    backendAgentProtectedWriteValidRequest { request with resources } =
      backendAgentProtectedWriteValidRequest request := by
  simp only [backendAgentProtectedWriteValidRequest, boundedUniqueResources_perm _ _ order]

theorem validLease_perm (scopesOrder : scopes.Perm lease.resources)
    (capabilitiesOrder : leaseCapabilities.Perm lease.allowedCapabilities) :
    backendAgentProtectedWriteValidLease
        { lease with allowedCapabilities := leaseCapabilities, resources := scopes } =
      backendAgentProtectedWriteValidLease lease := by
  simp only [backendAgentProtectedWriteValidLease, boundedUniqueCapabilities,
    boundedUniqueResources_perm _ _ scopesOrder, boundedUniqueIdentifiers_perm capabilitiesOrder]

theorem selectionUsable_perm {selection : BackendAgentLocalProviderSelection}
    (allowedOrder : allowedCapabilities.Perm ownership.allowedCapabilities)
    (observedOrder : capabilities.Perm facts.capabilities) :
    backendAgentLocalProviderSelectionUsable selection { ownership with allowedCapabilities }
        { facts with capabilities } =
      backendAgentLocalProviderSelectionUsable selection ownership facts := by
  simp only [backendAgentLocalProviderSelectionUsable, backendAgentLocalProviderValidOwnership,
    backendAgentLocalProviderValidFacts, boundedUniqueIdentifiers_perm allowedOrder,
    boundedUniqueIdentifiers_perm observedOrder, allowedOrder.mem_iff, observedOrder.mem_iff]
  congr

theorem FreshWriteFenced.perm
    (fenced : FreshWriteFenced request record lease ownership facts observed now)
    (resourcesOrder : resources.Perm request.resources) (scopesOrder : scopes.Perm lease.resources)
    (leaseOrder : leaseCapabilities.Perm lease.allowedCapabilities)
    (allowedOrder : allowedCapabilities.Perm ownership.allowedCapabilities)
    (factsOrder : capabilities.Perm facts.capabilities)
    (observedOrder : otherObserved.Perm observed) :
    FreshWriteFenced { request with resources } record
      { lease with allowedCapabilities := leaseCapabilities, resources := scopes }
      { ownership with allowedCapabilities } { facts with capabilities } otherObserved now :=
  { fenced with
    requestValid := (validRequest_perm resourcesOrder).trans fenced.requestValid
    leaseValid := (validLease_perm scopesOrder leaseOrder).trans fenced.leaseValid
    capability := leaseOrder.mem_iff.mpr fenced.capability
    resources := fun resource member =>
      scopesOrder.mem_iff.mpr (fenced.resources resource (resourcesOrder.mem_iff.mp member))
    usable := by
      obtain ⟨reason, usable⟩ := fenced.usable
      exact ⟨reason, (selectionUsable_perm allowedOrder factsOrder).trans usable⟩
    observed := (observedOrder.trans fenced.observed).trans (resourcesOrder.symm.map _) }

theorem decision_perm (resourcesOrder : resources.Perm request.resources)
    (scopesOrder : scopes.Perm lease.resources)
    (leaseOrder : leaseCapabilities.Perm lease.allowedCapabilities)
    (allowedOrder : allowedCapabilities.Perm ownership.allowedCapabilities)
    (factsOrder : capabilities.Perm facts.capabilities)
    (observedOrder : otherObserved.Perm observed) :
    (backendAgentProtectedWriteDecide { request with resources } record
        { lease with allowedCapabilities := leaseCapabilities, resources := scopes }
        { ownership with allowedCapabilities } { facts with capabilities } otherObserved
        now).decision =
      (backendAgentProtectedWriteDecide request record lease ownership facts observed
        now).decision := by
  cases present : record.present with
  | true =>
    simp only [backendAgentProtectedWriteDecide, validRequest_perm resourcesOrder, present,
      if_true]
  | false =>
    by_cases fenced : 0 < now ∧ FreshWriteFenced request record lease ownership facts observed now
    · rw [(reserve_iff).mpr fenced]
      exact (reserve_iff).mpr ⟨fenced.1, fenced.2.perm resourcesOrder scopesOrder leaseOrder
        allowedOrder factsOrder observedOrder⟩
    · have refused := mt (reserve_iff).mp fenced
      have reordered : ¬ (backendAgentProtectedWriteDecide { request with resources } record
          { lease with allowedCapabilities := leaseCapabilities, resources := scopes }
          { ownership with allowedCapabilities } { facts with capabilities } otherObserved
          now).decision = .reserveThenExecuteOnce := by
        intro authorized
        obtain ⟨positive, again⟩ := (reserve_iff).mp authorized
        exact fenced ⟨positive, again.perm resourcesOrder.symm scopesOrder.symm leaseOrder.symm
          allowedOrder.symm factsOrder.symm observedOrder.symm⟩
      rw [(decision_of_absent present).resolve_right reordered,
        (decision_of_absent present).resolve_right refused]

end Decision

/-! ## Callers -/

def RecordsRequest (request : BackendAgentProtectedWriteRequest)
    (record : BackendAgentProtectedWriteIdempotencyRecord) : Prop :=
  record.idempotencyKey = request.idempotencyKey ∧ record.operationId = request.operationId ∧
    record.requestFingerprint = request.requestFingerprint

structure ProtectedWriteValid (state : ProtectedWriteState) : Prop where
  unique : (state.records.map (·.idempotencyKey)).Nodup
  present : ∀ record ∈ state.records, record.present = true
  once : ((state.reserved ++ state.executed).map (·.idempotencyKey)).Nodup
  stored : ∀ request ∈ state.reserved ++ state.executed,
    ∃ record ∈ state.records, RecordsRequest request record

theorem lookupRecord_eq {records : List BackendAgentProtectedWriteIdempotencyRecord}
    (unique : (records.map (·.idempotencyKey)).Nodup)
    {record : BackendAgentProtectedWriteIdempotencyRecord} (member : record ∈ records) :
    lookupRecord records record.idempotencyKey = record := by
  have present :
      (records.find? fun other => other.idempotencyKey == record.idempotencyKey).isSome :=
    List.find?_isSome.mpr ⟨record, member, by simp⟩
  obtain ⟨found, located⟩ := Option.isSome_iff_exists.mp present
  have named := List.find?_some located
  simp only [beq_iff_eq] at named
  rw [lookupRecord, located]
  exact List.inj_on_of_nodup_map unique (List.mem_of_find?_eq_some located) member named

theorem notMem_keys_of_absent {state : ProtectedWriteState} (valid : ProtectedWriteValid state)
    {idempotencyKey : Bytes}
    (absent : (lookupRecord state.records idempotencyKey).present ≠ true) :
    idempotencyKey ∉ state.records.map (·.idempotencyKey) := by
  intro member
  obtain ⟨record, stored, rfl⟩ := List.mem_map.mp member
  rw [lookupRecord_eq valid.unique stored] at absent
  exact absent (valid.present record stored)

theorem ProtectedWriteValid.reserveWrite {state : ProtectedWriteState}
    (valid : ProtectedWriteValid state) (request : BackendAgentProtectedWriteRequest)
    (persists confirmed : Bool) :
    ProtectedWriteValid (reserveWrite state request persists confirmed) := by
  unfold Agent.reserveWrite
  split
  · exact valid
  · dsimp only
    split
    · exact { valid with }
    · rename_i free
      simp only [not_or] at free
      have fresh := notMem_keys_of_absent valid free.2
      have absent : request.idempotencyKey ∉
          (state.reserved ++ state.executed).map (·.idempotencyKey) := by
        intro member
        obtain ⟨other, among, key⟩ := List.mem_map.mp member
        obtain ⟨record, stored, named, -⟩ := valid.stored other among
        exact fresh (List.mem_map.mpr ⟨record, stored, named.trans key⟩)
      have unique : ((state.records ++ [reservationRecord request]).map (·.idempotencyKey)).Nodup := by
        rw [List.map_append]
        refine valid.unique.append (List.nodup_singleton _) ?_
        simpa [reservationRecord] using fresh
      have present : ∀ record ∈ state.records ++ [reservationRecord request],
          record.present = true := by
        intro record member
        obtain stored | rfl := List.mem_append.mp member |>.imp_right List.mem_singleton.mp
        · exact valid.present record stored
        · rfl
      have kept : ∀ other ∈ state.reserved ++ state.executed,
          ∃ record ∈ state.records ++ [reservationRecord request], RecordsRequest other record := by
        intro other among
        obtain ⟨record, stored, recorded⟩ := valid.stored other among
        exact ⟨record, List.mem_append_left _ stored, recorded⟩
      cases confirmed with
      | false => exact { unique, present, once := valid.once, stored := kept }
      | true =>
        have moved : (state.reserved ++ [request] ++ state.executed).Perm
            (request :: (state.reserved ++ state.executed)) := by
          rw [List.append_assoc]
          exact List.perm_middle
        refine { unique, present, once := ?_, stored := ?_ }
        · exact ((moved.map _).nodup_iff).mpr (List.nodup_cons.mpr ⟨absent, valid.once⟩)
        · intro other among
          obtain rfl | earlier := List.mem_cons.mp (moved.mem_iff.mp among)
          · exact ⟨reservationRecord other, by simp, rfl, rfl, rfl⟩
          · exact kept other earlier

/-- One event keeps the records, and moves an execution from `reserved` to `executed`. -/
theorem protectedWriteValid_step (state : ProtectedWriteState) (event : ProtectedWriteEvent)
    (valid : ProtectedWriteValid state) : ProtectedWriteValid (protectedWriteStep state event).1 := by
  cases event with
  | decide request situation =>
    unfold protectedWriteStep
    dsimp only
    split
    · exact { valid with }
    · exact valid
  | reserve request persists confirmed => exact valid.reserveWrite request persists confirmed
  | execute request =>
    unfold protectedWriteStep
    dsimp only
    split
    · rename_i waiting
      have moved : (state.reserved.erase request ++ (state.executed ++ [request])).Perm
          (state.reserved ++ state.executed) := by
        rw [← List.append_assoc]
        refine (List.perm_append_singleton _ _).trans ?_
        rw [← List.cons_append]
        exact (List.perm_cons_erase waiting).symm.append_right _
      exact
        { unique := valid.unique
          present := valid.present
          once := ((moved.map _).nodup_iff).mpr valid.once
          stored := fun other among => valid.stored other (moved.mem_iff.mp among) }
    · exact valid
  | settle idempotencyKey outcome durableResultReference =>
    have keys : ((state.records.map fun record =>
        if record.idempotencyKey = idempotencyKey then
          { record with state := outcome, durableResultReference }
        else record).map (·.idempotencyKey)) = state.records.map (·.idempotencyKey) := by
      rw [List.map_map]
      refine List.map_congr_left fun record _ => ?_
      simp only [Function.comp_apply]
      split <;> rfl
    refine
      { unique := (congrArg List.Nodup keys).mpr valid.unique
        present := ?_
        once := valid.once
        stored := ?_ }
    · intro record member
      obtain ⟨earlier, stored, rfl⟩ := List.mem_map.mp member
      have present := valid.present earlier stored
      split <;> exact present
    · intro request among
      obtain ⟨record, stored, recorded⟩ := valid.stored request among
      refine ⟨_, List.mem_map_of_mem stored, ?_⟩
      split <;> exact recorded

theorem protectedWriteValid_final (events : List ProtectedWriteEvent) :
    ProtectedWriteValid (Run.final protectedWriteStep {} events) := by
  refine Run.final_preserves protectedWriteStep ProtectedWriteValid protectedWriteValid_step {} ?_
    events
  exact { unique := List.nodup_nil, present := nofun, once := List.nodup_nil, stored := nofun }

def ExecutedOnce (state : ProtectedWriteState) : Prop :=
  (∀ idempotencyKey, (state.executed.map (·.idempotencyKey)).count idempotencyKey ≤ 1) ∧
    ∀ request ∈ state.executed, ∃ record ∈ state.records, RecordsRequest request record

/-- A request whose key is stored is never decided to be executed, and it is rejected if the key
was stored for another operation or fingerprint. -/
def RepeatsRefused (state : ProtectedWriteState) : Prop :=
  ∀ request situation, ∀ record ∈ state.records, record.idempotencyKey = request.idempotencyKey →
    (decideStored state request situation).decision ≠ .reserveThenExecuteOnce ∧
    (¬ RecordsRequest request record →
      (decideStored state request situation).decision = .reject)

theorem ProtectedWriteValid.executedOnce {state : ProtectedWriteState}
    (valid : ProtectedWriteValid state) : ExecutedOnce state := by
  have once := valid.once
  rw [List.map_append] at once
  refine ⟨?_, ?_⟩
  · exact fun idempotencyKey => List.nodup_iff_count_le_one.mp once.of_append_right idempotencyKey
  · exact fun request executed => valid.stored request (List.mem_append_right _ executed)

theorem reject_of_rest {check : Prop} [Decidable check] {reasonCode : String}
    {rest : BackendAgentProtectedWriteDecisionResult} (rejects : rest.decision = .reject) :
    (if check then reject reasonCode else rest).decision = .reject := by
  by_cases checked : check <;> simp [checked, reject, rejects]

theorem reject_of_conflict {request : BackendAgentProtectedWriteRequest}
    {record : BackendAgentProtectedWriteIdempotencyRecord} (present : record.present = true)
    (conflict : ¬ RecordsRequest request record) (situation : ProtectedWriteSituation) :
    (decideIn situation request record).decision = .reject := by
  unfold decideIn backendAgentProtectedWriteDecide
  refine reject_of_rest ?_
  rw [if_pos present]
  by_cases key : record.idempotencyKey = request.idempotencyKey
  · rw [if_neg (not_not.mpr key), if_pos]
    · rfl
    · by_contra agrees
      simp only [not_or, not_not] at agrees
      exact conflict ⟨key, agrees.1, agrees.2⟩
  · rw [if_pos key]
    rfl

theorem ProtectedWriteValid.repeatsRefused {state : ProtectedWriteState}
    (valid : ProtectedWriteValid state) : RepeatsRefused state := by
  intro request situation record stored key
  have present := valid.present record stored
  unfold decideStored
  rw [← key, lookupRecord_eq valid.unique stored]
  exact ⟨reserve_ne_of_present present, fun conflict => reject_of_conflict present conflict situation⟩

def PassesIfFenced (situation : ProtectedWriteSituation)
    (request : BackendAgentProtectedWriteRequest)
    (record : BackendAgentProtectedWriteIdempotencyRecord) : Prop :=
  (decideIn situation request record).decision = .reserveThenExecuteOnce ↔
    0 < situation.now ∧
      FreshWriteFenced request record situation.lease situation.ownership situation.facts
        situation.observedResources situation.now

/-- A present record forbids the execution, and at positive times nothing but it and the request
is looked at. -/
def DecidedByRecord (request : BackendAgentProtectedWriteRequest)
    (record : BackendAgentProtectedWriteIdempotencyRecord) : Prop :=
  record.present = true → ∀ situation other : ProtectedWriteSituation,
    (decideIn situation request record).decision ≠ .reserveThenExecuteOnce ∧
    (0 < situation.now → 0 < other.now →
      decideIn situation request record = decideIn other request record)

def OrderIrrelevant (situation : ProtectedWriteSituation)
    (request : BackendAgentProtectedWriteRequest)
    (record : BackendAgentProtectedWriteIdempotencyRecord) : Prop :=
  ∀ resources scopes leaseCapabilities allowedCapabilities capabilities observedResources,
    resources.Perm request.resources → scopes.Perm situation.lease.resources →
    leaseCapabilities.Perm situation.lease.allowedCapabilities →
    allowedCapabilities.Perm situation.ownership.allowedCapabilities →
    capabilities.Perm situation.facts.capabilities →
    observedResources.Perm situation.observedResources →
    (decideIn
        { lease :=
            { situation.lease with allowedCapabilities := leaseCapabilities, resources := scopes }
          ownership := { situation.ownership with allowedCapabilities }
          facts := { situation.facts with capabilities }
          observedResources
          now := situation.now }
        { request with resources } record).decision =
      (decideIn situation request record).decision

/-- The gate is the fence, and behind it no key is executed twice. -/
theorem protected_write_gate (situation : ProtectedWriteSituation)
    (request : BackendAgentProtectedWriteRequest)
    (record : BackendAgentProtectedWriteIdempotencyRecord) (events : List ProtectedWriteEvent) :
    PassesIfFenced situation request record ∧ DecidedByRecord request record ∧
      OrderIrrelevant situation request record ∧
      ExecutedOnce (Run.final protectedWriteStep {} events) ∧
      RepeatsRefused (Run.final protectedWriteStep {} events) := by
  have valid := protectedWriteValid_final events
  refine ⟨reserve_iff, ?_, ?_, valid.executedOnce, valid.repeatsRefused⟩
  · intro present situation other
    refine ⟨reserve_ne_of_present present, ?_⟩
    intro positive otherPositive
    exact decide_of_present present positive _ _ _ _ otherPositive
  · intro _ _ _ _ _ _ resourcesOrder scopesOrder leaseOrder allowedOrder factsOrder observedOrder
    exact decision_perm resourcesOrder scopesOrder leaseOrder allowedOrder factsOrder observedOrder

def contractRequest : BackendAgentProtectedWriteRequest :=
  { operationId := text "operation_contract_1"
    idempotencyKey := text "idempotency-contract-1"
    requestFingerprint := text "fingerprint-contract-1"
    expectedAuthorityGeneration := 12
    leaseId := text "lease_contract_1"
    leaseExpiresAt := 1060
    requiredWriteCapability := text "contract.protected.write"
    resources := [⟨text "contract.resource", text "resource-1", text "revision-7"⟩]
    providerSelection :=
      { backendId := text "default"
        authorityDomain := text "contract.protected"
        providerId := text "suitebridge:local"
        providerKind := text "suitebridge"
        ownershipGeneration := 12
        providerInstanceEpoch := text "pie_contract_1"
        providerGeneration := 4
        capabilityRevision := 9
        requiredCapability := text "contract.protected.write" } }

def contractSituation (now : Int) : ProtectedWriteSituation :=
  { lease :=
      { leaseId := text "lease_contract_1"
        backendId := text "default"
        authorityDomain := text "contract.protected"
        authorityGeneration := 12
        expiresAt := 1060
        active := true
        allowedCapabilities := [text "contract.protected.write"]
        resources := [⟨text "contract.resource", text "resource-1"⟩] }
    ownership :=
      { backendId := text "default"
        authorityDomain := text "contract.protected"
        providerId := text "suitebridge:local"
        providerKind := text "suitebridge"
        ownershipGeneration := 12
        allowedCapabilities := [text "contract.protected.write"] }
    facts :=
      { providerId := text "suitebridge:local"
        providerKind := text "suitebridge"
        providerInstanceEpoch := text "pie_contract_1"
        providerGeneration := 4
        capabilityRevision := 9
        available := true
        capabilities := [text "contract.protected.write"] }
    observedResources := [⟨text "contract.resource", text "resource-1", text "revision-7"⟩]
    now }

/-- A fenced request is rejected at the time zero. -/
theorem fenced_rejected_at_zero :
    FreshWriteFenced contractRequest {} (contractSituation 0).lease (contractSituation 0).ownership
      (contractSituation 0).facts (contractSituation 0).observedResources 0 ∧
    decideIn (contractSituation 0) contractRequest {} =
      reject "invalid_protected_write_contract" := by
  have authorized : (decideIn (contractSituation 1000) contractRequest {}).decision =
      .reserveThenExecuteOnce := by
    decide
  obtain ⟨-, fenced⟩ := fenced_of_reserve authorized
  refine ⟨{ fenced with unexpired := ?_ }, ?_⟩
  · decide
  · decide

end VdrSuite.Agent
