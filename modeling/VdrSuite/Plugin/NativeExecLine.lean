import VdrSuite.Agent.NativeTimerTransport
import VdrSuite.Plugin.NativeTimerCreate
import VdrSuite.Plugin.NativeTimerModify

/-! The EXEC lines that the agent writes, read by the plugin: exactly which creations and
modifications arrive as they were sent. -/

set_option autoImplicit false

namespace VdrSuite.Plugin

open Library Library.Words Agent

/-! ## Numbers -/

theorem unsignedValue_decimal {limit value : Nat} (bounded : value ≤ limit)
    (short : value < 10 ^ 19) {positive : Bool} (nonzero : positive = true → 0 < value) :
    unsignedValue limit positive (decimal value) = some value := by
  have length := decimal_length_le value 18 short
  rw [unsignedValue, if_neg (by omega),
    Netstring.parseUnsigned_decimal limit value positive bounded nonzero]

theorem of_unsignedValue {limit value : Nat} {positive : Bool} {token : Bytes} (room : 9 ≤ limit)
    (read : unsignedValue limit positive token = some value) :
    value ≤ limit ∧ value < 10 ^ 19 ∧ (positive = true → 0 < value) := by
  unfold unsignedValue at read
  split at read
  · cases read
  · next short =>
    cases parsed : parseDecimal limit token with
    | none => simp [Netstring.parseUnsigned, parsed] at read
    | some number =>
      simp only [Netstring.parseUnsigned, parsed] at read
      split at read
      · cases read
      · next nonzero =>
        cases read
        have small := parseDecimal_lt_pow limit token _ parsed
        have large : 10 ^ token.length ≤ 10 ^ 19 :=
          Nat.pow_le_pow_right (by decide) (by omega)
        refine ⟨parseDecimal_le limit token _ parsed room, by omega, ?_⟩
        intro positively
        simp only [positively, Bool.true_and, beq_iff_eq] at nonzero
        omega

/-! ## Texts -/

def ReadsDigits (nibble : UInt8 → Option Nat) : Prop :=
  ∀ value < 16, nibble (Hex.hexDigit value) = some value

theorem readsDigits_hexValue : ReadsDigits Hex.hexValue := Hex.hexValue_hexDigit

theorem readsDigits_anyCaseNibble : ReadsDigits anyCaseNibble := by
  unfold ReadsDigits
  decide

theorem decodePairs_encode {nibble : UInt8 → Option Nat} (reads : ReadsDigits nibble)
    (value : Bytes) : decodePairs nibble (Hex.encode value) = some value := by
  induction value with
  | nil => rfl
  | cons byte rest ih =>
    have upper : nibble (Hex.hexDigit (byte.toNat / 16)) = some (byte.toNat / 16) :=
      reads _ (by have := byte.toNat_lt; omega)
    have lower : nibble (Hex.hexDigit (byte.toNat % 16)) = some (byte.toNat % 16) :=
      reads _ (by omega)
    have joined : UInt8.ofNat (byte.toNat / 16 * 16 + byte.toNat % 16) = byte := by
      rw [Nat.div_add_mod']
      exact UInt8.ofNat_toNat
    rw [Hex.encode, List.flatMap_cons, ← Hex.encode]
    simp only [List.cons_append, List.nil_append, decodePairs, upper, lower, ih, joined,
      Option.bind_eq_bind, Option.bind_some]

theorem decodeText_hexToken {nibble : UInt8 → Option Nat} (reads : ReadsDigits nibble)
    {maximum : Nat} {value : Bytes} (short : value.length ≤ maximum)
    (printable : ∀ byte ∈ value, (32 : UInt8) ≤ byte) :
    decodeText nibble maximum (hexToken value) = some value := by
  cases value with
  | nil => rfl
  | cons byte rest =>
    have length := Hex.encode_length (byte :: rest)
    have noHyphen : Hex.encode (byte :: rest) ≠ text "-" := by
      intro same
      have one := congrArg List.length same
      have single : (text "-").length = 1 := rfl
      rw [length, single, List.length_cons] at one
      omega
    have nonempty : Hex.encode (byte :: rest) ≠ [] := by
      intro same
      rw [same] at length
      simp at length
    have clean : ((byte :: rest).any fun byte => byte == 0 || byte == 13 || byte == 10) = false := by
      rw [List.any_eq_false]
      intro other member bad
      have large := printable other member
      simp only [Bool.or_eq_true, beq_iff_eq] at bad
      rcases bad with (rfl | rfl) | rfl <;> exact absurd large (by decide)
    have room : ¬ (Hex.encode (byte :: rest) = [] ∨
        (Hex.encode (byte :: rest)).length > maximum * 2) := by
      rw [not_or]
      exact ⟨nonempty, by omega⟩
    rw [decodeText, hexToken, List.isEmpty_cons, if_neg Bool.false_ne_true, if_neg noHyphen,
      if_neg room, decodePairs_encode reads]
    simp only [clean, Bool.false_eq_true, if_false]

theorem printable_of_safeText {value : Bytes} {maximum : Nat}
    (safe : backendAgentCommandSafeText value maximum = true) :
    value.length ≤ maximum ∧ ∀ byte ∈ value, (32 : UInt8) ≤ byte := by
  simp only [backendAgentCommandSafeText, Bool.and_eq_true, decide_eq_true_eq,
    List.all_eq_true] at safe
  exact ⟨safe.1, fun byte member => (safe.2 byte member).1⟩

theorem booleanValue_flagToken (value : Bool) : booleanValue (flagToken value) = some value := by
  cases value <;> rfl

/-! ## Words -/

theorem lineWord_of_identifier {value : Bytes} (nonempty : value ≠ [])
    (identifier : value.all isIdentifierByte = true) : LineWord value := by
  rw [List.all_eq_true] at identifier
  refine ⟨⟨nonempty, ?_⟩, ?_⟩ <;> intro member <;> exact absurd (identifier _ member) (by decide)

theorem lineWord_of_safeWireToken {maximum : Nat} {value : Bytes}
    (safe : safeWireToken maximum value = true) : LineWord value := by
  simp only [safeWireToken, Bool.and_eq_true, Bool.not_eq_true', List.isEmpty_eq_false_iff] at safe
  exact lineWord_of_identifier safe.1.1 safe.2

theorem lineWord_hexToken (value : Bytes) : LineWord (hexToken value) := by
  unfold hexToken
  split
  · refine ⟨⟨?_, ?_⟩, ?_⟩ <;> decide
  · next some =>
    refine ⟨⟨?_, Hex.notMem_encode value 32 (by decide)⟩, Hex.notMem_encode value 0 (by decide)⟩
    intro none
    have length := Hex.encode_length value
    rw [none, List.length_nil] at length
    exact some (by simpa using length)

theorem lineWord_flagToken (value : Bool) : LineWord (flagToken value) := by
  cases value <;> exact ⟨⟨by decide, by decide⟩, by decide⟩

/-! ## The context of a command -/

def executionContext (command : NativeCommandEnvelope) (localStartingPersistedAt : Int) :
    NativeExecutionContext :=
  { jobId := command.jobId, attemptId := command.attemptId, claimEpoch := command.claimEpoch
    backendId := command.backendId, agentId := command.agentId
    agentInstanceId := command.agentInstanceId, backendGeneration := command.backendGeneration
    controlPlaneClaimedAt := command.controlPlaneClaimedAt.toNat
    authorityDomain := command.localProviderSelection.authorityDomain
    providerId := command.localProviderSelection.providerId
    providerKind := command.localProviderSelection.providerKind
    ownershipGeneration := command.localProviderSelection.ownershipGeneration
    providerInstanceEpoch := command.localProviderSelection.providerInstanceEpoch
    providerGeneration := command.localProviderSelection.providerGeneration
    capabilityRevision := command.localProviderSelection.capabilityRevision
    requiredCapability := command.localProviderSelection.requiredCapability
    localStartingPersistedAt := localStartingPersistedAt.toNat }

/-- The numbers of a command are within the range of a reader. The last is never in question: the
time is a signed 64-bit number. -/
structure NumbersFit (maximum : Nat) (command : NativeCommandEnvelope)
    (localStartingPersistedAt : Int) : Prop where
  claimEpoch : command.claimEpoch ≤ maximum
  backendGeneration : command.backendGeneration ≤ maximum
  ownershipGeneration : command.localProviderSelection.ownershipGeneration ≤ maximum
  providerGeneration : command.localProviderSelection.providerGeneration ≤ maximum
  capabilityRevision : command.localProviderSelection.capabilityRevision ≤ maximum
  localStartingPersistedAt : localStartingPersistedAt ≤ maximum

structure NumbersPositive (command : NativeCommandEnvelope) (localStartingPersistedAt : Int) :
    Prop where
  claimEpoch : 0 < command.claimEpoch
  backendGeneration : 0 < command.backendGeneration
  controlPlaneClaimedAt : 0 < command.controlPlaneClaimedAt
  ordered : command.controlPlaneClaimedAt ≤ localStartingPersistedAt
  selection : backendAgentLocalProviderValidSelection command.localProviderSelection = true

def largestNumber (limit : Nat) : Nat := min limit 9999999999999999999

theorem unsignedValue_fits {limit value : Nat} (fits : value ≤ largestNumber limit)
    (positive : 0 < value) : unsignedValue limit true (decimal value) = some value := by
  unfold largestNumber at fits
  exact unsignedValue_decimal (by omega) (by omega) fun _ => positive

theorem fits_of_unsignedValue {limit value : Nat} {positive : Bool} {token : Bytes}
    (room : 9 ≤ limit) (read : unsignedValue limit positive token = some value) :
    value ≤ largestNumber limit := by
  obtain ⟨bounded, short, -⟩ := of_unsignedValue room read
  unfold largestNumber
  omega

theorem parseContext_contextTokens {limit : Nat} {command : NativeCommandEnvelope}
    {localStartingPersistedAt : Int}
    (positive : NumbersPositive command localStartingPersistedAt)
    (fits : NumbersFit (largestNumber limit) command localStartingPersistedAt) :
    parseContext limit (contextTokens command localStartingPersistedAt) =
      some (executionContext command localStartingPersistedAt) := by
  have selection := positive.selection
  simp only [backendAgentLocalProviderValidSelection, Bool.and_eq_true, decide_eq_true_eq]
    at selection
  obtain ⟨⟨⟨⟨⟨-, ownership⟩, -⟩, provider⟩, revision⟩, -⟩ := selection
  have claimed := positive.controlPlaneClaimedAt
  have ordered := positive.ordered
  have last := fits.localStartingPersistedAt
  simp only [contextTokens, parseContext, signedDecimal_of_nonneg _ claimed.le,
    signedDecimal_of_nonneg _ (claimed.le.trans ordered),
    unsignedValue_fits fits.claimEpoch positive.claimEpoch,
    unsignedValue_fits fits.backendGeneration positive.backendGeneration,
    @unsignedValue_fits limit command.controlPlaneClaimedAt.toNat
      (by omega) (by omega),
    unsignedValue_fits fits.ownershipGeneration ownership,
    unsignedValue_fits fits.providerGeneration provider,
    unsignedValue_fits fits.capabilityRevision revision,
    @unsignedValue_fits limit localStartingPersistedAt.toNat
      (by omega) (by omega), Option.bind_eq_bind, Option.bind_some, executionContext]

theorem of_parseContext {limit : Nat} {tokens : List Bytes} {context : NativeExecutionContext}
    (room : 9 ≤ limit) (read : parseContext limit tokens = some context) :
    context.claimEpoch ≤ largestNumber limit ∧ context.backendGeneration ≤ largestNumber limit ∧
    context.ownershipGeneration ≤ largestNumber limit ∧
    context.providerGeneration ≤ largestNumber limit ∧
    context.capabilityRevision ≤ largestNumber limit ∧
    context.localStartingPersistedAt ≤ largestNumber limit := by
  unfold parseContext at read
  split at read
  · simp only [Option.bind_eq_bind, Option.bind_eq_some_iff, Option.some.injEq] at read
    obtain ⟨claimEpoch, first, backendGeneration, second, claimedAt, -, ownership, third, provider,
      fourth, revision, fifth, persistedAt, sixth, rfl⟩ := read
    exact ⟨fits_of_unsignedValue room first, fits_of_unsignedValue room second,
      fits_of_unsignedValue room third, fits_of_unsignedValue room fourth,
      fits_of_unsignedValue room fifth, fits_of_unsignedValue room sixth⟩
  · cases read

theorem numbersFit_of_parseContext {limit : Nat} {tokens : List Bytes}
    {command : NativeCommandEnvelope} {localStartingPersistedAt : Int} (room : 9 ≤ limit)
    (read : parseContext limit tokens = some (executionContext command localStartingPersistedAt)) :
    NumbersFit (largestNumber limit) command localStartingPersistedAt := by
  obtain ⟨claimEpoch, backendGeneration, ownership, provider, revision, persistedAt⟩ :=
    of_parseContext room read
  simp only [executionContext] at claimEpoch backendGeneration ownership provider revision persistedAt
  exact ⟨claimEpoch, backendGeneration, ownership, provider, revision, by omega⟩

theorem lineWord_of_safeToken {maximum : Nat} {value : Bytes}
    (safe : safeToken maximum value = true) : LineWord value :=
  lineWord_of_safeWireToken safe

theorem lineWords_contextTokens {command : NativeCommandEnvelope} {localStartingPersistedAt : Int}
    (safe : safeContext (executionContext command localStartingPersistedAt) = true) :
    ∀ token ∈ contextTokens command localStartingPersistedAt, LineWord token := by
  simp only [safeContext, executionContext, Bool.and_eq_true] at safe
  obtain ⟨⟨⟨⟨⟨⟨⟨⟨⟨job, attempt⟩, backend⟩, agent⟩, inst⟩, domain⟩, provider⟩, kind⟩, epoch⟩,
    capability⟩ := safe
  simp only [contextTokens, List.forall_mem_cons, List.not_mem_nil, false_imp_iff, implies_true,
    and_true, lineWord_decimal, lineWord_signedDecimal, true_and]
  exact ⟨lineWord_of_safeToken job, lineWord_of_safeToken attempt, lineWord_of_safeToken backend,
    lineWord_of_safeToken agent, lineWord_of_safeToken inst, lineWord_of_safeToken domain,
    lineWord_of_safeToken provider, lineWord_of_safeToken kind, lineWord_of_safeToken epoch,
    lineWord_of_safeToken capability⟩

theorem lineWords_specificationTokens
    (specification : BackendAgentNativeTimerCreateSpecification) :
    ∀ token ∈ specificationTokens specification, LineWord token := by
  simp only [specificationTokens, List.forall_mem_cons, List.not_mem_nil, false_imp_iff,
    implies_true, and_true, lineWord_hexToken, lineWord_signedDecimal, lineWord_flagToken]

theorem drop_contextTokens (command : NativeCommandEnvelope) (localStartingPersistedAt : Int)
    (rest : List Bytes) :
    (contextTokens command localStartingPersistedAt ++ rest).drop 17 = rest := rfl

theorem take_contextTokens (command : NativeCommandEnvelope) (localStartingPersistedAt : Int)
    (rest : List Bytes) :
    (contextTokens command localStartingPersistedAt ++ rest).take 17 =
      contextTokens command localStartingPersistedAt := rfl

structure Printable (specification : BackendAgentNativeTimerCreateSpecification) : Prop where
  channelId : specification.channelId ≠ [] ∧ specification.channelId.length ≤ 160 ∧
    ∀ byte ∈ specification.channelId, (32 : UInt8) ≤ byte
  title : specification.title.length ≤ 1024 ∧ ∀ byte ∈ specification.title, (32 : UInt8) ≤ byte
  directory : specification.directory.length ≤ 1024 ∧
    ∀ byte ∈ specification.directory, (32 : UInt8) ≤ byte
  day : specification.day.length ≤ 160 ∧ ∀ byte ∈ specification.day, (32 : UInt8) ≤ byte
  weekdays : specification.weekdays.length = 7 ∧
    ∀ byte ∈ specification.weekdays, (32 : UInt8) ≤ byte
  startTime : specification.startTime.length ≤ 4 ∧
    ∀ byte ∈ specification.startTime, (32 : UInt8) ≤ byte
  endTime : specification.endTime.length ≤ 4 ∧ ∀ byte ∈ specification.endTime, (32 : UInt8) ≤ byte
  priority : 0 ≤ specification.priority ∧ specification.priority ≤ 99
  lifetime : 0 ≤ specification.lifetime ∧ specification.lifetime ≤ 99

theorem printable_of_validHhmm {value : Bytes} (valid : validHhmm value = true) :
    value.length ≤ 4 ∧ ∀ byte ∈ value, (32 : UInt8) ≤ byte := by
  unfold validHhmm at valid
  split at valid
  · cases valid
  · next shape =>
    simp only [not_or, Nat.not_lt, Bool.not_eq_false, List.all_eq_true] at shape
    refine ⟨shape.2.1, ?_⟩
    intro byte member
    have digit := shape.2.2 byte member
    simp only [isDigit, Bool.and_eq_true, decide_eq_true_eq, UInt8.le_iff_toNat_le] at digit ⊢
    have : 48 ≤ byte.toNat := digit.1
    change 32 ≤ byte.toNat
    omega

theorem printable_weekday {byte : UInt8} (weekday : (byte == 45 || isAlphabetic byte) = true) :
    (32 : UInt8) ≤ byte := by
  simp only [isAlphabetic, Bool.or_eq_true, beq_iff_eq, Bool.and_eq_true, decide_eq_true_eq,
    UInt8.le_iff_toNat_le] at weekday
  rw [UInt8.le_iff_toNat_le]
  change 32 ≤ byte.toNat
  rcases weekday with rfl | ⟨upper, -⟩ | ⟨lower, -⟩
  · decide
  · have : 65 ≤ byte.toNat := upper
    omega
  · have : 97 ≤ byte.toNat := lower
    omega

theorem printable_of_valid {specification : BackendAgentNativeTimerCreateSpecification}
    (valid : backendAgentNativeTimerCreateSpecificationValid specification = true) :
    Printable specification := by
  simp only [backendAgentNativeTimerCreateSpecificationValid, Bool.and_eq_true, decide_eq_true_eq,
    Bool.not_eq_true', List.isEmpty_eq_false_iff, beq_iff_eq, List.all_eq_true] at valid
  obtain ⟨⟨⟨⟨⟨⟨⟨⟨⟨⟨⟨⟨nonempty, channel⟩, title⟩, directory⟩, day⟩, length⟩, start⟩, stop⟩, priority⟩,
    priorityMax⟩, lifetime⟩, lifetimeMax⟩, weekdays⟩ := valid
  exact
    { channelId := ⟨nonempty, printable_of_safeText channel⟩
      title := printable_of_safeText title
      directory := printable_of_safeText directory
      day := printable_of_safeText day
      weekdays := ⟨length, fun byte member => printable_weekday (weekdays byte member)⟩
      startTime := printable_of_validHhmm start
      endTime := printable_of_validHhmm stop
      priority := ⟨priority, priorityMax⟩
      lifetime := ⟨lifetime, lifetimeMax⟩ }

end VdrSuite.Plugin
