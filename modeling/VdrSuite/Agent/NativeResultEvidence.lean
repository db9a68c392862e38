import VdrSuite.Agent.NativeTimerCreate
import VdrSuite.Agent.NativeTimerModify

/-! The result evidence of creations and modifications is read back as it was written. -/

set_option autoImplicit false

namespace VdrSuite.Agent

open Library

/-! ## Fields -/

theorem parseOutcome_outcomeName (outcome : NativeOutcomeCategory) :
    parseOutcome (outcomeName outcome) = some outcome := by
  cases outcome <;> decide

theorem parseTime_signedDecimal (positive : Bool) (time : Int) (nonneg : 0 ≤ time)
    (bounded : time ≤ int64Max) (nonzero : positive = true → 0 < time) :
    parseTime positive (signedDecimal time) = some time := by
  rw [parseTime, signedDecimal_of_nonneg time nonneg,
    Netstring.parseUnsigned_decimal _ _ _ (by omega) (fun mark => by have := nonzero mark; omega),
    Option.map_some, Int.ofNat_eq_natCast, Int.toNat_of_nonneg nonneg]

theorem parseNumber_decimal (value : Nat) (bounded : value ≤ int64Max) :
    parseNumber (decimal value) = some value := by
  have short : (decimal value).length ≤ 19 :=
    decimal_length_le value 18 (by simp only [int64Max] at bounded; omega)
  have leading : ¬ ((decimal value).length > 1 ∧ (decimal value).head? = some 48) := by
    rintro ⟨long, zero⟩
    obtain rfl | positive := Nat.eq_zero_or_pos value
    · rw [decimal_of_lt_ten 0 (by decide)] at long
      exact absurd long (by decide)
    · exact head_decimal_ne_zero value positive zero
  rw [parseNumber, if_neg (by rintro (long | zero); exacts [by omega, leading zero]),
    parseDecimal_decimal _ _ bounded]

theorem parseResultTime_signedDecimal (positive : Bool) (time : Int) (nonneg : 0 ≤ time)
    (bounded : time ≤ int64Max) (nonzero : positive = true → 0 < time) :
    parseResultTime positive (signedDecimal time) = some time := by
  rw [parseResultTime, signedDecimal_of_nonneg time nonneg, parseNumber_decimal _ (by omega)]
  cases positive with
  | false => simp [Int.toNat_of_nonneg nonneg]
  | true =>
    have := nonzero rfl
    simp [Int.toNat_of_nonneg nonneg, show time.toNat ≠ 0 by omega]

def evidenceFields {Identity : Type} (evidence : NativeEvidence Identity) : List Bytes :=
  [outcomeName evidence.outcome, signedDecimal evidence.localStartingPersistedAt,
    signedDecimal evidence.dispatchStartedAt, signedDecimal evidence.completedAt,
    evidence.evidenceReference]

theorem resultEvidence_written {Identity : Type} {heading : String}
    {evidence : NativeEvidence Identity} (written : resultEvidence heading evidence ≠ []) :
    resultEvidence heading evidence = text heading ++ Netstring.record (evidenceFields evidence) ∧
      (resultEvidence heading evidence).length ≤ 4096 ∧
      backendAgentCommandSafeText (resultEvidence heading evidence) 4096 = true := by
  unfold resultEvidence at written ⊢
  dsimp only at written ⊢
  split at written
  · exact absurd rfl written
  · rename_i fits
    simp only [not_or, Bool.not_eq_false] at fits
    rw [if_neg (by simpa using fits)]
    exact ⟨rfl, by omega, fits.2⟩

theorem readDocument_resultEvidence {Identity : Type} {heading : String}
    {evidence : NativeEvidence Identity} (limit : Nat) (room : 4096 ≤ limit)
    (written : resultEvidence heading evidence ≠ []) :
    Netstring.readDocument limit 5 (text heading) (resultEvidence heading evidence) =
      some (evidenceFields evidence) := by
  obtain ⟨shape, short, -⟩ := resultEvidence_written written
  rw [shape] at short ⊢
  refine Netstring.readDocument_record _ _ _ _ (by simp [evidenceFields]) ?_
  intro value member
  have := Netstring.length_le_of_mem_fields member
  rw [List.length_append] at short
  omega

structure EvidenceTimesStated {Identity : Type} (evidence : NativeEvidence Identity) : Prop where
  started : 0 < evidence.localStartingPersistedAt
  dispatched : 0 ≤ evidence.dispatchStartedAt
  dispatchedBefore : evidence.dispatchStartedAt ≤ evidence.completedAt
  startedBefore : evidence.localStartingPersistedAt ≤ evidence.completedAt
  bounded : evidence.completedAt ≤ int64Max

/-! ## Creations -/

theorem nativeTimerCreate_evidenceTimes {evidence : BackendAgentNativeTimerCreateEvidence}
    {command : BackendAgentNativeTimerCreateCommand}
    (fits : backendAgentNativeTimerCreateEvidenceMatches evidence command = true)
    (bounded : evidence.completedAt ≤ int64Max) : EvidenceTimesStated evidence := by
  simp only [backendAgentNativeTimerCreateEvidenceMatches, Bool.and_eq_true, Bool.or_eq_true,
    decide_eq_true_eq] at fits
  obtain ⟨⟨⟨⟨⟨⟨-, started⟩, completed⟩, startedBefore⟩, dispatched⟩, outcome⟩, -⟩ := fits
  split at outcome
  · have unsent : evidence.dispatchStartedAt = 0 := by simpa using outcome
    exact ⟨started, by omega, by omega, startedBefore, bounded⟩
  · have sent : 0 < evidence.dispatchStartedAt := by simpa using outcome
    exact ⟨started, by omega, by omega, startedBefore, bounded⟩

theorem nativeTimerCreate_derived {evidence : BackendAgentNativeTimerCreateEvidence}
    {assignment : BackendAgentCommandAssignment}
    (written : backendAgentNativeTimerCreateResultEvidence evidence assignment ≠ []) :
    ∃ command, backendAgentNativeTimerCreateCommandFromAssignment assignment = .ok command := by
  unfold backendAgentNativeTimerCreateResultEvidence at written
  split at written
  · exact absurd rfl written
  · rename_i command derived
    exact ⟨command, derived⟩

theorem nativeTimerCreate_parseResultEvidence {evidence : BackendAgentNativeTimerCreateEvidence}
    {assignment : BackendAgentCommandAssignment}
    (written : backendAgentNativeTimerCreateResultEvidence evidence assignment ≠ [])
    (bounded : evidence.completedAt ≤ int64Max) :
    backendAgentNativeTimerCreateParseResultEvidence
      (backendAgentNativeTimerCreateResultEvidence evidence assignment) assignment =
      some evidence := by
  have nonempty := written
  unfold backendAgentNativeTimerCreateResultEvidence at written
  split at written
  · exact absurd rfl written
  · rename_i command derived
    split at written
    · exact absurd rfl written
    · rename_i fits
      have fits := Bool.eq_true_of_not_eq_false fits
      have shape : backendAgentNativeTimerCreateResultEvidence evidence assignment =
          resultEvidence "native-timer-create-result-evidence/1|" evidence := by
        unfold backendAgentNativeTimerCreateResultEvidence
        simp only [derived, fits, Bool.true_eq_false, if_false]
      have identity : evidence.identity = command.evidenceIdentity := by
        simp only [backendAgentNativeTimerCreateEvidenceMatches, Bool.and_eq_true,
          beq_iff_eq] at fits
        exact fits.1.1.1.1.1.1.2
      have times := nativeTimerCreate_evidenceTimes fits bounded
      obtain ⟨-, short, safe⟩ := resultEvidence_written written
      have same : { evidence with identity := command.evidenceIdentity } = evidence := by
        rw [← identity]
      rw [backendAgentNativeTimerCreateParseResultEvidence, shape,
        if_neg (by simp [safe]; omega), readDocument_resultEvidence Netstring.uint64Max
          (by simp [Netstring.uint64Max]) written, derived]
      have startedBefore := times.startedBefore
      have dispatchedBefore := times.dispatchedBefore
      have started := times.started
      simp only [evidenceFields, parseOutcome_outcomeName,
        parseTime_signedDecimal true evidence.localStartingPersistedAt started.le (by omega)
          (fun _ => started),
        parseTime_signedDecimal false evidence.dispatchStartedAt times.dispatched (by omega)
          (by simp),
        parseTime_signedDecimal true evidence.completedAt (by omega) bounded (fun _ => by omega),
        Option.bind_eq_bind, Option.bind_some]
      rw [same, ← shape, if_neg (by simp [nonempty])]

/-! ## Modifications -/

theorem nativeTimerModify_evidenceTimes {evidence : BackendAgentNativeTimerModifyEvidence}
    {command : BackendAgentNativeTimerModifyCommand}
    (fits : backendAgentNativeTimerModifyEvidenceMatches evidence command = true)
    (bounded : evidence.completedAt ≤ int64Max) : EvidenceTimesStated evidence := by
  simp only [backendAgentNativeTimerModifyEvidenceMatches,
    backendAgentNativeTimerModifyValidCommand, Bool.and_eq_true, decide_eq_true_eq] at fits
  obtain ⟨⟨⟨⟨⟨valid, -⟩, claimed⟩, startedBefore⟩, -⟩, dispatched⟩ := fits
  have positive : 0 < command.controlPlaneClaimedAt := valid.1.2
  unfold dispatchTimesValid at dispatched
  split at dispatched
  · have unsent : evidence.dispatchStartedAt = 0 := by simpa using dispatched
    exact ⟨by omega, by omega, by omega, startedBefore, bounded⟩
  · have sent : evidence.localStartingPersistedAt ≤ evidence.dispatchStartedAt ∧
        evidence.dispatchStartedAt ≤ evidence.completedAt := by simpa using dispatched
    exact ⟨by omega, by omega, sent.2, startedBefore, bounded⟩

theorem nativeTimerModify_derived {evidence : BackendAgentNativeTimerModifyEvidence}
    {assignment : BackendAgentCommandAssignment}
    (written : backendAgentNativeTimerModifyResultEvidence evidence assignment ≠ []) :
    ∃ command, backendAgentNativeTimerModifyCommandFromAssignment assignment = .ok command := by
  unfold backendAgentNativeTimerModifyResultEvidence at written
  split at written
  · exact absurd rfl written
  · rename_i command derived
    exact ⟨command, derived⟩

theorem parseResultFields_resultEvidence {Identity : Type} {heading : String}
    {evidence : NativeEvidence Identity} (written : resultEvidence heading evidence ≠ [])
    (times : EvidenceTimesStated evidence) :
    parseResultFields heading evidence.identity (resultEvidence heading evidence) =
      some evidence := by
  obtain ⟨-, short, safe⟩ := resultEvidence_written written
  have started := times.started
  have startedBefore := times.startedBefore
  have dispatchedBefore := times.dispatchedBefore
  have bounded := times.bounded
  rw [parseResultFields, if_neg (by simp [safe]; omega),
    readDocument_resultEvidence 4096 (Nat.le_refl _) written]
  simp only [evidenceFields, parseOutcome_outcomeName,
    parseResultTime_signedDecimal true evidence.localStartingPersistedAt started.le (by omega)
      (fun _ => started),
    parseResultTime_signedDecimal false evidence.dispatchStartedAt times.dispatched (by omega)
      (by simp),
    parseResultTime_signedDecimal true evidence.completedAt (by omega) bounded
      (fun _ => by omega),
    Option.bind_eq_bind, Option.bind_some]

theorem nativeTimerModify_parseResultEvidence {evidence : BackendAgentNativeTimerModifyEvidence}
    {assignment : BackendAgentCommandAssignment}
    (written : backendAgentNativeTimerModifyResultEvidence evidence assignment ≠ [])
    (bounded : evidence.completedAt ≤ int64Max) :
    backendAgentNativeTimerModifyParseResultEvidence
      (backendAgentNativeTimerModifyResultEvidence evidence assignment) assignment =
      some evidence := by
  unfold backendAgentNativeTimerModifyResultEvidence at written
  split at written
  · exact absurd rfl written
  · rename_i command derived
    split at written
    · exact absurd rfl written
    · rename_i fits
      have fits := Bool.eq_true_of_not_eq_false fits
      have shape : backendAgentNativeTimerModifyResultEvidence evidence assignment =
          resultEvidence "native-timer-modify-result-evidence/1|" evidence := by
        unfold backendAgentNativeTimerModifyResultEvidence
        simp only [derived, fits, Bool.true_eq_false, if_false]
      have identity : command.toNativeCommandEnvelope.identity = evidence.identity := by
        simp only [backendAgentNativeTimerModifyEvidenceMatches, Bool.and_eq_true,
          beq_iff_eq] at fits
        exact fits.1.1.1.1.2.symm
      have parsed := parseResultFields_resultEvidence written
        (nativeTimerModify_evidenceTimes fits bounded)
      unfold backendAgentNativeTimerModifyParseResultEvidence
      simp only [derived, identity]
      rw [shape, parsed]
      simp [shape]

end VdrSuite.Agent
