import VdrSuite.Timers.TimerAssignment

/-! Rows of `timer_assignments`: how an assignment is bound to its columns and read from them. -/

set_option autoImplicit false

namespace VdrSuite.Timers

open Library

/-- A row; its `CHECK` constraints admit only the names of states and roles. -/
structure TimerAssignmentRow where
  timerAssignmentId : Bytes
  assignmentRevision : Nat
  timerIntentId : Bytes
  intentRevision : Bytes
  assignmentEpoch : Nat
  backendId : Bytes
  backendGeneration : Nat
  state : TimerAssignmentState
  role : TimerAssignmentRole
  channelBinding : TimerAssignmentChannelBinding
  capabilityRevision : Bytes
  backendHealthRevision : Bytes
  decisionPolicyVersion : Bytes
  decisionReasons : Bytes
  decisionWarnings : Bytes
  decisionExclusions : Bytes
  decisionConflictFacts : Bytes
  decisionScore : Int
  nativeTimerBindingId : Bytes
  createdAt : Int
  updatedAt : Int
  desiredNativeTimerSpecification : Bytes
  deriving DecidableEq

def parseRevisionToken (token : Bytes) : Option Nat :=
  Netstring.parseUnsigned int64Max true token

def parseUnsignedToken (token : Bytes) : Option Nat :=
  parseDecimal int64Max token

def encodeStrings (values : List Bytes) : Bytes := Netstring.countedList values

def decodeStrings (encoded : Bytes) : Option (List Bytes) :=
  Netstring.readCounted Netstring.uint64Max encoded.length encoded

def assignmentColumns (assignment : TimerAssignment) (revision : Nat) : TimerAssignmentRow :=
  { timerAssignmentId := assignment.timerAssignmentId
    assignmentRevision := revision
    timerIntentId := assignment.timerIntentId
    intentRevision := assignment.intentRevision
    assignmentEpoch := assignment.assignmentEpoch
    backendId := assignment.backendId
    backendGeneration := assignment.backendGeneration
    state := assignment.state
    role := assignment.role
    channelBinding := assignment.channelBinding
    capabilityRevision := assignment.capabilityRevision
    backendHealthRevision := assignment.backendHealthRevision
    decisionPolicyVersion := assignment.decisionPolicyVersion
    decisionReasons := encodeStrings assignment.decisionEvidence.reasons
    decisionWarnings := encodeStrings assignment.decisionEvidence.warnings
    decisionExclusions := encodeStrings assignment.decisionEvidence.exclusions
    decisionConflictFacts := encodeStrings assignment.decisionEvidence.conflictFacts
    decisionScore := assignment.decisionEvidence.decisionScore
    nativeTimerBindingId := assignment.nativeTimerBindingId
    createdAt := assignment.createdAt
    updatedAt := assignment.updatedAt
    desiredNativeTimerSpecification :=
      (assignment.desiredNativeTimerSpecification.map
        serializeTimerAssignmentDesiredNativeTimerSpecification).getD [] }

def bindAssignmentColumns (assignment : TimerAssignment) : Option TimerAssignmentRow :=
  if desiredNativeTimerSpecificationValidForAssignment assignment = false then none
  else
    match parseRevisionToken assignment.assignmentRevision with
    | none => none
    | some revision =>
      if assignment.assignmentEpoch > int64Max ∨ assignment.backendGeneration > int64Max then none
      else some (assignmentColumns assignment revision)

/-! ## Reading -/

def readEvidence (row : TimerAssignmentRow) : Option TimerAssignmentDecisionEvidence := do
  let reasons ← decodeStrings row.decisionReasons
  let warnings ← decodeStrings row.decisionWarnings
  let exclusions ← decodeStrings row.decisionExclusions
  let conflictFacts ← decodeStrings row.decisionConflictFacts
  some { reasons, warnings, exclusions, conflictFacts, decisionScore := row.decisionScore }

def readDesired (row : TimerAssignmentRow) : Option (Option NativeTimerSpecification) :=
  if row.desiredNativeTimerSpecification.isEmpty then some none
  else
    match parseTimerAssignmentDesiredNativeTimerSpecification
        row.desiredNativeTimerSpecification with
    | none => none
    | some specification => some (some specification)

def assignmentOfRow (row : TimerAssignmentRow) (evidence : TimerAssignmentDecisionEvidence)
    (desired : Option NativeTimerSpecification) : TimerAssignment :=
  { timerAssignmentId := row.timerAssignmentId
    assignmentRevision := decimal row.assignmentRevision
    timerIntentId := row.timerIntentId
    intentRevision := row.intentRevision
    assignmentEpoch := row.assignmentEpoch
    backendId := row.backendId
    backendGeneration := row.backendGeneration
    state := row.state
    role := row.role
    channelBinding := row.channelBinding
    capabilityRevision := row.capabilityRevision
    backendHealthRevision := row.backendHealthRevision
    decisionPolicyVersion := row.decisionPolicyVersion
    decisionEvidence := evidence
    desiredNativeTimerSpecification := desired
    nativeTimerBindingId := row.nativeTimerBindingId
    createdAt := row.createdAt
    updatedAt := row.updatedAt }

def readAssignment (row : TimerAssignmentRow) : Option TimerAssignment := do
  if row.assignmentRevision = 0 ∨ row.assignmentEpoch = 0 then none
  else
    let evidence ← readEvidence row
    let desired ← readDesired row
    let assignment := assignmentOfRow row evidence desired
    if timerAssignmentValid assignment &&
        desiredNativeTimerSpecificationValidForAssignment assignment then some assignment
    else none

/-! ## Round trip -/

theorem decodeStrings_encodeStrings {values : List Bytes} (valid : boundedEvidence values = true) :
    decodeStrings (encodeStrings values) = some values := by
  rw [boundedEvidence, Bool.and_eq_true, List.all_eq_true] at valid
  apply Netstring.readCounted_countedList _ _ _ (Netstring.length_le_countedList values)
  intro value member
  have short := ((nonEmptyBounded_iff value 256).mp (valid.2 value member)).2
  rw [Netstring.uint64Max]
  omega

theorem readAssignment_eq_some_iff (row : TimerAssignmentRow) (assignment : TimerAssignment) :
    readAssignment row = some assignment ↔
      row.assignmentRevision ≠ 0 ∧ row.assignmentEpoch ≠ 0 ∧
        ∃ evidence desired, readEvidence row = some evidence ∧ readDesired row = some desired ∧
          assignment = assignmentOfRow row evidence desired ∧
          timerAssignmentValid assignment = true ∧
          desiredNativeTimerSpecificationValidForAssignment assignment = true := by
  unfold readAssignment
  constructor
  · intro read
    split at read
    · cases read
    · next positive =>
      obtain ⟨revision, epoch⟩ := not_or.mp positive
      obtain ⟨evidence, readEvidence, read⟩ := Option.bind_eq_some_iff.mp read
      obtain ⟨desired, readDesired, read⟩ := Option.bind_eq_some_iff.mp read
      dsimp only at read
      split at read
      · next valid =>
        cases read
        obtain ⟨valid, desiredValid⟩ := Bool.and_eq_true_iff.mp valid
        exact ⟨revision, epoch, evidence, desired, readEvidence, readDesired, rfl, valid,
          desiredValid⟩
      · cases read
  · rintro ⟨revision, epoch, evidence, desired, readEvidence, readDesired, rfl, valid, desiredValid⟩
    rw [if_neg (not_or.mpr ⟨revision, epoch⟩), readEvidence, readDesired]
    simp [valid, desiredValid]

theorem bindAssignmentColumns_eq_some {assignment : TimerAssignment} {row : TimerAssignmentRow}
    (columns : bindAssignmentColumns assignment = some row) :
    desiredNativeTimerSpecificationValidForAssignment assignment = true ∧
      ∃ revision, parseRevisionToken assignment.assignmentRevision = some revision ∧
        row = assignmentColumns assignment revision := by
  unfold bindAssignmentColumns at columns
  split at columns
  · cases columns
  · next desired =>
    split at columns
    · cases columns
    · next revision parsed =>
      split at columns
      · cases columns
      · cases columns
        exact ⟨Bool.eq_true_of_not_eq_false desired, revision, parsed, rfl⟩

theorem readDesired_columns {assignment : TimerAssignment}
    (valid : desiredNativeTimerSpecificationValidForAssignment assignment = true) (revision : Nat) :
    readDesired (assignmentColumns assignment revision) =
      some assignment.desiredNativeTimerSpecification := by
  unfold desiredNativeTimerSpecificationValidForAssignment at valid
  cases desired : assignment.desiredNativeTimerSpecification with
  | none => simp [readDesired, assignmentColumns, desired]
  | some specification =>
    simp only [desired, Bool.and_eq_true] at valid
    obtain ⟨⟨-, valid⟩, -⟩ := valid
    have written := serialize_ne_nil valid
    simp [readDesired, assignmentColumns, desired, written,
      desiredSpecification_parse_serialize valid]

theorem readEvidence_columns {assignment : TimerAssignment}
    (valid : decisionEvidenceValid assignment.decisionEvidence = true) (revision : Nat) :
    readEvidence (assignmentColumns assignment revision) = some assignment.decisionEvidence := by
  simp only [decisionEvidenceValid, Bool.and_eq_true] at valid
  obtain ⟨⟨⟨⟨⟨⟨-, reasons⟩, warnings⟩, exclusions⟩, conflictFacts⟩, -⟩, -⟩ := valid
  simp only [readEvidence, assignmentColumns, decodeStrings_encodeStrings reasons,
    decodeStrings_encodeStrings warnings, decodeStrings_encodeStrings exclusions,
    decodeStrings_encodeStrings conflictFacts, Option.bind_eq_bind, Option.bind_some]

theorem parseRevisionToken_decimal {revision number : Nat}
    (parsed : parseRevisionToken (decimal revision) = some number) :
    number = revision ∧ revision ≠ 0 ∧ revision ≤ int64Max := by
  rw [parseRevisionToken, Netstring.parseUnsigned] at parsed
  cases value : parseDecimal int64Max (decimal revision) with
  | none => simp [value] at parsed
  | some value' =>
    obtain ⟨rfl, small⟩ := of_parseDecimal_decimal int64Max revision value' (by decide) value
    simp only [value, Bool.true_and, beq_iff_eq] at parsed
    split at parsed
    · cases parsed
    · next positive => exact ⟨(Option.some.inj parsed).symm, positive, small⟩

theorem readAssignment_bind {assignment : TimerAssignment} {row : TimerAssignmentRow}
    {revision : Nat} (canonical : assignment.assignmentRevision = decimal revision)
    (valid : timerAssignmentValid assignment = true)
    (columns : bindAssignmentColumns assignment = some row) :
    readAssignment row = some assignment := by
  obtain ⟨desiredValid, number, parsed, rfl⟩ := bindAssignmentColumns_eq_some columns
  obtain ⟨rfl, positive, -⟩ := parseRevisionToken_decimal (canonical ▸ parsed)
  have fields := valid
  simp only [timerAssignmentValid, assignmentFieldsValid, Bool.and_eq_true, bne_iff_ne] at fields
  obtain ⟨⟨⟨⟨⟨⟨⟨-, epoch⟩, -⟩, evidence⟩, -⟩, -⟩, -⟩, -⟩ := fields
  refine (readAssignment_eq_some_iff _ _).mpr ⟨positive, epoch, assignment.decisionEvidence,
    assignment.desiredNativeTimerSpecification, readEvidence_columns evidence number,
    readDesired_columns desiredValid number, ?_, valid, desiredValid⟩
  simp only [assignmentOfRow, assignmentColumns, ← canonical]

end VdrSuite.Timers
