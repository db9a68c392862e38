import VdrSuite.Plugin.NativeServiceRuns

/-! The plugin with its four native services side by side. -/

set_option autoImplicit false

namespace VdrSuite.Plugin

open Library

structure PluginSetup where
  create : ServiceSetup
  delete : ServiceSetup
  modify : ServiceSetup
  marks : ServiceSetup

structure PluginState where
  create : ServiceState SuiteBridgeNativeTimerCreateRequest := {}
  delete : ServiceState SuiteBridgeNativeTimerDeleteRequest := {}
  modify : ServiceState SuiteBridgeNativeTimerModifyRequest := {}
  marks : ServiceState SuiteBridgeRecordingMarksModifyRequest := {}

inductive PluginStep where
  | create (step : ServiceStep SuiteBridgeNativeTimerCreateRequest)
  | delete (step : ServiceStep SuiteBridgeNativeTimerDeleteRequest)
  | modify (step : ServiceStep SuiteBridgeNativeTimerModifyRequest)
  | marks (step : ServiceStep SuiteBridgeRecordingMarksModifyRequest)

inductive PluginAnswer where
  | create (answer : ServiceAnswer SuiteBridgeNativeTimerCreateRequest)
  | delete (answer : ServiceAnswer SuiteBridgeNativeTimerDeleteRequest)
  | modify (answer : ServiceAnswer SuiteBridgeNativeTimerModifyRequest)
  | marks (answer : ServiceAnswer SuiteBridgeRecordingMarksModifyRequest)

def pluginStep (setup : PluginSetup) (state : PluginState) : PluginStep → PluginState × PluginAnswer
  | .create step =>
    let (create, answer) := serviceStep createService setup.create state.create step
    ({ state with create }, .create answer)
  | .delete step =>
    let (delete, answer) := serviceStep deleteService setup.delete state.delete step
    ({ state with delete }, .delete answer)
  | .modify step =>
    let (modify, answer) := serviceStep modifyService setup.modify state.modify step
    ({ state with modify }, .modify answer)
  | .marks step =>
    let (marks, answer) := serviceStep marksService setup.marks state.marks step
    ({ state with marks }, .marks answer)

abbrev PluginJournal := List (PluginStep × PluginAnswer)

def createEntries (entries : PluginJournal) : ServiceJournal SuiteBridgeNativeTimerCreateRequest :=
  entries.filterMap fun
    | (.create step, .create answer) => some (step, answer)
    | _ => none

def deleteEntries (entries : PluginJournal) : ServiceJournal SuiteBridgeNativeTimerDeleteRequest :=
  entries.filterMap fun
    | (.delete step, .delete answer) => some (step, answer)
    | _ => none

def modifyEntries (entries : PluginJournal) : ServiceJournal SuiteBridgeNativeTimerModifyRequest :=
  entries.filterMap fun
    | (.modify step, .modify answer) => some (step, answer)
    | _ => none

def marksEntries (entries : PluginJournal) :
    ServiceJournal SuiteBridgeRecordingMarksModifyRequest :=
  entries.filterMap fun
    | (.marks step, .marks answer) => some (step, answer)
    | _ => none

def KeepsLedger {Request : Type} (service : NativeService Request)
    (entries : ServiceJournal Request) : Prop :=
  CallsOnce service entries ∧ RepeatsRecorded service entries ∧
    TruthfulRejections service entries

variable (setup : PluginSetup)

theorem createEntries_journal (start : PluginState) (steps : List PluginStep) :
    createEntries (Run.journal (pluginStep setup) start steps) =
      Run.journal (serviceStep createService setup.create) start.create
        (steps.filterMap fun | .create step => some step | _ => none) := by
  refine Run.journal_component (pluginStep setup) (serviceStep createService setup.create)
    PluginState.create _ _ ?_ ?_ start steps
  · intro state request foreign
    cases request with
    | create step => cases foreign
    | _ => exact ⟨rfl, rfl⟩
  · intro state request step own
    cases request with
    | create step => cases own; exact ⟨rfl, rfl⟩
    | _ => cases own

theorem deleteEntries_journal (start : PluginState) (steps : List PluginStep) :
    deleteEntries (Run.journal (pluginStep setup) start steps) =
      Run.journal (serviceStep deleteService setup.delete) start.delete
        (steps.filterMap fun | .delete step => some step | _ => none) := by
  refine Run.journal_component (pluginStep setup) (serviceStep deleteService setup.delete)
    PluginState.delete _ _ ?_ ?_ start steps
  · intro state request foreign
    cases request with
    | delete step => cases foreign
    | _ => exact ⟨rfl, rfl⟩
  · intro state request step own
    cases request with
    | delete step => cases own; exact ⟨rfl, rfl⟩
    | _ => cases own

theorem modifyEntries_journal (start : PluginState) (steps : List PluginStep) :
    modifyEntries (Run.journal (pluginStep setup) start steps) =
      Run.journal (serviceStep modifyService setup.modify) start.modify
        (steps.filterMap fun | .modify step => some step | _ => none) := by
  refine Run.journal_component (pluginStep setup) (serviceStep modifyService setup.modify)
    PluginState.modify _ _ ?_ ?_ start steps
  · intro state request foreign
    cases request with
    | modify step => cases foreign
    | _ => exact ⟨rfl, rfl⟩
  · intro state request step own
    cases request with
    | modify step => cases own; exact ⟨rfl, rfl⟩
    | _ => cases own

theorem marksEntries_journal (start : PluginState) (steps : List PluginStep) :
    marksEntries (Run.journal (pluginStep setup) start steps) =
      Run.journal (serviceStep marksService setup.marks) start.marks
        (steps.filterMap fun | .marks step => some step | _ => none) := by
  refine Run.journal_component (pluginStep setup) (serviceStep marksService setup.marks)
    PluginState.marks _ _ ?_ ?_ start steps
  · intro state request foreign
    cases request with
    | marks step => cases foreign
    | _ => exact ⟨rfl, rfl⟩
  · intro state request step own
    cases request with
    | marks step => cases own; exact ⟨rfl, rfl⟩
    | _ => cases own

/-- In one lifetime of the plugin every service calls its callback at most once for an operation and
for a command, repeats what it has recorded, and rejects only requests that had no effect. -/
theorem native_services_keep_ledgers (steps : List PluginStep) :
    KeepsLedger createService (createEntries (Run.journal (pluginStep setup) {} steps)) ∧
    KeepsLedger deleteService (deleteEntries (Run.journal (pluginStep setup) {} steps)) ∧
    KeepsLedger modifyService (modifyEntries (Run.journal (pluginStep setup) {} steps)) ∧
    KeepsLedger marksService (marksEntries (Run.journal (pluginStep setup) {} steps)) := by
  rw [createEntries_journal, deleteEntries_journal, modifyEntries_journal, marksEntries_journal]
  exact ⟨service_lifetime createService setup.create _, service_lifetime deleteService setup.delete _,
    service_lifetime modifyService setup.modify _, service_lifetime marksService setup.marks _⟩

/-! ## A command that was applied and is rejected later -/

def samplePlugin : PluginSetup :=
  { create := serviceSetup (text "pie_1") true 4096
    delete := serviceSetup (text "pie_1") true 4096
    modify := serviceSetup (text "pie_1") true 4096
    marks := serviceSetup (text "pie_1") true 4096 }

def sampleContext (capability : String) : List Bytes :=
  [text "job_1", text "attempt_1", text "1", text "backend_1", text "agent_1", text "instance_1",
    text "1", text "100", text "vdr.timer", text "suitebridge:local", text "suitebridge", text "1",
    text "pie_1", text "1", text "1", text capability, text "101"]

def sampleCreateRequest : SuiteBridgeNativeTimerCreateRequest :=
  { commandId := text "cmd_1", requestFingerprint := text "fp_1", operationId := text "op_1"
    operationRevision := text "oprev_1", timerAssignmentId := text "asg_1"
    expectedAssignmentRevision := text "arev_1", expectedIntentRevision := text "irev_1"
    assignmentEpoch := 1, nativeTimerBindingId := text "ntb_1"
    expectedSpecificationFingerprint := text
      "native-timer-specification/1|1:C|1:T|0:|1:D|7:-------|4:2015|4:2100|2:50|2:99|1:1|1:0|"
    jobId := text "job_1", attemptId := text "attempt_1", claimEpoch := 1
    backendId := text "backend_1", agentId := text "agent_1", agentInstanceId := text "instance_1"
    backendGeneration := 1, controlPlaneClaimedAt := 100, authorityDomain := text "vdr.timer"
    providerId := text "suitebridge:local", providerKind := text "suitebridge"
    ownershipGeneration := 1, providerInstanceEpoch := text "pie_1", providerGeneration := 1
    capabilityRevision := 1, requiredCapability := text "vdr.timer.create"
    localStartingPersistedAt := 101, channelId := text "C", title := text "T", day := text "D"
    weekdays := text "-------", startTime := text "2015", endTime := text "2100"
    priority := 50, lifetime := 99, enabled := true }

def sampleCreateLine (requestFingerprint : String) : Bytes :=
  Words.unwords ([text "EXEC", text "vdr-suite-native/1", text "vdr.timer.create", text "1",
    text "cmd_1", text requestFingerprint, text "op_1", text "oprev_1", text "asg_1",
    text "arev_1", text "irev_1", text "1", text "ntb_1",
    Hex.encode sampleCreateRequest.expectedSpecificationFingerprint] ++
    sampleContext "vdr.timer.create" ++
    [text "43", text "54", text "-", text "44", Hex.encode (text "-------"),
      Hex.encode (text "2015"), Hex.encode (text "2100"), text "50", text "99", text "1", text "0"])

def sampleDeleteLine : Bytes :=
  Words.unwords ([text "EXEC", text "vdr-suite-native/1", text "vdr.timer.delete", text "1",
    text "cmd_1", text "fp_1", text "op_1", text "oprev_1", text "ntb_1", text "brev_1",
    text "sha256:aaaaaaaaaaaaaaaaaaaaaaaaaaaaaaaaaaaaaaaaaaaaaaaaaaaaaaaaaaaaaaaa", text "asg_1",
    text "timer_1"] ++ sampleContext "vdr.timer.delete")

def sampleJournal : PluginJournal :=
  Run.journal (pluginStep samplePlugin) {}
    [.create (.execute (sampleCreateLine "fp_1")),
      .create (.callbackReturned sampleCreateRequest
        (some { disposition := .appliedUnverified, evidenceReference := text "native_timer_7" })),
      .create (.execute (sampleCreateLine "fp_2")),
      .delete (.execute sampleDeleteLine)]

/-- The command was applied when its other fingerprint is rejected without effect, and its
operation is called by two services. -/
theorem replay_conflict_after_effect :
    callbackOutcomes (createEntries sampleJournal) =
      [(sampleCreateRequest,
        some { disposition := .appliedUnverified, evidenceReference := text "native_timer_7" })] ∧
    NativeReply.typed replayConflictReplyCode
      { sampleCreateRequest with requestFingerprint := text "fp_2" } .rejectedWithoutEffect
      .replayConflict (text "ntcreate:replay-conflict:cmd_1") ∈
        serviceReplies (createEntries sampleJournal) ∧
    (callbackCalls (createEntries sampleJournal)).map (·.operationId) = [text "op_1"] ∧
    (callbackCalls (deleteEntries sampleJournal)).map (·.operationId) = [text "op_1"] := by
  decide +kernel

end VdrSuite.Plugin
