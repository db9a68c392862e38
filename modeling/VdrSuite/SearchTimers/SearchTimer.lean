import VdrSuite.Library.Netstring

/-! Search timers as a provider reports them, and the fingerprint of their configuration. -/

set_option autoImplicit false

namespace VdrSuite.SearchTimers

open Library

structure SearchTimerId where
  backendId : Bytes
  nativeId : Bytes
  deriving DecidableEq

inductive SearchTimerState
  | unknown
  | active
  | inactive
  deriving DecidableEq

structure SearchTimerRecordingOptions where
  directory : Bytes := []
  priority : Int := 0
  lifetime : Int := 0
  deriving DecidableEq

structure SearchTimerScheduleOptions where
  marginStartMinutes : Int := 0
  marginStopMinutes : Int := 0
  useVps : Bool := false
  deriving DecidableEq

structure SearchTimerFilterOptions where
  useChannel : Bool := false
  useDayOfWeek : Bool := false
  useDuration : Bool := false
  durationMinMinutes : Int := 0
  durationMaxMinutes : Int := 0
  deriving DecidableEq

structure SearchTimerComparisonOptions where
  compareTitle : Bool := false
  compareSubtitle : Bool := false
  compareSummary : Bool := false
  compareCategories : Bool := false
  compareTime : Bool := false
  deriving DecidableEq

structure SearchTimerRepeatOptions where
  avoidRepeats : Bool := false
  allowedRepeats : Int := 0
  repeatsWithinDays : Int := 0
  deriving DecidableEq

structure SearchTimerChannelOptions where
  channels : Bytes := []
  channelMin : Int := 0
  channelMax : Int := 0
  deriving DecidableEq

structure SearchTimerSeriesOptions where
  useSeriesRecording : Bool := false
  keepRecordings : Int := 0
  deleteMode : Int := 0
  searchTimerAction : Int := 0
  deriving DecidableEq

structure SearchTimerBlacklistOptions where
  blacklistMode : Int := 0
  blacklistIds : Bytes := []
  deriving DecidableEq

structure SearchTimerMatchOptions where
  mode : Int := 0
  matchCase : Bool := false
  tolerance : Int := 0
  summaryMatch : Int := 0
  deriving DecidableEq

structure SearchTimerExtendedEpgOptions where
  useExtendedEpgInfo : Bool := false
  extendedEpgInfo : Bytes := []
  ignoreMissingEpgCategories : Bool := false
  contentDescriptors : Bytes := []
  deriving DecidableEq

structure SearchTimerValidityOptions where
  useInFavorites : Bool := false
  activeFrom : Bytes := []
  activeUntil : Bytes := []
  deriving DecidableEq

structure SearchTimerActionOptions where
  pauseOnRecordings : Bool := false
  switchMinutesBefore : Int := 0
  unmuteSoundOnSwitch : Bool := false
  deleteRecordingsAfterDays : Int := 0
  deleteAfterCountRecordings : Int := 0
  deleteAfterDaysOfFirstRecording : Int := 0
  deriving DecidableEq

structure SearchTimer where
  id : SearchTimerId
  name : Bytes
  query : Bytes
  state : SearchTimerState := .unknown
  recordingOptions : SearchTimerRecordingOptions := {}
  scheduleOptions : SearchTimerScheduleOptions := {}
  filterOptions : SearchTimerFilterOptions := {}
  comparisonOptions : SearchTimerComparisonOptions := {}
  repeatOptions : SearchTimerRepeatOptions := {}
  channelOptions : SearchTimerChannelOptions := {}
  seriesOptions : SearchTimerSeriesOptions := {}
  blacklistOptions : SearchTimerBlacklistOptions := {}
  matchOptions : SearchTimerMatchOptions := {}
  extendedEpgOptions : SearchTimerExtendedEpgOptions := {}
  validityOptions : SearchTimerValidityOptions := {}
  actionOptions : SearchTimerActionOptions := {}
  deriving DecidableEq

namespace SearchTimer

def backendId (timer : SearchTimer) : Bytes := timer.id.backendId

def backendNativeId (timer : SearchTimer) : Bytes := timer.id.nativeId

end SearchTimer

/-- The values that the fingerprint joins, in their order; a truth value is written as a number. -/
def fingerprintFields (timer : SearchTimer) : List Bytes :=
  [timer.name,
   timer.query,
   timer.recordingOptions.directory,
   signedDecimal timer.recordingOptions.priority,
   signedDecimal timer.recordingOptions.lifetime,
   signedDecimal timer.scheduleOptions.marginStartMinutes,
   signedDecimal timer.scheduleOptions.marginStopMinutes,
   Netstring.boolField timer.scheduleOptions.useVps,
   Netstring.boolField timer.filterOptions.useChannel,
   Netstring.boolField timer.filterOptions.useDayOfWeek,
   Netstring.boolField timer.filterOptions.useDuration,
   signedDecimal timer.filterOptions.durationMinMinutes,
   signedDecimal timer.filterOptions.durationMaxMinutes,
   Netstring.boolField timer.comparisonOptions.compareTitle,
   Netstring.boolField timer.comparisonOptions.compareSubtitle,
   Netstring.boolField timer.comparisonOptions.compareSummary,
   Netstring.boolField timer.comparisonOptions.compareCategories,
   Netstring.boolField timer.comparisonOptions.compareTime,
   Netstring.boolField timer.repeatOptions.avoidRepeats,
   signedDecimal timer.repeatOptions.allowedRepeats,
   signedDecimal timer.repeatOptions.repeatsWithinDays,
   timer.channelOptions.channels,
   signedDecimal timer.channelOptions.channelMin,
   signedDecimal timer.channelOptions.channelMax,
   Netstring.boolField timer.seriesOptions.useSeriesRecording,
   signedDecimal timer.seriesOptions.keepRecordings,
   signedDecimal timer.seriesOptions.deleteMode,
   signedDecimal timer.seriesOptions.searchTimerAction,
   signedDecimal timer.blacklistOptions.blacklistMode,
   timer.blacklistOptions.blacklistIds,
   signedDecimal timer.matchOptions.mode,
   Netstring.boolField timer.matchOptions.matchCase,
   signedDecimal timer.matchOptions.tolerance,
   signedDecimal timer.matchOptions.summaryMatch,
   Netstring.boolField timer.extendedEpgOptions.useExtendedEpgInfo,
   timer.extendedEpgOptions.extendedEpgInfo,
   Netstring.boolField timer.extendedEpgOptions.ignoreMissingEpgCategories,
   timer.extendedEpgOptions.contentDescriptors,
   Netstring.boolField timer.validityOptions.useInFavorites,
   timer.validityOptions.activeFrom,
   timer.validityOptions.activeUntil,
   Netstring.boolField timer.actionOptions.pauseOnRecordings,
   signedDecimal timer.actionOptions.switchMinutesBefore,
   Netstring.boolField timer.actionOptions.unmuteSoundOnSwitch,
   signedDecimal timer.actionOptions.deleteRecordingsAfterDays,
   signedDecimal timer.actionOptions.deleteAfterCountRecordings,
   signedDecimal timer.actionOptions.deleteAfterDaysOfFirstRecording]

def fingerprint (timer : SearchTimer) : Bytes :=
  text "searchtimer-observation-v1|" ++ Netstring.countedList (fingerprintFields timer)

def SameConfiguration (first second : SearchTimer) : Prop :=
  { first with id := second.id, state := second.state } = second

theorem fingerprint_ne_nil (timer : SearchTimer) : fingerprint timer ≠ [] := by
  intro empty
  cases empty

theorem fingerprint_eq_iff (first second : SearchTimer) :
    fingerprint first = fingerprint second ↔ SameConfiguration first second := by
  constructor
  · intro same
    have fields := Netstring.countedList_injective (List.append_cancel_left same)
    obtain ⟨firstId, firstName, firstQuery, firstState, ⟨⟩, ⟨⟩, ⟨⟩, ⟨⟩, ⟨⟩, ⟨⟩, ⟨⟩, ⟨⟩, ⟨⟩, ⟨⟩, ⟨⟩, ⟨⟩⟩ := first
    obtain ⟨secondId, secondName, secondQuery, secondState, ⟨⟩, ⟨⟩, ⟨⟩, ⟨⟩, ⟨⟩, ⟨⟩, ⟨⟩, ⟨⟩, ⟨⟩, ⟨⟩, ⟨⟩, ⟨⟩⟩ :=
      second
    simp only [fingerprintFields, List.cons.injEq, and_true, signedDecimal_inj,
      Netstring.boolField_inj] at fields
    simp only [SameConfiguration, fields]
  · intro same
    rw [fingerprint, fingerprint, ← same]
    rfl

end VdrSuite.SearchTimers
