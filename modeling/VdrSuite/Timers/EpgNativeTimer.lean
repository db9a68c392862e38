import VdrSuite.Library.Calendar
import VdrSuite.Library.Numerals
import VdrSuite.Timers.NativeTimerSpecification
import Mathlib.Tactic.SplitIfs

/-! Native one-shot timers for programmes: how their boundaries are projected to a day and two times,
and the window that they record. -/

set_option autoImplicit false

namespace VdrSuite.Timers.PublicEpgTimer

open Library Library.Calendar

structure AuthoritativeObservation where
  backendId : Bytes := []
  channelId : Bytes := []
  startTime : Int := 0
  endTime : Int := 0
  backendGeneration : Nat := 0
  exactNativeIdentity : Bool := false
  observationCurrent : Bool := false
  deriving DecidableEq

structure ServerOwnedRecordingDefaults where
  timezone : Bytes := []
  startMarginSeconds : Int := 0
  stopMarginSeconds : Int := 0
  priority : Int := 50
  lifetimeDays : Int := 99
  vpsPreferred : Bool := false
  deriving DecidableEq

structure ServerOwnedNativeClockEvidence where
  current : Bool := false
  startUtcOffsetSeconds : Int := 0
  stopUtcOffsetSeconds : Int := 0
  backendId : Bytes := []
  backendGeneration : Nat := 0
  providerInstanceEpoch : Bytes := []
  executionAuthorityFence : Bytes := []
  observedAt : Int := 0
  deriving DecidableEq

def int64Maximum : Int := 9223372036854775807
def secondsPerDay : Int := 24 * 60 * 60

/-! ## Boundaries -/

/-- `gmtime_r` of a time that is not negative: its date, hour and minute. -/
def gmtime (seconds : Int) : Date × Nat × Nat :=
  (dateOfDays (seconds.toNat / 86400), seconds.toNat % 86400 / 3600, seconds.toNat % 3600 / 60)

def maximumUtcOffset : Int := 14 * 60 * 60

def fullMinute (localSeconds : Int) (roundEndUp : Bool) : Int :=
  let remainder := localSeconds.tmod 60
  if roundEndUp && remainder != 0 then localSeconds + (60 - remainder)
  else if roundEndUp then localSeconds
  else localSeconds - remainder

def projectEpgBoundaryToNative (unixSeconds offsetSeconds : Int) (roundEndUp : Bool) :
    Option (Bytes × Bytes) :=
  if unixSeconds ≤ 0 ∨ offsetSeconds < -maximumUtcOffset ∨ offsetSeconds > maximumUtcOffset ∨
      offsetSeconds.tmod 60 ≠ 0 ∨ unixSeconds > int64Maximum - maximumUtcOffset - 60 then none
  else if unixSeconds + offsetSeconds ≤ 0 then none
  else
    let (date, hour, minute) := gmtime (fullMinute (unixSeconds + offsetSeconds) roundEndUp)
    if date.year < 1970 ∨ date.year > 9999 then none
    else
      let dateBuffer := zeroPadded 4 date.year ++ text "-" ++ zeroPadded 2 date.month ++
        text "-" ++ zeroPadded 2 date.day
      let timeBuffer := zeroPadded 2 hour ++ zeroPadded 2 minute
      if dateBuffer.length ≠ 10 ∨ timeBuffer.length ≠ 4 then none
      else some (dateBuffer, timeBuffer)

/-! ## One-shots -/

def windowRefused (event : AuthoritativeObservation) (defaults : ServerOwnedRecordingDefaults)
    (clock : ServerOwnedNativeClockEvidence) : Bool :=
  !clock.current || clock.startUtcOffsetSeconds != clock.stopUtcOffsetSeconds ||
  !event.exactNativeIdentity || !event.observationCurrent ||
  decide (event.endTime ≤ event.startTime) || decide (event.startTime ≤ 0) ||
  decide (event.endTime - event.startTime > secondsPerDay) ||
  defaults.timezone.isEmpty ||
  decide (defaults.startMarginSeconds < 0) || decide (defaults.stopMarginSeconds < 0) ||
  decide (defaults.startMarginSeconds > secondsPerDay) ||
  decide (defaults.stopMarginSeconds > secondsPerDay) ||
  decide (event.startTime ≤ defaults.startMarginSeconds) ||
  decide (event.endTime > int64Maximum - defaults.stopMarginSeconds)

def nativeOneShotMatchesEpg (event : AuthoritativeObservation)
    (defaults : ServerOwnedRecordingDefaults) (clock : ServerOwnedNativeClockEvidence)
    (native : NativeTimerSpecification) : Bool :=
  if windowRefused event defaults clock then false
  else
    let start := event.startTime - defaults.startMarginSeconds
    let stop := event.endTime + defaults.stopMarginSeconds
    let nativeStart := start - start.tmod 60
    let nativeStop := stop + (60 - stop.tmod 60).tmod 60
    if nativeStop ≤ nativeStart ∨ nativeStop - nativeStart ≥ secondsPerDay then false
    else
      match projectEpgBoundaryToNative start clock.startUtcOffsetSeconds false,
        projectEpgBoundaryToNative stop clock.stopUtcOffsetSeconds true with
      | some (localDay, localStart), some (_, localStop) =>
        native.channelId == event.channelId && native.day == localDay &&
        native.startTime == localStart && native.endTime == localStop &&
        native.weekdays == text "-------" && native.priority == defaults.priority &&
        native.lifetime == defaults.lifetimeDays && native.vps == defaults.vpsPreferred &&
        native.enabled
      | _, _ => false

def oneShotRefused (event : AuthoritativeObservation) (defaults : ServerOwnedRecordingDefaults)
    (clock : ServerOwnedNativeClockEvidence) (authoritativeTitle serverOwnedDirectory : Bytes) :
    Bool :=
  !clock.current || !event.exactNativeIdentity || event.backendId.isEmpty ||
  clock.backendId != event.backendId || clock.backendGeneration == 0 ||
  clock.backendGeneration != event.backendGeneration || clock.providerInstanceEpoch.isEmpty ||
  clock.executionAuthorityFence.isEmpty || decide (clock.observedAt ≤ 0) ||
  defaults.vpsPreferred ||
  decide (defaults.startMarginSeconds < 0) || decide (defaults.stopMarginSeconds < 0) ||
  decide (event.startTime ≤ defaults.startMarginSeconds) ||
  decide (event.endTime ≤ event.startTime) ||
  decide (event.endTime > int64Maximum - defaults.stopMarginSeconds) ||
  authoritativeTitle.isEmpty || decide (authoritativeTitle.length > 512) ||
  decide (serverOwnedDirectory.length > 512)

def makeServerOwnedEpgNativeOneShot (event : AuthoritativeObservation)
    (defaults : ServerOwnedRecordingDefaults) (clock : ServerOwnedNativeClockEvidence)
    (authoritativeTitle serverOwnedDirectory : Bytes) : Option NativeTimerSpecification :=
  if oneShotRefused event defaults clock authoritativeTitle serverOwnedDirectory then none
  else
    match projectEpgBoundaryToNative (event.startTime - defaults.startMarginSeconds)
        clock.startUtcOffsetSeconds false,
      projectEpgBoundaryToNative (event.endTime + defaults.stopMarginSeconds)
        clock.stopUtcOffsetSeconds true with
    | some (startDay, startTime), some (_, stopTime) =>
      let candidate : NativeTimerSpecification :=
        { channelId := event.channelId
          title := authoritativeTitle
          directory := serverOwnedDirectory
          day := startDay
          weekdays := text "-------"
          startTime := startTime
          endTime := stopTime
          priority := defaults.priority
          lifetime := defaults.lifetimeDays
          enabled := true
          vps := false }
      if nativeTimerSpecificationValid candidate = false ∨
          nativeOneShotMatchesEpg event defaults clock candidate = false then none
      else some candidate
    | _, _ => none

/-! ## What a one-shot records -/

def dateOfDay (day : Bytes) : Date :=
  ⟨digitsValue (day.take 4), digitsValue ((day.drop 5).take 2), digitsValue ((day.drop 8).take 2)⟩

def secondOfDay (hhmm : Bytes) : Int :=
  (digitsValue hhmm / 100 * 3600 + digitsValue hhmm % 100 * 60 : Nat)

/-- The window that a one-shot records on a clock with an offset from UTC: it begins on its day, and
ends on the same day if its end is the later time of the day, else on the next one. -/
def oneShotWindow (utcOffsetSeconds : Int) (native : NativeTimerSpecification) : Int × Int :=
  let midnight : Int := daysOfDate (dateOfDay native.day) * secondsPerDay
  let stop :=
    if digitsValue native.startTime < digitsValue native.endTime then secondOfDay native.endTime
    else secondOfDay native.endTime + secondsPerDay
  (midnight + secondOfDay native.startTime - utcOffsetSeconds, midnight + stop - utcOffsetSeconds)

/-- A window contains the programme with its margins, and less than a minute more at each end. -/
def CoversProgramme (event : AuthoritativeObservation) (defaults : ServerOwnedRecordingDefaults)
    (window : Int × Int) : Prop :=
  window.1 ≤ event.startTime - defaults.startMarginSeconds ∧
    event.startTime - defaults.startMarginSeconds < window.1 + 60 ∧
    event.endTime + defaults.stopMarginSeconds ≤ window.2 ∧
    window.2 < event.endTime + defaults.stopMarginSeconds + 60

/-! ## Dates -/

theorem take_drop_joined (front middle back : Bytes) {count : Nat} (skipped : front.length = count) :
    ((front ++ (middle ++ back)).drop count).take middle.length = middle := by
  subst skipped
  rw [List.drop_left, List.take_left]

theorem dateOfDay_text (date : Date) (year : date.year < 10000) (month : date.month < 100)
    (day : date.day < 100) :
    dateOfDay (zeroPadded 4 date.year ++ text "-" ++ zeroPadded 2 date.month ++ text "-" ++
      zeroPadded 2 date.day) = date := by
  have yearDigits : (zeroPadded 4 date.year).length = 4 := zeroPadded_length (by omega)
  have monthDigits : (zeroPadded 2 date.month).length = 2 := zeroPadded_length (by omega)
  have dayDigits : (zeroPadded 2 date.day).length = 2 := zeroPadded_length (by omega)
  have yearValue := digitsValue_zeroPadded 4 date.year
  have monthValue := digitsValue_zeroPadded 2 date.month
  have dayValue := digitsValue_zeroPadded 2 date.day
  have dash : (text "-").length = 1 := rfl
  generalize zeroPadded 4 date.year = yearText at *
  generalize zeroPadded 2 date.month = monthText at *
  generalize zeroPadded 2 date.day = dayText at *
  generalize text "-" = dashText at *
  have first : (yearText ++ dashText ++ monthText ++ dashText ++ dayText).take 4 = yearText := by
    rw [← yearDigits, List.append_assoc, List.append_assoc, List.append_assoc, List.take_left]
  have second :
      ((yearText ++ dashText ++ monthText ++ dashText ++ dayText).drop 5).take 2 = monthText := by
    have skipped : (yearText ++ dashText).length = 5 := by rw [List.length_append]; omega
    have joined := take_drop_joined (yearText ++ dashText) monthText (dashText ++ dayText) skipped
    rwa [monthDigits, ← List.append_assoc, ← List.append_assoc] at joined
  have third :
      ((yearText ++ dashText ++ monthText ++ dashText ++ dayText).drop 8).take 2 = dayText := by
    have skipped : (yearText ++ dashText ++ monthText ++ dashText).length = 8 := by
      simp only [List.length_append]
      omega
    have joined := take_drop_joined (yearText ++ dashText ++ monthText ++ dashText) dayText []
      skipped
    rwa [dayDigits, List.append_nil] at joined
  rw [dateOfDay, first, second, third, yearValue, monthValue, dayValue]

/-! ## Projected boundaries -/

theorem fullMinute_up {localSeconds : Int} (positive : 0 < localSeconds) :
    localSeconds ≤ fullMinute localSeconds true ∧
      fullMinute localSeconds true < localSeconds + 60 ∧ fullMinute localSeconds true % 60 = 0 := by
  unfold fullMinute
  rw [Int.tmod_eq_emod_of_nonneg positive.le]
  simp only [Bool.true_and, bne_iff_ne, ne_eq]
  split_ifs with exact_ <;> omega

theorem fullMinute_down {localSeconds : Int} (positive : 0 < localSeconds) :
    0 ≤ fullMinute localSeconds false ∧ fullMinute localSeconds false ≤ localSeconds ∧
      localSeconds < fullMinute localSeconds false + 60 ∧
      fullMinute localSeconds false % 60 = 0 := by
  unfold fullMinute
  rw [Int.tmod_eq_emod_of_nonneg positive.le]
  simp only [Bool.false_and, Bool.false_eq_true, if_false]
  omega

theorem projectEpgBoundaryToNative_some {unixSeconds offsetSeconds : Int} {roundEndUp : Bool}
    {day hhmm : Bytes}
    (projected : projectEpgBoundaryToNative unixSeconds offsetSeconds roundEndUp =
      some (day, hhmm)) :
    0 < unixSeconds + offsetSeconds ∧ offsetSeconds % 60 = 0 ∧
      ∃ seconds : Nat, fullMinute (unixSeconds + offsetSeconds) roundEndUp = seconds ∧
        daysOfDate (dateOfDay day) = seconds / 86400 ∧
        digitsValue hhmm = seconds % 86400 / 3600 * 100 + seconds % 3600 / 60 := by
  unfold projectEpgBoundaryToNative at projected
  split at projected
  case isTrue => cases projected
  case isFalse bounded =>
  split at projected
  case isTrue => cases projected
  case isFalse positive =>
  simp only [not_or, not_not, Int.not_le] at bounded positive
  have minutes : offsetSeconds % 60 = 0 :=
    Int.emod_eq_zero_of_dvd (Int.dvd_of_tmod_eq_zero bounded.2.2.2.1)
  have nonneg : 0 ≤ fullMinute (unixSeconds + offsetSeconds) roundEndUp := by
    cases roundEndUp with
    | true => exact positive.le.trans (fullMinute_up positive).1
    | false => exact (fullMinute_down positive).1
  obtain ⟨seconds, full⟩ := Int.eq_ofNat_of_zero_le nonneg
  refine ⟨positive, minutes, seconds, full, ?_⟩
  simp only [gmtime, full, Int.toNat_natCast] at projected
  split at projected
  case isTrue => cases projected
  case isFalse years =>
  split at projected
  case isTrue => cases projected
  case isFalse =>
  simp only [Option.some.injEq, Prod.mk.injEq] at projected
  obtain ⟨rfl, rfl⟩ := projected
  obtain ⟨days, month, dayOfMonth⟩ := dateOfDays_inside (seconds / 86400)
  constructor
  · rw [dateOfDay_text _ (by omega) month dayOfMonth, days]
  · have minuteDigits : (zeroPadded 2 (seconds % 3600 / 60)).length = 2 :=
      zeroPadded_length (by omega)
    rw [digitsValue_append, digitsValue_zeroPadded, digitsValue_zeroPadded, minuteDigits,
      show (10 : Nat) ^ 2 = 100 from rfl]

theorem secondOfDay_minutes (seconds : Nat) (hhmm : Bytes) (full : seconds % 60 = 0)
    (written : digitsValue hhmm = seconds % 86400 / 3600 * 100 + seconds % 3600 / 60) :
    secondOfDay hhmm = (seconds % 86400 : Nat) := by
  rw [secondOfDay, written]
  omega

/-- Of two full minutes less than a day apart the later one is on the same day, with the later time
of the day, or on the next one. -/
theorem oneShotWindow_minutes (utcOffsetSeconds : Int) (native : NativeTimerSpecification)
    {start stop : Nat} (order : start < stop) (short : stop < start + 86400)
    (startFull : start % 60 = 0) (stopFull : stop % 60 = 0)
    (day : daysOfDate (dateOfDay native.day) = start / 86400)
    (startTime : digitsValue native.startTime =
      start % 86400 / 3600 * 100 + start % 3600 / 60)
    (endTime : digitsValue native.endTime = stop % 86400 / 3600 * 100 + stop % 3600 / 60) :
    oneShotWindow utcOffsetSeconds native = (start - utcOffsetSeconds, stop - utcOffsetSeconds) := by
  have startSecond := secondOfDay_minutes start native.startTime startFull startTime
  have stopSecond := secondOfDay_minutes stop native.endTime stopFull endTime
  have later : digitsValue native.startTime < digitsValue native.endTime ↔
      start % 86400 < stop % 86400 := by
    rw [startTime, endTime]
    omega
  simp only [oneShotWindow, day, startSecond, stopSecond, later, secondsPerDay]
  split
  case isTrue same =>
    have days : start / 86400 = stop / 86400 := by omega
    exact Prod.ext (by omega) (by omega)
  case isFalse next_ =>
    have days : start / 86400 + 1 = stop / 86400 := by omega
    exact Prod.ext (by omega) (by omega)

theorem nativeTimes_apart {start stop offset : Int} (startPositive : 0 < start)
    (stopPositive : 0 < stop) (minutes : offset % 60 = 0) (localStart : 0 < start + offset)
    (localStop : 0 < stop + offset)
    (apart : ¬(stop + (60 - stop.tmod 60).tmod 60 ≤ start - start.tmod 60 ∨
      stop + (60 - stop.tmod 60).tmod 60 - (start - start.tmod 60) ≥ secondsPerDay)) :
    fullMinute (start + offset) false < fullMinute (stop + offset) true ∧
      fullMinute (stop + offset) true < fullMinute (start + offset) false + 86400 := by
  have startRemainder : start.tmod 60 = start % 60 := Int.tmod_eq_emod_of_nonneg startPositive.le
  have stopRemainder : stop.tmod 60 = stop % 60 := Int.tmod_eq_emod_of_nonneg stopPositive.le
  have missing : (60 - stop % 60).tmod 60 = (60 - stop % 60) % 60 :=
    Int.tmod_eq_emod_of_nonneg (by omega)
  rw [startRemainder, stopRemainder, missing, secondsPerDay] at apart
  obtain ⟨-, startBelow, startAbove, startFull⟩ := fullMinute_down localStart
  obtain ⟨stopBelow, stopAbove, stopFull⟩ := fullMinute_up localStop
  omega

theorem nativeOneShotMatchesEpg_covers {event : AuthoritativeObservation}
    {defaults : ServerOwnedRecordingDefaults} {clock : ServerOwnedNativeClockEvidence}
    {native : NativeTimerSpecification}
    (accepted : nativeOneShotMatchesEpg event defaults clock native = true) :
    CoversProgramme event defaults (oneShotWindow clock.startUtcOffsetSeconds native) := by
  unfold nativeOneShotMatchesEpg at accepted
  split at accepted
  case isTrue => cases accepted
  case isFalse admitted =>
  simp only [windowRefused, Bool.or_eq_true, bne_iff_ne, ne_eq, not_or, not_not,
    decide_eq_true_eq, Int.not_le, Bool.not_eq_true] at admitted
  dsimp only at accepted
  split at accepted
  case isTrue => cases accepted
  case isFalse apart =>
  have offsets : clock.stopUtcOffsetSeconds = clock.startUtcOffsetSeconds := by tauto
  have startPositive : 0 < event.startTime - defaults.startMarginSeconds := by omega
  have stopPositive : 0 < event.endTime + defaults.stopMarginSeconds := by omega
  rw [offsets] at accepted
  cases startProjected : projectEpgBoundaryToNative
      (event.startTime - defaults.startMarginSeconds) clock.startUtcOffsetSeconds false with
  | none => simp only [startProjected, Bool.false_eq_true] at accepted
  | some startTexts =>
  cases stopProjected : projectEpgBoundaryToNative
      (event.endTime + defaults.stopMarginSeconds) clock.startUtcOffsetSeconds true with
  | none => simp only [startProjected, stopProjected, Bool.false_eq_true] at accepted
  | some stopTexts =>
  simp only [startProjected, stopProjected, Bool.and_eq_true, beq_iff_eq] at accepted
  obtain ⟨⟨⟨⟨⟨⟨⟨⟨-, day⟩, startTime⟩, endTime⟩, -⟩, -⟩, -⟩, -⟩, -⟩ := accepted
  obtain ⟨localStart, minutes, start, startFull, days, startDigits⟩ :=
    projectEpgBoundaryToNative_some startProjected
  obtain ⟨localStop, -, stop, stopFull, -, stopDigits⟩ :=
    projectEpgBoundaryToNative_some stopProjected
  obtain ⟨order, short⟩ :=
    nativeTimes_apart startPositive stopPositive minutes localStart localStop apart
  obtain ⟨-, startBelow, startAbove, startMinute⟩ := fullMinute_down localStart
  obtain ⟨stopBelow, stopAbove, stopMinute⟩ := fullMinute_up localStop
  rw [startFull] at order short startBelow startAbove startMinute
  rw [stopFull] at order short stopBelow stopAbove stopMinute
  rw [← day] at days
  rw [← startTime] at startDigits
  rw [← endTime] at stopDigits
  rw [oneShotWindow_minutes clock.startUtcOffsetSeconds native (by omega) (by omega) (by omega)
    (by omega) days startDigits stopDigits]
  refine ⟨?_, ?_, ?_, ?_⟩ <;> omega

theorem makeServerOwnedEpgNativeOneShot_matches {event : AuthoritativeObservation}
    {defaults : ServerOwnedRecordingDefaults} {clock : ServerOwnedNativeClockEvidence}
    {authoritativeTitle serverOwnedDirectory : Bytes} {native : NativeTimerSpecification}
    (made : makeServerOwnedEpgNativeOneShot event defaults clock authoritativeTitle
      serverOwnedDirectory = some native) :
    nativeOneShotMatchesEpg event defaults clock native = true := by
  unfold makeServerOwnedEpgNativeOneShot at made
  split at made
  case isTrue => cases made
  case isFalse =>
  split at made
  case h_2 => cases made
  case h_1 =>
  dsimp only at made
  split at made
  case isTrue => cases made
  case isFalse checked =>
  rw [Option.some.injEq] at made
  subst made
  simpa only [Bool.not_eq_false] using (not_or.mp checked).2

/-- Every specification that is accepted or made for a programme records the programme with its
margins. -/
theorem native_one_shot_covers_programme (event : AuthoritativeObservation)
    (defaults : ServerOwnedRecordingDefaults) (clock : ServerOwnedNativeClockEvidence) :
    (∀ native, nativeOneShotMatchesEpg event defaults clock native = true →
      CoversProgramme event defaults (oneShotWindow clock.startUtcOffsetSeconds native)) ∧
    ∀ authoritativeTitle serverOwnedDirectory native,
      makeServerOwnedEpgNativeOneShot event defaults clock authoritativeTitle
        serverOwnedDirectory = some native →
      CoversProgramme event defaults (oneShotWindow clock.startUtcOffsetSeconds native) := by
  constructor
  · intro native accepted
    exact nativeOneShotMatchesEpg_covers accepted
  · intro authoritativeTitle serverOwnedDirectory native made
    exact nativeOneShotMatchesEpg_covers (makeServerOwnedEpgNativeOneShot_matches made)

/-- A programme that begins before midnight and ends after it, on a clock an hour ahead of UTC. -/
def midnightProgramme : AuthoritativeObservation :=
  { backendId := text "vdr-1", channelId := text "S19.2E-1-1019-10301", startTime := 1700001130,
    endTime := 1700004755, backendGeneration := 1, exactNativeIdentity := true,
    observationCurrent := true }

def midnightDefaults : ServerOwnedRecordingDefaults :=
  { timezone := text "Europe/Berlin", startMarginSeconds := 120, stopMarginSeconds := 600 }

def midnightClock : ServerOwnedNativeClockEvidence :=
  { current := true, startUtcOffsetSeconds := 3600, stopUtcOffsetSeconds := 3600,
    backendId := text "vdr-1", backendGeneration := 1, providerInstanceEpoch := text "e1",
    executionAuthorityFence := text "f1", observedAt := 1699999000 }

def midnightOneShot : NativeTimerSpecification :=
  { channelId := text "S19.2E-1-1019-10301", title := text "Film", day := text "2023-11-14",
    weekdays := text "-------", startTime := text "2330", endTime := text "0043", priority := 50,
    lifetime := 99, enabled := true }

theorem midnight_one_shot_made :
    makeServerOwnedEpgNativeOneShot midnightProgramme midnightDefaults midnightClock (text "Film") []
      = some midnightOneShot := by
  decide

theorem native_one_shot_covers_midnight :
    CoversProgramme midnightProgramme midnightDefaults (oneShotWindow 3600 midnightOneShot) :=
  (native_one_shot_covers_programme midnightProgramme midnightDefaults midnightClock).2 _ _ _
    midnight_one_shot_made

end VdrSuite.Timers.PublicEpgTimer
