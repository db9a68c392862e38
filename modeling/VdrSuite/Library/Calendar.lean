import Mathlib.Algebra.GroupWithZero.Nat

/-! The Gregorian calendar from 1970 on: dates and the days since then. -/

set_option autoImplicit false

namespace VdrSuite.Library.Calendar

def epochYear : Nat := 1970

def leapYear (year : Nat) : Bool :=
  year % 4 == 0 && (year % 100 != 0 || year % 400 == 0)

def monthLengths (year : Nat) : List Nat :=
  [31, if leapYear year then 29 else 28, 31, 30, 31, 30, 31, 31, 30, 31, 30, 31]

def yearLength (year : Nat) : Nat := (monthLengths year).sum

def locate : List Nat → Nat → Nat × Nat
  | [], position => (0, position)
  | length :: rest, position =>
    if position < length then (0, position)
    else ((locate rest (position - length)).1 + 1, (locate rest (position - length)).2)

structure Date where
  year : Nat
  month : Nat
  day : Nat
  deriving DecidableEq

/-- The year that some days after the beginning of a year fall into, and the days left in it. -/
def yearAndDay : Nat → Nat → Nat → Nat × Nat
  | 0, year, days => (year, days)
  | steps + 1, year, days =>
    if days < yearLength year then (year, days)
    else yearAndDay steps (year + 1) (days - yearLength year)

def dateOfDays (days : Nat) : Date :=
  let (year, day) := yearAndDay days epochYear days
  let (month, rest) := locate (monthLengths year) day
  ⟨year, month + 1, rest + 1⟩

def daysBetween (first last : Nat) : Nat :=
  ((List.range' first (last - first)).map yearLength).sum

def daysOfDate (date : Date) : Nat :=
  daysBetween epochYear date.year + ((monthLengths date.year).take (date.month - 1)).sum +
    (date.day - 1)

theorem locate_inside {lengths : List Nat} {position : Nat} (inside : position < lengths.sum) :
    (lengths.take (locate lengths position).1).sum + (locate lengths position).2 = position ∧
      ∃ length, lengths[(locate lengths position).1]? = some length ∧
        (locate lengths position).2 < length := by
  induction lengths generalizing position with
  | nil => exact absurd inside (Nat.not_lt_zero position)
  | cons length rest ih =>
    rw [locate]
    split
    case isTrue here => exact ⟨by simp, length, rfl, here⟩
    case isFalse past =>
      rw [List.sum_cons] at inside
      obtain ⟨sum, found, present, bounded⟩ := @ih (position - length) (by omega)
      refine ⟨?_, found, present, bounded⟩
      rw [List.take_succ_cons, List.sum_cons]
      omega

theorem yearLength_pos (year : Nat) : 0 < yearLength year := by
  rw [yearLength, monthLengths, List.sum_cons]
  omega

theorem monthLengths_length (year : Nat) : (monthLengths year).length = 12 := rfl

theorem yearAndDay_inside {steps year days : Nat} (enough : days ≤ steps) :
    year ≤ (yearAndDay steps year days).1 ∧
      (yearAndDay steps year days).2 < yearLength (yearAndDay steps year days).1 ∧
      daysBetween year (yearAndDay steps year days).1 + (yearAndDay steps year days).2 = days := by
  induction steps generalizing year days with
  | zero =>
    obtain rfl : days = 0 := by omega
    refine ⟨Nat.le_refl _, yearLength_pos year, ?_⟩
    simp [yearAndDay, daysBetween]
  | succ steps ih =>
    rw [yearAndDay]
    split
    case isTrue here =>
      refine ⟨Nat.le_refl _, here, ?_⟩
      simp [daysBetween]
    case isFalse past =>
      have positive := yearLength_pos year
      obtain ⟨later, bounded, sum⟩ :=
        @ih (year + 1) (days - yearLength year) (by omega)
      refine ⟨by omega, bounded, ?_⟩
      generalize (yearAndDay steps (year + 1) (days - yearLength year)).1 = last at later sum ⊢
      have split : daysBetween year last = yearLength year + daysBetween (year + 1) last := by
        have count : last - year = last - (year + 1) + 1 := by omega
        rw [daysBetween, count, List.range'_succ, List.map_cons, List.sum_cons, daysBetween]
      omega

theorem dateOfDays_inside (days : Nat) :
    daysOfDate (dateOfDays days) = days ∧ (dateOfDays days).month < 100 ∧
      (dateOfDays days).day < 100 := by
  obtain ⟨later, bounded, sum⟩ := @yearAndDay_inside days epochYear days (Nat.le_refl days)
  obtain ⟨position, length, found, inside⟩ := locate_inside bounded
  simp only [dateOfDays, daysOfDate, Nat.add_sub_cancel]
  have months := (List.getElem?_eq_some_iff.mp found).1
  have long : ∀ length ∈ monthLengths (yearAndDay days epochYear days).1, length ≤ 31 := by
    simp only [monthLengths]
    split <;> simp
  have short := long length (List.mem_of_getElem? found)
  rw [monthLengths_length] at months
  exact ⟨by omega, by omega, by omega⟩

end VdrSuite.Library.Calendar
