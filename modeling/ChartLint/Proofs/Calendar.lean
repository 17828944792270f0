import ChartLint.Instant
import Mathlib.Logic.Function.Iterate

/-!
The calendar by its rules: how long months are, and which day comes next. Day numbers count days by
these rules, and each number is that of one day.
-/
namespace ChartLint

namespace Date

/-! ### The rules -/

def LeapYear (year : Int) : Prop := 4 ∣ year ∧ (100 ∣ year → 400 ∣ year)

instance (year : Int) : Decidable (LeapYear year) :=
  inferInstanceAs (Decidable (4 ∣ year ∧ (100 ∣ year → 400 ∣ year)))

def monthLengths (year : Int) : List Nat :=
  [31, if LeapYear year then 29 else 28, 31, 30, 31, 30, 31, 31, 30, 31, 30, 31]

/-- The month is one of the year, and the day is one of the month. -/
def InCalendar (date : Date) : Prop :=
  1 ≤ date.month ∧ 1 ≤ date.day ∧
    ∃ length, (monthLengths date.year)[date.month - 1]? = some length ∧ date.day ≤ length

/-- The next day: of the same month, or the first of the next month or year. -/
def next (date : Date) : Date :=
  if date.day < (monthLengths date.year).getD (date.month - 1) 0 then { date with day := date.day + 1 }
  else if date.month < 12 then ⟨date.year, date.month + 1, 1⟩
  else ⟨date.year + 1, 1, 1⟩

/-! ### Months -/

theorem isLeapYear_iff {year : Int} : isLeapYear year = true ↔ LeapYear year := by
  simp only [isLeapYear, LeapYear, Bool.and_eq_true, Bool.or_eq_true, beq_iff_eq, bne_iff_ne]
  omega

theorem monthLengths_eq (year : Int) :
    monthLengths year = (List.range 12).map fun month => daysInMonth year (month + 1) := by
  have leap : (if LeapYear year then 29 else 28) = if isLeapYear year then 29 else 28 := by
    simp only [isLeapYear_iff]
  rw [monthLengths, leap]
  rfl

theorem inCalendar_iff {date : Date} : date.InCalendar ↔ 1 ≤ date.month ∧ date.month ≤ 12 ∧
    1 ≤ date.day ∧ date.day ≤ daysInMonth date.year date.month := by
  rw [InCalendar, monthLengths_eq]
  constructor
  · rintro ⟨isMonth, isDay, length, isLength, inMonth⟩
    rw [List.getElem?_map, Option.map_eq_some_iff] at isLength
    obtain ⟨index, isIndex, rfl⟩ := isLength
    obtain ⟨inYear, rfl⟩ := List.getElem?_eq_some_iff.mp isIndex
    rw [List.length_range] at inYear
    rw [List.getElem_range, Nat.sub_add_cancel isMonth] at inMonth
    exact ⟨isMonth, by omega, isDay, inMonth⟩
  · rintro ⟨isMonth, inYear, isDay, inMonth⟩
    refine ⟨isMonth, isDay, _, ?_, inMonth⟩
    rw [List.getElem?_map, List.getElem?_range (by omega), Option.map_some, Nat.sub_add_cancel isMonth]

theorem isValid_iff {date : Date} : date.isValid = true ↔ date.InCalendar := by
  rw [inCalendar_iff, isValid]
  simp [and_assoc]

/-- The next day, with lengths as they are computed. -/
theorem next_eq {date : Date} (isDate : date.InCalendar) : date.next =
    if date.day < daysInMonth date.year date.month then { date with day := date.day + 1 }
    else if date.month < 12 then ⟨date.year, date.month + 1, 1⟩
    else ⟨date.year + 1, 1, 1⟩ := by
  obtain ⟨isMonth, inYear, -⟩ := inCalendar_iff.mp isDate
  have isLength : (monthLengths date.year).getD (date.month - 1) 0 =
      daysInMonth date.year date.month := by
    rw [monthLengths_eq, List.getD_eq_getElem?_getD, List.getElem?_map, List.getElem?_range (by omega),
      Option.map_some, Option.getD_some, Nat.sub_add_cancel isMonth]
  rw [next, isLength]

theorem daysInMonth_pos (year : Int) (month : Nat) : 1 ≤ daysInMonth year month := by
  unfold daysInMonth
  split
  · split <;> omega
  all_goals omega

theorem inCalendar_next {date : Date} (isDate : date.InCalendar) : date.next.InCalendar := by
  have isLength := inCalendar_iff.mp isDate
  rw [next_eq isDate, inCalendar_iff]
  split
  · exact ⟨isLength.1, isLength.2.1, Nat.le_add_left .., by assumption⟩
  · split
    · exact ⟨Nat.le_add_left .., by assumption, Nat.le_refl 1, daysInMonth_pos ..⟩
    · exact ⟨Nat.le_refl 1, by simp, Nat.le_refl 1, daysInMonth_pos ..⟩

/-! ### Years -/

/-- Number of days of a year. -/
def yearLength (year : Int) : Nat := if isLeapYear year then 366 else 365

theorem daysBeforeYear_succ (year : Int) :
    daysBeforeYear (year + 1) = daysBeforeYear year + yearLength year := by
  simp only [daysBeforeYear, yearLength, isLeapYear_iff, LeapYear]
  split <;> omega

theorem daysBeforeMonth_succ (year : Int) {month : Nat} (isMonth : 1 ≤ month) :
    daysBeforeMonth year (month + 1) = daysBeforeMonth year month + daysInMonth year month := by
  obtain ⟨month, rfl⟩ := Nat.exists_eq_add_of_le' isMonth
  rfl

/-- The days before a thirteenth month are those of the year. -/
theorem daysBeforeMonth_thirteen (year : Int) : daysBeforeMonth year 13 = yearLength year := by
  simp only [daysBeforeMonth, daysInMonth, yearLength]
  split <;> rfl

theorem dayNumber_next {date : Date} (isDate : date.InCalendar) :
    date.next.dayNumber = date.dayNumber + 1 := by
  obtain ⟨isMonth, inYear, isDay, inMonth⟩ := inCalendar_iff.mp isDate
  rw [next_eq isDate]
  split
  case isTrue =>
    simp only [dayNumber]
    omega
  case isFalse isLastDay =>
    have isNext := daysBeforeMonth_succ date.year isMonth
    split
    case isTrue =>
      simp only [dayNumber]
      omega
    case isFalse isLastMonth =>
      have isLast : date.month = 12 := by omega
      have isFirst : daysBeforeMonth (date.year + 1) 1 = 0 := rfl
      rw [isLast] at isLastDay inMonth
      rw [isLast, daysBeforeMonth_thirteen] at isNext
      simp only [dayNumber, daysBeforeYear_succ, isFirst, isLast]
      omega

/-! ### The day of a number -/

theorem daysBeforeYear_mono {year other : Int} (h : year ≤ other) :
    daysBeforeYear year ≤ daysBeforeYear other := by
  simp only [daysBeforeYear]
  omega

/-- Four hundred years have 146097 days, so dividing by their average length misses by a year at most. -/
theorem guess_spec (number : Int) : daysBeforeYear (number * 400 / 146097) ≤ number ∧
    number < daysBeforeYear (number * 400 / 146097 + 3) := by
  simp only [daysBeforeYear]
  omega

theorem yearOf_spec (number : Int) : daysBeforeYear (yearOf number) ≤ number ∧
    number < daysBeforeYear (yearOf number + 1) := by
  obtain ⟨reached, before⟩ := guess_spec number
  rw [yearOf]
  split
  case isTrue isBefore =>
    rw [Int.add_sub_cancel]
    exact ⟨reached, isBefore⟩
  case isFalse isReached =>
    split
    case isTrue isBehind => exact ⟨isBehind, by simpa [Int.add_assoc] using before⟩
    case isFalse isBefore => exact ⟨Int.not_lt.mp isReached, Int.not_le.mp isBefore⟩

theorem yearOf_eq {year number : Int} (reached : daysBeforeYear year ≤ number)
    (before : number < daysBeforeYear (year + 1)) : yearOf number = year := by
  obtain ⟨isReached, isBefore⟩ := yearOf_spec number
  have notLess : ¬ yearOf number + 1 ≤ year := fun isLess => by
    have isMono := daysBeforeYear_mono isLess
    omega
  have notMore : ¬ year + 1 ≤ yearOf number := fun isMore => by
    have isMono := daysBeforeYear_mono isMore
    omega
  omega

theorem daysBeforeMonth_mono (year : Int) {month other : Nat} (isMonth : 1 ≤ month) (h : month ≤ other) :
    daysBeforeMonth year month ≤ daysBeforeMonth year other := by
  obtain ⟨count, rfl⟩ := Nat.exists_eq_add_of_le h
  induction count with
  | zero => exact Nat.le_refl _
  | succ count ih =>
    have isNext : daysBeforeMonth year (month + count + 1) =
        daysBeforeMonth year (month + count) + daysInMonth year (month + count) :=
      daysBeforeMonth_succ year (by omega)
    have isLess := ih (Nat.le_add_right ..)
    rw [← Nat.add_assoc]
    omega

/-- A month starts at or before a day of the year, and the next one starts after it. -/
structure Covers (year dayOfYear : Int) (month : Nat) : Prop where
  isMonth : 1 ≤ month
  reached : (daysBeforeMonth year month : Int) ≤ dayOfYear
  before : dayOfYear < daysBeforeMonth year (month + 1)

theorem Covers.unique {year dayOfYear : Int} {month other : Nat} (h : Covers year dayOfYear month)
    (isOther : Covers year dayOfYear other) : month = other := by
  obtain ⟨isMonth, reached, before⟩ := h
  obtain ⟨_, otherReached, otherBefore⟩ := isOther
  have notLess : ¬ month + 1 ≤ other := fun isLess => by
    have isMono := daysBeforeMonth_mono year (Nat.le_add_left ..) isLess
    omega
  have notMore : ¬ other + 1 ≤ month := fun isMore => by
    have isMono := daysBeforeMonth_mono year (Nat.le_add_left ..) isMore
    omega
  omega

theorem covers_monthOf {year dayOfYear : Int} (isDay : 0 ≤ dayOfYear) (last : Nat)
    (before : dayOfYear < daysBeforeMonth year (last + 2)) :
    Covers year dayOfYear (monthOf year dayOfYear (last + 1)) ∧
      monthOf year dayOfYear (last + 1) ≤ last + 1 := by
  induction last with
  | zero => exact ⟨⟨Nat.le_refl 1, isDay, before⟩, Nat.le_refl 1⟩
  | succ last ih =>
    rw [monthOf]
    split
    case isTrue isReached => exact ⟨⟨Nat.le_add_left .., isReached, before⟩, Nat.le_refl _⟩
    case isFalse notReached =>
      obtain ⟨covers, isLess⟩ := ih (Int.not_le.mp notReached)
      exact ⟨covers, Nat.le_succ_of_le isLess⟩

/-- A day exists if and only if its month covers it. -/
theorem inCalendar_iff_covers {date : Date} : date.InCalendar ↔ date.month ≤ 12 ∧ 1 ≤ date.day ∧
    Covers date.year (daysBeforeMonth date.year date.month + date.day - 1) date.month := by
  rw [inCalendar_iff]
  constructor
  · rintro ⟨isMonth, inYear, isDay, inMonth⟩
    have isNext := daysBeforeMonth_succ date.year isMonth
    exact ⟨inYear, isDay, isMonth, by omega, by omega⟩
  · rintro ⟨inYear, isDay, isMonth, -, before⟩
    have isNext := daysBeforeMonth_succ date.year isMonth
    exact ⟨isMonth, inYear, isDay, by omega⟩

theorem inCalendar_ofDayNumber (number : Int) :
    (ofDayNumber number).InCalendar ∧ (ofDayNumber number).dayNumber = number := by
  obtain ⟨reached, before⟩ := yearOf_spec number
  rw [daysBeforeYear_succ, ← daysBeforeMonth_thirteen] at before
  let dayOfYear := number - daysBeforeYear (yearOf number)
  have inYear : dayOfYear < daysBeforeMonth (yearOf number) 13 := by omega
  have covered : Covers (yearOf number) dayOfYear (ofDayNumber number).month ∧
      (ofDayNumber number).month ≤ 12 := covers_monthOf (Int.sub_nonneg_of_le reached) 11 inYear
  have isDay : (ofDayNumber number).day =
      (dayOfYear - daysBeforeMonth (yearOf number) (ofDayNumber number).month).toNat + 1 := rfl
  have isReached := covered.1.reached
  have isDayOfYear : (daysBeforeMonth (yearOf number) (ofDayNumber number).month +
      (ofDayNumber number).day - 1 : Int) = dayOfYear := by omega
  refine ⟨inCalendar_iff_covers.mpr ⟨covered.2, by omega, ?_⟩, ?_⟩
  · exact isDayOfYear ▸ covered.1
  · have isYear : (ofDayNumber number).year = yearOf number := rfl
    rw [dayNumber, isYear]
    omega

/-- Two days with the same number are the same. -/
theorem eq_of_dayNumber_eq {date other : Date} (isDate : date.InCalendar) (isOther : other.InCalendar)
    (same : date.dayNumber = other.dayNumber) : date = other := by
  have inYear {date : Date} (isDate : date.InCalendar) : yearOf date.dayNumber = date.year := by
    obtain ⟨inYear, isDay, covers⟩ := inCalendar_iff_covers.mp isDate
    have isMono :=
      daysBeforeMonth_mono date.year (Nat.le_add_left 1 date.month) (Nat.succ_le_succ inYear)
    rw [daysBeforeMonth_thirteen] at isMono
    have isReached := covers.reached
    have isBefore := covers.before
    apply yearOf_eq
    · rw [dayNumber]
      omega
    · rw [daysBeforeYear_succ, dayNumber]
      omega
  have sameYear : date.year = other.year := by rw [← inYear isDate, ← inYear isOther, same]
  obtain ⟨year, month, day⟩ := date
  obtain ⟨_, otherMonth, otherDay⟩ := other
  dsimp only at sameYear
  subst sameYear
  obtain ⟨-, isDay, covers⟩ := inCalendar_iff_covers.mp isDate
  obtain ⟨-, otherIsDay, otherCovers⟩ := inCalendar_iff_covers.mp isOther
  simp only [dayNumber] at same
  dsimp only at isDay otherIsDay covers otherCovers
  have sameDay : (daysBeforeMonth year month + day - 1 : Int) =
      daysBeforeMonth year otherMonth + otherDay - 1 := by omega
  obtain rfl := covers.unique (sameDay ▸ otherCovers)
  obtain rfl : day = otherDay := by omega
  rfl

/-! ### Counting days -/

/-- The number of days from one day to another, counted one by one; it is negative if the other is
earlier. -/
def DaysTo (date other : Date) (days : Int) : Prop :=
  ∃ count : Nat, days = count ∧ next^[count] date = other ∨ days = -count ∧ next^[count] other = date

theorem inCalendar_iterate_next {date : Date} (isDate : date.InCalendar) (count : Nat) :
    (next^[count] date).InCalendar ∧ (next^[count] date).dayNumber = date.dayNumber + count := by
  induction count with
  | zero => exact ⟨isDate, (Int.add_zero _).symm⟩
  | succ count ih =>
    rw [Function.iterate_succ_apply']
    refine ⟨inCalendar_next ih.1, ?_⟩
    rw [dayNumber_next ih.1, ih.2, Int.natCast_succ, Int.add_assoc]

theorem iterate_next_eq_iff {date other : Date} (isDate : date.InCalendar) (isOther : other.InCalendar)
    (count : Nat) : next^[count] date = other ↔ other.dayNumber = date.dayNumber + count := by
  obtain ⟨isReached, isNumber⟩ := inCalendar_iterate_next isDate count
  constructor
  · rintro rfl
    exact isNumber
  · intro same
    exact eq_of_dayNumber_eq isReached isOther (isNumber.trans same.symm)

theorem daysTo_iff {date other : Date} (isDate : date.InCalendar) (isOther : other.InCalendar)
    {days : Int} : date.DaysTo other days ↔ other.dayNumber - date.dayNumber = days := by
  simp only [DaysTo, iterate_next_eq_iff isDate isOther, iterate_next_eq_iff isOther isDate]
  constructor
  · rintro ⟨count, ⟨rfl, isLater⟩ | ⟨rfl, isEarlier⟩⟩ <;> omega
  · intro isDays
    exact ⟨days.natAbs, by omega⟩

/-- A moment that is a number of nanoseconds after the start of a day, as the day it is on and the
nanoseconds since the start of that day. -/
def Carried (date : Date) (nanoseconds : Int) (day : Date) (time : Nat) : Prop :=
  time < Instant.perDay ∧
    ∃ days : Int, date.DaysTo day days ∧ nanoseconds = days * Instant.perDay + time

end Date

/-- The day and time of an instant are those that counting days gives. -/
theorem Instant.carried {date : Date} (isDate : date.InCalendar) (nanoseconds : Int) {instant : Instant}
    (isInstant : instant.nanoseconds = date.dayNumber * perDay + nanoseconds) :
    instant.date.InCalendar ∧ date.Carried nanoseconds instant.date instant.sinceMidnight := by
  obtain ⟨isDay, isNumber⟩ := Date.inCalendar_ofDayNumber (instant.nanoseconds / perDay)
  refine ⟨isDay, ?_, instant.date.dayNumber - date.dayNumber, (Date.daysTo_iff isDate isDay).mpr rfl, ?_⟩
  · simp only [sinceMidnight, perDay, perSecond]
    omega
  · have isDate : instant.date.dayNumber = instant.nanoseconds / perDay := isNumber
    simp only [sinceMidnight, perDay, perSecond] at isInstant isDate ⊢
    omega

end ChartLint
