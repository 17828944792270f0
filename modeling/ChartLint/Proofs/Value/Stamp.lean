import ChartLint.Proofs.Calendar
import ChartLint.Proofs.Text.Part
import ChartLint.Proofs.Value.IsoDate
import ChartLint.Rule.Relation

/-!
Dates written in ASCII digits, and what they are read as. A date is read if its parts are in their
ranges, and as its local time less the offset of its zone; so dates compare as the moments they write.
-/
namespace ChartLint

namespace Text

/-- A number in a fixed number of decimal digits. -/
def numeral : (width n : Nat) → List Char
  | 0, _ => []
  | width + 1, n => numeral width (n / 10) ++ [(n % 10).digitChar]

@[simp] theorem length_numeral (width n : Nat) : (numeral width n).length = width := by
  induction width generalizing n with
  | zero => rfl
  | succ width ih => simp [numeral, ih]

theorem forall_mem_numeral {p : Char → Prop} (holds : ∀ digit < 10, p digit.digitChar) (width n : Nat) :
    ∀ c ∈ numeral width n, p c := by
  induction width generalizing n with
  | zero => exact List.forall_mem_nil p
  | succ width ih =>
    rw [numeral, List.forall_mem_append, List.forall_mem_singleton]
    exact ⟨ih (n / 10), holds (n % 10) (Nat.mod_lt n (by decide))⟩

theorem spelled_numeral {width n : Nat} (h : n < 10 ^ width) : spelled (numeral width n) = n := by
  have isValue : ∀ digit < 10, digitValue digit.digitChar = digit := by decide
  induction width generalizing n with
  | zero =>
    obtain rfl : n = 0 := by simpa using h
    rfl
  | succ width ih =>
    rw [Nat.pow_succ] at h
    rw [numeral, spelled, List.foldl_concat, ← spelled, ih (by omega),
      isValue _ (Nat.mod_lt n (by decide))]
    omega

theorem isAscii_numeral (width n : Nat) : isAscii (numeral width n) = true :=
  List.all_eq_true.mpr (forall_mem_numeral (by decide) width n)

theorem readable_numeral {width n : Nat} (h : n < 10 ^ width) : readable (numeral width n) = n := by
  rw [readable, if_pos (isAscii_numeral width n), spelled_numeral h]

theorem not_isBlank_numeral (width n : Nat) : ∀ c ∈ numeral width n, isBlank c = false :=
  forall_mem_numeral (by decide) width n

end Text

theorem Instant.ofClock_back_eq_iff {date : Date} {hour minute second nanosecond : Nat} {seconds : Int}
    {instant : Instant} : (ofClock date hour minute second nanosecond).back seconds = instant ↔
      instant.nanoseconds = date.dayNumber * perDay +
        ((((hour * 60 + minute) * 60 + second : Nat) - seconds) * perSecond + nanosecond) := by
  cases instant with
  | mk nanoseconds =>
    simp only [ofClock, back, Instant.mk.injEq, Int.sub_mul]
    omega

namespace Value

open Text (numeral)

theorem IsoDate.digits_numeral (width n : Nat) : IsoDate.Digits width (numeral width n) :=
  ⟨Text.length_numeral width n, Text.forall_mem_numeral (by decide) width n⟩

/-! ### Dates in numbers -/

inductive Zone where
  | utc (letter : Char) (isLetter : letter = 'z' ∨ letter = 'Z')
  | offset (sign : Char) (isSign : sign = '+' ∨ sign = '-') (hours : Fin (10 ^ 2)) (colon : Bool)
      (minutes : Fin (10 ^ 2))

/-- A fraction of a second in one to nine digits. -/
structure Fraction where
  count : Nat
  least : 1 ≤ count
  most : count ≤ 9
  value : Fin (10 ^ count)

structure Second where
  value : Fin (10 ^ 2)
  fraction : Option Fraction

/-- A time of day, after the mark that sets it off from the day. -/
structure Clock where
  mark : Char
  isMark : mark = ' ' ∨ mark = 'T' ∨ mark = 't'
  hour : Fin (10 ^ 2)
  minute : Fin (10 ^ 2)
  second : Option Second
  zone : Option Zone

structure Stamp where
  year : Fin (10 ^ 4)
  month : Fin (10 ^ 2)
  day : Fin (10 ^ 2)
  clock : Option Clock

namespace Zone

def text : Zone → List Char
  | utc letter _ => [letter]
  | offset sign _ hours colon minutes =>
    sign :: (numeral 2 hours ++ ((if colon then [':'] else []) ++ numeral 2 minutes))

def InRange : Zone → Prop
  | utc _ _ => True
  | offset _ _ hours _ minutes => hours.val < 24 ∧ minutes.val < 60

/-- Seconds that local time is ahead by. -/
def seconds : Zone → Int
  | utc _ _ => 0
  | offset sign _ hours _ minutes =>
    let seconds : Int := hours.val * 3600 + minutes.val * 60
    if sign = '-' then -seconds else seconds

end Zone

namespace Fraction

def text (fraction : Fraction) : List Char := numeral fraction.count fraction.value

def nanoseconds (fraction : Fraction) : Nat := fraction.value * 10 ^ (9 - fraction.count)

end Fraction

def Second.text (second : Second) : List Char :=
  ':' :: (numeral 2 second.value ++ (second.fraction.map fun fraction => '.' :: fraction.text).getD [])

namespace Clock

def text (clock : Clock) : List Char :=
  clock.mark :: (numeral 2 clock.hour ++ ':' :: (numeral 2 clock.minute ++
    ((clock.second.map Second.text).getD [] ++ (clock.zone.map Zone.text).getD [])))

/-- The seconds, which are zero if none are written. -/
def seconds (clock : Clock) : Nat := (clock.second.map fun second => second.value.val).getD 0

/-- The fraction of a second in nanoseconds, zero if none is written. -/
def nanoseconds (clock : Clock) : Nat :=
  ((clock.second.bind Second.fraction).map Fraction.nanoseconds).getD 0

/-- Seconds that local time is ahead by, zero without a zone. -/
def offset (clock : Clock) : Int := (clock.zone.map Zone.seconds).getD 0

def InRange (clock : Clock) : Prop :=
  clock.hour.val < 24 ∧ clock.minute.val < 60 ∧ clock.seconds < 60 ∧ ∀ zone ∈ clock.zone, zone.InRange

/-- Nanoseconds from the start of the written day to the moment: local time less the offset. -/
def sinceDay (clock : Clock) : Int :=
  (((clock.hour * 60 + clock.minute) * 60 + clock.seconds : Nat) - clock.offset) * Instant.perSecond +
    clock.nanoseconds

end Clock

namespace Stamp

def date (stamp : Stamp) : Date := ⟨stamp.year, stamp.month, stamp.day⟩

def text (stamp : Stamp) : List Char :=
  numeral 4 stamp.year ++ '-' :: (numeral 2 stamp.month ++ '-' :: (numeral 2 stamp.day ++
    (stamp.clock.map Clock.text).getD []))

/-- The day exists, and the parts of the time are in their ranges. -/
def InRange (stamp : Stamp) : Prop :=
  stamp.date.InCalendar ∧ ∀ clock ∈ stamp.clock, clock.InRange

/-- Nanoseconds from the start of the written day to the moment. -/
def sinceDay (stamp : Stamp) : Int := (stamp.clock.map Clock.sinceDay).getD 0

/-- A number of nanoseconds passes from the moment of a date to that of another. -/
def Elapses (stamp other : Stamp) (nanoseconds : Int) : Prop :=
  ∃ days, stamp.date.DaysTo other.date days ∧
    nanoseconds = days * Instant.perDay + other.sinceDay - stamp.sinceDay

/-- The parts of a date as they are written. -/
def parts (stamp : Stamp) : IsoDate where
  year := numeral 4 stamp.year
  month := numeral 2 stamp.month
  day := numeral 2 stamp.day
  hour := stamp.clock.map fun clock => numeral 2 clock.hour
  minute := stamp.clock.map fun clock => numeral 2 clock.minute
  second := (stamp.clock.bind Clock.second).map fun second => numeral 2 second.value
  fraction := ((stamp.clock.bind Clock.second).bind Second.fraction).map Fraction.text
  zone := (stamp.clock.bind Clock.zone).map Zone.text

end Stamp

/-! ### Texts of dates -/

open IsoDate (digits_numeral)

theorem Zone.colon_eq (colon : Bool) :
    (if colon then [':'] else []) = [] ∨ (if colon then [':'] else []) = [':'] := by
  cases colon <;> simp

theorem Zone.isZone_text (zone : Zone) : IsoDate.IsZone zone.text := by
  cases zone with
  | utc letter isLetter => exact .utc isLetter
  | offset sign isSign hours colon minutes =>
    exact .offset isSign (digits_numeral 2 hours) (colon_eq colon) (digits_numeral 2 minutes)

theorem Clock.seconds_text (clock : Clock) :
    IsoDate.Seconds (clock.second.map fun second => numeral 2 second.value)
      ((clock.second.bind Second.fraction).map Fraction.text)
      ((clock.second.map Second.text).getD []) := by
  obtain ⟨mark, isMark, hour, minute, _ | ⟨second, _ | fraction⟩, zone⟩ := clock
  · exact .absent
  · simpa [Second.text] using IsoDate.Seconds.whole (digits_numeral 2 second)
  · exact .fraction (digits_numeral 2 second) (digits_numeral fraction.count fraction.value)
      fraction.least fraction.most

theorem Clock.zoned_text (clock : Clock) :
    IsoDate.Zoned (clock.zone.map Zone.text) ((clock.zone.map Zone.text).getD []) := by
  cases clock.zone with
  | none => exact .absent
  | some zone => exact .written zone.isZone_text

theorem Stamp.written_text (stamp : Stamp) : stamp.parts.Written stamp.text := by
  obtain ⟨year, month, day, _ | clock⟩ := stamp
  · simpa [text, parts] using
      IsoDate.Written.day (digits_numeral 4 year) (digits_numeral 2 month) (digits_numeral 2 day)
  · exact .time (digits_numeral 4 year) (digits_numeral 2 month) (digits_numeral 2 day) clock.isMark
      (digits_numeral 2 clock.hour) (digits_numeral 2 clock.minute) clock.seconds_text clock.zoned_text

/-- What holds of all digits and of the marks of zones holds of all characters of a zone. -/
theorem Zone.forall_mem_text {p : Char → Prop} (digits : ∀ digit < 10, p digit.digitChar)
    (marks : p 'z' ∧ p 'Z' ∧ p '+' ∧ p '-' ∧ p ':') (zone : Zone) : ∀ c ∈ zone.text, p c := by
  obtain ⟨small, large, plus, minus, isColon⟩ := marks
  cases zone with
  | utc letter isLetter =>
    rw [text, List.forall_mem_singleton]
    rcases isLetter with rfl | rfl
    · exact small
    · exact large
  | offset sign isSign hours colon minutes =>
    rw [text, List.forall_mem_cons, List.forall_mem_append, List.forall_mem_append]
    refine ⟨?_, Text.forall_mem_numeral digits 2 hours, ?_, Text.forall_mem_numeral digits 2 minutes⟩
    · rcases isSign with rfl | rfl
      · exact plus
      · exact minus
    · cases colon with
      | false => exact List.forall_mem_nil p
      | true => exact List.forall_mem_singleton.mpr isColon

theorem Second.not_isBlank_text (second : Second) : ∀ c ∈ second.text, Text.isBlank c = false := by
  obtain ⟨value, fraction⟩ := second
  rw [text, List.forall_mem_cons, List.forall_mem_append]
  refine ⟨by decide, Text.not_isBlank_numeral 2 value, ?_⟩
  cases fraction with
  | none => exact List.forall_mem_nil _
  | some fraction =>
    exact List.forall_mem_cons.mpr ⟨by decide, Text.not_isBlank_numeral fraction.count fraction.value⟩

/-- Only the mark of a time may be a blank. -/
theorem Clock.not_isBlank_text (clock : Clock) : ∀ c ∈ clock.text.tail, Text.isBlank c = false := by
  obtain ⟨mark, isMark, hour, minute, second, zone⟩ := clock
  simp only [text, List.tail_cons, List.forall_mem_append, List.forall_mem_cons]
  refine ⟨Text.not_isBlank_numeral 2 hour, by decide, Text.not_isBlank_numeral 2 minute, ?_, ?_⟩
  · cases second with
    | none => exact List.forall_mem_nil _
    | some second => exact second.not_isBlank_text
  · cases zone with
    | none => exact List.forall_mem_nil _
    | some zone => exact zone.forall_mem_text (by decide) (by decide)

theorem Stamp.trim_text (stamp : Stamp) : Text.trim stamp.text = stamp.text := by
  have notBlank := Text.not_isBlank_numeral 4 stamp.year
  obtain ⟨c, rest, isYear⟩ : ∃ c rest, numeral 4 stamp.year = c :: rest :=
    List.exists_cons_of_length_eq_add_one (Text.length_numeral 4 stamp.year)
  have starts : Text.isBlank c = false := notBlank c (isYear ▸ List.mem_cons_self)
  -- A time is cut behind its mark, where a space would be a blank.
  let front := rest ++ '-' :: (numeral 2 stamp.month ++ ['-'])
  cases isClock : stamp.clock with
  | none =>
    have isText : stamp.text = c :: front ++ numeral 2 stamp.day := by
      simp [text, isClock, isYear, front]
    rw [isText]
    exact Text.trim_append starts (List.ne_nil_of_length_eq_add_one (Text.length_numeral 2 stamp.day))
      (Text.not_isBlank_numeral 2 stamp.day)
  | some clock =>
    have isText :
        stamp.text = c :: (front ++ numeral 2 stamp.day ++ [clock.mark]) ++ clock.text.tail := by
      simp [text, isClock, isYear, front, Clock.text]
    rw [isText]
    refine Text.trim_append starts ?_ clock.not_isBlank_text
    simp [Clock.text]

/-! ### What is read -/

theorem Zone.zoneOffset?_text (zone : Zone) {seconds : Int} :
    IsoDate.zoneOffset? zone.text = some seconds ↔ zone.InRange ∧ zone.seconds = seconds := by
  cases zone with
  | utc letter isLetter => simp [text, IsoDate.zoneOffset?, InRange, Zone.seconds]
  | offset sign isSign hours colon minutes =>
    rw [text,
      IsoDate.zoneOffset?_offset (digits_numeral 2 hours) (colon_eq colon) (digits_numeral 2 minutes),
      Text.spelled_numeral hours.isLt, Text.spelled_numeral minutes.isLt, Option.ite_none_right_eq_some,
      Option.some.injEq]
    simp [InRange, Zone.seconds]

theorem Stamp.isAscii_calendarText (stamp : Stamp) : Text.isAscii stamp.parts.calendarText = true := by
  have append {cs ds : List Char} (h : Text.isAscii cs = true) (h' : Text.isAscii ds = true) :
      Text.isAscii (cs ++ ds) = true := by
    rw [Text.isAscii, List.all_append, Bool.and_eq_true]
    exact ⟨h, h'⟩
  refine append (append (append (append ?_ ?_) ?_) ?_) ?_
  · exact Text.isAscii_numeral 4 stamp.year
  · exact Text.isAscii_numeral 2 stamp.month
  · exact Text.isAscii_numeral 2 stamp.day
  · rw [parts]
    cases (stamp.clock.bind Clock.second).bind Second.fraction with
    | none => rfl
    | some fraction => exact Text.isAscii_numeral fraction.count fraction.value
  · rw [parts]
    cases stamp.clock.bind Clock.zone with
    | none => rfl
    | some zone => exact List.all_eq_true.mpr (zone.forall_mem_text (by decide) (by decide))

namespace Clock

theorem readable_seconds (clock : Clock) :
    ((clock.second.map fun second => numeral 2 second.value).map Text.readable).getD 0 =
      clock.seconds := by
  rw [seconds]
  cases clock.second with
  | none => rfl
  | some second => exact Text.readable_numeral second.value.isLt

theorem spelled_nanoseconds (clock : Clock) :
    (((clock.second.bind Second.fraction).map Fraction.text).map fun digits =>
      Text.spelled digits * 10 ^ (9 - digits.length)).getD 0 = clock.nanoseconds := by
  rw [nanoseconds]
  cases clock.second.bind Second.fraction with
  | none => rfl
  | some fraction =>
    simp only [Option.map_some, Option.getD_some, Fraction.text, Fraction.nanoseconds,
      Text.length_numeral, Text.spelled_numeral fraction.value.isLt]

theorem zoneOffset?_eq_some_iff (clock : Clock) {seconds : Int} :
    ((clock.zone.map Zone.text).map IsoDate.zoneOffset?).getD (some 0) = some seconds ↔
      (∀ zone ∈ clock.zone, zone.InRange) ∧ clock.offset = seconds := by
  rw [offset]
  cases clock.zone with
  | none => simp
  | some zone => simpa using zone.zoneOffset?_text

end Clock

namespace Stamp

/-- The instant that the parts of a date spell. -/
theorem spelled?_parts_eq_some_iff (stamp : Stamp) {instant : Instant} :
    stamp.parts.spelled? Text.readable = some instant ↔
      stamp.InRange ∧ instant.nanoseconds = stamp.date.dayNumber * Instant.perDay + stamp.sinceDay := by
  have isDate : (⟨Text.spelled stamp.parts.year, Text.spelled stamp.parts.month,
      Text.spelled stamp.parts.day⟩ : Date) = stamp.date := by
    simp only [parts, date, Text.spelled_numeral stamp.year.isLt, Text.spelled_numeral stamp.month.isLt,
      Text.spelled_numeral stamp.day.isLt]
  rw [IsoDate.spelled?, isDate, Option.ite_none_right_eq_some, Date.isValid_iff, InRange, sinceDay, parts]
  cases stamp.clock with
  | none => simp [Instant.ofClock_back_eq_iff]
  | some clock =>
    simp only [Option.map_some, Option.getD_some, Option.bind_some, clock.readable_seconds,
      clock.spelled_nanoseconds, Option.map_eq_some_iff, clock.zoneOffset?_eq_some_iff,
      Text.readable_numeral clock.hour.isLt, Text.readable_numeral clock.minute.isLt,
      Instant.ofClock_back_eq_iff, Option.mem_some_iff, forall_eq', Clock.InRange, Clock.sinceDay]
    constructor
    · rintro ⟨⟨isDay, isTime⟩, _, ⟨isZone, rfl⟩, isInstant⟩
      exact ⟨⟨isDay, isTime.1, isTime.2.1, isTime.2.2, isZone⟩, isInstant⟩
    · rintro ⟨⟨isDay, isHour, isMinute, isSecond, isZone⟩, isInstant⟩
      exact ⟨⟨isDay, isHour, isMinute, isSecond⟩, clock.offset, ⟨isZone, rfl⟩, isInstant⟩

/-- A date is read if its parts are in their ranges, as the time behind the start of its day. -/
theorem instant?_text_eq_some_iff (stamp : Stamp) {instant : Instant} :
    instant? (String.ofList stamp.text) = some instant ↔
      stamp.InRange ∧ instant.nanoseconds = stamp.date.dayNumber * Instant.perDay + stamp.sinceDay := by
  rw [instant?, String.toList_ofList, stamp.trim_text,
    IsoDate.ofText?_eq_some_iff.mpr stamp.written_text, Option.bind_some,
    stamp.written_text.shaped.instant?_eq_some_iff, stamp.spelled?_parts_eq_some_iff]
  exact and_iff_right stamp.isAscii_calendarText

theorem elapses_iff {stamp other : Stamp} {instant otherInstant : Instant}
    (isRead : instant? (String.ofList stamp.text) = some instant)
    (isOther : instant? (String.ofList other.text) = some otherInstant) {nanoseconds : Int} :
    stamp.Elapses other nanoseconds ↔ otherInstant.nanoseconds - instant.nanoseconds = nanoseconds := by
  obtain ⟨inRange, isInstant⟩ := stamp.instant?_text_eq_some_iff.mp isRead
  obtain ⟨otherInRange, isOtherInstant⟩ := other.instant?_text_eq_some_iff.mp isOther
  simp only [Elapses, Date.daysTo_iff inRange.1 otherInRange.1, exists_eq_left', isInstant,
    isOtherInstant, Int.sub_mul]
  omega

theorem exists_elapses_iff {stamp other : Stamp} {instant otherInstant : Instant}
    (isRead : instant? (String.ofList stamp.text) = some instant)
    (isOther : instant? (String.ofList other.text) = some otherInstant) :
    (∃ nanoseconds > 0, stamp.Elapses other nanoseconds) ↔ instant < otherInstant := by
  simp only [elapses_iff isRead isOther, exists_eq_right']
  exact Int.sub_pos

end Stamp

/-- Which dates are read, as which day and time, and that they compare as the moments they write. -/
theorem instant?_stamps (stamp other : Stamp) :
    ((instant? (String.ofList stamp.text)).isSome = true ↔ stamp.InRange) ∧
    ∀ instant, instant? (String.ofList stamp.text) = some instant →
      instant.date.InCalendar ∧
      stamp.date.Carried stamp.sinceDay instant.date instant.sinceMidnight ∧
      ∀ otherInstant, instant? (String.ofList other.text) = some otherInstant →
        (instant = otherInstant ↔ stamp.Elapses other 0) ∧
        (Rule.Order.less.holds instant otherInstant = true ↔
          ∃ nanoseconds > 0, stamp.Elapses other nanoseconds) ∧
        (Rule.Order.greater.holds instant otherInstant = true ↔
          ∃ nanoseconds > 0, other.Elapses stamp nanoseconds) := by
  refine ⟨?_, fun instant isRead => ?_⟩
  · rw [Option.isSome_iff_exists]
    constructor
    · rintro ⟨instant, isRead⟩
      exact (stamp.instant?_text_eq_some_iff.mp isRead).1
    · intro inRange
      exact ⟨⟨_⟩, stamp.instant?_text_eq_some_iff.mpr ⟨inRange, rfl⟩⟩
  · obtain ⟨inRange, isInstant⟩ := stamp.instant?_text_eq_some_iff.mp isRead
    obtain ⟨isDate, isCarried⟩ := Instant.carried inRange.1 stamp.sinceDay isInstant
    refine ⟨isDate, isCarried, fun otherInstant isOther => ⟨?_, ?_, ?_⟩⟩
    · rw [Stamp.elapses_iff isRead isOther, Int.sub_eq_zero, eq_comm]
      cases instant
      cases otherInstant
      rw [Instant.mk.injEq]
    · rw [Stamp.exists_elapses_iff isRead isOther, Rule.Order.holds, decide_eq_true_eq]
    · rw [Stamp.exists_elapses_iff isOther isRead, Rule.Order.holds, decide_eq_true_eq]

/-- Half an hour into March, an hour ahead. -/
def firstOfMarch : Stamp where
  year := ⟨2020, by decide⟩
  month := ⟨3, by decide⟩
  day := ⟨1, by decide⟩
  clock := some {
    mark := ' '
    isMark := .inl rfl
    hour := ⟨0, by decide⟩
    minute := ⟨30, by decide⟩
    second := some ⟨⟨0, by decide⟩, some ⟨2, by decide, by decide, ⟨25, by decide⟩⟩⟩
    zone := some (.offset '+' (.inl rfl) ⟨1, by decide⟩ true ⟨0, by decide⟩) }

/-- The same moment, on the last day of February. -/
def leapDay : Stamp where
  year := ⟨2020, by decide⟩
  month := ⟨2, by decide⟩
  day := ⟨29, by decide⟩
  clock := some {
    mark := 'T'
    isMark := .inr (.inl rfl)
    hour := ⟨23, by decide⟩
    minute := ⟨30, by decide⟩
    second := some ⟨⟨0, by decide⟩, some ⟨3, by decide, by decide, ⟨250, by decide⟩⟩⟩
    zone := some (.utc 'z' (.inl rfl)) }

theorem instant?_stamps_leapDay :
    String.ofList firstOfMarch.text = "2020-03-01 00:30:00.25+01:00" ∧
    String.ofList leapDay.text = "2020-02-29T23:30:00.250z" ∧
    instant? (String.ofList firstOfMarch.text) = some (.ofClock ⟨2020, 2, 29⟩ 23 30 0 250000000) ∧
    instant? (String.ofList leapDay.text) = some (.ofClock ⟨2020, 2, 29⟩ 23 30 0 250000000) ∧
    firstOfMarch.InRange ∧ firstOfMarch.Elapses leapDay 0 ∧
    firstOfMarch.date.Carried firstOfMarch.sinceDay leapDay.date (84600 * 10 ^ 9 + 250000000) := by
  have isFirst : instant? (String.ofList firstOfMarch.text) =
      some (.ofClock ⟨2020, 2, 29⟩ 23 30 0 250000000) := by
    decide +kernel
  have isLeap : instant? (String.ofList leapDay.text) =
      some (.ofClock ⟨2020, 2, 29⟩ 23 30 0 250000000) := by
    decide +kernel
  obtain ⟨inRange, isRead⟩ := instant?_stamps firstOfMarch leapDay
  obtain ⟨-, isCarried, compares⟩ := isRead _ isFirst
  have isDate : (Instant.ofClock ⟨2020, 2, 29⟩ 23 30 0 250000000).date = leapDay.date := by
    decide +kernel
  rw [isDate] at isCarried
  exact ⟨by decide, by decide, isFirst, isLeap, inRange.mp (Option.isSome_of_eq_some isFirst),
    (compares _ isLeap).1.mp rfl, isCarried⟩

end Value

end ChartLint
