import ChartLint.Value.IsoDate
import Mathlib.Algebra.Group.Nat.Defs
import Mathlib.Data.List.Basic
import Mathlib.Data.List.TakeWhile

/-!
ISO dates as they are written and as they are read. The digits of every script stand for numbers, so a
written date spells an instant; the instant that is read is that one unless an hour, a minute or a
second has digits beyond ASCII, which count as zero.
-/
namespace ChartLint

namespace Text

/-- The number that a decimal digit stands for, in any script. -/
def digitValue (c : Char) : Nat :=
  if c.isDigit then c.toNat - '0'.toNat
  else ((digitZeros.find? fun first => first ≤ c.toNat && c.toNat < first + 10).map (c.toNat - ·)).getD 0

/-- The number that decimal digits spell, in any script. -/
def spelled (cs : List Char) : Nat := cs.foldl (fun value c => 10 * value + digitValue c) 0

def isAscii (cs : List Char) : Bool := cs.all fun c => c.toNat < 128

/-- The number that digits spell if they are those of ASCII; others count as zero. -/
def readable (cs : List Char) : Nat := if isAscii cs then spelled cs else 0

/-- Among the digits of all scripts, those of ASCII are the ones that are read. -/
theorem isDigit_iff_ascii {c : Char} (h : isDigit c = true) : c.isDigit = true ↔ c.toNat < 128 := by
  have ascii : c.isDigit = true ↔ 48 ≤ c.toNat ∧ c.toNat ≤ 57 := by
    simp only [Char.isDigit, Bool.and_eq_true, decide_eq_true_eq, ge_iff_le, UInt32.le_iff_toNat_le]
    rfl
  have beyond : digitZeros.all (128 ≤ ·) = true := by decide
  rw [isDigit, Bool.or_eq_true, List.any_eq_true, ascii] at h
  rw [ascii]
  obtain h | ⟨first, member, h⟩ := h
  · omega
  · have isBeyond : 128 ≤ first := by simpa using List.all_eq_true.mp beyond first member
    simp only [Bool.and_eq_true, decide_eq_true_eq] at h
    omega

theorem digitsValue_eq_spelled {cs : List Char} (h : ∀ c ∈ cs, c.isDigit = true) :
    digitsValue cs = spelled cs := by
  rw [digitsValue, spelled]
  apply List.foldl_ext
  intro value c member
  simp [digitValue, h c member]

theorem natural?_eq_some_iff {cs : List Char} (areDigits : ∀ c ∈ cs, isDigit c = true)
    (nonempty : cs ≠ []) {n : Nat} : natural? cs = some n ↔ isAscii cs = true ∧ spelled cs = n := by
  have same : cs.all Char.isDigit = true ↔ isAscii cs = true := by
    simp only [isAscii, List.all_eq_true, decide_eq_true_eq]
    exact forall₂_congr fun c member => isDigit_iff_ascii (areDigits c member)
  have notEmpty : ¬ cs.isEmpty = true := by simpa using nonempty
  rw [natural?, if_neg notEmpty, Option.ite_none_right_eq_some, ← same, Option.some.injEq]
  refine and_congr_right fun isAscii => ?_
  rw [digitsValue_eq_spelled (List.all_eq_true.mp isAscii)]

theorem spelled_append_zeros (cs : List Char) (count : Nat) :
    spelled (cs ++ List.replicate count '0') = spelled cs * 10 ^ count := by
  induction count with
  | zero => simp
  | succ count ih =>
    have isZero : digitValue '0' = 0 := by decide
    rw [List.replicate_succ', ← List.append_assoc, spelled, List.foldl_concat, ← spelled, ih, isZero,
      Nat.pow_succ, Nat.add_zero]
    ac_rfl

end Text

namespace Value

namespace IsoDate

/-- A number of decimal digits, of any script. -/
def Digits (count : Nat) (cs : List Char) : Prop := cs.length = count ∧ ∀ c ∈ cs, Text.isDigit c = true

/-- The texts of zones: a letter, or a sign and two digits each for hours and minutes, possibly with a
colon between. -/
inductive IsZone : List Char → Prop
  | utc {letter : Char} (isLetter : letter = 'z' ∨ letter = 'Z') : IsZone [letter]
  | offset {sign : Char} {hours colon minutes : List Char} (isSign : sign = '+' ∨ sign = '-')
      (isHours : Digits 2 hours) (isColon : colon = [] ∨ colon = [':']) (isMinutes : Digits 2 minutes) :
      IsZone (sign :: (hours ++ (colon ++ minutes)))

/-- The text of a zone, which may be absent. -/
inductive Zoned : Option (List Char) → List Char → Prop
  | absent : Zoned none []
  | written {zone : List Char} (isZone : IsZone zone) : Zoned (some zone) zone

/-- The text of seconds and of a fraction of at most nine digits, which both may be absent. -/
inductive Seconds : Option (List Char) → Option (List Char) → List Char → Prop
  | absent : Seconds none none []
  | whole {second : List Char} (isSecond : Digits 2 second) : Seconds (some second) none (':' :: second)
  | fraction {second fraction : List Char} {count : Nat} (isSecond : Digits 2 second)
      (isFraction : Digits count fraction) (least : 1 ≤ count) (most : count ≤ 9) :
      Seconds (some second) (some fraction) (':' :: (second ++ '.' :: fraction))

/-- The texts of dates, without or with a time of day. -/
inductive Written : IsoDate → List Char → Prop
  | day {year month day : List Char} (isYear : Digits 4 year) (isMonth : Digits 2 month)
      (isDay : Digits 2 day) : Written { year, month, day } (year ++ '-' :: (month ++ '-' :: day))
  | time {year month day hour minute seconds ending : List Char} {mark : Char}
      {second fraction zone : Option (List Char)} (isYear : Digits 4 year) (isMonth : Digits 2 month)
      (isDay : Digits 2 day) (isMark : mark = ' ' ∨ mark = 'T' ∨ mark = 't') (isHour : Digits 2 hour)
      (isMinute : Digits 2 minute) (isSeconds : Seconds second fraction seconds)
      (zoned : Zoned zone ending) :
      Written
        { year, month, day, hour := some hour, minute := some minute, second, fraction, zone }
        (year ++ '-' :: (month ++ '-' :: (day ++
          mark :: (hour ++ ':' :: (minute ++ (seconds ++ ending))))))

/-! ### Reading the parts of a date -/

theorem digits?_eq_some_iff {count : Nat} {text digits rest : List Char} :
    digits? count text = some (digits, rest) ↔ Digits count digits ∧ text = digits ++ rest := by
  unfold digits?
  dsimp only
  rw [Option.ite_none_right_eq_some, Option.some.injEq, Prod.mk.injEq, List.all_eq_true]
  constructor
  · rintro ⟨areDigits, rfl, rfl⟩
    exact ⟨areDigits, (List.take_append_drop count text).symm⟩
  · rintro ⟨areDigits, rfl⟩
    obtain rfl := areDigits.1
    simpa using areDigits.2

theorem after?_eq_some_iff {c : Char} {text rest : List Char} :
    after? c text = some rest ↔ text = c :: rest := by
  cases text with
  | nil => simp [after?]
  | cons d text => simp [after?]

theorem digits_two_iff {cs : List Char} :
    Digits 2 cs ↔ ∃ a b, cs = [a, b] ∧ Text.isDigit a = true ∧ Text.isDigit b = true := by
  constructor
  · rintro ⟨isLength, areDigits⟩
    obtain ⟨a, b, rfl⟩ := List.length_eq_two.mp isLength
    exact ⟨a, b, rfl, areDigits a (by simp), areDigits b (by simp)⟩
  · rintro ⟨a, b, rfl, isDigit, isNext⟩
    exact ⟨rfl, by simp [isDigit, isNext]⟩

theorem isZone_iff {text : List Char} : isZone text = true ↔ IsZone text := by
  constructor
  · intro h
    have offset {sign a b c d : Char} {colon : List Char} (isColon : colon = [] ∨ colon = [':'])
        (h : ((sign == '+' || sign == '-') && [a, b, c, d].all Text.isDigit) = true) :
        IsZone (sign :: ([a, b] ++ (colon ++ [c, d]))) := by
      simp only [Bool.and_eq_true, Bool.or_eq_true, beq_iff_eq, List.all_cons, List.all_nil] at h
      obtain ⟨isSign, isA, isB, isC, isD, -⟩ := h
      exact .offset isSign (digits_two_iff.mpr ⟨a, b, rfl, isA, isB⟩) isColon
        (digits_two_iff.mpr ⟨c, d, rfl, isC, isD⟩)
    unfold isZone at h
    split at h
    · exact .utc (.inl rfl)
    · exact .utc (.inr rfl)
    · exact offset (.inr rfl) h
    · exact offset (.inl rfl) h
    · cases h
  · intro h
    cases h with
    | utc isLetter => rcases isLetter with rfl | rfl <;> rfl
    | offset isSign isHours isColon isMinutes =>
      obtain ⟨a, b, rfl, isA, isB⟩ := digits_two_iff.mp isHours
      obtain ⟨c, d, rfl, isC, isD⟩ := digits_two_iff.mp isMinutes
      rcases isSign with rfl | rfl <;> rcases isColon with rfl | rfl <;>
        simp [isZone, isA, isB, isC, isD]

/-- A zone starts with a letter or a sign. -/
theorem Zoned.head {zone : Option (List Char)} {ending : List Char} (zoned : Zoned zone ending) :
    ending = [] ∨ ∃ c rest, ending = c :: rest ∧ c ∈ ['z', 'Z', '+', '-'] := by
  cases zoned with
  | absent => exact .inl rfl
  | written isZone =>
    cases isZone with
    | utc isLetter => exact .inr ⟨_, _, rfl, by rcases isLetter with rfl | rfl <;> decide⟩
    | offset isSign => exact .inr ⟨_, _, rfl, by rcases isSign with rfl | rfl <;> decide⟩

theorem Zoned.head_ne {zone : Option (List Char)} {ending rest : List Char} {c : Char}
    (zoned : Zoned zone ending) (other : c ∉ ['z', 'Z', '+', '-']) : ending ≠ c :: rest := by
  rintro rfl
  obtain h | ⟨d, rest, h, member⟩ := zoned.head
  · cases h
  · obtain ⟨rfl, -⟩ := List.cons.inj h
    exact other member

/-- The digits before a zone are all those that stand there. -/
theorem Zoned.takeWhile {zone : Option (List Char)} {digits ending : List Char}
    (zoned : Zoned zone ending) (areDigits : ∀ c ∈ digits, Text.isDigit c = true) :
    (digits ++ ending).takeWhile Text.isDigit = digits ∧
      (digits ++ ending).dropWhile Text.isDigit = ending := by
  rw [List.takeWhile_append_of_pos areDigits, List.dropWhile_append_of_pos areDigits]
  obtain rfl | ⟨c, rest, rfl, member⟩ := zoned.head
  · simp
  · have other : Text.isDigit c = false := by
      have none : ['z', 'Z', '+', '-'].all (fun c => !Text.isDigit c) = true := by decide
      simpa using List.all_eq_true.mp none c member
    simp [other]

section

variable {base date : IsoDate} {text : List Char}

theorem readZone?_eq_some_iff (unset : base.zone = none) :
    readZone? base text = some date ↔ ∃ zone, Zoned zone text ∧ { base with zone } = date := by
  constructor
  · intro h
    unfold readZone? at h
    split at h
    case isTrue isEmpty =>
      obtain rfl := List.isEmpty_iff.mp isEmpty
      obtain rfl := Option.some.inj h
      exact ⟨none, .absent, by rw [← unset]⟩
    case isFalse =>
      obtain ⟨isZone, h⟩ := Option.ite_none_right_eq_some.mp h
      exact ⟨some text, .written (isZone_iff.mp isZone), Option.some.inj h⟩
  · rintro ⟨zone, zoned, rfl⟩
    cases zoned with
    | absent => exact congrArg some (by rw [← unset])
    | written isZone =>
      have nonempty : text ≠ [] := by
        rintro rfl
        cases isZone
      simp [readZone?, isZone_iff.mpr isZone, nonempty]

theorem readFraction?_eq_some_iff (unset : base.zone = none) :
    readFraction? base text = some date ↔
      (∃ zone, Zoned zone text ∧ { base with zone } = date) ∨
      ∃ digits ending zone, Digits digits.length digits ∧ 1 ≤ digits.length ∧ digits.length ≤ 9 ∧
        Zoned zone ending ∧ text = '.' :: (digits ++ ending) ∧
        { base with fraction := some digits, zone } = date := by
  constructor
  · intro h
    unfold readFraction? at h
    split at h
    case h_1 rest =>
      dsimp only at h
      obtain ⟨inBounds, h⟩ := Option.ite_none_left_eq_some.mp h
      obtain ⟨zone, zoned, isDate⟩ := (readZone?_eq_some_iff (by exact unset)).mp h
      simp only [Bool.or_eq_true, List.isEmpty_iff, decide_eq_true_eq, not_or, not_lt] at inBounds
      refine .inr ⟨rest.takeWhile Text.isDigit, _, zone, ⟨rfl, fun c => List.mem_takeWhile_imp⟩,
        List.length_pos_iff.mpr inBounds.1, inBounds.2, zoned, ?_, isDate⟩
      rw [List.takeWhile_append_dropWhile]
    case h_2 => exact .inl ((readZone?_eq_some_iff unset).mp h)
  · rintro (⟨zone, zoned, rfl⟩ | ⟨digits, ending, zone, areDigits, least, most, zoned, rfl, rfl⟩)
    · have other (rest : List Char) : text ≠ '.' :: rest := zoned.head_ne (by decide)
      rw [readFraction?]
      · exact (readZone?_eq_some_iff unset).mpr ⟨zone, zoned, rfl⟩
      · exact other
    · obtain ⟨isTaken, isLeft⟩ := zoned.takeWhile areDigits.2
      have inBounds : (digits.isEmpty || decide (9 < digits.length)) = false := by
        simp [List.isEmpty_eq_false_iff, List.length_pos_iff.mp least, most]
      simp only [readFraction?, isTaken, isLeft, inBounds, Bool.false_eq_true, if_false]
      exact (readZone?_eq_some_iff (by exact unset)).mpr ⟨zone, zoned, rfl⟩

theorem readSecond?_eq_some_iff (noSecond : base.second = none) (noFraction : base.fraction = none)
    (noZone : base.zone = none) :
    readSecond? base text = some date ↔
      ∃ second fraction zone seconds ending, Seconds second fraction seconds ∧ Zoned zone ending ∧
        text = seconds ++ ending ∧ { base with second, fraction, zone } = date := by
  constructor
  · intro h
    unfold readSecond? at h
    split at h
    case h_1 rest =>
      obtain ⟨⟨second, rest⟩, isRead, isRest⟩ := Option.bind_eq_some_iff.mp h
      obtain ⟨isSecond, rfl⟩ := digits?_eq_some_iff.mp isRead
      obtain ⟨zone, zoned, isDate⟩ | ⟨digits, ending, zone, areDigits, least, most, zoned, rfl, isDate⟩ :=
        (readFraction?_eq_some_iff (by exact noZone)).mp isRest
      · exact ⟨some second, none, zone, _, rest, .whole isSecond, zoned, rfl,
          by rw [← isDate, noFraction]⟩
      · exact ⟨some second, some digits, zone, _, ending, .fraction isSecond areDigits least most, zoned,
          by simp, isDate⟩
    case h_2 =>
      obtain ⟨zone, zoned, isDate⟩ := (readZone?_eq_some_iff noZone).mp h
      exact ⟨none, none, zone, [], text, .absent, zoned, rfl, by rw [← isDate, noSecond, noFraction]⟩
  · rintro ⟨second, fraction, zone, seconds, ending, isSeconds, zoned, rfl, rfl⟩
    cases isSeconds with
    | absent =>
      rw [List.nil_append, readSecond?]
      · exact (readZone?_eq_some_iff noZone).mpr ⟨zone, zoned, by rw [noSecond, noFraction]⟩
      · exact fun rest => zoned.head_ne (by decide)
    | @whole second isSecond =>
      apply Option.bind_eq_some_iff.mpr
      refine ⟨(second, ending), digits?_eq_some_iff.mpr ⟨isSecond, rfl⟩, ?_⟩
      apply (readFraction?_eq_some_iff (by exact noZone)).mpr
      exact .inl ⟨zone, zoned, by rw [noFraction]⟩
    | @fraction second fraction count isSecond isFraction least most =>
      apply Option.bind_eq_some_iff.mpr
      refine ⟨(second, '.' :: (fraction ++ ending)), digits?_eq_some_iff.mpr ⟨isSecond, by simp⟩, ?_⟩
      apply (readFraction?_eq_some_iff (by exact noZone)).mpr
      obtain rfl := isFraction.1
      exact .inr ⟨fraction, ending, zone, isFraction, least, most, zoned, rfl, rfl⟩

theorem readTime?_eq_some_iff {year month day : List Char} :
    readTime? { year, month, day } text = some date ↔
      (text = [] ∧ { year, month, day } = date) ∨
      ∃ mark hour minute second fraction zone seconds ending,
        (mark = ' ' ∨ mark = 'T' ∨ mark = 't') ∧ Digits 2 hour ∧ Digits 2 minute ∧
        Seconds second fraction seconds ∧ Zoned zone ending ∧
        text = mark :: (hour ++ ':' :: (minute ++ (seconds ++ ending))) ∧
        { year, month, day, hour := some hour, minute := some minute, second, fraction, zone } = date := by
  cases text with
  | nil => simp [readTime?]
  | cons mark rest =>
    simp only [readTime?, Option.ite_none_right_eq_some, Option.bind_eq_bind, Option.bind_eq_some_iff,
      Prod.exists, digits?_eq_some_iff, after?_eq_some_iff, Bool.or_eq_true, beq_iff_eq]
    constructor
    · rintro ⟨isMark, hour, _, ⟨isHour, rfl⟩, _, rfl, minute, rest, ⟨isMinute, rfl⟩, isRest⟩
      obtain ⟨second, fraction, zone, seconds, ending, isSeconds, zoned, rfl, isDate⟩ :=
        (readSecond?_eq_some_iff rfl rfl rfl).mp isRest
      exact .inr ⟨mark, hour, minute, second, fraction, zone, seconds, ending, or_assoc.mp isMark,
        isHour, isMinute, isSeconds, zoned, rfl, isDate⟩
    · rintro (⟨isEmpty, -⟩ | ⟨_, hour, minute, second, fraction, zone, seconds, ending, isMark, isHour,
        isMinute, isSeconds, zoned, isText, isDate⟩)
      · cases isEmpty
      · obtain ⟨rfl, rfl⟩ := List.cons.inj isText
        refine ⟨or_assoc.mpr isMark, hour, _, ⟨isHour, rfl⟩, _, rfl, minute, _, ⟨isMinute, rfl⟩, ?_⟩
        exact (readSecond?_eq_some_iff rfl rfl rfl).mpr
          ⟨second, fraction, zone, seconds, ending, isSeconds, zoned, rfl, isDate⟩

/-- A text has the parts of a date if and only if it is a text of the date. -/
theorem ofText?_eq_some_iff : ofText? text = some date ↔ date.Written text := by
  simp only [ofText?, Option.bind_eq_bind, Option.bind_eq_some_iff, Prod.exists, digits?_eq_some_iff,
    after?_eq_some_iff, readTime?_eq_some_iff]
  constructor
  · rintro ⟨year, _, ⟨isYear, rfl⟩, _, rfl, month, _, ⟨isMonth, rfl⟩, _, rfl, day, rest, ⟨isDay, rfl⟩,
      ⟨rfl, rfl⟩ | ⟨mark, hour, minute, second, fraction, zone, seconds, ending, isMark, isHour,
        isMinute, isSeconds, zoned, rfl, rfl⟩⟩
    · rw [List.append_nil]
      exact .day isYear isMonth isDay
    · exact .time isYear isMonth isDay isMark isHour isMinute isSeconds zoned
  · intro written
    cases written with
    | @day year month day isYear isMonth isDay =>
      exact ⟨year, _, ⟨isYear, rfl⟩, _, rfl, month, _, ⟨isMonth, rfl⟩, _, rfl, day, [],
        ⟨isDay, (List.append_nil day).symm⟩, .inl ⟨rfl, rfl⟩⟩
    | @time year month day hour minute seconds ending mark second fraction zone isYear isMonth isDay
        isMark isHour isMinute isSeconds zoned =>
      exact ⟨year, _, ⟨isYear, rfl⟩, _, rfl, month, _, ⟨isMonth, rfl⟩, _, rfl, day, _, ⟨isDay, rfl⟩,
        .inr ⟨mark, hour, minute, second, fraction, zone, seconds, ending, isMark, isHour, isMinute,
          isSeconds, zoned, rfl, rfl⟩⟩

end

/-! ### What a date spells -/

/-- Seconds that local time is ahead by in a zone. Behind the sign are two digits of hours, at the end
are two digits of minutes. -/
def zoneOffset? (zone : List Char) : Option Int :=
  if zone.length = 1 then some 0
  else
    let hours := Text.spelled ((zone.drop 1).take 2)
    let minutes := Text.spelled (zone.drop (zone.length - 2))
    if hours < 24 ∧ minutes < 60 then
      let seconds : Int := hours * 3600 + minutes * 60
      some (if zone.head? = some '-' then -seconds else seconds)
    else none

/-- The instant that the parts of a date spell, if there is one. Hours, minutes and seconds are read in a
given way, and parts that are absent count as zero. -/
def spelled? (read : List Char → Nat) (date : IsoDate) : Option Instant :=
  let day : Date := ⟨Text.spelled date.year, Text.spelled date.month, Text.spelled date.day⟩
  let hour := (date.hour.map read).getD 0
  let minute := (date.minute.map read).getD 0
  let second := (date.second.map read).getD 0
  let nanoseconds :=
    (date.fraction.map fun digits => Text.spelled digits * 10 ^ (9 - digits.length)).getD 0
  if day.isValid ∧ hour < 24 ∧ minute < 60 ∧ second < 60 then
    ((date.zone.map zoneOffset?).getD (some 0)).map fun offset =>
      (Instant.ofClock day hour minute second nanoseconds).back offset
  else none

/-- The parts other than hours, minutes and seconds. -/
def calendarText (date : IsoDate) : List Char :=
  date.year ++ date.month ++ date.day ++ date.fraction.getD [] ++ date.zone.getD []

/-- The hours, minutes and seconds that are written. -/
def clockParts (date : IsoDate) : List (List Char) :=
  date.hour.toList ++ date.minute.toList ++ date.second.toList

/-- What all parts of a written date are. -/
structure Shaped (date : IsoDate) : Prop where
  year : Digits 4 date.year
  month : Digits 2 date.month
  day : Digits 2 date.day
  clock : ∀ part ∈ date.clockParts, Digits 2 part
  fraction : ∀ digits ∈ date.fraction, Digits digits.length digits ∧ 1 ≤ digits.length
  zone : ∀ zone ∈ date.zone, IsZone zone

theorem Written.shaped {date : IsoDate} {text : List Char} (written : date.Written text) :
    date.Shaped := by
  cases written with
  | day isYear isMonth isDay =>
    exact ⟨isYear, isMonth, isDay, List.forall_mem_nil _, by simp, by simp⟩
  | time isYear isMonth isDay isMark isHour isMinute isSeconds zoned =>
    refine ⟨isYear, isMonth, isDay, ?_, ?_, ?_⟩
    · cases isSeconds with
      | absent => simp [clockParts, isHour, isMinute]
      | whole isSecond => simp [clockParts, isHour, isMinute, isSecond]
      | fraction isSecond => simp [clockParts, isHour, isMinute, isSecond]
    · cases isSeconds with
      | absent => simp
      | whole => simp
      | fraction _ isFraction least =>
        obtain rfl := isFraction.1
        simpa using ⟨isFraction, least⟩
    · cases zoned with
      | absent => simp
      | written isZone => simpa using isZone

theorem Digits.natural?_eq_some_iff {count : Nat} {cs : List Char} (digits : Digits (count + 1) cs)
    {n : Nat} : Text.natural? cs = some n ↔ Text.isAscii cs = true ∧ Text.spelled cs = n := by
  apply Text.natural?_eq_some_iff digits.2
  rintro rfl
  cases digits.1

theorem zoneOffset?_offset {sign : Char} {hours colon minutes : List Char} (isHours : Digits 2 hours)
    (isColon : colon = [] ∨ colon = [':']) (isMinutes : Digits 2 minutes) :
    zoneOffset? (sign :: (hours ++ (colon ++ minutes))) =
      if Text.spelled hours < 24 ∧ Text.spelled minutes < 60 then
        some (if sign == '-' then -(Text.spelled hours * 3600 + Text.spelled minutes * 60 : Int)
          else Text.spelled hours * 3600 + Text.spelled minutes * 60)
      else none := by
  obtain ⟨a, b, rfl, -⟩ := digits_two_iff.mp isHours
  obtain ⟨c, d, rfl, -⟩ := digits_two_iff.mp isMinutes
  rcases isColon with rfl | rfl <;> simp [zoneOffset?]

theorem offset?_eq_some_iff {zone : List Char} (isZone : IsZone zone) {seconds : Int} :
    offset? zone = some seconds ↔ Text.isAscii zone = true ∧ zoneOffset? zone = some seconds := by
  cases isZone with
  | utc isLetter => rcases isLetter with rfl | rfl <;> simp [offset?, zoneOffset?, Text.isAscii]
  | @offset sign hours colon minutes isSign isHours isColon isMinutes =>
    have readHours {n : Nat} := isHours.natural?_eq_some_iff (n := n)
    have readMinutes {n : Nat} := isMinutes.natural?_eq_some_iff (n := n)
    obtain ⟨a, b, rfl, isA, isB⟩ := digits_two_iff.mp isHours
    obtain ⟨c, d, rfl, isC, isD⟩ := digits_two_iff.mp isMinutes
    have other {x : Char} (isDigit : Text.isDigit x = true) : x ≠ ':' := by
      rintro rfl
      cases isDigit
    have kept : (sign :: ([a, b] ++ (colon ++ [c, d]))).filter (· != ':') = [sign, a, b, c, d] := by
      rcases isSign with rfl | rfl <;> rcases isColon with rfl | rfl <;>
        simp [other isA, other isB, other isC, other isD]
    have ascii : Text.isAscii (sign :: ([a, b] ++ (colon ++ [c, d]))) = true ↔
        Text.isAscii [a, b] = true ∧ Text.isAscii [c, d] = true := by
      rcases isSign with rfl | rfl <;> rcases isColon with rfl | rfl <;> simp [Text.isAscii, and_assoc]
    -- One cuts the zone without its colon from the front, the other from both ends.
    rw [offset?, kept, ascii, zoneOffset?_offset isHours isColon isMinutes]
    simp only [Option.bind_eq_bind, Option.bind_eq_some_iff, readHours, readMinutes]
    constructor
    · rintro ⟨_, ⟨asciiHours, rfl⟩, _, ⟨asciiMinutes, rfl⟩, h⟩
      exact ⟨⟨asciiHours, asciiMinutes⟩, h⟩
    · rintro ⟨⟨asciiHours, asciiMinutes⟩, h⟩
      exact ⟨_, ⟨asciiHours, rfl⟩, _, ⟨asciiMinutes, rfl⟩, h⟩

theorem nanoseconds?_eq_some_iff {fraction : Option (List Char)}
    (isFraction : ∀ digits ∈ fraction, Digits digits.length digits ∧ 1 ≤ digits.length) {n : Nat} :
    nanoseconds? fraction = some n ↔ Text.isAscii (fraction.getD []) = true ∧
      (fraction.map fun digits => Text.spelled digits * 10 ^ (9 - digits.length)).getD 0 = n := by
  cases fraction with
  | none => simp [nanoseconds?, Text.isAscii]
  | some digits =>
    obtain ⟨areDigits, least⟩ := isFraction digits rfl
    have allDigits : ∀ c ∈ digits ++ List.replicate (9 - digits.length) '0', Text.isDigit c = true := by
      intro c member
      rcases List.mem_append.mp member with member | member
      · exact areDigits.2 c member
      · rw [List.eq_of_mem_replicate member]
        rfl
    have nonempty : digits ++ List.replicate (9 - digits.length) '0' ≠ [] :=
      List.append_ne_nil_of_left_ne_nil (List.length_pos_iff.mp least) _
    have ascii : Text.isAscii (digits ++ List.replicate (9 - digits.length) '0') = true ↔
        Text.isAscii digits = true := by
      simp [Text.isAscii]
    rw [nanoseconds?, Text.natural?_eq_some_iff allDigits nonempty, ascii, Text.spelled_append_zeros]
    rfl

/-- Hours, minutes and seconds beyond ASCII count as zero. -/
theorem clockPart_eq {part : Option (List Char)} (isPart : ∀ cs ∈ part, Digits 2 cs) :
    clockPart part = (part.map Text.readable).getD 0 := by
  cases part with
  | none => rfl
  | some cs =>
    have isNatural (n : Nat) := (isPart cs rfl).natural?_eq_some_iff (n := n)
    simp only [clockPart, Option.bind_some, Option.map_some, Option.getD_some, Text.readable]
    split
    case isTrue isAscii => rw [(isNatural _).mpr ⟨isAscii, rfl⟩, Option.getD_some]
    case isFalse notAscii =>
      cases h : Text.natural? cs with
      | none => rfl
      | some n => exact absurd ((isNatural n).mp h).1 notAscii

theorem Shaped.clockPart_eq {date : IsoDate} (shaped : date.Shaped) :
    clockPart date.hour = (date.hour.map Text.readable).getD 0 ∧
      clockPart date.minute = (date.minute.map Text.readable).getD 0 ∧
      clockPart date.second = (date.second.map Text.readable).getD 0 := by
  have isPart := shaped.clock
  simp only [clockParts, List.mem_append, Option.mem_toList] at isPart
  refine ⟨IsoDate.clockPart_eq ?_, IsoDate.clockPart_eq ?_, IsoDate.clockPart_eq ?_⟩
  · exact fun cs member => isPart cs (.inl (.inl member))
  · exact fun cs member => isPart cs (.inl (.inr member))
  · exact fun cs member => isPart cs (.inr member)

theorem zone_eq_some_iff {zone : Option (List Char)} (isZone : ∀ text ∈ zone, IsZone text)
    {seconds : Int} :
    (zone.map offset?).getD (some 0) = some seconds ↔ Text.isAscii (zone.getD []) = true ∧
      (zone.map zoneOffset?).getD (some 0) = some seconds := by
  cases zone with
  | none => simp [Text.isAscii]
  | some text => exact offset?_eq_some_iff (isZone text rfl)

/-- What has to be read of a date, part by part. -/
theorem instant?_eq_some {date : IsoDate} {instant : Instant} :
    date.instant? = some instant ↔
      ∃ year, Text.natural? date.year = some year ∧ ∃ month, Text.natural? date.month = some month ∧
      ∃ day, Text.natural? date.day = some day ∧
      ∃ nanoseconds, nanoseconds? date.fraction = some nanoseconds ∧
      (Date.isValid ⟨year, month, day⟩ = true ∧ clockPart date.hour < 24 ∧
        clockPart date.minute < 60 ∧ clockPart date.second < 60) ∧
      ∃ seconds, (date.zone.map offset?).getD (some 0) = some seconds ∧
        (Instant.ofClock ⟨year, month, day⟩ (clockPart date.hour) (clockPart date.minute)
          (clockPart date.second) nanoseconds).back seconds = instant := by
  simp only [IsoDate.instant?, Option.bind_eq_bind, Option.bind_eq_some_iff,
    Option.ite_none_right_eq_some]
  cases date.zone <;> simp [Option.bind_eq_some_iff]

/-- A date is read if all but its time of day is in ASCII, and as it spells but for that. -/
theorem Shaped.instant?_eq_some_iff {date : IsoDate} (shaped : date.Shaped) {instant : Instant} :
    date.instant? = some instant ↔
      Text.isAscii date.calendarText = true ∧ date.spelled? Text.readable = some instant := by
  have ascii : Text.isAscii date.calendarText = true ↔ Text.isAscii date.year = true ∧
      Text.isAscii date.month = true ∧ Text.isAscii date.day = true ∧
      Text.isAscii (date.fraction.getD []) = true ∧ Text.isAscii (date.zone.getD []) = true := by
    simp only [Text.isAscii, calendarText, List.all_append, Bool.and_eq_true, and_assoc]
  obtain ⟨isHour, isMinute, isSecond⟩ := shaped.clockPart_eq
  simp only [instant?_eq_some, shaped.year.natural?_eq_some_iff, shaped.month.natural?_eq_some_iff,
    shaped.day.natural?_eq_some_iff, nanoseconds?_eq_some_iff shaped.fraction,
    zone_eq_some_iff shaped.zone, isHour, isMinute, isSecond, ascii, spelled?,
    Option.ite_none_right_eq_some, Option.map_eq_some_iff]
  constructor
  · rintro ⟨_, ⟨asciiYear, rfl⟩, _, ⟨asciiMonth, rfl⟩, _, ⟨asciiDay, rfl⟩, _, ⟨asciiFraction, rfl⟩,
      valid, seconds, ⟨asciiZone, isOffset⟩, isInstant⟩
    exact ⟨⟨asciiYear, asciiMonth, asciiDay, asciiFraction, asciiZone⟩, valid, seconds, isOffset,
      isInstant⟩
  · rintro ⟨⟨asciiYear, asciiMonth, asciiDay, asciiFraction, asciiZone⟩, valid, seconds, isOffset,
      isInstant⟩
    exact ⟨_, ⟨asciiYear, rfl⟩, _, ⟨asciiMonth, rfl⟩, _, ⟨asciiDay, rfl⟩, _, ⟨asciiFraction, rfl⟩,
      valid, seconds, ⟨asciiZone, isOffset⟩, isInstant⟩

/-! ### When what is read is what is written -/

theorem readable_eq_spelled_iff {part : Option (List Char)} :
    (part.map Text.readable).getD 0 = (part.map Text.spelled).getD 0 ↔
      ∀ cs ∈ part, Text.isAscii cs = true ∨ Text.spelled cs = 0 := by
  cases part with
  | none => simp
  | some cs =>
    by_cases isAscii : Text.isAscii cs = true
    · simp [Text.readable, isAscii]
    · simpa [Text.readable, isAscii] using eq_comm

theorem readable_le_spelled (part : Option (List Char)) :
    (part.map Text.readable).getD 0 ≤ (part.map Text.spelled).getD 0 := by
  cases part with
  | none => exact le_rfl
  | some cs =>
    simp only [Option.map_some, Option.getD_some, Text.readable]
    split
    · exact le_rfl
    · exact Nat.zero_le _

/-- A time of day that is not later in any part is the same only if all its parts are the same. -/
theorem ofClock_back_inj {day : Date} {hour minute second laterHour laterMinute laterSecond n : Nat}
    {seconds : Int} (hours : hour ≤ laterHour) (minutes : minute ≤ laterMinute)
    (inSeconds : second ≤ laterSecond)
    (h : (Instant.ofClock day laterHour laterMinute laterSecond n).back seconds =
      (Instant.ofClock day hour minute second n).back seconds) :
    hour = laterHour ∧ minute = laterMinute ∧ second = laterSecond := by
  have same := congrArg Instant.nanoseconds h
  simp only [Instant.back, Instant.ofClock, Instant.perSecond] at same
  omega

/-- The instant that is read is the one that is written if and only if all that counts as zero is zero. -/
theorem spelled?_eq_some_iff {date : IsoDate} {instant : Instant}
    (isRead : date.spelled? Text.readable = some instant) :
    date.spelled? Text.spelled = some instant ↔
      ∀ part ∈ date.clockParts, Text.isAscii part = true ∨ Text.spelled part = 0 := by
  have parts : (∀ part ∈ date.clockParts, Text.isAscii part = true ∨ Text.spelled part = 0) ↔
      (date.hour.map Text.readable).getD 0 = (date.hour.map Text.spelled).getD 0 ∧
      (date.minute.map Text.readable).getD 0 = (date.minute.map Text.spelled).getD 0 ∧
      (date.second.map Text.readable).getD 0 = (date.second.map Text.spelled).getD 0 := by
    simp only [readable_eq_spelled_iff, clockParts, List.forall_mem_append, Option.mem_toList,
      Option.mem_def, and_assoc]
  rw [parts]
  constructor
  · intro isWritten
    simp only [spelled?, Option.ite_none_right_eq_some, Option.map_eq_some_iff] at isRead isWritten
    obtain ⟨-, seconds, isOffset, rfl⟩ := isRead
    obtain ⟨-, others, isOther, same⟩ := isWritten
    obtain rfl := Option.some.inj (isOther.symm.trans isOffset)
    -- To count as zero only takes away, so differences in two parts cannot cancel.
    exact ofClock_back_inj (readable_le_spelled _) (readable_le_spelled _) (readable_le_spelled _) same
  · rintro ⟨isHour, isMinute, isSecond⟩
    rw [← isRead]
    simp only [spelled?, isHour, isMinute, isSecond]

end IsoDate

/-- Which texts are read as dates, and as which instant. -/
theorem instant?_eq_some_iff_written (value : String) (instant : Instant) :
    instant? value = some instant ↔ ∃ date : IsoDate, date.Written (Text.trim value.toList) ∧
      Text.isAscii date.calendarText = true ∧ date.spelled? Text.readable = some instant ∧
      (date.spelled? Text.spelled = some instant ↔
        ∀ part ∈ date.clockParts, Text.isAscii part = true ∨ Text.spelled part = 0) := by
  rw [instant?, Option.bind_eq_some_iff]
  constructor
  · rintro ⟨date, isDate, isInstant⟩
    have written := IsoDate.ofText?_eq_some_iff.mp isDate
    obtain ⟨isAscii, isRead⟩ := written.shaped.instant?_eq_some_iff.mp isInstant
    exact ⟨date, written, isAscii, isRead, IsoDate.spelled?_eq_some_iff isRead⟩
  · rintro ⟨date, written, isAscii, isRead, -⟩
    exact ⟨date, IsoDate.ofText?_eq_some_iff.mpr written,
      written.shaped.instant?_eq_some_iff.mpr ⟨isAscii, isRead⟩⟩

/-- A date with an hour in digits beyond ASCII. -/
def foreignHour : String := "2018-07-05T\u0660\u0661:00"

/-- One hour past midnight is read as midnight. -/
theorem instant?_foreignHour :
    instant? foreignHour = some (.ofClock ⟨2018, 7, 5⟩ 0 0 0 0) ∧
      ∀ date : IsoDate, date.Written (Text.trim foreignHour.toList) →
        date.hour.map Text.spelled = some 1 ∧ date.spelled? Text.spelled ≠ instant? foreignHour := by
  refine ⟨by decide +kernel, fun date written => ?_⟩
  have isDate : IsoDate.ofText? (Text.trim foreignHour.toList) =
      some ⟨"2018".toList, "07".toList, "05".toList, "\u0660\u0661".toList, "00".toList, none, none,
        none⟩ := by
    decide +kernel
  rw [IsoDate.ofText?_eq_some_iff.mpr written] at isDate
  obtain rfl := Option.some.inj isDate
  decide +kernel

end Value

end ChartLint
