import ChartLint.Proofs.Text.Case
import ChartLint.Value.Check

/-!
Values and letter case. Every reading of a value either lower-cases it first or treats capitals as their
small letters, so a check finds the same in a value and in the value in lower case.
-/
namespace ChartLint

open Text (ignoresCase_isDigit ignoresCase_isAsciiDigit ignoresCase_isIndent)

namespace Number

theorem readSign_lower (text : List Char) : readSign (text.map Char.toLower) =
    ((readSign text).1, (readSign text).2.map Char.toLower) := by
  cases text with
  | nil => rfl
  | cons c rest =>
    have isMinus : c.toLower = '-' ↔ c = '-' := Text.toLower_eq_iff rfl
    have isPlus : c.toLower = '+' ↔ c = '+' := Text.toLower_eq_iff rfl
    by_cases minus : c = '-'
    · rw [minus]
      rfl
    · by_cases plus : c = '+'
      · rw [plus]
        rfl
      · simp [readSign, minus, plus, isMinus, isPlus]

theorem readExponent?_lower (text : List Char) :
    readExponent? (text.map Char.toLower) = readExponent? text := by
  cases text with
  | nil => rfl
  | cons mark rest =>
    have isMark : (mark.toLower == 'e' || mark.toLower == 'E') = (mark == 'e' || mark == 'E') :=
      Text.ignoresCase_of_capitals (f := fun c => c == 'e' || c == 'E') (by decide) mark
    simp only [List.map_cons, readExponent?, isMark, readSign_lower, Text.natural?_lower]

theorem takeWhile_lower (text : List Char) :
    (text.map Char.toLower).takeWhile Char.isDigit = text.takeWhile Char.isDigit := by
  rw [Text.takeWhile_lower ignoresCase_isAsciiDigit, Text.lower_of_digits]
  intro c member
  simp [Text.isDigit, List.mem_takeWhile_imp member]

theorem ofText?_lower (text : List Char) : ofText? (text.map Char.toLower) = ofText? text := by
  simp only [ofText?, readSign_lower, List.map_map, takeWhile_lower,
    Text.dropWhile_lower ignoresCase_isAsciiDigit,
    show Char.toLower ∘ Char.toLower = Char.toLower from funext Text.toLower_toLower]
  cases (readSign text).2.dropWhile Char.isDigit with
  | nil => rfl
  | cons c more =>
    have isPoint : c.toLower = '.' ↔ c = '.' := Text.toLower_eq_iff rfl
    by_cases point : c = '.'
    · simp [point, takeWhile_lower, Text.dropWhile_lower ignoresCase_isAsciiDigit, readExponent?_lower]
    · have exponent := readExponent?_lower (c :: more)
      rw [List.map_cons] at exponent
      simp [point, isPoint, exponent]

end Number

namespace Value

theorem isInteger_lower (text : List Char) : isInteger (text.map Char.toLower) = isInteger text := by
  simp only [isInteger, Number.readSign_lower, List.isEmpty_map,
    Text.all_lower ignoresCase_isAsciiDigit]

theorem isNumber_lower (text : List Char) : isNumber (text.map Char.toLower) = isNumber text := by
  simp only [isNumber, Number.readSign_lower, Number.takeWhile_lower,
    Text.dropWhile_lower ignoresCase_isAsciiDigit]
  cases (Number.readSign text).2.dropWhile Char.isDigit with
  | nil => rfl
  | cons c more =>
    have isPoint : c.toLower = '.' ↔ c = '.' := Text.toLower_eq_iff rfl
    by_cases point : c = '.'
    · simp [point, Number.takeWhile_lower, Text.dropWhile_lower ignoresCase_isAsciiDigit,
        Number.readExponent?_lower]
    · have exponent := Number.readExponent?_lower (c :: more)
      rw [List.map_cons] at exponent
      simp [point, isPoint, exponent]

theorem number?_lower (integer : Bool) (text : List Char) :
    number? integer (text.map Char.toLower) = number? integer text := by
  simp only [number?, isInteger_lower, isNumber_lower, Number.ofText?_lower]

theorem afterCount?_lower (text : List Char) :
    afterCount? (text.map Char.toLower) = (afterCount? text).map (List.map Char.toLower) := by
  simp only [afterCount?, Text.takeWhile_digits_lower, Text.dropWhile_lower ignoresCase_isDigit]
  generalize (text.takeWhile Text.isDigit).isEmpty = isEmpty
  cases isEmpty with
  | true => rfl
  | false =>
    cases text.dropWhile Text.isDigit with
    | nil => rfl
    | cons c more =>
      have isPoint : c.toLower = '.' ↔ c = '.' := Text.toLower_eq_iff rfl
      by_cases point : c = '.'
      · subst point
        simp only [List.map_cons, show '.'.toLower = '.' from rfl, Text.takeWhile_digits_lower,
          Text.dropWhile_lower ignoresCase_isDigit]
        cases (more.takeWhile Text.isDigit).isEmpty <;> rfl
      · simp [point, isPoint]

theorem isUnitOf_lower (words : List String) (text : List Char) :
    isUnitOf words (text.map Char.toLower) = isUnitOf words text := by
  simp only [isUnitOf, Text.spells_lower]

theorem isInterval_lower (text : List Char) : isInterval (text.map Char.toLower) = isInterval text := by
  rw [isInterval, isInterval, afterCount?_lower]
  cases afterCount? text with
  | none => rfl
  | some rest =>
    simp only [Option.map_some, List.head?_map, Option.any_map, ignoresCase_isIndent _,
      Text.dropWhile_lower ignoresCase_isIndent, isUnitOf_lower]

theorem ignoresCase_isSign : Text.IgnoresCase fun c => c == '+' || c == '-' :=
  Text.ignoresCase_of_capitals (by decide)

theorem ignoresCase_endsTerm : Text.IgnoresCase endsTerm := Text.ignoresCase_of_capitals (by decide)

theorem ignoresCase_not_endsTerm : Text.IgnoresCase fun c => !endsTerm c :=
  fun c => congrArg not (ignoresCase_endsTerm c)

theorem afterTerm?_lower (text : List Char) :
    afterTerm? (text.map Char.toLower) = (afterTerm? text).map (List.map Char.toLower) := by
  rw [afterTerm?, afterTerm?, Text.dropWhile_lower ignoresCase_isIndent]
  cases text.dropWhile Text.isIndent with
  | nil => rfl
  | cons sign rest =>
    simp only [List.map_cons, ignoresCase_isSign sign, Text.dropWhile_lower ignoresCase_isIndent, afterCount?_lower]
    generalize (sign == '+' || sign == '-') = signed
    cases signed with
    | false => rfl
    | true =>
      cases afterCount? (rest.dropWhile Text.isIndent) with
      | none => rfl
      | some rest =>
        simp only [Option.map_some, Text.dropWhile_lower ignoresCase_isIndent]
        cases rest.dropWhile Text.isIndent with
        | nil => rfl
        | cons c rest =>
          have isTimes : c.toLower = '*' ↔ c = '*' := Text.toLower_eq_iff rfl
          by_cases times : c = '*'
          · subst times
            simp only [List.map_cons, show '*'.toLower = '*' from rfl,
              Text.dropWhile_lower ignoresCase_isIndent, Text.takeWhile_lower ignoresCase_not_endsTerm,
              Text.dropWhile_lower ignoresCase_not_endsTerm, isUnitOf_lower]
            generalize isUnitOf calendarUnits _ = isUnit
            cases isUnit <;> rfl
          · simp [times, isTimes]

theorem areTerms_lower (limit : Nat) (text : List Char) :
    areTerms limit (text.map Char.toLower) = areTerms limit text := by
  induction limit generalizing text with
  | zero => cases text <;> rfl
  | succ limit ih =>
    cases text with
    | nil => rfl
    | cons c rest =>
      have isAfter := afterTerm?_lower (c :: rest)
      rw [List.map_cons] at isAfter
      simp only [List.map_cons, areTerms, isAfter]
      cases afterTerm? (c :: rest) with
      | none => rfl
      | some rest => exact ih rest

theorem isCalendarExpression_lower (text : List Char) :
    isCalendarExpression (text.map Char.toLower) = isCalendarExpression text := by
  simp only [isCalendarExpression, Text.takeWhile_lower ignoresCase_not_endsTerm,
    Text.dropWhile_lower ignoresCase_not_endsTerm, List.length_map, areTerms_lower]
  congr 2
  funext word
  exact Text.spells_lower _ word

/-- Readings that follow one another commute with lower-casing if each of them does. -/
theorem bind_map_eq {α β γ δ : Type} {first : Option α} {firstLower : Option β} {lower : α → β}
    {next : α → Option γ} {nextLower : β → Option δ} {result : γ → δ}
    (isFirst : firstLower = first.map lower)
    (isNext : ∀ a, nextLower (lower a) = (next a).map result) :
    (firstLower >>= nextLower) = (first >>= next).map result := by
  rw [isFirst]
  cases first with
  | none => rfl
  | some a => exact isNext a

namespace IsoDate

/-- A date with its zone in lower case; all else is digits. -/
def lowerZone (date : IsoDate) : IsoDate :=
  { date with zone := date.zone.map (List.map Char.toLower) }

theorem digits?_lower (count : Nat) (text : List Char) : digits? count (text.map Char.toLower) =
    (digits? count text).map fun found => (found.1, found.2.map Char.toLower) := by
  simp only [digits?, ← List.map_take, ← List.map_drop, List.length_map,
    Text.all_lower ignoresCase_isDigit]
  split
  case isTrue areDigits =>
    rw [Text.lower_of_digits (List.all_eq_true.mp areDigits.2)]
    rfl
  case isFalse => rfl

theorem after?_lower (mark : Char) (isMark : mark.isAlpha = false) (text : List Char) :
    after? mark (text.map Char.toLower) = (after? mark text).map (List.map Char.toLower) := by
  cases text with
  | nil => rfl
  | cons c rest =>
    simp only [List.map_cons, after?, Text.toLower_eq_iff isMark]
    split <;> rfl

theorem isZone_lower (text : List Char) : isZone (text.map Char.toLower) = isZone text := by
  rcases text with _ | ⟨a, _ | ⟨b, _ | ⟨c, _ | ⟨d, _ | ⟨e, _ | ⟨f, _ | ⟨g, rest⟩⟩⟩⟩⟩⟩⟩
  case cons.nil => exact Text.ignoresCase_of_capitals (f := fun c => isZone [c]) (by decide) a
  case cons.cons.cons.cons.cons.cons.nil =>
    have isColon : d.toLower = ':' ↔ d = ':' := Text.toLower_eq_iff rfl
    by_cases colon : d = ':'
    · simp [isZone, colon, ignoresCase_isSign _, ignoresCase_isDigit _]
    · simp [isZone, colon, isColon]
  all_goals simp [isZone, ignoresCase_isSign _, ignoresCase_isDigit _]

theorem readZone?_lower (date : IsoDate) (text : List Char) :
    readZone? date.lowerZone (text.map Char.toLower) = (readZone? date text).map lowerZone := by
  simp only [readZone?, List.isEmpty_map, isZone_lower]
  split
  · rfl
  · split <;> rfl

theorem readFraction?_lower (date : IsoDate) (text : List Char) :
    readFraction? date.lowerZone (text.map Char.toLower) = (readFraction? date text).map lowerZone := by
  cases text with
  | nil => exact readZone?_lower date []
  | cons c rest =>
    have isPoint : c.toLower = '.' ↔ c = '.' := Text.toLower_eq_iff rfl
    by_cases point : c = '.'
    · subst point
      simp only [List.map_cons, show '.'.toLower = '.' from rfl, readFraction?,
        Text.takeWhile_digits_lower, Text.dropWhile_lower ignoresCase_isDigit]
      split
      · rfl
      · exact readZone?_lower { date with fraction := some _ } _
    · simpa [readFraction?, point, isPoint] using readZone?_lower date (c :: rest)

theorem readSecond?_lower (date : IsoDate) (text : List Char) :
    readSecond? date.lowerZone (text.map Char.toLower) = (readSecond? date text).map lowerZone := by
  cases text with
  | nil => exact readZone?_lower date []
  | cons c rest =>
    have isColon : c.toLower = ':' ↔ c = ':' := Text.toLower_eq_iff rfl
    by_cases colon : c = ':'
    · subst colon
      exact bind_map_eq (digits?_lower 2 rest) fun second =>
        readFraction?_lower { date with second := some second.1 } second.2
    · simpa [readSecond?, colon, isColon] using readZone?_lower date (c :: rest)

theorem readTime?_lower (date : IsoDate) (text : List Char) :
    readTime? date.lowerZone (text.map Char.toLower) = (readTime? date text).map lowerZone := by
  cases text with
  | nil => rfl
  | cons mark rest =>
    have isMark : (mark.toLower == ' ' || mark.toLower == 'T' || mark.toLower == 't') =
        (mark == ' ' || mark == 'T' || mark == 't') :=
      Text.ignoresCase_of_capitals (f := fun c => c == ' ' || c == 'T' || c == 't') (by decide) mark
    simp only [List.map_cons, readTime?, isMark]
    split
    · exact bind_map_eq (digits?_lower 2 rest) fun hour =>
        bind_map_eq (after?_lower ':' rfl hour.2) fun rest =>
          bind_map_eq (digits?_lower 2 rest) fun minute =>
            readSecond?_lower { date with hour := some hour.1, minute := some minute.1 } minute.2
    · rfl

theorem ofText?_lower (text : List Char) :
    ofText? (text.map Char.toLower) = (ofText? text).map lowerZone :=
  bind_map_eq (digits?_lower 4 text) fun year =>
    bind_map_eq (after?_lower '-' rfl year.2) fun rest =>
      bind_map_eq (digits?_lower 2 rest) fun month =>
        bind_map_eq (after?_lower '-' rfl month.2) fun rest =>
          bind_map_eq (digits?_lower 2 rest) fun day =>
            readTime?_lower { year := year.1, month := month.1, day := day.1 } day.2

theorem offset?_lower (zone : List Char) : offset? (zone.map Char.toLower) = offset? zone := by
  have notColon : Text.IgnoresCase (· != ':') := Text.ignoresCase_of_capitals (by decide)
  simp only [offset?, Text.filter_lower notColon]
  rcases zone.filter (· != ':') with _ | ⟨sign, _ | ⟨a, _ | ⟨b, _ | ⟨c, _ | ⟨d, _ | ⟨e, rest⟩⟩⟩⟩⟩⟩
  case cons.cons.cons.cons.cons.nil =>
    have hours := Text.natural?_lower [a, b]
    have minutes := Text.natural?_lower [c, d]
    have isMinus : (sign.toLower == '-') = (sign == '-') :=
      Text.ignoresCase_of_capitals (f := (· == '-')) (by decide) sign
    simp only [List.map_cons, List.map_nil] at hours minutes ⊢
    rw [hours, minutes, isMinus]
  all_goals rfl

theorem instant?_lower (date : IsoDate) : instant? date.lowerZone = instant? date := by
  cases date with
  | mk year month day hour minute second fraction zone =>
    cases zone with
    | none => rfl
    | some zone => simp only [instant?, lowerZone, Option.map_some, offset?_lower]

end IsoDate

theorem instant?_lower (value : String) : instant? (Text.lower value) = instant? value := by
  rw [instant?, Text.toList_lower, Text.trim_lower, IsoDate.ofText?_lower, Option.bind_map]
  congr 1
  funext date
  exact date.instant?_lower

theorem hasExpression_lower (value : List Char) :
    hasExpression (value.map Char.toLower) = hasExpression value := by
  induction value with
  | nil => rfl
  | cons c rest ih =>
    have starts : startsExpression c.toLower = startsExpression c :=
      Text.ignoresCase_of_capitals (by decide) c
    have opens : ((rest.map Char.toLower).head? == some '\x7b') = (rest.head? == some '\x7b') := by
      rw [List.head?_map, Bool.eq_iff_iff, beq_iff_eq, beq_iff_eq, Text.map_toLower_eq_some_iff rfl]
    have closes : (rest.map Char.toLower).contains '\x7d' = rest.contains '\x7d' := by
      rw [Bool.eq_iff_iff, List.contains_iff_mem, List.contains_iff_mem, Text.mem_lower_iff rfl]
    rw [List.map_cons, hasExpression, hasExpression, starts, opens, closes, ih]

theorem percentage_lower (descriptor : Descriptor) (value : List Char) :
    percentage descriptor (value.map Char.toLower) =
      ((percentage descriptor value).1.map Char.toLower, (percentage descriptor value).2) := by
  have isPercent : ((value.map Char.toLower).getLast? == some '%') = (value.getLast? == some '%') := by
    rw [List.getLast?_map, Bool.eq_iff_iff, beq_iff_eq, beq_iff_eq, Text.map_toLower_eq_some_iff rfl]
  rw [percentage, percentage, isPercent]
  split
  · rw [← List.map_dropLast, Text.trimEnd_lower]
  · rfl

section Flaws

variable (descriptor : Descriptor) (value : String)

theorem stringFlaw?_lower (plain : descriptor.pattern = none) :
    stringFlaw? descriptor (Text.lower value) = stringFlaw? descriptor value := by
  have isEmpty : (Text.lower value).isEmpty = value.isEmpty := by
    rw [Bool.eq_iff_iff, String.isEmpty_iff, String.isEmpty_iff, ← String.toList_eq_nil_iff,
      Text.toList_lower, List.map_eq_nil_iff, String.toList_eq_nil_iff]
  have isListed (piece : List Char) :
      Text.lower (String.ofList (Text.trim (piece.map Char.toLower))) =
        Text.lower (String.ofList (Text.trim piece)) := by
    rw [Text.trim_lower, ← Text.lower_ofList, Text.lower_lower]
  have isMark : ','.isAlpha = false := rfl
  simp only [stringFlaw?, plain, isEmpty, Text.toList_lower, Text.pieces_lower isMark, List.all_map,
    Function.comp_def, isListed]

theorem numberFlaw?_lower (integer : Bool) :
    numberFlaw? descriptor integer (Text.lower value) = numberFlaw? descriptor integer value := by
  simp only [numberFlaw?, Text.toList_lower, percentage_lower, number?_lower]

theorem booleanFlaw?_lower : booleanFlaw? (Text.lower value) = booleanFlaw? value := by
  rw [booleanFlaw?, booleanFlaw?, Text.lower_lower]

theorem dateFlaw?_lower : dateFlaw? (Text.lower value) = dateFlaw? value := by
  rw [dateFlaw?, dateFlaw?, Text.toList_lower, isCalendarExpression_lower, instant?_lower]

/-- The code of a value that does not fit says nothing of its spelling. -/
theorem code_invalid (flaw : Option ValueFlaw) :
    (flaw.map (invalid descriptor value)).map Issue.code = flaw.map fun _ => .invalidValue := by
  cases flaw <;> rfl

theorem code_checkEnum_lower :
    (checkEnum descriptor (Text.lower value)).map Issue.code =
      (checkEnum descriptor value).map Issue.code := by
  simp only [checkEnum, Text.lower_lower]
  split
  · rfl
  · split
    · rfl
    · split
      · rfl
      · split
        · rfl
        · split <;> rfl

theorem code_checkInterval_lower :
    (checkInterval descriptor (Text.lower value)).map Issue.code =
      (checkInterval descriptor value).map Issue.code := by
  simp only [checkInterval, Text.lower_lower, Text.toList_lower, isInterval_lower, Text.natural?_lower]
  split
  · rfl
  · split <;> rfl

theorem code_check_lower (notObject : descriptor.kind ≠ .object)
    (plain : descriptor.kind = .string → descriptor.pattern = none) :
    (check descriptor (Text.lower value)).map Issue.code = (check descriptor value).map Issue.code := by
  rw [check, check, Text.toList_lower, hasExpression_lower]
  split
  case isTrue => rfl
  case isFalse =>
    cases kind : descriptor.kind with
    | string => simp only [code_invalid, stringFlaw?_lower descriptor value (plain kind)]
    | number => simp only [code_invalid, numberFlaw?_lower]
    | integer => simp only [code_invalid, numberFlaw?_lower]
    | boolean => simp only [code_invalid, booleanFlaw?_lower]
    | enum => exact code_checkEnum_lower descriptor value
    | interval => exact code_checkInterval_lower descriptor value
    | date => simp only [code_invalid, dateFlaw?_lower]
    | object => exact absurd kind notObject

end Flaws

/-- Two spellings of a value that differ in the case of letters are both accepted, or both raise an
issue with one code. -/
theorem check_ignoresCase {descriptor : Descriptor} (notObject : descriptor.kind ≠ .object)
    (plain : descriptor.kind = .string → descriptor.pattern = none) {value other : String}
    (same : Text.equalIgnoringCase value other = true) :
    (check descriptor value).map Issue.code = (check descriptor other).map Issue.code := by
  rw [← code_check_lower descriptor value notObject plain,
    ← code_check_lower descriptor other notObject plain, Text.equalIgnoringCase_iff.mp same]

def startTime : Descriptor where
  displayName := "start-time"
  name := "starttime"
  kind := .date
  enumValues := []
  minimum := none
  maximum := none
  example? := none
  default? := none
  pattern := none
  excludes := []
  multiLine := false
  sections := []
  widgets := []
  description := none
  overrides := []

theorem check_ignoresCase_startTime :
    Text.equalIgnoringCase "2018-07-05T12:00:00Z" "2018-07-05t12:00:00z" = true ∧
    (check startTime "2018-07-05T12:00:00Z").map Issue.code =
      (check startTime "2018-07-05t12:00:00z").map Issue.code :=
  ⟨by decide, check_ignoresCase (by decide) (fun isString => absurd isString (by decide)) (by decide)⟩

end Value

end ChartLint
