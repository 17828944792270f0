import ChartLint.Text.Blank
import ChartLint.Text.Case
import ChartLint.Text.Digit

/-!
Durations and calendar expressions. A count has digits and possibly a fraction; a unit is in the
singular or the plural, in any letter case.
-/
namespace ChartLint.Value

def units : List String := [
  "nanosecond", "millisecond", "second", "minute", "hour", "day", "week", "month", "quarter", "year"]

/-- Whether a text spells one of some words, with or without an s at its end. -/
def isUnitOf (words : List String) (text : List Char) : Bool :=
  words.any fun word => Text.spells text word || Text.spells text (word ++ "s")

/-- The text after a count. -/
def afterCount? (text : List Char) : Option (List Char) :=
  let rest := text.dropWhile Text.isDigit
  if (text.takeWhile Text.isDigit).isEmpty then none
  else
    match rest with
    | '.' :: more =>
      if (more.takeWhile Text.isDigit).isEmpty then none else some (more.dropWhile Text.isDigit)
    | rest => some rest

/-- Whether a text is a count, spaces or tabs, and a unit. -/
def isInterval (text : List Char) : Bool :=
  match afterCount? text with
  | some rest => rest.head?.any Text.isIndent && isUnitOf units (rest.dropWhile Text.isIndent)
  | none => false

/-- Words that a calendar expression starts with. -/
def calendarWords : List String :=
  ["now", "today", "yesterday", "tomorrow", "first_day", "first_working_day",
    "first_vacation_day", "last_working_day", "last_vacation_day", "monday", "tuesday", "wednesday",
    "thursday", "friday", "saturday", "sunday", "mon", "tue", "wed", "thu", "fri", "sat", "sun"] ++
  ["previous", "current", "next"].flatMap fun which =>
    ["minute", "hour", "day", "week", "month", "quarter", "year"].map fun unit =>
      which ++ "_" ++ unit

/-- Units that a calendar expression counts in. -/
def calendarUnits : List String := units ++ ["working_day"]

/-- Ends a word of a calendar expression: a space, a tab or a sign. -/
def endsTerm (c : Char) : Bool := Text.isIndent c || c == '+' || c == '-'

/-- The text after a signed term: a sign, a count, an asterisk and a unit, with spaces and tabs
between. -/
def afterTerm? (text : List Char) : Option (List Char) :=
  match text.dropWhile Text.isIndent with
  | [] => none
  | sign :: rest =>
    if sign == '+' || sign == '-' then
      match afterCount? (rest.dropWhile Text.isIndent) with
      | none => none
      | some rest =>
        match rest.dropWhile Text.isIndent with
        | '*' :: rest =>
          let rest := rest.dropWhile Text.isIndent
          if isUnitOf calendarUnits (rest.takeWhile fun c => !endsTerm c) then
            some (rest.dropWhile fun c => !endsTerm c)
          else none
        | _ => none
    else none

/-- Whether a text consists of signed terms, of which there are at most as many as given. -/
def areTerms : Nat → List Char → Bool
  | _, [] => true
  | 0, _ :: _ => false
  | limit + 1, text =>
    match afterTerm? text with
    | some rest => areTerms limit rest
    | none => false

/-- Whether a text is a calendar expression: a word and any number of signed terms. -/
def isCalendarExpression (text : List Char) : Bool :=
  let word := text.takeWhile fun c => !endsTerm c
  calendarWords.any (Text.spells word) &&
    areTerms text.length (text.dropWhile fun c => !endsTerm c)

end ChartLint.Value
