import ChartLint.Instant
import ChartLint.Text.Blank
import ChartLint.Text.Digit

/-!
ISO dates: a day, possibly with a time of day, possibly with seconds, a fraction of a second and a
zone. The digits of every script have the right shape, but only ASCII digits are read as numbers.
-/
namespace ChartLint.Value

/-- The parts of an ISO date as written. -/
structure IsoDate where
  year : List Char
  month : List Char
  day : List Char
  hour : Option (List Char) := none
  minute : Option (List Char) := none
  second : Option (List Char) := none
  fraction : Option (List Char) := none
  zone : Option (List Char) := none
  deriving DecidableEq

namespace IsoDate

/-- A number of digits at the start of a text, and the text after them. -/
def digits? (count : Nat) (text : List Char) : Option (List Char × List Char) :=
  let digits := text.take count
  if digits.length = count ∧ digits.all Text.isDigit then some (digits, text.drop count) else none

/-- The text after a given character. -/
def after? (c : Char) : List Char → Option (List Char)
  | d :: rest => if d = c then some rest else none
  | [] => none

/-- Whether a text is a zone: the letter z, or a sign and four digits, possibly with a colon between. -/
def isZone : List Char → Bool
  | ['z'] | ['Z'] => true
  | sign :: a :: b :: ':' :: c :: d :: [] | sign :: a :: b :: c :: d :: [] =>
    (sign == '+' || sign == '-') && [a, b, c, d].all Text.isDigit
  | _ => false

/-- Reads the zone at the end of a date. -/
def readZone? (date : IsoDate) (text : List Char) : Option IsoDate :=
  if text.isEmpty then some date
  else if isZone text then some { date with zone := some text }
  else none

/-- Reads a fraction of a second of at most nine digits, and the zone. -/
def readFraction? (date : IsoDate) (text : List Char) : Option IsoDate :=
  match text with
  | '.' :: rest =>
    let digits := rest.takeWhile Text.isDigit
    if digits.isEmpty || 9 < digits.length then none
    else readZone? { date with fraction := some digits } (rest.dropWhile Text.isDigit)
  | text => readZone? date text

/-- Reads the seconds of a time and what follows. -/
def readSecond? (date : IsoDate) (text : List Char) : Option IsoDate :=
  match text with
  | ':' :: rest => do
    let (second, rest) ← digits? 2 rest
    readFraction? { date with second := some second } rest
  | text => readZone? date text

/-- Reads the time of day after a space or the letter t. -/
def readTime? (date : IsoDate) (text : List Char) : Option IsoDate :=
  match text with
  | [] => some date
  | mark :: rest =>
    if mark == ' ' || mark == 'T' || mark == 't' then do
      let (hour, rest) ← digits? 2 rest
      let rest ← after? ':' rest
      let (minute, rest) ← digits? 2 rest
      readSecond? { date with hour := some hour, minute := some minute } rest
    else none

/-- The parts of a text that has the shape of an ISO date. -/
def ofText? (text : List Char) : Option IsoDate := do
  let (year, rest) ← digits? 4 text
  let rest ← after? '-' rest
  let (month, rest) ← digits? 2 rest
  let rest ← after? '-' rest
  let (day, rest) ← digits? 2 rest
  readTime? { year, month, day } rest

/-- The number of a part of the time of day; an absent or unreadable part counts as zero. -/
def clockPart (part : Option (List Char)) : Nat := (part.bind Text.natural?).getD 0

/-- Nanoseconds of a fraction, whose digits are filled up with zeros. -/
def nanoseconds? (fraction : Option (List Char)) : Option Nat :=
  match fraction with
  | none => some 0
  | some digits => Text.natural? (digits ++ List.replicate (9 - digits.length) '0')

/-- Seconds that local time is ahead by in a zone. Hours are below 24 and minutes below 60. -/
def offset? (zone : List Char) : Option Int := do
  match zone.filter (· != ':') with
  | [sign, a, b, c, d] =>
    let hours ← Text.natural? [a, b]
    let minutes ← Text.natural? [c, d]
    if hours < 24 ∧ minutes < 60 then
      let seconds : Int := hours * 3600 + minutes * 60
      return if sign == '-' then -seconds else seconds
    else none
  | _ => return 0

/-- The instant of a date: local time less the offset of its zone. -/
def instant? (date : IsoDate) : Option Instant := do
  let year ← Text.natural? date.year
  let month ← Text.natural? date.month
  let dayOfMonth ← Text.natural? date.day
  let day : Date := ⟨year, month, dayOfMonth⟩
  let nanoseconds ← nanoseconds? date.fraction
  let hour := clockPart date.hour
  let minute := clockPart date.minute
  let second := clockPart date.second
  if day.isValid ∧ hour < 24 ∧ minute < 60 ∧ second < 60 then
    let seconds ← match date.zone with
      | some zone => offset? zone
      | none => some 0
    return (Instant.ofClock day hour minute second nanoseconds).back seconds
  else none

end IsoDate

/-- The instant that a value spells as an ISO date. -/
def instant? (value : String) : Option Instant :=
  (IsoDate.ofText? (Text.trim value.toList)).bind IsoDate.instant?

end ChartLint.Value
