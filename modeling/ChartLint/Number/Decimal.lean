import ChartLint.Number.Binary64
import ChartLint.Text.Digit

/-!
Decimal notation: the floating-point number nearest to a decimal, and the reading of numerals.
-/
namespace ChartLint.Number

/-- Number of decimal digits; zero has none. -/
def digitCount (n : Nat) : Nat :=
  if n = 0 then 0 else digitCount (n / 10) + 1

/-- The number nearest to `±digits * 10 ^ exponent`. Beyond 310 places before the point all numbers
are infinite, and below 330 places after it all are zero. -/
def ofDecimal (negative : Bool) (digits : Nat) (exponent : Int) : Binary64 :=
  let places := exponent + digitCount digits
  if digits = 0 ∨ places < -330 then .zero negative
  else if 310 < places then .infinite negative
  else if 0 ≤ exponent then .ofRatio negative (digits * Nat.pow 10 exponent.toNat) 1
  else .ofRatio negative digits (Nat.pow 10 (-exponent).toNat)

/-- Whether a numeral starts with a minus, and the text after its sign. -/
def readSign : List Char → Bool × List Char
  | '-' :: rest => (true, rest)
  | '+' :: rest => (false, rest)
  | rest => (false, rest)

/-- The exponent that a numeral ends with: none, or a mark, a sign and digits. -/
def readExponent? : List Char → Option Int
  | [] => some 0
  | mark :: rest =>
    if mark == 'e' || mark == 'E' then
      let (negative, digits) := readSign rest
      (Text.natural? digits).map fun n => if negative then -n else n
    else none

/-- The number that a text spells: a sign, then infinity, a number that is none, or digits with a
point among or around them and an exponent. -/
def ofText? (text : List Char) : Option Binary64 :=
  let (negative, rest) := readSign text
  let word := String.ofList (rest.map Char.toLower)
  if word = "inf" ∨ word = "infinity" then some (.infinite negative)
  else if word = "nan" then some .nan
  else
    let whole := rest.takeWhile Char.isDigit
    let afterWhole := rest.dropWhile Char.isDigit
    let (fraction, afterFraction) :=
      match afterWhole with
      | '.' :: more => (more.takeWhile Char.isDigit, more.dropWhile Char.isDigit)
      | _ => ([], afterWhole)
    let digits := whole ++ fraction
    if digits.isEmpty then none
    else
      (readExponent? afterFraction).map fun exponent =>
        ofDecimal negative (Text.digitsValue digits) (exponent - fraction.length)

end ChartLint.Number
