import ChartLint.Number.Decimal

/-!
Numbers in values. Only ASCII digits are read.
-/
namespace ChartLint.Value

/-- Whether a text is a sign and digits. -/
def isInteger (text : List Char) : Bool :=
  let (_, rest) := Number.readSign text
  !rest.isEmpty && rest.all Char.isDigit

/-- Whether a text is a sign, digits with a point among or before them, and an exponent. -/
def isNumber (text : List Char) : Bool :=
  let (_, rest) := Number.readSign text
  match rest.dropWhile Char.isDigit with
  | '.' :: more =>
    !(more.takeWhile Char.isDigit).isEmpty &&
      (Number.readExponent? (more.dropWhile Char.isDigit)).isSome
  | after => !(rest.takeWhile Char.isDigit).isEmpty && (Number.readExponent? after).isSome

/-- The number that a value spells. -/
def number? (integer : Bool) (text : List Char) : Option Number.Binary64 :=
  if (if integer then isInteger text else isNumber text) then Number.ofText? text else none

end ChartLint.Value
