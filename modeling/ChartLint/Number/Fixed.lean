import ChartLint.Number.Shortest

/-!
Bounds in messages: six places at most, without zeros at the end.
-/
namespace ChartLint.Number

/-- A number rounded to six places, a half to the even digit, without zeros at the end and without a
sign when it rounds to zero. -/
def Binary64.rounded : Binary64 → String
  | nan => "NaN"
  | infinite negative => sign negative ++ "inf"
  | finite negative significand exponent =>
    let (n, d) := ratio significand exponent
    let millionths := roundHalfEven (n * 1000000) d
    if millionths = 0 then "0"
    else sign negative ++ (Decimal.reduce millionths (-6)).positional

end ChartLint.Number
