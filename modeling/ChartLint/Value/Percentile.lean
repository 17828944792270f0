import ChartLint.Number.Decimal
import ChartLint.Text.Piece
import ChartLint.Value.Interval

/-!
Percentiles as statistics: the word with an argument in parentheses or, as was once written, after an
underscore.
-/
namespace ChartLint.Value

structure Percentile where
  argument : List Char
  /-- Whether the argument follows an underscore. -/
  deprecated : Bool
  deriving DecidableEq

namespace Percentile

def isArgument (text : List Char) : Bool := afterCount? text == some []

/-- The percentile that a text in lower case spells. -/
def ofText? (text : List Char) : Option Percentile :=
  match Text.after? "percentile".toList text with
  | some ('(' :: rest) =>
    if rest.getLast? == some ')' && isArgument rest.dropLast then some ⟨rest.dropLast, false⟩
    else none
  | some ('_' :: rest) => if isArgument rest then some ⟨rest, true⟩ else none
  | _ => none

/-- Whether the argument is a number from zero to a hundred. -/
def inRange (percentile : Percentile) : Bool :=
  (Number.ofText? percentile.argument).any fun n =>
    (Number.Binary64.zero false).atMost n && n.atMost (.ofNat 100)

end Percentile

end ChartLint.Value
