import ChartLint.Text.Word

/-!
Placeholders in values. An expression in braces after a dollar or an at sign is computed later; a bare
name in braces is a field of an address.
-/
namespace ChartLint.Value

def startsExpression (c : Char) : Bool := c == '$' || c == '@'

/-- Whether a value has an expression that is computed later. -/
def hasExpression : List Char → Bool
  | [] => false
  | c :: rest =>
    (startsExpression c && rest.head? == some '\x7b' && rest.contains '\x7d') || hasExpression rest

/-- Whether a text starts with a name in braces. -/
def startsWithField : List Char → Bool
  | '\x7b' :: rest =>
    rest.head?.any Text.isWord && (rest.dropWhile Text.isWord).head? == some '\x7d'
  | _ => false

/-- Whether a text has a field, given the character before it. -/
def hasFieldAfter (previous : Option Char) : List Char → Bool
  | [] => false
  | c :: rest =>
    (!previous.any startsExpression && startsWithField (c :: rest)) || hasFieldAfter (some c) rest

/-- Whether an address has a field. -/
def hasField (address : List Char) : Bool := hasFieldAfter none address

end ChartLint.Value
