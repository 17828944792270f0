import ChartLint.Text.Blank

/-!
Tokens of scope expressions.
-/
namespace ChartLint.Scope

inductive Token where
  | identifier (name : String)
  | literal (text : String)
  | equal
  | notEqual
  | not
  | and
  | or
  | parenOpen
  | parenClose
  deriving DecidableEq

namespace Token

/-- A token as messages name it. -/
def describe : Token → String
  | identifier name => s!"identifier `{name}`"
  | literal text => s!"literal '{text}'"
  | equal => "`==`"
  | notEqual => "`!=`"
  | not => "`!`"
  | and => "`&&`"
  | or => "`||`"
  | parenOpen => "`(`"
  | parenClose => "`)`"

end Token

inductive LexError where
  /-- The quote at the offset is never closed. -/
  | unterminatedLiteral (offset : Nat)
  | unexpectedCharacter (c : Char) (offset : Nat)
  deriving DecidableEq

def LexError.message : LexError → String
  | unterminatedLiteral offset => s!"unterminated literal at offset {offset}"
  | unexpectedCharacter c offset => s!"unexpected character `{c}` at offset {offset}"

namespace Token

def startsIdentifier (c : Char) : Bool := c.isAlpha

def continuesIdentifier (c : Char) : Bool := c.isAlphanum || c == '_'

/-- The token that starts a text, and the number of characters it takes. -/
def read (offset : Nat) (c : Char) (rest : List Char) : Except LexError (Token × Nat) :=
  if c == '(' then .ok (.parenOpen, 1)
  else if c == ')' then .ok (.parenClose, 1)
  else if c == '=' && rest.head? == some '=' then .ok (.equal, 2)
  else if c == '!' then if rest.head? == some '=' then .ok (.notEqual, 2) else .ok (.not, 1)
  else if c == '&' && rest.head? == some '&' then .ok (.and, 2)
  else if c == '|' && rest.head? == some '|' then .ok (.or, 2)
  else if c == '\x27' || c == '"' then
    let text := rest.takeWhile (· != c)
    if text.length < rest.length then .ok (.literal (String.ofList text), text.length + 2)
    else .error (.unterminatedLiteral offset)
  else if startsIdentifier c then
    let more := rest.takeWhile continuesIdentifier
    .ok (.identifier (String.ofList (c :: more)), more.length + 1)
  else .error (.unexpectedCharacter c offset)

/-- The tokens of a text at an offset, of which a number of characters belong to the token before. -/
def listFrom (offset skip : Nat) : List Char → Except LexError (List Token)
  | [] => .ok []
  | c :: rest =>
    let next := offset + c.utf8Size
    if 0 < skip then listFrom next (skip - 1) rest
    else if Text.isBlank c then listFrom next 0 rest
    else
      match read offset c rest with
      | .error error => .error error
      | .ok (token, count) =>
        match listFrom next (count - 1) rest with
        | .error error => .error error
        | .ok tokens => .ok (token :: tokens)

/-- The tokens of an expression; blanks between them are skipped. -/
def list (source : List Char) : Except LexError (List Token) := listFrom 0 0 source

end Token

end ChartLint.Scope
