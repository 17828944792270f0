import ChartLint.Scope.Expr
import ChartLint.Scope.Token

/-!
The grammar of scope expressions: `||` joins conjunctions, `&&` joins operands, both to the left; an
operand is a negated operand, an expression in parentheses, or a comparison of a key with a literal.
-/
namespace ChartLint.Scope

inductive ParseError where
  | lexical (error : LexError)
  /-- A closing parenthesis is missing before a token, or before the end. -/
  | expectedClose (found : Option Token)
  | expectedComparison (found : Option Token)
  | expectedLiteral (found : Option Token)
  | unknownKey (name : String)
  /-- No operand starts with the token, or none is left. -/
  | unexpected (found : Option Token)
  /-- A token follows a complete expression. -/
  | trailing (token : Token)
  deriving DecidableEq

namespace ParseError

def describe (found : Option Token) : String :=
  match found with
  | some token => token.describe
  | none => "end of expression"

def message : ParseError → String
  | lexical error => error.message
  | expectedClose found => s!"expected `)`, found {describe found}"
  | expectedComparison found => s!"expected `==` or `!=`, found {describe found}"
  | expectedLiteral found => s!"expected literal, found {describe found}"
  | unknownKey name => s!"unknown scope key `{name}`"
  | unexpected found => s!"unexpected {describe found}"
  | trailing token => s!"unexpected {token.describe} after expression"

end ParseError

namespace Expr

/-- An expression read from fewer than a number of tokens, and the tokens left. -/
structure Parsed (bound : Nat) where
  expr : Expr
  rest : List Token
  shorter : rest.length < bound

/-- Reads the comparison of a named key. -/
def comparison (name : String) (tokens : List Token) :
    Except ParseError (Parsed (tokens.length + 1)) :=
  match Key.ofName? name with
  | none => .error (.unknownKey name)
  | some key =>
    match tokens with
    | .equal :: .literal text :: rest =>
      .ok ⟨.equal key text, rest, by simp only [List.length_cons]; omega⟩
    | .notEqual :: .literal text :: rest =>
      .ok ⟨.notEqual key text, rest, by simp only [List.length_cons]; omega⟩
    | .equal :: rest | .notEqual :: rest => .error (.expectedLiteral rest.head?)
    | rest => .error (.expectedComparison rest.head?)

mutual

/-- Reads conjunctions joined by `||`. -/
def disjunction (tokens : List Token) : Except ParseError (Parsed tokens.length) :=
  match conjunction tokens with
  | .error error => .error error
  | .ok ⟨first, rest, _⟩ =>
    match disjunctionRest first rest with
    | .error error => .error error
    | .ok ⟨expr, rest, _⟩ => .ok ⟨expr, rest, by omega⟩
termination_by 3 * tokens.length + 2

/-- Joins further conjunctions to what was read before. -/
def disjunctionRest (left : Expr) (tokens : List Token) :
    Except ParseError (Parsed (tokens.length + 1)) :=
  match tokens with
  | .or :: rest =>
    match conjunction rest with
    | .error error => .error error
    | .ok ⟨right, rest, _⟩ =>
      match disjunctionRest (.or left right) rest with
      | .error error => .error error
      | .ok ⟨expr, rest, _⟩ => .ok ⟨expr, rest, by simp only [List.length_cons]; omega⟩
  | rest => .ok ⟨left, rest, Nat.lt_succ_self _⟩
termination_by 3 * tokens.length

/-- Reads operands joined by `&&`. -/
def conjunction (tokens : List Token) : Except ParseError (Parsed tokens.length) :=
  match operand tokens with
  | .error error => .error error
  | .ok ⟨first, rest, _⟩ =>
    match conjunctionRest first rest with
    | .error error => .error error
    | .ok ⟨expr, rest, _⟩ => .ok ⟨expr, rest, by omega⟩
termination_by 3 * tokens.length + 1

/-- Joins further operands to what was read before. -/
def conjunctionRest (left : Expr) (tokens : List Token) :
    Except ParseError (Parsed (tokens.length + 1)) :=
  match tokens with
  | .and :: rest =>
    match operand rest with
    | .error error => .error error
    | .ok ⟨right, rest, _⟩ =>
      match conjunctionRest (.and left right) rest with
      | .error error => .error error
      | .ok ⟨expr, rest, _⟩ => .ok ⟨expr, rest, by simp only [List.length_cons]; omega⟩
  | rest => .ok ⟨left, rest, Nat.lt_succ_self _⟩
termination_by 3 * tokens.length

/-- Reads a negated operand, an expression in parentheses, or a comparison. -/
def operand (tokens : List Token) : Except ParseError (Parsed tokens.length) :=
  match tokens with
  | .not :: rest =>
    match operand rest with
    | .error error => .error error
    | .ok ⟨expr, rest, _⟩ => .ok ⟨.not expr, rest, by simp only [List.length_cons]; omega⟩
  | .parenOpen :: rest =>
    match disjunction rest with
    | .error error => .error error
    | .ok ⟨expr, after, shorter⟩ =>
      match after, shorter with
      | .parenClose :: rest, shorter =>
        .ok ⟨expr, rest, by simp only [List.length_cons] at *; omega⟩
      | rest, _ => .error (.expectedClose rest.head?)
  | .identifier name :: rest => comparison name rest
  | rest => .error (.unexpected rest.head?)
termination_by 3 * tokens.length

end

/-- The expression that a list of tokens spells. -/
def ofTokens (tokens : List Token) : Except ParseError Expr :=
  match disjunction tokens with
  | .error error => .error error
  | .ok ⟨expr, rest, _⟩ =>
    match rest with
    | [] => .ok expr
    | token :: _ => .error (.trailing token)

/-- The expression that a text spells. -/
def parse (source : String) : Except ParseError Expr :=
  match Token.list source.toList with
  | .error error => .error (.lexical error)
  | .ok tokens => ofTokens tokens

end Expr

end ChartLint.Scope
