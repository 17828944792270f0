import ChartLint.Proofs.Scope.Grammar
import Mathlib.Data.List.Chain
import Mathlib.Data.List.Forall2

/-!
Scope expressions as texts. The tokens of an expression may be written with any blanks around them, or
none, and the text reads as the expression.
-/
namespace ChartLint.Scope

namespace Token

/-- Whether the texts of two tokens can stand side by side without a blank. -/
def apart : Token → Token → Bool
  | identifier _, identifier _ => false
  | not, equal => false
  | _, _ => true

/-- The text of a token, and blanks behind it. -/
def Piece (token : Token) (piece : List Char × List Char) : Prop :=
  token.Written piece.1 ∧ ∀ c ∈ piece.2, Text.isBlank c = true

/-- Blanks, and then the pieces of a text. -/
def layout (blanks : List Char) (pieces : List (List Char × List Char)) : List Char :=
  blanks ++ pieces.flatMap fun piece => piece.1 ++ piece.2

theorem not_runsOn_nil (token : Token) : token.runsOn [] = false := by
  cases token <;> rfl

theorem not_runsOn_blank {c : Char} (isBlank : Text.isBlank c = true) (token : Token)
    (text : List Char) : token.runsOn (c :: text) = false := by
  cases token with
  | identifier name =>
    cases continues : continuesIdentifier c with
    | false => exact continues
    | true =>
      rw [not_isBlank_of_continuesIdentifier continues] at isBlank
      cases isBlank
  | not =>
    have other : c ≠ '=' := by
      rintro rfl
      cases isBlank
    simpa [runsOn] using other
  | literal | equal | notEqual | and | or | parenOpen | parenClose => rfl

theorem Written.not_runsOn {token next : Token} {word : List Char} (written : next.Written word)
    (h : apart token next = true) (text : List Char) : token.runsOn (word ++ text) = false := by
  cases token with
  | identifier name =>
    cases written with
    | identifier => cases h
    | literal isQuote => rcases isQuote with rfl | rfl <;> rfl
    | equal | notEqual | not | and | or | parenOpen | parenClose => rfl
  | not =>
    cases written with
    | @identifier c more starts =>
      have other : c ≠ '=' := by
        rintro rfl
        cases starts
      simpa [runsOn] using other
    | literal isQuote => rcases isQuote with rfl | rfl <;> rfl
    | equal => cases h
    | notEqual | not | and | or | parenOpen | parenClose => rfl
  | literal | equal | notEqual | and | or | parenOpen | parenClose => rfl

theorem Spelling.blanks {blanks text : List Char} {tokens : List Token}
    (areBlank : ∀ c ∈ blanks, Text.isBlank c = true) (h : Spelling tokens text) :
    Spelling tokens (blanks ++ text) := by
  induction blanks with
  | nil => exact h
  | cons c blanks ih =>
    obtain ⟨isBlank, areBlank⟩ := List.forall_mem_cons.mp areBlank
    exact .blank isBlank (ih areBlank)

/-- Tokens whose texts can stand side by side need no blanks between them. -/
theorem spelling_layout {tokens : List Token} {pieces : List (List Char × List Char)}
    (written : List.Forall₂ Piece tokens pieces)
    (areApart : tokens.IsChain fun token next => apart token next = true) {blanks : List Char}
    (areBlank : ∀ c ∈ blanks, Text.isBlank c = true) : Spelling tokens (layout blanks pieces) := by
  induction written generalizing blanks with
  | nil => exact .blanks areBlank .nil
  | @cons token piece tokens pieces isPiece areWritten ih =>
    obtain ⟨isWritten, areBehind⟩ := isPiece
    have isRest := ih areApart.tail areBehind
    have isText : layout blanks (piece :: pieces) = blanks ++ (piece.1 ++ layout piece.2 pieces) := by
      simp [layout]
    rw [isText]
    refine .blanks areBlank (.token isWritten ?_ isRest)
    rw [layout]
    cases isBehind : piece.2 with
    | cons c behind =>
      have isBlank := areBehind c (by simp [isBehind])
      exact not_runsOn_blank isBlank token _
    | nil =>
      -- Without blanks behind it, the token meets the text of the next one.
      cases areWritten with
      | nil => exact not_runsOn_nil token
      | @cons next nextPiece _ _ isNext _ =>
        have isApart : apart token next = true := areApart.rel
        have ends := isNext.1.not_runsOn isApart
        simpa using ends _

end Token

theorem Key.settingName_mem_names (key : Key) : key.settingName ∈ key.names := by
  cases key <;> decide

namespace Expr

/-! ### Derivations -/

/-- Tokens that can be written without blanks, and could follow a negation. -/
def Compact (tokens : List Token) : Prop :=
  tokens.IsChain (fun token next => Token.apart token next = true) ∧ tokens.head? ≠ some .equal

theorem Compact.cons {token : Token} {tokens : List Token} (h : Compact tokens)
    (isApart : ∀ next ∈ tokens.head?, Token.apart token next = true) (other : token ≠ .equal) :
    Compact (token :: tokens) :=
  ⟨List.isChain_cons.mpr ⟨isApart, h.1⟩, by simpa using other⟩

/-- Anything can stand before a joint or behind it, and a closing parenthesis is like a joint. -/
theorem Compact.join {joint : Token} (isJoint : joint = .and ∨ joint = .or ∨ joint = .parenClose)
    {left right : List Token} (isLeft : Compact left) (isRight : Compact right) :
    Compact (left ++ joint :: right) := by
  have behind (token : Token) : Token.apart token joint = true := by
    rcases isJoint with rfl | rfl | rfl <;> cases token <;> rfl
  have before (token : Token) : Token.apart joint token = true := by
    rcases isJoint with rfl | rfl | rfl <;> rfl
  have other : joint ≠ .equal := by rcases isJoint with rfl | rfl | rfl <;> decide
  have isRest := isRight.cons (fun next _ => before next) other
  constructor
  · apply List.isChain_append.mpr
    refine ⟨isLeft.1, isRest.1, fun token _ next isNext => ?_⟩
    obtain rfl := Option.some.inj isNext
    exact behind token
  · cases left with
    | nil => exact isRest.2
    | cons token left => exact isLeft.2

theorem compact_chainTokens {joint : Token} (isJoint : joint = .and ∨ joint = .or) {first : List Token}
    (isFirst : Compact first) {more : List (List Token × Expr)}
    (areCompact : ∀ part ∈ more, Compact part.1) : Compact (chainTokens joint first more) := by
  induction more generalizing first with
  | nil => simpa [chainTokens] using isFirst
  | cons part more ih =>
    obtain ⟨isPart, areCompact⟩ := List.forall_mem_cons.mp areCompact
    have isTokens : chainTokens joint first (part :: more) =
        chainTokens joint (first ++ joint :: part.1) more := by simp [chainTokens]
    rw [isTokens]
    exact ih (isFirst.join (isJoint.imp_right .inl) isPart) areCompact

theorem Derives.compact {level : Level} {tokens : List Token} {expr : Expr}
    (h : Derives level tokens expr) : Compact tokens := by
  induction h with
  | disjunction more _ _ isFirst areCompact => exact compact_chainTokens (.inr rfl) isFirst areCompact
  | conjunction more _ _ isFirst areCompact => exact compact_chainTokens (.inl rfl) isFirst areCompact
  | @not tokens _ _ ih =>
    -- `!` would run on into `==` only, and no operand starts with that.
    refine ih.cons (fun next isNext => ?_) (by decide)
    have other : next ≠ .equal := by
      rintro rfl
      exact ih.2 isNext
    cases next with
    | equal => exact absurd rfl other
    | _ => rfl
  | parentheses _ ih =>
    exact (ih.join (.inr (.inr rfl)) ⟨.nil, by simp⟩).cons (fun next _ => rfl) (by decide)
  | equal isName | notEqual isName =>
    refine ⟨?_, by simp⟩
    simp [Token.apart]

theorem Derives.disjunction_of_conjunction {tokens : List Token} {expr : Expr}
    (h : Derives .conjunction tokens expr) : Derives .disjunction tokens expr := by
  simpa [chainTokens, joinLeft] using Derives.disjunction [] h (List.forall_mem_nil _)

theorem Derives.conjunction_of_operand {tokens : List Token} {expr : Expr}
    (h : Derives .operand tokens expr) : Derives .conjunction tokens expr := by
  simpa [chainTokens, joinLeft] using Derives.conjunction [] h (List.forall_mem_nil _)

/-- The tokens of a derivation may be written with any blanks. -/
theorem parse_layout {tokens : List Token} {expr : Expr} (derived : Derives .disjunction tokens expr)
    {pieces : List (List Char × List Char)} (written : List.Forall₂ Token.Piece tokens pieces)
    {blanks : List Char} (areBlank : ∀ c ∈ blanks, Text.isBlank c = true) {text : String}
    (isText : text.toList = Token.layout blanks pieces) : parse text = .ok expr := by
  apply parse_eq_ok_iff.mpr
  refine ⟨tokens, ?_, derived⟩
  rw [isText, Token.list_eq_ok_iff]
  exact Token.spelling_layout written derived.compact.1 areBlank

/-! ### Tokens of expressions -/

def isComparison : Expr → Bool
  | equal .. | notEqual .. => true
  | _ => false

/-- The tokens of an operand, in parentheses unless it is a comparison. -/
def enclosed (operand : Expr) (tokens : List Token) : List Token :=
  if operand.isComparison then tokens else .parenOpen :: (tokens ++ [.parenClose])

def tokens : Expr → List Token
  | equal key literal => [.identifier key.settingName, .equal, .literal literal]
  | notEqual key literal => [.identifier key.settingName, .notEqual, .literal literal]
  | not operand => .not :: operand.enclosed operand.tokens
  | and left right => left.enclosed left.tokens ++ .and :: right.enclosed right.tokens
  | or left right => left.enclosed left.tokens ++ .or :: right.enclosed right.tokens

def literals : Expr → List String
  | equal _ literal | notEqual _ literal => [literal]
  | not operand => operand.literals
  | and left right | or left right => left.literals ++ right.literals

/-- The tokens of an expression derive it, and also with the parentheses that it has as an operand. -/
theorem derives_tokens (expr : Expr) :
    Derives .disjunction expr.tokens expr ∧ Derives .operand (expr.enclosed expr.tokens) expr := by
  induction expr with
  | equal key literal =>
    have bare : Derives .operand (tokens (.equal key literal)) (.equal key literal) :=
      .equal (Key.settingName_mem_names key)
    exact ⟨bare.conjunction_of_operand.disjunction_of_conjunction, bare⟩
  | notEqual key literal =>
    have bare : Derives .operand (tokens (.notEqual key literal)) (.notEqual key literal) :=
      .notEqual (Key.settingName_mem_names key)
    exact ⟨bare.conjunction_of_operand.disjunction_of_conjunction, bare⟩
  | not operand ih =>
    have whole := (Derives.not ih.2).conjunction_of_operand.disjunction_of_conjunction
    exact ⟨whole, .parentheses whole⟩
  | and left right ihLeft ihRight =>
    have whole : Derives .disjunction (tokens (.and left right)) (.and left right) := by
      have pair := Derives.conjunction [(right.enclosed right.tokens, right)] ihLeft.2
        (List.forall_mem_singleton.mpr ihRight.2)
      simpa [chainTokens, joinLeft, tokens] using pair.disjunction_of_conjunction
    exact ⟨whole, .parentheses whole⟩
  | or left right ihLeft ihRight =>
    have whole : Derives .disjunction (tokens (.or left right)) (.or left right) := by
      have pair := Derives.disjunction [(right.enclosed right.tokens, right)]
        ihLeft.2.conjunction_of_operand
        (List.forall_mem_singleton.mpr ihRight.2.conjunction_of_operand)
      simpa [chainTokens, joinLeft, tokens] using pair
    exact ⟨whole, .parentheses whole⟩

/-! ### Printing -/

/-- The texts that print an expression: keys under the names of their settings, literals in quotes that
they do not hold, parentheses around operands that are no comparisons, and blanks anywhere between. -/
def Printed (expr : Expr) (text : String) : Prop :=
  ∃ blanks pieces, (∀ c ∈ blanks, Text.isBlank c = true) ∧
    List.Forall₂ Token.Piece expr.tokens pieces ∧ text.toList = Token.layout blanks pieces

end Expr

/-- A quote that a literal does not hold, if there is one. -/
def quoteFor (literal : String) : Char := if '\x27' ∈ literal.toList then '"' else '\x27'

/-- A text of a token. -/
def Token.text : Token → List Char
  | identifier name => name.toList
  | literal text => quoteFor text :: (text.toList ++ [quoteFor text])
  | equal => ['=', '=']
  | notEqual => ['!', '=']
  | not => ['!']
  | and => ['&', '&']
  | or => ['|', '|']
  | parenOpen => ['(']
  | parenClose => [')']

namespace Expr

/-- An expression as a text, with the same blanks before, between and after its tokens. -/
def render (expr : Expr) (blanks : List Char) : String :=
  String.ofList (Token.layout blanks (expr.tokens.map fun token => (token.text, blanks)))

/-- No literal holds both kinds of quotes. -/
def Quotable (expr : Expr) : Prop :=
  ∀ literal ∈ expr.literals, ¬ ('\x27' ∈ literal.toList ∧ '"' ∈ literal.toList)

instance (expr : Expr) : Decidable expr.Quotable :=
  inferInstanceAs (Decidable (∀ literal ∈ expr.literals, _))

theorem mem_literals {expr : Expr} {literal : String} (h : .literal literal ∈ expr.tokens) :
    literal ∈ expr.literals := by
  induction expr <;> grind [tokens, literals, enclosed]

theorem exists_key_of_mem {expr : Expr} {name : String} (h : .identifier name ∈ expr.tokens) :
    ∃ key : Key, name = key.settingName := by
  induction expr <;> grind [tokens, enclosed]

theorem written_settingName (key : Key) :
    Token.Written (.identifier key.settingName) key.settingName.toList := by
  have written (c : Char) (more : List Char) (starts : Token.startsIdentifier c = true)
      (continues : more.all Token.continuesIdentifier = true) :
      Token.Written (.identifier (String.ofList (c :: more))) (c :: more) :=
    .identifier starts (List.all_eq_true.mp continues)
  cases key with
  | type => exact written 't' ['y', 'p', 'e'] rfl rfl
  | mode => exact written 'm' ['o', 'd', 'e'] rfl rfl

theorem written_literal {literal : String}
    (h : ¬ ('\x27' ∈ literal.toList ∧ '"' ∈ literal.toList)) :
    Token.Written (.literal literal) (Token.text (.literal literal)) := by
  have isQuote : quoteFor literal = '\x27' ∨ quoteFor literal = '"' := by
    rw [quoteFor]
    split
    · exact .inr rfl
    · exact .inl rfl
  have outside : quoteFor literal ∉ literal.toList := by
    rw [quoteFor]
    split
    case isTrue isHeld => exact fun other => h ⟨isHeld, other⟩
    case isFalse notHeld => exact notHeld
  have written := Token.Written.literal isQuote outside
  rwa [String.ofList_toList] at written

theorem written_text {expr : Expr} (h : expr.Quotable) {token : Token} (member : token ∈ expr.tokens) :
    token.Written token.text := by
  cases token with
  | identifier name =>
    obtain ⟨key, rfl⟩ := exists_key_of_mem member
    exact written_settingName key
  | literal literal => exact written_literal (h literal (mem_literals member))
  | equal => exact .equal
  | notEqual => exact .notEqual
  | not => exact .not
  | and => exact .and
  | or => exact .or
  | parenOpen => exact .parenOpen
  | parenClose => exact .parenClose

theorem printed_render {expr : Expr} (h : expr.Quotable) {blanks : List Char}
    (areBlank : ∀ c ∈ blanks, Text.isBlank c = true) : expr.Printed (expr.render blanks) := by
  refine ⟨blanks, expr.tokens.map fun token => (token.text, blanks), areBlank, ?_, ?_⟩
  · apply List.forall₂_map_right_iff.mpr
    apply List.forall₂_same.mpr
    exact fun token member => ⟨written_text h member, areBlank⟩
  · rw [render, String.toList_ofList]

/-- Every expression can be printed unless a literal holds both kinds of quotes, and reading any print
of it gives the expression back, so it evaluates as before. -/
theorem parse_printed {expr : Expr} (h : expr.Quotable) :
    (∀ blanks, (∀ c ∈ blanks, Text.isBlank c = true) → expr.Printed (expr.render blanks)) ∧
    ∀ text, expr.Printed text → parse text = .ok expr ∧
      ∀ scope, ∃ read, parse text = .ok read ∧ read.eval scope = expr.eval scope := by
  refine ⟨fun blanks => printed_render h, fun text printed => ?_⟩
  obtain ⟨blanks, pieces, areBlank, written, isText⟩ := printed
  have isRead := parse_layout (derives_tokens expr).1 written areBlank isText
  exact ⟨isRead, fun scope => ⟨expr, isRead, rfl⟩⟩

/-- Both kinds of quotes, though not in one literal, and a literal that looks like tokens. -/
def quoting : Expr :=
  .or (.not (.and (.equal .type "it\x27s") (.notEqual .mode "\"a\"&&!b"))) (.equal .mode "")

theorem parse_printed_quoting :
    quoting.Quotable ∧
      parse "(!(type==\"it\x27s\"&&mode!=\x27\"a\"&&!b\x27))||mode==\x27\x27" = .ok quoting ∧
      parse " ( ! ( type == \"it\x27s\" && mode != \x27\"a\"&&!b\x27 ) ) || mode == \x27\x27 " =
        .ok quoting := by
  have quotable : quoting.Quotable := by decide
  obtain ⟨printed, isRead⟩ := parse_printed quotable
  have compact := (isRead _ (printed [] (List.forall_mem_nil _))).1
  have spaced := (isRead _ (printed [' '] (List.forall_mem_singleton.mpr rfl))).1
  exact ⟨quotable, compact, spaced⟩

end Expr

end ChartLint.Scope
