import ChartLint.Proofs.Scope.Spelling
import ChartLint.Scope.Parser

/-!
The grammar of scope expressions. A text is accepted if and only if its tokens derive from the
grammar, and then it is read as the expression that they derive.
-/
namespace ChartLint.Scope

/-- The identifiers that stand for a key. -/
def Key.names : Key → List String
  | type => ["type", "widgetType", "widgettype"]
  | mode => ["mode"]

theorem Key.ofName?_eq_some_iff {name : String} {key : Key} :
    Key.ofName? name = some key ↔ name ∈ key.names := by
  unfold Key.ofName?
  split <;> cases key <;> simp_all [Key.names]

namespace Expr

/-- What the rules of the grammar define. -/
inductive Level where
  | disjunction
  | conjunction
  | operand

/-- The tokens of a chain: those of its first part, and of each further part behind a joint. -/
def chainTokens (joint : Token) (first : List Token) (more : List (List Token × Expr)) : List Token :=
  first ++ more.flatMap fun part => joint :: part.1

/-- The parts of a chain, joined to the left. -/
def joinLeft (join : Expr → Expr → Expr) (first : Expr) (more : List (List Token × Expr)) : Expr :=
  more.foldl (fun left part => join left part.2) first

/-- The grammar. Disjunctions are chains of conjunctions, and these are chains of operands. -/
inductive Derives : Level → List Token → Expr → Prop
  | disjunction {tokens : List Token} {first : Expr} (more : List (List Token × Expr)) :
      Derives .conjunction tokens first → (∀ part ∈ more, Derives .conjunction part.1 part.2) →
      Derives .disjunction (chainTokens .or tokens more) (joinLeft .or first more)
  | conjunction {tokens : List Token} {first : Expr} (more : List (List Token × Expr)) :
      Derives .operand tokens first → (∀ part ∈ more, Derives .operand part.1 part.2) →
      Derives .conjunction (chainTokens .and tokens more) (joinLeft .and first more)
  | not {tokens : List Token} {expr : Expr} :
      Derives .operand tokens expr → Derives .operand (.not :: tokens) (.not expr)
  | parentheses {tokens : List Token} {expr : Expr} :
      Derives .disjunction tokens expr →
      Derives .operand (.parenOpen :: (tokens ++ [.parenClose])) expr
  | equal {name text : String} {key : Key} (isName : name ∈ key.names) :
      Derives .operand [.identifier name, .equal, .literal text] (.equal key text)
  | notEqual {name text : String} {key : Key} (isName : name ∈ key.names) :
      Derives .operand [.identifier name, .notEqual, .literal text] (.notEqual key text)

/-! ### What one step reads -/

/-- An answer that is an expression and tokens left. -/
def Gives {bound : Nat} (answer : Except ParseError (Parsed bound)) (expr : Expr)
    (rest : List Token) : Prop :=
  ∃ shorter, answer = .ok ⟨expr, rest, shorter⟩

section

variable {bound : Nat} {expr other : Expr} {tokens rest after : List Token}

@[simp] theorem gives_ok {parsed : Parsed bound} :
    Gives (.ok parsed) expr rest ↔ parsed.expr = expr ∧ parsed.rest = rest := by
  constructor
  · rintro ⟨_, same⟩
    cases same
    exact ⟨rfl, rfl⟩
  · rintro ⟨rfl, rfl⟩
    exact ⟨parsed.shorter, rfl⟩

@[simp] theorem not_gives_error {error : ParseError} :
    ¬ Gives (.error error : Except ParseError (Parsed bound)) expr rest := by
  rintro ⟨_, same⟩
  cases same

theorem exists_gives_ok {parsed : Parsed bound} {p : Expr → List Token → Prop} :
    (∃ expr rest, Gives (.ok parsed) expr rest ∧ p expr rest) ↔ p parsed.expr parsed.rest := by
  simp [and_assoc]

/-- What is read at a level from the start of the tokens. -/
def Level.Reads : Level → List Token → Expr → List Token → Prop
  | disjunction, tokens => Gives (Expr.disjunction tokens)
  | conjunction, tokens => Gives (Expr.conjunction tokens)
  | operand, tokens => Gives (Expr.operand tokens)

/-- How a level reads chains of parts of another level: a first part, and then a loop that reads a part
behind each joint and joins it to what was read before. -/
structure Chain (level parts : Level) (joint : Token) (join : Expr → Expr → Expr)
    (loop : Expr → List Token → Expr → List Token → Prop) : Prop where
  start (tokens : List Token) (expr : Expr) (rest : List Token) :
    level.Reads tokens expr rest ↔
      ∃ first after, parts.Reads tokens first after ∧ loop first after expr rest
  next (left : Expr) (tokens : List Token) (expr : Expr) (rest : List Token) :
    loop left (joint :: tokens) expr rest ↔
      ∃ right after, parts.Reads tokens right after ∧ loop (join left right) after expr rest
  stop (left : Expr) {tokens : List Token} (other : tokens.head? ≠ some joint) (expr : Expr)
    (rest : List Token) : loop left tokens expr rest ↔ left = expr ∧ tokens = rest

theorem chain_disjunction :
    Chain .disjunction .conjunction .or .or fun left tokens =>
      Gives (disjunctionRest left tokens) where
  start tokens expr rest := by
    simp only [Level.Reads]
    rw [disjunction]
    cases conjunction tokens with
    | error => simp
    | ok first =>
      obtain ⟨first, after, _⟩ := first
      rw [exists_gives_ok]
      dsimp only
      cases disjunctionRest first after <;> simp
  next left tokens expr rest := by
    simp only [Level.Reads]
    rw [disjunctionRest]
    cases conjunction tokens with
    | error => simp
    | ok right =>
      obtain ⟨right, after, _⟩ := right
      rw [exists_gives_ok]
      dsimp only
      cases disjunctionRest (.or left right) after <;> simp
  stop left tokens other expr rest := by
    rw [disjunctionRest]
    · exact gives_ok
    · rintro more rfl
      exact other rfl

theorem chain_conjunction :
    Chain .conjunction .operand .and .and fun left tokens =>
      Gives (conjunctionRest left tokens) where
  start tokens expr rest := by
    simp only [Level.Reads]
    rw [conjunction]
    cases operand tokens with
    | error => simp
    | ok first =>
      obtain ⟨first, after, _⟩ := first
      rw [exists_gives_ok]
      dsimp only
      cases conjunctionRest first after <;> simp
  next left tokens expr rest := by
    simp only [Level.Reads]
    rw [conjunctionRest]
    cases operand tokens with
    | error => simp
    | ok right =>
      obtain ⟨right, after, _⟩ := right
      rw [exists_gives_ok]
      dsimp only
      cases conjunctionRest (.and left right) after <;> simp
  stop left tokens other expr rest := by
    rw [conjunctionRest]
    · exact gives_ok
    · rintro more rfl
      exact other rfl

theorem reads_not :
    Level.operand.Reads (.not :: tokens) expr rest ↔
      ∃ inner, Level.operand.Reads tokens inner rest ∧ .not inner = expr := by
  simp only [Level.Reads]
  rw [operand]
  cases operand tokens with
  | error => simp
  | ok inner => simp [and_assoc, and_comm]

theorem reads_parentheses :
    Level.operand.Reads (.parenOpen :: tokens) expr rest ↔
      Level.disjunction.Reads tokens expr (.parenClose :: rest) := by
  simp only [Level.Reads]
  rw [operand]
  cases disjunction tokens with
  | error => simp
  | ok inner =>
    obtain ⟨inner, after, _⟩ := inner
    cases after with
    | nil => simp
    | cons token after => cases token <;> simp

theorem reads_identifier {name : String} :
    Level.operand.Reads (.identifier name :: tokens) expr rest ↔
      ∃ key text, name ∈ key.names ∧
        (tokens = .equal :: .literal text :: rest ∧ .equal key text = expr ∨
          tokens = .notEqual :: .literal text :: rest ∧ .notEqual key text = expr) := by
  simp only [Level.Reads, ← Key.ofName?_eq_some_iff]
  rw [operand, comparison]
  cases Key.ofName? name with
  | none => simp
  | some key =>
    dsimp only
    split <;> simp only [gives_ok, not_gives_error, Option.some.injEq] <;> grind

theorem reads_operand (h : Level.operand.Reads tokens expr rest) :
    ∃ token after, tokens = token :: after ∧
      (token = .not ∨ token = .parenOpen ∨ ∃ name, token = .identifier name) := by
  simp only [Level.Reads] at h
  unfold operand at h
  split at h
  case h_1 after => exact ⟨_, after, rfl, .inl rfl⟩
  case h_2 after => exact ⟨_, after, rfl, .inr (.inl rfl)⟩
  case h_3 name after => exact ⟨_, after, rfl, .inr (.inr ⟨name, rfl⟩)⟩
  case h_4 => exact absurd h not_gives_error

end

/-! ### What is read derives -/

/-- What is read at a level derives at the level. -/
def Level.Sound (level : Level) (tokens : List Token) : Prop :=
  ∀ expr rest, level.Reads tokens expr rest → ∃ used, tokens = used ++ rest ∧ Derives level used expr

namespace Chain

variable {level parts : Level} {joint : Token} {join : Expr → Expr → Expr}
  {loop : Expr → List Token → Expr → List Token → Prop}

/-- The loop reads the further parts of a chain. -/
theorem exists_more (chain : Chain level parts joint join loop) {left expr : Expr}
    {tokens rest : List Token}
    (shorter : ∀ others, others.length < tokens.length → parts.Sound others)
    (h : loop left tokens expr rest) :
    ∃ more, (∀ part ∈ more, Derives parts part.1 part.2) ∧
      tokens = chainTokens joint [] more ++ rest ∧ joinLeft join left more = expr := by
  -- Not on the tokens themselves: the loop goes on behind a whole part.
  induction isLength : tokens.length using Nat.strong_induction_on generalizing left tokens with
  | _ length ih =>
    subst isLength
    by_cases isJoint : tokens.head? = some joint
    · obtain ⟨others, rfl⟩ := List.head?_eq_some_iff.mp isJoint
      obtain ⟨right, after, isPart, isMore⟩ := (chain.next left others expr rest).mp h
      obtain ⟨used, rfl, derived⟩ := shorter others (Nat.lt_succ_self _) right after isPart
      have fewer : after.length < (joint :: (used ++ after)).length := by
        simp only [List.length_cons, List.length_append]
        omega
      obtain ⟨more, areDerived, rfl, rfl⟩ := ih after.length fewer
        (fun others less => shorter others (less.trans fewer)) isMore rfl
      refine ⟨(used, right) :: more, List.forall_mem_cons.mpr ⟨derived, areDerived⟩, ?_, rfl⟩
      simp [chainTokens]
    · obtain ⟨rfl, rfl⟩ := (chain.stop left isJoint expr rest).mp h
      exact ⟨[], List.forall_mem_nil _, rfl, rfl⟩

theorem sound (chain : Chain level parts joint join loop)
    (derives : ∀ {tokens first} more, Derives parts tokens first →
      (∀ part ∈ more, Derives parts part.1 part.2) →
      Derives level (chainTokens joint tokens more) (joinLeft join first more))
    {tokens : List Token} (shorter : ∀ others, others.length ≤ tokens.length → parts.Sound others) :
    level.Sound tokens := by
  intro expr rest h
  obtain ⟨first, after, isFirst, isMore⟩ := (chain.start tokens expr rest).mp h
  obtain ⟨used, rfl, derived⟩ := shorter tokens le_rfl first after isFirst
  have fewer : after.length ≤ (used ++ after).length := by simp
  obtain ⟨more, areDerived, rfl, rfl⟩ :=
    chain.exists_more (fun others less => shorter others (less.le.trans fewer)) isMore
  exact ⟨_, by simp [chainTokens], derives more derived areDerived⟩

end Chain

theorem sound_operand {tokens : List Token}
    (shorter : ∀ (level : Level) others, others.length < tokens.length → level.Sound others) :
    Level.operand.Sound tokens := by
  intro expr rest h
  obtain ⟨token, after, rfl, rfl | rfl | ⟨name, rfl⟩⟩ := reads_operand h
  · obtain ⟨inner, isInner, rfl⟩ := reads_not.mp h
    obtain ⟨used, rfl, derived⟩ := shorter .operand after (Nat.lt_succ_self _) inner rest isInner
    exact ⟨_, rfl, .not derived⟩
  · obtain ⟨used, rfl, derived⟩ :=
      shorter .disjunction after (Nat.lt_succ_self _) expr _ (reads_parentheses.mp h)
    exact ⟨_, by simp, .parentheses derived⟩
  · obtain ⟨key, text, isName, ⟨rfl, rfl⟩ | ⟨rfl, rfl⟩⟩ := reads_identifier.mp h
    · exact ⟨_, rfl, .equal isName⟩
    · exact ⟨_, rfl, .notEqual isName⟩

/-- By induction on the number of tokens, and in each step from operands up. -/
theorem sound (level : Level) (tokens : List Token) : level.Sound tokens := by
  induction isLength : tokens.length using Nat.strong_induction_on generalizing level tokens with
  | _ length ih =>
    subst isLength
    have shorter (level : Level) (others : List Token) (less : others.length < tokens.length) :
        level.Sound others := ih others.length less level others rfl
    have operands (others : List Token) (less : others.length ≤ tokens.length) :
        Level.operand.Sound others :=
      sound_operand fun level more fewer => shorter level more (fewer.trans_le less)
    have conjunctions (others : List Token) (less : others.length ≤ tokens.length) :
        Level.conjunction.Sound others :=
      chain_conjunction.sound .conjunction fun more fewer => operands more (fewer.trans less)
    cases level with
    | operand => exact operands tokens le_rfl
    | conjunction => exact conjunctions tokens le_rfl
    | disjunction => exact chain_disjunction.sound .disjunction conjunctions

/-! ### What derives is read -/

/-- Tokens that do not go on with what was derived at a level. -/
def Level.Follows : Level → List Token → Prop
  | operand, _ => True
  | conjunction, rest => rest.head? ≠ some .and
  | disjunction, rest => rest.head? ≠ some .or ∧ rest.head? ≠ some .and

/-- Tokens that are read as an expression, with anything behind them that does not go on with it. -/
def Level.ReadAs (level : Level) (tokens : List Token) (expr : Expr) : Prop :=
  ∀ rest, level.Follows rest → level.Reads (tokens ++ rest) expr rest

namespace Chain

variable {level parts : Level} {joint : Token} {join : Expr → Expr → Expr}
  {loop : Expr → List Token → Expr → List Token → Prop} {more : List (List Token × Expr)}
  {rest : List Token}

theorem follows_more (behind : ∀ tokens, parts.Follows (joint :: tokens)) (follows : parts.Follows rest)
    (more : List (List Token × Expr)) : parts.Follows (chainTokens joint [] more ++ rest) := by
  cases more with
  | nil => exact follows
  | cons part more => exact behind _

theorem loop_more (chain : Chain level parts joint join loop)
    (behind : ∀ tokens, parts.Follows (joint :: tokens)) (follows : parts.Follows rest)
    (other : rest.head? ≠ some joint) (areRead : ∀ part ∈ more, parts.ReadAs part.1 part.2)
    (left : Expr) : loop left (chainTokens joint [] more ++ rest) (joinLeft join left more) rest := by
  induction more generalizing left with
  | nil => exact (chain.stop left other left rest).mpr ⟨rfl, rfl⟩
  | cons part more ih =>
    obtain ⟨isRead, areRead⟩ := List.forall_mem_cons.mp areRead
    have isPart := isRead _ (follows_more behind follows more)
    have isMore := ih areRead (join left part.2)
    have isTokens : chainTokens joint [] (part :: more) ++ rest =
        joint :: (part.1 ++ (chainTokens joint [] more ++ rest)) := by simp [chainTokens]
    rw [isTokens]
    exact (chain.next left _ _ rest).mpr ⟨part.2, _, isPart, isMore⟩

theorem reads_append (chain : Chain level parts joint join loop)
    (behind : ∀ tokens, parts.Follows (joint :: tokens)) (follows : parts.Follows rest)
    (other : rest.head? ≠ some joint) {tokens : List Token} {first : Expr}
    (isFirst : parts.ReadAs tokens first) (areRead : ∀ part ∈ more, parts.ReadAs part.1 part.2) :
    level.Reads (chainTokens joint tokens more ++ rest) (joinLeft join first more) rest := by
  have isTokens : chainTokens joint tokens more ++ rest =
      tokens ++ (chainTokens joint [] more ++ rest) := by simp [chainTokens]
  rw [isTokens]
  apply (chain.start _ _ rest).mpr
  exact ⟨first, _, isFirst _ (follows_more behind follows more),
    chain.loop_more behind follows other areRead first⟩

end Chain

theorem Derives.readAs {level : Level} {tokens : List Token} {expr : Expr}
    (h : Derives level tokens expr) : level.ReadAs tokens expr := by
  induction h with
  | disjunction more _ _ isFirst areRead =>
    intro rest follows
    exact chain_disjunction.reads_append (fun _ => by simp [Level.Follows]) follows.2 follows.1 isFirst
      areRead
  | conjunction more _ _ isFirst areRead =>
    intro rest follows
    exact chain_conjunction.reads_append (fun _ => trivial) trivial follows isFirst areRead
  | not _ ih =>
    intro rest _
    exact reads_not.mpr ⟨_, ih rest trivial, rfl⟩
  | @parentheses tokens expr _ ih =>
    intro rest _
    -- A closing parenthesis goes on with no level, so what is inside ends there.
    have isInner := ih (.parenClose :: rest) (by simp [Level.Follows])
    rw [List.cons_append, List.append_assoc]
    exact reads_parentheses.mpr isInner
  | equal isName =>
    intro rest _
    exact reads_identifier.mpr ⟨_, _, isName, .inl ⟨rfl, rfl⟩⟩
  | notEqual isName =>
    intro rest _
    exact reads_identifier.mpr ⟨_, _, isName, .inr ⟨rfl, rfl⟩⟩

/-! ### Whole texts -/

theorem ofTokens_eq_ok_iff_reads {tokens : List Token} {expr : Expr} :
    ofTokens tokens = .ok expr ↔ Level.disjunction.Reads tokens expr [] := by
  simp only [ofTokens, Level.Reads]
  cases disjunction tokens with
  | error => simp
  | ok parsed =>
    obtain ⟨other, rest, _⟩ := parsed
    cases rest <;> simp

/-- Tokens spell an expression if and only if they derive it. -/
theorem ofTokens_eq_ok_iff {tokens : List Token} {expr : Expr} :
    ofTokens tokens = .ok expr ↔ Derives .disjunction tokens expr := by
  rw [ofTokens_eq_ok_iff_reads]
  constructor
  · intro h
    obtain ⟨used, rfl, derived⟩ := sound .disjunction tokens expr [] h
    rwa [List.append_nil]
  · intro derived
    have h := derived.readAs [] (by simp [Level.Follows])
    rwa [List.append_nil] at h

theorem parse_eq_ok_iff {source : String} {expr : Expr} :
    parse source = .ok expr ↔
      ∃ tokens, Token.list source.toList = .ok tokens ∧ Derives .disjunction tokens expr := by
  simp only [parse]
  cases Token.list source.toList with
  | error => simp
  | ok tokens => simp [ofTokens_eq_ok_iff]

/-- Texts are read by the grammar. A text that does not derive from it is an error, so none is left
without an answer. -/
theorem parse_derives (source : String) :
    (∀ expr, parse source = .ok expr ↔
      ∃ tokens, Token.list source.toList = .ok tokens ∧ Derives .disjunction tokens expr) ∧
    ((¬ ∃ expr tokens, Token.list source.toList = .ok tokens ∧ Derives .disjunction tokens expr) →
      ∃ error, parse source = .error error) ∧
    ∀ tokens, Token.list source.toList = .ok tokens ↔ Token.Spelling tokens source.toList := by
  refine ⟨fun expr => parse_eq_ok_iff, fun none => ?_, fun tokens => Token.list_eq_ok_iff⟩
  cases h : parse source with
  | error error => exact ⟨error, rfl⟩
  | ok expr => exact absurd ⟨expr, parse_eq_ok_iff.mp h⟩ none

end Expr

end ChartLint.Scope
