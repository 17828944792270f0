import ChartLint.Pattern.CharSet

/-!
Patterns of texts and the search for them. A search follows all ways to match at once: it keeps the
patterns that are still to be matched, and takes each to what remains of it after the next character.
-/
namespace ChartLint

inductive Pattern where
  /-- The empty text. -/
  | empty
  /-- The empty text at the start of the searched one. -/
  | start
  /-- The empty text at its end. -/
  | stop
  | oneOf (set : Pattern.CharSet)
  | seq (first second : Pattern)
  | alt (left right : Pattern)
  /-- Any number of repetitions. -/
  | many (body : Pattern)
  deriving DecidableEq

namespace Pattern

/-- One pattern after another. -/
def andThen (first second : Pattern) : Pattern :=
  if first = .empty then second else if second = .empty then first else .seq first second

/-- A pattern a number of times, then the rest. -/
def times (body : Pattern) : Nat → Pattern → Pattern
  | 0, rest => rest
  | n + 1, rest => body.andThen (times body n rest)

/-- A pattern at most a number of times. -/
def upTo (body : Pattern) : Nat → Pattern
  | 0 => .empty
  | n + 1 => .alt (body.andThen (upTo body n)) .empty

/-- A pattern between two numbers of times. -/
def repeated (body : Pattern) (least : Nat) (most : Option Nat) : Pattern :=
  body.times least <|
    match most with
    | some most => body.upTo (most - least)
    | none => .many body

/-- Whether a pattern matches the empty text at a place. -/
def matchesEmpty (atStart atStop : Bool) : Pattern → Bool
  | empty => true
  | start => atStart
  | stop => atStop
  | oneOf _ => false
  | seq first second => first.matchesEmpty atStart atStop && second.matchesEmpty atStart atStop
  | alt left right => left.matchesEmpty atStart atStop || right.matchesEmpty atStart atStop
  | many _ => true

/-- What may remain of a pattern after a character. -/
def after (atStart : Bool) (c : Char) : Pattern → List Pattern
  | empty | start | stop => []
  | oneOf set => if set.contains c then [.empty] else []
  | seq first second =>
    (first.after atStart c).map (·.andThen second) ++
      if first.matchesEmpty atStart false then second.after atStart c else []
  | alt left right => left.after atStart c ++ right.after atStart c
  | many body => (body.after atStart c).map (·.andThen (.many body))

/-- Whether some of the patterns matches a whole text. -/
def anyMatches (atStart : Bool) (patterns : List Pattern) : List Char → Bool
  | [] => patterns.any (·.matchesEmpty atStart true)
  | c :: rest => anyMatches false (patterns.flatMap (·.after atStart c)).eraseDups rest

/-- Whether a pattern matches somewhere in a text. -/
def occursIn (pattern : Pattern) (text : List Char) : Bool :=
  let gap := many (.oneOf .all)
  anyMatches true [gap.andThen (pattern.andThen gap)] text

end Pattern

end ChartLint
