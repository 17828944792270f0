import ChartLint.Pattern.Token

/-!
The pattern that a notation stands for.
-/
namespace ChartLint.Pattern

/-- A group that is not closed yet. -/
structure Group where
  ignoreCase : Bool
  /-- The alternatives before the current one. -/
  before : List Pattern := []
  /-- The parts of the current alternative, the latest first. -/
  parts : List Pattern := []

namespace Group

def add (group : Group) (part : Pattern) : Group := { group with parts := part :: group.parts }

/-- The current alternative. -/
def current (group : Group) : Pattern :=
  group.parts.foldl (fun rest part => part.andThen rest) .empty

def pattern (group : Group) : Pattern :=
  group.before.foldl (fun rest alternative => .alt alternative rest) group.current

end Group

/-- Reads tokens inside a group and the groups around it, the innermost first. A repetition needs a part
before it, and groups have to be opened and closed in turn. -/
def build (group : Group) (outer : List Group) : List Token → Option Pattern
  | [] => if outer.isEmpty then some group.pattern else none
  | .oneOf set :: rest =>
    build (group.add (.oneOf { set with ignoreCase := group.ignoreCase })) outer rest
  | .start :: rest => build (group.add .start) outer rest
  | .stop :: rest => build (group.add .stop) outer rest
  | .bar :: rest =>
    build { group with before := group.current :: group.before, parts := [] } outer rest
  | .flag ignoreCase :: rest => build { group with ignoreCase } outer rest
  | .groupOpen ignoreCase :: rest =>
    build { ignoreCase := ignoreCase.getD group.ignoreCase } (group :: outer) rest
  | .groupClose :: rest =>
    match outer with
    | [] => none
    | enclosing :: outer => build (enclosing.add group.pattern) outer rest
  | .repetition least most :: rest =>
    match group.parts with
    | [] => none
    | part :: parts =>
      build { group with parts := part.repeated least most :: parts } outer rest

/-- The pattern of a notation; `none` if the notation is invalid. -/
def parse? (source : List Char) : Option Pattern := do
  build { ignoreCase := false } [] (← Token.listFrom? 0 source)

/-- The pattern that matches a whole text where the notation matches it. -/
def parseWhole? (source : String) : Option Pattern :=
  parse? ("^(?:".toList ++ source.toList ++ ")$".toList)

end ChartLint.Pattern
