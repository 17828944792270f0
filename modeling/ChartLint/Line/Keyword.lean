import ChartLint.Position
import ChartLint.Text.Blank
import ChartLint.Text.Case
import ChartLint.Text.Size

/-!
Keywords that start a line: they open, divide and close blocks, and declare names.
-/
namespace ChartLint

inductive Keyword where
  | importFrom
  | var
  | endVar
  | csv
  | endCsv
  | forEach
  | endFor
  | ifThen
  | elseIf
  | otherwise
  | endIf
  | script
  | endScript
  | sql
  | endSql
  | list
  | endList
  deriving DecidableEq

namespace Keyword

def all : List Keyword := [
  .importFrom, .var, .endVar, .csv, .endCsv, .forEach, .endFor, .ifThen, .elseIf, .otherwise,
  .endIf, .script, .endScript, .sql, .endSql, .list, .endList]

def name : Keyword → String
  | .importFrom => "import"
  | .var => "var"
  | .endVar => "endvar"
  | .csv => "csv"
  | .endCsv => "endcsv"
  | .forEach => "for"
  | .endFor => "endfor"
  | .ifThen => "if"
  | .elseIf => "elseif"
  | .otherwise => "else"
  | .endIf => "endif"
  | .script => "script"
  | .endScript => "endscript"
  | .sql => "sql"
  | .endSql => "endsql"
  | .list => "list"
  | .endList => "endlist"

/-- The keyword of a name in any case of its ASCII letters. -/
def ofName? (name : String) : Option Keyword :=
  all.find? fun keyword => keyword.name == Text.lower name

/-- The keyword that closes a block. -/
def closer? : Keyword → Option Keyword
  | .var => some .endVar
  | .csv => some .endCsv
  | .forEach => some .endFor
  | .ifThen => some .endIf
  | .script => some .endScript
  | .sql => some .endSql
  | .list => some .endList
  | _ => none

/-- The keyword that opens the block another closes. -/
def opener? : Keyword → Option Keyword
  | .endVar => some .var
  | .endCsv => some .csv
  | .endFor => some .forEach
  | .endIf => some .ifThen
  | .endScript => some .script
  | .endSql => some .sql
  | .endList => some .list
  | _ => none

end Keyword

namespace Line

/-- The first word of a line when it spells a keyword. -/
structure KeywordToken where
  /-- The word as written, its ASCII letters in lower case. -/
  text : String
  range : Range
  deriving DecidableEq

/-- The keyword, unless it is spelled with letters beyond ASCII. -/
def KeywordToken.keyword? (token : KeywordToken) : Option Keyword := Keyword.ofName? token.text

/-- Ends the first word of a line: a space, a tab or an equals sign. -/
def endsWord (c : Char) : Bool := Text.isIndent c || c == '='

/-- The keyword that starts a line: the text from its first character after the indent up to a space,
a tab, an equals sign or the end spells one, in any letter case. -/
def keyword? (line : List Char) (number : Nat) : Option KeywordToken :=
  let indent := line.takeWhile Text.isIndent
  let word := (line.dropWhile Text.isIndent).takeWhile fun c => !endsWord c
  if Keyword.all.any fun keyword => Text.spells word keyword.name then
    some {
      text := Text.lower (String.ofList word)
      range := .span number (Text.byteSize indent) (Text.byteSize word) }
  else none

/-- The text after the first word of a line, without blanks at its ends. -/
def afterKeyword (line : List Char) : List Char :=
  Text.trim ((line.dropWhile Text.isIndent).dropWhile fun c => !endsWord c)

end Line

end ChartLint
