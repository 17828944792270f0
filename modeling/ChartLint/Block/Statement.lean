import ChartLint.Line.Keyword
import ChartLint.Text.Piece
import ChartLint.Text.Word

/-!
Statements: what a line says that starts with a keyword.
-/
namespace ChartLint.Block

/-- The lines that a body holds until its block is closed. -/
inductive Body.Kind where
  /-- Rows; the number of columns is not known before the first of them. -/
  | rows (columns : Option Nat)
  | text
  deriving DecidableEq

/-- What follows the line of a declaration. -/
inductive Extent where
  | line
  | body (kind : Body.Kind)
  /-- The rows are elsewhere; the block may be closed, but need not. -/
  | source
  deriving DecidableEq

inductive Statement where
  /-- A body without a name: script text or a query. -/
  | body (keyword : Keyword)
  /-- A loop with its variable and its collection, if it is well formed. -/
  | loop (header : Option (String × String))
  | branch
  /-- Divides the innermost branch. -/
  | divider (keyword : Keyword)
  | declaration (keyword : Keyword) (name : String) (extent : Extent)
  /-- A declaration that lacks a part. -/
  | malformed (keyword : Keyword) (expected : String)
  | closing (closer opener : Keyword)
  deriving DecidableEq

/-- Number of fields of a row: one more than the commas outside of double quotes. -/
def columnCount (quoted : Bool) : List Char → Nat
  | [] => 1
  | c :: rest =>
    if c == '"' then columnCount (!quoted) rest
    else if c == ',' && !quoted then columnCount quoted rest + 1
    else columnCount quoted rest

/-- Opening less closing brackets outside of quotes. -/
def bracketBalance (quote : Option Char) : List Char → Int
  | [] => 0
  | c :: rest =>
    match quote with
    | some mark => bracketBalance (if c == mark then none else some mark) rest
    | none =>
      if c == '"' || c == '\x27' then bracketBalance (some c) rest
      else if "[\x7b(".toList.contains c then bracketBalance none rest + 1
      else if "]\x7d)".toList.contains c then bracketBalance none rest - 1
      else bracketBalance none rest

/-- A name at the start of a text, and the text after it. -/
def readName? (text : List Char) : Option (String × List Char) :=
  let name := text.takeWhile Text.isWord
  if name.isEmpty then none else some (String.ofList name, text.dropWhile Text.isWord)

/-- The text after a word that stands between spaces or tabs. -/
def afterWord? (word : String) (text : List Char) : Option (List Char) := do
  let rest ← Text.after? word.toList (text.dropWhile Text.isIndent)
  if text.head?.any Text.isIndent && rest.head?.any Text.isIndent then
    some (rest.dropWhile Text.isIndent)
  else none

/-- The variable and the collection of a loop. -/
def readLoop? (text : List Char) : Option (String × String) := do
  let (variableName, rest) ← readName? text
  let collection ← afterWord? "in" rest
  if collection.head?.any (!Text.isBlank ·) && !collection.contains '\n' then
    some (variableName, String.ofList (Text.trim collection))
  else none

/-- The name of rows that are elsewhere. -/
def readSource? (text : List Char) : Option String := do
  let (name, rest) ← readName? text
  let place ← afterWord? "from" rest
  if place.head?.any (!Text.isBlank ·) then some name else none

/-- The name and the value of a declaration. -/
def readDeclaration? (text : List Char) : Option (String × List Char) := do
  let (name, rest) ← readName? text
  match rest.dropWhile Text.isIndent with
  | '=' :: rest =>
    let value := rest.dropWhile Text.isIndent
    if value.contains '\n' then none else some (name, Text.trim value)
  | _ => none

namespace Statement

/-- What a list declares; its items go on in a body when none is given or a comma ends the line. -/
def list (text : List Char) : Statement :=
  match readDeclaration? text with
  | some (name, value) =>
    let goesOn := value.isEmpty || value.getLast? == some ','
    .declaration .list name (if goesOn then .body .text else .line)
  | none => .malformed .list "list <name> = <values>"

/-- What a variable declares; its value goes on in a body when it is empty or a bracket is open. -/
def var (text : List Char) : Statement :=
  match readDeclaration? text with
  | some (name, value) =>
    let goesOn := value.isEmpty || 0 < bracketBalance none value
    .declaration .var name (if goesOn then .body .text else .line)
  | none => .malformed .var "var <name> = <value>"

/-- What rows declare: they are elsewhere, or follow in a body. -/
def csv (text : List Char) : Statement :=
  match readSource? text with
  | some name => .declaration .csv name .source
  | none =>
    match readDeclaration? text with
    | some (name, header) =>
      let columns := if header.isEmpty then none else some (columnCount false header)
      .declaration .csv name (.body (.rows columns))
    | none => .malformed .csv "csv <name> = <header> or csv <name> from <url>"

def importFrom (text : List Char) : Statement :=
  let expected := "import <name> = <url>"
  match readDeclaration? text with
  | some (name, address) =>
    if address.isEmpty then .malformed .importFrom expected
    else .declaration .importFrom name .line
  | none => .malformed .importFrom expected

/-- Whether a text assigns something, as a setting does. -/
def assigns (text : List Char) : Bool :=
  text.head? == some '=' && !(Text.trim (text.drop 1)).isEmpty

/-- The statement of a keyword and the text after it. A script or a query on the keyword's own line is
a setting. -/
def ofKeyword? (keyword : Keyword) (text : List Char) : Option Statement :=
  match keyword with
  | .script | .sql => if assigns text then none else some (.body keyword)
  | .forEach => some (.loop (readLoop? text))
  | .ifThen => some .branch
  | .elseIf | .otherwise => some (.divider keyword)
  | .list => some (list text)
  | .var => some (var text)
  | .csv => some (csv text)
  | .importFrom => some (importFrom text)
  | .endVar => some (.closing .endVar .var)
  | .endCsv => some (.closing .endCsv .csv)
  | .endFor => some (.closing .endFor .forEach)
  | .endIf => some (.closing .endIf .ifThen)
  | .endScript => some (.closing .endScript .script)
  | .endSql => some (.closing .endSql .sql)
  | .endList => some (.closing .endList .list)

/-- The statement of a line and the place of its keyword. -/
def ofLine? (line : List Char) (number : Nat) : Option (Statement × Range) := do
  let token ← Line.keyword? line number
  let keyword ← token.keyword?
  let statement ← ofKeyword? keyword (Line.afterKeyword line)
  return (statement, token.range)

end Statement

end ChartLint.Block
