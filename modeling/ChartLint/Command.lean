import ChartLint.Catalog.Builtin
import ChartLint.Catalog.Reading
import ChartLint.Report
import ChartLint.Report.Record

/-!
The commands of the program, as functions of the files they read.
-/
namespace ChartLint

inductive Command where
  | lint (file : String)
  | tree (file : String)
  | stripComments (file : String)
  | explain (id : String)
  deriving DecidableEq

/-- A command with its options. -/
structure Invocation where
  command : Command
  /-- Whether output is for readers; without a choice it depends on the terminal. -/
  pretty : Option Bool := none
  catalogFile : Option String := none
  deriving DecidableEq

namespace Invocation

/-- Options so far, and the other words in reverse. -/
structure Words where
  pretty : Option Bool := none
  catalogFile : Option String := none
  others : List String := []

namespace Words

def setOutput? (words : Words) : String → Option Words
  | "pretty" => some { words with pretty := some true }
  | "json" => some { words with pretty := some false }
  | _ => none

/-- The value of an option that is written with an equals sign. -/
def valueOf? (option word : String) : Option String :=
  (Text.after? (option ++ "=").toList word.toList).map String.ofList

/-- Reads the words of a command line. -/
def read? (words : Words) : List String → Option Words
  | [] => some words
  | "--" :: rest => some { words with others := rest.reverse ++ words.others }
  | "--output" :: value :: rest => (words.setOutput? value).bind (·.read? rest)
  | "--catalog" :: file :: rest => { words with catalogFile := some file }.read? rest
  | "--verbose" :: rest | "-v" :: rest => words.read? rest
  | word :: rest =>
    match valueOf? "--output" word, valueOf? "--catalog" word with
    | some value, _ => (words.setOutput? value).bind (·.read? rest)
    | none, some file => { words with catalogFile := some file }.read? rest
    | none, none =>
      if word != "-" && word.startsWith "-" then none
      else { words with others := word :: words.others }.read? rest

end Words

/-- The invocation of a command line: one command with its argument, and options anywhere. -/
def ofWords? (arguments : List String) : Option Invocation := do
  let words ← ({} : Words).read? arguments
  let command ←
    match words.others.reverse with
    | ["lint", file] | ["check", file] => some (.lint file)
    | ["tree", file] => some (.tree file)
    | ["strip-comments", file] => some (.stripComments file)
    | ["explain", id] => some (.explain id)
    | _ => none
  return { command, pretty := words.pretty, catalogFile := words.catalogFile }

end Invocation

/-- What a program may read. -/
structure Files where
  stdin : String
  /-- The text of a file, or why it can not be read. -/
  read : String → Except String String

/-- Why a command fails. -/
inductive Failure where
  | unreadable (file reason : String)
  | unreadableCatalog (file reason : String)
  | invalidCatalog (file : String) (error : Catalog.Error)

namespace Failure

def context : Failure → String
  | unreadable file _ => s!"failed to read '{file}'"
  | unreadableCatalog file _ => s!"failed to read catalog '{file}'"
  | invalidCatalog file _ => s!"invalid catalog '{file}'"

/-- The causes, each followed by its own. -/
def causes : Failure → List String
  | unreadable _ reason | unreadableCatalog _ reason => [reason]
  | invalidCatalog _ error => error.chain

/-- A text whose further lines are indented. -/
def indented (lead pad text : String) : String :=
  lead ++ ("\n" ++ pad).intercalate ((Text.pieces '\n' text.toList).map String.ofList)

/-- The failure with its causes, which are numbered if there are several. -/
def message (failure : Failure) : String :=
  let causes :=
    match failure.causes with
    | [cause] => [indented "    " "    " cause]
    | causes => causes.zipIdx.map fun (cause, number) => indented s!"    {number}: " "       " cause
  s!"Error: {failure.context}\n\nCaused by:\n" ++ "\n".intercalate causes ++ "\n"

end Failure

/-- What a command writes, and its exit code. -/
structure Output where
  exitCode : Nat := 0
  stdout : String := ""
  reports : List Report := []
  /-- Written after the reports. -/
  stderr : String := ""

namespace Invocation

def readInput (files : Files) (file : String) : Except Failure String :=
  if file == "-" then .ok files.stdin
  else
    match files.read file with
    | .ok text => .ok text
    | .error reason => .error (.unreadable file reason)

/-- The catalog of a file, or the one built in. -/
def readCatalog (files : Files) : (file : Option String) → Except Failure Catalog
  | none => .ok Catalog.builtin
  | some file =>
    match files.read file with
    | .error reason => .error (.unreadableCatalog file reason)
    | .ok text =>
      match Catalog.read text with
      | .ok catalog => .ok catalog
      | .error error => .error (.invalidCatalog file error)

/-- The indented form of a JSON value on lines of its own. -/
def printed (value : Json.Value) : String := value.pretty 0 ++ "\n"

def lint (file text : String) (catalog : Catalog) (pretty : Bool) : Output :=
  let validation := validate catalog text
  let exitCode := if validation.ok then 0 else 1
  if pretty then
    let diagnostics := validation.diagnostics
    let index := LineIndex.ofText text.toList
    let name := if file == "-" then "<stdin>" else file
    { exitCode
      reports := diagnostics.map (Report.ofDiagnostic name text.toList index)
      stderr := Report.tally diagnostics ++ (if validation.ok then "lint ok\n" else "") }
  else { exitCode, stdout := printed validation.record }

def explain (id : String) (pretty : Bool) : Output :=
  let code := Code.ofId? id
  if pretty then
    match code with
    | some code => { stdout := s!"{Report.coloured 36 id}: {code.explanation}\n" }
    | none => { stdout := s!"{id}: (no explanation available)\n" }
  else
    let entry (f : Code → String) : Json.Value := .ofOption (code.map fun code => .text (f code))
    { stdout := printed (.record [
        ("explanation", entry Code.explanation),
        ("id", .text id),
        ("severity", entry fun code => code.severity.name)]) }

/-- Runs a command. The input is read before the catalog. -/
def run? (files : Files) (terminal : Bool) (invocation : Invocation) : Except Failure Output := do
  let pretty := invocation.pretty.getD terminal
  match invocation.command with
  | .lint file =>
    let text ← readInput files file
    let catalog ← readCatalog files invocation.catalogFile
    return lint file text catalog pretty
  | .tree file =>
    let text ← readInput files file
    let catalog ← readCatalog files invocation.catalogFile
    return { stdout := printed (validate catalog text).tree.record }
  | .stripComments file =>
    let text ← readInput files file
    return { stdout := String.ofList (Comment.blank text.toList) }
  | .explain id => return explain id pretty

/-- Runs a command; a failure is written out. -/
def run (files : Files) (terminal : Bool) (invocation : Invocation) : Output :=
  match invocation.run? files terminal with
  | .ok output => output
  | .error failure => { exitCode := 1, stderr := failure.message }

/-- The file that a command reads; a dash stands for standard input. -/
def inputFile? (invocation : Invocation) : Option String :=
  match invocation.command with
  | .lint file | .tree file | .stripComments file => some file
  | .explain _ => none

end Invocation

end ChartLint
