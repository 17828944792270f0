import ChartLint.Diagnostic
import ChartLint.LineIndex
import ChartLint.Text.Blank
import ChartLint.Text.Line
import ChartLint.Text.Phrase

/-!
Reports for readers: what is wrong, where, and what the code means.
-/
namespace ChartLint

structure Report where
  /-- Code, kind and message. -/
  head : String
  /-- File, line and column. -/
  place : String
  /-- What is written beside the place. -/
  label : String
  /-- The explanation of the code. -/
  help : Option String
  deriving DecidableEq

namespace Report

/-- The word for a severity in reports. -/
def kindName : Severity → String
  | .error => "Error"
  | .warn => "Warning"
  | .info => "Advice"

/-- Characters that end a line for a reader. -/
def endsLine (c : Char) : Bool :=
  c == '\n' || c == '\r' || c == '\x0b' || c == '\x0c' || c == '\u0085' || c == '\u2028' ||
    c == '\u2029'

/-- Line and column, as a reader counts them, at an offset of a text that starts at a line and a column.
A carriage return and a line feed end one line. -/
def placeAfter (offset line column : Nat) : List Char → Nat × Nat
  | [] => (line, column)
  | c :: rest =>
    if offset = 0 then (line, column)
    else if c == '\r' && rest.head? == some '\n' then
      placeAfter (offset - c.utf8Size) line (column + 1) rest
    else if endsLine c then placeAfter (offset - c.utf8Size) (line + 1) 1 rest
    else placeAfter (offset - c.utf8Size) line (column + 1) rest

/-- The details of a diagnostic or, if there are none, the first line of its message. -/
def labelOf (diagnostic : Diagnostic) : String :=
  match diagnostic.context with
  | some (entry :: rest) =>
    Text.commaList ((entry :: rest).map fun (key, value) => s!"{key}={value}")
  | _ => String.ofList ((Text.lines diagnostic.message.toList).headD [])

/-- The report of a diagnostic about the text of a file. -/
def ofDiagnostic (file : String) (text : List Char) (index : LineIndex) (diagnostic : Diagnostic) :
    Report :=
  let (line, column) := placeAfter (index.offset diagnostic.range.start) 1 1 text
  let head := s!"[{diagnostic.id}] {kindName diagnostic.severity}: {diagnostic.message}"
  { head := String.ofList (Text.trimEnd head.toList)
    place := s!"{file}:{line}:{column}"
    label := labelOf diagnostic
    help := diagnostic.explanation? }

/-- A text in a colour of the terminal. -/
def coloured (colour : Nat) (text : String) : String := s!"\x1b[{colour}m{text}\x1b[0m"

/-- A number of things. -/
def counted (count : Nat) (noun : String) : String :=
  if count = 1 then s!"{count} {noun}" else s!"{count} {noun}s"

/-- The numbers of errors, warnings and remarks on one line; nothing if there are none. -/
def tally (diagnostics : List Diagnostic) : String :=
  let count (severity : Severity) : Nat :=
    diagnostics.countP fun diagnostic => diagnostic.severity == severity
  let part (severity : Severity) (text : String) (colour : Nat) : List String :=
    if count severity = 0 then [] else [coloured colour text]
  let parts :=
    part .error (counted (count .error) "error") 31 ++
    part .warn (counted (count .warn) "warning") 33 ++
    part .info s!"{count .info} info" 34
  if parts.isEmpty then "" else Text.commaList parts ++ "\n"

end Report

end ChartLint
