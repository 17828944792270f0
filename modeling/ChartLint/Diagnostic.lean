import ChartLint.Diagnostic.Code
import ChartLint.Position
import ChartLint.Table

/-!
Diagnostics: problems as they are reported.
-/
namespace ChartLint

structure Diagnostic where
  id : String
  severity : Severity
  message : String
  range : Range
  /-- Details by key. -/
  context : Option (Table String) := none
  deriving DecidableEq

namespace Diagnostic

/-- A diagnostic of an identifier with the severity of its code; an unknown identifier is an error. -/
def ofId (id message : String) (range : Range) : Diagnostic :=
  { id, severity := ((Code.ofId? id).map Code.severity).getD .error, message, range }

def isError (diagnostic : Diagnostic) : Bool := diagnostic.severity == .error

/-- The explanation of the diagnostic's code, if it is known. -/
def explanation? (diagnostic : Diagnostic) : Option String :=
  (Code.ofId? diagnostic.id).map Code.explanation

/-- Severity, identifier, place and message on one line. -/
def summary (diagnostic : Diagnostic) : String :=
  s!"{diagnostic.severity.name}[{diagnostic.id}] {diagnostic.range.label}: {diagnostic.message}"

end Diagnostic

end ChartLint
