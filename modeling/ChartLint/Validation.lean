import ChartLint.Comment.Blank
import ChartLint.Text.Line
import ChartLint.Validation.Scan

/-!
Validation of documents.
-/
namespace ChartLint

/-- What validating a document gives. -/
structure Validation where
  /-- Findings by the place where they start. -/
  findings : List Finding
  tree : Section.Tree

namespace Validation

def ofScan (scan : Scan) : Validation where
  findings := scan.findings.mergeSort fun a b => a.range.start ≤ b.range.start
  tree := scan.tree

/-- Whether there is no error. -/
def ok (validation : Validation) : Bool := !validation.findings.any Finding.isError

/-- The findings as they are reported. -/
def diagnostics (validation : Validation) : List Diagnostic :=
  validation.findings.map Finding.diagnostic

end Validation

/-- Validates a document. -/
def validate (catalog : Catalog) (text : String) : Validation :=
  .ofScan (.ofLines catalog (Text.lines (Comment.blank text.toList)))

end ChartLint
