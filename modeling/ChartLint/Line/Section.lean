import ChartLint.Position
import ChartLint.Text.Blank
import ChartLint.Text.Size
import ChartLint.Text.Word

/-!
Section headers: lines that start with a name in brackets.
-/
namespace ChartLint.Line

structure SectionHeader where
  /-- The name as written. -/
  name : String
  /-- From the opening bracket to the end of the name. -/
  range : Range
  deriving DecidableEq

/-- The header that a line starts with, after its indent. What follows the closing bracket is free. -/
def sectionHeader? (line : List Char) (number : Nat) : Option SectionHeader :=
  let indent := line.takeWhile Text.isIndent
  match line.dropWhile Text.isIndent with
  | '[' :: rest =>
    let name := rest.takeWhile Text.isWord
    if name.isEmpty || (rest.dropWhile Text.isWord).head? != some ']' then none
    else some {
      name := String.ofList name
      range := .span number (Text.byteSize indent) (1 + Text.byteSize name) }
  | _ => none

end ChartLint.Line
