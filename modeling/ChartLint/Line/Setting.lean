import ChartLint.Position
import ChartLint.Text.Blank
import ChartLint.Text.Size
import ChartLint.Text.Word

/-!
Setting lines: a name, an equals sign and a value.
-/
namespace ChartLint.Line

structure SettingLine where
  /-- The name without quotes. -/
  name : String
  /-- Whether the name was written in double quotes. -/
  quoted : Bool
  /-- The value without blanks at its end. -/
  value : String
  /-- The name as written, with its quotes. -/
  nameRange : Range
  valueColumn : Nat
  deriving DecidableEq

/-- Characters of a name without quotes. -/
def isNameChar (c : Char) : Bool := c == '-' || Text.isWord c

/-- The name that starts a text, as it is and as written, and the text after it. -/
def readName? : List Char → Option (List Char × List Char × List Char)
  | '"' :: rest =>
    let name := rest.takeWhile (· != '"')
    match rest.dropWhile (· != '"') with
    | [] => none
    | quote :: after => some (name, '"' :: name ++ [quote], after)
  | text =>
    let name := text.takeWhile isNameChar
    if name.isEmpty then none else some (name, name, text.dropWhile isNameChar)

/-- The setting that a line declares. Spaces and tabs may stand before the name and around the equals
sign; the value reaches to the end and has no line feed. -/
def setting? (line : List Char) (number : Nat) : Option SettingLine := do
  let indent := line.takeWhile Text.isIndent
  let text := line.dropWhile Text.isIndent
  let (name, written, after) ← readName? text
  let gap := after.takeWhile Text.isIndent
  match after.dropWhile Text.isIndent with
  | '=' :: rest =>
    let pad := rest.takeWhile Text.isIndent
    let value := rest.dropWhile Text.isIndent
    if value.contains '\n' then none
    else
      let column := Text.byteSize indent
      let size := Text.byteSize written
      return {
        name := String.ofList name
        quoted := text.head? == some '"'
        value := String.ofList (Text.trimEnd value)
        nameRange := .span number column size
        valueColumn := column + size + Text.byteSize gap + 1 + Text.byteSize pad }
  | _ => none

end ChartLint.Line
