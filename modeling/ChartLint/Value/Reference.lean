import ChartLint.Text.Blank
import ChartLint.Text.Piece
import ChartLint.Text.Size

/-!
References to the aliases of other series in computed values.
-/
namespace ChartLint.Value

structure Reference where
  /-- The alias as written. -/
  name : List Char
  /-- Offset of the alias in bytes. -/
  offset : Nat
  deriving DecidableEq

namespace Reference

def isQuote (c : Char) : Bool := c == '"' || c == '\x27'

/-- Reads a reference at the start of a text: the text before the alias, the alias, and the text after
the reference. -/
def read? (text : List Char) : Option (List Char × List Char × List Char) := do
  let inner ← Text.after? "value(".toList text
  match inner.dropWhile Text.isBlank with
  | [] => none
  | mark :: quoted =>
    let name := quoted.takeWhile fun c => !isQuote c
    let rest := Text.trimStart ((quoted.dropWhile fun c => !isQuote c).drop 1)
    if isQuote mark && !name.isEmpty && quoted.any isQuote && rest.head? == some ')' then
      some (text.take (text.length - quoted.length), name, rest.drop 1)
    else none

/-- The references of a text that starts at an offset, after a number of characters to skip. -/
def listFrom (offset skip : Nat) : List Char → List Reference
  | [] => []
  | c :: rest =>
    match skip with
    | skip + 1 => listFrom (offset + c.utf8Size) skip rest
    | 0 =>
      match read? (c :: rest) with
      | some (before, name, after) =>
        ⟨name, offset + Text.byteSize before⟩ ::
          listFrom (offset + c.utf8Size) (rest.length - after.length) rest
      | none => listFrom (offset + c.utf8Size) 0 rest

/-- The references of a value from left to right. -/
def list (value : List Char) : List Reference := listFrom 0 0 value

end Reference

end ChartLint.Value
