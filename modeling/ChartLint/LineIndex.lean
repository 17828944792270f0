import ChartLint.Position
import ChartLint.Text.Size

/-!
Line index of a text: where each line starts, and the passage between byte offsets and positions.
-/
namespace ChartLint

structure LineIndex where
  /-- Offsets of the line starts in increasing order; the first is zero. -/
  starts : List Nat
  /-- Size of the text in bytes. -/
  size : Nat

namespace LineIndex

/-- Offsets right after the line feeds of a text that starts at a given offset. -/
def breaks (offset : Nat) : List Char → List Nat
  | [] => []
  | c :: rest =>
    let next := offset + c.utf8Size
    if c = '\n' then next :: breaks next rest else breaks next rest

def ofText (text : List Char) : LineIndex := ⟨0 :: breaks 0 text, Text.byteSize text⟩

/-- Number of lines; an empty text has one. -/
def lineCount (index : LineIndex) : Nat := index.starts.length

def lineStart? (index : LineIndex) (line : Nat) : Option Nat := index.starts[line]?

/-- The position of an offset: on the last line that starts at or before it. -/
def position (index : LineIndex) (offset : Nat) : Position :=
  let line := index.starts.countP (· ≤ offset) - 1
  ⟨line, offset - index.starts.getD line 0⟩

/-- The offset of a position, at most the size of the text. -/
def offset (index : LineIndex) (position : Position) : Nat :=
  match index.starts[position.line]? with
  | some start => min (start + position.character) index.size
  | none => index.size

end LineIndex

end ChartLint
