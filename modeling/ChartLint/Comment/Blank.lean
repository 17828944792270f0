import ChartLint.Text.Blank

/-!
Comments of documents: closed block comments, and lines whose first character after the indent is a
hash. Both are replaced by spaces, byte for byte, so all that survives keeps its line and column.
-/
namespace ChartLint.Comment

/-- What replaces a character of a comment: line breaks stay, every other byte becomes a space. -/
def blankChar (c : Char) : List Char :=
  if c = '\n' ∨ c = '\r' then [c] else List.replicate c.utf8Size ' '

/-- Whether a block comment is closed somewhere in a text. -/
def closes : List Char → Bool
  | [] => false
  | '*' :: '/' :: _ => true
  | _ :: rest => closes rest

/-- Blanks the closed block comments of a text that is read inside or outside one. -/
def blankBlocksFrom : (inside : Bool) → List Char → List Char
  | _, [] => []
  | true, '*' :: '/' :: rest => ' ' :: ' ' :: blankBlocksFrom false rest
  | true, c :: rest => blankChar c ++ blankBlocksFrom true rest
  | false, '/' :: '*' :: rest =>
    if closes rest then ' ' :: ' ' :: blankBlocksFrom true rest
    else '/' :: '*' :: blankBlocksFrom false rest
  | false, c :: rest => c :: blankBlocksFrom false rest

def blankBlocks (text : List Char) : List Char := blankBlocksFrom false text

/-- Where on its line a character stands. -/
inductive Spot where
  /-- In the indent. -/
  | indent
  /-- After a first character that is no hash. -/
  | content
  /-- After a first character that is a hash. -/
  | comment

/-- Blanks the marked rest of each line of a text that is read from a spot of a line. -/
def blankMarkedFrom : Spot → List Char → List Char
  | _, [] => []
  | spot, c :: rest =>
    if c = '\n' then c :: blankMarkedFrom .indent rest
    else
      match spot with
      | .indent =>
        if Text.isIndent c then c :: blankMarkedFrom .indent rest
        else if c = '#' then ' ' :: blankMarkedFrom .comment rest
        else c :: blankMarkedFrom .content rest
      | .content => c :: blankMarkedFrom .content rest
      | .comment => blankChar c ++ blankMarkedFrom .comment rest

/-- Blanks every line from a hash that is its first character after the indent. -/
def blankMarked (text : List Char) : List Char := blankMarkedFrom .indent text

/-- A document with its comments blanked. -/
def blank (text : List Char) : List Char := blankMarked (blankBlocks text)

end ChartLint.Comment
