/-!
Comments of data files: from `//` to the end of the line, and from an opening to a closing mark. Both
are removed, except inside string literals; the line feed that ends a line comment stays, while those
inside a block comment go with it.
-/
namespace ChartLint.Comment

/-- What the text read so far leaves open. -/
inductive Strip.Mode where
  | plain
  /-- Inside a string literal. -/
  | literal
  /-- Right after a backslash inside a string literal. -/
  | escaped
  /-- Inside a comment that runs to the end of its line. -/
  | line
  /-- Inside a comment that runs to its closing mark. -/
  | block

/-- The characters outside comments of a text that is read in a given mode. -/
def stripFrom : Strip.Mode → List Char → List Char
  | _, [] => []
  | .literal, c :: rest =>
    c :: stripFrom (if c = '\\' then .escaped else if c = '"' then .plain else .literal) rest
  | .escaped, c :: rest => c :: stripFrom .literal rest
  | .line, c :: rest => if c = '\n' then c :: stripFrom .plain rest else stripFrom .line rest
  | .block, '*' :: '/' :: rest => stripFrom .plain rest
  | .block, _ :: rest => stripFrom .block rest
  | .plain, '/' :: '/' :: rest => stripFrom .line rest
  | .plain, '/' :: '*' :: rest => stripFrom .block rest
  | .plain, c :: rest => c :: stripFrom (if c = '"' then .literal else .plain) rest

/-- A data file without its comments. -/
def strip (text : List Char) : List Char := stripFrom .plain text

end ChartLint.Comment
