import ChartLint.Text.Size

/-!
Faults of JSON text. A fault is known by its kind and by the number of bytes read when it is met.
-/
namespace ChartLint.Json

inductive Fault.Kind where
  | endInList
  | endInRecord
  | endInText
  | endInValue
  | expectedColon
  | expectedCommaOrListEnd
  | expectedCommaOrRecordEnd
  | expectedWord
  | expectedValue
  | invalidEscape
  | invalidNumber
  | numberOutOfRange
  | controlCharacter
  | keyMustBeText
  | loneSurrogate
  | unfinishedSurrogatePair
  | trailingComma
  | trailingCharacters
  | nestedTooDeep
  deriving DecidableEq

structure Fault where
  kind : Fault.Kind
  /-- Bytes of the text up to and including the character at fault. -/
  offset : Nat
  deriving DecidableEq

def Fault.Kind.text : Fault.Kind → String
  | endInList => "EOF while parsing a list"
  | endInRecord => "EOF while parsing an object"
  | endInText => "EOF while parsing a string"
  | endInValue => "EOF while parsing a value"
  | expectedColon => "expected `:`"
  | expectedCommaOrListEnd => "expected `,` or `]`"
  | expectedCommaOrRecordEnd => "expected `,` or `\x7d`"
  | expectedWord => "expected ident"
  | expectedValue => "expected value"
  | invalidEscape => "invalid escape"
  | invalidNumber => "invalid number"
  | numberOutOfRange => "number out of range"
  | controlCharacter => "control character (\\u0000-\\u001F) found while parsing a string"
  | keyMustBeText => "key must be a string"
  | loneSurrogate => "lone leading surrogate in hex escape"
  | unfinishedSurrogatePair => "unexpected end of hex escape"
  | trailingComma => "trailing comma"
  | trailingCharacters => "trailing characters"
  | nestedTooDeep => "recursion limit exceeded"

/-- Whether more text could mend the fault. -/
def Fault.Kind.isEnd : Fault.Kind → Bool
  | endInList | endInRecord | endInText | endInValue => true
  | _ => false

/-- Line, from one, and column that the first bytes of a text lead to. -/
def placeAfter (offset : Nat) (text : List Char) : Nat × Nat := go offset 1 0 text
where
  go (left line column : Nat) : List Char → Nat × Nat
    | [] => (line, column)
    | c :: rest =>
      if left < c.utf8Size then (line, column + left)
      else if c = '\n' then go (left - 1) (line + 1) 0 rest
      else go (left - c.utf8Size) line (column + c.utf8Size) rest

/-- A message with the place that the first bytes of a text lead to. -/
def located (message : String) (offset : Nat) (text : List Char) : String :=
  let (line, column) := placeAfter offset text
  s!"{message} at line {line} column {column}"

def Fault.message (fault : Fault) (text : List Char) : String :=
  located fault.kind.text fault.offset text

end ChartLint.Json
