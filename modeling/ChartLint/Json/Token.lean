import ChartLint.Json.Numeral

/-!
Tokens of JSON text. The tokens of a text end at the first one that is at fault.
-/
namespace ChartLint.Json

inductive Lexeme where
  | listOpen
  | listClose
  | recordOpen
  | recordClose
  | comma
  | colon
  | null
  | bool (value : Bool)
  | number (value : Numeral)
  | text (value : String)

structure Token where
  start : Nat
  stop : Nat
  /-- The first character. -/
  lead : Char
  lexeme : Except Fault Lexeme

namespace Token

/-- Blanks between tokens. -/
def isSpace (c : Char) : Bool := c == ' ' || c == '\n' || c == '\t' || c == '\r'

/-- The value of a hexadecimal digit. -/
def hexDigit? (c : Char) : Option Nat :=
  if c.isDigit then some (c.toNat - '0'.toNat)
  else if 'a' ≤ c ∧ c ≤ 'f' then some (c.toNat - 'a'.toNat + 10)
  else if 'A' ≤ c ∧ c ≤ 'F' then some (c.toNat - 'A'.toNat + 10)
  else none

/-- The code unit of four hexadecimal digits. -/
def codeUnit? (a b c d : Char) : Option Nat := do
  return 4096 * (← hexDigit? a) + 256 * (← hexDigit? b) + 16 * (← hexDigit? c) + (← hexDigit? d)

/-- The fault of a text that does not start with four hexadecimal digits. -/
def badCodeUnit (offset : Nat) (text : List Char) : Fault :=
  if Text.byteSize text < 4 then ⟨.endInText, offset + Text.byteSize text⟩
  else ⟨.invalidEscape, offset + 4⟩

/-- The character of a one-letter escape. -/
def escaped? : Char → Option Char
  | '"' => some '"'
  | '\\' => some '\\'
  | '/' => some '/'
  | 'b' => some '\x08'
  | 'f' => some '\x0c'
  | 'n' => some '\n'
  | 'r' => some '\r'
  | 't' => some '\t'
  | _ => none

/-- Puts a character that was written with a number of characters before what was read after it. -/
def prepend (c : Char) (count : Nat) (rest : Except Fault (List Char × Nat)) :
    Except Fault (List Char × Nat) :=
  rest.map fun (cs, more) => (c :: cs, count + more)

/-- Reads a string at an offset after its opening quote, and counts its characters up to and including
the closing quote. A code unit of a surrogate pair has to be followed by the escape of the other. -/
def readText (offset : Nat) : List Char → Except Fault (List Char × Nat)
  | [] => .error ⟨.endInText, offset⟩
  | '"' :: _ => .ok ([], 1)
  | '\\' :: rest =>
    match rest with
    | [] => .error ⟨.endInText, offset + 1⟩
    | 'u' :: rest =>
      match rest with
      | a :: b :: c :: d :: rest =>
        match codeUnit? a b c d with
        | none => .error (badCodeUnit (offset + 2) (a :: b :: c :: d :: rest))
        | some unit =>
          if 0xDC00 ≤ unit ∧ unit ≤ 0xDFFF then .error ⟨.loneSurrogate, offset + 6⟩
          else if unit < 0xD800 ∨ 0xDBFF < unit then
            prepend (Char.ofNat unit) 6 (readText (offset + 6) rest)
          else
            match rest with
            | [] => .error ⟨.endInText, offset + 6⟩
            | '\\' :: rest =>
              match rest with
              | [] => .error ⟨.endInText, offset + 7⟩
              | 'u' :: rest =>
                match rest with
                | a :: b :: c :: d :: rest =>
                  match codeUnit? a b c d with
                  | none => .error (badCodeUnit (offset + 8) (a :: b :: c :: d :: rest))
                  | some low =>
                    if low < 0xDC00 ∨ 0xDFFF < low then .error ⟨.loneSurrogate, offset + 12⟩
                    else
                      let point := 0x10000 + (unit - 0xD800) * 0x400 + (low - 0xDC00)
                      prepend (Char.ofNat point) 12 (readText (offset + 12) rest)
                | rest => .error (badCodeUnit (offset + 8) rest)
              | _ => .error ⟨.unfinishedSurrogatePair, offset + 8⟩
            | _ => .error ⟨.unfinishedSurrogatePair, offset + 7⟩
      | rest => .error (badCodeUnit (offset + 2) rest)
    | c :: rest =>
      match escaped? c with
      | some value => prepend value 2 (readText (offset + 2) rest)
      | none => .error ⟨.invalidEscape, offset + 2⟩
  | c :: rest =>
    if c.toNat < 0x20 then .error ⟨.controlCharacter, offset + 1⟩
    else prepend c 1 (readText (offset + c.utf8Size) rest)

/-- Reads the rest of a word at an offset after its first letter. -/
def readWord (offset : Nat) : (word text : List Char) → Except Fault Unit
  | [], _ => .ok ()
  | _ :: _, [] => .error ⟨.endInValue, offset⟩
  | w :: word, c :: text =>
    if w = c then readWord (offset + 1) word text else .error ⟨.expectedWord, offset + 1⟩

/-- Reads the lexeme that starts a text at an offset, and counts its characters. -/
def readLexeme (offset : Nat) (lead : Char) (rest : List Char) : Except Fault (Lexeme × Nat) :=
  match lead with
  | '[' => .ok (.listOpen, 1)
  | ']' => .ok (.listClose, 1)
  | '\x7b' => .ok (.recordOpen, 1)
  | '\x7d' => .ok (.recordClose, 1)
  | ',' => .ok (.comma, 1)
  | ':' => .ok (.colon, 1)
  | 'n' => (readWord (offset + 1) "ull".toList rest).map fun _ => (.null, 4)
  | 't' => (readWord (offset + 1) "rue".toList rest).map fun _ => (.bool true, 4)
  | 'f' => (readWord (offset + 1) "alse".toList rest).map fun _ => (.bool false, 5)
  | '"' =>
    (readText (offset + 1) rest).map fun (cs, count) => (.text (String.ofList cs), count + 1)
  | c =>
    if c == '-' || c.isDigit then
      (Numeral.read offset (lead :: rest)).map fun (n, count) => (.number n, count)
    else .error ⟨.expectedValue, offset + 1⟩

/-- The tokens of a text at an offset, of which a number of characters belong to the token before. -/
def tokensFrom (offset skip : Nat) : List Char → List Token
  | [] => []
  | c :: rest =>
    let next := offset + c.utf8Size
    if 0 < skip then tokensFrom next (skip - 1) rest
    else if isSpace c then tokensFrom next 0 rest
    else
      match readLexeme offset c rest with
      | .error fault => [⟨offset, fault.offset, c, .error fault⟩]
      | .ok (lexeme, count) =>
        let stop := offset + Text.byteSize ((c :: rest).take count)
        ⟨offset, stop, c, .ok lexeme⟩ :: tokensFrom next (count - 1) rest

end Token

/-- The tokens of a text. -/
def tokens (text : List Char) : List Token := Token.tokensFrom 0 0 text

end ChartLint.Json
