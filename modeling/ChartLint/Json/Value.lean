/-!
JSON values and their indented form: two spaces a level, nothing between the brackets of what is empty,
and only quotes, backslashes and control characters escaped.
-/
namespace ChartLint.Json

inductive Value where
  | null
  | bool (value : Bool)
  | natural (n : Nat)
  | text (value : String)
  | list (items : List Value)
  | record (entries : List (String × Value))

namespace Value

/-- A value that may be absent. -/
def ofOption (value : Option Value) : Value := value.getD .null

/-- The form of a character inside a string. -/
def escape (c : Char) : String :=
  match c with
  | '"' => "\\\""
  | '\\' => "\\\\"
  | '\n' => "\\n"
  | '\r' => "\\r"
  | '\t' => "\\t"
  | '\x08' => "\\b"
  | '\x0c' => "\\f"
  | c =>
    if c.toNat < 0x20 then
      let digits := Nat.toDigits 16 c.toNat
      "\\u" ++ String.ofList (List.replicate (4 - digits.length) '0' ++ digits)
    else c.toString

def quote (s : String) : String := "\"" ++ String.join (s.toList.map escape) ++ "\""

def indent (level : Nat) : String := String.ofList (List.replicate (2 * level) ' ')

mutual

/-- The indented form of a value that stands at a level. -/
def pretty (level : Nat) : Value → String
  | .null => "null"
  | .bool value => if value then "true" else "false"
  | .natural n => toString n
  | .text value => quote value
  | .list [] => "[]"
  | .list items =>
    "[\n" ++ ",\n".intercalate (prettyItems (level + 1) items) ++ "\n" ++ indent level ++ "]"
  | .record [] => "\x7b\x7d"
  | .record entries =>
    "\x7b\n" ++ ",\n".intercalate (prettyEntries (level + 1) entries) ++ "\n" ++ indent level ++
      "\x7d"

def prettyItems (level : Nat) : List Value → List String
  | [] => []
  | item :: rest => (indent level ++ item.pretty level) :: prettyItems level rest

def prettyEntries (level : Nat) : List (String × Value) → List String
  | [] => []
  | (key, value) :: rest =>
    (indent level ++ quote key ++ ": " ++ value.pretty level) :: prettyEntries level rest

end

end Value

end ChartLint.Json
