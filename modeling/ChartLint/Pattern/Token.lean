import ChartLint.Pattern

/-!
Tokens of pattern notation: sets of characters, anchors, groups, bars and repetitions.
-/
namespace ChartLint.Pattern

inductive Token where
  | oneOf (set : CharSet)
  | start
  | stop
  | bar
  /-- Opens a group, which may say whether case is ignored in it. -/
  | groupOpen (ignoreCase : Option Bool)
  | groupClose
  /-- Says whether case is ignored in the rest of the group. -/
  | flag (ignoreCase : Bool)
  | repetition (least : Nat) (most : Option Nat)

namespace Token

/-- The set that a letter names after a backslash. -/
def shorthand? : Char → Option CharSet.Item
  | 'd' => some (.digit false)
  | 'D' => some (.digit true)
  | 'w' => some (.word false)
  | 'W' => some (.word true)
  | 's' => some (.blank false)
  | 'S' => some (.blank true)
  | _ => none

/-- The character that another stands for after a backslash: control characters have letters, and signs
stand for themselves. -/
def escaped? (c : Char) : Option Char :=
  match c with
  | 'n' => some '\n'
  | 't' => some '\t'
  | 'r' => some '\r'
  | 'f' => some '\x0c'
  | 'v' => some '\x0b'
  | 'a' => some '\x07'
  | c => if c.toNat < 0x80 && !c.isAlphanum && c != '<' && c != '>' then some c else none

/-- A character or a shorthand that starts a text, and the number of characters it takes. -/
def readPrimitive? : List Char → Option ((Char ⊕ CharSet.Item) × Nat)
  | '\\' :: c :: _ =>
    match shorthand? c with
    | some item => some (.inr item, 2)
    | none => (escaped? c).map fun c => (.inl c, 2)
  | ['\\'] | [] => none
  | c :: _ => some (.inl c, 1)

/-- A member of a bracketed set: a shorthand, a character, or a range of characters, which has to be
ascending. A dash before the closing bracket or another dash makes no range. -/
def readMember? (text : List Char) : Option (CharSet.Item × Nat) := do
  let (first, count) ← readPrimitive? text
  let rest := text.drop count
  let isRange := rest.head? == some '-' && rest.length ≥ 2 &&
    (rest.drop 1).head? != some ']' && (rest.drop 1).head? != some '-'
  match first with
  | .inr item => if isRange then none else return (item, count)
  | .inl c =>
    if isRange then
      let (last, lastCount) ← readPrimitive? (rest.drop 1)
      match last with
      | .inr _ => none
      | .inl d =>
        if c ≤ d then return (.range c.toNat d.toNat, count + 1 + lastCount) else none
    else return (.range c.toNat c.toNat, count)

/-- The members of a bracketed set up to its closing bracket, which is counted; a number of characters
belong to the member before. Sets inside sets and set operations are no notation. -/
def readMembers? (skip : Nat) : List Char → Option (List CharSet.Item × Nat)
  | [] => none
  | c :: rest =>
    if 0 < skip then (readMembers? (skip - 1) rest).map fun (items, count) => (items, count + 1)
    else if c = ']' then some ([], 1)
    else if c = '[' then none
    else do
      let (item, taken) ← readMember? (c :: rest)
      let (items, count) ← readMembers? (taken - 1) rest
      return (item :: items, count + 1)

/-- A bracketed set after its opening bracket. A bracket that would close it at once, and dashes at its
front, are members. -/
def readSet? (text : List Char) : Option (CharSet × Nat) := do
  let negated := text.head? == some '^'
  let text := if negated then text.drop 1 else text
  let (front, text) :=
    match text with
    | ']' :: rest => ([']'], rest)
    | text => (text.takeWhile (· == '-'), text.dropWhile (· == '-'))
  let (items, count) ← readMembers? 0 text
  let members := front.map fun c => CharSet.Item.range c.toNat c.toNat
  return (⟨members ++ items, negated, false⟩, (if negated then 1 else 0) + front.length + count)

/-- Counts of a repetition after its opening brace: one number, or two of which the second may be
absent or else is no less than the first. -/
def readCounts? (text : List Char) : Option (Token × Nat) := do
  let first := text.takeWhile Char.isDigit
  let least ← Text.natural? first
  match text.dropWhile Char.isDigit with
  | '\x7d' :: _ => return (.repetition least (some least), first.length + 1)
  | ',' :: '\x7d' :: _ => return (.repetition least none, first.length + 2)
  | ',' :: rest =>
    let second := rest.takeWhile Char.isDigit
    let most ← Text.natural? second
    if least ≤ most ∧ (rest.dropWhile Char.isDigit).head? = some '\x7d' then
      return (.repetition least (some most), first.length + second.length + 2)
    else none
  | _ => none

/-- A group after its opening parenthesis: plain, uncaptured, or with the flag for case. -/
def readGroup? : List Char → Option (Token × Nat)
  | '?' :: ':' :: _ => some (.groupOpen none, 2)
  | '?' :: 'i' :: ':' :: _ => some (.groupOpen (some true), 3)
  | '?' :: '-' :: 'i' :: ':' :: _ => some (.groupOpen (some false), 4)
  | '?' :: 'i' :: ')' :: _ => some (.flag true, 3)
  | '?' :: '-' :: 'i' :: ')' :: _ => some (.flag false, 4)
  | '?' :: _ => none
  | _ => some (.groupOpen none, 0)

/-- A token, and the number of characters it takes with a question mark that may follow a repetition. -/
def withLazyMark (token : Token) (count : Nat) (rest : List Char) : Token × Nat :=
  if rest.head? = some '?' then (token, count + 1) else (token, count)

/-- The token that starts a text, and the number of characters it takes. -/
def read? (c : Char) (rest : List Char) : Option (Token × Nat) :=
  match c with
  | '.' => some (.oneOf .dot, 1)
  | '^' => some (.start, 1)
  | '$' => some (.stop, 1)
  | '|' => some (.bar, 1)
  | ')' => some (.groupClose, 1)
  | '(' => (readGroup? rest).map fun (token, count) => (token, count + 1)
  | '[' => (readSet? rest).map fun (set, count) => (.oneOf set, count + 1)
  | '*' => some (withLazyMark (.repetition 0 none) 1 rest)
  | '+' => some (withLazyMark (.repetition 1 none) 1 rest)
  | '?' => some (withLazyMark (.repetition 0 (some 1)) 1 rest)
  | '\x7b' =>
    (readCounts? rest).map fun (token, count) => withLazyMark token (count + 1) (rest.drop count)
  | c =>
    (readPrimitive? (c :: rest)).map fun
      | (.inl c, count) => (.oneOf (.single c), count)
      | (.inr item, count) => (.oneOf ⟨[item], false, false⟩, count)

/-- The tokens of a text, of which a number of characters belong to the token before. -/
def listFrom? (skip : Nat) : List Char → Option (List Token)
  | [] => some []
  | c :: rest =>
    if 0 < skip then listFrom? (skip - 1) rest
    else do
      let (token, count) ← read? c rest
      return token :: (← listFrom? (count - 1) rest)

end Token

end ChartLint.Pattern
