import ChartLint.Text.Blank
import ChartLint.Text.CaseFolding
import ChartLint.Text.Digit
import ChartLint.Text.Word

/-!
Sets of characters that a pattern names.
-/
namespace ChartLint.Pattern

inductive CharSet.Item where
  /-- The code points from the first to the last. -/
  | range (first last : Nat)
  | digit (negated : Bool)
  | word (negated : Bool)
  | blank (negated : Bool)
  deriving DecidableEq

/-- The characters that some item has, or, when negated, that none has. When case is ignored an item
has a letter if it has any spelling of the letter. -/
structure CharSet where
  items : List CharSet.Item
  negated : Bool := false
  ignoreCase : Bool := false
  deriving DecidableEq

namespace CharSet

def Item.contains (item : Item) (point : Nat) : Bool :=
  match item with
  | .range first last => first ≤ point && point ≤ last
  | .digit negated => Text.isDigit (Char.ofNat point) != negated
  | .word negated => Text.isWord (Char.ofNat point) != negated
  | .blank negated => Text.isBlank (Char.ofNat point) != negated

def contains (set : CharSet) (c : Char) : Bool :=
  let spellings := if set.ignoreCase then Text.spellings c.toNat else [c.toNat]
  spellings.any (fun point => set.items.any (·.contains point)) != set.negated

def single (c : Char) : CharSet := ⟨[.range c.toNat c.toNat], false, false⟩

/-- Every character. -/
def all : CharSet := ⟨[], true, false⟩

/-- Every character but the line feed. -/
def dot : CharSet := ⟨[.range 0xA 0xA], true, false⟩

end CharSet

end ChartLint.Pattern
