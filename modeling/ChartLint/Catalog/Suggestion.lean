import ChartLint.Catalog

/-!
Suggestions: the known setting whose name is the fewest edits away.
-/
namespace ChartLint

namespace EditDistance

/-- The rest of a row of distances, from the distance on its left and the row above. -/
def extendRow (c : Char) : (left : Nat) → (word : List Char) → (above : List Nat) → List Nat
  | left, d :: word, diagonal :: up :: above =>
    let here := min (min left up + 1) (if c = d then diagonal else diagonal + 1)
    here :: extendRow c here word (up :: above)
  | _, _, _ => []

/-- The row of distances after one more character of the first word. -/
def nextRow (word : List Char) (above : List Nat) (c : Char) : List Nat :=
  let left := above.headD 0 + 1
  left :: extendRow c left word above

end EditDistance

/-- The least number of insertions, deletions and substitutions of one character that turn a word into
another. -/
def editDistance (a b : List Char) : Nat :=
  (a.foldl (EditDistance.nextRow b) (List.range (b.length + 1))).getLastD 0

namespace Catalog

/-- Suggestions are at most this many edits away. -/
def suggestionLimit : Nat := 3

/-- The nearer of two settings, and the first if both are as near. -/
def nearer (best : Option (Nat × Descriptor)) (candidate : Nat × Descriptor) :
    Option (Nat × Descriptor) :=
  match best with
  | none => some candidate
  | some best => if candidate.1 < best.1 then some candidate else some best

/-- The display name of the setting nearest to a name. -/
def suggest (catalog : Catalog) (name : String) : Option String :=
  let wanted := normalizeName name
  if wanted.isEmpty then none
  else
    let distances := catalog.settings.values.map fun setting =>
      (editDistance wanted.toList setting.name.toList, setting)
    ((distances.filter fun candidate => candidate.1 ≤ suggestionLimit).foldl nearer none).map
      fun best => best.2.displayName

end Catalog

end ChartLint
