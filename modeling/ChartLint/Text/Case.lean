/-!
Letter case. Names and values are compared after lower-casing their ASCII letters. Fixed words of a
line are matched by simple case folding, under which two characters beyond ASCII also spell an ASCII
letter: the long s and the Kelvin sign.
-/
namespace ChartLint.Text

/-- A string with its ASCII letters lower-cased. -/
def lower (s : String) : String := String.ofList (s.toList.map Char.toLower)

/-- Whether two strings differ at most in the case of ASCII letters. -/
def equalIgnoringCase (a b : String) : Bool :=
  a.toList.map Char.toLower == b.toList.map Char.toLower

/-- The ASCII letter in lower case that a character spells, if it spells one; else itself. -/
def foldToAscii (c : Char) : Char :=
  if c == 'ſ' then 's' else if c == 'K' then 'k' else c.toLower

/-- Whether a text spells a lower-case ASCII word. -/
def spells (cs : List Char) (word : String) : Bool := cs.map foldToAscii == word.toList

end ChartLint.Text
