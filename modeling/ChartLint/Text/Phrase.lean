/-!
Phrases: lists of names as messages write them.
-/
namespace ChartLint.Text

/-- `a, b` -/
def commaList (items : List String) : String := ", ".intercalate items

/-- `[a], [b]` -/
def sectionList (names : List String) : String := commaList (names.map fun name => s!"[{name}]")

/-- One bullet per item, each on a line of its own. -/
def bulletList (items : List String) : String := String.join (items.map fun item => s!"\n * {item}")

end ChartLint.Text
