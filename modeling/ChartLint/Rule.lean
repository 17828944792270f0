import ChartLint.Rule.Relation
import ChartLint.Rule.Requirement

/-!
Rules between settings, applied to every section of a tree.
-/
namespace ChartLint

/-- The findings of a list, the first of each range only. -/
def firstPerRange : (seen : List Range) → List Finding → List Finding
  | _, [] => []
  | seen, finding :: rest =>
    if seen.contains finding.range then firstPerRange seen rest
    else finding :: firstPerRange (finding.range :: seen) rest

/-- Visits all sections of a tree, each before its children, and keeps the first finding of each
range. -/
def Section.Tree.walk (tree : Section.Tree) (visit : Nat → List Finding) : List Finding :=
  firstPerRange [] (tree.order.flatMap visit)

namespace Rule

/-- All findings about a section. -/
def findingsOf (view : View) : List Finding :=
  (requirementsOf view.node.name).filterMap (·.check view) ++ checkRelations view

/-- The findings about all sections of a tree. -/
def findings (catalog : Catalog) (tree : Section.Tree) : List Finding :=
  tree.walk fun id => ((View.of? catalog tree id).map findingsOf).getD []

end Rule

end ChartLint
