import ChartLint.Section.Tree

/-!
Views: a section as rules see it.
-/
namespace ChartLint.Rule

structure View where
  catalog : Catalog
  tree : Section.Tree
  id : Nat
  node : Section.Node

namespace View

/-- The view of a section of a tree. -/
def of? (catalog : Catalog) (tree : Section.Tree) (id : Nat) : Option View :=
  tree.nodes[id]?.map fun node => ⟨catalog, tree, id, node⟩

/-- The section's own setting of a name. -/
def local? (view : View) (name : String) : Option Setting := view.node.setting? name

/-- The nearest setting of a name. -/
def visible? (view : View) (name : String) : Option Setting := view.tree.setting? view.id name

def scopeValue? (view : View) (key : Scope.Key) : Option String :=
  view.tree.scopeValue? view.id key

/-- The default of a setting in the scope of the section. -/
def default? (view : View) (name : String) : Option String := do
  let descriptor ← view.catalog.lookup name
  (descriptor.resolve (view.tree.effectiveScope view.id)).default?

/-- The value in effect: as declared, from the scope if it is one of its keys, or else the default. -/
def effective? (view : View) (name : String) : Option String :=
  let declared :=
    match Scope.Key.ofName? (normalizeName name) with
    | some key => view.scopeValue? key
    | none => (view.visible? name).map Setting.value
  declared.or (view.default? name)

end View

end ChartLint.Rule
