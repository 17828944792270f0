import ChartLint.Catalog
import ChartLint.Setting

/-!
The tree of the accepted sections of a document, in document order. A section knows the one that
encloses it; what a section sees of settings and scope comes from the path to the root.
-/
namespace ChartLint.Section

structure Node where
  name : String
  range : Range
  /-- Settings in the order of their declaration. -/
  settings : List Setting
  /-- The enclosing section; the root has none. -/
  parent : Option Nat
  /-- Sections directly enclosed, in document order. -/
  children : List Nat := []
  /-- The scope that the section itself declares, read from its settings when it is added. -/
  scope : Scope := Setting.scopeOf settings

namespace Node

/-- The section's own setting of a name. -/
def setting? (node : Node) (name : String) : Option Setting :=
  Setting.named? node.settings (normalizeName name)

/-- The section with one more that it directly encloses. -/
def enclose (id : Nat) (node : Node) : Node := { node with children := node.children ++ [id] }

end Node

structure Tree where
  /-- Sections in the order in which they were added. -/
  nodes : Array Node := #[]
  root? : Option Nat := none
  /-- By depth, the last section added at it, unless one that is less deep followed. -/
  lastByDepth : List (Option Nat) := []
  /-- The section added last. -/
  previous? : Option Nat := none
  /-- The last section added that is no leaf. -/
  lastEnclosing? : Option Nat := none

namespace Tree

def size (tree : Tree) : Nat := tree.nodes.size

/-- Sections of this depth are leaves, as a rule. -/
def leafDepth : Nat := 4

/-- The last section of a depth, unless one that is less deep follows it. -/
def lastAt? (tree : Tree) (depth : Nat) : Option Nat := tree.lastByDepth[depth]?.join

/-- The section added last, if it may directly enclose a section. -/
def enclosing? (catalog : Catalog) (tree : Tree) (name : String) : Option Nat :=
  tree.previous?.filter fun id =>
    tree.nodes[id]?.any fun node => (catalog.parentSections name).contains node.name

/-- The parent that a section of a depth gets below the root. -/
def parentFor? (catalog : Catalog) (tree : Tree) (name : String) (depth : Nat) : Option Nat :=
  match depth with
  | 1 => tree.root?
  | 2 => tree.lastAt? 1
  | 3 => (tree.enclosing? catalog name).or (tree.lastAt? 2)
  | 4 => (tree.enclosing? catalog name).or tree.lastEnclosing?
  | _ => none

/-- The parent that a section of a depth gets, if it has a place: the first section is the root, and
the only one of depth zero. -/
def placeFor? (catalog : Catalog) (tree : Tree) (name : String) (depth : Nat) :
    Option (Option Nat) :=
  if depth = 0 then if tree.root?.isNone then some none else none
  else (tree.parentFor? catalog name depth).map some

/-- Appends a section of a depth: its parent lists it, and what was deeper no longer encloses
anything. -/
def attach (tree : Tree) (depth : Nat) (node : Node) : Tree :=
  let id := tree.size
  let nodes := tree.nodes.push node
  { nodes :=
      match node.parent with
      | some parent => nodes.modify parent (Node.enclose id)
      | none => nodes
    root? := if node.parent.isNone then some id else tree.root?
    lastByDepth := (tree.lastByDepth.rightpad depth none).take depth ++ [some id]
    previous? := some id
    lastEnclosing? := if depth < leafDepth then some id else tree.lastEnclosing? }

/-- Adds a section; `none` if it has no place. -/
def add? (catalog : Catalog) (tree : Tree) (name : String) (range : Range)
    (settings : List Setting) : Option Tree := do
  let depth ← catalog.depth? name
  let parent ← tree.placeFor? catalog name depth
  return tree.attach depth { name, range, settings, parent }

/-- The tree after a section is offered to it; one that has no place is left out. -/
def add (catalog : Catalog) (tree : Tree) (name : String) (range : Range)
    (settings : List Setting) : Tree :=
  (tree.add? catalog name range settings).getD tree

/-- The section that encloses another. -/
def parent? (tree : Tree) (id : Nat) : Option Nat := tree.nodes[id]?.bind Node.parent

/-- Sections that another directly encloses; they follow it. -/
def children (tree : Tree) (id : Nat) : List Nat :=
  ((tree.nodes[id]?.map Node.children).getD []).filter (id < ·)

theorem lt_of_mem_children {tree : Tree} {id child : Nat} (h : child ∈ tree.children id) :
    id < child ∧ id < tree.size := by
  simp only [children, List.mem_filter, decide_eq_true_eq] at h
  refine ⟨h.2, Nat.lt_of_not_le fun outside => ?_⟩
  simp [Array.getElem?_eq_none outside] at h

/-- A section followed by those that enclose it, up to the root. -/
def path (tree : Tree) (id : Nat) : List Node :=
  match tree.nodes[id]? with
  | none => []
  | some node =>
    match node.parent with
    | none => [node]
    | some parent => if parent < id then node :: tree.path parent else [node]

/-- The nearest declaration of a setting on the path of a section. -/
def setting? (tree : Tree) (id : Nat) (name : String) : Option Setting :=
  (tree.path id).findSome? fun node => node.setting? name

/-- The nearest value for a key on the path of a section. -/
def scopeValue? (tree : Tree) (id : Nat) (key : Scope.Key) : Option String :=
  (tree.path id).findSome? fun node => node.scope.get key

/-- The scope that a section sees. -/
def effectiveScope (tree : Tree) (id : Nat) : Scope :=
  .ofValues (tree.scopeValue? id .type) (tree.scopeValue? id .mode)

/-- A section and all sections below it, each before its children. -/
def preorder (tree : Tree) (id : Nat) : List Nat :=
  id :: (tree.children id).attach.flatMap fun child => tree.preorder child.1
termination_by tree.size - id
decreasing_by
  have := lt_of_mem_children child.2
  omega

/-- All sections, each before its children. -/
def order (tree : Tree) : List Nat :=
  match tree.root? with
  | some root => tree.preorder root
  | none => []

end Tree

end ChartLint.Section
