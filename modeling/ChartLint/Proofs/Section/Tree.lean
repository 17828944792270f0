import ChartLint.Rule
import Mathlib.Data.List.Sort

/-!
The tree of sections is one rooted tree in document order. The section added last and all that may
become a parent lie on one path to the root, so every new section follows all others in preorder.
-/
namespace ChartLint.Section

structure Entry where
  name : String
  range : Range
  settings : List Setting

def Node.entry (node : Node) : Entry := ⟨node.name, node.range, node.settings⟩

namespace Tree

/-- The tree of sections that are offered one after the other. -/
def ofEntries (catalog : Catalog) (entries : List Entry) : Tree :=
  entries.foldl (fun tree entry => tree.add catalog entry.name entry.range entry.settings) {}

/-- A section and those that enclose it. -/
inductive Encloses (tree : Tree) : Nat → Nat → Prop
  | refl (id : Nat) : Encloses tree id id
  | step {outer parent id : Nat} :
      tree.parent? id = some parent → Encloses tree outer parent → Encloses tree outer id

section Attach

variable (tree : Tree) (depth : Nat) (node : Node)

@[simp] theorem size_attach : (tree.attach depth node).size = tree.size + 1 := by
  simp only [attach, size]
  cases node.parent with
  | none => simp
  | some parent => simp

/-- Only the parent changes: it lists the new section. -/
theorem getElem?_nodes_attach (id : Nat) :
    (tree.attach depth node).nodes[id]? =
      (if id = tree.size then some node else tree.nodes[id]?).map fun other =>
        if node.parent = some id then other.enclose tree.size else other := by
  have pushed : (tree.nodes.push node)[id]? =
      if id = tree.size then some node else tree.nodes[id]? := Array.getElem?_push
  simp only [attach]
  cases node.parent with
  | none => simp [pushed]
  | some parent =>
    simp only [Array.getElem?_modify, Option.some.injEq, pushed]
    split
    · rfl
    · simp

theorem map_entry_attach_size :
    (tree.attach depth node).nodes[tree.size]?.map Node.entry = some node.entry := by
  rw [getElem?_nodes_attach, if_pos rfl, Option.map_map, Option.map_some, Option.some.injEq]
  dsimp only [Function.comp_def]
  split <;> rfl

@[simp] theorem parent?_attach (id : Nat) :
    (tree.attach depth node).parent? id =
      if id = tree.size then node.parent else tree.parent? id := by
  have keeps (other : Node) :
      (if node.parent = some id then other.enclose tree.size else other).parent = other.parent := by
    split <;> rfl
  simp only [parent?, getElem?_nodes_attach, Option.bind_map, Function.comp_def, keeps]
  split <;> rfl

@[simp] theorem root?_attach :
    (tree.attach depth node).root? = if node.parent.isNone then some tree.size else tree.root? := rfl

@[simp] theorem previous?_attach : (tree.attach depth node).previous? = some tree.size := rfl

@[simp] theorem lastEnclosing?_attach :
    (tree.attach depth node).lastEnclosing? =
      if depth < leafDepth then some tree.size else tree.lastEnclosing? := rfl

@[simp] theorem lastAt?_attach (other : Nat) :
    (tree.attach depth node).lastAt? other =
      if other = depth then some tree.size
      else if other < depth then tree.lastAt? other else none := by
  simp only [lastAt?, attach, List.rightpad]
  grind

variable {tree depth node}

theorem lastAt?_attach_of_lt {other : Nat} (less : other < depth) :
    (tree.attach depth node).lastAt? other = tree.lastAt? other := by
  rw [lastAt?_attach, if_neg (Nat.ne_of_lt less), if_pos less]

/-- A section that is the last of its depth after another was added is that one, or was so before
and is less deep. -/
theorem lastAt?_attach_eq_some {other id : Nat}
    (h : (tree.attach depth node).lastAt? other = some id) :
    other = depth ∧ id = tree.size ∨ other < depth ∧ tree.lastAt? other = some id := by
  rw [lastAt?_attach] at h
  split at h
  case isTrue same => exact .inl ⟨same, (Option.some.inj h).symm⟩
  case isFalse =>
    split at h
    case isTrue less => exact .inr ⟨less, h⟩
    case isFalse => cases h

end Attach

/-- The shape of a tree that sections are added to. What may become a parent of the next section
encloses the section added last, and of two such sections the less deep one encloses the other. -/
structure Rooted (tree : Tree) : Prop where
  root : tree.root? = if tree.size = 0 then none else some 0
  previous : tree.previous? = if tree.size = 0 then none else some (tree.size - 1)
  first : tree.parent? 0 = none
  follows : ∀ id, id + 1 < tree.size →
    ∃ parent, tree.parent? (id + 1) = some parent ∧ parent ≤ id ∧ tree.Encloses parent id
  children : ∀ id node, tree.nodes[id]? = some node →
    node.children = (List.range tree.size).filter fun child => tree.parent? child = some id
  lastAt_zero : tree.lastAt? 0 = tree.root?
  lastAt_nested : ∀ depth deeper outer inner, depth ≤ deeper → deeper < leafDepth →
    tree.lastAt? depth = some outer → tree.lastAt? deeper = some inner → tree.Encloses outer inner
  lastAt_encloses : ∀ depth outer, depth < leafDepth → tree.lastAt? depth = some outer →
    ∃ inner, tree.lastEnclosing? = some inner ∧ tree.Encloses outer inner
  lastEnclosing : ∀ id, tree.lastEnclosing? = some id →
    id < tree.size ∧ tree.Encloses id (tree.size - 1)

theorem rooted_empty : Rooted {} where
  root := rfl
  previous := rfl
  first := rfl
  follows := by simp [size]
  children := by simp
  lastAt_zero := rfl
  lastAt_nested := by simp [lastAt?]
  lastAt_encloses := by simp [lastAt?]
  lastEnclosing := by simp

theorem parent?_lt_size {tree : Tree} {id parent : Nat} (h : tree.parent? id = some parent) :
    id < tree.size := by
  by_contra outside
  have absent : tree.nodes[id]? = none := Array.getElem?_eq_none (Nat.le_of_not_lt outside)
  simp [parent?, absent] at h

theorem Encloses.trans {tree : Tree} {a b c : Nat} (ab : tree.Encloses a b)
    (bc : tree.Encloses b c) : tree.Encloses a c := by
  induction bc with
  | refl => exact ab
  | step parent _ ih => exact .step parent ih

theorem Encloses.lt_size {tree : Tree} {outer id : Nat} (h : tree.Encloses outer id)
    (inside : outer < tree.size) : id < tree.size := by
  cases h with
  | refl => exact inside
  | step isParent _ => exact parent?_lt_size isParent

namespace Rooted

variable {tree : Tree} (rooted : tree.Rooted)

include rooted

theorem parent_lt {id parent : Nat} (h : tree.parent? id = some parent) : parent < id := by
  cases id with
  | zero => rw [rooted.first] at h; cases h
  | succ id =>
    obtain ⟨other, isParent, le, -⟩ := rooted.follows id (parent?_lt_size h)
    rw [h, Option.some.injEq] at isParent
    omega

theorem encloses_le {outer id : Nat} (h : tree.Encloses outer id) : outer ≤ id := by
  induction h with
  | refl => exact Nat.le_refl _
  | step parent _ ih =>
    have := rooted.parent_lt parent
    omega

theorem encloses_attach (depth : Nat) (node : Node) {outer id : Nat} (inside : id < tree.size)
    (h : tree.Encloses outer id) : (tree.attach depth node).Encloses outer id := by
  induction h with
  | refl => exact .refl _
  | @step parent id isParent _ ih =>
    have parentInside := Nat.lt_trans (rooted.parent_lt isParent) inside
    refine .step ?_ (ih parentInside)
    rw [parent?_attach, if_neg (Nat.ne_of_lt inside), isParent]

theorem root_encloses {id : Nat} (inside : id < tree.size) : tree.Encloses 0 id := by
  induction id using Nat.strong_induction_on with
  | _ id ih =>
    cases id with
    | zero => exact .refl 0
    | succ id =>
      obtain ⟨parent, isParent, le, -⟩ := rooted.follows id inside
      exact .step isParent (ih parent (by omega) (by omega))

end Rooted

/-- A section that may take a section of a depth: it encloses the section added last, and all that
stays a possible parent encloses it. -/
structure Place (tree : Tree) (depth parent : Nat) : Prop where
  inside : parent < tree.size
  encloses_last : tree.Encloses parent (tree.size - 1)
  enclosed : ∀ other outer, other < depth → tree.lastAt? other = some outer →
    tree.Encloses outer parent
  enclosed_leaf : depth = leafDepth → ∀ outer, tree.lastEnclosing? = some outer →
    tree.Encloses outer parent

namespace Rooted

variable {tree : Tree} (rooted : tree.Rooted)

include rooted

theorem place_root (nonempty : 0 < tree.size) : tree.Place 1 0 where
  inside := nonempty
  encloses_last := rooted.root_encloses (by omega)
  enclosed := by
    intro other outer below isLast
    obtain rfl : other = 0 := by omega
    rw [rooted.lastAt_zero, rooted.root, if_neg (Nat.ne_of_gt nonempty), Option.some.injEq] at isLast
    rw [isLast]
    exact .refl outer
  enclosed_leaf := nofun

theorem lastAt_encloses_last {depth id : Nat} (below : depth < leafDepth)
    (isLast : tree.lastAt? depth = some id) :
    id < tree.size ∧ tree.Encloses id (tree.size - 1) := by
  obtain ⟨inner, isEnclosing, encloses⟩ := rooted.lastAt_encloses depth id below isLast
  obtain ⟨inside, encloses_last⟩ := rooted.lastEnclosing inner isEnclosing
  exact ⟨Nat.lt_of_le_of_lt (rooted.encloses_le encloses) inside, encloses.trans encloses_last⟩

theorem place_lastAt {depth parent : Nat} (below : depth + 1 < leafDepth)
    (isLast : tree.lastAt? depth = some parent) : tree.Place (depth + 1) parent := by
  have less : depth < leafDepth := by omega
  obtain ⟨inside, encloses_last⟩ := rooted.lastAt_encloses_last less isLast
  refine ⟨inside, encloses_last, ?_, fun isLeaf => absurd isLeaf (Nat.ne_of_lt below)⟩
  intro other outer le isOther
  exact rooted.lastAt_nested other depth outer parent (by omega) less isOther isLast

theorem place_lastEnclosing {parent : Nat} (isEnclosing : tree.lastEnclosing? = some parent) :
    tree.Place leafDepth parent := by
  obtain ⟨inside, encloses_last⟩ := rooted.lastEnclosing parent isEnclosing
  refine ⟨inside, encloses_last, ?_, ?_⟩
  · intro other outer below isLast
    obtain ⟨inner, isInner, encloses⟩ := rooted.lastAt_encloses other outer below isLast
    rw [isEnclosing, Option.some.injEq] at isInner
    rwa [isInner]
  · intro _ outer isOuter
    rw [isEnclosing, Option.some.injEq] at isOuter
    rw [isOuter]
    exact .refl outer

theorem place_enclosing {catalog : Catalog} {name : String} {depth parent : Nat}
    (le : depth ≤ leafDepth) (h : tree.enclosing? catalog name = some parent) :
    tree.Place depth parent := by
  have isPrevious := (Option.filter_eq_some_iff.mp h).1
  rw [rooted.previous] at isPrevious
  split at isPrevious
  · cases isPrevious
  · obtain rfl := Option.some.inj isPrevious
    refine ⟨by omega, .refl _, ?_, ?_⟩
    · intro other outer below isLast
      exact (rooted.lastAt_encloses_last (Nat.lt_of_lt_of_le below le) isLast).2
    · intro _ outer isEnclosing
      exact (rooted.lastEnclosing outer isEnclosing).2

theorem place_parentFor {catalog : Catalog} {name : String} {depth parent : Nat}
    (h : tree.parentFor? catalog name depth = some parent) :
    depth ≤ leafDepth ∧ tree.Place depth parent := by
  unfold parentFor? at h
  split at h
  · rw [rooted.root] at h
    split at h
    · cases h
    · obtain rfl := Option.some.inj h
      exact ⟨by decide, rooted.place_root (by omega)⟩
  · exact ⟨by decide, rooted.place_lastAt (by decide) h⟩
  · refine ⟨by decide, ?_⟩
    rcases Option.or_eq_some_iff.mp h with isPrevious | ⟨-, isLast⟩
    · exact rooted.place_enclosing (by decide) isPrevious
    · exact rooted.place_lastAt (by decide) isLast
  · refine ⟨by decide, ?_⟩
    rcases Option.or_eq_some_iff.mp h with isPrevious | ⟨-, isEnclosing⟩
    · exact rooted.place_enclosing (by decide) isPrevious
    · exact rooted.place_lastEnclosing isEnclosing
  · cases h

/-- A new section is the last child of its parent and has no children. -/
theorem children_attach {depth : Nat} {node : Node} (leaf : node.children = [])
    (inside : ∀ parent, node.parent = some parent → parent < tree.size) (id : Nat) (other : Node)
    (h : (tree.attach depth node).nodes[id]? = some other) :
    other.children = (List.range (tree.attach depth node).size).filter fun child =>
      (tree.attach depth node).parent? child = some id := by
  have older : (List.range tree.size).filter (fun child =>
        decide ((tree.attach depth node).parent? child = some id)) =
      (List.range tree.size).filter fun child => tree.parent? child = some id := by
    apply List.filter_congr
    intro child isOlder
    simp [Nat.ne_of_lt (List.mem_range.mp isOlder)]
  rw [size_attach, List.range_succ, List.filter_append, older]
  rw [getElem?_nodes_attach] at h
  by_cases last : id = tree.size
  · have isOther : node.parent ≠ some id := fun isParent =>
      Nat.lt_irrefl _ (last ▸ inside id isParent)
    have childless : (List.range tree.size).filter (fun child => tree.parent? child = some id) =
        [] := by
      simp only [List.filter_eq_nil_iff, List.mem_range, decide_eq_true_eq]
      intro child isOlder isParent
      have := rooted.parent_lt isParent
      omega
    simp only [if_pos last, Option.map_some, if_neg isOther, Option.some.injEq] at h
    simp [childless, isOther, ← h, leaf]
  · simp only [if_neg last, Option.map_eq_some_iff] at h
    obtain ⟨before, isBefore, rfl⟩ := h
    rw [← rooted.children id before isBefore]
    by_cases isParent : node.parent = some id
    · simp [isParent, Node.enclose]
    · simp [isParent]

theorem attach_root {node : Node} (empty : tree.size = 0) (isRoot : node.parent = none)
    (leaf : node.children = []) : (tree.attach 0 node).Rooted := by
  have onlyRoot {depth id : Nat} (h : (tree.attach 0 node).lastAt? depth = some id) :
      depth = 0 ∧ id = 0 := by
    rcases lastAt?_attach_eq_some h with ⟨rfl, rfl⟩ | ⟨less, -⟩
    · exact ⟨rfl, empty⟩
    · cases less
  refine {
    root := by simp [empty, isRoot]
    previous := by simp
    first := by simp [empty, isRoot]
    follows := by simp [empty]
    children := rooted.children_attach leaf (by simp [isRoot])
    lastAt_zero := by simp [isRoot]
    lastAt_nested := ?_
    lastAt_encloses := ?_
    lastEnclosing := by simp [empty, leafDepth, Encloses.refl] }
  · intro shallow deep outer inner _ _ isOuter isInner
    rw [(onlyRoot isOuter).2, (onlyRoot isInner).2]
    exact .refl 0
  · intro other outer _ isOuter
    rw [(onlyRoot isOuter).2]
    exact ⟨0, by simp [empty, leafDepth], .refl 0⟩

theorem attach {depth parent : Nat} {node : Node} (positive : 0 < depth) (le : depth ≤ leafDepth)
    (place : tree.Place depth parent) (isParent : node.parent = some parent)
    (leaf : node.children = []) : (tree.attach depth node).Rooted := by
  have nonempty : 0 < tree.size := by have := place.inside; omega
  have isChild : (tree.attach depth node).parent? tree.size = some parent := by simp [isParent]
  have older {outer id : Nat} (inside : id < tree.size) (h : tree.Encloses outer id) :
      (tree.attach depth node).Encloses outer id := rooted.encloses_attach depth node inside h
  -- Whatever encloses the parent encloses the new section.
  have newer {outer : Nat} (h : tree.Encloses outer parent) :
      (tree.attach depth node).Encloses outer tree.size := .step isChild (older place.inside h)
  refine {
    root := by simp [isParent, rooted.root, Nat.ne_of_gt nonempty]
    previous := by simp
    first := by simpa [Nat.ne_of_lt nonempty] using rooted.first
    follows := ?_
    children := rooted.children_attach leaf fun other isOther => ?_
    lastAt_zero := by simp [Nat.ne_of_lt positive, positive, isParent, rooted.lastAt_zero]
    lastAt_nested := ?_
    lastAt_encloses := ?_
    lastEnclosing := ?_ }
  · intro id inside
    rw [size_attach] at inside
    by_cases last : id + 1 = tree.size
    · obtain rfl : id = tree.size - 1 := by omega
      have := place.inside
      exact ⟨parent, last ▸ isChild, by omega, older (by omega) place.encloses_last⟩
    · obtain ⟨other, isOther, before, encloses⟩ := rooted.follows id (by omega)
      exact ⟨other, by simp [last, isOther], before, older (by omega) encloses⟩
  · rw [isParent, Option.some.injEq] at isOther
    exact isOther ▸ place.inside
  · intro shallow deep outer inner before below isOuter isInner
    rcases lastAt?_attach_eq_some isOuter with ⟨rfl, rfl⟩ | ⟨less, wasOuter⟩ <;>
      rcases lastAt?_attach_eq_some isInner with ⟨rfl, rfl⟩ | ⟨deeper, wasInner⟩
    · exact .refl _
    · omega
    · exact newer (place.enclosed shallow outer less wasOuter)
    · exact older (rooted.lastAt_encloses_last below wasInner).1
        (rooted.lastAt_nested shallow deep outer inner before below wasOuter wasInner)
  · intro other outer below isOuter
    by_cases isLeaf : depth < leafDepth
    · refine ⟨tree.size, by simp [isLeaf], ?_⟩
      rcases lastAt?_attach_eq_some isOuter with ⟨rfl, rfl⟩ | ⟨less, isOuter⟩
      · exact .refl _
      · exact newer (place.enclosed other outer less isOuter)
    · rcases lastAt?_attach_eq_some isOuter with ⟨rfl, rfl⟩ | ⟨less, isOuter⟩
      · exact absurd below isLeaf
      · obtain ⟨inner, isInner, encloses⟩ := rooted.lastAt_encloses other outer below isOuter
        exact ⟨inner, by simp [isLeaf, isInner],
          older (rooted.lastEnclosing inner isInner).1 encloses⟩
  · intro id isEnclosing
    rw [lastEnclosing?_attach] at isEnclosing
    rw [size_attach, Nat.add_sub_cancel]
    split at isEnclosing
    · obtain rfl := Option.some.inj isEnclosing
      exact ⟨Nat.lt_succ_self _, .refl _⟩
    · have isLeaf : depth = leafDepth := by omega
      have inside := (rooted.lastEnclosing id isEnclosing).1
      exact ⟨Nat.lt_succ_of_lt inside, newer (place.enclosed_leaf isLeaf id isEnclosing)⟩

end Rooted

theorem add?_eq_some {catalog : Catalog} {tree after : Tree} {name : String} {range : Range}
    {settings : List Setting} (h : tree.add? catalog name range settings = some after) :
    ∃ depth parent, catalog.depth? name = some depth ∧
      tree.placeFor? catalog name depth = some parent ∧
      after = tree.attach depth { name, range, settings, parent } := by
  simp only [add?, Option.bind_eq_bind, Option.bind_eq_some_iff, Option.pure_def,
    Option.some.injEq] at h
  obtain ⟨depth, isDepth, parent, isPlace, rfl⟩ := h
  exact ⟨depth, parent, isDepth, isPlace, rfl⟩

theorem add_eq_attach {catalog : Catalog} {tree : Tree} {name : String} {range : Range}
    {settings : List Setting} {depth : Nat} {parent : Option Nat}
    (isDepth : catalog.depth? name = some depth)
    (isPlace : tree.placeFor? catalog name depth = some parent) :
    tree.add catalog name range settings =
      tree.attach depth { name, range, settings, parent } := by
  simp [add, add?, isDepth, isPlace]

theorem add_eq_self {catalog : Catalog} {tree : Tree} {name : String} {range : Range}
    {settings : List Setting} {depth : Nat} (isDepth : catalog.depth? name = some depth)
    (noPlace : tree.placeFor? catalog name depth = none) :
    tree.add catalog name range settings = tree := by
  simp [add, add?, isDepth, noPlace]

theorem size_add (catalog : Catalog) (tree : Tree) (name : String) (range : Range)
    (settings : List Setting) :
    (tree.add catalog name range settings).size =
      tree.size + if (tree.add? catalog name range settings).isSome then 1 else 0 := by
  unfold add
  cases isAdded : tree.add? catalog name range settings with
  | none => rfl
  | some after =>
    obtain ⟨depth, parent, -, -, rfl⟩ := add?_eq_some isAdded
    simp

theorem isSome_add? {catalog : Catalog} {tree : Tree} {name : String} {range : Range}
    {settings : List Setting} {depth : Nat} (isDepth : catalog.depth? name = some depth) :
    (tree.add? catalog name range settings).isSome = (tree.placeFor? catalog name depth).isSome := by
  cases isPlace : tree.placeFor? catalog name depth with
  | none => simp [add?, isDepth, isPlace]
  | some parent => simp [add?, isDepth, isPlace]

/-- The sections of a tree in the order in which they were added. -/
def entries (tree : Tree) : List Entry := tree.nodes.toList.map Node.entry

theorem mem_entries {tree : Tree} {entry : Entry} :
    entry ∈ tree.entries ↔ ∃ (id : Nat) (node : Node), tree.nodes[id]? = some node ∧
      node.entry = entry := by
  simp only [entries, List.mem_iff_getElem?, List.getElem?_map, Array.getElem?_toList,
    Option.map_eq_some_iff]

theorem entries_attach (tree : Tree) (depth : Nat) (node : Node) :
    (tree.attach depth node).entries = tree.entries ++ [node.entry] := by
  apply List.ext_getElem?
  intro id
  have keeps (other : Node) :
      (if node.parent = some id then other.enclose tree.size else other).entry = other.entry := by
    split <;> rfl
  rw [← List.map_singleton, entries, entries, ← List.map_append, ← Array.toList_push, List.getElem?_map,
    List.getElem?_map, Array.getElem?_toList, Array.getElem?_toList, getElem?_nodes_attach,
    Array.getElem?_push, Option.map_map, Function.comp_def]
  simp only [keeps]
  rfl

theorem entries_add (catalog : Catalog) (tree : Tree) (name : String) (range : Range)
    (settings : List Setting) :
    (tree.add catalog name range settings).entries = tree.entries ++
      if (tree.add? catalog name range settings).isSome then [⟨name, range, settings⟩] else [] := by
  unfold add
  cases isAdded : tree.add? catalog name range settings with
  | none => exact (List.append_nil _).symm
  | some after =>
    obtain ⟨depth, parent, -, -, rfl⟩ := add?_eq_some isAdded
    exact entries_attach ..

theorem mem_entries_add {catalog : Catalog} {tree : Tree} {name : String} {range : Range}
    {settings : List Setting} {entry : Entry}
    (h : entry ∈ (tree.add catalog name range settings).entries) :
    entry ∈ tree.entries ∨ entry = ⟨name, range, settings⟩ := by
  rw [entries_add, List.mem_append] at h
  refine h.imp_right fun isNew => ?_
  split at isNew
  · exact List.mem_singleton.mp isNew
  · cases isNew

/-- A section is placed as the root of an empty tree, or below what its depth gives it. -/
theorem placeFor?_eq_some {catalog : Catalog} {tree : Tree} {name : String} {depth : Nat}
    {parent : Option Nat} (h : tree.placeFor? catalog name depth = some parent) :
    depth = 0 ∧ tree.root? = none ∧ parent = none ∨
      0 < depth ∧ ∃ id, tree.parentFor? catalog name depth = some id ∧ parent = some id := by
  unfold placeFor? at h
  split at h
  case isTrue isZero =>
    split at h
    case isTrue noRoot => exact .inl ⟨isZero, by simpa using noRoot, (Option.some.inj h).symm⟩
    case isFalse => cases h
  case isFalse isPositive =>
    obtain ⟨id, isId, rfl⟩ := Option.map_eq_some_iff.mp h
    exact .inr ⟨Nat.pos_of_ne_zero isPositive, id, isId, rfl⟩

theorem Rooted.add {tree : Tree} (rooted : tree.Rooted) (catalog : Catalog) (name : String)
    (range : Range) (settings : List Setting) : (tree.add catalog name range settings).Rooted := by
  unfold Tree.add
  cases h : tree.add? catalog name range settings with
  | none => exact rooted
  | some after =>
    obtain ⟨depth, parent, -, isPlace, rfl⟩ := add?_eq_some h
    rw [Option.getD_some]
    rcases placeFor?_eq_some isPlace with ⟨rfl, noRoot, rfl⟩ | ⟨positive, id, isParent, rfl⟩
    · have empty : tree.size = 0 := by
        by_contra nonempty
        rw [rooted.root, if_neg nonempty] at noRoot
        cases noRoot
      exact rooted.attach_root empty rfl rfl
    · obtain ⟨le, place⟩ := rooted.place_parentFor isParent
      exact rooted.attach positive le place rfl rfl

theorem rooted_ofEntries (catalog : Catalog) (entries : List Entry) :
    (ofEntries catalog entries).Rooted := by
  suffices run : ∀ tree : Tree, tree.Rooted → (entries.foldl (fun tree entry =>
      tree.add catalog entry.name entry.range entry.settings) tree).Rooted from run {} rooted_empty
  induction entries with
  | nil => exact fun tree rooted => rooted
  | cons entry entries ih => exact fun tree rooted => ih _ (rooted.add catalog _ _ _)

theorem path_root {tree : Tree} {id : Nat} {node : Node} (isNode : tree.nodes[id]? = some node)
    (isRoot : node.parent = none) : tree.path id = [node] := by
  rw [path, isNode]
  simp only [isRoot]

theorem head?_path {tree : Tree} {id : Nat} {node : Node} (isNode : tree.nodes[id]? = some node) :
    (tree.path id).head? = some node := by
  rw [path, isNode]
  dsimp only
  split
  · rfl
  · split <;> rfl

theorem exists_of_mem_path {tree : Tree} {id : Nat} {node : Node} (h : node ∈ tree.path id) :
    ∃ other : Nat, tree.nodes[other]? = some node := by
  fun_induction path tree id with
  | case1 => cases h
  | case2 id found isFound => exact ⟨id, by rw [isFound, List.mem_singleton.mp h]⟩
  | case3 id found isFound parent _ _ ih =>
    rcases List.mem_cons.mp h with rfl | member
    · exact ⟨id, isFound⟩
    · exact ih member
  | case4 id found isFound => exact ⟨id, by rw [isFound, List.mem_singleton.mp h]⟩

theorem preorder_eq (tree : Tree) (id : Nat) :
    tree.preorder id = id :: (tree.children id).flatMap tree.preorder := by
  rw [preorder]
  simp

/-- What follows for a section from its children holds for every section. -/
theorem preorder_induction (tree : Tree) {motive : Nat → Prop}
    (step : ∀ id, (∀ child ∈ tree.children id, motive child) → motive id) (id : Nat) : motive id := by
  induction id using Tree.preorder.induct tree with
  | case1 id ih => exact step id fun child isChild => ih ⟨child, isChild⟩

theorem mem_preorder_of_mem_children {tree : Tree} {id parent child : Nat}
    (isChild : child ∈ tree.children parent) (h : parent ∈ tree.preorder id) :
    child ∈ tree.preorder id := by
  induction id using tree.preorder_induction with
  | step id ih =>
    rw [preorder_eq, List.mem_cons, List.mem_flatMap] at h
    rw [preorder_eq, List.mem_cons, List.mem_flatMap]
    rcases h with rfl | ⟨other, isOther, h⟩
    · refine .inr ⟨child, isChild, ?_⟩
      rw [preorder_eq]
      exact List.mem_cons_self
    · exact .inr ⟨other, isOther, ih other isOther h⟩

namespace Rooted

variable {tree : Tree} (rooted : tree.Rooted)

include rooted

theorem children_eq (id : Nat) :
    tree.children id = (List.range tree.size).filter fun child => tree.parent? child = some id := by
  unfold Tree.children
  cases isNode : tree.nodes[id]? with
  | none =>
    symm
    simp only [Option.map_none, Option.getD_none, List.filter_nil, List.filter_eq_nil_iff,
      List.mem_range, decide_eq_true_eq]
    intro child inside isParent
    have := rooted.parent_lt isParent
    have := Array.getElem?_eq_none_iff.mp isNode
    simp only [size] at inside
    omega
  | some node =>
    rw [Option.map_some, Option.getD_some, rooted.children id node isNode, List.filter_filter]
    apply List.filter_congr
    intro child _
    have (isParent : tree.parent? child = some id) := rooted.parent_lt isParent
    grind

theorem mem_children {id child : Nat} :
    child ∈ tree.children id ↔ tree.parent? child = some id := by
  rw [rooted.children_eq, List.mem_filter, List.mem_range, decide_eq_true_eq]
  exact ⟨And.right, fun isParent => ⟨parent?_lt_size isParent, isParent⟩⟩

/-- What lies between a section and one inside it is inside it too. -/
theorem encloses_between {outer middle id : Nat} (inside : id < tree.size) (le : outer ≤ middle)
    (before : middle ≤ id) (h : tree.Encloses outer id) : tree.Encloses outer middle := by
  induction id with
  | zero =>
    obtain rfl : middle = 0 := by omega
    exact h
  | succ id ih =>
    by_cases same : middle = id + 1
    · exact same ▸ h
    · refine ih (by omega) (by omega) ?_
      obtain ⟨parent, isParent, -, encloses⟩ := rooted.follows id inside
      cases h with
      | refl => omega
      | step other outerEncloses =>
        rw [isParent, Option.some.injEq] at other
        exact (other ▸ outerEncloses).trans encloses

theorem mem_preorder {id other : Nat} : other ∈ tree.preorder id ↔ tree.Encloses id other := by
  constructor
  · intro member
    induction id using tree.preorder_induction with
    | step id ih =>
      rw [preorder_eq, List.mem_cons, List.mem_flatMap] at member
      rcases member with rfl | ⟨child, isChild, member⟩
      · exact .refl _
      · have isParent := rooted.mem_children.mp isChild
        exact (Encloses.step isParent (.refl id)).trans (ih child isChild member)
  · intro encloses
    induction encloses with
    | refl =>
      rw [preorder_eq]
      exact List.mem_cons_self
    | step isParent _ ih =>
      exact mem_preorder_of_mem_children (rooted.mem_children.mpr isParent) ih

/-- Sections inside a section come before every later sibling of it. -/
theorem lt_of_encloses_sibling {parent left right inner outer : Nat} (before : left < right)
    (isLeft : tree.parent? left = some parent) (isRight : tree.parent? right = some parent)
    (inLeft : tree.Encloses left inner) (inRight : tree.Encloses right outer)
    (inside : inner < tree.size) : inner < outer := by
  have le := rooted.encloses_le inRight
  by_contra notLess
  have between := rooted.encloses_between inside (Nat.le_of_lt before) (by omega) inLeft
  -- The later sibling would lie inside the earlier one, and so would their parent.
  cases between with
  | refl => omega
  | step other encloses =>
    rw [isRight, Option.some.injEq] at other
    have := rooted.encloses_le encloses
    have := rooted.parent_lt isLeft
    omega

theorem children_sorted (id : Nat) : (tree.children id).Pairwise (· < ·) := by
  rw [rooted.children_eq]
  exact List.pairwise_lt_range.filter _

theorem preorder_sorted (id : Nat) : (tree.preorder id).Pairwise (· < ·) := by
  induction id using tree.preorder_induction with
  | step id ih =>
    rw [preorder_eq, List.pairwise_cons, List.pairwise_flatMap]
    refine ⟨?_, ih, ?_⟩
    · intro other member
      obtain ⟨child, isChild, member⟩ := List.mem_flatMap.mp member
      have after := (lt_of_mem_children isChild).1
      exact Nat.lt_of_lt_of_le after (rooted.encloses_le (rooted.mem_preorder.mp member))
    · apply (rooted.children_sorted id).imp_of_mem
      intro left right isLeft isRight before inner inLeft outer inRight
      rw [rooted.mem_children] at isLeft isRight
      rw [rooted.mem_preorder] at inLeft inRight
      exact rooted.lt_of_encloses_sibling before isLeft isRight inLeft inRight
        (inLeft.lt_size (parent?_lt_size isLeft))

/-- Preorder is the order in which the sections were added. -/
theorem order_eq : tree.order = List.range tree.size := by
  unfold order
  rw [rooted.root]
  by_cases empty : tree.size = 0
  · simp [empty]
  · simp only [if_neg empty]
    have nonempty : 0 < tree.size := Nat.pos_of_ne_zero empty
    apply (rooted.preorder_sorted 0).eq_of_mem_iff List.pairwise_lt_range
    intro id
    rw [rooted.mem_preorder, List.mem_range]
    exact ⟨fun encloses => encloses.lt_size nonempty, rooted.root_encloses⟩

theorem path_child {id parent : Nat} {node : Node} (isNode : tree.nodes[id]? = some node)
    (isParent : node.parent = some parent) : tree.path id = node :: tree.path parent := by
  have before : parent < id := rooted.parent_lt (by simp [parent?, isNode, isParent])
  rw [path, isNode]
  simp only [isParent, if_pos before]

theorem getLast?_path {id : Nat} (inside : id < tree.size) :
    (tree.path id).getLast? = tree.nodes[0]? := by
  induction id using Nat.strong_induction_on with
  | _ id ih =>
    obtain ⟨node, isNode⟩ : ∃ node, tree.nodes[id]? = some node :=
      ⟨_, Array.getElem?_eq_getElem inside⟩
    cases id with
    | zero =>
      have isRoot : node.parent = none := by simpa [parent?, isNode] using rooted.first
      rw [path_root isNode isRoot, isNode]
      rfl
    | succ id =>
      obtain ⟨parent, isParent, le, -⟩ := rooted.follows id inside
      simp only [parent?, isNode, Option.bind_some] at isParent
      have last := ih parent (by omega) (by omega)
      rw [rooted.path_child isNode isParent, List.getLast?_cons, last]
      simp [Array.getElem?_eq_getElem (show 0 < tree.nodes.size from Nat.zero_lt_of_lt inside)]

end Rooted

theorem map_entry_path_attach (tree : Tree) (depth : Nat) (node : Node) {id : Nat}
    (inside : id < tree.size) :
    ((tree.attach depth node).path id).map Node.entry = (tree.path id).map Node.entry := by
  induction id using Nat.strong_induction_on with
  | _ id ih =>
    obtain ⟨before, isBefore⟩ : ∃ before, tree.nodes[id]? = some before :=
      ⟨_, Array.getElem?_eq_getElem inside⟩
    obtain ⟨after, isAfter, sameEntry, sameParent⟩ : ∃ after,
        (tree.attach depth node).nodes[id]? = some after ∧ after.entry = before.entry ∧
          after.parent = before.parent := by
      rw [getElem?_nodes_attach, if_neg (Nat.ne_of_lt inside), isBefore]
      refine ⟨_, rfl, ?_, ?_⟩ <;> split <;> rfl
    rw [path, path, isBefore, isAfter]
    simp only [sameParent]
    split
    · simp [sameEntry]
    · next parent _ =>
      split
      · next less => simp [sameEntry, ih parent less (by omega)]
      · simp [sameEntry]

def pathFrom (tree : Tree) : Option Nat → List Node
  | none => []
  | some id => tree.path id

theorem map_entry_path_attach_size (tree : Tree) (depth : Nat) {node : Node}
    (inside : ∀ parent, node.parent = some parent → parent < tree.size) :
    ((tree.attach depth node).path tree.size).map Node.entry =
      node.entry :: (tree.pathFrom node.parent).map Node.entry := by
  have isNode : (tree.attach depth node).nodes[tree.size]? = some node := by
    have isOther : node.parent ≠ some tree.size := fun isParent =>
      Nat.lt_irrefl _ (inside _ isParent)
    simp [getElem?_nodes_attach, isOther]
  cases isParent : node.parent with
  | none =>
    rw [path_root isNode isParent]
    rfl
  | some parent =>
    have before := inside parent isParent
    rw [path, isNode]
    simp only [isParent, if_pos before, List.map_cons, pathFrom,
      map_entry_path_attach tree depth node before]

/-- One tree below the first section, whose preorder is the order in which sections were added. -/
structure InDocumentOrder (tree : Tree) : Prop where
  root : tree.root? = if tree.size = 0 then none else some 0
  parent_none : ∀ id < tree.size, tree.parent? id = none ↔ id = 0
  parent_lt : ∀ id parent, tree.parent? id = some parent → parent < id
  /-- A section lists the sections that name it as their parent, in increasing order. -/
  children : ∀ id node, tree.nodes[id]? = some node →
    node.children = (List.range tree.size).filter fun child => tree.parent? child = some id
  path_last : ∀ id < tree.size, (tree.path id).getLast? = tree.nodes[0]?
  order : tree.order = List.range tree.size
  /-- A visitor is called once for each section, in that order. -/
  walk : ∀ visit, tree.walk visit = firstPerRange [] ((List.range tree.size).flatMap visit)

theorem Rooted.inDocumentOrder {tree : Tree} (rooted : tree.Rooted) : tree.InDocumentOrder where
  root := rooted.root
  parent_none := by
    intro id inside
    cases id with
    | zero => simp [rooted.first]
    | succ id =>
      obtain ⟨parent, isParent, -⟩ := rooted.follows id inside
      simp [isParent]
  parent_lt _ _ isParent := rooted.parent_lt isParent
  children := rooted.children
  path_last _ inside := rooted.getLast?_path inside
  order := rooted.order_eq
  walk visit := by rw [walk, rooted.order_eq]

/-- Whatever sections are offered, and in whatever order, the tree is in document order; a section
that has no place leaves it as it is. -/
theorem ofEntries_inDocumentOrder (catalog : Catalog) (entries : List Entry) :
    (ofEntries catalog entries).InDocumentOrder ∧
      ∀ entry : Entry,
        (ofEntries catalog entries).add? catalog entry.name entry.range entry.settings = none →
          ofEntries catalog (entries ++ [entry]) = ofEntries catalog entries := by
  refine ⟨(rooted_ofEntries catalog entries).inDocumentOrder, ?_⟩
  intro entry noPlace
  rw [ofEntries, List.foldl_append, List.foldl_cons, List.foldl_nil, ← ofEntries, add, noPlace,
    Option.getD_none]

/-- Sections of four levels, of which series may lie in columns. -/
def columns : Catalog where
  sectionDepth := [("column", 3), ("configuration", 0), ("group", 1), ("series", 3), ("widget", 2)]
  parents := [("series", ["column"])]

def columnEntry (name : String) : Entry := ⟨name, .span 0 0 1, []⟩

def columnEntries : List Entry :=
  ["configuration", "group", "widget", "column", "series", "series", "group"].map columnEntry

/-- The first of two series lies in the column, the second beside it; another root has no place. -/
theorem ofEntries_inDocumentOrder_columns :
    (ofEntries columns columnEntries).parent? 4 = some 3 ∧
      (ofEntries columns columnEntries).parent? 5 = some 2 ∧
      (ofEntries columns columnEntries).order = [0, 1, 2, 3, 4, 5, 6] ∧
      ofEntries columns (columnEntries ++ [columnEntry "configuration"]) =
        ofEntries columns columnEntries := by
  have isRange : List.range (ofEntries columns columnEntries).size = [0, 1, 2, 3, 4, 5, 6] := by
    decide +kernel
  obtain ⟨inOrder, unchanged⟩ := ofEntries_inDocumentOrder columns columnEntries
  have noPlace : (ofEntries columns columnEntries).add? columns "configuration" (.span 0 0 1) [] =
      none := by
    rfl
  exact ⟨by decide +kernel, by decide +kernel, inOrder.order.trans isRange,
    unchanged (columnEntry "configuration") noPlace⟩

end Tree

end ChartLint.Section
