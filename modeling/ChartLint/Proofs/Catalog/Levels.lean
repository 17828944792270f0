import ChartLint.Catalog.Builtin
import ChartLint.Proofs.Catalog.Closed
import ChartLint.Section.Tree

/-!
The levels of a catalog's sections. What is asked of every section follows from the tables.
-/
namespace ChartLint

open Section (Tree)

namespace Catalog

theorem mem_parents {catalog : Catalog} {name parent : String}
    (h : parent ∈ catalog.parentSections name) :
    ∃ parents, (name, parents) ∈ catalog.parents ∧ parent ∈ parents := by
  unfold parentSections at h
  cases isFound : catalog.parents.find? name with
  | none => simp [isFound] at h
  | some parents => exact ⟨parents, Table.mem_of_find? isFound, by simpa [isFound] using h⟩

/-- No section may be declared at any level, there are at most five levels, and sections only name
sections of the level above as their parents. -/
structure Layered (catalog : Catalog) : Prop where
  not_inheritable : ∀ name, catalog.isInheritable name = false
  depth_le : ∀ name depth, catalog.depth? name = some depth → depth ≤ 4
  parent_depth : ∀ name parent, parent ∈ catalog.parentSections name →
    ∃ depth, catalog.depth? parent = some depth ∧ catalog.depth? name = some (depth + 1)

theorem Layered.of_tables {catalog : Catalog} (inheritable : catalog.inheritable = [])
    (depths : ∀ entry ∈ catalog.sectionDepth, entry.2 ≤ 4)
    (parents : ∀ entry ∈ catalog.parents, ∀ parent ∈ entry.2,
      (catalog.depth? parent).isSome ∧
        catalog.depth? entry.1 = (catalog.depth? parent).map (· + 1)) : catalog.Layered where
  not_inheritable name := by simp [isInheritable, inheritable]
  depth_le name depth isDepth := depths (name, depth) (Table.mem_of_find? isDepth)
  parent_depth := by
    intro name parent isParent
    obtain ⟨others, isEntry, isOther⟩ := mem_parents isParent
    obtain ⟨isKnown, isBelow⟩ := parents (name, others) isEntry parent isOther
    obtain ⟨depth, isDepth⟩ := Option.isSome_iff_exists.mp isKnown
    exact ⟨depth, isDepth, by rw [isBelow, isDepth, Option.map_some]⟩

/-- Only leaves may be declared at any level, and no leaf encloses sections of the depth above. -/
structure InheritsLeaves (catalog : Catalog) : Prop where
  depth_le : ∀ name depth, catalog.depth? name = some depth → depth ≤ Tree.leafDepth
  inheritable : ∀ name, catalog.isInheritable name = true →
    catalog.depth? name = some Tree.leafDepth
  parents : ∀ name parent, catalog.depth? name = some 3 → parent ∈ catalog.parentSections name →
    catalog.depth? parent ≠ some Tree.leafDepth

theorem InheritsLeaves.of_tables {catalog : Catalog}
    (tables : (∀ entry ∈ catalog.sectionDepth, entry.2 ≤ Tree.leafDepth) ∧
      (∀ name ∈ catalog.inheritable, catalog.depth? name = some Tree.leafDepth) ∧
      ∀ entry ∈ catalog.parents, catalog.depth? entry.1 = some 3 →
        ∀ parent ∈ entry.2, catalog.depth? parent ≠ some Tree.leafDepth) :
    catalog.InheritsLeaves where
  depth_le name depth isDepth := tables.1 (name, depth) (Table.mem_of_find? isDepth)
  inheritable name isInheritable := tables.2.1 name (List.contains_iff_mem.mp isInheritable)
  parents := by
    intro name parent isDepth isParent
    obtain ⟨others, isEntry, isOther⟩ := mem_parents isParent
    exact tables.2.2 (name, others) isEntry isDepth parent isOther

/-- The catalog of a source, which is empty if the source does not load. -/
def load (source : Source) : Catalog :=
  match ofSource source with
  | .ok catalog => catalog
  | .error _ => {}

theorem load_eq_or_stores (source : Source) : load source = {} ∨ Stores source (load source) := by
  unfold load
  cases isLoaded : ofSource source with
  | error => exact .inl rfl
  | ok catalog => exact .inr (ofSource_eq_ok isLoaded).1

-- Loading is costly, and the two sides agree without it.
attribute [local irreducible] ofSource in
theorem builtin_eq_load : builtin = load Builtin.source := by rfl

theorem builtin_inheritsLeaves : builtin.InheritsLeaves := by
  rw [builtin_eq_load]
  apply InheritsLeaves.of_tables
  obtain isEmpty | stores := load_eq_or_stores Builtin.source
  · rw [isEmpty]
    decide
  · simp only [depth?, stores.sectionDepth, stores.inheritable, stores.parents]
    decide +kernel

end Catalog

end ChartLint
