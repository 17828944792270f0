import ChartLint.Proofs.Catalog.Levels
import ChartLint.Proofs.Validation.Scan

/-!
Catalogs in which every section has one level. The open sections are then the path of the section
committed last, and the stack and the tree agree on every setting.
-/
namespace ChartLint

open Section (Committed Entry Node Stack Tree)

namespace Section

/-- The open sections are the path of the section committed last. A section lies as deep as there are
sections around it, and is the last of its depth. -/
structure Aligned (catalog : Catalog) (opened : List Entry) (tree : Tree) : Prop where
  rooted : tree.Rooted
  empty : opened = [] → tree.size = 0
  nested : ∀ entry outer, entry :: outer <:+ opened →
    catalog.depth? entry.name = some outer.length ∧
      ∃ id, tree.lastAt? outer.length = some id ∧ (tree.path id).map Node.entry = entry :: outer
  last : ∀ entry outer, opened = entry :: outer →
    tree.lastAt? outer.length = some (tree.size - 1)
  enclosing : ∀ entry outer, opened = entry :: outer →
    tree.lastEnclosing? = tree.lastAt? (min outer.length 3)

theorem aligned_empty (catalog : Catalog) : Aligned catalog [] {} where
  rooted := Tree.rooted_empty
  empty _ := rfl
  nested := by simp
  last := nofun
  enclosing := nofun

namespace Aligned

variable {catalog : Catalog} {opened : List Entry} {tree : Tree}

theorem enclosing?_eq (layered : catalog.Layered) (aligned : Aligned catalog opened tree)
    (nonempty : opened ≠ []) {name : String} {depth id : Nat}
    (isDepth : catalog.depth? name = some (depth + 1))
    (h : tree.enclosing? catalog name = some id) : tree.lastAt? depth = some id := by
  obtain ⟨entry, outer, rfl⟩ := List.exists_cons_of_ne_nil nonempty
  obtain ⟨isLevel, last, isLast, isPath⟩ := aligned.nested entry outer List.suffix_rfl
  obtain ⟨isPrevious, mayEnclose⟩ := Option.filter_eq_some_iff.mp h
  obtain ⟨node, isNode, isNamed⟩ := (Option.any_eq_true ..).mp mayEnclose
  have same : last = id := by
    rw [aligned.last entry outer rfl, Option.some.injEq] at isLast
    rw [aligned.rooted.previous] at isPrevious
    split at isPrevious
    · cases isPrevious
    · rw [← isLast, ← Option.some.inj isPrevious]
  subst same
  have isEntry : node.entry = entry := by
    have isHead := congrArg List.head? isPath
    rw [List.head?_map, Tree.head?_path isNode] at isHead
    exact Option.some.inj isHead
  obtain ⟨above, isAbove, isBelow⟩ :=
    layered.parent_depth name node.name (List.contains_iff_mem.mp isNamed)
  rw [← isEntry, Node.entry, isAbove, Option.some.injEq] at isLevel
  rw [isDepth, Option.some.injEq] at isBelow
  rw [← isLast, ← isLevel]
  congr
  omega

theorem parentFor?_eq (layered : catalog.Layered) (aligned : Aligned catalog opened tree)
    {name : String} {entry : Entry} {outer : List Entry} (inside : entry :: outer <:+ opened)
    (isDepth : catalog.depth? name = some (outer.length + 1)) :
    tree.parentFor? catalog name (outer.length + 1) = tree.lastAt? outer.length := by
  have nonempty : opened ≠ [] := by
    rintro rfl
    simp at inside
  have orElse : (tree.enclosing? catalog name).or (tree.lastAt? outer.length) =
      tree.lastAt? outer.length := by
    cases h : tree.enclosing? catalog name with
    | none => rfl
    | some parent => exact (aligned.enclosing?_eq layered nonempty isDepth h).symm
  have le := layered.depth_le name _ isDepth
  have deep : outer.length + 1 ≤ opened.length := inside.length_le
  obtain ⟨top, rest, rfl⟩ := List.exists_cons_of_ne_nil nonempty
  rw [List.length_cons] at deep
  have isEnclosing := aligned.enclosing top rest rfl
  generalize outer.length = depth at *
  match depth, le with
  | 0, _ =>
    rw [aligned.rooted.lastAt_zero]
    rfl
  | 1, _ => rfl
  | 2, _ => exact orElse
  | 3, _ =>
    rw [Nat.min_eq_right (by omega)] at isEnclosing
    rw [Tree.parentFor?, isEnclosing]
    exact orElse

theorem attach (aligned : Aligned catalog opened tree) (entry : Entry) {kept : List Entry}
    {depth : Nat} (inside : kept <:+ opened) (length : kept.length = depth)
    (isDepth : catalog.depth? entry.name = some depth) (le : depth ≤ 4) {parent : Option Nat}
    (before : ∀ id, parent = some id → id < tree.size)
    (isPath : (tree.pathFrom parent).map Node.entry = kept)
    (rooted : (tree.attach depth
      { name := entry.name, range := entry.range, settings := entry.settings, parent }).Rooted) :
    Aligned catalog (entry :: kept) (tree.attach depth
      { name := entry.name, range := entry.range, settings := entry.settings, parent }) where
  rooted := rooted
  empty := nofun
  nested := by
    subst length
    intro other outer suffix
    rcases List.suffix_cons_iff.mp suffix with same | suffix
    · obtain ⟨rfl, rfl⟩ := List.cons.inj same
      refine ⟨isDepth, tree.size, by simp, ?_⟩
      rw [Tree.map_entry_path_attach_size tree _ before, isPath]
      rfl
    · obtain ⟨isLevel, id, isLast, isOuter⟩ := aligned.nested other outer (suffix.trans inside)
      have less : outer.length < kept.length := suffix.length_le
      refine ⟨isLevel, id, ?_, ?_⟩
      · simp [Nat.ne_of_lt less, less, isLast]
      · have within := aligned.rooted.lastAt_encloses_last (Nat.lt_of_lt_of_le less le) isLast
        rw [Tree.map_entry_path_attach tree _ _ within.1, isOuter]
  last := by
    intro other outer same
    obtain ⟨rfl, rfl⟩ := List.cons.inj same
    simp [length]
  enclosing := by
    subst length
    intro other outer same
    obtain ⟨rfl, rfl⟩ := List.cons.inj same
    by_cases less : kept.length < 4
    · have isMin : min kept.length 3 = kept.length := Nat.min_eq_left (by omega)
      simp [less, isMin, Tree.leafDepth]
    · obtain isFour : kept.length = 4 := by omega
      have := inside.length_le
      obtain ⟨top, rest, rfl⟩ : ∃ top rest, opened = top :: rest :=
        List.exists_cons_of_length_pos (by omega)
      have isMin : min rest.length 3 = 3 := Nat.min_eq_right (by simp at this; omega)
      simp [isFour, Tree.leafDepth, aligned.enclosing top rest rfl, isMin]

/-- An accepted section has a place in the tree: below the section that is open one level above. -/
theorem placeFor? (layered : catalog.Layered) {stack : Stack}
    (aligned : Aligned catalog stack.entries tree) {name : String} {level : Nat}
    (isLevel : stack.accept catalog name = .ok level) :
    catalog.depth? name = some level ∧ level ≤ stack.size ∧
      ∃ parent, tree.placeFor? catalog name level = some parent ∧
        (∀ id, parent = some id → id < tree.size) ∧
        (tree.pathFrom parent).map Node.entry = stack.entries.drop (stack.size - level) := by
  obtain ⟨depth, isDepth, le, first, same | ⟨-, -, isInheritable, -⟩⟩ := Stack.accept_eq_ok isLevel
  · subst same
    refine ⟨isDepth, le, ?_⟩
    cases level with
    | zero =>
      have isEmpty : stack.entries = [] :=
        List.length_eq_zero_iff.mp (stack.length_entries.trans (first rfl))
      refine ⟨none, ?_, nofun, ?_⟩
      · simp [Tree.placeFor?, aligned.rooted.root, aligned.empty isEmpty]
      · simp [Tree.pathFrom, isEmpty]
    | succ depth =>
      have length : (stack.entries.drop (stack.size - (depth + 1))).length = depth + 1 := by
        rw [List.length_drop, Stack.length_entries]
        omega
      obtain ⟨entry, outer, isKept⟩ := List.exists_cons_of_length_eq_add_one length
      rw [isKept] at length ⊢
      obtain rfl : outer.length = depth := by simpa using length
      have inside : entry :: outer <:+ stack.entries := isKept ▸ List.drop_suffix _ _
      obtain ⟨-, id, isLast, isPath⟩ := aligned.nested entry outer inside
      have below : outer.length < Tree.leafDepth := layered.depth_le name _ isDepth
      refine ⟨some id, ?_, ?_, isPath⟩
      · rw [Tree.placeFor?, if_neg (Nat.succ_ne_zero _),
          aligned.parentFor?_eq layered inside isDepth, isLast]
        rfl
      · rintro _ ⟨⟩
        exact (aligned.rooted.lastAt_encloses_last below isLast).1
  · rw [layered.not_inheritable] at isInheritable
    cases isInheritable

theorem commit (layered : catalog.Layered) {stack : Stack}
    (aligned : Aligned catalog stack.entries tree) (entry : Entry) {level : Nat}
    (isLevel : stack.accept catalog entry.name = .ok level) :
    Aligned catalog (entry :: stack.entries.drop (stack.size - level))
      (tree.add catalog entry.name entry.range entry.settings) := by
  obtain ⟨isDepth, le, parent, isPlace, before, isPath⟩ := aligned.placeFor? layered isLevel
  have length : (stack.entries.drop (stack.size - level)).length = level := by
    rw [List.length_drop, Stack.length_entries]
    omega
  have rooted := aligned.rooted.add catalog entry.name entry.range entry.settings
  rw [Tree.add_eq_attach isDepth isPlace] at rooted ⊢
  exact aligned.attach entry (List.drop_suffix _ _) length isDepth
    (layered.depth_le entry.name level isDepth) before isPath rooted

end Aligned

theorem Committed.aligned {catalog : Catalog} (layered : catalog.Layered) {opened : List Entry}
    {tree : Tree} (h : Committed catalog opened tree) : Aligned catalog opened tree := by
  induction h with
  | empty => exact aligned_empty catalog
  | commit entry _ isLevel ih => exact ih.commit layered entry isLevel

theorem Aligned.opened_eq {catalog : Catalog} {opened : List Entry} {tree : Tree}
    (aligned : Aligned catalog opened tree) :
    opened = (tree.pathFrom tree.previous?).map Node.entry := by
  rw [aligned.rooted.previous]
  cases opened with
  | nil => simp [aligned.empty rfl, Tree.pathFrom]
  | cons entry outer =>
    obtain ⟨-, id, isLast, isPath⟩ := aligned.nested entry outer List.suffix_rfl
    rw [aligned.last entry outer rfl, Option.some.injEq] at isLast
    have nonempty : tree.size ≠ 0 := by
      intro isEmpty
      have absent : tree.nodes[id]? = none := Array.getElem?_eq_none (by simp_all [Tree.size])
      rw [Tree.path, absent] at isPath
      cases isPath
    rw [if_neg nonempty, Tree.pathFrom, isLast, isPath]

theorem Aligned.previous_lt {catalog : Catalog} {opened : List Entry} {tree : Tree}
    (aligned : Aligned catalog opened tree) {id : Nat} (isPrevious : tree.previous? = some id) :
    id < tree.size := by
  rw [aligned.rooted.previous] at isPrevious
  split at isPrevious
  · cases isPrevious
  · have := Option.some.inj isPrevious
    omega

theorem Tree.exists_path_cons {tree : Tree} {id : Nat} (inside : id < tree.size) :
    ∃ node outer, tree.nodes[id]? = some node ∧ tree.path id = node :: outer := by
  obtain ⟨node, isNode⟩ : ∃ node, tree.nodes[id]? = some node :=
    ⟨_, Array.getElem?_eq_getElem inside⟩
  obtain ⟨outer, isPath⟩ := List.head?_eq_some_iff.mp (Tree.head?_path isNode)
  exact ⟨node, outer, isNode, isPath⟩

/-- The open section next to the innermost, counted from the outermost. -/
theorem Stack.exists_frame {stack : Stack} {top entry : Entry} {outer : List Entry}
    (isOpen : stack.entries = top :: entry :: outer) :
    ∃ frame, stack.frames.reverse[stack.size - 2]? = some frame ∧ frame.entry = entry := by
  obtain ⟨frames⟩ := stack
  match frames, isOpen with
  | inner :: frame :: frames, isOpen =>
    simp only [Stack.entries, List.map_cons, List.cons.injEq] at isOpen
    exact ⟨frame, by simp [Stack.size], isOpen.2.1⟩

theorem Stack.setting?_eq (stack : Stack) (name : String) :
    stack.setting? name true =
      stack.entries.findSome? fun entry => Setting.named? entry.settings (normalizeName name) := by
  rw [Stack.entries, List.findSome?_map]
  rfl

theorem Tree.setting?_eq (tree : Tree) (id : Nat) (name : String) :
    tree.setting? id name = ((tree.path id).map Node.entry).findSome? fun entry =>
      Setting.named? entry.settings (normalizeName name) := by
  rw [List.findSome?_map]
  rfl

end Section

namespace Validation.Scan

/-- The current section as the stack holds it, if it was accepted. -/
def pending? (scan : Scan) : Option Entry :=
  (scan.current.filter Current.accepted).map fun current => ⟨current.name, current.range, []⟩

/-- Ending the current section attaches it to the tree below the section that is open one level
above it, and both see the same settings from there. -/
structure Joins (catalog : Catalog) (scan after : Scan) (current : Current) (outer : Option Nat)
    (depth : Nat) : Prop where
  isDepth : catalog.depth? current.name = some depth
  isLevel : scan.stack.size = depth + 1
  size : after.tree.size = scan.tree.size + 1
  entry : after.tree.nodes[scan.tree.size]?.map Node.entry =
    some ⟨current.name, current.range, current.settings⟩
  parent : after.tree.parent? scan.tree.size = outer
  root : outer = none ↔ depth = 0
  parent_frame : ∀ id, outer = some id →
    ∃ frame, scan.stack.frames.reverse[depth - 1]? = some frame ∧
      scan.tree.nodes[id]?.map Node.entry = some frame.entry
  setting : ∀ name, after.stack.setting? name true = after.tree.setting? scan.tree.size name

theorem pending?_of_rejected {scan : Scan}
    (rejected : ∀ current, scan.current = some current → current.accepted = false) :
    scan.pending? = none := by
  simp only [pending?, Option.map_eq_none_iff, Option.filter_eq_none_iff]
  intro current isCurrent
  simp [rejected current isCurrent]

theorem pending?_of_accepted {scan : Scan} {current : Current}
    (isCurrent : scan.current = some current) (accepted : current.accepted = true) :
    scan.pending? = some ⟨current.name, current.range, []⟩ := by
  simp [pending?, isCurrent, Option.filter, accepted]

theorem joins_flush {catalog : Catalog} (layered : catalog.Layered) {scan : Scan}
    {current : Current} {stack : Stack} {depth : Nat} (isCurrent : scan.current = some current)
    (accepted : current.accepted = true) (committed : Committed catalog stack.entries scan.tree)
    (isLevel : stack.accept catalog current.name = .ok depth)
    (isOpen : scan.stack.entries =
      ⟨current.name, current.range, []⟩ :: stack.entries.drop (stack.size - depth)) :
    ∃ outer, (∀ id, outer = some id → id < scan.tree.size) ∧
      scan.stack.entries =
        ⟨current.name, current.range, []⟩ :: (scan.tree.pathFrom outer).map Node.entry ∧
      Joins catalog scan (scan.flush catalog) current outer depth := by
  obtain ⟨isDepth, le, outer, isPlace, before, isPath⟩ :=
    (committed.aligned layered).placeFor? layered isLevel
  obtain ⟨isStack, isTree⟩ := flush_accepted catalog isCurrent accepted
  rw [Tree.add_eq_attach isDepth isPlace] at isTree
  have length : ((scan.tree.pathFrom outer).map Node.entry).length = depth := by
    rw [isPath, List.length_drop, Stack.length_entries]
    omega
  rw [← isPath] at isOpen
  have size : scan.stack.size = depth + 1 := by
    rw [← Stack.length_entries, isOpen, List.length_cons, length]
  refine ⟨outer, before, isOpen, isDepth, size, ?_, ?_, ?_, ?_, ?_, ?_⟩
  · rw [isTree, Tree.size_attach]
  · rw [isTree, Tree.map_entry_attach_size]
    rfl
  · rw [isTree, Tree.parent?_attach, if_pos rfl]
  · cases outer with
    | none => simpa [Tree.pathFrom] using length.symm
    | some id =>
      obtain ⟨node, rest, -, isRest⟩ := Tree.exists_path_cons (before id rfl)
      simp [← length, Tree.pathFrom, isRest]
  · rintro id rfl
    obtain ⟨node, rest, isNode, isRest⟩ := Tree.exists_path_cons (before id rfl)
    rw [Tree.pathFrom, isRest, List.map_cons] at isOpen
    obtain ⟨frame, isFrame, isEntry⟩ := Stack.exists_frame isOpen
    rw [size] at isFrame
    exact ⟨frame, isFrame, by rw [isNode, Option.map_some, isEntry]⟩
  · intro name
    have isOpened := Stack.entries_addSettings isOpen current.settings
    rw [Stack.setting?_eq, Tree.setting?_eq, isStack, isOpened, isTree,
      Tree.map_entry_path_attach_size scan.tree _ before]
    rfl

/-- In a catalog of levels the open sections are always one path of the tree, below which the current
section is attached once it ends. -/
theorem readLines_layered {catalog : Catalog} (layered : catalog.Layered)
    (lines : List (List Char)) :
    let scan := readLines catalog lines
    let after := scan.flush catalog
    after.stack.entries = (after.tree.pathFrom after.tree.previous?).map Node.entry ∧
    ∃ outer, (∀ id, outer = some id → id < scan.tree.size) ∧
      scan.stack.entries = scan.pending?.toList ++ (scan.tree.pathFrom outer).map Node.entry ∧
      ∀ current, scan.current = some current → current.accepted = true →
        ∃ depth, Joins catalog scan after current outer depth := by
  intro scan after
  have follows : scan.Follows catalog := (readLines_coherent catalog lines).follows
  refine ⟨(follows.committed_flush.aligned layered).opened_eq, ?_⟩
  cases follows with
  | settled rejected committed =>
    have aligned := committed.aligned layered
    refine ⟨scan.tree.previous?, fun id => aligned.previous_lt, ?_, ?_⟩
    · rw [pending?_of_rejected rejected]
      exact aligned.opened_eq
    · intro current isCurrent accepted
      rw [rejected current isCurrent] at accepted
      cases accepted
  | @pending current stack depth isCurrent accepted committed isLevel isOpen =>
    obtain ⟨outer, before, isPath, joins⟩ :=
      joins_flush layered isCurrent accepted committed isLevel isOpen
    refine ⟨outer, before, ?_, ?_⟩
    · rw [pending?_of_accepted isCurrent accepted]
      exact isPath
    · intro other isOther _
      obtain rfl := Option.some.inj (isCurrent.symm.trans isOther)
      exact ⟨depth, joins⟩

/-- Sections of five levels, of which tags lie in series. -/
def levels : Catalog :=
  match Catalog.ofSource {
    settings := [{ displayName := "title" }]
    sectionDepth :=
      [("configuration", 0), ("group", 1), ("widget", 2), ("series", 3), ("tags", 4)]
    parentSections := [("tags", ["series"])] } with
  | .ok catalog => catalog
  | .error _ => {}

/-- Tags below a series that inherits its title; other tags were rejected before. -/
theorem readLines_layered_levels :
    let scan := readLines levels (["[configuration]", "title = a", "[group]", "[widget]",
      "[series]", "title = b", "[group]", "[tags]", "[widget]", "[series]", "[tags]"].map
        String.toList)
    levels.Layered ∧
      (scan.stack.setting? "Title" true).map Setting.value = some "a" ∧
      ∃ current outer, scan.current = some current ∧ current.name = "tags" ∧
        current.accepted = true ∧ Joins levels scan (scan.flush levels) current outer 4 := by
  intro scan
  have layered : levels.Layered :=
    .of_tables (by decide +kernel) (by decide +kernel) (by decide +kernel)
  have isTitle : (scan.stack.setting? "Title" true).map Setting.value = some "a" := by
    decide +kernel
  have isTags : (scan.current.any fun current =>
      current.name == "tags" && current.accepted) = true := by
    decide +kernel
  obtain ⟨current, isCurrent, isTags⟩ := (Option.any_eq_true ..).mp isTags
  rw [Bool.and_eq_true, beq_iff_eq] at isTags
  obtain ⟨-, outer, -, -, joined⟩ := readLines_layered layered _
  obtain ⟨depth, joins⟩ := joined current isCurrent isTags.2
  have isDepth : levels.depth? "tags" = some depth := isTags.1 ▸ joins.isDepth
  obtain rfl : 4 = depth := Option.some.inj (Eq.trans (by decide +kernel) isDepth)
  exact ⟨layered, isTitle, current, outer, isCurrent, isTags.1, isTags.2, joins⟩

end Validation.Scan

end ChartLint
