import ChartLint.Proofs.Catalog.Levels
import ChartLint.Proofs.Validation.Scan

/-!
Sections that may be declared at any level take up levels of the stack, but not of the tree. A section
that the stack accepts below one of them is left out of the tree, unless it is a leaf by its depth.
-/
namespace ChartLint

open Section (Committed Entry Node Stack Tree)

namespace Section

/-- Whether none of the outermost open sections may be declared at any level. -/
def Clear (catalog : Catalog) (opened : List Entry) (count : Nat) : Prop :=
  ∀ entry ∈ opened.drop (opened.length - count), catalog.isInheritable entry.name = false

section Clear

variable {catalog : Catalog} {opened : List Entry} {entry : Entry} {count level : Nat}

theorem clear_cons_of_le (le : count ≤ opened.length) :
    Clear catalog (entry :: opened) count ↔ Clear catalog opened count := by
  simp only [Clear, List.length_cons, Nat.succ_sub le, List.drop_succ_cons]

theorem clear_cons_of_lt (lt : opened.length < count) :
    Clear catalog (entry :: opened) count ↔
      catalog.isInheritable entry.name = false ∧ Clear catalog opened count := by
  have whole : opened.length - count = 0 := by omega
  have more : opened.length + 1 - count = 0 := by omega
  simp [Clear, whole, more]

theorem clear_drop (le : count ≤ level) (inside : level ≤ opened.length) :
    Clear catalog (opened.drop (opened.length - level)) count ↔ Clear catalog opened count := by
  have same : opened.length - level + (opened.length - (opened.length - level) - count) =
      opened.length - count := by omega
  simp only [Clear, List.length_drop, List.drop_drop, same]

theorem clear_zero : Clear catalog opened 0 := by
  simp [Clear]

theorem Clear.mono {more : Nat} (h : Clear catalog opened more) (le : count ≤ more) :
    Clear catalog opened count := by
  intro entry member
  have split : opened.length - count =
      opened.length - more + (opened.length - count - (opened.length - more)) := by omega
  rw [split, ← List.drop_drop] at member
  exact h entry (List.mem_of_mem_drop member)

theorem clear_open_of_le (le : count ≤ level) (inside : level ≤ opened.length) :
    Clear catalog (entry :: opened.drop (opened.length - level)) count ↔
      Clear catalog opened count := by
  rw [clear_cons_of_le (by rw [List.length_drop]; omega), clear_drop le inside]

theorem clear_open_of_lt (lt : level < count) (inside : level ≤ opened.length) :
    Clear catalog (entry :: opened.drop (opened.length - level)) count ↔
      catalog.isInheritable entry.name = false ∧ Clear catalog opened level := by
  have length : (opened.drop (opened.length - level)).length = level := by
    rw [List.length_drop]
    omega
  have whole : Clear catalog (opened.drop (opened.length - level)) count ↔
      Clear catalog (opened.drop (opened.length - level)) level := by
    simp only [Clear, length, Nat.sub_self, Nat.sub_eq_zero_of_le (Nat.le_of_lt lt)]
  rw [clear_cons_of_lt (by omega), whole, clear_drop (Nat.le_refl _) inside]

theorem clear_open_plain (isPlain : catalog.isInheritable entry.name = false) (le : level ≤ count)
    (inside : level ≤ opened.length) :
    Clear catalog (entry :: opened.drop (opened.length - level)) count ↔
      Clear catalog opened level := by
  obtain rfl | lt := Nat.eq_or_lt_of_le le
  · exact clear_open_of_le (Nat.le_refl level) inside
  · rw [clear_open_of_lt lt inside]
    exact and_iff_right isPlain

theorem clear_length : Clear catalog opened opened.length ↔
    ∀ entry ∈ opened, catalog.isInheritable entry.name = false := by
  simp [Clear]

end Clear

/-- Where the tree has places. A depth has a last section as long as that many levels are clear, and
below other levels a leaf was added last. -/
structure Placed (catalog : Catalog) (opened : List Entry) (tree : Tree) : Prop where
  rooted : tree.Rooted
  clear_root : Clear catalog opened 1
  lastAt : ∀ depth, depth < 3 →
    ((tree.lastAt? depth).isSome ↔ depth < opened.length ∧ Clear catalog opened (depth + 1))
  leaf : ¬ Clear catalog opened 3 → ∃ id node, tree.previous? = some id ∧
    tree.nodes[id]? = some node ∧ catalog.depth? node.name = some Tree.leafDepth

theorem placed_empty (catalog : Catalog) : Placed catalog [] {} where
  rooted := Tree.rooted_empty
  clear_root := by simp [Clear]
  lastAt := by simp [Tree.lastAt?]
  leaf := by simp [Clear]

/-- Sections that are no leaves are accepted at their own depth. -/
theorem Stack.accept_plain {catalog : Catalog} {stack : Stack} {name : String}
    {level depth : Nat} (inherits : catalog.InheritsLeaves)
    (isLevel : stack.accept catalog name = .ok level) (isDepth : catalog.depth? name = some depth)
    (below : depth < Tree.leafDepth) :
    level = depth ∧ catalog.isInheritable name = false := by
  have isPlain : catalog.isInheritable name = false := by
    by_contra isInheritable
    have isLeaf := inherits.inheritable name (by simpa using isInheritable)
    rw [isDepth, Option.some.injEq] at isLeaf
    omega
  obtain ⟨_, isOther, -, -, same | ⟨-, -, isInheritable, -⟩⟩ := Stack.accept_eq_ok isLevel
  · obtain rfl := Option.some.inj (isDepth.symm.trans isOther)
    exact ⟨same, isPlain⟩
  · rw [isPlain] at isInheritable
    cases isInheritable

namespace Placed

variable {catalog : Catalog} {stack : Stack} {tree : Tree} {name : String} {level depth : Nat}

theorem root_isSome (placed : Placed catalog stack.entries tree) :
    tree.root?.isSome ↔ 0 < stack.size := by
  rw [← placed.rooted.lastAt_zero, placed.lastAt 0 (by decide), Stack.length_entries]
  exact and_iff_left placed.clear_root

theorem enclosing?_eq_none (inherits : catalog.InheritsLeaves)
    (placed : Placed catalog stack.entries tree) (isDepth : catalog.depth? name = some 3)
    (notClear : ¬ Clear catalog stack.entries 3) : tree.enclosing? catalog name = none := by
  obtain ⟨id, node, isPrevious, isNode, isLeaf⟩ := placed.leaf notClear
  rw [Tree.enclosing?, Option.filter_eq_none_iff]
  intro other isOther
  rw [isPrevious, Option.some.injEq] at isOther
  subst isOther
  simp only [isNode, Option.any_some, List.contains_iff_mem]
  intro isParent
  exact inherits.parents name node.name isDepth isParent isLeaf

theorem lastEnclosing?_isSome (placed : Placed catalog stack.entries tree)
    (nonempty : 0 < stack.size) : tree.lastEnclosing?.isSome := by
  obtain ⟨root, isRoot⟩ := Option.isSome_iff_exists.mp (placed.root_isSome.mpr nonempty)
  rw [← placed.rooted.lastAt_zero] at isRoot
  obtain ⟨id, isEnclosing, -⟩ := placed.rooted.lastAt_encloses 0 root (by decide) isRoot
  simp [isEnclosing]

/-- An accepted section has a place if it is a leaf or all levels around it are clear. -/
theorem placeFor?_isSome (inherits : catalog.InheritsLeaves)
    (placed : Placed catalog stack.entries tree) (isLevel : stack.accept catalog name = .ok level)
    (isDepth : catalog.depth? name = some depth) :
    (tree.placeFor? catalog name depth).isSome ↔
      depth = Tree.leafDepth ∨ Clear catalog stack.entries depth := by
  have plain := Stack.accept_plain inherits isLevel isDepth
  obtain ⟨_, isOther, inside, first, levels⟩ := Stack.accept_eq_ok isLevel
  obtain rfl := Option.some.inj (isDepth.symm.trans isOther)
  have le := inherits.depth_le name depth isDepth
  -- Each depth looks for its parent in another place; only depths two and three can miss it.
  match depth, le with
  | 0, _ =>
    obtain ⟨rfl, -⟩ := plain (by decide)
    have isEmpty : tree.root? = none := by
      rw [← Option.not_isSome_iff_eq_none, placed.root_isSome, first rfl]
      exact Nat.lt_irrefl 0
    exact iff_of_true (by simp [Tree.placeFor?, isEmpty]) (.inr clear_zero)
  | 1, _ =>
    obtain ⟨rfl, -⟩ := plain (by decide)
    change (tree.root?.map some).isSome ↔ _
    rw [Option.isSome_map, placed.root_isSome]
    exact iff_of_true inside (.inr placed.clear_root)
  | 2, _ =>
    obtain ⟨rfl, -⟩ := plain (by decide)
    change ((tree.lastAt? 1).map some).isSome ↔ _
    rw [Option.isSome_map, placed.lastAt 1 (by decide), Stack.length_entries]
    exact ⟨fun h => .inr h.2, fun h => ⟨inside, h.resolve_left (by decide)⟩⟩
  | 3, _ =>
    obtain ⟨rfl, -⟩ := plain (by decide)
    change (((tree.enclosing? catalog name).or (tree.lastAt? 2)).map some).isSome ↔ _
    rw [Option.isSome_map, Option.isSome_or, Bool.or_eq_true, placed.lastAt 2 (by decide),
      Stack.length_entries]
    by_cases clear : Clear catalog stack.entries 3
    · exact iff_of_true (.inr ⟨inside, clear⟩) (.inr clear)
    · rw [placed.enclosing?_eq_none inherits isDepth clear]
      exact iff_of_false (by simp [clear]) (by simp [clear, Tree.leafDepth])
  | 4, _ =>
    change (((tree.enclosing? catalog name).or tree.lastEnclosing?).map some).isSome ↔ _
    have nonempty : 0 < stack.size := by
      rcases levels with rfl | ⟨-, nonempty, -⟩
      · exact Nat.lt_of_lt_of_le (by decide) inside
      · exact nonempty
    rw [Option.isSome_map, Option.isSome_or, placed.lastEnclosing?_isSome nonempty, Bool.or_true]
    exact iff_of_true rfl (.inl rfl)

theorem lastAt_open (placed : Placed catalog stack.entries tree) (entry : Entry)
    (inside : level ≤ stack.size) {other : Nat} (below : other < 3) (outer : other < level) :
    (tree.lastAt? other).isSome ↔
      other < (entry :: stack.entries.drop (stack.size - level)).length ∧
        Clear catalog (entry :: stack.entries.drop (stack.size - level)) (other + 1) := by
  rw [← stack.length_entries] at inside ⊢
  rw [placed.lastAt other below, clear_open_of_le outer inside]
  simp only [List.length_cons, List.length_drop]
  exact ⟨fun h => ⟨by omega, h.2⟩, fun h => ⟨by omega, h.2⟩⟩

theorem clear_root_open (placed : Placed catalog stack.entries tree) (entry : Entry)
    (inside : level ≤ stack.size) (positive : 0 < level) :
    Clear catalog (entry :: stack.entries.drop (stack.size - level)) 1 := by
  rw [← stack.length_entries] at inside ⊢
  exact (clear_open_of_le positive inside).mpr placed.clear_root

theorem not_clear_inherited {entry : Entry} (isInheritable : catalog.isInheritable entry.name = true)
    (inside : level ≤ stack.size)
    (place : level = stack.size ∨
      level + 1 = stack.size ∧ ∃ frame, stack.top? = some frame ∧ frame.name = entry.name)
    {other : Nat} (inner : level ≤ other) :
    ¬ (other < stack.size ∧ Clear catalog stack.entries (other + 1)) ∧
      ¬ Clear catalog (entry :: stack.entries.drop (stack.size - level)) (other + 1) := by
  constructor
  · rintro ⟨less, clear⟩
    obtain rfl | ⟨isNext, frame, isTop, sameName⟩ := place
    · exact Nat.not_lt_of_le inner less
    · have whole : other + 1 = stack.entries.length := by
        rw [Stack.length_entries]
        omega
      rw [whole, clear_length] at clear
      have isPlain := clear frame.entry (List.mem_map_of_mem (List.mem_of_mem_head? isTop))
      rw [Frame.entry, sameName, isInheritable] at isPlain
      cases isPlain
  · rw [← stack.length_entries] at inside ⊢
    rw [clear_open_of_lt (Nat.lt_succ_of_le inner) inside, isInheritable]
    simp

section Commit

variable (inherits : catalog.InheritsLeaves) (placed : Placed catalog stack.entries tree)
  (entry : Entry) (isLevel : stack.accept catalog entry.name = .ok level)

include inherits placed isLevel

theorem commit_leaf (isLeaf : catalog.depth? entry.name = some Tree.leafDepth) :
    Placed catalog (entry :: stack.entries.drop (stack.size - level))
      (tree.add catalog entry.name entry.range entry.settings) := by
  obtain ⟨parent, isPlace⟩ := Option.isSome_iff_exists.mp
    ((placed.placeFor?_isSome inherits isLevel isLeaf).mpr (.inl rfl))
  have rooted := placed.rooted.add catalog entry.name entry.range entry.settings
  rw [Tree.add_eq_attach isLeaf isPlace] at rooted ⊢
  obtain ⟨_, isDepth, inside, first, levels⟩ := Stack.accept_eq_ok isLevel
  obtain rfl := Option.some.inj (isLeaf.symm.trans isDepth)
  have positive : 0 < level := by
    rcases levels with rfl | ⟨-, nonempty, -⟩
    · decide
    · exact Nat.pos_of_ne_zero fun isZero => Nat.ne_of_gt nonempty (first isZero)
  refine ⟨rooted, placed.clear_root_open entry inside positive, ?_, ?_⟩
  · intro other below
    rw [Tree.lastAt?_attach_of_lt (Nat.lt_trans below (by decide))]
    by_cases outer : other < level
    · exact placed.lastAt_open entry inside below outer
    · obtain rfl | ⟨-, -, isInheritable, place⟩ := levels
      · exact absurd (Nat.lt_trans below (by decide)) outer
      · obtain ⟨before, after⟩ :=
          not_clear_inherited isInheritable inside place (Nat.le_of_not_lt outer)
        rw [placed.lastAt other below, Stack.length_entries]
        exact iff_of_false before fun h => after h.2
  · intro _
    obtain ⟨node, isNode, isEntry⟩ := Option.map_eq_some_iff.mp
      (Tree.map_entry_attach_size tree Tree.leafDepth
        { name := entry.name, range := entry.range, settings := entry.settings, parent })
    refine ⟨tree.size, node, rfl, isNode, ?_⟩
    rw [← isLeaf]
    exact congrArg (fun entry => catalog.depth? entry.name) isEntry

/-- A section that is no leaf is added if all levels around it are clear. -/
theorem commit_clear (isDepth : catalog.depth? entry.name = some depth)
    (below : depth < Tree.leafDepth) (clear : Clear catalog stack.entries depth) :
    Placed catalog (entry :: stack.entries.drop (stack.size - level))
      (tree.add catalog entry.name entry.range entry.settings) := by
  obtain ⟨rfl, isPlain⟩ := Stack.accept_plain inherits isLevel isDepth below
  obtain ⟨parent, isPlace⟩ := Option.isSome_iff_exists.mp
    ((placed.placeFor?_isSome inherits isLevel isDepth).mpr (.inr clear))
  obtain ⟨-, -, inside, -⟩ := Stack.accept_eq_ok isLevel
  have rooted := placed.rooted.add catalog entry.name entry.range entry.settings
  rw [Tree.add_eq_attach isDepth isPlace] at rooted ⊢
  have clear_open (count : Nat) (le : level ≤ count) :
      Clear catalog (entry :: stack.entries.drop (stack.size - level)) count := by
    rw [← stack.length_entries] at inside ⊢
    exact (clear_open_plain isPlain le inside).mpr clear
  refine ⟨rooted, ?_, ?_, ?_⟩
  · by_cases positive : 0 < level
    · exact placed.clear_root_open entry inside positive
    · exact clear_open 1 (by omega)
  · intro other shallow
    rcases Nat.lt_trichotomy other level with outer | rfl | inner
    · rw [Tree.lastAt?_attach_of_lt outer]
      exact placed.lastAt_open entry inside shallow outer
    · rw [Tree.lastAt?_attach, if_pos rfl]
      exact iff_of_true rfl ⟨by simp; omega, clear_open (other + 1) (Nat.le_succ other)⟩
    · rw [Tree.lastAt?_attach, if_neg (Nat.ne_of_gt inner), if_neg (Nat.not_lt_of_gt inner)]
      refine iff_of_false (by simp) fun h => ?_
      simp only [List.length_cons, List.length_drop, Stack.length_entries] at h
      omega
  · intro notClear
    exact absurd (clear_open 3 (Nat.le_of_lt_succ below)) notClear

/-- A section that is no leaf is left out if some level around it is not clear. -/
theorem commit_not_clear (isDepth : catalog.depth? entry.name = some depth)
    (below : depth < Tree.leafDepth) (notClear : ¬ Clear catalog stack.entries depth) :
    Placed catalog (entry :: stack.entries.drop (stack.size - level))
      (tree.add catalog entry.name entry.range entry.settings) := by
  obtain ⟨rfl, isPlain⟩ := Stack.accept_plain inherits isLevel isDepth below
  have noPlace : tree.placeFor? catalog entry.name level = none := by
    rw [← Option.not_isSome_iff_eq_none, placed.placeFor?_isSome inherits isLevel isDepth]
    exact not_or_intro (Nat.ne_of_lt below) notClear
  obtain ⟨-, -, inside, -⟩ := Stack.accept_eq_ok isLevel
  rw [Tree.add_eq_self isDepth noPlace]
  refine ⟨placed.rooted, ?_, ?_, ?_⟩
  · apply placed.clear_root_open entry inside
    refine Nat.pos_of_ne_zero ?_
    rintro rfl
    exact notClear clear_zero
  · intro other shallow
    by_cases outer : other < level
    · exact placed.lastAt_open entry inside shallow outer
    · have le : level ≤ other + 1 := by omega
      rw [placed.lastAt other shallow]
      refine iff_of_false (fun h => notClear (h.2.mono le)) fun h => notClear ?_
      rw [← stack.length_entries] at inside h
      exact (clear_open_plain isPlain le inside).mp h.2
  · intro _
    exact placed.leaf fun h => notClear (h.mono (Nat.le_of_lt_succ below))

theorem commit :
    Placed catalog (entry :: stack.entries.drop (stack.size - level))
      (tree.add catalog entry.name entry.range entry.settings) := by
  obtain ⟨depth, isDepth, -⟩ := Stack.accept_eq_ok isLevel
  obtain rfl | below := Nat.eq_or_lt_of_le (inherits.depth_le entry.name depth isDepth)
  · exact commit_leaf inherits placed entry isLevel isDepth
  · by_cases clear : Clear catalog stack.entries depth
    · exact commit_clear inherits placed entry isLevel isDepth below clear
    · exact commit_not_clear inherits placed entry isLevel isDepth below clear

end Commit

end Placed

theorem Committed.placed {catalog : Catalog} (inherits : catalog.InheritsLeaves)
    {opened : List Entry} {tree : Tree} (h : Committed catalog opened tree) :
    Placed catalog opened tree := by
  induction h with
  | empty => exact placed_empty catalog
  | commit entry _ isLevel ih => exact .commit inherits ih entry isLevel

/-- Whether the innermost of the open sections gets a place in the tree: it is a leaf by its depth, or
no section around it may be declared at any level. -/
def reachesTree (catalog : Catalog) : List Entry → Bool
  | [] => false
  | entry :: outer =>
    catalog.depth? entry.name == some Tree.leafDepth ||
      outer.all fun entry => !catalog.isInheritable entry.name

theorem reachesTree_cons {catalog : Catalog} {entry : Entry} {outer : List Entry} :
    reachesTree catalog (entry :: outer) = true ↔
      catalog.depth? entry.name = some Tree.leafDepth ∨
        ∀ other ∈ outer, catalog.isInheritable other.name = false := by
  simp [reachesTree]

end Section

namespace Validation.Scan

variable {catalog : Catalog} {scan : Scan}

theorem Follows.isSome_add? (inherits : catalog.InheritsLeaves) (follows : scan.Follows catalog)
    {current : Current} (isCurrent : scan.current = some current)
    (accepted : current.accepted = true) :
    (scan.tree.add? catalog current.name current.range current.settings).isSome =
      Section.reachesTree catalog scan.stack.entries := by
  cases follows with
  | settled rejected _ =>
    rw [rejected current isCurrent] at accepted
    cases accepted
  | @pending other stack level isOther _ committed isLevel isOpen =>
    obtain rfl := Option.some.inj (isCurrent.symm.trans isOther)
    obtain ⟨depth, isDepth, -⟩ := Stack.accept_eq_ok isLevel
    rw [Bool.eq_iff_iff, Tree.isSome_add? isDepth,
      (committed.placed inherits).placeFor?_isSome inherits isLevel isDepth,
      isOpen, Section.reachesTree_cons, isDepth, Option.some.injEq]
    obtain isLeaf | below := Nat.eq_or_lt_of_le (inherits.depth_le _ depth isDepth)
    · exact iff_of_true (.inl isLeaf) (.inl isLeaf)
    · obtain ⟨rfl, -⟩ := Stack.accept_plain inherits isLevel isDepth below
      rw [Section.Clear, Stack.length_entries]

theorem size_flush (inherits : catalog.InheritsLeaves) (follows : scan.Follows catalog) :
    (scan.flush catalog).tree.size = scan.tree.size +
      if scan.current.any Current.accepted && Section.reachesTree catalog scan.stack.entries
      then 1 else 0 := by
  cases accepted : scan.current.any Current.accepted with
  | true =>
    obtain ⟨current, isCurrent, accepted⟩ := (Option.any_eq_true ..).mp accepted
    rw [(flush_accepted catalog isCurrent accepted).2, Tree.size_add,
      follows.isSome_add? inherits isCurrent accepted, Bool.true_and]
  | false =>
    have rejected : ∀ current, scan.current = some current → current.accepted = false := by
      simpa [Option.any_eq_false] using accepted
    rw [(flush_rejected catalog rejected).2]
    rfl

/-- Whether the current section was accepted on a line. -/
def acceptedOn (scan : Scan) (number : Nat) : Bool :=
  scan.current.any fun current => current.accepted && current.range.start.line == number

theorem Coherent.acceptedOn_eq_false {number : Nat} (h : Coherent catalog number scan) :
    scan.acceptedOn number = false := by
  rw [acceptedOn, Option.any_eq_false]
  intro current isCurrent
  cases h.follows with
  | settled rejected _ => simp [rejected current isCurrent]
  | pending isOther _ _ _ isOpen =>
    obtain rfl := Option.some.inj (isCurrent.symm.trans isOther)
    have before := h.earlier current.range (by simp [Stack.ranges, isOpen])
    simp [Nat.ne_of_lt before]

theorem tree_flush_report (catalog : Catalog) (scan : Scan) (findings : List Finding) :
    ((scan.report findings).flush catalog).tree = (scan.flush catalog).tree := by
  cases isCurrent : scan.current with
  | none => simp only [flush, report, isCurrent]
  | some current =>
    simp only [flush, report, isCurrent]
    split <;> rfl

/-- A header ends the current section, and its own is accepted on its line if at all. -/
theorem readHeader_current (catalog : Catalog) (scan : Scan) (header : Line.SectionHeader) :
    (scan.readHeader catalog header).tree = (scan.flush catalog).tree ∧
      (scan.readHeader catalog header).current.any Current.accepted =
        (scan.readHeader catalog header).acceptedOn header.range.start.line := by
  have started (scan : Scan) (name : String) :
      (scan.startSection catalog name header.range).tree = scan.tree ∧
        (scan.startSection catalog name header.range).current.any Current.accepted =
          (scan.startSection catalog name header.range).acceptedOn header.range.start.line := by
    simp [startSection, acceptedOn, report]
  unfold readHeader
  dsimp only
  split
  · exact started _ _
  · rw [← tree_flush_report catalog scan]
    exact started _ _

theorem Coherent.size_flush_readLine (inherits : catalog.InheritsLeaves) {number : Nat}
    (h : Coherent catalog number scan) (line : List Char) :
    ((scan.readLine catalog line number).flush catalog).tree.size =
      (scan.flush catalog).tree.size +
        if (scan.readLine catalog line number).acceptedOn number &&
          Section.reachesTree catalog (scan.readLine catalog line number).stack.entries
        then 1 else 0 := by
  have after := size_flush inherits (h.readLine line).follows
  obtain same | ⟨header, rfl, isRead⟩ := readLine_cases catalog scan line number
  -- The current section of an earlier line is already counted.
  · simp only [outline, Prod.mk.injEq] at same
    obtain ⟨sameStack, sameTree, sameCurrent⟩ := same
    have sameAny := congrArg (Option.any fun current => current.2.2) sameCurrent
    have sameLine := congrArg
      (Option.any fun current => current.2.2 && current.2.1.start.line == number) sameCurrent
    simp only [Option.any_map] at sameAny sameLine
    have notHere : (scan.readLine catalog line number).acceptedOn number = false :=
      sameLine.trans h.acceptedOn_eq_false
    rw [after, size_flush inherits h.follows, notHere, sameTree, sameStack]
    exact congrArg (fun accepted => scan.tree.size +
      if accepted && Section.reachesTree catalog scan.stack.entries then 1 else 0) sameAny
  · rw [isRead] at after ⊢
    obtain ⟨isTree, isCurrent⟩ := readHeader_current catalog scan header
    rw [after, isTree, isCurrent]

theorem size_flush_readLines (inherits : catalog.InheritsLeaves) (lines : List (List Char)) :
    ((readLines catalog lines).flush catalog).tree.size =
      (List.range lines.length).countP fun number =>
        let scan := readLines catalog (lines.take (number + 1))
        scan.acceptedOn number && Section.reachesTree catalog scan.stack.entries := by
  induction lines using List.reverseRecOn with
  | nil => rfl
  | append_singleton lines line ih =>
    have step := (readLines_coherent catalog lines).size_flush_readLine inherits line
    rw [← readLines_concat, ih] at step
    rw [step, List.length_append, List.length_singleton, List.range_succ, List.countP_append,
      List.countP_singleton]
    congr 1
    · apply List.countP_congr
      intro number inside
      rw [List.take_append_of_le_length (Nat.succ_le_of_lt (List.mem_range.mp inside))]
    · rw [List.take_of_length_le (by simp)]

/-- An accepted section joins the tree of the built-in catalog if and only if it is a leaf by its depth
or lies in no section that may be declared at any level, and the tree holds the sections that do. -/
theorem ofLines_reachesTree (lines : List (List Char)) :
    let scan := readLines .builtin lines
    (∀ current, scan.current = some current → current.accepted = true →
      (scan.tree.add? .builtin current.name current.range current.settings).isSome =
        Section.reachesTree .builtin scan.stack.entries) ∧
    (ofLines .builtin lines).tree.size = (List.range lines.length).countP fun number =>
      let scan := readLines .builtin (lines.take (number + 1))
      scan.acceptedOn number && Section.reachesTree .builtin scan.stack.entries := by
  refine ⟨?_, size_flush_readLines Catalog.builtin_inheritsLeaves lines⟩
  intro current isCurrent accepted
  have follows := (readLines_coherent .builtin lines).follows
  exact follows.isSome_add? Catalog.builtin_inheritsLeaves isCurrent accepted

/-- A document with a widget below tags and another below a group. -/
def widgets : List (List Char) :=
  ["[configuration]", "[tags]", "[widget]", "type = text", "[group]", "[widget]",
    "type = text"].map String.toList

-- The built-in catalog is costly to evaluate, so all that is needed of it is evaluated at once.
theorem read_widgets :
    ((readLines .builtin (widgets.take 4)).current.any Current.accepted = true ∧
      Section.reachesTree .builtin (readLines .builtin (widgets.take 4)).stack.entries = false) ∧
    (ofLines .builtin widgets).findings.isEmpty = true ∧
    (ofLines .builtin widgets).tree.size = 4 ∧
    ((List.range widgets.length).countP fun number =>
      (readLines .builtin (widgets.take (number + 1))).acceptedOn number) = 5 := by
  decide +kernel

/-- The widget below tags is accepted but does not join the tree. -/
theorem ofLines_reachesTree_widgets :
    ∃ current, (readLines .builtin (widgets.take 4)).current = some current ∧
      current.accepted = true ∧
      ((readLines .builtin (widgets.take 4)).tree.add? .builtin current.name current.range
        current.settings).isSome = false := by
  obtain ⟨⟨isOpen, isDropped⟩, -⟩ := read_widgets
  obtain ⟨current, isCurrent, accepted⟩ := (Option.any_eq_true ..).mp isOpen
  obtain ⟨isAdded, -⟩ := ofLines_reachesTree (widgets.take 4)
  exact ⟨current, isCurrent, accepted, (isAdded current isCurrent accepted).trans isDropped⟩

/-- Five sections of the document are accepted, with no findings, and four of them join the tree. -/
theorem size_ofLines_widgets :
    (ofLines .builtin widgets).findings.isEmpty = true ∧
      (ofLines .builtin widgets).tree.size = 4 ∧
      ((List.range widgets.length).countP fun number =>
        (readLines .builtin (widgets.take (number + 1))).acceptedOn number) = 5 :=
  read_widgets.2

end Validation.Scan

end ChartLint
