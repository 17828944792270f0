import ChartLint.Proofs.Rule.Anchor
import ChartLint.Proofs.Validation.Event

/-!
The marks of a scan: the places of its sections and their settings. A line adds at most one mark, on
itself, so a place tells what is there.
-/
namespace ChartLint.Validation.Scan

def Current.entry (current : Current) : Section.Entry :=
  ⟨current.name, current.range, current.settings⟩

def marks (scan : Scan) : List (Range × Option String) :=
  scan.tree.marks ++ scan.current.toList.flatMap fun current => (Current.entry current).marks

/-- The marks of a scan, and one more. -/
def Adds (scan after : Scan) (range : Range) (tag : Option String) : Prop :=
  ∀ mark ∈ after.marks, mark ∈ scan.marks ∨ mark = (range, tag)

variable {catalog : Catalog} {scan : Scan} {current : Current}

theorem marks_flush (catalog : Catalog) (scan : Scan) : (scan.flush catalog).marks ⊆ scan.marks := by
  unfold flush
  split
  case h_1 => exact List.Subset.refl _
  case h_2 current isCurrent =>
    have ended : scan.tree.marks ⊆ scan.marks := List.subset_append_left _ _
    have currently : (Current.entry current).marks ⊆ scan.marks := by
      simp [marks, isCurrent]
    dsimp only
    split
    · intro mark member
      simp only [marks, report, Option.toList_none, List.flatMap_nil, List.append_nil] at member
      obtain ⟨entry, isEntry, isMark⟩ := List.mem_flatMap.mp member
      rcases Section.Tree.mem_entries_add isEntry with older | rfl
      · exact ended (List.mem_flatMap.mpr ⟨entry, older, isMark⟩)
      · exact currently isMark
    · simp [marks, report]

theorem adds_startSection (catalog : Catalog) (scan : Scan) (name : String) (range : Range) :
    scan.Adds (scan.startSection catalog name range) range none := by
  intro mark member
  simp only [marks, startSection, report, Option.toList_some, List.flatMap_singleton,
    Current.entry, Section.Entry.marks, List.map_nil, List.mem_append, List.mem_singleton] at member
  rcases member with older | isNew
  · exact .inl (List.mem_append_left _ older)
  · exact .inr isNew

theorem adds_readHeader (catalog : Catalog) (scan : Scan) (header : Line.SectionHeader) :
    scan.Adds (scan.readHeader catalog header) header.range none := by
  rw [readHeader_eq_startSection]
  intro mark member
  rcases adds_startSection catalog _ _ _ mark member with older | isNew
  · exact .inl (marks_flush catalog (scan.report _) older)
  · exact .inr isNew

theorem adds_settings (isCurrent : scan.current = some current) {settings : List Setting}
    {setting : Setting} {after : Scan} (sameTree : after.tree = scan.tree)
    (isAfter : after.current = some { current with settings })
    (stores : ∀ found ∈ settings,
      (∃ earlier ∈ current.settings, found.range = earlier.range ∧ found.name = earlier.name) ∨
        found = setting) :
    scan.Adds after setting.range (some setting.name) := by
  intro mark member
  simp only [marks, sameTree, isAfter, isCurrent, Option.toList_some, List.flatMap_singleton,
    Current.entry, Section.Entry.marks, List.mem_append, List.mem_cons, List.mem_map] at member ⊢
  rcases member with older | rfl | ⟨found, isFound, rfl⟩
  · exact .inl (.inl older)
  · exact .inl (.inr (.inl rfl))
  · rcases stores found isFound with ⟨earlier, isEarlier, sameRange, sameName⟩ | rfl
    · rw [sameRange, sameName]
      exact .inl (.inr (.inr ⟨earlier, isEarlier, rfl⟩))
    · exact .inr rfl

/-- A setting of many lines keeps the place of the first. -/
theorem mark_merge (earlier setting : Setting) :
    (merge earlier setting).1.range = earlier.range ∧ (merge earlier setting).1.name = earlier.name ∨
      (merge earlier setting).1 = setting := by
  unfold merge
  split
  · exact .inl ⟨rfl, rfl⟩
  · exact .inr rfl

theorem adds_record (isCurrent : scan.current = some current) (setting : Setting) (column : Nat) :
    scan.Adds (scan.record catalog current setting column) setting.range (some setting.name) := by
  unfold record
  split
  case h_1 earlier isEarlier =>
    refine adds_settings isCurrent rfl rfl fun found isFound => ?_
    rcases mem_replace isFound with ⟨older, -⟩ | isMerged
    · exact .inl ⟨found, older, rfl, rfl⟩
    · rw [isMerged]
      refine (mark_merge earlier setting).imp_left fun ⟨sameRange, sameName⟩ => ?_
      exact ⟨earlier, List.mem_of_find?_eq_some isEarlier, sameRange, sameName⟩
  case h_2 =>
    refine adds_settings isCurrent (tree_note catalog _ _ _ _) rfl fun found isFound => ?_
    rcases List.mem_append.mp isFound with older | isNew
    · exact .inl ⟨found, older, rfl, rfl⟩
    · exact .inr (List.mem_singleton.mp isNew)

theorem adds_readSetting (catalog : Catalog) (scan : Scan) (line : Line.SettingLine) :
    ∃ name, scan.Adds (scan.readSetting catalog line) line.nameRange (some name) := by
  unfold readSetting
  split
  case h_1 => exact ⟨"", fun mark member => .inl member⟩
  case h_2 => exact ⟨"", fun mark member => .inl member⟩
  case h_3 descriptor current _ isCurrent =>
    dsimp only
    generalize checkWidget _ _ = findings
    have isReported : (scan.report findings.toList).current = some current := isCurrent
    exact ⟨_, adds_record isReported _ _⟩

theorem adds_readLine (catalog : Catalog) (scan : Scan) (line : List Char) (number : Nat) :
    ∃ range tag, range.start.line = number ∧
      scan.Adds (scan.readLine catalog line number) range tag := by
  unfold readLine
  split
  case h_1 => exact ⟨.span number 0 0, none, rfl, fun mark member => .inl member⟩
  case h_2 =>
    split
    case h_1 header isHeader =>
      exact ⟨header.range, none, sectionHeader?_line isHeader, adds_readHeader catalog scan header⟩
    case h_2 =>
      split
      case h_1 setting isSetting =>
        obtain ⟨name, adds⟩ := adds_readSetting catalog scan setting
        exact ⟨setting.nameRange, some name, (Line.setting?_eq_some isSetting).1.startLine, adds⟩
      case h_2 => exact ⟨.span number 0 0, none, rfl, fun mark member => .inl member⟩

/-- A scan before a line: marks are on earlier lines, and a place has one mark. -/
structure Marked (number : Nat) (scan : Scan) : Prop where
  earlier : ∀ mark ∈ scan.marks, mark.1.start.line < number
  apart : ∀ range tag other, (range, tag) ∈ scan.marks → (range, other) ∈ scan.marks → tag = other

theorem Marked.readLine {number : Nat} (h : scan.Marked number) (line : List Char) :
    (scan.readLine catalog line number).Marked (number + 1) := by
  obtain ⟨place, name, isLine, adds⟩ := adds_readLine catalog scan line number
  have below {tag : Option String} (older : (place, tag) ∈ scan.marks) : False :=
    Nat.lt_irrefl _ (isLine ▸ h.earlier _ older)
  constructor
  · intro mark member
    rcases adds mark member with older | rfl
    · exact Nat.lt_succ_of_lt (h.earlier mark older)
    · exact Nat.lt_succ_of_le (Nat.le_of_eq isLine)
  · intro range tag other member otherMember
    rcases adds _ member with older | isNew
    · rcases adds _ otherMember with otherOlder | isOtherNew
      · exact h.apart range tag other older otherOlder
      · obtain ⟨rfl, -⟩ := Prod.mk.inj isOtherNew
        exact (below older).elim
    · obtain ⟨rfl, rfl⟩ := Prod.mk.inj isNew
      rcases adds _ otherMember with otherOlder | isOtherNew
      · exact (below otherOlder).elim
      · exact (Prod.mk.inj isOtherNew).2.symm

theorem marked_readLines (catalog : Catalog) (lines : List (List Char)) :
    (readLines catalog lines).Marked lines.length := by
  induction lines using List.reverseRecOn with
  | nil => exact ⟨nofun, nofun⟩
  | append_singleton lines line ih =>
    rw [readLines_concat, List.length_append, List.length_singleton]
    exact ih.readLine line

theorem tree_ofLines (catalog : Catalog) (lines : List (List Char)) :
    (ofLines catalog lines).tree = ((readLines catalog lines).flush catalog).tree := rfl

theorem apart_ofLines (catalog : Catalog) (lines : List (List Char)) :
    (ofLines catalog lines).tree.Apart := by
  have within : (ofLines catalog lines).tree.marks ⊆ (readLines catalog lines).marks := by
    rw [tree_ofLines]
    exact List.Subset.trans (List.subset_append_left _ _) (marks_flush catalog _)
  intro range tag other member otherMember
  exact (marked_readLines catalog lines).apart range tag other (within member) (within otherMember)

theorem rooted_ofLines (catalog : Catalog) (lines : List (List Char)) :
    (ofLines catalog lines).tree.Rooted :=
  (readLines_coherent catalog lines).follows.committed_flush.rooted

end ChartLint.Validation.Scan
