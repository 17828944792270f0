import ChartLint.Proofs.Section.Commit
import ChartLint.Validation
import Mathlib.Data.List.Induction

/-!
A scan commits the sections that the stack accepts. Between two lines all accepted sections are
committed but the current one, which the stack already holds without its settings.
-/
namespace ChartLint

open Section (Committed Entry Stack)

namespace Section.Stack

def ranges (stack : Stack) : List Range := stack.entries.map Entry.range

theorem ranges_addSettings (stack : Stack) (settings : List Setting) :
    (stack.addSettings settings).ranges = stack.ranges := by
  obtain ⟨frames⟩ := stack
  cases frames with
  | nil => rfl
  | cons frame frames => rfl

/-- The innermost section is none that starts below all open ones. -/
theorem top?_any_eq_false {stack : Stack} {range : Range}
    (earlier : ∀ other ∈ stack.ranges, other.start.line < range.start.line) :
    (stack.top?.any fun frame => frame.range == range) = false := by
  rw [Option.any_eq_false]
  intro frame isTop
  have member : frame.range ∈ stack.ranges :=
    List.mem_map_of_mem (List.mem_map_of_mem (List.mem_of_mem_head? isTop))
  have before := earlier frame.range member
  simp only [beq_eq_false_iff_ne, ne_eq]
  rintro rfl
  exact Nat.lt_irrefl _ before

end Section.Stack

namespace Validation.Scan

/-- What a scan knows of sections, but for the settings of the current one. -/
def outline (scan : Scan) : List Entry × Section.Tree × Option (String × Range × Bool) :=
  (scan.stack.entries, scan.tree,
    scan.current.map fun current => (current.name, current.range, current.accepted))

@[simp] theorem outline_report (scan : Scan) (findings : List Finding) :
    (scan.report findings).outline = scan.outline := rfl

theorem outline_note (catalog : Catalog) (scan : Scan) (current : Current) (setting : Setting)
    (column : Nat) : (scan.note catalog current setting column).outline = scan.outline := by
  have modified (f : Section.Frame → Section.Frame) (keeps : ∀ frame, (f frame).entry = frame.entry) :
      { scan with stack := scan.stack.modify "widget" f }.outline = scan.outline := by
    simp only [outline, Stack.entries_modify _ _ keeps]
  unfold note
  dsimp only
  split
  · split
    · exact modified _ fun _ => rfl
    · rfl
  · split
    · split
      · exact modified _ fun _ => rfl
      · rfl
    · split
      · rfl
      · split <;> rfl

theorem outline_record (catalog : Catalog) {scan : Scan} {current : Current}
    (isCurrent : scan.current = some current) (setting : Setting) (column : Nat) :
    (scan.record catalog current setting column).outline = scan.outline := by
  unfold record
  split
  · simp [outline, report, isCurrent]
  · have noted := outline_note catalog
      (scan.report (setting.check.toList ++ checkExclusions current.settings setting)) current setting
      column
    simp only [outline_report] at noted
    simp only [outline, Prod.mk.injEq] at noted ⊢
    simp [noted, isCurrent]

/-- Settings change neither the open sections nor the tree. -/
theorem outline_readSetting (catalog : Catalog) (scan : Scan) (line : Line.SettingLine) :
    (scan.readSetting catalog line).outline = scan.outline := by
  unfold readSetting
  split
  · rfl
  · rfl
  · next descriptor current _ isCurrent =>
    refine (outline_record catalog ?_ _ _).trans (outline_report _ _)
    exact isCurrent

/-- How the sections of a scan came about. -/
inductive Follows (catalog : Catalog) (scan : Scan) : Prop
  /-- All accepted sections are committed. -/
  | settled :
      (∀ current, scan.current = some current → current.accepted = false) →
      Committed catalog scan.stack.entries scan.tree → Follows catalog scan
  /-- All accepted sections are committed but the current one. -/
  | pending {current : Current} {stack : Stack} {level : Nat} :
      scan.current = some current → current.accepted = true →
      Committed catalog stack.entries scan.tree →
      stack.accept catalog current.name = .ok level →
      scan.stack.entries =
        ⟨current.name, current.range, []⟩ :: stack.entries.drop (stack.size - level) →
      Follows catalog scan

/-- A scan before a line: all open sections start on earlier lines. -/
structure Coherent (catalog : Catalog) (number : Nat) (scan : Scan) : Prop where
  follows : scan.Follows catalog
  earlier : ∀ range ∈ scan.stack.ranges, range.start.line < number

theorem coherent_empty (catalog : Catalog) : Coherent catalog 0 {} where
  follows := .settled nofun .empty
  earlier := nofun

theorem exists_current_of_outline {scan other : Scan} (same : other.outline = scan.outline)
    {current : Current} (isCurrent : other.current = some current) :
    ∃ before, scan.current = some before ∧ before.name = current.name ∧
      before.range = current.range ∧ before.accepted = current.accepted := by
  have sameCurrent := congrArg (fun outline => outline.2.2) same
  simp only [outline] at sameCurrent
  rw [isCurrent, Option.map_some, eq_comm, Option.map_eq_some_iff] at sameCurrent
  obtain ⟨before, isBefore, sameCurrent⟩ := sameCurrent
  simp only [Prod.mk.injEq] at sameCurrent
  exact ⟨before, isBefore, sameCurrent⟩

theorem Follows.of_outline {catalog : Catalog} {scan other : Scan}
    (same : other.outline = scan.outline) (h : scan.Follows catalog) : other.Follows catalog := by
  have sameStack : other.stack.entries = scan.stack.entries := congrArg (fun outline => outline.1) same
  have sameTree : other.tree = scan.tree := congrArg (fun outline => outline.2.1) same
  cases h with
  | settled rejected committed =>
    refine .settled (fun current isCurrent => ?_) (by rwa [sameStack, sameTree])
    obtain ⟨before, isBefore, -, -, sameAccepted⟩ := exists_current_of_outline same isCurrent
    rw [← sameAccepted, rejected before isBefore]
  | pending isCurrent accepted committed isLevel isOpen =>
    obtain ⟨current, isCurrent, sameName, sameRange, sameAccepted⟩ :=
      exists_current_of_outline same.symm isCurrent
    refine .pending isCurrent (sameAccepted.trans accepted) (sameTree ▸ committed)
      (sameName ▸ isLevel) ?_
    rw [sameStack, isOpen, sameName, sameRange]

theorem missingSettings_eq (catalog : Catalog) (stack : Stack) (current : Current) :
    ∀ finding ∈ missingSettings catalog stack current,
      finding.issue.code = .requiredSettingMissing ∧ finding.range = current.range := by
  intro finding member
  unfold missingSettings at member
  dsimp only at member
  split at member
  · cases member
  · obtain ⟨names, -, isFinding⟩ := List.mem_filterMap.mp member
    split at isFinding
    · cases isFinding
    · simp only [Option.ite_none_left_eq_some, Option.some.injEq] at isFinding
      obtain ⟨-, rfl⟩ := isFinding
      exact ⟨rfl, rfl⟩

theorem findings_flush (catalog : Catalog) (scan : Scan) :
    (scan.flush catalog).findings = scan.findings ++
      scan.current.toList.flatMap (missingSettings catalog scan.stack) := by
  unfold flush
  split
  · next isCurrent => simp [isCurrent]
  · next current isCurrent =>
    rw [isCurrent, Option.toList_some, List.flatMap_singleton]
    dsimp only
    split <;> rfl

theorem flush_rejected (catalog : Catalog) {scan : Scan}
    (rejected : ∀ current, scan.current = some current → current.accepted = false) :
    (scan.flush catalog).stack = scan.stack ∧ (scan.flush catalog).tree = scan.tree := by
  unfold flush
  split
  · exact ⟨rfl, rfl⟩
  · next current isCurrent =>
    simp only [rejected current isCurrent]
    exact ⟨rfl, rfl⟩

theorem flush_accepted (catalog : Catalog) {scan : Scan} {current : Current}
    (isCurrent : scan.current = some current) (accepted : current.accepted = true) :
    (scan.flush catalog).stack = scan.stack.addSettings current.settings ∧
      (scan.flush catalog).tree =
        scan.tree.add catalog current.name current.range current.settings := by
  unfold flush
  simp only [isCurrent, accepted]
  exact ⟨rfl, rfl⟩

theorem Follows.committed_flush {catalog : Catalog} {scan : Scan} (h : scan.Follows catalog) :
    Committed catalog (scan.flush catalog).stack.entries (scan.flush catalog).tree := by
  cases h with
  | settled rejected committed =>
    obtain ⟨isStack, isTree⟩ := flush_rejected catalog rejected
    rwa [isStack, isTree]
  | @pending current stack level isCurrent accepted committed isLevel isOpen =>
    obtain ⟨isStack, isTree⟩ := flush_accepted catalog isCurrent accepted
    rw [isStack, isTree, Stack.entries_addSettings isOpen, List.nil_append]
    exact .commit ⟨current.name, current.range, current.settings⟩ committed isLevel

theorem ranges_flush (catalog : Catalog) (scan : Scan) :
    (scan.flush catalog).stack.ranges = scan.stack.ranges := by
  by_cases accepted : ∃ current, scan.current = some current ∧ current.accepted = true
  · obtain ⟨current, isCurrent, accepted⟩ := accepted
    rw [(flush_accepted catalog isCurrent accepted).1, Stack.ranges_addSettings]
  · rw [(flush_rejected catalog ?_).1]
    grind

/-- A section that starts below the open ones is pending if the stack accepts it; if not, the open
sections stay as they are. -/
theorem coherent_startSection {catalog : Catalog} {scan : Scan} {name : String} {range : Range}
    (committed : Committed catalog scan.stack.entries scan.tree)
    (earlier : ∀ other ∈ scan.stack.ranges, other.start.line < range.start.line) :
    Coherent catalog (range.start.line + 1) (scan.startSection catalog name range) := by
  unfold startSection Stack.insert
  cases isLevel : scan.stack.accept catalog name with
  | ok level =>
    have isOpen := Stack.entries_openAt catalog scan.stack name range level
    constructor
    · refine .pending rfl ?_ committed isLevel isOpen
      simp [Stack.top?]
    · intro other member
      change other ∈ (scan.stack.openAt catalog name range level).1.ranges at member
      rw [Stack.ranges, isOpen, List.map_cons, List.mem_cons] at member
      rcases member with rfl | member
      · exact Nat.lt_succ_self _
      · rw [List.map_drop] at member
        exact Nat.lt_succ_of_lt (earlier other (List.mem_of_mem_drop member))
  | error issue =>
    constructor
    · refine .settled ?_ committed
      intro current isCurrent
      obtain rfl := Option.some.inj isCurrent
      -- The innermost section is still one of an earlier line.
      exact Stack.top?_any_eq_false earlier
    · intro other member
      exact Nat.lt_succ_of_lt (earlier other member)

theorem Coherent.readHeader {catalog : Catalog} {number : Nat} {scan : Scan}
    (h : Coherent catalog number scan) {header : Line.SectionHeader}
    (isLine : header.range.start.line = number) :
    Coherent catalog (number + 1) (scan.readHeader catalog header) := by
  have started (scan : Scan) (h : Coherent catalog number scan) (name : String) :
      Coherent catalog (number + 1)
        ((scan.flush catalog).startSection catalog name header.range) := by
    subst isLine
    apply coherent_startSection h.follows.committed_flush
    rw [ranges_flush]
    exact h.earlier
  unfold Scan.readHeader
  dsimp only
  split
  · exact started scan h _
  · next name _ =>
    exact started _ ⟨h.follows.of_outline (outline_report scan _), h.earlier⟩ name

theorem sectionHeader?_line {line : List Char} {number : Nat} {header : Line.SectionHeader}
    (h : Line.sectionHeader? line number = some header) : header.range.start.line = number := by
  unfold Line.sectionHeader? at h
  dsimp only at h
  split at h
  · split at h
    · cases h
    · obtain rfl := Option.some.inj h
      rfl
  · cases h

theorem readLine_cases (catalog : Catalog) (scan : Scan) (line : List Char) (number : Nat) :
    (scan.readLine catalog line number).outline = scan.outline ∨
      ∃ header, header.range.start.line = number ∧
        scan.readLine catalog line number = scan.readHeader catalog header := by
  unfold Scan.readLine
  split
  · exact .inl rfl
  · split
    · next header isHeader => exact .inr ⟨header, sectionHeader?_line isHeader, rfl⟩
    · split
      · exact .inl (outline_readSetting ..)
      · exact .inl rfl

theorem Coherent.readLine {catalog : Catalog} {number : Nat} {scan : Scan}
    (h : Coherent catalog number scan) (line : List Char) :
    Coherent catalog (number + 1) (scan.readLine catalog line number) := by
  obtain same | ⟨header, isLine, isRead⟩ := readLine_cases catalog scan line number
  · refine ⟨h.follows.of_outline same, ?_⟩
    have sameStack : (scan.readLine catalog line number).stack.entries = scan.stack.entries :=
      congrArg Prod.fst same
    intro range member
    rw [Stack.ranges, sameStack] at member
    exact Nat.lt_succ_of_lt (h.earlier range member)
  · rw [isRead]
    exact h.readHeader isLine

theorem readLines_concat (catalog : Catalog) (lines : List (List Char)) (line : List Char) :
    readLines catalog (lines ++ [line]) =
      (readLines catalog lines).readLine catalog line lines.length := by
  simp [readLines, List.zipIdx_append]

theorem readLines_coherent (catalog : Catalog) (lines : List (List Char)) :
    Coherent catalog lines.length (readLines catalog lines) := by
  induction lines using List.reverseRecOn with
  | nil => exact coherent_empty catalog
  | append_singleton lines line ih =>
    rw [readLines_concat, List.length_append, List.length_singleton]
    exact ih.readLine line

end Validation.Scan

end ChartLint
