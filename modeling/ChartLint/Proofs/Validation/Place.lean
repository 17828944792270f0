import ChartLint.Proofs.Block.Run
import ChartLint.Proofs.Line.Place
import ChartLint.Proofs.Rule.Check
import ChartLint.Proofs.Validation.Scan

/-!
Where findings are. Whatever a scan keeps or reports, it does so at a place that some line gave it.
-/
namespace ChartLint

open Section (Stack)

/-- A section and its settings have places of a kind. -/
structure Section.Node.At (P : Range → Prop) (node : Section.Node) : Prop where
  range : P node.range
  settings : ∀ setting ∈ node.settings, P setting.range

theorem Section.Node.At.of_entry {P : Range → Prop} {node other : Section.Node} (h : node.At P)
    (same : node.entry = other.entry) : other.At P := by
  simp only [Section.Node.entry, Section.Entry.mk.injEq] at same
  obtain ⟨-, sameRange, sameSettings⟩ := same
  exact ⟨sameRange ▸ h.range, sameSettings ▸ h.settings⟩

namespace Section.Tree

/-- All sections of a tree and their settings have places of a kind. -/
def At (P : Range → Prop) (tree : Tree) : Prop :=
  ∀ (id : Nat) (node : Node), tree.nodes[id]? = some node → node.At P

variable {P : Range → Prop} {tree : Tree}

theorem At.add (h : tree.At P) (catalog : Catalog) {name : String} {range : Range}
    {settings : List Setting} (isPlace : P range) (places : ∀ setting ∈ settings, P setting.range) :
    (tree.add catalog name range settings).At P := by
  intro id node isNode
  rcases mem_entries_add (mem_entries.mpr ⟨id, node, isNode, rfl⟩) with older | isNew
  · obtain ⟨other, before, isBefore, same⟩ := mem_entries.mp older
    exact (h other before isBefore).of_entry same
  · have isAt : Node.At P { name, range, settings, parent := none } := ⟨isPlace, places⟩
    exact isAt.of_entry isNew.symm

theorem At.setting? (h : tree.At P) {id : Nat} {name : String} {setting : Setting}
    (isSetting : tree.setting? id name = some setting) : P setting.range := by
  obtain ⟨node, member, isNamed⟩ := List.exists_of_findSome?_eq_some isSetting
  obtain ⟨other, isNode⟩ := exists_of_mem_path member
  exact (h other node isNode).settings setting (List.mem_of_find?_eq_some isNamed)

end Section.Tree

namespace Rule

variable {P : Range → Prop} {view : View} {finding : Finding}

/-- A view of a section whose places, and those around it, are of a kind. -/
structure View.At (P : Range → Prop) (view : View) : Prop where
  tree : view.tree.At P
  node : view.node.At P

theorem View.At.local? (h : view.At P) {name : String} {setting : Setting}
    (isLocal : view.local? name = some setting) : P setting.range :=
  h.node.settings setting (List.mem_of_find?_eq_some isLocal)

theorem View.At.visible? (h : view.At P) {name : String} {setting : Setting}
    (isVisible : view.visible? name = some setting) : P setting.range :=
  h.tree.setting? isVisible

theorem at_findingsOf (h : view.At P) (member : finding ∈ findingsOf view) : P finding.range := by
  rcases mem_findingsOf.mp member with ⟨requirement, -, isFinding⟩ | member
  · rcases Requirement.check_eq_some isFinding with ⟨-, isRange⟩ | ⟨-, -, setting, isLocal, isRange⟩
    · exact isRange ▸ h.node.range
    · exact isRange ▸ h.local? isLocal
  · rcases mem_checkRelations.mp member with ⟨pair, -, isFinding⟩ | isFinding | isFinding | isFinding
    · obtain ⟨-, declared, _, _, _, isVisible, -, -, -, -, rfl⟩ :=
        DateOrder.check_eq_some_iff.mp isFinding
      exact h.visible? isVisible
    · obtain ⟨anchor, isLocal | isLocal, isRange, -⟩ := checkGroups_eq_some isFinding
      · exact isRange ▸ h.local? isLocal
      · exact isRange ▸ h.local? isLocal
    · obtain ⟨colors, _, isLocal, -, -, -, rfl⟩ := checkColors_eq_some_iff.mp isFinding
      exact h.local? isLocal
    · obtain ⟨timespan, isVisible, rfl⟩ := checkTimespan_eq_some isFinding
      exact h.visible? isVisible

/-- Rules report at sections and settings of the tree. -/
theorem at_findings {catalog : Catalog} {tree : Section.Tree} (h : tree.At P)
    (member : finding ∈ findings catalog tree) : P finding.range := by
  obtain ⟨id, view, isView, isFinding⟩ := exists_view_of_mem_findings member
  obtain ⟨node, isNode, rfl⟩ := View.of?_eq_some isView
  exact at_findingsOf ⟨h, h id node isNode⟩ isFinding

end Rule

namespace Section.Stack

variable {P : Range → Prop} {finding : Finding}

theorem at_unmet? {frames : List Frame} (places : ∀ frame ∈ frames, P frame.range)
    (isFinding : unmet? frames = some finding) : P finding.range := by
  simp only [unmet?, Option.bind_eq_some_iff, Frame.unmet?, Option.map_eq_some_iff] at isFinding
  obtain ⟨frame, isFound, best, -, rfl⟩ := isFinding
  exact places frame (List.mem_of_find?_eq_some isFound)

theorem forall_mem_ranges {stack : Stack} :
    (∀ range ∈ stack.ranges, P range) ↔ ∀ frame ∈ stack.frames, P frame.range := by
  simp [ranges, entries, Frame.entry]

end Section.Stack

namespace Validation.Scan

/-- All that a scan keeps and reports has places of a kind. -/
structure At (P : Range → Prop) (scan : Scan) : Prop where
  stack : ∀ range ∈ scan.stack.ranges, P range
  tree : scan.tree.At P
  blocks : ∀ frame ∈ scan.blocks.frames, P frame.range
  current : ∀ current, scan.current = some current →
    P current.range ∧ ∀ setting ∈ current.settings, P setting.range
  references : ∀ reference ∈ scan.references, P reference.2
  findings : ∀ finding ∈ scan.findings, P finding.range

theorem at_empty (P : Range → Prop) : At P {} where
  stack := by simp [Stack.ranges, Stack.entries]
  tree := by simp [Section.Tree.At]
  blocks := by simp
  current := by simp
  references := by simp
  findings := by simp

namespace At

variable {P : Range → Prop} {scan : Scan} (catalog : Catalog)

theorem report (h : scan.At P) {findings : List Finding}
    (places : ∀ finding ∈ findings, P finding.range) : (scan.report findings).At P :=
  { h with findings := List.forall_mem_append.mpr ⟨h.findings, places⟩ }

theorem flush (h : scan.At P) : (scan.flush catalog).At P := by
  unfold Scan.flush
  split
  case h_1 => exact h
  case h_2 current isCurrent =>
    obtain ⟨isPlace, settings⟩ := h.current current isCurrent
    have missing : ∀ finding ∈ missingSettings catalog scan.stack current, P finding.range := by
      intro finding member
      rw [(missingSettings_eq catalog scan.stack current finding member).2]
      exact isPlace
    have cleared : { scan with current := none }.At P := { h with current := by simp }
    have ended := cleared.report missing
    dsimp only
    split
    · refine { ended with stack := ?_, tree := ended.tree.add catalog isPlace settings }
      rw [Stack.ranges_addSettings]
      exact ended.stack
    · exact ended

theorem startSection (h : scan.At P) (name : String) {range : Range} (isPlace : P range) :
    (scan.startSection catalog name range).At P := by
  unfold Scan.startSection Stack.insert
  cases isLevel : scan.stack.accept catalog name with
  | ok level =>
    have frames := Stack.forall_mem_ranges.mp h.stack
    have opened : ∀ other ∈ (scan.stack.openAt catalog name range level).1.ranges, P other := by
      rw [Stack.ranges, Stack.entries_openAt, List.map_cons, List.forall_mem_cons, List.map_drop]
      exact ⟨isPlace, fun other member => h.stack other (List.mem_of_mem_drop member)⟩
    have started : At P { scan with
        stack := (scan.stack.openAt catalog name range level).1
        current := some {
          name
          range
          accepted := (scan.stack.openAt catalog name range level).1.top?.any
            fun frame => frame.range == range } } :=
      { h with stack := opened, current := by simpa using isPlace }
    refine started.report fun finding member => ?_
    refine Stack.at_unmet? (fun frame isFrame => ?_) (Option.mem_toList.mp member)
    exact frames frame (List.mem_of_mem_take isFrame)
  | error issue =>
    have started : At P { scan with current := some {
        name
        range
        accepted := scan.stack.top?.any fun frame => frame.range == range } } :=
      { h with current := by simpa using isPlace }
    exact started.report (by simpa using isPlace)

theorem readHeader (h : scan.At P) {header : Line.SectionHeader} (isPlace : P header.range) :
    (scan.readHeader catalog header).At P := by
  unfold Scan.readHeader
  dsimp only
  split
  · exact (h.flush catalog).startSection catalog _ isPlace
  · exact ((h.report (by simpa using isPlace)).flush catalog).startSection catalog _ isPlace

section Setting

variable {current : Current} {setting : Setting}

theorem note (h : scan.At P) (current : Current) {column : Nat}
    (references : ∀ reference ∈ Value.Reference.list setting.value.toList,
      P (.span setting.range.start.line (column + reference.offset)
        (Text.byteSize reference.name))) :
    (scan.note catalog current setting column).At P := by
  have modified (f : Section.Frame → Section.Frame) (keeps : ∀ frame, (f frame).entry = frame.entry) :
      At P { scan with stack := scan.stack.modify "widget" f } := by
    refine { h with stack := ?_ }
    rw [Stack.ranges, Stack.entries_modify _ _ keeps]
    exact h.stack
  unfold Scan.note
  dsimp only
  split
  · split
    · exact modified _ fun _ => rfl
    · exact h
  · split
    · split
      · exact modified _ fun _ => rfl
      · exact h
    · split
      · exact { h with }
      · split
        · refine { h with references := List.forall_mem_append.mpr ⟨h.references, ?_⟩ }
          simpa using references
        · exact h

theorem at_issue {issue : Option Issue} {range : Range} (isPlace : P range) :
    ∀ finding ∈ (issue.map fun issue => (⟨issue, range⟩ : Finding)).toList, P finding.range := by
  cases issue <;> simp [isPlace]

theorem merge {earlier : Setting} (isEarlier : P earlier.range) (isPlace : P setting.range) :
    P (Scan.merge earlier setting).1.range ∧
      ∀ finding ∈ (Scan.merge earlier setting).2, P finding.range := by
  unfold Scan.merge
  split
  · exact ⟨isEarlier, at_issue isPlace⟩
  · exact ⟨isPlace, List.forall_mem_cons.mpr ⟨isPlace, at_issue isPlace⟩⟩

theorem record (h : scan.At P) (isCurrent : scan.current = some current) (isPlace : P setting.range)
    {column : Nat}
    (references : ∀ reference ∈ Value.Reference.list setting.value.toList,
      P (.span setting.range.start.line (column + reference.offset)
        (Text.byteSize reference.name))) :
    (scan.record catalog current setting column).At P := by
  obtain ⟨isHeader, settings⟩ := h.current current isCurrent
  unfold Scan.record
  split
  case h_1 earlier isEarlier =>
    have merged := merge (settings earlier (List.mem_of_find?_eq_some isEarlier)) isPlace
    have replaced : At P { scan with current := some { current with
        settings := replace current.settings (Scan.merge earlier setting).1 } } := by
      refine { h with current := ?_ }
      rintro _ ⟨⟩
      refine ⟨isHeader, fun other member => ?_⟩
      obtain ⟨before, isBefore, rfl⟩ := List.mem_map.mp member
      split
      · exact merged.1
      · exact settings before isBefore
    exact replaced.report merged.2
  case h_2 =>
    have exclusions : ∀ finding ∈ checkExclusions current.settings setting, P finding.range := by
      intro finding member
      obtain ⟨other, -, rfl⟩ := List.mem_map.mp member
      exact isPlace
    have value : ∀ finding ∈ setting.check.toList, P finding.range := at_issue isPlace
    have checked := h.report (List.forall_mem_append.mpr ⟨value, exclusions⟩)
    have noted := checked.note catalog current references
    refine { noted with current := ?_ }
    rintro _ ⟨⟩
    refine ⟨isHeader, List.forall_mem_append.mpr ⟨settings, by simpa using isPlace⟩⟩

theorem readSetting (h : scan.At P) {line : Line.SettingLine} (isPlace : P line.nameRange)
    (references : ∀ reference ∈ Value.Reference.list line.value.toList,
      P (.span line.nameRange.start.line (line.valueColumn + reference.offset)
        (Text.byteSize reference.name))) :
    (scan.readSetting catalog line).At P := by
  unfold Scan.readSetting
  split
  case h_1 => exact h.report (at_issue isPlace)
  case h_2 => exact h
  case h_3 descriptor current _ isCurrent =>
    dsimp only
    refine record catalog (h.report fun finding member => ?_) isCurrent isPlace references
    simp only [checkWidget, Option.mem_toList, Option.bind_eq_some_iff,
      Option.ite_none_left_eq_some, Option.some.injEq] at member
    obtain ⟨_, -, -, rfl⟩ := member
    exact isPlace

end Setting

/-- A line leaves nothing at a place that is none of its own. -/
theorem readLine (h : scan.At P) {line : List Char} {number : Nat}
    (places : ∀ range, Line.Places line number range → P range) :
    (scan.readLine catalog line number).At P := by
  unfold Scan.readLine
  split
  case h_1 blocks findings isRead =>
    have isStep : scan.blocks.step line number = (blocks, findings) := by
      rw [Block.Tracker.step, isRead, Option.getD_some]
    have taken : Block.Tracker.Places P (blocks, findings) := by
      rw [← isStep]
      exact .step h.blocks ⟨fun token isToken => places _ (.keyword isToken), fun nonempty =>
        places _ (.row nonempty)⟩
    have read : At P { scan with blocks } := { h with blocks := taken.frames }
    exact read.report taken.findings
  case h_2 =>
    split
    case h_1 header isHeader => exact h.readHeader catalog (places _ (.header isHeader))
    case h_2 =>
      split
      case h_1 setting isSetting =>
        refine h.readSetting catalog (places _ (.setting isSetting)) fun reference member => ?_
        rw [(Line.setting?_eq_some isSetting).1.startLine]
        exact places _ (.reference isSetting member)
      case h_2 => exact h

theorem finish (h : scan.At P) : (scan.finish catalog).At P := by
  have flushed := h.flush catalog
  have ended : At P { scan.flush catalog with
      blocks := (scan.flush catalog).blocks.finish.1
      stack := (scan.flush catalog).stack.finish.1 } :=
    { flushed with
      blocks := by simp [Block.Tracker.finish]
      stack := by simp [Stack.finish, Stack.ranges, Stack.entries] }
  refine ended.report ?_
  simp only [List.forall_mem_append]
  refine ⟨⟨⟨?_, ?_⟩, ?_⟩, fun finding member => Rule.at_findings flushed.tree member⟩
  · exact Block.Tracker.Places.unclosed flushed.blocks
  · intro finding member
    exact Stack.at_unmet? (Stack.forall_mem_ranges.mp flushed.stack) (Option.mem_toList.mp member)
  · intro finding member
    obtain ⟨reference, isReference, rfl⟩ := List.mem_map.mp member
    exact flushed.references reference (List.mem_of_mem_filter isReference)

end At

theorem at_readLines {P : Range → Prop} (catalog : Catalog) {lines : List (List Char)}
    (places : ∀ (number : Nat) (line : List Char), lines[number]? = some line →
      ∀ range, Line.Places line number range → P range) : (readLines catalog lines).At P := by
  induction lines using List.reverseRecOn with
  | nil => exact at_empty P
  | append_singleton lines line ih =>
    rw [readLines_concat]
    refine (ih fun number other isOther => ?_).readLine catalog (places lines.length line (by simp))
    obtain ⟨isLess, -⟩ := List.getElem?_eq_some_iff.mp isOther
    exact places number other ((List.getElem?_append_left isLess).trans isOther)

/-- Every finding of a scan is at a place of one of the lines. -/
theorem place_of_mem_findings {catalog : Catalog} {lines : List (List Char)} {finding : Finding}
    (member : finding ∈ (ofLines catalog lines).findings) :
    ∃ (number : Nat) (line : List Char),
      lines[number]? = some line ∧ Line.Places line number finding.range := by
  have read : (ofLines catalog lines).At fun range =>
      ∃ (number : Nat) (line : List Char), lines[number]? = some line ∧ Line.Places line number range :=
    (at_readLines catalog fun number line isLine _ isPlace => ⟨number, line, isLine, isPlace⟩).finish
      catalog
  exact read.findings finding member

end Validation.Scan

end ChartLint
