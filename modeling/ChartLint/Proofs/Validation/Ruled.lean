import ChartLint.Proofs.Section.Depth
import ChartLint.Proofs.Validation.Mark

/-!
What rules add to a document's findings. Of the findings at one place only the first is kept, but all
findings at a place have one code, so every code is reported wherever some rule yields it.
-/
namespace ChartLint

namespace Rule

/-- What a rule says of a section by itself. -/
inductive Yields (view : View) (finding : Finding) : Prop
  | series {requirement : Requirement} :
      view.node.name = "series" → requirement ∈ seriesRequirements →
      requirement.check view = some finding → Yields view finding
  | widget {requirement : Requirement} :
      view.node.name = "widget" → requirement ∈ widgetRequirements →
      requirement.check view = some finding → Yields view finding
  | dates {pair : DateOrder} :
      pair ∈ dateOrders → pair.check view = some finding → Yields view finding
  | groups : checkGroups view = some finding → Yields view finding
  | colors : checkColors view = some finding → Yields view finding
  | timespan : checkTimespan view = some finding → Yields view finding

/-- What a rule says of some section of a tree. -/
def YieldsIn (catalog : Catalog) (tree : Section.Tree) (finding : Finding) : Prop :=
  ∃ id view, View.of? catalog tree id = some view ∧ Yields view finding

variable {catalog : Catalog} {tree : Section.Tree} {view : View} {finding : Finding}

theorem yields_iff : Yields view finding ↔ finding ∈ findingsOf view := by
  rw [mem_findingsOf, mem_checkRelations]
  constructor
  · intro yields
    cases yields with
    | series isSeries member isFinding =>
      exact .inl ⟨_, mem_requirementsOf.mpr (.inl ⟨isSeries, member⟩), isFinding⟩
    | widget isWidget member isFinding =>
      exact .inl ⟨_, mem_requirementsOf.mpr (.inr ⟨isWidget, member⟩), isFinding⟩
    | dates member isFinding => exact .inr (.inl ⟨_, member, isFinding⟩)
    | groups isFinding => exact .inr (.inr (.inl isFinding))
    | colors isFinding => exact .inr (.inr (.inr (.inl isFinding)))
    | timespan isFinding => exact .inr (.inr (.inr (.inr isFinding)))
  · rintro (⟨requirement, member, isFinding⟩ | ⟨pair, member, isFinding⟩ | isFinding | isFinding |
      isFinding)
    · rcases mem_requirementsOf.mp member with ⟨isSeries, member⟩ | ⟨isWidget, member⟩
      · exact .series isSeries member isFinding
      · exact .widget isWidget member isFinding
    · exact .dates member isFinding
    · exact .groups isFinding
    · exact .colors isFinding
    · exact .timespan isFinding

theorem yieldsIn_of_mem_findings (h : finding ∈ findings catalog tree) :
    YieldsIn catalog tree finding := by
  obtain ⟨id, view, isView, isFinding⟩ := exists_view_of_mem_findings h
  exact ⟨id, view, isView, yields_iff.mpr isFinding⟩

theorem exists_mem_findings (rooted : tree.Rooted) (apart : tree.Apart)
    (h : YieldsIn catalog tree finding) :
    ∃ first ∈ findings catalog tree, first.issue.code = finding.issue.code ∧
      first.range = finding.range := by
  obtain ⟨id, view, isView, yields⟩ := h
  have isFinding := yields_iff.mp yields
  have visited : id ∈ tree.order := by
    obtain ⟨node, isNode, -⟩ := View.of?_eq_some isView
    rw [rooted.order_eq, List.mem_range]
    exact (Array.getElem?_eq_some_iff.mp isNode).1
  have member : finding ∈ tree.order.flatMap fun id =>
      ((View.of? catalog tree id).map findingsOf).getD [] :=
    List.mem_flatMap.mpr ⟨id, visited, by simpa [isView] using isFinding⟩
  rcases exists_mem_firstPerRange [] member with isSeen | ⟨first, isFirst, same⟩
  · cases isSeen
  · obtain ⟨other, otherView, isOther, isOtherFinding⟩ := exists_view_of_mem_findings isFirst
    exact ⟨first, isFirst, code_eq_of_range_eq apart isView isFinding isOther isOtherFinding same, same⟩

/-- Rules report an error if one of them yields an error. -/
theorem exists_error_iff (catalog : Catalog) (rooted : tree.Rooted) (apart : tree.Apart) :
    (∃ finding ∈ findings catalog tree, finding.isError = true) ↔
      ∃ finding, YieldsIn catalog tree finding ∧ finding.isError = true := by
  constructor
  · rintro ⟨finding, member, isError⟩
    exact ⟨finding, yieldsIn_of_mem_findings member, isError⟩
  · rintro ⟨finding, yields, isError⟩
    obtain ⟨first, isFirst, sameCode, -⟩ := exists_mem_findings rooted apart yields
    refine ⟨first, isFirst, ?_⟩
    rwa [Finding.isError, sameCode]

end Rule

namespace Validation

namespace Scan

/-- What is found without rules: on the lines, and at the end of the document. -/
def unruled (catalog : Catalog) (lines : List (List Char)) : List Finding :=
  let scan := (readLines catalog lines).flush catalog
  scan.findings ++
    (scan.blocks.finish.2 ++ scan.stack.finish.2.toList ++ scan.undeclaredAliases)

theorem findings_ofLines (catalog : Catalog) (lines : List (List Char)) :
    (ofLines catalog lines).findings =
      unruled catalog lines ++ Rule.findings catalog (ofLines catalog lines).tree := by
  simp [ofLines, finish, report, unruled, List.append_assoc]

/-- What is reported without rules. -/
def lineCodes : List Code :=
  Block.Tracker.codes ++ settingCodes ++ Section.Stack.rejections ++
    [.deprecatedSection, .requiredSectionMissing, .requiredSettingMissing, .undeclaredAlias]

variable {catalog : Catalog} {scan : Scan}

theorem codesIn_flush (h : CodesIn lineCodes scan.findings) :
    CodesIn lineCodes (scan.flush catalog).findings := by
  rw [findings_flush]
  refine h.append fun finding member => ?_
  obtain ⟨current, -, isMissing⟩ := List.mem_flatMap.mp member
  rw [(missingSettings_eq catalog scan.stack current finding isMissing).1]
  decide

theorem codesIn_unmet? (closed : List Section.Frame) :
    CodesIn lineCodes (Section.Stack.unmet? closed).toList := by
  refine .toList fun finding isFinding => ?_
  rw [Section.Stack.code_of_unmet? isFinding]
  decide

theorem codesIn_startSection (h : CodesIn lineCodes scan.findings) (name : String) (range : Range) :
    CodesIn lineCodes (scan.startSection catalog name range).findings := by
  unfold startSection Section.Stack.insert
  cases isLevel : scan.stack.accept catalog name with
  | ok level => exact h.append (codesIn_unmet? _)
  | error issue =>
    refine h.append (.singleton ?_)
    have included : Section.Stack.rejections ⊆ lineCodes := by decide
    exact included (Section.Stack.code_mem_rejections isLevel)

theorem codesIn_readLine (h : CodesIn lineCodes scan.findings) (line : List Char) (number : Nat) :
    CodesIn lineCodes (scan.readLine catalog line number).findings := by
  rw [readLine_eq]
  cases Event.read? scan.blocks line number with
  | none =>
    exact h.append ((Block.Tracker.codesIn_step scan.blocks line number).mono (by decide))
  | some event =>
    cases event with
    | header header =>
      change CodesIn lineCodes (scan.readHeader catalog header).findings
      rw [readHeader_eq_startSection]
      have deprecated : CodesIn lineCodes (deprecation catalog header) :=
        (codesIn_deprecation catalog header).mono (by decide)
      exact codesIn_startSection (codesIn_flush (h.append deprecated)) _ _
    | setting line =>
      obtain ⟨findings, found, isFindings⟩ := findings_readSetting catalog scan line
      change CodesIn lineCodes (scan.readSetting catalog line).findings
      rw [isFindings]
      exact h.append (found.codesIn.mono (by decide))

theorem codesIn_readLines (catalog : Catalog) (lines : List (List Char)) :
    CodesIn lineCodes (readLines catalog lines).findings := by
  induction lines using List.reverseRecOn with
  | nil => exact .nil
  | append_singleton lines line ih =>
    rw [readLines_concat]
    exact codesIn_readLine ih line lines.length

theorem codesIn_unruled (catalog : Catalog) (lines : List (List Char)) :
    CodesIn lineCodes (unruled catalog lines) := by
  have unclosed (frames : List Block.Frame) : CodesIn lineCodes (Block.Tracker.unclosed frames) :=
    (Block.Tracker.codesIn_unclosed frames).mono (by decide)
  have undeclared (scan : Scan) : CodesIn lineCodes scan.undeclaredAliases := by
    intro finding member
    obtain ⟨reference, -, rfl⟩ := List.mem_map.mp member
    simp [Issue.code, lineCodes]
  exact (codesIn_flush (codesIn_readLines catalog lines)).append
    (((unclosed _).append (codesIn_unmet? _)).append (undeclared _))

end Scan

/-- Keeping one finding of a place hides no kind of problem: what rules report of the tree of a document
has the codes and places that all rules yield, and no place twice. -/
theorem rules_complete (catalog : Catalog) (text : String) :
    let tree := (validate catalog text).tree
    let others := Scan.unruled catalog (Text.lines (Comment.blank text.toList))
    (validate catalog text).findings.Perm (others ++ Rule.findings catalog tree) ∧
      (∀ code range,
        (∃ finding ∈ Rule.findings catalog tree,
          finding.issue.code = code ∧ finding.range = range) ↔
        ∃ finding, Rule.YieldsIn catalog tree finding ∧
          finding.issue.code = code ∧ finding.range = range) ∧
      ((validate catalog text).ok = false ↔
        (∃ finding ∈ others, finding.isError = true) ∨
          ∃ finding, Rule.YieldsIn catalog tree finding ∧ finding.isError = true) ∧
      ((∃ finding ∈ Rule.findings catalog tree, finding.isError = true) ↔
        ∃ finding, Rule.YieldsIn catalog tree finding ∧ finding.isError = true) ∧
      ((Rule.findings catalog tree).map Finding.range).Nodup := by
  intro tree others
  have rooted : tree.Rooted := Scan.rooted_ofLines catalog _
  have apart : tree.Apart := Scan.apart_ofLines catalog _
  have isPerm : (validate catalog text).findings.Perm (others ++ Rule.findings catalog tree) :=
    (List.mergeSort_perm _ _).trans (.of_eq (Scan.findings_ofLines catalog _))
  have errors := Rule.exists_error_iff catalog rooted apart
  refine ⟨isPerm, fun code range => ⟨?_, ?_⟩, ?_, errors, Rule.nodup_range_firstPerRange [] _⟩
  · rintro ⟨finding, member, isCode, isRange⟩
    exact ⟨finding, Rule.yieldsIn_of_mem_findings member, isCode, isRange⟩
  · rintro ⟨finding, yields, rfl, rfl⟩
    exact Rule.exists_mem_findings rooted apart yields
  · rw [← errors]
    simp only [ok, Bool.not_eq_false', List.any_eq_true, isPerm.mem_iff, List.mem_append,
      or_and_right, exists_or]

end Validation

end ChartLint
