import ChartLint.Proofs.Rule.Check
import ChartLint.Proofs.Section.Tree

/-!
The places at which rules report. A rule reports at the header of a section, or at a setting of a name
that no rule with another code reports at. In a tree where a place tells what is there, it tells the
code of a finding too, and keeping one finding of a place loses no code.
-/
namespace ChartLint

namespace Section

/-- The place of a section, and those of its settings with their names. -/
def Entry.marks (entry : Entry) : List (Range × Option String) :=
  (entry.range, none) :: entry.settings.map fun setting => (setting.range, some setting.name)

namespace Tree

def marks (tree : Tree) : List (Range × Option String) := tree.entries.flatMap Entry.marks

/-- A place is that of one thing only: a section, or settings of one name. -/
def Apart (tree : Tree) : Prop :=
  ∀ range tag other, (range, tag) ∈ tree.marks → (range, other) ∈ tree.marks → tag = other

variable {tree : Tree} {id : Nat} {node : Node}

theorem mem_marks_section (isNode : tree.nodes[id]? = some node) :
    (node.range, none) ∈ tree.marks :=
  List.mem_flatMap.mpr ⟨node.entry, mem_entries.mpr ⟨id, node, isNode, rfl⟩, List.mem_cons_self⟩

theorem mem_marks_setting (isNode : tree.nodes[id]? = some node) {name : String} {setting : Setting}
    (isSetting : node.setting? name = some setting) :
    (setting.range, some (normalizeName name)) ∈ tree.marks := by
  have isNamed : setting.name = normalizeName name := by
    simpa using List.find?_some isSetting
  refine List.mem_flatMap.mpr ⟨node.entry, mem_entries.mpr ⟨id, node, isNode, rfl⟩, ?_⟩
  rw [← isNamed]
  exact List.mem_cons_of_mem _ (List.mem_map.mpr ⟨setting, List.mem_of_find?_eq_some isSetting, rfl⟩)

theorem mem_marks_visible {name : String} {setting : Setting}
    (isVisible : tree.setting? id name = some setting) :
    (setting.range, some (normalizeName name)) ∈ tree.marks := by
  obtain ⟨node, member, isSetting⟩ := List.exists_of_findSome?_eq_some isVisible
  obtain ⟨other, isNode⟩ := exists_of_mem_path member
  exact mem_marks_setting isNode isSetting

end Tree

end Section

namespace Rule

/-- Settings at which rules report, and with which codes. -/
def anchors : List (String × Code) :=
  ((seriesRequirements ++ widgetRequirements).filter fun requirement =>
      requirement.companion = .nothing).map (fun requirement =>
    (requirement.dependent, .ineffectiveSetting)) ++
  dateOrders.map (fun pair => (pair.anchor, .valueRelation)) ++ [
    (componentLimit, .valueRelation), (groupCount, .valueRelation),
    ("colors", .colorsThresholdsMismatch), ("timespan", .timespanIgnored)]

theorem code_anchors : ∀ anchor ∈ anchors, ∀ other ∈ anchors,
    normalizeName anchor.1 = normalizeName other.1 → anchor.2 = other.2 := by
  decide +kernel

/-- What rules may report at a section, which has no name here, or at a setting of a name. -/
inductive Reports : Option String → Code → Prop
  | header : Reports none .requiredIf
  | setting {name : String} {code : Code} :
      (name, code) ∈ anchors → Reports (some (normalizeName name)) code

theorem Reports.code_eq {tag : Option String} {code other : Code} (h : Reports tag code)
    (otherwise : Reports tag other) : code = other := by
  cases tag with
  | none =>
    cases h
    cases otherwise
    rfl
  | some normalized =>
    generalize isTag : some normalized = tag at h otherwise
    cases h with
    | header => cases isTag
    | setting isAnchor =>
      generalize isSame : some _ = same at otherwise
      cases otherwise with
      | header => cases isSame
      | setting isOther => exact code_anchors _ isAnchor _ isOther (Option.some.inj isSame)

variable {catalog : Catalog} {tree : Section.Tree} {id : Nat} {view : View} {finding : Finding}

theorem nothing_anchors {name : String} {requirement : Requirement}
    (member : requirement ∈ requirementsOf name) (isNothing : requirement.companion = .nothing) :
    (requirement.dependent, .ineffectiveSetting) ∈ anchors := by
  have listed : requirement ∈ seriesRequirements ++ widgetRequirements :=
    List.mem_append.mpr ((mem_requirementsOf.mp member).imp And.right And.right)
  refine List.mem_append_left _ (List.mem_append_left _ (List.mem_map.mpr ⟨requirement, ?_, rfl⟩))
  exact List.mem_filter.mpr ⟨listed, by simpa using isNothing⟩

/-- What a rule reports, it reports at a mark that allows the code. -/
theorem exists_mark (isView : View.of? catalog tree id = some view)
    (h : finding ∈ findingsOf view) :
    ∃ tag, (finding.range, tag) ∈ tree.marks ∧ Reports tag finding.issue.code := by
  obtain ⟨node, isNode, rfl⟩ := View.of?_eq_some isView
  have own {name : String} {setting : Setting} {code : Code}
      (isLocal : node.setting? name = some setting) (isRange : finding.range = setting.range)
      (isCode : finding.issue.code = code) (isAnchor : (name, code) ∈ anchors) :
      ∃ tag, (finding.range, tag) ∈ tree.marks ∧ Reports tag finding.issue.code := by
    rw [isRange, isCode]
    exact ⟨_, Section.Tree.mem_marks_setting isNode isLocal, .setting isAnchor⟩
  rcases mem_findingsOf.mp h with ⟨requirement, member, isFinding⟩ | member
  · rcases Requirement.check_eq_some isFinding with
      ⟨isCode, isRange⟩ | ⟨isCode, isNothing, setting, isLocal, isRange⟩
    · rw [isCode, isRange]
      exact ⟨none, Section.Tree.mem_marks_section isNode, .header⟩
    · exact own isLocal isRange isCode (nothing_anchors member isNothing)
  · rcases mem_checkRelations.mp member with
      ⟨pair, isPair, isFinding⟩ | isFinding | isFinding | isFinding
    · obtain ⟨-, declared, _, _, _, isVisible, -, -, -, -, rfl⟩ :=
        DateOrder.check_eq_some_iff.mp isFinding
      have isAnchor : ∀ pair ∈ dateOrders, (pair.anchor, Code.valueRelation) ∈ anchors := by decide
      exact ⟨_, Section.Tree.mem_marks_visible isVisible, .setting (isAnchor pair isPair)⟩
    · obtain ⟨anchor, isEither, isRange, related, isIssue⟩ := checkGroups_eq_some isFinding
      have isCode : finding.issue.code = .valueRelation := by rw [isIssue, Issue.code]
      rcases isEither with isLocal | isLocal
      · exact own isLocal isRange isCode (by decide)
      · exact own isLocal isRange isCode (by decide)
    · obtain ⟨colors, _, isLocal, -, -, -, rfl⟩ := checkColors_eq_some_iff.mp isFinding
      have isAnchor : ("colors", Code.colorsThresholdsMismatch) ∈ anchors := by decide
      exact own isLocal rfl rfl isAnchor
    · obtain ⟨timespan, isVisible, rfl⟩ := checkTimespan_eq_some isFinding
      have isAnchor : ("timespan", Code.timespanIgnored) ∈ anchors := by decide
      exact ⟨_, Section.Tree.mem_marks_visible isVisible, .setting isAnchor⟩

theorem code_eq_of_range_eq (apart : tree.Apart) {other : Nat} {otherView : View}
    {first : Finding} (isView : View.of? catalog tree id = some view)
    (h : finding ∈ findingsOf view) (isOther : View.of? catalog tree other = some otherView)
    (isFirst : first ∈ findingsOf otherView) (same : first.range = finding.range) :
    first.issue.code = finding.issue.code := by
  obtain ⟨tag, isMark, reports⟩ := exists_mark isView h
  obtain ⟨otherTag, isOtherMark, otherReports⟩ := exists_mark isOther isFirst
  rw [same] at isOtherMark
  rw [apart _ _ _ isOtherMark isMark] at otherReports
  exact otherReports.code_eq reports

end Rule

end ChartLint
