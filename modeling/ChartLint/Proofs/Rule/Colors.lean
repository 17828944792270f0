import ChartLint.Catalog.Builtin
import ChartLint.Proofs.Rule.Check
import ChartLint.Proofs.Section.Tree
import ChartLint.Validation

/-!
Colors and thresholds. The relation between their numbers is checked where colors are declared. Where
only thresholds are, with colors from a section around, it is not.
-/
namespace ChartLint.Rule

namespace View

variable {catalog : Catalog} {tree : Section.Tree} {id : Nat} {view : View}

/-- The value in effect is one of some words, in any letter case. -/
def HasEffect (view : View) (name : String) (words : List String) : Prop :=
  ∃ value, view.effective? name = some value ∧
    ∃ word ∈ words, Text.equalIgnoringCase word (Text.trimmed value) = true

theorem holds_iff (name : String) (words : List String) :
    Condition.holds ⟨name, words⟩ (view.effective? name) = true ↔ view.HasEffect name words := by
  simp [Condition.holds, HasEffect, Option.any_eq_true]

theorem satisfies_iff {conditions : List Condition} :
    view.satisfies conditions = true ↔
      ∀ condition ∈ conditions, view.HasEffect condition.setting condition.values := by
  simp only [satisfies, failing, List.isEmpty_iff, List.filter_eq_nil_iff, Bool.not_eq_true',
    Bool.not_eq_false, ← holds_iff]

theorem visible?_of_local? (isView : View.of? catalog tree id = some view) {name : String}
    {setting : Setting} (isLocal : view.local? name = some setting) :
    view.visible? name = some setting := by
  obtain ⟨node, isNode, rfl⟩ := View.of?_eq_some isView
  obtain ⟨outer, isPath⟩ := List.head?_eq_some_iff.mp (Section.Tree.head?_path isNode)
  change node.setting? name = some setting at isLocal
  simp only [visible?, Section.Tree.setting?, isPath, List.findSome?_cons, isLocal]

end View

/-- What makes a section's colors and thresholds disagree. -/
structure Mismatch (view : View) (colors thresholds : Setting) : Prop where
  isColors : view.visible? "colors" = some colors
  isThresholds : view.visible? "thresholds" = some thresholds
  type : view.HasEffect "type" ["gauge", "calendar", "treemap"]
  mode : view.HasEffect "mode" ["half", "default"]
  count : colors.itemCount + 1 ≠ thresholds.itemCount

theorem satisfies_segmentedWidgets {view : View} :
    view.satisfies segmentedWidgets = true ↔
      view.HasEffect "type" ["gauge", "calendar", "treemap"] ∧
        view.HasEffect "mode" ["half", "default"] := by
  simp [View.satisfies_iff, segmentedWidgets]

theorem mem_checkRelations_colors {view : View} {finding : Finding}
    (isCode : finding.issue.code = .colorsThresholdsMismatch) :
    finding ∈ checkRelations view ↔ checkColors view = some finding := by
  refine ⟨fun member => ?_, fun isFinding => mem_checkRelations.mpr (.inr (.inr (.inl isFinding)))⟩
  rcases mem_checkRelations.mp member with ⟨pair, -, isFinding⟩ | isFinding | isFinding | isFinding
  · obtain ⟨-, _, _, _, _, -, -, -, -, -, rfl⟩ := DateOrder.check_eq_some_iff.mp isFinding
    cases isCode
  · obtain ⟨_, -, -, related, isIssue⟩ := checkGroups_eq_some isFinding
    rw [isIssue] at isCode
    cases isCode
  · exact isFinding
  · obtain ⟨_, -, rfl⟩ := checkTimespan_eq_some isFinding
    cases isCode

/-- Colors that disagree with thresholds are reported by the section that declares the colors, at their
declaration, and by no other section that sees them. -/
theorem colors_checked_where_declared {catalog : Catalog} {tree : Section.Tree} {id : Nat} {view : View}
    (isView : View.of? catalog tree id = some view) :
    (∀ colors thresholds, Mismatch view colors thresholds →
      (⟨.colorsThresholds colors.itemCount thresholds.itemCount, colors.range⟩ ∈ checkRelations view ↔
        (view.local? "colors").isSome = true)) ∧
    ∀ finding ∈ checkRelations view, finding.issue.code = .colorsThresholdsMismatch →
      ∃ colors thresholds, Mismatch view colors thresholds ∧ view.local? "colors" = some colors ∧
        finding = ⟨.colorsThresholds colors.itemCount thresholds.itemCount, colors.range⟩ := by
  have isMismatch {finding : Finding} (isFinding : checkColors view = some finding) :
      ∃ colors thresholds, Mismatch view colors thresholds ∧ view.local? "colors" = some colors ∧
        finding = ⟨.colorsThresholds colors.itemCount thresholds.itemCount, colors.range⟩ := by
    obtain ⟨colors, thresholds, isLocal, isThresholds, satisfied, count, rfl⟩ :=
      checkColors_eq_some_iff.mp isFinding
    obtain ⟨type, mode⟩ := satisfies_segmentedWidgets.mp satisfied
    have isColors := View.visible?_of_local? isView isLocal
    exact ⟨colors, thresholds, ⟨isColors, isThresholds, type, mode, count⟩, isLocal, rfl⟩
  constructor
  · intro colors thresholds mismatch
    rw [mem_checkRelations_colors rfl]
    constructor
    · intro isFinding
      obtain ⟨_, _, -, isLocal, -⟩ := isMismatch isFinding
      exact Option.isSome_of_eq_some isLocal
    · intro declares
      obtain ⟨declared, isLocal⟩ := Option.isSome_iff_exists.mp declares
      -- What the section declares is what it sees.
      obtain rfl : declared = colors := Option.some.inj
        ((View.visible?_of_local? isView isLocal).symm.trans mismatch.isColors)
      exact checkColors_eq_some_iff.mpr ⟨declared, thresholds, isLocal, mismatch.isThresholds,
        satisfies_segmentedWidgets.mpr ⟨mismatch.type, mismatch.mode⟩, mismatch.count, rfl⟩
  · intro finding member isCode
    exact isMismatch ((mem_checkRelations_colors isCode).mp member)

/-- Whether colors and thresholds of a section disagree. -/
def View.disagrees (view : View) : Bool :=
  ((view.visible? "colors").any fun colors => (view.visible? "thresholds").any fun thresholds =>
    colors.itemCount + 1 != thresholds.itemCount) && view.satisfies segmentedWidgets

theorem exists_mismatch {view : View} (h : view.disagrees = true) :
    ∃ colors thresholds, Mismatch view colors thresholds := by
  simp only [View.disagrees, Bool.and_eq_true, Option.any_eq_true, bne_iff_ne,
    satisfies_segmentedWidgets] at h
  obtain ⟨⟨colors, isColors, thresholds, isThresholds, count⟩, type, mode⟩ := h
  exact ⟨colors, thresholds, isColors, isThresholds, type, mode, count⟩

/-- Widgets below a root. -/
def gauges : Catalog :=
  match Catalog.ofSource {
    settings := ["type", "mode", "colors", "thresholds"].map fun displayName => { displayName }
    sectionDepth := [("configuration", 0), ("widget", 1)] } with
  | .ok catalog => catalog
  | .error _ => {}

/-- One color among four thresholds of its widget. -/
def oneColor : Validation :=
  validate gauges
    "[configuration]\nmode = half\n[widget]\ntype = gauge\ncolors = red\nthresholds = 0, 1, 2, 3"

theorem colors_checked_where_declared_gauge :
    ∃ view, View.of? gauges oneColor.tree 1 = some view ∧
      ∃ colors thresholds, Mismatch view colors thresholds ∧
        ⟨.colorsThresholds colors.itemCount thresholds.itemCount, colors.range⟩ ∈
          checkRelations view := by
  have evaluated : ((View.of? gauges oneColor.tree 1).any fun view =>
      view.disagrees && (view.local? "colors").isSome) = true := by
    decide +kernel
  obtain ⟨view, isView, isTrue⟩ := (Option.any_eq_true ..).mp evaluated
  rw [Bool.and_eq_true] at isTrue
  obtain ⟨colors, thresholds, mismatch⟩ := exists_mismatch isTrue.1
  refine ⟨view, isView, colors, thresholds, mismatch, ?_⟩
  exact ((colors_checked_where_declared isView).1 colors thresholds mismatch).mpr isTrue.2

/-- One color of a group among four thresholds of a widget in it: the widget declares one side, but
nothing is reported. -/
theorem no_findings_inherited_colors :
    let validation := validate .builtin ("[configuration]\n[group]\ncolors = red\n[widget]\n" ++
      "type = gauge\nthresholds = 0, 1, 2, 3\n[series]\nentity = e\nmetric = m\n")
    validation.diagnostics = [] ∧ ∃ view, View.of? .builtin validation.tree 2 = some view ∧
      (view.local? "thresholds").isSome = true ∧
      (∃ colors thresholds, Mismatch view colors thresholds) ∧ checkRelations view = [] := by
  intro validation
  have evaluated : validation.diagnostics.isEmpty = true ∧
      ((View.of? .builtin validation.tree 2).any fun view =>
        (view.local? "thresholds").isSome && view.disagrees && (checkRelations view).isEmpty) =
      true := by
    decide +kernel
  obtain ⟨view, isView, isTrue⟩ := (Option.any_eq_true ..).mp evaluated.2
  simp only [Bool.and_eq_true, List.isEmpty_iff] at isTrue
  obtain ⟨⟨declares, disagrees⟩, silent⟩ := isTrue
  exact ⟨List.isEmpty_iff.mp evaluated.1, view, isView, declares, exists_mismatch disagrees, silent⟩

end ChartLint.Rule
