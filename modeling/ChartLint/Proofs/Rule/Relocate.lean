import ChartLint.Proofs.Section.Relocate
import ChartLint.Rule

/-!
Places in rules. A rule looks at values and reports places; the walk over a tree compares places, but
only to tell whether they are the same.
-/
namespace ChartLint

namespace Rule

namespace View

def relocate (f : Range → Range) (view : View) : View :=
  { view with tree := view.tree.relocate f, node := view.node.relocate f }

variable (f : Range → Range) (view : View)

@[simp] theorem local?_relocate (name : String) :
    (view.relocate f).local? name = (view.local? name).map (Setting.relocate f) :=
  view.node.setting?_relocate f name

@[simp] theorem visible?_relocate (name : String) :
    (view.relocate f).visible? name = (view.visible? name).map (Setting.relocate f) :=
  view.tree.setting?_relocate f view.id name

@[simp] theorem effective?_relocate (name : String) :
    (view.relocate f).effective? name = view.effective? name := by
  have sameScope (key : Scope.Key) : (view.relocate f).scopeValue? key = view.scopeValue? key :=
    view.tree.scopeValue?_relocate f view.id key
  have sameDefault : (view.relocate f).default? name = view.default? name := by
    have sameEffective : (view.tree.relocate f).effectiveScope view.id =
        view.tree.effectiveScope view.id := by
      simp only [Section.Tree.effectiveScope, Section.Tree.scopeValue?_relocate]
    rw [default?, default?, ← sameEffective]
    rfl
  have sameValue : ((view.relocate f).visible? name).map Setting.value =
      (view.visible? name).map Setting.value := by
    rw [visible?_relocate, Option.map_map]
    rfl
  rw [effective?, sameDefault, sameValue]
  simp only [sameScope]
  rfl

@[simp] theorem failing_relocate (conditions : List Condition) :
    (view.relocate f).failing conditions = view.failing conditions := by
  simp only [failing, effective?_relocate]

@[simp] theorem satisfies_relocate (conditions : List Condition) :
    (view.relocate f).satisfies conditions = view.satisfies conditions := by
  simp only [satisfies, failing_relocate]

end View

variable (f : Range → Range) (view : View)

theorem Requirement.check_relocate (requirement : Requirement) :
    requirement.check (view.relocate f) =
      (requirement.check view).map (Finding.relocate f) := by
  have sameApplies : requirement.applies (view.relocate f) = requirement.applies view := by
    simp [applies]
  unfold check
  cases requirement.companion with
  | nothing =>
    simp only [checkEffect, View.local?_relocate, View.failing_relocate]
    cases view.local? requirement.dependent with
    | none => rfl
    | some setting =>
      simp only [Option.map_some, Option.bind_some]
      split <;> rfl
  | setting name =>
    simp only [sameApplies, View.visible?_relocate, Option.isNone_map]
    split <;> rfl
  | anyOf names =>
    simp only [sameApplies, View.visible?_relocate, Option.isNone_map]
    split <;> rfl

theorem DateOrder.check_relocate (pair : DateOrder) :
    pair.check (view.relocate f) = (pair.check view).map (Finding.relocate f) := by
  unfold check
  simp only [View.local?_relocate, View.visible?_relocate, Option.isNone_map]
  split
  · rfl
  · cases view.visible? pair.anchor with
    | none => rfl
    | some declared =>
      cases view.visible? pair.other with
      | none => rfl
      | some other =>
        simp only [Option.map_some, Option.bind_eq_bind, Option.bind_some, Setting.value_relocate]
        cases Value.instant? declared.value with
        | none => rfl
        | some a =>
          cases Value.instant? other.value with
          | none => rfl
          | some b =>
            simp only [Option.bind_some]
            split <;> rfl

theorem checkGroups_relocate :
    checkGroups (view.relocate f) = (checkGroups view).map (Finding.relocate f) := by
  have sameNumber (name : String) :
      effectiveNumber? (view.relocate f) name = effectiveNumber? view name := by
    rw [effectiveNumber?, View.effective?_relocate, effectiveNumber?]
  have isAnchor : ((view.relocate f).local? componentLimit).or
      ((view.relocate f).local? groupCount) =
      ((view.local? componentLimit).or (view.local? groupCount)).map (Setting.relocate f) := by
    rw [View.local?_relocate, View.local?_relocate, Option.map_or]
  unfold checkGroups
  rw [isAnchor]
  simp only [sameNumber]
  cases (view.local? componentLimit).or (view.local? groupCount) with
  | none => rfl
  | some anchor =>
    cases effectiveNumber? view groupCount with
    | none => rfl
    | some count =>
      cases effectiveNumber? view componentLimit with
      | none => rfl
      | some limit =>
        simp only [Option.map_some, Option.bind_eq_bind, Option.bind_some]
        cases count.less limit <;> rfl

theorem checkColors_relocate :
    checkColors (view.relocate f) = (checkColors view).map (Finding.relocate f) := by
  unfold checkColors
  simp only [View.local?_relocate, View.visible?_relocate, View.satisfies_relocate]
  cases view.local? "colors" with
  | none => rfl
  | some colors =>
    cases view.visible? "thresholds" with
    | none => rfl
    | some thresholds =>
      simp only [Option.map_some, Option.bind_eq_bind, Option.bind_some]
      change (if _ && colors.itemCount + 1 != thresholds.itemCount then _ else _) = _
      split <;> rfl

theorem checkTimespan_relocate :
    checkTimespan (view.relocate f) = (checkTimespan view).map (Finding.relocate f) := by
  unfold checkTimespan
  simp only [View.local?_relocate, View.visible?_relocate, Option.isNone_map]
  split
  · rfl
  · cases view.visible? "timespan" with
    | none => rfl
    | some timespan =>
      cases view.visible? "start-time" with
      | none => rfl
      | some start =>
        cases view.visible? "end-time" with
        | none => rfl
        | some stop => rfl

theorem findingsOf_relocate :
    findingsOf (view.relocate f) = (findingsOf view).map (Finding.relocate f) := by
  have moveRequirements : (requirementsOf view.node.name).filterMap (·.check (view.relocate f)) =
      ((requirementsOf view.node.name).filterMap (·.check view)).map (Finding.relocate f) := by
    simp only [Requirement.check_relocate, List.map_filterMap]
  have moveDates : dateOrders.filterMap (·.check (view.relocate f)) =
      (dateOrders.filterMap (·.check view)).map (Finding.relocate f) := by
    simp only [DateOrder.check_relocate, List.map_filterMap]
  have moveOthers : [checkGroups (view.relocate f), checkColors (view.relocate f),
      checkTimespan (view.relocate f)].filterMap id =
      ([checkGroups view, checkColors view, checkTimespan view].filterMap id).map
        (Finding.relocate f) := by
    rw [checkGroups_relocate, checkColors_relocate, checkTimespan_relocate, List.map_filterMap]
    exact List.filterMap_map (l := [_, _, _])
  rw [findingsOf, findingsOf, checkRelations, checkRelations, List.map_append, List.map_append,
    ← moveRequirements, moveDates, moveOthers]
  rfl

end Rule

theorem firstPerRange_relocate {f : Range → Range} (injective : Function.Injective f)
    (seen : List Range) (findings : List Finding) :
    firstPerRange (seen.map f) (findings.map (Finding.relocate f)) =
      (firstPerRange seen findings).map (Finding.relocate f) := by
  have sameSeen (seen : List Range) (range : Range) :
      (seen.map f).contains (f range) = seen.contains range := by
    rw [Bool.eq_iff_iff, List.contains_iff_mem, List.contains_iff_mem]
    exact List.mem_map_of_injective injective
  induction findings generalizing seen with
  | nil => rfl
  | cons finding findings ih =>
    simp only [List.map_cons, firstPerRange]
    change (if (seen.map f).contains (f finding.range) then _ else _) = _
    rw [sameSeen]
    split
    · exact ih seen
    · exact congrArg (finding.relocate f :: ·) (ih (finding.range :: seen))

theorem Rule.findings_relocate {f : Range → Range} (injective : Function.Injective f)
    (catalog : Catalog) (tree : Section.Tree) :
    Rule.findings catalog (tree.relocate f) =
      (Rule.findings catalog tree).map (Finding.relocate f) := by
  rw [findings, findings, Section.Tree.walk, Section.Tree.walk, tree.order_relocate,
    ← firstPerRange_relocate injective, List.map_flatMap]
  apply congrArg
  apply List.flatMap_congr
  intro id _
  rw [View.of?, View.of?, tree.getElem?_relocate]
  cases tree.nodes[id]? with
  | none => rfl
  | some node => exact findingsOf_relocate f ⟨catalog, tree, id, node⟩

end ChartLint
