import ChartLint.Rule

/-!
What a rule says when it says something: the settings it looked at, and the place it reports at. Of all
that the rules say, the first finding of each range is kept.
-/
namespace ChartLint.Rule

variable {view : View} {finding : Finding}

theorem Requirement.check_eq_some {requirement : Requirement}
    (h : requirement.check view = some finding) :
    finding.issue.code = .requiredIf ∧ finding.range = view.node.range ∨
      finding.issue.code = .ineffectiveSetting ∧ requirement.companion = .nothing ∧
        ∃ setting, view.local? requirement.dependent = some setting ∧
          finding.range = setting.range := by
  unfold Requirement.check at h
  split at h
  case h_1 isNothing =>
    simp only [checkEffect, Option.bind_eq_some_iff, Option.ite_none_left_eq_some,
      Option.some.injEq] at h
    obtain ⟨setting, isLocal, -, rfl⟩ := h
    exact .inr ⟨rfl, isNothing, setting, isLocal, rfl⟩
  case h_2 | h_3 =>
    simp only [Option.ite_none_right_eq_some, Option.some.injEq] at h
    obtain ⟨-, rfl⟩ := h
    exact .inl ⟨rfl, rfl⟩

theorem DateOrder.check_eq_some_iff {pair : DateOrder} :
    pair.check view = some finding ↔
      ((view.local? pair.anchor).isSome ∨ (view.local? pair.other).isSome) ∧
      ∃ declared other a b, view.visible? pair.anchor = some declared ∧
        view.visible? pair.other = some other ∧ Value.instant? declared.value = some a ∧
        Value.instant? other.value = some b ∧ pair.order.holds a b = false ∧
        finding = ⟨.valueRelation declared.displayName pair.anchor pair.order.name pair.other
          pair.other, declared.range⟩ := by
  have isDeclared : ¬ ((view.local? pair.anchor).isNone && (view.local? pair.other).isNone) = true ↔
      (view.local? pair.anchor).isSome ∨ (view.local? pair.other).isSome := by
    cases view.local? pair.anchor <;> cases view.local? pair.other <;> simp
  simp only [DateOrder.check, Option.bind_eq_bind, Option.ite_none_left_eq_some, isDeclared,
    Option.bind_eq_some_iff, Option.some.injEq, Bool.not_eq_true, exists_and_left,
    eq_comm (a := finding)]

theorem checkGroups_eq_some (h : checkGroups view = some finding) :
    ∃ anchor, (view.local? componentLimit = some anchor ∨ view.local? groupCount = some anchor) ∧
      finding.range = anchor.range ∧
      ∃ related, finding.issue =
        .valueRelation anchor.displayName componentLimit Order.greater.name groupCount related := by
  simp only [checkGroups, Option.bind_eq_bind, Option.bind_eq_some_iff,
    Option.ite_none_left_eq_some, Option.some.injEq, Option.or_eq_some_iff] at h
  obtain ⟨anchor, isLocal, _, -, _, -, -, rfl⟩ := h
  exact ⟨anchor, isLocal.imp_right And.right, rfl, _, rfl⟩

theorem checkColors_eq_some_iff :
    checkColors view = some finding ↔
      ∃ colors thresholds, view.local? "colors" = some colors ∧
        view.visible? "thresholds" = some thresholds ∧ view.satisfies segmentedWidgets = true ∧
        colors.itemCount + 1 ≠ thresholds.itemCount ∧
        finding = ⟨.colorsThresholds colors.itemCount thresholds.itemCount, colors.range⟩ := by
  simp only [checkColors, Option.bind_eq_bind, Option.bind_eq_some_iff,
    Option.ite_none_right_eq_some, Option.some.injEq, Bool.and_eq_true, bne_iff_ne, ne_eq,
    exists_and_left, and_assoc, eq_comm (a := finding)]

theorem checkTimespan_eq_some (h : checkTimespan view = some finding) :
    ∃ timespan, view.visible? "timespan" = some timespan ∧
      finding = ⟨.timespanIgnored timespan.displayName, timespan.range⟩ := by
  simp only [checkTimespan, Option.bind_eq_bind, Option.ite_none_left_eq_some,
    Option.bind_eq_some_iff, Option.some.injEq] at h
  obtain ⟨-, timespan, isVisible, _, -, _, -, isFinding⟩ := h
  exact ⟨timespan, isVisible, isFinding.symm⟩

theorem mem_checkRelations :
    finding ∈ checkRelations view ↔ (∃ pair ∈ dateOrders, pair.check view = some finding) ∨
      checkGroups view = some finding ∨ checkColors view = some finding ∨
        checkTimespan view = some finding := by
  simp [checkRelations, List.mem_filterMap, eq_comm (a := some finding)]

theorem mem_findingsOf :
    finding ∈ findingsOf view ↔
      (∃ requirement ∈ requirementsOf view.node.name, requirement.check view = some finding) ∨
        finding ∈ checkRelations view := by
  simp [findingsOf, List.mem_filterMap]

theorem mem_requirementsOf {name : String} {requirement : Requirement} :
    requirement ∈ requirementsOf name ↔ name = "series" ∧ requirement ∈ seriesRequirements ∨
      name = "widget" ∧ requirement ∈ widgetRequirements := by
  unfold requirementsOf
  by_cases isSeries : name = "series"
  · simp [isSeries]
  · by_cases isWidget : name = "widget" <;> simp [isSeries, isWidget]

section Walk

theorem mem_of_mem_firstPerRange {seen : List Range} {findings : List Finding}
    (h : finding ∈ firstPerRange seen findings) : finding ∈ findings := by
  fun_induction firstPerRange seen findings with
  | case1 => exact h
  | case2 seen first rest _ ih => exact List.mem_cons_of_mem _ (ih h)
  | case3 seen first rest _ ih =>
    rcases List.mem_cons.mp h with rfl | member
    · exact List.mem_cons_self
    · exact List.mem_cons_of_mem _ (ih member)

theorem range_notMem_of_mem_firstPerRange {seen : List Range} {findings : List Finding}
    (h : finding ∈ firstPerRange seen findings) : finding.range ∉ seen := by
  fun_induction firstPerRange seen findings with
  | case1 => cases h
  | case2 seen first rest _ ih => exact ih h
  | case3 seen first rest isNew ih =>
    rcases List.mem_cons.mp h with rfl | member
    · simpa using isNew
    · exact fun isSeen => ih member (List.mem_cons_of_mem _ isSeen)

theorem nodup_range_firstPerRange (seen : List Range) (findings : List Finding) :
    ((firstPerRange seen findings).map Finding.range).Nodup := by
  fun_induction firstPerRange seen findings with
  | case1 => exact List.nodup_nil
  | case2 seen first rest _ ih => exact ih
  | case3 seen first rest _ ih =>
    rw [List.map_cons, List.nodup_cons]
    refine ⟨fun isRepeated => ?_, ih⟩
    obtain ⟨other, member, same⟩ := List.mem_map.mp isRepeated
    apply range_notMem_of_mem_firstPerRange member
    rw [same]
    exact List.mem_cons_self

/-- A range is seen already, or its first finding is kept. -/
theorem exists_mem_firstPerRange (seen : List Range) {findings : List Finding}
    (h : finding ∈ findings) :
    finding.range ∈ seen ∨ ∃ first ∈ firstPerRange seen findings, first.range = finding.range := by
  fun_induction firstPerRange seen findings with
  | case1 => cases h
  | case2 seen first rest isSeen ih =>
    rcases List.mem_cons.mp h with rfl | member
    · exact .inl (by simpa using isSeen)
    · exact ih member
  | case3 seen first rest _ ih =>
    rcases List.mem_cons.mp h with rfl | member
    · exact .inr ⟨finding, List.mem_cons_self, rfl⟩
    · rcases ih member with isSeen | ⟨kept, isKept, same⟩
      · rcases List.mem_cons.mp isSeen with same | isSeen
        · exact .inr ⟨first, List.mem_cons_self, same.symm⟩
        · exact .inl isSeen
      · exact .inr ⟨kept, List.mem_cons_of_mem _ isKept, same⟩

variable {catalog : Catalog} {tree : Section.Tree} {id : Nat}

theorem View.of?_eq_some (h : View.of? catalog tree id = some view) :
    ∃ node, tree.nodes[id]? = some node ∧ view = ⟨catalog, tree, id, node⟩ := by
  obtain ⟨node, isNode, rfl⟩ := Option.map_eq_some_iff.mp h
  exact ⟨node, isNode, rfl⟩

theorem exists_view_of_mem_findings (h : finding ∈ findings catalog tree) :
    ∃ id view, View.of? catalog tree id = some view ∧ finding ∈ findingsOf view := by
  obtain ⟨id, -, isFinding⟩ := List.mem_flatMap.mp (mem_of_mem_firstPerRange h)
  cases isView : View.of? catalog tree id with
  | none => simp [isView] at isFinding
  | some view => exact ⟨id, view, isView, by simpa [isView] using isFinding⟩

end Walk

end ChartLint.Rule
