import ChartLint.Proofs.Rule.Relocate
import ChartLint.Proofs.Validation.Event

/-!
Places in a scan. The scan compares places in two spots: a section was accepted if its place is that of
the innermost open section, and rules report once for each place. Apart from that it only keeps them, so
a scan of moved lines is the moved scan, as long as different places stay different.
-/
namespace ChartLint.Validation

def Current.relocate (f : Range → Range) (current : Current) : Current :=
  { current with
    range := f current.range
    settings := current.settings.map (Setting.relocate f) }

namespace Scan

def relocate (f : Range → Range) (scan : Scan) : Scan where
  stack := scan.stack.relocate f
  tree := scan.tree.relocate f
  blocks := scan.blocks.relocate f
  current := scan.current.map (Current.relocate f)
  aliases := scan.aliases
  references := scan.references.map (Prod.map id f)
  findings := scan.findings.map (Finding.relocate f)

variable (f : Range → Range) (scan : Scan)

theorem report_relocate (findings : List Finding) :
    (scan.relocate f).report (findings.map (Finding.relocate f)) =
      (scan.report findings).relocate f := by
  simp only [report, relocate, List.map_append]

theorem missingSettings_relocate (catalog : Catalog) (stack : Section.Stack) (current : Current) :
    missingSettings catalog (stack.relocate f) (current.relocate f) =
      (missingSettings catalog stack current).map (Finding.relocate f) := by
  have sameOwn (name : String) :
      (Setting.named? (current.relocate f).settings name).isSome =
        (Setting.named? current.settings name).isSome :=
    Setting.isSome_named?_relocate f current.settings name
  simp only [missingSettings, sameOwn, stack.isSome_setting?_relocate]
  change (if current.name == "series" && _ then _ else _) = _
  split
  · rfl
  · rw [List.map_filterMap]
    apply List.filterMap_congr
    intro names _
    cases names with
    | nil => rfl
    | cons first others =>
      dsimp only
      split <;> rfl

theorem flush_relocate (catalog : Catalog) :
    (scan.relocate f).flush catalog = (scan.flush catalog).relocate f := by
  unfold flush
  cases isCurrent : scan.current with
  | none =>
    have isNone : (scan.relocate f).current = none := by rw [relocate, isCurrent, Option.map_none]
    rw [isNone]
  | some current =>
    have isSome : (scan.relocate f).current = some (current.relocate f) := by
      rw [relocate, isCurrent, Option.map_some]
    have moveMissing := missingSettings_relocate f catalog scan.stack current
    have moveStack := scan.stack.addSettings_relocate f current.settings
    have moveTree := scan.tree.add_relocate f catalog current.name current.range current.settings
    rw [isSome]
    change (if current.accepted then _ else _) = relocate f (if current.accepted then _ else _)
    split
    · simp only [report, relocate, List.map_append, ← moveMissing, ← moveStack, ← moveTree]
      rfl
    · simp only [report, relocate, List.map_append, ← moveMissing]
      rfl

variable {f}

theorem startSection_relocate (injective : Function.Injective f) (catalog : Catalog) (name : String)
    (range : Range) :
    (scan.relocate f).startSection catalog name (f range) =
      (scan.startSection catalog name range).relocate f := by
  -- Whether a section was accepted is told from its place, so places may not be mixed up.
  have sameRange (range other : Range) : (f range == f other) = (range == other) := by
    rw [Bool.eq_iff_iff, beq_iff_eq, beq_iff_eq]
    exact injective.eq_iff
  have sameTop (stack : Section.Stack) :
      ((stack.relocate f).top?.any fun frame => frame.range == f range) =
        stack.top?.any fun frame => frame.range == range := by
    rw [stack.top?_relocate, Option.any_map]
    simp only [Section.Frame.relocate, sameRange]
  unfold startSection
  simp only [relocate, scan.stack.insert_relocate]
  cases scan.stack.insert catalog name range with
  | error issue => simp [sameTop, report, Current.relocate, Finding.relocate, Except.map]
  | ok both => simp [sameTop, report, Current.relocate, Option.toList_map, Except.map]

theorem readHeader_relocate (injective : Function.Injective f) (catalog : Catalog)
    (header : Line.SectionHeader) :
    (scan.relocate f).readHeader catalog { header with range := f header.range } =
      (scan.readHeader catalog header).relocate f := by
  have moveDeprecation : deprecation catalog { header with range := f header.range } =
      (deprecation catalog header).map (Finding.relocate f) := by
    unfold deprecation
    dsimp only
    split <;> rfl
  rw [readHeader_eq_startSection, readHeader_eq_startSection, moveDeprecation, report_relocate,
    flush_relocate]
  exact startSection_relocate _ injective catalog _ header.range

theorem describe_relocate (catalog : Catalog) (current : Option Current) (line : Line.SettingLine)
    (column : Nat) :
    describe catalog (current.map (Current.relocate f))
        { line with nameRange := f line.nameRange, valueColumn := column } =
      describe catalog current line := by
  cases current <;> rfl

theorem scope_relocate (current : Current) :
    (scan.relocate f).scope (current.relocate f) = scan.scope current := by
  have sameValue (key : Scope.Key) :
      (scan.relocate f).scopeValue? (current.relocate f) key = scan.scopeValue? current key := by
    simp only [scopeValue?, relocate, Current.relocate, Setting.named?_relocate,
      scan.stack.setting?_relocate, ← Option.map_or, Option.map_map]
    rfl
  rw [scope, sameValue, sameValue, scope]

theorem checkWidget_relocate (scope : Scope) (setting : Setting) :
    checkWidget scope (setting.relocate f) = (checkWidget scope setting).map (Finding.relocate f) := by
  rw [checkWidget, checkWidget, Option.map_bind]
  apply congrArg
  funext type
  change (if setting.spec.appliesTo type then _ else _) = Option.map _ (if _ then _ else _)
  split <;> rfl

theorem checkExclusions_relocate (settings : List Setting) (setting : Setting) :
    checkExclusions (settings.map (Setting.relocate f)) (setting.relocate f) =
      (checkExclusions settings setting).map (Finding.relocate f) := by
  rw [checkExclusions, List.filter_map, List.map_map, checkExclusions, List.map_map]
  rfl

theorem replace_relocate (settings : List Setting) (setting : Setting) :
    replace (settings.map (Setting.relocate f)) (setting.relocate f) =
      (replace settings setting).map (Setting.relocate f) := by
  rw [replace, replace, List.map_map, List.map_map]
  apply congrFun
  apply congrArg
  funext other
  change (if other.name == setting.name then _ else _) = Setting.relocate f (if _ then _ else _)
  split <;> rfl

theorem merge_relocate (earlier setting : Setting) :
    merge (earlier.relocate f) (setting.relocate f) =
      Prod.map (Setting.relocate f) (List.map (Finding.relocate f)) (merge earlier setting) := by
  unfold merge
  change (if earlier.spec.multiLine then _ else _) = Prod.map _ _ (if _ then _ else _)
  split
  · rw [Prod.map, ← Option.toList_map, Option.map_map]
    rfl
  · rw [Prod.map, List.map_cons, ← Option.toList_map, ← setting.check_relocate]
    rfl

/-- A column from which a range that starts on the line of another is moved as the other is. -/
def MovesColumn (f : Range → Range) (range : Range) (column moved : Nat) : Prop :=
  ∀ offset size, .span (f range).start.line (moved + offset) size =
    f (.span range.start.line (column + offset) size)

theorem note_relocate (catalog : Catalog) (current : Current) (setting : Setting) {column moved : Nat}
    (moves : MovesColumn f setting.range column moved) :
    (scan.relocate f).note catalog (current.relocate f) (setting.relocate f) moved =
      (scan.note catalog current setting column).relocate f := by
  have sameName : (setting.relocate f).name = setting.name := rfl
  have sameWidget : ((current.relocate f).accepted && (current.relocate f).name == "widget") =
      (current.accepted && current.name == "widget") := rfl
  simp only [note, sameName, sameWidget]
  split
  · rw [Setting.value_relocate]
    cases catalog.requirementsOfWidget? setting.value with
    | none => rfl
    | some options =>
      exact congrArg (fun stack => { scan.relocate f with stack })
        (scan.stack.replaceRequirements_relocate f "widget" options)
  · split
    · by_cases hasField : Value.hasField setting.value.toList = true
      · rw [if_pos hasField, if_pos (setting.value_relocate f ▸ hasField)]
        exact congrArg (fun stack => { scan.relocate f with stack })
          (scan.stack.require_relocate f "widget" ["placeholders"])
      · rw [if_neg hasField, if_neg (setting.value_relocate f ▸ hasField)]
    · split
      · rfl
      · split
        · -- Places of references are not kept from a line but made here, from a column.
          simp only [relocate, List.map_append, List.map_map]
          congr 3
          funext reference
          exact congrArg _ (moves reference.offset (Text.byteSize reference.name))
        · rfl

theorem record_relocate (catalog : Catalog) (current : Current) (setting : Setting)
    {column moved : Nat} (moves : MovesColumn f setting.range column moved) :
    (scan.relocate f).record catalog (current.relocate f) (setting.relocate f) moved =
      (scan.record catalog current setting column).relocate f := by
  have isEarlier : Setting.named? (current.relocate f).settings (setting.relocate f).name =
      (Setting.named? current.settings setting.name).map (Setting.relocate f) :=
    Setting.named?_relocate f current.settings setting.name
  unfold record
  rw [isEarlier]
  cases Setting.named? current.settings setting.name with
  | some earlier =>
    simp only [Option.map_some, merge_relocate, Prod.map]
    rw [← report_relocate]
    simp [relocate, report, Current.relocate, replace_relocate]
  | none =>
    have moveFindings : (setting.relocate f).check.toList ++
        checkExclusions (current.relocate f).settings (setting.relocate f) =
        (setting.check.toList ++ checkExclusions current.settings setting).map
          (Finding.relocate f) := by
      rw [setting.check_relocate, Option.toList_map, List.map_append, ← checkExclusions_relocate]
      rfl
    simp only [Option.map_none, moveFindings, report_relocate,
      note_relocate _ catalog current setting moves]
    simp [relocate, Current.relocate]

theorem readSetting_relocate (catalog : Catalog) (line : Line.SettingLine) {moved : Nat}
    (moves : MovesColumn f line.nameRange line.valueColumn moved) :
    (scan.relocate f).readSetting catalog
        { line with nameRange := f line.nameRange, valueColumn := moved } =
      (scan.readSetting catalog line).relocate f := by
  have isCurrent : (scan.relocate f).current = scan.current.map (Current.relocate f) := rfl
  unfold readSetting
  rw [isCurrent, describe_relocate]
  cases describe catalog scan.current line with
  | error issue =>
    rw [← report_relocate, ← Option.toList_map, Option.map_map]
    rfl
  | ok descriptor =>
    cases scan.current with
    | none => rfl
    | some current =>
      have isSetting (scope : Scope) :
          Setting.declare descriptor scope line.value (f line.nameRange) =
            (Setting.declare descriptor scope line.value line.nameRange).relocate f := rfl
      dsimp only [Option.map_some]
      rw [scope_relocate, isSetting, checkWidget_relocate, Option.toList_map, report_relocate]
      exact record_relocate _ catalog current _ moves

theorem undeclaredAliases_relocate :
    (scan.relocate f).undeclaredAliases = scan.undeclaredAliases.map (Finding.relocate f) := by
  rw [undeclaredAliases, undeclaredAliases, relocate, List.filter_map, List.map_map, List.map_map]
  rfl

theorem finish_relocate (injective : Function.Injective f) (catalog : Catalog) :
    (scan.relocate f).finish catalog = (scan.finish catalog).relocate f := by
  have moveFindings (ended : Scan) : (ended.relocate f).blocks.finish.2 ++
      (ended.relocate f).stack.finish.2.toList ++ (ended.relocate f).undeclaredAliases ++
      Rule.findings catalog (ended.relocate f).tree =
      (ended.blocks.finish.2 ++ ended.stack.finish.2.toList ++ ended.undeclaredAliases ++
        Rule.findings catalog ended.tree).map (Finding.relocate f) := by
    simp only [List.map_append, ← undeclaredAliases_relocate, ← Rule.findings_relocate injective,
      ← Option.toList_map]
    rw [relocate, Block.Tracker.finish_relocate, Section.Stack.finish_relocate]
    rfl
  unfold finish
  simp only [flush_relocate, moveFindings, ← report_relocate]
  rw [relocate, Block.Tracker.finish_relocate, Section.Stack.finish_relocate]
  rfl

end Scan

end ChartLint.Validation
