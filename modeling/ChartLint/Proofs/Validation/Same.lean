import ChartLint.Proofs.Validation.Event
import ChartLint.Proofs.Validation.Order

/-!
Scans that agree: they hold the same sections and blocks, and they reported the same on some of the
lines. They go on alike, since what was reported or said of aliases is never looked at.
-/
namespace ChartLint

/-- The same findings in the same order on each line that is kept. -/
def Alike (keep : Nat → Bool) (findings others : List Finding) : Prop :=
  ∀ line, keep line = true → onLine line findings = onLine line others

namespace Alike

variable {keep : Nat → Bool} {findings others more : List Finding}

theorem refl (keep : Nat → Bool) (findings : List Finding) : Alike keep findings findings :=
  fun _ _ => rfl

theorem trans (h : Alike keep findings others) (next : Alike keep others more) :
    Alike keep findings more :=
  fun line isKept => (h line isKept).trans (next line isKept)

theorem append (h : Alike keep findings others) {after : List Finding}
    (next : Alike keep more after) : Alike keep (findings ++ more) (others ++ after) := by
  intro line isKept
  simp only [onLine, List.filter_append]
  exact congrArg₂ (· ++ ·) (h line isKept) (next line isKept)

theorem nil_of_dropped (dropped : ∀ finding ∈ more, keep finding.range.start.line = false) :
    Alike keep more [] := by
  intro line isKept
  refine List.filter_eq_nil_iff.mpr fun finding member => ?_
  rw [decide_eq_true_eq]
  rintro rfl
  cases isKept.symm.trans (dropped finding member)

theorem append_dropped (h : Alike keep findings others)
    (dropped : ∀ finding ∈ more, keep finding.range.start.line = false) :
    Alike keep (findings ++ more) others :=
  List.append_nil others ▸ h.append (nil_of_dropped dropped)

/-- Findings of different lines change places. -/
theorem swap (keep : Nat → Bool) (apart : ∀ finding ∈ findings, ∀ other ∈ others,
    finding.range.start.line ≠ other.range.start.line) :
    Alike keep (findings ++ others) (others ++ findings) := by
  intro line _
  simp only [onLine, List.filter_append]
  by_cases isHere : ∃ finding ∈ findings, finding.range.start.line = line
  · obtain ⟨finding, member, rfl⟩ := isHere
    have none : others.filter (fun other => other.range.start.line = finding.range.start.line) =
        [] := by
      refine List.filter_eq_nil_iff.mpr fun other isOther => ?_
      rw [decide_eq_true_eq]
      exact (apart finding member other isOther).symm
    rw [none, List.append_nil, List.nil_append]
  · have none : findings.filter (fun finding => finding.range.start.line = line) = [] := by
      refine List.filter_eq_nil_iff.mpr fun finding member => ?_
      rw [decide_eq_true_eq]
      exact fun isLine => isHere ⟨finding, member, isLine⟩
    rw [none, List.append_nil, List.nil_append]

theorem filter (h : Alike keep findings others) {p : Finding → Bool}
    (isKept : ∀ finding, p finding = true → keep finding.range.start.line = true) (line : Nat) :
    onLine line (findings.filter p) = onLine line (others.filter p) := by
  have swapped (findings : List Finding) :
      onLine line (findings.filter p) = (onLine line findings).filter p := by
    simp only [onLine, List.filter_filter, Bool.and_comm]
  cases kept : keep line with
  | true => rw [swapped, swapped, h line kept]
  | false =>
    have none (findings : List Finding) : onLine line (findings.filter p) = [] := by
      refine List.filter_eq_nil_iff.mpr fun finding member => ?_
      rw [decide_eq_true_eq]
      rintro rfl
      cases kept.symm.trans (isKept finding (List.of_mem_filter member))
    rw [none, none]

end Alike

namespace Validation.Scan

structure Same (keep : Nat → Bool) (scan other : Scan) : Prop where
  stack : scan.stack = other.stack
  tree : scan.tree = other.tree
  blocks : scan.blocks = other.blocks
  current : scan.current = other.current
  findings : Alike keep scan.findings other.findings

namespace Same

variable {keep : Nat → Bool} {scan other : Scan}

theorem trans (h : Same keep scan other) {last : Scan} (next : Same keep other last) :
    Same keep scan last :=
  ⟨h.stack.trans next.stack, h.tree.trans next.tree, h.blocks.trans next.blocks,
    h.current.trans next.current, h.findings.trans next.findings⟩

theorem report (h : Same keep scan other) (more : List Finding) :
    Same keep (scan.report more) (other.report more) :=
  { h with findings := h.findings.append (.refl keep more) }

theorem flush (h : Same keep scan other) (catalog : Catalog) :
    Same keep (scan.flush catalog) (other.flush catalog) := by
  unfold Scan.flush
  rw [h.current]
  cases other.current with
  | none => exact h
  | some current =>
    rw [h.stack, h.tree]
    have ended := h.findings.append (.refl keep (missingSettings catalog other.stack current))
    dsimp only
    split
    · exact ⟨rfl, rfl, h.blocks, rfl, ended⟩
    · exact ⟨rfl, rfl, h.blocks, rfl, ended⟩

theorem startSection (h : Same keep scan other) (catalog : Catalog) (name : String) (range : Range) :
    Same keep (scan.startSection catalog name range) (other.startSection catalog name range) := by
  unfold Scan.startSection
  rw [h.stack]
  exact ⟨rfl, h.tree, h.blocks, rfl, h.findings.append (.refl keep _)⟩

theorem note (h : Same keep scan other) (catalog : Catalog) (current : Current) (setting : Setting)
    (column : Nat) :
    Same keep (scan.note catalog current setting column)
      (other.note catalog current setting column) := by
  unfold Scan.note
  rw [h.stack]
  dsimp only
  split
  · cases catalog.requirementsOfWidget? setting.value with
    | none => exact h
    | some options => exact { h with stack := rfl }
  · split
    · split
      · exact { h with stack := rfl }
      · exact h
    · split
      · exact { h with stack := rfl }
      · split
        · exact { h with stack := rfl }
        · exact h

theorem record (h : Same keep scan other) (catalog : Catalog) (current : Current)
    (setting : Setting) (column : Nat) :
    Same keep (scan.record catalog current setting column)
      (other.record catalog current setting column) := by
  unfold Scan.record
  cases Setting.named? current.settings setting.name with
  | some earlier => exact { h with current := rfl, findings := h.findings.append (.refl keep _) }
  | none =>
    have noted := (h.report (setting.check.toList ++ checkExclusions current.settings setting)).note
      catalog current setting column
    exact { noted with current := rfl }

theorem readSetting (h : Same keep scan other) (catalog : Catalog) (line : Line.SettingLine) :
    Same keep (scan.readSetting catalog line) (other.readSetting catalog line) := by
  have sameScope (current : Current) : scan.scope current = other.scope current := by
    simp only [scope, scopeValue?, h.stack]
  unfold Scan.readSetting
  rw [h.current]
  cases describe catalog other.current line with
  | error issue => exact h.report _
  | ok descriptor =>
    cases other.current with
    | none => exact h
    | some current =>
      dsimp only
      rw [sameScope]
      exact (h.report _).record catalog current _ _

theorem readHeader (h : Same keep scan other) (catalog : Catalog) (header : Line.SectionHeader) :
    Same keep (scan.readHeader catalog header) (other.readHeader catalog header) := by
  rw [readHeader_eq_startSection, readHeader_eq_startSection]
  exact ((h.report _).flush catalog).startSection catalog _ _

theorem step (h : Same keep scan other) (line : List Char) (number : Nat) :
    Same keep ({ scan with blocks := (scan.blocks.step line number).1 }.report
        (scan.blocks.step line number).2)
      ({ other with blocks := (other.blocks.step line number).1 }.report
        (other.blocks.step line number).2) := by
  rw [h.blocks]
  exact { h with blocks := rfl, findings := h.findings.append (.refl keep _) }

theorem readLine (h : Same keep scan other) (catalog : Catalog) (line : List Char) (number : Nat) :
    Same keep (scan.readLine catalog line number) (other.readLine catalog line number) := by
  rw [readLine_eq, readLine_eq, h.blocks]
  cases Event.read? other.blocks line number with
  | none => exact h.blocks ▸ h.step line number
  | some event =>
    cases event with
    | header header => exact h.readHeader catalog header
    | setting line => exact h.readSetting catalog line

end Same

end Validation.Scan

end ChartLint
