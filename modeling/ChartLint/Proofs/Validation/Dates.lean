import ChartLint.Proofs.Validation.Ruled

/-!
Dates that precede one another. A pair of dates is checked at the sections that declare one of them,
and that is enough: what a section sees of a pair, the nearest of these sections around it sees too.
-/
namespace ChartLint

/-- Of two settings, a section sees the same as some section on its path that declares one of them. -/
theorem Section.Tree.exists_declaring {tree : Tree} {id : Nat} {name other : String}
    {setting otherSetting : Setting} (isVisible : tree.setting? id name = some setting)
    (isOther : tree.setting? id other = some otherSetting) :
    ∃ (outer : Nat) (node : Node), tree.nodes[outer]? = some node ∧
      tree.setting? outer name = some setting ∧ tree.setting? outer other = some otherSetting ∧
      ((node.setting? name).isSome ∨ (node.setting? other).isSome) := by
  have last {id : Nat} {node : Node} (isPath : tree.path id = [node])
      (isVisible : tree.setting? id name = some setting) : (node.setting? name).isSome := by
    rw [setting?, isPath, List.findSome?_singleton] at isVisible
    exact Option.isSome_of_eq_some isVisible
  fun_induction path tree id with
  | case1 id absent =>
    rw [setting?, path, absent] at isVisible
    cases isVisible
  | case2 id node isNode isRoot =>
    have declares := last (path_root isNode isRoot) isVisible
    exact ⟨id, node, isNode, isVisible, isOther, .inl declares⟩
  | case3 id node isNode parent isParent before ih =>
    have isPath : tree.path id = node :: tree.path parent := by
      rw [path, isNode]
      simp only [isParent, if_pos before]
    by_cases declares : (node.setting? name).isSome ∨ (node.setting? other).isSome
    · exact ⟨id, node, isNode, isVisible, isOther, declares⟩
    · -- The section declares neither, so both come from the section around it.
      simp only [not_or, Option.not_isSome_iff_eq_none] at declares
      simp only [setting?, isPath, List.findSome?_cons, declares.1] at isVisible
      simp only [setting?, isPath, List.findSome?_cons, declares.2] at isOther
      exact ih isVisible isOther
  | case4 id node isNode parent isParent after =>
    have isPath : tree.path id = [node] := by
      rw [path, isNode]
      simp only [isParent, if_neg after]
    exact ⟨id, node, isNode, isVisible, isOther, .inl (last isPath isVisible)⟩

namespace Rule

/-- A date that precedes another. -/
structure Precedence where
  earlier : String
  later : String
  /-- The one of the two at which a violation is reported. -/
  anchor : String
  message : String

def precedences : List Precedence := [
  ⟨"start-time", "end-time", "end-time", "end-time must be greater than start-time"⟩,
  ⟨"end-time", "forecast-horizon-end-time", "forecast-horizon-end-time",
    "forecast-horizon-end-time must be greater than end-time"⟩,
  ⟨"forecast-horizon-start-time", "forecast-horizon-end-time", "forecast-horizon-start-time",
    "forecast-horizon-start-time must be less than forecast-horizon-end-time"⟩]

namespace Precedence

/-- A section sees both settings, and their values are dates. -/
def Dated (precedence : Precedence) (tree : Section.Tree) (id : Nat) (a b : Instant) : Prop :=
  ∃ first second, tree.setting? id precedence.earlier = some first ∧
    tree.setting? id precedence.later = some second ∧
    Value.instant? first.value = some a ∧ Value.instant? second.value = some b

/-- A section sees both dates, but not in their order; its anchor is at a place. -/
def ViolatedAt (precedence : Precedence) (tree : Section.Tree) (range : Range) : Prop :=
  ∃ id a b, precedence.Dated tree id a b ∧ ¬ a < b ∧
    ∃ anchor, tree.setting? id precedence.anchor = some anchor ∧ anchor.range = range

/-- The check of a precedence, from the side of its anchor. -/
def order (precedence : Precedence) : DateOrder :=
  if precedence.anchor = precedence.later then ⟨precedence.later, .greater, precedence.earlier⟩
  else ⟨precedence.earlier, .less, precedence.later⟩

end Precedence

theorem map_order : precedences.map Precedence.order = dateOrders := by decide

theorem anchor_eq : ∀ precedence ∈ precedences,
    precedence.anchor = precedence.later ∨ precedence.anchor = precedence.earlier := by
  decide

theorem message_order {precedence : Precedence} (h : precedence ∈ precedences) (name : String) :
    (Issue.valueRelation name precedence.order.anchor precedence.order.order.name
      precedence.order.other precedence.order.other).message = precedence.message := by
  simp only [precedences, List.mem_cons, List.not_mem_nil, or_false] at h
  rcases h with rfl | rfl | rfl <;> rfl

variable {catalog : Catalog} {tree : Section.Tree} {precedence : Precedence}

theorem yieldsIn_of_violated (catalog : Catalog) (h : precedence ∈ precedences) {id : Nat}
    {a b : Instant} (dated : precedence.Dated tree id a b) (violated : ¬ a < b) :
    ∃ finding, YieldsIn catalog tree finding ∧ finding.issue.code = .valueRelation := by
  obtain ⟨first, second, isFirst, isSecond, isA, isB⟩ := dated
  obtain ⟨outer, node, isNode, isFirst, isSecond, declares⟩ :=
    Section.Tree.exists_declaring isFirst isSecond
  have isView : View.of? catalog tree outer = some ⟨catalog, tree, outer, node⟩ := by
    simp [View.of?, isNode]
  have isOrder : precedence.order ∈ dateOrders := map_order ▸ List.mem_map_of_mem h
  have checked (finding : Finding) (isFinding :
      precedence.order.check ⟨catalog, tree, outer, node⟩ = some finding) :
      YieldsIn catalog tree finding :=
    ⟨outer, _, isView, .dates isOrder isFinding⟩
  unfold Precedence.order at checked
  split at checked
  · refine ⟨_, checked _ (DateOrder.check_eq_some_iff.mpr ⟨declares.symm, second, first, b, a,
      isSecond, isFirst, isB, isA, ?_, rfl⟩), rfl⟩
    simpa [Order.holds] using violated
  · refine ⟨_, checked _ (DateOrder.check_eq_some_iff.mpr ⟨declares, first, second, a, b,
      isFirst, isSecond, isA, isB, ?_, rfl⟩), rfl⟩
    simpa [Order.holds] using violated

theorem violatedAt_of_check (h : precedence ∈ precedences) {id : Nat} {view : View}
    {finding : Finding} (isView : View.of? catalog tree id = some view)
    (isFinding : precedence.order.check view = some finding) :
    finding.issue.message = precedence.message ∧ precedence.ViolatedAt tree finding.range := by
  obtain ⟨node, isNode, rfl⟩ := View.of?_eq_some isView
  obtain ⟨-, declared, other, a, b, isDeclared, isOther, isA, isB, isOut, rfl⟩ :=
    DateOrder.check_eq_some_iff.mp isFinding
  refine ⟨message_order h declared.displayName, ?_⟩
  unfold Precedence.order at isDeclared isOther isOut
  split at isDeclared
  case isTrue isLater =>
    rw [if_pos isLater] at isOther isOut
    refine ⟨id, b, a, ⟨other, declared, isOther, isDeclared, isB, isA⟩,
      by simpa [Order.holds] using isOut, declared, ?_, rfl⟩
    rw [isLater]
    exact isDeclared
  case isFalse isEarlier =>
    rw [if_neg isEarlier] at isOther isOut
    refine ⟨id, a, b, ⟨declared, other, isDeclared, isOther, isA, isB⟩,
      by simpa [Order.holds] using isOut, declared, ?_, rfl⟩
    rw [(anchor_eq precedence h).resolve_left isEarlier]
    exact isDeclared

/-- The message on more groups than components, which have no dates. -/
def groupMessage : String :=
  "forecast-ssa-decompose-eigentriple-limit must be greater than forecast-ssa-group-auto-count"

/-- A relation of values that is reported is one of numbers of groups, or one of dates. -/
theorem violatedAt_of_yields {finding : Finding} (h : YieldsIn catalog tree finding)
    (isCode : finding.issue.code = .valueRelation) :
    finding.issue.message = groupMessage ∨ ∃ precedence ∈ precedences,
      finding.issue.message = precedence.message ∧ precedence.ViolatedAt tree finding.range := by
  obtain ⟨id, view, isView, yields⟩ := h
  cases yields with
  | series _ _ isFinding | widget _ _ isFinding =>
    rcases Requirement.check_eq_some isFinding with ⟨isOther, -⟩ | ⟨isOther, -⟩
    · cases isCode.symm.trans isOther
    · cases isCode.symm.trans isOther
  | dates member isFinding =>
    rw [← map_order] at member
    obtain ⟨precedence, isPrecedence, rfl⟩ := List.mem_map.mp member
    exact .inr ⟨precedence, isPrecedence, violatedAt_of_check isPrecedence isView isFinding⟩
  | groups isFinding =>
    obtain ⟨anchor, -, -, related, isIssue⟩ := checkGroups_eq_some isFinding
    rw [isIssue]
    exact .inl rfl
  | colors isFinding =>
    obtain ⟨_, _, -, -, -, -, rfl⟩ := checkColors_eq_some_iff.mp isFinding
    cases isCode
  | timespan isFinding =>
    obtain ⟨_, -, rfl⟩ := checkTimespan_eq_some isFinding
    cases isCode

end Rule

namespace Validation

open Rule

/-- Only rules report relations of values. -/
theorem yieldsIn_of_valueRelation {catalog : Catalog} {text : String} {diagnostic : Diagnostic}
    (member : diagnostic ∈ (validate catalog text).diagnostics)
    (isId : diagnostic.id = Code.valueRelation.id) :
    ∃ finding, YieldsIn catalog (validate catalog text).tree finding ∧
      finding.issue.code = .valueRelation ∧ finding.diagnostic = diagnostic := by
  obtain ⟨finding, isFinding, rfl⟩ := List.mem_map.mp member
  have isCode : finding.issue.code = .valueRelation := Code.id_inj.mp isId
  refine ⟨finding, ?_, isCode, rfl⟩
  have scanned := (List.mergeSort_perm _ _).mem_iff.mp isFinding
  rw [Scan.findings_ofLines, List.mem_append] at scanned
  rcases scanned with unruled | ruled
  · have other : Code.valueRelation ∉ Scan.lineCodes := by decide
    exact absurd (isCode ▸ Scan.codesIn_unruled catalog _ finding unruled) other
  · exact yieldsIn_of_mem_findings ruled

/-- Without a report on relations of values, all dates that a section sees are in order; and a report on
dates is at the anchor as seen from a section where the dates are not. -/
theorem dates_in_order (catalog : Catalog) (text : String) :
    let validation := validate catalog text
    ((∀ diagnostic ∈ validation.diagnostics, diagnostic.id ≠ Code.valueRelation.id) →
      ∀ precedence ∈ precedences, ∀ id a b, precedence.Dated validation.tree id a b → a < b) ∧
    ∀ diagnostic ∈ validation.diagnostics, diagnostic.id = Code.valueRelation.id →
      diagnostic.message = groupMessage ∨ ∃ precedence ∈ precedences,
        diagnostic.message = precedence.message ∧
          precedence.ViolatedAt validation.tree diagnostic.range := by
  intro validation
  constructor
  · intro none precedence isPrecedence id a b dated
    by_contra violated
    obtain ⟨finding, yields, isCode⟩ :=
      yieldsIn_of_violated catalog isPrecedence dated violated
    obtain ⟨first, isFirst, sameCode, -⟩ := exists_mem_findings
      (Scan.rooted_ofLines catalog _) (Scan.apart_ofLines catalog _) yields
    have member : first ∈ validation.findings := by
      refine (List.mergeSort_perm _ _).mem_iff.mpr ?_
      rw [Scan.findings_ofLines]
      exact List.mem_append_right _ isFirst
    apply none _ (List.mem_map_of_mem member)
    exact congrArg Code.id (sameCode.trans isCode)
  · intro diagnostic member isId
    obtain ⟨finding, yields, isCode, rfl⟩ := yieldsIn_of_valueRelation member isId
    exact violatedAt_of_yields yields isCode

/-- Sections of two levels that may start and end. -/
def spans : Catalog :=
  match Catalog.ofSource {
    settings := [
      { displayName := "start-time", kind := .date }, { displayName := "end-time", kind := .date }]
    sectionDepth := [("configuration", 0), ("group", 1)] } with
  | .ok catalog => catalog
  | .error _ => {}

/-- A group that inherits its start, up to its end. -/
def spanUntil (date : String) : Validation :=
  validate spans s!"[configuration]\nstart-time = 2018-01-01\n[group]\nend-time = {date}"

theorem dates_in_order_spans :
    (∃ precedence ∈ precedences, ∃ a b,
      precedence.Dated (spanUntil "2018-02-01").tree 1 a b ∧ a < b) ∧
    ∃ diagnostic ∈ (spanUntil "2017-02-01").diagnostics, diagnostic.id = Code.valueRelation.id ∧
      diagnostic.message ≠ groupMessage ∧ ∃ precedence ∈ precedences,
        diagnostic.message = precedence.message ∧
          precedence.ViolatedAt (spanUntil "2017-02-01").tree diagnostic.range := by
  constructor
  · let instant? (name : String) : Option Instant :=
      ((spanUntil "2018-02-01").tree.setting? 1 name).bind fun setting =>
        Value.instant? setting.value
    have evaluated : (∀ diagnostic ∈ (spanUntil "2018-02-01").diagnostics,
        diagnostic.id ≠ Code.valueRelation.id) ∧
        (instant? "start-time").isSome = true ∧ (instant? "end-time").isSome = true := by
      decide +kernel
    obtain ⟨none, isStart, isEnd⟩ := evaluated
    obtain ⟨a, isA⟩ := Option.isSome_iff_exists.mp isStart
    obtain ⟨b, isB⟩ := Option.isSome_iff_exists.mp isEnd
    obtain ⟨first, isFirst, isA⟩ := Option.bind_eq_some_iff.mp isA
    obtain ⟨second, isSecond, isB⟩ := Option.bind_eq_some_iff.mp isB
    have member : precedences.head (by decide) ∈ precedences := List.head_mem _
    have dated : (precedences.head (by decide)).Dated (spanUntil "2018-02-01").tree 1 a b :=
      ⟨first, second, isFirst, isSecond, isA, isB⟩
    exact ⟨_, member, a, b, dated, (dates_in_order spans _).1 none _ member 1 a b dated⟩
  · have reported : ((spanUntil "2017-02-01").diagnostics.any fun diagnostic =>
        diagnostic.id == Code.valueRelation.id && diagnostic.message != groupMessage) = true := by
      decide +kernel
    obtain ⟨diagnostic, member, isReported⟩ := List.any_eq_true.mp reported
    simp only [Bool.and_eq_true, beq_iff_eq, bne_iff_ne, ne_eq] at isReported
    refine ⟨diagnostic, member, isReported.1, isReported.2, ?_⟩
    exact ((dates_in_order spans _).2 diagnostic member isReported.1).resolve_left isReported.2

end Validation

end ChartLint
