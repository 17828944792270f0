import ChartLint.Proofs.Validation.Place

/-!
Which codes findings have, by what makes them: blocks, values and rules. Only the stack of sections
says that child sections are missing.
-/
namespace ChartLint

theorem Code.ofId?_id (code : Code) : Code.ofId? code.id = some code := by
  cases code <;> rfl

theorem Code.id_inj {code other : Code} : code.id = other.id ↔ code = other := by
  refine ⟨fun same => Option.some.inj ?_, congrArg Code.id⟩
  rw [← Code.ofId?_id code, same, Code.ofId?_id]

/-- All findings have some of the codes. -/
def CodesIn (codes : List Code) (findings : List Finding) : Prop :=
  ∀ finding ∈ findings, finding.issue.code ∈ codes

/-- Whether a finding has one of the codes. -/
def Finding.hasCode (codes : List Code) (finding : Finding) : Bool :=
  codes.contains finding.issue.code

/-- Whether a finding says that child sections are missing. -/
def Finding.isUnmet (finding : Finding) : Bool := finding.issue.code == .requiredSectionMissing

/-- Nothing says that child sections are missing. -/
def NoneUnmet (findings : List Finding) : Prop := ∀ finding ∈ findings, finding.isUnmet = false

namespace CodesIn

variable {codes more : List Code} {findings others : List Finding}

theorem nil : CodesIn codes [] := List.forall_mem_nil _

theorem append (h : CodesIn codes findings) (next : CodesIn codes others) :
    CodesIn codes (findings ++ others) :=
  List.forall_mem_append.mpr ⟨h, next⟩

theorem singleton {finding : Finding} (h : finding.issue.code ∈ codes) : CodesIn codes [finding] :=
  List.forall_mem_singleton.mpr h

theorem toList {finding : Option Finding}
    (h : ∀ found, finding = some found → found.issue.code ∈ codes) : CodesIn codes finding.toList :=
  fun found member => h found (Option.mem_toList.mp member)

theorem mono (h : CodesIn codes findings) (subset : codes ⊆ more) : CodesIn more findings :=
  fun finding member => subset (h finding member)

theorem filter_eq_self (h : CodesIn codes findings) :
    findings.filter (Finding.hasCode codes) = findings :=
  List.filter_eq_self.mpr fun finding member => List.contains_iff_mem.mpr (h finding member)

theorem filter_eq_nil (h : CodesIn codes findings) (apart : ∀ code ∈ codes, code ∉ more) :
    findings.filter (Finding.hasCode more) = [] :=
  List.filter_eq_nil_iff.mpr fun finding member isKept =>
    apart _ (h finding member) (List.contains_iff_mem.mp isKept)

theorem noneUnmet (h : CodesIn codes findings) (other : .requiredSectionMissing ∉ codes) :
    NoneUnmet findings := by
  intro finding member
  rw [Finding.isUnmet, beq_eq_false_iff_ne]
  intro isCode
  exact other (isCode ▸ h finding member)

end CodesIn

namespace NoneUnmet

variable {findings others : List Finding}

theorem nil : NoneUnmet [] := List.forall_mem_nil _

theorem append (h : NoneUnmet findings) (more : NoneUnmet others) : NoneUnmet (findings ++ others) :=
  List.forall_mem_append.mpr ⟨h, more⟩

theorem singleton {finding : Finding} (h : finding.isUnmet = false) : NoneUnmet [finding] :=
  List.forall_mem_singleton.mpr h

theorem filter_eq (h : NoneUnmet findings) : findings.filter Finding.isUnmet = [] :=
  List.filter_eq_nil_iff.mpr fun finding member => by simp [h finding member]

end NoneUnmet

namespace Block.Tracker

/-- What blocks report. -/
def codes : List Code := [
  .unmatchedKeyword, .unknownVariable, .duplicateVariable, .malformedKeyword, .csvColumnCount,
  .misplacedKeyword]

theorem codesIn_unclosed (frames : List Frame) : CodesIn codes (unclosed frames) := by
  intro finding member
  simp [code_of_mem_unclosed member, codes]

theorem codesIn_close (tracker : Tracker) (closer opener : Keyword) (range : Range) :
    CodesIn codes (tracker.close closer opener range).2 := by
  intro finding member
  simp [code_of_mem_close member, codes]

theorem codesIn_perform (tracker : Tracker) (range : Range) (statement : Statement) :
    CodesIn codes (tracker.perform range statement).2 := by
  cases statement with
  | body keyword => exact .nil
  | loop header =>
    cases header with
    | none => exact .singleton (by simp [Issue.code, codes])
    | some header =>
      simp only [perform, loop]
      split
      · exact .singleton (by simp [Issue.code, codes])
      · exact .nil
  | branch => exact .nil
  | divider keyword =>
    simp only [perform]
    split
    · exact .nil
    · exact .singleton (by simp [Issue.code, codes])
  | declaration keyword name extent =>
    have declared : CodesIn codes (tracker.declare name range).2 := by
      unfold declare
      dsimp only
      split
      · exact .singleton (by simp [Issue.code, codes])
      · exact .nil
    cases extent <;> exact declared
  | malformed keyword expected => exact .singleton (by simp [Issue.code, codes])
  | closing closer opener => exact codesIn_close tracker closer opener range

theorem codesIn_readRow (line : List Char) (number : Nat) (kind : Body.Kind) :
    CodesIn codes (readRow line number kind).2 := by
  intro finding member
  obtain ⟨_, _, -, rfl⟩ := eq_of_mem_readRow member
  simp [Issue.code, codes]

theorem codesIn_step (tracker : Tracker) (line : List Char) (number : Nat) :
    CodesIn codes (tracker.step line number).2 := by
  unfold step read?
  split
  · rw [Option.getD_some]
    unfold readBody
    split
    · exact codesIn_close _ _ _ _
    · exact codesIn_readRow line number _
  · cases Statement.ofLine? line number with
    | none => exact .nil
    | some found => exact codesIn_perform tracker found.2 found.1

theorem noneUnmet_unclosed (frames : List Frame) : NoneUnmet (unclosed frames) :=
  (codesIn_unclosed frames).noneUnmet (by decide)

theorem noneUnmet_step (tracker : Tracker) (line : List Char) (number : Nat) :
    NoneUnmet (tracker.step line number).2 :=
  (codesIn_step tracker line number).noneUnmet (by decide)

end Block.Tracker

namespace Value

/-- What may be wrong with a value. -/
def codes : List Code := [.invalidValue, .deprecatedValue, .settingNotAllowed]

variable {descriptor : Descriptor} {value : String} {issue : Issue}

theorem code_checkEnum (h : checkEnum descriptor value = some issue) : issue.code ∈ codes := by
  simp only [checkEnum] at h
  split at h
  · simp [← Option.some.inj h, Issue.code, codes]
  · rw [Option.ite_none_left_eq_some] at h
    obtain ⟨-, h⟩ := h
    split at h
    · simp [← Option.some.inj h, invalid, Issue.code, codes]
    · split at h
      · simp [← Option.some.inj h, invalid, Issue.code, codes]
      · rw [Option.ite_none_right_eq_some] at h
        simp [← Option.some.inj h.2, Issue.code, codes]

theorem code_checkInterval (h : checkInterval descriptor value = some issue) :
    issue.code ∈ codes := by
  simp only [checkInterval, Option.ite_none_left_eq_some] at h
  obtain ⟨-, h⟩ := h
  split at h
  · simp [← Option.some.inj h, Issue.code, codes]
  · simp [← Option.some.inj h, invalid, Issue.code, codes]

theorem code_check (h : check descriptor value = some issue) : issue.code ∈ codes := by
  have isInvalid (flaw : Option ValueFlaw)
      (isIssue : flaw.map (invalid descriptor value) = some issue) : issue.code ∈ codes := by
    obtain ⟨_, -, rfl⟩ := Option.map_eq_some_iff.mp isIssue
    simp [invalid, Issue.code, codes]
  rw [check, Option.ite_none_left_eq_some] at h
  obtain ⟨-, h⟩ := h
  split at h
  case h_5 => exact code_checkEnum h
  case h_6 => exact code_checkInterval h
  all_goals exact isInvalid _ h

end Value

namespace Rule

/-- What rules report. -/
def codes : List Code := [
  .requiredIf, .ineffectiveSetting, .valueRelation, .colorsThresholdsMismatch, .timespanIgnored]

theorem code_of_mem_findingsOf {view : View} {finding : Finding} (h : finding ∈ findingsOf view) :
    finding.issue.code ∈ codes := by
  rcases mem_findingsOf.mp h with ⟨requirement, -, isFinding⟩ | member
  · rcases Requirement.check_eq_some isFinding with ⟨isCode, -⟩ | ⟨isCode, -⟩ <;> simp [isCode, codes]
  · rcases mem_checkRelations.mp member with ⟨pair, -, isFinding⟩ | isFinding | isFinding | isFinding
    · obtain ⟨-, _, _, _, _, -, -, -, -, -, rfl⟩ := DateOrder.check_eq_some_iff.mp isFinding
      simp [Issue.code, codes]
    · obtain ⟨_, -, -, _, isIssue⟩ := checkGroups_eq_some isFinding
      simp [isIssue, Issue.code, codes]
    · obtain ⟨_, _, -, -, -, -, rfl⟩ := checkColors_eq_some_iff.mp isFinding
      simp [Issue.code, codes]
    · obtain ⟨_, -, rfl⟩ := checkTimespan_eq_some isFinding
      simp [Issue.code, codes]

theorem codesIn_findings (catalog : Catalog) (tree : Section.Tree) :
    CodesIn codes (findings catalog tree) := by
  intro finding member
  obtain ⟨_, _, -, isFinding⟩ := exists_view_of_mem_findings member
  exact code_of_mem_findingsOf isFinding

theorem noneUnmet_findings (catalog : Catalog) (tree : Section.Tree) :
    NoneUnmet (findings catalog tree) :=
  (codesIn_findings catalog tree).noneUnmet (by decide)

end Rule

end ChartLint
