import ChartLint.Proofs.Validation.Rejected

/-!
What is reported line by line. Most codes are reported on the line that they are about, and when it is
read; so the findings of a document that have such codes are those of its lines, one after the other.
-/
namespace ChartLint

namespace Block.Tracker

variable {tracker : Tracker} {line : List Char} {number : Nat} {finding : Finding}

theorem range_of_mem_perform {range : Range} {statement : Statement}
    (member : finding ∈ (tracker.perform range statement).2)
    (isOther : finding.issue.code ≠ .unmatchedKeyword) : finding.range = range := by
  cases statement with
  | body keyword => cases member
  | loop header =>
    cases header with
    | none => exact List.mem_singleton.mp member ▸ rfl
    | some header =>
      simp only [perform, loop] at member
      split at member
      · exact List.mem_singleton.mp member ▸ rfl
      · cases member
  | branch => cases member
  | divider keyword =>
    simp only [perform] at member
    split at member
    · cases member
    · exact List.mem_singleton.mp member ▸ rfl
  | declaration keyword name extent =>
    have declared : finding ∈ (tracker.declare name range).2 := by
      cases extent <;> exact member
    simp only [declare] at declared
    split at declared
    · exact List.mem_singleton.mp declared ▸ rfl
    · cases declared
  | malformed keyword expected => exact List.mem_singleton.mp member ▸ rfl
  | closing closer opener => exact absurd (code_of_mem_close member) isOther

/-- But for blocks that are not closed, what blocks report on a line is about the line. -/
theorem line_of_mem_step (member : finding ∈ (tracker.step line number).2)
    (isOther : finding.issue.code ≠ .unmatchedKeyword) : finding.range.start.line = number := by
  obtain ⟨body, -, isStep⟩ | ⟨-, -, isStep⟩ | ⟨keyword, range, statement, -, reads, isStep⟩ :=
    step_cases tracker line number
  · rw [isStep, readBody] at member
    split at member
    · exact absurd (code_of_mem_close member) isOther
    · obtain ⟨_, _, -, rfl⟩ := eq_of_mem_readRow member
      rfl
  · rw [isStep] at member
    cases member
  · rw [isStep] at member
    obtain ⟨token, isToken, -, rfl⟩ := reads.token
    rw [range_of_mem_perform member isOther]
    exact Statement.line_of_keyword? isToken

end Block.Tracker

namespace Validation

/-- Codes that are reported on the line that they are about, and when it is read. -/
def ownCodes : List Code := [
  .unknownVariable, .duplicateVariable, .malformedKeyword, .csvColumnCount, .misplacedKeyword,
  .settingOutsideSection, .settingSentAsTag, .unknownSetting, .settingNotAllowed, .invalidValue,
  .deprecatedValue, .duplicateSetting, .exclusiveSettings]

/-- Codes that are reported of sections. -/
def sectionCodes : List Code := Section.Stack.rejections ++
  [.deprecatedSection, .requiredSectionMissing, .requiredSettingMissing]

/-- Codes that are reported when a section or the document ends. -/
def endCodes : List Code := sectionCodes ++ Rule.codes ++ [.unmatchedKeyword, .undeclaredAlias]

/-- What a line reports at once, but for what it says of sections. -/
def remarks (catalog : Catalog) (lines : List (List Char)) (number : Nat) : List Finding :=
  let scan := Scan.readLines catalog (lines.take number)
  match lines[number]?, eventAt? lines number with
  | none, _ => []
  | some line, none => (scan.blocks.step line number).2
  | _, some (.header _) => []
  | _, some (.setting line) => (scan.readSetting catalog line).findings.drop scan.findings.length

namespace Scan

variable {catalog : Catalog} {scan : Scan}

theorem codesIn_flush_new (catalog : Catalog) (scan : Scan) :
    ∃ more, CodesIn sectionCodes more ∧
      (scan.flush catalog).findings = scan.findings ++ more := by
  refine ⟨_, fun finding member => ?_, findings_flush catalog scan⟩
  obtain ⟨current, -, isMissing⟩ := List.mem_flatMap.mp member
  rw [(missingSettings_eq catalog scan.stack current finding isMissing).1]
  decide

theorem codesIn_startSection_new (catalog : Catalog) (scan : Scan) (name : String) (range : Range) :
    ∃ more, CodesIn sectionCodes more ∧
      (scan.startSection catalog name range).findings = scan.findings ++ more := by
  unfold startSection Section.Stack.insert
  cases isLevel : scan.stack.accept catalog name with
  | ok level =>
    refine ⟨_, .toList fun finding isFinding => ?_, rfl⟩
    rw [Section.Stack.code_of_unmet? isFinding]
    decide
  | error issue =>
    refine ⟨_, .singleton ?_, rfl⟩
    exact List.mem_append_left _ (Section.Stack.code_mem_rejections isLevel)

theorem codesIn_readHeader_new (catalog : Catalog) (scan : Scan) (header : Line.SectionHeader) :
    ∃ more, CodesIn sectionCodes more ∧
      (scan.readHeader catalog header).findings = scan.findings ++ more := by
  rw [readHeader_eq_startSection]
  obtain ⟨ended, areEnded, isEnded⟩ :=
    codesIn_flush_new catalog (scan.report (deprecation catalog header))
  obtain ⟨started, areStarted, isStarted⟩ := codesIn_startSection_new catalog
    ((scan.report (deprecation catalog header)).flush catalog) (sectionName catalog header) header.range
  have deprecated : CodesIn sectionCodes (deprecation catalog header) :=
    (codesIn_deprecation catalog header).mono (by decide)
  refine ⟨deprecation catalog header ++ ended ++ started, (deprecated.append areEnded).append areStarted,
    ?_⟩
  rw [isStarted, isEnded, findings_report]
  simp only [List.append_assoc]

variable {codes : List Code} (own : ∀ code ∈ codes, code ∈ ownCodes)
include own

/-- What has other codes than those of the lines is left out. -/
theorem filter_eq_nil_of_own {others : List Code} {findings : List Finding} (h : CodesIn others findings)
    (apart : ∀ code ∈ others, code ∉ ownCodes) : findings.filter (Finding.hasCode codes) = [] :=
  h.filter_eq_nil fun code isOther isCode => apart code isOther (own code isCode)

theorem filter_readLines_take (catalog : Catalog) (lines : List (List Char))
    (number : Nat) :
    (readLines catalog (lines.take number)).findings.filter (Finding.hasCode codes) =
      (List.range number).flatMap fun number =>
        (remarks catalog lines number).filter (Finding.hasCode codes) := by
  induction number with
  | zero => simp [readLines]
  | succ number ih =>
    rw [List.range_succ, List.flatMap_append, List.flatMap_singleton, ← ih, readLines_take_succ]
    cases isLine : lines[number]? with
    | none => simp [remarks, isLine]
    | some line =>
      have isEvent := eventAt?_eq catalog isLine
      simp only [remarks, isLine, isEvent]
      generalize readLines catalog (lines.take number) = scan
      rw [readLine_eq]
      cases Event.read? scan.blocks line number with
      | none => exact List.filter_append ..
      | some event =>
        cases event with
        | header header =>
          obtain ⟨more, areSection, isAdded⟩ := codesIn_readHeader_new catalog scan header
          simp only [perform, isAdded, List.filter_append, List.filter_nil]
          rw [filter_eq_nil_of_own own areSection (by decide)]
        | setting setting =>
          obtain ⟨more, -, isAdded⟩ := findings_readSetting catalog scan setting
          simp only [perform, isAdded, List.filter_append, List.drop_left]

/-- Of codes that are reported on their own lines, a document has what its lines report. -/
theorem filter_findings_ofLines (catalog : Catalog) (lines : List (List Char)) :
    (ofLines catalog lines).findings.filter (Finding.hasCode codes) =
      (List.range lines.length).flatMap fun number =>
        (remarks catalog lines number).filter (Finding.hasCode codes) := by
  have onLines := filter_readLines_take own catalog lines lines.length
  rw [List.take_length] at onLines
  obtain ⟨ended, areEnded, isEnded⟩ := codesIn_flush_new catalog (readLines catalog lines)
  have atEnd : CodesIn endCodes (ended ++ (((readLines catalog lines).flush catalog).blocks.finish.2 ++
      ((readLines catalog lines).flush catalog).stack.finish.2.toList ++
        ((readLines catalog lines).flush catalog).undeclaredAliases) ++
      Rule.findings catalog (ofLines catalog lines).tree) := by
    refine ((areEnded.mono (by decide)).append (.append (.append ?_ ?_) ?_)).append
      ((Rule.codesIn_findings catalog _).mono (by decide))
    · intro finding member
      rw [Block.Tracker.code_of_mem_unclosed member]
      decide
    · refine .toList fun finding isFinding => ?_
      rw [Section.Stack.code_of_unmet? isFinding]
      decide
    · intro finding member
      obtain ⟨reference, -, rfl⟩ := List.mem_map.mp member
      simp [Issue.code, endCodes]
  rw [findings_ofLines, unruled, isEnded, List.append_assoc, List.append_assoc, List.filter_append,
    ← List.append_assoc, filter_eq_nil_of_own own atEnd (by decide), List.append_nil, onLines]

omit own in
/-- What a line reports is about the line. -/
theorem line_of_mem_remarks {lines : List (List Char)} {number : Nat} {finding : Finding}
    (member : finding ∈ remarks catalog lines number) (isOwn : finding.issue.code ∈ ownCodes) :
    finding.range.start.line = number := by
  cases isLine : lines[number]? with
  | none => simp [remarks, isLine] at member
  | some line =>
    have isRead := eventAt?_eq catalog isLine
    cases isEvent : eventAt? lines number with
    | none =>
      simp only [remarks, isLine, isEvent] at member
      refine Block.Tracker.line_of_mem_step member fun isUnmatched => ?_
      rw [isUnmatched] at isOwn
      exact absurd isOwn (by decide)
    | some event =>
      cases event with
      | header header => simp [remarks, isLine, isEvent] at member
      | setting setting =>
        obtain ⟨more, areSetting, isAdded⟩ :=
          findings_readSetting catalog (readLines catalog (lines.take number)) setting
        simp only [remarks, isLine, isEvent, isAdded, List.drop_left] at member
        rw [areSetting.range_eq finding member, Event.line_of_setting (isRead.symm.trans isEvent)]

theorem filter_remarks_on (catalog : Catalog) (lines : List (List Char)) (number : Nat)
    (kept : Nat → Bool) :
    ((remarks catalog lines number).filter (Finding.hasCode codes)).filter
        (fun finding => kept finding.range.start.line) =
      if kept number then (remarks catalog lines number).filter (Finding.hasCode codes) else [] := by
  have onLine : ∀ finding ∈ (remarks catalog lines number).filter (Finding.hasCode codes),
      kept finding.range.start.line = kept number := by
    intro finding member
    obtain ⟨isRemark, isCode⟩ := List.mem_filter.mp member
    rw [line_of_mem_remarks isRemark (own _ (List.contains_iff_mem.mp isCode))]
  rw [List.filter_congr onLine]
  split
  case isTrue isKept => simp [isKept]
  case isFalse notKept => simp [notKept]

/-- What a document reports on some of its lines is what these lines report. -/
theorem filter_findings_on (catalog : Catalog) (lines : List (List Char)) (kept : Nat → Bool) :
    (ofLines catalog lines).findings.filter
        (fun finding => kept finding.range.start.line && finding.hasCode codes) =
      (List.range lines.length).flatMap fun number => if kept number then
        (remarks catalog lines number).filter (Finding.hasCode codes) else [] := by
  rw [← List.filter_filter, filter_findings_ofLines own, List.filter_flatMap]
  simp only [filter_remarks_on own]

omit own in
theorem flatMap_range_single {α : Type} (f : Nat → List α) (number stop : Nat) :
    ((List.range stop).flatMap fun other => if other == number then f other else []) =
      if number < stop then f number else [] := by
  induction stop with
  | zero => rfl
  | succ stop ih =>
    rw [List.range_succ, List.flatMap_append, ih, List.flatMap_singleton]
    rcases Nat.lt_trichotomy number stop with before | rfl | after
    · simp [before, Nat.lt_succ_of_lt before, Nat.ne_of_gt before]
    · simp
    · simp [Nat.not_lt.mpr (Nat.le_of_lt after), Nat.not_lt.mpr (Nat.succ_le_of_lt after),
        Nat.ne_of_lt after]

theorem filter_findings_onLine (catalog : Catalog) {lines : List (List Char)}
    {number : Nat} (isLine : number < lines.length) :
    (ofLines catalog lines).findings.filter
        (fun finding => finding.range.start.line == number && finding.hasCode codes) =
      (remarks catalog lines number).filter (Finding.hasCode codes) := by
  rw [filter_findings_on own catalog lines fun other => other == number, flatMap_range_single,
    if_pos isLine]

end Scan

end Validation

end ChartLint
