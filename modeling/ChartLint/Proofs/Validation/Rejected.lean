import ChartLint.Proofs.Comment.Line
import ChartLint.Proofs.Validation.Ruled
import ChartLint.Proofs.Validation.Same

/-!
Rejected sections. Without the lines of a section that the stack rejects, the document has the same tree,
and the same is reported on all other lines, but for aliases. The scan that never sees the section ends
the one before it later, at the next header, and is compared after that.
-/
namespace ChartLint.Validation

namespace Event

def isHeader : Event → Bool
  | header _ => true
  | setting _ => false

def isSetting : Event → Bool
  | header _ => false
  | setting _ => true

theorem body_eq_none {blocks : Block.Tracker} {line : List Char} {number : Nat} {event : Event}
    (h : read? blocks line number = some event) : blocks.body = none := by
  cases isBody : blocks.body with
  | none => rfl
  | some body => simp [read?, Block.Tracker.read?, isBody] at h

theorem line_of_setting {blocks : Block.Tracker} {line : List Char} {number : Nat}
    {found : Line.SettingLine} (h : read? blocks line number = some (.setting found)) :
    found.nameRange.start.line = number := by
  unfold read? ofLine? at h
  split at h
  · cases h
  · split at h
    · cases h
    · obtain ⟨_, isSetting, isFound⟩ := Option.map_eq_some_iff.mp h
      cases isFound
      exact (Line.setting?_eq_some isSetting).1.startLine

end Event

/-- The event of a line of a document. -/
def eventAt? (lines : List (List Char)) (number : Nat) : Option Event :=
  lines[number]?.bind fun line =>
    Event.read? (Block.Tracker.run {} 0 (lines.take number)).1 line number

/-- Whether no header stands between two lines. -/
def continues (lines : List (List Char)) (first number : Nat) : Bool :=
  (List.range number).all fun between =>
    decide (between ≤ first) || !(eventAt? lines between).any Event.isHeader

/-- Whether a line belongs to the section of a header: the header itself, and the settings before the
next header. -/
def inSection (lines : List (List Char)) (first number : Nat) : Bool :=
  number == first ||
    decide (first < number) && (eventAt? lines number).any Event.isSetting &&
      continues lines first number

/-- The stack rejects the section of a header. -/
def Rejects (catalog : Catalog) (lines : List (List Char)) (first : Nat) : Prop :=
  ∃ header issue, eventAt? lines first = some (.header header) ∧
    ((Scan.readLines catalog (lines.take first)).flush catalog).stack.accept catalog
      (Scan.sectionName catalog header) = .error issue

instance (catalog : Catalog) (lines : List (List Char)) (first : Nat) :
    Decidable (Rejects catalog lines first) :=
  match isEvent : eventAt? lines first with
  | some (.header header) =>
    match isAccepted : ((Scan.readLines catalog (lines.take first)).flush catalog).stack.accept catalog
      (Scan.sectionName catalog header) with
    | .error issue => isTrue ⟨header, issue, isEvent, isAccepted⟩
    | .ok _ => isFalse (by grind [Rejects])
  | some (.setting _) => isFalse (by grind [Rejects])
  | none => isFalse (by grind [Rejects])

/-- The same lines but for the section of a header, whose lines are blank. -/
def Cleared (lines others : List (List Char)) (first : Nat) : Prop :=
  others.length ≤ lines.length ∧ ∀ number < lines.length,
    if inSection lines first number then (others[number]?.getD []).all Text.isIndent = true
    else others[number]? = lines[number]?

instance (lines others : List (List Char)) (first : Nat) : Decidable (Cleared lines others first) :=
  inferInstanceAs (Decidable (_ ∧ _))

section Lines

variable {lines others : List (List Char)} {first number : Nat}

theorem continues_self (lines : List (List Char)) (first : Nat) :
    continues lines first (first + 1) = true := by
  simp only [continues, List.all_eq_true, List.mem_range, Nat.lt_succ_iff]
  intro between before
  simp [before]

theorem continues_succ (after : first < number) :
    continues lines first (number + 1) =
      (continues lines first number && !(eventAt? lines number).any Event.isHeader) := by
  simp [continues, List.range_succ, Nat.not_le.mpr after]

theorem inSection_self (lines : List (List Char)) (first : Nat) :
    inSection lines first first = true := by
  simp [inSection]

theorem inSection_of_lt (before : number < first) : inSection lines first number = false := by
  simp [inSection, Nat.ne_of_lt before, Nat.not_lt.mpr (Nat.le_of_lt before)]

theorem inSection_of_gt (after : first < number) :
    inSection lines first number =
      ((eventAt? lines number).any Event.isSetting && continues lines first number) := by
  simp [inSection, Nat.ne_of_gt after, after]

theorem Cleared.getElem?_of_kept (h : Cleared lines others first)
    (isKept : inSection lines first number = false) : others[number]? = lines[number]? := by
  rcases Nat.lt_or_ge number lines.length with isLine | isOut
  · simpa [isKept] using h.2 number isLine
  · rw [List.getElem?_eq_none isOut, List.getElem?_eq_none (Nat.le_trans h.1 isOut)]

theorem Cleared.isIndent (h : Cleared lines others first) (isLine : number < lines.length)
    (isIn : inSection lines first number = true) :
    (others[number]?.getD []).all Text.isIndent = true := by
  simpa [isIn] using h.2 number isLine

theorem Cleared.take_eq (h : Cleared lines others first) : others.take first = lines.take first := by
  apply List.ext_getElem?
  intro number
  rw [List.getElem?_take, List.getElem?_take]
  split
  case isTrue before => exact h.getElem?_of_kept (inSection_of_lt before)
  case isFalse => rfl

end Lines

namespace Scan

variable {catalog : Catalog} {keep : Nat → Bool} {scan other : Scan} {number : Nat}

/-- Outside of bodies, a blank line says nothing. -/
theorem readLine_indent {line : List Char} (noBody : scan.blocks.body = none)
    (isIndent : line.all Text.isIndent = true) : scan.readLine catalog line number = scan := by
  have isEmpty : line.dropWhile Text.isIndent = [] :=
    List.dropWhile_eq_nil_iff.mpr (List.all_eq_true.mp isIndent)
  have unnamed : (Keyword.all.any fun keyword => Text.spells [] keyword.name) = false := by decide
  have noKeyword : Line.keyword? line number = none := by
    simp only [Line.keyword?, isEmpty, List.takeWhile_nil, unnamed, Bool.false_eq_true, if_false]
  have untaken : scan.blocks.read? line number = none := by
    simp [Block.Tracker.read?, noBody, Block.Statement.ofLine?, noKeyword]
  have noHeader : Line.sectionHeader? line number = none := by
    simp [Line.sectionHeader?, isEmpty]
  have noSetting : Line.setting? line number = none := by
    simp [Line.setting?, isEmpty, Line.readName?]
  simp only [readLine, untaken, noHeader, noSetting]

section Step

theorem readLines_take_succ (catalog : Catalog) (lines : List (List Char)) (number : Nat) :
    readLines catalog (lines.take (number + 1)) =
      match lines[number]? with
      | some line => (readLines catalog (lines.take number)).readLine catalog line number
      | none => readLines catalog (lines.take number) := by
  cases isLine : lines[number]? with
  | none => rw [List.take_add_one, isLine, Option.toList_none, List.append_nil]
  | some line =>
    have isLength : (lines.take number).length = number :=
      List.length_take_of_le (Nat.le_of_lt (List.getElem?_eq_some_iff.mp isLine).1)
    rw [List.take_add_one, isLine, Option.toList_some, readLines_concat, isLength]

theorem eventAt?_eq (catalog : Catalog) {lines : List (List Char)} {line : List Char}
    (isLine : lines[number]? = some line) :
    eventAt? lines number =
      Event.read? (readLines catalog (lines.take number)).blocks line number := by
  rw [eventAt?, isLine, Option.bind_some, blocks_readLines]

/-- A tracker that reads a line gives a place to nothing but what it held and what is on the line. -/
theorem places_step {P : Range → Prop} {blocks : Block.Tracker}
    (frames : ∀ frame ∈ blocks.frames, P frame.range) (line : List Char)
    (here : ∀ range : Range, range.start.line = number → P range) :
    Block.Tracker.Places P (blocks.step line number) :=
  .step frames ⟨fun _ isToken => here _ (Line.within_keyword isToken).startLine, fun _ => here _ rfl⟩

/-- A scan before a line: blocks are opened on other lines than the current section. -/
structure Separate (number : Nat) (scan : Scan) : Prop where
  frames : ∀ frame ∈ scan.blocks.frames, frame.range.start.line < number
  current : ∀ current, scan.current = some current → current.range.start.line < number ∧
    ∀ frame ∈ scan.blocks.frames, frame.range.start.line ≠ current.range.start.line

theorem Separate.mono (h : scan.Separate number) {later : Nat} (le : number ≤ later) :
    scan.Separate later where
  frames frame member := Nat.lt_of_lt_of_le (h.frames frame member) le
  current current isCurrent :=
    ⟨Nat.lt_of_lt_of_le (h.current current isCurrent).1 le, (h.current current isCurrent).2⟩

theorem Separate.apart_step (h : scan.Separate number) (line : List Char) {current : Current}
    (isCurrent : scan.current = some current) :
    Block.Tracker.Places (fun range => range.start.line ≠ current.range.start.line)
      (scan.blocks.step line number) := by
  obtain ⟨before, apart⟩ := h.current current isCurrent
  exact places_step apart line fun range isHere => isHere ▸ (Nat.ne_of_lt before).symm

theorem Separate.readLine (h : scan.Separate number) (line : List Char) :
    (scan.readLine catalog line number).Separate (number + 1) := by
  have places : Block.Tracker.Places (fun range => range.start.line < number + 1)
      (scan.blocks.step line number) :=
    places_step (fun frame member => Nat.lt_succ_of_lt (h.frames frame member)) line
      fun _ isHere => Nat.lt_succ_of_le (Nat.le_of_eq isHere)
  refine ⟨blocks_readLine catalog scan line number ▸ places.frames, fun current isCurrent => ?_⟩
  rw [readLine_eq] at isCurrent ⊢
  cases isEvent : Event.read? scan.blocks line number with
  | none =>
    rw [isEvent] at isCurrent
    exact ⟨Nat.lt_succ_of_lt (h.current current isCurrent).1,
      (h.apart_step line isCurrent).frames⟩
  | some event =>
    rw [isEvent] at isCurrent
    cases event with
    | header header =>
      have isLine := Event.line_of_header isEvent
      change (scan.readHeader catalog header).current = some current at isCurrent
      rw [readHeader_eq_startSection] at isCurrent
      obtain rfl := Option.some.inj isCurrent
      refine ⟨Nat.lt_succ_of_le (Nat.le_of_eq isLine), fun frame member => ?_⟩
      change frame ∈ (scan.readHeader catalog header).blocks.frames at member
      rw [blocks_readHeader] at member
      exact Nat.ne_of_lt (isLine ▸ h.frames frame member)
    | setting found =>
      obtain ⟨before, isBefore, -, sameRange, -⟩ :=
        exists_current_of_outline (outline_readSetting catalog scan found) isCurrent
      obtain ⟨earlier, apart⟩ := h.current before isBefore
      rw [← sameRange]
      refine ⟨Nat.lt_succ_of_lt earlier, fun frame member => ?_⟩
      change frame ∈ (scan.readSetting catalog found).blocks.frames at member
      rw [blocks_readSetting] at member
      exact apart frame member

theorem separate_readLines (catalog : Catalog) (lines : List (List Char)) :
    (readLines catalog lines).Separate lines.length := by
  induction lines using List.reverseRecOn with
  | nil => exact ⟨nofun, nofun⟩
  | append_singleton lines line ih =>
    rw [readLines_concat, List.length_append, List.length_singleton]
    exact ih.readLine line

end Step

section Passed

/-- Ending a section commutes with what is reported on other lines. -/
theorem same_flush_report (keep : Nat → Bool) (blocks : Block.Tracker) {more : List Finding}
    (apart : ∀ current, scan.current = some current → ∀ finding ∈ more,
      finding.range.start.line ≠ current.range.start.line) :
    Same keep ({ scan.flush catalog with blocks }.report more)
      (({ scan with blocks }.report more).flush catalog) := by
  have findings : Alike keep ({ scan.flush catalog with blocks }.report more).findings
      (({ scan with blocks }.report more).flush catalog).findings := by
    rw [findings_flush, findings_report, findings_report, findings_flush, List.append_assoc,
      List.append_assoc]
    -- What the section lacks is reported at its header.
    refine (Alike.refl keep _).append (.swap keep fun other isOther finding member => ?_)
    obtain ⟨current, isCurrent, isMissing⟩ := List.mem_flatMap.mp isOther
    rw [(missingSettings_eq catalog _ current other isMissing).2]
    exact (apart current (Option.mem_toList.mp isCurrent) finding member).symm
  refine ⟨?_, ?_, ?_, ?_, findings⟩
  all_goals
    simp only [flush, report]
    split
    · rfl
    · split <;> rfl

theorem range_deprecation (catalog : Catalog) (header : Line.SectionHeader) :
    ∀ finding ∈ deprecation catalog header, finding.range = header.range := by
  unfold deprecation
  split
  · exact List.forall_mem_nil _
  · exact List.forall_mem_singleton.mpr rfl

/-- A scan in a rejected section, and one that did not see it and is still in the section before. -/
structure Passed (catalog : Catalog) (keep : Nat → Bool) (scan other : Scan) : Prop where
  rest : Same keep { scan with current := none } (other.flush catalog)
  rejected : ∃ current, scan.current = some current ∧ current.accepted = false ∧
    keep current.range.start.line = false

namespace Passed

theorem blocks_eq (h : Passed catalog keep scan other) : scan.blocks = other.blocks :=
  h.rest.blocks.trans (ended_flush catalog other).blocks

theorem flush (h : Passed catalog keep scan other) :
    Same keep (scan.flush catalog) (other.flush catalog) := by
  obtain ⟨current, isCurrent, rejected, dropped⟩ := h.rejected
  have isFlushed : scan.flush catalog =
      { scan with current := none }.report (missingSettings catalog scan.stack current) := by
    simp [Scan.flush, isCurrent, rejected]
  rw [isFlushed]
  refine { h.rest with findings := h.rest.findings.append_dropped fun finding member => ?_ }
  rw [(missingSettings_eq catalog _ current finding member).2]
  exact dropped

theorem report (h : Passed catalog keep scan other) (blocks : Block.Tracker) {more : List Finding}
    (apart : ∀ current, other.current = some current → ∀ finding ∈ more,
      finding.range.start.line ≠ current.range.start.line) :
    Passed catalog keep ({ scan with blocks }.report more) ({ other with blocks }.report more) := by
  have same : Same keep ({ scan with blocks, current := none }.report more)
      ({ other.flush catalog with blocks }.report more) :=
    { h.rest with blocks := rfl, findings := h.rest.findings.append (.refl keep more) }
  exact ⟨same.trans (same_flush_report keep blocks apart), h.rejected⟩

/-- The settings of a rejected section are checked and do nothing else. -/
theorem readSetting (h : Passed catalog keep scan other) {line : Line.SettingLine}
    (dropped : keep line.nameRange.start.line = false) :
    Passed catalog keep (scan.readSetting catalog line) other := by
  obtain ⟨current, isCurrent, rejected, isDropped⟩ := h.rejected
  have reported {findings : List Finding} (found : SettingFindings line.nameRange findings) :
      Alike keep (scan.findings ++ findings) (other.flush catalog).findings := by
    apply h.rest.findings.append_dropped
    intro finding member
    rw [found.range_eq finding member]
    exact dropped
  have effect := settingEffect_readSetting catalog scan line
  generalize scan.readSetting catalog line = after at effect
  cases effect with
  | passed _ found => exact ⟨{ h.rest with findings := reported found }, h.rejected⟩
  | repeated isOther _ _ _ _ found =>
    obtain rfl := Option.some.inj (isCurrent.symm.trans isOther)
    exact ⟨{ h.rest with findings := reported found }, _, rfl, rejected, isDropped⟩
  | declared isOther _ _ _ _ found =>
    obtain rfl := Option.some.inj (isCurrent.symm.trans isOther)
    refine ⟨⟨?_, ?_, ?_, h.rest.current, ?_⟩, _, rfl, rejected, isDropped⟩
    · exact (stack_note_of_other (by simp [rejected])).trans h.rest.stack
    · exact (tree_note ..).trans h.rest.tree
    · exact (blocks_note ..).trans h.rest.blocks
    · dsimp only
      rw [note_rest.1]
      exact reported found

theorem readHeader (h : Passed catalog keep scan other) (header : Line.SectionHeader)
    (apart : ∀ current, other.current = some current →
      header.range.start.line ≠ current.range.start.line) :
    Same keep (scan.readHeader catalog header) (other.readHeader catalog header) := by
  have isScan : { scan with blocks := other.blocks } = scan := by rw [← h.blocks_eq]
  have reported : Passed catalog keep ({ scan with blocks := other.blocks }.report
      (deprecation catalog header)) (other.report (deprecation catalog header)) := by
    refine h.report other.blocks fun current isCurrent finding member => ?_
    rw [range_deprecation catalog header finding member]
    exact apart current isCurrent
  rw [isScan] at reported
  rw [readHeader_eq_startSection, readHeader_eq_startSection]
  exact reported.flush.startSection catalog _ _

theorem of_rejected (coherent : Coherent catalog number scan) {header : Line.SectionHeader}
    (isLine : header.range.start.line = number) (dropped : keep number = false) {issue : Issue}
    (isIssue : (scan.flush catalog).stack.accept catalog (sectionName catalog header) =
      .error issue) : Passed catalog keep (scan.readHeader catalog header) scan := by
  subst isLine
  have reported : Same keep (scan.report (deprecation catalog header)) scan := by
    refine ⟨rfl, rfl, rfl, rfl, (Alike.refl keep _).append_dropped fun finding member => ?_⟩
    rw [range_deprecation catalog header finding member]
    exact dropped
  have ended := reported.flush catalog
  rw [readHeader_eq_startSection,
    startSection_of_rejected (ended.stack ▸ isIssue) (coherent.earlier_flush _ rfl)]
  refine ⟨⟨ended.stack, ended.tree, ended.blocks, (ended_flush catalog scan).current.symm, ?_⟩,
    _, rfl, rfl, dropped⟩
  exact ended.findings.append_dropped (List.forall_mem_singleton.mpr dropped)

section Line

variable (h : Passed catalog keep scan other) {line : List Char}
include h

theorem readLine_of_none (separate : other.Separate number)
    (noEvent : Event.read? scan.blocks line number = none) :
    Passed catalog keep (scan.readLine catalog line number)
      (other.readLine catalog line number) := by
  have apart (current : Current) (isCurrent : other.current = some current) :=
    (separate.apart_step line isCurrent).findings
  rw [readLine_eq, readLine_eq, ← h.blocks_eq, noEvent]
  exact h.report _ (h.blocks_eq ▸ apart)

theorem readLine_of_header (separate : other.Separate number) {header : Line.SectionHeader}
    (isHeader : Event.read? scan.blocks line number = some (.header header)) :
    Same keep (scan.readLine catalog line number) (other.readLine catalog line number) := by
  have isLine := Event.line_of_header isHeader
  rw [readLine_eq, readLine_eq, ← h.blocks_eq, isHeader]
  apply h.readHeader
  intro current isCurrent
  rw [isLine]
  exact (Nat.ne_of_lt (separate.current current isCurrent).1).symm

theorem readLine_of_setting (dropped : keep number = false) {found : Line.SettingLine}
    (isSetting : Event.read? scan.blocks line number = some (.setting found)) :
    Passed catalog keep (scan.readLine catalog line number) other := by
  have isLine := Event.line_of_setting isSetting
  rw [readLine_eq, isSetting]
  exact h.readSetting (isLine ▸ dropped)

end Line

end Passed

end Passed

section Run

variable {lines others : List (List Char)} {first : Nat}

theorem readLines_take_of_indent
    (noBody : (readLines catalog (others.take number)).blocks.body = none)
    (isIndent : (others[number]?.getD []).all Text.isIndent = true) :
    readLines catalog (others.take (number + 1)) = readLines catalog (others.take number) := by
  rw [readLines_take_succ]
  split
  case h_1 line isLine =>
    rw [isLine, Option.getD_some] at isIndent
    exact readLine_indent noBody isIndent
  case h_2 => rfl

theorem separate_take (catalog : Catalog) (lines : List (List Char)) (number : Nat) :
    (readLines catalog (lines.take number)).Separate number :=
  (separate_readLines catalog _).mono (List.length_take_le number lines)

/-- After the header of a rejected section, the scan of the cleared lines is still before it. -/
theorem passed_of_rejects (rejects : Rejects catalog lines first)
    (cleared : Cleared lines others first) :
    Passed catalog (fun line => !inSection lines first line)
      (readLines catalog (lines.take (first + 1)))
      (readLines catalog (others.take (first + 1))) := by
  obtain ⟨header, issue, isHeader, isIssue⟩ := rejects
  obtain ⟨line, isLine, -⟩ := Option.bind_eq_some_iff.mp isHeader
  have isIn := (List.getElem?_eq_some_iff.mp isLine).1
  rw [eventAt?_eq catalog isLine] at isHeader
  have isIndent := cleared.isIndent isIn (inSection_self lines first)
  rw [readLines_take_of_indent (cleared.take_eq ▸ Event.body_eq_none isHeader) isIndent,
    cleared.take_eq, readLines_take_succ, isLine]
  dsimp only
  rw [readLine_eq, isHeader]
  have coherent := readLines_coherent catalog (lines.take first)
  rw [List.length_take_of_le (Nat.le_of_lt isIn)] at coherent
  exact .of_rejected coherent (Event.line_of_header isHeader) (by simp [inSection_self]) isIssue

/-- Before a line, the scan of the cleared lines is in the section before the rejected one, and from the
next header on the two scans agree. -/
def Rejoins (catalog : Catalog) (lines others : List (List Char)) (first number : Nat) : Prop :=
  let keep line := !inSection lines first line
  let scan := readLines catalog (lines.take number)
  let other := readLines catalog (others.take number)
  if continues lines first number then Passed catalog keep scan other else Same keep scan other

theorem Rejoins.succ_of_same (cleared : Cleared lines others first) (after : first < number)
    (isOver : continues lines first number = false)
    (h : Rejoins catalog lines others first number) :
    Rejoins catalog lines others first (number + 1) := by
  have isKept : inSection lines first number = false := by
    rw [inSection_of_gt after, isOver, Bool.and_false]
  simp only [Rejoins, continues_succ after, isOver, Bool.false_and, Bool.false_eq_true,
    if_false, readLines_take_succ, cleared.getElem?_of_kept isKept] at h ⊢
  cases lines[number]? with
  | none => exact h
  | some line => exact h.readLine catalog line number

theorem Rejoins.succ_of_passed (cleared : Cleared lines others first) (after : first < number)
    (isOpen : continues lines first number = true)
    (h : Rejoins catalog lines others first number) :
    Rejoins catalog lines others first (number + 1) := by
  have isKept (noSetting : (eventAt? lines number).any Event.isSetting = false) :
      others[number]? = lines[number]? := by
    apply cleared.getElem?_of_kept
    rw [inSection_of_gt after, noSetting, Bool.false_and]
  simp only [Rejoins, isOpen, if_true] at h
  simp only [Rejoins, continues_succ after, isOpen, Bool.true_and]
  have separate := separate_take catalog others number
  cases isLine : lines[number]? with
  | none =>
    have noEvent : eventAt? lines number = none := by rw [eventAt?, isLine, Option.bind_none]
    have isOther := (isKept (by rw [noEvent, Option.any_none])).trans isLine
    simpa [noEvent, readLines_take_succ, isLine, isOther] using h
  | some line =>
    have isEvent := eventAt?_eq catalog isLine
    cases isRead : Event.read? (readLines catalog (lines.take number)).blocks line number with
    | none =>
      have noEvent := isEvent.trans isRead
      have isOther := (isKept (by rw [noEvent, Option.any_none])).trans isLine
      simpa [noEvent, readLines_take_succ, isLine, isOther] using h.readLine_of_none separate isRead
    | some event =>
      rw [isRead] at isEvent
      cases event with
      | header header =>
        have isOther := (isKept (by rw [isEvent]; rfl)).trans isLine
        simpa [isEvent, Event.isHeader, readLines_take_succ, isLine, isOther] using
          h.readLine_of_header separate isRead
      | setting found =>
        have isIn : inSection lines first number = true := by
          rw [inSection_of_gt after, isEvent, isOpen]
          rfl
        have isIndent := cleared.isIndent (List.getElem?_eq_some_iff.mp isLine).1 isIn
        -- A line with an event is in no body, where a blank line would be a row.
        have noBody := h.blocks_eq ▸ Event.body_eq_none isRead
        rw [readLines_take_of_indent noBody isIndent, readLines_take_succ, isLine]
        simpa [isEvent, Event.isHeader] using h.readLine_of_setting (by simp [isIn]) isRead

theorem rejoins (rejects : Rejects catalog lines first) (cleared : Cleared lines others first)
    (after : first + 1 ≤ number) : Rejoins catalog lines others first number := by
  induction number, after using Nat.le_induction with
  | base =>
    rw [Rejoins, if_pos (continues_self lines first)]
    exact passed_of_rejects rejects cleared
  | succ number after ih =>
    cases isOpen : continues lines first number with
    | true => exact ih.succ_of_passed cleared after isOpen
    | false => exact ih.succ_of_same cleared after isOpen

/-- With all sections ended, the two scans agree. -/
theorem same_flush_readLines (rejects : Rejects catalog lines first)
    (cleared : Cleared lines others first) :
    Same (fun line => !inSection lines first line) ((readLines catalog lines).flush catalog)
      ((readLines catalog others).flush catalog) := by
  have all := rejoins rejects cleared (Nat.le_add_right (first + 1) lines.length)
  rw [Rejoins, List.take_of_length_le (Nat.le_add_left ..),
    List.take_of_length_le (Nat.le_trans cleared.1 (Nat.le_add_left ..))] at all
  split at all
  · exact all.flush
  · exact all.flush catalog

/-- Scans that agree with all sections ended find the same, but for aliases. -/
theorem Same.onLine_ofLines
    (same : Same keep ((readLines catalog lines).flush catalog)
      ((readLines catalog others).flush catalog)) {p : Finding → Bool}
    (isKept : ∀ finding, p finding = true → keep finding.range.start.line = true)
    (noAlias : ∀ name range, p ⟨.undeclaredAlias name, range⟩ = false) (line : Nat) :
    onLine line ((ofLines catalog lines).findings.filter p) =
      onLine line ((ofLines catalog others).findings.filter p) := by
  have noAliases (scan : Scan) : scan.undeclaredAliases.filter p = [] := by
    refine List.filter_eq_nil_iff.mpr fun finding member => ?_
    obtain ⟨reference, -, rfl⟩ := List.mem_map.mp member
    rw [noAlias]
    exact Bool.false_ne_true
  simp only [findings_ofLines, unruled, tree_ofLines, same.tree, same.stack, same.blocks,
    List.filter_append, noAliases, List.append_nil]
  simp only [← List.filter_append]
  exact ((same.findings.append (.refl keep _)).append (.refl keep _)).filter isKept line

end Run

end Scan

/-- Whether something is reported elsewhere than in the section of a header, and not of an alias. -/
def isElsewhere (lines : List (List Char)) (first : Nat) (diagnostic : Diagnostic) : Bool :=
  !inSection lines first diagnostic.range.start.line &&
    diagnostic.id != Code.undeclaredAlias.id

/-- A rejected section leaves nothing behind: with its lines blank, the document has the same tree and
the same is reported elsewhere. -/
theorem rejected_leaves_nothing (catalog : Catalog) {text other : String} {first : Nat}
    (plain : Comment.blank text.toList = text.toList)
    (rejects : Rejects catalog (Text.lines text.toList) first)
    (cleared : Cleared (Text.lines text.toList) (Text.lines other.toList) first) :
    (validate catalog other).tree = (validate catalog text).tree ∧
      (validate catalog other).diagnostics.filter (isElsewhere (Text.lines text.toList) first) =
        (validate catalog text).diagnostics.filter
          (isElsewhere (Text.lines text.toList) first) := by
  have stillPlain : Comment.blank other.toList = other.toList := by
    refine Comment.blank_eq_self_of_lines plain fun number line isLine => ?_
    cases isIn : inSection (Text.lines text.toList) first number with
    | false => exact .inl (cleared.getElem?_of_kept isIn ▸ isLine)
    | true =>
      have isShort := Nat.lt_of_lt_of_le (List.getElem?_eq_some_iff.mp isLine).1 cleared.1
      have isIndent := cleared.isIndent isShort isIn
      rw [isLine, Option.getD_some] at isIndent
      exact .inr isIndent
  have same := Scan.same_flush_readLines rejects cleared
  rw [validate, validate, plain, stillPlain]
  refine ⟨same.tree.symm, ?_⟩
  rw [diagnostics, diagnostics, List.filter_map, List.filter_map]
  refine congrArg _ (filter_ofScan_eq fun line => ?_)
  refine (same.onLine_ofLines (fun finding isKept => ?_) (fun name range => ?_) line).symm
  · exact (Bool.and_eq_true_iff.mp isKept).1
  · simp [isElsewhere, Finding.diagnostic, Issue.code]

/-- Sections of three levels with titles. -/
def titled : Catalog :=
  match Catalog.ofSource {
    settings := [{ displayName := "title" }]
    sectionDepth := [("configuration", 0), ("group", 1), ("widget", 2)] } with
  | .ok catalog => catalog
  | .error _ => {}

theorem rejected_leaves_nothing_widget :
    let text := "[configuration]\n[widget]\ntitle = a\nif x\nunit = b\nendif\n[group]\nunit = c"
    let other := "[configuration]\n\n \nif x\n\nendif\n[group]\nunit = c"
    let lines := Text.lines text.toList
    (Comment.blank text.toList = text.toList ∧ Rejects titled lines 1 ∧
      Cleared lines (Text.lines other.toList) 1) ∧
      (validate titled other).tree = (validate titled text).tree ∧
      (validate titled other).diagnostics.filter (isElsewhere lines 1) =
        (validate titled text).diagnostics.filter (isElsewhere lines 1) := by
  intro text other lines
  have evaluated : Comment.blank text.toList = text.toList ∧ Rejects titled lines 1 ∧
      Cleared lines (Text.lines other.toList) 1 := by
    decide +kernel
  obtain ⟨plain, rejects, cleared⟩ := evaluated
  exact ⟨⟨plain, rejects, cleared⟩, rejected_leaves_nothing titled plain rejects cleared⟩

end ChartLint.Validation
