import ChartLint.Proofs.Section.Owed
import ChartLint.Proofs.Validation.Event

/-!
Two scans of which the one holds a widget that has to hold placeholders and the other does not. As long
as they read the same lines they accept the same sections and report the same child sections as missing,
unless the one reports the placeholders.
-/
namespace ChartLint

open Section (Frame Stack)

/-- What two scans report of child sections: the same, unless the one says that a child section is
missing from the section of a debt. The other never says so. -/
structure Agree (child : String) (debt : Option Range) (findings others : List Finding) : Prop where
  same : findings.filter Finding.isUnmet = others.filter Finding.isUnmet ∨
    ∃ finding ∈ findings, finding.Owes child debt
  spare : ∀ finding ∈ others, ¬ finding.Owes child debt

theorem Finding.Owes.isUnmet {child : String} {debt : Option Range} {finding : Finding}
    (h : finding.Owes child debt) : finding.isUnmet = true := by
  have lacks := h.2
  unfold Issue.lacks at lacks
  split at lacks
  case h_1 isIssue => simp [Finding.isUnmet, isIssue, Issue.code]
  case h_2 => cases lacks

namespace Agree

variable {child : String} {debt : Option Range} {findings others more rest : List Finding}

theorem append (h : Agree child debt findings others) (next : Agree child debt more rest) :
    Agree child debt (findings ++ more) (others ++ rest) := by
  constructor
  · rcases h.same with same | ⟨finding, member, owes⟩
    · rcases next.same with nextSame | ⟨finding, member, owes⟩
      · exact .inl (by rw [List.filter_append, List.filter_append, same, nextSame])
      · exact .inr ⟨finding, List.mem_append_right _ member, owes⟩
    · exact .inr ⟨finding, List.mem_append_left _ member, owes⟩
  · exact List.forall_mem_append.mpr ⟨h.spare, next.spare⟩

theorem of_noneUnmet (h : NoneUnmet findings) (next : NoneUnmet others) :
    Agree child debt findings others where
  same := .inl (by rw [h.filter_eq, next.filter_eq])
  spare finding member owes := by
    cases (next finding member).symm.trans owes.isUnmet

theorem unmet? {frames otherFrames : List Frame}
    (h : List.Forall₂ (Frame.Alike child debt) frames otherFrames) :
    Agree child debt (Stack.unmet? frames).toList (Stack.unmet? otherFrames).toList := by
  obtain ⟨same, spare⟩ := Stack.unmet?_alike h
  refine ⟨same.imp ?_ ?_, fun finding member => ?_⟩
  · intro same
    rw [same]
  · rintro ⟨finding, isFinding, owes⟩
    exact ⟨finding, Option.mem_toList.mpr isFinding, owes⟩
  · exact spare finding (Option.mem_toList.mp member)

end Agree

namespace Validation

/-- Two current sections that agree in what they declare. That of the debt has both of the settings
that decide on its child sections. -/
structure Current.Alike (debt : Option Range) (current other : Current) : Prop where
  name : current.name = other.name
  range : current.range = other.range
  accepted : current.accepted = other.accepted
  declares : ∀ name, current.declares name = other.declares name
  settled : debt = some other.range → other.declares "type" = true ∧ other.declares "url" = true

namespace Scan

theorem noneUnmet_rejected {catalog : Catalog} {stack : Stack} {name : String} {issue : Issue}
    (isIssue : stack.accept catalog name = .error issue) (range : Range) :
    NoneUnmet [⟨issue, range⟩] := by
  apply NoneUnmet.singleton
  have member := Stack.code_mem_rejections isIssue
  simp only [Stack.rejections, List.mem_cons, List.not_mem_nil, or_false] at member
  rcases member with isCode | isCode | isCode <;> simp [Finding.isUnmet, isCode]

/-- Settings that are noted keep frames alike. The frame of the debt does not change any more. -/
theorem alike_noted (catalog : Catalog) {child : String} {debt : Option Range} {frame other : Frame}
    (h : frame.Alike child debt other) {name : String} (value : String)
    (isOther : debt = some other.range → name ≠ "type" ∧ name ≠ "url") :
    (noted catalog name value frame).Alike child debt (noted catalog name value other) := by
  have entry := entry_noted catalog name value frame
  have otherEntry := entry_noted catalog name value other
  have sameName : (noted catalog name value frame).name = (noted catalog name value other).name :=
    (congrArg Section.Entry.name entry).trans
      (h.name.trans (congrArg Section.Entry.name otherEntry).symm)
  have keeps : (noted catalog name value other).range = other.range :=
    congrArg Section.Entry.range otherEntry
  have sameRange : (noted catalog name value frame).range = (noted catalog name value other).range :=
    (congrArg Section.Entry.range entry).trans (h.range.trans keeps.symm)
  by_cases isDebt : debt = some other.range
  · obtain ⟨noType, noUrl⟩ := isOther isDebt
    simpa [noted, noType, noUrl] using h
  · have same := h.same isDebt
    rw [← keeps] at isDebt
    refine ⟨sameName, sameRange, fun _ => ?_, fun found => absurd found isDebt,
      fun found => absurd found isDebt⟩
    unfold noted
    split
    · cases catalog.requirementsOfWidget? value with
      | some options => rfl
      | none => exact same
    · split
      · simp only [Frame.require, same]
      · exact same

structure Paired (debt : Option Range) (scan other : Scan) : Prop where
  blocks : scan.blocks = other.blocks
  frames : List.Forall₂ (Frame.Alike "placeholders" debt) scan.stack.frames other.stack.frames
  current : Option.Rel (Current.Alike debt) scan.current other.current
  findings : Agree "placeholders" debt scan.findings other.findings

namespace Paired

variable {catalog : Catalog} {debt : Option Range} {scan other : Scan}

theorem report (h : Paired debt scan other) {findings others : List Finding}
    (agree : Agree "placeholders" debt findings others) :
    Paired debt (scan.report findings) (other.report others) where
  blocks := h.blocks
  frames := h.frames
  current := h.current
  findings := h.findings.append agree

theorem current_cases (h : Paired debt scan other) :
    scan.current = none ∧ other.current = none ∨
      ∃ current otherCurrent, scan.current = some current ∧ other.current = some otherCurrent ∧
        current.Alike debt otherCurrent := by
  have alike := h.current
  generalize scan.current = current, other.current = otherCurrent at alike
  cases alike with
  | none => exact .inl ⟨rfl, rfl⟩
  | some alike => exact .inr ⟨_, _, rfl, rfl, alike⟩

theorem flush (catalog : Catalog) (h : Paired debt scan other) :
    Paired debt (scan.flush catalog) (other.flush catalog) := by
  have ended := ended_flush catalog scan
  have otherEnded := ended_flush catalog other
  obtain ⟨findings, quiet, isFindings⟩ := ended.findings
  obtain ⟨others, otherQuiet, areOthers⟩ := otherEnded.findings
  refine ⟨?_, ?_, ?_, ?_⟩
  · rw [ended.blocks, otherEnded.blocks, h.blocks]
  · have rejected (noneAccepted : ∀ current, scan.current = some current → current.accepted = false)
        (otherNone : ∀ current, other.current = some current → current.accepted = false) :
        List.Forall₂ (Frame.Alike "placeholders" debt) (scan.flush catalog).stack.frames
          (other.flush catalog).stack.frames := by
      rw [(flush_rejected catalog noneAccepted).1, (flush_rejected catalog otherNone).1]
      exact h.frames
    obtain ⟨noCurrent, noOther⟩ | ⟨current, otherCurrent, isCurrent, isOther, alike⟩ :=
      h.current_cases
    · exact rejected (by simp [noCurrent]) (by simp [noOther])
    · cases accepted : current.accepted with
      | true =>
        rw [(flush_accepted catalog isCurrent accepted).1,
          (flush_accepted catalog isOther (alike.accepted ▸ accepted)).1]
        exact Stack.addSettings_alike h.frames _ _
      | false =>
        have otherRejected := alike.accepted ▸ accepted
        exact rejected (by simp [isCurrent, accepted]) (by simp [isOther, otherRejected])
  · rw [ended.current, otherEnded.current]
    exact .none
  · rw [isFindings, areOthers]
    exact h.findings.append (.of_noneUnmet quiet otherQuiet)

theorem startSection (h : Paired debt scan other) (name : String) {range : Range}
    (isOther : debt ≠ some range)
    (earlier : ∀ open_ ∈ scan.stack.ranges, open_.start.line < range.start.line)
    (otherEarlier : ∀ open_ ∈ other.stack.ranges, open_.start.line < range.start.line) :
    Paired debt (scan.startSection catalog name range) (other.startSection catalog name range) := by
  have started (accepted : Bool) : Option.Rel (Current.Alike debt)
      (some { name, range, accepted }) (some { name, range, accepted }) :=
    .some ⟨rfl, rfl, rfl, fun _ => rfl, fun isDebt => absurd isDebt isOther⟩
  have sameAccept := Stack.accept_alike catalog h.frames name
  cases isLevel : other.stack.accept catalog name with
  | ok level =>
    rw [startSection_of_accepted (sameAccept.trans isLevel), startSection_of_accepted isLevel]
    have opened : Paired debt
        { scan with
          stack := (scan.stack.openAt catalog name range level).1
          current := some { name, range, accepted := true } }
        { other with
          stack := (other.stack.openAt catalog name range level).1
          current := some { name, range, accepted := true } } :=
      ⟨h.blocks, Stack.openAt_alike catalog h.frames name isOther level, started true, h.findings⟩
    apply opened.report
    rw [Stack.openAt, Stack.openAt, Stack.size_of_alike h.frames]
    exact .unmet? (List.forall₂_take _ h.frames)
  | error issue =>
    rw [startSection_of_rejected (sameAccept.trans isLevel) earlier,
      startSection_of_rejected isLevel otherEarlier]
    have kept : Paired debt { scan with current := some { name, range, accepted := false } }
        { other with current := some { name, range, accepted := false } } :=
      ⟨h.blocks, h.frames, started false, h.findings⟩
    have quiet := noneUnmet_rejected isLevel range
    exact kept.report (.of_noneUnmet quiet quiet)

theorem readHeader (h : Paired debt scan other) {number : Nat}
    (coherent : Coherent catalog number scan) (otherCoherent : Coherent catalog number other)
    (before : ∀ range, debt = some range → range.start.line < number) {header : Line.SectionHeader}
    (isLine : header.range.start.line = number) :
    Paired debt (scan.readHeader catalog header) (other.readHeader catalog header) := by
  obtain ⟨findings, quiet, isRead⟩ := readHeader_eq catalog scan header
  obtain ⟨others, otherQuiet, isOtherRead⟩ := readHeader_eq catalog other header
  have flushed := (h.report (.of_noneUnmet quiet otherQuiet)).flush catalog
  have isOther : debt ≠ some header.range := fun isDebt => Nat.ne_of_lt (before _ isDebt) isLine
  rw [isRead, isOtherRead]
  exact flushed.startSection (sectionName catalog header) isOther
    (coherent.earlier_flush findings isLine) (otherCoherent.earlier_flush others isLine)

theorem note (h : Paired debt scan other) (follows : scan.Follows catalog)
    (otherFollows : other.Follows catalog) {current otherCurrent : Current}
    (isCurrent : scan.current = some current) (isOther : other.current = some otherCurrent)
    (alike : current.Alike debt otherCurrent) {setting otherSetting : Setting}
    (sameName : setting.name = otherSetting.name) (sameValue : setting.value = otherSetting.value)
    (isNew : otherCurrent.declares otherSetting.name = false) (column otherColumn : Nat) :
    List.Forall₂ (Frame.Alike "placeholders" debt)
      (scan.note catalog current setting column).stack.frames
      (other.note catalog otherCurrent otherSetting otherColumn).stack.frames := by
  by_cases isWidget : otherCurrent.accepted = true ∧ otherCurrent.name = "widget"
  · obtain ⟨accepted, isName⟩ := isWidget
    have isAccepted := alike.accepted.trans accepted
    have isCurrentName := alike.name.trans isName
    obtain ⟨frame, outer, isFrames, frameName, -⟩ := follows.exists_top isCurrent isAccepted
    obtain ⟨otherFrame, otherOuter, areFrames, otherName, otherRange⟩ :=
      otherFollows.exists_top isOther accepted
    have frames := h.frames
    rw [isFrames, areFrames, List.forall₂_cons] at frames
    rw [frames_note isFrames (frameName.trans isCurrentName) isAccepted isCurrentName,
      frames_note areFrames (otherName.trans isName) accepted isName, sameName, sameValue]
    refine .cons (alike_noted catalog frames.1 _ fun isDebt => ?_) frames.2
    -- The section of the debt declares both settings already.
    obtain ⟨isType, isUrl⟩ := alike.settled (otherRange ▸ isDebt)
    constructor
    · rintro same
      rw [same, isType] at isNew
      cases isNew
    · rintro same
      rw [same, isUrl] at isNew
      cases isNew
  · rw [stack_note_of_other isWidget,
      stack_note_of_other (by rwa [alike.accepted, alike.name])]
    exact h.frames

theorem readSetting (h : Paired debt scan other) (follows : scan.Follows catalog)
    (otherFollows : other.Follows catalog) (line : Line.SettingLine) :
    Paired debt (scan.readSetting catalog line) (other.readSetting catalog line) := by
  have effect := settingEffect_readSetting catalog scan line
  have otherEffect := settingEffect_readSetting catalog other line
  have isBlocks := (blocks_readSetting catalog scan line).trans
    (h.blocks.trans (blocks_readSetting catalog other line).symm)
  generalize scan.readSetting catalog line = after at effect isBlocks
  generalize other.readSetting catalog line = otherAfter at otherEffect isBlocks
  obtain ⟨noCurrent, noOther⟩ | ⟨current, otherCurrent, isCurrent, isOther, alike⟩ := h.current_cases
  · obtain ⟨findings, quiet, rfl⟩ := effect.exists_passed (by simp [noCurrent])
    obtain ⟨others, otherQuiet, rfl⟩ := otherEffect.exists_passed (by simp [noOther])
    exact h.report (.of_noneUnmet quiet otherQuiet)
  · have sameRecorded : recorded? catalog current.name line =
        recorded? catalog otherCurrent.name line := by
      rw [alike.name]
    cases isRecorded : recorded? catalog otherCurrent.name line with
    | none =>
      obtain ⟨findings, quiet, rfl⟩ :=
        effect.exists_passed (by simp [isCurrent, sameRecorded, isRecorded])
      obtain ⟨others, otherQuiet, rfl⟩ := otherEffect.exists_passed (by simp [isOther, isRecorded])
      exact h.report (.of_noneUnmet quiet otherQuiet)
    | some descriptor =>
      have isAlsoRecorded := sameRecorded.trans isRecorded
      cases isDeclared : otherCurrent.declares descriptor.name with
      | true =>
        obtain ⟨settings, findings, keeps, quiet, rfl⟩ := effect.exists_repeated isCurrent
          isAlsoRecorded ((alike.declares _).trans isDeclared)
        obtain ⟨otherSettings, others, otherKeeps, otherQuiet, rfl⟩ :=
          otherEffect.exists_repeated isOther isRecorded isDeclared
        have next : Current.Alike debt { current with settings }
            { otherCurrent with settings := otherSettings } := by
          refine ⟨alike.name, alike.range, alike.accepted, fun name => ?_, fun isDebt => ?_⟩
          · rw [keeps, otherKeeps, alike.declares]
          · rw [otherKeeps, otherKeeps]
            exact alike.settled isDebt
        exact ⟨isBlocks, h.frames, .some next,
          h.findings.append (.of_noneUnmet quiet otherQuiet)⟩
      | false =>
        obtain ⟨setting, findings, isName, isValue, quiet, rfl⟩ := effect.exists_declared isCurrent
          isAlsoRecorded ((alike.declares _).trans isDeclared)
        obtain ⟨otherSetting, others, isOtherName, isOtherValue, otherQuiet, rfl⟩ :=
          otherEffect.exists_declared isOther isRecorded isDeclared
        have next : Current.Alike debt { current with settings := current.settings ++ [setting] }
            { otherCurrent with settings := otherCurrent.settings ++ [otherSetting] } := by
          refine ⟨alike.name, alike.range, alike.accepted, fun name => ?_, fun isDebt => ?_⟩
          · rw [Current.declares_append, Current.declares_append, alike.declares, isName, isOtherName]
          · obtain ⟨isType, isUrl⟩ := alike.settled isDebt
            simp [Current.declares_append, isType, isUrl]
        have reported := h.report (.of_noneUnmet quiet otherQuiet)
        refine ⟨isBlocks, ?_, .some next, ?_⟩
        · refine reported.note (follows.of_outline (outline_report _ _))
            (otherFollows.of_outline (outline_report _ _)) isCurrent isOther alike
            (isName.trans isOtherName.symm) (isValue.trans isOtherValue.symm) ?_ _ _
          rw [isOtherName, isDeclared]
        · simpa [note_rest.1] using reported.findings

theorem readLine (h : Paired debt scan other) {number : Nat}
    (coherent : Coherent catalog number scan) (otherCoherent : Coherent catalog number other)
    (before : ∀ range, debt = some range → range.start.line < number) (line : List Char) :
    Paired debt (scan.readLine catalog line number) (other.readLine catalog line number) := by
  rw [readLine_eq, readLine_eq, ← h.blocks]
  cases isEvent : Event.read? scan.blocks line number with
  | none =>
    have quiet := Block.Tracker.noneUnmet_step scan.blocks line number
    have stepped : Paired debt { scan with blocks := (scan.blocks.step line number).1 }
        { other with blocks := (scan.blocks.step line number).1 } :=
      ⟨rfl, h.frames, h.current, h.findings⟩
    exact stepped.report (.of_noneUnmet quiet quiet)
  | some event =>
    cases event with
    | header found =>
      exact h.readHeader coherent otherCoherent before (Event.line_of_header isEvent)
    | setting line => exact h.readSetting coherent.follows otherCoherent.follows line

/-- Scans that are paired stay so on the same lines. -/
theorem readLines {start otherStart : List (List Char)} (sameLength : start.length = otherStart.length)
    (h : Paired debt (Scan.readLines catalog start) (Scan.readLines catalog otherStart))
    (before : ∀ range, debt = some range → range.start.line < start.length)
    (lines : List (List Char)) :
    Paired debt (Scan.readLines catalog (start ++ lines))
      (Scan.readLines catalog (otherStart ++ lines)) := by
  induction lines using List.reverseRecOn with
  | nil => simpa using h
  | append_singleton lines line ih =>
    have coherent := readLines_coherent catalog (start ++ lines)
    have otherCoherent := readLines_coherent catalog (otherStart ++ lines)
    have length : (otherStart ++ lines).length = (start ++ lines).length := by simp [sameLength]
    rw [length] at otherCoherent
    rw [← List.append_assoc, ← List.append_assoc, readLines_concat, readLines_concat, length]
    refine ih.readLine coherent otherCoherent (fun range isDebt => ?_) line
    exact Nat.lt_of_lt_of_le (before range isDebt) (by simp)

theorem finish (h : Paired debt scan other) (catalog : Catalog) :
    Agree "placeholders" debt (scan.finish catalog).findings (other.finish catalog).findings := by
  have flushed := h.flush catalog
  have undeclared (scan : Scan) : NoneUnmet scan.undeclaredAliases := by
    intro finding member
    obtain ⟨reference, -, rfl⟩ := List.mem_map.mp member
    rfl
  have unclosed (tracker : Block.Tracker) : NoneUnmet tracker.finish.2 :=
    Block.Tracker.noneUnmet_unclosed _
  have rest (scan : Scan) : NoneUnmet (scan.undeclaredAliases ++ Rule.findings catalog scan.tree) :=
    (undeclared scan).append (Rule.noneUnmet_findings catalog scan.tree)
  simp only [Scan.finish, findings_report, List.append_assoc]
  refine flushed.findings.append (.append (.of_noneUnmet (unclosed _) (unclosed _)) ?_)
  exact .append (.unmet? flushed.frames) (.of_noneUnmet (rest _) (rest _))

end Paired

end Scan

end Validation

end ChartLint
