import ChartLint.Proofs.Catalog.Resolve
import ChartLint.Proofs.Validation.Code

/-!
The events of a document: the section headers and the setting lines that blocks leave to sections. All
that a scan knows of sections follows from them.
-/
namespace ChartLint

theorem Block.Tracker.run_concat (tracker : Tracker) (number : Nat) (lines : List (List Char))
    (line : List Char) : (tracker.run number (lines ++ [line])).1 =
      ((tracker.run number lines).1.step line (number + lines.length)).1 := by
  induction lines generalizing tracker number with
  | nil => rfl
  | cons first lines ih =>
    simp only [List.cons_append, run, ih, List.length_cons, Nat.add_assoc, Nat.add_comm 1]

namespace Validation

open Section (Stack)

inductive Event where
  | header (header : Line.SectionHeader)
  | setting (line : Line.SettingLine)

namespace Event

def ofLine? (line : List Char) (number : Nat) : Option Event :=
  match Line.sectionHeader? line number with
  | some found => some (.header found)
  | none => (Line.setting? line number).map .setting

/-- The event of a line, unless blocks take the line for themselves. -/
def read? (blocks : Block.Tracker) (line : List Char) (number : Nat) : Option Event :=
  match blocks.read? line number with
  | some _ => none
  | none => ofLine? line number

/-- The events of lines from a number on. -/
def list (blocks : Block.Tracker) (number : Nat) : List (List Char) → List Event
  | [] => []
  | line :: rest =>
    (read? blocks line number).toList ++ list (blocks.step line number).1 (number + 1) rest

theorem list_concat (blocks : Block.Tracker) (number : Nat) (lines : List (List Char))
    (line : List Char) :
    list blocks number (lines ++ [line]) = list blocks number lines ++
      (read? (blocks.run number lines).1 line (number + lines.length)).toList := by
  induction lines generalizing blocks number with
  | nil => simp [list, Block.Tracker.run]
  | cons first lines ih =>
    simp only [List.cons_append, list, ih, Block.Tracker.run, List.append_assoc, List.length_cons,
      Nat.add_assoc, Nat.add_comm 1]

theorem step_eq {blocks : Block.Tracker} {line : List Char} {number : Nat} {event : Event}
    (h : read? blocks line number = some event) : blocks.step line number = (blocks, []) := by
  unfold read? at h
  split at h
  · cases h
  case h_2 untaken => rw [Block.Tracker.step, untaken, Option.getD_none]

theorem line_of_header {blocks : Block.Tracker} {line : List Char} {number : Nat}
    {header : Line.SectionHeader} (h : read? blocks line number = some (.header header)) :
    header.range.start.line = number := by
  unfold read? ofLine? at h
  split at h
  · cases h
  · split at h
    case h_1 isHeader =>
      cases h
      exact Scan.sectionHeader?_line isHeader
    case h_2 =>
      obtain ⟨_, -, isSetting⟩ := Option.map_eq_some_iff.mp h
      cases isSetting

end Event

namespace Scan

section Report

variable (scan : Scan) (findings : List Finding)

@[simp] theorem stack_report : (scan.report findings).stack = scan.stack := rfl

@[simp] theorem blocks_report : (scan.report findings).blocks = scan.blocks := rfl

@[simp] theorem current_report : (scan.report findings).current = scan.current := rfl

@[simp] theorem aliases_report : (scan.report findings).aliases = scan.aliases := rfl

@[simp] theorem findings_report : (scan.report findings).findings = scan.findings ++ findings := rfl

end Report

def perform (catalog : Catalog) (scan : Scan) : Event → Scan
  | .header header => scan.readHeader catalog header
  | .setting line => scan.readSetting catalog line

/-- A line is an event, or else it only concerns blocks. -/
theorem readLine_eq (catalog : Catalog) (scan : Scan) (line : List Char) (number : Nat) :
    scan.readLine catalog line number =
      match Event.read? scan.blocks line number with
      | some event => scan.perform catalog event
      | none => { scan with blocks := (scan.blocks.step line number).1 }.report
          (scan.blocks.step line number).2 := by
  unfold readLine Event.read? Event.ofLine? Block.Tracker.step
  cases scan.blocks.read? line number with
  | some taken => rfl
  | none =>
    cases Line.sectionHeader? line number with
    | some header => rfl
    | none =>
      cases Line.setting? line number with
      | some setting => rfl
      | none => simp [report]

theorem blocks_note (catalog : Catalog) (scan : Scan) (current : Current) (setting : Setting)
    (column : Nat) : (scan.note catalog current setting column).blocks = scan.blocks := by
  unfold note
  grind

theorem blocks_readSetting (catalog : Catalog) (scan : Scan) (line : Line.SettingLine) :
    (scan.readSetting catalog line).blocks = scan.blocks := by
  unfold readSetting record
  split
  · rfl
  · rfl
  · dsimp only
    split
    · rfl
    · exact blocks_note ..

theorem blocks_readHeader (catalog : Catalog) (scan : Scan) (header : Line.SectionHeader) :
    (scan.readHeader catalog header).blocks = scan.blocks := by
  have blocks_flush (scan : Scan) : (scan.flush catalog).blocks = scan.blocks := by
    unfold flush
    split
    · rfl
    · dsimp only
      split <;> rfl
  have blocks_startSection (scan : Scan) (name : String) (range : Range) :
      (scan.startSection catalog name range).blocks = scan.blocks := rfl
  unfold readHeader
  dsimp only
  split
  · rw [blocks_startSection, blocks_flush]
  · rw [blocks_startSection, blocks_flush]
    rfl

theorem blocks_readLine (catalog : Catalog) (scan : Scan) (line : List Char) (number : Nat) :
    (scan.readLine catalog line number).blocks = (scan.blocks.step line number).1 := by
  rw [readLine_eq]
  split
  case h_1 event isEvent =>
    rw [Event.step_eq isEvent]
    cases event with
    | header header => exact blocks_readHeader ..
    | setting line => exact blocks_readSetting ..
  case h_2 => rfl

theorem blocks_readLines (catalog : Catalog) (lines : List (List Char)) :
    (readLines catalog lines).blocks = (Block.Tracker.run {} 0 lines).1 := by
  induction lines using List.reverseRecOn with
  | nil => rfl
  | append_singleton lines line ih =>
    rw [readLines_concat, blocks_readLine, ih, Block.Tracker.run_concat, Nat.zero_add]

end Scan

/-- The events of a document. -/
def events (lines : List (List Char)) : List Event := Event.list {} 0 lines

theorem events_concat (catalog : Catalog) (lines : List (List Char)) (line : List Char) :
    events (lines ++ [line]) = events lines ++
      (Event.read? (Scan.readLines catalog lines).blocks line lines.length).toList := by
  rw [events, Event.list_concat, Scan.blocks_readLines, Nat.zero_add, events]

/-- What setting lines report. -/
def settingCodes : List Code := Value.codes ++ [
  .settingOutsideSection, .settingSentAsTag, .unknownSetting, .ineffectiveSetting,
  .duplicateSetting, .exclusiveSettings]

section Recorded

variable (catalog : Catalog)

/-- The descriptor of a setting line that is recorded in a section of a name: the section is not of free
form, and the setting is known and allowed in it. -/
def recorded? (name : String) (line : Line.SettingLine) : Option Descriptor :=
  if catalog.isFreeForm name then none
  else (catalog.lookup line.name).filter fun descriptor => catalog.allows descriptor name

/-- What a line declares in a section of a name: the name of the setting, and its value. -/
def declaration? (name : String) (line : Line.SettingLine) : Option (String × String) :=
  (recorded? catalog name line).map fun descriptor => (descriptor.name, line.value)

theorem describe_eq (current : Current) (line : Line.SettingLine) :
    (∃ descriptor, Scan.describe catalog (some current) line = .ok descriptor ∧
      recorded? catalog current.name line = some descriptor) ∨
    ∃ issue, Scan.describe catalog (some current) line = .error issue ∧
      recorded? catalog current.name line = none ∧
      ∀ found, issue = some found → found.code ∈ settingCodes := by
  have isOther {issue : Issue} (isCode : issue.code ∈ settingCodes) (found : Issue)
      (h : some issue = some found) : found.code ∈ settingCodes :=
    Option.some.inj h ▸ isCode
  unfold Scan.describe recorded?
  dsimp only
  split
  · split
    · exact .inr ⟨_, rfl, rfl, isOther (by simp [Issue.code, settingCodes])⟩
    · exact .inr ⟨_, rfl, rfl, by simp⟩
  · split
    case h_1 unknown =>
      exact .inr ⟨_, rfl, by rw [unknown]; rfl, isOther (by simp [Issue.code, settingCodes])⟩
    case h_2 descriptor known =>
      rw [known]
      split
      case isTrue allowed => exact .inl ⟨descriptor, rfl, by simp [allowed]⟩
      case isFalse allowed =>
        exact .inr ⟨_, rfl, by simp [allowed],
          isOther (by simp [Issue.code, settingCodes, Value.codes])⟩

end Recorded

/-- Whether a setting of a name was declared in the section. -/
def Current.declares (current : Current) (name : String) : Bool :=
  (Setting.named? current.settings name).isSome

theorem Current.name_ne_of_not_declares (current : Current) {name : String}
    (undeclared : current.declares name = false) {setting : Setting}
    (member : setting ∈ current.settings) : setting.name ≠ name := by
  simp only [declares, Setting.named?, Option.isSome_eq_false_iff, Option.isNone_iff_eq_none,
    List.find?_eq_none, beq_iff_eq] at undeclared
  exact undeclared setting member

theorem Current.declares_append (current : Current) (setting : Setting) (name : String) :
    { current with settings := current.settings ++ [setting] }.declares name =
      (current.declares name || setting.name == name) := by
  by_cases same : setting.name = name <;>
    simp [Current.declares, Setting.named?, List.find?_append, same]

namespace Scan

/-- What a setting line reports at the place of its name. -/
structure SettingFindings (range : Range) (findings : List Finding) : Prop where
  codesIn : CodesIn settingCodes findings
  range_eq : ∀ finding ∈ findings, finding.range = range

namespace SettingFindings

variable {range : Range} {findings others : List Finding}

theorem append (h : SettingFindings range findings) (next : SettingFindings range others) :
    SettingFindings range (findings ++ others) :=
  ⟨h.codesIn.append next.codesIn, List.forall_mem_append.mpr ⟨h.range_eq, next.range_eq⟩⟩

theorem of_issue {issue : Option Issue}
    (h : ∀ found, issue = some found → found.code ∈ settingCodes) :
    SettingFindings range (issue.map fun issue => (⟨issue, range⟩ : Finding)).toList := by
  cases issue with
  | none => exact ⟨.nil, List.forall_mem_nil _⟩
  | some issue => exact ⟨.singleton (h issue rfl), List.forall_mem_singleton.mpr rfl⟩

theorem noneUnmet (h : SettingFindings range findings) : NoneUnmet findings :=
  h.codesIn.noneUnmet (by decide)

end SettingFindings

/-- What a setting line does: nothing to the section, or it repeats a declaration, or it is the first of
its name and is noted. -/
inductive SettingEffect (catalog : Catalog) (scan : Scan) (line : Line.SettingLine) : Scan → Prop
  | passed {findings : List Finding} :
      (∀ current, scan.current = some current → recorded? catalog current.name line = none) →
      SettingFindings line.nameRange findings → SettingEffect catalog scan line (scan.report findings)
  | repeated {current : Current} {descriptor : Descriptor} {settings : List Setting}
      {findings : List Finding} :
      scan.current = some current → recorded? catalog current.name line = some descriptor →
      current.declares descriptor.name = true →
      (∀ name, { current with settings }.declares name = current.declares name) →
      (∀ setting ∈ settings, setting ∈ current.settings ∧ setting.name ≠ descriptor.name ∨
        setting.name = descriptor.name ∧
          (setting.spec.multiLine = false → setting.value = line.value)) →
      SettingFindings line.nameRange findings →
      SettingEffect catalog scan line
        ({ scan with current := some { current with settings } }.report findings)
  | declared {current : Current} {descriptor : Descriptor} {setting : Setting}
      {findings : List Finding} :
      scan.current = some current → recorded? catalog current.name line = some descriptor →
      current.declares descriptor.name = false →
      setting.name = descriptor.name → setting.value = line.value →
      SettingFindings line.nameRange findings →
      SettingEffect catalog scan line
        { (scan.report findings).note catalog current setting line.valueColumn with
          current := some { current with settings := current.settings ++ [setting] } }

theorem settingFindings_value (descriptor : Descriptor) (value : String) (range : Range) :
    SettingFindings range
      ((Value.check descriptor value).map fun issue => (⟨issue, range⟩ : Finding)).toList :=
  .of_issue fun _ isIssue => List.mem_append_left _ (Value.code_check isIssue)

theorem name_merge {earlier setting : Setting} (same : earlier.name = setting.name) :
    (merge earlier setting).1.name = setting.name ∧
      ((merge earlier setting).1.spec.multiLine = false →
        (merge earlier setting).1.value = setting.value) ∧
      SettingFindings setting.range (merge earlier setting).2 := by
  unfold merge
  split
  case isTrue multiLine =>
    refine ⟨same, fun single => ?_, settingFindings_value _ _ _⟩
    cases multiLine.symm.trans single
  case isFalse =>
    have repeated : SettingFindings setting.range
        [⟨.duplicateSetting setting.displayName, setting.range⟩] :=
      ⟨.singleton (by simp [Issue.code, settingCodes]), List.forall_mem_singleton.mpr rfl⟩
    exact ⟨rfl, fun _ => rfl, repeated.append (settingFindings_value _ _ _)⟩

theorem mem_replace {settings : List Setting} {setting found : Setting}
    (h : found ∈ replace settings setting) :
    found ∈ settings ∧ found.name ≠ setting.name ∨ found = setting := by
  obtain ⟨other, member, rfl⟩ := List.mem_map.mp h
  split
  case isTrue => exact .inr rfl
  case isFalse isOther => exact .inl ⟨member, by simpa using isOther⟩

/-- Replacing a setting by one of its name keeps the declared names. -/
theorem named?_replace (settings : List Setting) (setting : Setting) (name : String) :
    (Setting.named? (replace settings setting) name).isSome =
      (Setting.named? settings name).isSome := by
  have same : (fun other : Setting => other.name == name) ∘
      (fun other => if other.name == setting.name then setting else other) =
        fun other => other.name == name := by
    funext other
    dsimp only [Function.comp_apply]
    split
    case isTrue same => rw [beq_iff_eq.mp same]
    case isFalse => rfl
  rw [Setting.named?, replace, List.find?_map, Option.isSome_map, same, Setting.named?]

theorem settingFindings_checkExclusions (settings : List Setting) (setting : Setting) :
    SettingFindings setting.range (checkExclusions settings setting) := by
  constructor
  · intro finding member
    obtain ⟨other, -, rfl⟩ := List.mem_map.mp member
    simp [Issue.code, settingCodes]
  · intro finding member
    obtain ⟨other, -, rfl⟩ := List.mem_map.mp member
    rfl

theorem settingFindings_checkWidget (scope : Scope) (setting : Setting) :
    SettingFindings setting.range (checkWidget scope setting).toList := by
  have isFinding : ∀ finding ∈ (checkWidget scope setting).toList,
      finding.issue.code ∈ settingCodes ∧ finding.range = setting.range := by
    intro finding member
    simp only [checkWidget, Option.mem_toList, Option.bind_eq_some_iff,
      Option.ite_none_left_eq_some, Option.some.injEq] at member
    obtain ⟨_, -, -, rfl⟩ := member
    simp [Issue.code, settingCodes]
  exact ⟨fun finding member => (isFinding finding member).1,
    fun finding member => (isFinding finding member).2⟩

theorem settingEffect_readSetting (catalog : Catalog) (scan : Scan) (line : Line.SettingLine) :
    SettingEffect catalog scan line (scan.readSetting catalog line) := by
  cases isCurrent : scan.current with
  | none =>
    simp only [readSetting, isCurrent, describe]
    refine .passed (by simp [isCurrent]) (.of_issue fun found isFound => ?_)
    simp [← Option.some.inj isFound, Issue.code, settingCodes]
  | some current =>
    obtain ⟨descriptor, isDescribed, isRecorded⟩ | ⟨issue, isDescribed, isRecorded, isOther⟩ :=
      describe_eq catalog current line
    · simp only [readSetting, isCurrent, isDescribed, record]
      generalize isSetting :
        Setting.declare descriptor (scan.scope current) line.value line.nameRange = setting
      have isName : setting.name = descriptor.name := by
        rw [← isSetting]
        exact descriptor.name_resolve _
      have isValue : setting.value = line.value := by
        rw [← isSetting]
        rfl
      have isRange : setting.range = line.nameRange := by
        rw [← isSetting]
        rfl
      have widget := isRange ▸ settingFindings_checkWidget (scan.scope current) setting
      split
      case h_1 earlier isEarlier =>
        have same : earlier.name = setting.name := by
          simpa using List.find?_some isEarlier
        obtain ⟨isMerged, isLast, found⟩ := name_merge same
        have declared : current.declares descriptor.name = true := by
          rw [Current.declares, ← isName, isEarlier]
          rfl
        have keeps (name : String) : { current with
            settings := replace current.settings (merge earlier setting).1 }.declares name =
              current.declares name := named?_replace ..
        have stores : ∀ found ∈ replace current.settings (merge earlier setting).1,
            found ∈ current.settings ∧ found.name ≠ descriptor.name ∨ found.name = descriptor.name ∧
              (found.spec.multiLine = false → found.value = line.value) := by
          intro found member
          rcases mem_replace member with ⟨member, isOther⟩ | rfl
          · exact .inl ⟨member, isName ▸ isMerged ▸ isOther⟩
          · exact .inr ⟨isMerged.trans isName, fun single => (isLast single).trans isValue⟩
        have effect : SettingEffect catalog scan line _ :=
          .repeated isCurrent isRecorded declared keeps stores (widget.append (isRange ▸ found))
        simpa only [report, List.append_assoc] using effect
      case h_2 isNew =>
        have undeclared : current.declares descriptor.name = false := by
          rw [Current.declares, ← isName, isNew]
          rfl
        have checked : SettingFindings setting.range setting.check.toList :=
          settingFindings_value _ _ _
        have found := checked.append (settingFindings_checkExclusions current.settings setting)
        have effect : SettingEffect catalog scan line _ :=
          .declared isCurrent isRecorded undeclared isName isValue (widget.append (isRange ▸ found))
        simpa only [report, List.append_assoc] using effect
    · simp only [readSetting, isCurrent, isDescribed]
      refine .passed ?_ (.of_issue isOther)
      intro other isOther
      rw [← Option.some.inj (isCurrent.symm.trans isOther)]
      exact isRecorded

namespace SettingEffect

variable {catalog : Catalog} {scan after : Scan} {line : Line.SettingLine} {current : Current}
  {descriptor : Descriptor}

theorem exists_passed (h : SettingEffect catalog scan line after)
    (unrecorded : ∀ current, scan.current = some current →
      recorded? catalog current.name line = none) :
    ∃ findings, NoneUnmet findings ∧ after = scan.report findings := by
  cases h with
  | passed _ found => exact ⟨_, found.noneUnmet, rfl⟩
  | repeated isCurrent isRecorded => cases (unrecorded _ isCurrent).symm.trans isRecorded
  | declared isCurrent isRecorded => cases (unrecorded _ isCurrent).symm.trans isRecorded

theorem exists_repeated (h : SettingEffect catalog scan line after)
    (isCurrent : scan.current = some current)
    (isRecorded : recorded? catalog current.name line = some descriptor)
    (isDeclared : current.declares descriptor.name = true) :
    ∃ settings findings, (∀ name, { current with settings }.declares name = current.declares name) ∧
      NoneUnmet findings ∧
      after = { scan with current := some { current with settings } }.report findings := by
  cases h with
  | passed unrecorded => cases (unrecorded _ isCurrent).symm.trans isRecorded
  | repeated isOther _ _ keeps _ found =>
    obtain rfl := Option.some.inj (isCurrent.symm.trans isOther)
    exact ⟨_, _, keeps, found.noneUnmet, rfl⟩
  | declared isOther isOtherRecorded undeclared =>
    obtain rfl := Option.some.inj (isCurrent.symm.trans isOther)
    obtain rfl := Option.some.inj (isRecorded.symm.trans isOtherRecorded)
    cases isDeclared.symm.trans undeclared

theorem exists_declared (h : SettingEffect catalog scan line after)
    (isCurrent : scan.current = some current)
    (isRecorded : recorded? catalog current.name line = some descriptor)
    (undeclared : current.declares descriptor.name = false) :
    ∃ setting findings, setting.name = descriptor.name ∧ setting.value = line.value ∧
      NoneUnmet findings ∧
      after = { (scan.report findings).note catalog current setting line.valueColumn with
        current := some { current with settings := current.settings ++ [setting] } } := by
  cases h with
  | passed unrecorded => cases (unrecorded _ isCurrent).symm.trans isRecorded
  | repeated isOther isOtherRecorded isDeclared =>
    obtain rfl := Option.some.inj (isCurrent.symm.trans isOther)
    obtain rfl := Option.some.inj (isRecorded.symm.trans isOtherRecorded)
    cases isDeclared.symm.trans undeclared
  | declared isOther isOtherRecorded _ isName isValue found =>
    obtain rfl := Option.some.inj (isCurrent.symm.trans isOther)
    obtain rfl := Option.some.inj (isRecorded.symm.trans isOtherRecorded)
    exact ⟨_, _, isName, isValue, found.noneUnmet, rfl⟩

end SettingEffect

section Header

variable {catalog : Catalog} {scan : Scan}

/-- The name of a section, whose header may give a deprecated one. -/
def sectionName (catalog : Catalog) (header : Line.SectionHeader) : String :=
  (catalog.canonical? (Text.lower header.name)).getD (Text.lower header.name)

/-- What is said of a deprecated name. -/
def deprecation (catalog : Catalog) (header : Line.SectionHeader) : List Finding :=
  match catalog.canonical? (Text.lower header.name) with
  | none => []
  | some name => [⟨.deprecatedSection (Text.lower header.name) name, header.range⟩]

theorem codesIn_deprecation (catalog : Catalog) (header : Line.SectionHeader) :
    CodesIn [.deprecatedSection] (deprecation catalog header) := by
  unfold deprecation
  split
  · exact .nil
  · exact .singleton (by simp [Issue.code])

theorem readHeader_eq_startSection (catalog : Catalog) (scan : Scan) (header : Line.SectionHeader) :
    scan.readHeader catalog header =
      ((scan.report (deprecation catalog header)).flush catalog).startSection catalog
        (sectionName catalog header) header.range := by
  unfold readHeader sectionName deprecation
  dsimp only
  cases catalog.canonical? (Text.lower header.name) with
  | none => simp [report]
  | some name => rfl

theorem readHeader_eq (catalog : Catalog) (scan : Scan) (header : Line.SectionHeader) :
    ∃ findings, NoneUnmet findings ∧ scan.readHeader catalog header =
      ((scan.report findings).flush catalog).startSection catalog (sectionName catalog header)
        header.range :=
  ⟨_, (codesIn_deprecation catalog header).noneUnmet (by decide),
    readHeader_eq_startSection catalog scan header⟩

/-- What ending the current section leaves, but for the sections themselves. -/
structure Ended (scan after : Scan) : Prop where
  current : after.current = none
  aliases : after.aliases = scan.aliases
  blocks : after.blocks = scan.blocks
  findings : ∃ findings, NoneUnmet findings ∧ after.findings = scan.findings ++ findings

theorem noneUnmet_missingSettings (catalog : Catalog) (stack : Stack) (current : Current) :
    NoneUnmet (missingSettings catalog stack current) := by
  intro finding member
  simp [Finding.isUnmet, (missingSettings_eq catalog stack current finding member).1]

theorem ended_flush (catalog : Catalog) (scan : Scan) : Ended scan (scan.flush catalog) := by
  have rest : (scan.flush catalog).current = none ∧ (scan.flush catalog).aliases = scan.aliases ∧
      (scan.flush catalog).blocks = scan.blocks := by
    unfold flush
    split
    · next isCurrent => exact ⟨isCurrent, rfl, rfl⟩
    · dsimp only
      split <;> exact ⟨rfl, rfl, rfl⟩
  refine ⟨rest.1, rest.2.1, rest.2.2, _, ?_, findings_flush catalog scan⟩
  cases scan.current with
  | none => exact .nil
  | some current => simpa using noneUnmet_missingSettings catalog scan.stack current

theorem Coherent.earlier_flush {number : Nat} (h : Coherent catalog number scan)
    (findings : List Finding) {range : Range} (isLine : range.start.line = number) :
    ∀ other ∈ ((scan.report findings).flush catalog).stack.ranges,
      other.start.line < range.start.line := by
  rw [ranges_flush, isLine]
  exact h.earlier

theorem startSection_of_accepted {name : String} {level : Nat}
    (isLevel : scan.stack.accept catalog name = .ok level) (range : Range) :
    scan.startSection catalog name range =
      { scan with
        stack := (scan.stack.openAt catalog name range level).1
        current := some { name, range, accepted := true } }.report
          (scan.stack.openAt catalog name range level).2.toList := by
  unfold startSection Stack.insert
  simp [isLevel, Except.map, Stack.openAt, Stack.top?]

theorem startSection_of_rejected {name : String} {range : Range} {issue : Issue}
    (isIssue : scan.stack.accept catalog name = .error issue)
    (earlier : ∀ other ∈ scan.stack.ranges, other.start.line < range.start.line) :
    scan.startSection catalog name range =
      { scan with current := some { name, range, accepted := false } }.report [⟨issue, range⟩] := by
  have isOther := Stack.top?_any_eq_false earlier
  unfold startSection Stack.insert
  simp [isIssue, Except.map, isOther]

/-- The stack holds the current section as the innermost, if it was accepted. -/
theorem Follows.exists_top (h : scan.Follows catalog) {current : Current}
    (isCurrent : scan.current = some current) (accepted : current.accepted = true) :
    ∃ frame outer, scan.stack.frames = frame :: outer ∧ frame.name = current.name ∧
      frame.range = current.range := by
  cases h with
  | settled rejected _ =>
    rw [rejected current isCurrent] at accepted
    cases accepted
  | pending isOther _ _ _ isOpen =>
    obtain rfl := Option.some.inj (isCurrent.symm.trans isOther)
    obtain ⟨frame, outer, isFrames, isEntry, -⟩ := List.map_eq_cons_iff.mp isOpen
    exact ⟨frame, outer, isFrames, congrArg Section.Entry.name isEntry,
      congrArg Section.Entry.range isEntry⟩

end Header

section Note

/-- The alternatives of a widget after a setting of it was noted: its type replaces them, and fields of
its address add to them. -/
def noted (catalog : Catalog) (name value : String) (frame : Section.Frame) : Section.Frame :=
  if name = "type" then
    match catalog.requirementsOfWidget? value with
    | some options => { frame with alternatives := options.map fun names => ⟨names, 0⟩ }
    | none => frame
  else if name = "url" ∧ Value.hasField value.toList = true then frame.require ["placeholders"]
  else frame

theorem entry_noted (catalog : Catalog) (name value : String) (frame : Section.Frame) :
    (noted catalog name value frame).entry = frame.entry := by
  unfold noted
  split
  · split <;> rfl
  · split <;> rfl

variable {catalog : Catalog} {scan : Scan} {current : Current} {setting : Setting} {column : Nat}

/-- What a note leaves as it is. -/
theorem note_rest : (scan.note catalog current setting column).findings = scan.findings ∧
    (scan.note catalog current setting column).current = scan.current := by
  unfold note
  dsimp only
  grind

theorem aliases_note : (scan.note catalog current setting column).aliases =
    scan.aliases ++ if setting.name = "alias" then [Text.trimmed setting.value] else [] := by
  unfold note
  dsimp only
  grind

theorem stack_note_of_other (h : ¬ (current.accepted = true ∧ current.name = "widget")) :
    (scan.note catalog current setting column).stack = scan.stack := by
  have isOther : (current.accepted && current.name == "widget") = false := by
    simpa using h
  unfold note
  simp only [isOther, Bool.and_false, Bool.false_eq_true, if_false]
  split
  · rfl
  · split <;> rfl

theorem modify_top {stack : Stack} {frame : Section.Frame} {outer : List Section.Frame}
    (isTop : stack.frames = frame :: outer) {f : Section.Frame → Section.Frame} :
    (stack.modify frame.name f).frames = f frame :: outer := by
  simp [Stack.modify, isTop]

theorem frames_note {frame : Section.Frame} {outer : List Section.Frame}
    (isTop : scan.stack.frames = frame :: outer) (isName : frame.name = "widget")
    (accepted : current.accepted = true) (isWidget : current.name = "widget") :
    (scan.note catalog current setting column).stack.frames =
      noted catalog setting.name setting.value frame :: outer := by
  have isHere : (current.accepted && current.name == "widget") = true := by
    simp [accepted, isWidget]
  have modified (f : Section.Frame → Section.Frame) :
      (scan.stack.modify "widget" f).frames = f frame :: outer := isName ▸ modify_top isTop
  unfold note noted
  simp only [isHere, Bool.and_true, beq_iff_eq, Stack.replaceRequirements, Stack.require]
  grind

end Note

theorem tree_note (catalog : Catalog) (scan : Scan) (current : Current) (setting : Setting)
    (column : Nat) : (scan.note catalog current setting column).tree = scan.tree :=
  congrArg (fun outline => outline.2.1) (outline_note catalog scan current setting column)

theorem findings_readSetting (catalog : Catalog) (scan : Scan) (line : Line.SettingLine) :
    ∃ findings, SettingFindings line.nameRange findings ∧
      (scan.readSetting catalog line).findings = scan.findings ++ findings := by
  have effect := settingEffect_readSetting catalog scan line
  generalize scan.readSetting catalog line = after at effect
  cases effect with
  | passed _ found => exact ⟨_, found, rfl⟩
  | repeated _ _ _ _ _ found => exact ⟨_, found, rfl⟩
  | declared _ _ _ _ _ found => exact ⟨_, found, note_rest.1⟩

end Scan

end Validation

end ChartLint
