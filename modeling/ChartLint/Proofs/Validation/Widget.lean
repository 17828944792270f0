import ChartLint.Proofs.Validation.Event

/-!
The setting lines of a widget. What they declare does not depend on their numbers, and of all of them
only the first type and the first address change the child sections that the widget has to hold.
-/
namespace ChartLint

namespace Line

theorem sectionHeader?_eq_none {line : List Char} {number : Nat} (other : Nat)
    (h : sectionHeader? line number = none) : sectionHeader? line other = none := by
  unfold sectionHeader? at h ⊢
  dsimp only at h ⊢
  split at h
  · simpa using h
  · rfl

theorem setting?_eq_some_of_number {line : List Char} {number : Nat} {setting : SettingLine}
    (other : Nat) (h : setting? line number = some setting) :
    ∃ found, setting? line other = some found ∧ found.name = setting.name ∧
      found.value = setting.value := by
  obtain ⟨parts, rfl, rfl⟩ := setting?_eq_some_iff.mp h
  exact ⟨parts.setting other, parts.setting?_line other, rfl, rfl⟩

end Line

namespace Validation

open Section (Frame Stack)

namespace Event

variable {catalog : Catalog}

theorem read?_eq_setting {blocks : Block.Tracker} {line : List Char} {number : Nat}
    {setting : Line.SettingLine} :
    read? blocks line number = some (.setting setting) ↔
      blocks.body = none ∧ Block.statement? line = none ∧
        Line.sectionHeader? line number = none ∧ Line.setting? line number = some setting := by
  rw [Block.statement?_eq line number, Option.map_eq_none_iff, read?, Block.Tracker.read?, ofLine?]
  cases blocks.body with
  | some body => simp
  | none =>
    cases Block.Statement.ofLine? line number with
    | some found => simp
    | none =>
      cases Line.sectionHeader? line number with
      | some header => simp
      | none => simp

/-- Whether an event declares a setting in a widget. -/
def declares (catalog : Catalog) (name : String) : Event → Bool
  | .header _ => false
  | .setting line => (declaration? catalog "widget" line).any fun entry => entry.1 == name

/-- Whether an event is a setting line of a widget that declares neither its type nor its address. -/
def isPlain (catalog : Catalog) : Event → Bool
  | .header _ => false
  | .setting line => (declaration? catalog "widget" line).all fun entry =>
      entry.1 != "type" && entry.1 != "url"

theorem exists_of_isPlain {event : Event} (h : event.isPlain catalog = true) :
    ∃ line, event = .setting line ∧ event.declares catalog "type" = false ∧
      event.declares catalog "url" = false := by
  cases event with
  | header found => cases h
  | setting line =>
    refine ⟨line, rfl, ?_⟩
    simp only [isPlain, declares] at h ⊢
    generalize declaration? catalog "widget" line = declaration at h
    cases declaration with
    | none => simp
    | some entry => simpa using h

/-- What a line outside of bodies declares in a widget. -/
def declared? (catalog : Catalog) (line : List Char) : Option (String × String) :=
  match read? {} line 0 with
  | some (.setting found) => declaration? catalog "widget" found
  | _ => none

theorem exists_setting {line : List Char} {entry : String × String}
    (h : declared? catalog line = some entry) {blocks : Block.Tracker} (outside : blocks.body = none)
    (number : Nat) : ∃ setting, read? blocks line number = some (.setting setting) ∧
      declaration? catalog "widget" setting = some entry := by
  unfold declared? at h
  split at h
  case h_1 setting isSetting =>
    obtain ⟨-, noStatement, noHeader, isSetting⟩ := read?_eq_setting.mp isSetting
    obtain ⟨found, isFound, sameName, sameValue⟩ := Line.setting?_eq_some_of_number number isSetting
    refine ⟨found, read?_eq_setting.mpr ⟨outside, noStatement,
      Line.sectionHeader?_eq_none number noHeader, isFound⟩, ?_⟩
    rw [← h, declaration?, declaration?, recorded?, recorded?, sameName, sameValue]
  case h_2 => cases h

end Event

namespace Scan

variable {catalog : Catalog} {scan : Scan}

/-- A scan that reads an accepted widget. -/
structure InWidget (scan : Scan) (blocks : Block.Tracker) (range : Range) (frame : Frame)
    (outer : List Frame) (declared : String → Bool) (unmet : List Finding) : Prop where
  blocks : scan.blocks = blocks
  current : ∃ current, scan.current = some current ∧ current.name = "widget" ∧
    current.range = range ∧ current.accepted = true ∧ ∀ name, current.declares name = declared name
  frames : scan.stack.frames = frame :: outer
  name : frame.name = "widget"
  range : frame.range = range
  unmet : scan.findings.filter Finding.isUnmet = unmet

/-- The frame of a widget after a line that declares something, which is noted if it is the first of
its name. -/
def notedFirst (catalog : Catalog) (declared : String → Bool) (entry : String × String)
    (frame : Frame) : Frame :=
  if declared entry.1 then frame else noted catalog entry.1 entry.2 frame

theorem elim_notedFirst {declared : String → Bool} {frame : Frame} {line : Line.SettingLine}
    (noType : (Event.setting line).declares catalog "type" = false)
    (noUrl : (Event.setting line).declares catalog "url" = false) :
    (declaration? catalog "widget" line).elim frame (notedFirst catalog declared · frame) = frame := by
  simp only [Event.declares] at noType noUrl
  cases isDeclared : declaration? catalog "widget" line with
  | none => rfl
  | some entry =>
    simp only [isDeclared, Option.any_some, beq_eq_false_iff_ne] at noType noUrl
    simp [notedFirst, noted, noType, noUrl]

namespace InWidget

variable {blocks : Block.Tracker} {range : Range} {frame : Frame} {outer : List Frame}
  {declared : String → Bool} {unmet : List Finding}

theorem readSetting (h : InWidget scan blocks range frame outer declared unmet)
    (line : Line.SettingLine) :
    InWidget (scan.readSetting catalog line) blocks range
      ((declaration? catalog "widget" line).elim frame (notedFirst catalog declared · frame)) outer
      (fun name => declared name || (Event.setting line).declares catalog name) unmet := by
  obtain ⟨current, isCurrent, isName, isRange, accepted, areDeclared⟩ := h.current
  have effect := settingEffect_readSetting catalog scan line
  have isBlocks := (blocks_readSetting catalog scan line).trans h.blocks
  generalize scan.readSetting catalog line = after at effect isBlocks
  cases effect with
  | passed unrecorded found =>
    have undeclared : declaration? catalog "widget" line = none := by
      rw [declaration?, ← isName, unrecorded current isCurrent, Option.map_none]
    simp only [Event.declares, undeclared, Option.elim_none, Option.any_none, Bool.or_false]
    refine ⟨isBlocks, h.current, h.frames, h.name, h.range, ?_⟩
    simp [found.noneUnmet.filter_eq, h.unmet]
  | @repeated _ descriptor settings findings isOther isRecorded isDeclared keeps _ found =>
    obtain rfl := Option.some.inj (isCurrent.symm.trans isOther)
    have isDeclaration : declaration? catalog "widget" line = some (descriptor.name, line.value) := by
      rw [declaration?, ← isName, isRecorded, Option.map_some]
    rw [areDeclared] at isDeclared
    simp only [Event.declares, isDeclaration, Option.elim_some, Option.any_some, notedFirst,
      isDeclared, if_true]
    refine ⟨isBlocks, ⟨_, rfl, isName, isRange, accepted, fun name => ?_⟩, h.frames, h.name, h.range,
      ?_⟩
    · rw [keeps, areDeclared]
      by_cases same : descriptor.name = name
      · simp [← same, isDeclared]
      · simp [same]
    · simp [found.noneUnmet.filter_eq, h.unmet]
  | @declared _ descriptor setting findings isOther isRecorded undeclared isSetting isValue found =>
    obtain rfl := Option.some.inj (isCurrent.symm.trans isOther)
    have isDeclaration : declaration? catalog "widget" line = some (descriptor.name, line.value) := by
      rw [declaration?, ← isName, isRecorded, Option.map_some]
    have isReported : (scan.report findings).stack.frames = frame :: outer := h.frames
    have isEntry := entry_noted catalog descriptor.name line.value frame
    rw [areDeclared] at undeclared
    simp only [Event.declares, isDeclaration, Option.elim_some, Option.any_some, notedFirst,
      undeclared, Bool.false_eq_true, if_false]
    refine ⟨isBlocks, ⟨_, rfl, isName, isRange, accepted, fun name => ?_⟩, ?_,
      (congrArg Section.Entry.name isEntry).trans h.name,
      (congrArg Section.Entry.range isEntry).trans h.range, ?_⟩
    · rw [Current.declares_append, areDeclared, isSetting]
    · dsimp only
      rw [frames_note isReported h.name accepted isName, isSetting, isValue]
    · simp [note_rest.1, found.noneUnmet.filter_eq, h.unmet]

theorem readLine_setting (catalog : Catalog)
    (h : InWidget scan blocks range frame outer declared unmet)
    {line : List Char} {number : Nat} {setting : Line.SettingLine}
    (isEvent : Event.read? blocks line number = some (.setting setting)) :
    InWidget (scan.readLine catalog line number) blocks range
      ((declaration? catalog "widget" setting).elim frame (notedFirst catalog declared · frame)) outer
      (fun name => declared name || (Event.setting setting).declares catalog name) unmet := by
  rw [readLine_eq, h.blocks, isEvent]
  exact h.readSetting setting

theorem readLine_other (h : InWidget scan blocks range frame outer declared unmet)
    {line : List Char} {number : Nat} (noEvent : Event.read? blocks line number = none) :
    InWidget (scan.readLine catalog line number) (blocks.step line number).1 range frame outer declared
      unmet := by
  rw [readLine_eq, h.blocks, noEvent]
  refine ⟨rfl, h.current, h.frames, h.name, h.range, ?_⟩
  simp [(Block.Tracker.noneUnmet_step blocks line number).filter_eq, h.unmet]

/-- Lines that declare neither a type nor an address leave the frame of the widget as it is. -/
theorem readLines {start : List (List Char)}
    (h : InWidget (readLines catalog start) blocks range frame outer declared unmet)
    {between : List (List Char)}
    (within : ∀ event ∈ Event.list blocks start.length between, event.isPlain catalog = true) :
    InWidget (Scan.readLines catalog (start ++ between)) (blocks.run start.length between).1 range frame
      outer (fun name => declared name ||
        (Event.list blocks start.length between).any (Event.declares catalog name)) unmet := by
  induction between using List.reverseRecOn with
  | nil => simpa [Event.list, Block.Tracker.run] using h
  | append_singleton between line ih =>
    rw [Event.list_concat, List.forall_mem_append] at within
    have before := ih within.1
    rw [← List.append_assoc, readLines_concat, List.length_append, Block.Tracker.run_concat,
      Event.list_concat]
    cases isEvent : Event.read? (blocks.run start.length between).1 line
        (start.length + between.length) with
    | none => simpa using before.readLine_other isEvent
    | some event =>
      obtain ⟨setting, rfl, noType, noUrl⟩ :=
        Event.exists_of_isPlain (within.2 event (by simp [isEvent]))
      have next := before.readLine_setting catalog isEvent
      rw [elim_notedFirst noType noUrl] at next
      simpa [Event.step_eq isEvent, Bool.or_assoc] using next

theorem readLine_first (h : InWidget scan blocks range frame outer declared unmet)
    (outside : blocks.body = none) {line : List Char} {entry : String × String}
    (isDeclared : Event.declared? catalog line = some entry) (isFirst : declared entry.1 = false)
    (number : Nat) :
    InWidget (scan.readLine catalog line number) blocks range (noted catalog entry.1 entry.2 frame) outer
      (fun name => declared name || entry.1 == name) unmet := by
  obtain ⟨setting, isEvent, isDeclaration⟩ := Event.exists_setting isDeclared outside number
  have next := h.readLine_setting catalog isEvent
  simpa [Event.declares, isDeclaration, notedFirst, isFirst] using next

/-- Two lines that declare a type and an address for the first time, in the one order or the other. -/
theorem readPair {before between : List (List Char)}
    (h : InWidget (Scan.readLines catalog before) blocks range frame outer declared unmet)
    (outside : blocks.body = none) {first second : List Char} {entry other : String × String}
    (isFirst : Event.declared? catalog first = some entry) (isNew : declared entry.1 = false)
    (within : ∀ event ∈ Event.list blocks (before.length + 1) between,
      event.isPlain catalog = true)
    (stillOutside : (blocks.run (before.length + 1) between).1.body = none)
    (isSecond : Event.declared? catalog second = some other)
    (isOther : other.1 = "type" ∨ other.1 = "url") (isAlsoNew : declared other.1 = false)
    (differ : entry.1 ≠ other.1) :
    InWidget (Scan.readLines catalog (before ++ first :: (between ++ [second])))
      (blocks.run (before.length + 1) between).1 range
      (noted catalog other.1 other.2 (noted catalog entry.1 entry.2 frame)) outer
      (fun name => declared name || entry.1 == name ||
        (Event.list blocks (before.length + 1) between).any (Event.declares catalog name) ||
          other.1 == name) unmet := by
  have opened := h.readLine_first outside isFirst isNew before.length
  rw [← readLines_concat] at opened
  have length : (before ++ [first]).length = before.length + 1 := by simp
  rw [← length] at within stillOutside
  have later := opened.readLines within
  have untouched : ((Event.list blocks (before ++ [first]).length between).any
      (Event.declares catalog other.1)) = false := by
    rw [List.any_eq_false]
    intro event member
    obtain ⟨_, -, noType, noUrl⟩ := Event.exists_of_isPlain (within event member)
    rcases isOther with isType | isUrl
    · simp [isType, noType]
    · simp [isUrl, noUrl]
  have closed := later.readLine_first stillOutside isSecond
    (by rw [isAlsoNew, untouched, beq_false_of_ne differ]; rfl) (before ++ [first] ++ between).length
  rw [← readLines_concat, length] at closed
  simpa using closed

end InWidget

end Scan

end Validation

end ChartLint
