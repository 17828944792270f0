import ChartLint.Proofs.Validation.Grouped

/-!
The lines that sections accept. A setting line stands below one header at most, and is accepted if the
section of the header records it. The settings of a section are its accepted lines, grouped by name.
-/
namespace ChartLint.Validation

/-- The header that a line stands below, with its number. -/
def sectionAt? (lines : List (List Char)) : Nat → Option (Nat × Line.SectionHeader)
  | 0 => none
  | number + 1 =>
    match eventAt? lines number with
    | some (.header header) => some (number, header)
    | _ => sectionAt? lines number

/-- The descriptor of a setting at a line: it is resolved in the scope that the lines before give. -/
def specAt (catalog : Catalog) (lines : List (List Char)) (number : Nat) (descriptor : Descriptor) :
    Descriptor :=
  let scan := Scan.readLines catalog (lines.take number)
  (scan.current.map fun current => descriptor.resolve (scan.scope current)).getD descriptor

/-- The setting line at a number, if its section records it: the setting is known and allowed in the
section, which is not of free form. -/
def acceptedAt? (catalog : Catalog) (lines : List (List Char)) (number : Nat) : Option Accepted :=
  match sectionAt? lines number, eventAt? lines number with
  | some (_, header), some (.setting line) =>
    (recorded? catalog (Scan.sectionName catalog header) line).map fun descriptor =>
      ⟨line, specAt catalog lines number descriptor⟩
  | _, _ => none

/-- Whether a line stands below a header and above the next. -/
def belongs (lines : List (List Char)) (first number : Nat) : Bool :=
  (sectionAt? lines number).map Prod.fst == some first

/-- The accepted lines of the section of a header, up to a line. -/
def acceptedIn (catalog : Catalog) (lines : List (List Char)) (first stop : Nat) : List Accepted :=
  ((List.range stop).filter (belongs lines first)).filterMap (acceptedAt? catalog lines)

/-- The section of a header, with the lines up to some line. -/
def sectionEntry (catalog : Catalog) (lines : List (List Char)) (stop first : Nat)
    (header : Line.SectionHeader) : Section.Entry :=
  ⟨Scan.sectionName catalog header, header.range, Accepted.grouped (acceptedIn catalog lines first stop)⟩

/-- Headers of a document above a line, in their order. -/
structure Headers (lines : List (List Char)) (stop : Nat) (heads : List (Nat × Line.SectionHeader)) :
    Prop where
  ordered : heads.Pairwise fun head later => head.1 < later.1
  above : ∀ head ∈ heads, head.1 < stop
  isHeader : ∀ head ∈ heads, eventAt? lines head.1 = some (.header head.2)

namespace Headers

variable {lines : List (List Char)} {stop : Nat} {heads : List (Nat × Line.SectionHeader)}

theorem nil (lines : List (List Char)) (stop : Nat) : Headers lines stop [] :=
  ⟨.nil, List.forall_mem_nil _, List.forall_mem_nil _⟩

theorem mono {later : Nat} (h : Headers lines stop heads) (le : stop ≤ later) :
    Headers lines later heads :=
  ⟨h.ordered, fun head member => Nat.lt_of_lt_of_le (h.above head member) le, h.isHeader⟩

theorem concat {first : Nat} {header : Line.SectionHeader} (h : Headers lines first heads)
    (isHeader : eventAt? lines first = some (.header header)) (above : first < stop) :
    Headers lines stop (heads ++ [(first, header)]) where
  ordered := by
    refine List.pairwise_append.mpr ⟨h.ordered, List.pairwise_singleton _ _, ?_⟩
    simpa using fun number header => h.above (number, header)
  above := List.forall_mem_append.mpr ⟨(h.mono above.le).above, List.forall_mem_singleton.mpr above⟩
  isHeader := List.forall_mem_append.mpr ⟨h.isHeader, List.forall_mem_singleton.mpr isHeader⟩

end Headers

section Lines

variable {catalog : Catalog} {lines : List (List Char)} {number : Nat}

theorem sectionAt?_eq_some {first : Nat} {header : Line.SectionHeader}
    (h : sectionAt? lines number = some (first, header)) :
    first < number ∧ eventAt? lines first = some (.header header) := by
  induction number with
  | zero => cases h
  | succ number ih =>
    rw [sectionAt?] at h
    split at h
    case h_1 isEvent =>
      cases h
      exact ⟨Nat.lt_succ_self _, isEvent⟩
    case h_2 =>
      obtain ⟨before, isEvent⟩ := ih h
      exact ⟨Nat.lt_succ_of_lt before, isEvent⟩

theorem belongs_iff {first : Nat} : belongs lines first number = true ↔
    ∃ header, sectionAt? lines number = some (first, header) := by
  simp [belongs]

theorem acceptedIn_succ (catalog : Catalog) (lines : List (List Char)) (first number : Nat) :
    acceptedIn catalog lines first (number + 1) = acceptedIn catalog lines first number ++
      if belongs lines first number then (acceptedAt? catalog lines number).toList else [] := by
  rw [acceptedIn, List.range_succ, List.filter_append, List.filterMap_append, ← acceptedIn]
  cases isIn : belongs lines first number with
  | false => simp [isIn]
  | true => cases isAccepted : acceptedAt? catalog lines number <;> simp [isIn, isAccepted]

theorem acceptedIn_succ_of_belongs {first : Nat} (isIn : belongs lines first number = true)
    {accepted : Accepted} (isAccepted : acceptedAt? catalog lines number = some accepted) :
    acceptedIn catalog lines first (number + 1) =
      acceptedIn catalog lines first number ++ [accepted] := by
  rw [acceptedIn_succ, if_pos isIn, isAccepted, Option.toList_some]

theorem acceptedIn_succ_of_other {first : Nat} (isOut : belongs lines first number = false) :
    acceptedIn catalog lines first (number + 1) = acceptedIn catalog lines first number := by
  rw [acceptedIn_succ, isOut, if_neg Bool.false_ne_true, List.append_nil]

theorem acceptedIn_succ_of_none (first : Nat) (h : acceptedAt? catalog lines number = none) :
    acceptedIn catalog lines first (number + 1) = acceptedIn catalog lines first number := by
  rw [acceptedIn_succ, h, Option.toList_none, ite_self, List.append_nil]

theorem acceptedIn_self (catalog : Catalog) (lines : List (List Char)) (first : Nat) :
    acceptedIn catalog lines first (first + 1) = [] := by
  have noLine : (List.range (first + 1)).filter (belongs lines first) = [] := by
    refine List.filter_eq_nil_iff.mpr fun number member isIn => ?_
    obtain ⟨header, isFound⟩ := belongs_iff.mp isIn
    have before := (sectionAt?_eq_some isFound).1
    rw [List.mem_range] at member
    omega
  rw [acceptedIn, noLine, List.filterMap_nil]

end Lines

namespace Scan

variable {catalog : Catalog} {scan : Scan} {current : Current} {line : Line.SettingLine}
  {descriptor : Descriptor}

/-- A line that is recorded adds a setting to its section, and reports what is to say of it. -/
theorem readSetting_recorded (isCurrent : scan.current = some current)
    (isRecorded : recorded? catalog current.name line = some descriptor) (setting : Setting)
    (isSetting : setting = .declare descriptor (scan.scope current) line.value line.nameRange) :
    (scan.readSetting catalog line).current =
        some { current with settings := recordIn current.settings setting } ∧
      (scan.readSetting catalog line).findings = scan.findings ++
        ((checkWidget (scan.scope current) setting).toList ++ recordFindings current.settings setting) := by
  have isDescribed : describe catalog (some current) line = .ok descriptor := by
    obtain ⟨_, isDescribed, isOther⟩ | ⟨_, -, isOther, -⟩ := describe_eq catalog current line
    · rw [isDescribed, Option.some.inj (isRecorded.symm.trans isOther)]
    · cases isRecorded.symm.trans isOther
  simp only [readSetting, isCurrent, isDescribed, ← isSetting, record, recordIn, recordFindings]
  cases Setting.named? current.settings setting.name with
  | some earlier => exact ⟨rfl, List.append_assoc ..⟩
  | none => exact ⟨rfl, note_rest.1.trans (List.append_assoc ..)⟩

end Scan

section Consistent

variable {source : Catalog.Source} {catalog : Catalog} {lines : List (List Char)} {number : Nat}

/-- In a catalog that loads, a descriptor has the name under which it is looked up. -/
theorem name_of_lookup (isLoaded : Catalog.ofSource source = .ok catalog) {spelling : String}
    {descriptor : Descriptor} (h : catalog.lookup spelling = some descriptor) :
    descriptor.name = normalizeName spelling := by
  obtain ⟨stores, -⟩ := Catalog.ofSource_eq_ok isLoaded
  obtain ⟨_, -, -, isKey⟩ := stores.settings.built _ (Table.mem_of_find? h)
  exact isKey.symm

/-- A descriptor at a line is the catalog's, but for what overrides replace. -/
theorem specAt_unpatched {α : Type} (f : Descriptor → α)
    (patched : ∀ descriptor patch, f (Descriptor.patched descriptor patch) = f descriptor)
    (descriptor : Descriptor) : f (specAt catalog lines number descriptor) = f descriptor := by
  simp only [specAt]
  cases (Scan.readLines catalog (lines.take number)).current with
  | none => rfl
  | some current => exact Descriptor.resolve_unpatched f patched descriptor _

theorem acceptedAt?_eq_some {accepted : Accepted}
    (h : acceptedAt? catalog lines number = some accepted) :
    ∃ first header descriptor, sectionAt? lines number = some (first, header) ∧
      eventAt? lines number = some (.setting accepted.line) ∧
      recorded? catalog (Scan.sectionName catalog header) accepted.line = some descriptor ∧
      accepted.spec = specAt catalog lines number descriptor := by
  unfold acceptedAt? at h
  split at h
  case h_1 first header line isSection isEvent =>
    obtain ⟨descriptor, isRecorded, rfl⟩ := Option.map_eq_some_iff.mp h
    exact ⟨first, header, descriptor, isSection, isEvent, isRecorded, rfl⟩
  case h_2 => cases h

theorem acceptedAt?_eq_none (h : ∀ line, eventAt? lines number ≠ some (.setting line)) :
    acceptedAt? catalog lines number = none := by
  refine Option.eq_none_iff_forall_ne_some.mpr fun accepted isAccepted => ?_
  obtain ⟨_, _, _, -, isEvent, -⟩ := acceptedAt?_eq_some isAccepted
  exact h _ isEvent

theorem lookup_of_recorded {name : String} {line : Line.SettingLine} {descriptor : Descriptor}
    (h : recorded? catalog name line = some descriptor) :
    catalog.lookup line.name = some descriptor := by
  simp only [recorded?, Option.ite_none_left_eq_some, Option.filter_eq_some_iff] at h
  exact h.2.1

/-- What is known of accepted lines from the catalog. -/
structure Accepted.From (catalog : Catalog) (accepted : Accepted) (descriptor : Descriptor) : Prop where
  lookup : catalog.lookup accepted.line.name = some descriptor
  name : accepted.spec.name = descriptor.name
  multiLine : accepted.spec.multiLine = descriptor.multiLine
  excludes : accepted.spec.excludes = descriptor.excludes

theorem exists_from {accepted : Accepted} (isAccepted : acceptedAt? catalog lines number = some accepted) :
    ∃ descriptor, accepted.From catalog descriptor := by
  obtain ⟨_, _, descriptor, -, -, isRecorded, isSpec⟩ := acceptedAt?_eq_some isAccepted
  refine ⟨descriptor, lookup_of_recorded isRecorded, ?_, ?_, ?_⟩ <;> rw [isSpec]
  · exact specAt_unpatched Descriptor.name (fun _ _ => rfl) descriptor
  · exact specAt_unpatched Descriptor.multiLine (fun _ _ => rfl) descriptor
  · exact specAt_unpatched Descriptor.excludes (fun _ _ => rfl) descriptor

theorem exists_from_of_mem {accepted : Accepted} {first stop : Nat}
    (member : accepted ∈ acceptedIn catalog lines first stop) :
    ∃ descriptor, accepted.From catalog descriptor := by
  obtain ⟨number, -, isAccepted⟩ := List.mem_filterMap.mp member
  exact exists_from isAccepted

theorem Accepted.From.name_spec (isLoaded : Catalog.ofSource source = .ok catalog) {accepted : Accepted}
    {descriptor : Descriptor} (h : accepted.From catalog descriptor) :
    accepted.spec.name = accepted.name :=
  h.name.trans (name_of_lookup isLoaded h.lookup)

theorem consistent_acceptedIn (isLoaded : Catalog.ofSource source = .ok catalog)
    (lines : List (List Char)) (first stop : Nat) :
    Accepted.Consistent (acceptedIn catalog lines first stop) where
  spec := by
    intro accepted member
    obtain ⟨descriptor, h⟩ := exists_from_of_mem member
    exact h.name_spec isLoaded
  multiLine := by
    intro accepted member other isOther same
    obtain ⟨descriptor, h⟩ := exists_from_of_mem member
    obtain ⟨otherDescriptor, hOther⟩ := exists_from_of_mem isOther
    have sameLookup : catalog.lookup accepted.line.name = catalog.lookup other.line.name :=
      congrArg catalog.settings.find? same
    rw [h.lookup, hOther.lookup] at sameLookup
    rw [h.multiLine, hOther.multiLine, Option.some.inj sameLookup]

end Consistent

namespace Scan

variable {source : Catalog.Source} {catalog : Catalog} {lines : List (List Char)} {number : Nat}
  {scan : Scan}

theorem readLines_take_event {event : Event} (isEvent : eventAt? lines number = some event) :
    readLines catalog (lines.take (number + 1)) =
      (readLines catalog (lines.take number)).perform catalog event := by
  obtain ⟨line, isLine, -⟩ := Option.bind_eq_some_iff.mp isEvent
  rw [eventAt?_eq catalog isLine] at isEvent
  rw [readLines_take_succ, isLine]
  dsimp only
  rw [readLine_eq, isEvent]

/-- A line without an event is one of blocks, or nothing. -/
theorem readLines_take_other (catalog : Catalog) (noEvent : eventAt? lines number = none) :
    ∃ blocks findings, readLines catalog (lines.take (number + 1)) =
      { readLines catalog (lines.take number) with blocks }.report findings := by
  rw [readLines_take_succ]
  cases isLine : lines[number]? with
  | none => exact ⟨(readLines catalog (lines.take number)).blocks, [], by simp [report]⟩
  | some line =>
    rw [eventAt?_eq catalog isLine] at noEvent
    dsimp only
    rw [readLine_eq, noEvent]
    exact ⟨_, _, rfl⟩

theorem entries_flush (catalog : Catalog) (scan : Scan) :
    (scan.flush catalog).tree.entries = scan.tree.entries ∨
      ∃ current, scan.current = some current ∧
        (scan.flush catalog).tree.entries = scan.tree.entries ++ [Current.entry current] := by
  unfold flush
  split
  case h_1 => exact .inl rfl
  case h_2 current isCurrent =>
    dsimp only
    split
    · have isAdded := Section.Tree.entries_add catalog scan.tree current.name current.range
        current.settings
      split at isAdded
      · exact .inr ⟨current, isCurrent, isAdded⟩
      · exact .inl (isAdded.trans (List.append_nil _))
    · exact .inl rfl

/-- A scan before a line: the current section and those of the tree, which have headers above that of the
current one, hold what they accepted. -/
structure Keeps (catalog : Catalog) (lines : List (List Char)) (number : Nat) (scan : Scan) : Prop where
  current : scan.current.map Current.entry = (sectionAt? lines number).map fun found =>
    sectionEntry catalog lines number found.1 found.2
  tree : ∃ heads, Headers lines ((sectionAt? lines number).elim 0 Prod.fst) heads ∧
    scan.tree.entries = heads.map fun head => sectionEntry catalog lines number head.1 head.2

namespace Keeps

theorem sectionEntry_succ {first : Nat}
    (same : acceptedIn catalog lines first (number + 1) = acceptedIn catalog lines first number)
    (header : Line.SectionHeader) : sectionEntry catalog lines (number + 1) first header =
      sectionEntry catalog lines number first header := by
  rw [sectionEntry, same, sectionEntry]

/-- A line that no section accepts leaves all sections as they are. -/
theorem of_same (h : Keeps catalog lines number scan) {after : Scan}
    (noHeader : sectionAt? lines (number + 1) = sectionAt? lines number)
    (unaccepted : acceptedAt? catalog lines number = none)
    (sameCurrent : after.current = scan.current) (sameTree : after.tree = scan.tree) :
    Keeps catalog lines (number + 1) after := by
  have same (first : Nat) := sectionEntry_succ (acceptedIn_succ_of_none first unaccepted)
  constructor
  · simp only [sameCurrent, noHeader, same, h.current]
  · simpa only [sameTree, noHeader, same] using h.tree

/-- The sections that end with the current one are those of headers above. -/
theorem exists_headers (h : Keeps catalog lines number scan) : ∃ heads, Headers lines number heads ∧
    (scan.flush catalog).tree.entries = heads.map fun head =>
      sectionEntry catalog lines number head.1 head.2 := by
  obtain ⟨heads, areHeaders, areEntries⟩ := h.tree
  obtain same | ⟨current, isCurrent, isAdded⟩ := entries_flush catalog scan
  · have above : (sectionAt? lines number).elim 0 Prod.fst ≤ number := by
      cases isSection : sectionAt? lines number with
      | none => exact Nat.zero_le number
      | some found => exact (sectionAt?_eq_some isSection).1.le
    exact ⟨heads, areHeaders.mono above, same.trans areEntries⟩
  · have isEntry := h.current
    rw [isCurrent, Option.map_some] at isEntry
    obtain ⟨⟨first, header⟩, isSection, isEntry⟩ := Option.map_eq_some_iff.mp isEntry.symm
    obtain ⟨above, isHeader⟩ := sectionAt?_eq_some isSection
    rw [isSection] at areHeaders
    refine ⟨heads ++ [(first, header)], areHeaders.concat isHeader above, ?_⟩
    rw [isAdded, areEntries, List.map_append, List.map_singleton, isEntry]

theorem header (h : Keeps catalog lines number scan) {header : Line.SectionHeader}
    (isEvent : eventAt? lines number = some (.header header)) :
    Keeps catalog lines (number + 1) (scan.readHeader catalog header) := by
  have isSection : sectionAt? lines (number + 1) = some (number, header) := by
    rw [sectionAt?, isEvent]
  have unaccepted : acceptedAt? catalog lines number = none :=
    acceptedAt?_eq_none fun line isSetting => by cases isEvent.symm.trans isSetting
  have same (first : Nat) := sectionEntry_succ (acceptedIn_succ_of_none first unaccepted)
  have reported : Keeps catalog lines number (scan.report (deprecation catalog header)) :=
    ⟨h.current, h.tree⟩
  obtain ⟨heads, areHeaders, areEntries⟩ := reported.exists_headers
  rw [readHeader_eq_startSection]
  constructor
  · rw [isSection, Option.map_some, sectionEntry, acceptedIn_self]
    rfl
  · rw [isSection]
    simp only [same]
    exact ⟨heads, areHeaders, areEntries⟩

theorem exists_current (h : Keeps catalog lines number scan) {first : Nat}
    {header : Line.SectionHeader} (isSection : sectionAt? lines number = some (first, header)) :
    ∃ current, scan.current = some current ∧
      Current.entry current = sectionEntry catalog lines number first header := by
  have isCurrent := h.current
  rw [isSection, Option.map_some] at isCurrent
  exact Option.map_eq_some_iff.mp isCurrent

/-- A setting line that is not accepted is not recorded. -/
theorem unrecorded (h : Keeps catalog lines number scan) {line : Line.SettingLine}
    (isEvent : eventAt? lines number = some (.setting line))
    (unaccepted : acceptedAt? catalog lines number = none) (current : Current)
    (isCurrent : scan.current = some current) : recorded? catalog current.name line = none := by
  have isEntry := h.current
  rw [isCurrent, Option.map_some] at isEntry
  obtain ⟨⟨first, header⟩, isSection, isSame⟩ := Option.map_eq_some_iff.mp isEntry.symm
  have isName : current.name = sectionName catalog header := (congrArg Section.Entry.name isSame).symm
  simp only [acceptedAt?, isSection, isEvent, Option.map_eq_none_iff] at unaccepted
  rw [isName, unaccepted]

theorem tree_readSetting (catalog : Catalog) (scan : Scan) (line : Line.SettingLine) :
    (scan.readSetting catalog line).tree = scan.tree :=
  congrArg (fun outline => outline.2.1) (outline_readSetting catalog scan line)

/-- A line that a section accepts is recorded among the settings of its lines before. -/
theorem exists_recorded (h : Keeps catalog lines number (readLines catalog (lines.take number)))
    {accepted : Accepted} (isAccepted : acceptedAt? catalog lines number = some accepted) {first : Nat}
    {header : Line.SectionHeader} (isSection : sectionAt? lines number = some (first, header)) :
    let settings := Accepted.grouped (acceptedIn catalog lines first number)
    ∃ isCurrent scope, (readLines catalog (lines.take (number + 1))).current = some
        ⟨sectionName catalog header, header.range, recordIn settings accepted.setting, isCurrent⟩ ∧
      (readLines catalog (lines.take (number + 1))).findings =
        (readLines catalog (lines.take number)).findings ++
          ((checkWidget scope accepted.setting).toList ++
            recordFindings settings accepted.setting) := by
  obtain ⟨_, _, descriptor, isFound, isEvent, isRecorded, isSpec⟩ := acceptedAt?_eq_some isAccepted
  obtain ⟨rfl, rfl⟩ := Prod.mk.inj (Option.some.inj (isSection.symm.trans isFound))
  obtain ⟨⟨name, range, settings, isOpen⟩, isCurrent, isEntry⟩ := h.exists_current isSection
  obtain ⟨rfl, rfl, rfl⟩ : name = _ ∧ range = _ ∧ settings = _ := by
    simpa only [Current.entry, sectionEntry, Section.Entry.mk.injEq] using isEntry
  rw [specAt, isCurrent, Option.map_some, Option.getD_some] at isSpec
  obtain ⟨isAfter, areFindings⟩ := readSetting_recorded isCurrent isRecorded accepted.setting
    (by rw [Accepted.setting, isSpec]; rfl)
  rw [readLines_take_event isEvent]
  exact ⟨isOpen, _, isAfter, areFindings⟩

/-- A line that a section accepts is one more of its lines. -/
theorem accepted (isLoaded : Catalog.ofSource source = .ok catalog)
    (h : Keeps catalog lines number (readLines catalog (lines.take number))) {accepted : Accepted}
    (isAccepted : acceptedAt? catalog lines number = some accepted) :
    Keeps catalog lines (number + 1) (readLines catalog (lines.take (number + 1))) := by
  obtain ⟨first, header, _, isSection, isEvent, -⟩ := acceptedAt?_eq_some isAccepted
  obtain ⟨_, _, isCurrent, -⟩ := h.exists_recorded isAccepted isSection
  have noHeader : sectionAt? lines (number + 1) = some (first, header) := by
    rw [sectionAt?, isEvent, ← isSection]
  have isIn : belongs lines first number = true := belongs_iff.mpr ⟨header, isSection⟩
  have oneMore := acceptedIn_succ_of_belongs isIn isAccepted
  have consistent := consistent_acceptedIn isLoaded lines first (number + 1)
  constructor
  · rw [isCurrent, noHeader, Option.map_some, Option.map_some, sectionEntry, oneMore,
      Accepted.grouped_concat (oneMore ▸ consistent)]
    rfl
  · have sameTree : (readLines catalog (lines.take (number + 1))).tree =
        (readLines catalog (lines.take number)).tree := by
      rw [readLines_take_event isEvent]
      exact tree_readSetting ..
    obtain ⟨heads, areHeaders, areEntries⟩ := h.tree
    rw [isSection] at areHeaders
    rw [noHeader, sameTree, areEntries]
    refine ⟨heads, areHeaders, List.map_congr_left fun head member => ?_⟩
    have before : head.1 < first := areHeaders.above head member
    have isOut : belongs lines head.1 number = false := by
      simp [belongs, isSection, Nat.ne_of_gt before]
    exact (sectionEntry_succ (acceptedIn_succ_of_other isOut) head.2).symm

theorem readLines (isLoaded : Catalog.ofSource source = .ok catalog) (lines : List (List Char))
    (number : Nat) : Keeps catalog lines number (Scan.readLines catalog (lines.take number)) := by
  induction number with
  | zero => exact ⟨rfl, [], .nil lines 0, rfl⟩
  | succ number ih =>
    cases isEvent : eventAt? lines number with
    | none =>
      obtain ⟨blocks, findings, isRead⟩ := readLines_take_other catalog isEvent
      rw [isRead]
      refine ih.of_same ?_ ?_ rfl rfl
      · rw [sectionAt?, isEvent]
      · exact acceptedAt?_eq_none (by simp [isEvent])
    | some event =>
      cases event with
      | header header =>
        rw [readLines_take_event isEvent]
        exact ih.header isEvent
      | setting line =>
        cases isAccepted : acceptedAt? catalog lines number with
        | some accepted => exact ih.accepted isLoaded isAccepted
        | none =>
          have noHeader : sectionAt? lines (number + 1) = sectionAt? lines number := by
            rw [sectionAt?, isEvent]
          obtain ⟨findings, -, isRead⟩ :=
            (settingEffect_readSetting catalog _ line).exists_passed (ih.unrecorded isEvent isAccepted)
          rw [readLines_take_event isEvent, perform, isRead]
          exact ih.of_same noHeader isAccepted rfl rfl

end Keeps

/-- What an accepted line reports: of its effect and of earlier lines, of its value, and of settings that
exclude it if its name is new. -/
theorem exists_remarks (isLoaded : Catalog.ofSource source = .ok catalog) {accepted : Accepted}
    (isAccepted : acceptedAt? catalog lines number = some accepted) {first : Nat}
    (isIn : belongs lines first number = true) :
    let before := acceptedIn catalog lines first number
    ∃ asides, CodesIn [.ineffectiveSetting, .duplicateSetting] asides ∧ remarks catalog lines number =
      asides ++ Accepted.checked (Accepted.reference before accepted) accepted.line ++
        if (Accepted.ofName before accepted.name).isEmpty then
          checkExclusions (Accepted.grouped before) accepted.setting
        else [] := by
  obtain ⟨header, isSection⟩ := belongs_iff.mp isIn
  obtain ⟨_, scope, -, areFindings⟩ :=
    (Keeps.readLines isLoaded lines number).exists_recorded isAccepted isSection
  obtain ⟨_, _, _, -, isEvent, -⟩ := acceptedAt?_eq_some isAccepted
  obtain ⟨line, isLine, -⟩ := Option.bind_eq_some_iff.mp isEvent
  have consistent := consistent_acceptedIn isLoaded lines first (number + 1)
  rw [acceptedIn_succ_of_belongs isIn isAccepted] at consistent
  obtain ⟨repeated, areRepeated, isRecorded⟩ := Accepted.recordFindings_grouped consistent
  rw [readLines_take_event isEvent, perform, isRecorded] at areFindings
  refine ⟨(checkWidget scope accepted.setting).toList ++ repeated, ?_, ?_⟩
  · exact ((codesIn_checkWidget scope accepted.setting).mono (by decide)).append
      (areRepeated.mono (by decide))
  · simp only [remarks, isLine, isEvent]
    rw [areFindings, List.drop_left]
    simp only [List.append_assoc]

end Scan

section Document

variable {source : Catalog.Source} {catalog : Catalog} {lines : List (List Char)} {number : Nat}

theorem exists_acceptedIn_append (catalog : Catalog) (lines : List (List Char)) (first : Nat)
    {stop later : Nat} (le : stop ≤ later) :
    ∃ more, acceptedIn catalog lines first later = acceptedIn catalog lines first stop ++ more := by
  induction le with
  | refl => exact ⟨[], (List.append_nil _).symm⟩
  | step le ih =>
    obtain ⟨more, isLater⟩ := ih
    exact ⟨_, by rw [Nat.succ_eq_add_one, acceptedIn_succ, isLater, List.append_assoc]⟩

theorem lt_length_of_eventAt? {event : Event} (h : eventAt? lines number = some event) :
    number < lines.length := by
  obtain ⟨line, isLine, -⟩ := Option.bind_eq_some_iff.mp h
  exact (List.getElem?_eq_some_iff.mp isLine).1

/-- The value of an accepted line is checked once. -/
theorem filter_findings_accepted (isLoaded : Catalog.ofSource source = .ok catalog) {accepted : Accepted}
    (isAccepted : acceptedAt? catalog lines number = some accepted) {first : Nat}
    (isIn : belongs lines first number = true) :
    (Scan.ofLines catalog lines).findings.filter
        (fun finding => finding.range.start.line == number && finding.hasCode Value.codes) =
      Accepted.checked (Accepted.reference (acceptedIn catalog lines first lines.length) accepted)
        accepted.line := by
  obtain ⟨_, _, _, -, isEvent, -⟩ := acceptedAt?_eq_some isAccepted
  have isLine := lt_length_of_eventAt? isEvent
  obtain ⟨later, areAll⟩ := exists_acceptedIn_append catalog lines first (Nat.succ_le_of_lt isLine)
  obtain ⟨asides, areAsides, isRemarks⟩ := Scan.exists_remarks isLoaded isAccepted isIn
  have exclusions : CodesIn [.exclusiveSettings] (if (Accepted.ofName (acceptedIn catalog lines first
      number) accepted.name).isEmpty then Scan.checkExclusions (Accepted.grouped (acceptedIn catalog lines
        first number)) accepted.setting else []) := by
    split
    · exact Scan.codesIn_checkExclusions _ _
    · exact .nil
  rw [Scan.filter_findings_onLine (by decide) catalog isLine, isRemarks, List.filter_append,
    List.filter_append, areAsides.filter_eq_nil (by decide), (Accepted.codesIn_checked _ _).filter_eq_self,
    exclusions.filter_eq_nil (by decide), List.nil_append, List.append_nil, areAll, Nat.succ_eq_add_one,
    acceptedIn_succ_of_belongs isIn isAccepted, Accepted.reference_append]

/-- The sections of a document hold the lines that they accept. -/
theorem exists_headers_ofLines (isLoaded : Catalog.ofSource source = .ok catalog)
    (lines : List (List Char)) : ∃ heads, Headers lines lines.length heads ∧
      (Scan.ofLines catalog lines).tree.entries = heads.map fun head =>
        sectionEntry catalog lines lines.length head.1 head.2 := by
  have keeps := Scan.Keeps.readLines isLoaded lines lines.length
  rw [List.take_length] at keeps
  exact keeps.exists_headers

end Document

/-- In a document that a loaded catalog validates, the sections of the tree are those of headers, each of
its own and in their order. The settings of each are the lines that it accepts, grouped by name, and no two
have one name. Every accepted line is in one section, and its value is checked once. -/
theorem validate_groups {source : Catalog.Source} {catalog : Catalog}
    (isLoaded : Catalog.ofSource source = .ok catalog) (text : String) :
    let lines := Text.lines (Comment.blank text.toList)
    let accepted (first : Nat) := acceptedIn catalog lines first lines.length
    (∃ heads, Headers lines lines.length heads ∧
      (validate catalog text).tree.entries = heads.map fun head =>
        ⟨Scan.sectionName catalog head.2, head.2.range, Accepted.grouped (accepted head.1)⟩) ∧
    (∀ entry ∈ (validate catalog text).tree.entries, (entry.settings.map Setting.name).Nodup) ∧
    ∀ number declared, acceptedAt? catalog lines number = some declared → ∃ first,
      (∀ other, belongs lines other number = true ↔ other = first) ∧ declared ∈ accepted first ∧
      ((validate catalog text).findings.filter fun finding =>
          finding.range.start.line == number && finding.hasCode Value.codes) =
        Accepted.checked (Accepted.reference (accepted first) declared) declared.line := by
  intro lines accepted
  obtain ⟨heads, areHeaders, areEntries⟩ := exists_headers_ofLines isLoaded lines
  refine ⟨⟨heads, areHeaders, areEntries⟩, ?_, ?_⟩
  · intro entry member
    obtain ⟨head, -, rfl⟩ := List.mem_map.mp (areEntries ▸ member)
    rw [sectionEntry, Accepted.map_name_grouped (consistent_acceptedIn isLoaded lines head.1 _)]
    exact nodup_eraseDups _
  · intro number declared isAccepted
    obtain ⟨first, header, _, isSection, isEvent, -⟩ := acceptedAt?_eq_some isAccepted
    have isLine := lt_length_of_eventAt? isEvent
    have isIn : belongs lines first number = true := belongs_iff.mpr ⟨header, isSection⟩
    refine ⟨first, fun other => ?_, ?_, ?_⟩
    · rw [belongs, isSection, Option.map_some, beq_iff_eq, Option.some.injEq, eq_comm]
    · exact List.mem_filterMap.mpr
        ⟨number, List.mem_filter.mpr ⟨List.mem_range.mpr isLine, isIn⟩, isAccepted⟩
    · rw [validate, ofScan, filter_mergeSort start_trans start_total,
        filter_findings_accepted isLoaded isAccepted isIn, Accepted.checked]
      cases (Value.check _ declared.line.value).map _ <;> simp

/-- Settings of which one adds up and one excludes another. -/
def palette : Catalog.Source where
  settings := [
    { displayName := "Colors", multiLine := true }, { displayName := "title", excludes := ["label"] },
    { displayName := "label" }]
  sectionDepth := [("configuration", 0), ("group", 1)]

/-- A section that repeats its settings, below another that has them too. -/
def repeatedSettings : String :=
  "[configuration]\ntitle = a\ncolors = red\n[group]\ncolors = blue\ntitle = b\nCOLORS = green\nTitle = c"

theorem validate_groups_repeatedSettings :
    let lines := Text.lines (Comment.blank repeatedSettings.toList)
    ∃ catalog declared, Catalog.ofSource palette = .ok catalog ∧
      (validate catalog repeatedSettings).tree.entries.map (fun entry =>
          entry.settings.map fun setting => (setting.name, setting.value, setting.values)) =
        [[("title", "a", ["a"]), ("colors", "red", ["red"])],
          [("colors", "blue", ["blue", "green"]), ("title", "c", ["c"])]] ∧
      (∀ entry ∈ (validate catalog repeatedSettings).tree.entries,
        (entry.settings.map Setting.name).Nodup) ∧
      acceptedAt? catalog lines 6 = some declared ∧ declared ∈ acceptedIn catalog lines 3 lines.length ∧
      ((validate catalog repeatedSettings).findings.filter fun finding =>
          finding.range.start.line == 6 && finding.hasCode Value.codes) =
        Accepted.checked (Accepted.reference (acceptedIn catalog lines 3 lines.length) declared)
          declared.line := by
  intro lines
  have evaluated : ((Catalog.ofSource palette).toOption.map fun catalog => decide (
      (validate catalog repeatedSettings).tree.entries.map (fun entry =>
          entry.settings.map fun setting => (setting.name, setting.value, setting.values)) =
        [[("title", "a", ["a"]), ("colors", "red", ["red"])],
          [("colors", "blue", ["blue", "green"]), ("title", "c", ["c"])]] ∧
      (acceptedAt? catalog lines 6).isSome = true ∧ belongs lines 3 6 = true)) = some true := by
    decide +kernel
  obtain ⟨catalog, isCatalog, evaluated⟩ := Option.map_eq_some_iff.mp evaluated
  have isLoaded := eq_ok_of_toOption isCatalog
  obtain ⟨areEntries, isSome, isIn⟩ := of_decide_eq_true evaluated
  obtain ⟨declared, isAccepted⟩ := Option.isSome_iff_exists.mp isSome
  obtain ⟨-, distinct, onLines⟩ := validate_groups isLoaded repeatedSettings
  obtain ⟨first, only, isMember, areFindings⟩ := onLines 6 declared isAccepted
  obtain rfl := (only 3).mp isIn
  exact ⟨catalog, declared, isLoaded, areEntries, distinct, isAccepted, isMember, areFindings⟩

end ChartLint.Validation
