import ChartLint.Proofs.Validation.Accepted
import Mathlib.Data.Finset.Powerset

/-!
Settings that exclude each other. An exclusion is written on one side only and looked for when a name is
first recorded; yet every pair of names that exclude each other is reported once, so the number of reports
depends on the set of recorded names alone.
-/
namespace ChartLint.Validation

/-- Whether the descriptor of a name excludes another name from its section. -/
def excludesName (catalog : Catalog) (name other : String) : Bool :=
  (catalog.settings.find? name).any fun descriptor => descriptor.excludes.contains other

/-- Whether one of two names excludes the other. -/
def conflicting (catalog : Catalog) (name other : String) : Bool :=
  excludesName catalog name other || excludesName catalog other name

/-- The pairs of different names of which one excludes the other. -/
def conflicts (catalog : Catalog) (names : Finset String) : Finset (Finset String) :=
  (names.powersetCard 2).filter fun pair =>
    ∃ name ∈ pair, ∃ other ∈ pair, name ≠ other ∧ conflicting catalog name other = true

/-- The names of settings that the section of a header records up to a line. -/
def recordedNames (catalog : Catalog) (lines : List (List Char)) (first stop : Nat) : Finset String :=
  ((acceptedIn catalog lines first stop).map Accepted.name).toFinset

/-- The name that a setting line spells. -/
def spelledAt? (lines : List (List Char)) (number : Nat) : Option String :=
  match eventAt? lines number with
  | some (.setting line) => some (normalizeName line.name)
  | _ => none

/-- The names that the setting lines of the section of a header spell. -/
def spelledNames (lines : List (List Char)) (first : Nat) : Finset String :=
  (((List.range lines.length).filter (belongs lines first)).filterMap (spelledAt? lines)).toFinset

/-- Whether a section records settings of a name. -/
def records? (catalog : Catalog) (sectionName name : String) : Bool :=
  !catalog.isFreeForm sectionName &&
    (catalog.settings.find? name).any fun descriptor => catalog.allows descriptor sectionName

section Pairs

variable {catalog : Catalog} {names : Finset String} {name other : String}

theorem conflicting_comm (catalog : Catalog) (name other : String) :
    conflicting catalog name other = conflicting catalog other name :=
  Bool.or_comm ..

theorem mem_conflicts {pair : Finset String} : pair ∈ conflicts catalog names ↔
    ∃ name ∈ names, ∃ other ∈ names, name ≠ other ∧ conflicting catalog name other = true ∧
      pair = {name, other} := by
  simp only [conflicts, Finset.mem_filter, Finset.mem_powersetCard]
  constructor
  · rintro ⟨⟨within, isPair⟩, name, isName, other, isOther, distinct, conflict⟩
    refine ⟨name, within isName, other, within isOther, distinct, conflict, ?_⟩
    have subset : {name, other} ⊆ pair :=
      Finset.insert_subset isName (Finset.singleton_subset_iff.mpr isOther)
    refine (Finset.eq_of_subset_of_card_le subset ?_).symm
    rw [isPair, Finset.card_pair distinct]
  · rintro ⟨name, isName, other, isOther, distinct, conflict, rfl⟩
    refine ⟨⟨?_, Finset.card_pair distinct⟩, name, ?_, other, ?_, distinct, conflict⟩
    · exact Finset.insert_subset isName (Finset.singleton_subset_iff.mpr isOther)
    · simp
    · simp

/-- A new name conflicts with names before it. -/
theorem conflicts_insert (isNew : name ∉ names) :
    conflicts catalog (insert name names) = conflicts catalog names ∪
      (names.filter fun other => conflicting catalog name other).image fun other => {name, other} := by
  ext pair
  simp only [mem_conflicts, Finset.mem_union, Finset.mem_image, Finset.mem_filter]
  constructor
  · rintro ⟨a, isA, b, isB, distinct, conflict, rfl⟩
    rcases Finset.mem_insert.mp isA with rfl | isOldA
    · have isOldB := (Finset.mem_insert.mp isB).resolve_left (Ne.symm distinct)
      exact .inr ⟨b, ⟨isOldB, conflict⟩, rfl⟩
    · rcases Finset.mem_insert.mp isB with rfl | isOldB
      · exact .inr ⟨a, ⟨isOldA, conflicting_comm catalog a b ▸ conflict⟩, Finset.pair_comm ..⟩
      · exact .inl ⟨a, isOldA, b, isOldB, distinct, conflict, rfl⟩
  · rintro (⟨a, isA, b, isB, distinct, conflict, rfl⟩ | ⟨other, ⟨isOther, conflict⟩, rfl⟩)
    · exact ⟨a, Finset.mem_insert_of_mem isA, b, Finset.mem_insert_of_mem isB, distinct, conflict, rfl⟩
    · have distinct : name ≠ other := fun same => isNew (same ▸ isOther)
      exact ⟨name, Finset.mem_insert_self .., other, Finset.mem_insert_of_mem isOther, distinct,
        conflict, rfl⟩

theorem card_conflicts_insert (isNew : name ∉ names) :
    (conflicts catalog (insert name names)).card = (conflicts catalog names).card +
      (names.filter fun other => conflicting catalog name other).card := by
  rw [conflicts_insert isNew, Finset.card_union_of_disjoint, Finset.card_image_of_injOn]
  · intro a isA b isB same
    have isOther : a ≠ name := fun isName => isNew (isName ▸ (Finset.mem_filter.mp isA).1)
    have samePair : ({name, a} : Finset String) = {name, b} := same
    have isPair : a ∈ ({name, b} : Finset String) := samePair ▸ by simp
    simpa [isOther] using isPair
  · rw [Finset.disjoint_left]
    intro pair isOld isPair
    obtain ⟨a, isA, b, isB, -, -, rfl⟩ := mem_conflicts.mp isOld
    obtain ⟨other, -, same⟩ := Finset.mem_image.mp isPair
    have isName : name ∈ ({a, b} : Finset String) := same ▸ Finset.mem_insert_self ..
    rcases Finset.mem_insert.mp isName with rfl | isName
    · exact isNew isA
    · exact isNew (Finset.mem_singleton.mp isName ▸ isB)

/-- The pairs depend on which names conflict, and not on which side says so. -/
theorem conflicts_congr {otherCatalog : Catalog}
    (same : ∀ name ∈ names, ∀ other ∈ names,
      conflicting catalog name other = conflicting otherCatalog name other) :
    conflicts catalog names = conflicts otherCatalog names := by
  ext pair
  simp only [mem_conflicts]
  grind

end Pairs

section Recorded

variable {source : Catalog.Source} {catalog : Catalog} {lines : List (List Char)} {first number : Nat}

theorem Accepted.From.excludesName_eq {accepted : Accepted} {descriptor : Descriptor}
    (h : accepted.From catalog descriptor) (other : String) :
    excludesName catalog accepted.name other = accepted.spec.excludes.contains other := by
  have isFound : catalog.settings.find? accepted.name = some descriptor := h.lookup
  rw [excludesName, isFound, Option.any_some, h.excludes]

/-- The settings of a section exclude what their descriptors in the catalog do. -/
theorem excludesName_of_mem_grouped (isLoaded : Catalog.ofSource source = .ok catalog) {setting : Setting}
    (member : setting ∈ Accepted.grouped (acceptedIn catalog lines first number)) (other : String) :
    excludesName catalog setting.name other = setting.spec.excludes.contains other := by
  have consistent := consistent_acceptedIn isLoaded lines first number
  obtain ⟨head, later, isGroup, isMerged⟩ := (Accepted.mem_grouped consistent).mp member
  have isSpec : ∃ accepted ∈ head :: later, setting.spec = accepted.spec := by
    rcases Accepted.merged_cases head later with ⟨-, isHead⟩ | ⟨-, last, isLast, isSetting⟩
    · exact ⟨head, List.mem_cons_self, by rw [isMerged, isHead]; rfl⟩
    · exact ⟨last, isLast, by rw [isMerged, isSetting]; rfl⟩
  obtain ⟨accepted, isIn, isSpec⟩ := isSpec
  obtain ⟨isAccepted, isName⟩ := Accepted.mem_ofName.mp (isGroup ▸ isIn)
  obtain ⟨descriptor, h⟩ := exists_from_of_mem isAccepted
  rw [← isName, isSpec, h.excludesName_eq]

/-- Two settings exclude each other if their names do. -/
theorem excludes_eq_conflicting (isLoaded : Catalog.ofSource source = .ok catalog) {accepted : Accepted}
    (isAccepted : acceptedAt? catalog lines number = some accepted) {setting : Setting}
    (member : setting ∈ Accepted.grouped (acceptedIn catalog lines first number)) :
    Scan.excludes accepted.setting setting = conflicting catalog accepted.name setting.name := by
  obtain ⟨descriptor, h⟩ := exists_from isAccepted
  have isName : accepted.setting.name = accepted.name := h.name_spec isLoaded
  have isSpec : accepted.setting.spec.excludes = accepted.spec.excludes := rfl
  rw [conflicting, h.excludesName_eq, excludesName_of_mem_grouped isLoaded member, ← isSpec, ← isName,
    Scan.excludes]

end Recorded

namespace Scan

/-- What is reported of a setting line that is not recorded. -/
def refusals : List Code :=
  [.settingOutsideSection, .settingSentAsTag, .unknownSetting, .settingNotAllowed]

theorem code_of_describe {catalog : Catalog} {current : Option Current} {line : Line.SettingLine}
    {issue : Issue} (h : describe catalog current line = .error (some issue)) :
    issue.code ∈ refusals := by
  unfold describe at h
  split at h
  case h_1 =>
    cases h
    simp [Issue.code, refusals]
  case h_2 =>
    split at h
    · split at h
      · cases h
        simp [Issue.code, refusals]
      · cases h
    · split at h
      · cases h
        simp [Issue.code, refusals]
      · split at h
        · cases h
        · cases h
          simp [Issue.code, refusals]

theorem codesIn_readSetting_unrecorded {catalog : Catalog} {scan : Scan} {line : Line.SettingLine}
    (unrecorded : ∀ current, scan.current = some current →
      recorded? catalog current.name line = none) :
    ∃ findings, CodesIn refusals findings ∧
      (scan.readSetting catalog line).findings = scan.findings ++ findings := by
  unfold readSetting
  split
  case h_1 issue isDescribed =>
    refine ⟨_, .toList fun finding isFinding => ?_, rfl⟩
    obtain ⟨found, rfl, rfl⟩ := Option.map_eq_some_iff.mp isFinding
    exact code_of_describe isDescribed
  case h_2 => exact ⟨[], .nil, (List.append_nil _).symm⟩
  case h_3 descriptor current isDescribed isCurrent =>
    have unknown := unrecorded current isCurrent
    rw [isCurrent] at isDescribed
    obtain ⟨_, -, isRecorded⟩ | ⟨_, isError, -⟩ := describe_eq catalog current line
    · cases unknown.symm.trans isRecorded
    · cases isDescribed.symm.trans isError

variable {source : Catalog.Source} {catalog : Catalog} {lines : List (List Char)} {first number : Nat}

/-- A line that is not accepted reports no exclusion. -/
theorem filter_remarks_unaccepted (isLoaded : Catalog.ofSource source = .ok catalog)
    (unaccepted : acceptedAt? catalog lines number = none) :
    (remarks catalog lines number).filter (Finding.hasCode [.exclusiveSettings]) = [] := by
  cases isLine : lines[number]? with
  | none => simp [remarks, isLine]
  | some line =>
    cases isEvent : eventAt? lines number with
    | none =>
      simp only [remarks, isLine, isEvent]
      exact (Block.Tracker.codesIn_step _ line number).filter_eq_nil (by decide)
    | some event =>
      cases event with
      | header header => simp [remarks, isLine, isEvent]
      | setting setting =>
        have unrecorded := (Keeps.readLines isLoaded lines number).unrecorded isEvent unaccepted
        obtain ⟨findings, areRefusals, isAdded⟩ := codesIn_readSetting_unrecorded unrecorded
        simp only [remarks, isLine, isEvent, isAdded, List.drop_left]
        exact areRefusals.filter_eq_nil (by decide)

/-- A new setting meets as many exclusions as there are recorded names that conflict with its own. -/
theorem length_checkExclusions (isLoaded : Catalog.ofSource source = .ok catalog) {accepted : Accepted}
    (isAccepted : acceptedAt? catalog lines number = some accepted) (first : Nat) :
    (checkExclusions (Accepted.grouped (acceptedIn catalog lines first number))
        accepted.setting).length =
      ((recordedNames catalog lines first number).filter fun other =>
        conflicting catalog accepted.name other).card := by
  have isGrouped := Accepted.map_name_grouped (consistent_acceptedIn isLoaded lines first number)
  have areNames : recordedNames catalog lines first number = ((Accepted.grouped
      (acceptedIn catalog lines first number)).map Setting.name).toFinset := by
    ext name
    simp [recordedNames, isGrouped]
  have distinct : ((Accepted.grouped
      (acceptedIn catalog lines first number)).map Setting.name).Nodup := by
    rw [isGrouped]
    exact nodup_eraseDups _
  rw [checkExclusions, List.length_map, areNames, ← List.toFinset_filter,
    List.toFinset_card_of_nodup (distinct.filter _), List.filter_map, List.length_map]
  refine congrArg List.length (List.filter_congr fun setting member => ?_)
  exact excludes_eq_conflicting isLoaded isAccepted member

/-- An accepted line reports the settings before it that exclude it, unless its name is recorded. -/
theorem filter_remarks_accepted (isLoaded : Catalog.ofSource source = .ok catalog) {accepted : Accepted}
    (isAccepted : acceptedAt? catalog lines number = some accepted)
    (isIn : belongs lines first number = true) :
    ((remarks catalog lines number).filter (Finding.hasCode [.exclusiveSettings])).length =
      if accepted.name ∈ recordedNames catalog lines first number then 0
      else ((recordedNames catalog lines first number).filter fun other =>
        conflicting catalog accepted.name other).card := by
  obtain ⟨asides, areAsides, isRemarks⟩ := exists_remarks isLoaded isAccepted isIn
  have isRecorded : accepted.name ∈ recordedNames catalog lines first number ↔
      (Accepted.ofName (acceptedIn catalog lines first number) accepted.name).isEmpty = false := by
    rw [recordedNames, List.mem_toFinset, ← List.contains_iff_mem, Accepted.contains_name,
      Bool.not_eq_true']
  rw [isRemarks, List.filter_append, List.filter_append, areAsides.filter_eq_nil (by decide),
    (Accepted.codesIn_checked _ _).filter_eq_nil (by decide), List.nil_append, List.nil_append]
  by_cases isOld : accepted.name ∈ recordedNames catalog lines first number
  · rw [if_pos isOld, isRecorded.mp isOld]
    rfl
  · rw [if_neg isOld, if_pos (by simpa [isRecorded] using isOld),
      (codesIn_checkExclusions _ _).filter_eq_self, length_checkExclusions isLoaded isAccepted]

/-- Up to each line, a section has as many exclusions reported as pairs of recorded names conflict. -/
theorem length_flatMap_remarks (isLoaded : Catalog.ofSource source = .ok catalog)
    (lines : List (List Char)) (first stop : Nat) :
    ((List.range stop).flatMap fun number => if belongs lines first number then
        (remarks catalog lines number).filter (Finding.hasCode [.exclusiveSettings]) else []).length =
      (conflicts catalog (recordedNames catalog lines first stop)).card := by
  induction stop with
  | zero => rfl
  | succ stop ih =>
    rw [List.range_succ, List.flatMap_append, List.length_append, ih, List.flatMap_singleton]
    cases isIn : belongs lines first stop with
    | false =>
      rw [recordedNames, recordedNames, acceptedIn_succ_of_other isIn]
      rfl
    | true =>
      cases isAccepted : acceptedAt? catalog lines stop with
      | none =>
        rw [if_pos rfl, filter_remarks_unaccepted isLoaded isAccepted, recordedNames, recordedNames,
          acceptedIn_succ_of_none first isAccepted]
        rfl
      | some accepted =>
        have oneMore : recordedNames catalog lines first (stop + 1) =
            insert accepted.name (recordedNames catalog lines first stop) := by
          rw [recordedNames, acceptedIn_succ_of_belongs isIn isAccepted]
          ext name
          simp [recordedNames, eq_comm]
        rw [if_pos rfl, filter_remarks_accepted isLoaded isAccepted isIn, oneMore]
        split
        case isTrue isOld => rw [Finset.insert_eq_of_mem isOld, Nat.add_zero]
        case isFalse isNew => exact (card_conflicts_insert isNew).symm

end Scan

section Names

variable {catalog : Catalog} {lines : List (List Char)} {first : Nat} {header : Line.SectionHeader}

theorem isSome_recorded? (catalog : Catalog) (name : String) (line : Line.SettingLine) :
    (recorded? catalog name line).isSome = records? catalog name (normalizeName line.name) := by
  rw [recorded?, records?, Catalog.lookup]
  cases catalog.isFreeForm name with
  | true => rfl
  | false =>
    cases catalog.settings.find? (normalizeName line.name) with
    | none => rfl
    | some descriptor =>
      rw [if_neg Bool.false_ne_true, Option.filter_some, Option.any_some]
      cases catalog.allows descriptor name <;> rfl

theorem sectionAt?_of_belongs {number : Nat} (isHeader : eventAt? lines first = some (.header header))
    (isIn : belongs lines first number = true) : sectionAt? lines number = some (first, header) := by
  obtain ⟨found, isSection⟩ := belongs_iff.mp isIn
  have isFound := isHeader.symm.trans (sectionAt?_eq_some isSection).2
  rw [isSection, Event.header.inj (Option.some.inj isFound)]

theorem spelledAt?_eq_some {number : Nat} {name : String} : spelledAt? lines number = some name ↔
    ∃ line, eventAt? lines number = some (.setting line) ∧ normalizeName line.name = name := by
  unfold spelledAt?
  split
  case h_1 line isEvent => simp [isEvent]
  case h_2 isOther => simpa using fun line isEvent => absurd isEvent (isOther line)

/-- Which names a section records depends on the names that its lines spell. -/
theorem recordedNames_eq (isHeader : eventAt? lines first = some (.header header)) :
    recordedNames catalog lines first lines.length =
      (spelledNames lines first).filter fun name =>
        records? catalog (Scan.sectionName catalog header) name := by
  ext name
  simp only [recordedNames, spelledNames, acceptedIn, Finset.mem_filter, List.mem_toFinset, List.mem_map,
    List.mem_filterMap, List.mem_filter]
  constructor
  · rintro ⟨accepted, ⟨number, ⟨isLine, isIn⟩, isAccepted⟩, rfl⟩
    obtain ⟨_, _, descriptor, isFound, isEvent, isRecorded, -⟩ := acceptedAt?_eq_some isAccepted
    have isSection := sectionAt?_of_belongs isHeader isIn
    obtain ⟨rfl, rfl⟩ := Prod.mk.inj (Option.some.inj (isSection.symm.trans isFound))
    refine ⟨⟨number, ⟨isLine, isIn⟩, spelledAt?_eq_some.mpr ⟨_, isEvent, rfl⟩⟩, ?_⟩
    rw [Accepted.name, ← isSome_recorded?, isRecorded]
    rfl
  · rintro ⟨⟨number, ⟨isLine, isIn⟩, isSpelled⟩, isKept⟩
    obtain ⟨line, isEvent, rfl⟩ := spelledAt?_eq_some.mp isSpelled
    have isSection := sectionAt?_of_belongs isHeader isIn
    rw [← isSome_recorded?] at isKept
    obtain ⟨descriptor, isRecorded⟩ := Option.isSome_iff_exists.mp isKept
    refine ⟨⟨line, specAt catalog lines number descriptor⟩, ⟨number, ⟨isLine, isIn⟩, ?_⟩, rfl⟩
    simp only [acceptedAt?, isSection, isEvent, isRecorded, Option.map_some]

end Names

/-- The exclusions that a document reports in the section of a header. -/
def exclusionsIn (catalog : Catalog) (text : String) (first : Nat) : List Finding :=
  let lines := Text.lines (Comment.blank text.toList)
  (validate catalog text).findings.filter fun finding =>
    belongs lines first finding.range.start.line && finding.hasCode [.exclusiveSettings]

theorem length_exclusionsIn {source : Catalog.Source} {catalog : Catalog}
    (isLoaded : Catalog.ofSource source = .ok catalog) (text : String) (first : Nat) :
    let lines := Text.lines (Comment.blank text.toList)
    (exclusionsIn catalog text first).length =
      (conflicts catalog (recordedNames catalog lines first lines.length)).card := by
  intro lines
  rw [exclusionsIn, validate, ofScan, filter_mergeSort start_trans start_total, List.length_mergeSort,
    Scan.filter_findings_on (by decide) catalog lines (belongs lines first),
    Scan.length_flatMap_remarks isLoaded]

/-- In the section of a header, as many exclusions are reported as there are pairs of recorded names of
which one excludes the other. So the order of the setting lines, how often they are repeated and which side
of a pair excludes the other make no difference: the number is the same in another section, of another
document and with another catalog, whose lines spell the same names, if the same of them are recorded and
the same pairs conflict. -/
theorem validate_exclusions {source : Catalog.Source} {catalog : Catalog}
    (isLoaded : Catalog.ofSource source = .ok catalog) (text : String) {first : Nat}
    {header : Line.SectionHeader}
    (isHeader : eventAt? (Text.lines (Comment.blank text.toList)) first = some (.header header)) :
    let lines := Text.lines (Comment.blank text.toList)
    (exclusionsIn catalog text first).length =
        (conflicts catalog (recordedNames catalog lines first lines.length)).card ∧
      ∀ otherSource otherCatalog otherText otherFirst otherHeader,
        let others := Text.lines (Comment.blank (otherText : String).toList)
        Catalog.ofSource otherSource = .ok otherCatalog →
        eventAt? others otherFirst = some (.header otherHeader) →
        spelledNames others otherFirst = spelledNames lines first →
        (∀ name ∈ spelledNames lines first,
          records? otherCatalog (Scan.sectionName otherCatalog otherHeader) name =
            records? catalog (Scan.sectionName catalog header) name) →
        (∀ name ∈ spelledNames lines first, ∀ other ∈ spelledNames lines first,
          conflicting otherCatalog name other = conflicting catalog name other) →
        (exclusionsIn otherCatalog otherText otherFirst).length =
          (exclusionsIn catalog text first).length := by
  intro lines
  refine ⟨length_exclusionsIn isLoaded text first, ?_⟩
  intro otherSource otherCatalog otherText otherFirst otherHeader others isOtherLoaded isOtherHeader
    sameNames sameRecords sameConflicts
  have sameRecorded : recordedNames otherCatalog others otherFirst others.length =
      recordedNames catalog lines first lines.length := by
    rw [recordedNames_eq isOtherHeader, recordedNames_eq isHeader, sameNames]
    exact Finset.filter_congr fun name member => by rw [sameRecords name member]
  have spelled {name : String} (member : name ∈ recordedNames catalog lines first lines.length) :
      name ∈ spelledNames lines first := by
    rw [recordedNames_eq isHeader] at member
    exact (Finset.mem_filter.mp member).1
  rw [length_exclusionsIn isOtherLoaded, length_exclusionsIn isLoaded, sameRecorded]
  exact congrArg Finset.card (conflicts_congr fun name isName other isOther =>
    sameConflicts name (spelled isName) other (spelled isOther))

/-- The settings of `palette`, with the exclusion on the other side. -/
def turnedPalette : Catalog.Source :=
  { palette with settings := [
      { displayName := "label", excludes := ["title"] }, { displayName := "title" },
      { displayName := "Colors", multiLine := true }] }

theorem validate_exclusions_turnedPalette :
    let text := "[group]\ntitle = a\nlabel = b\ncolors = red\ntitle = c"
    let otherText := "[group]\ncolors = red\nlabel = b\nlabel = d\nTitle = a"
    ∃ catalog otherCatalog, Catalog.ofSource palette = .ok catalog ∧
      Catalog.ofSource turnedPalette = .ok otherCatalog ∧
      (exclusionsIn catalog text 0).length = 1 ∧ (exclusionsIn otherCatalog otherText 0).length = 1 := by
  intro text otherText
  let lines := Text.lines (Comment.blank text.toList)
  let others := Text.lines (Comment.blank otherText.toList)
  let header : Line.SectionHeader := ⟨"group", .span 0 0 6⟩
  have isSection : sectionAt? lines 1 = some (0, header) ∧ sectionAt? others 1 = some (0, header) := by
    decide +kernel
  have isHeader := (sectionAt?_eq_some isSection.1).2
  have isOtherHeader := (sectionAt?_eq_some isSection.2).2
  have evaluated : ((Catalog.ofSource palette).toOption.bind fun catalog =>
      (Catalog.ofSource turnedPalette).toOption.map fun otherCatalog => decide (
        (conflicts catalog (recordedNames catalog lines 0 lines.length)).card = 1 ∧
        spelledNames others 0 = spelledNames lines 0 ∧
        (∀ name ∈ spelledNames lines 0,
          records? otherCatalog (Scan.sectionName otherCatalog header) name =
            records? catalog (Scan.sectionName catalog header) name) ∧
        ∀ name ∈ spelledNames lines 0, ∀ other ∈ spelledNames lines 0,
          conflicting otherCatalog name other = conflicting catalog name other)) = some true := by
    decide +kernel
  obtain ⟨catalog, isCatalog, evaluated⟩ := Option.bind_eq_some_iff.mp evaluated
  obtain ⟨otherCatalog, isOther, evaluated⟩ := Option.map_eq_some_iff.mp evaluated
  obtain ⟨onePair, sameNames, sameRecords, sameConflicts⟩ := of_decide_eq_true evaluated
  have isLoaded := eq_ok_of_toOption isCatalog
  have isOtherLoaded := eq_ok_of_toOption isOther
  obtain ⟨count, same⟩ := validate_exclusions isLoaded text isHeader
  have sameCount := same turnedPalette otherCatalog otherText 0 header isOtherLoaded isOtherHeader sameNames
    sameRecords sameConflicts
  exact ⟨catalog, otherCatalog, isLoaded, isOtherLoaded, count.trans onePair,
    sameCount.trans (count.trans onePair)⟩

end ChartLint.Validation
