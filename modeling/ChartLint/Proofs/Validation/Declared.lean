import ChartLint.Catalog.Builtin
import ChartLint.Proofs.Validation.Event

/-!
Sections as they are written, with all that is declared in them. A setting may be declared again, but
what follows from it beside its value follows from the first declaration.
-/
namespace ChartLint.Validation

open Section (Stack)

/-- A section with what is declared in it, in order: names of settings and values. -/
structure Written where
  name : String
  range : Range
  declared : List (String × String) := []

namespace Written

/-- The values that are declared for a setting, in order. -/
def values (section_ : Written) (name : String) : List String :=
  (section_.declared.filter fun entry => entry.1 == name).map Prod.snd

def declare (section_ : Written) (entry : String × String) : Written :=
  { section_ with declared := section_.declared ++ [entry] }

@[simp] theorem values_declare (section_ : Written) (entry : String × String) (name : String) :
    (section_.declare entry).values name =
      section_.values name ++ if entry.1 = name then [entry.2] else [] := by
  by_cases same : entry.1 = name <;> simp [values, declare, same]

theorem head?_values_declare (section_ : Written) (entry : String × String) (name : String) :
    ((section_.declare entry).values name).head? =
      (section_.values name).head?.or (if entry.1 = name then some entry.2 else none) := by
  rw [values_declare, List.head?_append]
  split <;> rfl

theorem getLast?_values_declare (section_ : Written) (entry : String × String) (name : String) :
    ((section_.declare entry).values name).getLast? =
      if entry.1 = name then some entry.2 else (section_.values name).getLast? := by
  rw [values_declare]
  split <;> simp

/-- The child sections that a widget has to hold by its first type. -/
def required (catalog : Catalog) (section_ : Written) : List (List String) :=
  ((section_.values "type").head?.bind catalog.requirementsOfWidget?).getD
    (catalog.requiredSections "widget")

/-- The alias of a section, which is the first that it declares. -/
def alias? (section_ : Written) : Option String :=
  (section_.values "alias").head?.map Text.trimmed

theorem alias?_declare (section_ : Written) (entry : String × String) :
    (section_.declare entry).alias? =
      section_.alias?.or (if entry.1 = "alias" then some (Text.trimmed entry.2) else none) := by
  rw [alias?, head?_values_declare, Option.map_or, alias?]
  split <;> rfl

theorem alias?_eq_some {section_ : Written} {name : String} :
    section_.alias? = some name ↔
      ∃ first later, section_.values "alias" = first :: later ∧ Text.trimmed first = name := by
  simp only [alias?, Option.map_eq_some_iff, List.head?_eq_some_iff]
  grind

/-- Adds an event to sections, the latest first. -/
def extend (catalog : Catalog) (sections : List Written) : Event → List Written
  | .header header => ⟨Scan.sectionName catalog header, header.range, []⟩ :: sections
  | .setting line =>
    match sections with
    | [] => []
    | current :: earlier =>
      ((declaration? catalog current.name line).elim current current.declare) :: earlier

end Written

/-- The sections of a document, the latest first. -/
def written (catalog : Catalog) (lines : List (List Char)) : List Written :=
  (events lines).foldl (Written.extend catalog) []

namespace Scan

/-- What a scan knows of the section that it reads. -/
structure Reads (catalog : Catalog) (stack : Stack) (current : Current) (section_ : Written) :
    Prop where
  name : section_.name = current.name
  range : section_.range = current.range
  declares : ∀ name, current.declares name = (section_.values name).head?.isSome
  stored : ∀ setting ∈ current.settings, setting.spec.multiLine = false →
    (section_.values setting.name).getLast? = some setting.value
  required : current.accepted = true → current.name = "widget" → section_.values "url" = [] →
    stack.top?.map Section.Frame.alternatives =
      some ((section_.required catalog).map fun names => ⟨names, 0⟩)

/-- What a scan knows of the sections so far. -/
structure Tracks (catalog : Catalog) (scan : Scan) (sections : List Written) : Prop where
  start : scan.current = none → sections = []
  current : ∀ current, scan.current = some current → ∃ section_ earlier,
    sections = section_ :: earlier ∧ Reads catalog scan.stack current section_
  aliases : ∀ name, name ∈ scan.aliases ↔ ∃ section_ ∈ sections, section_.alias? = some name

namespace Tracks

variable {catalog : Catalog} {scan : Scan} {sections : List Written}

theorem header (h : Tracks catalog scan sections) {number : Nat}
    (coherent : Coherent catalog number scan) {header : Line.SectionHeader}
    (isLine : header.range.start.line = number) :
    Tracks catalog (scan.readHeader catalog header)
      (Written.extend catalog sections (.header header)) := by
  obtain ⟨findings, -, isRead⟩ := readHeader_eq catalog scan header
  have ended := ended_flush catalog (scan.report findings)
  have aliases (name : String) : name ∈ ((scan.report findings).flush catalog).aliases ↔
      ∃ section_ ∈ Written.extend catalog sections (.header header),
        section_.alias? = some name := by
    have none (name : String) (range : Range) : (⟨name, range, []⟩ : Written).alias? = none := rfl
    rw [ended.aliases]
    simpa [Written.extend, none] using h.aliases name
  rw [isRead]
  cases isLevel : ((scan.report findings).flush catalog).stack.accept catalog
      (sectionName catalog header) with
  | ok level =>
    rw [startSection_of_accepted isLevel]
    refine ⟨by simp, ?_, aliases⟩
    rintro _ ⟨⟩
    refine ⟨_, _, rfl, rfl, rfl, fun _ => rfl, List.forall_mem_nil _, fun _ isWidget _ => ?_⟩
    dsimp only at isWidget
    simp [report, Stack.openAt, Stack.top?, Written.required, Written.values, isWidget]
  | error issue =>
    rw [startSection_of_rejected isLevel (coherent.earlier_flush findings isLine)]
    refine ⟨by simp, ?_, aliases⟩
    rintro _ ⟨⟩
    exact ⟨_, _, rfl, rfl, rfl, fun _ => rfl, List.forall_mem_nil _, by simp⟩

theorem passed (h : Tracks catalog scan sections) {line : Line.SettingLine}
    (unrecorded : ∀ current, scan.current = some current →
      recorded? catalog current.name line = none) :
    Written.extend catalog sections (.setting line) = sections := by
  cases isCurrent : scan.current with
  | none => rw [h.start isCurrent]; rfl
  | some current =>
    obtain ⟨section_, earlier, rfl, reads⟩ := h.current current isCurrent
    simp [Written.extend, declaration?, reads.name, unrecorded current isCurrent]

/-- A line that is recorded in the current section. -/
theorem recorded (h : Tracks catalog scan sections) {line : Line.SettingLine} {current : Current}
    {descriptor : Descriptor} (isCurrent : scan.current = some current)
    (isRecorded : recorded? catalog current.name line = some descriptor) :
    ∃ section_ earlier, sections = section_ :: earlier ∧ Reads catalog scan.stack current section_ ∧
      Written.extend catalog sections (.setting line) =
        section_.declare (descriptor.name, line.value) :: earlier := by
  obtain ⟨section_, earlier, rfl, reads⟩ := h.current current isCurrent
  refine ⟨section_, earlier, rfl, reads, ?_⟩
  simp [Written.extend, declaration?, reads.name, isRecorded]

end Tracks

section Setting

variable {catalog : Catalog} {stack : Stack} {current : Current} {section_ : Written}

/-- A declaration that is repeated gives the setting its value, but does not change what else follows
from the section. -/
theorem Reads.repeated (h : Reads catalog stack current section_) (entry : String × String)
    (declared : current.declares entry.1 = true) {settings : List Setting}
    (keeps : ∀ name, { current with settings }.declares name = current.declares name)
    (stores : ∀ setting ∈ settings, setting ∈ current.settings ∧ setting.name ≠ entry.1 ∨
      setting.name = entry.1 ∧ (setting.spec.multiLine = false → setting.value = entry.2)) :
    Reads catalog stack { current with settings } (section_.declare entry) ∧
      (section_.declare entry).alias? = section_.alias? := by
  -- The first value stays, whatever is declared again.
  have first (name : String) :
      ((section_.declare entry).values name).head? = (section_.values name).head? := by
    rw [Written.head?_values_declare]
    split
    case isTrue same =>
      rw [same, h.declares] at declared
      exact Option.or_of_isSome declared
    case isFalse => exact Option.or_none
  refine ⟨⟨h.name, h.range, fun name => ?_, fun setting member single => ?_,
    fun accepted isWidget noUrl => ?_⟩, ?_⟩
  · rw [keeps, h.declares, first]
  · rw [Written.getLast?_values_declare]
    rcases stores setting member with ⟨member, isOther⟩ | ⟨isName, isLast⟩
    · rw [if_neg isOther.symm]
      exact h.stored setting member single
    · rw [if_pos isName.symm, isLast single]
  · rw [Written.required, first]
    refine h.required accepted isWidget ?_
    exact (List.append_eq_nil_iff.mp (Written.values_declare .. ▸ noUrl)).1
  · rw [Written.alias?, first, Written.alias?]

theorem Reads.head?_eq_none (h : Reads catalog stack current section_) {name : String}
    (undeclared : current.declares name = false) : (section_.values name).head? = none := by
  simpa [undeclared] using h.declares name

/-- The first type of a widget gives the child sections that it has to hold. -/
theorem required_noted {value : String} {frame : Section.Frame}
    (isRequired : frame.alternatives = (section_.required catalog).map fun names => ⟨names, 0⟩)
    {name : String} (isFirst : (section_.values name).head? = none) (noUrl : name ≠ "url") :
    (noted catalog name value frame).alternatives =
      ((section_.declare (name, value)).required catalog).map fun names => ⟨names, 0⟩ := by
  unfold noted
  split
  case isTrue isType =>
    subst isType
    have typed : (section_.declare ("type", value)).required catalog =
        (catalog.requirementsOfWidget? value).getD (section_.required catalog) := by
      simp only [Written.required, Written.head?_values_declare, isFirst]
      rfl
    rw [typed]
    cases catalog.requirementsOfWidget? value with
    | none => exact isRequired
    | some options => rfl
  case isFalse other =>
    have same : (section_.declare (name, value)).required catalog = section_.required catalog := by
      simp [Written.required, other]
    rw [same, if_neg (fun h => noUrl h.1)]
    exact isRequired

end Setting

namespace Tracks

variable {catalog : Catalog} {scan : Scan} {sections : List Written}

theorem setting (h : Tracks catalog scan sections) (follows : scan.Follows catalog)
    (line : Line.SettingLine) :
    Tracks catalog (scan.readSetting catalog line)
      (Written.extend catalog sections (.setting line)) := by
  have effect := settingEffect_readSetting catalog scan line
  generalize scan.readSetting catalog line = after at effect
  cases effect with
  | passed unrecorded =>
    rw [h.passed unrecorded]
    exact ⟨h.start, h.current, h.aliases⟩
  | @repeated current descriptor settings _ isCurrent isRecorded declared keeps stores =>
    obtain ⟨section_, earlier, rfl, reads, isExtended⟩ := h.recorded isCurrent isRecorded
    obtain ⟨reads, sameAlias⟩ := reads.repeated (descriptor.name, line.value) declared keeps stores
    rw [isExtended]
    refine ⟨nofun, ?_, fun name => ?_⟩
    · rintro _ ⟨⟩
      exact ⟨_, _, rfl, reads⟩
    · simpa [sameAlias] using h.aliases name
  | @declared current descriptor setting findings isCurrent isRecorded undeclared isName isValue =>
    obtain ⟨section_, earlier, rfl, reads, isExtended⟩ := h.recorded isCurrent isRecorded
    have isFirst := reads.head?_eq_none undeclared
    rw [isExtended]
    refine ⟨nofun, ?_, fun name => ?_⟩
    · rintro _ ⟨⟩
      refine ⟨_, _, rfl, reads.name, reads.range, fun name => ?_, fun other member single => ?_,
        fun accepted isWidget noUrl => ?_⟩
      · rw [Current.declares_append, reads.declares, Written.head?_values_declare, Option.isSome_or,
          isName]
        by_cases same : descriptor.name = name <;> simp [same]
      · rw [Written.getLast?_values_declare]
        rcases List.mem_append.mp member with member | member
        · rw [if_neg (Ne.symm (current.name_ne_of_not_declares undeclared member))]
          exact reads.stored other member single
        · obtain rfl := List.mem_singleton.mp member
          rw [if_pos isName.symm, isValue]
      · have noUrlBefore : section_.values "url" = [] :=
          (List.append_eq_nil_iff.mp (Written.values_declare .. ▸ noUrl)).1
        have isOther : descriptor.name ≠ "url" := by
          intro isUrl
          simp [isUrl] at noUrl
        obtain ⟨frame, outer, isFrames, isTop, -⟩ := follows.exists_top isCurrent accepted
        have isRequired := reads.required accepted isWidget noUrlBefore
        simp only [Stack.top?, isFrames, List.head?_cons, Option.map_some, Option.some.injEq]
          at isRequired
        have isReported : (scan.report findings).stack.frames = frame :: outer := isFrames
        dsimp only at accepted isWidget ⊢
        rw [Stack.top?, frames_note isReported (isTop.trans isWidget) accepted isWidget, isName,
          isValue]
        exact congrArg some (required_noted isRequired isFirst isOther)
    · rw [aliases_note, List.mem_append, isName, isValue]
      have noAlias : descriptor.name = "alias" → section_.alias? = none := by
        intro isAlias
        rw [Written.alias?, ← isAlias, isFirst]
        rfl
      have before := h.aliases name
      simp only [List.mem_cons, exists_eq_or_imp] at before ⊢
      rw [Written.alias?_declare]
      by_cases isAlias : descriptor.name = "alias"
      · simp only [noAlias isAlias, reduceCtorEq, false_or] at before
        simp [isAlias, noAlias isAlias, before, or_comm, eq_comm]
      · simpa [isAlias] using before

theorem readLine (h : Tracks catalog scan sections) {number : Nat}
    (coherent : Coherent catalog number scan) (line : List Char) :
    Tracks catalog (scan.readLine catalog line number)
      ((Event.read? scan.blocks line number).toList.foldl (Written.extend catalog) sections) := by
  rw [readLine_eq]
  cases isEvent : Event.read? scan.blocks line number with
  | none => exact ⟨h.start, h.current, h.aliases⟩
  | some event =>
    cases event with
    | header found => exact h.header coherent (Event.line_of_header isEvent)
    | setting line => exact h.setting coherent.follows line

end Tracks

theorem tracks_readLines (catalog : Catalog) (lines : List (List Char)) :
    Tracks catalog (readLines catalog lines) (written catalog lines) := by
  induction lines using List.reverseRecOn with
  | nil => exact ⟨fun _ => rfl, nofun, fun _ => by simp [readLines, written, events, Event.list]⟩
  | append_singleton lines line ih =>
    rw [readLines_concat, written, events_concat catalog, List.foldl_append]
    exact ih.readLine (readLines_coherent catalog lines) line

theorem aliases_ofLines (catalog : Catalog) (lines : List (List Char)) :
    (ofLines catalog lines).aliases = (readLines catalog lines).aliases :=
  (ended_flush catalog (readLines catalog lines)).aliases

/-- A setting has the value of its last declaration, unless it has many lines. What else follows from it
follows from the first: the first type that a widget declares decides on the child sections that it has
to hold, and the aliases of a document are the first that its sections declare. -/
theorem ofLines_follow_first (catalog : Catalog) (lines : List (List Char)) :
    (∀ current, (readLines catalog lines).current = some current →
      ∃ section_ earlier, written catalog lines = section_ :: earlier ∧
        section_.name = current.name ∧ section_.range = current.range ∧
        (∀ setting ∈ current.settings, setting.spec.multiLine = false →
          (section_.values setting.name).getLast? = some setting.value) ∧
        (current.accepted = true → current.name = "widget" → section_.values "url" = [] →
          ∀ first later, section_.values "type" = first :: later →
            ∃ frame, (readLines catalog lines).stack.top? = some frame ∧ frame.name = "widget" ∧
              frame.range = current.range ∧ frame.alternatives =
                ((catalog.requirementsOfWidget? first).getD (catalog.requiredSections "widget")).map
                  fun names => ⟨names, 0⟩)) ∧
    ∀ name, name ∈ (ofLines catalog lines).aliases ↔
      ∃ section_ ∈ written catalog lines, ∃ first later,
        section_.values "alias" = first :: later ∧ Text.trimmed first = name := by
  have tracks := tracks_readLines catalog lines
  constructor
  · intro current isCurrent
    obtain ⟨section_, earlier, isWritten, reads⟩ := tracks.current current isCurrent
    refine ⟨section_, earlier, isWritten, reads.name, reads.range, reads.stored, ?_⟩
    intro accepted isWidget noUrl first later isType
    obtain ⟨frame, outer, isFrames, isName, isRange⟩ :=
      (readLines_coherent catalog lines).follows.exists_top isCurrent accepted
    have isTop : (readLines catalog lines).stack.top? = some frame := by
      rw [Stack.top?, isFrames, List.head?_cons]
    have required := reads.required accepted isWidget noUrl
    rw [isTop, Option.map_some, Option.some.injEq, Written.required, isType] at required
    exact ⟨frame, isTop, isName.trans isWidget, isRange, required⟩
  · intro name
    rw [aliases_ofLines, tracks.aliases]
    simp only [Written.alias?_eq_some]

/-- A document with a widget of two types and a series of two aliases. -/
def repeatedLines : List (List Char) :=
  ["[configuration]", "[group]", "[widget]", "type = chart", "type = text", "[series]", "alias = a",
    "alias = b"].map String.toList

-- The built-in catalog is costly to evaluate, so all that is needed of it is evaluated at once.
theorem read_repeatedLines :
    ((readLines .builtin (repeatedLines.take 5)).current.any fun current =>
      current.accepted && current.name == "widget") = true ∧
    (written .builtin (repeatedLines.take 5)).head?.map
      (fun section_ => (section_.values "type", section_.values "url")) =
        some (["chart", "text"], []) ∧
    Catalog.builtin.requirementsOfWidget? "chart" = some [["series"]] ∧
    Catalog.builtin.requirementsOfWidget? "text" = some [] ∧
    (readLines .builtin (repeatedLines.take 5)).stack.top?.map Section.Frame.alternatives =
      some [⟨["series"], 0⟩] ∧
    (written .builtin repeatedLines).map (Written.values · "alias") = [["a", "b"], [], [], []] ∧
    (ofLines .builtin repeatedLines).aliases = ["a"] := by
  decide +kernel

/-- The widget has to hold a series by its first type. -/
theorem ofLines_follow_first_repeatedLines :
    ∃ frame, (readLines .builtin (repeatedLines.take 5)).stack.top? = some frame ∧
      frame.name = "widget" ∧ frame.alternatives = [⟨["series"], 0⟩] := by
  obtain ⟨isOpen, isDeclared, isListed, -⟩ := read_repeatedLines
  obtain ⟨current, isCurrent, isWidget⟩ := (Option.any_eq_true ..).mp isOpen
  rw [Bool.and_eq_true, beq_iff_eq] at isWidget
  obtain ⟨section_, earlier, isWritten, -, -, -, isRequired⟩ :=
    (ofLines_follow_first .builtin (repeatedLines.take 5)).1 current isCurrent
  simp only [isWritten, List.head?_cons, Option.map_some, Option.some.injEq, Prod.mk.injEq]
    at isDeclared
  obtain ⟨frame, isTop, isName, -, areAlternatives⟩ :=
    isRequired isWidget.1 isWidget.2 isDeclared.2 "chart" ["text"] isDeclared.1
  rw [isListed] at areAlternatives
  exact ⟨frame, isTop, isName, areAlternatives⟩

/-- The last type of the widget asks for no child section, and yet it has to hold a series; the last
alias of the series is not one of the document. -/
theorem ofLines_repeatedLines :
    (written .builtin (repeatedLines.take 5)).head?.map (Written.values · "type") =
      some ["chart", "text"] ∧
    Catalog.builtin.requirementsOfWidget? "text" = some [] ∧
    (readLines .builtin (repeatedLines.take 5)).stack.top?.map Section.Frame.alternatives =
      some [⟨["series"], 0⟩] ∧
    (written .builtin repeatedLines).map (Written.values · "alias") = [["a", "b"], [], [], []] ∧
    "b" ∉ (ofLines .builtin repeatedLines).aliases := by
  obtain ⟨-, isDeclared, -, isListed, isRequired, areAliases, isAliases⟩ := read_repeatedLines
  refine ⟨?_, isListed, isRequired, areAliases, ?_⟩
  · simpa [Function.comp_def] using congrArg (Option.map Prod.fst) isDeclared
  · rw [isAliases]
    decide

end Scan

end ChartLint.Validation
