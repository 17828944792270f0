import ChartLint.Block.Tracker
import ChartLint.Catalog.Suggestion
import ChartLint.Line.Section
import ChartLint.Line.Setting
import ChartLint.Rule
import ChartLint.Section.Stack
import ChartLint.Value.Reference

/-!
The scan of a document, line by line. A line goes to the tracker of blocks first; what is left are
section headers and settings. The settings of a section are kept until the next header, then the
section joins the tree.
-/
namespace ChartLint.Validation

/-- The section whose settings are being read. -/
structure Current where
  name : String
  range : Range
  settings : List Setting := []
  /-- Whether the stack of sections holds it. -/
  accepted : Bool

structure Scan where
  stack : Section.Stack := {}
  tree : Section.Tree := {}
  blocks : Block.Tracker := {}
  current : Option Current := none
  /-- Declared aliases of series. -/
  aliases : List String := []
  /-- References to aliases and their places. -/
  references : List (String × Range) := []
  /-- Findings in the order in which they were made. -/
  findings : List Finding := []

namespace Scan

def report (scan : Scan) (findings : List Finding) : Scan :=
  { scan with findings := scan.findings ++ findings }

/-- The settings that a section lacks. One list of alternatives stands for one setting; series that
compute their values need none. -/
def missingSettings (catalog : Catalog) (stack : Section.Stack) (current : Current) :
    List Finding :=
  let declared (name : String) : Bool :=
    (Setting.named? current.settings (normalizeName name)).isSome ||
      (stack.setting? name true).isSome
  if current.name == "series" && declared "value" then []
  else (catalog.requiredSettings current.name).filterMap fun
    | [] => none
    | first :: others =>
      if (first :: others).any declared then none
      else some ⟨.requiredSettingMissing current.name first, current.range⟩

/-- Ends the current section: what it lacks is reported, and an accepted section joins the tree. -/
def flush (catalog : Catalog) (scan : Scan) : Scan :=
  match scan.current with
  | none => scan
  | some current =>
    let scan := { scan with current := none }.report (missingSettings catalog scan.stack current)
    if current.accepted then
      { scan with
        stack := scan.stack.addSettings current.settings
        tree := scan.tree.add catalog current.name current.range current.settings }
    else scan

/-- Starts a section of a canonical name. It was accepted if the innermost open section is the one
at its place. -/
def startSection (catalog : Catalog) (scan : Scan) (name : String) (range : Range) : Scan :=
  let (stack, findings) :=
    match scan.stack.insert catalog name range with
    | .ok (stack, unmet) => (stack, unmet.toList)
    | .error issue => (scan.stack, [⟨issue, range⟩])
  let accepted := stack.top?.any fun frame => frame.range == range
  { scan with stack, current := some { name, range, accepted } }.report findings

/-- Reads a section header, whose name may be deprecated. -/
def readHeader (catalog : Catalog) (scan : Scan) (header : Line.SectionHeader) : Scan :=
  let written := Text.lower header.name
  match catalog.canonical? written with
  | none => (scan.flush catalog).startSection catalog written header.range
  | some name =>
    let scan := scan.report [⟨.deprecatedSection written name, header.range⟩]
    (scan.flush catalog).startSection catalog name header.range

/-- The descriptor of a setting line, or else what is wrong with the line, if anything is: a section of
free form holds data. -/
def describe (catalog : Catalog) (current : Option Current) (line : Line.SettingLine) :
    Except (Option Issue) Descriptor :=
  match current, catalog.lookup line.name with
  | none, _ => .error (some (.outsideSection line.name))
  | some current, found =>
    if catalog.isFreeForm current.name then
      if !line.quoted && current.name != "placeholders" && found.isSome then
        .error (some (.sentAsTag line.name current.name))
      else .error none
    else
      match found with
      | none => .error (some (.unknownSetting line.name (catalog.suggest line.name)))
      | some descriptor =>
        if catalog.allows descriptor current.name then .ok descriptor
        else .error (some (.notAllowedInSection descriptor.displayName current.name))

/-- The nearest value for a key, in the current section or in an open one. -/
def scopeValue? (scan : Scan) (current : Current) (key : Scope.Key) : Option String :=
  ((Setting.named? current.settings key.settingName).or
    (scan.stack.setting? key.settingName true)).map Setting.value

/-- The scope at a line of the current section. -/
def scope (scan : Scan) (current : Current) : Scope :=
  .ofValues (scan.scopeValue? current .type) (scan.scopeValue? current .mode)

/-- The finding of a setting that has no effect for the type of its widget. -/
def checkWidget (scope : Scope) (setting : Setting) : Option Finding :=
  scope.type.bind fun type =>
    if setting.spec.appliesTo type then none
    else
      let conditions := s!"type is one of {Text.commaList setting.spec.widgets}"
      some ⟨.ineffective setting.displayName conditions, setting.range⟩

/-- Whether one of two settings excludes the other from its section. -/
def excludes (a b : Setting) : Bool :=
  a.spec.excludes.contains b.name || b.spec.excludes.contains a.name

/-- The findings of settings that exclude a new one. -/
def checkExclusions (settings : List Setting) (setting : Setting) : List Finding :=
  (settings.filter (excludes setting)).map fun other =>
    ⟨.exclusiveSettings setting.displayName other.displayName, setting.range⟩

/-- Settings with one of them replaced by another of the same name. -/
def replace (settings : List Setting) (setting : Setting) : List Setting :=
  settings.map fun other => if other.name == setting.name then setting else other

/-- Merges a repeated setting into the earlier one: values of many lines add up, of others the last
declaration wins. -/
def merge (earlier setting : Setting) : Setting × List Finding :=
  if earlier.spec.multiLine then
    let issue := Value.check earlier.spec setting.value
    ({ earlier with values := earlier.values ++ [setting.value] },
      (issue.map fun issue => ⟨issue, setting.range⟩).toList)
  else
    (setting, ⟨.duplicateSetting setting.displayName, setting.range⟩ :: setting.check.toList)

/-- What a new setting says beside its value: the type and the address of a widget decide on its child
sections, and series declare aliases and refer to them. -/
def note (catalog : Catalog) (scan : Scan) (current : Current) (setting : Setting)
    (valueColumn : Nat) : Scan :=
  let isWidget := current.accepted && current.name == "widget"
  if setting.name == "type" && isWidget then
    match catalog.requirementsOfWidget? setting.value with
    | some options => { scan with stack := scan.stack.replaceRequirements "widget" options }
    | none => scan
  else if setting.name == "url" && isWidget then
    if Value.hasField setting.value.toList then
      { scan with stack := scan.stack.require "widget" ["placeholders"] }
    else scan
  else if setting.name == "alias" then
    { scan with aliases := scan.aliases ++ [Text.trimmed setting.value] }
  else if setting.name == "value" then
    let references := (Value.Reference.list setting.value.toList).map fun reference =>
      (String.ofList reference.name,
        Range.span setting.range.start.line (valueColumn + reference.offset)
          (Text.byteSize reference.name))
    { scan with references := scan.references ++ references }
  else scan

/-- Records a setting of the current section. -/
def record (catalog : Catalog) (scan : Scan) (current : Current) (setting : Setting)
    (valueColumn : Nat) : Scan :=
  match Setting.named? current.settings setting.name with
  | some earlier =>
    let (merged, findings) := merge earlier setting
    let current := { current with settings := replace current.settings merged }
    { scan with current := some current }.report findings
  | none =>
    let scan := scan.report (setting.check.toList ++ checkExclusions current.settings setting)
    let scan := scan.note catalog current setting valueColumn
    { scan with current := some { current with settings := current.settings ++ [setting] } }

/-- Reads a setting line. -/
def readSetting (catalog : Catalog) (scan : Scan) (line : Line.SettingLine) : Scan :=
  match describe catalog scan.current line, scan.current with
  | .error issue, _ => scan.report (issue.map fun issue => ⟨issue, line.nameRange⟩).toList
  | .ok _, none => scan
  | .ok descriptor, some current =>
    let scope := scan.scope current
    let setting := Setting.declare descriptor scope line.value line.nameRange
    let scan := scan.report (checkWidget scope setting).toList
    scan.record catalog current setting line.valueColumn

/-- Reads a line without comments. -/
def readLine (catalog : Catalog) (scan : Scan) (line : List Char) (number : Nat) : Scan :=
  match scan.blocks.read? line number with
  | some (blocks, findings) => { scan with blocks }.report findings
  | none =>
    match Line.sectionHeader? line number with
    | some header => scan.readHeader catalog header
    | none =>
      match Line.setting? line number with
      | some setting => scan.readSetting catalog setting
      | none => scan

/-- The findings of references to aliases that no series declares. -/
def undeclaredAliases (scan : Scan) : List Finding :=
  (scan.references.filter fun reference => !scan.aliases.contains reference.1).map fun reference =>
    ⟨.undeclaredAlias reference.1, reference.2⟩

/-- Ends the document. -/
def finish (catalog : Catalog) (scan : Scan) : Scan :=
  let scan := scan.flush catalog
  let (blocks, unclosed) := scan.blocks.finish
  let (stack, unmet) := scan.stack.finish
  { scan with blocks, stack }.report
    (unclosed ++ unmet.toList ++ scan.undeclaredAliases ++ Rule.findings catalog scan.tree)

/-- The scan of lines that others may follow. -/
def readLines (catalog : Catalog) (lines : List (List Char)) : Scan :=
  lines.zipIdx.foldl (fun scan entry => scan.readLine catalog entry.1 entry.2) {}

/-- The scan of all lines. -/
def ofLines (catalog : Catalog) (lines : List (List Char)) : Scan :=
  (readLines catalog lines).finish catalog

end Scan

end ChartLint.Validation
