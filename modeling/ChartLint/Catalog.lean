import ChartLint.Catalog.Error

/-!
Catalogs: the known settings by their normalized names, and the tables of sections.
-/
namespace ChartLint

structure Catalog where
  settings : Table Descriptor := []
  /-- Nesting depth of every known section; the root has depth zero. -/
  sectionDepth : Table Nat := []
  /-- Sections that may be declared again at any level. -/
  inheritable : List String := []
  parents : Table (List String) := []
  required : Table Catalog.Requirements := []
  widgetRequirements : Table (List (List String)) := []
  aliases : Table String := []
  /-- Sections whose settings are data of the user. -/
  freeForm : List String := []

namespace Catalog

/-- A section's name in lower case, which has to be known. -/
def knownSection (depths : Table Nat) (reference : Reference) (name : String) :
    Except Error String :=
  let name := Text.lower name
  if depths.contains name then .ok name else .error (.unknownSection reference name)

def buildPattern (setting : String) (pattern hint : Option String) :
    Except Error (Option ValuePattern) :=
  match pattern, hint with
  | none, none => .ok none
  | some source, some hint =>
    match Pattern.parseWhole? source with
    | some pattern => .ok (some ⟨source, pattern, hint⟩)
    | none => .error (.invalidSetting setting (.invalidPattern source))
  | _, _ => .error (.invalidSetting setting .patternWithoutHint)

def buildOverride (setting : String) (source : OverrideSource) : Except Error Override :=
  match Scope.Expr.parse source.guard with
  | .ok guard => .ok ⟨source.guard, guard, source.patch⟩
  | .error reason => .error (.invalidScopeExpression setting source.guard reason)

/-- Whether a pair of bounds is the wrong way round. -/
def inverted (minimum maximum : Option Bound) : Option Flaw :=
  match minimum, maximum with
  | some least, some greatest =>
    if greatest.value.less least.value then some (.boundsInverted least.value greatest.value)
    else none
  | _, _ => none

def buildSetting (depths : Table Nat) (source : SettingSource) : Except Error Descriptor := do
  let name := normalizeName source.displayName
  if name.isEmpty then .error (.invalidSetting source.displayName .noLetters)
  if let some flaw := inverted source.minimum source.maximum then
    .error (.invalidSetting source.displayName flaw)
  let pattern ← buildPattern source.displayName source.pattern source.patternHint
  let sections ← source.sections.mapM (knownSection depths .settings)
  let overrides ← source.overrides.mapM (buildOverride source.displayName)
  return {
    displayName := source.displayName
    name
    kind := source.kind
    enumValues := normalizeEnum source.enumValues
    minimum := source.minimum
    maximum := source.maximum
    example? := source.example?
    default? := source.default?
    pattern
    excludes := source.excludes.map normalizeName
    multiLine := source.multiLine
    sections
    widgets := source.widgets.map Text.lower
    description := source.description
    overrides }

/-- Adds a setting to those before it; no two may have the same normalized name. -/
def addSetting (depths : Table Nat) (settings : Table Descriptor) (source : SettingSource) :
    Except Error (Table Descriptor) := do
  let setting ← buildSetting depths source
  if settings.contains setting.name then
    .error (.invalidSetting setting.displayName .duplicate)
  else return settings.insert setting.name setting

/-- Adds entries to a table in order, each as read from its source. -/
def buildTable {α β : Type} (entry : String → α → Except Error (String × β)) (source : Table α) :
    Except Error (Table β) := do
  return Table.ofList (← source.mapM fun (key, value) => entry key value)

/-- The catalog of a source: every section named has to be known, and every setting sound. -/
def ofSource (source : Source) : Except Error Catalog := do
  let depths := Table.ofList (source.sectionDepth.map fun (name, depth) => (Text.lower name, depth))
  let known := knownSection depths
  let settings ← source.settings.foldlM (addSetting depths) []
  let inheritable ← source.inheritableSections.mapM (known .inheritableSections)
  let parents ← buildTable (fun child parents => do
    return (← known .parentSections child, ← parents.mapM (known .parentSections)))
    source.parentSections
  let required ← buildTable (fun name requirements => do
    let name ← known .requiredSectionSettings name
    let sections ← requirements.sections.mapM (·.mapM (known .requiredSectionSettings))
    return (name, ⟨sections, requirements.settings.map (·.map Text.lower)⟩))
    source.requiredSectionSettings
  let widgetRequirements ← buildTable (fun type alternatives => do
    return (Text.lower type, ← alternatives.mapM (·.mapM (known .widgetRequirementsByType))))
    source.widgetRequirementsByType
  let aliases ← buildTable (fun deprecated canonical => do
    return (Text.lower deprecated, ← known .sectionAliases canonical))
    source.sectionAliases
  let freeForm ← source.freeFormSections.mapM (known .freeFormSections)
  return {
    settings
    sectionDepth := depths
    inheritable := sortNames inheritable
    parents
    required
    widgetRequirements
    aliases
    freeForm := sortNames freeForm }

/-- The setting of any spelling of a name. -/
def lookup (catalog : Catalog) (name : String) : Option Descriptor :=
  catalog.settings.find? (normalizeName name)

def depth? (catalog : Catalog) (name : String) : Option Nat := catalog.sectionDepth.find? name

/-- Known sections of a depth, sorted by name. -/
def sectionsAtDepth (catalog : Catalog) (depth : Nat) : List String :=
  (catalog.sectionDepth.filter fun entry => entry.2 == depth).map Prod.fst

/-- The section that a deprecated name stands for. -/
def canonical? (catalog : Catalog) (name : String) : Option String := catalog.aliases.find? name

def isInheritable (catalog : Catalog) (name : String) : Bool := catalog.inheritable.contains name

def isFreeForm (catalog : Catalog) (name : String) : Bool := catalog.freeForm.contains name

/-- Sections that may directly enclose a section. -/
def parentSections (catalog : Catalog) (name : String) : List String :=
  (catalog.parents.find? name).getD []

/-- Alternatives of child sections that a section has to hold. -/
def requiredSections (catalog : Catalog) (name : String) : List (List String) :=
  ((catalog.required.find? name).map Requirements.sections).getD []

/-- Lists of settings of each of which a section has to hold one. -/
def requiredSettings (catalog : Catalog) (name : String) : List (List String) :=
  ((catalog.required.find? name).map Requirements.settings).getD []

/-- Alternatives of child sections for a widget type. -/
def requirementsOfWidget? (catalog : Catalog) (widgetType : String) : Option (List (List String)) :=
  catalog.widgetRequirements.find? (Text.lower widgetType)

/-- Whether a setting may stand in a section: in one of its own, or in one that is less deep than all
of its own, whose settings are inherited. -/
def allows (catalog : Catalog) (descriptor : Descriptor) (name : String) : Bool :=
  descriptor.sections.isEmpty || descriptor.sections.contains name ||
    match catalog.depth? name with
    | none => false
    | some depth =>
      (descriptor.sections.filterMap catalog.depth?).all fun listed => depth < listed

end Catalog

end ChartLint
