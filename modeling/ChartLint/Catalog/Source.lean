import ChartLint.Catalog.Descriptor

/-!
Catalogs as they are written, before their names are checked.
-/
namespace ChartLint.Catalog

/-- What a section has to hold. -/
structure Requirements where
  /-- Alternatives, each a list of child sections that are all declared. -/
  sections : List (List String) := []
  /-- Lists of settings, of each of which one is declared. -/
  settings : List (List String) := []

structure OverrideSource where
  guard : String := ""
  patch : Patch := {}

structure SettingSource where
  displayName : String := ""
  kind : ValueKind := .string
  enumValues : List String := []
  minimum : Option Bound := none
  maximum : Option Bound := none
  example? : Option String := none
  default? : Option String := none
  pattern : Option String := none
  patternHint : Option String := none
  excludes : List String := []
  multiLine : Bool := false
  sections : List String := []
  widgets : List String := []
  description : Option String := none
  overrides : List OverrideSource := []

structure Source where
  settings : List SettingSource := []
  sectionDepth : Table Nat := []
  inheritableSections : List String := []
  parentSections : Table (List String) := []
  requiredSectionSettings : Table Requirements := []
  widgetRequirementsByType : Table (List (List String)) := []
  sectionAliases : Table String := []
  freeFormSections : List String := []

end ChartLint.Catalog
