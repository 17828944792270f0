import ChartLint.Catalog.Source
import ChartLint.Json.Draft
import ChartLint.Text.Phrase

/-!
What may be wrong with a catalog.
-/
namespace ChartLint.Catalog

/-- A value that does not fit the form of catalogs. -/
inductive Mismatch where
  | invalidType (found expected : String)
  | invalidValue (found expected : String)
  | invalidLength (length : Nat) (expected : String)
  | unknownField (name : String) (known : List String)
  | duplicateField (name : String)
  | missingField (name : String)
  | unknownVariant (name : String) (known : List String)
  | noVariant (name : String)

/-- Names in backticks, with commas. -/
def backticked (names : List String) : String :=
  Text.commaList (names.map fun name => s!"`{name}`")

def Mismatch.message : Mismatch → String
  | invalidType found expected => s!"invalid type: {found}, expected {expected}"
  | invalidValue found expected => s!"invalid value: {found}, expected {expected}"
  | invalidLength length expected => s!"invalid length {length}, expected {expected}"
  | unknownField name known => s!"unknown field `{name}`, expected one of {backticked known}"
  | duplicateField name => s!"duplicate field `{name}`"
  | missingField name => s!"missing field `{name}`"
  | unknownVariant name known => s!"unknown variant `{name}`, expected one of {backticked known}"
  | noVariant name => s!"data did not match any variant of untagged enum {name}"

/-- Why a text is no catalog source. -/
inductive Problem where
  | malformed (fault : Json.Fault)
  /-- The offset is that of the text read when the mismatch is found. -/
  | unfit (mismatch : Mismatch) (offset : Nat)

/-- Kinds of problems: the text is no JSON, ends too early, or does not fit the form of catalogs. -/
inductive Problem.Category where
  | syntactic
  | ending
  | content

namespace Problem

def category : Problem → Category
  | malformed fault => if fault.kind.isEnd then .ending else .syntactic
  | unfit .. => .content

/-- The problem with its place in the text. -/
def message (text : List Char) : Problem → String
  | malformed fault => fault.message text
  | unfit mismatch offset => Json.located mismatch.message offset text

/-- The problem with its place in the text unless it is a mismatch. -/
def brief (text : List Char) : Problem → String
  | malformed fault => fault.message text
  | unfit mismatch _ => mismatch.message

end Problem

/-- What is wrong with a setting of a catalog. -/
inductive Flaw where
  | noLetters
  | boundsInverted (minimum maximum : Number.Binary64)
  | patternWithoutHint
  | invalidPattern (source : String)
  | duplicate

def Flaw.message : Flaw → String
  | noLetters => "name has no letters"
  | boundsInverted minimum maximum =>
    s!"minValue {minimum.plain} exceeds maxValue {maximum.plain}"
  | patternWithoutHint => "pattern and patternHint must be given together"
  | invalidPattern source => s!"invalid pattern `{source}`"
  | duplicate => "declared more than once"

/-- Places of a catalog that name sections. -/
inductive Reference where
  | settings
  | inheritableSections
  | parentSections
  | requiredSectionSettings
  | widgetRequirementsByType
  | sectionAliases
  | freeFormSections
  deriving DecidableEq

def Reference.name : Reference → String
  | settings => "settings"
  | inheritableSections => "inheritableSections"
  | parentSections => "parentSections"
  | requiredSectionSettings => "requiredSectionSettings"
  | widgetRequirementsByType => "widgetRequirementsByType"
  | sectionAliases => "sectionAliases"
  | freeFormSections => "freeFormSections"

inductive Error where
  /-- The text, without comments, is no catalog source. -/
  | invalidJson (problem : Problem) (text : List Char)
  | invalidScopeExpression (setting source : String) (reason : Scope.ParseError)
  | invalidSetting (setting : String) (flaw : Flaw)
  | unknownSection (reference : Reference) (name : String)

def Error.message : Error → String
  | invalidJson problem text => s!"invalid catalog JSON: {problem.brief text}"
  | invalidScopeExpression setting source reason =>
    s!"setting `{setting}`: invalid scope expression `{source}`: {reason.message}"
  | invalidSetting setting flaw => s!"setting `{setting}`: {flaw.message}"
  | unknownSection reference name => s!"`{reference.name}` references unknown section `{name}`"

/-- The error and, if there is one, the error that caused it, with all places. -/
def Error.chain : Error → List String
  | invalidJson problem text =>
    [s!"invalid catalog JSON: {problem.message text}", problem.message text]
  | error => [error.message]

end ChartLint.Catalog
