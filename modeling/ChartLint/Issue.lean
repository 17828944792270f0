import ChartLint.Catalog.Descriptor
import ChartLint.Diagnostic
import ChartLint.Line.Keyword
import ChartLint.Text.Phrase

/-!
Issues: what may be wrong with a document, by cause. The wording of every issue is here.
-/
namespace ChartLint

/-- Why a value does not fit its descriptor. -/
inductive ValueFlaw where
  | empty
  | notListed (allowed : List String)
  /-- The hint says what the form is. -/
  | wrongForm (hint : String)
  | notNumber (integer : Bool) (sample : Option String)
  | outOfBounds (minimum maximum : Option Bound) (sample : Option String)
  | notBoolean
  | percentileOutOfRange
  | notInterval (sample : Option String) (alternatives : List String)
  | notDate
  /-- The fault is that of the text as JSON. -/
  | notJson (fault : String)

namespace ValueFlaw

/-- Words for true and false. -/
def booleans : List String :=
  ["false", "no", "null", "none", "0", "off", "true", "yes", "on", "1"]

def sampleSuffix (sample : Option String) : String :=
  match sample with
  | some sample => s!" For example, {sample}"
  | none => ""

/-- Bounds in words. -/
def describeBounds (minimum maximum : Option Bound) : String :=
  let orEqual (bound : Bound) : String := if bound.excluded then "" else "or equal to "
  match minimum, maximum with
  | some least, some greatest =>
    (if least.excluded then "in range (" else "in range [") ++ least.value.rounded ++ ", " ++
      greatest.value.rounded ++ (if greatest.excluded then ")" else "]")
  | some least, none => "greater than " ++ orEqual least ++ least.value.rounded
  | none, some greatest => "less than " ++ orEqual greatest ++ greatest.value.rounded
  | none, none => "a number"

/-- What is wrong with the value of a setting. -/
def message (name : String) : ValueFlaw → String
  | empty => s!"{name} can not be empty."
  | notListed allowed => s!"{name} must be one of:{Text.bulletList allowed}"
  | wrongForm hint => s!"{name} must be {hint}."
  | notNumber integer sample =>
    let kind := if integer then "an integer" else "a number"
    s!"{name} must be {kind}.{sampleSuffix sample}"
  | outOfBounds minimum maximum sample =>
    s!"{name} should be {describeBounds minimum maximum}.{sampleSuffix sample}"
  | notBoolean => s!"{name} must be a boolean: {Text.commaList booleans}."
  | percentileOutOfRange =>
    s!"{name} percentile must be in range [0, 100]. For example, percentile(95)"
  | notInterval sample alternatives =>
    let sample := sample.getD "1 hour"
    let others :=
      if alternatives.isEmpty then "" else s!" or one of: {Text.commaList alternatives}"
    s!"{name} must be a count and a unit, for example {sample}{others}."
  | notDate =>
    s!"{name} must be a calendar expression, for example previous_day - 1 * day, " ++
      "or an ISO date, for example 2018-07-05 12:00:00."
  | notJson fault => s!"{name} must be valid JSON: {fault}."

end ValueFlaw

inductive Issue where
  | unknownSection (name : String)
  /-- The section is nested deeper than any of those expected. -/
  | unexpectedSection (name : String) (expected : List String)
  | requiredSectionMissing (name : String) (missing : List String)
  | duplicateRoot (name : String)
  | deprecatedSection (name replacement : String)
  /-- A keyword stands without the one that opens or closes its block. -/
  | unmatchedKeyword (keyword expected : Keyword)
  | unknownVariable (name : String)
  | duplicateVariable (name : String)
  | malformedKeyword (keyword : Keyword) (expected : String)
  | csvColumnCount (expected found : Nat)
  | misplacedKeyword (keyword : Keyword)
  | unknownSetting (name : String) (suggestion : Option String)
  | invalidValue (setting value : String) (kind : ValueKind) (flaw : ValueFlaw)
  | deprecatedPercentile (setting value argument : String)
  | deprecatedSeconds (setting value : String)
  | duplicateSetting (setting : String)
  | exclusiveSettings (setting excluded : String)
  | notAllowedInSection (setting name : String)
  | notAllowedHere (setting : String)
  | requiredSettingMissing (name setting : String)
  | sentAsTag (setting name : String)
  | undeclaredAlias (name : String)
  | outsideSection (setting : String)
  | requiredIf (setting required : String)
  | requiredAnyOf (setting : String) (candidates : List String)
  /-- The conditions under which the setting would have effect. -/
  | ineffective (setting conditions : String)
  /-- The anchor, whose documented name is the setting, has to stand in a relation to another. -/
  | valueRelation (setting anchor relation other related : String)
  | colorsThresholds (colors thresholds : Nat)
  | timespanIgnored (setting : String)

namespace Issue

def code : Issue → Code
  | unknownSection _ => .unknownSection
  | unexpectedSection .. => .unexpectedSection
  | requiredSectionMissing .. => .requiredSectionMissing
  | duplicateRoot _ => .duplicateRootSection
  | deprecatedSection .. => .deprecatedSection
  | unmatchedKeyword .. => .unmatchedKeyword
  | unknownVariable _ => .unknownVariable
  | duplicateVariable _ => .duplicateVariable
  | malformedKeyword .. => .malformedKeyword
  | csvColumnCount .. => .csvColumnCount
  | misplacedKeyword _ => .misplacedKeyword
  | unknownSetting .. => .unknownSetting
  | invalidValue .. => .invalidValue
  | deprecatedPercentile .. | deprecatedSeconds .. => .deprecatedValue
  | duplicateSetting _ => .duplicateSetting
  | exclusiveSettings .. => .exclusiveSettings
  | notAllowedInSection .. | notAllowedHere _ => .settingNotAllowed
  | requiredSettingMissing .. => .requiredSettingMissing
  | sentAsTag .. => .settingSentAsTag
  | undeclaredAlias _ => .undeclaredAlias
  | outsideSection _ => .settingOutsideSection
  | requiredIf .. | requiredAnyOf .. => .requiredIf
  | ineffective .. => .ineffectiveSetting
  | valueRelation .. => .valueRelation
  | colorsThresholds .. => .colorsThresholdsMismatch
  | timespanIgnored _ => .timespanIgnored

def message : Issue → String
  | unknownSection name => s!"Unknown section [{name}]."
  | unexpectedSection name expected =>
    s!"Unexpected section [{name}]. Expected {Text.sectionList expected}."
  | requiredSectionMissing _ [one] => s!"Required section [{one}] is not declared."
  | requiredSectionMissing _ missing =>
    s!"Required sections {Text.sectionList missing} are not declared."
  | duplicateRoot name => s!"Section [{name}] can be declared only once."
  | deprecatedSection name replacement =>
    s!"Section [{name}] is deprecated, use [{replacement}] instead."
  | unmatchedKeyword keyword expected => s!"{keyword.name} has no matching {expected.name}"
  | unknownVariable name => s!"{name} is unknown."
  | duplicateVariable name => s!"{name} is already defined"
  | malformedKeyword keyword expected => s!"{keyword.name} is malformed. Expected: {expected}"
  | csvColumnCount expected found => s!"Expected {expected} columns, but found {found}."
  | misplacedKeyword keyword => s!"{keyword.name} has no matching if"
  | unknownSetting name none => s!"{name} is unknown."
  | unknownSetting name (some suggestion) => s!"{name} is unknown. Did you mean {suggestion}?"
  | invalidValue setting _ _ flaw => flaw.message setting
  | deprecatedPercentile _ _ argument =>
    s!"percentile_{argument} is deprecated. Use percentile({argument}) instead."
  | deprecatedSeconds setting value =>
    s!"Specifying {setting} in seconds without a unit is deprecated. Use {value} second instead."
  | duplicateSetting setting => s!"{setting} is already defined"
  | exclusiveSettings setting excluded =>
    s!"{setting} can not be specified simultaneously with {excluded}"
  | notAllowedInSection setting name => s!"{setting} setting is not allowed in [{name}] section."
  | notAllowedHere setting => s!"{setting} setting is not allowed here."
  | requiredSettingMissing _ setting => s!"{setting} is required"
  | sentAsTag setting name =>
    s!"{setting} is interpreted as a tag and is sent to the server. Move the setting outside of the " ++
      s!"[{name}] section or enclose it in double quotes."
  | undeclaredAlias name => s!"The alias {name} is referred, but never declared."
  | outsideSection setting => s!"{setting} must be declared inside a section."
  | requiredIf setting required => s!"{required} is required if {setting} is specified"
  | requiredAnyOf setting candidates =>
    s!"{setting} has effect only with one of the following:{Text.bulletList candidates}"
  | ineffective setting conditions => s!"{setting} setting is applied only if {conditions}."
  | valueRelation _ anchor relation other _ => s!"{anchor} must be {relation} than {other}"
  | colorsThresholds .. =>
    "Number of colors (if specified) must be equal to\nnumber of thresholds minus 1."
  | timespanIgnored _ => "timespan is ignored when start-time and end-time are both specified."

/-- Details by key. -/
def details : Issue → List (String × String)
  | unknownSection name | duplicateRoot name => [("section", name)]
  | unexpectedSection name expected =>
    [("section", name), ("expected", Text.sectionList expected)]
  | requiredSectionMissing name missing =>
    [("section", name), ("missing", Text.commaList missing)]
  | deprecatedSection name replacement => [("section", name), ("replacement", replacement)]
  | unmatchedKeyword keyword expected => [("keyword", keyword.name), ("expected", expected.name)]
  | unknownVariable name | duplicateVariable name => [("variable", name)]
  | malformedKeyword keyword expected => [("keyword", keyword.name), ("expected", expected)]
  | csvColumnCount expected found => [("expected", toString expected), ("found", toString found)]
  | misplacedKeyword keyword => [("keyword", keyword.name)]
  | unknownSetting name none => [("setting", name)]
  | unknownSetting name (some suggestion) => [("setting", name), ("suggestion", suggestion)]
  | invalidValue setting value kind _ =>
    [("setting", setting), ("value", value), ("type", kind.name)]
  | deprecatedPercentile setting value _ | deprecatedSeconds setting value =>
    [("setting", setting), ("value", value)]
  | duplicateSetting setting | notAllowedHere setting | outsideSection setting
  | timespanIgnored setting => [("setting", setting)]
  | exclusiveSettings setting excluded => [("setting", setting), ("excluded", excluded)]
  | notAllowedInSection setting name | sentAsTag setting name =>
    [("setting", setting), ("section", name)]
  | requiredSettingMissing name setting => [("section", name), ("setting", setting)]
  | undeclaredAlias name => [("alias", name)]
  | requiredIf setting required => [("setting", setting), ("required", required)]
  | requiredAnyOf setting candidates =>
    [("setting", setting), ("required", Text.commaList candidates)]
  | ineffective setting conditions => [("setting", setting), ("conditions", conditions)]
  | valueRelation setting _ _ _ related => [("setting", setting), ("related", related)]
  | colorsThresholds colors thresholds =>
    [("colors", toString colors), ("thresholds", toString thresholds)]

end Issue

/-- An issue at its place. -/
structure Finding where
  issue : Issue
  range : Range

/-- The report of a finding. -/
def Finding.diagnostic (finding : Finding) : Diagnostic where
  id := finding.issue.code.id
  severity := finding.issue.code.severity
  message := finding.issue.message
  range := finding.range
  context := some (Table.ofList finding.issue.details)

def Finding.isError (finding : Finding) : Bool := finding.issue.code.severity == .error

end ChartLint
