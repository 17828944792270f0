/-!
Codes: the kinds of problems that are reported, each with its identifier, severity, explanation and
the keys of the details it may carry.
-/
namespace ChartLint

inductive Severity where
  /-- The document is invalid. -/
  | error
  /-- The document works, but likely not as intended. -/
  | warn
  /-- A note on style. -/
  | info
  deriving DecidableEq

def Severity.name : Severity → String
  | error => "error"
  | warn => "warn"
  | info => "info"

inductive Code where
  | unknownSection
  | unexpectedSection
  | requiredSectionMissing
  | duplicateRootSection
  | deprecatedSection
  | unmatchedKeyword
  | unknownVariable
  | duplicateVariable
  | malformedKeyword
  | csvColumnCount
  | misplacedKeyword
  | unknownSetting
  | invalidValue
  | deprecatedValue
  | duplicateSetting
  | exclusiveSettings
  | settingNotAllowed
  | requiredSettingMissing
  | settingSentAsTag
  | undeclaredAlias
  | settingOutsideSection
  | requiredIf
  | ineffectiveSetting
  | valueRelation
  | colorsThresholdsMismatch
  | timespanIgnored
  deriving DecidableEq

namespace Code

def all : List Code := [
    .unknownSection, .unexpectedSection, .requiredSectionMissing, .duplicateRootSection,
    .deprecatedSection, .unmatchedKeyword, .unknownVariable, .duplicateVariable,
    .malformedKeyword, .csvColumnCount, .misplacedKeyword, .unknownSetting, .invalidValue,
    .deprecatedValue, .duplicateSetting, .exclusiveSettings, .settingNotAllowed,
    .requiredSettingMissing, .settingSentAsTag, .undeclaredAlias, .settingOutsideSection,
    .requiredIf, .ineffectiveSetting, .valueRelation, .colorsThresholdsMismatch,
    .timespanIgnored]

def id : Code → String
  | unknownSection => "CC1001"
  | unexpectedSection => "CC1002"
  | requiredSectionMissing => "CC1003"
  | duplicateRootSection => "CC1004"
  | deprecatedSection => "CC1005"
  | unmatchedKeyword => "CC2001"
  | unknownVariable => "CC2002"
  | duplicateVariable => "CC2003"
  | malformedKeyword => "CC2004"
  | csvColumnCount => "CC2005"
  | misplacedKeyword => "CC2006"
  | unknownSetting => "CC3001"
  | invalidValue => "CC3002"
  | deprecatedValue => "CC3003"
  | duplicateSetting => "CC3004"
  | exclusiveSettings => "CC3005"
  | settingNotAllowed => "CC3006"
  | requiredSettingMissing => "CC3007"
  | settingSentAsTag => "CC3008"
  | undeclaredAlias => "CC3009"
  | settingOutsideSection => "CC3010"
  | requiredIf => "CC4001"
  | ineffectiveSetting => "CC4002"
  | valueRelation => "CC4003"
  | colorsThresholdsMismatch => "CC4004"
  | timespanIgnored => "CC4005"

def severity : Code → Severity
  | deprecatedSection => .info
  | deprecatedValue => .warn
  | duplicateSetting => .warn
  | settingSentAsTag => .info
  | ineffectiveSetting => .warn
  | timespanIgnored => .warn
  | _ => .error

/-- What the code means, for a reader of reports. -/
def explanation : Code → String
  | unknownSection =>
    "The bracketed section name is not part of the section hierarchy (configuration, " ++
      "group, widget, series, ...)."
  | unexpectedSection =>
    "A section was declared before its structural parent. For example, [widget] must " ++
      "follow a [group], and [series] must follow a [widget]."
  | requiredSectionMissing =>
    "Some sections require child sections: [configuration] needs a [group], and a [widget] " ++
      "needs the sections its type demands (for example [series])."
  | duplicateRootSection =>
    "A document has exactly one [configuration] section."
  | deprecatedSection =>
    "The section is accepted under its canonical name; rename it to silence this note."
  | unmatchedKeyword =>
    "Block keywords (for, if, csv, var, list, script, sql) must be closed by their end " ++
      "keyword, and an end keyword must close an open block."
  | unknownVariable =>
    "The collection iterated by a for loop must be declared earlier with list, var, csv or " ++
      "import."
  | duplicateVariable =>
    "Names introduced by list, var, csv and import share one namespace and must be unique."
  | malformedKeyword =>
    "For example `for <item> in <collection>`, `list <name> = a, b`, `csv <name> = " ++
      "<header>` or `import <name> = <url>`."
  | csvColumnCount =>
    "Every row of an inline csv block must have as many columns as its header line."
  | misplacedKeyword =>
    "elseif and else are only valid inside an open if block."
  | unknownSetting =>
    "The setting is not part of the settings dictionary. Setting names are matched " ++
      "ignoring case, dashes and underscores."
  | invalidValue =>
    "Values are checked against the declared type (number, integer, boolean, enum, " ++
      "interval, date, object, string) and its bounds or allowed values."
  | deprecatedValue =>
    "The value is still understood but a newer form exists, for example `percentile(95)` " ++
      "instead of `percentile_95`."
  | duplicateSetting =>
    "Only multi-line settings such as colors or thresholds may be repeated; otherwise the " ++
      "last declaration wins."
  | exclusiveSettings =>
    "Some settings exclude each other inside one section."
  | settingNotAllowed =>
    "The setting cannot be declared in this section or is disabled for the current widget type."
  | requiredSettingMissing =>
    "For example a [series] needs an entity and a metric, declared in the series itself or " ++
      "inherited from an enclosing section."
  | settingSentAsTag =>
    "Inside [tags] and [keys] every declaration is sent to the server as a tag. Quote the " ++
      "name to mark the intent explicitly."
  | undeclaredAlias =>
    "value('name') expressions refer to series by their alias setting."
  | settingOutsideSection =>
    "Every setting belongs to a section; start the document with [configuration]."
  | requiredIf =>
    "Some settings only work together with another setting declared in the same section or " ++
      "an enclosing one."
  | ineffectiveSetting =>
    "The setting only applies to certain widget types or modes."
  | valueRelation =>
    "For example end-time must be later than start-time."
  | colorsThresholdsMismatch =>
    "Thresholds split the scale into segments; one color is needed per segment, i.e. one " ++
      "less than the number of thresholds."
  | timespanIgnored =>
    "The interval is fully defined by start-time and end-time."

/-- Keys of the details that a problem of the code may carry. -/
def contextKeys : Code → List String
  | unknownSection => ["section"]
  | unexpectedSection => ["section", "expected"]
  | requiredSectionMissing => ["section", "missing"]
  | duplicateRootSection => ["section"]
  | deprecatedSection => ["section", "replacement"]
  | unmatchedKeyword => ["keyword", "expected"]
  | unknownVariable => ["variable"]
  | duplicateVariable => ["variable"]
  | malformedKeyword => ["keyword", "expected"]
  | csvColumnCount => ["expected", "found"]
  | misplacedKeyword => ["keyword"]
  | unknownSetting => ["setting", "suggestion"]
  | invalidValue => ["setting", "value", "type"]
  | deprecatedValue => ["setting", "value"]
  | duplicateSetting => ["setting"]
  | exclusiveSettings => ["setting", "excluded"]
  | settingNotAllowed => ["setting", "section"]
  | requiredSettingMissing => ["section", "setting"]
  | settingSentAsTag => ["setting", "section"]
  | undeclaredAlias => ["alias"]
  | settingOutsideSection => ["setting"]
  | requiredIf => ["setting", "required"]
  | ineffectiveSetting => ["setting", "conditions"]
  | valueRelation => ["setting", "related"]
  | colorsThresholdsMismatch => ["colors", "thresholds"]
  | timespanIgnored => ["setting"]

def ofId? (id : String) : Option Code := all.find? fun code => code.id == id

end Code

end ChartLint
