import ChartLint.Catalog

/-!
The built-in catalog.
-/
namespace ChartLint.Catalog.Builtin

/-- Functions that aggregate the values of a period. -/
def aggregates : List String := [
  "avg", "count", "delta", "detail", "first", "last", "max", "median", "min", "stddev", "sum",
  "wavg", "wtavg"]

def widgetTypes : List String := [
  "bar", "box", "calendar", "chart", "console", "gauge", "graph", "histogram", "page", "pie",
  "property", "table", "text", "treemap"]

/-- Where the data of a series comes from. -/
def dataSettings : List SettingSource := [
  { displayName := "entity", kind := .string, sections := ["series"],
    example? := some "nurswgvml007", description := some "Entity name." },
  { displayName := "entities", kind := .string, sections := ["series"],
    example? := some "nurswgvml006, nurswgvml007",
    description := some "Comma-separated list of entity names or wildcards." },
  { displayName := "entity-group", kind := .string, sections := ["series"],
    excludes := ["entity-expression"], example? := some "nur-collectors",
    description := some "Name of an entity group." },
  { displayName := "entity-expression", kind := .string, sections := ["series"],
    example? := some "tags.app = 'ATSD'", description := some "Expression selecting entities." },
  { displayName := "metric", kind := .string, sections := ["series"], example? := some "cpu_busy",
    description := some "Metric name." },
  { displayName := "table", kind := .string, sections := ["series"], example? := some "collectd",
    description := some "Table name for series loaded from a table." },
  { displayName := "attribute", kind := .string, sections := ["series"],
    example? := some "cpu.busy", description := some "Table column loaded into the series." },
  { displayName := "value", kind := .string, sections := ["series", "option"],
    example? := some "value('a') * 2",
    description :=
      some "Expression computing a derived series, or the value of a dropdown option." },
  { displayName := "alias", kind := .string, sections := ["series"], example? := some "s1",
    pattern := some "[A-Za-z_][A-Za-z0-9_.\\-]*",
    patternHint := some "an identifier, for example s1",
    description := some "Identifier the series can be referred by in value expressions." },
  { displayName := "exact-match", kind := .boolean, sections := ["series"],
    default? := some "false", description := some "Load only series whose tags match exactly." },
  { displayName := "data-type", kind := .enum,
    enumValues :=
      ["history", "forecast", "forecast_deviation", "lower_confidence", "upper_confidence"],
    sections := ["series"], default? := some "history",
    description := some "Kind of data requested for the series." },
  { displayName := "limit", kind := .integer, minimum := some { value := .ofNat 0 },
    sections := ["series"], example? := some "10",
    description := some "Maximum number of samples loaded." }]

/-- Selection and aggregation in time. -/
def timeSettings : List SettingSource := [
  { displayName := "start-time", kind := .date, sections := ["series"],
    example? := some "2018-07-05 12:00:00",
    description := some "Start of the selection interval." },
  { displayName := "end-time", kind := .date, sections := ["series"], example? := some "now",
    description := some "End of the selection interval." },
  { displayName := "timespan", kind := .interval, sections := ["series"],
    default? := some "1 hour", example? := some "1 day",
    description := some "Length of the selection interval." },
  { displayName := "timezone", kind := .string, sections := ["widget"], example? := some "UTC",
    pattern := some ("(?i:utc|gmt|z|[a-z]+(?:/[a-z0-9_+\\-]+)+|" ++
      "(?:utc|gmt)?[+-]\\d\x7b2\x7d(?::?\\d\x7b2\x7d)?)"),
    patternHint := some "a zone name, for example Europe/Berlin, or an offset, for example +03:00",
    description := some "Time zone used to resolve calendar expressions." },
  { displayName := "update-interval", kind := .interval, sections := ["series"],
    default? := some "1 minute", example? := some "5 minute",
    description := some "How often new data is loaded." },
  { displayName := "period", kind := .interval, enumValues := ["auto"], sections := ["series"],
    example? := some "15 minute", description := some "Aggregation period." },
  { displayName := "disconnect-interval", kind := .interval, enumValues := ["auto"],
    sections := ["series"], example? := some "1 hour",
    description := some "Gap after which the line is broken." },
  { displayName := "summarize-period", kind := .interval, enumValues := ["auto"],
    sections := ["series"], example? := some "1 day",
    description := some "Period used to summarize aggregated values." },
  { displayName := "statistic", kind := .enum,
    enumValues := aggregates,
    sections := ["series"], example? := some "avg",
    description := some "Aggregation function applied within each period." },
  { displayName := "statistics", kind := .enum,
    enumValues := aggregates,
    sections := ["series"], example? := some "max",
    description := some "Aggregation function used for summarized values." },
  { displayName := "interpolate", kind := .enum,
    enumValues := ["none", "previous", "linear", "value"], sections := ["series"],
    default? := some "none", description := some "Interpolation function for missing periods." }]

/-- Forecasts. -/
def forecastSettings : List SettingSource := [
  { displayName := "forecast-horizon-start-time", kind := .date, sections := ["series"],
    example? := some "2018-07-06 00:00:00", description := some "Start of the forecast horizon." },
  { displayName := "forecast-horizon-end-time", kind := .date, sections := ["series"],
    example? := some "2018-07-07 00:00:00", description := some "End of the forecast horizon." },
  { displayName := "forecast-ssa-group-auto-count", kind := .integer,
    minimum := some { value := .ofNat 1 }, sections := ["series"], default? := some "1",
    description := some "Number of eigentriple groups built automatically." },
  { displayName := "forecast-ssa-decompose-eigentriple-limit", kind := .integer,
    minimum := some { value := .ofNat 0 }, sections := ["series"], default? := some "100",
    description := some "Maximum number of eigentriples produced by decomposition." },
  { displayName := "forecast-style", kind := .string, sections := ["series"],
    example? := some "stroke: magenta",
    description := some "CSS style applied to forecast values." }]

/-- Widgets. -/
def widgetSettings : List SettingSource := [
  { displayName := "type", kind := .enum,
    enumValues := widgetTypes,
    sections := ["widget"], example? := some "chart", description := some "Widget type." },
  { displayName := "mode", kind := .enum, enumValues := ["default"], sections := ["widget"],
    default? := some "default", description := some "Widget display mode.",
    overrides := [
      ⟨"type == 'chart'",
        { enumValues := some ["default", "stack", "column", "column-stack", "range"] }⟩,
      ⟨"type == 'bar'",
        { enumValues := some ["column", "column-stack", "row", "row-stack"],
          default? := some "column" }⟩,
      ⟨"type == 'pie'",
        { enumValues := some ["pie", "ring"], default? := some "pie" }⟩,
      ⟨"type == 'gauge' || type == 'calendar' || type == 'treemap'",
        { enumValues := some ["default", "half"] }⟩,
      ⟨"type == 'text' || type == 'page'",
        { enumValues := some [] }⟩] },
  { displayName := "url", kind := .string, sections := ["widget"],
    example? := some "https://example.org/api/\x7bentity\x7d",
    description := some "Address data is loaded from." },
  { displayName := "title", kind := .string, sections := ["widget"], example? := some "CPU Busy" },
  { displayName := "legend-position", kind := .enum,
    enumValues := ["top", "bottom", "left", "right", "hidden"], sections := ["widget"],
    widgets := ["chart", "bar", "pie", "histogram", "box"], default? := some "top" },
  { displayName := "arrow-length", kind := .number, minimum := some { value := .ofNat 0 },
    maximum := some { value := .ofNat 1 }, sections := ["widget"], widgets := ["gauge"],
    example? := some "0.3",
    description :=
      some "Length of the gauge arrow relative to the radius, as a fraction or a percentage." },
  { displayName := "ticks", kind := .integer, minimum := some { value := .ofNat 0 },
    sections := ["widget"], widgets := ["gauge", "chart"], example? := some "5" },
  { displayName := "centralize-columns", kind := .boolean, sections := ["widget"],
    default? := some "false", description := some "Center columns between ticks." },
  { displayName := "centralize-ticks", kind := .boolean, sections := ["widget"],
    default? := some "false", description := some "Center tick labels between columns." },
  { displayName := "width-units", kind := .number,
    minimum := some { value := .ofNat 0, excluded := true }, sections := ["widget"],
    default? := some "1", example? := some "1" },
  { displayName := "height-units", kind := .number,
    minimum := some { value := .ofNat 0, excluded := true }, sections := ["widget"],
    default? := some "1", example? := some "1" },
  { displayName := "options", kind := .object, sections := ["widget"],
    example? := some "\x7b\"animation\": false\x7d",
    description := some "Raw options passed to the renderer." },
  { displayName := "script", kind := .string, sections := ["series"],
    example? := some "widget.reload()" },
  { displayName := "sql", kind := .string, sections := ["widget"],
    example? := some "SELECT * FROM cpu_busy" }]

/-- How series look. -/
def appearanceSettings : List SettingSource := [
  { displayName := "colors", kind := .string, sections := ["series"], multiLine := true,
    example? := some "green, orange, red",
    description := some "Colors of threshold segments or series." },
  { displayName := "thresholds", kind := .string, sections := ["series"], multiLine := true,
    example? := some "0, 60, 80, 100", description := some "Segment boundaries." },
  { displayName := "color", kind := .string, sections := ["series"],
    example? := some "steelblue" },
  { displayName := "label", kind := .string, sections := ["series", "node", "link"],
    example? := some "CPU" },
  { displayName := "format", kind := .string, sections := ["series"], example? := some "numeric" },
  { displayName := "style", kind := .string, sections := ["series"],
    example? := some "stroke-width: 2" },
  { displayName := "display", kind := .boolean, sections := ["series"], default? := some "true" },
  { displayName := "enabled", kind := .boolean, sections := ["series"], default? := some "true" },
  { displayName := "stack", kind := .boolean, sections := ["series"], default? := some "false" },
  { displayName := "negative-style", kind := .string, sections := ["series"],
    example? := some "fill: red", description := some "Style of negative columns." },
  { displayName := "current-period-style", kind := .string, sections := ["series"],
    example? := some "fill-opacity: 0.5",
    description := some "Style of the column for the current period." },
  { displayName := "alert-expression", kind := .string, sections := ["series"],
    example? := some "value > 80", description := some "Condition that raises an alert." },
  { displayName := "alert-style", kind := .string, sections := ["series"],
    example? := some "color: red",
    description := some "Style applied while the alert is raised." }]

/-- Graphs and dropdowns. -/
def graphSettings : List SettingSource := [
  { displayName := "id", kind := .string, sections := ["node", "dropdown"],
    example? := some "n1" },
  { displayName := "nodes", kind := .string, sections := ["link"], example? := some "n1 - n2" },
  { displayName := "change-field", kind := .string, sections := ["dropdown"],
    example? := some "series.entity" },
  { displayName := "text", kind := .string, sections := ["option"], example? := some "Server 1" }]

/-- Depths of the sections. -/
def sectionDepth : Table Nat := .ofList [
  ("configuration", 0), ("group", 1), ("widget", 2), ("series", 3), ("column", 3),
  ("dropdown", 3), ("node", 3), ("link", 3), ("property", 3), ("placeholders", 3), ("other", 3),
  ("threshold", 3), ("option", 4), ("properties", 4), ("tags", 4), ("keys", 4)]

/-- Sections that may hold tags and keys. -/
def tagged : List String := [
  "configuration", "group", "widget", "series", "column", "node", "link", "property", "dropdown",
  "other"]

def parentSections : Table (List String) := .ofList [
  ("series", ["widget", "column"]), ("option", ["dropdown"]), ("properties", ["property"]),
  ("tags", tagged), ("keys", tagged)]

def requiredSectionSettings : Table Requirements := .ofList [
  ("configuration", { sections := [["group"]] }),
  ("group", {}),
  ("widget", { sections := [["series"]], settings := [["type"]] }),
  ("series", { settings := [
    ["entity", "entities", "entity-group", "entity-expression"],
    ["metric", "table"]] }),
  ("dropdown", { sections := [["option"]] }),
  ("property", { sections := [["properties"]] })]

def widgetRequirementsByType : Table (List (List String)) := .ofList [
  ("chart", [["series"]]), ("gauge", [["series"]]), ("calendar", [["series"]]),
  ("treemap", [["series"]]), ("box", [["series"]]), ("histogram", [["series"]]),
  ("pie", [["series"]]), ("bar", [["series"]]), ("table", [["series"]]),
  ("graph", [["series"], ["node"], ["link"]]), ("property", [["property"]]), ("page", []),
  ("text", []), ("console", [])]

def source : Source where
  settings := dataSettings ++ timeSettings ++ forecastSettings ++
    widgetSettings ++ appearanceSettings ++ graphSettings
  sectionDepth := sectionDepth
  inheritableSections := ["tags", "keys"]
  parentSections := parentSections
  requiredSectionSettings := requiredSectionSettings
  widgetRequirementsByType := widgetRequirementsByType
  sectionAliases := [("tag", "tags")]
  freeFormSections := ["tags", "keys", "placeholders"]

end ChartLint.Catalog.Builtin

namespace ChartLint.Catalog

/-- The built-in catalog. -/
def builtin : Catalog :=
  match ofSource Builtin.source with
  | .ok catalog => catalog
  | .error _ => {}

end ChartLint.Catalog
