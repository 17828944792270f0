import ChartLint.Rule.Condition

/-!
Requirements: what the presence of a setting asks of others.
-/
namespace ChartLint.Rule

/-- What has to accompany a setting. -/
inductive Companion where
  | setting (name : String)
  | anyOf (names : List String)
  /-- Nothing, but the setting has effect only under its conditions. -/
  | nothing
  deriving DecidableEq

structure Requirement where
  /-- The setting whose presence matters. -/
  dependent : String
  conditions : List Condition := []
  companion : Companion
  deriving DecidableEq

namespace Requirement

/-- Whether the dependent setting is visible and all conditions hold. -/
def applies (requirement : Requirement) (view : View) : Bool :=
  (view.visible? requirement.dependent).isSome && view.satisfies requirement.conditions

/-- The finding of a setting that has no effect where it is declared. -/
def checkEffect (requirement : Requirement) (view : View) : Option Finding :=
  (view.local? requirement.dependent).bind fun setting =>
    let failing := view.failing requirement.conditions
    if failing.isEmpty then none
    else
      let conditions := " and ".intercalate (failing.map Condition.describe)
      some ⟨.ineffective setting.displayName conditions, setting.range⟩

/-- What a section lacks by the requirement. -/
def check (requirement : Requirement) (view : View) : Option Finding :=
  match requirement.companion with
  | .nothing => requirement.checkEffect view
  | .setting name =>
    if requirement.applies view && (view.visible? name).isNone then
      some ⟨.requiredIf requirement.dependent name, view.node.range⟩
    else none
  | .anyOf names =>
    if requirement.applies view && names.all fun name => (view.visible? name).isNone then
      some ⟨.requiredAnyOf requirement.dependent names, view.node.range⟩
    else none

end Requirement

def columnModes : Condition := ⟨"mode", ["column", "column-stack"]⟩

/-- Requirements of series. -/
def seriesRequirements : List Requirement := [
  { dependent := "alert-style", companion := .setting "alert-expression" },
  { dependent := "table", companion := .setting "attribute" },
  { dependent := "attribute", companion := .setting "table" },
  { dependent := "forecast-style", companion := .anyOf ["data-type", "value"] },
  { dependent := "summarize-period", companion := .anyOf ["statistic", "statistics"] },
  { dependent := "negative-style", conditions := [columnModes], companion := .nothing },
  { dependent := "current-period-style", conditions := [columnModes], companion := .nothing }]

def columnCharts : List Condition := [⟨"type", ["chart"]⟩, columnModes]

/-- Requirements of widgets. -/
def widgetRequirements : List Requirement := [
  { dependent := "centralize-columns", conditions := columnCharts, companion := .nothing },
  { dependent := "centralize-ticks", conditions := columnCharts, companion := .nothing }]

/-- Requirements of a section by its name. -/
def requirementsOf (name : String) : List Requirement :=
  if name == "series" then seriesRequirements
  else if name == "widget" then widgetRequirements
  else []

end ChartLint.Rule
