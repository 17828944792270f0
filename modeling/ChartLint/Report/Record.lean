import ChartLint.Json.Value
import ChartLint.Validation

/-!
JSON records of what is reported.
-/
namespace ChartLint

open Json (Value)

def Position.record (position : Position) : Json.Value :=
  .record [("line", .natural position.line), ("character", .natural position.character)]

def Range.record (range : Range) : Json.Value :=
  .record [("start", range.start.record), ("end", range.stop.record)]

/-- The record of a diagnostic; the context is left out if there is none. -/
def Diagnostic.record (diagnostic : Diagnostic) : Json.Value :=
  let context :=
    match diagnostic.context with
    | some context => [("context", Value.record (context.map fun (key, value) => (key, .text value)))]
    | none => []
  .record ([
    ("id", .text diagnostic.id),
    ("severity", .text diagnostic.severity.name),
    ("message", .text diagnostic.message),
    ("range", diagnostic.range.record)] ++ context)

/-- The record of a validation. -/
def Validation.record (validation : Validation) : Json.Value :=
  .record [
    ("ok", .bool validation.ok),
    ("issues", .list (validation.diagnostics.map Diagnostic.record))]

/-- The record of a scope; what is not set is left out. -/
def Scope.record (scope : Scope) : Json.Value :=
  let entry (key : String) (value : Option String) : List (String × Json.Value) :=
    (value.map fun value => (key, .text value)).toList
  .record (entry "type" scope.type ++ entry "mode" scope.mode)

/-- The record of a setting; the list of values is left out if there is only one. -/
def Setting.record (setting : Setting) : Json.Value :=
  let values :=
    if 1 < setting.values.length then [("values", Value.list (setting.values.map .text))] else []
  .record ([("name", .text setting.displayName), ("value", .text setting.value)] ++ values ++
    [("range", setting.range.record)])

namespace Section.Tree

/-- The record of a section with those below it. -/
def recordOf (tree : Tree) (id : Nat) : Json.Value :=
  let children := (tree.children id).attach.map fun child => tree.recordOf child.1
  match tree.nodes[id]? with
  | none => .null
  | some node =>
    .record [
      ("name", .text node.name),
      ("range", node.range.record),
      ("scope", node.scope.record),
      ("settings", .list (node.settings.map Setting.record)),
      ("children", .list children)]
termination_by tree.size - id
decreasing_by
  have := lt_of_mem_children child.2
  omega

def record (tree : Tree) : Json.Value :=
  .record [("root", .ofOption (tree.root?.map tree.recordOf))]

end Section.Tree

end ChartLint
