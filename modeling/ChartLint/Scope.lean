import ChartLint.Text.Case

/-!
Scopes: the type and the mode of a widget as seen from a place of a document. Both are kept in lower
case.
-/
namespace ChartLint

structure Scope where
  type : Option String := none
  mode : Option String := none
  deriving DecidableEq

inductive Scope.Key where
  | type
  | mode
  deriving DecidableEq

namespace Scope

/-- The key that a name in an expression stands for. -/
def Key.ofName? : String → Option Key
  | "type" | "widgetType" | "widgettype" => some .type
  | "mode" => some .mode
  | _ => none

/-- The setting that binds a key. -/
def Key.settingName : Key → String
  | .type => "type"
  | .mode => "mode"

/-- The scope of two values, in any letter case. -/
def ofValues (type mode : Option String) : Scope := ⟨type.map Text.lower, mode.map Text.lower⟩

def get (scope : Scope) : Key → Option String
  | .type => scope.type
  | .mode => scope.mode

end Scope

end ChartLint
