import ChartLint.Rule.View

/-!
Conditions on the value in effect of a setting.
-/
namespace ChartLint.Rule

structure Condition where
  setting : String
  /-- Accepted values, in any letter case. -/
  values : List String
  deriving DecidableEq

namespace Condition

/-- Whether a value satisfies the condition; an absent value never does. -/
def holds (condition : Condition) (value : Option String) : Bool :=
  value.any fun value =>
    condition.values.any fun accepted => Text.equalIgnoringCase accepted (Text.trimmed value)

/-- The condition in words. -/
def describe (condition : Condition) : String :=
  match condition.values with
  | [one] => s!"{condition.setting} is {one}"
  | many => s!"{condition.setting} is one of {Text.commaList many}"

end Condition

namespace View

/-- The conditions that do not hold, in their order. -/
def failing (view : View) (conditions : List Condition) : List Condition :=
  conditions.filter fun condition => !condition.holds (view.effective? condition.setting)

def satisfies (view : View) (conditions : List Condition) : Bool := (view.failing conditions).isEmpty

end View

end ChartLint.Rule
