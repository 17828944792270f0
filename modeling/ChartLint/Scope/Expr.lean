import ChartLint.Scope

/-!
Scope expressions: conditions on the type and the mode that select the overrides of a setting.
-/
namespace ChartLint.Scope

inductive Expr where
  | equal (key : Key) (literal : String)
  | notEqual (key : Key) (literal : String)
  | not (operand : Expr)
  | and (left right : Expr)
  | or (left right : Expr)
  deriving DecidableEq

/-- Whether a key is bound to a literal, in any letter case. A key that is not bound equals none. -/
def binds (scope : Scope) (key : Key) (literal : String) : Bool :=
  (scope.get key).any fun value => Text.equalIgnoringCase value literal

def Expr.eval (scope : Scope) : Expr → Bool
  | equal key literal => scope.binds key literal
  | notEqual key literal => !scope.binds key literal
  | not operand => !operand.eval scope
  | and left right => left.eval scope && right.eval scope
  | or left right => left.eval scope || right.eval scope

end ChartLint.Scope
