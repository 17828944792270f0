import ChartLint.Text.Piece
import ChartLint.Value.Check

/-!
Settings: declarations of a document, each with its descriptor as resolved at the declaration.
-/
namespace ChartLint

structure Setting where
  /-- The descriptor, resolved in the scope of the declaration. -/
  spec : Descriptor
  /-- The first declared value. -/
  value : String
  /-- All declared values in document order. -/
  values : List String
  /-- Place of the name. -/
  range : Range

namespace Setting

/-- A setting declared once. -/
def declare (descriptor : Descriptor) (scope : Scope) (value : String) (range : Range) : Setting :=
  ⟨descriptor.resolve scope, value, [value], range⟩

/-- Normalized name. -/
def name (setting : Setting) : String := setting.spec.name

def displayName (setting : Setting) : String := setting.spec.displayName

/-- Number of nonblank items in all values, which commas divide. -/
def itemCount (setting : Setting) : Nat :=
  (setting.values.flatMap fun value => Text.pieces ',' value.toList).countP fun item =>
    !(Text.trim item).isEmpty

/-- What is wrong with the first value. -/
def check (setting : Setting) : Option Finding :=
  (Value.check setting.spec setting.value).map fun issue => ⟨issue, setting.range⟩

/-- The setting of a normalized name in a list of settings. -/
def named? (settings : List Setting) (name : String) : Option Setting :=
  settings.find? fun setting => setting.name == name

/-- The scope that settings declare: the first setting of a key gives its value. -/
def scopeOf (settings : List Setting) : Scope :=
  let value? (key : Scope.Key) : Option String := (named? settings key.settingName).map Setting.value
  .ofValues (value? .type) (value? .mode)

end Setting

end ChartLint
