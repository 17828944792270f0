import ChartLint.Number.Fixed
import ChartLint.Pattern.Parser
import ChartLint.Scope.Parser
import ChartLint.Table

/-!
Descriptors: what a catalog says of a setting.
-/
namespace ChartLint

/-- A setting's name for comparison: its ASCII letters in lower case, and nothing else. -/
def normalizeName (name : String) : String :=
  String.ofList ((name.toList.filter Char.isAlpha).map Char.toLower)

inductive ValueKind where
  /-- Free text, possibly of listed words. -/
  | string
  | number
  | integer
  | boolean
  /-- One of the listed words. -/
  | enum
  /-- A count and a unit of time. -/
  | interval
  /-- A calendar expression or an ISO date. -/
  | date
  /-- A JSON value. -/
  | object
  deriving DecidableEq

namespace ValueKind

def all : List ValueKind := [string, number, integer, boolean, enum, interval, date, object]

def name : ValueKind → String
  | string => "string"
  | number => "number"
  | integer => "integer"
  | boolean => "boolean"
  | enum => "enum"
  | interval => "interval"
  | date => "date"
  | object => "object"

def ofName? (name : String) : Option ValueKind := all.find? fun kind => kind.name == name

end ValueKind

/-- A limit of a number. -/
structure Bound where
  value : Number.Binary64
  /-- Whether the limit itself is out of bounds. -/
  excluded : Bool := false
  deriving BEq

/-- The bound with its limit multiplied. -/
def Bound.scaled (bound : Bound) (factor : Number.Binary64) : Bound :=
  { bound with value := bound.value.mul factor }

/-- What an override replaces; what is absent stays. -/
structure Patch where
  kind : Option ValueKind := none
  enumValues : Option (List String) := none
  minimum : Option Bound := none
  maximum : Option Bound := none
  example? : Option String := none
  default? : Option String := none
  deriving BEq

/-- A patch that holds where its guard does. -/
structure Override where
  /-- The guard as written. -/
  source : String
  guard : Scope.Expr
  patch : Patch
  deriving BEq

/-- The form that values have to have. -/
structure ValuePattern where
  source : String
  pattern : Pattern
  /-- Completes "… must be". -/
  hint : String
  deriving BEq

structure Descriptor where
  displayName : String
  /-- The display name, normalized. -/
  name : String
  kind : ValueKind
  /-- Allowed words, in lower case and sorted. -/
  enumValues : List String
  minimum : Option Bound
  maximum : Option Bound
  example? : Option String
  default? : Option String
  pattern : Option ValuePattern
  /-- Normalized names of the settings that exclude this one from their section. -/
  excludes : List String
  /-- Whether repeated declarations add up. -/
  multiLine : Bool
  /-- Sections of the setting; none listed means any. -/
  sections : List String
  /-- Widget types for which the setting has effect; none listed means any. -/
  widgets : List String
  description : Option String
  overrides : List Override
  deriving BEq

/-- Allowed words in lower case, sorted, each once. -/
def normalizeEnum (values : List String) : List String := sortNames (values.map Text.lower)

namespace Descriptor

def patched (descriptor : Descriptor) (patch : Patch) : Descriptor :=
  { descriptor with
    kind := patch.kind.getD descriptor.kind
    enumValues := (patch.enumValues.map normalizeEnum).getD descriptor.enumValues
    minimum := patch.minimum.or descriptor.minimum
    maximum := patch.maximum.or descriptor.maximum
    example? := patch.example?.or descriptor.example?
    default? := patch.default?.or descriptor.default? }

/-- The descriptor in a scope: the patches whose guards hold are applied in order. -/
def resolve (descriptor : Descriptor) (scope : Scope) : Descriptor :=
  (descriptor.overrides.filter fun override => override.guard.eval scope).foldl
    (fun resolved override => resolved.patched override.patch) descriptor

/-- Whether the setting has effect for a widget type. -/
def appliesTo (descriptor : Descriptor) (widgetType : String) : Bool :=
  descriptor.widgets.isEmpty ||
    descriptor.widgets.any fun widget => Text.equalIgnoringCase widget widgetType

end Descriptor

end ChartLint
