import ChartLint.Issue
import ChartLint.Json.Draft
import ChartLint.Value.IsoDate
import ChartLint.Value.Numeral
import ChartLint.Value.Percentile
import ChartLint.Value.Placeholder

/-!
Checks of values against resolved descriptors. A value with an expression that is computed later is
never checked.
-/
namespace ChartLint.Value

/-- A value without a percent sign, and the factor by which the sign multiplies the bounds. -/
def percentage (descriptor : Descriptor) (value : List Char) : List Char × Number.Binary64 :=
  if descriptor.name == "arrowlength" && value.getLast? == some '%' then
    (Text.trimEnd value.dropLast, .ofNat 100)
  else (value, .ofNat 1)

/-- Whether a number is above its lower bound. -/
def aboveMinimum (minimum : Option Bound) (n : Number.Binary64) : Bool :=
  minimum.all fun bound => if bound.excluded then bound.value.less n else bound.value.atMost n

/-- Whether a number is below its upper bound. -/
def belowMaximum (maximum : Option Bound) (n : Number.Binary64) : Bool :=
  maximum.all fun bound => if bound.excluded then n.less bound.value else n.atMost bound.value

def stringFlaw? (descriptor : Descriptor) (value : String) : Option ValueFlaw :=
  if value.isEmpty then some .empty
  else if !descriptor.enumValues.isEmpty &&
      !(Text.pieces ',' value.toList).all fun piece =>
        descriptor.enumValues.contains (Text.lower (String.ofList (Text.trim piece))) then
    some (.notListed descriptor.enumValues)
  else
    match descriptor.pattern with
    | some form =>
      if form.pattern.occursIn (Text.trim value.toList) then none else some (.wrongForm form.hint)
    | none => none

def numberFlaw? (descriptor : Descriptor) (integer : Bool) (value : String) : Option ValueFlaw :=
  let (text, factor) := percentage descriptor value.toList
  match number? integer text with
  | none => some (.notNumber integer descriptor.example?)
  | some n =>
    let minimum := descriptor.minimum.map (·.scaled factor)
    let maximum := descriptor.maximum.map (·.scaled factor)
    if aboveMinimum minimum n && belowMaximum maximum n then none
    else some (.outOfBounds minimum maximum descriptor.example?)

def booleanFlaw? (value : String) : Option ValueFlaw :=
  if ValueFlaw.booleans.contains (Text.lower value) then none else some .notBoolean

def dateFlaw? (value : String) : Option ValueFlaw :=
  if isCalendarExpression value.toList || (instant? value).isSome then none else some .notDate

def objectFlaw? (value : String) : Option ValueFlaw :=
  (Json.fault? value.toList).map fun fault => .notJson (fault.message value.toList)

/-- The issue of a value that does not fit. -/
def invalid (descriptor : Descriptor) (value : String) (flaw : ValueFlaw) : Issue :=
  .invalidValue descriptor.displayName value descriptor.kind flaw

/-- Checks one of the listed words. Statistics may be percentiles. -/
def checkEnum (descriptor : Descriptor) (value : String) : Option Issue :=
  let word := Text.lower value
  if descriptor.enumValues.isEmpty then some (.notAllowedHere descriptor.displayName)
  else if descriptor.enumValues.contains word then none
  else
    let percentile :=
      if Text.hasPart "statistic".toList descriptor.name.toList then Percentile.ofText? word.toList
      else none
    match percentile with
    | none => some (invalid descriptor value (.notListed descriptor.enumValues))
    | some percentile =>
      if !percentile.inRange then some (invalid descriptor value .percentileOutOfRange)
      else if percentile.deprecated then
        some (.deprecatedPercentile descriptor.displayName value (String.ofList percentile.argument))
      else none

/-- Checks a count and a unit. Update intervals were once written as seconds. -/
def checkInterval (descriptor : Descriptor) (value : String) : Option Issue :=
  let word := Text.lower value
  if word == "all" || isInterval value.toList || descriptor.enumValues.contains word then none
  else if descriptor.name == "updateinterval" && (Text.natural? value.toList).isSome then
    some (.deprecatedSeconds descriptor.displayName value)
  else some (invalid descriptor value (.notInterval descriptor.example? descriptor.enumValues))

/-- What is wrong with a value, by the kind of its descriptor. -/
def check (descriptor : Descriptor) (value : String) : Option Issue :=
  if hasExpression value.toList then none
  else
    match descriptor.kind with
    | .string => (stringFlaw? descriptor value).map (invalid descriptor value)
    | .number => (numberFlaw? descriptor false value).map (invalid descriptor value)
    | .integer => (numberFlaw? descriptor true value).map (invalid descriptor value)
    | .boolean => (booleanFlaw? value).map (invalid descriptor value)
    | .enum => checkEnum descriptor value
    | .interval => checkInterval descriptor value
    | .date => (dateFlaw? value).map (invalid descriptor value)
    | .object => (objectFlaw? value).map (invalid descriptor value)

end ChartLint.Value
