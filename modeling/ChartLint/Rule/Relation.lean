import ChartLint.Rule.Condition

/-!
Relations between the values of settings. A relation is checked where one of its sides is declared; the
other side may come from an enclosing section.
-/
namespace ChartLint.Rule

inductive Order where
  | less
  | greater
  deriving DecidableEq

namespace Order

def name : Order → String
  | less => "less"
  | greater => "greater"

/-- Whether an instant stands in the order to another. -/
def holds : Order → Instant → Instant → Bool
  | less, a, b => a < b
  | greater, a, b => b < a

end Order

/-- Two dates in strict order. -/
structure DateOrder where
  /-- The setting at which a violation is reported. -/
  anchor : String
  order : Order
  other : String
  deriving DecidableEq

/-- Pairs of dates that have an order. -/
def dateOrders : List DateOrder := [
  ⟨"end-time", .greater, "start-time"⟩,
  ⟨"forecast-horizon-end-time", .greater, "end-time"⟩,
  ⟨"forecast-horizon-start-time", .less, "forecast-horizon-end-time"⟩]

/-- The finding of two dates out of order. Only absolute dates are compared. -/
def DateOrder.check (pair : DateOrder) (view : View) : Option Finding := do
  if (view.local? pair.anchor).isNone && (view.local? pair.other).isNone then none
  else
    let declared ← view.visible? pair.anchor
    let other ← view.visible? pair.other
    let a ← Value.instant? declared.value
    let b ← Value.instant? other.value
    if pair.order.holds a b then none
    else
      let issue :=
        .valueRelation declared.displayName pair.anchor pair.order.name pair.other pair.other
      some ⟨issue, declared.range⟩

/-- The number of groups that a forecast makes by itself. -/
def groupCount : String := "forecast-ssa-group-auto-count"

/-- The number of components that a forecast keeps. -/
def componentLimit : String := "forecast-ssa-decompose-eigentriple-limit"

/-- The number in effect of a setting. -/
def effectiveNumber? (view : View) (name : String) : Option Number.Binary64 :=
  (view.effective? name).bind fun value => Number.ofText? (Text.trim value.toList)

/-- The finding of more groups than components. Both numbers have defaults. -/
def checkGroups (view : View) : Option Finding := do
  let anchor ← (view.local? componentLimit).or (view.local? groupCount)
  let count ← effectiveNumber? view groupCount
  let limit ← effectiveNumber? view componentLimit
  if count.less limit then none
  else
    let related :=
      if anchor.name == normalizeName groupCount then componentLimit else groupCount
    let issue :=
      .valueRelation anchor.displayName componentLimit Order.greater.name groupCount related
    some ⟨issue, anchor.range⟩

/-- Widgets whose colors fill the segments between thresholds. -/
def segmentedWidgets : List Condition := [
  ⟨"type", ["gauge", "calendar", "treemap"]⟩, ⟨"mode", ["half", "default"]⟩]

/-- The finding of colors that are not one fewer than the thresholds. -/
def checkColors (view : View) : Option Finding := do
  let colors ← view.local? "colors"
  let thresholds ← view.visible? "thresholds"
  if view.satisfies segmentedWidgets && colors.itemCount + 1 != thresholds.itemCount then
    some ⟨.colorsThresholds colors.itemCount thresholds.itemCount, colors.range⟩
  else none

/-- The finding of a time span beside both of its ends. -/
def checkTimespan (view : View) : Option Finding := do
  if ["start-time", "end-time", "timespan"].all fun name => (view.local? name).isNone then none
  else
    let timespan ← view.visible? "timespan"
    let _ ← view.visible? "start-time"
    let _ ← view.visible? "end-time"
    some ⟨.timespanIgnored timespan.displayName, timespan.range⟩

/-- All findings about relations. -/
def checkRelations (view : View) : List Finding :=
  dateOrders.filterMap (·.check view) ++
    [checkGroups view, checkColors view, checkTimespan view].filterMap id

end ChartLint.Rule
