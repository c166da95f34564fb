import Tabletop.Data.Value
import Tabletop.Evaluation

/-!
# Results as data

The members that a result, its rolls and the replaced values have in replies and events, in order
(`Result.toValue`, `Roll.toValue`, `RerollRecord.toValue`).
-/

namespace Tabletop

/-- Whole numbers as data. -/
def Value.ofInts (ns : List Int) : Value := .list (ns.map .int)

/-- A replaced value as data. -/
def RerollRecord.toValue (r : RerollRecord) : Value :=
  .object [("index", .int r.index), ("original_value", .int r.replaced),
    ("rerolled_value", .int r.rerolled)]

/-- A roll as data. -/
def Roll.toValue (r : Roll) : Value :=
  .object [("faces", .int r.faces), ("results", .ofInts r.raw), ("final_results", .ofInts r.final),
    ("total", .int r.total), ("rerolls", .list (r.rerolls.map RerollRecord.toValue))]

/-- The members of a result. -/
def Result.members (r : Result) : List (Text × Value) :=
  [("expression", .text r.expression), ("total", .int r.total), ("detail", .text r.detail),
    ("rolls", .list (r.rolls.map Roll.toValue))]

/-- A result as data. -/
def Result.toValue (r : Result) : Value := .object r.members

end Tabletop
