import Tabletop.Notation.Expression

/-!
# Keeping and dropping

Which of some results count (`select`): the results are sorted, highest or lowest first, and either
the first of them are kept or the first of them are dropped. A negative count is counted from the
end, so that dropping the first −1 keeps the last one.
-/

namespace Tabletop

/-- Where a list of some length is cut for a count. -/
def cutAt (count : Int) (length : Nat) : Nat :=
  if count < 0 then (length + count).toNat else count.toNat

/-- Results from the highest down, or from the lowest up. -/
def sortResults (descending : Bool) (results : List Int) : List Int :=
  if descending then results.mergeSort (fun a b => b ≤ a) else results.mergeSort (fun a b => a ≤ b)

/-- The results that count under a selection of some count. -/
def select (results : List Int) (keepDrop : KeepDrop) (count : Int) : List Int :=
  if keepDrop = .all then results
  else
    let ordered := sortResults keepDrop.descending results
    let cut := cutAt count ordered.length
    if keepDrop.isKeep then ordered.take cut else ordered.drop cut

end Tabletop
