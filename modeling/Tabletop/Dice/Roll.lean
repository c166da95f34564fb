import Tabletop.Dice.Selection
import Tabletop.Dice.Source

/-!
# Rolling dice

One die draws, is drawn again while the reroll asks for it, and brings further dice if it explodes
(`Die`, `rollDie`). A dice term rolls its dice one after the other and then selects (`rollTerm`).
What is known afterwards is the `Roll`: the values in draw order, those that count, their total,
and a record of every value that was replaced.

* `Die.draws`: what a die took from the source, in order.
* `Roll.ofDice`: what is known of some dice.
-/

namespace Tabletop

/-- One die: its first draw, the draws that replaced it, and the draws of the dice it brought. -/
structure Die where
  first : Int
  replacements : List Int
  extras : List Int
  deriving DecidableEq

/-- A value that was replaced, the value in its place, and the position of the die. -/
structure RerollRecord where
  index : Int
  replaced : Int
  rerolled : Int
  deriving DecidableEq

/-- The outcome of a dice term. -/
structure Roll where
  faces : Int
  /-- The values in draw order, with those of exploded dice. -/
  raw : List Int
  /-- The values that count. -/
  final : List Int
  /-- The sum of the values that count. -/
  total : Int
  /-- The replaced values, in draw order. -/
  rerolls : List RerollRecord := []
  deriving DecidableEq

namespace Die

/-- The value of a die once it is not drawn again. -/
def resolved (d : Die) : Int := d.replacements.getLastD d.first

/-- The values a die adds to the roll. -/
def values (d : Die) : List Int := d.resolved :: d.extras

/-- What a die took from the source. -/
def draws (d : Die) : List Int := d.first :: d.replacements ++ d.extras

/-- The records of a die at a position. -/
def records (index : Nat) (d : Die) : List RerollRecord :=
  ((d.first :: d.replacements).zip d.replacements).map fun (replaced, rerolled) =>
    { index, replaced, rerolled }

end Die

/-- The records of dice whose values begin at a position. -/
def recordsFrom (index : Nat) : List Die → List RerollRecord
  | [] => []
  | d :: dice => d.records index ++ recordsFrom (index + d.values.length) dice

/-- What is known of the dice of a term. -/
def Roll.ofDice (term : DiceTerm) (dice : List Die) : Roll :=
  let raw := dice.flatMap Die.values
  let final := select raw term.keepDrop term.modifierCount
  { faces := term.faces, raw, final, total := final.foldr (· + ·) 0, rerolls := recordsFrom 0 dice }

/-- Whether the selection left a value out. -/
def Roll.selectionChanged (r : Roll) : Bool := r.final.length != r.raw.length

/-- The draws that replace a first draw. -/
def rollReplacements (term : DiceTerm) (first : Int) : Rolling (List Int) :=
  if term.rerollThreshold < first then pure []
  else
    match term.reroll with
    | .never => pure []
    | .once => do
      let value ← draw term.faces
      pure [value]
    | .untilAbove => drawUntil term.faces fun v => term.rerollThreshold < v

/-- The draws of the dice that a die with a value brings. They may explode, but are not drawn
again. -/
def rollExtras (term : DiceTerm) (value : Int) : Rolling (List Int) :=
  if term.explode ∧ value = term.faces then drawUntil term.faces fun v => v ≠ term.faces
  else pure []

/-- One die of a term. -/
def rollDie (term : DiceTerm) : Rolling Die := do
  let first ← draw term.faces
  let replacements ← rollReplacements term first
  let extras ← rollExtras term (replacements.getLastD first)
  pure { first, replacements, extras }

/-- Some dice of a term, one after the other. -/
def rollDice (term : DiceTerm) : Nat → Rolling (List Die)
  | 0 => pure []
  | n + 1 => do
    let die ← rollDie term
    let dice ← rollDice term n
    pure (die :: dice)

/-- A dice term. -/
def rollTerm (term : DiceTerm) : Rolling Roll := do
  let dice ← rollDice term term.count.toNat
  pure (Roll.ofDice term dice)

end Tabletop
