import Tabletop.Text.CodePoint

/-!
# Dice expressions

What a line of dice notation says: a first operand, then operators with their operands, combined
strictly from left to right (`Expression`). An operand is a whole number or a dice term.

* `Operator.apply`: one step of the combination; division rounds down, and by zero has no value.
* `Expression.diceTerms`: the dice terms, in the order in which they are rolled.
* `Expression.unsourced`: an expression without the text its terms were read from. Two expressions
  that agree here ask for the same rolls.
-/

namespace Tabletop

/-- Which of the rolled dice count. -/
inductive KeepDrop where
  | all
  | keepHigh
  | keepLow
  | dropHigh
  | dropLow
  deriving DecidableEq

namespace KeepDrop

/-- How a selection is written. -/
def token : KeepDrop → Text
  | all => []
  | keepHigh => [.char 'k', .char 'h']
  | keepLow => [.char 'k', .char 'l']
  | dropHigh => [.char 'd', .char 'h']
  | dropLow => [.char 'd', .char 'l']

/-- Every selection. -/
def every : List KeepDrop := [all, keepHigh, keepLow, dropHigh, dropLow]

/-- The selection written so. -/
def ofToken? (t : Text) : Option KeepDrop := every.find? fun k => k.token = t

/-- Whether the selected dice are the ones that count. -/
def isKeep : KeepDrop → Bool
  | keepHigh | keepLow => true
  | _ => false

/-- Whether the selected dice are the ones left out. -/
def isDrop : KeepDrop → Bool
  | dropHigh | dropLow => true
  | _ => false

/-- Whether dice are selected from the highest down. -/
def descending : KeepDrop → Bool
  | keepHigh | dropHigh => true
  | _ => false

end KeepDrop

/-- What happens to a die at or below the threshold: nothing, one new draw, or new draws until one
is above it. -/
inductive Reroll where
  | never
  | once
  | untilAbove
  deriving DecidableEq

namespace Reroll

/-- How a reroll is written. -/
def token : Reroll → Text
  | never => []
  | once => [.char 'r']
  | untilAbove => [.char 'r', .char 'r']

/-- The reroll written so. -/
def ofToken? (t : Text) : Option Reroll := [never, once, untilAbove].find? fun r => r.token = t

end Reroll

/-- The arithmetic operators. -/
inductive Operator where
  | add
  | subtract
  | multiply
  | divide
  deriving DecidableEq

namespace Operator

/-- The character of an operator. -/
def symbol : Operator → CodePoint
  | add => .char '+'
  | subtract => .char '-'
  | multiply => .char '*'
  | divide => .char '/'

/-- The operator with a character. -/
def ofSymbol? (c : CodePoint) : Option Operator :=
  [add, subtract, multiply, divide].find? fun o => o.symbol = c

/-- The running total combined with an operand; division rounds down. -/
def apply : Operator → Int → Int → Option Int
  | add, left, right => some (left + right)
  | subtract, left, right => some (left - right)
  | multiply, left, right => some (left * right)
  | divide, left, right => if right = 0 then none else some (left.fdiv right)

theorem ofSymbol?_symbol (o : Operator) : ofSymbol? o.symbol = some o := by
  cases o <;> rfl

theorem ofSymbol?_eq_some_iff {c : CodePoint} {o : Operator} :
    ofSymbol? c = some o ↔ c = o.symbol := by
  constructor
  · intro h
    have := List.find?_some h
    simpa [eq_comm] using this
  · rintro rfl
    exact ofSymbol?_symbol o

theorem apply_eq_none_iff {o : Operator} {left right : Int} :
    o.apply left right = none ↔ o = .divide ∧ right = 0 := by
  cases o <;> simp [apply]

end Operator

/-- Some dice of one kind with what is done to them. -/
structure DiceTerm where
  count : Int := 1
  faces : Int
  keepDrop : KeepDrop := .all
  /-- How many dice are kept or dropped. -/
  modifierCount : Int := 1
  /-- Whether the highest face brings another die. -/
  explode : Bool := false
  reroll : Reroll := .never
  /-- The highest value that is rerolled. -/
  rerollThreshold : Int := 1
  /-- The text the term was read from. -/
  source : Text := []
  deriving DecidableEq

/-- A number, or dice. -/
inductive Operand where
  | literal (n : Int)
  | dice (term : DiceTerm)
  deriving DecidableEq

/-- A first operand, and operators with theirs. -/
structure Expression where
  first : Operand
  tail : List (Operator × Operand) := []
  deriving DecidableEq

namespace Operand

/-- The dice term of an operand, if it is one. -/
def dice? : Operand → Option DiceTerm
  | literal _ => none
  | dice term => some term

/-- An operand without the text it was read from. -/
def unsourced : Operand → Operand
  | literal n => literal n
  | dice term => dice { term with source := [] }

/-- An operand with its numbers taken modulo `m`. -/
def reduce (m : Int) : Operand → Operand
  | literal n => literal (n % m)
  | dice term => dice { term with
      count := term.count % m, faces := term.faces % m,
      modifierCount := term.modifierCount % m, rerollThreshold := term.rerollThreshold % m }

end Operand

namespace Expression

/-- The operands, in order. -/
def operands (e : Expression) : List Operand := e.first :: e.tail.map Prod.snd

/-- The dice terms, in the order in which they are rolled. -/
def diceTerms (e : Expression) : List DiceTerm := e.operands.filterMap Operand.dice?

/-- An expression without the texts its terms were read from. -/
def unsourced (e : Expression) : Expression :=
  { first := e.first.unsourced, tail := e.tail.map fun (o, x) => (o, x.unsourced) }

/-- The modulus of `fingerprint`. -/
def fingerprintModulus : Int := 2305843009213693951

/-- A coarser view than `unsourced`, with numbers taken modulo a prime: expressions that agree have
one fingerprint. -/
def fingerprint (e : Expression) : Expression :=
  { first := e.unsourced.first.reduce fingerprintModulus
    tail := e.unsourced.tail.map fun (o, x) => (o, x.reduce fingerprintModulus) }

end Expression

end Tabletop
