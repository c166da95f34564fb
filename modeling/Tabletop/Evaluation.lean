import Tabletop.Dice.Trace
import Tabletop.Notation.Parser

/-!
# Evaluating expressions

An expression is rolled and combined from left to right (`Expression.evaluate`). Every operand is
rolled, combined with the running total and added to the trace before the next one is looked at, so
the first thing that fails is the one reported, and nothing after it is drawn.

* `Result`: the rolls, the total and the trace.
* `evaluateLine`: a line of notation, read and evaluated.
-/

namespace Tabletop

/-- The outcome of an expression. -/
structure Result where
  /-- The line of notation. -/
  expression : Text
  rolls : List Roll
  total : Int
  /-- Every term with its roll, in the plain form. -/
  detail : Text
  /-- The expression that was evaluated. -/
  parsed : Option Expression := none

/-- Whether a value was replaced in any of the rolls. -/
def Result.hasRerolls (r : Result) : Bool := r.rolls.any fun roll => !roll.rerolls.isEmpty

/-- What an expression has come to so far. -/
structure Tally where
  rolls : List Roll
  total : Int
  detail : Text

/-- A text that may be too long to write, in a computation that draws. -/
def writing (text : Except Numeral.Fault Text) : Rolling Text :=
  match text with
  | .ok t => pure t
  | .error fault => throw (.numeral fault)

/-- An operand with its roll, and the value of it. -/
def Operand.roll : Operand → Rolling (Part × Int)
  | literal n => pure (.number n, n)
  | dice term => do
    let r ← rollTerm term
    pure (.roll r, r.total)

/-- The rolls of a part. -/
def Part.rolls : Part → List Roll
  | number _ => []
  | roll r => [r]

/-- The first operand of an expression. -/
def Tally.start (operand : Operand) : Rolling Tally := do
  let (part, total) ← operand.roll
  let detail ← writing (part.trace Roll.trace)
  pure { rolls := part.rolls, total, detail }

/-- One more operator with its operand. -/
def Tally.step (t : Tally) (term : Operator × Operand) : Rolling Tally := do
  let (part, value) ← term.2.roll
  match term.1.apply t.total value with
  | none => throw .divisionByZero
  | some total => do
    let text ← writing (part.trace Roll.trace)
    pure { rolls := t.rolls ++ part.rolls, total, detail := t.detail ++ term.1.spaced ++ text }

/-- Operators with their operands, in order. -/
def Tally.steps (t : Tally) : List (Operator × Operand) → Rolling Tally
  | [] => pure t
  | term :: rest => do
    let t' ← t.step term
    steps t' rest

/-- An expression that was read from a line. -/
def Expression.evaluate (line : Text) (e : Expression) : Rolling Result := do
  let first ← Tally.start e.first
  let tally ← first.steps e.tail
  pure { expression := line, rolls := tally.rolls, total := tally.total, detail := tally.detail,
         parsed := some e }

/-- Why a line has no result. -/
inductive EvaluationFault where
  | parse (fault : ParseFault)
  | roll (fault : RollFault)
  deriving DecidableEq

/-- A line of notation, read and evaluated. Nothing is drawn if it is refused. -/
def evaluateLine (line : Text) : EStateM EvaluationFault Source Result := fun s =>
  match Expression.parse line with
  | .error fault => .error (.parse fault) s
  | .ok e =>
    match e.evaluate line.strip s with
    | .ok result s' => .ok result s'
    | .error fault s' => .error (.roll fault) s'

end Tabletop
