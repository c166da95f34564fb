import Tabletop.Notation.Expression
import Tabletop.Numeral
import Tabletop.Text.Blank

/-!
# Faults of dice notation

Why a line of notation is refused (`NotationFault`): the cause, the part of the line at fault and
the line itself. A line may also hold a numeral too long to read, which is a fault of its own
(`ParseFault`).

* `NotationFault.message`: the wording of a fault.
-/

namespace Tabletop

/-- The causes for which notation is refused. -/
inductive NotationCause where
  /-- The line is blank. -/
  | blank
  /-- The line does not begin with a term. -/
  | noTerm
  /-- A term is followed by something other than an operator. -/
  | noOperator
  /-- An operator is not followed by a term. -/
  | noOperand (operator : Operator)
  /-- The divisor is the number zero. -/
  | zeroDivisor
  /-- The divisor drops as many dice as it rolls. -/
  | emptyDivisor
  | diceCount
  | faceCount
  /-- An exploding die has a single face. -/
  | explodeFaces
  | modifierCount
  | modifierExceedsCount (modifier count : Nat)
  | rerollThreshold (faces : Nat)
  deriving DecidableEq

/-- A refused line: the cause, the part at fault, and the line as it was given. -/
structure NotationFault where
  cause : NotationCause
  fragment : Text
  expression : Text
  deriving DecidableEq

/-- Why no expression is read. -/
inductive ParseFault where
  | refused (fault : NotationFault)
  | numeral (fault : Numeral.Fault)
  deriving DecidableEq

namespace NotationFault

/-- The wording of a fault. -/
def message (f : NotationFault) : Text :=
  match f.cause with
  | .blank => "Dice expression cannot be empty"
  | .noTerm => Text.ofString "Invalid dice expression: '" ++ f.expression.strip ++ Text.ofString "'"
  | .noOperator => Text.ofString "Unexpected '" ++ f.fragment ++ Text.ofString "' in dice expression"
  | .noOperand operator =>
    Text.ofString "Expected a number or dice after '" ++ [operator.symbol] ++ Text.ofString "'"
  | .zeroDivisor => "Cannot divide by zero"
  | .emptyDivisor => Text.ofString "Divisor '" ++ f.fragment ++ Text.ofString "' can total zero"
  | .diceCount => "Must roll at least 1 die"
  | .faceCount => "Dice must have at least 1 face"
  | .explodeFaces => "Exploding dice need at least 2 faces"
  | .modifierCount => "Keep/drop count must be at least 1"
  | .modifierExceedsCount modifier count =>
    Text.ofString "Cannot keep or drop " ++ Numeral.digits modifier ++ Text.ofString " of "
      ++ Numeral.digits count ++ Text.ofString " dice"
  | .rerollThreshold faces =>
    Text.ofString "Reroll threshold must be at least 1 and below " ++ Numeral.digits faces

end NotationFault

/-- The wording of a parse fault. -/
def ParseFault.message : ParseFault → Text
  | refused fault => fault.message
  | numeral fault => fault.message

end Tabletop
