import Tabletop.Data.Value
import Tabletop.Notation.Expression

/-!
# Limits

How much one command may ask for (`Limits`): so many dice in all terms together, and so many faces
of any die. Limits come from settings as they are, and are compared as data; one that is not a
number cannot be compared.

* `Limits.check`: nothing, or the first limit that an expression exceeds. The faces are looked at
  only if the dice are within their limit.
-/

namespace Tabletop

/-- The limits of one command. -/
structure Limits where
  maxDice : Value := .int 100
  maxSides : Value := .int 1000

/-- What is wrong with an expression under limits. -/
inductive LimitFault where
  /-- More dice than the limit that is shown. -/
  | dice (limit : Text)
  /-- More faces than the limit that is shown. -/
  | sides (limit : Text)
  /-- The limit is data of a kind that has no order. -/
  | incomparable (kind : Kind)
  /-- The limit is too long to be shown. -/
  | numeral (fault : Numeral.Fault)
  deriving DecidableEq

/-- The wording of a fault. -/
def LimitFault.message : LimitFault → Text
  | dice limit => Text.ofString "Maximum " ++ limit ++ Text.ofString " dice allowed"
  | sides limit => Text.ofString "Maximum " ++ limit ++ Text.ofString " sides allowed"
  | incomparable kind =>
    Text.ofString "'>' not supported between instances of 'int' and '" ++ kind.name
      ++ Text.ofString "'"
  | numeral fault => fault.message

namespace Limits

/-- Whether a number exceeds a limit. A truth value counts as a number. -/
def exceeds (n : Int) : Value → Except LimitFault Bool
  | .int limit => .ok (limit < n)
  | .bool limit => .ok ((if limit then 1 else 0) < n)
  | .float limit => .ok (limit.ltInt n)
  | value => .error (.incomparable value.kind)

/-- Whether any of some numbers exceeds a limit. -/
def anyExceeds (limit : Value) : List Int → Except LimitFault Bool
  | [] => .ok false
  | n :: rest => do
    if ← exceeds n limit then .ok true else anyExceeds limit rest

/-- A fault that shows the limit. -/
def refuse (fault : Text → LimitFault) (limit : Value) : Except LimitFault Unit :=
  match limit.display with
  | .ok text => .error (fault text)
  | .error f => .error (.numeral f)

/-- The dice of all terms together. -/
def diceCount (e : Expression) : Int := e.diceTerms.foldr (fun t n => t.count + n) 0

/-- Checks an expression against limits. -/
def check (l : Limits) (e : Expression) : Except LimitFault Unit := do
  if ← exceeds (diceCount e) l.maxDice then refuse .dice l.maxDice
  else if ← anyExceeds l.maxSides (e.diceTerms.map (·.faces)) then refuse .sides l.maxSides
  else .ok ()

end Limits

end Tabletop
