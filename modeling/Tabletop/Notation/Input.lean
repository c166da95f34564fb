import Tabletop.Data.Value
import Tabletop.Notation.Parser

/-!
# Notation that comes as data

A line of notation taken from a piece of data (`Value.line`), and the expression that it says
(`Expression.ofValue`). Data that counts as absent is a blank line; any other data that is no text
cannot be stripped, and is refused as such.
-/

namespace Tabletop

/-- Why data gives no expression. -/
inductive InputFault where
  | parse (fault : ParseFault)
  /-- Data of a kind that lacks an operation. -/
  | lacks (kind : Kind) (operation : Text)
  deriving DecidableEq

/-- The wording of an operation that a kind of data lacks. -/
def lacksMessage (kind : Kind) (operation : Text) : Text :=
  Text.ofString "'" ++ kind.name ++ Text.ofString "' object has no attribute '" ++ operation
    ++ Text.ofString "'"

/-- The wording of a fault. -/
def InputFault.message : InputFault → Text
  | parse fault => fault.message
  | lacks kind operation => lacksMessage kind operation

/-- The line of notation that a piece of data says. -/
def Value.line (v : Value) : Except InputFault Text :=
  match v with
  | .text line => .ok line
  | v => if v.isTruthy then .error (.lacks v.kind "strip") else .ok []

/-- The expression that a piece of data says. -/
def Expression.ofValue (v : Value) : Except InputFault Expression := do
  let line ← v.line
  match Expression.parse line with
  | .ok e => .ok e
  | .error fault => .error (.parse fault)

end Tabletop
