import Tabletop.Evaluation

/-!
# Results for chat

A result as a chat message (`Result.chatText`): a description on a line of its own, if there is one
that shows, then the expression, its rolls and the total. Rolls are shown in the plain form unless
a value was replaced; then they are shown in the long form, laid out by the expression that was
evaluated, or by reading the result's line again.

* `Result.longDetail`: the rolls of a result in the long form.
* `errorText`, `successText`: other messages.
-/

namespace Tabletop

/-- What stands before a roll. -/
def diceMark : Text := "🎲 "

/-- What stands before an error. -/
def errorMark : Text := "❌ "

/-- What stands before a success. -/
def successMark : Text := "✅ "

/-- A mark, unless marks are not wanted. -/
def markIf (showMark : Bool) (mark : Text) : Text := if showMark then mark else []

/-- An error as a chat message. -/
def errorText (message : Text) (showMark : Bool) : Text := markIf showMark errorMark ++ message

/-- A success as a chat message. -/
def successText (message : Text) (showMark : Bool) : Text := markIf showMark successMark ++ message

/-- Why a result cannot be shown. -/
inductive TranscriptFault where
  /-- The line of the result cannot be read again. -/
  | parse (fault : ParseFault)
  /-- There are not as many rolls as dice terms. -/
  | mismatch (rolls terms : Nat) (expression : Text)
  | numeral (fault : Numeral.Fault)
  deriving DecidableEq

/-- The wording of a fault. -/
def TranscriptFault.message : TranscriptFault → Text
  | parse fault => fault.message
  | mismatch rolls terms expression =>
    Text.ofString "Result has " ++ Numeral.digits rolls ++ Text.ofString " rolls but '"
      ++ expression ++ Text.ofString "' has " ++ Numeral.digits terms
      ++ Text.ofString " dice terms"
  | numeral fault => fault.message

namespace Result

/-- The expression that lays a result out. -/
def layout (r : Result) : Except TranscriptFault Expression :=
  match r.parsed with
  | some e => .ok e
  | none =>
    match Expression.parse r.expression with
    | .ok e => .ok e
    | .error fault => .error (.parse fault)

/-- The rolls of a result in the long form. -/
def longDetail (r : Result) : Except TranscriptFault Text := do
  let e ← r.layout
  match e.trace? Roll.chainTrace r.rolls with
  | none => .error (.mismatch r.rolls.length e.diceTerms.length r.expression)
  | some (.ok text) => .ok text
  | some (.error fault) => .error (.numeral fault)

/-- The rolls of a result. -/
def body (r : Result) : Except TranscriptFault Text :=
  if r.hasRerolls then r.longDetail else .ok r.detail

/-- The line above a roll, with its line feed. -/
def descriptionLine : Option Text → Text
  | none => []
  | some description =>
    if description.isBlank then [] else description ++ [.char '\n']

/-- A result as a chat message. -/
def chatText (r : Result) (description : Option Text) (showMark : Bool) :
    Except TranscriptFault Text := do
  let body ← r.body
  match Numeral.write r.total with
  | .error fault => .error (.numeral fault)
  | .ok total =>
    .ok (descriptionLine description ++ markIf showMark diceMark ++ r.expression
      ++ Text.ofString " = " ++ body ++ Text.ofString " = " ++ total)

end Result

end Tabletop
