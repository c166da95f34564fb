import Tabletop.Dice.Roll

/-!
# Rolls as text

How rolls are shown inside an expression. The plain form lists the values of a roll, and after an
arrow those that count (`Roll.trace`). The long form shows in each place every value it held, and
ends with the replacements (`Roll.chainTrace`).

* `placeRolls`: operands with a roll in the place of each dice term, if there are as many.
* `joinTerms`: terms with their operators between them.
* `Expression.trace?`: an expression with its rolls, in a form.
-/

namespace Tabletop

/-- The arrow between a value and what became of it. -/
def arrow : CodePoint := .char '→'

/-- Cells between brackets. -/
def bracketCells (cells : List Text) : Text :=
  .char '[' :: Text.join [.char ','] cells ++ [.char ']']

/-- A replacement. -/
def RerollRecord.trace (record : RerollRecord) : Except Numeral.Fault Text := do
  let replaced ← Numeral.write record.replaced
  let rerolled ← Numeral.write record.rerolled
  .ok (replaced ++ arrow :: rerolled)

/-- Replacements, in order. -/
def traceRecords : List RerollRecord → Except Numeral.Fault (List Text)
  | [] => .ok []
  | record :: rest => do
    let text ← record.trace
    let texts ← traceRecords rest
    .ok (text :: texts)

namespace Roll

/-- The values that count, after an arrow, if the selection left one out. -/
def selectedTrace (r : Roll) : Except Numeral.Fault Text :=
  if r.selectionChanged then do
    let cells ← Numeral.writeAll r.final
    .ok (arrow :: bracketCells cells)
  else .ok []

/-- A roll in the plain form. -/
def trace (r : Roll) : Except Numeral.Fault Text := do
  let cells ← Numeral.writeAll r.raw
  let selected ← r.selectedTrace
  .ok (bracketCells cells ++ selected)

/-- All the values that a place held, if one of them was replaced. -/
def chain? (r : Roll) (index : Nat) : Option (List Int) :=
  match r.rerolls.filter fun record => record.index = (index : Int) with
  | [] => none
  | record :: records => some (record.replaced :: (record :: records).map (·.rerolled))

/-- A place of a roll with the values it held, arrows between them. -/
def chainCell (r : Roll) (index : Nat) (value : Int) : Except Numeral.Fault Text := do
  let values ← Numeral.writeAll ((r.chain? index).getD [value])
  .ok (Text.join [arrow] values)

/-- The places of a roll from one on, which hold some values in the end. -/
def chainCells (r : Roll) (index : Nat) : List Int → Except Numeral.Fault (List Text)
  | [] => .ok []
  | value :: rest => do
    let cell ← r.chainCell index value
    let cells ← chainCells r (index + 1) rest
    .ok (cell :: cells)

/-- The replacements of a roll, if there are any. -/
def rerollSummary (r : Roll) : Except Numeral.Fault Text :=
  if r.rerolls.isEmpty then .ok []
  else do
    let pairs ← traceRecords r.rerolls
    .ok (Text.ofString " (rerolled " ++ Text.join [.char ',', .char ' '] pairs ++ [.char ')'])

/-- A roll in the long form. -/
def chainTrace (r : Roll) : Except Numeral.Fault Text := do
  let cells ← r.chainCells 0 r.raw
  let selected ← r.selectedTrace
  let summary ← r.rerollSummary
  .ok (bracketCells cells ++ selected ++ summary)

end Roll

/-! ## Expressions -/

/-- An operand with its roll. -/
inductive Part where
  | number (n : Int)
  | roll (r : Roll)

/-- A part, with rolls in a form. -/
def Part.trace (form : Roll → Except Numeral.Fault Text) : Part → Except Numeral.Fault Text
  | number n => Numeral.write n
  | roll r => form r

/-- Operands with the rolls of the dice terms among them, if there is one roll for each. -/
def placeRolls : List Operand → List Roll → Option (List Part)
  | [], [] => some []
  | [], _ :: _ => none
  | .literal n :: operands, rolls => (placeRolls operands rolls).map (.number n :: ·)
  | .dice _ :: operands, r :: rolls => (placeRolls operands rolls).map (.roll r :: ·)
  | .dice _ :: _, [] => none

/-- An operator between gaps. -/
def Operator.spaced (o : Operator) : Text := [.char ' ', o.symbol, .char ' ']

/-- A first term, then operators with theirs. -/
def joinTerms (first : Text) (rest : List (Operator × Text)) : Text :=
  first ++ rest.flatMap fun (o, t) => o.spaced ++ t

/-- Parts, with rolls in a form. -/
def traceParts (form : Roll → Except Numeral.Fault Text) :
    List Part → Except Numeral.Fault (List Text)
  | [] => .ok []
  | part :: rest => do
    let text ← part.trace form
    let texts ← traceParts form rest
    .ok (text :: texts)

/-- An expression with rolls in the places of its dice terms, if there is one for each. -/
def Expression.trace? (form : Roll → Except Numeral.Fault Text) (e : Expression)
    (rolls : List Roll) : Option (Except Numeral.Fault Text) :=
  (placeRolls e.operands rolls).map fun parts => do
    let texts ← traceParts form parts
    .ok (joinTerms (texts.headD []) ((e.tail.map Prod.fst).zip texts.tail))

end Tabletop
