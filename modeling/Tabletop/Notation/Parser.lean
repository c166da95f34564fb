import Tabletop.Notation.Fault
import Tabletop.Notation.Spelling
import Tabletop.Text.Lowercase

/-!
# Reading dice notation

A line of notation to an expression (`Expression.parse`). The line is stripped and lowered first.
Terms and operators are then read from left to right, with gaps allowed around operators only, and
each term is checked as soon as it is read, so the leftmost fault is the one reported.

* `TermSpelling.operand`: the numbers of a spelled term, and the checks on them, in order.
* `Expression.parse`: the whole line.
-/

namespace Tabletop

/-- A fault before the line it belongs to is known. -/
inductive Refusal where
  | fault (cause : NotationCause) (fragment : Text)
  | numeral (fault : Numeral.Fault)
  deriving DecidableEq

/-- The fault of a line. -/
def Refusal.inLine (expression : Text) : Refusal → ParseFault
  | .fault cause fragment => .refused { cause, fragment, expression }
  | .numeral f => .numeral f

/-- The gaps allowed around operators. -/
def CodePoint.isGap (c : CodePoint) : Bool :=
  c = .char ' ' || c = .char '\t' || c = .char '\r' || c = .char '\n'

/-- The value of a run of digits. -/
def readNumber (digits : Text) : Except Refusal Nat :=
  match Numeral.read digits with
  | .ok n => .ok n
  | .error fault => .error (.numeral fault)

/-- The value of a run of digits that may be left out. -/
def readNumberOrOne (digits : Text) : Except Refusal Nat :=
  if digits.isEmpty then .ok 1 else readNumber digits

namespace DiceSpelling

/-- The first of the dice rules that some numbers break, if they break one. -/
def brokenRule? (s : DiceSpelling) (count faces modifier threshold : Nat) : Option NotationCause :=
  if count < 1 then some .diceCount
  else if faces < 1 then some .faceCount
  else if s.explode ∧ faces = 1 then some .explodeFaces
  else if s.keepDrop ≠ .all ∧ modifier < 1 then some .modifierCount
  else if s.keepDrop ≠ .all ∧ count < modifier then some (.modifierExceedsCount modifier count)
  else if s.reroll ≠ .never ∧ (threshold < 1 ∨ faces ≤ threshold) then
    some (.rerollThreshold faces)
  else none

/-- The dice term that is spelled, if its numbers can be read and keep the rules. -/
def term (s : DiceSpelling) : Except Refusal DiceTerm := do
  let count ← readNumberOrOne s.count
  let faces ← readNumber s.faces
  let modifier ← readNumberOrOne s.modifier
  let threshold ← readNumberOrOne s.threshold
  match s.brokenRule? count faces modifier threshold with
  | some cause => .error (.fault cause s.text)
  | none =>
    .ok { count, faces, keepDrop := s.keepDrop, modifierCount := modifier, explode := s.explode,
          reroll := s.reroll, rerollThreshold := threshold, source := s.text }

end DiceSpelling

/-- The operand that is spelled. -/
def TermSpelling.operand : TermSpelling → Except Refusal Operand
  | integer digits => do
    let n ← readNumber digits
    .ok (.literal n)
  | dice spelling => do
    let term ← spelling.term
    .ok (.dice term)

/-- A divisor is refused if it is zero or drops as many dice as it rolls. -/
def Operand.checkDivisor : Operand → Except Refusal Unit
  | literal n => if n = 0 then .error (.fault .zeroDivisor "/0") else .ok ()
  | dice term =>
    if term.keepDrop.isDrop ∧ term.modifierCount = term.count then
      .error (.fault .emptyDivisor term.source)
    else .ok ()

/-- An operand after an operator. -/
def Operator.checkOperand (operator : Operator) (operand : Operand) : Except Refusal Unit :=
  if operator = .divide then operand.checkDivisor else .ok ()

set_option linter.unusedVariables false in
/-- The operators and operands that follow a term, to the end of the text. -/
def readTail (t : Text) : Except Refusal (List (Operator × Operand)) :=
  match ht : t.dropWhile (·.isGap) with
  | [] => .ok []
  | symbol :: rest =>
    match Operator.ofSymbol? symbol with
    | none => .error (.fault .noOperator (symbol :: rest))
    | some operator =>
      match hs : TermSpelling.scan? (rest.dropWhile (·.isGap)) with
      | none => .error (.fault (.noOperand operator) (symbol :: rest.dropWhile (·.isGap)))
      | some (spelling, after) => do
        let operand ← spelling.operand
        operator.checkOperand operand
        let tail ← readTail after
        .ok ((operator, operand) :: tail)
termination_by t.length
decreasing_by
  have h₁ := TermSpelling.length_lt_of_scan? hs
  have h₂ : (t.dropWhile (·.isGap)).length ≤ t.length := (List.dropWhile_sublist _).length_le
  have h₃ : (rest.dropWhile (·.isGap)).length ≤ rest.length := (List.dropWhile_sublist _).length_le
  rw [ht, List.length_cons] at h₂
  omega

/-- A stripped and lowered line. -/
def readLine (t : Text) : Except Refusal Expression :=
  match TermSpelling.scan? t with
  | none => .error (.fault .noTerm t)
  | some (spelling, after) => do
    let first ← spelling.operand
    let tail ← readTail after
    .ok { first, tail }

/-- The expression that a line of notation says, or why it is refused. -/
def Expression.parse (line : Text) : Except ParseFault Expression :=
  if line.isBlank then .error (.refused { cause := .blank, fragment := [], expression := line })
  else
    match readLine line.strip.lowercase with
    | .ok e => .ok e
    | .error refusal => .error (refusal.inLine line)

end Tabletop
