import Tabletop.Notation.Parser
import Tabletop.Proofs.Text.Lowercase

/-!
# The grammar of dice notation

What a stripped and lowered line may look like, apart from how it is read:

    line  := term (gap operator gap term)*
    term  := number | dice
    dice  := number? 'd' number (select number?)? '!'? (reroll number?)?

A derivation of a line is a `LineSpelling`: a first term and the links behind
it, each an operator with the gaps around it and a term. `LineSpelling.text` is
what it derives, `LineSpelling.tree` the expression it stands for, in which a
number left out is one. `Expression.Valid` states the rules on the numbers of
an expression.
-/

namespace Tabletop

/-! ## Derivations -/

/-- Runs of digits, present where the grammar needs them and absent where it has none. -/
structure DiceSpelling.WellSpelled (s : DiceSpelling) : Prop where
  count : ∀ c ∈ s.count, c.isDigit
  faces : ∀ c ∈ s.faces, c.isDigit
  faces_ne_nil : s.faces ≠ []
  modifier : ∀ c ∈ s.modifier, c.isDigit
  modifier_eq_nil : s.keepDrop = .all → s.modifier = []
  threshold : ∀ c ∈ s.threshold, c.isDigit
  threshold_eq_nil : s.reroll = .never → s.threshold = []

instance (s : DiceSpelling) : Decidable s.WellSpelled :=
  decidable_of_iff ((∀ c ∈ s.count, c.isDigit) ∧ (∀ c ∈ s.faces, c.isDigit) ∧ s.faces ≠ [] ∧
      (∀ c ∈ s.modifier, c.isDigit) ∧ (s.keepDrop = .all → s.modifier = []) ∧
      (∀ c ∈ s.threshold, c.isDigit) ∧ (s.reroll = .never → s.threshold = []))
    ⟨fun ⟨a, b, c, d, e, f, g⟩ => ⟨a, b, c, d, e, f, g⟩,
      fun ⟨a, b, c, d, e, f, g⟩ => ⟨a, b, c, d, e, f, g⟩⟩

/-- A run of digits, or a dice term whose parts are well spelled. -/
def TermSpelling.WellSpelled : TermSpelling → Prop
  | integer digits => digits ≠ [] ∧ ∀ c ∈ digits, c.isDigit
  | dice spelling => spelling.WellSpelled

instance : (s : TermSpelling) → Decidable s.WellSpelled
  | .integer digits => inferInstanceAs (Decidable (digits ≠ [] ∧ ∀ c ∈ digits, c.isDigit))
  | .dice spelling => inferInstanceAs (Decidable spelling.WellSpelled)

/-- An operator with the gaps around it, and the term behind it. -/
structure Link where
  before : Text
  operator : Operator
  after : Text
  term : TermSpelling

namespace Link

/-- A link as text. -/
def text (l : Link) : Text := l.before ++ l.operator.symbol :: (l.after ++ l.term.text)

/-- Gaps around the operator, and a well spelled term. -/
structure WellSpelled (l : Link) : Prop where
  before : ∀ c ∈ l.before, c.isGap
  after : ∀ c ∈ l.after, c.isGap
  term : l.term.WellSpelled

instance (l : Link) : Decidable l.WellSpelled :=
  decidable_of_iff ((∀ c ∈ l.before, c.isGap) ∧ (∀ c ∈ l.after, c.isGap) ∧ l.term.WellSpelled)
    ⟨fun ⟨a, b, c⟩ => ⟨a, b, c⟩, fun ⟨a, b, c⟩ => ⟨a, b, c⟩⟩

end Link

/-- A derivation of a line: its first term, and the links behind it. -/
structure LineSpelling where
  first : TermSpelling
  links : List Link

namespace LineSpelling

/-- The line that is derived. -/
def text (d : LineSpelling) : Text := d.first.text ++ d.links.flatMap Link.text

/-- The terms of a line, in order. -/
def terms (d : LineSpelling) : List TermSpelling := d.first :: d.links.map Link.term

/-- A derivation in the grammar. -/
structure WellSpelled (d : LineSpelling) : Prop where
  first : d.first.WellSpelled
  links : ∀ l ∈ d.links, l.WellSpelled

instance (d : LineSpelling) : Decidable d.WellSpelled :=
  decidable_of_iff (d.first.WellSpelled ∧ ∀ l ∈ d.links, l.WellSpelled)
    ⟨fun ⟨a, b⟩ => ⟨a, b⟩, fun ⟨a, b⟩ => ⟨a, b⟩⟩

end LineSpelling

/-! ## Expressions -/

/-- The value of a run of digits, which is one if it is left out. -/
def Numeral.valueOrOne (ds : Text) : Nat := if ds = [] then 1 else value ds

/-- The dice term that a spelling stands for. -/
def DiceSpelling.tree (s : DiceSpelling) : DiceTerm :=
  { count := Numeral.valueOrOne s.count, faces := Numeral.value s.faces, keepDrop := s.keepDrop,
    modifierCount := Numeral.valueOrOne s.modifier, explode := s.explode, reroll := s.reroll,
    rerollThreshold := Numeral.valueOrOne s.threshold, source := s.text }

/-- The operand that a spelling stands for. -/
def TermSpelling.tree : TermSpelling → Operand
  | integer digits => .literal (Numeral.value digits)
  | dice spelling => .dice spelling.tree

/-- The operator and the operand of a link. -/
def Link.tree (l : Link) : Operator × Operand := (l.operator, l.term.tree)

/-- The expression that a derivation stands for, operators and operands in the order of the text. -/
def LineSpelling.tree (d : LineSpelling) : Expression :=
  { first := d.first.tree, tail := d.links.map Link.tree }

/-! ## Rules -/

/-- The rules on the numbers of a dice term. -/
structure DiceTerm.Valid (t : DiceTerm) : Prop where
  one_le_count : 1 ≤ t.count
  one_le_faces : 1 ≤ t.faces
  explode : ¬ (t.explode ∧ t.faces = 1)
  modifier : t.keepDrop ≠ .all → 1 ≤ t.modifierCount ∧ t.modifierCount ≤ t.count
  threshold : t.reroll ≠ .never → 1 ≤ t.rerollThreshold ∧ t.rerollThreshold < t.faces

instance (t : DiceTerm) : Decidable t.Valid :=
  decidable_of_iff (1 ≤ t.count ∧ 1 ≤ t.faces ∧ ¬ (t.explode ∧ t.faces = 1) ∧
      (t.keepDrop ≠ .all → 1 ≤ t.modifierCount ∧ t.modifierCount ≤ t.count) ∧
      (t.reroll ≠ .never → 1 ≤ t.rerollThreshold ∧ t.rerollThreshold < t.faces))
    ⟨fun ⟨a, b, c, d, e⟩ => ⟨a, b, c, d, e⟩, fun ⟨a, b, c, d, e⟩ => ⟨a, b, c, d, e⟩⟩

namespace Operand

/-- The rules on the numbers of an operand. -/
def Valid : Operand → Prop
  | literal _ => True
  | dice term => term.Valid

instance : (x : Operand) → Decidable x.Valid
  | literal _ => inferInstanceAs (Decidable True)
  | dice term => inferInstanceAs (Decidable term.Valid)

/-- The number zero, or dice of which as many are dropped as are rolled. -/
def CanTotalZero : Operand → Prop
  | literal n => n = 0
  | dice term =>
    (term.keepDrop = .dropHigh ∨ term.keepDrop = .dropLow) ∧ term.modifierCount = term.count

instance : (x : Operand) → Decidable x.CanTotalZero
  | literal n => inferInstanceAs (Decidable (n = 0))
  | dice term => inferInstanceAs (Decidable
      ((term.keepDrop = .dropHigh ∨ term.keepDrop = .dropLow) ∧ term.modifierCount = term.count))

end Operand

/-- The rules on an expression: those on its operands, and no divisor that can total zero. -/
structure Expression.Valid (e : Expression) : Prop where
  operands : ∀ x ∈ e.operands, x.Valid
  divisors : ∀ link ∈ e.tail, link.1 = .divide → ¬ link.2.CanTotalZero

instance (e : Expression) : Decidable e.Valid :=
  decidable_of_iff ((∀ x ∈ e.operands, x.Valid) ∧
      ∀ link ∈ e.tail, link.1 = .divide → ¬ link.2.CanTotalZero)
    ⟨fun ⟨a, b⟩ => ⟨a, b⟩, fun ⟨a, b⟩ => ⟨a, b⟩⟩

theorem Expression.Valid.of_mem_diceTerms {e : Expression} (h : e.Valid) {term : DiceTerm}
    (ht : term ∈ e.diceTerms) : term.Valid := by
  obtain ⟨x, hx, hd⟩ := List.mem_filterMap.1 ht
  cases x with
  | literal n => cases hd
  | dice term' =>
    obtain rfl := Option.some.inj hd
    exact h.operands _ hx

end Tabletop
