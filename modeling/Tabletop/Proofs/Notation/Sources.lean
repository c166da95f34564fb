import Mathlib
import Tabletop.Proofs.Notation.Concatenation

/-!
# Dice terms in their line

A dice term keeps the text that it was read from. Those texts lie in the line
one behind the other, and what is outside them is numbers, operators and gaps
(`Text.Lays`): a spelled term is a number or a dice term (`TermSpelling.lays`),
a link adds an operator and gaps in front of one (`Link.lays`), and a line puts
them together (`LineSpelling.lays`).

Cut out of its line, the text of a dice term is read as that term
(`DiceSpelling.parse_text`): it is stripped and lowered already, and a term is
read whole from in front of the end of the line.
-/

namespace Tabletop

/-! ## Parts of a text -/

/-- Parts of a text, one behind the other, with runs of one kind of code point before, between and
behind them. -/
inductive Text.Lays (outside : CodePoint → Prop) : List Text → Text → Prop
  | run {t : Text} (h : ∀ c ∈ t, outside c) : Lays outside [] t
  | part {before part t : Text} {parts : List Text} (h : ∀ c ∈ before, outside c)
      (ht : Lays outside parts t) : Lays outside (part :: parts) (before ++ (part ++ t))

namespace Text.Lays

variable {outside : CodePoint → Prop} {parts parts' : List Text} {t t' : Text}

theorem run_append {before : Text} (hb : ∀ c ∈ before, outside c) (h : Lays outside parts t) :
    Lays outside parts (before ++ t) := by
  cases h with
  | run h => exact .run (List.forall_mem_append.2 ⟨hb, h⟩)
  | part h ht =>
    rw [← List.append_assoc]
    exact .part (List.forall_mem_append.2 ⟨hb, h⟩) ht

theorem append (h : Lays outside parts t) (h' : Lays outside parts' t') :
    Lays outside (parts ++ parts') (t ++ t') := by
  induction h with
  | run h => exact h'.run_append h
  | part h _ ih =>
    rw [List.append_assoc, List.append_assoc, List.cons_append]
    exact .part h ih

theorem single (part : Text) : Lays outside [part] part := by
  have hnil : ∀ c ∈ ([] : Text), outside c := by simp
  have h : Lays outside [part] ([] ++ (part ++ [])) := .part hnil (.run hnil)
  rwa [List.nil_append, List.append_nil] at h

end Text.Lays

/-- A digit, an operator or a gap. -/
def CodePoint.OutsideDice (c : CodePoint) : Prop := c.isDigit ∨ c.EndsTerm

/-- The texts that the dice terms among some operands were read from. -/
def sourcesOf (xs : List Operand) : List Text := (xs.filterMap Operand.dice?).map DiceTerm.source

theorem sourcesOf_append (xs ys : List Operand) :
    sourcesOf (xs ++ ys) = sourcesOf xs ++ sourcesOf ys := by
  rw [sourcesOf, List.filterMap_append, List.map_append]
  rfl

/-! ## Terms in their line -/

theorem TermSpelling.lays {s : TermSpelling} (hs : s.WellSpelled) :
    Text.Lays CodePoint.OutsideDice (sourcesOf [s.tree]) s.text := by
  cases s with
  | integer digits => exact .run fun c hc => .inl (hs.2 c hc)
  | dice s => exact .single s.text

theorem Link.lays {l : Link} (hl : l.WellSpelled) :
    Text.Lays CodePoint.OutsideDice (sourcesOf [l.term.tree]) l.text := by
  have hafter :
      Text.Lays CodePoint.OutsideDice (sourcesOf [l.term.tree]) (l.after ++ l.term.text) :=
    (TermSpelling.lays hl.term).run_append fun c hc => .inr (.inl (hl.after c hc))
  have hbefore : ∀ c ∈ l.before ++ [l.operator.symbol], c.OutsideDice := by
    rw [List.forall_mem_append, List.forall_mem_singleton]
    exact ⟨fun c hc => .inr (.inl (hl.before c hc)), .inr (.inr ⟨l.operator, rfl⟩)⟩
  have h := hafter.run_append hbefore
  rwa [List.append_assoc, List.singleton_append] at h

/-- By induction on the links. -/
theorem lays_links {links : List Link} (hl : ∀ l ∈ links, l.WellSpelled) :
    Text.Lays CodePoint.OutsideDice (sourcesOf (links.map fun l => l.term.tree))
      (links.flatMap Link.text) := by
  induction links with
  | nil => exact .run (by simp)
  | cons l links ih =>
    obtain ⟨hw, hl⟩ := List.forall_mem_cons.1 hl
    rw [List.map_cons, ← List.singleton_append, sourcesOf_append, List.flatMap_cons]
    exact (Link.lays hw).append (ih hl)

namespace LineSpelling

variable {d : LineSpelling}

theorem operands_tree (d : LineSpelling) : d.tree.operands = d.terms.map TermSpelling.tree := by
  simp [Expression.operands, tree, terms, Link.tree]

theorem lays (hd : d.WellSpelled) :
    Text.Lays CodePoint.OutsideDice (d.tree.diceTerms.map DiceTerm.source) d.text := by
  have h : d.tree.operands = [d.first.tree] ++ d.links.map fun l => l.term.tree := by
    simp [operands_tree, terms]
  show Text.Lays _ (sourcesOf d.tree.operands) d.text
  rw [h, sourcesOf_append]
  exact (TermSpelling.lays hd.first).append (lays_links hd.links)

end LineSpelling

/-! ## Terms on their own -/

/-- A letter or mark of a dice term stays as it is when a line is stripped and lowered. -/
theorem CodePoint.plain_of_mem_diceMarks {c : CodePoint} (h : c ∈ diceMarks) :
    c.isBlank = false ∧ c ≠ Text.dottedCapitalI ∧ c ≠ Text.capitalSigma ∧ c.lowerLetter = c := by
  have hall : ∀ c ∈ diceMarks, c.isBlank = false ∧ c ≠ Text.dottedCapitalI ∧
      c ≠ Text.capitalSigma ∧ c.lowerLetter = c := by
    decide
  exact hall c h

namespace DiceSpelling

variable {s : DiceSpelling} (hs : s.WellSpelled)
include hs

/-- A dice term is stripped and lowered already. -/
theorem strip_lowercase_text : s.text.strip.lowercase = s.text := by
  have hblank : ∀ c ∈ s.text, c.isBlank = false := fun c hc => by
    rcases isDigit_or_mem_diceMarks hs hc with h | h
    · exact Text.isBlank_of_isDigit h
    · exact (CodePoint.plain_of_mem_diceMarks h).1
  have hlower : ∀ c ∈ s.text, ∀ before after, Text.lowerOne before c after = [c] := by
    intro c hc before after
    rcases isDigit_or_mem_diceMarks hs hc with h | h
    · exact Text.lowerOne_of_beforeLetters before after (Text.beforeLetters_of_isDigit h)
    · obtain ⟨-, hi, hsigma, hl⟩ := CodePoint.plain_of_mem_diceMarks h
      rw [Text.lowerOne, if_neg hi, if_neg hsigma, hl]
  rw [Text.strip_eq_self hblank, Text.lowercase_of_lowerOne hlower]

/-- The text of a dice term that keeps the rules is read as that term, and nothing is left. -/
theorem parse_text (hshort : s.Short) (hv : s.tree.Valid) :
    Expression.parse s.text = .ok { first := .dice s.tree, tail := [] } := by
  refine parse_eq_ok_iff_short.2 ⟨⟨.dice s, []⟩, ⟨hs, by simp⟩, ?_, ?_, rfl, ?_⟩
  · rw [LineSpelling.terms, List.map_nil, List.forall_mem_singleton]
    exact hshort
  · rw [strip_lowercase_text hs, LineSpelling.text, List.flatMap_nil, List.append_nil]
    rfl
  · exact (LineSpelling.valid_tree_iff ⟨.dice s, []⟩).2 ⟨hv, by simp⟩

end DiceSpelling

/-- The dice terms of a line were read from parts of it that lie one behind the other, with nothing
outside them but digits, operators and gaps; and each part is read on its own as the term that was
read from it. -/
theorem sources_of_parse {line : Text} {e : Expression} (h : Expression.parse line = .ok e) :
    Text.Lays CodePoint.OutsideDice (e.diceTerms.map DiceTerm.source) line.strip.lowercase ∧
    ∀ term ∈ e.diceTerms,
      Expression.parse term.source = .ok { first := .dice term, tail := [] } := by
  obtain ⟨d, hw, hshort, ht, rfl, hv⟩ := parse_eq_ok_iff_short.1 h
  refine ⟨ht ▸ LineSpelling.lays hw, fun term hterm => ?_⟩
  have hvalid : term.Valid := hv.of_mem_diceTerms hterm
  rw [Expression.diceTerms, LineSpelling.operands_tree] at hterm
  obtain ⟨x, hx, hdice⟩ := List.mem_filterMap.1 hterm
  obtain ⟨s, hs, rfl⟩ := List.mem_map.1 hx
  cases s with
  | integer digits => cases hdice
  | dice s =>
    obtain rfl := Option.some.inj hdice
    exact DiceSpelling.parse_text (LineSpelling.wellSpelled_of_mem_terms hw hs) (hshort _ hs) hvalid

/-- Three dice terms among numbers, with capital letters and gaps of every kind but one. -/
theorem sources_of_spaced_line : ∃ e,
    Expression.parse " 10-4D6kH3 +2\t/ D8!rR\n*2d6 " = .ok e ∧
    e.diceTerms.map DiceTerm.source = (["4d6kh3", "d8!rr", "2d6"] : List Text) ∧
    Text.Lays CodePoint.OutsideDice ["4d6kh3", "d8!rr", "2d6"] "10-4d6kh3 +2\t/ d8!rr\n*2d6" ∧
    Expression.parse "d8!rr" = .ok { first := .dice {
      count := 1, faces := 8, explode := true, reroll := .untilAbove, source := "d8!rr" } } := by
  let term : DiceTerm := { faces := 8, explode := true, reroll := .untilAbove, source := "d8!rr" }
  let e : Expression := {
    first := .literal 10
    tail := [
      (.subtract, .dice {
        count := 4, faces := 6, keepDrop := .keepHigh, modifierCount := 3, source := "4d6kh3" }),
      (.add, .literal 2), (.divide, .dice term),
      (.multiply, .dice { count := 2, faces := 6, source := "2d6" })] }
  have h : Expression.parse " 10-4D6kH3 +2\t/ D8!rR\n*2d6 " = .ok e := by
    cbv
  have hline : Text.lowercase (Text.strip " 10-4D6kH3 +2\t/ D8!rR\n*2d6 ")
      = "10-4d6kh3 +2\t/ d8!rr\n*2d6" := by
    decide
  obtain ⟨hlays, hterms⟩ := sources_of_parse h
  rw [hline] at hlays
  exact ⟨e, h, rfl, hlays, hterms term (by decide)⟩

end Tabletop
