import Tabletop.Proofs.Notation.Reading

/-!
# Two lines read as one

A derivation of each of two lines, with an operator and the gaps around it
between them, is a derivation of the whole line (`LineSpelling.concat`): no term
reaches across the operator, since an operator or a gap ends it. So the whole
line is read as both expressions (`parse_concat`), unless the operator divides
by an operand that can total zero (`parse_concat_of_canTotalZero`).

Lower-casing looks at the neighbours of a sigma, so it goes part by part only
because the two lines have none: what they derive is plain
(`LineSpelling.val_lt_of_mem_text`).
-/

namespace Tabletop

/-! ## Plain texts -/

theorem CodePoint.BeforeLetters.val_lt {c : CodePoint} (h : c.BeforeLetters) : c.val < 128 :=
  Nat.lt_trans h (by decide)

theorem Operator.beforeLetters_symbol (o : Operator) : o.symbol.BeforeLetters := by
  cases o <;> decide

section Plain

variable {c : CodePoint}

theorem val_lt_of_isDigit (h : c.isDigit) : c.val < 128 :=
  (Text.beforeLetters_of_isDigit h).val_lt

theorem DiceSpelling.val_lt_of_mem_text {s : DiceSpelling} (hs : s.WellSpelled) (h : c ∈ s.text) :
    c.val < 128 := by
  have hmarks : ∀ c ∈ diceMarks, c.val < 128 := by decide
  rcases isDigit_or_mem_diceMarks hs h with h | h
  · exact val_lt_of_isDigit h
  · exact hmarks c h

theorem TermSpelling.val_lt_of_mem_text {s : TermSpelling} (hs : s.WellSpelled) (h : c ∈ s.text) :
    c.val < 128 := by
  cases s with
  | integer digits => exact val_lt_of_isDigit (hs.2 c h)
  | dice s => exact DiceSpelling.val_lt_of_mem_text hs h

theorem Link.val_lt_of_mem_text {l : Link} (hl : l.WellSpelled) (h : c ∈ l.text) : c.val < 128 := by
  rw [text, List.mem_append, List.mem_cons, List.mem_append] at h
  rcases h with h | rfl | h | h
  · exact (CodePoint.isBlank_of_isGap (hl.before c h)).2.val_lt
  · exact l.operator.beforeLetters_symbol.val_lt
  · exact (CodePoint.isBlank_of_isGap (hl.after c h)).2.val_lt
  · exact TermSpelling.val_lt_of_mem_text hl.term h

/-- A line that the grammar derives is plain. -/
theorem LineSpelling.val_lt_of_mem_text {d : LineSpelling} (hd : d.WellSpelled) (h : c ∈ d.text) :
    c.val < 128 := by
  rw [text, List.mem_append, List.mem_flatMap] at h
  rcases h with h | ⟨l, hl, h⟩
  · exact TermSpelling.val_lt_of_mem_text hd.first h
  · exact Link.val_lt_of_mem_text (hd.links l hl) h

end Plain

/-! ## Derivations and expressions put together -/

/-- An operator with the gaps before and behind it. -/
def Operator.withGaps (o : Operator) (before after : Text) : Text := before ++ o.symbol :: after

section Gaps

variable {before after : Text} (hbefore : ∀ c ∈ before, c.isGap) (hafter : ∀ c ∈ after, c.isGap)
  (o : Operator)
include hbefore hafter

theorem Operator.beforeLetters_withGaps : ∀ c ∈ o.withGaps before after, c.BeforeLetters := by
  rw [withGaps, List.forall_mem_append, List.forall_mem_cons]
  exact ⟨fun c hc => (CodePoint.isBlank_of_isGap (hbefore c hc)).2, o.beforeLetters_symbol,
    fun c hc => (CodePoint.isBlank_of_isGap (hafter c hc)).2⟩

theorem Operator.capitalSigma_not_mem_withGaps : Text.capitalSigma ∉ o.withGaps before after :=
  fun h => absurd (o.beforeLetters_withGaps hbefore hafter _ h) (by decide)

/-- Without a sigma, a text is lowered part by part. -/
theorem lowercase_append_withGaps {s t : Text} (hs : Text.capitalSigma ∉ s)
    (ht : Text.capitalSigma ∉ t) : (s ++ o.withGaps before after ++ t).lowercase
      = s.lowercase ++ o.withGaps before after ++ t.lowercase := by
  have hgaps := o.capitalSigma_not_mem_withGaps hbefore hafter
  have hfront : Text.capitalSigma ∉ s ++ o.withGaps before after := fun h =>
    (List.mem_append.1 h).elim hs hgaps
  rw [Text.lowercase_append hfront ht, Text.lowercase_append hs hgaps,
    Text.lowercase_of_beforeLetters (o.beforeLetters_withGaps hbefore hafter)]

end Gaps

/-- Two derivations with an operator between them. -/
def LineSpelling.concat (d : LineSpelling) (before : Text) (o : Operator) (after : Text)
    (d' : LineSpelling) : LineSpelling :=
  { first := d.first, links := d.links ++ ⟨before, o, after, d'.first⟩ :: d'.links }

/-- Two expressions with an operator between them, which all combine from left to right. -/
def Expression.concat (e : Expression) (o : Operator) (e' : Expression) : Expression :=
  { first := e.first, tail := e.tail ++ (o, e'.first) :: e'.tail }

theorem Expression.operands_concat (e e' : Expression) (o : Operator) :
    (e.concat o e').operands = e.operands ++ e'.operands := by
  simp only [operands, concat, List.map_append, List.map_cons, List.cons_append]

theorem Expression.Valid.concat {e e' : Expression} {o : Operator} (h : e.Valid) (h' : e'.Valid)
    (hz : o = .divide → ¬ e'.first.CanTotalZero) : (e.concat o e').Valid where
  operands := by
    rw [operands_concat, List.forall_mem_append]
    exact ⟨h.operands, h'.operands⟩
  divisors := by
    simp only [Expression.concat, List.forall_mem_append, List.forall_mem_cons]
    exact ⟨h.divisors, hz, h'.divisors⟩

namespace LineSpelling

variable (d d' : LineSpelling) (before after : Text) (o : Operator)

theorem text_concat :
    (d.concat before o after d').text = d.text ++ o.withGaps before after ++ d'.text := by
  simp only [text, concat, Operator.withGaps, List.flatMap_append, List.flatMap_cons, Link.text,
    List.append_assoc, List.cons_append]

theorem tree_concat : (d.concat before o after d').tree = d.tree.concat o d'.tree := by
  simp only [tree, concat, Expression.concat, List.map_append, List.map_cons, Link.tree]

theorem terms_concat : (d.concat before o after d').terms = d.terms ++ d'.terms := by
  simp only [terms, concat, List.map_append, List.map_cons, List.cons_append]

variable {d d' before after o}

theorem WellSpelled.concat (hd : d.WellSpelled) (hd' : d'.WellSpelled) (hb : ∀ c ∈ before, c.isGap)
    (ha : ∀ c ∈ after, c.isGap) : (d.concat before o after d').WellSpelled where
  first := hd.first
  links := by
    simp only [LineSpelling.concat, List.forall_mem_append, List.forall_mem_cons]
    exact ⟨hd.links, ⟨hb, ha, hd'.first⟩, hd'.links⟩

end LineSpelling

/-! ## Divisors -/

/-- The causes that are divisions by zero. -/
def NotationCause.IsZeroDivision (cause : NotationCause) : Prop :=
  cause = .zeroDivisor ∨ cause = .emptyDivisor

theorem Operand.checkDivisor_eq_error {x : Operand} (h : x.CanTotalZero) :
    ∃ cause fragment, x.checkDivisor = .error (.fault cause fragment) ∧ cause.IsZeroDivision := by
  cases x with
  | literal n => exact ⟨_, _, if_pos h, .inl rfl⟩
  | dice t =>
    refine ⟨_, _, if_pos ⟨?_, h.2⟩, .inr rfl⟩
    rcases h.1 with h | h <;> rw [h] <;> rfl

/-! ## Lines -/

/-- A stripped line that is read has a derivation, which lower-casing does not look beyond. -/
theorem derivation_of_parse {line : Text} {e : Expression} (h : Expression.parse line = .ok e)
    (hs : line.strip = line) : ∃ d : LineSpelling, d.WellSpelled ∧ (∀ s ∈ d.terms, s.Short) ∧
      d.text = line.lowercase ∧ d.tree = e ∧ e.Valid ∧ line ≠ [] ∧ Text.capitalSigma ∉ line := by
  obtain ⟨d, hw, hshort, ht, he, hv⟩ := parse_eq_ok_iff_short.1 h
  rw [hs] at ht
  have hne : line ≠ [] := by
    rintro rfl
    cases h
  exact ⟨d, hw, hshort, ht, he, hv, hne, Text.capitalSigma_not_mem fun c hc =>
    LineSpelling.val_lt_of_mem_text hw (ht ▸ hc)⟩

section Lines

variable {a b : Text} {e e' : Expression} (ha : Expression.parse a = .ok e) (hsa : a.strip = a)
  (hb : Expression.parse b = .ok e') (hsb : b.strip = b) {before after : Text}
  (hbefore : ∀ c ∈ before, c.isGap) (hafter : ∀ c ∈ after, c.isGap) (o : Operator)
include ha hsa hb hsb hbefore hafter

theorem strip_lowercase_concat : (a ++ o.withGaps before after ++ b).strip.lowercase
    = a.lowercase ++ o.withGaps before after ++ b.lowercase := by
  obtain ⟨-, -, -, -, -, -, hna, hca⟩ := derivation_of_parse ha hsa
  obtain ⟨-, -, -, -, -, -, hnb, hcb⟩ := derivation_of_parse hb hsb
  rw [Text.strip_append hsa hna hsb hnb, lowercase_append_withGaps hbefore hafter o hca hcb]

/-- A line of two lines that are read is read as both expressions, if its operator may stand before
the second one. -/
theorem parse_concat (hz : o = .divide → ¬ e'.first.CanTotalZero) :
    Expression.parse (a ++ o.withGaps before after ++ b) = .ok (e.concat o e') := by
  obtain ⟨d, hw, hs, ht, rfl, hv, -, -⟩ := derivation_of_parse ha hsa
  obtain ⟨d', hw', hs', ht', rfl, hv', -, -⟩ := derivation_of_parse hb hsb
  refine parse_eq_ok_iff_short.2 ⟨d.concat before o after d', hw.concat hw' hbefore hafter, ?_, ?_,
    d.tree_concat d' before after o, hv.concat hv' hz⟩
  · rw [LineSpelling.terms_concat, List.forall_mem_append]
    exact ⟨hs, hs'⟩
  · rw [LineSpelling.text_concat, ht, ht', strip_lowercase_concat ha hsa hb hsb hbefore hafter]

/-- It is refused as a division by zero, if the second expression begins with an operand that can
total zero and the operator divides by it. -/
theorem parse_concat_of_canTotalZero (hz : e'.first.CanTotalZero) : ∃ cause fragment,
    Expression.parse (a ++ Operator.divide.withGaps before after ++ b) = .error (.refused
      { cause, fragment, expression := a ++ Operator.divide.withGaps before after ++ b }) ∧
    cause.IsZeroDivision := by
  have hline := strip_lowercase_concat ha hsa hb hsb hbefore hafter .divide
  obtain ⟨d, hw, hs, ht, rfl, hv, hna, -⟩ := derivation_of_parse ha hsa
  obtain ⟨d', hw', hs', ht', rfl, hv', hnb, -⟩ := derivation_of_parse hb hsb
  obtain ⟨cause, fragment, hc, hcause⟩ := Operand.checkDivisor_eq_error hz
  refine ⟨cause, fragment, ?_, hcause⟩
  -- The second line is one link behind the first line, and its own links behind that.
  let l : Link := ⟨before, .divide, after, d'.first⟩
  have hl : l.WellSpelled := ⟨hbefore, hafter, hw'.first⟩
  have htext : Operator.divide.withGaps before after ++ d'.text
      = l.text ++ d'.links.flatMap Link.text := by
    simp only [LineSpelling.text, Operator.withGaps, Link.text, List.append_assoc,
      List.cons_append, l]
  have hends : Text.EndsTerm (l.text ++ d'.links.flatMap Link.text) := Link.endsTerm hl _
  have hop : l.term.operand = .ok d'.first.tree := TermSpelling.operand_eq_ok_iff.2
    ⟨hs' _ List.mem_cons_self, hv'.operands _ List.mem_cons_self, rfl⟩
  have htail : readTail (l.text ++ d'.links.flatMap Link.text)
      = .error (.fault cause fragment) := by
    rw [readTail_link hl (endsTerm_flatMap_text hw'.links), hop]
    show (do Operand.checkDivisor d'.first.tree; _) = _
    rw [show Operand.checkDivisor d'.first.tree = _ from hc]
    rfl
  have hread : readLine (a.lowercase ++ Operator.divide.withGaps before after ++ b.lowercase)
      = .error (.fault cause fragment) := by
    rw [← ht, ← ht', List.append_assoc, htext, readLine_append hw hs hv hends, htail]
    rfl
  have hblank : (a ++ Operator.divide.withGaps before after ++ b).isBlank = false := by
    refine Bool.eq_false_iff.2 fun hb => ?_
    have := Text.strip_eq_nil_of_isBlank hb
    rw [Text.strip_append hsa hna hsb hnb] at this
    simp [hna] at this
  rw [Expression.parse, hblank, hline, hread]
  rfl

end Lines

end Tabletop
