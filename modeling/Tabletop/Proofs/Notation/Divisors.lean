import Mathlib
import Tabletop.Proofs.Dice.Zero
import Tabletop.Proofs.Notation.Concatenation
import Tabletop.Proofs.Notation.Refusals

/-!
# Dividing by dice

Which dice terms are refused as a division by zero when they stand behind a
division. This is decided by the spelling of a term: it is refused if it drops
as many dice as it rolls (`dividesByZero_of_gap`), provided that it is looked at
at all. A line may have any blanks in front, but an operand only gaps
(`gap_of_dividesByZero`).

So no term is let through that can be rolled to zero, and the only ones refused
in vain are those whose dice always bring more than is dropped
(`dividesByZero_iff`).
-/

namespace Tabletop

instance (cause : NotationCause) : Decidable cause.IsZeroDivision :=
  inferInstanceAs (Decidable (_ ∨ _))

/-- The line is refused as a division by zero. -/
def DividesByZero (line : Text) : Prop :=
  ∃ fault, Expression.parse line = .error (.refused fault) ∧ fault.cause.IsZeroDivision

theorem dividesByZero_iff_readLine {line : Text} : DividesByZero line ↔ ∃ cause fragment,
    readLine line.strip.lowercase = .error (.fault cause fragment) ∧ cause.IsZeroDivision := by
  constructor
  · rintro ⟨fault, h, hz⟩
    rcases (parse_eq_refused_iff.1 h).2 with ⟨-, hc, -⟩ | ⟨-, hr⟩
    · rw [hc] at hz
      exact absurd hz (by decide)
    · exact ⟨_, _, hr, hz⟩
  · rintro ⟨cause, fragment, hr, hz⟩
    refine ⟨⟨cause, fragment, line⟩, parse_eq_refused_iff.2 ⟨rfl, .inr ⟨fun hb => ?_, hr⟩⟩, hz⟩
    rw [Text.strip_eq_nil_of_isBlank hb] at hr
    cases hr
    exact absurd hz (by decide)

/-- The blanks around a line do not matter. -/
theorem dividesByZero_strip {line : Text} : DividesByZero line.strip ↔ DividesByZero line := by
  rw [dividesByZero_iff_readLine, dividesByZero_iff_readLine, Text.strip_strip]

/-! ## Blanks in front of a divisor -/

/-- One divided by what a text says. -/
def reciprocal (t : Text) : Text := Text.ofString "1/" ++ t

/-- The blanks in front of a text. -/
def Text.leadingBlanks (t : Text) : Text := t.takeWhile CodePoint.isBlank

theorem Text.isBlank_of_mem_leadingBlanks {t : Text} : ∀ c ∈ t.leadingBlanks, c.isBlank :=
  List.all_eq_true.1 List.all_takeWhile

theorem strip_reciprocal {t : Text} (h : ¬ t.isBlank) :
    (reciprocal t).strip = reciprocal (t.leadingBlanks ++ t.strip) := by
  have hstart : (reciprocal t).stripStart = reciprocal t := by
    have : (reciprocal t).Heads fun c => c.isBlank = false := .cons (by decide)
    exact this.dropWhile_eq
  have hsplit : reciprocal t = reciprocal t.leadingBlanks ++ t.stripStart := by
    rw [reciprocal, reciprocal, List.append_assoc, Text.leadingBlanks, Text.stripStart,
      List.takeWhile_append_dropWhile]
  have hblank : ¬ t.stripStart.isBlank := fun hb => h (Text.isBlank_of_isBlank_stripStart hb)
  rw [Text.strip, hstart, hsplit, Text.stripEnd_append _ hblank, reciprocal, reciprocal,
    List.append_assoc, Text.strip]

theorem TermSpelling.scan?_eq_none {t : Text}
    (h : t.Heads fun c => c.isDigit = false ∧ c ≠ .char 'd') : scan? t = none := by
  cases hs : scan? t with
  | none => rfl
  | some p =>
    obtain ⟨s, rest⟩ := p
    obtain ⟨hne, hheads⟩ := heads_text (wellSpelled_of_scan? hs) rest
    rw [text_append_of_scan? hs] at hheads
    cases t with
    | nil => exact absurd (List.append_eq_nil_iff.1 (text_append_of_scan? hs)).1 hne
    | cons c t =>
      obtain ⟨hd, hc⟩ := h c rfl
      rcases hheads c rfl with h | h
      · rw [hd] at h
        cases h
      · exact absurd h hc

theorem scan?_eq_none_of_isBlank {c : CodePoint} (hc : c.isBlank) (rest : Text) :
    TermSpelling.scan? (c :: rest) = none := by
  refine TermSpelling.scan?_eq_none (.cons ⟨Bool.eq_false_iff.2 fun hd => ?_, ?_⟩)
  · rw [Text.isBlank_of_isDigit hd] at hc
    cases hc
  · rintro rfl
    exact absurd hc (by decide)

theorem readLine_reciprocal (t : Text) : readLine (reciprocal t) = (do
    let tail ← readTail (Operator.divide.symbol :: t)
    .ok { first := .literal 1, tail }) := by
  have hs : TermSpelling.scan? (reciprocal t)
      = some (.integer (Text.ofString "1"), Operator.divide.symbol :: t) :=
    TermSpelling.scan?_text_append (s := .integer (Text.ofString "1")) (by decide)
      (.cons (.inr ⟨.divide, rfl⟩))
  rw [readLine, hs]
  rfl

/-- Behind a division, a blank that is no gap is no operand. -/
theorem readLine_reciprocal_of_isBlank {t rest : Text} {c : CodePoint}
    (ht : t.dropWhile (·.isGap) = c :: rest) (hc : c.isBlank) : ∃ fragment,
    readLine (reciprocal t) = .error (.fault (.noOperand .divide) fragment) := by
  have hsymbol : (Operator.divide.symbol :: t).dropWhile (·.isGap) = Operator.divide.symbol :: t :=
    rfl
  rw [readLine_reciprocal, readTail_operator_eq hsymbol, ht, scan?_eq_none_of_isBlank hc]
  exact ⟨_, rfl⟩

section Divisor

variable {t : Text} {term : DiceTerm}
  (h : Expression.parse t = .ok { first := .dice term, tail := [] })
include h

theorem not_isBlank_of_parse : ¬ t.isBlank := by
  intro hb
  rw [Expression.parse, if_pos hb] at h
  cases h

theorem strip_lowercase_reciprocal :
    (reciprocal t).strip.lowercase = reciprocal (t.leadingBlanks ++ t.strip.lowercase) := by
  obtain ⟨-, -, -, -, -, -, -, hsigma⟩ :=
    derivation_of_parse (parse_strip_eq_ok_iff.2 h) (Text.strip_strip t)
  have hsigma' : Text.capitalSigma ∉ t.leadingBlanks := fun hm =>
    absurd (Text.isBlank_of_mem_leadingBlanks _ hm) (by decide)
  have hone : Text.capitalSigma ∉ Text.ofString "1/" := by decide
  rw [strip_reciprocal (not_isBlank_of_parse h), reciprocal, reciprocal,
    Text.lowercase_append hone (by simp [hsigma, hsigma']), Text.lowercase_append hsigma' hsigma,
    Text.lowercase_of_isBlank Text.isBlank_of_mem_leadingBlanks,
    Text.lowercase_of_beforeLetters (by decide)]

/-- A division is only looked at as one by zero if no blank but gaps stands behind it. -/
theorem gap_of_dividesByZero (hz : DividesByZero (reciprocal t)) :
    ∀ c ∈ t.leadingBlanks, c.isGap := by
  rw [← List.dropWhile_eq_nil_iff]
  cases hd : t.leadingBlanks.dropWhile (·.isGap) with
  | nil => rfl
  | cons c rest =>
    have hc : c.isBlank := Text.isBlank_of_mem_leadingBlanks c
      ((List.dropWhile_sublist _).subset (hd ▸ List.mem_cons_self))
    have ht : (t.leadingBlanks ++ t.strip.lowercase).dropWhile (·.isGap)
        = c :: (rest ++ t.strip.lowercase) := by
      rw [List.dropWhile_append, hd]
      rfl
    obtain ⟨cause, fragment, hr, hcause⟩ := dividesByZero_iff_readLine.1 hz
    obtain ⟨fragment', hr'⟩ := readLine_reciprocal_of_isBlank ht hc
    rw [strip_lowercase_reciprocal h, hr'] at hr
    cases hr
    exact absurd hcause (by decide)

/-- Behind a division and gaps, a term is refused for what it drops. -/
theorem dividesByZero_of_gap (hgap : ∀ c ∈ t.leadingBlanks, c.isGap) :
    DividesByZero (reciprocal t) ↔ (Operand.dice term).CanTotalZero := by
  have hone : Expression.parse "1" = .ok { first := .literal 1, tail := [] } := by cbv
  have hnone : ∀ c ∈ ([] : Text), c.isGap := by simp
  have ht := parse_strip_eq_ok_iff.2 h
  have hline : (reciprocal t).strip
      = Text.ofString "1" ++ Operator.divide.withGaps [] t.leadingBlanks ++ t.strip :=
    strip_reciprocal (not_isBlank_of_parse h)
  rw [← dividesByZero_strip, hline]
  constructor
  · rintro ⟨fault, hf, -⟩
    refine Decidable.byContradiction fun hz => ?_
    rw [parse_concat hone (by decide) ht (Text.strip_strip t) hnone hgap .divide fun _ => hz] at hf
    cases hf
  · intro hz
    obtain ⟨cause, fragment, hp, hcause⟩ := parse_concat_of_canTotalZero hone (by decide) ht
      (Text.strip_strip t) hnone hgap hz
    exact ⟨_, hp, hcause⟩

/-- A dice term that is read on its own is refused as a division by zero behind a division exactly
if no blanks but gaps are in front of it and either some script of draws in range is rolled to a
total of zero, or the term drops as many dice as it rolls and explodes with every die. Of the terms
that drop as many dice as they roll, the last ones are those that no such script rolls to zero. -/
theorem dividesByZero_iff :
    (DividesByZero (Text.ofString "1/" ++ t) ↔ (∀ c ∈ t.takeWhile CodePoint.isBlank, c.isGap) ∧
      (term.CanRollZero ∨ term.AlwaysBursts ∧ (Operand.dice term).CanTotalZero)) ∧
    (term.CanRollZero ↔ (Operand.dice term).CanTotalZero ∧ ¬ term.AlwaysBursts) := by
  have hroll : term.CanRollZero ↔ (Operand.dice term).CanTotalZero ∧ ¬ term.AlwaysBursts :=
    canRollZero_iff ((valid_of_parse h).operands _ List.mem_cons_self)
  refine ⟨?_, hroll⟩
  rw [hroll]
  constructor
  · intro hz
    have hgap := gap_of_dividesByZero h hz
    have hzero := (dividesByZero_of_gap h hgap).1 hz
    refine ⟨hgap, ?_⟩
    by_cases hb : term.AlwaysBursts
    · exact .inr ⟨hb, hzero⟩
    · exact .inl ⟨hzero, hb⟩
  · rintro ⟨hgap, hzero⟩
    exact (dividesByZero_of_gap h hgap).2 (hzero.elim And.left And.right)

end Divisor

/-- Two dice that are rerolled once and dropped. -/
theorem dividesByZero_of_dropped_dice : ∃ term,
    Expression.parse " 2D6dl2r" = .ok { first := .dice term, tail := [] } ∧
    DividesByZero (Text.ofString "1/" ++ Text.ofString " 2D6dl2r") ∧ term.CanRollZero := by
  let term : DiceTerm :=
    { count := 2, faces := 6, keepDrop := .dropLow, modifierCount := 2, reroll := .once,
      source := "2d6dl2r" }
  have h : Expression.parse " 2D6dl2r" = .ok { first := .dice term, tail := [] } := by cbv
  obtain ⟨hdivide, hroll⟩ := dividesByZero_iff h
  have hzero : term.CanRollZero := hroll.2 (by decide)
  exact ⟨term, h, hdivide.2 ⟨by decide, .inl hzero⟩, hzero⟩

/-- A die that always brings another one, which is not dropped, is refused behind a division; and a
dropped die behind a blank that is no gap is not looked at. -/
theorem dividesByZero_ne_canRollZero :
    (∃ term, Expression.parse "d6dl!rr5" = .ok { first := .dice term, tail := [] } ∧
      DividesByZero (Text.ofString "1/" ++ Text.ofString "d6dl!rr5") ∧ ¬ term.CanRollZero) ∧
    ∃ term, Expression.parse "\u00A0d6dl" = .ok { first := .dice term, tail := [] } ∧
      ¬ DividesByZero (Text.ofString "1/" ++ Text.ofString "\u00A0d6dl") ∧ term.CanRollZero := by
  constructor
  · let term : DiceTerm :=
      { count := 1, faces := 6, keepDrop := .dropLow, modifierCount := 1, explode := true,
        reroll := .untilAbove, rerollThreshold := 5, source := "d6dl!rr5" }
    have h : Expression.parse "d6dl!rr5" = .ok { first := .dice term, tail := [] } := by cbv
    have hv : term.Valid := by decide
    exact ⟨term, h, (dividesByZero_of_gap h (by decide)).2 (by decide),
      fun hroll => ((canRollZero_iff hv).1 hroll).2 (by decide)⟩
  · let term : DiceTerm :=
      { count := 1, faces := 6, keepDrop := .dropLow, modifierCount := 1, source := "d6dl" }
    have h : Expression.parse "\u00A0d6dl" = .ok { first := .dice term, tail := [] } := by cbv
    have hv : term.Valid := by decide
    exact ⟨term, h, fun hz => absurd (gap_of_dividesByZero h hz) (by decide),
      (canRollZero_iff hv).2 (by decide)⟩

end Tabletop
