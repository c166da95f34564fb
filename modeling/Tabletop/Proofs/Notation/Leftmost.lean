import Tabletop.Proofs.Notation.Concatenation
import Tabletop.Proofs.Notation.Fragments

/-!
# The leftmost invalid term

A term whose numbers break the rules of dice is reported where it stands,
whatever follows it and whatever line that is accepted stands in front of it
(`refusedAlike_of_parse`).

* `exists_spelling_of_readLine`: a line that is refused for such a term and shown
  whole is the spelling of that term;
* `exists_lowercase_append`: stripped and lowered, the line has that spelling in
  it, and what follows still ends a term;
* then the reading comes to the term (`Reaches`), and nothing behind it is
  looked at (`readLine_of_reaches`).
-/

namespace Tabletop

/-! ## Rules of dice -/

/-- The causes that are rules on the numbers of a dice term. -/
def NotationCause.isDiceRule : NotationCause → Bool
  | diceCount | faceCount | explodeFaces | modifierCount | modifierExceedsCount _ _
  | rerollThreshold _ => true
  | _ => false

/-- A broken rule of dice is worded by its cause alone. -/
theorem NotationFault.message_congr {f g : NotationFault} (h : f.cause = g.cause)
    (hg : g.cause.isDiceRule) : f.message = g.message := by
  unfold message
  rw [h]
  cases hc : g.cause with
  | noTerm | noOperator | emptyDivisor => simp [hc, NotationCause.isDiceRule] at hg
  | _ => rfl

/-- An operator refuses its operand for a division by zero only. -/
theorem Operator.isZeroDivision_of_checkOperand {o : Operator} {x : Operand}
    {cause : NotationCause} {fragment : Text}
    (h : o.checkOperand x = .error (.fault cause fragment)) : cause.IsZeroDivision := by
  unfold checkOperand at h
  split at h
  · cases x with
    | literal n =>
      rw [Operand.checkDivisor] at h
      split at h <;> cases h
      exact .inl rfl
    | dice term =>
      rw [Operand.checkDivisor] at h
      split at h <;> cases h
      exact .inr rfl
  · cases h

/-- Behind an operand, a line is not shown whole for a rule of dice: the term is shorter than the
line, which has an operator in it. -/
theorem length_lt_of_stops {t fragment : Text} {cause : NotationCause}
    (h : Stops t (.fault cause fragment)) (hc : cause.isDiceRule) : fragment.length < t.length := by
  generalize hr : Refusal.fault cause fragment = r at h
  cases h with
  | noOperator ht ho =>
    cases hr
    cases hc
  | noOperand ht hs =>
    cases hr
    cases hc
  | term ht hs hx =>
    subst hr
    obtain ⟨-, rfl⟩ := TermSpelling.fragment_of_operand hx
    obtain ⟨l, -, -, rfl, rfl⟩ := Link.exists_of_scan? ht hs
    simp only [Link.text, List.length_append, List.length_cons]
    omega
  | operand ht hs hx ho =>
    subst hr
    rcases Operator.isZeroDivision_of_checkOperand ho with rfl | rfl <;> cases hc

/-- A line that is refused for a rule of dice, and shown whole, is the spelling of a term. -/
theorem exists_spelling_of_readLine {t fragment : Text} {cause : NotationCause}
    (h : readLine t = .error (.fault cause fragment)) (hc : cause.isDiceRule) (hf : fragment = t) :
    ∃ s : TermSpelling, s.WellSpelled ∧ s.text = t ∧
      s.operand = .error (.fault cause fragment) := by
  have hrefuses := refuses_of_readLine h
  generalize hr : Refusal.fault cause fragment = r at hrefuses
  cases hrefuses with
  | noTerm hs =>
    cases hr
    cases hc
  | first hs hx =>
    subst hr
    obtain ⟨-, htext⟩ := TermSpelling.fragment_of_operand hx
    exact ⟨_, TermSpelling.wellSpelled_of_scan? hs, htext.symm.trans hf, hx⟩
  | tail hw hs hv hstop =>
    subst hr
    have hlength := length_lt_of_stops hstop hc
    rw [hf, List.length_append] at hlength
    omega

/-! ## What follows a term -/

theorem CodePoint.EndsTerm.beforeLetters {c : CodePoint} (h : c.EndsTerm) : c.BeforeLetters := by
  rcases h with h | ⟨o, rfl⟩
  · exact (isBlank_of_isGap h).2
  · exact o.beforeLetters_symbol

theorem endsTerm_lowercaseAfter {t : Text} (h : t.EndsTerm) (before : Text) :
    Text.EndsTerm (Text.lowercaseAfter before t) := by
  cases t with
  | nil => exact h
  | cons c t =>
    have hc : c.EndsTerm := h c rfl
    rw [Text.lowercaseAfter, Text.lowerOne_of_beforeLetters _ _ hc.beforeLetters]
    exact .cons hc

/-- Behind a stripped text without a sigma, what ends a term still does when the line is stripped
and lowered. -/
theorem exists_lowercase_append {t rest : Text} (ht : t.strip = t) (hne : t ≠ [])
    (hsigma : Text.capitalSigma ∉ t) (hr : rest.EndsTerm) :
    ∃ rest', rest'.EndsTerm ∧ (t ++ rest).strip.lowercase = t.lowercase ++ rest' := by
  rw [Text.strip_append_stripEnd ht hne, Text.lowercase, Text.lowercaseAfter_append _ _ _ hsigma]
  exact ⟨_, endsTerm_lowercaseAfter (hr.of_prefix rest.stripEnd_prefix) _, rfl⟩

/-! ## The same fault -/

/-- A line is refused for the same cause as another one, with the same wording and fragment. -/
def RefusedAlike (fault : NotationFault) (line : Text) : Prop :=
  ∃ fault', Expression.parse line = .error (.refused fault') ∧ fault'.cause = fault.cause ∧
    fault'.message = fault.message ∧ fault'.fragment = fault.fragment

theorem refusedAlike_of_readLine {fault : NotationFault} (hc : fault.cause.isDiceRule) {line : Text}
    (hr : readLine line.strip.lowercase = .error (.fault fault.cause fault.fragment)) :
    RefusedAlike fault line := by
  have hb : ¬ line.isBlank := fun hb => by
    rw [Text.strip_eq_nil_of_isBlank hb] at hr
    have hcause : NotationCause.noTerm = fault.cause := (Refusal.fault.inj (Except.error.inj hr)).1
    rw [← hcause] at hc
    cases hc
  exact ⟨⟨fault.cause, fault.fragment, line⟩, parse_eq_refused_iff.2 ⟨rfl, .inr ⟨hb, hr⟩⟩, rfl,
    NotationFault.message_congr rfl hc, rfl⟩

section Refused

variable {t : Text} {fault : NotationFault} (hp : Expression.parse t = .error (.refused fault))
  (ht : t.strip = t) (hc : fault.cause.isDiceRule) (hf : fault.fragment = t.lowercase)
include hp ht hc hf

theorem exists_spelling_of_parse : ∃ s : TermSpelling, s.WellSpelled ∧ s.text = t.lowercase ∧
    s.operand = .error (.fault fault.cause fault.fragment) ∧ t ≠ [] ∧ Text.capitalSigma ∉ t := by
  have hr : readLine t.lowercase = .error (.fault fault.cause fault.fragment) := by
    rcases (parse_eq_refused_iff.1 hp).2 with ⟨-, hblank, -⟩ | ⟨-, hr⟩
    · rw [hblank] at hc
      cases hc
    · rwa [ht] at hr
  obtain ⟨s, hw, htext, hx⟩ := exists_spelling_of_readLine hr hc hf
  refine ⟨s, hw, htext, hx, ?_, Text.capitalSigma_not_mem fun c hm =>
    TermSpelling.val_lt_of_mem_text hw (htext ▸ hm)⟩
  rintro rfl
  exact (TermSpelling.heads_text hw []).1 htext

/-- A term that breaks a rule of dice is reported in the same way in front of anything that ends a
term, and behind any line that is accepted and an operator. -/
theorem refusedAlike_of_parse {rest : Text} (hrest : rest.EndsTerm) :
    RefusedAlike fault (t ++ rest) ∧
    ∀ (a : Text) (e : Expression) (before after : Text) (o : Operator),
      Expression.parse a = .ok e → a.strip = a → (∀ c ∈ before, c.isGap) →
      (∀ c ∈ after, c.isGap) → RefusedAlike fault (a ++ o.withGaps before after ++ t ++ rest) := by
  obtain ⟨s, hw, htext, hx, hne, hsigma⟩ := exists_spelling_of_parse hp ht hc hf
  constructor
  · obtain ⟨rest', hr, hline⟩ := exists_lowercase_append ht hne hsigma hrest
    refine refusedAlike_of_readLine hc ?_
    rw [hline, ← htext]
    exact readLine_of_reaches (.first (TermSpelling.scan?_text_append hw hr)) hx
  · intro a e before after o ha hsa hbefore hafter
    obtain ⟨d, hd, hshort, hda, rfl, hv, hna, hsigma'⟩ := derivation_of_parse ha hsa
    have hfront := Text.strip_append hsa hna ht hne (o.withGaps before after)
    have hfrontSigma : Text.capitalSigma ∉ a ++ o.withGaps before after ++ t := by
      rw [List.mem_append, List.mem_append, not_or, not_or]
      exact ⟨⟨hsigma', o.capitalSigma_not_mem_withGaps hbefore hafter⟩, hsigma⟩
    obtain ⟨rest', hr, hline⟩ := exists_lowercase_append hfront (by simp [hna]) hfrontSigma hrest
    -- The term is that of a link behind the line in front.
    let l : Link := ⟨before, o, after, s⟩
    have hl : l.WellSpelled := ⟨hbefore, hafter, hw⟩
    have hlink : d.text ++ o.withGaps before after ++ s.text ++ rest'
        = d.text ++ (l.text ++ rest') := by
      simp only [Operator.withGaps, Link.text, List.append_assoc, List.cons_append, l]
    refine refusedAlike_of_readLine hc ?_
    rw [hline, lowercase_append_withGaps hbefore hafter o hsigma' hsigma, ← hda, ← htext, hlink]
    exact readLine_of_reaches (.link hd hshort hv hl (TermSpelling.scan?_text_append hw hr)) hx

end Refused

/-- Too many dice are kept, with a second fault and a sigma behind the term, and a division in front
of it. -/
theorem refusedAlike_of_kept_dice : ∃ fault,
    Expression.parse "2D6kh3" = .error (.refused fault) ∧ Text.strip "2D6kh3" = "2D6kh3" ∧
    fault.cause.isDiceRule ∧ fault.fragment = Text.lowercase "2D6kh3" ∧
    Text.EndsTerm " /0 +ΑΣ" ∧
    RefusedAlike fault (Text.ofString "2D6kh3" ++ Text.ofString " /0 +ΑΣ") ∧
    Expression.parse "D8!r" = .ok { first := .dice {
      count := 1, faces := 8, explode := true, reroll := .once, source := "d8!r" } } ∧
    RefusedAlike fault (Text.ofString "D8!r" ++ Operator.divide.withGaps "\t" "\n"
      ++ Text.ofString "2D6kh3" ++ Text.ofString " /0 +ΑΣ") := by
  have hp : Expression.parse "2D6kh3" = .error (.refused {
      cause := .modifierExceedsCount 3 2, fragment := "2d6kh3", expression := "2D6kh3" }) := by
    cbv
  have ha : Expression.parse "D8!r" = .ok { first := .dice {
      count := 1, faces := 8, explode := true, reroll := .once, source := "d8!r" } } := by
    cbv
  have hrest : Text.EndsTerm " /0 +ΑΣ" := .cons (.inl rfl)
  have hstrip : Text.strip "2D6kh3" = "2D6kh3" := by decide
  have hfragment : Text.ofString "2d6kh3" = Text.lowercase "2D6kh3" := by decide
  obtain ⟨hbehind, hbetween⟩ := refusedAlike_of_parse hp hstrip rfl hfragment hrest
  exact ⟨_, hp, hstrip, rfl, hfragment, hrest, hbehind, ha,
    hbetween "D8!r" _ "\t" "\n" .divide ha (by decide) (by decide) (by decide)⟩

end Tabletop
