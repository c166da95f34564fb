import Mathlib
import Tabletop.Proofs.Notation.Refusals

/-!
# What a refusal shows

A refused line is shown with a fragment (`ShownIn`): a part of the stripped and
lowered line, or an operator and what stands behind it without the gap between
them. One lemma for each place where a fragment is made:

* `TermSpelling.fragment_of_operand`: the term that breaks a rule;
* `Operator.fragment_of_checkOperand`: a divisor, and for the number zero the
  operator with a single digit;
* `shownIn_of_stops`, `shownIn_of_refuses`: what the reading did not get past.

No fragment is empty but that of a blank line (`fragment_of_parse`).
-/

namespace Tabletop

/-! ## Fragments -/

/-- The operators whose faults are shown with the operator in front: one that has no operand, and a
division by the number zero. -/
def NotationCause.ShowsOperator (cause : NotationCause) (o : Operator) : Prop :=
  cause = .noOperand o ∨ cause = .zeroDivisor ∧ o = .divide

/-- What a text is shown with for a cause: a part of it, or an operator and what stands behind it,
put together across the gap between them. -/
inductive ShownIn (t : Text) (cause : NotationCause) : Text → Prop
  | part {fragment : Text} (h : fragment <:+: t) : ShownIn t cause fragment
  | spliced {o : Operator} {gap rest : Text} (ho : cause.ShowsOperator o) (hne : gap ≠ [])
      (hgap : ∀ c ∈ gap, c.isGap) (h : o.symbol :: (gap ++ rest) <:+: t) :
      ShownIn t cause (o.symbol :: rest)

namespace ShownIn

variable {t t' : Text} {cause : NotationCause}

theorem mono {fragment : Text} (h : ShownIn t cause fragment) (ht : t <:+: t') :
    ShownIn t' cause fragment := by
  cases h with
  | part h => exact .part (h.trans ht)
  | spliced ho hne hgap h => exact .spliced ho hne hgap (h.trans ht)

/-- An operator with the front of what stands behind the gap. -/
theorem of_dropWhile {o : Operator} {rest front : Text} (ho : cause.ShowsOperator o)
    (h : o.symbol :: rest <:+: t) (hf : front <+: rest.dropWhile (·.isGap)) :
    ShownIn t cause (o.symbol :: front) := by
  obtain ⟨after, hafter⟩ := hf
  have hrest : rest.takeWhile (·.isGap) ++ front <+: rest :=
    ⟨after, by rw [List.append_assoc, hafter, List.takeWhile_append_dropWhile]⟩
  have hin : o.symbol :: (rest.takeWhile (·.isGap) ++ front) <:+: t :=
    ((List.prefix_cons_inj _).2 hrest).isInfix.trans h
  by_cases hne : rest.takeWhile (·.isGap) = []
  · rw [hne, List.nil_append] at hin
    exact .part hin
  · exact .spliced ho hne (fun _ => isGap_of_mem_takeWhile) hin

end ShownIn

/-! ## Terms -/

namespace Numeral

/-- Only zeros have the value zero, by induction on the digits with the number before them. -/
theorem eq_zero_of_value_eq_zero {ds : Text} (hd : ∀ c ∈ ds, c.isDigit) (h : value ds = 0) :
    ∀ c ∈ ds, c = .char '0' := by
  have hfold : ∀ (ds : Text) (n : Nat), ds.foldl (fun n d => 10 * n + d.digitValue) n = 0 →
      n = 0 ∧ ∀ c ∈ ds, c.digitValue = 0 := by
    intro ds
    induction ds with
    | nil => exact fun n h => ⟨h, by simp⟩
    | cons d ds ih =>
      intro n h
      rw [List.foldl_cons] at h
      obtain ⟨hn, hds⟩ := ih _ h
      exact ⟨by omega, List.forall_mem_cons.2 ⟨by omega, hds⟩⟩
  intro c hc
  have hv := (hfold ds 0 h).2 c hc
  have hdc := hd c hc
  cases c with
  | char c =>
    rw [CodePoint.digitValue, if_pos (show c.isDigit = true from hdc)] at hv
    simp only [CodePoint.isDigit, Char.isDigit, Bool.and_eq_true, decide_eq_true_eq] at hdc
    have : 48 ≤ c.toNat := hdc.1
    have : c.toNat - 48 = 0 := hv
    congr 1
    exact Char.toNat_inj.1 (by show c.toNat = 48; omega)
  | surrogate half => cases hdc

end Numeral

theorem DiceSpelling.brokenRule?_ne_blank (s : DiceSpelling) (count faces modifier threshold : Nat) :
    s.brokenRule? count faces modifier threshold ≠ some .blank := by
  unfold brokenRule?
  repeat' split
  all_goals simp

/-- A term that breaks a rule is shown as it is spelled. -/
theorem TermSpelling.fragment_of_operand {s : TermSpelling} {cause : NotationCause}
    {fragment : Text} (h : s.operand = .error (.fault cause fragment)) :
    cause ≠ .blank ∧ fragment = s.text := by
  rw [operand_eq] at h
  split at h
  · cases h
  · rename_i hb
    cases h
    cases s with
    | integer digits => cases hb
    | dice s =>
      refine ⟨?_, rfl⟩
      rintro rfl
      exact s.brokenRule?_ne_blank _ _ _ _ hb
  · cases h

/-- A divisor is shown as it is spelled, but a zero with one digit behind the operator. -/
theorem Operator.fragment_of_checkOperand {o : Operator} {s : TermSpelling} {x : Operand}
    {cause : NotationCause} {fragment : Text} (hs : s.WellSpelled) (hx : s.operand = .ok x)
    (h : o.checkOperand x = .error (.fault cause fragment)) :
    cause ≠ .blank ∧ (fragment = s.text ∨
      cause.ShowsOperator o ∧ ∃ zero, zero :: [] <+: s.text ∧ fragment = [o.symbol, zero]) := by
  unfold checkOperand at h
  split at h
  · rename_i ho
    subst ho
    obtain ⟨-, -, rfl⟩ := TermSpelling.operand_eq_ok_iff.1 hx
    cases s with
    | integer digits =>
      simp only [TermSpelling.tree, Operand.checkDivisor, Int.natCast_eq_zero] at h
      split at h
      · rename_i hv
        cases h
        obtain ⟨hne, hd⟩ := hs
        cases digits with
        | nil => exact absurd rfl hne
        | cons c ds =>
          have hc := Numeral.eq_zero_of_value_eq_zero hd hv c List.mem_cons_self
          refine ⟨by decide, .inr ⟨.inr ⟨rfl, rfl⟩, c, ?_, ?_⟩⟩
          · exact (List.prefix_cons_inj _).2 List.nil_prefix
          · rw [hc]
            rfl
      · cases h
    | dice s =>
      simp only [TermSpelling.tree, Operand.checkDivisor] at h
      split at h
      · cases h
        exact ⟨by decide, .inl rfl⟩
      · cases h
  · cases h

/-! ## Lines -/

theorem Text.strip_lowercase_ne_nil {t : Text} (h : ¬ t.isBlank) : t.strip.lowercase ≠ [] := by
  cases hs : t.strip with
  | nil => exact absurd (isBlank_of_isBlank_stripStart (isBlank_of_stripEnd_eq_nil hs)) h
  | cons c s => exact List.append_ne_nil_of_left_ne_nil (lowerOne_ne_nil [] c s) _

theorem shownIn_of_stops {t fragment : Text} {cause : NotationCause}
    (h : Stops t (.fault cause fragment)) :
    cause ≠ .blank ∧ fragment ≠ [] ∧ ShownIn t cause fragment := by
  have hdrop : ∀ {t' : Text}, t.dropWhile (·.isGap) = t' → t' <:+: t := by
    rintro _ rfl
    exact (List.dropWhile_suffix _).isInfix
  -- A term that is scanned stands behind the operator and the gap.
  have hterm : ∀ {o : Operator} {rest after : Text} {s : TermSpelling},
      t.dropWhile (·.isGap) = o.symbol :: rest →
      TermSpelling.scan? (rest.dropWhile (·.isGap)) = some (s, after) → s.text <:+: t := by
    intro o rest after s ht hs
    have hrest : s.text <:+: rest.dropWhile (·.isGap) :=
      ⟨[], after, TermSpelling.text_append_of_scan? hs⟩
    exact (hrest.trans (List.dropWhile_suffix _).isInfix).trans
      ((List.suffix_cons _ _).isInfix.trans (hdrop ht))
  generalize hr : Refusal.fault cause fragment = r at h
  cases h with
  | noOperator ht ho =>
    cases hr
    exact ⟨by decide, List.cons_ne_nil _ _, .part (hdrop ht)⟩
  | noOperand ht hs =>
    cases hr
    exact ⟨by simp, List.cons_ne_nil _ _, .of_dropWhile (.inl rfl) (hdrop ht) (List.prefix_refl _)⟩
  | term ht hs hx =>
    subst hr
    obtain ⟨hc, rfl⟩ := TermSpelling.fragment_of_operand hx
    exact ⟨hc, TermSpelling.text_ne_nil_of_scan? hs, .part (hterm ht hs)⟩
  | operand ht hs hx hc =>
    subst hr
    obtain ⟨hcause, rfl | ⟨ho, zero, hz, rfl⟩⟩ :=
      Operator.fragment_of_checkOperand (TermSpelling.wellSpelled_of_scan? hs) hx hc
    · exact ⟨hcause, TermSpelling.text_ne_nil_of_scan? hs, .part (hterm ht hs)⟩
    · have hfront := hz.trans ⟨_, TermSpelling.text_append_of_scan? hs⟩
      exact ⟨hcause, List.cons_ne_nil _ _, .of_dropWhile ho (hdrop ht) hfront⟩

theorem shownIn_of_refuses {t fragment : Text} {cause : NotationCause}
    (h : Refuses t (.fault cause fragment)) (ht : t ≠ []) :
    cause ≠ .blank ∧ fragment ≠ [] ∧ ShownIn t cause fragment := by
  generalize hr : Refusal.fault cause fragment = r at h
  cases h with
  | noTerm hs =>
    cases hr
    exact ⟨by decide, ht, .part (List.infix_refl _)⟩
  | first hs hx =>
    subst hr
    obtain ⟨hc, rfl⟩ := TermSpelling.fragment_of_operand hx
    exact ⟨hc, TermSpelling.text_ne_nil_of_scan? hs,
      .part ⟨[], _, TermSpelling.text_append_of_scan? hs⟩⟩
  | tail hw hs hv hstop =>
    subst hr
    obtain ⟨hc, hne, hshown⟩ := shownIn_of_stops hstop
    exact ⟨hc, hne, hshown.mono (List.suffix_append _ _).isInfix⟩

/-- A refused line is shown with a part of the stripped and lowered line, or with an operator and
what stands behind it without the gap between them. Only a blank line is shown with nothing. -/
theorem fragment_of_parse {line : Text} {fault : NotationFault}
    (h : Expression.parse line = .error (.refused fault)) :
    (fault.fragment = [] ↔ fault.cause = .blank) ∧
    ShownIn line.strip.lowercase fault.cause fault.fragment := by
  unfold Expression.parse at h
  split at h
  · cases h
    exact ⟨by simp, .part List.nil_infix⟩
  · rename_i hb
    split at h
    · cases h
    · rename_i r hr
      obtain ⟨rfl, -⟩ := Refusal.inLine_eq_refused_iff.1 (Except.error.inj h)
      obtain ⟨hc, hne, hshown⟩ := shownIn_of_refuses (refuses_of_readLine hr) (Text.strip_lowercase_ne_nil hb)
      exact ⟨iff_of_false hne hc, hshown⟩

/-- A capital letter behind an operator and a gap. -/
theorem fragment_of_missing_operand : ∃ fault,
    Expression.parse " 3D6+ X" = .error (.refused fault) ∧ fault.fragment = "+x" ∧
    fault.cause ≠ .blank ∧ ShownIn "3d6+ x" fault.cause fault.fragment := by
  have h : Expression.parse " 3D6+ X" =
      .error (.refused { cause := .noOperand .add, fragment := "+x", expression := " 3D6+ X" }) := by
    cbv
  have hline : Text.lowercase (Text.strip " 3D6+ X") = "3d6+ x" := by decide
  obtain ⟨hblank, hshown⟩ := fragment_of_parse h
  rw [hline] at hshown
  exact ⟨_, h, rfl, fun hc => absurd (hblank.2 hc) (by decide), hshown⟩

/-- A division by zero with gaps in it. -/
theorem not_infix_of_spaced_zero : ∃ fault,
    Expression.parse "5 / 0" = .error (.refused fault) ∧ fault.fragment = "/0" ∧
    ¬ fault.fragment <:+: Text.lowercase (Text.strip "5 / 0") := by
  have h : Expression.parse "5 / 0" =
      .error (.refused { cause := .zeroDivisor, fragment := "/0", expression := "5 / 0" }) := by
    cbv
  exact ⟨_, h, rfl, by decide⟩

end Tabletop
