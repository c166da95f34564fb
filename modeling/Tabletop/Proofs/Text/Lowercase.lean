import Tabletop.Proofs.Text.Stripping
import Tabletop.Text.Lowercase

/-!
# What lower-casing keeps

Digits, gaps and operators come before the letters in the order of code
points (`CodePoint.BeforeLetters`). Lower-casing leaves such a code point as it
is and never makes one out of another (`lowerOne_of_beforeLetters`,
`eq_of_mem_lowerOne`), so on them a text and its lower-case form agree:

* `infix_of_infix_lowercaseAfter`: a run of them in the lower-case form is a run
  of the text;
* `getLast?_of_lowercaseAfter`: so is the last code point;
* `DigitRunsAtMost.strip_lowercase`: no run of digits of a line becomes longer
  when the line is stripped and lowered.

Blanks stay as they are (`lowercase_of_isBlank`), since none of them is a
capital letter.

Texts put together are lowered part by part (`lowercase_append`), but for a
capital sigma, which looks at its neighbours; a text whose lower-case form is
plain has none (`capitalSigma_not_mem`).
-/

namespace Tabletop

/-- A code point before the capital A: no letter, and no form of one. -/
def CodePoint.BeforeLetters (c : CodePoint) : Prop := c.val < 65

instance (c : CodePoint) : Decidable c.BeforeLetters := inferInstanceAs (Decidable (c.val < 65))

namespace CodePoint

/-- The lower-case letters of every run are code points from the capital A on,
and none of them is a surrogate. -/
theorem lowerRuns_image : ∀ r ∈ lowerRuns, 65 ≤ r.first + r.offset ∧
    (r.last + r.offset < 0xD800 ∨ 0xE000 ≤ r.first + r.offset ∧ r.last + r.offset < 0x110000) := by
  decide +kernel

theorem lowerLetter_of_beforeLetters {c : CodePoint} (h : c.BeforeLetters) : lowerLetter c = c := by
  cases c with
  | char c =>
    have hc : c.toNat < 65 := h
    have hu : ¬ ('A'.val ≤ c.val ∧ c.val ≤ 'Z'.val) := fun hu => by
      have : 65 ≤ c.toNat := hu.1
      omega
    have hl : c.toLower = c := dif_neg hu
    rw [lowerLetter_ascii c (by omega), hl]
  | surrogate half => rfl

/-- A letter's lower-case form is no code point before the letters. -/
theorem not_beforeLetters_lowerLetter {c : CodePoint} (h : ¬ c.BeforeLetters) :
    ¬ (lowerLetter c).BeforeLetters := by
  cases c with
  | char c =>
    have hc : 65 ≤ c.toNat := Nat.le_of_not_lt h
    simp only [lowerLetter]
    split
    · by_cases hu : 'A'.val ≤ c.val ∧ c.val ≤ 'Z'.val
      · have hn : (c.val + ('a'.val - 'A'.val)).toNat = c.toNat + 32 := by
          have : c.toNat ≤ 90 := hu.2
          rw [UInt32.toNat_add]
          show (c.toNat + 32) % 2 ^ 32 = c.toNat + 32
          omega
        have hl : c.toLower = ⟨c.val + ('a'.val - 'A'.val), _⟩ := dif_pos hu
        rw [hl]
        show ¬ (c.val + ('a'.val - 'A'.val)).toNat < 65
        omega
      · have hl : c.toLower = c := dif_neg hu
        rw [hl]
        exact h
    · split
      · exact h
      · rename_i r hr
        have hin := List.find?_some hr
        obtain ⟨hlow, hvalid⟩ := lowerRuns_image r (List.mem_of_find?_eq_some hr)
        simp only [inRun, Bool.and_eq_true, decide_eq_true_eq] at hin
        have hn : (c.toNat + r.offset).toNat.isValidChar := by
          simp only [Nat.isValidChar]
          omega
        have hl : Char.ofNat (c.toNat + r.offset).toNat = Char.ofNatAux _ hn := dif_pos hn
        rw [hl]
        show ¬ (c.toNat + r.offset).toNat < 65
        omega
  | surrogate half => exact h

/-- No run of capital letters reaches a blank. -/
theorem lowerRuns_disjoint_blankRanges :
    ∀ r ∈ lowerRuns, ∀ b ∈ blankRanges, r.last < b.1 ∨ b.2 < r.first := by
  decide +kernel

theorem lowerLetter_of_isBlank {c : CodePoint} (h : c.isBlank) : lowerLetter c = c := by
  by_cases hb : c.BeforeLetters
  · exact lowerLetter_of_beforeLetters hb
  · cases c with
    | char c =>
      have hc : 65 ≤ c.toNat := Nat.le_of_not_lt hb
      obtain ⟨b, hmem, hin⟩ := List.any_eq_true.1 h
      rw [Bool.and_eq_true, decide_eq_true_eq, decide_eq_true_eq] at hin
      have hin : b.1 ≤ c.toNat ∧ c.toNat ≤ b.2 := hin
      have hranges : ∀ b ∈ blankRanges, b.2 < 65 ∨ 128 ≤ b.1 := by decide
      have hhigh : 128 ≤ c.toNat := by
        have := hranges b hmem
        omega
      have hnone : lowerRuns.find? (inRun c.toNat) = none := by
        rw [List.find?_eq_none]
        intro r hr hrun
        simp only [inRun, Bool.and_eq_true, decide_eq_true_eq] at hrun
        have := lowerRuns_disjoint_blankRanges r hr b hmem
        omega
      simp only [lowerLetter, if_neg (Nat.not_lt.2 hhigh), hnone]
    | surrogate half => rfl

end CodePoint

namespace Text

open CodePoint

theorem lowerOne_of_beforeLetters (before : Text) {c : CodePoint} (after : Text)
    (h : c.BeforeLetters) : lowerOne before c after = [c] := by
  have hd : c ≠ dottedCapitalI := by rintro rfl; exact absurd h (by decide)
  have hs : c ≠ capitalSigma := by rintro rfl; exact absurd h (by decide)
  rw [lowerOne, if_neg hd, if_neg hs, lowerLetter_of_beforeLetters h]

theorem lowerOne_of_isBlank (before : Text) {c : CodePoint} (after : Text) (h : c.isBlank) :
    lowerOne before c after = [c] := by
  have hd : c ≠ dottedCapitalI := by rintro rfl; exact absurd h (by decide)
  have hs : c ≠ capitalSigma := by rintro rfl; exact absurd h (by decide)
  rw [lowerOne, if_neg hd, if_neg hs, lowerLetter_of_isBlank h]

theorem eq_of_mem_lowerOne {before after : Text} {c x : CodePoint} (hx : x ∈ lowerOne before c after)
    (h : x.BeforeLetters) : x = c := by
  unfold lowerOne at hx
  split at hx
  · simp only [List.mem_cons, List.not_mem_nil, or_false] at hx
    rcases hx with rfl | rfl <;> exact absurd h (by decide)
  · split at hx
    · split at hx <;> rw [List.mem_singleton] at hx <;> subst hx <;> exact absurd h (by decide)
    · rw [List.mem_singleton] at hx
      subst hx
      by_cases hc : c.BeforeLetters
      · exact lowerLetter_of_beforeLetters hc
      · exact absurd h (not_beforeLetters_lowerLetter hc)

theorem lowerOne_ne_nil (before : Text) (c : CodePoint) (after : Text) :
    lowerOne before c after ≠ [] := by
  unfold lowerOne
  split
  · simp
  · split
    · split <;> simp
    · simp

theorem lowercaseAfter_append_exists (before s t : Text) :
    ∃ u, lowercaseAfter before (s ++ t) = u ++ lowercaseAfter (s.reverse ++ before) t := by
  induction s generalizing before with
  | nil => exact ⟨[], rfl⟩
  | cons c s ih =>
    obtain ⟨u, hu⟩ := ih (c :: before)
    refine ⟨lowerOne before c (s ++ t) ++ u, ?_⟩
    simp only [List.cons_append, lowercaseAfter, hu, List.reverse_cons, List.append_assoc,
      List.nil_append]

/-! ## Runs -/

/-- A run at the front of the lower-case form stands at the front of the text. -/
theorem prefix_of_prefix_lowercaseAfter {before t run : Text} (hr : ∀ c ∈ run, c.BeforeLetters)
    (h : run <+: lowercaseAfter before t) : run <+: t := by
  induction run generalizing before t with
  | nil => exact List.nil_prefix
  | cons x run ih =>
    have hx := hr x List.mem_cons_self
    cases t with
    | nil => simp [lowercaseAfter] at h
    | cons c t =>
      have hm : x ∈ lowerOne before c t := by
        rw [lowercaseAfter] at h
        cases hl : lowerOne before c t with
        | nil => exact absurd hl (lowerOne_ne_nil _ _ _)
        | cons y _ =>
          rw [hl, List.cons_append, List.cons_prefix_cons] at h
          exact h.1 ▸ List.mem_cons_self
      obtain rfl := eq_of_mem_lowerOne hm hx
      rw [lowercaseAfter, lowerOne_of_beforeLetters _ _ hx, List.singleton_append,
        List.cons_prefix_cons] at h
      rw [List.cons_prefix_cons]
      exact ⟨rfl, ih (fun c hc => hr c (List.mem_cons_of_mem _ hc)) h.2⟩

/-- A run that shares no code point with what stands before it lies behind. -/
theorem infix_of_infix_append {p : CodePoint → Prop} {front t run : Text} (hr : ∀ c ∈ run, p c)
    (hf : ∀ c ∈ front, ¬ p c) (h : run <:+: front ++ t) : run <:+: t := by
  induction front with
  | nil => exact h
  | cons y front ih =>
    rw [List.cons_append, List.infix_cons_iff] at h
    rcases h with h | h
    · cases run with
      | nil => exact List.nil_infix
      | cons x run =>
        obtain ⟨rfl, -⟩ := List.cons_prefix_cons.1 h
        exact absurd (hr x List.mem_cons_self) (hf x List.mem_cons_self)
    · exact ih (fun c hc => hf c (List.mem_cons_of_mem _ hc)) h

/-- A run in the lower-case form is a run of the text. -/
theorem infix_of_infix_lowercaseAfter {before t run : Text} (hr : ∀ c ∈ run, c.BeforeLetters)
    (h : run <:+: lowercaseAfter before t) : run <:+: t := by
  induction t generalizing before with
  | nil => exact h
  | cons c t ih =>
    by_cases hc : c.BeforeLetters
    · have hl : lowercaseAfter before (c :: t) = c :: lowercaseAfter (c :: before) t := by
        rw [lowercaseAfter, lowerOne_of_beforeLetters _ _ hc, List.singleton_append]
      rw [hl, List.infix_cons_iff] at h
      rcases h with h | h
      · rw [← hl] at h
        exact (prefix_of_prefix_lowercaseAfter hr h).isInfix
      · exact (ih h).trans (List.suffix_cons c t).isInfix
    · refine (ih (infix_of_infix_append hr ?_ h)).trans (List.suffix_cons c t).isInfix
      exact fun x hx hb => hc (eq_of_mem_lowerOne hx hb ▸ hb)

/-- The last code point of the lower-case form, if it comes before the letters, is the last one of
the text. -/
theorem getLast?_of_lowercaseAfter {before t : Text} {x : CodePoint}
    (h : (lowercaseAfter before t).getLast? = some x) (hx : x.BeforeLetters) :
    t.getLast? = some x := by
  rcases List.eq_nil_or_concat t with rfl | ⟨s, c, rfl⟩
  · exact h
  · obtain ⟨u, hu⟩ := lowercaseAfter_append_exists before s [c]
    rw [List.concat_eq_append] at h ⊢
    rw [hu, lowercaseAfter, lowercaseAfter, List.append_nil] at h
    have hl := lowerOne_ne_nil (s.reverse ++ before) c []
    rw [List.getLast?_eq_some_getLast (List.append_ne_nil_of_right_ne_nil u hl),
      List.getLast_append_right hl, Option.some_inj] at h
    rw [List.getLast?_concat, eq_of_mem_lowerOne (h ▸ List.getLast_mem hl) hx]

/-! ## Lines -/

/-- No run of decimal digits in a text is longer than `n`. -/
def DigitRunsAtMost (n : Nat) (t : Text) : Prop :=
  ∀ run, run <:+: t → (∀ c ∈ run, c.isDigit) → run.length ≤ n

theorem beforeLetters_of_isDigit {c : CodePoint} (h : c.isDigit) : c.BeforeLetters := by
  cases c with
  | char c =>
    simp only [isDigit, Char.isDigit, Bool.and_eq_true, decide_eq_true_eq] at h
    have : c.toNat ≤ 57 := h.2
    show c.toNat < 65
    omega
  | surrogate half => exact absurd h (by simp [isDigit])

theorem isBlank_of_isDigit {c : CodePoint} (h : c.isDigit) : c.isBlank = false := by
  cases c with
  | char c =>
    simp only [isDigit, Char.isDigit, Bool.and_eq_true, decide_eq_true_eq] at h
    have h₁ : 48 ≤ c.toNat := h.1
    have h₂ : c.toNat ≤ 57 := h.2
    have hranges : ∀ r ∈ blankRanges, r.2 < 48 ∨ 57 < r.1 := by decide
    refine Bool.eq_false_iff.2 fun hb => ?_
    obtain ⟨r, hr, hb⟩ := List.any_eq_true.1 hb
    rw [Bool.and_eq_true, decide_eq_true_eq, decide_eq_true_eq] at hb
    have hb : r.1 ≤ c.toNat ∧ c.toNat ≤ r.2 := hb
    have := hranges r hr
    omega
  | surrogate half => exact absurd h (by simp [isDigit])

theorem DigitRunsAtMost.strip_lowercase {n : Nat} {t : Text} (h : t.DigitRunsAtMost n) :
    t.strip.lowercase.DigitRunsAtMost n := fun run hi hd =>
  h run ((infix_of_infix_lowercaseAfter (fun c hc => beforeLetters_of_isDigit (hd c hc)) hi).trans
    (strip_isInfix t)) hd

/-! ## Texts put together -/

theorem lowercase_append {s t : Text} (hs : capitalSigma ∉ s) (ht : capitalSigma ∉ t) :
    lowercase (s ++ t) = lowercase s ++ lowercase t := by
  rw [lowercase, lowercaseAfter_append _ _ _ hs, lowercaseAfter_eq _ _ ht]
  rfl

theorem lowercase_of_lowerOne {t : Text}
    (h : ∀ c ∈ t, ∀ before after, lowerOne before c after = [c]) : t.lowercase = t := by
  suffices ∀ before, lowercaseAfter before t = t from this []
  intro before
  induction t generalizing before with
  | nil => rfl
  | cons c t ih =>
    obtain ⟨hc, ht⟩ := List.forall_mem_cons.1 h
    rw [lowercaseAfter, hc, ih ht, List.singleton_append]

theorem lowercase_of_beforeLetters {t : Text} (h : ∀ c ∈ t, c.BeforeLetters) : t.lowercase = t :=
  lowercase_of_lowerOne fun c hc before after => lowerOne_of_beforeLetters before after (h c hc)

theorem lowercase_of_isBlank {t : Text} (h : ∀ c ∈ t, c.isBlank) : t.lowercase = t :=
  lowercase_of_lowerOne fun c hc before after => lowerOne_of_isBlank before after (h c hc)

/-- A sigma shows in the lower-case form. -/
theorem capitalSigma_not_mem {t : Text} (h : ∀ c ∈ t.lowercase, c.val < 128) : capitalSigma ∉ t := by
  intro hm
  obtain ⟨s, u, rfl⟩ := List.append_of_mem hm
  obtain ⟨w, hw⟩ := lowercaseAfter_append_exists [] s (capitalSigma :: u)
  have hsigma : ∀ x ∈ lowerOne (s.reverse ++ []) capitalSigma u, ¬ x.val < 128 := by
    rw [lowerOne, if_neg (by decide), if_pos rfl]
    split <;> decide
  obtain ⟨x, hx⟩ := List.exists_mem_of_ne_nil _ (lowerOne_ne_nil (s.reverse ++ []) capitalSigma u)
  refine hsigma x hx (h x ?_)
  rw [lowercase, hw, lowercaseAfter]
  exact List.mem_append_right _ (List.mem_append_left _ hx)

end Text

end Tabletop
