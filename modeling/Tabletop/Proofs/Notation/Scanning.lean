import Tabletop.Proofs.Notation.Grammar
import Tabletop.Proofs.Text.Runs

/-!
# Scanning terms

`TermSpelling.scan?` inverts `TermSpelling.text` in front of anything that ends
a term: the end of the line, a gap or an operator (`Text.EndsTerm`).

* `wellSpelled_of_scan?`: what is read is well spelled;
* `scan?_text_append`: a well spelled term is read back whole, and nothing of
  what follows it. Each scanner takes as much as fits, so what counts is the
  code point that the next part can begin with (`Text.Heads`).
-/

namespace Tabletop

/-! ## What ends a term -/

/-- A gap, or an operator. -/
def CodePoint.EndsTerm (c : CodePoint) : Prop := c.isGap ∨ ∃ o : Operator, c = o.symbol

/-- The end of the line, a gap or an operator. -/
def Text.EndsTerm (t : Text) : Prop := t.Heads CodePoint.EndsTerm

theorem CodePoint.EndsTerm.not_term {c : CodePoint} (h : c.EndsTerm) : c.isDigit = false ∧
    c ≠ .char 'd' ∧ c ≠ .char 'k' ∧ c ≠ .char '!' ∧ c ≠ .char 'r' := by
  rcases h with h | ⟨o, rfl⟩
  · simp only [isGap, Bool.or_eq_true, decide_eq_true_eq] at h
    rcases h with ((rfl | rfl) | rfl) | rfl <;> decide
  · cases o <;> decide

/-- A digit is none of the letters and marks of a term. -/
theorem CodePoint.not_mark_of_isDigit {c : CodePoint} (h : c.isDigit) :
    c ≠ .char 'd' ∧ c ≠ .char 'k' ∧ c ≠ .char '!' ∧ c ≠ .char 'r' := by
  refine ⟨?_, ?_, ?_, ?_⟩ <;> rintro rfl <;> exact absurd h (by decide)

/-! ## Parts of a term -/

theorem splitDigits_run_append {run t : Text} (hr : ∀ c ∈ run, c.isDigit)
    (ht : t.Heads fun c => c.isDigit = false) : Numeral.splitDigits (run ++ t) = (run, t) := by
  rw [Numeral.splitDigits, takeWhile_run_append hr ht, dropWhile_run_append hr ht]

theorem KeepDrop.scan_token_append (k : KeepDrop) {t : Text}
    (h : t.Heads fun c => c ≠ .char 'k' ∧ c ≠ .char 'd') : scan (k.token ++ t) = (k, t) := by
  cases k with
  | all =>
    show scan t = (all, t)
    unfold scan
    split
    · exact absurd rfl (h _ rfl).1
    · exact absurd rfl (h _ rfl).1
    · exact absurd rfl (h _ rfl).2
    · exact absurd rfl (h _ rfl).2
    · rfl
  | keepHigh | keepLow | dropHigh | dropLow => rfl

theorem scanExplode_token_append (b : Bool) {t : Text} (h : t.Heads (· ≠ .char '!')) :
    scanExplode (explodeToken b ++ t) = (b, t) := by
  cases b with
  | false =>
    show scanExplode t = (false, t)
    unfold scanExplode
    split
    · exact absurd rfl (h _ rfl)
    · rfl
  | true => rfl

theorem Reroll.scan_token_append (r : Reroll) {t : Text} (h : t.Heads (· ≠ .char 'r')) :
    scan (r.token ++ t) = (r, t) := by
  cases r with
  | never =>
    show scan t = (never, t)
    unfold scan
    split
    · exact absurd rfl (h _ rfl)
    · exact absurd rfl (h _ rfl)
    · rfl
  | once =>
    show scan (.char 'r' :: t) = (once, t)
    cases t with
    | nil => rfl
    | cons c t =>
      have hc : c ≠ .char 'r' := h c rfl
      unfold scan
      split
      · rename_i he
        exact absurd (List.cons.inj (List.cons.inj he).2).1 hc
      · rename_i he
        rw [(List.cons.inj he).2]
      · rename_i hn
        exact absurd rfl (hn (c :: t))
  | untilAbove => rfl

theorem scanNumberIf_run_append (present : Bool) {run t : Text} (hr : ∀ c ∈ run, c.isDigit)
    (hp : present = false → run = []) (ht : t.Heads fun c => c.isDigit = false) :
    scanNumberIf present (run ++ t) = (run, t) := by
  cases present with
  | false => rw [hp rfl]; rfl
  | true => exact splitDigits_run_append hr ht

theorem isDigit_of_mem_scanNumberIf {present : Bool} {t : Text} {c : CodePoint}
    (h : c ∈ (scanNumberIf present t).1) : c.isDigit := by
  cases present with
  | false => exact absurd h (by simp [scanNumberIf])
  | true => exact List.all_eq_true.1 List.all_takeWhile c h

/-! ## Dice terms -/

/-- The letters and marks of a dice term. -/
def diceMarks : Text := "dkhl!r"

namespace DiceSpelling

/-- The parts of a dice term behind its faces. -/
def suffix (s : DiceSpelling) : Text :=
  s.keepDrop.token ++ (s.modifier ++ (explodeToken s.explode ++ (s.reroll.token ++ s.threshold)))

theorem text_eq (s : DiceSpelling) : s.text = s.count ++ .char 'd' :: (s.faces ++ s.suffix) := by
  simp only [text, suffix, List.append_assoc, List.cons_append]

variable {s : DiceSpelling} (hs : s.WellSpelled) {rest : Text} (hr : rest.EndsTerm)
include hs

/-- A dice term has nothing but digits and its marks. -/
theorem isDigit_or_mem_diceMarks {c : CodePoint} (h : c ∈ s.text) : c.isDigit ∨ c ∈ diceMarks := by
  have hkeepDrop : ∀ k : KeepDrop, ∀ c ∈ k.token, c ∈ diceMarks := by
    intro k
    cases k <;> decide
  have hexplode : ∀ b : Bool, ∀ c ∈ explodeToken b, c ∈ diceMarks := by decide
  have hreroll : ∀ r : Reroll, ∀ c ∈ r.token, c ∈ diceMarks := by
    intro r
    cases r <;> decide
  rw [text_eq, suffix] at h
  simp only [List.mem_append, List.mem_cons] at h
  rcases h with h | rfl | h | h | h | h | h | h
  · exact .inl (hs.count c h)
  · exact .inr (by decide)
  · exact .inl (hs.faces c h)
  · exact .inr (hkeepDrop _ c h)
  · exact .inl (hs.modifier c h)
  · exact .inr (hexplode _ c h)
  · exact .inr (hreroll _ c h)
  · exact .inl (hs.threshold c h)

include hr

theorem heads_threshold : (s.threshold ++ rest).Heads (· ≠ .char 'r') :=
  .append (fun c hc => (CodePoint.not_mark_of_isDigit (hs.threshold c hc)).2.2.2)
    (hr.mono fun _ h => h.not_term.2.2.2.2)

theorem heads_reroll :
    (s.reroll.token ++ (s.threshold ++ rest)).Heads fun c => c = .char 'r' ∨ c.EndsTerm := by
  cases h : s.reroll with
  | never =>
    rw [hs.threshold_eq_nil h]
    exact hr.mono fun _ => .inr
  | once | untilAbove => exact .cons (.inl rfl)

theorem heads_explode : (explodeToken s.explode ++ (s.reroll.token ++ (s.threshold ++ rest))).Heads
    fun c => c = .char '!' ∨ c = .char 'r' ∨ c.EndsTerm := by
  cases s.explode with
  | false => exact (heads_reroll hs hr).mono fun _ => .inr
  | true => exact .cons (.inl rfl)

theorem heads_modifier :
    (s.modifier ++ (explodeToken s.explode ++ (s.reroll.token ++ (s.threshold ++ rest)))).Heads
      fun c => c ≠ .char 'k' ∧ c ≠ .char 'd' := by
  refine .append (fun c hc => ?_) ((heads_explode hs hr).mono ?_)
  · have := CodePoint.not_mark_of_isDigit (hs.modifier c hc)
    exact ⟨this.2.1, this.1⟩
  · rintro c (rfl | rfl | h)
    · decide
    · decide
    · exact ⟨h.not_term.2.2.1, h.not_term.2.1⟩

theorem heads_suffix : (s.suffix ++ rest).Heads fun c => c.isDigit = false := by
  simp only [suffix, List.append_assoc]
  cases h : s.keepDrop with
  | all =>
    rw [hs.modifier_eq_nil h]
    refine (heads_explode hs hr).mono ?_
    rintro c (rfl | rfl | h)
    · decide
    · decide
    · exact h.not_term.1
  | keepHigh | keepLow | dropHigh | dropLow => exact .cons (by decide)

theorem scanModifiers_suffix_append :
    scanModifiers s.count s.faces (s.suffix ++ rest) = (s, rest) := by
  have hk := KeepDrop.scan_token_append s.keepDrop (heads_modifier hs hr)
  have hm := scanNumberIf_run_append (s.keepDrop != .all) hs.modifier
    (fun h => hs.modifier_eq_nil (by simpa using h))
    ((heads_explode hs hr).mono (q := fun c => c.isDigit = false) (by
      rintro c (rfl | rfl | h)
      · decide
      · decide
      · exact h.not_term.1))
  have he := scanExplode_token_append s.explode ((heads_reroll hs hr).mono (q := (· ≠ .char '!')) (by
    rintro c (rfl | h)
    · decide
    · exact h.not_term.2.2.2.1))
  have hx := Reroll.scan_token_append s.reroll (heads_threshold hs hr)
  have ht := scanNumberIf_run_append (s.reroll != .never) hs.threshold
    (fun h => hs.threshold_eq_nil (by simpa using h)) (hr.mono fun _ h => h.not_term.1)
  simp only [scanModifiers, suffix, List.append_assoc, hk, hm, he, hx, ht]

omit hs hr

theorem wellSpelled_scanModifiers {count faces : Text} (hc : ∀ c ∈ count, c.isDigit)
    (hf : ∀ c ∈ faces, c.isDigit) (hf' : faces ≠ []) (t : Text) :
    (scanModifiers count faces t).1.WellSpelled where
  count := hc
  faces := hf
  faces_ne_nil := hf'
  modifier _ := isDigit_of_mem_scanNumberIf
  modifier_eq_nil h := by
    simp only [scanModifiers] at h ⊢
    rw [h]
    rfl
  threshold _ := isDigit_of_mem_scanNumberIf
  threshold_eq_nil h := by
    simp only [scanModifiers] at h ⊢
    rw [h]
    rfl

end DiceSpelling

/-! ## Terms -/

namespace TermSpelling

/-- What is read is well spelled. -/
theorem wellSpelled_of_scan? {t rest : Text} {s : TermSpelling} (h : scan? t = some (s, rest)) :
    s.WellSpelled := by
  have hd : ∀ (t : Text), ∀ c ∈ (Numeral.splitDigits t).1, c.isDigit :=
    fun t => List.all_eq_true.1 List.all_takeWhile
  have hi : ∀ {digits after : Text}, (∀ c ∈ digits, c.isDigit) →
      scanInteger? digits after = some (s, rest) → s.WellSpelled := fun hd h => by
    obtain ⟨hne, rfl, -⟩ := eq_of_scanInteger? h
    exact ⟨hne, hd⟩
  simp only [scan?] at h
  split at h
  · split at h
    · exact hi (hd _) h
    · rename_i hne
      cases h
      exact DiceSpelling.wellSpelled_scanModifiers (hd _) (hd _) (by simpa using hne) _
  · exact hi (hd _) h

/-- A well spelled term is read back whole from in front of what ends it. -/
theorem scan?_text_append {s : TermSpelling} (hs : s.WellSpelled) {rest : Text}
    (hr : rest.EndsTerm) : scan? (s.text ++ rest) = some (s, rest) := by
  cases s with
  | integer digits =>
    obtain ⟨hne, hd⟩ := hs
    have hsplit := splitDigits_run_append hd (hr.mono fun _ h => h.not_term.1)
    have hint : scanInteger? digits rest = some (integer digits, rest) := by
      rw [scanInteger?, if_neg (by simpa using hne)]
    simp only [text, scan?, hsplit]
    split
    · exact absurd rfl (hr _ rfl).not_term.2.1
    · exact hint
  | dice s =>
    have hs : s.WellSpelled := hs
    have hcount : Numeral.splitDigits (s.text ++ rest)
        = (s.count, .char 'd' :: (s.faces ++ (s.suffix ++ rest))) := by
      rw [DiceSpelling.text_eq, List.append_assoc, List.cons_append, List.append_assoc]
      exact splitDigits_run_append hs.count (.cons (by decide))
    have hfaces := splitDigits_run_append hs.faces (DiceSpelling.heads_suffix hs hr)
    have hne : s.faces.isEmpty = false := by simpa using hs.faces_ne_nil
    simp only [text, scan?, hcount, hfaces, hne, Bool.false_eq_true, if_false,
      DiceSpelling.scanModifiers_suffix_append hs hr]

/-- A well spelled term begins with a digit or with the mark of dice. -/
theorem heads_text {s : TermSpelling} (hs : s.WellSpelled) (rest : Text) :
    s.text ≠ [] ∧ (s.text ++ rest).Heads fun c => c.isDigit ∨ c = .char 'd' := by
  cases s with
  | integer digits =>
    obtain ⟨hne, hd⟩ := hs
    refine ⟨hne, ?_⟩
    cases digits with
    | nil => exact absurd rfl hne
    | cons c digits => exact .cons (.inl (hd c List.mem_cons_self))
  | dice s =>
    simp only [text, DiceSpelling.text_eq]
    refine ⟨by simp, ?_⟩
    rw [List.append_assoc]
    exact .append (fun c hc => .inl (DiceSpelling.WellSpelled.count hs c hc)) (.cons (.inr rfl))

end TermSpelling

end Tabletop
