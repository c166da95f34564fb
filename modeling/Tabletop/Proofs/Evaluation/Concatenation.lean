import Tabletop.Proofs.Evaluation.Safety
import Tabletop.Proofs.Notation.Concatenation

/-!
# Two lines evaluated as one

An expression behind another one is rolled with the draws that the first one
leaves (`evaluate_concat_eq_ok_iff`): its steps go on from the tally of the
first (`Tally.steps_append`), and a single operand adds to a tally what it would
have come to alone (`Tally.step_eq_ok_iff`). The one new fault is a division by
zero (`Tally.step_eq_error`), which draws in range rule out.

* `evaluateLine_concat`: lines with an operator between them, read and rolled.
-/

namespace Tabletop

variable {s s' : Source} {line : Text}

/-! ## Tallies -/

theorem writing_eq_ok_iff {text : Except Numeral.Fault Text} {t : Text} :
    writing text s = .ok t s' ↔ text = .ok t ∧ s = s' := by
  cases text with
  | ok t₀ =>
    rw [writing, rolling_pure_eq_ok_iff, Except.ok.injEq]
  | error fault =>
    constructor
    · intro h
      cases h
    · rintro ⟨h, -⟩
      cases h

namespace Tally

theorem steps_append (t : Tally) (links links' : List (Operator × Operand)) :
    t.steps (links ++ links') = (do
      let t' ← t.steps links
      t'.steps links') := by
  induction links generalizing t with
  | nil => rfl
  | cons link links ih =>
    rw [List.cons_append, steps, steps, bind_assoc]
    exact congrArg _ (funext ih)

variable {t t₁ t' : Tally} {o : Operator} {x : Operand}

theorem start_eq_ok_iff : start x s = .ok t s' ↔ ∃ part,
    x.roll s = .ok (part, t.total) s' ∧ part.trace Roll.trace = .ok t.detail ∧
      t.rolls = part.rolls := by
  simp only [start, rolling_bind_eq_ok_iff, writing_eq_ok_iff, rolling_pure_eq_ok_iff]
  constructor
  · rintro ⟨⟨part, total⟩, s₁, hx, text, s₂, ⟨ht, rfl⟩, rfl, rfl⟩
    exact ⟨part, hx, ht, rfl⟩
  · rintro ⟨part, hx, ht, hr⟩
    refine ⟨(part, t.total), s', hx, t.detail, s', ⟨ht, rfl⟩, ?_, rfl⟩
    rw [← hr]

/-- A step adds to a tally what its operand comes to alone. -/
theorem step_eq_ok_iff : t.step (o, x) s = .ok t' s' ↔ ∃ t₁, start x s = .ok t₁ s' ∧
    o.apply t.total t₁.total = some t'.total ∧ t'.rolls = t.rolls ++ t₁.rolls ∧
      t'.detail = t.detail ++ o.spaced ++ t₁.detail := by
  simp only [step, rolling_bind_eq_ok_iff, start_eq_ok_iff]
  constructor
  · rintro ⟨⟨part, value⟩, s₁, hx, h⟩
    dsimp only at h
    cases ha : o.apply t.total value with
    | none =>
      rw [ha] at h
      cases h
    | some total =>
      rw [ha] at h
      simp only [rolling_bind_eq_ok_iff, writing_eq_ok_iff, rolling_pure_eq_ok_iff] at h
      obtain ⟨text, s₂, ⟨ht, rfl⟩, rfl, rfl⟩ := h
      exact ⟨⟨part.rolls, value, text⟩, ⟨part, hx, ht, rfl⟩, ha, rfl, rfl⟩
  · rintro ⟨t₁, ⟨part, hx, ht, hr⟩, ha, hrolls, hdetail⟩
    refine ⟨(part, t₁.total), s', hx, ?_⟩
    dsimp only
    rw [ha]
    simp only [rolling_bind_eq_ok_iff, writing_eq_ok_iff, rolling_pure_eq_ok_iff]
    refine ⟨t₁.detail, s', ⟨ht, rfl⟩, ?_, rfl⟩
    rw [← hr, ← hrolls, ← hdetail]

/-- A step divides by zero if its operand comes to zero alone. -/
theorem step_eq_error (hx : start x s = .ok t₁ s') (ha : o.apply t.total t₁.total = none) :
    t.step (o, x) s = .error .divisionByZero s' := by
  obtain ⟨part, hx, -, -⟩ := start_eq_ok_iff.1 hx
  refine rolling_bind_eq_error_iff.2 (.inr ⟨(part, t₁.total), s', hx, ?_⟩)
  dsimp only
  rw [ha]
  rfl

/-- The result that a tally comes to. -/
def result (t : Tally) (line : Text) (e : Expression) : Result :=
  { expression := line, rolls := t.rolls, total := t.total, detail := t.detail, parsed := some e }

end Tally

/-! ## Expressions -/

namespace Expression

/-- What an expression comes to, first operand and steps. -/
def tally (e : Expression) : Rolling Tally := do
  let first ← Tally.start e.first
  first.steps e.tail

variable {e e' : Expression} {o : Operator}

theorem evaluate_eq (line : Text) (e : Expression) :
    e.evaluate line = (do
      let t ← e.tally
      pure (t.result line e)) := by
  rw [evaluate, tally, bind_assoc]
  rfl

theorem evaluate_eq_ok_iff {r : Result} :
    e.evaluate line s = .ok r s' ↔ ∃ t, e.tally s = .ok t s' ∧ t.result line e = r := by
  simp only [evaluate_eq, rolling_bind_eq_ok_iff, rolling_pure_eq_ok_iff]
  constructor
  · rintro ⟨t, s₁, ht, hr, rfl⟩
    exact ⟨t, ht, hr⟩
  · rintro ⟨t, ht, hr⟩
    exact ⟨t, s', ht, hr, rfl⟩

/-- An expression of one operand comes to what the operand comes to. -/
theorem tally_eq_start (h : e.tail = []) : e.tally = Tally.start e.first := by
  rw [tally, h]
  exact bind_pure _

/-- An expression with one more operand goes on with one more step. -/
theorem tally_concat (h : e'.tail = []) : (e.concat o e').tally = (do
    let t ← e.tally
    t.step (o, e'.first)) := by
  have hstep : ∀ t : Tally, t.steps [(o, e'.first)] = t.step (o, e'.first) := fun t => bind_pure _
  rw [tally, tally, bind_assoc]
  simp only [concat, h, Tally.steps_append, hstep]

theorem evaluate_concat_eq_ok_iff (h : e'.tail = []) {first second line : Text} {r : Result} :
    (e.concat o e').evaluate line s = .ok r s' ↔
      ∃ ra s₁ rb, e.evaluate first s = .ok ra s₁ ∧ e'.evaluate second s₁ = .ok rb s' ∧
        o.apply ra.total rb.total = some r.total ∧ r.rolls = ra.rolls ++ rb.rolls ∧
        r.detail = ra.detail ++ o.spaced ++ rb.detail ∧ r.expression = line ∧
        r.parsed = some (e.concat o e') := by
  simp only [evaluate_eq_ok_iff, tally_concat h, tally_eq_start h, rolling_bind_eq_ok_iff,
    Tally.step_eq_ok_iff]
  constructor
  · rintro ⟨t, ⟨ta, s₁, hta, tb, htb, ha, hr, hd⟩, rfl⟩
    exact ⟨_, s₁, _, ⟨ta, hta, rfl⟩, ⟨tb, htb, rfl⟩, ha, hr, hd, rfl, rfl⟩
  · rintro ⟨_, s₁, _, ⟨ta, hta, rfl⟩, ⟨tb, htb, rfl⟩, ha, hr, hd, he, hp⟩
    refine ⟨⟨r.rolls, r.total, r.detail⟩, ⟨ta, s₁, hta, tb, htb, ha, hr, hd⟩, ?_⟩
    rw [Tally.result, ← he, ← hp]

/-- A single operand that may stand behind a division, rolled with draws in range, does not come to
zero. -/
theorem total_ne_zero_of_evaluate (h : e'.tail = []) (hv : e'.first.Valid)
    (hz : ¬ e'.first.CanTotalZero) {r : Result} {ds : List Draw}
    (he : e'.evaluate line s = .ok r (s.after ds)) (hd : ∀ d ∈ ds, d.InRange) : r.total ≠ 0 := by
  obtain ⟨t, ht, rfl⟩ := evaluate_eq_ok_iff.1 he
  rw [tally_eq_start h] at ht
  obtain ⟨ds', hs, part, _, hb, -, rfl, rfl⟩ := (Tally.outcomes_start e'.first).ok ht
  rw [Source.after_inj hs] at hd
  exact value_ne_zero_of_becomes hb hd hv hz

/-- Two expressions that return one after the other return together, for draws in range: what could
fail is a division by zero, when all draws have been taken. -/
theorem exists_evaluate_concat (h : e'.tail = []) (hv : (e.concat o e').Valid)
    {first second line : Text} {ra rb : Result} {s₁ : Source}
    (ha : e.evaluate first s = .ok ra s₁) (hb : e'.evaluate second s₁ = .ok rb s')
    (hd : ∀ d ∈ drawsTaken s ((e.concat o e').evaluate line s), d.InRange) :
    ∃ r, (e.concat o e').evaluate line s = .ok r s' := by
  cases hap : o.apply ra.total rb.total with
  | some total =>
    exact ⟨⟨_, ra.rolls ++ rb.rolls, total, ra.detail ++ o.spaced ++ rb.detail, _⟩,
      (evaluate_concat_eq_ok_iff h).2 ⟨ra, s₁, rb, ha, hb, hap, rfl, rfl, rfl, rfl⟩⟩
  | none =>
    exfalso
    obtain ⟨rfl, hzero⟩ := Operator.apply_eq_none_iff.1 hap
    have herror : (e.concat .divide e').evaluate line s = .error .divisionByZero s' := by
      obtain ⟨ta, hta, rfl⟩ := evaluate_eq_ok_iff.1 ha
      obtain ⟨tb, htb, rfl⟩ := evaluate_eq_ok_iff.1 hb
      rw [tally_eq_start h] at htb
      rw [evaluate_eq, tally_concat h]
      exact rolling_bind_eq_error_iff.2 (.inl (rolling_bind_eq_error_iff.2
        (.inr ⟨ta, s₁, hta, Tally.step_eq_error htb hap⟩)))
    obtain ⟨da, rfl, -⟩ := (outcomes_evaluate first e).ok ha
    obtain ⟨db, rfl, -⟩ := (outcomes_evaluate second e').ok hb
    rw [herror, Source.after_after, drawsTaken, drop_after] at hd
    have hlink : (Operator.divide, e'.first) ∈ (e.concat .divide e').tail :=
      List.mem_append_right _ List.mem_cons_self
    exact total_ne_zero_of_evaluate h (hv.operands _ (List.mem_cons_of_mem _
      (List.mem_map_of_mem hlink))) (hv.divisors _ hlink rfl) hb
      (fun d hm => hd d (List.mem_append_right _ hm)) hzero

end Expression

/-! ## Lines -/

theorem evaluateLine_eq_ok_iff_of_parse {e : Expression} (hp : Expression.parse line = .ok e)
    {r : Result} : evaluateLine line s = .ok r s' ↔ e.evaluate line.strip s = .ok r s' := by
  simp only [evaluateLine_eq_ok_iff, hp, Except.ok.injEq, exists_eq_left']

theorem drawsTaken_evaluateLine {e : Expression} (hp : Expression.parse line = .ok e) :
    drawsTaken s (evaluateLine line s) = drawsTaken s (e.evaluate line.strip s) := by
  rw [evaluateLine, hp]
  dsimp only
  cases e.evaluate line.strip s <;> rfl

/-- A line that is read as two expressions, the second of one operand, is rolled as the lines of the
two are rolled one after the other. -/
theorem evaluateLine_of_parse_concat {a b : Text} {e e' : Expression} {o : Operator}
    (ha : Expression.parse a = .ok e) (hb : Expression.parse b = .ok e')
    (hp : Expression.parse line = .ok (e.concat o e')) (ht : e'.tail = [])
    (hd : ∀ d ∈ drawsTaken s (evaluateLine line s), d.InRange) :
    ((∃ r s', evaluateLine line s = .ok r s') ↔
      ∃ ra s₁ rb s', evaluateLine a s = .ok ra s₁ ∧ evaluateLine b s₁ = .ok rb s') ∧
    ∀ r s', evaluateLine line s = .ok r s' →
      ∃ ra s₁ rb, evaluateLine a s = .ok ra s₁ ∧ evaluateLine b s₁ = .ok rb s' ∧
        o.apply ra.total rb.total = some r.total ∧ r.rolls = ra.rolls ++ rb.rolls ∧
        r.detail = ra.detail ++ o.spaced ++ rb.detail := by
  rw [drawsTaken_evaluateLine hp] at hd
  simp only [evaluateLine_eq_ok_iff_of_parse hp, evaluateLine_eq_ok_iff_of_parse ha,
    evaluateLine_eq_ok_iff_of_parse hb]
  have hsplit : ∀ r s', (e.concat o e').evaluate line.strip s = .ok r s' →
      ∃ ra s₁ rb, e.evaluate a.strip s = .ok ra s₁ ∧ e'.evaluate b.strip s₁ = .ok rb s' ∧
        o.apply ra.total rb.total = some r.total ∧ r.rolls = ra.rolls ++ rb.rolls ∧
        r.detail = ra.detail ++ o.spaced ++ rb.detail := by
    intro r s' h
    obtain ⟨ra, s₁, rb, hra, hrb, hap, hr, hdetail, -⟩ :=
      (Expression.evaluate_concat_eq_ok_iff ht).1 h
    exact ⟨ra, s₁, rb, hra, hrb, hap, hr, hdetail⟩
  refine ⟨⟨?_, ?_⟩, hsplit⟩
  · rintro ⟨r, s', h⟩
    obtain ⟨ra, s₁, rb, hra, hrb, -⟩ := hsplit r s' h
    exact ⟨ra, s₁, rb, s', hra, hrb⟩
  · rintro ⟨ra, s₁, rb, s', hra, hrb⟩
    obtain ⟨r, h⟩ := Expression.exists_evaluate_concat ht (valid_of_parse hp) hra hrb hd
    exact ⟨r, s', h⟩

/-- Two lines with an operator between them, which gaps may surround. The whole line is refused as a
division by zero if it divides by an operand that can total zero, and is read as both expressions
otherwise. When the second line is a single term, the whole line returns, for draws in range, exactly
if the first line does and the second one does with the draws that the first one leaves; its totals
are combined, and its rolls and its trace are those of the two in order. -/
theorem evaluateLine_concat {a b : Text} {e e' : Expression} (ha : Expression.parse a = .ok e)
    (hsa : a.strip = a) (hb : Expression.parse b = .ok e') (hsb : b.strip = b) (o : Operator)
    {before after : Text} (hbefore : ∀ c ∈ before, c.isGap) (hafter : ∀ c ∈ after, c.isGap)
    {line : Text} (hline : line = a ++ before ++ [o.symbol] ++ after ++ b) :
    (o = .divide ∧ e'.first.CanTotalZero → ∃ fault : NotationFault,
      Expression.parse line = .error (.refused fault) ∧ fault.cause.IsZeroDivision) ∧
    (¬ (o = .divide ∧ e'.first.CanTotalZero) → Expression.parse line =
      .ok { first := e.first, tail := e.tail ++ [(o, e'.first)] ++ e'.tail }) ∧
    (e'.tail = [] → (∃ whole, Expression.parse line = .ok whole) →
      ∀ s, (∀ d ∈ drawsTaken s (evaluateLine line s), d.InRange) →
        ((∃ r s', evaluateLine line s = .ok r s') ↔
          ∃ ra s₁ rb s', evaluateLine a s = .ok ra s₁ ∧ evaluateLine b s₁ = .ok rb s') ∧
        ∀ r s', evaluateLine line s = .ok r s' →
          ∃ ra s₁ rb, evaluateLine a s = .ok ra s₁ ∧ evaluateLine b s₁ = .ok rb s' ∧
            o.apply ra.total rb.total = some r.total ∧ r.rolls = ra.rolls ++ rb.rolls ∧
            r.detail = ra.detail ++ o.spaced ++ rb.detail) := by
  obtain rfl : line = a ++ o.withGaps before after ++ b := by
    simpa only [Operator.withGaps, List.append_assoc, List.cons_append, List.nil_append] using hline
  have hzero : o = .divide ∧ e'.first.CanTotalZero → ∃ fault : NotationFault,
      Expression.parse (a ++ o.withGaps before after ++ b) = .error (.refused fault) ∧
        fault.cause.IsZeroDivision := by
    rintro ⟨rfl, hz⟩
    obtain ⟨cause, fragment, hp, hc⟩ :=
      parse_concat_of_canTotalZero ha hsa hb hsb hbefore hafter hz
    exact ⟨_, hp, hc⟩
  have hboth : ¬ (o = .divide ∧ e'.first.CanTotalZero) →
      Expression.parse (a ++ o.withGaps before after ++ b) = .ok (e.concat o e') := fun hz =>
    parse_concat ha hsa hb hsb hbefore hafter o (not_and.1 hz)
  refine ⟨hzero, fun hz => ?_, fun ht hwhole s hd => ?_⟩
  · rw [hboth hz, Expression.concat, List.append_assoc, List.singleton_append]
  · have hp : Expression.parse (a ++ o.withGaps before after ++ b) = .ok (e.concat o e') := by
      refine hboth fun hz => ?_
      obtain ⟨whole, hw⟩ := hwhole
      obtain ⟨fault, hf, -⟩ := hzero hz
      rw [hw] at hf
      cases hf
    exact evaluateLine_of_parse_concat ha hb hp ht hd

/-- A negative total behind a selection, divided by an exploding die with gaps of three kinds. -/
theorem evaluateLine_concat_of_dice_divisor :
    Expression.parse "5-2D6kh \t/\nd4!" = .ok {
      first := .literal 5
      tail := [(.subtract, .dice {
          count := 2, faces := 6, keepDrop := .keepHigh, source := "2d6kh" }),
        (.divide, .dice { faces := 4, explode := true, source := "d4!" })] } ∧
    ∃ r s' ra s₁ rb, evaluateLine "5-2D6kh \t/\nd4!" (.ofScript [3, 6, 4, 1]) = .ok r s' ∧
      r.total = -1 ∧ r.detail = "5 - [3,6]→[6] / [4,1]" ∧
      evaluateLine "5-2D6kh" (.ofScript [3, 6, 4, 1]) = .ok ra s₁ ∧
      evaluateLine "d4!" s₁ = .ok rb s' ∧ Operator.divide.apply ra.total rb.total = some r.total ∧
      r.rolls = ra.rolls ++ rb.rolls ∧
      r.detail = ra.detail ++ Operator.divide.spaced ++ rb.detail := by
  have ha : Expression.parse "5-2D6kh" = .ok {
      first := .literal 5
      tail := [(.subtract, .dice {
        count := 2, faces := 6, keepDrop := .keepHigh, source := "2d6kh" })] } := by
    cbv
  have hb : Expression.parse "d4!" = .ok {
      first := .dice { faces := 4, explode := true, source := "d4!" } } := by
    cbv
  have hbefore : ∀ c ∈ (" \t" : Text), c.isGap := by decide
  have hafter : ∀ c ∈ ("\n" : Text), c.isGap := by decide
  have hline : ("5-2D6kh \t/\nd4!" : Text)
      = "5-2D6kh" ++ " \t" ++ [Operator.divide.symbol] ++ "\n" ++ "d4!" := by
    decide
  obtain ⟨-, hboth, heval⟩ := evaluateLine_concat ha (by decide) hb (by decide) .divide hbefore
    hafter hline
  have hp := hboth (by decide)
  have ht : drawsTaken (.ofScript [3, 6, 4, 1])
      (evaluateLine "5-2D6kh \t/\nd4!" (.ofScript [3, 6, 4, 1]))
        = drawsOf 6 [3, 6] ++ drawsOf 4 [4, 1] := by
    cbv
  have hd : ∀ d ∈ drawsOf 6 [3, 6] ++ drawsOf 4 [4, 1], d.InRange := by decide
  rw [← ht] at hd
  have hr : ∃ r s', evaluateLine "5-2D6kh \t/\nd4!" (.ofScript [3, 6, 4, 1]) = .ok r s' ∧
      r.total = -1 ∧ r.detail = "5 - [3,6]→[6] / [4,1]" := by
    refine ⟨{
      expression := "5-2D6kh \t/\nd4!"
      rolls := [{ faces := 6, raw := [3, 6], final := [6], total := 6 },
        { faces := 4, raw := [4, 1], final := [4, 1], total := 5 }]
      total := -1
      detail := "5 - [3,6]→[6] / [4,1]"
      parsed := some {
        first := .literal 5
        tail := [(.subtract, .dice {
            count := 2, faces := 6, keepDrop := .keepHigh, source := "2d6kh" }),
          (.divide, .dice { faces := 4, explode := true, source := "d4!" })] } },
      (Source.ofScript [3, 6, 4, 1]).after (drawsOf 6 [3, 6] ++ drawsOf 4 [4, 1]), ?_, rfl, rfl⟩
    cbv
  obtain ⟨r, s', h, htotal, hdetail⟩ := hr
  obtain ⟨ra, s₁, rb, hra, hrb, hsum⟩ := (heval rfl ⟨_, hp⟩ _ hd).2 r s' h
  exact ⟨hp, r, s', ra, s₁, rb, h, htotal, hdetail, hra, hrb, hsum⟩

end Tabletop
