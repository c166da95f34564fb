import Tabletop.Proofs.Dice.Trace
import Tabletop.Proofs.Evaluation.Outcomes
import Tabletop.Proofs.Notation.Reading

/-!
# What is read can be evaluated

A line that is read has a result for every source whose draws are in the range
of their dice, unless the draws end (`evaluateLine_of_parse`). The two other
faults are ruled out for each operand by itself:

* `trace_of_becomes`: its numbers are not too long, since those of the line are
  not (`writable_of_parse`) and a draw is at most the faces of its die;
* `value_ne_zero_of_becomes`: behind a division it does not become zero.
-/

namespace Tabletop

/-- A value that the die has. -/
def Draw.InRange (d : Draw) : Prop := 1 ≤ d.value ∧ d.value ≤ d.faces

instance (d : Draw) : Decidable d.InRange := inferInstanceAs (Decidable (_ ∧ _))

/-! ## Numbers that can be written -/

/-- A number, or dice with a highest face, that is not too long to write. -/
def Operand.Writable : Operand → Prop
  | literal n => Numeral.Writable n
  | dice term => Numeral.Writable term.faces

theorem TermSpelling.Short.writable {s : TermSpelling} (h : s.Short) : s.tree.Writable := by
  cases s with
  | integer digits => exact Numeral.writable_value h
  | dice s => exact Numeral.writable_value h.faces

theorem writable_of_parse {line : Text} {e : Expression} (h : Expression.parse line = .ok e) :
    ∀ x ∈ e.operands, x.Writable := by
  obtain ⟨d, -, hs, -, rfl, -⟩ := parse_eq_ok_iff_short.1 h
  simp only [LineSpelling.terms, List.forall_mem_cons, List.forall_mem_map] at hs
  simp only [Expression.operands, LineSpelling.tree, List.map_map, List.forall_mem_cons,
    List.forall_mem_map]
  exact ⟨hs.1.writable, fun l hl => (hs.2 l hl).writable⟩

/-! ## One operand -/

theorem inRange_of_heldDraws {term : DiceTerm} {dice : List Die}
    (hd : ∀ d ∈ (Roll.ofDice term dice).heldDraws, d.InRange) :
    ∀ v ∈ dice.flatMap Die.draws, 1 ≤ v ∧ v ≤ term.faces := by
  rw [Roll.ofDice_heldDraws] at hd
  exact fun v hv => hd ⟨term.faces, v⟩ (List.mem_map_of_mem hv)

/-- The draws of dice are not too long to write when the highest face is not. -/
theorem writable_draws {term : DiceTerm} {dice : List Die} (hw : Numeral.Writable term.faces)
    (hd : ∀ d ∈ (Roll.ofDice term dice).heldDraws, d.InRange) :
    ∀ v ∈ dice.flatMap Die.draws, Numeral.Writable v := fun v hv => by
  obtain ⟨h₁, h₂⟩ := inRange_of_heldDraws hd v hv
  exact hw.mono (by omega)

section Becomes

variable {x : Operand} {part : Part} (h : x.Becomes part) (hd : ∀ d ∈ part.draws, d.InRange)
include h hd

/-- The numbers of a part are not too long when those of its operand are not. -/
theorem trace_of_becomes (hw : x.Writable) : ∃ text, part.trace Roll.trace = .ok text := by
  cases h with
  | number n => exact ⟨_, Numeral.write_eq_ok_iff.2 ⟨hw, rfl⟩⟩
  | @roll term dice hr =>
    have hdraws := writable_draws hw hd
    have hraw : ∀ v ∈ (Roll.ofDice term dice).raw, Numeral.Writable v := fun v hv =>
      hdraws v (Roll.mem_draws_of_mem_raw hv)
    have hfinal : ∀ v ∈ (Roll.ofDice term dice).final, Numeral.Writable v := fun v hv =>
      hdraws v (Roll.mem_draws_of_mem_final hv)
    exact ⟨_, Roll.trace_eq_ok_iff.2 ⟨hraw, fun _ => hfinal, rfl⟩⟩

/-- An operand that keeps the rules, and that may stand behind a division, does not become zero. -/
theorem value_ne_zero_of_becomes (hv : x.Valid) (hz : ¬ x.CanTotalZero) : part.value ≠ 0 := by
  cases h with
  | number n => exact hz
  | @roll term dice hr =>
    have := one_le_total hv hz hr fun v hm => (inRange_of_heldDraws hd v hm).1
    show (Roll.ofDice term dice).total ≠ 0
    omega

end Becomes

theorem not_refused_of_becomes {x : Operand} {part : Part} (h : x.Becomes part)
    (hd : ∀ d ∈ part.draws, d.InRange) (hw : x.Writable) (hv : x.Valid) {o : Option Operator}
    (hz : o = some .divide → ¬ x.CanTotalZero) (fault : RollFault) : ¬ part.Refused o fault := by
  rintro (hzero | hf)
  · exact value_ne_zero_of_becomes h hd hv (hz rfl) hzero
  · obtain ⟨text, ht⟩ := trace_of_becomes h hd hw
    rw [ht] at hf
    cases hf

/-! ## Expressions -/

theorem Expression.Valid.of_mem_slots {e : Expression} (h : e.Valid)
    {slot : Option Operator × Operand} (hs : slot ∈ e.slots) :
    slot.2 ∈ e.operands ∧ slot.2.Valid ∧ (slot.1 = some .divide → ¬ slot.2.CanTotalZero) := by
  rw [slots, List.mem_cons, List.mem_map] at hs
  rcases hs with rfl | ⟨⟨o, x⟩, hl, rfl⟩
  · have hm : e.first ∈ e.operands := List.mem_cons_self
    exact ⟨hm, h.operands _ hm, fun h => by cases h⟩
  · have hm : x ∈ e.operands := List.mem_cons_of_mem _ (List.mem_map_of_mem hl)
    exact ⟨hm, h.operands _ hm, fun ho => h.divisors _ hl (Option.some.inj ho)⟩

/-- An expression that keeps the rules fails only where the draws end, if they are in range. -/
theorem isEnd_of_evaluate_error {line : Text} {e : Expression} {s : Source} {ds : List Draw}
    {fault : RollFault} (hv : e.Valid) (hw : ∀ x ∈ e.operands, x.Writable)
    (h : e.evaluate line s = .error fault (s.after ds)) (hd : ∀ d ∈ ds, d.InRange) :
    fault.IsEnd (s.after ds) := by
  obtain ⟨ds', hs, hf⟩ := (outcomes_evaluate line e).error h
  obtain rfl := Source.after_inj hs
  refine hf.resolve_right ?_
  rintro ⟨slot, hs, part, hb, href, hsub⟩
  obtain ⟨hm, hv, hz⟩ := hv.of_mem_slots hs
  exact not_refused_of_becomes hb (fun d hm => hd d (hsub hm)) (hw _ hm) hv hz fault href

/-! ## Lines -/

/-- The draws that a source has given by the time a computation is over. -/
def drawsTaken {ε α : Type} (s : Source) : EStateM.Result ε Source α → List Draw
  | .ok _ s' | .error _ s' => s'.drawn.toList.drop s.drawn.size

theorem drop_after (s : Source) (ds : List Draw) :
    (s.after ds).drawn.toList.drop s.drawn.size = ds := by
  rw [Source.after, Array.toList_appendList, ← Array.length_toList, List.drop_left]

/-- What is read can be evaluated: a line that is read as an expression has a result, or the source
gives no more draws, whatever the draws are as long as each is in the range of its die. -/
theorem evaluateLine_of_parse {line : Text} {e : Expression} (hp : Expression.parse line = .ok e)
    {s : Source} (hd : ∀ d ∈ drawsTaken s (evaluateLine line s), d.InRange) :
    (∃ r s', evaluateLine line s = .ok r s') ∨
    ∃ fault s', evaluateLine line s = .error (.roll fault) s' ∧ fault.IsEnd s' := by
  rw [evaluateLine, hp] at hd ⊢
  dsimp only at hd ⊢
  cases he : e.evaluate line.strip s with
  | ok r s' => exact .inl ⟨r, s', rfl⟩
  | error fault s' =>
    obtain ⟨ds, rfl, hf⟩ := (outcomes_evaluate line.strip e).error he
    rw [he] at hd
    dsimp only [drawsTaken] at hd
    rw [drop_after] at hd
    refine .inr ⟨fault, _, rfl, hf.resolve_right ?_⟩
    rintro ⟨slot, hs, part, hb, href, hsub⟩
    obtain ⟨hm, hv, hz⟩ := (valid_of_parse hp).of_mem_slots hs
    exact not_refused_of_becomes hb (fun d hm => hd d (hsub hm)) (writable_of_parse hp _ hm) hv hz
      fault href

/-- A division by dice of which one is rerolled and the lower one is dropped. -/
theorem evaluateLine_of_dice_divisor :
    Expression.parse "9 / 2d4dlr" = .ok {
      first := .literal 9
      tail := [(.divide, .dice {
        count := 2, faces := 4, keepDrop := .dropLow, reroll := .once, source := "2d4dlr" })] } ∧
    (∀ d ∈ drawsTaken (.ofScript [2, 1, 3]) (evaluateLine "9 / 2d4dlr" (.ofScript [2, 1, 3])),
      d.InRange) ∧
    ((∃ r s', evaluateLine "9 / 2d4dlr" (.ofScript [2, 1, 3]) = .ok r s') ∨
      ∃ fault s', evaluateLine "9 / 2d4dlr" (.ofScript [2, 1, 3]) = .error (.roll fault) s' ∧
        fault.IsEnd s') := by
  have hp : Expression.parse "9 / 2d4dlr" = .ok {
      first := .literal 9
      tail := [(.divide, .dice {
        count := 2, faces := 4, keepDrop := .dropLow, reroll := .once, source := "2d4dlr" })] } := by
    cbv
  have ht : drawsTaken (.ofScript [2, 1, 3]) (evaluateLine "9 / 2d4dlr" (.ofScript [2, 1, 3]))
      = drawsOf 4 [2, 1, 3] := by
    cbv
  have hd : ∀ d ∈ drawsOf 4 [2, 1, 3], d.InRange := by decide
  rw [← ht] at hd
  exact ⟨hp, hd, evaluateLine_of_parse hp hd⟩

end Tabletop
