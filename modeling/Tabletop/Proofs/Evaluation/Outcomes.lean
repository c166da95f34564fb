import Mathlib
import Tabletop.Evaluation
import Tabletop.Proofs.Dice.Scripts
import Tabletop.Proofs.Dice.Selection

/-!
# What an evaluation comes to

Each operand becomes a part, a number or a roll (`Operand.Becomes`), with the
draws that the part itself tells of (`Part.draws`). `Tally.outcomes_step` says
all that one step may do, and by induction on the operators that are left
(`Tally.outcomes_steps`) `outcomes_evaluate` says it of an expression: it
returns with the parts of its operands, combined and written in their order
(`Evaluation`), or the draws end, or an operand behind a division became zero,
or a number in a part is too long to write.

* `draws_of_evaluate`: no draw is lost, taken twice or moved.
-/

namespace Tabletop

/-! ## Parts -/

namespace Part

/-- The number that a part counts for. -/
def value : Part → Int
  | number n => n
  | roll r => r.total

/-- The draws that a part tells of. -/
def draws : Part → List Draw
  | number _ => []
  | roll r => r.heldDraws

end Part

/-- What an operand may become: a number is itself, and dice are rolled. -/
inductive Operand.Becomes : Operand → Part → Prop where
  | number (n : Int) : Becomes (.literal n) (.number n)
  | roll {term : DiceTerm} {dice : List Die} (h : RolledDice term dice) :
    Becomes (.dice term) (.roll (Roll.ofDice term dice))

theorem Operand.draws_roll (x : Operand) :
    Draws x.roll fun a ds =>
      ∃ part, x.Becomes part ∧ a = (part, part.value) ∧ ds = part.draws := by
  cases x with
  | literal n =>
    refine (Draws.pure (Part.number n, n)).mono ?_
    rintro _ _ ⟨rfl, rfl⟩
    exact ⟨_, .number n, rfl, rfl⟩
  | dice term =>
    refine ((draws_rollTerm term).bind fun r _ _ => Draws.pure (Part.roll r, r.total)).mono ?_
    rintro _ _ ⟨_, _, _, ⟨dice, hd, rfl, rfl⟩, ⟨rfl, rfl⟩, rfl⟩
    refine ⟨_, .roll hd, rfl, ?_⟩
    rw [List.append_nil, Part.draws, Roll.ofDice_heldDraws]

section Becomes

variable {xs : List Operand} {parts : List Part} (h : List.Forall₂ Operand.Becomes xs parts)
include h

/-- The rolls of the parts find their places again. -/
theorem placeRolls_of_becomes : placeRolls xs (parts.flatMap Part.rolls) = some parts := by
  induction h with
  | nil => rfl
  | cons hx _ ih =>
    rw [List.flatMap_cons]
    cases hx with
    | number n => rw [Part.rolls, List.nil_append, placeRolls, ih, Option.map_some]
    | roll hd => rw [Part.rolls, List.singleton_append, placeRolls, ih, Option.map_some]

/-- One roll for each dice term, in their order. -/
theorem rolls_of_becomes : List.Forall₂ (fun term roll => roll.faces = term.faces ∧
      ∃ dice, RolledDice term dice ∧ roll = Roll.ofDice term dice)
    (xs.filterMap Operand.dice?) (parts.flatMap Part.rolls) := by
  induction h with
  | nil => exact .nil
  | cons hx _ ih =>
    cases hx with
    | number n => exact ih
    | roll hd => exact .cons ⟨rfl, _, hd, rfl⟩ ih

end Becomes

theorem flatMap_draws_eq (parts : List Part) :
    parts.flatMap Part.draws = (parts.flatMap Part.rolls).flatMap Roll.heldDraws := by
  rw [List.flatMap_assoc]
  congr 1
  funext part
  cases part with
  | number n => rfl
  | roll r => exact (List.append_nil _).symm

/-! ## Steps -/

/-- A total combined with operators and their values in order, if no division is by zero. -/
def combine? (total : Int) : List (Operator × Int) → Option Int
  | [] => some total
  | (o, value) :: rest => (o.apply total value).bind fun total => combine? total rest

/-- The faults of a part behind an operator: a division by zero, and a number too long to write. -/
inductive Part.Refused (part : Part) : Option Operator → RollFault → Prop where
  | zero (h : part.value = 0) : Refused part (some .divide) .divisionByZero
  | writing {o : Option Operator} {fault : Numeral.Fault} (h : part.trace Roll.trace = .error fault) :
    Refused part o (.numeral fault)

theorem outcomes_writing (text : Except Numeral.Fault Text) :
    Outcomes (writing text) (fun t ds => text = .ok t ∧ ds = [])
      fun fault ds => ∃ f, text = .error f ∧ fault = .numeral f ∧ ds = [] := by
  cases text with
  | ok t =>
    refine Outcomes.mono (Draws.pure t) ?_ fun _ _ h => h.elim
    rintro _ _ ⟨rfl, rfl⟩
    exact ⟨rfl, rfl⟩
  | error f =>
    refine (Outcomes.throw (.numeral f)).mono (fun _ _ h => h.elim) ?_
    rintro _ _ ⟨rfl, rfl⟩
    exact ⟨f, rfl, rfl, rfl⟩

namespace Tally

/-- The first operand: its rolls, its value and its text. -/
theorem outcomes_start (x : Operand) :
    Outcomes (start x)
      (fun t ds => ∃ part text, x.Becomes part ∧ part.trace Roll.trace = .ok text ∧
        t = { rolls := part.rolls, total := part.value, detail := text } ∧ ds = part.draws)
      fun fault ds => ∃ part, x.Becomes part ∧ part.Refused none fault ∧ ds = part.draws := by
  unfold start
  refine (Outcomes.bind x.draws_roll fun a _ _ =>
    Outcomes.bind (outcomes_writing (a.1.trace Roll.trace)) fun text _ _ =>
    Draws.pure (Tally.mk a.1.rolls a.2 text)).mono ?_ ?_
  · rintro _ _ ⟨_, _, _, ⟨part, hb, rfl, rfl⟩, ⟨text, _, _, ⟨ht, rfl⟩, ⟨rfl, rfl⟩, rfl⟩, rfl⟩
    exact ⟨part, text, hb, ht, rfl, List.append_nil _⟩
  · rintro fault _ (h | ⟨_, _, _, ⟨part, hb, rfl, rfl⟩, ⟨f, hf, rfl, rfl⟩ | ⟨_, _, _, _, h, _⟩, rfl⟩)
    · exact h.elim
    · exact ⟨part, hb, .writing hf, List.append_nil _⟩
    · exact h.elim

/-- A tally behind one more operator whose operand became a part. -/
structure Step (t : Tally) (o : Operator) (part : Part) (t' : Tally) : Prop where
  rolls : t'.rolls = t.rolls ++ part.rolls
  total : o.apply t.total part.value = some t'.total
  detail : ∃ text, part.trace Roll.trace = .ok text ∧ t'.detail = t.detail ++ o.spaced ++ text

/-- An operator with its operand, which is combined first and then written. -/
theorem outcomes_step (t : Tally) (o : Operator) (x : Operand) :
    Outcomes (t.step (o, x))
      (fun t' ds => ∃ part, x.Becomes part ∧ t.Step o part t' ∧ ds = part.draws)
      fun fault ds => ∃ part, x.Becomes part ∧ part.Refused (some o) fault ∧ ds = part.draws := by
  unfold step
  refine (Outcomes.bind x.draws_roll (r := fun a t' ds => t.Step o a.1 t' ∧ ds = [])
    (g := fun a fault ds => a.1.Refused (some o) fault ∧ ds = []) ?_).mono ?_ ?_
  · rintro _ _ ⟨part, -, rfl, -⟩
    dsimp only
    cases ha : o.apply t.total part.value with
    | none =>
      obtain ⟨rfl, hv⟩ := Operator.apply_eq_none_iff.1 ha
      refine (Outcomes.throw .divisionByZero).mono (fun _ _ h => h.elim) ?_
      rintro _ _ ⟨rfl, rfl⟩
      exact ⟨.zero hv, rfl⟩
    | some total =>
      refine (Outcomes.bind (outcomes_writing (part.trace Roll.trace)) fun text _ _ =>
        Draws.pure (Tally.mk _ total _)).mono ?_ ?_
      · rintro _ _ ⟨text, _, _, ⟨ht, rfl⟩, ⟨rfl, rfl⟩, rfl⟩
        exact ⟨⟨rfl, ha, text, ht, rfl⟩, rfl⟩
      · rintro _ _ (⟨f, hf, rfl, rfl⟩ | ⟨_, _, _, _, h, _⟩)
        · exact ⟨.writing hf, rfl⟩
        · exact h.elim
  · rintro _ _ ⟨_, _, _, ⟨part, hb, rfl, rfl⟩, ⟨hs, rfl⟩, rfl⟩
    exact ⟨part, hb, hs, List.append_nil _⟩
  · rintro fault _ (h | ⟨_, _, _, ⟨part, hb, rfl, rfl⟩, ⟨hf, rfl⟩, rfl⟩)
    · exact h.elim
    · exact ⟨part, hb, hf, List.append_nil _⟩

/-- A tally behind some operators whose operands became some parts. -/
structure Behind (t : Tally) (links : List (Operator × Operand)) (parts : List Part) (t' : Tally) :
    Prop where
  becomes : List.Forall₂ Operand.Becomes (links.map Prod.snd) parts
  rolls : t'.rolls = t.rolls ++ parts.flatMap Part.rolls
  total : combine? t.total ((links.map Prod.fst).zip (parts.map Part.value)) = some t'.total
  detail : ∃ texts, traceParts Roll.trace parts = .ok texts ∧
    t'.detail = joinTerms t.detail ((links.map Prod.fst).zip texts)

theorem Behind.nil (t : Tally) : t.Behind [] [] t where
  becomes := .nil
  rolls := (List.append_nil _).symm
  total := rfl
  detail := ⟨[], rfl, (List.append_nil _).symm⟩

theorem Behind.cons {t t₁ t' : Tally} {o : Operator} {x : Operand}
    {links : List (Operator × Operand)} {part : Part} {parts : List Part} (hb : x.Becomes part)
    (hs : t.Step o part t₁) (h : t₁.Behind links parts t') :
    t.Behind ((o, x) :: links) (part :: parts) t' where
  becomes := .cons hb h.becomes
  rolls := by rw [h.rolls, hs.rolls, List.flatMap_cons, List.append_assoc]
  total := by
    rw [List.map_cons, List.map_cons, List.zip_cons_cons, combine?, hs.total, Option.bind_some]
    exact h.total
  detail := by
    obtain ⟨text, ht, hd⟩ := hs.detail
    obtain ⟨texts, hts, hd'⟩ := h.detail
    refine ⟨text :: texts, ?_, ?_⟩
    · rw [traceParts, ht, hts]
      rfl
    · rw [hd', hd, List.map_cons, List.zip_cons_cons, joinTerms, joinTerms, List.flatMap_cons]
      simp only [List.append_assoc]

/-- By induction on the operators that are left, each taking one step. -/
theorem outcomes_steps (links : List (Operator × Operand)) (t : Tally) :
    Outcomes (t.steps links)
      (fun t' ds => ∃ parts, t.Behind links parts t' ∧ ds = parts.flatMap Part.draws)
      fun fault ds => ∃ link ∈ links, ∃ part, link.2.Becomes part ∧
        part.Refused (some link.1) fault ∧ part.draws ⊆ ds := by
  induction links generalizing t with
  | nil =>
    refine Outcomes.mono (Draws.pure t) ?_ fun _ _ h => h.elim
    rintro _ _ ⟨rfl, rfl⟩
    exact ⟨[], .nil _, rfl⟩
  | cons link links ih =>
    obtain ⟨o, x⟩ := link
    refine (Outcomes.bind (t.outcomes_step o x) fun t' _ _ => ih t').mono ?_ ?_
    · rintro t' _ ⟨_, _, _, ⟨part, hb, hs, rfl⟩, ⟨parts, h, rfl⟩, rfl⟩
      exact ⟨part :: parts, h.cons hb hs, (List.flatMap_cons ..).symm⟩
    · rintro fault _ (⟨part, hb, hf, rfl⟩ | ⟨_, ds₁, ds₂, -, ⟨link, hl, part, hb, hf, hd⟩, rfl⟩)
      · exact ⟨(o, x), List.mem_cons_self, part, hb, hf, fun _ h => h⟩
      · exact ⟨link, List.mem_cons_of_mem _ hl, part, hb, hf, List.subset_append_of_subset_right _ hd⟩

end Tally

/-! ## Expressions -/

namespace Expression

/-- The value of an expression whose operands count for some numbers. -/
def total? (e : Expression) (values : List Int) : Option Int :=
  combine? (values.headD 0) ((e.tail.map Prod.fst).zip values.tail)

/-- The operands with the operators before them; there is none before the first one. -/
def slots (e : Expression) : List (Option Operator × Operand) :=
  (none, e.first) :: e.tail.map fun (o, x) => (some o, x)

end Expression

theorem traceParts_eq_ok_iff {form : Roll → Except Numeral.Fault Text} {parts : List Part}
    {texts : List Text} : traceParts form parts = .ok texts ↔
      List.Forall₂ (fun part text => part.trace form = .ok text) parts texts := by
  induction parts generalizing texts with
  | nil => simp [traceParts, eq_comm]
  | cons part parts ih =>
    simp only [traceParts, except_bind_eq_ok_iff, ih, List.forall₂_cons_left_iff]
    constructor
    · rintro ⟨text, ht, texts', hts, h⟩
      exact ⟨text, texts', ht, hts, (Except.ok.inj h).symm⟩
    · rintro ⟨text, texts', ht, hts, rfl⟩
      exact ⟨text, ht, texts', hts, rfl⟩

/-- A result of an expression whose operands became some parts. -/
structure Evaluation (line : Text) (e : Expression) (parts : List Part) (r : Result) : Prop where
  becomes : List.Forall₂ Operand.Becomes e.operands parts
  expression : r.expression = line
  parsed : r.parsed = some e
  rolls : r.rolls = parts.flatMap Part.rolls
  total : e.total? (parts.map Part.value) = some r.total
  detail : e.trace? Roll.trace r.rolls = some (.ok r.detail)

theorem Evaluation.trace?_eq {line : Text} {e : Expression} {parts : List Part} {r : Result}
    (he : Evaluation line e parts r) (form : Roll → Except Numeral.Fault Text) :
    e.trace? form r.rolls = some (do
      let texts ← traceParts form parts
      .ok (joinTerms (texts.headD []) ((e.tail.map Prod.fst).zip texts.tail))) := by
  rw [he.rolls, Expression.trace?, placeRolls_of_becomes he.becomes, Option.map_some]

/-- An expression has one result for the parts that its operands became. -/
theorem Evaluation.unique {line : Text} {e : Expression} {parts : List Part} {r r' : Result}
    (h : Evaluation line e parts r) (h' : Evaluation line e parts r') : r = r' := by
  have he : r.expression = r'.expression := h.expression.trans h'.expression.symm
  have hr : r.rolls = r'.rolls := h.rolls.trans h'.rolls.symm
  have ht : r.total = r'.total := Option.some.inj (h.total.symm.trans h'.total)
  have hp : r.parsed = r'.parsed := h.parsed.trans h'.parsed.symm
  have hd : r.detail = r'.detail := by
    have := h.detail
    rw [hr, h'.detail] at this
    exact (Except.ok.inj (Option.some.inj this)).symm
  cases r
  cases r'
  rw [Result.mk.injEq]
  exact ⟨he, hr, ht, hd, hp⟩

/-- An expression returns with the parts that its operands became, or its draws end, or one of the
parts is refused. -/
theorem outcomes_evaluate (line : Text) (e : Expression) :
    Outcomes (e.evaluate line)
      (fun r ds => ∃ parts, Evaluation line e parts r ∧ ds = parts.flatMap Part.draws)
      fun fault ds => ∃ slot ∈ e.slots, ∃ part, slot.2.Becomes part ∧
        part.Refused slot.1 fault ∧ part.draws ⊆ ds := by
  unfold Expression.evaluate
  refine (Outcomes.bind (Tally.outcomes_start e.first) fun first _ _ =>
    Outcomes.bind (first.outcomes_steps e.tail) fun tally _ _ =>
    Draws.pure (Result.mk line tally.rolls tally.total tally.detail (some e))).mono ?_ ?_
  · rintro _ _ ⟨_, _, _, ⟨part, text, hb, ht, rfl, rfl⟩,
      ⟨tally, _, _, ⟨parts, h, rfl⟩, ⟨rfl, rfl⟩, rfl⟩, rfl⟩
    obtain ⟨texts, hts, hd⟩ := h.detail
    have hbs : List.Forall₂ Operand.Becomes e.operands (part :: parts) := .cons hb h.becomes
    have hr : tally.rolls = (part :: parts).flatMap Part.rolls := h.rolls
    refine ⟨part :: parts, ⟨hbs, rfl, rfl, hr, h.total, ?_⟩, ?_⟩
    · show e.trace? Roll.trace tally.rolls = some (.ok tally.detail)
      rw [hr, Expression.trace?, placeRolls_of_becomes hbs, Option.map_some, traceParts, ht, hts, hd]
      rfl
    · rw [List.append_nil, List.flatMap_cons]
  · rintro fault _ (⟨part, hb, hf, rfl⟩ |
      ⟨_, ds₁, ds₂, -, ⟨link, hl, part, hb, hf, hd⟩ | ⟨_, _, _, _, h, _⟩, rfl⟩)
    · exact ⟨(none, e.first), List.mem_cons_self, part, hb, hf, fun _ h => h⟩
    · exact ⟨(some link.1, link.2), List.mem_cons_of_mem _ (List.mem_map_of_mem hl), part, hb, hf,
        List.subset_append_of_subset_right _ hd⟩
    · exact h.elim

/-- A line has a result if it is read as an expression that returns it. -/
theorem evaluateLine_eq_ok_iff {line : Text} {s s' : Source} {r : Result} :
    evaluateLine line s = .ok r s' ↔
      ∃ e, Expression.parse line = .ok e ∧ e.evaluate line.strip s = .ok r s' := by
  unfold evaluateLine
  cases Expression.parse line with
  | error fault => simp
  | ok e =>
    simp only [Except.ok.injEq, exists_eq_left']
    cases e.evaluate line.strip s <;> simp

/-! ## Draws and rolls -/

/-- No draw is lost, taken twice or moved: an expression gives one roll for each of its dice terms,
in their order, and what it takes from the source is what the rolls tell of, one after the other:
at each position the values replaced there and then the one that stayed, every one of them asked
for with the faces of its dice term. -/
theorem draws_of_evaluate {line : Text} {e : Expression} {s s' : Source} {r : Result}
    (h : e.evaluate line s = .ok r s') :
    List.Forall₂ (fun term roll => roll.faces = term.faces ∧
      ∃ dice, RolledDice term dice ∧ roll = Roll.ofDice term dice) e.diceTerms r.rolls ∧
    s' = s.after (r.rolls.flatMap fun roll => drawsOf roll.faces roll.heldValues) := by
  obtain ⟨_, rfl, parts, he, rfl⟩ := (outcomes_evaluate line e).ok h
  rw [he.rolls]
  exact ⟨rolls_of_becomes he.becomes, congrArg s.after (flatMap_draws_eq parts)⟩

/-- Of three dice one is rerolled, and each of the others brings a die. -/
theorem draws_of_exploding_dice : ∃ r,
    Expression.evaluate "3d6!r2"
        { first := .dice {
            count := 3, faces := 6, explode := true, reroll := .once, rerollThreshold := 2 } }
        (.ofScript [1, 5, 6, 2, 6, 1])
      = .ok r ((Source.ofScript [1, 5, 6, 2, 6, 1]).after (drawsOf 6 [1, 5, 6, 2, 6, 1])) ∧
    r.rolls.flatMap (fun roll => drawsOf roll.faces roll.heldValues)
      = drawsOf 6 [1, 5, 6, 2, 6, 1] := by
  have h : Expression.evaluate "3d6!r2"
        { first := .dice {
            count := 3, faces := 6, explode := true, reroll := .once, rerollThreshold := 2 } }
        (.ofScript [1, 5, 6, 2, 6, 1])
      = .ok {
          expression := "3d6!r2"
          rolls := [{ faces := 6, raw := [5, 6, 2, 6, 1], final := [5, 6, 2, 6, 1], total := 20,
                      rerolls := [⟨0, 1, 5⟩] }]
          total := 20
          detail := "[5,6,2,6,1]"
          parsed := some { first := .dice {
            count := 3, faces := 6, explode := true, reroll := .once, rerollThreshold := 2 } } }
        ((Source.ofScript [1, 5, 6, 2, 6, 1]).after (drawsOf 6 [1, 5, 6, 2, 6, 1])) := by
    cbv
  exact ⟨_, h, Source.after_inj (draws_of_evaluate h).2.symm⟩

end Tabletop
