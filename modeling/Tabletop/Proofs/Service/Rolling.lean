import Tabletop.Proofs.Evaluation.Counting
import Tabletop.Proofs.Notation.Reading
import Tabletop.Proofs.Numeral
import Tabletop.Proofs.Service.Limits
import Tabletop.Proofs.Service.Steps

/-!
# Rolling under limits

`Service.roll` is the evaluation of a line (`Service.evaluating`) behind two
guards: a line that is not read and an expression over the limits are refused
before anything is drawn, and otherwise the guards leave no trace
(`roll_of_within`). What the limits bound is counted on the expression, but it
bounds the draws: `exists_blocks_of_roll` gives the dice of a roll that returns,
one for each that the expression asks for.

A limit is shown in the refusal, if it can be written (`Limits.shown`).
-/

namespace Tabletop

namespace Limits

/-- The fault that shows a limit. A limit that cannot be written cannot be shown. -/
def shown (fault : Text → LimitFault) (limit : Int) : LimitFault :=
  if Numeral.Writable limit then fault (Numeral.unlimited limit) else .numeral .writing

theorem refuse_int (fault : Text → LimitFault) (limit : Int) :
    refuse fault (.int limit) = .error (shown fault limit) := by
  rw [refuse, show (Value.int limit).display = Numeral.write limit from rfl, Numeral.write, shown]
  by_cases h : Numeral.Writable limit
  · rw [if_pos h, if_pos (show _ ≤ _ from h)]
  · rw [if_neg h, if_neg (show ¬ _ ≤ _ from h)]

theorem diceCount_eq (e : Expression) : diceCount e = (e.diceTerms.map (·.count)).sum := by
  rw [diceCount, List.sum, List.foldr_map]

end Limits

namespace Service

/-- The evaluation of a line, as a computation of the service that changes its source only. -/
def evaluating (line : Text) : Serving Result := fun s =>
  match evaluateLine line s.source with
  | .ok result source => .ok result { s with source }
  | .error (.parse fault) source => .error (.input (.parse fault)) { s with source }
  | .error (.roll fault) source => .error (.roll fault) { s with source }

variable {s : Service} {line : Text} {e : Expression}

theorem roll_of_refused {fault : ParseFault} (h : Expression.parse line = .error fault) :
    roll line s = .error (.input (.parse fault)) s := by
  rw [roll, h]

theorem roll_of_exceeding {fault : LimitFault} (hp : Expression.parse line = .ok e)
    (hl : s.options.limits.check e = .error fault) : roll line s = .error (.limit fault) s := by
  rw [roll, hp]
  dsimp only
  rw [hl]

/-- Within the limits a roll is the evaluation of its line. -/
theorem roll_of_within (hp : Expression.parse line = .ok e)
    (hl : s.options.limits.check e = .ok ()) : roll line s = evaluating line s := by
  rw [roll, evaluating, evaluateLine, hp]
  dsimp only
  rw [hl]
  dsimp only
  cases e.evaluate line.strip s.source <;> rfl

/-- The dice of a roll that returns. -/
theorem exists_blocks_of_roll {s' : Service} {r : Result} (h : roll line s = .ok r s') :
    ∃ e blocks, Expression.parse line = .ok e ∧ s.options.limits.check e = .ok () ∧
      List.Forall₂ RolledDice e.diceTerms blocks ∧
      r.rolls = List.zipWith Roll.ofDice e.diceTerms blocks ∧
      s' = s.after (drawsOfBlocks e.diceTerms blocks) [] [] := by
  obtain ⟨e, ds, hp, hl, he, rfl⟩ := roll_eq_ok h
  obtain ⟨_, hs, parts, hparts, rfl⟩ := (outcomes_evaluate line.strip e).ok he
  obtain rfl := Source.after_inj hs
  obtain ⟨blocks, hb, hrolls, hdraws⟩ := exists_blocks hparts.becomes
  exact ⟨e, blocks, hp, hl, hb, hparts.rolls.trans hrolls, congrArg (s.after · [] []) hdraws⟩

/-- The limits are held against the expression before anything is drawn, and change nothing else:
a line that is not read is refused with that fault, an expression of more dice or of more faces than
the limits is refused with the limit (or because it is too long to be shown), and any other line is
evaluated. When that returns, every draw is of a die within the limit, and the draws apart from one
for each record and one for each die that was brought are as many as the expression asks for. -/
theorem roll_under_limits {dice sides : Int} (hd : s.options.limits.maxDice = .int dice)
    (hs : s.options.limits.maxSides = .int sides) (line : Text) :
    roll line s =
      (match Expression.parse line with
      | .error fault => .error (.input (.parse fault)) s
      | .ok e =>
        if dice < (e.diceTerms.map (·.count)).sum then .error (.limit (Limits.shown .dice dice)) s
        else if ∃ term ∈ e.diceTerms, sides < term.faces then
          .error (.limit (Limits.shown .sides sides)) s
        else evaluating line s) ∧
    ∀ r s', roll line s = .ok r s' → ∃ e blocks, Expression.parse line = .ok e ∧
      List.Forall₂ RolledDice e.diceTerms blocks ∧
      r.rolls = List.zipWith Roll.ofDice e.diceTerms blocks ∧
      s' = s.after (drawsOfBlocks e.diceTerms blocks) [] [] ∧
      (∀ d ∈ drawsOfBlocks e.diceTerms blocks, d.faces ≤ sides) ∧
      ((drawsOfBlocks e.diceTerms blocks).length : Int) - (r.rolls.flatMap Roll.rerolls).length
        - (blocks.flatten.flatMap Die.extras).length = (e.diceTerms.map (·.count)).sum ∧
      (e.diceTerms.map (·.count)).sum ≤ dice := by
  have hcheck := fun e => Limits.check_int hd hs e
  simp only [Limits.refuse_int, Limits.diceCount_eq, List.any_map, List.any_eq_true,
    Function.comp_apply, decide_eq_true_eq] at hcheck
  constructor
  · cases hp : Expression.parse line with
    | error fault => exact roll_of_refused hp
    | ok e =>
      have hl := hcheck e
      dsimp only
      split
      · rename_i h
        rw [if_pos h] at hl
        exact roll_of_exceeding hp hl
      · rename_i h
        rw [if_neg h] at hl
        split
        · rename_i h'
          rw [if_pos h'] at hl
          exact roll_of_exceeding hp hl
        · rename_i h'
          rw [if_neg h'] at hl
          exact roll_of_within hp hl
  · intro r s' h
    obtain ⟨e, blocks, hp, hl, hb, hrolls, hsource⟩ := exists_blocks_of_roll h
    rw [hcheck] at hl
    have hdice : ¬ dice < (e.diceTerms.map (·.count)).sum := fun hlt => by
      rw [if_pos hlt] at hl
      cases hl
    have hsides : ¬ ∃ term ∈ e.diceTerms, sides < term.faces := fun hlt => by
      rw [if_neg hdice, if_pos hlt] at hl
      cases hl
    refine ⟨e, blocks, hp, hb, hrolls, hsource, fun d hm => ?_, ?_, Int.not_lt.1 hdice⟩
    · obtain ⟨term, ht, hf⟩ := faces_of_mem_drawsOfBlocks hm
      rw [hf]
      exact Int.not_lt.1 fun hlt => hsides ⟨term, ht, hlt⟩
    · have hc : ∀ term ∈ e.diceTerms, 0 ≤ term.count := fun term ht => by
        have := ((valid_of_parse hp).of_mem_diceTerms ht).one_le_count
        omega
      have hlen := length_drawsOfBlocks hb hc
      rw [hrolls]
      omega

/-- Three dice are drawn six times: one is rerolled, and two bring a die. -/
theorem roll_under_limits_of_exploding_dice :
    let s : Service := { source := .ofScript [1, 5, 6, 2, 6, 1] }
    s.options.limits.maxDice = .int 100 ∧ s.options.limits.maxSides = .int 1000 ∧
    ∃ r, roll "3d6!r2" s = .ok r (s.after (drawsOf 6 [1, 5, 6, 2, 6, 1]) [] []) ∧
      (r.rolls.flatMap Roll.rerolls).length = 1 ∧
      ∃ (e : Expression) (blocks : List (List Die)),
        r.rolls = List.zipWith Roll.ofDice e.diceTerms blocks ∧
        drawsOfBlocks e.diceTerms blocks = drawsOf 6 [1, 5, 6, 2, 6, 1] ∧
        (blocks.flatten.flatMap Die.extras).length = 2 ∧ (e.diceTerms.map (·.count)).sum = 3 := by
  intro s
  let e : Expression := { first := .dice {
    count := 3, faces := 6, explode := true, reroll := .once, rerollThreshold := 2,
    source := "3d6!r2" } }
  have h : roll "3d6!r2" s = .ok {
      expression := "3d6!r2"
      rolls := [{ faces := 6, raw := [5, 6, 2, 6, 1], final := [5, 6, 2, 6, 1], total := 20,
                  rerolls := [⟨0, 1, 5⟩] }]
      total := 20
      detail := "[5,6,2,6,1]"
      parsed := some e } (s.after (drawsOf 6 [1, 5, 6, 2, 6, 1]) [] []) := by
    cbv
  have he : Expression.parse "3d6!r2" = .ok e := by
    cbv
  have hdice : s.options.limits.maxDice = .int 100 := rfl
  have hsides : s.options.limits.maxSides = .int 1000 := rfl
  obtain ⟨e', blocks, hp, -, hrolls, hs, -, hcount, -⟩ :=
    (roll_under_limits hdice hsides "3d6!r2").2 _ _ h
  obtain rfl := Except.ok.inj (he.symm.trans hp)
  have hdraws := after_draws_inj hs.symm
  refine ⟨hdice, hsides, _, h, rfl, e, blocks, hrolls, hdraws, ?_, rfl⟩
  rw [hdraws] at hcount
  have hcount : (6 : Int) - 1 - (blocks.flatten.flatMap Die.extras).length = 3 := hcount
  omega

/-- A limit with one digit too many is exceeded by a die, and the refusal does not say so. -/
theorem not_over_limit_of_long_limit :
    let s : Service := {
      options := { limits := { maxDice := .int (-(10 ^ Numeral.maxDigits : Nat)) } }
      source := .ofScript [] }
    (∃ e, Expression.parse "d6" = .ok e ∧
      -((10 ^ Numeral.maxDigits : Nat) : Int) < (e.diceTerms.map (·.count)).sum) ∧
    roll "d6" s = .error (.limit (.numeral .writing)) s ∧
    ¬ ∃ limit s', roll "d6" s = .error (.limit (.dice limit)) s' ∨
      roll "d6" s = .error (.limit (.sides limit)) s' := by
  intro s
  let e : Expression := { first := .dice { faces := 6, source := "d6" } }
  have hp : Expression.parse "d6" = .ok e := by
    cbv
  have hlt : -((10 ^ Numeral.maxDigits : Nat) : Int) < Limits.diceCount e :=
    Int.lt_of_le_of_lt (Int.neg_nonpos_of_nonneg (Int.natCast_nonneg _)) (by decide)
  have hlong : ¬ Numeral.Writable (-(10 ^ Numeral.maxDigits : Nat)) := by
    rw [Numeral.writable_iff_lt, Int.natAbs_neg, Int.natAbs_natCast]
    exact lt_irrefl _
  have hl : s.options.limits.check e = .error (.numeral .writing) := by
    have hdice : s.options.limits.maxDice = .int (-(10 ^ Numeral.maxDigits : Nat)) := rfl
    have hsides : s.options.limits.maxSides = .int 1000 := rfl
    rw [Limits.check_int hdice hsides, if_pos hlt, Limits.refuse_int, Limits.shown, if_neg hlong]
  have hroll := roll_of_exceeding hp hl
  refine ⟨⟨e, hp, Limits.diceCount_eq e ▸ hlt⟩, hroll, ?_⟩
  rintro ⟨limit, s', h | h⟩ <;> rw [hroll] at h <;> cases h

end Service

end Tabletop
