import Mathlib.Data.List.Perm.Subperm
import Tabletop.Proofs.Dice.Cells
import Tabletop.Proofs.Notation.Grammar

/-!
# The values that count

Keeping takes the front of the sorted results and dropping leaves it out
(`select_of_isKeep`, `select_of_isDrop`). So a selection takes values from a roll
and adds none (`select_subperm`), and how many it takes is known from the count
and the length of the roll alone (`length_select`); when it takes all of them,
it only puts them in order (`select_perm_of_length_eq`). So a term that keeps the rules, and that does not drop as
many dice as it rolls, has a value that counts; its total is above zero when
every draw is (`one_le_total`).
-/

namespace Tabletop

/-! ## Selections -/

theorem sortResults_perm (descending : Bool) (results : List Int) :
    (sortResults descending results).Perm results := by
  unfold sortResults
  split <;> exact List.mergeSort_perm _ _

theorem length_sortResults (descending : Bool) (results : List Int) :
    (sortResults descending results).length = results.length :=
  (sortResults_perm descending results).length_eq

theorem cutAt_of_nonneg {count : Int} (h : 0 ≤ count) (length : Nat) :
    cutAt count length = count.toNat := by
  rw [cutAt, if_neg (by omega)]

variable {results : List Int} {keepDrop : KeepDrop} {count : Int}

theorem select_of_isKeep (h : keepDrop.isKeep) : select results keepDrop count
    = (sortResults keepDrop.descending results).take (cutAt count results.length) := by
  have hall : keepDrop ≠ .all := by
    rintro rfl
    cases h
  rw [select, if_neg hall]
  simp only [h, if_true, length_sortResults]

theorem select_of_isDrop (h : keepDrop.isDrop) : select results keepDrop count
    = (sortResults keepDrop.descending results).drop (cutAt count results.length) := by
  have hall : keepDrop ≠ .all ∧ keepDrop.isKeep = false := by
    revert h
    cases keepDrop <;> decide
  rw [select, if_neg hall.1]
  simp only [hall.2, Bool.false_eq_true, if_false, length_sortResults]

theorem KeepDrop.isDrop_of_not_isKeep (h : keepDrop ≠ .all) (hk : ¬ keepDrop.isKeep) :
    keepDrop.isDrop := by
  revert h hk
  cases keepDrop <;> decide

/-- A selection takes some of the results. -/
theorem select_subperm (results : List Int) (keepDrop : KeepDrop) (count : Int) :
    (select results keepDrop count).Subperm results := by
  have hsorted := (sortResults_perm keepDrop.descending results).subperm
  by_cases hall : keepDrop = .all
  · rw [select, if_pos hall]
  · by_cases hkeep : keepDrop.isKeep
    · rw [select_of_isKeep hkeep]
      exact (List.take_sublist _ _).subperm.trans hsorted
    · rw [select_of_isDrop (keepDrop.isDrop_of_not_isKeep hall hkeep)]
      exact (List.drop_sublist _ _).subperm.trans hsorted

/-- A selection that leaves no value out has the results in another order. -/
theorem select_perm_of_length_eq
    (h : (select results keepDrop count).length = results.length) :
    (select results keepDrop count).Perm results :=
  (select_subperm results keepDrop count).perm_of_length_le (Nat.le_of_eq h.symm)

/-- The values of a roll that count are draws of its dice. -/
theorem Roll.mem_draws_of_mem_final {term : DiceTerm} {dice : List Die} {v : Int}
    (h : v ∈ (ofDice term dice).final) : v ∈ dice.flatMap Die.draws :=
  have hraw : v ∈ (ofDice term dice).raw := (select_subperm _ _ _).subset h
  mem_draws_of_mem_raw hraw

/-- How many values a selection has, if its count is not negative. -/
theorem length_select (hall : keepDrop ≠ .all) (hc : 0 ≤ count) :
    (select results keepDrop count).length =
      if keepDrop.isKeep then min count.toNat results.length
      else results.length - count.toNat := by
  split
  · rename_i hkeep
    rw [select_of_isKeep hkeep, List.length_take, length_sortResults, cutAt_of_nonneg hc]
  · rename_i hkeep
    rw [select_of_isDrop (keepDrop.isDrop_of_not_isKeep hall hkeep), List.length_drop,
      length_sortResults, cutAt_of_nonneg hc]

/-- A term that keeps the rules, and that does not drop as many dice as it rolls, has a value that
counts among as many values as it has dice, or more. -/
theorem select_ne_nil {term : DiceTerm} (hv : term.Valid) (hz : ¬ (Operand.dice term).CanTotalZero)
    (hr : term.count ≤ results.length) :
    select results term.keepDrop term.modifierCount ≠ [] := by
  have hcount := hv.one_le_count
  refine List.ne_nil_of_length_pos ?_
  by_cases hk : term.keepDrop = .all
  · rw [select, if_pos hk]
    omega
  · obtain ⟨hm, hm'⟩ := hv.modifier hk
    rw [length_select hk (by omega)]
    split
    · omega
    · rename_i hkeep
      have hdrop : term.keepDrop = .dropHigh ∨ term.keepDrop = .dropLow := by
        revert hk hkeep
        cases term.keepDrop <;> decide
      have hne : term.modifierCount ≠ term.count := fun he => hz ⟨hdrop, he⟩
      omega

/-! ## Totals -/

theorem one_le_foldr_add {vs : List Int} (hne : vs ≠ []) (h : ∀ v ∈ vs, 1 ≤ v) :
    1 ≤ vs.foldr (· + ·) 0 := by
  have hsum : ∀ {vs : List Int}, (∀ v ∈ vs, 1 ≤ v) → 0 ≤ vs.foldr (· + ·) 0 := fun {vs} h => by
    induction vs with
    | nil => exact Int.le_refl 0
    | cons v vs ih =>
      obtain ⟨hv, hvs⟩ := List.forall_mem_cons.1 h
      have := ih hvs
      rw [List.foldr_cons]
      omega
  cases vs with
  | nil => exact absurd rfl hne
  | cons v vs =>
    obtain ⟨hv, hvs⟩ := List.forall_mem_cons.1 h
    have := hsum hvs
    rw [List.foldr_cons]
    omega

theorem mul_length_le_length_raw {n : Nat} {dice : List Die} (h : ∀ d ∈ dice, n ≤ d.values.length)
    (term : DiceTerm) : n * dice.length ≤ (Roll.ofDice term dice).raw.length := by
  show n * dice.length ≤ (dice.flatMap Die.values).length
  induction dice with
  | nil => exact Nat.le_refl 0
  | cons d dice ih =>
    obtain ⟨hd, hdice⟩ := List.forall_mem_cons.1 h
    have := ih hdice
    rw [List.flatMap_cons, List.length_append, List.length_cons, Nat.mul_succ]
    omega

/-- Dice have a value each, or more. -/
theorem length_le_length_raw (term : DiceTerm) (dice : List Die) :
    dice.length ≤ (Roll.ofDice term dice).raw.length := by
  have hone : ∀ d ∈ dice, 1 ≤ d.values.length := fun _ _ => Nat.succ_pos _
  have := mul_length_le_length_raw hone term
  rwa [Nat.one_mul] at this

/-- The total of dice is above zero when every draw is, for a term that keeps the rules and does
not drop as many dice as it rolls. -/
theorem one_le_total {term : DiceTerm} (hv : term.Valid) (hz : ¬ (Operand.dice term).CanTotalZero)
    {dice : List Die} (hd : RolledDice term dice) (h : ∀ v ∈ dice.flatMap Die.draws, 1 ≤ v) :
    1 ≤ (Roll.ofDice term dice).total := by
  have hlen : term.count ≤ (Roll.ofDice term dice).raw.length := by
    have := length_le_length_raw term dice
    have := hd.length
    omega
  exact one_le_foldr_add (select_ne_nil hv hz hlen) fun v hm =>
    h v (Roll.mem_draws_of_mem_final hm)

end Tabletop
