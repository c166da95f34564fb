import Tabletop.Proofs.Evaluation.Outcomes

/-!
# How many draws

An expression draws once for every die that its terms ask for, once for every
record of a replaced value and once for every die that another die brought
(`length_drawsOfBlocks`), and every draw is of a die of one of its terms
(`faces_of_mem_drawsOfBlocks`). What is counted are the dice of the terms,
term by term (`exists_blocks`): which of them were brought does not show in the
values of a roll alone.
-/

namespace Tabletop

/-! ## The dice of a term -/

theorem length_drawsOf (faces : Int) (vs : List Int) : (drawsOf faces vs).length = vs.length :=
  List.length_map _

/-- One record for each draw that replaced another one. -/
theorem length_recordsFrom (index : Nat) (dice : List Die) :
    (recordsFrom index dice).length = (dice.flatMap Die.replacements).length := by
  induction dice generalizing index with
  | nil => rfl
  | cons d dice ih =>
    rw [recordsFrom, List.length_append, d.length_records, ih, List.flatMap_cons,
      List.length_append]

theorem length_flatMap_draws (dice : List Die) : (dice.flatMap Die.draws).length =
    dice.length + (dice.flatMap Die.replacements).length + (dice.flatMap Die.extras).length := by
  induction dice with
  | nil => rfl
  | cons d dice ih =>
    simp only [List.flatMap_cons, List.length_append, List.length_cons, Die.draws, ih]
    omega

/-- The draws of a term: its dice, its records, and the dice that were brought. -/
theorem RolledDice.length_draws {term : DiceTerm} {dice : List Die} (h : RolledDice term dice)
    (hc : 0 ≤ term.count) : ((drawsOf term.faces (dice.flatMap Die.draws)).length : Int) =
      term.count + (Roll.ofDice term dice).rerolls.length + (dice.flatMap Die.extras).length := by
  have hrecords : (Roll.ofDice term dice).rerolls.length = (dice.flatMap Die.replacements).length :=
    length_recordsFrom 0 dice
  have hcount : (dice.length : Int) = term.count := by
    rw [h.length, Int.toNat_of_nonneg hc]
  rw [length_drawsOf, length_flatMap_draws, hrecords]
  omega

/-! ## The dice of an expression -/

/-- The draws of the dice of some terms. -/
def drawsOfBlocks (terms : List DiceTerm) (blocks : List (List Die)) : List Draw :=
  (List.zipWith (fun term dice => drawsOf term.faces (dice.flatMap Die.draws)) terms blocks).flatten

/-- The rolls of an expression have dice behind them, and its draws are those of the dice. -/
theorem exists_blocks {xs : List Operand} {parts : List Part}
    (h : List.Forall₂ Operand.Becomes xs parts) :
    ∃ blocks, List.Forall₂ RolledDice (xs.filterMap Operand.dice?) blocks ∧
      parts.flatMap Part.rolls = List.zipWith Roll.ofDice (xs.filterMap Operand.dice?) blocks ∧
      parts.flatMap Part.draws = drawsOfBlocks (xs.filterMap Operand.dice?) blocks := by
  induction h with
  | nil => exact ⟨[], .nil, rfl, rfl⟩
  | cons hx _ ih =>
    obtain ⟨blocks, hblocks, hrolls, hdraws⟩ := ih
    cases hx with
    | number n => exact ⟨blocks, hblocks, hrolls, hdraws⟩
    | @roll term dice hd =>
      refine ⟨dice :: blocks, .cons hd hblocks, ?_, ?_⟩
      · rw [List.flatMap_cons, hrolls]
        rfl
      · rw [List.flatMap_cons, hdraws, Part.draws, Roll.ofDice_heldDraws]
        rfl

section blocks

variable {terms : List DiceTerm} {blocks : List (List Die)}

/-- Every draw is of a die of one of the terms. -/
theorem faces_of_mem_drawsOfBlocks {d : Draw} (h : d ∈ drawsOfBlocks terms blocks) :
    ∃ term ∈ terms, d.faces = term.faces := by
  induction terms generalizing blocks with
  | nil => cases h
  | cons term terms ih =>
    cases blocks with
    | nil => cases h
    | cons dice blocks =>
      rw [drawsOfBlocks, List.zipWith_cons_cons, List.flatten_cons, List.mem_append] at h
      rcases h with h | h
      · obtain ⟨v, -, rfl⟩ := List.mem_map.1 h
        exact ⟨term, List.mem_cons_self, rfl⟩
      · obtain ⟨term', hm, hf⟩ := ih h
        exact ⟨term', List.mem_cons_of_mem _ hm, hf⟩

/-- The draws of some terms: the dice they ask for, the records, and the dice that were brought. -/
theorem length_drawsOfBlocks (h : List.Forall₂ RolledDice terms blocks)
    (hc : ∀ term ∈ terms, 0 ≤ term.count) :
    ((drawsOfBlocks terms blocks).length : Int) = (terms.map (·.count)).sum +
      ((List.zipWith Roll.ofDice terms blocks).flatMap Roll.rerolls).length +
      (blocks.flatten.flatMap Die.extras).length := by
  induction h with
  | nil => rfl
  | @cons term dice terms blocks hd _ ih =>
    rw [List.forall_mem_cons] at hc
    have hterm := hd.length_draws hc.1
    have hterms := ih hc.2
    simp only [drawsOfBlocks, List.zipWith_cons_cons, List.flatten_cons, List.length_append,
      List.map_cons, List.sum_cons, List.flatMap_cons, List.flatMap_append] at hterms ⊢
    omega

end blocks

end Tabletop
