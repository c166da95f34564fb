import Tabletop.Dice.Trace
import Tabletop.Proofs.Dice.Drawing

/-!
# The cells of a roll

The positions of a roll, each with every value that it has held, in order: a
die's own position with its draws, and one for each die that it brought
(`Die.cells`). A roll is its cells: the last values are its values, and the
steps inside the cells are its records (`Roll.ofDice_raw`,
`Roll.ofDice_rerolls`), so what a roll keeps of a position is its cell:

* `filter_cellRecords`: the records with an index are the steps of that cell;
* `flatten_dice_cells`: the cells, one after the other, are the draws of the
  dice;
* `Roll.ofDice_heldValues`, `Roll.ofDice_chain`: what the records and the values
  of a roll tell about a position, read in either way, is its cell.
-/

namespace Tabletop

/-- The positions of a die with the values that they have held. -/
def Die.cells (d : Die) : List (List Int) := (d.first :: d.replacements) :: d.extras.map ([·])

/-- The last value of a cell. -/
def lastValue (cell : List Int) : Int := cell.getLastD 0

/-- The steps from one value of a cell to the next, as records of a position. -/
def stepRecords (index : Nat) (cell : List Int) : List RerollRecord :=
  (cell.zip cell.tail).map fun (replaced, rerolled) => { index, replaced, rerolled }

/-- The steps of cells whose positions begin at one. -/
def cellRecords (index : Nat) : List (List Int) → List RerollRecord
  | [] => []
  | cell :: cells => stepRecords index cell ++ cellRecords (index + 1) cells

theorem ne_nil_of_mem_dice_cells {dice : List Die} {cell : List Int}
    (h : cell ∈ dice.flatMap Die.cells) : cell ≠ [] := by
  obtain ⟨d, -, hc⟩ := List.mem_flatMap.1 h
  rw [Die.cells, List.mem_cons, List.mem_map] at hc
  rcases hc with rfl | ⟨v, -, rfl⟩ <;> exact List.cons_ne_nil _ _

/-- The cells, one after the other, are the draws. -/
theorem flatten_dice_cells (dice : List Die) :
    (dice.flatMap Die.cells).flatten = dice.flatMap Die.draws := by
  have hd : ∀ d : Die, d.cells.flatten = d.draws := fun d => by
    have hs : ∀ vs : List Int, (vs.map ([·])).flatten = vs := fun vs => by
      induction vs with
      | nil => rfl
      | cons v vs ih => rw [List.map_cons, List.flatten_cons, ih, List.singleton_append]
    rw [Die.cells, List.flatten_cons, hs]
    rfl
  induction dice with
  | nil => rfl
  | cons d dice ih => rw [List.flatMap_cons, List.flatten_append, hd, ih, List.flatMap_cons]

/-! ## A roll is its cells -/

theorem cellRecords_append (index : Nat) (cells cells' : List (List Int)) :
    cellRecords index (cells ++ cells')
      = cellRecords index cells ++ cellRecords (index + cells.length) cells' := by
  induction cells generalizing index with
  | nil => rfl
  | cons cell cells ih =>
    rw [List.cons_append, cellRecords, ih, cellRecords, List.append_assoc, List.length_cons,
      Nat.add_right_comm, Nat.add_assoc]

/-- A cell of one value has no steps. -/
theorem cellRecords_map_singleton (index : Nat) (vs : List Int) :
    cellRecords index (vs.map ([·])) = [] := by
  induction vs generalizing index with
  | nil => rfl
  | cons v vs ih => exact ih (index + 1)

theorem recordsFrom_eq (index : Nat) (dice : List Die) :
    recordsFrom index dice = cellRecords index (dice.flatMap Die.cells) := by
  induction dice generalizing index with
  | nil => rfl
  | cons d dice ih =>
    have hl : d.cells.length = d.values.length := by simp [Die.cells, Die.values]
    have hd : cellRecords index d.cells = d.records index := by
      rw [Die.cells, cellRecords, cellRecords_map_singleton, List.append_nil]
      rfl
    rw [recordsFrom, ih, List.flatMap_cons, cellRecords_append, hd, hl]

theorem flatMap_values_eq (dice : List Die) :
    dice.flatMap Die.values = (dice.flatMap Die.cells).map lastValue := by
  have hd : ∀ d : Die, d.cells.map lastValue = d.values := fun d => by
    rw [Die.cells, List.map_cons, List.map_map, Die.values]
    congr 1
    · rw [lastValue, Die.resolved, List.getLastD_cons]
    · exact List.map_id _
  induction dice with
  | nil => rfl
  | cons d dice ih => rw [List.flatMap_cons, ih, List.flatMap_cons, List.map_append, hd]

variable (term : DiceTerm) (dice : List Die)

theorem Roll.ofDice_raw : (ofDice term dice).raw = (dice.flatMap Die.cells).map lastValue :=
  flatMap_values_eq dice

theorem Roll.ofDice_rerolls : (ofDice term dice).rerolls = cellRecords 0 (dice.flatMap Die.cells) :=
  recordsFrom_eq 0 dice

theorem Die.mem_draws_of_mem_values {d : Die} {v : Int} (h : v ∈ d.values) : v ∈ d.draws := by
  rcases List.mem_cons.1 h with rfl | h
  · exact List.mem_append_left _ List.getLastD_mem_cons
  · exact List.mem_append_right _ h

/-- The values of a roll are draws of its dice. -/
theorem Roll.mem_draws_of_mem_raw {term : DiceTerm} {dice : List Die} {v : Int}
    (h : v ∈ (ofDice term dice).raw) : v ∈ dice.flatMap Die.draws := by
  obtain ⟨d, hd, hv⟩ := List.mem_flatMap.1 h
  exact List.mem_flatMap.2 ⟨d, hd, Die.mem_draws_of_mem_values hv⟩

theorem mem_of_mem_cellRecords {index : Nat} {cells : List (List Int)} {record : RerollRecord}
    (h : record ∈ cellRecords index cells) :
    ∃ cell ∈ cells, record.replaced ∈ cell ∧ record.rerolled ∈ cell := by
  induction cells generalizing index with
  | nil => cases h
  | cons cell cells ih =>
    rcases List.mem_append.1 h with h | h
    · obtain ⟨p, hp, rfl⟩ := List.mem_map.1 h
      obtain ⟨h₁, h₂⟩ := List.of_mem_zip hp
      exact ⟨cell, List.mem_cons_self, h₁, List.mem_of_mem_tail h₂⟩
    · obtain ⟨cell', hc, h⟩ := ih h
      exact ⟨cell', List.mem_cons_of_mem _ hc, h⟩

/-- The values in the records of a roll are draws of its dice. -/
theorem Roll.mem_draws_of_mem_rerolls {term : DiceTerm} {dice : List Die} {record : RerollRecord}
    (h : record ∈ (ofDice term dice).rerolls) :
    record.replaced ∈ dice.flatMap Die.draws ∧ record.rerolled ∈ dice.flatMap Die.draws := by
  rw [ofDice_rerolls] at h
  obtain ⟨cell, hc, h₁, h₂⟩ := mem_of_mem_cellRecords h
  rw [← flatten_dice_cells]
  exact ⟨List.mem_flatten.2 ⟨cell, hc, h₁⟩, List.mem_flatten.2 ⟨cell, hc, h₂⟩⟩

/-- Dice with the same cells make the same roll. -/
theorem Roll.ofDice_congr {dice dice' : List Die}
    (h : dice.flatMap Die.cells = dice'.flatMap Die.cells) : ofDice term dice = ofDice term dice' := by
  simp only [ofDice, flatMap_values_eq, recordsFrom_eq, h]

/-! ## The records of a position -/

/-- One record for each draw that replaced another one. -/
theorem Die.length_records (d : Die) (index : Nat) :
    (d.records index).length = d.replacements.length := by
  simp [records, List.length_zip]

theorem index_of_mem_stepRecords {index : Nat} {cell : List Int} {record : RerollRecord}
    (h : record ∈ stepRecords index cell) : record.index = index := by
  obtain ⟨_, -, rfl⟩ := List.mem_map.1 h
  rfl

theorem le_index_of_mem_cellRecords {index : Nat} {cells : List (List Int)} {record : RerollRecord}
    (h : record ∈ cellRecords index cells) : (index : Int) ≤ record.index := by
  induction cells generalizing index with
  | nil => cases h
  | cons cell cells ih =>
    rcases List.mem_append.1 h with h | h
    · exact Int.le_of_eq (index_of_mem_stepRecords h).symm
    · have := ih h
      omega

/-- The records with the index of a position are the steps of its cell. -/
theorem filter_cellRecords {index i : Nat} {cells : List (List Int)} {cell : List Int}
    (h : (cell, i) ∈ cells.zipIdx index) :
    (cellRecords index cells).filter (fun record => record.index = (i : Int))
      = stepRecords i cell := by
  induction cells generalizing index with
  | nil => cases h
  | cons first cells ih =>
    rw [cellRecords, List.filter_append]
    rw [List.zipIdx_cons, List.mem_cons] at h
    rcases h with h | h
    · obtain ⟨rfl, rfl⟩ := Prod.mk.inj h
      have hown : (stepRecords i cell).filter (fun record => record.index = (i : Int))
          = stepRecords i cell :=
        List.filter_eq_self.2 fun record hr => by simp [index_of_mem_stepRecords hr]
      have hrest : (cellRecords (i + 1) cells).filter (fun record => record.index = (i : Int))
          = [] :=
        List.filter_eq_nil_iff.2 fun record hr => by
          have := le_index_of_mem_cellRecords hr
          simp only [decide_eq_true_eq]
          omega
      rw [hown, hrest, List.append_nil]
    · have hi := (List.mem_zipIdx h).1
      have hother : (stepRecords index first).filter (fun record => record.index = (i : Int))
          = [] :=
        List.filter_eq_nil_iff.2 fun record hr => by
          have := index_of_mem_stepRecords hr
          simp only [decide_eq_true_eq]
          omega
      rw [hother, List.nil_append, ih h]

/-! ## What a roll tells about a position -/

/-- The values that were replaced at a position, by the records of a roll. -/
def Roll.replacedAt (r : Roll) (index : Nat) : List Int :=
  (r.rerolls.filter fun record => record.index = (index : Int)).map (·.replaced)

/-- Every value that a roll has held: at each position those that were replaced there, in the order
of the records, and then the one that stayed. -/
def Roll.heldValues (r : Roll) : List Int :=
  r.raw.zipIdx.flatMap fun (value, index) => r.replacedAt index ++ [value]

theorem replaced_stepRecords_append (index : Nat) {cell : List Int} (h : cell ≠ []) :
    (stepRecords index cell).map (·.replaced) ++ [lastValue cell] = cell := by
  induction cell with
  | nil => exact absurd rfl h
  | cons v rest ih =>
    cases rest with
    | nil => rfl
    | cons w rest =>
      have := ih (List.cons_ne_nil w rest)
      simp only [stepRecords, lastValue, List.tail_cons, List.zip_cons_cons, List.map_cons,
        List.cons_append, List.getLastD_cons] at this ⊢
      rw [this]

theorem cons_rerolled_stepRecords (index : Nat) (v : Int) (rest : List Int) :
    v :: (stepRecords index (v :: rest)).map (·.rerolled) = v :: rest := by
  have : ((v :: rest).zip rest).map Prod.snd = rest := List.map_snd_zip (by simp)
  rw [stepRecords, List.map_map]
  exact congrArg (v :: ·) this

theorem zipIdx_ofDice_raw : (Roll.ofDice term dice).raw.zipIdx
    = (dice.flatMap Die.cells).zipIdx.map fun (cell, index) => (lastValue cell, index) := by
  rw [Roll.ofDice_raw, List.zipIdx_map]
  rfl

/-- Read from the records, the values that a roll has held are the draws of its dice. -/
theorem Roll.ofDice_heldValues : (ofDice term dice).heldValues = dice.flatMap Die.draws := by
  have hcell : ∀ p ∈ (dice.flatMap Die.cells).zipIdx,
      (ofDice term dice).replacedAt p.2 ++ [lastValue p.1] = p.1 := fun ⟨cell, index⟩ hp => by
    rw [replacedAt, ofDice_rerolls, filter_cellRecords hp]
    exact replaced_stepRecords_append index
      (ne_nil_of_mem_dice_cells (List.fst_mem_of_mem_zipIdx hp))
  calc (ofDice term dice).heldValues
      = ((dice.flatMap Die.cells).zipIdx.map
          fun p => (ofDice term dice).replacedAt p.2 ++ [lastValue p.1]).flatten := by
        rw [heldValues, zipIdx_ofDice_raw, List.flatMap_map]
        rfl
    _ = ((dice.flatMap Die.cells).zipIdx.map Prod.fst).flatten := by
        rw [List.map_congr_left hcell]
    _ = dice.flatMap Die.draws := by
        rw [List.zipIdx_map_fst, flatten_dice_cells]

/-- The values that a roll has held, as draws. -/
def Roll.heldDraws (r : Roll) : List Draw := drawsOf r.faces r.heldValues

theorem Roll.ofDice_heldDraws :
    (ofDice term dice).heldDraws = drawsOf term.faces (dice.flatMap Die.draws) := by
  rw [heldDraws, ofDice_heldValues]
  rfl

/-- The chain of a position, or its value where nothing was replaced, is its cell. -/
theorem Roll.ofDice_chain {cell : List Int} {index : Nat}
    (h : (cell, index) ∈ (dice.flatMap Die.cells).zipIdx) :
    ((ofDice term dice).chain? index).getD [lastValue cell] = cell := by
  have hne := ne_nil_of_mem_dice_cells (List.fst_mem_of_mem_zipIdx h)
  rw [chain?, ofDice_rerolls, filter_cellRecords h]
  cases cell with
  | nil => exact absurd rfl hne
  | cons v rest =>
    cases rest with
    | nil => rfl
    | cons w rest => exact cons_rerolled_stepRecords index v (w :: rest)

end Tabletop
