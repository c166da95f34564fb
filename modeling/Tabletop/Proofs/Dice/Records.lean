import Tabletop.Proofs.Dice.Zero

/-!
# What the records of a roll tell

Every value of a roll stands at a position of its own: a die's value behind those
of the dice before it (`positionBehind`), and behind it the values of the dice
that it brought. What a roll tells of a position is read off the cell there:

* `Roll.ofDice_recordsAt`: the records of a position are the steps of its cell,
  and lead from the first draw to the value (`RerollRecord.Leads`);
* `exists_die_of_mem_recordsFrom`, `pairwise_recordsFrom`: every record is of
  the position of a die, in the order of the dice; both by induction on them;
* `Replaced.ne_nil_iff`, `Replaced.le_of_mem`: which dice have records, and what
  was replaced;
* `exists_die_of_getElem?_values`: a value belongs to a die, as what it came to
  or as one that it brought.
-/

namespace Tabletop

/-- The position of a die among the values of a roll, behind the values of the dice before it. -/
def positionBehind (front : List Die) : Nat := (front.flatMap Die.values).length

/-- The records of a roll for a position. -/
def Roll.recordsAt (r : Roll) (index : Nat) : List RerollRecord :=
  r.rerolls.filter fun record => record.index = (index : Int)

/-- Records that lead from one value to another: the first one replaces the one value, each of the
others the value that the record before it has put in place, and the last one puts the other value
in place. Without records the values are the same. -/
inductive RerollRecord.Leads : Int → List RerollRecord → Int → Prop where
  | stays (v : Int) : Leads v [] v
  | replaces (record : RerollRecord) {records : List RerollRecord} {last : Int}
    (h : Leads record.rerolled records last) : Leads record.replaced (record :: records) last

/-! ## Positions -/

section Positions

variable {front back : List Die} {d : Die}

theorem mem_zipIdx_cells {j : Nat} {cell : List Int} (h : d.cells[j]? = some cell) :
    (cell, positionBehind front + j) ∈ ((front ++ d :: back).flatMap Die.cells).zipIdx := by
  have hfront : (front.flatMap Die.cells).length = positionBehind front := by
    rw [positionBehind, flatMap_values_eq, List.length_map]
  obtain ⟨hj, -⟩ := List.getElem?_eq_some_iff.1 h
  rw [List.mem_zipIdx_iff_getElem?, List.flatMap_append, List.flatMap_cons,
    List.getElem?_append_right (by rw [hfront]; omega), hfront, Nat.add_sub_cancel_left,
    List.getElem?_append_left hj, h]

variable {term : DiceTerm} {dice : List Die} {index : Nat} {cell : List Int}

theorem Roll.ofDice_getElem?_raw (h : (cell, index) ∈ (dice.flatMap Die.cells).zipIdx) :
    (ofDice term dice).raw[index]? = some (lastValue cell) := by
  rw [ofDice_raw, List.getElem?_map, List.mem_zipIdx_iff_getElem?.1 h, Option.map_some]

/-- The records of a position are the steps of its cell. -/
theorem Roll.ofDice_recordsAt (h : (cell, index) ∈ (dice.flatMap Die.cells).zipIdx) :
    (ofDice term dice).recordsAt index = stepRecords index cell := by
  rw [recordsAt, ofDice_rerolls, filter_cellRecords h]

end Positions

theorem leads_stepRecords (index : Nat) (v : Int) (rest : List Int) :
    RerollRecord.Leads v (stepRecords index (v :: rest)) (lastValue (v :: rest)) := by
  induction rest generalizing v with
  | nil => exact .stays v
  | cons w rest ih => exact .replaces ⟨index, v, w⟩ (ih w)

/-- A record is of a die, at the position of that die. -/
theorem exists_die_of_mem_recordsFrom {index : Nat} {dice : List Die} {record : RerollRecord}
    (h : record ∈ recordsFrom index dice) : ∃ front d back, dice = front ++ d :: back ∧
      record ∈ d.records (index + positionBehind front) := by
  induction dice generalizing index with
  | nil => cases h
  | cons d dice ih =>
    rcases List.mem_append.1 h with h | h
    · exact ⟨[], d, dice, rfl, h⟩
    · obtain ⟨front, d', back, rfl, h⟩ := ih h
      refine ⟨d :: front, d', back, rfl, ?_⟩
      rwa [positionBehind, List.flatMap_cons, List.length_append, ← Nat.add_assoc]

/-- A value is of a die: the one that it came to or one that it brought. -/
theorem exists_die_of_getElem?_values {dice : List Die} {i : Nat} {v : Int}
    (h : (dice.flatMap Die.values)[i]? = some v) : ∃ front d back j, dice = front ++ d :: back ∧
      i = positionBehind front + j ∧ d.values[j]? = some v := by
  induction dice generalizing i with
  | nil => cases h
  | cons d dice ih =>
    rw [List.flatMap_cons] at h
    by_cases hi : i < d.values.length
    · rw [List.getElem?_append_left hi] at h
      exact ⟨[], d, dice, i, rfl, (Nat.zero_add i).symm, h⟩
    · rw [List.getElem?_append_right (by omega)] at h
      obtain ⟨front, d', back, j, rfl, hj, h⟩ := ih h
      refine ⟨d :: front, d', back, j, rfl, ?_, h⟩
      rw [positionBehind, List.flatMap_cons, List.length_append]
      rw [positionBehind] at hj
      omega

theorem Die.index_of_mem_records {index : Nat} {d : Die} {record : RerollRecord}
    (h : record ∈ d.records index) : record.index = index := by
  have h : record ∈ stepRecords index (d.first :: d.replacements) := h
  exact index_of_mem_stepRecords h

/-- What holds of two records of one die, and of one record and another of a later position, holds of
the records of dice in order. -/
theorem pairwise_recordsFrom {R : RerollRecord → RerollRecord → Prop}
    (hlater : ∀ a b, a.index < b.index → R a b) {dice : List Die}
    (hd : ∀ d ∈ dice, ∀ index, (d.records index).Pairwise R) (index : Nat) :
    (recordsFrom index dice).Pairwise R := by
  induction dice generalizing index with
  | nil => exact .nil
  | cons d dice ih =>
    obtain ⟨hown, hrest⟩ := List.forall_mem_cons.1 hd
    refine List.pairwise_append.2 ⟨hown index, ih hrest _, fun a ha b hb => hlater a b ?_⟩
    have hpos : 0 < d.values.length := Nat.succ_pos _
    rw [recordsFrom_eq] at hb
    have := le_index_of_mem_cellRecords hb
    have := Die.index_of_mem_records ha
    omega

/-! ## Dice with records -/

namespace Replaced

variable {term : DiceTerm} {first : Int} {replacements : List Int}
  (h : Replaced term first replacements)
include h

/-- A die is drawn again exactly if something is rerolled and its first draw is not above the
threshold. -/
theorem ne_nil_iff :
    replacements ≠ [] ↔ term.reroll ≠ .never ∧ first ≤ term.rerollThreshold := by
  cases h with
  | kept h =>
    refine iff_of_false (fun hne => hne rfl) fun ⟨hr, hf⟩ => ?_
    rcases h with h | h
    · exact hr h
    · omega
  | once h hf v => simp [h, hf]
  | untilAbove h hf low hl v hv => simp [h, hf]

/-- What is replaced is not above the threshold. -/
theorem le_of_mem : ∀ v ∈ (first :: replacements).dropLast, v ≤ term.rerollThreshold := by
  cases h with
  | kept h => simp
  | once h hf v => simpa using hf
  | untilAbove h hf low hl v hv =>
    rw [← List.cons_append, List.dropLast_concat]
    exact List.forall_mem_cons.2 ⟨hf, hl⟩

theorem length_le_one (hr : term.reroll = .once) : replacements.length ≤ 1 := by
  cases h with
  | kept h => exact Nat.zero_le 1
  | once h hf v => exact Nat.le_refl 1
  | untilAbove h hf low hl v hv =>
    rw [hr] at h
    cases h

end Replaced

namespace Die

theorem map_replaced_records (d : Die) (index : Nat) :
    (d.records index).map (·.replaced) = (d.first :: d.replacements).dropLast := by
  have h : (d.records index).map (·.replaced) ++ [lastValue (d.first :: d.replacements)]
      = d.first :: d.replacements :=
    replaced_stepRecords_append index (List.cons_ne_nil d.first d.replacements)
  conv => rhs; rw [← h, List.dropLast_concat]

theorem Follows.explode_of_mem_extras {term : DiceTerm} {d : Die} (h : d.Follows term) {v : Int}
    (hv : v ∈ d.extras) : term.explode := by
  cases d with
  | mk first replacements extras =>
    cases h.exploded with
    | whole => cases hv
    | burst hb => exact hb.1

end Die

/-! ## Rolls -/

/-- What a roll tells of a die of a term at a position. Its value is there, and behind it are the
values of the dice that it brought, which have no records. The die has records exactly if it was
drawn again, and they lead from its first draw to its value. -/
structure Roll.TellsOf (r : Roll) (term : DiceTerm) (index : Nat) (d : Die) : Prop where
  value : r.raw[index]? = some d.resolved
  extras : ∀ j v, d.extras[j]? = some v →
    r.raw[index + 1 + j]? = some v ∧ r.recordsAt (index + 1 + j) = []
  recorded : r.recordsAt index ≠ [] ↔ term.reroll ≠ .never ∧ d.first ≤ term.rerollThreshold
  leads : RerollRecord.Leads d.first (r.recordsAt index) d.resolved

/-- What a roll tells of all the dice of a term. -/
structure Roll.TellsOfDice (r : Roll) (term : DiceTerm) (dice : List Die) : Prop where
  raw : r.raw = dice.flatMap Die.values
  die : ∀ front d back, dice = front ++ d :: back → r.TellsOf term (positionBehind front) d
  /-- The records are in the order of the values. -/
  ordered : (r.rerolls.map (·.index)).Pairwise (· ≤ ·)
  /-- Every record is of the position of a die that the term asks for. -/
  position : ∀ record ∈ r.rerolls, ∃ front d back, dice = front ++ d :: back ∧
    record.index = positionBehind front
  replaced : ∀ record ∈ r.rerolls, record.replaced ≤ term.rerollThreshold
  once : term.reroll = .once → (r.rerolls.map (·.index)).Nodup
  untilAbove : term.reroll = .untilAbove → ∀ d ∈ dice, term.rerollThreshold < d.resolved
  /-- A low value was brought by a die that exploded. -/
  lowRaw : term.reroll = .untilAbove → ∀ i v, r.raw[i]? = some v → v ≤ term.rerollThreshold →
    term.explode ∧ ∃ front d back j, dice = front ++ d :: back ∧
      i = positionBehind front + 1 + j ∧ d.extras[j]? = some v
  /-- No more low values count than were brought by dice that exploded. -/
  lowFinal : term.reroll = .untilAbove → ∀ v, v ≤ term.rerollThreshold →
    r.final.count v ≤ (dice.flatMap Die.extras).count v ∧ (v ∈ r.final → term.explode)

theorem tellsOf_ofDice {term : DiceTerm} {front back : List Die} {d : Die} (h : d.Follows term) :
    (Roll.ofDice term (front ++ d :: back)).TellsOf term (positionBehind front) d := by
  have hcell : (d.first :: d.replacements, positionBehind front)
      ∈ ((front ++ d :: back).flatMap Die.cells).zipIdx := mem_zipIdx_cells (j := 0) rfl
  have hlast : lastValue (d.first :: d.replacements) = d.resolved := by
    rw [lastValue, Die.resolved, List.getLastD_cons]
  have hrecords : (Roll.ofDice term (front ++ d :: back)).recordsAt (positionBehind front)
      = d.records (positionBehind front) := Roll.ofDice_recordsAt hcell
  refine ⟨?_, fun j v hv => ?_, ?_, ?_⟩
  · rw [Roll.ofDice_getElem?_raw hcell, hlast]
  · have hextra : ([v], positionBehind front + 1 + j)
        ∈ ((front ++ d :: back).flatMap Die.cells).zipIdx := by
      rw [Nat.add_assoc, Nat.add_comm 1 j]
      refine mem_zipIdx_cells ?_
      rw [Die.cells, List.getElem?_cons_succ, List.getElem?_map, hv, Option.map_some]
    exact ⟨Roll.ofDice_getElem?_raw hextra, Roll.ofDice_recordsAt hextra⟩
  · rw [hrecords, ← h.replaced.ne_nil_iff, ← List.length_pos_iff, Die.length_records,
      List.length_pos_iff]
  · rw [hrecords, ← hlast]
    exact leads_stepRecords _ _ _

section Dice

variable {term : DiceTerm} {dice : List Die} (hf : ∀ d ∈ dice, d.Follows term)
include hf

theorem explode_of_mem_flatMap_extras {v : Int} (h : v ∈ dice.flatMap Die.extras) :
    term.explode := by
  obtain ⟨d, hd, hv⟩ := List.mem_flatMap.1 h
  exact (hf d hd).explode_of_mem_extras hv

/-- A low value is not the one that a die came to. -/
theorem count_flatMap_values (hr : term.reroll = .untilAbove) {v : Int}
    (hv : v ≤ term.rerollThreshold) :
    (dice.flatMap Die.values).count v = (dice.flatMap Die.extras).count v := by
  induction dice with
  | nil => rfl
  | cons d dice ih =>
    obtain ⟨hd, hf⟩ := List.forall_mem_cons.1 hf
    have hne : d.resolved ≠ v := by
      have := hd.lt_resolved hr
      omega
    rw [List.flatMap_cons, List.flatMap_cons, List.count_append, List.count_append, ih hf,
      Die.values, List.count_cons_of_ne hne]

theorem tellsOfDice_ofDice : (Roll.ofDice term dice).TellsOfDice term dice where
  raw := rfl
  die := by
    rintro front d back rfl
    exact tellsOf_ofDice (hf d (by simp))
  ordered := by
    refine List.pairwise_map.2 (pairwise_recordsFrom (fun _ _ h => Int.le_of_lt h) ?_ 0)
    intro d _ index
    refine List.pairwise_of_forall_mem_list fun a ha b hb => Int.le_of_eq ?_
    rw [Die.index_of_mem_records ha, Die.index_of_mem_records hb]
  position := by
    intro record hrecord
    obtain ⟨front, d, back, hdice, h⟩ := exists_die_of_mem_recordsFrom hrecord
    refine ⟨front, d, back, hdice, ?_⟩
    rw [Die.index_of_mem_records h, Nat.zero_add]
  replaced := by
    intro record hrecord
    obtain ⟨front, d, back, rfl, h⟩ := exists_die_of_mem_recordsFrom hrecord
    refine (hf d (by simp)).replaced.le_of_mem _ ?_
    rw [← d.map_replaced_records (0 + positionBehind front)]
    exact List.mem_map_of_mem h
  once hr := by
    refine List.pairwise_map.2 (pairwise_recordsFrom (fun _ _ h => Int.ne_of_lt h) ?_ 0)
    intro d hd index
    have hlength : (d.records index).length ≤ 1 := by
      rw [d.length_records]
      exact (hf d hd).replaced.length_le_one hr
    match d.records index, hlength with
    | [], _ => exact .nil
    | [_], _ => exact List.pairwise_singleton _ _
  untilAbove hr d hd := (hf d hd).lt_resolved hr
  lowRaw hr i v hi hv := by
    obtain ⟨front, d, back, j, rfl, rfl, hj⟩ := exists_die_of_getElem?_values hi
    have hd := hf d (by simp)
    cases j with
    | zero =>
      have := hd.lt_resolved hr
      obtain rfl : d.resolved = v := Option.some.inj hj
      omega
    | succ j =>
      have hextra : d.extras[j]? = some v := hj
      exact ⟨hd.explode_of_mem_extras (List.mem_of_getElem? hextra), front, d, back, j, rfl,
        by omega, hextra⟩
  lowFinal hr v hv := by
    have hle : (Roll.ofDice term dice).final.count v ≤ (dice.flatMap Die.extras).count v := by
      rw [← count_flatMap_values hf hr hv]
      exact (select_subperm _ _ _).count_le v
    refine ⟨hle, fun hm => explode_of_mem_flatMap_extras hf (v := v) ?_⟩
    rw [← List.count_pos_iff] at hm ⊢
    omega

end Dice

/-- The records of a roll tell of every die what happened to it. The dice of a roll follow the rules
of its term, and their draws, one die after the other, are what the source gave. At the position of
each die are records exactly if something is rerolled and its first draw was not above the
threshold; they lead from that draw to the value there, and each replaces a value that is not above
the threshold. There are none at other positions, where the dice are that an explosion brought, and
they are in the order of the positions. If dice are drawn again once, no position has two records; if
they are drawn again up to a value above the threshold, what is not above it was brought by an
explosion. -/
theorem tellsOfDice_of_rollTerm {term : DiceTerm} {s s' : Source} {r : Roll}
    (h : rollTerm term s = .ok r s') :
    ∃ dice, RolledDice term dice ∧ s.Gives term.faces (dice.flatMap Die.draws) ∧
      s' = s.after (drawsOf term.faces (dice.flatMap Die.draws)) ∧ r.TellsOfDice term dice := by
  obtain ⟨dice, hd, rfl, hg, rfl⟩ := rollTerm_eq_ok_iff.1 h
  exact ⟨dice, hd, hg, rfl, tellsOfDice_ofDice hd.follows⟩

/-- A die that is drawn again up to the highest face and brings two others, and a die behind it that
is drawn again. -/
theorem tellsOfDice_of_rerolled_explosion : ∃ r s',
    rollTerm {
        count := 3, faces := 6, explode := true, reroll := .untilAbove, rerollThreshold := 2 }
      (.ofScript [1, 2, 6, 6, 1, 4, 2, 3]) = .ok r s' ∧
    r.rerolls = [⟨0, 1, 2⟩, ⟨0, 2, 6⟩, ⟨4, 2, 3⟩] ∧
    ∃ dice, RolledDice {
        count := 3, faces := 6, explode := true, reroll := .untilAbove, rerollThreshold := 2 } dice ∧
      (Source.ofScript [1, 2, 6, 6, 1, 4, 2, 3]).Gives 6 (dice.flatMap Die.draws) ∧
      s' = (Source.ofScript [1, 2, 6, 6, 1, 4, 2, 3]).after
        (drawsOf 6 (dice.flatMap Die.draws)) ∧
      r.TellsOfDice {
        count := 3, faces := 6, explode := true, reroll := .untilAbove, rerollThreshold := 2 }
        dice := by
  have h : rollTerm {
        count := 3, faces := 6, explode := true, reroll := .untilAbove, rerollThreshold := 2 }
        (.ofScript [1, 2, 6, 6, 1, 4, 2, 3])
      = .ok {
          faces := 6, raw := [6, 6, 1, 4, 3], final := [6, 6, 1, 4, 3], total := 20,
          rerolls := [⟨0, 1, 2⟩, ⟨0, 2, 6⟩, ⟨4, 2, 3⟩] }
        ((Source.ofScript [1, 2, 6, 6, 1, 4, 2, 3]).after (drawsOf 6 [1, 2, 6, 6, 1, 4, 2, 3])) := by
    cbv
  exact ⟨_, _, h, rfl, tellsOfDice_of_rollTerm h⟩

end Tabletop
