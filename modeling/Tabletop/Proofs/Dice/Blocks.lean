import Tabletop.Proofs.Dice.Scripts

/-!
# The shape of a roll

The values of a roll are blocks, one for each die of its term: the value that
the die comes to, and behind it the values of the dice that it brings
(`blocks_of_rollTerm`). A block of a term that does not explode is one value
(`Die.Follows.values_eq`). A block of one that does has highest faces and
then another one (`Die.Follows.exists_values_eq`), so the values that are not
the highest face tell how many dice there are: by induction on the dice, one for
each of them (`countP_flatMap_values`).
-/

namespace Tabletop

variable {term : DiceTerm}

namespace Die.Follows

variable {d : Die} (h : d.Follows term)
include h

theorem values_eq (he : term.explode = false) : d.values = [d.resolved] := by
  cases d with
  | mk first replacements extras =>
    cases h.exploded with
    | whole _ => rfl
    | burst hb _ _ _ _ =>
      rw [he] at hb
      exact absurd hb.1 Bool.false_ne_true

/-- The block of a die that may explode: only its last value is not the highest face. -/
theorem exists_values_eq (he : term.explode = true) :
    ∃ high v, d.values = high ++ [v] ∧ (∀ w ∈ high, w = term.faces) ∧ v ≠ term.faces := by
  cases d with
  | mk first replacements extras =>
    rw [values, resolved]
    cases h.exploded with
    | whole hw =>
      refine ⟨[], replacements.getLastD first, rfl, by simp, fun hv => hw ⟨he, hv⟩⟩
    | burst hb high hh v hv =>
      refine ⟨replacements.getLastD first :: high, v, rfl, ?_, hv⟩
      exact List.forall_mem_cons.2 ⟨hb.2, hh⟩

theorem countP_values (he : term.explode = true) :
    d.values.countP (fun v => v ≠ term.faces) = 1 := by
  obtain ⟨high, v, hvalues, hh, hv⟩ := h.exists_values_eq he
  have hhigh : high.countP (fun v => v ≠ term.faces) = 0 := by
    rw [List.countP_eq_zero]
    intro w hw
    simp [hh w hw]
  rw [hvalues, List.countP_append, hhigh]
  simp [hv]

end Die.Follows

/-! ## Dice -/

section Dice

variable {dice : List Die} (hf : ∀ d ∈ dice, d.Follows term)
include hf

theorem length_flatMap_values (he : term.explode = false) :
    (dice.flatMap Die.values).length = dice.length := by
  induction dice with
  | nil => rfl
  | cons d dice ih =>
    obtain ⟨hd, hf⟩ := List.forall_mem_cons.1 hf
    rw [List.flatMap_cons, List.length_append, hd.values_eq he, ih hf, List.length_singleton,
      List.length_cons]
    omega

theorem countP_flatMap_values (he : term.explode = true) :
    (dice.flatMap Die.values).countP (fun v => v ≠ term.faces) = dice.length := by
  induction dice with
  | nil => rfl
  | cons d dice ih =>
    obtain ⟨hd, hf⟩ := List.forall_mem_cons.1 hf
    rw [List.flatMap_cons, List.countP_append, hd.countP_values he, ih hf, List.length_cons]
    omega

/-- The last value belongs to the last die. -/
theorem ne_faces_of_mem_getLast?_values (he : term.explode = true) :
    ∀ v ∈ (dice.flatMap Die.values).getLast?, v ≠ term.faces := by
  intro v hv
  rcases List.eq_nil_or_concat dice with rfl | ⟨front, d, rfl⟩
  · cases hv
  · obtain ⟨high, w, hvalues, -, hw⟩ := (hf d (by simp)).exists_values_eq he
    rw [List.concat_eq_append, List.flatMap_append, List.flatMap_singleton, hvalues,
      ← List.append_assoc, List.getLast?_concat, Option.mem_some_iff] at hv
    exact hv ▸ hw

end Dice

/-- The shape of a roll. Its values are blocks, one for each die of the term, and the dice follow the
rules of the term: the first value of a block is the first draw of the die if this is above the
threshold or nothing is rerolled, and otherwise the one replacement or the first replacement above
the threshold (`Replaced`); behind it are no more values unless it explodes, and then highest faces
up to and with a first other one (`Exploded`), the very next draws. The draws, die by die, are what
the source gives. So without explosions there is a value for each die; with them, there is a value
that is not the highest face for each die, and the last value is one. -/
theorem blocks_of_rollTerm {s s' : Source} {r : Roll} (hc : 0 ≤ term.count)
    (h : rollTerm term s = .ok r s') :
    (∃ dice : List Die, (dice.length : Int) = term.count ∧ (∀ d ∈ dice, d.Follows term) ∧
      r.raw = (dice.map Die.values).flatten ∧
      s.Gives term.faces (dice.flatMap Die.draws) ∧
      s' = s.after (drawsOf term.faces (dice.flatMap Die.draws))) ∧
    (term.explode = false → (r.raw.length : Int) = term.count) ∧
    (term.explode = true → (r.raw.countP (fun v => v ≠ term.faces) : Int) = term.count ∧
      ∀ v ∈ r.raw.getLast?, v ≠ term.faces) := by
  obtain ⟨dice, ⟨hn, hf⟩, rfl, hg, rfl⟩ := rollTerm_eq_ok_iff.1 h
  have hlen : (dice.length : Int) = term.count := by omega
  have hraw : (Roll.ofDice term dice).raw = dice.flatMap Die.values := rfl
  refine ⟨⟨dice, hlen, hf, ?_, hg, rfl⟩, fun he => ?_, fun he => ⟨?_, ?_⟩⟩
  · rw [hraw, List.flatMap_def]
  · rw [hraw, length_flatMap_values hf he, hlen]
  · rw [hraw, countP_flatMap_values hf he, hlen]
  · rw [hraw]
    exact ne_faces_of_mem_getLast?_values hf he

/-- A die that is rerolled up to the highest face and then brings a low one, which stays. -/
theorem blocks_of_rerolled_highest_face : ∃ r s',
    rollTerm {
        count := 2, faces := 6, explode := true, reroll := .untilAbove, rerollThreshold := 2 }
      (.ofScript [1, 2, 6, 6, 1, 4]) = .ok r s' ∧ (0 : Int) ≤ 2 ∧ r.raw = [6, 6, 1, 4] ∧
    (∃ dice : List Die, (dice.length : Int) = 2 ∧
      (∀ d ∈ dice, d.Follows {
        count := 2, faces := 6, explode := true, reroll := .untilAbove, rerollThreshold := 2 }) ∧
      r.raw = (dice.map Die.values).flatten ∧
      (Source.ofScript [1, 2, 6, 6, 1, 4]).Gives 6 (dice.flatMap Die.draws) ∧
      s' = (Source.ofScript [1, 2, 6, 6, 1, 4]).after (drawsOf 6 (dice.flatMap Die.draws))) ∧
    (r.raw.countP (fun v => v ≠ 6) : Int) = 2 ∧ ∀ v ∈ r.raw.getLast?, v ≠ 6 := by
  have h : rollTerm {
        count := 2, faces := 6, explode := true, reroll := .untilAbove, rerollThreshold := 2 }
        (.ofScript [1, 2, 6, 6, 1, 4])
      = .ok {
          faces := 6, raw := [6, 6, 1, 4], final := [6, 6, 1, 4], total := 17,
          rerolls := [⟨0, 1, 2⟩, ⟨0, 2, 6⟩] }
        ((Source.ofScript [1, 2, 6, 6, 1, 4]).after (drawsOf 6 [1, 2, 6, 6, 1, 4])) := by
    cbv
  have hc : (0 : Int) ≤ 2 := by decide
  obtain ⟨hblocks, -, hexplode⟩ := blocks_of_rollTerm hc h
  obtain ⟨hcount, hlast⟩ := hexplode rfl
  exact ⟨_, _, h, hc, rfl, hblocks, hcount, hlast⟩

end Tabletop
