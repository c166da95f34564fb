import Tabletop.Proofs.Dice.Scripts
import Tabletop.Proofs.Dice.Sorting

/-!
# Better dice

Draws none of which is lower make a roll that is not lower, although a higher
draw may change which dice count. Inserting into a sorted list passes the higher
value on at every place (`orderedInsert_cons_eq`), so sorting keeps the order
between two lists (`forall₂_sortResults`), and so does every selection
(`forall₂_select`), which cuts both at the same place. Dice that are neither
drawn again nor explode are the draws (`rollTerm_ofScript`).
-/

namespace Tabletop

/-! ## Sorting -/

/-- A value inserted into a sorted list: the lower one of it and the first one is in front, and the
higher one is inserted into the rest. -/
theorem orderedInsert_cons_eq {v first : Int} {rest : List Int}
    (h : (first :: rest).Pairwise (· ≤ ·)) : (first :: rest).orderedInsert (· ≤ ·) v
      = min v first :: rest.orderedInsert (· ≤ ·) (max v first) := by
  have hrest : rest.orderedInsert (· ≤ ·) first = first :: rest := by
    cases rest with
    | nil => rfl
    | cons second rest =>
      exact List.orderedInsert_cons_of_le _ _ (List.rel_of_pairwise_cons h List.mem_cons_self)
  by_cases hv : v ≤ first
  · rw [List.orderedInsert_cons_of_le _ _ hv, min_eq_left hv, max_eq_right hv, hrest]
  · rw [List.orderedInsert_of_not_le _ _ hv, min_eq_right (by omega), max_eq_left (by omega)]

theorem forall₂_orderedInsert {vs ws : List Int} (hvs : vs.Pairwise (· ≤ ·))
    (hws : ws.Pairwise (· ≤ ·)) (h : List.Forall₂ (· ≤ ·) vs ws) {v w : Int} (hvw : v ≤ w) :
    List.Forall₂ (· ≤ ·) (vs.orderedInsert (· ≤ ·) v) (ws.orderedInsert (· ≤ ·) w) := by
  induction h generalizing v w with
  | nil => exact .cons hvw .nil
  | cons hfirst _ ih =>
    rw [orderedInsert_cons_eq hvs, orderedInsert_cons_eq hws]
    exact .cons (min_le_min hvw hfirst) (ih hvs.of_cons hws.of_cons (max_le_max hvw hfirst))

section Results

variable {results results' : List Int} (h : List.Forall₂ (· ≤ ·) results results')
include h

theorem forall₂_insertionSort : List.Forall₂ (· ≤ ·) (results.insertionSort (· ≤ ·))
    (results'.insertionSort (· ≤ ·)) := by
  induction h with
  | nil => exact .nil
  | cons hfirst _ ih =>
    exact forall₂_orderedInsert (List.pairwise_insertionSort _ _) (List.pairwise_insertionSort _ _)
      ih hfirst

/-- Sorting keeps the order between two lists, place by place. -/
theorem forall₂_sortResults (descending : Bool) : List.Forall₂ (· ≤ ·)
    (sortResults descending results) (sortResults descending results') := by
  have hlow : List.Forall₂ (· ≤ ·) (sortResults false results) (sortResults false results') := by
    have heq : ∀ vs : List Int, sortResults false vs = vs.insertionSort (· ≤ ·) := fun vs =>
      List.mergeSort_eq_insertionSort (· ≤ ·) vs
    rw [heq, heq]
    exact forall₂_insertionSort h
  cases descending with
  | false => exact hlow
  | true =>
    rw [← Bool.not_false, sortResults_not, sortResults_not]
    exact List.forall₂_reverse_iff.2 hlow

/-- So does a selection, which cuts both lists at the same place. -/
theorem forall₂_select (keepDrop : KeepDrop) (count : Int) : List.Forall₂ (· ≤ ·)
    (select results keepDrop count) (select results' keepDrop count) := by
  have hsorted := forall₂_sortResults h keepDrop.descending
  unfold select
  split
  · exact h
  · dsimp only
    rw [hsorted.length_eq]
    split
    · exact List.forall₂_take _ hsorted
    · exact List.forall₂_drop _ hsorted

end Results

/-! ## Rolls -/

/-- A die that stays as it falls. -/
def Die.ofDraw (v : Int) : Die := ⟨v, [], []⟩

theorem flatMap_map_ofDraw {f : Die → List Int} (hf : ∀ v, f (Die.ofDraw v) = [v])
    (script : List Int) : (script.map Die.ofDraw).flatMap f = script := by
  rw [List.flatMap_map, funext hf]
  exact List.flatMap_singleton' script

/-- Dice that are neither drawn again nor explode are the draws. -/
theorem rollTerm_ofScript {term : DiceTerm} (hr : term.reroll = .never) (he : term.explode = false)
    {script : List Int} (hn : (script.length : Int) = term.count) : ∃ s',
    rollTerm term (.ofScript script) = .ok (Roll.ofDice term (script.map Die.ofDraw)) s' ∧
    (Roll.ofDice term (script.map Die.ofDraw)).final
      = select script term.keepDrop term.modifierCount := by
  have hfollows : ∀ d ∈ script.map Die.ofDraw, d.Follows term := by
    intro d hd
    obtain ⟨v, -, rfl⟩ := List.mem_map.1 hd
    exact ⟨.kept (.inl hr), .whole (by simp [he])⟩
  have hdice : RolledDice term (script.map Die.ofDraw) := ⟨by rw [List.length_map]; omega, hfollows⟩
  have hraw : (script.map Die.ofDraw).flatMap Die.values = script :=
    flatMap_map_ofDraw (fun _ => rfl) script
  have hdraws : (script.map Die.ofDraw).flatMap Die.draws = script :=
    flatMap_map_ofDraw (fun _ => rfl) script
  obtain ⟨s', h⟩ := rollTerm_draws hdice
  rw [hdraws] at h
  refine ⟨s', h, ?_⟩
  show select ((script.map Die.ofDraw).flatMap Die.values) _ _ = _
  rw [hraw]

/-- Better dice never make a lower roll: of dice that are neither drawn again nor explode, those
that fall at least as high as others, die by die, total at least as much, and what counts of them
is at least as high, from the lowest value up. -/
theorem total_le_of_forall₂ {term : DiceTerm} (hr : term.reroll = .never)
    (he : term.explode = false) {low high : List Int} (hn : (low.length : Int) = term.count)
    (h : List.Forall₂ (· ≤ ·) low high) :
    ∃ r s r' s', rollTerm term (.ofScript low) = .ok r s ∧
      rollTerm term (.ofScript high) = .ok r' s' ∧ r.total ≤ r'.total ∧
      List.Forall₂ (· ≤ ·) (sortResults false r.final) (sortResults false r'.final) := by
  have hn' : (high.length : Int) = term.count := by rw [← h.length_eq, hn]
  obtain ⟨s, hlow, hfinal⟩ := rollTerm_ofScript hr he hn
  obtain ⟨s', hhigh, hfinal'⟩ := rollTerm_ofScript hr he hn'
  have hle := forall₂_select h term.keepDrop term.modifierCount
  rw [← hfinal, ← hfinal'] at hle
  exact ⟨_, s, _, s', hlow, hhigh, hle.sum_le_sum, forall₂_sortResults hle false⟩

/-- Of three dice the lowest is dropped, which is another one when the second falls higher. -/
theorem total_le_of_higher_second_die : ∃ r s r' s',
    rollTerm { count := 3, faces := 6, keepDrop := .dropLow } (.ofScript [2, 1, 5]) = .ok r s ∧
    rollTerm { count := 3, faces := 6, keepDrop := .dropLow } (.ofScript [2, 4, 5]) = .ok r' s' ∧
    (([2, 1, 5] : List Int).length : Int) = 3 ∧
    List.Forall₂ (· ≤ ·) ([2, 1, 5] : List Int) [2, 4, 5] ∧ r.total ≤ r'.total ∧
    List.Forall₂ (· ≤ ·) (sortResults false r.final) (sortResults false r'.final) := by
  have hn : (([2, 1, 5] : List Int).length : Int) = 3 := by decide
  have h : List.Forall₂ (· ≤ ·) ([2, 1, 5] : List Int) [2, 4, 5] := by decide
  have hr : ({ count := 3, faces := 6, keepDrop := .dropLow } : DiceTerm).reroll = .never := rfl
  obtain ⟨r, s, r', s', hlow, hhigh, htotal, hfinal⟩ := total_le_of_forall₂ hr rfl hn h
  exact ⟨r, s, r', s', hlow, hhigh, hn, h, htotal, hfinal⟩

end Tabletop
