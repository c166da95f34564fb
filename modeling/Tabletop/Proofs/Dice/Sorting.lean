import Mathlib
import Tabletop.Proofs.Dice.Selection

/-!
# Laws of keeping and dropping

Sorted results do not depend on the order that they came in
(`sortResults_congr`), and from the highest down they are the reverse of what
they are from the lowest up (`sortResults_not`). A selection is the front of them
or what is behind it, so the laws of selections are laws about the front of a
sorted list:

* `select_append_select`: what is kept and what is dropped are all the results;
* `take_sortResults`: the front is the reverse of the back of the opposite order;
* `forall₂_take_of_sublist`: as many values from anywhere in the list come, one
  by one, behind those in front, so that the sum of the front is extreme
  (`isGreatest_sum_select`, `isLeast_sum_select`).
-/

namespace Tabletop

/-! ## Sorted results -/

theorem sortedLE_sortResults (results : List Int) : (sortResults false results).SortedLE :=
  List.sortedLE_mergeSort

theorem sortedGE_sortResults (results : List Int) : (sortResults true results).SortedGE :=
  List.sortedGE_mergeSort

/-- Results in another order are sorted in the same way. -/
theorem sortResults_congr {results results' : List Int} (h : results.Perm results')
    (descending : Bool) : sortResults descending results = sortResults descending results' := by
  have hp : (sortResults descending results).Perm (sortResults descending results') :=
    (sortResults_perm descending results).trans (h.trans (sortResults_perm descending results').symm)
  cases descending with
  | false => exact hp.eq_of_sortedLE (sortedLE_sortResults _) (sortedLE_sortResults _)
  | true => exact hp.eq_of_sortedGE (sortedGE_sortResults _) (sortedGE_sortResults _)

theorem sortResults_not (descending : Bool) (results : List Int) :
    sortResults (!descending) results = (sortResults descending results).reverse := by
  have hp : (sortResults false results).Perm (sortResults true results) :=
    (sortResults_perm false results).trans (sortResults_perm true results).symm
  have hlow := hp.eq_reverse_of_sortedLE_of_sortedGE (sortedLE_sortResults _) (sortedGE_sortResults _)
  cases descending with
  | false => rw [hlow, List.reverse_reverse, Bool.not_false]
  | true => rw [Bool.not_true, hlow]

/-- The front of sorted results is the reverse of the back of the opposite order. -/
theorem take_sortResults (descending : Bool) {results : List Int} {n : Nat}
    (h : n ≤ results.length) : (sortResults descending results).take n
      = ((sortResults (!descending) results).drop (results.length - n)).reverse := by
  have hn : results.length - (results.length - n) = n := by omega
  rw [sortResults_not, List.drop_reverse, length_sortResults, hn, List.reverse_reverse]

/-! ## Selections -/

section Select

variable {results : List Int} {keepDrop : KeepDrop} {count : Int}

/-- What is kept and what is dropped of the sorted results are all of them. -/
theorem select_append_select {drop : KeepDrop} (hk : keepDrop.isKeep) (hd : drop.isDrop)
    (h : drop.descending = keepDrop.descending) :
    select results keepDrop count ++ select results drop count
      = sortResults keepDrop.descending results := by
  rw [select_of_isKeep hk, select_of_isDrop hd, h, List.take_append_drop]

/-- How many values are kept, where a negative count is counted from the end. -/
theorem length_select_of_isKeep (h : keepDrop.isKeep) :
    ((select results keepDrop count).length : Int)
      = min (max 0 (if count < 0 then results.length + count else count)) results.length := by
  rw [select_of_isKeep h, List.length_take, length_sortResults, cutAt]
  split <;> omega

/-- A selection of sorted results does not depend on the order that they came in. -/
theorem select_congr {results' : List Int} (hk : keepDrop ≠ .all) (h : results.Perm results') :
    select results keepDrop count = select results' keepDrop count := by
  rw [select, select, if_neg hk, if_neg hk, sortResults_congr h]

/-- What is kept from one end is dropped from the other, in the opposite order. -/
theorem select_eq_reverse_select {drop : KeepDrop} (hk : keepDrop.isKeep) (hd : drop.isDrop)
    (h : drop.descending = !keepDrop.descending) (h₀ : 0 ≤ count) (h₁ : count ≤ results.length) :
    select results keepDrop count = (select results drop (results.length - count)).reverse := by
  have hcut : ((results.length : Int) - count).toNat = results.length - count.toNat := by omega
  rw [select_of_isKeep hk, select_of_isDrop hd, h, cutAt_of_nonneg h₀, cutAt_of_nonneg (by omega),
    hcut, take_sortResults _ (by omega)]

end Select

/-! ## Sums -/

/-- Some values of a sorted list come, one by one, behind those in front of it. By induction on the
list: whichever its first value is, the other values are among the rest. -/
theorem forall₂_take_of_sublist {R : Int → Int → Prop} (hrefl : ∀ v, R v v) {sorted vs : List Int}
    (hs : sorted.Pairwise R) (h : vs.Sublist sorted) :
    List.Forall₂ R (sorted.take vs.length) vs := by
  induction sorted generalizing vs with
  | nil =>
    obtain rfl := List.sublist_nil.1 h
    exact .nil
  | cons first rest ih =>
    obtain ⟨hfirst, hrest⟩ := List.pairwise_cons.1 hs
    cases vs with
    | nil => exact .nil
    | cons v vs =>
      have hv : R first v := by
        rcases List.mem_cons.1 (h.subset List.mem_cons_self) with rfl | hm
        · exact hrefl v
        · exact hfirst v hm
      exact .cons hv (ih hrest h.tail)

/-- The sums of as many of the results as a count says. -/
def sumsOf (results : List Int) (count : Int) : Set Int :=
  { total | ∃ vs : List Int, vs.Subperm results ∧ (vs.length : Int) = count ∧ vs.sum = total }

section Sums

variable {results : List Int} {keepDrop : KeepDrop} {count : Int}

theorem sum_select_mem_sumsOf (h : keepDrop.isKeep) (h₀ : 0 ≤ count) (h₁ : count ≤ results.length) :
    (select results keepDrop count).sum ∈ sumsOf results count := by
  refine ⟨_, select_subperm _ _ _, ?_, rfl⟩
  rw [length_select_of_isKeep h, if_neg (by omega)]
  omega

/-- Of as many results as are kept, each comes behind one that is kept. -/
theorem exists_forall₂_of_mem_sumsOf {R : Int → Int → Prop} (hrefl : ∀ v, R v v)
    (keepDrop : KeepDrop) (h : keepDrop.isKeep)
    (hs : (sortResults keepDrop.descending results).Pairwise R) {total : Int}
    (ht : total ∈ sumsOf results count) :
    ∃ vs : List Int, List.Forall₂ R (select results keepDrop count) vs ∧ vs.sum = total := by
  obtain ⟨vs, hsub, hlength, rfl⟩ := ht
  have hsorted : vs.Subperm (sortResults keepDrop.descending results) :=
    hsub.trans (sortResults_perm _ _).symm.subperm
  obtain ⟨vs', hperm, hsublist⟩ := hsorted
  refine ⟨vs', ?_, hperm.sum_eq⟩
  have hcut : cutAt count results.length = vs'.length := by
    rw [cutAt_of_nonneg (by omega), hperm.length_eq]
    omega
  rw [select_of_isKeep h, hcut]
  exact forall₂_take_of_sublist hrefl hs hsublist

theorem isGreatest_sum_select (h₀ : 0 ≤ count) (h₁ : count ≤ results.length) :
    IsGreatest (sumsOf results count) (select results .keepHigh count).sum := by
  refine ⟨sum_select_mem_sumsOf rfl h₀ h₁, fun total ht => ?_⟩
  obtain ⟨vs, hvs, rfl⟩ := exists_forall₂_of_mem_sumsOf (R := (· ≥ ·)) (fun _ => le_refl _) .keepHigh
    rfl (sortedGE_sortResults results).pairwise ht
  exact hvs.flip.sum_le_sum

theorem isLeast_sum_select (h₀ : 0 ≤ count) (h₁ : count ≤ results.length) :
    IsLeast (sumsOf results count) (select results .keepLow count).sum := by
  refine ⟨sum_select_mem_sumsOf rfl h₀ h₁, fun total ht => ?_⟩
  obtain ⟨vs, hvs, rfl⟩ := exists_forall₂_of_mem_sumsOf (R := (· ≤ ·)) (fun _ => le_refl _) .keepLow
    rfl (sortedLE_sortResults results).pairwise ht
  exact hvs.sum_le_sum

end Sums

/-- The laws of keeping and dropping. For every count, the highest values that are kept and then the
others that are dropped with the same count are the results from the highest down, and the same of
the lowest from the lowest up; a count below zero is counted from the end, and one past the end keeps
all. What is kept from one end is what is dropped from the other, in the opposite order. No selection
but that of everything depends on the order of the results. And the highest values have the greatest
sum that as many of the results have, the lowest the least. -/
theorem select_laws (results : List Int) :
    (∀ count : Int,
      (select results .keepHigh count ++ select results .dropHigh count).SortedGE ∧
      (select results .keepHigh count ++ select results .dropHigh count).Perm results ∧
      (select results .keepLow count ++ select results .dropLow count).SortedLE ∧
      (select results .keepLow count ++ select results .dropLow count).Perm results ∧
      ∀ keepDrop ∈ [KeepDrop.keepHigh, .keepLow], ((select results keepDrop count).length : Int)
        = min (max 0 (if count < 0 then results.length + count else count)) results.length) ∧
    (∀ count : Int, 0 ≤ count → count ≤ results.length →
      select results .keepHigh count = (select results .dropLow (results.length - count)).reverse ∧
      select results .keepLow count = (select results .dropHigh (results.length - count)).reverse) ∧
    (∀ keepDrop count results', keepDrop ≠ .all → results.Perm results' →
      select results keepDrop count = select results' keepDrop count) ∧
    (∀ count : Int, 0 ≤ count → count ≤ results.length →
      IsGreatest (sumsOf results count) (select results .keepHigh count).sum ∧
      IsLeast (sumsOf results count) (select results .keepLow count).sum) := by
  have hhigh : ∀ count, select results .keepHigh count ++ select results .dropHigh count
      = sortResults true results := fun _ => select_append_select rfl rfl rfl
  have hlow : ∀ count, select results .keepLow count ++ select results .dropLow count
      = sortResults false results := fun _ => select_append_select rfl rfl rfl
  refine ⟨fun count => ?_, fun count h₀ h₁ => ⟨?_, ?_⟩, fun _ _ _ hk h => select_congr hk h,
    fun count h₀ h₁ => ⟨isGreatest_sum_select h₀ h₁, isLeast_sum_select h₀ h₁⟩⟩
  · rw [hhigh, hlow]
    refine ⟨sortedGE_sortResults _, sortResults_perm _ _, sortedLE_sortResults _,
      sortResults_perm _ _, ?_⟩
    simp only [List.forall_mem_cons, List.not_mem_nil, false_imp_iff, implies_true, and_true]
    exact ⟨length_select_of_isKeep rfl, length_select_of_isKeep rfl⟩
  · exact select_eq_reverse_select rfl rfl rfl h₀ h₁
  · exact select_eq_reverse_select rfl rfl rfl h₀ h₁

/-- Two of four results, of which two are alike, and one from the end. -/
theorem select_laws_of_tied_results :
    (0 : Int) ≤ 2 ∧ 2 ≤ (([3, 5, 1, 5] : List Int).length : Int) ∧
    ([3, 5, 1, 5] : List Int).Perm [5, 1, 5, 3] ∧
    select [3, 5, 1, 5] .keepHigh 2 = (select [3, 5, 1, 5] .dropLow 2).reverse ∧
    select [3, 5, 1, 5] .dropLow (-1) = select [5, 1, 5, 3] .dropLow (-1) ∧
    IsGreatest (sumsOf [3, 5, 1, 5] 2) 10 ∧ IsLeast (sumsOf [3, 5, 1, 5] 2) 4 := by
  have h₀ : (0 : Int) ≤ 2 := by decide
  have h₁ : 2 ≤ (([3, 5, 1, 5] : List Int).length : Int) := by decide
  have hperm : ([3, 5, 1, 5] : List Int).Perm [5, 1, 5, 3] := by decide
  have hhigh : (select [3, 5, 1, 5] .keepHigh 2).sum = 10 := by cbv
  have hlow : (select [3, 5, 1, 5] .keepLow 2).sum = 4 := by cbv
  obtain ⟨-, hmirror, horder, hsum⟩ := select_laws [3, 5, 1, 5]
  obtain ⟨hgreatest, hleast⟩ := hsum 2 h₀ h₁
  rw [hhigh] at hgreatest
  rw [hlow] at hleast
  exact ⟨h₀, h₁, hperm, (hmirror 2 h₀ h₁).1, horder _ (-1) _ (by decide) hperm, hgreatest, hleast⟩

end Tabletop
