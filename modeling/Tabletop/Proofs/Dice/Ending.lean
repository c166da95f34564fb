import Tabletop.Proofs.Dice.Blocks
import Tabletop.Proofs.Dice.Zero
import Tabletop.Proofs.Notation.Reading

/-!
# When rolling ends

A die may wait for a value above the threshold, and then for one that is not the
highest face. On a stream of draws that has both of them again and again
(`DiceTerm.SuppliedBy`) every wait ends:

* `exists_onlyLast`: draws up to a first one that passes, by induction on how far
  away one is;
* `exists_die`, `exists_dice`: a die, whose second wait begins where its first
  one ended, and some dice one after the other;
* `exists_rollTerm_eq_ok`: so a dice term returns after finitely many draws.

An endless term (`DiceTerm.Endless`) waits for a value that is not in range. No
die in range follows its rules (`Die.Follows.not_endless`), so it takes all the
draws that there are (`rollTerm_of_endless`), and no text with such a term is
read.
-/

namespace Tabletop

/-! ## Streams -/

/-- The values of a stream from a place on. -/
def window (stream : Nat → Int) (start n : Nat) : List Int := (List.range' start n).map stream

theorem window_append (stream : Nat → Int) (start m n : Nat) :
    window stream start m ++ window stream (start + m) n = window stream start (m + n) := by
  simp only [window, ← List.map_append, List.range'_append_1]

theorem window_prefix {m n : Nat} (h : m ≤ n) (stream : Nat → Int) :
    window stream 0 m <+: (List.range n).map stream := by
  obtain ⟨k, rfl⟩ := Nat.exists_eq_add_of_le h
  rw [List.range_eq_range']
  exact ⟨_, window_append stream 0 m k⟩

/-- A first value with a property, by induction on how far away one is. -/
theorem exists_onlyLast {p : Int → Prop} [DecidablePred p] {stream : Nat → Int}
    (h : ∀ n, ∃ k ≥ n, p (stream k)) (start : Nat) :
    ∃ n, OnlyLast (fun v => p v) (window stream start n) := by
  obtain ⟨k, hk, hp⟩ := h start
  obtain ⟨n, rfl⟩ := Nat.exists_eq_add_of_le hk
  clear hk
  induction n generalizing start with
  | zero => exact ⟨1, [], stream start, rfl, by simp, by simpa using hp⟩
  | succ n ih =>
    by_cases hv : p (stream start)
    · exact ⟨1, [], stream start, rfl, by simp, by simpa using hv⟩
    · have hp : p (stream (start + 1 + n)) := by
        rwa [Nat.add_right_comm]
      obtain ⟨m, hm⟩ := ih (start + 1) hp
      exact ⟨m + 1, hm.cons (by simpa using hv)⟩

/-! ## Terms that end -/

/-- A stream of draws that has the values that the dice of a term wait for, again and again. -/
structure DiceTerm.SuppliedBy (term : DiceTerm) (stream : Nat → Int) : Prop where
  above : term.reroll = .untilAbove → ∀ n, ∃ k ≥ n, term.rerollThreshold < stream k
  other : term.explode → ∀ n, ∃ k ≥ n, stream k ≠ term.faces

section Supplied

variable {term : DiceTerm} {stream : Nat → Int} (h : term.SuppliedBy stream)
include h

theorem exists_replaced (first : Int) (start : Nat) :
    ∃ n, Replaced term first (window stream start n) := by
  by_cases hf : first ≤ term.rerollThreshold
  · cases hr : term.reroll with
    | never => exact ⟨0, .kept (.inl hr)⟩
    | once => exact ⟨1, .once hr hf (stream start)⟩
    | untilAbove =>
      obtain ⟨n, hn⟩ := exists_onlyLast (p := (term.rerollThreshold < ·)) (h.above hr) start
      exact ⟨n, replaced_iff.2 (.inr ⟨hf, .inr ⟨hr, hn⟩⟩)⟩
  · exact ⟨0, .kept (.inr (by omega))⟩

theorem exists_exploded (value : Int) (start : Nat) :
    ∃ n, Exploded term value (window stream start n) := by
  by_cases hb : term.explode ∧ value = term.faces
  · obtain ⟨n, hn⟩ := exists_onlyLast (p := (· ≠ term.faces)) (h.other hb.1) start
    exact ⟨n, exploded_iff.2 (.inr ⟨hb, hn⟩)⟩
  · exact ⟨0, .whole hb⟩

/-- A die from a place on. It may wait twice, and the second wait begins where the first one ended. -/
theorem exists_die (start : Nat) :
    ∃ n, ∃ d : Die, d.Follows term ∧ d.draws = window stream start n := by
  obtain ⟨m, hm⟩ := exists_replaced h (stream start) (start + 1)
  obtain ⟨n, hn⟩ := exists_exploded h
    ((window stream (start + 1) m).getLastD (stream start)) (start + 1 + m)
  refine ⟨1 + m + n, ⟨stream start, _, _⟩, ⟨hm, hn⟩, ?_⟩
  rw [← window_append, ← window_append, Nat.add_assoc]
  rfl

/-- Some dice from a place on, by induction on how many they are. -/
theorem exists_dice (count start : Nat) : ∃ n, ∃ dice : List Die, dice.length = count ∧
    (∀ d ∈ dice, d.Follows term) ∧ dice.flatMap Die.draws = window stream start n := by
  induction count generalizing start with
  | zero => exact ⟨0, [], rfl, by simp, rfl⟩
  | succ count ih =>
    obtain ⟨m, d, hd, hdraws⟩ := exists_die h start
    obtain ⟨n, dice, rfl, hf, hrest⟩ := ih (start + m)
    refine ⟨m + n, d :: dice, rfl, List.forall_mem_cons.2 ⟨hd, hf⟩, ?_⟩
    rw [List.flatMap_cons, hdraws, hrest, window_append]

/-- A term whose dice do not wait in vain returns after finitely many draws. -/
theorem exists_rollTerm_eq_ok : ∃ n r, ∀ limit, n ≤ limit →
    rollTerm term (.ofStream limit stream) = .ok r
      ((Source.ofStream limit stream).after (drawsOf term.faces ((List.range n).map stream))) := by
  obtain ⟨n, dice, hn, hf, hdraws⟩ := exists_dice h term.count.toNat 0
  refine ⟨n, Roll.ofDice term dice, fun limit hl => ?_⟩
  refine rollTerm_eq_ok_iff.2 ⟨dice, ⟨hn, hf⟩, rfl, gives_ofStream_iff.2 ?_, ?_⟩
  · rw [hdraws]
    exact window_prefix hl stream
  · rw [hdraws, List.range_eq_range']
    rfl

end Supplied

/-! ## Terms that do not end -/

/-- A term whose dice wait for a value that is not in range: every value is the highest face and
brings another die, or no value is above the threshold that a die must come to. -/
def DiceTerm.Endless (term : DiceTerm) : Prop :=
  (term.explode ∧ term.faces = 1) ∨ (term.reroll = .untilAbove ∧ term.faces ≤ term.rerollThreshold)

instance (term : DiceTerm) : Decidable term.Endless :=
  inferInstanceAs (Decidable ((_ ∧ _) ∨ (_ ∧ _)))

theorem DiceTerm.Valid.not_endless {term : DiceTerm} (h : term.Valid) : ¬ term.Endless := by
  rintro (he | ⟨hr, ht⟩)
  · exact h.explode he
  · have := h.threshold (by simp [hr])
    omega

/-- No die in range follows the rules of an endless term. -/
theorem Die.Follows.not_endless {term : DiceTerm} {d : Die} (h : d.Follows term)
    (hd : term.InRange d.draws) : ¬ term.Endless := by
  have hvalues : ∀ v ∈ d.values, 1 ≤ v ∧ v ≤ term.faces := fun v hv =>
    hd v (mem_draws_of_mem_values hv)
  rintro (⟨he, hfaces⟩ | ⟨hr, ht⟩)
  · obtain ⟨high, v, hsplit, -, hv⟩ := h.exists_values_eq he
    have := hvalues v (by simp [hsplit])
    omega
  · have := h.lt_resolved hr
    have := hvalues d.resolved List.mem_cons_self
    omega

/-- An endless term takes all the draws that there are. -/
theorem rollTerm_of_endless {term : DiceTerm} (he : term.Endless) (hc : 1 ≤ term.count)
    {stream : Nat → Int} (hs : ∀ k, 1 ≤ stream k ∧ stream k ≤ term.faces) (limit : Nat) :
    ∃ s', rollTerm term (.ofStream limit stream) = .error (.overLimit limit) s' ∧
      limit ≤ s'.drawn.size := by
  cases h : rollTerm term (.ofStream limit stream) with
  | ok r s' =>
    obtain ⟨dice, hdice, -, hg, -⟩ := rollTerm_eq_ok_iff.1 h
    have hfront := gives_ofStream_iff.1 hg
    cases dice with
    | nil =>
      have : 0 = term.count.toNat := hdice.length
      omega
    | cons d dice =>
      refine absurd he ((hdice.follows d List.mem_cons_self).not_endless fun v hv => ?_)
      obtain ⟨k, -, rfl⟩ := List.mem_map.1 (hfront.subset (List.mem_append_left _ hv))
      exact hs k
  | error fault s' =>
    obtain ⟨ds, rfl, ⟨rfl, hl⟩ | ⟨-, faces, ha⟩⟩ := (exact_rollTerm term).error h
    · exact ⟨_, rfl, hl⟩
    · cases ha

/-- When rolling ends. A dice term returns after finitely many draws of a stream that has values
above the threshold again and again, if its dice are drawn again up to one, and values other than the
highest face, if its dice explode. A term of which every value explodes, or no value is above the
threshold that its dice must come to, does not return for any stream of draws in range, however many
it may take; and no line that is derived with such a term is read. -/
theorem rollTerm_ends (term : DiceTerm) :
    (∀ stream, term.SuppliedBy stream → ∃ n r, ∀ limit, n ≤ limit →
      rollTerm term (.ofStream limit stream) = .ok r
        ((Source.ofStream limit stream).after (drawsOf term.faces ((List.range n).map stream)))) ∧
    (term.Endless → 1 ≤ term.count → ∀ stream, (∀ k, 1 ≤ stream k ∧ stream k ≤ term.faces) →
      ∀ limit, ∃ s', rollTerm term (.ofStream limit stream) = .error (.overLimit limit) s' ∧
        limit ≤ s'.drawn.size) ∧
    (term.Endless → ∀ d : LineSpelling, d.WellSpelled → term ∈ d.tree.diceTerms →
      ∀ line : Text, d.text = line.strip.lowercase →
        ∃ fault, Expression.parse line = .error fault) := by
  refine ⟨fun stream h => exists_rollTerm_eq_ok h,
    fun he hc stream hs => rollTerm_of_endless he hc hs, fun he d hd hm line ht => ?_⟩
  exact exists_parse_eq_error hd (fun hv => (hv.of_mem_diceTerms hm).not_endless he) ht

/-- Dice that are drawn again and explode, on draws that go round the faces; and a die of one face
that explodes, which waits for another value, and a line that asks for it. -/
theorem rollTerm_ends_of_draws_in_turn :
    DiceTerm.SuppliedBy {
        count := 4, faces := 6, explode := true, reroll := .untilAbove, rerollThreshold := 2 }
      (fun k => k % 6 + 1) ∧
    (∃ n r, ∀ limit, n ≤ limit →
      rollTerm {
          count := 4, faces := 6, explode := true, reroll := .untilAbove, rerollThreshold := 2 }
        (.ofStream limit fun k => k % 6 + 1) = .ok r
          ((Source.ofStream limit fun k => k % 6 + 1).after
            (drawsOf 6 ((List.range n).map fun k : Nat => (k % 6 + 1 : Int))))) ∧
    DiceTerm.Endless { faces := 1, explode := true, source := "d1!" } ∧
    (∀ limit, ∃ s', rollTerm { faces := 1, explode := true, source := "d1!" }
        (.ofStream limit fun _ => 1) = .error (.overLimit limit) s' ∧ limit ≤ s'.drawn.size) ∧
    ∃ fault, Expression.parse " D1!\n" = .error fault := by
  have hsupplied : DiceTerm.SuppliedBy {
        count := 4, faces := 6, explode := true, reroll := .untilAbove, rerollThreshold := 2 }
      (fun k => k % 6 + 1) := by
    constructor
    · intro _ n
      refine ⟨6 * n + 2, by omega, ?_⟩
      show (2 : Int) < _
      omega
    · intro _ n
      refine ⟨6 * n, by omega, ?_⟩
      show _ ≠ (6 : Int)
      omega
  have hendless : DiceTerm.Endless { faces := 1, explode := true, source := "d1!" } := by decide
  obtain ⟨hends, -, -⟩ := rollTerm_ends {
    count := 4, faces := 6, explode := true, reroll := .untilAbove, rerollThreshold := 2 }
  obtain ⟨-, hwaits, hrefused⟩ := rollTerm_ends { faces := 1, explode := true, source := "d1!" }
  refine ⟨hsupplied, hends _ hsupplied, hendless, ?_, ?_⟩
  · exact hwaits hendless (by decide) (fun _ => 1) (fun _ => by decide)
  · exact hrefused hendless ⟨.dice ⟨[], "1", .all, [], true, .never, []⟩, []⟩ (by decide)
      (by decide) _ (by decide)

end Tabletop
