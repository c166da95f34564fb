import Tabletop.Proofs.Dice.Scripts
import Tabletop.Proofs.Dice.Selection

/-!
# Rolls that total zero

Which dice terms can total zero for draws in range (`DiceTerm.CanRollZero`).
Something counts unless as many dice are dropped as are rolled
(`one_le_total`), and then nothing counts exactly if each die has a single
value. A term has dice like that (`exists_single_value`), unless a reroll takes
every die to the highest face and the highest face explodes
(`DiceTerm.AlwaysBursts`): then each die has two values or more
(`Die.Follows.two_le_length_values`), more than are dropped.
-/

namespace Tabletop

namespace DiceTerm

/-- Every die comes to the highest face, since it is drawn again up to a value above all others, and
explodes there. -/
def AlwaysBursts (term : DiceTerm) : Prop :=
  term.explode ∧ term.reroll = .untilAbove ∧ term.rerollThreshold + 1 = term.faces

instance (term : DiceTerm) : Decidable term.AlwaysBursts :=
  inferInstanceAs (Decidable (_ ∧ _ ∧ _))

/-- Values from one up to the number of faces. -/
def InRange (term : DiceTerm) (vs : List Int) : Prop := ∀ v ∈ vs, 1 ≤ v ∧ v ≤ term.faces

/-- Some script of draws in range is rolled to a total of zero. -/
def CanRollZero (term : DiceTerm) : Prop :=
  ∃ script, term.InRange script ∧
    ∃ r s', rollTerm term (.ofScript script) = .ok r s' ∧ r.total = 0

end DiceTerm

variable {term : DiceTerm}

theorem canRollZero_iff_dice : term.CanRollZero ↔ ∃ dice, RolledDice term dice ∧
    term.InRange (dice.flatMap Die.draws) ∧ (Roll.ofDice term dice).total = 0 := by
  constructor
  · rintro ⟨script, hs, r, s', h, ht⟩
    obtain ⟨dice, hd, rfl, hg, -⟩ := rollTerm_eq_ok_iff.1 h
    exact ⟨dice, hd, fun v hv => hs v ((gives_ofScript_iff.1 hg).subset hv), ht⟩
  · rintro ⟨dice, hd, hr, ht⟩
    obtain ⟨s', h⟩ := rollTerm_draws hd
    exact ⟨_, hr, _, s', h, ht⟩

/-! ## Dice that always explode -/

section Bursts

variable {d : Die} (hf : d.Follows term)
include hf

/-- A die that is drawn again up to a value above the threshold comes to one. -/
theorem Die.Follows.lt_resolved (hr : term.reroll = .untilAbove) :
    term.rerollThreshold < d.resolved := by
  cases d with
  | mk first replacements extras =>
    rw [resolved]
    cases hf.replaced with
    | kept h =>
      rcases h with h | h
      · rw [hr] at h
        cases h
      · exact h
    | once h =>
      rw [hr] at h
      cases h
    | untilAbove h hlow low hl v hv =>
      simpa using hv

theorem Die.Follows.two_le_length_values (hb : term.AlwaysBursts) (hd : term.InRange d.draws) :
    2 ≤ d.values.length := by
  obtain ⟨he, hr, ht⟩ := hb
  have hmem : d.resolved ∈ d.draws := mem_draws_of_mem_values List.mem_cons_self
  have hlt := hf.lt_resolved hr
  have hle := (hd _ hmem).2
  have hextras : d.extras ≠ [] := by
    intro hnil
    have hexploded := hf.exploded
    rw [hnil, exploded_iff] at hexploded
    rcases hexploded with ⟨h, -⟩ | ⟨-, h⟩
    · exact h ⟨he, by omega⟩
    · exact not_onlyLast_nil _ h
  rw [Die.values, List.length_cons]
  have := List.length_pos_iff.2 hextras
  omega

end Bursts

/-! ## Dice with one value -/

/-- A value below the highest face, which is kept or replaces a first draw, or the highest face of a
term that does not explode. -/
theorem exists_single_value (hv : term.Valid) (hb : ¬ term.AlwaysBursts) :
    ∃ d : Die, d.Follows term ∧ d.extras = [] ∧ term.InRange d.draws := by
  have hfaces := hv.one_le_faces
  by_cases he : term.explode
  · have hfaces' : 2 ≤ term.faces := by
      have : term.faces ≠ 1 := fun h => hv.explode ⟨he, h⟩
      omega
    by_cases ht : term.reroll ≠ .never ∧ term.rerollThreshold + 1 = term.faces
    · -- Only a replacement that is not looked at is below the highest face.
      have honce : term.reroll = .once := by
        cases hr : term.reroll with
        | never => exact absurd hr ht.1
        | once => rfl
        | untilAbove => exact absurd ⟨he, hr, ht.2⟩ hb
      refine ⟨⟨1, [1], []⟩, ⟨.once honce ?_ 1, .whole fun h => ?_⟩, rfl, ?_⟩
      · show 1 ≤ term.rerollThreshold
        omega
      · have : 1 = term.faces := h.2
        omega
      · simp [DiceTerm.InRange, Die.draws]
        omega
    · refine ⟨⟨term.faces - 1, [], []⟩, ⟨.kept ?_, .whole fun h => ?_⟩, rfl, ?_⟩
      · by_cases hr : term.reroll = .never
        · exact .inl hr
        · have := hv.threshold hr
          have : term.rerollThreshold + 1 ≠ term.faces := fun h => ht ⟨hr, h⟩
          refine .inr ?_
          show term.rerollThreshold < term.faces - 1
          omega
      · have : term.faces - 1 = term.faces := h.2
        omega
      · simp [DiceTerm.InRange, Die.draws]
        omega
  · refine ⟨⟨term.faces, [], []⟩, ⟨.kept ?_, .whole fun h => he h.1⟩, rfl, ?_⟩
    · by_cases hr : term.reroll = .never
      · exact .inl hr
      · exact .inr (hv.threshold hr).2
    · simp [DiceTerm.InRange, Die.draws]
      omega

/-! ## Totals -/

/-- How many values count, where as many dice are dropped as are rolled. -/
theorem length_final_of_canTotalZero (hv : term.Valid) (hz : (Operand.dice term).CanTotalZero)
    (dice : List Die) : (Roll.ofDice term dice).final.length
      = (Roll.ofDice term dice).raw.length - term.count.toNat := by
  obtain ⟨hk, hm⟩ := hz
  have hcount := hv.one_le_count
  have hall : term.keepDrop ≠ .all ∧ term.keepDrop.isKeep = false := by
    rcases hk with hk | hk <;> rw [hk] <;> decide
  show (select _ term.keepDrop term.modifierCount).length = _
  rw [length_select hall.1 (by omega), hall.2, hm]
  rfl

/-- A term that keeps the rules can total zero exactly if it drops as many dice as it rolls and does
not explode with every die. -/
theorem canRollZero_iff (hv : term.Valid) :
    term.CanRollZero ↔ (Operand.dice term).CanTotalZero ∧ ¬ term.AlwaysBursts := by
  have hcount := hv.one_le_count
  rw [canRollZero_iff_dice]
  constructor
  · rintro ⟨dice, hd, hr, ht⟩
    have hone : ∀ v ∈ dice.flatMap Die.draws, 1 ≤ v := fun v hm => (hr v hm).1
    have hz : (Operand.dice term).CanTotalZero := Decidable.byContradiction fun hz => by
      have := one_le_total hv hz hd hone
      omega
    refine ⟨hz, fun hb => ?_⟩
    have htwo := mul_length_le_length_raw (fun d hm => (hd.follows d hm).two_le_length_values hb
      fun v hv => hr v (List.mem_flatMap.2 ⟨d, hm, hv⟩)) term
    have hfinal := length_final_of_canTotalZero hv hz dice
    have hlength := hd.length
    have hne : (Roll.ofDice term dice).final ≠ [] := List.ne_nil_of_length_pos (by omega)
    have : 1 ≤ (Roll.ofDice term dice).total :=
      one_le_foldr_add hne fun v hm => hone v (Roll.mem_draws_of_mem_final hm)
    omega
  · rintro ⟨hz, hb⟩
    obtain ⟨d, hf, he, hr⟩ := exists_single_value hv hb
    have hraw : (Roll.ofDice term (List.replicate term.count.toNat d)).raw.length
        = term.count.toNat := by
      show (List.flatMap Die.values _).length = _
      rw [List.length_flatMap, List.map_replicate, List.sum_replicate_nat, Die.values, he]
      simp
    have hfinal := length_final_of_canTotalZero hv hz (List.replicate term.count.toNat d)
    rw [hraw, Nat.sub_self, List.length_eq_zero_iff] at hfinal
    refine ⟨List.replicate term.count.toNat d,
      ⟨List.length_replicate, fun d' hm => List.eq_of_mem_replicate hm ▸ hf⟩, fun v hv => ?_, ?_⟩
    · obtain ⟨d', hm, hv⟩ := List.mem_flatMap.1 hv
      exact hr v (List.eq_of_mem_replicate hm ▸ hv)
    · show List.foldr _ _ (Roll.ofDice term _).final = 0
      rw [hfinal]
      rfl

end Tabletop
