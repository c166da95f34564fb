import Tabletop.Proofs.Dice.Drawing

/-!
# Rolling by a script

Which draws a source is about to give decides how dice fall. `Source.Gives` says
that the next values of a source are some values, and `Returns x outcome` that a
computation returns exactly if the source gives the draws of one of its
outcomes, and then has taken these draws and no others. All rolling of dice does
so, and fails only where the draws end (`Exact`). That is closed under sequencing
(`Exact.bind`), so there is one lemma for each step:

* `exact_draw`, `exact_drawUntil`: one draw, and draws up to a first one, by
  induction on the values in front of it;
* `exact_rollDie`, `exact_rollDice`: a die that follows the rules of its term,
  and some dice one after the other;
* `rollTerm_eq_ok_iff`, `draws_rollTerm`: a dice term returns a roll exactly if it
  is the roll of dice whose draws the source gives, and fails only where they end.

What a script gives is in front of the script (`gives_ofScript_iff`), and what a
stream gives in front of the stream, up to the limit (`gives_ofStream_iff`).
-/

namespace Tabletop

/-- The next values that a source gives for dice with some faces. -/
def Source.Gives (faces : Int) : Source → List Int → Prop
  | _, [] => True
  | s, v :: vs => (s.drawn.size < s.limit ∧ s.answer s.drawn.size faces = some v) ∧
    Gives faces (s.after (drawsOf faces [v])) vs

/-- A computation that returns exactly if its source gives the draws of an outcome, for dice with
some faces. It has then taken them. -/
def Returns {α : Type} (faces : Int) (x : Rolling α) (outcome : α → List Int → Prop) : Prop :=
  ∀ s a s', x s = .ok a s' ↔
    ∃ vs, outcome a vs ∧ s.Gives faces vs ∧ s' = s.after (drawsOf faces vs)

variable {faces : Int}

theorem Source.gives_append {s : Source} {vs ws : List Int} :
    s.Gives faces (vs ++ ws) ↔
      s.Gives faces vs ∧ (s.after (drawsOf faces vs)).Gives faces ws := by
  induction vs generalizing s with
  | nil => simp [Gives, drawsOf]
  | cons v vs ih =>
    have hafter : (s.after (drawsOf faces [v])).after (drawsOf faces vs)
        = s.after (drawsOf faces (v :: vs)) := by
      rw [Source.after_after, ← drawsOf_append, List.singleton_append]
    rw [List.cons_append, Gives, Gives, ih, hafter, ← and_assoc]

namespace Returns

variable {α β : Type} {x : Rolling α} {p q : α → List Int → Prop}

theorem congr (h : Returns faces x p) (hpq : ∀ a vs, p a vs ↔ q a vs) : Returns faces x q := by
  intro s a s'
  rw [h s a s']
  simp only [hpq]

theorem pure (a : α) : Returns faces (Pure.pure a) fun b vs => b = a ∧ vs = [] := by
  intro s b s'
  rw [rolling_pure_eq_ok_iff]
  constructor
  · rintro ⟨rfl, rfl⟩
    exact ⟨[], ⟨rfl, rfl⟩, trivial, (Source.after_nil _).symm⟩
  · rintro ⟨_, ⟨rfl, rfl⟩, -, rfl⟩
    exact ⟨rfl, (Source.after_nil _).symm⟩

/-- The second of two steps takes its draws behind those of the first one. -/
theorem bind {f : α → Rolling β} {r : α → β → List Int → Prop} (hx : Returns faces x p)
    (hf : ∀ a, Returns faces (f a) (r a)) :
    Returns faces (x >>= f) fun b vs => ∃ a us ws, p a us ∧ r a b ws ∧ vs = us ++ ws := by
  intro s b s'
  rw [rolling_bind_eq_ok_iff]
  constructor
  · rintro ⟨a, s₁, ha, hb⟩
    obtain ⟨us, hp, hus, rfl⟩ := (hx s a s₁).1 ha
    obtain ⟨ws, hr, hws, rfl⟩ := (hf a _ b s').1 hb
    refine ⟨us ++ ws, ⟨a, us, ws, hp, hr, rfl⟩, Source.gives_append.2 ⟨hus, hws⟩, ?_⟩
    rw [Source.after_after, drawsOf_append]
  · rintro ⟨_, ⟨a, us, ws, hp, hr, rfl⟩, hg, rfl⟩
    obtain ⟨hus, hws⟩ := Source.gives_append.1 hg
    refine ⟨a, _, (hx s a _).2 ⟨us, hp, hus, rfl⟩, (hf a _ b _).2 ⟨ws, hr, hws, ?_⟩⟩
    rw [Source.after_after, drawsOf_append]

end Returns

/-- A computation that returns exactly by the draws of its outcomes, and fails only where the draws
end. -/
structure Exact {α : Type} (faces : Int) (x : Rolling α) (outcome : α → List Int → Prop) : Prop where
  returns : Returns faces x outcome
  error {s : Source} {fault : RollFault} {s' : Source} : x s = .error fault s' →
    ∃ ds, s' = s.after ds ∧ fault.IsEnd s'

namespace Exact

variable {α β : Type} {x : Rolling α} {p q : α → List Int → Prop}

theorem congr (h : Exact faces x p) (hpq : ∀ a vs, p a vs ↔ q a vs) : Exact faces x q where
  returns := h.returns.congr hpq
  error := h.error

theorem pure (a : α) : Exact faces (Pure.pure a) fun b vs => b = a ∧ vs = [] where
  returns := .pure a
  error h := by cases h

theorem bind {f : α → Rolling β} {r : α → β → List Int → Prop} (hx : Exact faces x p)
    (hf : ∀ a, Exact faces (f a) (r a)) :
    Exact faces (x >>= f) fun b vs => ∃ a us ws, p a us ∧ r a b ws ∧ vs = us ++ ws where
  returns := hx.returns.bind fun a => (hf a).returns
  error h := by
    rcases rolling_bind_eq_error_iff.1 h with h₁ | ⟨a, s₁, h₁, h₂⟩
    · exact hx.error h₁
    · obtain ⟨us, -, -, rfl⟩ := (hx.returns _ a s₁).1 h₁
      obtain ⟨ds, rfl, he⟩ := (hf a).error h₂
      exact ⟨_, Source.after_after _ _ _, he⟩

theorem draws (h : Exact faces x p) : Draws x fun a ds => ∃ vs, p a vs ∧ ds = drawsOf faces vs where
  ok hx := by
    obtain ⟨vs, hp, -, rfl⟩ := (h.returns _ _ _).1 hx
    exact ⟨_, rfl, vs, hp, rfl⟩
  error hx := by
    obtain ⟨ds, hs, he⟩ := h.error hx
    exact ⟨ds, hs, .inl he⟩

end Exact

/-! ## Draws -/

theorem returns_draw (faces : Int) : Returns faces (draw faces) fun v vs => vs = [v] := by
  intro s v s'
  have hpush : s.after (drawsOf faces [v]) = { s with drawn := s.drawn.push { faces, value := v } } := by
    simp [Source.after, drawsOf]
  simp only [exists_eq_left, Source.Gives, and_true, hpush]
  unfold draw
  by_cases hl : s.limit ≤ s.drawn.size
  · rw [if_pos hl]
    constructor
    · intro h
      cases h
    · rintro ⟨⟨hlt, -⟩, -⟩
      omega
  · rw [if_neg hl]
    have hlt : s.drawn.size < s.limit := by omega
    cases ha : s.answer s.drawn.size faces with
    | none => simp
    | some w =>
      simp only [EStateM.Result.ok.injEq, Option.some.injEq, hlt, true_and]
      constructor
      · rintro ⟨rfl, rfl⟩
        exact ⟨rfl, rfl⟩
      · rintro ⟨rfl, rfl⟩
        exact ⟨rfl, rfl⟩

theorem exact_draw (faces : Int) : Exact faces (draw faces) fun v vs => vs = [v] where
  returns := returns_draw faces
  error {s _ _} h := by
    unfold draw at h
    split at h
    · rename_i hl
      cases h
      exact ⟨[], (Source.after_nil s).symm, .inl ⟨rfl, hl⟩⟩
    · split at h
      · rename_i ha
        cases h
        exact ⟨[], (Source.after_nil s).symm, .inr ⟨rfl, faces, ha⟩⟩
      · cases h

theorem not_onlyLast_nil (stop : Int → Bool) : ¬ OnlyLast stop [] := by
  rintro ⟨init, last, h, -⟩
  simp at h

/-- Values of which only the last one passes are one that passes, or such values behind one that
does not. -/
theorem onlyLast_cons_iff {stop : Int → Bool} {v : Int} {vs : List Int} :
    OnlyLast stop (v :: vs) ↔
      (stop v = true ∧ vs = []) ∨ (stop v = false ∧ OnlyLast stop vs) := by
  constructor
  · rintro ⟨init, last, h, hi, hl⟩
    cases init with
    | nil =>
      obtain ⟨rfl, rfl⟩ := List.cons.inj h
      exact .inl ⟨hl, rfl⟩
    | cons w init =>
      obtain ⟨rfl, rfl⟩ := List.cons.inj h
      obtain ⟨hv, hi⟩ := List.forall_mem_cons.1 hi
      exact .inr ⟨hv, init, last, rfl, hi, hl⟩
  · rintro (⟨hv, rfl⟩ | ⟨hv, h⟩)
    · exact ⟨[], v, rfl, by simp, hv⟩
    · exact h.cons hv

/-- Draws up to a first one that passes are that one, or go on behind one that does not. -/
theorem drawUntil_eq_ok_iff {stop : Int → Bool} {s s' : Source} {vs : List Int} :
    drawUntil faces stop s = .ok vs s' ↔ ∃ v, s.Gives faces [v] ∧
      ((stop v = true ∧ vs = [v] ∧ s' = s.after (drawsOf faces [v])) ∨
        (stop v = false ∧ ∃ ws, vs = v :: ws ∧
          drawUntil faces stop (s.after (drawsOf faces [v])) = .ok ws s')) := by
  have hdraw : ∀ {v s₁}, draw faces s = .ok v s₁ ↔
      s.Gives faces [v] ∧ s₁ = s.after (drawsOf faces [v]) := by
    intro v s₁
    rw [returns_draw faces s v s₁]
    simp only [exists_eq_left]
  constructor
  · intro h
    rw [drawUntil] at h
    split at h
    · cases h
    · rename_i v s₁ hd
      obtain ⟨hg, rfl⟩ := hdraw.1 hd
      refine ⟨v, hg, ?_⟩
      split at h
      · rename_i hv
        cases h
        exact .inl ⟨hv, rfl, rfl⟩
      · rename_i hv
        split at h
        · cases h
        · rename_i ws s₂ hr
          cases h
          exact .inr ⟨by simpa using hv, ws, rfl, hr⟩
  · rintro ⟨v, hg, h⟩
    have hd := hdraw.2 ⟨hg, rfl⟩
    rw [drawUntil]
    split
    · rename_i he
      rw [hd] at he
      cases he
    · rename_i v' s₁ he
      rw [hd] at he
      cases he
      rcases h with ⟨hv, rfl, rfl⟩ | ⟨hv, ws, rfl, hr⟩
      · rw [if_pos hv]
      · rw [if_neg (by simp [hv]), hr]

/-- By induction on the values that are returned. -/
theorem returns_drawUntil (faces : Int) (stop : Int → Bool) :
    Returns faces (drawUntil faces stop) fun vs ws => OnlyLast stop vs ∧ ws = vs := by
  intro s vs s'
  simp only [and_assoc, exists_and_left, exists_eq_left]
  induction vs generalizing s with
  | nil =>
    refine iff_of_false (fun h => ?_) fun h => not_onlyLast_nil stop h.1
    obtain ⟨v, -, ⟨-, h, -⟩ | ⟨-, ws, h, -⟩⟩ := drawUntil_eq_ok_iff.1 h <;> cases h
  | cons v vs ih =>
    have hg : s.Gives faces (v :: vs) ↔
        s.Gives faces [v] ∧ (s.after (drawsOf faces [v])).Gives faces vs := by
      rw [← List.singleton_append, Source.gives_append]
    have hafter : s.after (drawsOf faces (v :: vs))
        = (s.after (drawsOf faces [v])).after (drawsOf faces vs) := by
      rw [Source.after_after, ← drawsOf_append, List.singleton_append]
    rw [drawUntil_eq_ok_iff, onlyLast_cons_iff, hg, hafter]
    constructor
    · rintro ⟨w, hw, ⟨hv, h, rfl⟩ | ⟨hv, ws, h, hr⟩⟩
      · obtain ⟨rfl, rfl⟩ := List.cons.inj h
        exact ⟨.inl ⟨hv, rfl⟩, ⟨hw, trivial⟩, by simp [drawsOf]⟩
      · obtain ⟨rfl, rfl⟩ := List.cons.inj h
        obtain ⟨hl, hg, rfl⟩ := (ih _).1 hr
        exact ⟨.inr ⟨hv, hl⟩, ⟨hw, hg⟩, rfl⟩
    · rintro ⟨⟨hv, rfl⟩ | ⟨hv, hl⟩, ⟨hw, hg⟩, rfl⟩
      · exact ⟨v, hw, .inl ⟨hv, rfl, by simp [drawsOf]⟩⟩
      · exact ⟨v, hw, .inr ⟨hv, vs, rfl, (ih _).2 ⟨hl, hg, rfl⟩⟩⟩

theorem exact_drawUntil (faces : Int) (stop : Int → Bool) :
    Exact faces (drawUntil faces stop) fun vs ws => OnlyLast stop vs ∧ ws = vs where
  returns := returns_drawUntil faces stop
  error {s fault s'} h := by
    fun_induction drawUntil faces stop s generalizing fault s' with
    | case1 s fault₁ s₁ hd =>
      cases h
      exact (exact_draw faces).error hd
    | case2 => cases h
    | case3 s v s₁ hd hv fault₁ s₂ hr ih =>
      cases h
      obtain ⟨_, -, -, rfl⟩ := (returns_draw faces s v s₁).1 hd
      obtain ⟨_, rfl, he⟩ := ih hr
      exact ⟨_, Source.after_after _ _ _, he⟩
    | case4 => cases h

/-! ## Dice -/

theorem replaced_iff {term : DiceTerm} {first : Int} {vs : List Int} : Replaced term first vs ↔
    ((term.reroll = .never ∨ term.rerollThreshold < first) ∧ vs = []) ∨
      first ≤ term.rerollThreshold ∧ ((term.reroll = .once ∧ ∃ v, vs = [v]) ∨
        (term.reroll = .untilAbove ∧ OnlyLast (fun v => term.rerollThreshold < v) vs)) := by
  constructor
  · intro h
    cases h with
    | kept h => exact .inl ⟨h, rfl⟩
    | once h hf v => exact .inr ⟨hf, .inl ⟨h, v, rfl⟩⟩
    | untilAbove h hf low hl v hv =>
      exact .inr ⟨hf, .inr ⟨h, low, v, rfl, fun w hw => by simpa using hl w hw, by simpa using hv⟩⟩
  · rintro (⟨h, rfl⟩ | ⟨hf, ⟨h, v, rfl⟩ | ⟨h, low, v, rfl, hl, hv⟩⟩)
    · exact .kept h
    · exact .once h hf v
    · exact .untilAbove h hf low (fun w hw => by simpa using hl w hw) v (by simpa using hv)

theorem exploded_iff {term : DiceTerm} {value : Int} {vs : List Int} : Exploded term value vs ↔
    (¬ (term.explode ∧ value = term.faces) ∧ vs = []) ∨
      (term.explode ∧ value = term.faces) ∧ OnlyLast (fun v => v ≠ term.faces) vs := by
  constructor
  · intro h
    cases h with
    | whole h => exact .inl ⟨h, rfl⟩
    | burst h high hh v hv =>
      exact .inr ⟨h, high, v, rfl, fun w hw => by simpa using hh w hw, by simpa using hv⟩
  · rintro (⟨h, rfl⟩ | ⟨h, high, v, rfl, hh, hv⟩)
    · exact .whole h
    · exact .burst h high (fun w hw => by simpa using hh w hw) v (by simpa using hv)

theorem exact_rollReplacements (term : DiceTerm) (first : Int) :
    Exact term.faces (rollReplacements term first) fun vs ws =>
      Replaced term first vs ∧ ws = vs := by
  unfold rollReplacements
  simp only [replaced_iff]
  split
  · rename_i hf
    have hle : ¬ first ≤ term.rerollThreshold := by omega
    refine (Exact.pure []).congr fun vs ws => ?_
    grind
  · rename_i hf
    have hle : first ≤ term.rerollThreshold := by omega
    split
    · rename_i hr
      refine (Exact.pure []).congr fun vs ws => ?_
      grind
    · rename_i hr
      refine ((exact_draw term.faces).bind fun v => Exact.pure [v]).congr fun vs ws => ?_
      grind
    · rename_i hr
      refine (exact_drawUntil term.faces _).congr fun vs ws => ?_
      grind

theorem exact_rollExtras (term : DiceTerm) (value : Int) :
    Exact term.faces (rollExtras term value) fun vs ws => Exploded term value vs ∧ ws = vs := by
  unfold rollExtras
  simp only [exploded_iff]
  split
  · rename_i h
    refine (exact_drawUntil term.faces _).congr fun vs ws => ?_
    grind
  · rename_i h
    refine (Exact.pure []).congr fun vs ws => ?_
    grind

/-- A die returns exactly as one that follows the rules of its term, with its own draws. -/
theorem exact_rollDie (term : DiceTerm) :
    Exact term.faces (rollDie term) fun d vs => d.Follows term ∧ vs = d.draws := by
  unfold rollDie
  refine ((exact_draw term.faces).bind fun first =>
    (exact_rollReplacements term first).bind fun replacements =>
    (exact_rollExtras term (replacements.getLastD first)).bind fun extras =>
    Exact.pure (Die.mk first replacements extras)).congr fun d vs => ?_
  constructor
  · rintro ⟨first, _, _, rfl,
      ⟨rs, _, _, ⟨hr, rfl⟩, ⟨es, _, _, ⟨he, rfl⟩, ⟨rfl, rfl⟩, rfl⟩, rfl⟩, rfl⟩
    exact ⟨⟨hr, he⟩, by rw [List.append_nil]; rfl⟩
  · rintro ⟨⟨hr, he⟩, rfl⟩
    exact ⟨d.first, _, _, rfl,
      ⟨d.replacements, _, _, ⟨hr, rfl⟩, ⟨d.extras, _, _, ⟨he, rfl⟩, ⟨rfl, rfl⟩, rfl⟩, rfl⟩,
      by rw [List.append_nil]; rfl⟩

/-- Some dice, by induction on how many are left. -/
theorem exact_rollDice (term : DiceTerm) (n : Nat) :
    Exact term.faces (rollDice term n) fun dice vs => dice.length = n ∧
      (∀ d ∈ dice, d.Follows term) ∧ vs = dice.flatMap Die.draws := by
  induction n with
  | zero =>
    refine (Exact.pure []).congr fun dice vs => ?_
    constructor
    · rintro ⟨rfl, rfl⟩
      exact ⟨rfl, by simp, rfl⟩
    · rintro ⟨h, -, rfl⟩
      obtain rfl := List.eq_nil_of_length_eq_zero h
      exact ⟨rfl, rfl⟩
  | succ n ih =>
    refine ((exact_rollDie term).bind fun d => ih.bind fun dice =>
      Exact.pure (d :: dice)).congr fun dice vs => ?_
    constructor
    · rintro ⟨d, _, _, ⟨hd, rfl⟩, ⟨dice, _, _, ⟨rfl, hf, rfl⟩, ⟨rfl, rfl⟩, rfl⟩, rfl⟩
      refine ⟨rfl, List.forall_mem_cons.2 ⟨hd, hf⟩, ?_⟩
      rw [List.append_nil, List.flatMap_cons]
    · rintro ⟨hn, hf, rfl⟩
      cases dice with
      | nil => cases hn
      | cons d dice =>
        obtain ⟨hd, hf⟩ := List.forall_mem_cons.1 hf
        refine ⟨d, _, _, ⟨hd, rfl⟩, ⟨dice, _, _, ⟨Nat.succ.inj hn, hf, rfl⟩, ⟨rfl, rfl⟩, rfl⟩, ?_⟩
        rw [List.append_nil, List.flatMap_cons]

theorem exact_rollTerm (term : DiceTerm) :
    Exact term.faces (rollTerm term) fun r vs => ∃ dice, RolledDice term dice ∧
      r = Roll.ofDice term dice ∧ vs = dice.flatMap Die.draws := by
  unfold rollTerm
  refine ((exact_rollDice term _).bind fun dice => Exact.pure (Roll.ofDice term dice)).congr
    fun r vs => ?_
  constructor
  · rintro ⟨dice, _, _, ⟨hn, hf, rfl⟩, ⟨rfl, rfl⟩, rfl⟩
    exact ⟨dice, ⟨hn, hf⟩, rfl, List.append_nil _⟩
  · rintro ⟨dice, ⟨hn, hf⟩, rfl, rfl⟩
    exact ⟨dice, _, _, ⟨hn, hf, rfl⟩, ⟨rfl, rfl⟩, (List.append_nil _).symm⟩

/-- A dice term returns a roll exactly if it is the roll of dice that follow the rules and whose
draws, one die after the other, are the next ones that the source gives. -/
theorem rollTerm_eq_ok_iff {term : DiceTerm} {s s' : Source} {r : Roll} :
    rollTerm term s = .ok r s' ↔ ∃ dice, RolledDice term dice ∧ r = Roll.ofDice term dice ∧
      s.Gives term.faces (dice.flatMap Die.draws) ∧
      s' = s.after (drawsOf term.faces (dice.flatMap Die.draws)) := by
  rw [(exact_rollTerm term).returns s r s']
  constructor
  · rintro ⟨_, ⟨dice, hd, hr, rfl⟩, hg, hs⟩
    exact ⟨dice, hd, hr, hg, hs⟩
  · rintro ⟨dice, hd, hr, hg, hs⟩
    exact ⟨_, ⟨dice, hd, hr, rfl⟩, hg, hs⟩

theorem draws_rollTerm (term : DiceTerm) :
    Draws (rollTerm term) fun r ds => ∃ dice, RolledDice term dice ∧ r = Roll.ofDice term dice ∧
      ds = drawsOf term.faces (dice.flatMap Die.draws) := by
  refine (exact_rollTerm term).draws.mono ?_
  rintro r _ ⟨_, ⟨dice, hd, hr, rfl⟩, rfl⟩
  exact ⟨dice, hd, hr, rfl⟩

/-! ## Scripts -/

theorem gives_iff_of_script {script : List Int} {s : Source}
    (ha : ∀ k < s.limit, s.answer k faces = script[k]?) (hl : s.limit = script.length)
    {vs : List Int} : s.Gives faces vs ↔ vs <+: script.drop s.drawn.size := by
  induction vs generalizing s with
  | nil => simp [Source.Gives]
  | cons v vs ih =>
    have hs := ih (s := s.after (drawsOf faces [v])) ha hl
    have hsize : (s.after (drawsOf faces [v])).drawn.size = s.drawn.size + 1 := by
      simp [Source.after, drawsOf]
    rw [Source.Gives, hs, hsize]
    by_cases h : s.drawn.size < s.limit
    · have h' : s.drawn.size < script.length := by omega
      rw [ha _ h, List.drop_eq_getElem_cons h', List.cons_prefix_cons, List.getElem?_eq_getElem h',
        Option.some_inj, eq_comm (a := v)]
      simp [h]
    · have hd : script.drop s.drawn.size = [] := List.drop_eq_nil_of_le (by omega)
      rw [hd]
      simp [h]

/-- The next values that a script gives are in front of it. -/
theorem gives_ofScript_iff {script vs : List Int} :
    (Source.ofScript script).Gives faces vs ↔ vs <+: script := by
  rw [gives_iff_of_script (fun _ _ => rfl) rfl]
  rfl

/-- The script of the draws of some dice rolls them. -/
theorem rollTerm_draws {term : DiceTerm} {dice : List Die} (hd : RolledDice term dice) : ∃ s',
    rollTerm term (.ofScript (dice.flatMap Die.draws)) = .ok (Roll.ofDice term dice) s' :=
  ⟨_, rollTerm_eq_ok_iff.2 ⟨dice, hd, rfl, gives_ofScript_iff.2 (List.prefix_refl _), rfl⟩⟩

/-- The next values that a stream gives are in front of it, as many as the limit allows. -/
theorem gives_ofStream_iff {limit : Nat} {stream : Nat → Int} {vs : List Int} :
    (Source.ofStream limit stream).Gives faces vs ↔ vs <+: (List.range limit).map stream := by
  have ha : ∀ k < limit, some (stream k) = ((List.range limit).map stream)[k]? := by
    intro k hk
    rw [List.getElem?_map, List.getElem?_range hk, Option.map_some]
  rw [gives_iff_of_script ha (by simp [Source.ofStream])]
  rfl

end Tabletop
