import Tabletop.Proofs.Transcript.LongForm

/-!
# The chat text tells the draws

Two results of one line with the same chat text come from the same draws
(`draws_eq_of_chatText_eq`). A roll is read back from the front of its long
form, whatever follows it: up to the bracket its cells can be told apart
(`bracketCells_append_inj`, `cellText_injective`), its cells make the roll
(`Roll.ofDice_congr`), and the roll makes the rest of its text. So the parts of
an expression are read back one by one, by induction on its operators
(`parts_eq_of_joinTerms`).
-/

namespace Tabletop

/-! ## Cells -/

/-- Cells can be told from what follows their brackets, and from each other. -/
theorem bracketCells_append_inj {cells cells' : List Text} {rest rest' : Text}
    (hc : ∀ t ∈ cells, t.IsCell) (hc' : ∀ t ∈ cells', t.IsCell)
    (h : bracketCells cells ++ rest = bracketCells cells' ++ rest') :
    cells = cells' ∧ rest = rest' := by
  have hb : ∀ {cells : List Text}, (∀ t ∈ cells, t.IsCell) →
      CodePoint.char ']' ∉ Text.join [.char ','] cells := fun hc hm => by
    rcases Text.mem_join hm with hm | ⟨t, ht, hm⟩
    · exact absurd hm (by decide)
    · exact (hc t ht).bracket hm
  simp only [bracketCells, List.cons_append, List.append_assoc, List.nil_append, List.cons.injEq,
    true_and] at h
  obtain ⟨hj, hr⟩ := eq_of_append_separator (hb hc) (hb hc') h
  exact ⟨Text.join_injective (fun t ht => ⟨(hc t ht).ne_nil, (hc t ht).comma⟩)
    (fun t ht => ⟨(hc' t ht).ne_nil, (hc' t ht).comma⟩) hj, hr⟩

theorem cellText_injective {cell cell' : List Int} (h : cellText cell = cellText cell') :
    cell = cell' := by
  have hn : ∀ cell : List Int, ∀ t ∈ cell.map Numeral.unlimited, t ≠ [] ∧ arrow ∉ t := by
    intro cell t ht
    obtain ⟨n, -, rfl⟩ := List.mem_map.1 ht
    exact ⟨Numeral.unlimited_ne_nil n, fun hm => absurd (Numeral.mem_unlimited hm) (by decide)⟩
  exact (List.map_inj_right fun _ _ => Numeral.unlimited_injective).1
    (Text.join_injective (hn cell) (hn cell') h)

/-! ## Parts -/

/-- An operand that became two parts became one and the same, if they begin two equal texts. -/
theorem part_eq_of_trace_append {x : Operand} {p p' : Part} (hp : x.Becomes p) (hp' : x.Becomes p')
    {t t' rest rest' : Text} (ht : p.trace Roll.chainTrace = .ok t)
    (ht' : p'.trace Roll.chainTrace = .ok t') (h : t ++ rest = t' ++ rest') :
    p = p' ∧ rest = rest' := by
  -- Equal parts have equal texts, so only the parts are left to be shown equal.
  suffices he : p = p' by
    subst he
    rw [ht] at ht'
    rw [Except.ok.inj ht', List.append_cancel_left_eq] at h
    exact ⟨rfl, h⟩
  cases hp with
  | number n =>
    cases hp'
    rfl
  | @roll term dice hd =>
    cases hp' with
    | @roll _ dice' hd' =>
      obtain ⟨-, rfl⟩ := Roll.chainTrace_ofDice_eq_ok_iff.1 ht
      obtain ⟨-, rfl⟩ := Roll.chainTrace_ofDice_eq_ok_iff.1 ht'
      have hcell : ∀ dice : List Die, ∀ t ∈ (dice.flatMap Die.cells).map cellText, t.IsCell := by
        intro dice t ht
        obtain ⟨cell, hc, rfl⟩ := List.mem_map.1 ht
        exact isCell_cellText (ne_nil_of_mem_dice_cells hc)
      simp only [List.append_assoc] at h
      obtain ⟨hcells, -⟩ := bracketCells_append_inj (hcell dice) (hcell dice') h
      rw [List.map_inj_right fun _ _ => cellText_injective] at hcells
      rw [Roll.ofDice_congr term hcells]

/-- Operands that became two lists of parts became one and the same, if their texts with the same
operators between them begin two equal texts. -/
theorem parts_eq_of_joinTerms {x : Operand} {links : List (Operator × Operand)} {p p' : Part}
    {ps ps' : List Part} (hp : x.Becomes p) (hp' : x.Becomes p')
    (hps : List.Forall₂ Operand.Becomes (links.map Prod.snd) ps)
    (hps' : List.Forall₂ Operand.Becomes (links.map Prod.snd) ps')
    {t t' : Text} {ts ts' : List Text} (ht : p.trace Roll.chainTrace = .ok t)
    (ht' : p'.trace Roll.chainTrace = .ok t') (hts : traceParts Roll.chainTrace ps = .ok ts)
    (hts' : traceParts Roll.chainTrace ps' = .ok ts') {rest rest' : Text}
    (h : joinTerms t ((links.map Prod.fst).zip ts) ++ rest
      = joinTerms t' ((links.map Prod.fst).zip ts') ++ rest') :
    p :: ps = p' :: ps' ∧ rest = rest' := by
  induction links generalizing x p p' ps ps' t t' ts ts' with
  | nil =>
    cases hps
    cases hps'
    simp only [List.map_nil, List.zip_nil_left, joinTerms, List.flatMap_nil, List.append_nil] at h
    obtain ⟨rfl, hr⟩ := part_eq_of_trace_append hp hp' ht ht' h
    exact ⟨rfl, hr⟩
  | cons link links ih =>
    cases hps with
    | cons hq hqs =>
      cases hps' with
      | cons hq' hqs' =>
        simp only [traceParts, except_bind_eq_ok_iff] at hts hts'
        obtain ⟨u, hu, us, hus, hts⟩ := hts
        obtain ⟨u', hu', us', hus', hts'⟩ := hts'
        rw [← Except.ok.inj hts, ← Except.ok.inj hts'] at h
        simp only [List.map_cons, List.zip_cons_cons, joinTerms_cons, List.append_assoc] at h
        obtain ⟨rfl, hr⟩ := part_eq_of_trace_append hp hp' ht ht' h
        obtain ⟨hqs, hr⟩ := ih hq hq' hqs hqs' hu hu' hus hus' (List.append_cancel_left hr)
        rw [hqs]
        exact ⟨rfl, hr⟩

/-! ## Results -/

/-- The chat text of a result that was evaluated has its long form and its total. -/
theorem chatText_eq_ok {line : Text} {e : Expression} {parts : List Part} {r : Result}
    (he : Evaluation line e parts r) {description : Option Text} {showMark : Bool} {text : Text}
    (h : r.chatText description showMark = .ok text) :
    ∃ body, e.trace? Roll.chainTrace r.rolls = some (.ok body) ∧
      text = Result.descriptionLine description ++ markIf showMark diceMark ++ line
        ++ Text.ofString " = " ++ body ++ Text.ofString " = " ++ Numeral.unlimited r.total := by
  obtain ⟨body, hb, h⟩ := except_bind_eq_ok_iff.1 h
  split at h
  · cases h
  · rename_i total ht
    obtain ⟨-, rfl⟩ := Numeral.write_eq_ok_iff.1 ht
    rw [he.expression] at h
    exact ⟨body, (body_eq_ok_iff he).1 hb, (Except.ok.inj h).symm⟩

/-- Two evaluations of an expression with the same chat text had the same parts. -/
theorem parts_eq_of_chatText_eq {line : Text} {e : Expression} {parts parts' : List Part}
    {r r' : Result} (he : Evaluation line e parts r) (he' : Evaluation line e parts' r')
    {description : Option Text} {showMark : Bool} {text : Text}
    (h : r.chatText description showMark = .ok text)
    (h' : r'.chatText description showMark = .ok text) : parts = parts' := by
  obtain ⟨body, hb, rfl⟩ := chatText_eq_ok he h
  obtain ⟨body', hb', ht⟩ := chatText_eq_ok he' h'
  simp only [List.append_assoc, List.append_cancel_left_eq] at ht
  rw [he.trace?_eq, Option.some.injEq, except_bind_eq_ok_iff] at hb
  rw [he'.trace?_eq, Option.some.injEq, except_bind_eq_ok_iff] at hb'
  obtain ⟨ts, hts, hb⟩ := hb
  obtain ⟨ts', hts', hb'⟩ := hb'
  rw [← Except.ok.inj hb, ← Except.ok.inj hb'] at ht
  have hbs := he.becomes
  have hbs' := he'.becomes
  unfold Expression.operands at hbs hbs'
  cases hbs with
  | cons hp hps =>
    cases hbs' with
    | cons hp' hps' =>
      simp only [traceParts, except_bind_eq_ok_iff] at hts hts'
      obtain ⟨t, htp, us, hus, hts⟩ := hts
      obtain ⟨t', htp', us', hus', hts'⟩ := hts'
      rw [← Except.ok.inj hts, ← Except.ok.inj hts'] at ht
      exact (parts_eq_of_joinTerms hp hp' hps hps' htp htp' hus hus' ht).1

/-- The chat text tells the draws: two results of one line with the same chat text are the same in
every roll, value and replacement, and came from the same draws. -/
theorem draws_eq_of_chatText_eq {line : Text} {s₁ s₁' s₂ s₂' : Source} {r₁ r₂ : Result}
    (h₁ : evaluateLine line s₁ = .ok r₁ s₁') (h₂ : evaluateLine line s₂ = .ok r₂ s₂')
    {description : Option Text} {showMark : Bool} {text : Text}
    (ht₁ : r₁.chatText description showMark = .ok text)
    (ht₂ : r₂.chatText description showMark = .ok text) :
    r₁ = r₂ ∧ ∃ ds, s₁' = s₁.after ds ∧ s₂' = s₂.after ds := by
  obtain ⟨e, hp, he₁⟩ := evaluateLine_eq_ok_iff.1 h₁
  obtain ⟨e', hp', he₂⟩ := evaluateLine_eq_ok_iff.1 h₂
  rw [hp] at hp'
  obtain rfl := Except.ok.inj hp'
  obtain ⟨_, rfl, parts, hr₁, rfl⟩ := (outcomes_evaluate line.strip e).ok he₁
  obtain ⟨_, rfl, parts', hr₂, rfl⟩ := (outcomes_evaluate line.strip e).ok he₂
  obtain rfl := parts_eq_of_chatText_eq hr₁ hr₂ ht₁ ht₂
  exact ⟨hr₁.unique hr₂, _, rfl, rfl⟩

/-- A chat text with a replacement, from a script and from another one that goes on. -/
theorem draws_eq_of_rerolled_chatText : ∃ r s₁' s₂',
    evaluateLine "2d6r + 3" (.ofScript [1, 4, 2]) = .ok r s₁' ∧
    evaluateLine "2d6r + 3" (.ofScript [1, 4, 2, 6]) = .ok r s₂' ∧
    r.chatText none true = .ok "🎲 2d6r + 3 = [1→4,2] (rerolled 1→4) + 3 = 9" ∧
    ∃ ds, s₁' = (Source.ofScript [1, 4, 2]).after ds ∧
      s₂' = (Source.ofScript [1, 4, 2, 6]).after ds := by
  let r : Result :=
    { expression := "2d6r + 3"
      rolls := [{ faces := 6, raw := [4, 2], final := [4, 2], total := 6, rerolls := [⟨0, 1, 4⟩] }]
      total := 9
      detail := "[4,2] + 3"
      parsed := some {
        first := .dice { count := 2, faces := 6, reroll := .once, source := "2d6r" }
        tail := [(.add, .literal 3)] } }
  have h₁ : evaluateLine "2d6r + 3" (.ofScript [1, 4, 2])
      = .ok r ((Source.ofScript [1, 4, 2]).after (drawsOf 6 [1, 4, 2])) := by
    cbv
  have h₂ : evaluateLine "2d6r + 3" (.ofScript [1, 4, 2, 6])
      = .ok r ((Source.ofScript [1, 4, 2, 6]).after (drawsOf 6 [1, 4, 2])) := by
    cbv
  have ht : r.chatText none true = .ok "🎲 2d6r + 3 = [1→4,2] (rerolled 1→4) + 3 = 9" := by
    cbv
  exact ⟨r, _, _, h₁, h₂, ht, (draws_eq_of_chatText_eq h₁ h₂ ht ht).2⟩

end Tabletop
