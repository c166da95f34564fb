import Tabletop.Proofs.Transcript.LongForm

/-!
# What the long form adds

The long form of a result is its plain form with the provenance of the values:
taken out of the text again (`withoutProvenance`), it leaves the plain form
(`withoutProvenance_longDetail`). It is taken out in two passes, one for the
chains inside brackets and one for the replacements behind a roll, and neither
looks across a part of the expression: what a pass makes of a part does not
depend on the text that follows (`Rewrites`). So each pass is followed through
one part (`exists_rewrites_of_becomes`), and then through the operators
(`Rewrites.joinTerms`).
-/

namespace Tabletop

/-! ## Text without provenance -/

/-- The last value of a chain. -/
def settleCell (cell : Text) : Text := (cell.splitOn arrow).getLastD []

/-- A text in which the chains between brackets are settled to their last values. -/
def settleChains : Text → Text
  | [] => []
  | c :: t =>
    if c = .char '[' then
      let cells := (t.takeWhile (· != .char ']')).splitOn (.char ',')
      .char '[' :: Text.join [.char ','] (cells.map settleCell)
        ++ settleChains (t.dropWhile (· != .char ']'))
    else c :: settleChains t
termination_by t => t.length
decreasing_by
  · have := (List.dropWhile_sublist (l := t) (· != .char ']')).length_le
    rw [List.length_cons]
    omega
  · exact Nat.lt_succ_self _

/-- A text without the replacements behind its rolls, which end with a parenthesis. -/
def dropSummaries : Text → Text
  | [] => []
  | c :: t =>
    if summaryMark <+: c :: t then dropSummaries (t.dropWhile (· != .char ')')).tail
    else c :: dropSummaries t
termination_by t => t.length
decreasing_by
  · have := (List.dropWhile_sublist (l := t) (· != .char ')')).length_le
    rw [List.length_cons, List.length_tail]
    omega
  · exact Nat.lt_succ_self _

/-- A text that shows of every chain its last value only, and no replacements. -/
def withoutProvenance (t : Text) : Text := dropSummaries (settleChains t)

theorem withoutProvenance_nil : withoutProvenance [] = [] := by
  rw [withoutProvenance, settleChains, dropSummaries]

/-! ## Passes over a text -/

/-- A pass makes one text of another one, whatever follows it, and goes on behind it. -/
def Rewrites (pass : Text → Text) (t u : Text) : Prop := ∀ rest, pass (t ++ rest) = u ++ pass rest

namespace Rewrites

variable {pass next : Text → Text} {t u v t' u' : Text}

theorem append (h : Rewrites pass t u) (h' : Rewrites pass t' u') :
    Rewrites pass (t ++ t') (u ++ u') := fun rest => by
  rw [List.append_assoc, h, h', List.append_assoc]

theorem trans (h : Rewrites pass t u) (h' : Rewrites next u v) :
    Rewrites (fun t => next (pass t)) t v := fun rest => by
  show next (pass (t ++ rest)) = v ++ next (pass rest)
  rw [h, h']

theorem eq (h : Rewrites pass t u) (hnil : pass [] = []) : pass t = u := by
  have := h []
  rwa [hnil, List.append_nil, List.append_nil] at this

theorem nil : Rewrites pass [] [] := fun _ => rfl

/-- Terms with operators between them, by induction on the operators. -/
theorem joinTerms {ts us : List Text} (h : Rewrites pass t u)
    (hs : List.Forall₂ (fun t u => ∀ o : Operator, Rewrites pass (o.spaced ++ t) (o.spaced ++ u))
      ts us) (os : List Operator) :
    Rewrites pass (Tabletop.joinTerms t (os.zip ts)) (Tabletop.joinTerms u (os.zip us)) := by
  refine h.append ?_
  induction hs generalizing os with
  | nil =>
    rw [List.zip_nil_right]
    exact nil
  | cons ht _ ih =>
    cases os with
    | nil => exact nil
    | cons o os =>
      rw [List.zip_cons_cons, List.zip_cons_cons, List.flatMap_cons, List.flatMap_cons]
      exact (ht o).append (ih os)

end Rewrites

/-! ## Chains -/

theorem rewrites_settleChains_of_not_mem {t : Text} (h : .char '[' ∉ t) :
    Rewrites settleChains t t := by
  induction t with
  | nil => exact .nil
  | cons c t ih =>
    intro rest
    rw [List.mem_cons, not_or] at h
    rw [List.cons_append, settleChains, if_neg (Ne.symm h.1), ih h.2, List.cons_append]

theorem rewrites_settleChains_bracketCells {cells : List Text} (h : ∀ t ∈ cells, t.IsCell) :
    Rewrites settleChains (bracketCells cells) (bracketCells (cells.map settleCell)) := by
  intro rest
  have hinside : ∀ c ∈ Text.join [.char ','] cells, (c != .char ']') = true := by
    intro c hc
    rcases Text.mem_join hc with hc | ⟨t, ht, hc⟩
    · rw [List.mem_singleton.1 hc]
      decide
    · exact bne_iff_ne.2 fun he => (h t ht).bracket (he ▸ hc)
  have hclose : Text.Heads (fun c => (c != .char ']') = false) (.char ']' :: rest) :=
    .cons (by decide)
  have hcells : Text.join [.char ','] (((Text.join [.char ','] cells).splitOn (.char ',')).map
      settleCell) = Text.join [.char ','] (cells.map settleCell) := by
    cases cells with
    | nil => rfl
    | cons t ts => rw [Text.splitOn_join (fun t ht => (h t ht).comma) (List.cons_ne_nil _ _)]
  simp only [bracketCells, List.cons_append, List.append_assoc, List.nil_append]
  rw [settleChains, if_pos rfl]
  simp only [takeWhile_run_append hinside hclose, dropWhile_run_append hinside hclose, hcells]
  rw [settleChains, if_neg (by decide), List.cons_append]

/-- A chain settles to its last value. -/
theorem settleCell_cellText {cell : List Int} (h : cell ≠ []) :
    settleCell (cellText cell) = Numeral.unlimited (lastValue cell) := by
  have harrow : ∀ t ∈ cell.map Numeral.unlimited, arrow ∉ t := by
    intro t ht
    obtain ⟨n, -, rfl⟩ := List.mem_map.1 ht
    exact fun hm => absurd (Numeral.mem_unlimited hm) (by decide)
  rw [settleCell, cellText, Text.splitOn_join harrow (by simpa using h), lastValue]
  obtain ⟨vs, v, rfl⟩ := List.eq_nil_or_concat cell |>.resolve_left h
  simp

theorem settleCell_unlimited (n : Int) :
    settleCell (Numeral.unlimited n) = Numeral.unlimited n :=
  settleCell_cellText (List.cons_ne_nil n [])

theorem rewrites_settleChains_selectedText (r : Roll) :
    Rewrites settleChains r.selectedText r.selectedText := by
  unfold Roll.selectedText
  split
  · have hcell : ∀ t ∈ r.final.map Numeral.unlimited, t.IsCell := by
      intro t ht
      obtain ⟨n, -, rfl⟩ := List.mem_map.1 ht
      exact isCell_unlimited n
    have harrow : Rewrites settleChains [arrow] [arrow] :=
      rewrites_settleChains_of_not_mem (by decide)
    have hsettled : (r.final.map Numeral.unlimited).map settleCell
        = r.final.map Numeral.unlimited := by
      rw [List.map_map]
      exact List.map_congr_left fun n _ => settleCell_unlimited n
    have h := harrow.append (rewrites_settleChains_bracketCells hcell)
    rwa [hsettled] at h
  · exact .nil

/-! ## Replacements -/

theorem mem_recordTexts {records : List RerollRecord} {c : CodePoint}
    (h : c ∈ Text.join [.char ',', .char ' '] (records.map RerollRecord.text)) :
    c ≠ .char '[' ∧ c ≠ .char ')' := by
  rcases Text.mem_join h with h | ⟨t, ht, h⟩
  · have : ∀ c ∈ ([.char ',', .char ' '] : Text), c ≠ .char '[' ∧ c ≠ .char ')' := by decide
    exact this c h
  · obtain ⟨record, -, rfl⟩ := List.mem_map.1 ht
    have hc := RerollRecord.mem_text h
    constructor
    · rintro rfl
      exact absurd hc (by decide)
    · rintro rfl
      exact absurd hc (by decide)

theorem rewrites_settleChains_summaryText (r : Roll) :
    Rewrites settleChains r.summaryText r.summaryText := by
  refine rewrites_settleChains_of_not_mem fun h => ?_
  unfold Roll.summaryText at h
  split at h
  · cases h
  · rw [List.mem_append, List.mem_append] at h
    rcases h with (h | h) | h
    · exact absurd h (by decide)
    · exact (mem_recordTexts h).1 rfl
    · exact absurd h (by decide)

theorem dropSummaries_cons {c : CodePoint} {t : Text} (h : ¬ summaryMark <+: c :: t) :
    dropSummaries (c :: t) = c :: dropSummaries t := by
  rw [dropSummaries, if_neg h]

theorem rewrites_dropSummaries_of_not_mem {t : Text} (h : .char ' ' ∉ t) :
    Rewrites dropSummaries t t := by
  induction t with
  | nil => exact .nil
  | cons c t ih =>
    intro rest
    rw [List.mem_cons, not_or] at h
    have hmark : ¬ summaryMark <+: c :: (t ++ rest) := fun hp =>
      h.1 (List.cons_prefix_cons.1 hp).1
    rw [List.cons_append, dropSummaries_cons hmark, ih h.2, List.cons_append]

/-- From its mark on, a summary is dropped through its parenthesis. -/
theorem dropSummaries_summaryMark_append (t : Text) :
    dropSummaries (summaryMark ++ t)
      = dropSummaries ((summaryMark.tail ++ t).dropWhile (· != .char ')')).tail := by
  have hmark : summaryMark <+: .char ' ' :: (summaryMark.tail ++ t) :=
    List.prefix_append summaryMark t
  show dropSummaries (.char ' ' :: (summaryMark.tail ++ t)) = _
  rw [dropSummaries, if_pos hmark]

theorem rewrites_dropSummaries_summaryText (r : Roll) :
    Rewrites dropSummaries r.summaryText [] := by
  unfold Roll.summaryText
  split
  · exact .nil
  · intro rest
    have hclose : Text.Heads (fun c => (c != .char ')') = false) (.char ')' :: rest) :=
      .cons (by decide)
    have hinside : ∀ c ∈ summaryMark.tail ++
        Text.join [.char ',', .char ' '] (r.rerolls.map RerollRecord.text),
        (c != .char ')') = true := by
      rw [List.forall_mem_append]
      exact ⟨by decide, fun c hc => bne_iff_ne.2 (mem_recordTexts hc).2⟩
    rw [List.append_assoc, List.append_assoc, dropSummaries_summaryMark_append, ← List.append_assoc,
      List.singleton_append, dropWhile_run_append hinside hclose]
    rfl

/-! ## Parts -/

theorem rewrites_settleChains_spaced {t u : Text} (h : Rewrites settleChains t u) (o : Operator) :
    Rewrites settleChains (o.spaced ++ t) (o.spaced ++ u) :=
  (rewrites_settleChains_of_not_mem (by cases o <;> decide)).append h

/-- The space behind an operator does not begin a summary. -/
theorem rewrites_dropSummaries_spaced {t u : Text} (h : Rewrites dropSummaries t u)
    (hne : t ≠ []) (ht : t.Heads (· ≠ .char '(')) (o : Operator) :
    Rewrites dropSummaries (o.spaced ++ t) (o.spaced ++ u) := by
  obtain ⟨c, t, rfl⟩ := List.exists_cons_of_ne_nil hne
  intro rest
  have hbefore : ¬ summaryMark <+: .char ' ' :: o.symbol :: .char ' ' :: (c :: t ++ rest) := by
    intro hp
    have := (List.cons_prefix_cons.1 (List.cons_prefix_cons.1 hp).2).1
    revert this
    cases o <;> decide
  have hsymbol : ¬ summaryMark <+: o.symbol :: .char ' ' :: (c :: t ++ rest) := by
    intro hp
    have := (List.cons_prefix_cons.1 hp).1
    revert this
    cases o <;> decide
  have hbehind : ¬ summaryMark <+: .char ' ' :: (c :: t ++ rest) := fun hp =>
    ht c rfl (List.cons_prefix_cons.1 (List.cons_prefix_cons.1 hp).2).1.symm
  calc dropSummaries (o.spaced ++ (c :: t) ++ rest)
      = o.spaced ++ dropSummaries (c :: t ++ rest) := by
        rw [List.append_assoc]
        exact (dropSummaries_cons hbefore).trans (congrArg _
          ((dropSummaries_cons hsymbol).trans (congrArg _
            (dropSummaries_cons hbehind))))
    _ = o.spaced ++ u ++ dropSummaries rest := by rw [h, List.append_assoc]

/-- A part in the long form, with its chains settled, and in the plain form. -/
theorem exists_rewrites_of_becomes {x : Operand} {part : Part} (h : x.Becomes part)
    {long short : Text} (hl : part.trace Roll.chainTrace = .ok long)
    (hs : part.trace Roll.trace = .ok short) :
    ∃ settled, Rewrites settleChains long settled ∧ Rewrites dropSummaries settled short ∧
      settled ≠ [] ∧ settled.Heads (· ≠ .char '(') := by
  cases h with
  | number n =>
    obtain ⟨-, rfl⟩ := Numeral.write_eq_ok_iff.1 hl
    obtain ⟨-, rfl⟩ := Numeral.write_eq_ok_iff.1 hs
    have hmem : ∀ c, ¬ (c.isDigit ∨ c = .char '-') → c ∉ Numeral.unlimited n := fun c hc hm =>
      hc (Numeral.mem_unlimited hm)
    refine ⟨_, rewrites_settleChains_of_not_mem (hmem _ (by decide)),
      rewrites_dropSummaries_of_not_mem (hmem _ (by decide)), Numeral.unlimited_ne_nil n, ?_⟩
    exact fun c hc he => hmem (.char '(') (by decide) (he ▸ List.mem_of_mem_head? hc)
  | @roll term dice hd =>
    obtain ⟨-, rfl⟩ := Roll.chainTrace_ofDice_eq_ok_iff.1 hl
    obtain ⟨-, -, rfl⟩ := Roll.trace_eq_ok_iff.1 hs
    have hcell : ∀ t ∈ (dice.flatMap Die.cells).map cellText, t.IsCell := by
      intro t ht
      obtain ⟨cell, hc, rfl⟩ := List.mem_map.1 ht
      exact isCell_cellText (ne_nil_of_mem_dice_cells hc)
    have hsettled : ((dice.flatMap Die.cells).map cellText).map settleCell
        = (Roll.ofDice term dice).raw.map Numeral.unlimited := by
      rw [Roll.ofDice_raw, List.map_map, List.map_map]
      exact List.map_congr_left fun cell hc => settleCell_cellText (ne_nil_of_mem_dice_cells hc)
    have hsettle := ((rewrites_settleChains_bracketCells hcell).append
      (rewrites_settleChains_selectedText (Roll.ofDice term dice))).append
        (rewrites_settleChains_summaryText (Roll.ofDice term dice))
    rw [hsettled] at hsettle
    have hspace : .char ' ' ∉ (Roll.ofDice term dice).text := fun h =>
      absurd (Roll.mem_text h) (by decide)
    have hdrop := (rewrites_dropSummaries_of_not_mem hspace).append
      (rewrites_dropSummaries_summaryText (Roll.ofDice term dice))
    rw [List.append_nil] at hdrop
    exact ⟨_, hsettle, hdrop, List.cons_ne_nil _ _, .cons (by decide)⟩

/-- Both passes make of a part in the long form its plain form, alone and behind an operator. -/
theorem rewrites_withoutProvenance_of_becomes {x : Operand} {part : Part} (h : x.Becomes part)
    {long short : Text} (hl : part.trace Roll.chainTrace = .ok long)
    (hs : part.trace Roll.trace = .ok short) :
    Rewrites withoutProvenance long short ∧
      ∀ o : Operator, Rewrites withoutProvenance (o.spaced ++ long) (o.spaced ++ short) := by
  obtain ⟨settled, hsettle, hdrop, hne, hheads⟩ := exists_rewrites_of_becomes h hl hs
  exact ⟨hsettle.trans hdrop, fun o => (rewrites_settleChains_spaced hsettle o).trans
    (rewrites_dropSummaries_spaced hdrop hne hheads o)⟩

/-! ## Results -/

/-- The texts of some parts in both forms, behind operators. -/
theorem forall₂_rewrites_of_becomes {xs : List Operand} {parts : List Part}
    (h : List.Forall₂ Operand.Becomes xs parts) {longs shorts : List Text}
    (hl : traceParts Roll.chainTrace parts = .ok longs)
    (hs : traceParts Roll.trace parts = .ok shorts) :
    List.Forall₂ (fun long short => ∀ o : Operator,
      Rewrites withoutProvenance (o.spaced ++ long) (o.spaced ++ short)) longs shorts := by
  rw [traceParts_eq_ok_iff] at hl hs
  induction h generalizing longs shorts with
  | nil =>
    cases hl
    cases hs
    exact .nil
  | cons hx _ ih =>
    cases hl with
    | cons hlong hlongs =>
      cases hs with
      | cons hshort hshorts =>
        exact .cons (rewrites_withoutProvenance_of_becomes hx hlong hshort).2 (ih hlongs hshorts)

/-- The long form of a result that was evaluated has its trace without the provenance. -/
theorem Evaluation.withoutProvenance_eq {line : Text} {e : Expression} {parts : List Part}
    {r : Result} (he : Evaluation line e parts r) {long : Text} (h : r.longDetail = .ok long) :
    withoutProvenance long = r.detail := by
  have hlong := (longDetail_eq_ok_iff he).1 h
  have hshort := he.detail
  rw [he.trace?_eq, Option.some.injEq, except_bind_eq_ok_iff] at hlong hshort
  obtain ⟨longs, hls, hlong⟩ := hlong
  obtain ⟨shorts, hss, hshort⟩ := hshort
  rw [← Except.ok.inj hlong, ← Except.ok.inj hshort]
  have hbs := he.becomes
  unfold Expression.operands at hbs
  cases hbs with
  | cons hx hxs =>
    simp only [traceParts, except_bind_eq_ok_iff] at hls hss
    obtain ⟨l, hl, ls, hls, hlongs⟩ := hls
    obtain ⟨t, ht, ts, hts, hshorts⟩ := hss
    rw [← Except.ok.inj hlongs, ← Except.ok.inj hshorts]
    exact ((rewrites_withoutProvenance_of_becomes hx hl ht).1.joinTerms
      (forall₂_rewrites_of_becomes hxs hls hts) _).eq withoutProvenance_nil

/-- For draws in range, a result has a long form; it is what the result shows, the trace is what is
left of it without the provenance, and it is the trace itself when no value was replaced. -/
theorem withoutProvenance_longDetail {line : Text} {s s' : Source} {r : Result}
    (h : evaluateLine line s = .ok r s')
    (hd : ∀ d ∈ drawsTaken s (evaluateLine line s), d.InRange) :
    ∃ long, r.longDetail = .ok long ∧ r.body = .ok long ∧ withoutProvenance long = r.detail ∧
      ((∀ roll ∈ r.rolls, roll.rerolls = []) → long = r.detail) := by
  obtain ⟨e, hp, hr⟩ := evaluateLine_eq_ok_iff.1 h
  obtain ⟨ds, rfl, parts, he, rfl⟩ := (outcomes_evaluate line.strip e).ok hr
  rw [h, drawsTaken, drop_after] at hd
  obtain ⟨long, ht⟩ := he.exists_longTrace (writable_of_parse hp) hd
  refine ⟨long, (longDetail_eq_ok_iff he).2 ht, (body_eq_ok_iff he).2 ht,
    he.withoutProvenance_eq ((longDetail_eq_ok_iff he).2 ht), fun hn => ?_⟩
  rw [he.rolls] at hn
  rw [he.trace?_eq, traceParts_chainTrace_eq hn, ← he.trace?_eq, he.detail] at ht
  exact (Except.ok.inj (Option.some.inj ht)).symm

/-- The first die is replaced twice and explodes, and the highest value counts. -/
theorem withoutProvenance_longDetail_of_rerolled_dice : ∃ r s',
    evaluateLine "7 - 2d6kh!rr2 / 2" (.ofScript [1, 2, 6, 6, 3, 4]) = .ok r s' ∧
    r.longDetail = .ok "7 - [1→2→6,6,3,4]→[6] (rerolled 1→2, 2→6) / 2" ∧
    r.detail = "7 - [6,6,3,4]→[6] / 2" ∧
    ∃ long, r.longDetail = .ok long ∧ r.body = .ok long ∧ withoutProvenance long = r.detail ∧
      ((∀ roll ∈ r.rolls, roll.rerolls = []) → long = r.detail) := by
  let term : DiceTerm :=
    { count := 2, faces := 6, keepDrop := .keepHigh, explode := true, reroll := .untilAbove,
      rerollThreshold := 2, source := "2d6kh!rr2" }
  let r : Result :=
    { expression := "7 - 2d6kh!rr2 / 2"
      rolls := [{ faces := 6, raw := [6, 6, 3, 4], final := [6], total := 6,
                  rerolls := [⟨0, 1, 2⟩, ⟨0, 2, 6⟩] }]
      total := 0
      detail := "7 - [6,6,3,4]→[6] / 2"
      parsed := some {
        first := .literal 7
        tail := [(.subtract, .dice term), (.divide, .literal 2)] } }
  have h : evaluateLine "7 - 2d6kh!rr2 / 2" (.ofScript [1, 2, 6, 6, 3, 4])
      = .ok r ((Source.ofScript [1, 2, 6, 6, 3, 4]).after (drawsOf 6 [1, 2, 6, 6, 3, 4])) := by
    cbv
  have ht : drawsTaken (.ofScript [1, 2, 6, 6, 3, 4])
      (evaluateLine "7 - 2d6kh!rr2 / 2" (.ofScript [1, 2, 6, 6, 3, 4]))
        = drawsOf 6 [1, 2, 6, 6, 3, 4] := by
    rw [h, drawsTaken, drop_after]
  have hd : ∀ d ∈ drawsOf 6 [1, 2, 6, 6, 3, 4], d.InRange := by decide
  rw [← ht] at hd
  have hlong : r.longDetail = .ok "7 - [1→2→6,6,3,4]→[6] (rerolled 1→2, 2→6) / 2" := by
    cbv
  exact ⟨r, _, h, hlong, rfl, withoutProvenance_longDetail h hd⟩

end Tabletop
