import Tabletop.Proofs.Evaluation.Safety
import Tabletop.Transcript

/-!
# Rolls in the long form

The long form of a roll shows its cells (`Roll.chainCells_ofDice_eq_ok_iff`),
and for a roll without replacements it is the plain form
(`Roll.chainTrace_eq_trace`). So the rolls of a result that was evaluated are
shown in the long form in either case (`body_eq_ok_iff`), though a result
without replacements only repeats its trace. Draws in the range of their dice
are not too long to write, so after them the long trace exists
(`Evaluation.exists_longTrace`), and a chat text if the total can be written
(`exists_chatText_iff`).
-/

namespace Tabletop

/-- A cell of a roll as text: every value that it has held. -/
def cellText (cell : List Int) : Text := Text.join [arrow] (cell.map Numeral.unlimited)

theorem mem_cellText {cell : List Int} {c : CodePoint} (h : c ∈ cellText cell) :
    c = arrow ∨ c.isDigit ∨ c = .char '-' := by
  rcases Text.mem_join h with h | ⟨t, ht, h⟩
  · exact .inl (List.mem_singleton.1 h)
  · obtain ⟨n, -, rfl⟩ := List.mem_map.1 ht
    exact .inr (Numeral.mem_unlimited h)

theorem isCell_cellText {cell : List Int} (h : cell ≠ []) : (cellText cell).IsCell where
  ne_nil := by
    cases cell with
    | nil => exact absurd rfl h
    | cons v rest => exact Text.join_cons_ne_nil (Numeral.unlimited_ne_nil v)
  comma := fun hc => absurd (mem_cellText hc) (by decide)
  bracket := fun hc => absurd (mem_cellText hc) (by decide)

namespace Roll

/-! ## Cells -/

/-- The places of a roll from one on, if their chains are some cells. -/
theorem chainCells_eq_ok_iff {r : Roll} {index : Nat} {cells : List (List Int)}
    (h : ∀ p ∈ cells.zipIdx index, (r.chain? p.2).getD [lastValue p.1] = p.1) {texts : List Text} :
    r.chainCells index (cells.map lastValue) = .ok texts ↔
      (∀ cell ∈ cells, ∀ v ∈ cell, Numeral.Writable v) ∧
        cells.map cellText = texts := by
  induction cells generalizing index texts with
  | nil => simp [chainCells]
  | cons cell cells ih =>
    obtain ⟨hc, hcs⟩ := List.forall_mem_cons.1 h
    dsimp only at hc
    simp only [List.map_cons, chainCells, chainCell, hc, except_bind_eq_ok_iff,
      Numeral.writeAll_eq_ok_iff, ih hcs, List.forall_mem_cons]
    constructor
    · rintro ⟨_, ⟨_, ⟨hv, rfl⟩, ht⟩, _, ⟨hvs, rfl⟩, hts⟩
      rw [← Except.ok.inj ht] at hts
      exact ⟨⟨hv, hvs⟩, Except.ok.inj hts⟩
    · rintro ⟨⟨hv, hvs⟩, rfl⟩
      exact ⟨_, ⟨_, ⟨hv, rfl⟩, rfl⟩, _, ⟨hvs, rfl⟩, rfl⟩

variable {term : DiceTerm} {dice : List Die}

/-- The places of a roll of dice show the cells of the dice. -/
theorem chainCells_ofDice_eq_ok_iff {texts : List Text} :
    (ofDice term dice).chainCells 0 (ofDice term dice).raw = .ok texts ↔
      (∀ v ∈ dice.flatMap Die.draws, Numeral.Writable v) ∧
        (dice.flatMap Die.cells).map cellText = texts := by
  rw [ofDice_raw, chainCells_eq_ok_iff fun p hp => ofDice_chain term dice hp, ← flatten_dice_cells]
  simp only [List.mem_flatten, forall_exists_index, and_imp]
  refine and_congr_left fun _ => ⟨?_, ?_⟩
  · exact fun h v cell hc hv => h cell hc v hv
  · exact fun h cell hc v hv => h v cell hc hv

/-- A roll of dice shows its cells between brackets, and then the values that count and the
replacements. -/
theorem chainTrace_ofDice_eq_ok_iff {text : Text} :
    (ofDice term dice).chainTrace = .ok text ↔
      (∀ v ∈ dice.flatMap Die.draws, Numeral.Writable v) ∧
        bracketCells ((dice.flatMap Die.cells).map cellText) ++ (ofDice term dice).selectedText
          ++ (ofDice term dice).summaryText = text := by
  simp only [chainTrace, except_bind_eq_ok_iff, chainCells_ofDice_eq_ok_iff,
    selectedTrace_eq_ok_iff, rerollSummary_eq_ok_iff, Except.ok.injEq]
  constructor
  · rintro ⟨_, ⟨hv, rfl⟩, _, ⟨-, rfl⟩, _, ⟨-, rfl⟩, ht⟩
    exact ⟨hv, ht⟩
  · rintro ⟨hv, ht⟩
    have hfinal : ∀ v ∈ (ofDice term dice).final, Numeral.Writable v := fun v hm =>
      hv v (mem_draws_of_mem_final hm)
    have hrecords : ∀ record ∈ (ofDice term dice).rerolls, record.Writable := fun record hm =>
      ⟨hv _ (mem_draws_of_mem_rerolls hm).1, hv _ (mem_draws_of_mem_rerolls hm).2⟩
    exact ⟨_, ⟨hv, rfl⟩, _, ⟨fun _ => hfinal, rfl⟩, _, ⟨hrecords, rfl⟩, ht⟩

/-! ## Rolls without replacements -/

theorem chainCells_eq_writeAll {r : Roll} (h : r.rerolls = []) (index : Nat) (values : List Int) :
    r.chainCells index values = Numeral.writeAll values := by
  have hc : ∀ index, r.chain? index = none := fun index => by rw [chain?, h]; rfl
  induction values generalizing index with
  | nil => rfl
  | cons v values ih =>
    have hcell : r.chainCell index v = Numeral.write v := by
      rw [chainCell, hc, Option.getD_none, Numeral.writeAll]
      cases Numeral.write v <;> rfl
    rw [chainCells, hcell, ih, Numeral.writeAll]
    rfl

/-- A roll without replacements has one form. -/
theorem chainTrace_eq_trace {r : Roll} (h : r.rerolls = []) : r.chainTrace = r.trace := by
  have hs : r.rerollSummary = .ok [] := by rw [rerollSummary, h]; rfl
  rw [chainTrace, chainCells_eq_writeAll h, hs, trace]
  cases Numeral.writeAll r.raw with
  | error fault => rfl
  | ok cells =>
    cases r.selectedTrace with
    | error fault => rfl
    | ok selected => exact congrArg Except.ok (List.append_nil _)

end Roll

/-! ## Results -/

theorem traceParts_chainTrace_eq {parts : List Part}
    (h : ∀ roll ∈ parts.flatMap Part.rolls, roll.rerolls = []) :
    traceParts Roll.chainTrace parts = traceParts Roll.trace parts := by
  induction parts with
  | nil => rfl
  | cons part parts ih =>
    rw [List.flatMap_cons, List.forall_mem_append] at h
    have hp : part.trace Roll.chainTrace = part.trace Roll.trace := by
      cases part with
      | number n => rfl
      | roll r => exact Roll.chainTrace_eq_trace (h.1 r List.mem_cons_self)
    rw [traceParts, traceParts, hp, ih h.2]

variable {line : Text} {e : Expression} {parts : List Part} {r : Result}

theorem longDetail_eq_ok_iff (he : Evaluation line e parts r) {text : Text} :
    r.longDetail = .ok text ↔ e.trace? Roll.chainTrace r.rolls = some (.ok text) := by
  have hl : r.layout = .ok e := by rw [Result.layout, he.parsed]
  obtain ⟨long, ht⟩ : ∃ long, e.trace? Roll.chainTrace r.rolls = some long := ⟨_, he.trace?_eq _⟩
  simp only [Result.longDetail, hl, except_bind_eq_ok_iff, Except.ok.injEq, exists_eq_left', ht,
    Option.some.injEq]
  cases long <;> simp

/-- The rolls of a result that was evaluated are shown in the long form. -/
theorem body_eq_ok_iff (he : Evaluation line e parts r) {text : Text} :
    r.body = .ok text ↔ e.trace? Roll.chainTrace r.rolls = some (.ok text) := by
  unfold Result.body
  split
  · exact longDetail_eq_ok_iff he
  · rename_i h
    have hn : ∀ roll ∈ r.rolls, roll.rerolls = [] := by simpa [Result.hasRerolls] using h
    rw [he.rolls] at hn
    rw [he.trace?_eq, traceParts_chainTrace_eq hn, ← he.trace?_eq, he.detail]
    simp only [Option.some.injEq, Except.ok.injEq]

/-- Only the total is written for the chat text of a result whose rolls are. -/
theorem Result.exists_chatText_iff_of_body {body : Text} (hb : r.body = .ok body)
    (description : Option Text) (showMark : Bool) :
    (∃ chat, r.chatText description showMark = .ok chat) ↔ Numeral.Writable r.total := by
  simp only [chatText, except_bind_eq_ok_iff, hb, Except.ok.injEq, exists_eq_left']
  constructor
  · rintro ⟨chat, h⟩
    split at h
    · cases h
    · rename_i total htotal
      exact (Numeral.write_eq_ok_iff.1 htotal).1
  · intro h
    rw [Numeral.write_eq_ok_iff.2 ⟨h, rfl⟩]
    exact ⟨_, rfl⟩

/-! ## Draws in range -/

/-- The numbers of some parts in the long form are not too long when those of their operands are
not. -/
theorem traceParts_chainTrace_of_becomes {xs : List Operand} {parts : List Part}
    (h : List.Forall₂ Operand.Becomes xs parts) (hw : ∀ x ∈ xs, x.Writable)
    (hd : ∀ d ∈ parts.flatMap Part.draws, d.InRange) :
    ∃ texts, traceParts Roll.chainTrace parts = .ok texts := by
  induction h with
  | nil => exact ⟨[], rfl⟩
  | @cons x part xs parts hx hxs ih =>
    rw [List.forall_mem_cons] at hw
    rw [List.flatMap_cons, List.forall_mem_append] at hd
    obtain ⟨texts, hts⟩ := ih hw.2 hd.2
    obtain ⟨text, ht⟩ : ∃ text, part.trace Roll.chainTrace = .ok text := by
      cases hx with
      | number n => exact ⟨_, Numeral.write_eq_ok_iff.2 ⟨hw.1, rfl⟩⟩
      | roll hr => exact ⟨_, Roll.chainTrace_ofDice_eq_ok_iff.2 ⟨writable_draws hw.1 hd.1, rfl⟩⟩
    exact ⟨text :: texts, by rw [traceParts, ht, hts]; rfl⟩

section InRange

variable (he : Evaluation line e parts r) (hw : ∀ x ∈ e.operands, x.Writable)
  (hd : ∀ d ∈ parts.flatMap Part.draws, d.InRange)
include he hw hd

/-- The rolls of a result can be written in the long form, if the draws are in range. -/
theorem Evaluation.exists_longTrace :
    ∃ long, e.trace? Roll.chainTrace r.rolls = some (.ok long) := by
  obtain ⟨texts, hts⟩ := traceParts_chainTrace_of_becomes he.becomes hw hd
  rw [he.trace?_eq, hts]
  exact ⟨_, rfl⟩

/-- Then only the total can be too long for a chat text. -/
theorem Evaluation.exists_chatText_iff (description : Option Text) (showMark : Bool) :
    (∃ chat, r.chatText description showMark = .ok chat) ↔ Numeral.Writable r.total := by
  obtain ⟨long, ht⟩ := he.exists_longTrace hw hd
  exact Result.exists_chatText_iff_of_body ((body_eq_ok_iff he).2 ht) description showMark

end InRange

end Tabletop
