import Tabletop.Proofs.Dice.Cells
import Tabletop.Proofs.Numeral
import Tabletop.Proofs.Text.Runs

/-!
# The text of a roll

What a roll is written as, when its numbers are not too long
(`Roll.trace_eq_ok_iff`): its values, then those that count if there are fewer
(`Roll.selectedText`). The long form ends with the replacements
(`Roll.summaryText`). Nothing in a cell can be taken for a comma or a bracket
(`Text.IsCell`), and the terms of a trace are taken off one by one
(`joinTerms_cons`).
-/

namespace Tabletop

/-- A text that can stand between brackets and commas. -/
structure Text.IsCell (t : Text) : Prop where
  ne_nil : t ≠ []
  comma : .char ',' ∉ t
  bracket : .char ']' ∉ t

theorem isCell_unlimited (n : Int) : (Numeral.unlimited n).IsCell where
  ne_nil := Numeral.unlimited_ne_nil n
  comma := fun h => absurd (Numeral.mem_unlimited h) (by decide)
  bracket := fun h => absurd (Numeral.mem_unlimited h) (by decide)

theorem mem_joined_unlimited {ns : List Int} {c : CodePoint}
    (h : c ∈ Text.join [.char ','] (ns.map Numeral.unlimited)) :
    c = .char ',' ∨ c.isDigit ∨ c = .char '-' := by
  rcases Text.mem_join h with h | ⟨t, ht, h⟩
  · exact .inl (List.mem_singleton.1 h)
  · obtain ⟨n, -, rfl⟩ := List.mem_map.1 ht
    exact .inr (Numeral.mem_unlimited h)

theorem mem_bracketCells_unlimited {ns : List Int} {c : CodePoint}
    (h : c ∈ bracketCells (ns.map Numeral.unlimited)) :
    c ∈ [.char '[', .char ',', .char ']'] ∨ c.isDigit ∨ c = .char '-' := by
  simp only [bracketCells, List.cons_append, List.mem_cons, List.mem_append, List.not_mem_nil,
    or_false] at h ⊢
  rcases h with rfl | h | rfl
  · exact .inl (.inl rfl)
  · exact (mem_joined_unlimited h).imp_left fun h => .inr (.inl h)
  · exact .inl (.inr (.inr rfl))

/-! ## Replacements -/

/-- The text of a replacement. -/
def RerollRecord.text (record : RerollRecord) : Text :=
  Numeral.unlimited record.replaced ++ arrow :: Numeral.unlimited record.rerolled

theorem RerollRecord.mem_text {record : RerollRecord} {c : CodePoint} (h : c ∈ record.text) :
    c = arrow ∨ c.isDigit ∨ c = .char '-' := by
  rw [text, List.mem_append, List.mem_cons] at h
  rcases h with h | h | h
  · exact .inr (Numeral.mem_unlimited h)
  · exact .inl h
  · exact .inr (Numeral.mem_unlimited h)

/-- A replacement whose numbers are not too long. -/
def RerollRecord.Writable (record : RerollRecord) : Prop :=
  Numeral.Writable record.replaced ∧ Numeral.Writable record.rerolled

theorem RerollRecord.trace_eq_ok_iff {record : RerollRecord} {t : Text} :
    record.trace = .ok t ↔ record.Writable ∧ record.text = t := by
  simp only [trace, except_bind_eq_ok_iff, Numeral.write_eq_ok_iff, Except.ok.injEq]
  constructor
  · rintro ⟨_, ⟨h, rfl⟩, _, ⟨h', rfl⟩, ht⟩
    exact ⟨⟨h, h'⟩, ht⟩
  · rintro ⟨⟨h, h'⟩, ht⟩
    exact ⟨_, ⟨h, rfl⟩, _, ⟨h', rfl⟩, ht⟩

theorem traceRecords_eq_ok_iff {records : List RerollRecord} {ts : List Text} :
    traceRecords records = .ok ts ↔
      (∀ record ∈ records, record.Writable) ∧ records.map RerollRecord.text = ts := by
  induction records generalizing ts with
  | nil => simp [traceRecords]
  | cons record records ih =>
    simp only [traceRecords, except_bind_eq_ok_iff, RerollRecord.trace_eq_ok_iff, ih,
      List.forall_mem_cons]
    constructor
    · rintro ⟨_, ⟨h, rfl⟩, _, ⟨hs, rfl⟩, ht⟩
      exact ⟨⟨h, hs⟩, Except.ok.inj ht⟩
    · rintro ⟨⟨h, hs⟩, rfl⟩
      exact ⟨_, ⟨h, rfl⟩, _, ⟨hs, rfl⟩, rfl⟩

/-- What replacements are said to be behind a roll. -/
def summaryMark : Text := " (rerolled "

namespace Roll

/-- The replacements of a roll as text. -/
def summaryText (r : Roll) : Text :=
  if r.rerolls = [] then []
  else summaryMark ++ Text.join [.char ',', .char ' '] (r.rerolls.map RerollRecord.text)
    ++ [.char ')']

theorem rerollSummary_eq_ok_iff {r : Roll} {t : Text} :
    r.rerollSummary = .ok t ↔ (∀ record ∈ r.rerolls, record.Writable) ∧ r.summaryText = t := by
  unfold rerollSummary summaryText
  cases h : r.rerolls with
  | nil => simp
  | cons record records =>
    rw [List.isEmpty_cons, if_neg Bool.false_ne_true, if_neg (List.cons_ne_nil _ _), ← h]
    simp only [except_bind_eq_ok_iff, traceRecords_eq_ok_iff, Except.ok.injEq]
    constructor
    · rintro ⟨_, ⟨hr, rfl⟩, ht⟩
      exact ⟨hr, ht⟩
    · rintro ⟨hr, ht⟩
      exact ⟨_, ⟨hr, rfl⟩, ht⟩

/-! ## Values -/

/-- The values that count as text, if the selection left one out. -/
def selectedText (r : Roll) : Text :=
  if r.selectionChanged then arrow :: bracketCells (r.final.map Numeral.unlimited) else []

theorem selectedTrace_eq_ok_iff {r : Roll} {t : Text} :
    r.selectedTrace = .ok t ↔
      (r.selectionChanged → ∀ v ∈ r.final, Numeral.Writable v) ∧ r.selectedText = t := by
  unfold selectedTrace selectedText
  split
  · rename_i h
    simp only [except_bind_eq_ok_iff, Numeral.writeAll_eq_ok_iff, Except.ok.injEq, h, true_imp_iff]
    constructor
    · rintro ⟨_, ⟨hf, rfl⟩, ht⟩
      exact ⟨hf, ht⟩
    · rintro ⟨hf, ht⟩
      exact ⟨_, ⟨hf, rfl⟩, ht⟩
  · rename_i h
    simp [h]

/-- The text of a roll in the plain form. -/
def text (r : Roll) : Text := bracketCells (r.raw.map Numeral.unlimited) ++ r.selectedText

theorem mem_text {r : Roll} {c : CodePoint} (h : c ∈ r.text) :
    c ∈ [.char '[', .char ',', .char ']', arrow] ∨ c.isDigit ∨ c = .char '-' := by
  have hcells : ∀ {ns : List Int}, c ∈ bracketCells (ns.map Numeral.unlimited) →
      c ∈ [.char '[', .char ',', .char ']', arrow] ∨ c.isDigit ∨ c = .char '-' := fun h =>
    (mem_bracketCells_unlimited h).imp_left fun h => List.mem_append_left [arrow] h
  rcases List.mem_append.1 h with h | h
  · exact hcells h
  · unfold selectedText at h
    split at h
    · rcases List.mem_cons.1 h with rfl | h
      · exact .inl (by decide)
      · exact hcells h
    · cases h

theorem trace_eq_ok_iff {r : Roll} {t : Text} :
    r.trace = .ok t ↔ (∀ v ∈ r.raw, Numeral.Writable v) ∧
      (r.selectionChanged → ∀ v ∈ r.final, Numeral.Writable v) ∧ r.text = t := by
  simp only [trace, except_bind_eq_ok_iff, Numeral.writeAll_eq_ok_iff, selectedTrace_eq_ok_iff,
    Except.ok.injEq]
  constructor
  · rintro ⟨_, ⟨hr, rfl⟩, _, ⟨hf, rfl⟩, ht⟩
    exact ⟨hr, hf, ht⟩
  · rintro ⟨hr, hf, ht⟩
    exact ⟨_, ⟨hr, rfl⟩, _, ⟨hf, rfl⟩, ht⟩

end Roll

/-! ## Terms -/

theorem joinTerms_cons (t u : Text) (o : Operator) (us : List (Operator × Text)) :
    joinTerms t ((o, u) :: us) = t ++ (o.spaced ++ joinTerms u us) := by
  simp only [joinTerms, List.flatMap_cons, List.append_assoc]

end Tabletop
