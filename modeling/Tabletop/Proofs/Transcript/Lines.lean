import Tabletop.Proofs.Transcript.Lossless

/-!
# The lines of a chat text

Nothing that a roll is written with breaks a line: its rolls and literals, by
cases on the operands (`lineFeed_not_mem_trace`), and what stands between them
(`lineFeed_not_mem_body`). But a line of notation may be broken around its
operators, and the chat text repeats it as it was given. So a chat text is the
roll on one line, below its description (`InLines`), exactly if the notation is
(`lines_of_chatText`).
-/

namespace Tabletop

/-- What ends a line. -/
def lineFeed : CodePoint := .char '\n'

/-! ## Rolls -/

theorem Text.not_mem_join {c : CodePoint} {sep : Text} {ts : List Text} (hs : c ∉ sep)
    (ht : ∀ t ∈ ts, c ∉ t) : c ∉ join sep ts := fun h => by
  rcases mem_join h with h | ⟨t, hm, h⟩
  · exact hs h
  · exact ht t hm h

theorem lineFeed_not_mem_unlimited (n : Int) : lineFeed ∉ Numeral.unlimited n := fun h =>
  absurd (Numeral.mem_unlimited h) (by decide)

theorem lineFeed_not_mem_bracketCells {cells : List Text} (h : ∀ t ∈ cells, lineFeed ∉ t) :
    lineFeed ∉ bracketCells cells := by
  have hjoin : lineFeed ∉ Text.join [.char ','] cells := Text.not_mem_join (by decide) h
  simp only [bracketCells, List.cons_append, List.mem_cons, List.mem_append, hjoin, false_or]
  decide

namespace Roll

theorem lineFeed_not_mem_selectedText (r : Roll) : lineFeed ∉ r.selectedText := by
  unfold selectedText
  split
  · have hcells : lineFeed ∉ bracketCells (r.final.map Numeral.unlimited) :=
      lineFeed_not_mem_bracketCells (List.forall_mem_map.2 fun n _ => lineFeed_not_mem_unlimited n)
    rw [List.mem_cons, not_or]
    exact ⟨by decide, hcells⟩
  · exact List.not_mem_nil

theorem lineFeed_not_mem_summaryText (r : Roll) : lineFeed ∉ r.summaryText := by
  have hrecord : ∀ record ∈ r.rerolls, lineFeed ∉ record.text := fun record _ h =>
    absurd (RerollRecord.mem_text h) (by decide)
  have hjoin : lineFeed ∉ Text.join [.char ',', .char ' '] (r.rerolls.map RerollRecord.text) :=
    Text.not_mem_join (by decide) (List.forall_mem_map.2 hrecord)
  unfold summaryText
  split
  · exact List.not_mem_nil
  · rw [List.mem_append, List.mem_append, not_or, not_or]
    exact ⟨⟨by decide, hjoin⟩, by decide⟩

end Roll

/-- What an operand has become is written on one line. -/
theorem lineFeed_not_mem_trace {x : Operand} {part : Part} (h : x.Becomes part) {text : Text}
    (ht : part.trace Roll.chainTrace = .ok text) : lineFeed ∉ text := by
  cases h with
  | number n =>
    obtain ⟨-, rfl⟩ := Numeral.write_eq_ok_iff.1 ht
    exact lineFeed_not_mem_unlimited n
  | @roll term dice hd =>
    obtain ⟨-, rfl⟩ := Roll.chainTrace_ofDice_eq_ok_iff.1 ht
    have hcell : ∀ cell ∈ dice.flatMap Die.cells, lineFeed ∉ cellText cell := fun cell _ h =>
      absurd (mem_cellText h) (by decide)
    simp only [List.mem_append, not_or]
    exact ⟨⟨lineFeed_not_mem_bracketCells (List.forall_mem_map.2 hcell),
      Roll.lineFeed_not_mem_selectedText _⟩, Roll.lineFeed_not_mem_summaryText _⟩

/-- What the operands have become is written on one line each, by induction on them. -/
theorem lineFeed_not_mem_traceParts {xs : List Operand} {parts : List Part}
    (h : List.Forall₂ Operand.Becomes xs parts) {texts : List Text}
    (ht : traceParts Roll.chainTrace parts = .ok texts) : ∀ text ∈ texts, lineFeed ∉ text := by
  rw [traceParts_eq_ok_iff] at ht
  induction h generalizing texts with
  | nil =>
    cases ht
    exact fun _ h => by cases h
  | cons hx _ ih =>
    obtain ⟨text, texts, hpart, hparts, rfl⟩ := List.forall₂_cons_left_iff.1 ht
    exact List.forall_mem_cons.2 ⟨lineFeed_not_mem_trace hx hpart, ih hparts⟩

/-! ## Results -/

theorem lineFeed_not_mem_joinTerms {first : Text} {rest : List (Operator × Text)}
    (hf : lineFeed ∉ first) (hr : ∀ p ∈ rest, lineFeed ∉ p.2) :
    lineFeed ∉ joinTerms first rest := by
  have hspaced : ∀ o : Operator, lineFeed ∉ o.spaced := fun o => by cases o <;> decide
  rw [joinTerms, List.mem_append, not_or, List.mem_flatMap]
  refine ⟨hf, ?_⟩
  rintro ⟨⟨o, t⟩, hm, h⟩
  rcases List.mem_append.1 h with h | h
  · exact hspaced o h
  · exact hr _ hm h

/-- The terms of an evaluation and the operators between them stand on one line. -/
theorem Evaluation.lineFeed_not_mem_body {line : Text} {e : Expression} {parts : List Part}
    {r : Result} (he : Evaluation line e parts r) {body : Text}
    (hb : e.trace? Roll.chainTrace r.rolls = some (.ok body)) : lineFeed ∉ body := by
  rw [he.trace?_eq, Option.some.injEq, except_bind_eq_ok_iff] at hb
  obtain ⟨texts, ht, hb⟩ := hb
  obtain rfl := Except.ok.inj hb
  have htexts := lineFeed_not_mem_traceParts he.becomes ht
  cases texts with
  | nil => exact lineFeed_not_mem_joinTerms List.not_mem_nil fun p hp => by simp at hp
  | cons text texts =>
    obtain ⟨hfirst, hrest⟩ := List.forall_mem_cons.1 htexts
    exact lineFeed_not_mem_joinTerms hfirst fun p hp => hrest p.2 (List.of_mem_zip hp).2

/-- What stands in a chat text behind its description breaks where the line of its result does. -/
theorem Evaluation.count_lineFeed {line : Text} {e : Expression} {parts : List Part} {r : Result}
    (he : Evaluation line e parts r) {description : Option Text} {showMark : Bool} {chat : Text}
    (hc : r.chatText description showMark = .ok chat) :
    ∃ rollLine, chat = Result.descriptionLine description ++ rollLine ∧
      rollLine.count lineFeed = line.count lineFeed := by
  obtain ⟨body, hb, rfl⟩ := chatText_eq_ok he hc
  have hmark : lineFeed ∉ markIf showMark diceMark := by cases showMark <;> decide
  have hequals : lineFeed ∉ Text.ofString " = " := by decide
  have hbody := he.lineFeed_not_mem_body hb
  have htotal := lineFeed_not_mem_unlimited r.total
  refine ⟨markIf showMark diceMark ++ (line ++ (Text.ofString " = " ++ (body
    ++ (Text.ofString " = " ++ Numeral.unlimited r.total)))), by simp only [List.append_assoc], ?_⟩
  simp only [List.count_append, List.count_eq_zero_of_not_mem hmark,
    List.count_eq_zero_of_not_mem hequals, List.count_eq_zero_of_not_mem hbody,
    List.count_eq_zero_of_not_mem htotal, Nat.add_zero, Nat.zero_add]

/-! ## Descriptions -/

/-- Whether a description stands above a roll. -/
def showsAbove : Option Text → Bool
  | none => false
  | some d => !d.isBlank

/-- A chat text is one line, or one line below a description that shows. -/
inductive InLines : Option Text → Text → Prop where
  | roll {description : Option Text} {chat : Text} (hd : showsAbove description = false)
    (hl : lineFeed ∉ chat) : InLines description chat
  | described {d rollLine : Text} (hd : showsAbove (some d) = true) (hl : lineFeed ∉ rollLine) :
    InLines (some d) (d ++ lineFeed :: rollLine)

theorem descriptionLine_of_not_showsAbove {description : Option Text}
    (h : showsAbove description = false) : Result.descriptionLine description = [] := by
  cases description with
  | none => rfl
  | some d =>
    rw [showsAbove, Bool.not_eq_false'] at h
    rw [Result.descriptionLine, if_pos h]

theorem descriptionLine_of_showsAbove {d : Text} (h : showsAbove (some d)) :
    Result.descriptionLine (some d) = d ++ [lineFeed] := by
  rw [showsAbove, Bool.not_eq_true'] at h
  rw [Result.descriptionLine, if_neg (by simp [h])]
  rfl

/-- Below its description, a chat text is one line if what stands there is. -/
theorem inLines_append_iff (description : Option Text) (rollLine : Text) :
    InLines description (Result.descriptionLine description ++ rollLine) ↔
      lineFeed ∉ rollLine := by
  cases hs : showsAbove description with
  | false =>
    rw [descriptionLine_of_not_showsAbove hs, List.nil_append]
    refine ⟨fun h => ?_, .roll hs⟩
    cases h with
    | roll _ hl => exact hl
    | described hd _ =>
      rw [hs] at hd
      cases hd
  | true =>
    cases description with
    | none => cases hs
    | some d =>
      rw [descriptionLine_of_showsAbove hs, List.append_assoc, List.singleton_append]
      refine ⟨fun h => ?_, .described hs⟩
      generalize ht : d ++ lineFeed :: rollLine = chat at h
      cases h with
      | roll hd _ =>
        rw [hs] at hd
        cases hd
      | described _ hl =>
        rw [(List.cons.inj (List.append_cancel_left ht)).2]
        exact hl

/-- A description without line feeds ends one line. -/
theorem count_descriptionLine {description : Option Text}
    (hd : ∀ d, description = some d → lineFeed ∉ d) :
    (Result.descriptionLine description).count lineFeed = (showsAbove description).toNat := by
  cases hs : showsAbove description with
  | false =>
    rw [descriptionLine_of_not_showsAbove hs]
    rfl
  | true =>
    cases description with
    | none => cases hs
    | some d =>
      rw [descriptionLine_of_showsAbove hs, List.count_append,
        List.count_eq_zero_of_not_mem (hd d rfl)]
      rfl

/-- A chat text has one line feed below a description that shows, those of the notation, which it
repeats without the blanks around it, and no others, in the plain form and in the long one. So it is
one line below its description if and only if the notation is one line. -/
theorem lines_of_chatText {line : Text} {s s' : Source} {r : Result}
    (h : evaluateLine line s = .ok r s') {description : Option Text}
    (hd : ∀ d, description = some d → lineFeed ∉ d) {showMark : Bool} {chat : Text}
    (hc : r.chatText description showMark = .ok chat) :
    chat.count lineFeed = (showsAbove description).toNat + line.strip.count lineFeed ∧
    (InLines description chat ↔ lineFeed ∉ line.strip) := by
  obtain ⟨e, hp, hr⟩ := evaluateLine_eq_ok_iff.1 h
  obtain ⟨_, rfl, parts, he, rfl⟩ := (outcomes_evaluate line.strip e).ok hr
  obtain ⟨rollLine, rfl, hcount⟩ := he.count_lineFeed hc
  constructor
  · rw [List.count_append, count_descriptionLine hd, hcount]
  · rw [inLines_append_iff, ← List.count_eq_zero, hcount, List.count_eq_zero]

/-- A rerolled die in a line with line feeds around it, below a description. -/
theorem lines_of_rerolled_line : ∃ r s',
    evaluateLine "\n2d6r + 3\n" (.ofScript [1, 4, 2]) = .ok r s' ∧
    lineFeed ∉ Text.ofString "Attack" ∧
    r.chatText (some "Attack") true = .ok "Attack\n🎲 2d6r + 3 = [1→4,2] (rerolled 1→4) + 3 = 9" ∧
    InLines (some "Attack") "Attack\n🎲 2d6r + 3 = [1→4,2] (rerolled 1→4) + 3 = 9" := by
  let r : Result :=
    { expression := "2d6r + 3"
      rolls := [{ faces := 6, raw := [4, 2], final := [4, 2], total := 6, rerolls := [⟨0, 1, 4⟩] }]
      total := 9
      detail := "[4,2] + 3"
      parsed := some {
        first := .dice { count := 2, faces := 6, reroll := .once, source := "2d6r" }
        tail := [(.add, .literal 3)] } }
  have h : evaluateLine "\n2d6r + 3\n" (.ofScript [1, 4, 2])
      = .ok r ((Source.ofScript [1, 4, 2]).after (drawsOf 6 [1, 4, 2])) := by
    cbv
  have hd : lineFeed ∉ Text.ofString "Attack" := by decide
  have hc : r.chatText (some "Attack") true
      = .ok "Attack\n🎲 2d6r + 3 = [1→4,2] (rerolled 1→4) + 3 = 9" := by
    cbv
  have hdescription : ∀ d, some (Text.ofString "Attack") = some d → lineFeed ∉ d :=
    fun d hsome => Option.some.inj hsome ▸ hd
  exact ⟨r, _, h, hd, hc, (lines_of_chatText h hdescription hc).2.2 (by decide)⟩

/-- A line that is broken in front of its operator, below a description and without one. -/
theorem not_inLines_of_broken_line : ∃ r s',
    evaluateLine "2d6\n+2" (.ofScript [4, 3]) = .ok r s' ∧
    (∀ d ∈ drawsTaken (.ofScript [4, 3]) (evaluateLine "2d6\n+2" (.ofScript [4, 3])), d.InRange) ∧
    r.chatText (some "Attack") true = .ok "Attack\n🎲 2d6\n+2 = [4,3] + 2 = 9" ∧
    ¬ InLines (some "Attack") "Attack\n🎲 2d6\n+2 = [4,3] + 2 = 9" ∧
    r.chatText none true = .ok "🎲 2d6\n+2 = [4,3] + 2 = 9" ∧
    ¬ InLines none "🎲 2d6\n+2 = [4,3] + 2 = 9" := by
  let r : Result :=
    { expression := "2d6\n+2"
      rolls := [{ faces := 6, raw := [4, 3], final := [4, 3], total := 7 }]
      total := 9
      detail := "[4,3] + 2"
      parsed := some {
        first := .dice { count := 2, faces := 6, source := "2d6" }, tail := [(.add, .literal 2)] } }
  have h : evaluateLine "2d6\n+2" (.ofScript [4, 3])
      = .ok r ((Source.ofScript [4, 3]).after (drawsOf 6 [4, 3])) := by
    cbv
  have hdraws : ∀ d ∈ drawsTaken (.ofScript [4, 3]) (evaluateLine "2d6\n+2" (.ofScript [4, 3])),
      d.InRange := by
    rw [h, drawsTaken, drop_after]
    decide
  have hbroken : ¬ lineFeed ∉ Text.ofString "🎲 2d6\n+2 = [4,3] + 2 = 9" := by decide
  refine ⟨r, _, h, hdraws, by cbv, ?_, by cbv, ?_⟩
  · exact fun hlines => hbroken ((inLines_append_iff (some "Attack") _).1 hlines)
  · exact fun hlines => hbroken ((inLines_append_iff none _).1 hlines)

end Tabletop
