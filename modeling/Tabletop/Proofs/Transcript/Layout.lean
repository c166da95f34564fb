import Tabletop.Proofs.Transcript.LongForm

/-!
# Laying a result out again

A result keeps its line without the blanks around it, and the expression that
was read from that line. The expression can be left out (`Result.bare`): what is
read from the line that was kept is the same (`parse_strip_eq_ok_iff`), so the
result is laid out in the same way (`Evaluation.layout_bare`). A chat text looks
at the expression nowhere else, and there is a roll for each of its dice terms
(`Evaluation.faces_eq`), so none is missing (`Evaluation.longDetail_ne_mismatch`).
-/

namespace Tabletop

namespace Result

/-- A result without the expression that it was evaluated from. -/
def bare (r : Result) : Result := { r with parsed := none }

variable {r : Result}

theorem longDetail_bare (h : r.bare.layout = r.layout) : r.bare.longDetail = r.longDetail := by
  rw [longDetail, longDetail, h]
  rfl

theorem chatText_bare (h : r.bare.layout = r.layout) (description : Option Text)
    (showMark : Bool) : r.bare.chatText description showMark = r.chatText description showMark := by
  have hb : r.bare.body = r.body := by
    rw [body, body, longDetail_bare h]
    rfl
  rw [chatText, chatText, hb]
  rfl

/-- A chat text fails for want of a roll only if the long form does. -/
theorem longDetail_of_chatText_mismatch {description : Option Text} {showMark : Bool}
    {rolls terms : Nat} {expression : Text}
    (h : r.chatText description showMark = .error (.mismatch rolls terms expression)) :
    r.longDetail = .error (.mismatch rolls terms expression) := by
  rw [chatText, except_bind_eq_error_iff] at h
  rcases h with h | ⟨body, -, h⟩
  · unfold body at h
    split at h
    · exact h
    · cases h
  · split at h <;> cases h

end Result

namespace Evaluation

variable {line : Text} {e : Expression} {parts : List Part} {r : Result}
  (he : Evaluation line e parts r)
include he

/-- One roll for each dice term, with its faces. -/
theorem faces_eq : r.rolls.map Roll.faces = e.diceTerms.map DiceTerm.faces := by
  have h : List.Forall₂ Eq (r.rolls.map Roll.faces) (e.diceTerms.map DiceTerm.faces) := by
    rw [List.forall₂_map_left_iff, List.forall₂_map_right_iff, he.rolls]
    exact ((rolls_of_becomes he.becomes).imp fun _ _ hr => hr.1).flip
  rwa [List.forall₂_eq_eq_eq] at h

/-- What is read from the line of a result lays it out as the expression does. -/
theorem layout_bare (hp : Expression.parse line = .ok e) : r.bare.layout = r.layout := by
  have hb : Expression.parse r.bare.expression = .ok e := by
    rw [show r.bare.expression = line from he.expression, hp]
  rw [Result.layout, Result.layout, he.parsed, show r.bare.parsed = none from rfl]
  dsimp only
  rw [hb]

/-- The long form has a roll for each dice term. -/
theorem longDetail_ne_mismatch (rolls terms : Nat) (expression : Text) :
    r.longDetail ≠ .error (.mismatch rolls terms expression) := by
  have hl : r.layout = .ok e := by rw [Result.layout, he.parsed]
  intro h
  rw [Result.longDetail, hl] at h
  obtain ⟨long, ht⟩ : ∃ long, e.trace? Roll.chainTrace r.rolls = some long := ⟨_, he.trace?_eq _⟩
  dsimp only [bind, Except.bind] at h
  rw [ht] at h
  cases long <;> cases h

end Evaluation

/-- A result that was evaluated can be laid out again from its line: the line is read as the
expression that was evaluated, with a roll for each of its dice terms and of its faces, so the long
form and every chat text come out the same, or fail alike, without that expression; and they never
fail for want of a roll. -/
theorem relayout_of_evaluateLine {line : Text} {s s' : Source} {r : Result}
    (h : evaluateLine line s = .ok r s') :
    (∃ e, r.parsed = some e ∧ Expression.parse r.expression = .ok e ∧
      r.rolls.map Roll.faces = e.diceTerms.map DiceTerm.faces) ∧
    r.bare.longDetail = r.longDetail ∧
    (∀ description showMark,
      r.bare.chatText description showMark = r.chatText description showMark) ∧
    ∀ rolls terms expression, r.longDetail ≠ .error (.mismatch rolls terms expression) ∧
      ∀ description showMark,
        r.chatText description showMark ≠ .error (.mismatch rolls terms expression) := by
  obtain ⟨e, hp, hr⟩ := evaluateLine_eq_ok_iff.1 h
  obtain ⟨_, rfl, parts, he, rfl⟩ := (outcomes_evaluate line.strip e).ok hr
  have hstrip : Expression.parse line.strip = .ok e := parse_strip_eq_ok_iff.2 hp
  have hlayout := he.layout_bare hstrip
  refine ⟨⟨e, he.parsed, ?_, he.faces_eq⟩, Result.longDetail_bare hlayout,
    Result.chatText_bare hlayout, fun rolls terms expression => ?_⟩
  · rw [he.expression, hstrip]
  · have hne := he.longDetail_ne_mismatch rolls terms expression
    exact ⟨hne, fun _ _ hc => hne (Result.longDetail_of_chatText_mismatch hc)⟩

/-- The line has blanks around it and capital letters, and the first die is rerolled. -/
theorem relayout_of_rerolled_line : ∃ r s',
    evaluateLine "\t 2D6R1 + 3\n" (.ofScript [1, 4, 2]) = .ok r s' ∧
    r.expression = "2D6R1 + 3" ∧
    r.chatText none true = .ok "🎲 2D6R1 + 3 = [1→4,2] (rerolled 1→4) + 3 = 9" ∧
    r.bare.chatText none true = r.chatText none true ∧
    Expression.parse r.expression = .ok { first := .dice {
      count := 2, faces := 6, reroll := .once, source := "2d6r1" }, tail := [(.add, .literal 3)] } := by
  let e : Expression := {
    first := .dice { count := 2, faces := 6, reroll := .once, source := "2d6r1" }
    tail := [(.add, .literal 3)] }
  let r : Result := {
    expression := "2D6R1 + 3"
    rolls := [{ faces := 6, raw := [4, 2], final := [4, 2], total := 6, rerolls := [⟨0, 1, 4⟩] }]
    total := 9
    detail := "[4,2] + 3"
    parsed := some e }
  have h : evaluateLine "\t 2D6R1 + 3\n" (.ofScript [1, 4, 2])
      = .ok r ((Source.ofScript [1, 4, 2]).after (drawsOf 6 [1, 4, 2])) := by
    cbv
  have hc : r.chatText none true = .ok "🎲 2D6R1 + 3 = [1→4,2] (rerolled 1→4) + 3 = 9" := by
    cbv
  obtain ⟨⟨e', he, hp, -⟩, -, hchat, -⟩ := relayout_of_evaluateLine h
  obtain rfl := Option.some.inj he
  exact ⟨r, _, h, rfl, hc, hchat none true, hp⟩

end Tabletop
