import Tabletop.Proofs.Transcript.LongForm

/-!
# Which results can be shown

A line that returns a result for draws in the range of their dice has a chat
text for it, whatever the description and with or without the mark, exactly if
the total can be written (`exists_chatText_iff_of_evaluateLine`). Its literals
and its draws can be written, since the line was read, and there is a roll for
each of its dice terms (`exists_body_of_evaluateLine`). But nothing bounds the
total: two numbers that can be written may have a product that cannot
(`exists_chatText_productLine_iff`).
-/

namespace Tabletop

theorem Result.chatText_eq_error_iff_of_body {r : Result} {body : Text} (hb : r.body = .ok body)
    (description : Option Text) (showMark : Bool) :
    r.chatText description showMark = .error (.numeral .writing) ↔
      ¬ Numeral.Writable r.total := by
  rw [chatText, hb]
  dsimp only [bind, Except.bind]
  by_cases hw : Numeral.Writable r.total
  · rw [Numeral.write_eq_ok_iff.2 ⟨hw, rfl⟩]
    simp [hw]
  · rw [(Numeral.write_eq_error_iff r.total).2 (Nat.lt_of_not_le hw)]
    simp [hw]

section InRange

variable {line : Text} {s s' : Source} {r : Result} (h : evaluateLine line s = .ok r s')
  (hd : ∀ d ∈ drawsTaken s (evaluateLine line s), d.InRange)
include h hd

/-- The literals were read and the draws are in range, so they can be written. -/
theorem exists_body_of_evaluateLine : ∃ body, r.body = .ok body := by
  obtain ⟨e, hp, hr⟩ := evaluateLine_eq_ok_iff.1 h
  obtain ⟨_, rfl, parts, he, rfl⟩ := (outcomes_evaluate line.strip e).ok hr
  rw [h, drawsTaken, drop_after] at hd
  obtain ⟨long, hlong⟩ := he.exists_longTrace (writable_of_parse hp) hd
  exact ⟨long, (body_eq_ok_iff he).2 hlong⟩

/-- A result that a line returns for draws in range is shown as a chat text exactly if its total has
at most 4300 digits. If it has more, this is why the result is not shown: the rolls and the
literals could be written, and none is missing. -/
theorem exists_chatText_iff_of_evaluateLine (description : Option Text) (showMark : Bool) :
    ((∃ chat, r.chatText description showMark = .ok chat) ↔
      r.total.natAbs < 10 ^ Numeral.maxDigits) ∧
    (r.chatText description showMark = .error (.numeral .writing) ↔
      10 ^ Numeral.maxDigits ≤ r.total.natAbs) := by
  obtain ⟨body, hb⟩ := exists_body_of_evaluateLine h hd
  constructor
  · rw [Result.exists_chatText_iff_of_body hb, Numeral.writable_iff_lt]
  · rw [Result.chatText_eq_error_iff_of_body hb, Numeral.writable_iff_lt, Nat.not_lt]

end InRange

/-- A rerolled die, and a total below zero. -/
theorem exists_chatText_of_rerolled_line : ∃ r s',
    evaluateLine "1 - 2d6r*2" (.ofScript [1, 4, 2]) = .ok r s' ∧
    (∀ d ∈ drawsTaken (.ofScript [1, 4, 2]) (evaluateLine "1 - 2d6r*2" (.ofScript [1, 4, 2])),
      d.InRange) ∧
    r.total = -10 ∧ ∃ chat, r.chatText (some "Luck") true = .ok chat := by
  let r : Result :=
    { expression := "1 - 2d6r*2"
      rolls := [{ faces := 6, raw := [4, 2], final := [4, 2], total := 6, rerolls := [⟨0, 1, 4⟩] }]
      total := -10
      detail := "1 - [4,2] * 2"
      parsed := some {
        first := .literal 1
        tail := [(.subtract, .dice { count := 2, faces := 6, reroll := .once, source := "2d6r" }),
          (.multiply, .literal 2)] } }
  have h : evaluateLine "1 - 2d6r*2" (.ofScript [1, 4, 2])
      = .ok r ((Source.ofScript [1, 4, 2]).after (drawsOf 6 [1, 4, 2])) := by
    cbv
  have hd : ∀ d ∈ drawsTaken (.ofScript [1, 4, 2])
      (evaluateLine "1 - 2d6r*2" (.ofScript [1, 4, 2])), d.InRange := by
    rw [h, drawsTaken, drop_after]
    decide
  have ht : r.total.natAbs < 10 ^ Numeral.maxDigits := Numeral.writable_iff_lt.1 (by decide)
  exact ⟨r, _, h, hd, rfl,
    (exists_chatText_iff_of_evaluateLine h hd (some "Luck") true).1.2 ht⟩

/-! ## A total that is too long -/

section Product

/-- A product of two numbers. -/
def productLine (m n : Nat) : Text :=
  Numeral.digits m ++ Operator.multiply.symbol :: Numeral.digits n

variable {m n : Nat} (hm : Numeral.Writable m) (hn : Numeral.Writable n)
include hm hn

theorem parse_productLine : Expression.parse (productLine m n) =
    .ok { first := .literal m, tail := [(.multiply, .literal n)] } := by
  have hline : ∀ c ∈ productLine m n, c.isBlank = false ∧ c.BeforeLetters := by
    intro c hc
    rw [productLine, List.mem_append, List.mem_cons] at hc
    have hdigit : c.isDigit → c.isBlank = false ∧ c.BeforeLetters := fun h =>
      ⟨Text.isBlank_of_isDigit h, Text.beforeLetters_of_isDigit h⟩
    rcases hc with hc | rfl | hc
    · exact hdigit (Numeral.isDigit_of_mem_digits hc)
    · decide
    · exact hdigit (Numeral.isDigit_of_mem_digits hc)
  have hspelled : ∀ n, (TermSpelling.integer (Numeral.digits n)).WellSpelled := fun n =>
    ⟨Numeral.digits_ne_nil n, fun _ => Numeral.isDigit_of_mem_digits⟩
  refine parse_eq_ok_iff_short.2 ⟨⟨.integer (Numeral.digits m),
    [⟨[], .multiply, [], .integer (Numeral.digits n)⟩]⟩, ⟨hspelled m, ?_⟩, ?_, ?_, ?_, ?_⟩
  · rw [List.forall_mem_singleton]
    exact ⟨by simp, by simp, hspelled n⟩
  · show ∀ s ∈ [TermSpelling.integer (Numeral.digits m), .integer (Numeral.digits n)], s.Short
    simp only [List.forall_mem_cons]
    exact ⟨hm, hn, by simp⟩
  · rw [Text.strip_eq_self fun c hc => (hline c hc).1,
      Text.lowercase_of_beforeLetters fun c hc => (hline c hc).2]
    show Numeral.digits m ++ (Operator.multiply.symbol :: Numeral.digits n ++ []) = _
    rw [List.append_nil, productLine]
  · simp [LineSpelling.tree, Link.tree, TermSpelling.tree, Numeral.value_digits]
  · exact ⟨by simp [Expression.operands, Operand.Valid], by simp⟩

/-- Two numbers that can be written have a product, which is shown if it can be written too. -/
theorem exists_chatText_productLine_iff (s : Source) : ∃ r,
    evaluateLine (productLine m n) s = .ok r s ∧ r.total = m * n ∧
    ∀ description showMark, (∃ chat, r.chatText description showMark = .ok chat) ↔
      m * n < 10 ^ Numeral.maxDigits := by
  obtain ⟨r, h, ht⟩ : ∃ r, evaluateLine (productLine m n) s = .ok r s ∧ r.total = m * n := by
    rw [evaluateLine, parse_productLine hm hn]
    simp only [Expression.evaluate, Tally.start, Tally.steps, Tally.step, Operand.roll, Part.trace,
      Numeral.write_eq_ok_iff.2 ⟨hm, rfl⟩, Numeral.write_eq_ok_iff.2 ⟨hn, rfl⟩, writing,
      Operator.apply, pure_bind]
    exact ⟨_, rfl, rfl⟩
  obtain ⟨body, hb⟩ := exists_body_of_evaluateLine h fun d hd => by
    rw [h, drawsTaken, List.drop_of_length_le (by simp)] at hd
    cases hd
  refine ⟨r, h, ht, fun description showMark => ?_⟩
  rw [Result.exists_chatText_iff_of_body hb, Numeral.writable_iff_lt, ht, ← Int.natCast_mul,
    Int.natAbs_natCast]

end Product

/-- The product of a number of 4300 digits and ten. -/
theorem not_exists_chatText_of_long_product : ∃ r,
    evaluateLine (productLine (10 ^ 4299) 10) (.ofScript []) = .ok r (.ofScript []) ∧
    ¬ ∃ chat, r.chatText none true = .ok chat := by
  have hlong : ∀ n, n + 1 = Numeral.maxDigits →
      Numeral.Writable (10 ^ n : Nat) ∧ ¬ 10 ^ n * 10 < 10 ^ Numeral.maxDigits := by
    intro n hn
    rw [Numeral.writable_iff_lt, Int.natAbs_natCast, ← hn, Nat.pow_succ]
    have := Nat.pow_pos (n := n) (show 0 < 10 by decide)
    omega
  obtain ⟨hw, hlt⟩ := hlong 4299 rfl
  obtain ⟨r, h, -, hchat⟩ :=
    exists_chatText_productLine_iff hw (n := 10) (by decide) (.ofScript [])
  exact ⟨r, h, fun hshown => hlt ((hchat none true).1 hshown)⟩

end Tabletop
