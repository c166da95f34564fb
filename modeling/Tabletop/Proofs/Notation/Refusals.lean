import Tabletop.Proofs.Notation.Reading

/-!
# Refused lines

Where the reading of a line stops. A line is read from left to right, so what
is in front of the place is a line that is accepted, and one thing is wrong with
what is behind it (`Refuses`):

* `TermSpelling.operand_eq`: a spelled term is refused for its first number that
  is too long, or else for the first rule that it breaks;
* `Stops`: what one step of `readTail` can fail on;
* `stops_of_readTail`: a tail that is refused is links that are read, and a text
  at which a step fails;
* `refuses_of_readLine`: the same for the line.

A number that is too long to read is no fault of the notation: it is the one
refusal that does not name the line (`readLine_eq_numeral_iff`).
-/

namespace Tabletop

/-! ## Terms -/

namespace TermSpelling

/-- The runs of digits of a term, in the order in which they are read. -/
def numbers : TermSpelling → List Text
  | integer digits => [digits]
  | dice s => [s.count, s.faces, s.modifier, s.threshold]

/-- The length of the first number of a term that is too long to read. -/
def longNumber? (s : TermSpelling) : Option Nat :=
  (s.numbers.map List.length).find? fun n => Numeral.maxDigits < n

/-- The first of the dice rules that a term breaks. -/
def brokenRule? : TermSpelling → Option NotationCause
  | integer _ => none
  | dice s => s.brokenRule? (Numeral.valueOrOne s.count) (Numeral.value s.faces)
      (Numeral.valueOrOne s.modifier) (Numeral.valueOrOne s.threshold)

end TermSpelling

theorem readNumber_eq (ds : Text) : readNumber ds =
    if Numeral.maxDigits < ds.length then .error (.numeral (.reading ds.length))
    else .ok (Numeral.value ds) := by
  unfold readNumber Numeral.read
  by_cases h : ds.length ≤ Numeral.maxDigits
  · rw [if_pos h, if_neg (by omega)]
  · rw [if_neg h, if_pos (by omega)]

theorem readNumberOrOne_eq (ds : Text) : readNumberOrOne ds =
    if Numeral.maxDigits < ds.length then .error (.numeral (.reading ds.length))
    else .ok (Numeral.valueOrOne ds) := by
  unfold readNumberOrOne Numeral.valueOrOne
  cases ds with
  | nil => rfl
  | cons c ds => simp only [List.isEmpty_cons, Bool.false_eq_true, if_false, reduceCtorEq,
      readNumber_eq]

theorem DiceSpelling.term_eq (s : DiceSpelling) : s.term =
    match (TermSpelling.dice s).longNumber?, (TermSpelling.dice s).brokenRule? with
    | some n, _ => .error (.numeral (.reading n))
    | none, some cause => .error (.fault cause s.text)
    | none, none => .ok s.tree := by
  simp only [term, readNumber_eq, readNumberOrOne_eq, TermSpelling.longNumber?,
    TermSpelling.numbers, List.map_cons, List.map_nil, List.find?_cons, List.find?_nil]
  -- The numbers are read one after another, and the first that is too long ends the reading.
  by_cases hc : Numeral.maxDigits < s.count.length
  · simp only [hc, if_true, decide_true]
    rfl
  by_cases hf : Numeral.maxDigits < s.faces.length
  · simp only [hc, hf, if_true, if_false, decide_true, decide_false]
    rfl
  by_cases hm : Numeral.maxDigits < s.modifier.length
  · simp only [hc, hf, hm, if_true, if_false, decide_true, decide_false]
    rfl
  by_cases ht : Numeral.maxDigits < s.threshold.length
  · simp only [hc, hf, hm, ht, if_true, if_false, decide_true, decide_false]
    rfl
  simp only [hc, hf, hm, ht, if_false, decide_false, TermSpelling.brokenRule?]
  dsimp only [bind, Except.bind]
  cases s.brokenRule? (Numeral.valueOrOne s.count) (Numeral.value s.faces)
    (Numeral.valueOrOne s.modifier) (Numeral.valueOrOne s.threshold) <;> rfl

namespace TermSpelling

/-- A term is refused for its first number that is too long, or else for the first rule that it
breaks. -/
theorem operand_eq (s : TermSpelling) : s.operand =
    match s.longNumber?, s.brokenRule? with
    | some n, _ => .error (.numeral (.reading n))
    | none, some cause => .error (.fault cause s.text)
    | none, none => .ok s.tree := by
  cases s with
  | integer digits =>
    simp only [operand, readNumber_eq, longNumber?, numbers, brokenRule?, List.map_cons,
      List.map_nil, List.find?_cons, List.find?_nil]
    by_cases h : Numeral.maxDigits < digits.length
    · simp only [h, if_true, decide_true]
      rfl
    · simp only [h, if_false, decide_false]
      rfl
  | dice s =>
    rw [operand, DiceSpelling.term_eq]
    split <;> rfl

theorem longNumber?_eq_none_iff {s : TermSpelling} : s.longNumber? = none ↔ s.Short := by
  cases s with
  | integer digits => simp [longNumber?, numbers, Short]
  | dice s =>
    simp only [longNumber?, numbers, List.find?_eq_none, List.forall_mem_map, List.forall_mem_cons,
      decide_eq_true_eq, Nat.not_lt, Short]
    constructor
    · rintro ⟨hc, hf, hm, ht, -⟩
      exact ⟨hc, hf, hm, ht⟩
    · intro h
      exact ⟨h.count, h.faces, h.modifier, h.threshold, fun _ h => by cases h⟩

theorem operand_eq_numeral_iff {s : TermSpelling} {f : Numeral.Fault} :
    s.operand = .error (.numeral f) ↔ ∃ n, s.longNumber? = some n ∧ .reading n = f := by
  rw [operand_eq]
  split <;> simp [*]

end TermSpelling

theorem Operator.checkOperand_ne_numeral {o : Operator} {x : Operand} {f : Numeral.Fault} :
    o.checkOperand x ≠ .error (.numeral f) := by
  unfold checkOperand
  split
  · cases x <;> simp only [Operand.checkDivisor] <;> split <;> simp
  · simp

/-! ## Tails -/

/-- Why nothing is read at the front of a tail: no operator is behind the gaps, or no term behind
the operator, or the term is refused, on its own or as an operand. -/
inductive Stops (t : Text) : Refusal → Prop
  | noOperator {symbol : CodePoint} {rest : Text} (ht : t.dropWhile (·.isGap) = symbol :: rest)
      (ho : Operator.ofSymbol? symbol = none) : Stops t (.fault .noOperator (symbol :: rest))
  | noOperand {o : Operator} {rest : Text} (ht : t.dropWhile (·.isGap) = o.symbol :: rest)
      (hs : TermSpelling.scan? (rest.dropWhile (·.isGap)) = none) :
      Stops t (.fault (.noOperand o) (o.symbol :: rest.dropWhile (·.isGap)))
  | term {o : Operator} {rest after : Text} {s : TermSpelling} {r : Refusal}
      (ht : t.dropWhile (·.isGap) = o.symbol :: rest)
      (hs : TermSpelling.scan? (rest.dropWhile (·.isGap)) = some (s, after))
      (hx : s.operand = .error r) : Stops t r
  | operand {o : Operator} {rest after : Text} {s : TermSpelling} {x : Operand} {r : Refusal}
      (ht : t.dropWhile (·.isGap) = o.symbol :: rest)
      (hs : TermSpelling.scan? (rest.dropWhile (·.isGap)) = some (s, after))
      (hx : s.operand = .ok x) (hc : o.checkOperand x = .error r) : Stops t r

/-- A tail that is refused stops at its front, or has a first link that is read. -/
theorem readTail_error_cases {t : Text} {r : Refusal} (h : readTail t = .error r) :
    Stops t r ∨ ∃ (o : Operator) (rest : Text) (s : TermSpelling) (after : Text) (x : Operand),
      t.dropWhile (·.isGap) = o.symbol :: rest ∧
      TermSpelling.scan? (rest.dropWhile (·.isGap)) = some (s, after) ∧
      s.operand = .ok x ∧ o.checkOperand x = .ok () ∧ readTail after = .error r := by
  rw [readTail] at h
  split at h
  · cases h
  · rename_i symbol rest ht
    split at h
    · rename_i ho
      cases h
      exact .inl (.noOperator ht ho)
    · rename_i o ho
      rw [Operator.ofSymbol?_eq_some_iff.1 ho] at ht h
      split at h
      · rename_i hs
        cases h
        exact .inl (.noOperand ht hs)
      · rename_i s after hs
        rcases except_bind_eq_error_iff.1 h with hx | ⟨x, hx, h⟩
        · exact .inl (.term ht hs hx)
        rcases except_bind_eq_error_iff.1 h with hc | ⟨_, hc, h⟩
        · exact .inl (.operand ht hs hx hc)
        rcases except_bind_eq_error_iff.1 h with ha | ⟨_, _, h⟩
        · exact .inr ⟨o, rest, s, after, x, ht, hs, hx, hc, ha⟩
        · cases h

/-- A tail that is refused is links that are read, and a text at which its reading stops. -/
theorem stops_of_readTail {t : Text} {r : Refusal} (h : readTail t = .error r) :
    ∃ (links : List Link) (rest : Text), (∀ l ∈ links, l.WellSpelled ∧ l.term.Short) ∧
      (∀ l ∈ links, LinkRules l.tree) ∧ links.flatMap Link.text ++ rest = t ∧ Stops rest r := by
  induction hn : t.length using Nat.strongRecOn generalizing t with
  | ind n ih =>
    rcases readTail_error_cases h with hr | ⟨o, rest, s, after, x, ht, hs, hx, hc, ha⟩
    · exact ⟨[], t, by simp, by simp, rfl, hr⟩
    · obtain ⟨l, hw, rfl, rfl, hlt⟩ := Link.exists_of_scan? ht hs
      obtain ⟨hshort, hvalid, rfl⟩ := TermSpelling.operand_eq_ok_iff.1 hx
      have hlen : after.length < n := by
        have := congrArg List.length hlt
        simp only [List.length_append, Link.text, List.length_cons] at this
        omega
      obtain ⟨links, stop, hl, hv, htext, hr⟩ := ih _ hlen ha rfl
      refine ⟨l :: links, stop, List.forall_mem_cons.2 ⟨⟨hw, hshort⟩, hl⟩,
        List.forall_mem_cons.2 ⟨⟨hvalid, Operator.checkOperand_eq_ok_iff.1 hc⟩, hv⟩, ?_, hr⟩
      rw [List.flatMap_cons, List.append_assoc, htext, hlt]

/-! ## Lines -/

/-- Why a stripped and lowered line is refused: it does not begin with a term, or its first term is
refused, or the reading stops behind a line that is accepted. -/
inductive Refuses : Text → Refusal → Prop
  | noTerm {t : Text} (hs : TermSpelling.scan? t = none) : Refuses t (.fault .noTerm t)
  | first {t after : Text} {s : TermSpelling} {r : Refusal}
      (hs : TermSpelling.scan? t = some (s, after)) (hx : s.operand = .error r) : Refuses t r
  | tail {d : LineSpelling} {rest : Text} {r : Refusal} (hw : d.WellSpelled)
      (hs : ∀ s ∈ d.terms, s.Short) (hv : d.tree.Valid) (hr : Stops rest r) :
      Refuses (d.text ++ rest) r

theorem refuses_of_readLine {t : Text} {r : Refusal} (h : readLine t = .error r) : Refuses t r := by
  unfold readLine at h
  split at h
  · rename_i hs
    cases h
    exact .noTerm hs
  · rename_i s after hs
    rcases except_bind_eq_error_iff.1 h with hx | ⟨x, hx, h⟩
    · exact .first hs hx
    rcases except_bind_eq_error_iff.1 h with ht | ⟨_, _, h⟩
    · obtain ⟨hshort, hvalid, rfl⟩ := TermSpelling.operand_eq_ok_iff.1 hx
      obtain ⟨links, rest, hl, hv, rfl, hr⟩ := stops_of_readTail ht
      rw [← TermSpelling.text_append_of_scan? hs, ← List.append_assoc]
      refine .tail (d := ⟨s, links⟩)
        ⟨TermSpelling.wellSpelled_of_scan? hs, fun l hm => (hl l hm).1⟩ ?_
        ((LineSpelling.valid_tree_iff ⟨s, links⟩).2 ⟨hvalid, hv⟩) hr
      simp only [LineSpelling.terms, List.forall_mem_cons, List.forall_mem_map]
      exact ⟨hshort, fun l hm => (hl l hm).2⟩
    · cases h

/-! ## Numbers that are too long -/

/-- The terms that the reading of a line can come to: the one in front, and one behind an operator
that follows a line that is accepted. -/
inductive Reaches : Text → TermSpelling → Prop
  | first {t after : Text} {s : TermSpelling} (hs : TermSpelling.scan? t = some (s, after)) :
      Reaches t s
  | link {d : LineSpelling} {l : Link} {after : Text} (hw : d.WellSpelled)
      (hd : ∀ s ∈ d.terms, s.Short) (hv : d.tree.Valid) (hl : l.WellSpelled)
      (hs : TermSpelling.scan? (l.term.text ++ after) = some (l.term, after)) :
      Reaches (d.text ++ (l.text ++ after)) l.term

/-- A term that is reached and not read is why the line is refused. -/
theorem readLine_of_reaches {t : Text} {s : TermSpelling} {r : Refusal} (h : Reaches t s)
    (hx : s.operand = .error r) : readLine t = .error r := by
  cases h with
  | first hs =>
    rw [readLine, hs]
    simp only [hx]
    rfl
  | link hw hd hv hl hs =>
    rw [readLine_append hw hd hv (Link.endsTerm hl _), readTail_link_of_scan? hl hs, hx]
    rfl

/-- A line is refused for a number that is too long exactly if the reading comes to a term of which
it is the first such number. -/
theorem readLine_eq_numeral_iff {t : Text} {f : Numeral.Fault} : readLine t = .error (.numeral f) ↔
    ∃ s n, Reaches t s ∧ s.longNumber? = some n ∧ .reading n = f := by
  constructor
  · intro h
    cases refuses_of_readLine h with
    | first hs hx =>
      obtain ⟨n, hn, hf⟩ := TermSpelling.operand_eq_numeral_iff.1 hx
      exact ⟨_, n, .first hs, hn, hf⟩
    | tail hw hd hv hr =>
      cases hr with
      | term ht hs hx =>
        obtain ⟨l, hl, rfl, rfl, rfl⟩ := Link.exists_of_scan? ht hs
        obtain ⟨n, hn, hf⟩ := TermSpelling.operand_eq_numeral_iff.1 hx
        refine ⟨_, n, .link hw hd hv hl ?_, hn, hf⟩
        rwa [TermSpelling.text_append_of_scan? hs]
      | operand ht hs hx hc => exact absurd hc Operator.checkOperand_ne_numeral
  · rintro ⟨s, n, hr, hn, rfl⟩
    exact readLine_of_reaches hr (TermSpelling.operand_eq_numeral_iff.2 ⟨n, hn, rfl⟩)

/-! ## Outcomes -/

theorem Refusal.inLine_eq_refused_iff {line : Text} {r : Refusal} {fault : NotationFault} :
    r.inLine line = .refused fault ↔
      r = .fault fault.cause fault.fragment ∧ fault.expression = line := by
  cases r <;> cases fault <;> simp [inLine, and_assoc, eq_comm]

theorem Refusal.inLine_eq_numeral_iff {line : Text} {r : Refusal} {f : Numeral.Fault} :
    r.inLine line = .numeral f ↔ r = .numeral f := by
  cases r <;> simp [inLine]

/-- A refusal names the line as it was given, and a line that is not blank is refused as its reading
is. -/
theorem parse_eq_refused_iff {line : Text} {fault : NotationFault} :
    Expression.parse line = .error (.refused fault) ↔ fault.expression = line ∧
      (line.isBlank ∧ fault.cause = .blank ∧ fault.fragment = [] ∨
        ¬ line.isBlank ∧
          readLine line.strip.lowercase = .error (.fault fault.cause fault.fragment)) := by
  unfold Expression.parse
  split
  · rename_i hb
    cases fault
    simp only [hb, Except.error.injEq, ParseFault.refused.injEq, NotationFault.mk.injEq, true_and,
      not_true_eq_false, false_and, or_false]
    constructor
    · rintro ⟨rfl, rfl, rfl⟩
      exact ⟨rfl, rfl, rfl⟩
    · rintro ⟨rfl, rfl, rfl⟩
      exact ⟨rfl, rfl, rfl⟩
  · rename_i hb
    cases readLine line.strip.lowercase with
    | ok e => simp [hb]
    | error r => simp [hb, Refusal.inLine_eq_refused_iff, and_comm]

theorem expression_of_parse {line : Text} {fault : NotationFault}
    (h : Expression.parse line = .error (.refused fault)) : fault.expression = line :=
  (parse_eq_refused_iff.1 h).1

theorem parse_eq_numeral_iff {line : Text} {f : Numeral.Fault} :
    Expression.parse line = .error (.numeral f) ↔
      readLine line.strip.lowercase = .error (.numeral f) := by
  unfold Expression.parse
  split
  · rename_i hb
    rw [Text.strip_eq_nil_of_isBlank hb, Text.lowercase_nil]
    constructor <;> intro h <;> cases h
  · cases h : readLine line.strip.lowercase with
    | ok e => simp
    | error r => simp [Refusal.inLine_eq_numeral_iff]

/-- A line that is a number with too many digits. -/
theorem parse_of_long_digits {ds : Text} (hd : ∀ c ∈ ds, c.isDigit)
    (h : Numeral.maxDigits < ds.length) :
    Expression.parse ds = .error (.numeral (.reading ds.length)) := by
  have hne : ds ≠ [] := List.ne_nil_of_length_pos (Nat.zero_lt_of_lt h)
  have hline : ds.strip.lowercase = ds := by
    rw [Text.strip_eq_self fun c hc => Text.isBlank_of_isDigit (hd c hc),
      Text.lowercase_of_beforeLetters fun c hc => Text.beforeLetters_of_isDigit (hd c hc)]
  have hs : TermSpelling.scan? ds = some (.integer ds, []) := by
    have hend : Text.EndsTerm [] := endsTerm_gap (by simp)
    have := TermSpelling.scan?_text_append (s := .integer ds) ⟨hne, hd⟩ hend
    rwa [List.append_nil] at this
  rw [parse_eq_numeral_iff, hline]
  refine readLine_of_reaches (.first hs) (TermSpelling.operand_eq_numeral_iff.2 ⟨ds.length, ?_, rfl⟩)
  simp [TermSpelling.longNumber?, TermSpelling.numbers, h]

/-- The terms that are reached are well spelled, and in the text. -/
theorem Reaches.wellSpelled {t : Text} {s : TermSpelling} (h : Reaches t s) :
    s.WellSpelled ∧ s.text <:+: t := by
  cases h with
  | first hs =>
    refine ⟨TermSpelling.wellSpelled_of_scan? hs, ?_⟩
    rw [← TermSpelling.text_append_of_scan? hs]
    exact (List.prefix_append _ _).isInfix
  | @link d l after hw hd hv hl hs =>
    exact ⟨hl.term, ⟨d.text ++ (l.before ++ l.operator.symbol :: l.after), after,
      by simp [Link.text]⟩⟩

/-- The outcomes of reading a line: an expression, a refusal that names the line as it was given,
or a number that is too long to read. The last is exactly when the reading comes to a term of which
it is the first such number, and so never without a run of more than 4300 digits. -/
theorem parse_outcomes (line : Text) :
    ((∃ e, Expression.parse line = .ok e) ∨
      (∃ fault, Expression.parse line = .error (.refused fault) ∧ fault.expression = line) ∨
      ∃ n, Expression.parse line = .error (.numeral (.reading n))) ∧
    (∀ f, Expression.parse line = .error (.numeral f) ↔
      ∃ s n, Reaches line.strip.lowercase s ∧ s.longNumber? = some n ∧ .reading n = f) ∧
    (line.DigitRunsAtMost 4300 → ∀ f, Expression.parse line ≠ .error (.numeral f)) := by
  have hnumeral : ∀ f, Expression.parse line = .error (.numeral f) ↔
      ∃ s n, Reaches line.strip.lowercase s ∧ s.longNumber? = some n ∧ .reading n = f := by
    intro f
    rw [← readLine_eq_numeral_iff, parse_eq_numeral_iff]
  refine ⟨?_, hnumeral, fun hd f hf => ?_⟩
  · cases h : Expression.parse line with
    | ok e => exact .inl ⟨e, rfl⟩
    | error fault =>
      cases fault with
      | refused fault => exact .inr (.inl ⟨fault, rfl, expression_of_parse h⟩)
      | numeral f =>
        obtain ⟨_, n, -, -, rfl⟩ := (hnumeral f).1 h
        exact .inr (.inr ⟨n, rfl⟩)
  · obtain ⟨s, n, hr, hn, -⟩ := (hnumeral f).1 hf
    obtain ⟨hw, hi⟩ := hr.wellSpelled
    have hs := TermSpelling.short_of_isInfix hw (t := line.strip.lowercase) hd.strip_lowercase hi
    rw [TermSpelling.longNumber?_eq_none_iff.2 hs] at hn
    cases hn

/-- One digit too many in a line that is a number: it is neither read as an expression nor refused
with a fault that names the line. -/
theorem not_read_nor_refused_of_long_line :
    ¬ ((∃ e, Expression.parse (List.replicate 4301 (.char '1')) = .ok e) ∨
      ∃ fault, Expression.parse (List.replicate 4301 (.char '1')) = .error (.refused fault) ∧
        fault.expression = List.replicate 4301 (.char '1')) := by
  have hd : ∀ c ∈ List.replicate 4301 (CodePoint.char '1'), c.isDigit := fun c hc =>
    List.eq_of_mem_replicate hc ▸ rfl
  have hp := parse_of_long_digits hd (by rw [List.length_replicate]; decide)
  rw [hp]
  rintro (⟨_, h⟩ | ⟨_, h, -⟩) <;> cases h

end Tabletop
