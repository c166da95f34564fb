import Tabletop.Proofs.Effects
import Tabletop.Proofs.Notation.Scanning

/-!
# Reading is deriving

A line is read as an expression exactly when the grammar derives it, its
numbers are not too long and the expression keeps the rules
(`parse_eq_ok_iff_short`). One lemma for each step:

* `term_eq_ok_iff`, `operand_eq_ok_iff`: a spelled term and its numbers;
* `readTail_links`, `links_of_readTail`: the links behind a term, one by one, by
  induction on them in one direction and on what is left in the other;
* `readLine_append`: a line with a rest behind it that its last term does not run
  into;
* `LineSpelling.eq_of_text_eq`: no line has two derivations.
-/

namespace Tabletop

/-! ## Numbers -/

theorem readNumber_eq_ok_iff {ds : Text} {n : Nat} :
    readNumber ds = .ok n ↔ ds.length ≤ Numeral.maxDigits ∧ Numeral.value ds = n := by
  unfold readNumber Numeral.read
  by_cases h : ds.length ≤ Numeral.maxDigits <;> simp [h]

theorem readNumberOrOne_eq_ok_iff {ds : Text} {n : Nat} :
    readNumberOrOne ds = .ok n ↔ ds.length ≤ Numeral.maxDigits ∧ Numeral.valueOrOne ds = n := by
  unfold readNumberOrOne Numeral.valueOrOne
  cases ds with
  | nil => simp
  | cons c ds => simp only [List.isEmpty_cons, Bool.false_eq_true, if_false, reduceCtorEq,
      readNumber_eq_ok_iff]

/-- No run of digits too long to read. -/
structure DiceSpelling.Short (s : DiceSpelling) : Prop where
  count : s.count.length ≤ Numeral.maxDigits
  faces : s.faces.length ≤ Numeral.maxDigits
  modifier : s.modifier.length ≤ Numeral.maxDigits
  threshold : s.threshold.length ≤ Numeral.maxDigits

/-- No run of digits too long to read. -/
def TermSpelling.Short : TermSpelling → Prop
  | integer digits => digits.length ≤ Numeral.maxDigits
  | dice spelling => spelling.Short

/-! ## Terms -/

theorem ite_some_eq_none_iff {α : Type} {p : Prop} [Decidable p] {a : α} {b : Option α} :
    (if p then some a else b) = none ↔ ¬ p ∧ b = none := by
  split <;> simp [*]

namespace DiceSpelling

/-- Some numbers break no rule exactly if the dice term that they make is valid. -/
theorem brokenRule?_eq_none_iff (s : DiceSpelling) :
    s.brokenRule? (Numeral.valueOrOne s.count) (Numeral.value s.faces)
      (Numeral.valueOrOne s.modifier) (Numeral.valueOrOne s.threshold) = none ↔ s.tree.Valid := by
  simp only [brokenRule?, ite_some_eq_none_iff, and_true]
  constructor
  · rintro ⟨hc, hf, he, hm, hm', ht⟩
    refine ⟨?_, ?_, fun h => he ⟨h.1, ?_⟩, fun hk => ?_, fun hk => ?_⟩ <;> simp only [tree] at *
    · omega
    · omega
    · omega
    · have := not_and.1 hm hk
      have := not_and.1 hm' hk
      omega
    · have := not_and.1 ht hk
      omega
  · rintro ⟨hc, hf, he, hm, ht⟩
    simp only [tree] at hc hf he hm ht
    refine ⟨by omega, by omega, fun h => he ⟨h.1, by omega⟩, ?_, ?_, ?_⟩ <;> rintro ⟨hk, h⟩
    · have := hm hk
      omega
    · have := hm hk
      omega
    · have := ht hk
      omega

theorem term_eq_ok_iff {s : DiceSpelling} {t : DiceTerm} :
    s.term = .ok t ↔ s.Short ∧ s.tree.Valid ∧ s.tree = t := by
  simp only [term, except_bind_eq_ok_iff, readNumber_eq_ok_iff, readNumberOrOne_eq_ok_iff]
  constructor
  · rintro ⟨_, ⟨hc, rfl⟩, _, ⟨hf, rfl⟩, _, ⟨hm, rfl⟩, _, ⟨ht, rfl⟩, h⟩
    refine ⟨⟨hc, hf, hm, ht⟩, ?_⟩
    split at h
    · cases h
    · rename_i hb
      exact ⟨s.brokenRule?_eq_none_iff.1 hb, Except.ok.inj h⟩
  · rintro ⟨⟨hc, hf, hm, ht⟩, hv, rfl⟩
    refine ⟨_, ⟨hc, rfl⟩, _, ⟨hf, rfl⟩, _, ⟨hm, rfl⟩, _, ⟨ht, rfl⟩, ?_⟩
    rw [s.brokenRule?_eq_none_iff.2 hv]
    rfl

end DiceSpelling

theorem TermSpelling.operand_eq_ok_iff {s : TermSpelling} {x : Operand} :
    s.operand = .ok x ↔ s.Short ∧ s.tree.Valid ∧ s.tree = x := by
  cases s with
  | integer digits =>
    simp only [operand, except_bind_eq_ok_iff, readNumber_eq_ok_iff, Except.ok.injEq]
    constructor
    · rintro ⟨_, ⟨h, rfl⟩, rfl⟩
      exact ⟨h, trivial, rfl⟩
    · rintro ⟨h, -, rfl⟩
      exact ⟨_, ⟨h, rfl⟩, rfl⟩
  | dice s =>
    simp only [operand, except_bind_eq_ok_iff, DiceSpelling.term_eq_ok_iff, Except.ok.injEq]
    constructor
    · rintro ⟨_, ⟨h, hv, rfl⟩, rfl⟩
      exact ⟨h, hv, rfl⟩
    · rintro ⟨h, hv, rfl⟩
      exact ⟨_, ⟨h, hv, rfl⟩, rfl⟩

theorem Operand.checkDivisor_eq_ok_iff {x : Operand} :
    x.checkDivisor = .ok () ↔ ¬ x.CanTotalZero := by
  cases x with
  | literal n =>
    simp only [checkDivisor, CanTotalZero]
    split <;> simp [*]
  | dice t =>
    have hk : t.keepDrop.isDrop ↔ t.keepDrop = .dropHigh ∨ t.keepDrop = .dropLow := by
      cases t.keepDrop <;> decide
    simp only [checkDivisor, CanTotalZero, ← hk]
    split
    · simp [*]
    · exact iff_of_true rfl ‹_›

theorem Operator.checkOperand_eq_ok_iff {o : Operator} {x : Operand} :
    o.checkOperand x = .ok () ↔ (o = .divide → ¬ x.CanTotalZero) := by
  unfold checkOperand
  split
  · rename_i h
    simp only [h, true_implies, Operand.checkDivisor_eq_ok_iff]
  · rename_i h
    simp [h]

/-! ## Links -/

theorem Operator.isGap_symbol (o : Operator) : o.symbol.isGap = false := by
  cases o <;> decide

namespace Link

variable {l : Link} (hl : l.WellSpelled) (rest : Text)
include hl

theorem endsTerm : (l.text ++ rest).EndsTerm := by
  rw [text, List.append_assoc]
  exact .append (fun c hc => .inl (hl.before c hc)) (.cons (.inr ⟨_, rfl⟩))

theorem dropWhile_text : (l.text ++ rest).dropWhile (·.isGap)
    = l.operator.symbol :: (l.after ++ (l.term.text ++ rest)) := by
  simp only [text, List.append_assoc, List.cons_append]
  exact dropWhile_run_append hl.before (.cons l.operator.isGap_symbol)

theorem takeWhile_text : (l.text ++ rest).takeWhile (·.isGap) = l.before := by
  simp only [text, List.append_assoc, List.cons_append]
  exact takeWhile_run_append hl.before (.cons l.operator.isGap_symbol)

theorem heads_term : (l.term.text ++ rest).Heads fun c => c.isGap = false := by
  refine (TermSpelling.heads_text hl.term rest).2.mono fun c h => Bool.eq_false_iff.2 fun hg => ?_
  have hg : c.EndsTerm := .inl hg
  rcases h with h | h
  · rw [hg.not_term.1] at h
    cases h
  · exact hg.not_term.2.1 h

end Link

theorem endsTerm_links {links : List Link} (hl : ∀ l ∈ links, l.WellSpelled) {rest : Text}
    (hr : rest.EndsTerm) : Text.EndsTerm (links.flatMap Link.text ++ rest) := by
  cases links with
  | nil => exact hr
  | cons l links =>
    rw [List.flatMap_cons, List.append_assoc]
    exact Link.endsTerm (hl l List.mem_cons_self) _

theorem endsTerm_gap {gap : Text} (hg : ∀ c ∈ gap, c.isGap) : gap.EndsTerm :=
  fun c hc => .inl (hg c (List.mem_of_mem_head? hc))

theorem endsTerm_flatMap_text {links : List Link} (hl : ∀ l ∈ links, l.WellSpelled) :
    Text.EndsTerm (links.flatMap Link.text) := by
  have : Text.EndsTerm (links.flatMap Link.text ++ []) := endsTerm_links hl (endsTerm_gap (by simp))
  rwa [List.append_nil] at this

/-! ## The links behind a term -/

theorem readTail_operator_eq {t rest : Text} {o : Operator}
    (ht : t.dropWhile (·.isGap) = o.symbol :: rest) :
    readTail t = match TermSpelling.scan? (rest.dropWhile (·.isGap)) with
      | none => .error (.fault (.noOperand o) (o.symbol :: rest.dropWhile (·.isGap)))
      | some (s, after) => (do
        let x ← s.operand
        o.checkOperand x
        let tail ← readTail after
        .ok ((o, x) :: tail)) := by
  rw [readTail]
  split
  · rename_i h
    rw [ht] at h
    cases h
  · rename_i h
    rw [ht] at h
    obtain ⟨rfl, rfl⟩ := List.cons.inj h
    rw [o.ofSymbol?_symbol]
    dsimp only
    split <;> simp [*]

theorem readTail_operator {t rest after : Text} {o : Operator} {s : TermSpelling}
    (ht : t.dropWhile (·.isGap) = o.symbol :: rest)
    (hs : TermSpelling.scan? (rest.dropWhile (·.isGap)) = some (s, after)) :
    readTail t = (do
      let x ← s.operand
      o.checkOperand x
      let tail ← readTail after
      .ok ((o, x) :: tail)) := by
  rw [readTail_operator_eq ht, hs]

theorem readTail_gap {gap : Text} (hg : ∀ c ∈ gap, c.isGap) : readTail gap = .ok [] := by
  rw [readTail]
  split
  · rfl
  · rename_i h
    rw [← List.append_nil gap, dropWhile_run_append hg fun _ h => by cases h] at h
    cases h

/-- A tail that is read is empty, and only gaps are left; or it has a first link. -/
theorem readTail_cases {t : Text} {tail : List (Operator × Operand)} (h : readTail t = .ok tail) :
    (tail = [] ∧ t.dropWhile (·.isGap) = []) ∨
    ∃ o rest s after x tail', t.dropWhile (·.isGap) = o.symbol :: rest ∧
      TermSpelling.scan? (rest.dropWhile (·.isGap)) = some (s, after) ∧ s.operand = .ok x ∧
      o.checkOperand x = .ok () ∧ readTail after = .ok tail' ∧ (o, x) :: tail' = tail := by
  rw [readTail] at h
  split at h
  · rename_i ht
    exact .inl ⟨(Except.ok.inj h).symm, ht⟩
  · rename_i symbol rest ht
    split at h
    · cases h
    · rename_i o ho
      split at h
      · cases h
      · rename_i s after hs
        obtain ⟨x, hx, h⟩ := except_bind_eq_ok_iff.1 h
        obtain ⟨_, hc, h⟩ := except_bind_eq_ok_iff.1 h
        obtain ⟨tail', ha, h⟩ := except_bind_eq_ok_iff.1 h
        rw [Operator.ofSymbol?_eq_some_iff.1 ho] at ht
        exact .inr ⟨o, rest, s, after, x, tail', ht, hs, hx, hc, ha, Except.ok.inj h⟩

/-- The rules on an operator with its operand. -/
def LinkRules (link : Operator × Operand) : Prop :=
  link.2.Valid ∧ (link.1 = .divide → ¬ link.2.CanTotalZero)

/-- One link: its term is read and checked, and then what follows it. -/
theorem readTail_link_of_scan? {l : Link} (hl : l.WellSpelled) {rest : Text}
    (hs : TermSpelling.scan? (l.term.text ++ rest) = some (l.term, rest)) :
    readTail (l.text ++ rest) = (do
      let x ← l.term.operand
      l.operator.checkOperand x
      let tail ← readTail rest
      .ok ((l.operator, x) :: tail)) := by
  refine readTail_operator (Link.dropWhile_text hl rest) ?_
  rw [dropWhile_run_append hl.after (Link.heads_term hl rest)]
  exact hs

theorem readTail_link {l : Link} (hl : l.WellSpelled) {rest : Text} (hr : rest.EndsTerm) :
    readTail (l.text ++ rest) = (do
      let x ← l.term.operand
      l.operator.checkOperand x
      let tail ← readTail rest
      .ok ((l.operator, x) :: tail)) :=
  readTail_link_of_scan? hl (TermSpelling.scan?_text_append hl.term hr)

/-- Links that keep the rules are read one by one, and then what follows them. -/
theorem readTail_links {links : List Link} (hl : ∀ l ∈ links, l.WellSpelled ∧ l.term.Short)
    (hv : ∀ l ∈ links, LinkRules l.tree) {rest : Text} (hr : rest.EndsTerm) :
    readTail (links.flatMap Link.text ++ rest) = (do
      let tail ← readTail rest
      .ok (links.map Link.tree ++ tail)) := by
  induction links with
  | nil =>
    show readTail rest = (do let tail ← readTail rest; .ok tail)
    cases readTail rest <;> rfl
  | cons l links ih =>
    obtain ⟨⟨hw, hs⟩, hl⟩ := List.forall_mem_cons.1 hl
    obtain ⟨⟨hx, hd⟩, hv⟩ := List.forall_mem_cons.1 hv
    have ho := TermSpelling.operand_eq_ok_iff.2 ⟨hs, hx, rfl⟩
    have hc := Operator.checkOperand_eq_ok_iff.2 hd
    rw [List.flatMap_cons, List.append_assoc,
      readTail_link hw (endsTerm_links (fun l hm => (hl l hm).1) hr), ho]
    show (do l.operator.checkOperand l.term.tree; _) = _
    rw [show l.operator.checkOperand l.term.tree = .ok () from hc, ih hl hv]
    cases readTail rest <;> rfl

theorem isGap_of_mem_takeWhile {t : Text} {c : CodePoint} (h : c ∈ t.takeWhile (·.isGap)) :
    c.isGap :=
  List.all_eq_true.1 List.all_takeWhile c h

/-- An operator and the term that is read behind it are a link, with the gaps around the operator. -/
theorem Link.exists_of_scan? {t rest after : Text} {o : Operator} {s : TermSpelling}
    (ht : t.dropWhile (·.isGap) = o.symbol :: rest)
    (hs : TermSpelling.scan? (rest.dropWhile (·.isGap)) = some (s, after)) :
    ∃ l : Link, l.WellSpelled ∧ l.operator = o ∧ l.term = s ∧ l.text ++ after = t := by
  refine ⟨⟨t.takeWhile (·.isGap), o, rest.takeWhile (·.isGap), s⟩,
    ⟨fun _ => isGap_of_mem_takeWhile, fun _ => isGap_of_mem_takeWhile,
      TermSpelling.wellSpelled_of_scan? hs⟩, rfl, rfl, ?_⟩
  rw [text, List.append_assoc, List.cons_append, List.append_assoc,
    TermSpelling.text_append_of_scan? hs, List.takeWhile_append_dropWhile, ← ht,
    List.takeWhile_append_dropWhile]

/-- What is read as a tail is links in the grammar, and a gap behind them. -/
theorem links_of_readTail {t : Text} {tail : List (Operator × Operand)}
    (h : readTail t = .ok tail) :
    ∃ (links : List Link) (gap : Text), (∀ l ∈ links, l.WellSpelled ∧ l.term.Short) ∧
      (∀ l ∈ links, LinkRules l.tree) ∧ (∀ c ∈ gap, c.isGap) ∧
      links.flatMap Link.text ++ gap = t ∧ links.map Link.tree = tail := by
  -- The text a tail was read from is not known beforehand, so the induction is on the tail.
  induction tail generalizing t with
  | nil =>
    rcases readTail_cases h with ⟨-, ht⟩ | ⟨_, _, _, _, _, _, _, _, _, _, _, he⟩
    · refine ⟨[], t, by simp, by simp, fun _ hc => isGap_of_mem_takeWhile (t := t) ?_, rfl, rfl⟩
      rwa [← List.takeWhile_append_dropWhile (p := (·.isGap)) (l := t), ht, List.append_nil] at hc
    · cases he
  | cons link tail ih =>
    rcases readTail_cases h with ⟨he, -⟩ | ⟨o, rest, s, after, x, _, ht, hs, hx, hc, ha, he⟩
    · cases he
    · obtain ⟨rfl, rfl⟩ := List.cons.inj he
      obtain ⟨l, hw, rfl, rfl, hlt⟩ := Link.exists_of_scan? ht hs
      obtain ⟨hshort, hvalid, rfl⟩ := TermSpelling.operand_eq_ok_iff.1 hx
      obtain ⟨links, gap, hl, hv, hg, rfl, rfl⟩ := ih ha
      refine ⟨l :: links, gap, List.forall_mem_cons.2 ⟨⟨hw, hshort⟩, hl⟩,
        List.forall_mem_cons.2 ⟨⟨hvalid, Operator.checkOperand_eq_ok_iff.1 hc⟩, hv⟩, hg, ?_, rfl⟩
      rw [List.flatMap_cons, List.append_assoc, hlt]

/-! ## Lines -/

theorem CodePoint.isBlank_of_isGap {c : CodePoint} (h : c.isGap) :
    c.isBlank = true ∧ c.BeforeLetters := by
  simp only [isGap, Bool.or_eq_true, decide_eq_true_eq] at h
  rcases h with ((rfl | rfl) | rfl) | rfl <;> decide

theorem Text.strip_eq_nil_of_isBlank {t : Text} (h : t.isBlank) : t.strip = [] := by
  have : t.stripStart = [] := by
    rw [stripStart, ← List.append_nil t,
      dropWhile_run_append (List.all_eq_true.1 h) fun _ h => by cases h]
  rw [strip, this]
  rfl

/-- A stripped and lowered line does not end with a gap. -/
theorem Text.not_isGap_getLast?_line {line : Text} {c : CodePoint}
    (h : line.strip.lowercase.getLast? = some c) : c.isGap = false := by
  refine Bool.eq_false_iff.2 fun hg => ?_
  obtain ⟨hb, hl⟩ := CodePoint.isBlank_of_isGap hg
  have := isBlank_getLast?_strip (getLast?_of_lowercaseAfter h hl)
  rw [hb] at this
  cases this

namespace LineSpelling

theorem valid_tree_iff (d : LineSpelling) :
    d.tree.Valid ↔ d.first.tree.Valid ∧ ∀ l ∈ d.links, LinkRules l.tree := by
  constructor
  · rintro ⟨ho, hd⟩
    simp only [tree, Expression.operands, List.map_map, List.forall_mem_cons, List.forall_mem_map]
      at ho hd
    exact ⟨ho.1, fun l hl => ⟨ho.2 l hl, hd l hl⟩⟩
  · rintro ⟨hf, hl⟩
    constructor <;> simp only [tree, Expression.operands, List.map_map, List.forall_mem_cons,
      List.forall_mem_map]
    · exact ⟨hf, fun l h => (hl l h).1⟩
    · exact fun l h => (hl l h).2

end LineSpelling

/-- A line that keeps the rules is read, and then what follows it. -/
theorem readLine_append {d : LineSpelling} (hw : d.WellSpelled) (hs : ∀ s ∈ d.terms, s.Short)
    (hv : d.tree.Valid) {rest : Text} (hr : rest.EndsTerm) :
    readLine (d.text ++ rest) = (do
      let tail ← readTail rest
      .ok { first := d.first.tree, tail := d.links.map Link.tree ++ tail }) := by
  obtain ⟨hf, hl⟩ := hw
  obtain ⟨hvf, hvl⟩ := d.valid_tree_iff.1 hv
  simp only [LineSpelling.terms, List.forall_mem_cons, List.forall_mem_map] at hs
  have hscan := TermSpelling.scan?_text_append hf (endsTerm_links hl hr)
  have hop := TermSpelling.operand_eq_ok_iff.2 ⟨hs.1, hvf, rfl⟩
  have htail := readTail_links (fun l hm => ⟨hl l hm, hs.2 l hm⟩) hvl hr
  rw [LineSpelling.text, List.append_assoc, readLine, hscan]
  simp only [hop, htail]
  cases readTail rest <;> rfl

theorem readLine_eq_ok_iff {t : Text} {e : Expression} :
    readLine t = .ok e ↔ ∃ (d : LineSpelling) (gap : Text), d.WellSpelled ∧
      (∀ s ∈ d.terms, s.Short) ∧ (∀ c ∈ gap, c.isGap) ∧ d.text ++ gap = t ∧ d.tree = e ∧ e.Valid := by
  constructor
  · intro h
    unfold readLine at h
    split at h
    · cases h
    · rename_i s after hs
      obtain ⟨x, hx, h⟩ := except_bind_eq_ok_iff.1 h
      obtain ⟨tail, ht, h⟩ := except_bind_eq_ok_iff.1 h
      obtain ⟨hshort, hvalid, rfl⟩ := TermSpelling.operand_eq_ok_iff.1 hx
      obtain ⟨links, gap, hl, hv, hg, rfl, rfl⟩ := links_of_readTail ht
      obtain rfl := Except.ok.inj h
      refine ⟨⟨s, links⟩, gap, ⟨TermSpelling.wellSpelled_of_scan? hs, fun l hm => (hl l hm).1⟩, ?_,
        hg, ?_, rfl, (LineSpelling.valid_tree_iff ⟨s, links⟩).2 ⟨hvalid, hv⟩⟩
      · simp only [LineSpelling.terms, List.forall_mem_cons, List.forall_mem_map]
        exact ⟨hshort, fun l hm => (hl l hm).2⟩
      · rw [LineSpelling.text, List.append_assoc, TermSpelling.text_append_of_scan? hs]
  · rintro ⟨d, gap, hw, hs, hg, rfl, rfl, hv⟩
    rw [readLine_append hw hs hv (endsTerm_gap hg), readTail_gap hg]
    show Except.ok { first := d.first.tree, tail := d.links.map Link.tree ++ [] } = Except.ok d.tree
    rw [List.append_nil]
    rfl

/-- A line is read as an expression exactly when the grammar derives it, its numbers are not too
long and the expression keeps the rules. -/
theorem parse_eq_ok_iff_short {line : Text} {e : Expression} :
    Expression.parse line = .ok e ↔ ∃ d : LineSpelling, d.WellSpelled ∧
      (∀ s ∈ d.terms, s.Short) ∧ d.text = line.strip.lowercase ∧ d.tree = e ∧ e.Valid := by
  unfold Expression.parse
  split
  · rename_i hb
    rw [Text.strip_eq_nil_of_isBlank hb]
    constructor
    · intro h
      cases h
    · rintro ⟨d, hw, -, ht, -⟩
      have := (List.append_eq_nil_iff.1 ht).1
      exact absurd this (TermSpelling.heads_text hw.first []).1
  · constructor
    · intro h
      split at h
      · rename_i e' hr
        obtain rfl := Except.ok.inj h
        obtain ⟨d, gap, hw, hs, hg, ht, he, hv⟩ := readLine_eq_ok_iff.1 hr
        refine ⟨d, hw, hs, ?_, he, hv⟩
        rcases List.eq_nil_or_concat gap with rfl | ⟨gap, c, rfl⟩
        · rw [← ht, List.append_nil]
        · have hc : line.strip.lowercase.getLast? = some c := by
            rw [← ht, List.concat_eq_append, ← List.append_assoc, List.getLast?_concat]
          have := Text.not_isGap_getLast?_line hc
          rw [hg c (by simp)] at this
          cases this
      · cases h
    · rintro ⟨d, hw, hs, ht, he, hv⟩
      rw [readLine_eq_ok_iff.2 ⟨d, [], hw, hs, by simp, by rw [List.append_nil, ht], he, hv⟩]

/-- The blanks around a line do not change the expression that is read from it. -/
theorem parse_strip_eq_ok_iff {line : Text} {e : Expression} :
    Expression.parse line.strip = .ok e ↔ Expression.parse line = .ok e := by
  rw [parse_eq_ok_iff_short, parse_eq_ok_iff_short, Text.strip_strip]

theorem valid_of_parse {line : Text} {e : Expression} (h : Expression.parse line = .ok e) :
    e.Valid := by
  obtain ⟨_, -, -, -, -, hv⟩ := parse_eq_ok_iff_short.1 h
  exact hv

/-! ## One derivation -/

theorem Link.eq_of_text_eq {l l' : Link} (hl : l.WellSpelled) (hl' : l'.WellSpelled)
    {rest rest' : Text} (hr : rest.EndsTerm) (hr' : rest'.EndsTerm)
    (h : l.text ++ rest = l'.text ++ rest') : l = l' ∧ rest = rest' := by
  have hb : l.before = l'.before := by rw [← takeWhile_text hl rest, h, takeWhile_text hl' rest']
  have hd := dropWhile_text hl rest
  rw [h, dropWhile_text hl' rest', List.cons.injEq] at hd
  have ho : l'.operator = l.operator :=
    Option.some.inj (by rw [← Operator.ofSymbol?_symbol, hd.1, Operator.ofSymbol?_symbol])
  have ha : l'.after = l.after := by
    rw [← takeWhile_run_append hl'.after (heads_term hl' rest'), hd.2,
      takeWhile_run_append hl.after (heads_term hl rest)]
  have ht := hd.2
  rw [ha, List.append_cancel_left_eq] at ht
  have hs := TermSpelling.scan?_text_append hl.term hr
  rw [← ht, TermSpelling.scan?_text_append hl'.term hr', Option.some.injEq, Prod.mk.injEq] at hs
  cases l
  cases l'
  simp only at hb ho ha hs
  rw [hb, ho, ha, hs.1]
  exact ⟨rfl, hs.2.symm⟩

theorem links_eq_of_text_eq {links links' : List Link} (hl : ∀ l ∈ links, l.WellSpelled)
    (hl' : ∀ l ∈ links', l.WellSpelled)
    (h : links.flatMap Link.text = links'.flatMap Link.text) : links = links' := by
  have hne : ∀ (l : Link) (t : Text), l.text ++ t ≠ [] := fun l t => by simp [Link.text]
  induction links generalizing links' with
  | nil =>
    cases links' with
    | nil => rfl
    | cons l' links' => exact absurd h.symm (hne l' _)
  | cons l links ih =>
    cases links' with
    | nil => exact absurd h (hne l _)
    | cons l' links' =>
      obtain ⟨hw, hws⟩ := List.forall_mem_cons.1 hl
      obtain ⟨hw', hws'⟩ := List.forall_mem_cons.1 hl'
      obtain ⟨rfl, ht⟩ := Link.eq_of_text_eq hw hw' (endsTerm_flatMap_text hws)
        (endsTerm_flatMap_text hws') h
      rw [ih hws hws' ht]

/-- No line has two derivations. -/
theorem LineSpelling.eq_of_text_eq {d d' : LineSpelling} (hd : d.WellSpelled) (hd' : d'.WellSpelled)
    (h : d.text = d'.text) : d = d' := by
  have hs := TermSpelling.scan?_text_append hd.first (endsTerm_flatMap_text hd.links)
  rw [show d.first.text ++ d.links.flatMap Link.text = d'.first.text ++ d'.links.flatMap Link.text
      from h, TermSpelling.scan?_text_append hd'.first (endsTerm_flatMap_text hd'.links),
    Option.some.injEq, Prod.mk.injEq] at hs
  have hl := links_eq_of_text_eq hd.links hd'.links hs.2.symm
  cases d
  cases d'
  simp only at hs hl
  rw [hs.1, hl]

/-- A line whose derivation breaks the rules is refused, since it has no other derivation. -/
theorem exists_parse_eq_error {d : LineSpelling} (hd : d.WellSpelled) (hv : ¬ d.tree.Valid)
    {line : Text} (ht : d.text = line.strip.lowercase) :
    ∃ fault, Expression.parse line = .error fault := by
  cases h : Expression.parse line with
  | error fault => exact ⟨fault, rfl⟩
  | ok e =>
    obtain ⟨d', hd', -, ht', rfl, hv'⟩ := parse_eq_ok_iff_short.1 h
    obtain rfl := LineSpelling.eq_of_text_eq hd hd' (ht.trans ht'.symm)
    exact absurd hv' hv

/-! ## Lines without long runs of digits -/

/-- The terms of a line without long runs of digits are not too long to read. -/
theorem TermSpelling.short_of_isInfix {s : TermSpelling} (hs : s.WellSpelled) {t : Text}
    (ht : t.DigitRunsAtMost Numeral.maxDigits) (h : s.text <:+: t) : s.Short := by
  cases s with
  | integer digits => exact ht digits h hs.2
  | dice s =>
    have hs : s.WellSpelled := hs
    have hrun : ∀ run, run <:+: s.text → (∀ c ∈ run, c.isDigit) → run.length ≤ Numeral.maxDigits :=
      fun run hr hd => ht run (hr.trans h) hd
    have hsuffix : s.suffix <:+: s.text :=
      ⟨s.count ++ .char 'd' :: s.faces, [], by simp [DiceSpelling.text_eq]⟩
    refine ⟨hrun _ ?_ hs.count, hrun _ ?_ hs.faces, hrun _ (.trans ?_ hsuffix) hs.modifier,
      hrun _ (.trans ?_ hsuffix) hs.threshold⟩
    · rw [DiceSpelling.text_eq]
      exact (List.prefix_append _ _).isInfix
    · rw [DiceSpelling.text_eq]
      exact ⟨s.count ++ [.char 'd'], s.suffix, by simp⟩
    · exact ⟨s.keepDrop.token, explodeToken s.explode ++ (s.reroll.token ++ s.threshold),
        by simp [DiceSpelling.suffix]⟩
    · exact ⟨s.keepDrop.token ++ (s.modifier ++ (explodeToken s.explode ++ s.reroll.token)), [],
        by simp [DiceSpelling.suffix]⟩

theorem LineSpelling.term_isInfix {d : LineSpelling} {s : TermSpelling} (h : s ∈ d.terms) :
    s.text <:+: d.text := by
  rw [terms, List.mem_cons, List.mem_map] at h
  rcases h with rfl | ⟨l, hl, rfl⟩
  · exact (List.prefix_append _ _).isInfix
  · have hl : l.text <:+: d.links.flatMap Link.text :=
      List.infix_of_mem_flatten (List.mem_map_of_mem hl)
    have ht : l.term.text <:+ l.text :=
      ⟨l.before ++ l.operator.symbol :: l.after, by simp [Link.text]⟩
    exact ht.isInfix.trans (hl.trans (List.suffix_append _ _).isInfix)

theorem LineSpelling.wellSpelled_of_mem_terms {d : LineSpelling} (hd : d.WellSpelled)
    {s : TermSpelling} (h : s ∈ d.terms) : s.WellSpelled := by
  rw [terms, List.mem_cons, List.mem_map] at h
  rcases h with rfl | ⟨l, hl, rfl⟩
  · exact hd.first
  · exact (hd.links l hl).term

/-- Reading is deriving: a line without a run of more than 4300 digits is read as an expression
exactly when the grammar derives the stripped and lowered line, the expression is the tree of the
derivation, and it keeps the rules. The line has no other derivation. -/
theorem parse_eq_ok_iff_derivation {line : Text} (h : line.DigitRunsAtMost 4300) (e : Expression) :
    (Expression.parse line = .ok e ↔ ∃ d : LineSpelling, d.WellSpelled ∧
      d.text = line.strip.lowercase ∧ d.tree = e ∧ e.Valid) ∧
    ∀ d d' : LineSpelling, d.WellSpelled → d'.WellSpelled → d.text = line.strip.lowercase →
      d'.text = line.strip.lowercase → d = d' := by
  refine ⟨parse_eq_ok_iff_short.trans ⟨?_, ?_⟩, ?_⟩
  · rintro ⟨d, hw, -, ht, he, hv⟩
    exact ⟨d, hw, ht, he, hv⟩
  · rintro ⟨d, hw, ht, he, hv⟩
    refine ⟨d, hw, fun s hs => ?_, ht, he, hv⟩
    refine TermSpelling.short_of_isInfix (LineSpelling.wellSpelled_of_mem_terms hw hs)
      (t := line.strip.lowercase) h.strip_lowercase ?_
    exact ht ▸ LineSpelling.term_isInfix hs
  · intro d d' hd hd' ht ht'
    exact LineSpelling.eq_of_text_eq hd hd' (ht.trans ht'.symm)

/-- Capital letters, gaps of all kinds, a number left out and dice behind a division. -/
theorem parse_eq_ok_of_spaced_line : Text.DigitRunsAtMost 4300 "  4D6kH3 +2\t/ D8!rR\n" ∧
    Expression.parse "  4D6kH3 +2\t/ D8!rR\n" = .ok {
      first := .dice {
        count := 4, faces := 6, keepDrop := .keepHigh, modifierCount := 3, source := "4d6kh3" }
      tail := [(.add, .literal 2),
        (.divide, .dice { faces := 8, explode := true, reroll := .untilAbove, source := "d8!rr" })]
    } := by
  have hd : Text.DigitRunsAtMost 4300 "  4D6kH3 +2\t/ D8!rR\n" := fun run hi _ =>
    Nat.le_trans hi.length_le (by decide)
  refine ⟨hd, (parse_eq_ok_iff_derivation hd _).1.2 ⟨
    ⟨.dice ⟨"4", "6", .keepHigh, "3", false, .never, []⟩,
      [⟨" ", .add, [], .integer "2"⟩,
        ⟨"\t", .divide, " ", .dice ⟨[], "8", .all, [], true, .untilAbove, []⟩⟩]⟩, ?_, ?_, ?_, ?_⟩⟩
  · decide
  · decide
  · decide
  · decide

end Tabletop
