import Tabletop.Proofs.Dice.Trace
import Tabletop.Proofs.Evaluation.Outcomes

/-!
# The trace explains the total

The trace of a result can be read without the rolls (`readTrace?`): it is cut at
its operators (`cutTerms`), a term with a list in brackets counts for the sum of
its last list, and any other term is a number (`readTerm?`). What is read
combines to the total of the result, with the operators and the numbers of the
line (`readTrace_detail`). A list is left out of the trace only when it would
have as many values as the one before it, and then it has the same sum
(`value_reading_of_becomes`).
-/

namespace Tabletop

/-! ## Reading -/

/-- The text before the first operator with a space on either side, and the operators with the text
behind each. -/
def cutTerms : Text → Text × List (Operator × Text)
  | [] => ([], [])
  | .char ' ' :: c :: .char ' ' :: t =>
    match Operator.ofSymbol? c with
    | some o => ([], (o, (cutTerms t).1) :: (cutTerms t).2)
    | none =>
      (.char ' ' :: (cutTerms (c :: .char ' ' :: t)).1, (cutTerms (c :: .char ' ' :: t)).2)
  | c :: t => (c :: (cutTerms t).1, (cutTerms t).2)

/-- A number: digits, after a sign if it is negative. -/
def readNumber? : Text → Option Int
  | .char '-' :: ds => (readDigits? ds).map fun n => -n
  | ds => readDigits? ds
where
  /-- The value of digits. -/
  readDigits? (ds : Text) : Option Int :=
    if ds ≠ [] ∧ ∀ c ∈ ds, c.isDigit then some (Numeral.value ds) else none

/-- The text between the last brackets. -/
def lastCells (t : Text) : Text := ((t.splitOn (.char '[')).getLastD []).takeWhile (· != .char ']')

/-- The values of the last list. -/
def readLastList? (t : Text) : Option (List Int) :=
  if lastCells t = [] then some [] else ((lastCells t).splitOn (.char ',')).mapM readNumber?

/-- What a term of a trace says. -/
inductive TermReading where
  | number (n : Int)
  | list (values : List Int)
  deriving DecidableEq

namespace TermReading

/-- What a term counts for. -/
def value : TermReading → Int
  | number n => n
  | list values => values.sum

/-- The number of a term that is one. -/
def number? : TermReading → Option Int
  | number n => some n
  | list _ => none

end TermReading

/-- A term of a trace. -/
def readTerm? (t : Text) : Option TermReading :=
  if .char '[' ∈ t then (readLastList? t).map .list else (readNumber? t).map .number

/-- What a trace says: a first term, then operators with theirs. -/
structure TraceReading where
  first : TermReading
  tail : List (Operator × TermReading)
  deriving DecidableEq

/-- An operator with the term behind it. -/
def readLink? (link : Operator × Text) : Option (Operator × TermReading) :=
  (readTerm? link.2).map (link.1, ·)

/-- A trace, cut into its terms. -/
def readTrace? (t : Text) : Option TraceReading := do
  let first ← readTerm? (cutTerms t).1
  let tail ← (cutTerms t).2.mapM readLink?
  some { first, tail }

namespace TraceReading

/-- The terms, in order. -/
def terms (r : TraceReading) : List TermReading := r.first :: r.tail.map Prod.snd

/-- The terms combined from left to right. -/
def total? (r : TraceReading) : Option Int :=
  combine? r.first.value (r.tail.map (Prod.map id TermReading.value))

end TraceReading

/-- The number of an operand that is one. -/
def Operand.literal? : Operand → Option Int
  | literal n => some n
  | dice _ => none

/-! ## Cutting -/

theorem cutTerms_append {t : Text} (h : .char ' ' ∉ t) (rest : Text) :
    cutTerms (t ++ rest) = (t ++ (cutTerms rest).1, (cutTerms rest).2) := by
  induction t with
  | nil => rfl
  | cons c t ih =>
    rw [List.mem_cons, not_or] at h
    have hc : cutTerms (c :: (t ++ rest)) = (c :: (cutTerms (t ++ rest)).1, (cutTerms (t ++ rest)).2) := by
      rw [cutTerms]
      intro _ _ he
      exact absurd he.symm h.1
    rw [List.cons_append, hc, ih h.2, List.cons_append]

theorem cutTerms_spaced (o : Operator) (rest : Text) :
    cutTerms (o.spaced ++ rest) = ([], (o, (cutTerms rest).1) :: (cutTerms rest).2) := by
  simp only [Operator.spaced, List.cons_append, List.nil_append, cutTerms, Operator.ofSymbol?_symbol]

/-- Terms without spaces are what a trace is cut into, by induction on those behind the first. -/
theorem cutTerms_joinTerms {t : Text} {us : List (Operator × Text)} (ht : .char ' ' ∉ t)
    (hus : ∀ u ∈ us, .char ' ' ∉ u.2) : cutTerms (joinTerms t us) = (t, us) := by
  induction us generalizing t with
  | nil => rw [joinTerms, List.flatMap_nil, cutTerms_append ht, cutTerms, List.append_nil]
  | cons u us ih =>
    obtain ⟨o, u⟩ := u
    obtain ⟨hu, hus⟩ := List.forall_mem_cons.1 hus
    rw [joinTerms_cons, cutTerms_append ht, cutTerms_spaced, ih hu hus, List.append_nil]

/-! ## Numbers and lists -/

theorem readNumber_unlimited (n : Int) : readNumber? (Numeral.unlimited n) = some n := by
  have hdigits : ∀ n : Nat, readNumber?.readDigits? (Numeral.digits n) = some (n : Int) := by
    intro n
    rw [readNumber?.readDigits?, if_pos ⟨Numeral.digits_ne_nil n,
      fun c hc => Numeral.isDigit_of_mem_digits hc⟩, Numeral.value_digits]
  cases n with
  | ofNat n =>
    have hsign : ∀ t, Numeral.digits n ≠ .char '-' :: t := fun t h =>
      absurd (Numeral.isDigit_of_mem_digits (h ▸ List.mem_cons_self)) (by decide)
    rw [Numeral.unlimited, readNumber?, hdigits]
    · rfl
    · exact hsign
  | negSucc n =>
    rw [Numeral.unlimited, readNumber?, hdigits, Option.map_some]
    rfl

theorem mapM_readNumber_unlimited (ns : List Int) :
    (ns.map Numeral.unlimited).mapM readNumber? = some ns := by
  induction ns with
  | nil => rfl
  | cons n ns ih =>
    rw [List.map_cons, List.mapM_cons, readNumber_unlimited, ih]
    rfl

/-- What stands before the last list is skipped, with any list in it. -/
theorem lastCells_append_bracketCells (before : Text) (ns : List Int) :
    lastCells (before ++ bracketCells (ns.map Numeral.unlimited))
      = Text.join [.char ','] (ns.map Numeral.unlimited) := by
  have hclose : ∀ c ∈ Text.join [.char ','] (ns.map Numeral.unlimited),
      (c != .char ']') = true := fun c hc =>
    bne_iff_ne.2 fun he => absurd (he ▸ mem_joined_unlimited hc) (by decide)
  have hopen : .char '[' ∉ Text.join [.char ','] (ns.map Numeral.unlimited) ++ [.char ']'] := by
    rw [List.mem_append, not_or]
    exact ⟨fun h => absurd (mem_joined_unlimited h) (by decide), by decide⟩
  have hlast : ∀ t : Text, .char '[' ∉ t → t.splitOn (.char '[') = [t] := fun t ht => by
    have hsplit : (Text.join [.char '['] [t]).splitOn (.char '[') = [t] :=
      Text.splitOn_join (by simpa using ht) (List.cons_ne_nil _ _)
    exact hsplit
  rw [lastCells, bracketCells, List.cons_append, List.splitOn_append_cons_self, hlast _ hopen,
    List.getLastD_eq_getLast?, List.getLast?_concat, Option.getD_some]
  exact takeWhile_run_append hclose (.cons (by decide))

theorem readLastList_append_bracketCells (before : Text) (ns : List Int) :
    readLastList? (before ++ bracketCells (ns.map Numeral.unlimited)) = some ns := by
  rw [readLastList?, lastCells_append_bracketCells]
  cases ns with
  | nil => rfl
  | cons n ns =>
    have hcell : ∀ t ∈ (n :: ns).map Numeral.unlimited, t.IsCell := by
      intro t ht
      obtain ⟨n, -, rfl⟩ := List.mem_map.1 ht
      exact isCell_unlimited n
    have hsplit : (Text.join [.char ','] ((n :: ns).map Numeral.unlimited)).splitOn (.char ',')
        = (n :: ns).map Numeral.unlimited :=
      Text.splitOn_join (fun t ht => (hcell t ht).comma) (List.cons_ne_nil _ _)
    have hne : Text.join [.char ','] ((n :: ns).map Numeral.unlimited) ≠ [] :=
      Text.join_cons_ne_nil (Numeral.unlimited_ne_nil n)
    rw [if_neg hne, hsplit, mapM_readNumber_unlimited]

/-! ## Parts -/

/-- What is said of a part: the values that count, unless the selection left none out. -/
def Part.reading : Part → TermReading
  | number n => .number n
  | roll r => .list (if r.selectionChanged then r.final else r.raw)

theorem readTerm_of_trace {part : Part} {t : Text} (h : part.trace Roll.trace = .ok t) :
    readTerm? t = some part.reading ∧ .char ' ' ∉ t := by
  cases part with
  | number n =>
    obtain ⟨-, rfl⟩ := Numeral.write_eq_ok_iff.1 h
    have hmem : ∀ c, ¬ (c.isDigit ∨ c = .char '-') → c ∉ Numeral.unlimited n := fun c hc hm =>
      hc (Numeral.mem_unlimited hm)
    rw [readTerm?, if_neg (hmem _ (by decide)), readNumber_unlimited]
    exact ⟨rfl, hmem _ (by decide)⟩
  | roll r =>
    obtain ⟨-, -, rfl⟩ := Roll.trace_eq_ok_iff.1 h
    refine ⟨?_, fun hm => absurd (Roll.mem_text hm) (by decide)⟩
    have hlist : readLastList? r.text = some (if r.selectionChanged then r.final else r.raw) := by
      rw [Roll.text, Roll.selectedText]
      split
      · rw [← List.singleton_append, ← List.append_assoc, readLastList_append_bracketCells]
      · rw [List.append_nil]
        exact readLastList_append_bracketCells [] r.raw
    have hopen : .char '[' ∈ r.text := List.mem_cons_self
    rw [readTerm?, if_pos hopen, hlist]
    rfl

/-- A part counts for what is said of it. -/
theorem value_reading_of_becomes {x : Operand} {part : Part} (h : x.Becomes part) :
    part.reading.value = part.value := by
  cases h with
  | number n => rfl
  | @roll term dice hd =>
    show (if (Roll.ofDice term dice).selectionChanged then _ else _ : List Int).sum
      = (Roll.ofDice term dice).final.sum
    split
    · rfl
    · rename_i hs
      have hl : (Roll.ofDice term dice).final.length = (Roll.ofDice term dice).raw.length := by
        simpa [Roll.selectionChanged] using hs
      exact (select_perm_of_length_eq hl).sum_eq.symm

theorem number_reading_of_becomes {x : Operand} {part : Part} (h : x.Becomes part) :
    part.reading.number? = x.literal? := by
  cases h <;> rfl

/-- The values and the numbers that are said of some parts. -/
theorem map_reading_of_becomes {xs : List Operand} {parts : List Part}
    (h : List.Forall₂ Operand.Becomes xs parts) :
    (parts.map Part.reading).map TermReading.value = parts.map Part.value ∧
      (parts.map Part.reading).map TermReading.number? = xs.map Operand.literal? := by
  induction h with
  | nil => exact ⟨rfl, rfl⟩
  | cons hx _ ih =>
    simp only [List.map_cons, ih, value_reading_of_becomes hx, number_reading_of_becomes hx,
      and_self]

/-! ## Traces -/

/-- Parts with operators between them, by induction on the parts. -/
theorem mapM_readLink_zip {parts : List Part} {texts : List Text}
    (h : List.Forall₂ (fun part text => part.trace Roll.trace = .ok text) parts texts)
    (os : List Operator) :
    (os.zip texts).mapM readLink? = some (os.zip (parts.map Part.reading)) := by
  induction h generalizing os with
  | nil =>
    rw [List.zip_nil_right, List.map_nil, List.zip_nil_right]
    rfl
  | cons ht _ ih =>
    cases os with
    | nil => rfl
    | cons o os =>
      rw [List.zip_cons_cons, List.mapM_cons, ih, readLink?, (readTerm_of_trace ht).1]
      rfl

theorem space_not_mem_of_traceParts {parts : List Part} {texts : List Text}
    (h : List.Forall₂ (fun part text => part.trace Roll.trace = .ok text) parts texts) :
    ∀ t ∈ texts, .char ' ' ∉ t := by
  induction h with
  | nil => exact fun _ h => by cases h
  | cons ht _ ih => exact List.forall_mem_cons.2 ⟨(readTerm_of_trace ht).2, ih⟩

/-- The trace of a first part and of more parts behind operators. -/
theorem readTrace_joinTerms {part : Part} {parts : List Part} {text : Text} {texts : List Text}
    (ht : part.trace Roll.trace = .ok text)
    (hts : List.Forall₂ (fun part text => part.trace Roll.trace = .ok text) parts texts)
    (os : List Operator) :
    readTrace? (joinTerms text (os.zip texts))
      = some { first := part.reading, tail := os.zip (parts.map Part.reading) } := by
  have hspace : ∀ u ∈ os.zip texts, .char ' ' ∉ u.2 := fun u hu =>
    space_not_mem_of_traceParts hts u.2 (List.of_mem_zip hu).2
  rw [readTrace?, cutTerms_joinTerms (readTerm_of_trace ht).2 hspace]
  simp only [(readTerm_of_trace ht).1, mapM_readLink_zip hts]
  rfl

/-- The trace explains the total: read without the rolls, it has the operators and the numbers of
the line in their places, and its terms combine to the total. -/
theorem readTrace_detail {line : Text} {s s' : Source} {r : Result}
    (h : evaluateLine line s = .ok r s') :
    ∃ e reading, Expression.parse line = .ok e ∧ readTrace? r.detail = some reading ∧
      reading.total? = some r.total ∧ reading.tail.map Prod.fst = e.tail.map Prod.fst ∧
      reading.terms.map TermReading.number? = e.operands.map Operand.literal? := by
  obtain ⟨e, hp, hr⟩ := evaluateLine_eq_ok_iff.1 h
  obtain ⟨_, _, parts, he, -⟩ := (outcomes_evaluate line.strip e).ok hr
  have hdetail := he.detail
  rw [he.trace?_eq, Option.some.injEq, except_bind_eq_ok_iff] at hdetail
  obtain ⟨texts, hts, hd⟩ := hdetail
  have htotal := he.total
  have hbecomes := he.becomes
  unfold Expression.operands at hbecomes ⊢
  cases hbecomes with
  | @cons _ part _ parts hx hxs =>
    rw [traceParts_eq_ok_iff] at hts
    cases hts with
    | @cons _ text _ texts ht hts =>
      obtain ⟨hvalues, hnumbers⟩ := map_reading_of_becomes (.cons hx hxs)
      have hlength : (e.tail.map Prod.fst).length = (parts.map Part.reading).length := by
        simpa using hxs.length_eq
      refine ⟨e, _, hp, (congrArg readTrace? (Except.ok.inj hd).symm).trans
        (readTrace_joinTerms ht hts _), ?_, ?_, ?_⟩
      · rw [← hvalues] at htotal
        rw [TraceReading.total?, ← List.zip_map_right]
        exact htotal
      · exact List.map_fst_zip hlength.le
      · rw [TraceReading.terms, List.map_snd_zip hlength.ge]
        exact hnumbers

/-- A selection that shows a second list, one that does not, and a division that rounds down. -/
theorem readTrace_detail_of_selections : ∃ r s',
    evaluateLine "1 - 3d6dl! - 2d4kl2 / 3" (.ofScript [6, 2, 5, 3, 4, 2]) = .ok r s' ∧
    r.detail = "1 - [6,2,5,3]→[3,5,6] - [4,2] / 3" ∧
    ∃ e reading, Expression.parse "1 - 3d6dl! - 2d4kl2 / 3" = .ok e ∧
      readTrace? r.detail = some reading ∧ reading.total? = some r.total ∧ r.total = -7 ∧
      reading.tail.map Prod.fst = e.tail.map Prod.fst ∧
      reading.terms.map TermReading.number? = e.operands.map Operand.literal? := by
  let first : DiceTerm :=
    { count := 3, faces := 6, keepDrop := .dropLow, explode := true, source := "3d6dl!" }
  let second : DiceTerm :=
    { count := 2, faces := 4, keepDrop := .keepLow, modifierCount := 2, source := "2d4kl2" }
  let r : Result :=
    { expression := "1 - 3d6dl! - 2d4kl2 / 3"
      rolls := [{ faces := 6, raw := [6, 2, 5, 3], final := [3, 5, 6], total := 14 },
        { faces := 4, raw := [4, 2], final := [2, 4], total := 6 }]
      total := -7
      detail := "1 - [6,2,5,3]→[3,5,6] - [4,2] / 3"
      parsed := some {
        first := .literal 1
        tail := [(.subtract, .dice first), (.subtract, .dice second), (.divide, .literal 3)] } }
  have h : evaluateLine "1 - 3d6dl! - 2d4kl2 / 3" (.ofScript [6, 2, 5, 3, 4, 2])
      = .ok r ((Source.ofScript [6, 2, 5, 3, 4, 2]).after
          (drawsOf 6 [6, 2, 5, 3] ++ drawsOf 4 [4, 2])) := by
    cbv
  obtain ⟨e, reading, hp, hreading, htotal, hlinks⟩ := readTrace_detail h
  exact ⟨r, _, h, rfl, e, reading, hp, hreading, htotal, rfl, hlinks⟩

end Tabletop
