import Tabletop.Notation.Expression
import Tabletop.Numeral

/-!
# How terms are spelled

A term as it stands in the text, digits and all (`TermSpelling`), before any number is read. A
spelling is read off the front of a text by taking as much as fits (`TermSpelling.scan?`), and it
can be written again (`TermSpelling.text`).

* `TermSpelling.text_append_of_scan?`: what is read is in front of what is left.
* `TermSpelling.length_lt_of_scan?`: what is left is shorter.
-/

namespace Tabletop

/-- A dice term as it is spelled; a number left out is an empty run of digits. -/
structure DiceSpelling where
  count : Text
  faces : Text
  keepDrop : KeepDrop
  modifier : Text
  explode : Bool
  reroll : Reroll
  threshold : Text
  deriving DecidableEq

/-- A term as it is spelled. -/
inductive TermSpelling where
  | integer (digits : Text)
  | dice (spelling : DiceSpelling)
  deriving DecidableEq

namespace KeepDrop

/-- The selection in front of a text, and what follows it. -/
def scan : Text → KeepDrop × Text
  | .char 'k' :: .char 'h' :: rest => (keepHigh, rest)
  | .char 'k' :: .char 'l' :: rest => (keepLow, rest)
  | .char 'd' :: .char 'h' :: rest => (dropHigh, rest)
  | .char 'd' :: .char 'l' :: rest => (dropLow, rest)
  | t => (all, t)

end KeepDrop

/-- How exploding dice are marked. -/
def explodeToken : Bool → Text
  | true => [.char '!']
  | false => []

/-- The mark of exploding dice in front of a text, and what follows it. -/
def scanExplode : Text → Bool × Text
  | .char '!' :: rest => (true, rest)
  | t => (false, t)

namespace Reroll

/-- The reroll in front of a text, and what follows it. -/
def scan : Text → Reroll × Text
  | .char 'r' :: .char 'r' :: rest => (untilAbove, rest)
  | .char 'r' :: rest => (once, rest)
  | t => (never, t)

end Reroll

/-- A number that may follow a token: none is read where there is no token. -/
def scanNumberIf (present : Bool) (t : Text) : Text × Text :=
  if present then Numeral.splitDigits t else ([], t)

namespace DiceSpelling

/-- A dice term as text. -/
def text (s : DiceSpelling) : Text :=
  s.count ++ .char 'd' :: s.faces ++ s.keepDrop.token ++ s.modifier
    ++ explodeToken s.explode ++ s.reroll.token ++ s.threshold

/-- The dice term whose count and faces have been read, and what follows it. -/
def scanModifiers (count faces : Text) (t : Text) : DiceSpelling × Text :=
  let (keepDrop, t) := KeepDrop.scan t
  let (modifier, t) := scanNumberIf (keepDrop != .all) t
  let (explode, t) := scanExplode t
  let (reroll, t) := Reroll.scan t
  let (threshold, t) := scanNumberIf (reroll != .never) t
  ({ count, faces, keepDrop, modifier, explode, reroll, threshold }, t)

end DiceSpelling

namespace TermSpelling

/-- A term as text. -/
def text : TermSpelling → Text
  | integer digits => digits
  | dice spelling => spelling.text

/-- The number in front of a text, given its digits. -/
def scanInteger? (digits rest : Text) : Option (TermSpelling × Text) :=
  if digits.isEmpty then none else some (integer digits, rest)

/-- The term in front of a text, and what follows it. A `d` without a number of faces does not make
a dice term. -/
def scan? (t : Text) : Option (TermSpelling × Text) :=
  let (count, rest) := Numeral.splitDigits t
  match rest with
  | .char 'd' :: after =>
    let (faces, after) := Numeral.splitDigits after
    if faces.isEmpty then scanInteger? count rest
    else
      let (spelling, after) := DiceSpelling.scanModifiers count faces after
      some (dice spelling, after)
  | _ => scanInteger? count rest

end TermSpelling

/-! ## What is read and what is left -/

theorem KeepDrop.scan_append (t : Text) : (scan t).1.token ++ (scan t).2 = t := by
  unfold scan
  split <;> simp [token]

theorem scanExplode_append (t : Text) : explodeToken (scanExplode t).1 ++ (scanExplode t).2 = t := by
  unfold scanExplode
  split <;> simp [explodeToken]

theorem Reroll.scan_append (t : Text) : (scan t).1.token ++ (scan t).2 = t := by
  unfold scan
  split <;> simp [token]

theorem scanNumberIf_append (present : Bool) (t : Text) :
    (scanNumberIf present t).1 ++ (scanNumberIf present t).2 = t := by
  unfold scanNumberIf
  split
  · exact Numeral.splitDigits_append t
  · rfl

theorem DiceSpelling.scanModifiers_append (count faces t : Text) :
    (scanModifiers count faces t).1.text ++ (scanModifiers count faces t).2
      = count ++ .char 'd' :: faces ++ t := by
  simp only [scanModifiers, text, List.append_assoc, List.cons_append]
  rw [scanNumberIf_append, Reroll.scan_append, scanExplode_append, scanNumberIf_append,
    KeepDrop.scan_append]

namespace TermSpelling

theorem eq_of_scanInteger? {digits after rest : Text} {s : TermSpelling}
    (h : scanInteger? digits after = some (s, rest)) :
    digits ≠ [] ∧ s = integer digits ∧ rest = after := by
  unfold scanInteger? at h
  split at h
  · cases h
  · rename_i he
    cases h
    exact ⟨by simpa using he, rfl, rfl⟩

theorem text_append_of_scan? {t rest : Text} {s : TermSpelling} (h : scan? t = some (s, rest)) :
    s.text ++ rest = t := by
  have ht := Numeral.splitDigits_append t
  simp only [scan?] at h
  split at h
  · rename_i after hr
    split at h
    · obtain ⟨-, rfl, rfl⟩ := eq_of_scanInteger? h
      exact ht
    · cases h
      rw [hr] at ht
      refine Eq.trans ?_ ht
      simp only [text]
      rw [DiceSpelling.scanModifiers_append]
      simp only [List.append_assoc, List.cons_append, Numeral.splitDigits_append]
  · obtain ⟨-, rfl, rfl⟩ := eq_of_scanInteger? h
    exact ht

theorem text_ne_nil_of_scan? {t rest : Text} {s : TermSpelling} (h : scan? t = some (s, rest)) :
    s.text ≠ [] := by
  simp only [scan?] at h
  split at h
  · split at h
    · obtain ⟨hd, rfl, -⟩ := eq_of_scanInteger? h
      exact hd
    · cases h
      simp [text, DiceSpelling.text, DiceSpelling.scanModifiers]
  · obtain ⟨hd, rfl, -⟩ := eq_of_scanInteger? h
    exact hd

theorem length_lt_of_scan? {t rest : Text} {s : TermSpelling} (h : scan? t = some (s, rest)) :
    rest.length < t.length := by
  have h₁ := congrArg List.length (text_append_of_scan? h)
  have h₂ := List.length_pos_iff.2 (text_ne_nil_of_scan? h)
  rw [List.length_append] at h₁
  omega

end TermSpelling

end Tabletop
