/-!
# Text by code point

A text is a list of code points, and a code point is a character or a lone surrogate: an escape in
a request may name half of a pair, and the half has to survive until it is written again.

* `CodePoint.val`, `CodePoint.ofNat?`: a code point's number, and back (`ofNat?_val`).
* `Text.ofString`: the text of a string, one code point a character.
* `Text.after?`: what follows a text at the front of another one.
-/

namespace Tabletop

/-- A character, or one of the 2048 surrogates, counted from U+D800. -/
inductive CodePoint where
  | char (c : Char)
  | surrogate (half : Fin 2048)
  deriving DecidableEq

namespace CodePoint

/-- The number of a code point. -/
def val : CodePoint → Nat
  | char c => c.toNat
  | surrogate half => 0xD800 + half.val

/-- The code point with a number, if there is one. -/
def ofNat? (n : Nat) : Option CodePoint :=
  if 0xD800 ≤ n ∧ n < 0xE000 then some (surrogate (Fin.ofNat 2048 (n - 0xD800)))
  else if n < 0x110000 then some (char (Char.ofNat n))
  else none

theorem ofNat?_val (c : CodePoint) : ofNat? c.val = some c := by
  cases c with
  | char c =>
    have hv : c.toNat < 0xD800 ∨ (0xDFFF < c.toNat ∧ c.toNat < 0x110000) := c.valid
    have h₁ : ¬ (0xD800 ≤ c.toNat ∧ c.toNat < 0xE000) := by omega
    have h₂ : c.toNat < 0x110000 := by omega
    simp only [ofNat?, val, if_neg h₁, if_pos h₂, Char.ofNat_toNat]
  | surrogate half =>
    have hh := half.isLt
    have h₁ : 0xD800 ≤ 0xD800 + half.val ∧ 0xD800 + half.val < 0xE000 := by omega
    simp only [ofNat?, val, if_pos h₁, Nat.add_sub_cancel_left, Option.some.injEq, surrogate.injEq]
    exact Fin.ext (Nat.mod_eq_of_lt hh)

instance : Inhabited CodePoint := ⟨char ' '⟩

/-- Whether a code point's number lies in one of some closed ranges. -/
def within (ranges : List (Nat × Nat)) (c : CodePoint) : Bool :=
  ranges.any fun r => r.1 ≤ c.val && c.val ≤ r.2

/-- Whether a code point is a lone surrogate. -/
def isSurrogate : CodePoint → Bool
  | char _ => false
  | surrogate _ => true

/-- The decimal digits of plain text. -/
def isDigit : CodePoint → Bool
  | char c => c.isDigit
  | surrogate _ => false

/-- The value of a decimal digit, zero for anything else. -/
def digitValue : CodePoint → Nat
  | char c => if c.isDigit then c.toNat - '0'.toNat else 0
  | surrogate _ => 0

end CodePoint

/-- A text: its code points in order. -/
abbrev Text := List CodePoint

namespace Text

/-- The text of a string. -/
def ofString (s : String) : Text := s.toList.map .char

instance : Coe String Text := ⟨ofString⟩

theorem ofString_inj {s t : String} : ofString s = ofString t ↔ s = t := by
  constructor
  · intro h
    exact String.toList_inj.1 ((List.map_inj_right fun _ _ hab => CodePoint.char.inj hab).1 h)
  · rintro rfl
    rfl

/-- The string of a text, with `stand` for each lone surrogate. -/
def toStringWith (stand : Char) (t : Text) : String :=
  String.ofList (t.map fun | .char c => c | .surrogate _ => stand)

/-- Parts one after the other, with a separator between two. -/
def join (separator : Text) : List Text → Text
  | [] => []
  | [part] => part
  | part :: parts => part ++ separator ++ join separator parts

/-- What follows `start` in a text that begins with it. -/
def after? : Text → Text → Option Text
  | [], t => some t
  | _ :: _, [] => none
  | a :: start, c :: t => if a = c then after? start t else none

end Text

end Tabletop
