import Tabletop.Text.CodePoint

/-!
# Numerals

Whole numbers as decimal text. A numeral of more than `Numeral.maxDigits` digits is neither read
(`Numeral.read`) nor written (`Numeral.write`), leading zeros counted and the sign not.

* `Numeral.splitDigits`: the run of digits in front of a text.
* `Numeral.read_eq_error_iff`, `Numeral.write_eq_error_iff`: when each is refused.
-/

namespace Tabletop

namespace Numeral

/-- The longest numeral that is read or written. -/
def maxDigits : Nat := 4300

/-- Why a numeral is refused: the text read has too many digits, or the number written needs too
many. -/
inductive Fault where
  | reading (digits : Nat)
  | writing
  deriving DecidableEq

/-- The decimal digits of a number, without leading zeros. -/
def digits (n : Nat) : Text := (Nat.toDigits 10 n).map .char

/-- The decimal text of a number of any size. -/
def unlimited : Int → Text
  | .ofNat n => digits n
  | .negSucc n => .char '-' :: digits (n + 1)

/-- The run of digits in front of a text, and what follows it. -/
def splitDigits (t : Text) : Text × Text := (t.takeWhile (·.isDigit), t.dropWhile (·.isDigit))

/-- The value of a run of decimal digits. -/
def value (ds : Text) : Nat := ds.foldl (fun n d => 10 * n + d.digitValue) 0

/-- The value of a run of decimal digits that is not too long. -/
def read (ds : Text) : Except Fault Nat :=
  if ds.length ≤ maxDigits then .ok (value ds) else .error (.reading ds.length)

/-- The decimal text of a number that does not need too many digits. -/
def write (n : Int) : Except Fault Text :=
  if (digits n.natAbs).length ≤ maxDigits then .ok (unlimited n) else .error .writing

/-- The texts of some numbers, in order. -/
def writeAll : List Int → Except Fault (List Text)
  | [] => .ok []
  | n :: rest => do
    let text ← write n
    let texts ← writeAll rest
    pure (text :: texts)

/-- The wording of a fault. -/
def Fault.message : Fault → Text
  | reading n =>
    Text.ofString "Exceeds the limit (" ++ digits maxDigits
      ++ Text.ofString " digits) for integer string conversion: value has " ++ digits n
      ++ Text.ofString " digits; use sys.set_int_max_str_digits() to increase the limit"
  | writing =>
    Text.ofString "Exceeds the limit (" ++ digits maxDigits
      ++ Text.ofString " digits) for integer string conversion; use sys.set_int_max_str_digits() "
      ++ Text.ofString "to increase the limit"

theorem splitDigits_append (t : Text) : (splitDigits t).1 ++ (splitDigits t).2 = t :=
  List.takeWhile_append_dropWhile

theorem read_eq_error_iff (ds : Text) :
    read ds = .error (.reading ds.length) ↔ maxDigits < ds.length := by
  unfold read
  split <;> simp <;> omega

theorem write_eq_error_iff (n : Int) :
    write n = .error .writing ↔ maxDigits < (digits n.natAbs).length := by
  unfold write
  split <;> simp <;> omega

end Numeral

end Tabletop
