import Tabletop.Decimal.Places
import Tabletop.Log.Format
import Tabletop.Text.Quoted

/-!
# Values in the fields of log lines

A value as a field of a format shows it (`Format.Field.fill?`). The letter of the conversion says in
which form, and not every value has every form; flags, width and precision say how it is laid out.

* `Format.Shown`: what can be shown in a field.
* `Format.Field.padded`: a sign, a mark and digits in the width of a field.
-/

namespace Tabletop

namespace Format

/-- What can be shown in a field. -/
inductive Shown where
  | text (t : Text)
  | number (n : Int)
  | float (x : Binary64)
  /-- Anything else, by its text. -/
  | other (t : Text)

namespace Shown

/-- The text of a value by itself. -/
def plain : Shown → Text
  | text t => t
  | number n => Numeral.unlimited n
  | float x => x.text "inf" "nan"
  | other t => t

/-- The text of a value within others. -/
def quoted : Shown → Text
  | text t => t.quoted
  | value => value.plain

/-- The whole number in front of a value's point. -/
def whole? : Shown → Option Int
  | number n => some n
  | float x => x.toInt?
  | _ => none

/-- A value as a whole number. -/
def integer? : Shown → Option Int
  | number n => some n
  | _ => none

/-- A value as a floating-point number. -/
def float? : Shown → Option Binary64
  | number n => Binary64.ofInt? n
  | float x => some x
  | _ => none

/-- A value as one code point. -/
def codePoint? : Shown → Option CodePoint
  | text [c] => some c
  | number (.ofNat n) => CodePoint.ofNat? n
  | _ => none

end Shown

namespace Field

/-- The widest line that is made. -/
def widest : Nat := 10000000

/-- Whether a field asks for no more than can be made. -/
def isFeasible (f : Field) : Bool := f.width.getD 0 ≤ widest && f.precision.getD 0 ≤ maxPrecision

/-- Whether a field has a flag. -/
def has (f : Field) (flag : Char) : Bool := .char flag ∈ f.flags

/-- A text filled up with blanks to the width of a field. -/
def filled (f : Field) (t : Text) : Text :=
  let blanks := List.replicate (f.width.getD 0 - t.length) (.char ' ')
  if f.has '-' then t ++ blanks else blanks ++ t

/-- A text in a field, cut to its precision. -/
def textField (f : Field) (t : Text) : Text := f.filled (t.take (f.precision.getD t.length))

/-- The sign of a number in a field. -/
def sign (f : Field) (negative : Bool) : Text :=
  if negative then "-" else if f.has '+' then "+" else if f.has ' ' then " " else []

/-- A sign, the mark of a base and digits in the width of a field. -/
def padded (f : Field) (sign mark digits : Text) : Text :=
  let used := sign.length + mark.length + digits.length
  if f.has '0' ∧ !f.has '-' then
    sign ++ mark ++ List.replicate (f.width.getD 0 - used) (.char '0') ++ digits
  else f.filled (sign ++ mark ++ digits)

/-- A whole number to a base in a field, with as many digits as its precision asks for. -/
def numberField (f : Field) (base : Nat) (mark : Text) (n : Int) : Option Text :=
  let least := f.precision.getD 0
  if widest < least then none
  else
    let digits : Text := (Nat.toDigits base n.natAbs).map .char
    let digits := List.replicate (least - digits.length) (.char '0') ++ digits
    some (f.padded (f.sign (n < 0)) (if f.has '#' then mark else []) digits)

/-- A floating-point number in a field. -/
def floatField (f : Field) (style : Binary64.Style) (x : Binary64) : Option Text :=
  let precision := f.precision.getD 6
  if widest < precision then none
  else
    match x.inPlaces style (f.has '#') precision with
    | .char '-' :: digits => some (f.padded (f.sign true) [] digits)
    | digits => some (f.padded (f.sign false) [] digits)

/-- A text with its letters in upper case. -/
def capitals (t : Text) : Text := t.map fun | .char c => .char c.toUpper | c => c

/-- A value in a field, if it has the form that the conversion asks for. -/
def fill? (f : Field) (v : Shown) : Option Text :=
  if !f.isFeasible then none
  else
    match f.conversion with
    | .char 's' => some (f.textField v.plain)
    | .char 'r' => some (f.textField v.quoted)
    | .char 'a' => some (f.textField v.quoted.asciiOnly)
    | .char 'd' | .char 'i' | .char 'u' => v.whole?.bind (f.numberField 10 [])
    | .char 'o' => v.integer?.bind (f.numberField 8 "0o")
    | .char 'x' => v.integer?.bind (f.numberField 16 "0x")
    | .char 'X' => (v.integer?.bind (f.numberField 16 "0x")).map capitals
    | .char 'e' => v.float?.bind (f.floatField .scientific)
    | .char 'E' => (v.float?.bind (f.floatField .scientific)).map capitals
    | .char 'f' => v.float?.bind (f.floatField .fixed)
    | .char 'F' => (v.float?.bind (f.floatField .fixed)).map capitals
    | .char 'g' => v.float?.bind (f.floatField .general)
    | .char 'G' => (v.float?.bind (f.floatField .general)).map capitals
    | .char 'c' => v.codePoint?.map fun c => f.filled [c]
    | _ => none

end Field

end Format

end Tabletop
