import Tabletop.Decimal.Shortest

/-!
# Decimals with a number of places

A floating-point number as decimal text with as many places as are asked for (`Binary64.inPlaces`):
behind the point, behind the first digit and with an exponent, or as significant digits in
whichever of the two forms is fit for the size of the number. The exact value is rounded, ties to
the even digit.

* `Binary64.scaled`: a quotient times a power of ten, rounded.
* `Binary64.significant`: the first digits of a quotient, and the decade it is in.
-/

namespace Tabletop

namespace Binary64

/-- The forms of a decimal. -/
inductive Style where
  /-- So many places behind the point. -/
  | fixed
  /-- So many places behind the first digit, and an exponent. -/
  | scientific
  /-- So many significant digits, without zeros at the end. -/
  | general
  deriving DecidableEq

/-- A quotient times `10 ^ power`, rounded to a whole number. -/
def scaled (num den : Nat) (power : Int) : Nat :=
  if power < 0 then roundToEven num (den * tenPow power.natAbs)
  else roundToEven (num * tenPow power.toNat) den

/-- The greatest `e` such that a quotient is not below `10 ^ e`. -/
def decade (num den : Nat) : Int :=
  if den ≤ num then (Numeral.digits (num / den)).length - 1
  else
    match (List.range 400).find? fun j => den ≤ num * tenPow (j + 1) with
    | some j => -((j : Int) + 1)
    | none => 0

/-- The first `places + 1` digits of a quotient, and the decade it is in once it is rounded. -/
def significant (num den places : Nat) : Text × Int :=
  if num = 0 then (zeros (places + 1), 0)
  else
    let e := decade num den
    let n := scaled num den (places - e)
    let ds := Numeral.digits n
    if places + 1 < ds.length then (Numeral.digits (n / 10), e + 1) else (ds, e)

/-- Digits in front of a point and behind it; the point is written if it has to be. -/
def pointed (keepPoint : Bool) (whole fraction : Text) : Text :=
  if fraction.isEmpty ∧ !keepPoint then whole else whole ++ .char '.' :: fraction

/-- An exponent. -/
def exponentText (e : Int) : Text :=
  let ds := Numeral.digits e.natAbs
  .char 'e' :: .char (if e < 0 then '-' else '+') :: zeros (2 - ds.length) ++ ds

/-- A quotient with so many places behind the point. -/
def fixedText (keepPoint : Bool) (places num den : Nat) : Text :=
  let ds := Numeral.digits (scaled num den places)
  let ds := zeros (places + 1 - ds.length) ++ ds
  pointed keepPoint (ds.take (ds.length - places)) (ds.drop (ds.length - places))

/-- Digits with the point behind the first one, and an exponent. -/
def scientificText (keepPoint : Bool) (ds : Text) (e : Int) : Text :=
  pointed keepPoint (ds.take 1) (ds.drop 1) ++ exponentText e

/-- A quotient with so many significant digits. An exponent is written for very small numbers and
where there are not as many digits as the whole number has. -/
def generalText (keepPoint : Bool) (digits num den : Nat) : Text :=
  let digits := max 1 digits
  let (ds, e) := significant num den (digits - 1)
  let shown := fun (fraction : Text) => if keepPoint then fraction else trimZeros fraction
  if e < -4 ∨ digits ≤ e then
    pointed keepPoint (ds.take 1) (shown (ds.drop 1)) ++ exponentText e
  else if e < 0 then
    pointed keepPoint [.char '0'] (shown (zeros (e.natAbs - 1) ++ ds))
  else pointed keepPoint (ds.take (e.toNat + 1)) (shown (ds.drop (e.toNat + 1)))

/-- A number in a style with a precision. -/
def inPlaces (style : Style) (keepPoint : Bool) (precision : Nat) : Binary64 → Text
  | nan => "nan"
  | infinite negative => if negative then "-inf" else "inf"
  | finite negative significand exponent =>
    let sign : Text := if negative then [.char '-'] else []
    let (num, den) := quotient false significand exponent
    let n := num.natAbs
    sign ++ match style with
      | .fixed => fixedText keepPoint precision n den
      | .scientific =>
        let (ds, e) := significant n den precision
        scientificText keepPoint ds e
      | .general => generalText keepPoint precision n den

/-- The nearest number to a whole number; nothing if it is beyond all of them. -/
def ofInt? (n : Int) : Option Binary64 :=
  match nearest (n < 0) n.natAbs 1 with
  | infinite _ => none
  | x => some x

/-- A number without what is behind its point; nothing if it is not finite. -/
def toInt? : Binary64 → Option Int
  | finite negative significand exponent =>
    let (num, den) := quotient negative significand exponent
    some (num.tdiv den)
  | _ => none

end Binary64

end Tabletop
