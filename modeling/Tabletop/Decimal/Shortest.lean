import Tabletop.Decimal.Binary64
import Tabletop.Numeral

/-!
# The shortest decimal

A floating-point number as decimal text (`Binary64.text`): the fewest digits that read back, and of
those the nearest. The reals that round to a number form an interval, with its ends if the
significand is even; for one digit, two digits, … the two neighbours of the number on that decimal
grid are tried, and the first grid with a neighbour in the interval wins.

* `Binary64.shortest`: the digits and the place of the decimal point.
* `Binary64.Layout`: where the point or an exponent is written.
-/

namespace Tabletop

namespace Binary64

/-- The positive numbers that round to one number, as numerators over one denominator. -/
structure Interval where
  low : Nat
  value : Nat
  high : Nat
  den : Nat
  closed : Bool

/-- The numbers that round to `significand · 2 ^ exponent`. Below a power of two the neighbour is
nearer. -/
def interval (significand : Nat) (exponent : Int) : Interval :=
  let below := if significand = twoPow 52 ∧ minExponent < exponent then 1 else 2
  let (num, den) := quotient false 1 (exponent - 2)
  let unit := num.natAbs
  { low := (4 * significand - below) * unit
    value := 4 * significand * unit
    high := (4 * significand + 2) * unit
    den
    closed := significand % 2 = 0 }

namespace Interval

/-- Whether `num` over the denominator lies in the interval. -/
def holds (i : Interval) (num : Nat) : Bool :=
  if i.closed then i.low ≤ num && num ≤ i.high else i.low < num && num < i.high

/-- The interval in units of `10 ^ exponent`. -/
def inUnits (i : Interval) (exponent : Int) : Interval :=
  if exponent < 0 then
    let s := tenPow exponent.natAbs
    { i with low := i.low * s, value := i.value * s, high := i.high * s }
  else { i with den := i.den * tenPow exponent.toNat }

/-- Where the decimal point stands: the least `p` with the value below `10 ^ p`. -/
def point (i : Interval) : Int :=
  if i.den ≤ i.value then (Nat.toDigits 10 (i.value / i.den)).length
  else
    match (List.range 400).find? fun j => i.den ≤ i.value * tenPow (j + 1) with
    | some j => -j
    | none => 0

/-- The better of the value's two neighbours among the whole numbers, if one lies in the interval:
the nearer one, and the even one of two as near. -/
def neighbour? (i : Interval) : Option Nat :=
  let floor := i.value / i.den
  let lowIn := i.holds (floor * i.den)
  let highIn := i.holds ((floor + 1) * i.den)
  let rest := 2 * (i.value % i.den)
  if lowIn && highIn then
    some (if rest < i.den ∨ (rest = i.den ∧ floor % 2 = 0) then floor else floor + 1)
  else if lowIn then some floor
  else if highIn then some (floor + 1)
  else none

end Interval

/-- The shortest decimal that reads back as `significand · 2 ^ exponent`: its digits as a number,
and the power of ten of the last one. -/
def shortest (significand : Nat) (exponent : Int) : Nat × Int :=
  let i := interval significand exponent
  let p := i.point
  ((List.range 17).findSome? fun (k : Nat) =>
    let power := p - (k + 1 : Int)
    (i.inUnits power).neighbour?.map fun n => (n, power)).getD (0, 0)

/-! ## Layout -/

/-- How digits and exponents are laid out. -/
structure Layout where
  /-- The places of the point between which no exponent is written. -/
  firstPoint : Int
  lastPoint : Int
  /-- The least number of digits of an exponent. -/
  exponentDigits : Nat

/-- From a ten-thousandth up to sixteen places no exponent is written, and an exponent has two
digits. -/
def Layout.plain : Layout := { firstPoint := -3, lastPoint := 16, exponentDigits := 2 }

/-- A run of zeros. -/
def zeros (n : Nat) : Text := List.replicate n (.char '0')

/-- Digits without the zeros at their end. -/
def trimZeros (ds : Text) : Text := (ds.reverse.dropWhile (· = .char '0')).reverse

/-- The text of digits with the decimal point at a place, the first digit not being zero. -/
def Layout.text (l : Layout) (ds : Text) (point : Int) : Text :=
  if l.firstPoint ≤ point ∧ point ≤ l.lastPoint then
    if point ≤ 0 then Text.ofString "0." ++ zeros point.natAbs ++ ds
    else
      let n := point.toNat
      if ds.length ≤ n then ds ++ zeros (n - ds.length) ++ Text.ofString ".0"
      else ds.take n ++ .char '.' :: ds.drop n
  else
    let exponent := point - 1
    let size := Numeral.digits exponent.natAbs
    let fraction := ds.drop 1
    ds.take 1 ++ (if fraction.isEmpty then [] else .char '.' :: fraction)
      ++ .char 'e' :: .char (if exponent < 0 then '-' else '+')
      :: zeros (l.exponentDigits - size.length) ++ size

/-- The text of a number of any kind. -/
def text (infinity nanText : Text) : Binary64 → Text
  | nan => nanText
  | infinite negative => if negative then .char '-' :: infinity else infinity
  | finite negative significand exponent =>
    let sign : Text := if negative then [.char '-'] else []
    if significand = 0 then sign ++ Text.ofString "0.0"
    else
      let (n, power) := shortest significand exponent
      let ds := Numeral.digits n
      sign ++ Layout.plain.text (trimZeros ds) (ds.length + power)

end Binary64

end Tabletop
