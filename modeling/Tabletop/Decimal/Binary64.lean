/-!
# Floating-point numbers

Numbers of 64 bits as exact values (`Binary64`): a sign, a whole significand below 2⁵³ and a power
of two. They are only read, compared and written here, and all of it in whole numbers.

* `Binary64.nearest`: the nearest number to a quotient, ties to the even significand.
* `Binary64.ofDecimal`: the nearest number to a decimal.
* `Binary64.ltInt`: whether a number is below a whole number, with no rounding.
-/

namespace Tabletop

/-- A floating-point number of 64 bits. The value of a finite one is `significand · 2 ^ exponent`,
with a minus sign if it is negative. -/
inductive Binary64 where
  | finite (negative : Bool) (significand : Nat) (exponent : Int)
  | infinite (negative : Bool)
  | nan
  deriving DecidableEq

namespace Binary64

/-- The least exponent. -/
def minExponent : Int := -1074

/-- The greatest exponent. -/
def maxExponent : Int := 971

/-- A power of two. -/
def twoPow (n : Nat) : Nat := Nat.pow 2 n

/-- A power of ten. -/
def tenPow (n : Nat) : Nat := Nat.pow 10 n

/-- A quotient times `2 ^ (-exponent)`, as a quotient. -/
def unscale (num den : Nat) (exponent : Int) : Nat × Nat :=
  if exponent < 0 then (num * twoPow exponent.natAbs, den) else (num, den * twoPow exponent.toNat)

/-- A quotient rounded to a whole number, ties to the even one. -/
def roundToEven (num den : Nat) : Nat :=
  let q := num / den
  let r := num % den
  if den < 2 * r ∨ (2 * r = den ∧ q % 2 = 1) then q + 1 else q

/-- The nearest number to `num / den`, with a sign. -/
def nearest (negative : Bool) (num den : Nat) : Binary64 :=
  if num = 0 then finite negative 0 minExponent
  else
    let guess : Int := (num.log2 : Int) - den.log2 - 52
    let (n, d) := unscale num den guess
    let exponent := max minExponent (if n / d < twoPow 52 then guess - 1 else guess)
    let (n, d) := unscale num den exponent
    let q := roundToEven n d
    let (q, exponent) := if q = twoPow 53 then (twoPow 52, exponent + 1) else (q, exponent)
    if maxExponent < exponent then infinite negative else finite negative q exponent

/-- The nearest number to `coefficient · 10 ^ exponent`, with a sign. Beyond any number's reach the
power is not worked out. -/
def ofDecimal (negative : Bool) (coefficient : Nat) (exponent : Int) : Binary64 :=
  let size := (Nat.toDigits 10 coefficient).length + exponent
  if coefficient = 0 ∨ size < -400 then finite negative 0 minExponent
  else if 400 < size then infinite negative
  else if exponent < 0 then nearest negative coefficient (tenPow exponent.natAbs)
  else nearest negative (coefficient * tenPow exponent.toNat) 1

/-- Whether a number is zero, of either sign. -/
def isZero : Binary64 → Bool
  | finite _ significand _ => significand == 0
  | _ => false

/-- A finite number as a quotient of whole numbers. -/
def quotient (negative : Bool) (significand : Nat) (exponent : Int) : Int × Nat :=
  let m : Int := if negative then -significand else significand
  if exponent < 0 then (m, twoPow exponent.natAbs) else (m * (twoPow exponent.toNat : Int), 1)

/-- Whether a number is below a whole number. -/
def ltInt : Binary64 → Int → Bool
  | finite negative significand exponent, n =>
    let (num, den) := quotient negative significand exponent
    num < n * den
  | infinite negative, _ => negative
  | nan, _ => false

/-- The nearest number to a whole number; nothing if that is out of reach. -/
def ofNat? (n : Nat) : Option Binary64 :=
  match nearest false n 1 with
  | finite negative significand exponent => some (finite negative significand exponent)
  | _ => none

/-- The product of two numbers. -/
def mul : Binary64 → Binary64 → Binary64
  | finite s m e, finite s' m' e' =>
    let (num, den) := quotient false (m * m') (e + e')
    nearest (s != s') num.natAbs den
  | infinite s, infinite s' => infinite (s != s')
  | infinite s, finite s' m _ => if m = 0 then nan else infinite (s != s')
  | finite s m _, infinite s' => if m = 0 then nan else infinite (s != s')
  | _, _ => nan

/-- The sum of two numbers. -/
def add : Binary64 → Binary64 → Binary64
  | finite s m e, finite s' m' e' =>
    let (a, b) := quotient s m e
    let (a', b') := quotient s' m' e'
    let sum := a * b' + a' * b
    nearest (if sum = 0 then s && s' else sum < 0) sum.natAbs (b * b')
  | infinite s, infinite s' => if s = s' then infinite s else nan
  | nan, _ => nan
  | _, nan => nan
  | infinite s, _ => infinite s
  | _, infinite s => infinite s

/-- The number with the other sign. -/
def negate : Binary64 → Binary64
  | finite negative significand exponent => finite (!negative) significand exponent
  | infinite negative => infinite (!negative)
  | nan => nan

end Binary64

end Tabletop
