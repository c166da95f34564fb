import Tabletop.Data.Json.Token
import Tabletop.Data.Yaml.Fault
import Tabletop.Text.Blank
import Tabletop.Text.Lowercase

/-!
# Numbers of YAML

The number that a text says once it counts as one. Whole numbers (`Yaml.wholeNumber`) may be written
to the bases 2, 8, 10 and 16, floating-point numbers (`Yaml.floatNumber`) with or without a point
and an exponent, and both to the base 60 with colons between places. Underscores count for nothing.

* `Yaml.readWhole`: digits to a base, with blanks around them and a sign.
* `Yaml.readFloat`: a decimal, with blanks around it and a sign.
-/

namespace Tabletop

namespace Yaml

/-- A text without underscores. -/
def bare (t : Text) : Text := t.filter (· ≠ .char '_')

/-! ## Plain signs -/

/-- A code point as it counts in a number: blanks and digits of every script are those of ASCII. -/
def plainSign (c : CodePoint) : CodePoint :=
  if c.val < 0x7F then c
  else if c.isBlank then .char ' '
  else
    match c.decimalValue? with
    | some n => .char (Nat.digitChar n)
    | none => c

/-- The blanks around a number. -/
def isMargin (c : CodePoint) : Bool := c.within [(0x09, 0x0D), (0x20, 0x20)]

/-- A text as it counts in a number, behind the blanks in front of it. -/
def plainSigns (t : Text) : Text := (t.map plainSign).dropWhile isMargin

/-- A text behind a sign, and whether that is a minus sign. -/
def splitSign : Text → Bool × Text
  | .char '-' :: rest => (true, rest)
  | .char '+' :: rest => (false, rest)
  | t => (false, t)

/-! ## Digits to a base -/

/-- Whether a code point is a digit to a base of at most 16. -/
def isDigitTo (base : Nat) (c : CodePoint) : Bool := (Json.hexValue? c).any (· < base)

/-- The number that digits to a base say. -/
def fromDigits (base : Nat) (t : Text) : Nat :=
  t.foldl (fun n c => base * n + (Json.hexValue? c).getD 0) 0

/-- The letter behind a zero that names a base. -/
def baseLetter? : Nat → Option Char
  | 2 => some 'b'
  | 8 => some 'o'
  | 16 => some 'x'
  | _ => none

/-- A text behind a zero and the letter that names the base, if it begins with them. -/
def dropBase (base : Nat) (t : Text) : Text :=
  match t, baseLetter? base with
  | .char '0' :: c :: rest, some letter =>
    if c = .char letter ∨ c = .char letter.toUpper then rest else t
  | t, _ => t

/-- The whole number that digits to a base say. To the base ten there may not be too many of them,
whatever follows. -/
def readWhole (base : Nat) (t : Text) : Except Fault Int :=
  let (negative, rest) := splitSign (plainSigns t)
  let rest := dropBase base rest
  let digits := rest.takeWhile (isDigitTo base)
  let after := rest.dropWhile (isDigitTo base)
  if base = 10 ∧ Numeral.maxDigits < digits.length then
    .error (.numeral (.reading digits.length))
  else if digits.isEmpty ∨ !after.all isMargin then .error (.whole base t)
  else
    let n : Int := fromDigits base digits
    .ok (if negative then -n else n)

/-! ## Decimals -/

/-- The number that digits in front of a point, digits behind it and an exponent say. -/
def floatOf (negative : Bool) (whole fraction : Text) (exponent : Int) : Binary64 :=
  Binary64.ofDecimal negative (Numeral.value (whole ++ fraction)) (exponent - fraction.length)

/-- The exponent at the end of a number; there may be none. -/
def exponent? : Text → Option Int
  | [] => some 0
  | e :: rest =>
    let (negative, ds) := splitSign rest
    if (e = .char 'e' ∨ e = .char 'E') ∧ !ds.isEmpty ∧ ds.all (·.isDigit) then
      let n : Int := Numeral.value ds
      some (if negative then -n else n)
    else none

/-- The words for numbers that are not finite, in lower case. -/
def infinityWords : List Text := ["inf", "infinity"]

/-- The floating-point number without a sign that a text says. -/
def unsignedFloat? (negative : Bool) (t : Text) : Option Binary64 :=
  let word := t.lowercase
  if infinityWords.any (word = ·) then some (.infinite negative)
  else if word = Text.ofString "nan" then some .nan
  else
    let (whole, rest) := Numeral.splitDigits t
    let (fraction, rest) := match rest with
      | .char '.' :: rest => Numeral.splitDigits rest
      | rest => ([], rest)
    if whole.isEmpty ∧ fraction.isEmpty then none
    else (exponent? rest).map (floatOf negative whole fraction)

/-- The floating-point number that a text says. -/
def readFloat (t : Text) : Except Fault Binary64 :=
  let (negative, rest) := splitSign ((plainSigns t).reverse.dropWhile isMargin).reverse
  match unsignedFloat? negative rest with
  | some x => .ok x
  | none => .error (.float t)

/-! ## Base 60 -/

/-- A text cut at its colons. -/
def places : Text → List Text
  | [] => [[]]
  | c :: rest =>
    match places rest with
    | [] => [[c]]
    | part :: parts => if c = .char ':' then [] :: part :: parts else (c :: part) :: parts

/-- The sum of places to the base 60, the last place first. -/
def sumWhole (sum weight : Int) : List Int → Int
  | [] => sum
  | place :: rest => sumWhole (sum + place * weight) (60 * weight) rest

/-- The sum of places to the base 60, the last place first, each step rounded. -/
def sumFloat (sum : Binary64) (weight : Nat) : List Binary64 → Except Fault Binary64
  | [] => .ok sum
  | place :: rest =>
    match Binary64.ofNat? weight with
    | some x => sumFloat (sum.add (place.mul x)) (60 * weight) rest
    | none => .error .weight

/-! ## Numbers -/

/-- The whole number without a sign that a text says. A zero in front says that the base is 8. -/
def unsignedWhole (t : Text) : Except Fault Int :=
  match Text.after? "0b" t, Text.after? "0x" t with
  | some ds, _ => readWhole 2 ds
  | _, some ds => readWhole 16 ds
  | none, none =>
    match t with
    | [] => .error .emptyNumber
    | [.char '0'] => .ok 0
    | .char '0' :: _ => readWhole 8 t
    | _ =>
      if .char ':' ∈ t then do .ok (sumWhole 0 1 (← (places t).mapM (readWhole 10)).reverse)
      else readWhole 10 t

/-- The whole number that a text says. -/
def wholeNumber (t : Text) : Except Fault Int :=
  let (negative, rest) := splitSign (bare t)
  (unsignedWhole rest).map fun n => if negative then -n else n

/-- The word, in lower case, for what is no number. -/
def notNumber : Text := ".nan"

/-- Whether a text is the word for what is no number, maybe with a sign. -/
def isNotNumber (t : Text) : Bool := (splitSign (bare t).lowercase).2 = notNumber

/-- The floating-point number without a sign that a text, in lower case, says. -/
def unsignedFloat (t : Text) : Except Fault Binary64 :=
  if t = Text.ofString ".inf" then .ok (.infinite false)
  else if t = notNumber then .ok .nan
  else if .char ':' ∈ t then do
    sumFloat (.finite false 0 Binary64.minExponent) 1 (← (places t).mapM readFloat).reverse
  else readFloat t

/-- The floating-point number that a text says. -/
def floatNumber (t : Text) : Except Fault Binary64 :=
  let t := (bare t).lowercase
  if t.isEmpty then .error .emptyNumber
  else
    let (negative, rest) := splitSign t
    (unsignedFloat rest).map fun x => if negative then x.negate else x

end Yaml

end Tabletop
