import Tabletop.Numeral
import Tabletop.Text.Alphanumeric
import Tabletop.Text.Printable

/-!
# Formats of log lines

A format is a text with fields such as `%(levelname)-8s` (`Format.Field`): the name of a field in
parentheses, then flags, a width, a precision and the letter of a conversion. Two percent signs
stand for one.

* `Format.holdsField`: whether a format has a field at all; one without is refused.
* `Format.pieces?`: a format as plain code points and fields. Not all that looks like a field is
  one, so this may fail for a format that is not refused.
-/

namespace Tabletop

namespace Format

/-- The flags. -/
def isFlag (c : CodePoint) : Bool := c ∈ Text.ofString "#0+- "

/-! ## What looks like a field -/

/-- The parts of a field's name. -/
def isNamePart (c : CodePoint) : Bool := c.isAlphanumeric || c = .char '_'

/-- Whether a code point looks like the letter of a conversion, in either case. -/
def isConversion (c : CodePoint) : Bool :=
  c ∈ Text.ofString "diouxefgcrsaDIOUXEFGCRSA%\u0130\u0131\u017f"

/-- What follows a star or decimal digits, if there are any. -/
def dropAmount (t : Text) : Text :=
  match t with
  | .char '*' :: rest => rest
  | t => t.dropWhile CodePoint.isDecimal

/-- Whether a text begins with what looks like a field. -/
def startsWithField (t : Text) : Bool :=
  match Text.after? "%(" t with
  | none => false
  | some named =>
    match named.takeWhile isNamePart, named.dropWhile isNamePart with
    | _ :: _, .char ')' :: rest =>
      match dropAmount (rest.dropWhile isFlag) with
      | .char '.' :: rest =>
        let behind := dropAmount rest
        behind.length < rest.length && behind.head?.any isConversion
      | rest => rest.head?.any isConversion
    | _, _ => false

/-- Whether a format has what looks like a field. -/
def holdsField : Text → Bool
  | [] => false
  | c :: rest => startsWithField (c :: rest) || holdsField rest

/-! ## Fields -/

/-- A field: what is shown in it, and how. -/
structure Field where
  /-- The name of what is shown; without one it is everything that is known. -/
  name : Option Text
  flags : Text
  width : Option Nat
  precision : Option Nat
  conversion : CodePoint

/-- The greatest width. -/
def maxWidth : Nat := 9223372036854775807

/-- The greatest precision. -/
def maxPrecision : Nat := 2147483647

/-- A number in front of a text, if there is one, which must not be too great. -/
def splitNumber? (limit : Nat) (t : Text) : Option (Option Nat × Text) :=
  let (ds, rest) := Numeral.splitDigits t
  let n := Numeral.value ds
  if ds.isEmpty then some (none, t) else if n ≤ limit then some (some n, rest) else none

/-- A name behind its opening parenthesis, and what follows the closing one. Parentheses in it are
balanced. -/
def splitName? (depth : Nat) (t : Text) : Option (Text × Text) :=
  match t with
  | [] => none
  | .char ')' :: rest =>
    match depth with
    | 0 => some ([], rest)
    | depth + 1 => (splitName? depth rest).map fun (name, after) => (.char ')' :: name, after)
  | .char '(' :: rest =>
    (splitName? (depth + 1) rest).map fun (name, after) => (.char '(' :: name, after)
  | c :: rest => (splitName? depth rest).map fun (name, after) => (c :: name, after)

/-- What follows a letter that says how long a number is, if there is one. -/
def dropLength (t : Text) : Text :=
  match t with
  | .char 'h' :: rest | .char 'l' :: rest | .char 'L' :: rest => rest
  | t => t

/-- A field behind its percent sign and its name, and what follows it. -/
def Field.readBehind? (name : Option Text) (t : Text) : Option (Field × Text) := do
  let flags := t.takeWhile isFlag
  let (width, rest) ← splitNumber? maxWidth (t.dropWhile isFlag)
  let (precision, rest) ←
    match rest with
    | .char '.' :: rest =>
      (splitNumber? maxPrecision rest).map fun (n, after) => (some (n.getD 0), after)
    | rest => some (none, rest)
  match dropLength rest with
  | [] => none
  | conversion :: rest => some ({ name, flags, width, precision, conversion }, rest)

/-- A field behind its percent sign, and what follows it. -/
def Field.read? (t : Text) : Option (Field × Text) :=
  match t with
  | .char '(' :: rest => do
    let (name, rest) ← splitName? 0 rest
    readBehind? (some name) rest
  | t => readBehind? none t

/-- A part of a format. -/
inductive Piece where
  | plain (c : CodePoint)
  | field (f : Field)

/-- The pieces of a format. -/
def pieces? (t : Text) : Option (List Piece) :=
  match t with
  | [] => some []
  | .char '%' :: .char '%' :: rest => (pieces? rest).map (.plain (.char '%') :: ·)
  | .char '%' :: behind => do
    let (f, rest) ← Field.read? behind
    if rest.length ≤ behind.length then
      let pieces ← pieces? rest
      some (.field f :: pieces)
    else none
  | c :: rest => (pieces? rest).map (.plain c :: ·)
termination_by t.length

end Format

end Tabletop
