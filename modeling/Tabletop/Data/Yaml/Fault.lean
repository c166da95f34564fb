import Tabletop.Data.Yaml.Timestamp

/-!
# What is wrong with YAML

Why a text of YAML gives no data (`Yaml.Fault`), and the wording of it. Most faults of its form are
told apart no further; numbers, truth values and points of time that are not written as such are.
-/

namespace Tabletop

namespace Yaml

/-- Why a text is refused. -/
inductive Fault where
  /-- The text is no YAML, or asks for data of a type that is not known. -/
  | malformed
  /-- A text between quotes has no end. -/
  | unfinished
  /-- The bytes are not text. -/
  | encoding
  /-- An escape says a number that no code point has. -/
  | codePoint (n : Nat)
  | numeral (fault : Numeral.Fault)
  /-- A text is no whole number to a base. -/
  | whole (base : Nat) (text : Text)
  /-- A text is no floating-point number. -/
  | float (text : Text)
  /-- A number has no signs at all. -/
  | emptyNumber
  /-- The places of a number weigh more than floating-point numbers can. -/
  | weight
  /-- A text, in lower case, is no truth value. -/
  | truth (text : Text)
  /-- A text is no point of time. -/
  | timestamp
  /-- An object stands in the place of a point of time. -/
  | timestampObject
  | time (fault : TimeFault)
  /-- Lists and objects are nested too deep. -/
  | tooDeep
  deriving DecidableEq

/-- The most code points of a text that is no whole number that are shown. -/
def shownLength : Nat := 200

/-- The wording of a fault. -/
def Fault.message : Fault → Text
  | malformed | unfinished => "not YAML"
  | encoding => "not UTF-8"
  | codePoint n =>
    if n < 2147483648 then "chr() arg not in range(0x110000)"
    else "Python int too large to convert to C int"
  | numeral fault => fault.message
  | whole base t =>
    Text.ofString "invalid literal for int() with base " ++ Numeral.digits base
      ++ Text.ofString ": " ++ t.quoted.take shownLength
  | float t => Text.ofString "could not convert string to float: " ++ t.quoted
  | emptyNumber => "string index out of range"
  | weight => "int too large to convert to float"
  | truth t => t.quoted
  | timestamp => "'NoneType' object has no attribute 'groupdict'"
  | timestampObject => "expected string or bytes-like object, got 'list'"
  | time fault => fault.message
  | tooDeep => "maximum recursion depth exceeded"

/-- A result, unless the text is malformed. -/
def wellFormed {α : Type} : Option α → Except Fault α
  | some a => .ok a
  | none => .error .malformed

end Yaml

end Tabletop
