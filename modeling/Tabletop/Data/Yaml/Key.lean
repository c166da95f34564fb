import Tabletop.Data.Yaml.Timestamp

/-!
# Keys of YAML

Scalars as data that can be the keys of a map (`Yaml.Key`), each with what it is told apart by
(`Yaml.Identity`). Keys are the same if that is equal: numbers of the same value, also when one of
them is a truth value, and points of time that are the same instant, also at different places.

* `Yaml.setEntry`: entries with one of them set.
-/

namespace Tabletop

namespace Yaml

/-- What a key is told apart by. -/
inductive Identity where
  | null
  | text (t : Text)
  | bytes (bytes : List UInt8)
  /-- A finite number in lowest terms. -/
  | number (numerator : Int) (denominator : Nat)
  | infinity (negative : Bool)
  /-- What is no number: the one that all share, or that of a node. -/
  | nan (node : Option Nat)
  /-- A day, by its number. -/
  | day (days : Nat)
  /-- A time of which the place is not said. -/
  | clock (microseconds : Int)
  /-- A time of which the place is said, as it is in universal time. -/
  | instant (microseconds : Int)
  deriving DecidableEq

/-- A scalar as data. -/
structure Key where
  value : Value
  identity : Identity

namespace Key

/-- A quotient in lowest terms. -/
def reduced (numerator : Int) (denominator : Nat) : Identity :=
  let divisor := Nat.gcd numerator.natAbs denominator
  .number (numerator / divisor) (denominator / divisor)

/-- Nothing. -/
def null : Key := { value := .null, identity := .null }

/-- A truth value, which counts as one or zero. -/
def ofBool (b : Bool) : Key :=
  { value := .bool b, identity := .number (if b then 1 else 0) 1 }

/-- A whole number. -/
def ofInt (n : Int) : Key := { value := .int n, identity := .number n 1 }

/-- A floating-point number. One that is no number is that of a node, if one is given. -/
def ofFloat (node : Option Nat) (x : Binary64) : Key :=
  { value := .float x
    identity := match x with
      | .finite negative significand exponent =>
        let (numerator, denominator) := Binary64.quotient negative significand exponent
        reduced numerator denominator
      | .infinite negative => .infinity negative
      | .nan => .nan node }

/-- A text. -/
def ofText (t : Text) : Key := { value := .text t, identity := .text t }

/-- Bytes. -/
def ofBytes (bytes : List UInt8) : Key :=
  let shown := Text.ofBytes bytes
  { value := .other .bytes shown shown !bytes.isEmpty, identity := .bytes bytes }

/-- A point of time. -/
def ofTimestamp (s : Timestamp) : Key :=
  { value := s.toValue
    identity := match s.clock with
      | none => .day s.days
      | some clock =>
        match clock.offset with
        | none => .clock s.microseconds
        | some minutes => .instant (s.microseconds - 60000000 * minutes) }

end Key

/-- Entries with one of them set: with the key that is there already in its place, at the end
otherwise. -/
def setEntry (key : Key) (value : Nat) : List (Key × Nat) → List (Key × Nat)
  | [] => [(key, value)]
  | entry :: rest =>
    if entry.1.identity = key.identity then (entry.1, value) :: rest
    else entry :: setEntry key value rest

end Yaml

end Tabletop
