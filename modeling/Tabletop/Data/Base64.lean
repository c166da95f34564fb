import Tabletop.Text.CodePoint

/-!
# Base 64

Bytes written as letters, digits and two more signs, of which each says six bits
(`Base64.decode?`). Other ASCII signs between them count for nothing. Four of them say three bytes;
the last ones of a text are filled up to four with equals signs, behind which nothing is read.
-/

namespace Tabletop

namespace Base64

/-- The six bits that a sign says. -/
def sextet? : CodePoint → Option Nat
  | .surrogate _ => none
  | .char c =>
    if 'A' ≤ c ∧ c ≤ 'Z' then some (c.toNat - 'A'.toNat)
    else if 'a' ≤ c ∧ c ≤ 'z' then some (c.toNat - 'a'.toNat + 26)
    else if '0' ≤ c ∧ c ≤ '9' then some (c.toNat - '0'.toNat + 52)
    else if c = '+' then some 62
    else if c = '/' then some 63
    else none

/-- Where the reading stands. -/
structure State where
  /-- The signs of the current four. -/
  count : Nat := 0
  /-- The bits of them that no byte has yet. -/
  bits : Nat := 0
  /-- The equals signs since the last sign. -/
  fill : Nat := 0
  /-- The bytes so far, last one first. -/
  bytes : List UInt8 := []

/-- The state behind one more sign. -/
def State.take (s : State) (v : Nat) : State :=
  match s.count with
  | 0 => { count := 1, bits := v, bytes := s.bytes }
  | 1 => { count := 2, bits := v % 16, bytes := UInt8.ofNat (4 * s.bits + v / 16) :: s.bytes }
  | 2 => { count := 3, bits := v % 4, bytes := UInt8.ofNat (16 * s.bits + v / 4) :: s.bytes }
  | _ => { bytes := UInt8.ofNat (64 * s.bits + v) :: s.bytes }

/-- The bytes that a text says, from some state on. -/
def decodeFrom (s : State) : Text → Option (List UInt8)
  | [] => if s.count = 0 then some s.bytes.reverse else none
  | c :: rest =>
    if c = .char '=' then
      if s.count < 2 then decodeFrom s rest
      else if 4 ≤ s.count + s.fill + 1 then some s.bytes.reverse
      else decodeFrom { s with fill := s.fill + 1 } rest
    else
      match sextet? c with
      | some v => decodeFrom (s.take v) rest
      | none => decodeFrom s rest

/-- The bytes that a text says; nothing if it is no ASCII or ends within a byte. -/
def decode? (t : Text) : Option (List UInt8) :=
  if t.all (·.val < 0x80) then decodeFrom {} t else none

end Base64

end Tabletop
