import Tabletop.Text.CodePoint

/-!
# UTF-8

Bytes to text (`Utf8.decode`), refused as a whole when some part is not well formed: a stray or
missing continuation byte, an overlong form, a surrogate, a number past U+10FFFF. Bytes that come in
parts are decoded part by part (`Utf8.decodePart`). A text is written (`Utf8.encode`) with a question
mark for each lone surrogate.
-/

namespace Tabletop

namespace Utf8

/-- A character whose first bytes have been read: how many are still to come, the value so far, and
the range of the next one. -/
structure Pending where
  more : Nat
  value : Nat
  low : Nat := 0x80
  high : Nat := 0xBF

/-- What the first byte of a character of several bytes promises. -/
def Pending.ofLead? (b : Nat) : Option Pending :=
  if 0xC2 ≤ b ∧ b ≤ 0xDF then some { more := 1, value := b - 0xC0 }
  else if b = 0xE0 then some { more := 2, value := 0, low := 0xA0 }
  else if b = 0xED then some { more := 2, value := 0xD, high := 0x9F }
  else if 0xE1 ≤ b ∧ b ≤ 0xEF then some { more := 2, value := b - 0xE0 }
  else if b = 0xF0 then some { more := 3, value := 0, low := 0x90 }
  else if 0xF1 ≤ b ∧ b ≤ 0xF3 then some { more := 3, value := b - 0xF0 }
  else if b = 0xF4 then some { more := 3, value := 4, high := 0x8F }
  else none

/-- The text of some bytes behind the start of a character, if there is one, and the start of a
character that they end with; nothing if they are not well formed so far. -/
def decodePart : Option Pending → List UInt8 → Option (Text × Option Pending)
  | p, [] => some ([], p)
  | none, b :: rest =>
    if b.toNat < 0x80 then
      (decodePart none rest).map (Prod.map (.char (Char.ofNat b.toNat) :: ·) id)
    else
      match Pending.ofLead? b.toNat with
      | none => none
      | some p => decodePart (some p) rest
  | some p, b :: rest =>
    if p.low ≤ b.toNat ∧ b.toNat ≤ p.high then
      let value := p.value * 64 + (b.toNat - 0x80)
      if p.more ≤ 1 then (decodePart none rest).map (Prod.map (.char (Char.ofNat value) :: ·) id)
      else decodePart (some { more := p.more - 1, value }) rest
    else none

/-- The text of some bytes, if they are well formed. -/
def decode (bytes : List UInt8) : Option Text :=
  match decodePart none bytes with
  | some (t, none) => some t
  | _ => none

/-- The bytes of a text. -/
def encode (t : Text) : List UInt8 := (t.toStringWith '?').toUTF8.toList

end Utf8

end Tabletop
