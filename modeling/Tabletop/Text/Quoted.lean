import Tabletop.Text.Printable

/-!
# Quoted text

A text as it is shown inside a message (`Text.quoted`): in single quotes, or in double quotes when
it holds a single quote and no double one; what does not show is written as an escape. In
`Text.asciiOnly` so is everything else that is no ASCII. Bytes are shown in the same way, behind a
letter (`Text.ofBytes`).
-/

namespace Tabletop

namespace Text

/-- The hexadecimal digits of a number, in lower case. -/
def hexDigits (n : Nat) : Text := (Nat.toDigits 16 n).map .char

/-- The hexadecimal digits of a number, with zeros in front up to a width. -/
def paddedHex (width n : Nat) : Text :=
  let digits := hexDigits n
  List.replicate (width - digits.length) (.char '0') ++ digits

/-- The escape of a code point by its number. -/
def numberEscape (c : CodePoint) : Text :=
  if c.val < 0x100 then ofString "\\x" ++ paddedHex 2 c.val
  else if c.val < 0x10000 then ofString "\\u" ++ paddedHex 4 c.val
  else ofString "\\U" ++ paddedHex 8 c.val

/-- One code point inside quotes. -/
def quotedOne (quote : Char) (c : CodePoint) : Text :=
  if c = .char quote ∨ c = .char '\\' then [.char '\\', c]
  else if c = .char '\n' then ofString "\\n"
  else if c = .char '\r' then ofString "\\r"
  else if c = .char '\t' then ofString "\\t"
  else if c.isPrintable then [c]
  else numberEscape c

/-- The quote that a text is put in. -/
def quoteFor (t : Text) : Char := if .char '\'' ∈ t ∧ .char '"' ∉ t then '"' else '\''

/-- A text in quotes. -/
def quoted (t : Text) : Text :=
  .char (quoteFor t) :: t.flatMap (quotedOne (quoteFor t)) ++ [.char (quoteFor t)]

/-- A text with escapes for what is no ASCII. -/
def asciiOnly (t : Text) : Text := t.flatMap fun c => if c.val < 0x80 then [c] else numberEscape c

/-- Bytes as they are shown. -/
def ofBytes (bytes : List UInt8) : Text :=
  let codes : Text := bytes.map fun b => .char (Char.ofNat b.toNat)
  .char 'b' :: asciiOnly (quoted codes)

end Text

end Tabletop
