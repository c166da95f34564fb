import Tabletop.Data.Value

/-!
# Writing JSON

A value as JSON text (`Json.write`): one line, a space after each comma and colon, members in
order, and no code point beyond U+007E but as an escape. A name that is no text is written as the
text that JSON has for it, pairs and sets as lists, and data that is only shown as the text that
shows it. Writing fails only on a whole number whose numeral is too long.
-/

namespace Tabletop

namespace Json

/-- The escape of a number of four hexadecimal digits. -/
def unicodeEscape (n : Nat) : Text := .char '\\' :: .char 'u' :: Text.paddedHex 4 n

/-- A code point inside a quoted text; past U+FFFF it is written as a surrogate pair. -/
def escaped (c : CodePoint) : Text :=
  match c with
  | .char '"' => Text.ofString "\\\""
  | .char '\\' => Text.ofString "\\\\"
  | .char '\n' => Text.ofString "\\n"
  | .char '\r' => Text.ofString "\\r"
  | .char '\t' => Text.ofString "\\t"
  | .char '\x08' => Text.ofString "\\b"
  | .char '\x0c' => Text.ofString "\\f"
  | _ =>
    let n := c.val
    if 0x20 ≤ n ∧ n ≤ 0x7E then [c]
    else if n < 0x10000 then unicodeEscape n
    else
      unicodeEscape (0xD800 + (n - 0x10000) / 1024) ++ unicodeEscape (0xDC00 + (n - 0x10000) % 1024)

/-- A text in quotes. -/
def quote (t : Text) : Text := .char '"' :: t.flatMap escaped ++ [.char '"']

/-- A floating-point number. -/
def writeFloat (x : Binary64) : Text := x.text "Infinity" "NaN"

/-- The text of a name that is data. -/
def keyName : Value → Text
  | .null => "null"
  | .bool b => if b then "true" else "false"
  | .int n => Numeral.unlimited n
  | .float x => writeFloat x
  | .text t => t
  | .other _ shown _ _ => shown
  | _ => []

mutual

/-- A value as JSON. -/
def write : Value → Except Numeral.Fault Text
  | .null => .ok "null"
  | .bool b => .ok (if b then "true" else "false")
  | .int n => Numeral.write n
  | .float x => .ok (writeFloat x)
  | .text t => .ok (quote t)
  | .list items => do .ok (Value.bracketed '[' ']' (← writeItems items))
  | .object members => do .ok (Value.bracketed '\x7b' '\x7d' (← writeMembers members))
  | .map entries => do .ok (Value.bracketed '\x7b' '\x7d' (← writeEntries entries))
  | .pair first second => do
    let text ← write first
    let text' ← write second
    .ok (Value.bracketed '[' ']' [text, text'])
  | .set items => do .ok (Value.bracketed '[' ']' (← writeItems items))
  | .other _ shown _ _ => .ok (quote shown)

/-- The items of a list. -/
def writeItems : List Value → Except Numeral.Fault (List Text)
  | [] => .ok []
  | item :: rest => do
    let text ← write item
    let texts ← writeItems rest
    .ok (text :: texts)

/-- The members of an object. -/
def writeMembers : List (Text × Value) → Except Numeral.Fault (List Text)
  | [] => .ok []
  | (name, value) :: rest => do
    let text ← write value
    let texts ← writeMembers rest
    .ok ((quote name ++ Text.ofString ": " ++ text) :: texts)

/-- The entries of an object whose names are data. -/
def writeEntries : List (Value × Value) → Except Numeral.Fault (List Text)
  | [] => .ok []
  | (key, value) :: rest => do
    let text ← write value
    let texts ← writeEntries rest
    .ok ((quote (keyName key) ++ Text.ofString ": " ++ text) :: texts)

end

end Json

end Tabletop
