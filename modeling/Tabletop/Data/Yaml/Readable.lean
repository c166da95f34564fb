import Tabletop.Data.Yaml.Cursor
import Tabletop.Data.Yaml.Fault
import Tabletop.Text.Utf8

/-!
# Text that is read in pieces

A YAML text as far as it can be read (`Yaml.Readable`), and the fault that is met there if it goes
on. The text is fetched and checked in pieces of 4096 code points, and the first two of them at
once, so that a fault in a piece counts from the start of the piece on.

* `Yaml.Readable.checked`: a text up to the piece with the first code point that may not occur.
* `Yaml.Readable.ofBytes`: the text of bytes, up to the piece that cannot be decoded.
* `Yaml.Intake`: bytes on their way to text. They are taken in parts as well, of 8192 bytes, or of
  more if the part before suggests that so many are needed to fill the piece.
-/

namespace Tabletop

namespace Yaml

/-- A text in which every line ends with a line feed or with a line or paragraph separator. -/
def unifyBreaks : Text → Text
  | [] => []
  | .char '\r' :: .char '\n' :: rest => .char '\n' :: unifyBreaks rest
  | c :: rest =>
    (if c = .char '\r' ∨ c = .char '\u0085' then .char '\n' else c) :: unifyBreaks rest

/-! ## Pieces -/

/-- How many code points a piece of text has. -/
def pieceLength : Nat := 4096

/-- Where the piece with a code point begins. The first two pieces are one. -/
def pieceStart (index : Nat) : Nat :=
  if index < 2 * pieceLength then 0 else index - index % pieceLength

/-- A text as far as it can be read. -/
structure Readable where
  text : Text
  /-- What is wrong with the piece that follows; nothing follows if there is nothing wrong. -/
  stop : Option Fault

/-- A text up to the piece with its first code point that may not occur, or else up to a fault, if
there is one behind it. -/
def Readable.checked (t : Text) (stop : Option Fault) : Readable :=
  let occurring := t.takeWhile isPrintable
  if occurring.length = t.length then { text := t, stop }
  else { text := t.take (pieceStart occurring.length), stop := some .malformed }

/-! ## Bytes -/

/-- Where the reading of bytes stands. -/
structure Intake where
  /-- The bytes to come. -/
  bytes : List UInt8
  /-- The start of a character that the bytes so far end with. -/
  pending : Option Utf8.Pending := none
  /-- A carriage return that is no text before it is known what follows it. -/
  held : Text := []
  /-- How many code points the text so far has. -/
  count : Nat := 0
  /-- The bytes of the last part, and the code points that they gave. -/
  last : Nat × Nat := (0, 0)

namespace Intake

/-- The least number of bytes that are taken at once, as long as there are so many. -/
def partLength : Nat := 8192

/-- How many bytes are taken next. -/
def wanted (s : Intake) : Nat :=
  let missing := pieceLength - s.count % pieceLength
  max partLength (s.last.1 * missing / s.last.2)

/-- The text of a part of the bytes that is decoded, and the reading behind it. -/
def taken (s : Intake) (part : Text) (pending : Option Utf8.Pending) : Text × Intake :=
  let part := s.held ++ part
  let held := if part.getLast? = some (.char '\r') then [.char '\r'] else []
  let text := unifyBreaks (part.take (part.length - held.length))
  (text, {
    bytes := s.bytes.drop s.wanted, pending, held, count := s.count + text.length
    last := (min s.wanted s.bytes.length, text.length) })

/-- The text of the bytes to come, and where the piece begins that cannot be decoded, if there is
one. -/
def text (s : Intake) : Text × Option Nat :=
  if _h : s.bytes = [] then
    if s.pending.isSome then ([], some (pieceStart s.count)) else (unifyBreaks s.held, none)
  else
    match Utf8.decodePart s.pending (s.bytes.take s.wanted) with
    | none => ([], some (pieceStart s.count))
    | some (part, pending) =>
      let (later, cut) := text (s.taken part pending).2
      ((s.taken part pending).1 ++ later, cut)
termination_by s.bytes.length
decreasing_by
  have hw : 0 < s.wanted := Nat.lt_of_lt_of_le (by decide) (Nat.le_max_left partLength _)
  have hb : 0 < s.bytes.length := List.length_pos_iff.2 _h
  simp only [taken, List.length_drop]
  omega

end Intake

/-- The text of some bytes. -/
def Readable.ofBytes (bytes : List UInt8) : Readable :=
  match Intake.text { bytes } with
  | (t, none) => .checked t none
  | (t, some cut) => .checked (t.take cut) (some .encoding)

end Yaml

end Tabletop
