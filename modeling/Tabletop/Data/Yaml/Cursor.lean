import Tabletop.Text.CodePoint

/-!
# Places in a YAML text

A text is read from a place in it (`Yaml.Cursor`): what is left of the text, and where in the text
and in its line that is. The marks of a line's end are a line feed and the line and paragraph
separators; other ends are read as line feeds.

* `Yaml.Cursor.skip`: the place some code points on.
* `Yaml.isPrintable`: the code points that may occur at all.
-/

namespace Tabletop

namespace Yaml

/-- Whether a code point may occur in a text. -/
def isPrintable (c : CodePoint) : Bool :=
  c.within [(0x09, 0x0A), (0x0D, 0x0D), (0x20, 0x7E), (0x85, 0x85), (0xA0, 0xD7FF), (0xE000, 0xFFFD),
    (0x10000, 0x10FFFF)]

/-- Whether a code point ends a line. -/
def isBreak (c : CodePoint) : Bool :=
  c = .char '\n' || c = .char '\u2028' || c = .char '\u2029'

/-- Whether a code point is a blank or a tab. -/
def isGap (c : CodePoint) : Bool := c = .char ' ' || c = .char '\t'

/-- The byte order mark, which takes no column. -/
def byteOrderMark : CodePoint := .char '\uFEFF'

/-- Whether a text is at the end of a line. -/
def atLineEnd : Text → Bool
  | [] => true
  | c :: _ => isBreak c

/-- Whether a text is at the end of a word. -/
def atWordEnd : Text → Bool
  | [] => true
  | c :: _ => isBreak c || isGap c

/-- Whether a text is at the end of a word that no tab may follow. -/
def atBlankOrLineEnd : Text → Bool
  | [] => true
  | c :: _ => isBreak c || c = .char ' '

/-- Whether a text, at the start of a line, is at a mark between documents. -/
def atDocumentMark (t : Text) : Bool :=
  ((Text.after? "---" t).elim false atWordEnd) || ((Text.after? "..." t).elim false atWordEnd)

/-- A text without the comment it may begin with. -/
def dropComment : Text → Text
  | .char '#' :: rest => rest.dropWhile (!isBreak ·)
  | t => t

/-- What follows the rest of a line that holds nothing but blanks and a comment; nothing if it
holds more. -/
def afterIdleLine? (t : Text) : Option Text :=
  match dropComment (t.dropWhile (· = .char ' ')) with
  | [] => some []
  | c :: rest => if isBreak c then some rest else none

/-- A place in a text. -/
structure Cursor where
  /-- The text from here on. -/
  rest : Text
  /-- How many code points that is. -/
  left : Nat := rest.length
  /-- How many code points are before. -/
  index : Nat := 0
  /-- How many lines are before. -/
  line : Nat := 0
  /-- How many code points of the line are before. -/
  column : Nat := 0

namespace Cursor

/-- The next place. -/
def next (k : Cursor) : Cursor :=
  match k.rest with
  | [] => k
  | c :: rest =>
    let index := k.index + 1
    let left := k.left - 1
    if isBreak c then { rest, left, index, line := k.line + 1, column := 0 }
    else
      let column := if c = byteOrderMark then k.column else k.column + 1
      { rest, left, index, line := k.line, column }

/-- The place some code points on. -/
def skip (k : Cursor) : Nat → Cursor
  | 0 => k
  | n + 1 => k.next.skip n

/-- The place at which some rest of the text begins. -/
def upTo (k : Cursor) (rest : Text) : Cursor := k.skip (k.left - rest.length)

end Cursor

end Yaml

end Tabletop
