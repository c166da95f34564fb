import Tabletop.Text.CodePoint

/-!
# Blank code points

What counts as blank in running text (`CodePoint.isBlank`): the white space of Unicode and the four
information separators. Texts are stripped of it (`Text.strip`) and cut into words at it
(`Text.words`, `Text.splitFirstWord?`).
-/

namespace Tabletop

/-- The blank code points, as closed ranges. -/
def blankRanges : List (Nat × Nat) :=
  [(0x09, 0x0D), (0x1C, 0x20), (0x85, 0x85), (0xA0, 0xA0), (0x1680, 0x1680), (0x2000, 0x200A),
    (0x2028, 0x2029), (0x202F, 0x202F), (0x205F, 0x205F), (0x3000, 0x3000)]

/-- Whether a code point is blank. -/
def CodePoint.isBlank (c : CodePoint) : Bool := c.within blankRanges

namespace Text

/-- A text without the blanks before it. -/
def stripStart (t : Text) : Text := t.dropWhile CodePoint.isBlank

/-- A text without the blanks after it. -/
def stripEnd (t : Text) : Text := (t.reverse.dropWhile CodePoint.isBlank).reverse

/-- A text without the blanks around it. -/
def strip (t : Text) : Text := t.stripStart.stripEnd

/-- Whether a text has no code point that shows. -/
def isBlank (t : Text) : Bool := t.all CodePoint.isBlank

/-- The first word of a text and what follows it, stripped; nothing if the text is blank. -/
def splitFirstWord? (t : Text) : Option (Text × Text) :=
  let body := t.stripStart
  if body.isEmpty then none
  else some (body.takeWhile (!·.isBlank), strip (body.dropWhile (!·.isBlank)))

/-- The words read so far and the one being read, in front of the rest of a text. -/
def wordsFrom (word : Text) : Text → List Text
  | [] => if word.isEmpty then [] else [word.reverse]
  | c :: rest =>
    if c.isBlank then
      if word.isEmpty then wordsFrom [] rest else word.reverse :: wordsFrom [] rest
    else wordsFrom (c :: word) rest

/-- The words of a text: its longest runs without a blank. -/
def words (t : Text) : List Text := wordsFrom [] t

end Text

end Tabletop
