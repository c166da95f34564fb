import Tabletop.Data.Json.Token
import Tabletop.Data.Yaml.Fault

/-!
# Scalars of YAML

The texts of a YAML document, each read from the front of what is left of it: between quotes
(`Yaml.quotedScalar`), as a block of lines (`Yaml.blockScalar?`), and plain
(`Yaml.plainScalar`). In quotes and in plain text a single line's end counts as a blank; of several
the first one counts for nothing.
-/

namespace Tabletop

namespace Yaml

/-- A line's end, and those that follow it, as they count in running text: last one first. -/
def foldedBreaks (first : CodePoint) (laterReversed : Text) : Text :=
  if first = .char '\n' then
    if laterReversed.isEmpty then [.char ' '] else laterReversed
  else laterReversed ++ [first]

/-! ## Between quotes -/

/-- Where the reading of a quoted text stands. -/
inductive Quoting where
  | within
  /-- Behind a single quote that may be the last one. -/
  | closing
  | escape
  /-- In a numbered escape: the digits to come, and the number so far. -/
  | code (left value : Nat)
  /-- In blanks, last one first. -/
  | gap (run : Text)
  /-- Behind a line's end, unless it was escaped, and behind more of them, last one first. -/
  | broken (first : Option CodePoint) (later : Text)

/-- What an escaped letter stands for. -/
def escapes : List (Char × Char) :=
  [('0', '\x00'), ('a', '\x07'), ('b', '\x08'), ('t', '\t'), ('\t', '\t'), ('n', '\n'),
    ('v', '\x0b'), ('f', '\x0c'), ('r', '\r'), ('e', '\x1b'), (' ', ' '), ('"', '"'), ('/', '/'),
    ('\\', '\\'), ('N', '\u0085'), ('_', '\u00a0'), ('L', '\u2028'), ('P', '\u2029')]

/-- How many digits follow an escaped letter that asks for a number. -/
def codeDigits : List (Char × Nat) := [('x', 2), ('u', 4), ('U', 8)]

/-- The blanks between two parts of a quoted text, last one first. -/
def Quoting.pending : Quoting → Text
  | gap run => run
  | broken none later => later
  | broken (some first) later => foldedBreaks first later
  | _ => []

/-- A quoted text's next position, behind a code point that is no part of blanks, and what has been
read with it; nothing if the text ends with the code point. -/
def Quoting.after (double : Bool) (read : Text) (c : CodePoint) : Option (Quoting × Text) :=
  if double then
    if c = .char '"' then none
    else if c = .char '\\' then some (.escape, read)
    else some (.within, c :: read)
  else if c = .char '\'' then some (.closing, read)
  else some (.within, c :: read)

/-- An escaped code point. -/
def Quoting.escaped? (read : Text) (c : CodePoint) : Option (Quoting × Text) :=
  match c with
  | .surrogate _ => none
  | .char c =>
    if isBreak (.char c) then some (.broken none [], read)
    else
      match escapes.find? fun e => e.1 = c with
      | some e => some (.within, .char e.2 :: read)
      | none => (codeDigits.find? fun e => e.1 = c).map fun e => (.code e.2 0, read)

/-- The text between quotes, from some position on, and what follows it. What has been read is given
last one first. -/
def quotedFrom (double : Bool) : Quoting → Text → Text → Except Fault (Text × Text)
  | .closing, read, [] => .ok (read.reverse, [])
  | _, _, [] => .error .unfinished
  | .closing, read, c :: rest =>
    if c = .char '\'' then quotedFrom double .within (c :: read) rest
    else .ok (read.reverse, c :: rest)
  | .escape, read, c :: rest => do
    let (position, read) ← wellFormed (Quoting.escaped? read c)
    if isBreak c ∧ atDocumentMark rest then .error .malformed
    else quotedFrom double position read rest
  | .code left value, read, c :: rest => do
    let digit ← wellFormed (Json.hexValue? c)
    let value := 16 * value + digit
    if left ≤ 1 then
      match CodePoint.ofNat? value with
      | some c => quotedFrom double .within (c :: read) rest
      | none => .error (.codePoint value)
    else quotedFrom double (.code (left - 1) value) read rest
  | position, read, c :: rest =>
    if isBreak c then
      if atDocumentMark rest then .error .malformed
      else
        match position with
        | .broken first later => quotedFrom double (.broken first (c :: later)) read rest
        | _ => quotedFrom double (.broken (some c) []) read rest
    else
      match position, isGap c with
      | .broken first later, true => quotedFrom double (.broken first later) read rest
      | .gap run, true => quotedFrom double (.gap (c :: run)) read rest
      | position, true => quotedFrom double (.gap [c]) (position.pending ++ read) rest
      | position, false =>
        match Quoting.after double (position.pending ++ read) c with
        | some (position, read) => quotedFrom double position read rest
        | none => .ok ((position.pending ++ read).reverse, rest)

/-- The text behind an opening quote, and what follows the closing one. -/
def quotedScalar (double : Bool) (t : Text) : Except Fault (Text × Text) :=
  quotedFrom double .within [] t

/-! ## Blocks of lines -/

/-- What becomes of the line's ends behind a block. -/
inductive Chomping where
  /-- One is kept. -/
  | clip
  /-- None is kept. -/
  | strip
  /-- All are kept. -/
  | keep
  deriving DecidableEq

/-- The sign that says what becomes of them. -/
def Chomping.ofSign? : CodePoint → Option Chomping
  | .char '+' => some .keep
  | .char '-' => some .strip
  | _ => none

/-- The indentation that a digit says. -/
def indentDigit? (c : CodePoint) : Option Nat :=
  if c.isDigit ∧ c.digitValue ≠ 0 then some c.digitValue else none

/-- The signs behind the mark of a block, in either order. -/
def blockSigns (t : Text) : Chomping × Option Nat × Text :=
  match t with
  | c :: rest =>
    match Chomping.ofSign? c with
    | some chomping =>
      match rest with
      | d :: rest' =>
        match indentDigit? d with
        | some n => (chomping, some n, rest')
        | none => (chomping, none, rest)
      | [] => (chomping, none, rest)
    | none =>
      match indentDigit? c with
      | some n =>
        match rest with
        | d :: rest' =>
          match Chomping.ofSign? d with
          | some chomping => (chomping, some n, rest')
          | none => (.clip, some n, rest)
        | [] => (.clip, some n, rest)
      | none => (.clip, none, t)
  | [] => (.clip, none, t)

/-- Empty lines, last one first, up to the indentation of the first line that is none. -/
structure Opening where
  breaks : Text := []
  /-- The blanks in front of what follows. -/
  column : Nat := 0
  /-- The most blanks in any of the lines. -/
  widest : Nat := 0
  rest : Text

/-- The empty lines at the start of a block, whatever its indentation. -/
def openingFrom (breaks : Text) (column widest : Nat) : Text → Opening
  | [] => { breaks, column, widest, rest := [] }
  | c :: rest =>
    if c = .char ' ' then openingFrom breaks (column + 1) (max widest (column + 1)) rest
    else if isBreak c then openingFrom (c :: breaks) 0 widest rest
    else { breaks, column, widest, rest := c :: rest }

/-- The empty lines in front of a line with a known indentation. -/
def indented (indent : Nat) (breaks : Text) (column : Nat) : Text → Opening
  | [] => { breaks, column, rest := [] }
  | c :: rest =>
    if c = .char ' ' ∧ column < indent then indented indent breaks (column + 1) rest
    else if isBreak c then indented indent (c :: breaks) 0 rest
    else { breaks, column, rest := c :: rest }

/-- A block as it has been read. -/
structure Block where
  /-- The lines, last code point first, without the last line's end. -/
  read : Text
  /-- The last line's end. -/
  last : Text
  /-- The ends of the empty lines behind it, last one first. -/
  breaks : Text
  rest : Text

/-- Whether a text is at a code point that is neither blank nor tab. -/
def atShown : Text → Bool
  | [] => true
  | c :: _ => !isGap c

/-- The lines of a block, in front of the first of which the place is. -/
def blockLines (folded : Bool) (indent : Nat) (read : Text) (o : Opening) : Block :=
  if o.column = indent ∧ o.rest ≠ [] then
    let line := o.rest.takeWhile (!isBreak ·)
    let read := line.reverse ++ o.breaks ++ read
    match o.rest.dropWhile (!isBreak ·) with
    | [] => { read, last := [], breaks := [], rest := [] }
    | c :: after =>
      let next := indented indent [] 0 after
      if next.rest.length < o.rest.length then
        if next.column = indent ∧ next.rest ≠ [] then
          if folded ∧ c = .char '\n' ∧ atShown o.rest ∧ atShown next.rest then
            let gap := if next.breaks.isEmpty then [.char ' '] else []
            blockLines folded indent (gap ++ read) next
          else blockLines folded indent (c :: read) next
        else { read, last := [c], breaks := next.breaks, rest := next.rest }
      else { read, last := [c], breaks := next.breaks, rest := next.rest }
  else { read, last := [], breaks := o.breaks, rest := o.rest }
termination_by o.rest.length

/-- The text of a block with what is kept of the ends behind it. -/
def Block.text (b : Block) (chomping : Chomping) : Text :=
  match chomping with
  | .strip => b.read.reverse
  | .clip => (b.last ++ b.read).reverse
  | .keep => (b.breaks ++ b.last ++ b.read).reverse

/-- The text of a block behind its mark, and what follows it. Its lines are indented at least by
some blanks. -/
def blockScalar? (folded : Bool) (least : Nat) (t : Text) : Option (Text × Text) := do
  let (chomping, indent, rest) := blockSigns t
  if atBlankOrLineEnd rest then
    let body ← afterIdleLine? rest
    let block := match indent with
      | some n =>
        let indent := least + n - 1
        blockLines folded indent [] (indented indent [] 0 body)
      | none =>
        let o := openingFrom [] 0 0 body
        blockLines folded (max least o.widest) [] o
    some (block.text chomping, block.rest)
  else none

/-! ## Plain text -/

/-- What ends a plain text inside brackets. -/
def isFlowMark (c : CodePoint) : Bool := c ∈ Text.ofString ",[]\x7b\x7d"

/-- Whether a plain text ends at the front of a text. -/
def endsPlain (flow : Bool) : Text → Bool
  | [] => true
  | c :: rest =>
    isBreak c || isGap c
      || (c = .char ':' && (atWordEnd rest || (flow && rest.head?.any isFlowMark)))
      || (flow && (isFlowMark c || c = .char '?'))

/-- The part of a plain text up to the next blank, and what follows it. -/
def plainPart (flow : Bool) : Text → Text × Text
  | [] => ([], [])
  | c :: rest =>
    if endsPlain flow (c :: rest) then ([], c :: rest)
    else
      let (part, after) := plainPart flow rest
      (c :: part, after)

/-- Line's ends and blanks behind a line's end, up to the next code point that is neither: the ends,
last one first, the blanks in front of the code point, and what is left; nothing is left to be read
on if there is a mark between documents. -/
def plainBreaks (breaks : Text) (column : Nat) : Text → Bool × Text × Nat × Text
  | [] => (false, breaks, column, [])
  | c :: rest =>
    if c = .char ' ' then plainBreaks breaks (column + 1) rest
    else if isBreak c then
      if atDocumentMark rest then (true, c :: breaks, 0, rest)
      else plainBreaks (c :: breaks) 0 rest
    else (false, breaks, column, c :: rest)

/-- What stands between two parts of a plain text. -/
structure PlainGap where
  /-- As what it counts, last one first; nothing if no part can follow. -/
  text : Text
  /-- Whether a line ends in it. -/
  broken : Bool
  /-- The blanks in front of what follows on a line of its own. -/
  column : Nat
  rest : Text

/-- What stands between a part of a plain text and the next one. -/
def plainGap (t : Text) : PlainGap :=
  let gap := t.takeWhile (· = .char ' ')
  match t.dropWhile (· = .char ' ') with
  | [] => { text := gap, broken := false, column := 0, rest := [] }
  | c :: rest =>
    if isBreak c then
      if atDocumentMark rest then { text := [], broken := true, column := 0, rest }
      else
        let (marked, breaks, column, rest) := plainBreaks [] 0 rest
        { text := if marked then [] else foldedBreaks c breaks, broken := true, column, rest }
    else { text := gap, broken := false, column := 0, rest := c :: rest }

/-- A plain text: what it says, whether a line ended behind it, and what follows. -/
structure Plain where
  text : Text
  broken : Bool
  rest : Text

/-- The parts of a plain text, behind a gap, and those read before, last one first. -/
def plainFrom (flow : Bool) (least : Nat) (read : Text) (gap : PlainGap) : Plain :=
  let (part, after) := plainPart flow gap.rest
  if part.isEmpty ∨ gap.rest.head? = some (.char '#') then
    { text := read.reverse, broken := gap.broken, rest := gap.rest }
  else
    let read := part.reverse ++ gap.text ++ read
    let next := plainGap after
    if next.text.isEmpty ∨ next.rest.head? = some (.char '#')
        ∨ (!flow ∧ next.broken ∧ next.column < least) then
      { text := read.reverse, broken := next.broken, rest := next.rest }
    else if next.rest.length < gap.rest.length then plainFrom flow least read next
    else { text := read.reverse, broken := next.broken, rest := next.rest }
termination_by gap.rest.length

/-- A plain text. Outside brackets its later lines are indented at least by some blanks. -/
def plainScalar (flow : Bool) (least : Nat) (t : Text) : Plain :=
  plainFrom flow least [] { text := [], broken := false, column := 0, rest := t }

end Yaml

end Tabletop
