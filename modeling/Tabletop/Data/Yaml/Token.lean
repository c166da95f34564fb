import Tabletop.Data.Yaml.Readable
import Tabletop.Data.Yaml.Scalar

/-!
# Tokens of YAML

The marks and scalars of a YAML text, in order, up to the first fault (`Yaml.Tokens.ofReadable`).
Indentation becomes marks of its own: a block of entries or of keys is opened in front of its first
line and closed behind its last one. That a scalar is a key shows only at the colon behind it; until
then its place is remembered (`Yaml.KeyPlace`), and the marks of a key are put there when the colon
comes.
-/

namespace Tabletop

namespace Yaml

/-- A mark or a scalar. -/
inductive Token where
  /-- The version that a directive asks for. -/
  | version (major : Nat)
  /-- A handle in front of the names of types, and what it stands for. -/
  | handle (handle start : Text)
  /-- Any other directive. -/
  | directive
  | documentStart
  | documentEnd
  | blockEntries
  | blockKeys
  | blockEnd
  | listOpen
  | listClose
  | mapOpen
  | mapClose
  | entry
  | comma
  | key
  | value
  | alias (name : Text)
  | anchor (name : Text)
  /-- A type, by the handle in front of its name, unless it is given in full. -/
  | tag (handle : Option Text) (name : Text)
  | scalar (plain : Bool) (text : Text)
  deriving DecidableEq

/-- Where a key may have begun. -/
structure KeyPlace where
  /-- How many tokens were before. -/
  tokens : Nat
  /-- Whether it has to be a key. -/
  required : Bool
  index : Nat
  line : Nat
  column : Nat

/-- Where the reading of tokens stands. -/
structure Lexing where
  cursor : Cursor
  /-- The indentations of the open blocks, the innermost first. -/
  indents : List Nat := []
  /-- Whether a key may begin here. -/
  allowsKey : Bool := true
  /-- The place of a key outside brackets. -/
  outer : Option KeyPlace := none
  /-- The places of keys inside brackets, the innermost pair first. -/
  inner : List (Option KeyPlace) := []
  /-- The tokens so far, the last one first. -/
  tokens : List Token := []
  /-- How many tokens those are. -/
  count : Nat := tokens.length

namespace Lexing

/-- Whether the place is inside brackets. -/
def inFlow (l : Lexing) : Bool := !l.inner.isEmpty

/-- The least indentation of what belongs to the innermost block. -/
def least (l : Lexing) : Nat := (l.indents.head?.map (· + 1)).getD 0

/-- One more token. -/
def push (l : Lexing) (t : Token) : Lexing :=
  { l with tokens := t :: l.tokens, count := l.count + 1 }

/-- The place of a possible key at this depth. -/
def keyPlace (l : Lexing) : Option KeyPlace :=
  match l.inner with
  | [] => l.outer
  | place :: _ => place

/-- Another place of a possible key at this depth. -/
def setKeyPlace (l : Lexing) (place : Option KeyPlace) : Lexing :=
  match l.inner with
  | [] => { l with outer := place }
  | _ :: rest => { l with inner := place :: rest }

/-- No possible key at this depth any more; nothing if there has to be one. -/
def dropKey? (l : Lexing) : Option Lexing :=
  match l.keyPlace with
  | some place => if place.required then none else some (l.setKeyPlace none)
  | none => some l

/-- Whether a possible key is still one: it is on the line, and not too far away. -/
def isFresh (k : Cursor) (place : KeyPlace) : Bool :=
  place.line = k.line && k.index - place.index ≤ 1024

/-- No possible key that has become none; nothing if one of them has to be a key. -/
def refresh? (l : Lexing) : Option Lexing :=
  let keep := fun (place : KeyPlace) => isFresh l.cursor place
  let stale := (l.outer :: l.inner).filterMap id |>.filter (!keep ·)
  if stale.any (·.required) then none
  else some { l with outer := l.outer.filter keep, inner := l.inner.map (·.filter keep) }

/-- A possible key begins here, if one may. -/
def noteKey? (l : Lexing) : Option Lexing :=
  if l.allowsKey then do
    let l ← l.dropKey?
    some (l.setKeyPlace (some {
      tokens := l.count
      required := !l.inFlow && l.indents.head? = some l.cursor.column
      index := l.cursor.index, line := l.cursor.line, column := l.cursor.column }))
  else some l

/-- The blocks that are indented more than the place are closed. -/
def closeBlocks (l : Lexing) : Lexing :=
  if l.inFlow then l
  else
    let closed := (l.indents.takeWhile (l.cursor.column < ·)).length
    (List.replicate closed Token.blockEnd).foldl push { l with indents := l.indents.drop closed }

/-- All blocks are closed. -/
def closeAll (l : Lexing) : Lexing :=
  if l.inFlow then l
  else (List.replicate l.indents.length Token.blockEnd).foldl push { l with indents := [] }

/-- Whether a block at a column is one more. -/
def opensAt (l : Lexing) (column : Nat) : Bool := l.indents.head?.all (· < column)

/-- A block at the place, if it is one more. -/
def openBlock (l : Lexing) (start : Token) : Lexing :=
  if l.opensAt l.cursor.column then
    { l with indents := l.cursor.column :: l.indents }.push start
  else l

/-- Tokens put behind the first so many. -/
def insertAt (l : Lexing) (count : Nat) (tokens : List Token) : Lexing :=
  let later := l.count - count
  { l with
    tokens := l.tokens.take later ++ tokens.reverse ++ l.tokens.drop later
    count := l.count + tokens.length }

/-- The place behind some code points. -/
def skip (l : Lexing) (n : Nat) : Lexing := { l with cursor := l.cursor.skip n }

/-- The place at which some rest begins. -/
def upTo (l : Lexing) (rest : Text) : Lexing := { l with cursor := l.cursor.upTo rest }

/-! ## Blanks and comments -/

/-- The place behind blanks. -/
def afterBlanks (l : Lexing) : Lexing :=
  l.skip (l.cursor.rest.takeWhile (· = .char ' ')).length

/-- The place behind blanks and a comment. -/
def afterComment (l : Lexing) : Lexing :=
  let here := l.afterBlanks
  if here.cursor.rest.head? = some (.char '#') then
    here.skip (here.cursor.rest.takeWhile (!isBreak ·)).length
  else here

/-- The place of the next token. Behind a line's end outside brackets a key may begin. -/
def toToken (l : Lexing) : Lexing :=
  let here := l.afterComment
  if atLineEnd here.cursor.rest then
    let next := { here with cursor := here.cursor.next, allowsKey := l.allowsKey || !l.inFlow }
    if next.cursor.left < l.cursor.left then toToken next else here
  else here
termination_by l.cursor.left

/-! ## Types -/

/-- Whether a code point may be in a name. -/
def isNamePart (c : CodePoint) : Bool :=
  match c with
  | .char c => c.isAlphanum || c = '-' || c = '_'
  | .surrogate _ => false

/-- Whether a code point may be in the name of a type. -/
def isTagPart (c : CodePoint) : Bool :=
  match c with
  | .char d => d.isAlphanum || c ∈ Text.ofString "-;/?:@&=+$,_.!~*'()[]%"
  | .surrogate _ => false

/-- The text of bytes, last one first. -/
def ofBytes? (bytes : List UInt8) : Option Text := Utf8.decode bytes.reverse

/-- The name of a type at the front of a text, behind bytes given by number, last one first, and
what follows it. A percent sign stands in front of the two digits of a byte. -/
def tagPart? (bytes : List UInt8) : Text → Option (Text × Text)
  | .char '%' :: a :: b :: rest => do
    let high ← Json.hexValue? a
    let low ← Json.hexValue? b
    tagPart? (UInt8.ofNat (16 * high + low) :: bytes) rest
  | [] => do some (← ofBytes? bytes, [])
  | c :: rest => do
    let before ← ofBytes? bytes
    if c = .char '%' then none
    else if isTagPart c then
      let (name, rest) ← tagPart? [] rest
      some (before ++ c :: name, rest)
    else some (before, c :: rest)

/-- The name of a type, which is not empty, and what follows it. -/
def tagName? (t : Text) : Option (Text × Text) :=
  if t.head?.any isTagPart then tagPart? [] t else none

/-- The handle of a type, behind its first mark, if there is one before the end of the word. -/
def tagHandle? (t : Text) : Option (Text × Text) :=
  let name := t.takeWhile isNamePart
  match t.dropWhile isNamePart with
  | .char '!' :: rest => some (.char '!' :: name ++ [.char '!'], rest)
  | _ => none

/-- Whether a word has one more mark of a type. -/
def hasTagMark (t : Text) : Bool :=
  (t.takeWhile fun c => !isBreak c && c ≠ .char ' ').contains (.char '!')

/-- What is said of a type, behind its first mark, and what follows it. -/
def tag? (t : Text) : Option (Token × Text) := do
  let (token, rest) ←
    if let .char '<' :: verbatim := t then
      match ← tagName? verbatim with
      | (name, .char '>' :: rest) => some (Token.tag none name, rest)
      | _ => none
    else if atWordEnd t then some (Token.tag none "!", t)
    else if hasTagMark t then do
      let (handle, rest) ← tagHandle? t
      let (name, rest) ← tagName? rest
      some (Token.tag (some handle) name, rest)
    else do
      let (name, rest) ← tagName? t
      some (Token.tag (some "!") name, rest)
  if atBlankOrLineEnd rest then some (token, rest) else none

/-! ## Directives -/

/-- A text without the blanks it begins with. -/
def dropBlanks (t : Text) : Text := t.dropWhile (· = .char ' ')

/-- The number that digits at the front of a text say, and what follows. -/
def versionPart (t : Text) : Except Fault (Nat × Text) :=
  let (digits, rest) := Numeral.splitDigits t
  if digits.isEmpty then .error .malformed
  else
    match Numeral.read digits with
    | .ok n => .ok (n, rest)
    | .error fault => .error (.numeral fault)

/-- The version that a directive asks for, and what follows. -/
def version (t : Text) : Except Fault (Token × Text) := do
  let (major, rest) ← versionPart (dropBlanks t)
  let (_, rest) ← versionPart (← wellFormed (Text.after? "." rest))
  if atBlankOrLineEnd rest then .ok (.version major, rest) else .error .malformed

/-- The handle that a directive explains, and what follows. -/
def handle? (t : Text) : Option (Token × Text) := do
  let rest ← Text.after? "!" (dropBlanks t)
  let (handle, rest) ←
    if rest.head? = some (.char ' ') then some (Text.ofString "!", rest) else tagHandle? rest
  if rest.head? ≠ some (.char ' ') then none
  else
    let (start, rest) ← tagName? (dropBlanks rest)
    if atBlankOrLineEnd rest then some (.handle handle start, rest) else none

/-- What a directive says, behind its percent sign, and what follows its line. -/
def directive (t : Text) : Except Fault (Token × Text) := do
  let name := t.takeWhile isNamePart
  let rest := t.dropWhile isNamePart
  if name.isEmpty ∨ !atBlankOrLineEnd rest then .error .malformed
  else
    let (token, rest) ←
      if name = Text.ofString "YAML" then version rest
      else if name = Text.ofString "TAG" then wellFormed (handle? rest)
      else .ok (Token.directive, rest.dropWhile (!isBreak ·))
    .ok (token, ← wellFormed (afterIdleLine? rest))

/-! ## Marks -/

/-- The mark of a document. -/
def documentMark? (l : Lexing) (t : Token) : Option Lexing := do
  let l ← l.closeAll.dropKey?
  some (({ l with allowsKey := false }.push t).skip 3)

/-- A bracket that opens. -/
def opening? (l : Lexing) (t : Token) : Option Lexing := do
  let l ← l.noteKey?
  some (({ l with inner := none :: l.inner, allowsKey := true }.push t).skip 1)

/-- A bracket that closes. -/
def closing? (l : Lexing) (t : Token) : Option Lexing := do
  let l ← l.dropKey?
  match l.inner with
  | [] => none
  | _ :: inner => some (({ l with inner, allowsKey := false }.push t).skip 1)

/-- A mark behind which a key may begin. -/
def mark? (l : Lexing) (t : Token) (allowsKey : Bool) : Option Lexing := do
  let l ← { l with allowsKey }.dropKey?
  some ((l.push t).skip 1)

/-- The mark of an entry or of a key in a block, with the block, if it is one more. -/
def blockMark? (l : Lexing) (start t : Token) : Option Lexing :=
  if l.inFlow then l.mark? t (t = .entry)
  else if l.allowsKey then (l.openBlock start).mark? t true
  else none

/-- The colon behind a key. The marks of the key are put in their place. -/
def value? (l : Lexing) : Option Lexing :=
  match l.keyPlace with
  | none =>
    if l.inFlow then l.mark? .value false
    else if l.allowsKey then (l.openBlock .blockKeys).mark? .value true
    else none
  | some place =>
    let l := l.setKeyPlace none
    let l :=
      if !l.inFlow && l.opensAt place.column then
        { l.insertAt place.tokens [.blockKeys, .key] with indents := place.column :: l.indents }
      else l.insertAt place.tokens [.key]
    some (({ l with allowsKey := false }.push .value).skip 1)

/-- A name behind a mark. -/
def named? (l : Lexing) (token : Text → Token) (t : Text) : Option Lexing := do
  let l ← l.noteKey?
  let name := t.takeWhile isNamePart
  let rest := t.dropWhile isNamePart
  let ends := atWordEnd rest || rest.head?.any (· ∈ Text.ofString "?:,]\x7d%@`")
  if name.isEmpty ∨ !ends then none
  else some (({ l with allowsKey := false }.push (token name)).upTo rest)

/-- A token that may be a key or what stands before one. -/
def keyed (l : Lexing) (token : Except Fault (Token × Text)) : Except Fault Lexing := do
  let l ← wellFormed l.noteKey?
  let (token, rest) ← token
  .ok (({ l with allowsKey := false }.push token).upTo rest)

/-- A block of lines. -/
def block? (l : Lexing) (folded : Bool) (t : Text) : Option Lexing := do
  let l ← { l with allowsKey := true }.dropKey?
  let (text, rest) ← blockScalar? folded (max 1 l.least) t
  some ((l.push (.scalar false text)).upTo rest)

/-- Whether a plain text can begin with a code point in front of a text. -/
def startsPlain (flow : Bool) (c : CodePoint) (rest : Text) : Bool :=
  if c ∈ Text.ofString "-?:" then !atWordEnd rest && (c = .char '-' || !flow)
  else !(isBreak c || isGap c || c ∈ Text.ofString ",[]\x7b\x7d#&*!|>'\"%@`")

/-- A plain text. Behind a line's end a key may begin. -/
def plain? (l : Lexing) : Option Lexing := do
  let l ← l.noteKey?
  let plain := plainScalar l.inFlow l.least l.cursor.rest
  some (({ l with allowsKey := plain.broken }.push (.scalar true plain.text)).upTo plain.rest)

/-- A quoted text. -/
def quoted (double : Bool) (t : Text) : Except Fault (Token × Text) :=
  (quotedScalar double t).map fun (text, rest) => (.scalar false text, rest)

/-- A directive. -/
def directed (l : Lexing) (t : Text) : Except Fault Lexing := do
  let l ← wellFormed l.closeAll.dropKey?
  let (token, rest) ← directive t
  .ok (({ l with allowsKey := false }.push token).upTo rest)

/-- The next token, at whose place the reading stands. -/
def token (l : Lexing) (c : CodePoint) (rest : Text) : Except Fault Lexing :=
  let atStart : Bool := l.cursor.column = 0
  let flow := l.inFlow
  if atStart && c = .char '%' then l.directed rest
  else if c = .char '!' then l.keyed (wellFormed (tag? rest))
  else if c = .char '\'' || c = .char '"' then l.keyed (quoted (c = .char '"') rest)
  else
    wellFormed <|
      if atStart && atDocumentMark (c :: rest) then
        l.documentMark? (if c = .char '-' then .documentStart else .documentEnd)
      else if c = .char '[' then l.opening? .listOpen
      else if c = .char '\x7b' then l.opening? .mapOpen
      else if c = .char ']' then l.closing? .listClose
      else if c = .char '\x7d' then l.closing? .mapClose
      else if c = .char ',' then l.mark? .comma true
      else if c = .char '-' && atWordEnd rest then l.blockMark? .blockEntries .entry
      else if c = .char '?' && (flow || atWordEnd rest) then l.blockMark? .blockKeys .key
      else if c = .char ':' && (flow || atWordEnd rest) then l.value?
      else if c = .char '*' then l.named? .alias rest
      else if c = .char '&' then l.named? .anchor rest
      else if c = .char '|' && !flow then l.block? false rest
      else if c = .char '>' && !flow then l.block? true rest
      else if startsPlain flow c rest then l.plain?
      else none

/-! ## Steps -/

/-- Whether a text at the start of a line ends before it is known whether a mark between documents is
there. -/
def isMarkStart (t : Text) : Bool :=
  t.length < 3 || ["---", "..."].any (t = Text.ofString ·)

/-- Whether what can be read of a text ends before it is known which token begins at a place. -/
def isUndecided (k : Cursor) : Bool :=
  match k.rest with
  | [] => true
  | c :: rest => rest.isEmpty || (k.column = 0 && c ∈ Text.ofString "-." && isMarkStart k.rest)

/-- Whether what can be read of a text ends before it is known that a token that began on a line, if
it is no block of lines, ends at a place. The line of the place may be a mark between documents. -/
def isUnended (k : Cursor) (line : Nat) : Bool :=
  k.rest.isEmpty
    || (line < k.line && isMarkStart (List.replicate k.column (.char ' ') ++ k.rest))

/-- Whether what can be read of a text ends before it is known that a token at its front has some
fault: inside quotes, or inside the word with a type. -/
def isUndecidedFault (t : Text) (fault : Fault) : Bool :=
  match t with
  | .char '!' :: .char '<' :: _ => false
  | .char '!' :: word => word.all fun c => !isBreak c && c ∉ Text.ofString " !"
  | _ => fault = .unfinished

/-- The next token, in a text that stops for a fault. The fault comes first if the text has to be
read on to find the token. -/
def tokenBefore (l : Lexing) (stop : Fault) (c : CodePoint) (rest : Text) :
    Except Fault Lexing :=
  if isUndecided l.cursor then .error stop
  else
    match l.token c rest with
    | .ok next =>
      let unended :=
        if c ∈ Text.ofString "|>%" then next.cursor.rest.isEmpty
        else isUnended next.cursor l.cursor.line
      if unended then .error stop else .ok next
    | .error fault => .error (if isUndecidedFault (c :: rest) fault then stop else fault)

/-- The state behind the next token; nothing at the end of a text that does not stop for a fault. -/
def step (stop : Option Fault) (l : Lexing) : Except Fault (Option Lexing) := do
  let here := l.toToken
  match here.cursor.rest, stop with
  | [], none => pure none
  | [], some fault => throw fault
  | c :: rest, none =>
    let ready ← wellFormed here.refresh?
    some <$> ready.closeBlocks.token c rest
  | c :: rest, some fault =>
    let ready ← wellFormed here.refresh?
    some <$> ready.closeBlocks.tokenBefore fault c rest

/-- The tokens of which it is known that they are no keys, in order. -/
def settled (l : Lexing) : List Token :=
  let places := ((l.outer :: l.inner).filterMap id).filter (isFresh l.cursor)
  l.tokens.reverse.take (places.foldl (fun n place => min n place.tokens) l.count)

end Lexing

/-- Tokens, and the fault behind them, if there is one. -/
structure Tokens where
  list : List Token
  fault : Option Fault

namespace Tokens

/-- The tokens from a place on, in a text that may stop for a fault. -/
def ofLexing (stop : Option Fault) (l : Lexing) : Tokens :=
  match l.step stop with
  | .error fault => { list := l.settled, fault := some fault }
  | .ok none =>
    match l.toToken.closeAll.dropKey? with
    | some l => { list := l.tokens.reverse, fault := none }
    | none => { list := l.settled, fault := some .malformed }
  | .ok (some next) =>
    if next.cursor.left < l.cursor.left then ofLexing stop next
    else { list := l.settled, fault := some .malformed }
termination_by l.cursor.left

/-- The tokens of a text, behind a byte order mark that it may begin with. -/
def ofReadable (r : Readable) : Tokens :=
  let start : Cursor := { rest := r.text }
  let behind := if r.text.head? = some byteOrderMark then start.next else start
  ofLexing r.stop { cursor := behind }

end Tokens

end Yaml

end Tabletop
