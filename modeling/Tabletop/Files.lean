import Tabletop.Numeral
import Tabletop.Text.Quoted
import Tabletop.Text.Utf8

/-!
# Files

The files that a program can reach (`Files`), each at a place below the root of all directories.
Paths lead to places: from the root if they begin with a slash, and otherwise from the directory in
which the program runs. Paths and the names in them are bytes in the end, and have only so many of
them.

* `Files.read`: the bytes at a path.
* `Files.opened`: the files with one that can be appended to, and its place.
* `Files.append`: the files with more bytes in one of them.
-/

namespace Tabletop

/-- Files by their place: the names on the way from the root, in order. -/
structure Files where
  /-- The place of the directory in which the program runs. -/
  base : List Text := []
  entries : List (List Text × List UInt8) := []

/-- Why a path leads to no file. -/
inductive PathFault where
  | missing
  /-- It leads to a directory. -/
  | directory
  /-- It leads through a file. -/
  | throughFile
  /-- It holds a zero code point. -/
  | zero
  /-- It, or a name in it, has too many bytes. -/
  | tooLong
  /-- It holds so many surrogates in a row, from a position on, the first of which is no byte. -/
  | unencodable (first : CodePoint) (position count : Nat)
  deriving DecidableEq

/-- The wording of a fault. -/
def PathFault.message : PathFault → Text
  | missing => "no such file"
  | directory => "not a file but a directory"
  | throughFile => "not a directory but a file"
  | zero => "embedded null byte"
  | tooLong => "too long"
  | unencodable first position count =>
    let what :=
      if count ≤ 1 then
        Text.ofString "character '\\u" ++ Text.paddedHex 4 first.val ++ Text.ofString "' in position "
          ++ Numeral.digits position
      else
        Text.ofString "characters in position " ++ Numeral.digits position ++ Text.ofString "-"
          ++ Numeral.digits (position + count - 1)
    Text.ofString "'utf-8' codec can't encode " ++ what ++ Text.ofString ": surrogates not allowed"

namespace Text

/-- A text cut at a code point. -/
def splitAt (separator : CodePoint) : Text → List Text
  | [] => [[]]
  | c :: rest =>
    if c = separator then [] :: splitAt separator rest
    else
      match splitAt separator rest with
      | [] => [[c]]
      | part :: parts => (c :: part) :: parts

end Text

namespace Files

/-- The names in a path. -/
def names (path : Text) : List Text := path.splitAt (.char '/')

/-- Whether a name stands for the directory it is in. -/
def isHere (name : Text) : Bool := name = [] || name = Text.ofString "."

/-- Whether a name stands for the directory above. -/
def isAbove (name : Text) : Bool := name = Text.ofString ".."

/-- The bytes of the file at a place. -/
def contents? (f : Files) (place : List Text) : Option (List UInt8) :=
  (f.entries.find? fun entry => entry.1 = place).map Prod.snd

/-- How many bytes a name may have. -/
def maxNameBytes : Nat := 255

/-- How many bytes a path may have. -/
def maxPathBytes : Nat := 4095

/-- How many bytes a text has as a path. -/
def byteCount (t : Text) : Nat := (Utf8.encode t).length

/-- Whether a code point stands for a byte that is no text of its own. -/
def isRawByte (c : CodePoint) : Bool := 0xDC80 ≤ c.val && c.val ≤ 0xDCFF

/-- Why a path is no bytes, if it is none. -/
def encodingFault? (path : Text) : Option PathFault :=
  let isBad := fun (c : CodePoint) => c.isSurrogate && !isRawByte c
  match path.dropWhile (!isBad ·) with
  | [] => none
  | c :: rest =>
    some (.unencodable c (path.length - rest.length - 1)
      (1 + (rest.takeWhile (·.isSurrogate)).length))

/-- Refuses what cannot be a path. -/
def ensurePath (path : Text) : Except PathFault Unit :=
  match encodingFault? path with
  | some fault => .error fault
  | none =>
    if .char '\x00' ∈ path then .error .zero
    else if maxPathBytes < byteCount path then .error .tooLong
    else .ok ()

/-- Whether there is a directory at a place. -/
def isDirectory (f : Files) (place : List Text) : Bool :=
  place.isPrefixOf f.base
    || f.entries.any fun entry => place.length < entry.1.length && place.isPrefixOf entry.1

/-- The place to which names lead from a directory, given from its innermost name outwards. Above
the root there is only the root. -/
def walk (f : Files) (inside : List Text) : List Text → Except PathFault (List Text)
  | [] => .error .directory
  | name :: rest =>
    if isHere name then walk f inside rest
    else if isAbove name then walk f inside.tail rest
    else if maxNameBytes < byteCount name then .error .tooLong
    else
      let place := (name :: inside).reverse
      if f.isDirectory place then walk f (name :: inside) rest
      else if rest.isEmpty then .ok place
      else
        match f.contents? place with
        | some _ => .error .throughFile
        | none => .error .missing

/-- The directory at which a path starts, from its innermost name outwards. -/
def startOf (f : Files) (path : Text) : List Text :=
  if path.head? = some (.char '/') then [] else f.base.reverse

/-- The place to which a path leads. An empty path leads nowhere. -/
def place (f : Files) (path : Text) : Except PathFault (List Text) := do
  ensurePath path
  if path.isEmpty then .error .missing else f.walk (f.startOf path) (names path)

/-- The bytes of the file at a path. -/
def read (f : Files) (path : Text) : Except PathFault (List UInt8) := do
  let place ← f.place path
  match f.contents? place with
  | some bytes => .ok bytes
  | none => .error .missing

/-- The place to which names lead from a directory, given from its innermost name outwards, if no
name is looked up on the way. -/
def direct : List Text → List Text → List Text
  | inside, [] => inside.reverse
  | inside, name :: rest =>
    if isHere name then direct inside rest
    else if isAbove name then direct inside.tail rest
    else direct (name :: inside) rest

/-- A place, cut at the first zero code point in it. -/
def cutAtZero : List Text → List Text
  | [] => []
  | name :: rest =>
    if .char '\x00' ∈ name then [name.takeWhile (· ≠ .char '\x00')] else name :: cutAtZero rest

/-- The path from the root to a place. -/
def pathTo (place : List Text) : Text := place.flatMap (.char '/' :: ·)

/-- The files with one at a path that can be appended to, and its place. Names that are left again
are not looked up, an empty path leads to the directory in which the program runs, and a path ends
where it holds a zero code point. -/
def opened (f : Files) (path : Text) : Except PathFault (List Text × Files) := do
  let direct := cutAtZero (direct (f.startOf path) (names path))
  ensurePath (pathTo direct)
  let place ← f.walk [] direct
  match f.contents? place with
  | some _ => .ok (place, f)
  | none => .ok (place, { f with entries := f.entries ++ [(place, [])] })

/-- The files with more bytes in one of them. -/
def append (f : Files) (place : List Text) (bytes : List UInt8) : Files :=
  { f with
    entries := f.entries.map fun entry =>
      if entry.1 = place then (entry.1, entry.2 ++ bytes) else entry }

end Files

end Tabletop
