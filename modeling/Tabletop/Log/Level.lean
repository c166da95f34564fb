import Tabletop.Data.Value

/-!
# Levels

How much a record of the log matters (`Level`). Six levels have a name; two of them have a second
one.

* `Level.name`, `Level.ofName?`: the name of a level, and the level with a name.
* `Level.ofValue?`: the level that a setting asks for, in letters of either case.
-/

namespace Tabletop

/-- How much a record matters: the more, the higher the rank. -/
structure Level where
  rank : Int
  deriving DecidableEq

namespace Level

/-- The lowest level: no threshold at all. -/
def unset : Level := ⟨0⟩

def debug : Level := ⟨10⟩

def info : Level := ⟨20⟩

def warning : Level := ⟨30⟩

def error : Level := ⟨40⟩

def critical : Level := ⟨50⟩

/-- The names of levels, the first one of a level being the one that is shown. -/
def names : List (Text × Level) :=
  [("CRITICAL", critical), ("FATAL", critical), ("ERROR", error), ("WARNING", warning),
    ("WARN", warning), ("INFO", info), ("DEBUG", debug), ("NOTSET", unset)]

/-- The level with a name. -/
def ofName? (name : Text) : Option Level := (names.find? fun entry => entry.1 = name).map Prod.snd

/-- The name of a level. A level without one is called by its rank. -/
def name (l : Level) : Text :=
  match names.find? fun entry => entry.2 = l with
  | some entry => entry.1
  | none => Text.ofString "Level " ++ Numeral.unlimited l.rank

/-- A letter whose upper case is a plain letter, in upper case; anything else as it is. -/
def upperLetter : CodePoint → CodePoint
  | .char 'ı' => .char 'I'
  | .char 'ſ' => .char 'S'
  | .char c => .char c.toUpper
  | c => c

/-- The level that a setting names; nothing if it names none. -/
def ofValue? (v : Value) : Except Numeral.Fault (Option Level) :=
  if v.isTruthy then do
    let shown ← v.display
    .ok (ofName? (shown.map upperLetter))
  else .ok none

end Level

end Tabletop
