import Tabletop.Files
import Tabletop.Log.Line
import Tabletop.Text.Utf8

/-!
# The log

Notices go to every handler of a log (`Logbook`) if they matter enough. A handler lays a notice out
as a line and writes it to a buffer, to the error stream or to a file.

* `Logbook.configure`: one more handler, and the level.
* `Logbook.write`: a notice. Without any handler, warnings and worse go to the error stream as they
  are.
-/

namespace Tabletop

/-- Where a handler is to write. -/
inductive Destination where
  | buffer
  | errors
  | file (path : Text)
  deriving DecidableEq

/-- Where a handler writes. -/
inductive Target where
  | buffer
  | errors
  | file (place : List Text)
  deriving DecidableEq

/-- A target, and the format of the lines that are written to it. -/
structure Handler where
  target : Target
  format : Text

/-- Why a log cannot be configured. -/
inductive LogFault where
  | path (fault : PathFault)
  /-- The format has no field. -/
  | format (format : Text)
  /-- No level has the name that is shown. -/
  | unknownLevel (shown : Text)
  /-- What is shown is neither a number nor a name. -/
  | notALevel (shown : Text)
  | numeral (fault : Numeral.Fault)
  deriving DecidableEq

/-- The wording of a fault. -/
def LogFault.message : LogFault → Text
  | path fault => fault.message
  | format f => Text.ofString "Invalid format '" ++ f ++ Text.ofString "' for '%' style"
  | unknownLevel shown => Text.ofString "Unknown level: " ++ shown
  | notALevel shown => Text.ofString "Level not an integer or a valid string: " ++ shown
  | numeral fault => fault.message

/-- A log: its level and handlers, and what they have written. -/
structure Logbook where
  level : Level := .unset
  /-- The level that counts while none is set. -/
  standard : Level := .warning
  handlers : List Handler := []
  buffer : Text := []
  errors : Text := []
  files : Files := {}

namespace Logbook

/-- The format of lines that show nothing but the message. -/
def plainFormat : Text := "%(message)s"

/-- The format of lines that show the time, the name of the part, the level and the message. -/
def fullFormat : Text := "%(asctime)s - %(name)s - %(levelname)s - %(message)s"

/-- The level that counts. -/
def threshold (b : Logbook) : Level := if b.level = .unset then b.standard else b.level

/-- Whether notices of a level are written at all. -/
def admits (b : Logbook) (l : Level) : Bool := 0 < l.rank && b.threshold.rank ≤ l.rank

/-- A log with more text in one of its targets. -/
def put (b : Logbook) (target : Target) (t : Text) : Logbook :=
  match target with
  | .buffer => { b with buffer := b.buffer ++ t }
  | .errors => { b with errors := b.errors ++ t }
  | .file place => { b with files := b.files.append place (Utf8.encode t) }

/-- A log in which one handler has written a notice. -/
def handle (n : Notice) (now : Text) (b : Logbook) (h : Handler) : Logbook :=
  match n.line? now h.format with
  | some line => b.put h.target (line ++ [.char '\n'])
  | none => b

/-- A log in which a notice has been written. -/
def write (b : Logbook) (now : Text) (n : Notice) : Logbook :=
  if b.admits n.level then
    if b.handlers.isEmpty then
      if Level.warning.rank ≤ n.level.rank then b.put .errors (n.message ++ [.char '\n']) else b
    else b.handlers.foldl (handle n now) b
  else b

/-- The level that a piece of data says: a rank, or a name as it is written. -/
def levelOf (v : Value) : Except LogFault Level :=
  match v with
  | .int n => .ok ⟨n⟩
  | .bool b => .ok ⟨if b then 1 else 0⟩
  | .text name =>
    match Level.ofName? name with
    | some level => .ok level
    | none => .error (.unknownLevel name.quoted)
  | v =>
    match v.quoted with
    | .ok shown => .error (.notALevel shown)
    | .error fault => .error (.numeral fault)

/-- The target of a destination. A file is opened, and made if there is none. -/
def openTarget (destination : Destination) : EStateM LogFault Logbook Target := fun b =>
  match destination with
  | .buffer => .ok .buffer b
  | .errors => .ok .errors b
  | .file path =>
    match b.files.opened path with
    | .ok (place, files) => .ok (.file place) { b with files }
    | .error fault => .error (.path fault) b

/-- Adds a handler and then sets the level, each unless it is refused. An empty format is the plain
one. -/
def configure (destination : Destination) (format : Text) (level : Value) :
    EStateM LogFault Logbook Unit := do
  let target ← openTarget destination
  let format := if format.isEmpty then plainFormat else format
  if Format.holdsField format then
    modify fun b => { b with handlers := b.handlers ++ [{ target, format }] }
    match levelOf level with
    | .ok level => modify fun b => { b with level }
    | .error fault => throw fault
  else throw (.format format)

end Logbook

end Tabletop
