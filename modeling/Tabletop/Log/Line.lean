import Tabletop.Log.Layout
import Tabletop.Log.Notice

/-!
# Log lines

How a notice becomes a line in a format (`Notice.line?`). What is known of a notice is a list of
named values (`Notice.values`); a field shows one of them, and a field without a name, which is
possible only as the first one, shows the list itself.
-/

namespace Tabletop

namespace Notice

/-- What stands for nothing. -/
def nothing : Format.Shown := .other "None"

/-- What is known of where a notice comes from. -/
def origin : List (Text × Format.Shown) :=
  [("pathname", .text "/tabletop/service.lean"), ("filename", .text "service.lean"),
    ("module", .text "service"), ("exc_info", nothing), ("exc_text", nothing),
    ("stack_info", nothing), ("lineno", .number 1), ("funcName", .text "note"),
    ("created", .float (.finite false 1735689600 0)), ("msecs", .float (.finite false 0 0)),
    ("relativeCreated", .float (.finite false 0 0)), ("thread", .number 1),
    ("threadName", .text "MainThread"), ("processName", .text "MainProcess"),
    ("process", .number 1)]

/-- Whether a format shows the time. -/
def showsTime : Text → Bool
  | [] => false
  | c :: rest => (Text.after? "%(asctime)" (c :: rest)).isSome || showsTime rest

/-- What is known of a notice at a point of time, the time only if it is to be shown. -/
def values (n : Notice) (now : Option Text) : List (Text × Format.Shown) :=
  let before : List (Text × Format.Shown) :=
    [("name", .text n.logger), ("msg", .text n.message), ("args", .other "()"),
      ("levelname", .text n.level.name), ("levelno", .number n.level.rank)]
  let after : List (Text × Format.Shown) :=
    (Text.ofString "message", .text n.message)
      :: now.toList.map fun t => (Text.ofString "asctime", .text t)
  before ++ origin ++ after

/-- Named values as one text. -/
def listText (values : List (Text × Format.Shown)) : Text :=
  .char '\x7b'
    :: Text.join ", " (values.map fun (name, v) => name.quoted ++ Text.ofString ": " ++ v.quoted)
    ++ [.char '\x7d']

/-- A field filled in, if the list itself can be shown or the field has a name. -/
def field? (values : List (Text × Format.Shown)) (first : Bool) (f : Format.Field) : Option Text :=
  match f.name with
  | some name => (values.find? fun entry => entry.1 = name).bind fun entry => f.fill? entry.2
  | none => if first then f.fill? (.other (listText values)) else none

/-- Pieces of a format, filled in. -/
def fill? (values : List (Text × Format.Shown)) (first : Bool) : List Format.Piece → Option Text
  | [] => some []
  | .plain c :: rest => (fill? values first rest).map (c :: ·)
  | .field f :: rest => do
    let text ← field? values first f
    let texts ← fill? values false rest
    some (text ++ texts)

/-- The line of a notice in a format; nothing if the format cannot be filled in. -/
def line? (n : Notice) (now : Text) (format : Text) : Option Text :=
  (Format.pieces? format).bind
    (fill? (n.values (if showsTime format then some now else none)) true)

end Notice

end Tabletop
