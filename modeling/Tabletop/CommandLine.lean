import Tabletop.Text.Quoted

/-!
# The command line

The options of the program (`CommandLine.Choice`) and what they set (`CommandLine.Arguments`). An
option may be cut short as long as it is the only one that begins so, and its value is the next word
or what follows an equals sign. Words that look like negative numbers or have a blank in them are no
options.

* `CommandLine.Word.ofText`: what a word is, on its own.
* `CommandLine.read`: the arguments, or a request for help.
* `CommandLine.helpText`: the help.
-/

namespace Tabletop

namespace CommandLine

/-- The options. -/
inductive Choice where
  | help
  | config
  | url
  | logLevel
  | logFile
  deriving DecidableEq

/-- What the options set: the words of the value that an option was given. There is one word, or
none if the value was the separator. -/
structure Arguments where
  config : Option (List Text) := none
  url : Option (List Text) := none
  logLevel : Option (List Text) := none
  logFile : Option (List Text) := none
  deriving DecidableEq

/-- The word of a value, unless there is none or it is empty. -/
def given? : Option (List Text) → Option Text
  | some [c :: rest] => some (c :: rest)
  | _ => none

/-- The mark behind which all words are plain. -/
def separator : Text := "--"

/-- Why a command line is refused. -/
inductive UsageFault where
  /-- A word is the beginning of several options. -/
  | ambiguous (word : Text) (names : List Text)
  /-- The help has no value. -/
  | helpValue (value : Text)
  /-- An option has no value. -/
  | noValue (choice : Choice)
  /-- A level is none of those that may be chosen. -/
  | notAChoice (value : Text)
  /-- Words that belong to no option. -/
  | unrecognized (words : List Text)
  deriving DecidableEq

namespace Choice

/-- The names of the options, in order. -/
def names : List (Text × Choice) :=
  [("-h", help), ("--help", help), ("--config", config), ("--nats-url", url),
    ("--log-level", logLevel), ("--log-file", logFile)]

/-- The option with a name. -/
def ofName? (name : Text) : Option Choice :=
  (names.find? fun entry => entry.1 = name).map Prod.snd

/-- How an option is called in messages. -/
def title (c : Choice) : Text :=
  Text.join "/" ((names.filter fun entry => entry.2 = c).map Prod.fst)

/-- The levels that may be chosen. -/
def levels : List Text := ["DEBUG", "INFO", "WARNING", "ERROR"]

/-- Arguments with the words of an option's value. -/
def set (a : Arguments) (words : List Text) : Choice → Arguments
  | help => a
  | config => { a with config := some words }
  | url => { a with url := some words }
  | logLevel => { a with logLevel := some words }
  | logFile => { a with logFile := some words }

/-- Whether an option may have a word as its value. -/
def admits (word : Text) : Choice → Bool
  | logLevel => word ∈ levels
  | _ => true

end Choice

/-- The name of the program. -/
def program : Text := "dice-roller"

namespace UsageFault

/-- What is wrong, without the name of the program. -/
def reason : UsageFault → Text
  | ambiguous word names =>
    Text.ofString "ambiguous option: " ++ word ++ Text.ofString " could match "
      ++ Text.join ", " names
  | helpValue value =>
    Text.ofString "argument " ++ Choice.help.title ++ Text.ofString ": ignored explicit argument "
      ++ value.quoted
  | noValue choice =>
    Text.ofString "argument " ++ choice.title ++ Text.ofString ": expected one argument"
  | notAChoice value =>
    Text.ofString "argument " ++ Choice.logLevel.title ++ Text.ofString ": invalid choice: "
      ++ value.quoted ++ Text.ofString " (choose from "
      ++ Text.join ", " (Choice.levels.map Text.quoted) ++ Text.ofString ")"
  | unrecognized words => Text.ofString "unrecognized arguments: " ++ Text.join " " words

/-- The wording of a fault. -/
def message (f : UsageFault) : Text := program ++ Text.ofString ": error: " ++ f.reason

end UsageFault

/-! ## Words -/

/-- What a word is. -/
inductive Word where
  | plain
  | separator
  /-- An option, and the value that is joined to it by an equals sign. -/
  | choice (c : Choice) (value : Option Text)
  /-- The short name of the help with something stuck to it, an equals sign between them or not. -/
  | shortHelp (stuck : Text)
  /-- An option that there is not. -/
  | unknown
  deriving DecidableEq

/-- Whether a text is digits, of any script. -/
def isDecimals (t : Text) : Bool := !t.isEmpty && t.all CodePoint.isDecimal

/-- Whether a text is a negative number: a minus, and digits that may have a point in front or
between them. A line feed may follow. -/
def isNegativeNumber (t : Text) : Bool :=
  match t with
  | .char '-' :: number =>
    let number := if number.getLast? = some (.char '\n') then number.dropLast else number
    let whole := number.takeWhile CodePoint.isDecimal
    match number.dropWhile CodePoint.isDecimal with
    | [] => !whole.isEmpty
    | .char '.' :: fraction => isDecimals fraction
    | _ => false
  | _ => false

/-- A text in front of its first equals sign, and what follows that, if there is one. -/
def splitAssignment : Text → Text × Option Text
  | [] => ([], none)
  | c :: rest =>
    if c = .char '=' then ([], some rest)
    else
      let (name, value) := splitAssignment rest
      (c :: name, value)

/-- The options whose names begin with a text. -/
def startingWith (t : Text) : List (Text × Choice) :=
  Choice.names.filter fun entry => (Text.after? t entry.1).isSome

/-- A word that is no option by its full name. -/
def Word.ofShortened (word name : Text) (value : Option Text) : Except UsageFault Word :=
  let matching := if (Text.after? "--" word).isSome then startingWith name else []
  match matching, Text.after? "-h" word with
  | [entry], _ => .ok (.choice entry.2 value)
  | _ :: _ :: _, _ => .error (.ambiguous word (matching.map Prod.fst))
  | [], some stuck => .ok (.shortHelp stuck)
  | [], none =>
    if isNegativeNumber word ∨ .char ' ' ∈ word then .ok .plain else .ok .unknown

/-- What a word is, on its own. -/
def Word.ofText (word : Text) : Except UsageFault Word :=
  match word with
  | .char '-' :: _ :: _ =>
    match Choice.ofName? word with
    | some c => .ok (.choice c none)
    | none =>
      let (name, value) := splitAssignment word
      match Choice.ofName? name, value with
      | some c, some value =>
        .ok (if name = Text.ofString "-h" then .shortHelp value else .choice c (some value))
      | _, value => Word.ofShortened word name value
  | _ => .ok .plain

/-- The words of a command line, and what each of them is. -/
def words : List Text → Except UsageFault (List (Text × Word))
  | [] => .ok []
  | word :: rest =>
    if word = separator then
      .ok ((word, .separator) :: rest.map fun later => (later, .plain))
    else do
      let meaning ← Word.ofText word
      let others ← words rest
      .ok ((word, meaning) :: others)

/-! ## Arguments -/

/-- What is stuck to the short name of the help may be that name again, any number of times. Whatever
is left then is a value, and the help takes none. -/
def stuckValue? : Text → Option Text
  | [] => none
  | .char 'h' :: rest => stuckValue? rest
  | t => some t

/-- What is asked for. -/
inductive Request where
  | help
  | run (arguments : Arguments)
  deriving DecidableEq

/-- Arguments with the value of one more option. -/
def Arguments.with (a : Arguments) (c : Choice) (value : Text) : Except UsageFault Arguments :=
  if value = separator then .ok (c.set a [])
  else if c.admits value then .ok (c.set a [value])
  else .error (.notAChoice value)

/-- What words ask for, behind arguments and words that belong to no option. -/
def readFrom (a : Arguments) (extra : List Text) : List (Text × Word) → Except UsageFault Request
  | [] => if extra.isEmpty then .ok (.run a) else .error (.unrecognized extra)
  | (_, .choice .help none) :: _ => .ok .help
  | (_, .choice .help (some value)) :: _ => .error (.helpValue value)
  | (_, .shortHelp []) :: _ => .error (.helpValue [])
  | (_, .shortHelp stuck) :: _ =>
    match stuckValue? stuck with
    | some value => .error (.helpValue value)
    | none => .ok .help
  | (_, .choice c (some value)) :: rest => do
    let a ← a.with c value
    readFrom a extra rest
  | (_, .choice c none) :: (value, .plain) :: rest => do
    let a ← a.with c value
    readFrom a extra rest
  | (_, .choice c none) :: _ => .error (.noValue c)
  | (word, _) :: rest => readFrom a (extra ++ [word]) rest

/-- What a command line asks for. -/
def read (line : List Text) : Except UsageFault Request := do
  let words ← words line
  readFrom {} [] words

/-! ## Help -/

/-- The lines that show how the program is called. -/
def usageLines : List String := [
  "usage: dice-roller [-h] [--config CONFIG] [--nats-url NATS_URL]",
  "                   [--log-level \x7bDEBUG,INFO,WARNING,ERROR\x7d]",
  "                   [--log-file LOG_FILE]"]

/-- The lines of the help. -/
def helpLines : List String := usageLines ++ [
  "",
  "Dice Roller Plugin with NATS",
  "",
  "options:",
  "  -h, --help            show this help message and exit",
  "  --config CONFIG       Path to JSON or YAML config file",
  "  --nats-url NATS_URL   NATS server URL (default: nats://localhost:4222)",
  "  --log-level \x7bDEBUG,INFO,WARNING,ERROR\x7d",
  "                        Logging level (default: INFO)",
  "  --log-file LOG_FILE   Also write log records to this file"]

/-- Lines, each with a line feed. -/
def linesText (lines : List String) : Text :=
  lines.flatMap fun line => Text.ofString line ++ [.char '\n']

/-- The help. -/
def helpText : Text := linesText helpLines

/-- How the program is called. -/
def usageText : Text := linesText usageLines

end CommandLine

end Tabletop
