import Std.Time.DateTime.Timestamp
import Tabletop.Dice.Generator
import Tabletop.Moment
import Tabletop.Session

/-!
# The program

The service at the terminal. Each line of the standard input is a message: its subject, a blank and
its data. Answers and announcements go to the standard output, a line each, and the log to the
error stream and to its file.
-/

namespace Tabletop

namespace Terminal

/-- How many draws one run may take. -/
def drawLimit : Nat := 1000000000

/-- A text as a string. -/
def shown (t : Text) : String := t.toStringWith '\uFFFD'

/-- The present. -/
def present : IO Moment := do
  let now ← Std.Time.Timestamp.now
  return { microseconds := now.toNanosecondsSinceUnixEpoch.val / 1000 }

/-- A seed that cannot be foreseen. -/
def seed : IO UInt64 := do
  let bytes ← IO.getRandomBytes 8
  return bytes.toList.foldl (fun n b => n * 256 + b.toUInt64) 0

/-- Files with the one at a path, if there is one. -/
def withFile (f : Files) (path : Text) : IO Files := do
  try
    let bytes ← IO.FS.readBinFile (shown path)
    let place := Files.direct (f.startOf path) (Files.names path)
    return { f with entries := f.entries ++ [(place, bytes.toList)] }
  catch _ => return f

/-- Makes a file that can be appended to, if that is possible. -/
def touch (path : Text) : IO Unit := do
  try
    let _ ← IO.FS.Handle.mk (shown path) .append
  catch _ => return

/-- The path of the log file. -/
def logPath? (f : Files) (a : CommandLine.Arguments) : Option Text :=
  match CommandLine.given? a.logFile, ((CommandLine.given? a.config).map (Settings.load f)) with
  | some path, _ => some path
  | none, some (.ok settings) =>
    match settings.get? "log_file" with
    | some (.text path) => some path
    | _ => none
  | none, _ => none

/-- A session at the terminal: what it has become, and how much of its log file is written. -/
structure Console where
  session : Session
  logPath : Option Text
  written : Nat

namespace Console

/-- A session with some arguments. -/
def ofArguments (a : CommandLine.Arguments) : IO Console := do
  let base : Files := { base := ["here"] }
  let f ← match CommandLine.given? a.config with
    | some path => withFile base path
    | none => pure base
  let logPath := logPath? f a
  let f ← match logPath with
    | some path =>
      touch path
      withFile f path
    | none => pure f
  let host : Host := { files := f, source := Source.ofSeed drawLimit (← seed) }
  let written := match logPath.map f.read with
    | some (.ok bytes) => bytes.length
    | _ => 0
  return { session := Session.ofHost host, logPath, written }

/-- Writes what the session has added to its log file. -/
def writeLog (c : Console) : IO Console := do
  match c.logPath, c.logPath.map c.session.log.files.read with
  | some path, some (.ok bytes) =>
    if c.written < bytes.length then
      let h ← IO.FS.Handle.mk (shown path) .append
      h.write (ByteArray.mk (bytes.drop c.written).toArray)
    return { c with written := bytes.length }
  | _, _ => return c

/-- Shows what the session has sent and written to the log since the last time. -/
def flush (c : Console) : IO Console := do
  let out ← IO.getStdout
  let err ← IO.getStderr
  let s := c.session
  err.putStr (shown s.log.errors)
  for x in s.service.bus.journal do
    match x with
    | .reply payload => out.putStrLn (shown payload.text)
    | .publish subject payload => out.putStrLn (shown (subject ++ Text.ofString " " ++ payload.text))
    | _ => pure ()
  out.flush
  let service := { s.service with bus := { s.service.bus with journal := [] } }
  writeLog { c with session := { s with log := { s.log with errors := [] }, service, replies := [] } }

/-- A step of the session, at the present. -/
def perform (c : Console) (step : Running Unit) : IO (Option SessionFault × Console) := do
  let now ← present
  let s := c.session
  let s := { s with
    host := { s.host with now := now.stamp, logTime := now.logText }
    service := { s.service with now := now.stamp } }
  match step s with
  | .ok () s => return (none, ← flush { c with session := s })
  | .error fault s => return (some fault, ← flush { c with session := s })

/-- Delivers the lines of the standard input, up to the first that is not handled to the end. -/
partial def deliverLines (input : IO.FS.Stream) (c : Console) : IO (Option SessionFault × Console) := do
  let line ← input.getLine
  if line.isEmpty then return (none, c)
  let text := Text.ofString line
  let (subject, rest) := (text.takeWhile (!·.isBlank), text.dropWhile (!·.isBlank))
  let m : Message := { data := Utf8.encode (Text.strip rest), replyTo := "terminal" }
  match ← c.perform (Session.deliver subject m) with
  | (none, c) => deliverLines input c
  | failed => return failed

/-- Starts the service, delivers the lines of the standard input, and cleans up. -/
def serve (c : Console) : IO (Option SessionFault) := do
  let (fault, c) ← c.perform Session.start
  let (fault, c) ← match fault with
    | none => deliverLines (← IO.getStdin) c
    | some fault => pure (some fault, c)
  let c ← match fault with
    | none => Prod.snd <$> c.perform (Session.note .info "Shutdown requested")
    | some _ => pure c
  let (lastFault, _) ← c.perform Session.cleanUp
  return lastFault <|> fault

/-- A session with some arguments, from its beginning to its end. -/
def run (a : CommandLine.Arguments) : IO (Option SessionFault) := do
  let c ← ofArguments a
  match ← c.perform (Session.prepare a) with
  | (none, c) => serve c
  | (some fault, _) => return some fault

end Console

/-- Runs the program with a command line, and says how it went. -/
def run (line : List Text) : IO UInt32 := do
  let out ← IO.getStdout
  let err ← IO.getStderr
  match CommandLine.read line with
  | .error fault =>
    err.putStr (shown CommandLine.usageText)
    err.putStrLn (shown fault.message)
    return 2
  | .ok .help =>
    out.putStr (shown CommandLine.helpText)
    return 0
  | .ok (.run a) =>
    match ← Console.run a with
    | none => return 0
    | some fault =>
      err.putStrLn (shown (CommandLine.program ++ Text.ofString ": " ++ fault.message))
      return 1

end Terminal

end Tabletop

def main (args : List String) : IO UInt32 :=
  Tabletop.Terminal.run (args.map Tabletop.Text.ofString)
