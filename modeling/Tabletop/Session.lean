import Tabletop.CommandLine
import Tabletop.Log.Logbook
import Tabletop.Service
import Tabletop.Settings

/-!
# Sessions

One run of the program (`Session.run`): read the command line and the settings, open the log, connect
to the bus, start the service, serve messages until told to stop, and clean up.

* `Session.prepare`: everything up to a service that is ready to start. What fails here leaves
  nothing behind on the bus.
* `Session.work`: the service is started, and every message is delivered.
* `Session.serve`: work until the session is told to stop, wherever it is then.
* `Session.cleanUp`: the service is stopped and the connection closed, whatever happened before. It
  may be told to stop itself, and leaves off then.
-/

namespace Tabletop

/-- The world around a session. -/
structure Host where
  files : Files := {}
  /-- Why there is no connection. -/
  connectFault : Option Text := none
  /-- Whether the connecting is interrupted. -/
  interrupted : Bool := false
  busFaults : BusFaults := {}
  source : Source
  /-- The time that announcements show. -/
  now : Text := []
  /-- The time that the log shows. -/
  logTime : Text := []

/-- Why a session ends early. -/
inductive SessionFault where
  | settings (fault : SettingsFault)
  /-- The settings are no object. -/
  | input (fault : InputFault)
  | numeral (fault : Numeral.Fault)
  | log (fault : LogFault)
  /-- There is no connection. -/
  | unreachable
  | interrupted
  | service (fault : ServiceFault)

/-- The wording of a fault. -/
def SessionFault.message : SessionFault → Text
  | settings fault => fault.message
  | input fault => fault.message
  | numeral fault => fault.message
  | log fault => fault.message
  | unreachable => "no connection"
  | interrupted => "interrupted"
  | service fault => fault.message

/-- The fault of a session whose service fails. -/
def SessionFault.ofService : ServiceFault → SessionFault
  | .bus .interrupted => .interrupted
  | fault => .service fault

/-- A session. -/
structure Session where
  host : Host
  log : Logbook
  /-- The addresses that were connected to. -/
  connected : List Value := []
  /-- The blocks of settings that the service was made with. -/
  blocks : List Value := []
  service : Service
  /-- The answers to each message that was delivered. -/
  replies : List (List Payload) := []

/-- A step of a session. -/
abbrev Running (α : Type) := EStateM SessionFault Session α

namespace Session

/-- The name under which a session writes to the log. -/
def logger : Text := "plugins.dice_roller.__main__"

/-- The address of the bus, unless another one is given. -/
def standardUrl : Text := "nats://localhost:4222"

/-- A session that has not begun. Its log writes warnings and worse. -/
def ofHost (h : Host) : Session :=
  { host := h
    log := { level := .warning, standard := .unset, files := h.files }
    service := { bus := { faults := h.busFaults }, source := h.source, now := h.now } }

/-- A session whose log has the notices of the service. -/
def collect (s : Session) : Session :=
  { s with
    log := s.service.notices.foldl (·.write s.host.logTime ·) s.log
    service := { s.service with notices := [] } }

/-- Writes to the log. -/
def note (level : Level) (message : Text) : Running Unit :=
  modify fun s => { s with log := s.log.write s.host.logTime { logger, level, message } }

/-- A computation of the service. -/
def serving {α : Type} (action : Serving α) : Running α := fun s =>
  match action s.service with
  | .ok a service => .ok a { s with service }.collect
  | .error fault service => .error (.ofService fault) { s with service }.collect

/-- A configuration of the log. -/
def logging (action : EStateM LogFault Logbook Unit) : Running Unit := fun s =>
  match action s.log with
  | .ok () log => .ok () { s with log }
  | .error fault log => .error (.log fault) { s with log }

/-- A value, or the fault that stands in its place. -/
def ensure {ε α : Type} (fault : ε → SessionFault) (x : Except ε α) : Running α :=
  match x with
  | .ok a => pure a
  | .error e => throw (fault e)

/-! ## Preparation -/

/-- The settings in the file that the arguments name. -/
def settings (a : CommandLine.Arguments) : Running Value := do
  match CommandLine.given? a.config with
  | some path => ensure .settings (Settings.load (← get).host.files path)
  | none => pure (.object [])

/-- What an argument says, unless it says nothing, and a member of the settings otherwise. -/
def argumentOr (argument : Option (List Text)) (settings : Value) (name : Text) (default : Value) :
    Running Value :=
  match CommandLine.given? argument with
  | some word => pure (.text word)
  | none => ensure .input (Settings.member settings name default)

/-- Opens the log. It writes to the error stream, and to a file if there is one. -/
def openLog (a : CommandLine.Arguments) (settings : Value) : Running Unit := do
  let asked ← ensure .numeral (Level.ofValue? (← argumentOr a.logLevel settings "log_level" .null))
  let file ← argumentOr a.logFile settings "log_file" .null
  let level := Value.int (asked.getD .info).rank
  logging (Logbook.configure .errors Logbook.fullFormat level)
  match file with
  | .text (c :: path) => logging (Logbook.configure (.file (c :: path)) Logbook.fullFormat level)
  | _ => pure ()

/-- Connects to the bus. -/
def connect (url : Value) : Running Unit := do
  let shown ← ensure .numeral url.display
  note .info (Text.ofString "Connecting to NATS at " ++ shown ++ Text.ofString "...")
  modify fun s => { s with connected := s.connected ++ [url] }
  let host := (← get).host
  if host.interrupted then throw .interrupted
  match host.connectFault with
  | some fault =>
    note .error (Text.ofString "Failed to connect to NATS: " ++ fault)
    throw .unreachable
  | none => note .info "Connected to NATS"

/-- Everything up to a service that is ready to start. -/
def prepare (a : CommandLine.Arguments) : Running Unit := do
  let settings ← settings a
  openLog a settings
  connect (← argumentOr a.url settings "nats_url" (.text standardUrl))
  let block ← ensure .input (Settings.block settings Service.name)
  modify fun s => { s with blocks := s.blocks ++ [block] }
  let options ← ensure .input (ServiceOptions.ofValue block)
  modify fun s => { s with service := { s.service with options } }

/-! ## Serving -/

/-- Starts the service. -/
def start : Running Unit := do
  serving Service.start
  note .info "Dice roller running - press Ctrl+C to stop"

/-- Delivers a message. Its answers are kept if it is handled to the end. -/
def deliver (subject : Text) (m : Message) : Running Unit := do
  let before := (repliesIn (← get).service.bus.journal).length
  let _ ← serving (Service.deliver subject m)
  modify fun s =>
    { s with replies := s.replies ++ [(repliesIn s.service.bus.journal).drop before] }

/-- Delivers messages, one after the other, up to the first that is not handled to the end. -/
def deliverAll : List (Text × Message) → Running Unit
  | [] => pure ()
  | (subject, m) :: rest => do
    deliver subject m
    deliverAll rest

/-- Starts the service and delivers messages. After the last one the session is told to stop. -/
def work (messages : List (Text × Message)) : Running Unit := do
  start
  deliverAll messages
  throw .interrupted

/-- A step that a session may be told to stop, which is noted and no fault. -/
def untilStopped (action : Running Unit) : Running Unit := fun s =>
  match action s with
  | .error .interrupted s' => note .info "Shutdown requested" s'
  | result => result

/-- Starts the service and delivers messages, until the session is told to stop. -/
def serve (messages : List (Text × Message)) : Running Unit := untilStopped (work messages)

/-- Closes the connection. -/
def close : Running Unit := do
  match ← serving (Service.calling Bus.close) with
  | .ok () => note .info "Dice roller shutdown complete"
  | .error fault => throw (.ofService (.bus fault))

/-- Stops the service and closes the connection. -/
def cleanUp : Running Unit := do
  serving Service.stop
  close

/-- A step, and the cleaning up behind it, whether the step fails or not. -/
def cleaningUp (action : Running Unit) : Running Unit := fun s =>
  match action s with
  | .ok () s' => cleanUp s'
  | .error fault s' =>
    match cleanUp s' with
    | .ok () s'' => .error fault s''
    | .error fault s'' => .error fault s''

/-! ## Runs -/

/-- How a session ends. -/
inductive Outcome where
  /-- It was told to stop. -/
  | stopped
  /-- It showed the help. -/
  | helped
  /-- The command line was refused. -/
  | refused (fault : CommandLine.UsageFault)
  | failed (fault : SessionFault)

/-- The status that a session exits with, where it says so itself. -/
def Outcome.exitStatus? : Outcome → Option Nat
  | helped => some 0
  | refused _ => some 2
  | failed .unreachable => some 1
  | stopped | failed _ => none

/-- A session with some arguments. -/
def runWith (a : CommandLine.Arguments) (messages : List (Text × Message)) : Running Unit := do
  prepare a
  cleaningUp (serve messages)

/-- A session with a command line and the messages that come before it is told to stop: how it
ends, and what it has become. -/
def run (h : Host) (line : List Text) (messages : List (Text × Message)) : Outcome × Session :=
  match CommandLine.read line with
  | .error fault => (.refused fault, ofHost h)
  | .ok .help => (.helped, ofHost h)
  | .ok (.run a) =>
    match runWith a messages (ofHost h) with
    | .ok () s => (.stopped, s)
    | .error fault s => (.failed fault, s)

end Session

end Tabletop
