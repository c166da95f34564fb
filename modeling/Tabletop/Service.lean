import Tabletop.Data.Json.Reader
import Tabletop.Service.Guide
import Tabletop.Service.Response
import Tabletop.Service.State
import Tabletop.Text.Utf8

/-!
# The dice service

The service answers chat commands that come over the bus. A message holds a JSON object with the
channel, the user and the arguments of a command; it is answered if it says where to.

* `Service.roll`: a line of notation under the limits.
* `Service.serve`: an order, announced and turned into a response.
* `Service.handle`: a message for a command.
* `Service.start`, `Service.stop`: subscribing to all commands, and ending all subscriptions.
* `Service.deliver`: a message to a subject.
-/

namespace Tabletop

/-- A line of notation to be rolled: for whom, and how it is described. -/
structure Order where
  channel : Value
  user : Value
  line : Text
  description : Option Text := none

/-- Why a message is not understood. -/
inductive MessageFault where
  /-- The bytes are not text, or the text is not JSON. -/
  | unreadable
  /-- The data is not an object. -/
  | notObject (kind : Kind)
  deriving DecidableEq

/-- The wording of a fault. -/
def MessageFault.message : MessageFault → Text
  | unreadable => "not JSON"
  | notObject kind => Text.ofString "expected an object, got " ++ kind.name

/-- What a message that is not understood is called. -/
def invalidMessage : Text := "Invalid message format"

namespace Service

/-! ## Rolling -/

/-- A line of notation: read, held against the limits, and rolled. -/
def roll (line : Text) : Serving Result := fun s =>
  match Expression.parse line with
  | .error fault => .error (.input (.parse fault)) s
  | .ok e =>
    match s.options.limits.check e with
    | .error fault => .error (.limit fault) s
    | .ok () =>
      match e.evaluate line.strip s.source with
      | .ok result source => .ok result { s with source }
      | .error fault source => .error (.roll fault) { s with source }

/-- Announces a roll. An announcement that fails is noted, and nothing else. -/
def announce (a : Announcement) : Serving Unit := do
  let s ← get
  let outcome ← match Payload.ofValue (a.toValue s.now) with
    | .ok payload => calling (Bus.publish rolledSubject payload)
    | .error fault => pure (.error fault.message)
  match outcome with
  | .ok () => pure ()
  | .error message => note .debug (Text.ofString "Could not publish roll event: " ++ message)

/-- Turns an order into a response. -/
def serve (order : Order) : Serving Response := do
  if order.line.isEmpty then return .failed rollUsage
  let options := (← get).options
  match ← attempt (roll order.line) with
  | .error fault =>
    if fault.isRefusal then
      note .debug (Text.ofString "Roll error for '" ++ order.line ++ Text.ofString "': "
        ++ fault.message)
      return .failed (errorText fault.message options.marks.isTruthy)
    else throw fault
  | .ok result =>
    if options.announces.isTruthy then
      announce { channel := order.channel, user := order.user, result,
                 description := order.description }
    match result.chatText order.description options.marks.isTruthy with
    | .ok chat => return .rolled result chat
    | .error fault => throw (.transcript fault)

/-! ## Messages -/

/-- Answers a message, if an answer is wanted. An answer that cannot be sent is noted, and nothing
else. -/
def respond (m : Message) (response : Response) : Serving Unit := do
  if m.wantsReply then
    let outcome ← match Payload.ofValue response.toValue with
      | .ok payload => calling (Bus.respond m payload)
      | .error fault => pure (.error fault.message)
    match outcome with
    | .ok () => pure ()
    | .error message => note .error (Text.ofString "Error sending response: " ++ message)

/-- How deep the data of a message may be nested: one level more than what is sent, which is written
one call further down than a message is read. -/
def maxDepth : Nat := Payload.maxDepth + 1

/-- The object that a message holds, or why it holds none. A number that is too long and data that
is nested too deep are faults of their own. -/
def Message.read (m : Message) : Except Json.Fault (Except MessageFault (List (Text × Value))) :=
  match Utf8.decode m.data with
  | none => .ok (.error .unreadable)
  | some text =>
    match Json.read maxDepth text with
    | .ok (.object members) => .ok (.ok members)
    | .ok v => .ok (.error (.notObject v.kind))
    | .error .malformed => .ok (.error .unreadable)
    | .error fault => .error fault

/-- The member of a request with a name, or a default. -/
def memberOr (members : List (Text × Value)) (name : Text) (default : Value) : Value :=
  (lookup? members name).getD default

/-- The arguments of a request, on which an operation of texts is to be done. -/
def arguments (members : List (Text × Value)) (operation : Text) : Except InputFault Text :=
  match memberOr members "args" (.text []) with
  | .text t => .ok t
  | v => .error (.lacks v.kind operation)

/-- The order in a request. -/
def orderOf (members : List (Text × Value)) (line : Text) (description : Option Text) : Order :=
  { channel := memberOr members "channel" (.text "unknown")
    user := memberOr members "user" (.text "unknown"), line, description }

/-- The response to a request. -/
def request (command : Command) (members : List (Text × Value)) : Serving Response :=
  match command with
  | .roll =>
    match arguments members "strip" with
    | .error fault => throw (.input fault)
    | .ok args => serve (orderOf members args.strip none)
  | .describe =>
    match arguments members "split" with
    | .error fault => throw (.input fault)
    | .ok args =>
      match args.splitFirstWord? with
      | none => pure (.failed describeUsage)
      | some (line, rest) =>
        serve (orderOf members line (if rest.isEmpty then none else some rest))
  | .help =>
    match arguments members "split" with
    | .error fault => throw (.input fault)
    | .ok args =>
      pure (.explained (guide (args.words.any fun w => w = "-d" ∨ w = "--detailed")))

/-- Handles a message for a command. -/
def handle (command : Command) (m : Message) : Serving Unit :=
  match Message.read m with
  | .error fault => throw (.data fault)
  | .ok (.error fault) => do
    note .error (invalidMessage ++ Text.ofString ": " ++ fault.message)
    respond m (.failed invalidMessage)
  | .ok (.ok members) => do
    let response ← request command members
    respond m response

/-- Handles a message for some commands, one after the other. -/
def handleAll (m : Message) : List Command → Serving Unit
  | [] => pure ()
  | command :: rest => do
    handle command m
    handleAll m rest

/-- Delivers a message to a subject, and says how many subscriptions it reached. -/
def deliver (subject : Text) (m : Message) : Serving Nat := do
  let recipients := (← get).bus.recipients subject
  handleAll m recipients
  return recipients.length

/-! ## Starting and stopping -/

/-- Subscribes to commands, one after the other, up to the first that is refused. -/
def subscribeAll : List Command → Serving Unit
  | [] => pure ()
  | command :: rest => do
    match ← calling (Bus.subscribe command) with
    | .error fault => throw (.bus fault)
    | .ok subscription =>
      modify fun s => { s with subscriptions := s.subscriptions ++ [subscription] }
      subscribeAll rest

/-- Subscribes to all commands. -/
def start : Serving Unit := do
  note .info (Text.ofString "Initializing " ++ name ++ Text.ofString " plugin v" ++ version)
  subscribeAll Command.all
  modify fun s => { s with ready := true }
  note .info (Text.ofString "Plugin initialized. Subscribed to: "
    ++ Text.join ", " (Command.all.map Command.subject))

/-- Ends subscriptions, one after the other, until the service is told to stop. An end that is
refused is noted. -/
def unsubscribeAll : List Subscription → Serving Unit
  | [] => pure ()
  | subscription :: rest => do
    match ← calling (Bus.unsubscribe subscription) with
    | .ok () => pure ()
    | .error (.refused message) => note .warning (Text.ofString "Error unsubscribing: " ++ message)
    | .error .interrupted => throw (.bus .interrupted)
    unsubscribeAll rest

/-- Ends all subscriptions that are remembered, and forgets them. -/
def stop : Serving Unit := do
  note .info (Text.ofString "Shutting down " ++ name ++ Text.ofString " plugin")
  unsubscribeAll (← get).subscriptions
  modify fun s => { s with subscriptions := [], ready := false }
  note .info "Plugin shutdown complete"

end Service

end Tabletop
