import Tabletop.Data.Json.Writer
import Tabletop.Service.Command

/-!
# The message bus

Where commands come from and where answers and announcements go (`Bus`). The bus knows which
subscriptions are live, keeps a journal of what was asked of it, and may refuse a call
(`BusFaults`). The program may also be told to stop while it waits for a subscription to be made or
to end, or for the connection to be closed (`BusFault`). These waits are the program's own; what is
called while a message is handled, on behalf of the bus, can only be refused. Messages carry bytes;
what is sent is data with its JSON text (`Payload`), which must not be nested too deep.

* `Bus.subscribe`, `Bus.unsubscribe`, `Bus.publish`, `Bus.close`: the calls.
* `Bus.recipients`: the commands that a message to a subject reaches.
-/

namespace Tabletop

/-- How deep data to be sent may be nested. -/
def Payload.maxDepth : Nat := 979

/-- Data to be sent, with its text. -/
structure Payload where
  value : Value
  text : Text
  nesting_le : value.nesting ≤ Payload.maxDepth
  write_value : Json.write value = .ok text

/-- Why data has no text to be sent. -/
inductive PayloadFault where
  | tooDeep
  | numeral (fault : Numeral.Fault)
  deriving DecidableEq

/-- The wording of a fault. -/
def PayloadFault.message : PayloadFault → Text
  | tooDeep => "maximum recursion depth exceeded while encoding a JSON object"
  | numeral fault => fault.message

/-- Data to be sent, unless it has no text. -/
def Payload.ofValue (v : Value) : Except PayloadFault Payload :=
  if hn : v.nesting ≤ maxDepth then
    match hw : Json.write v with
    | .ok text => .ok { value := v, text, nesting_le := hn, write_value := hw }
    | .error fault => .error (.numeral fault)
  else .error .tooDeep

/-- A message from the bus. -/
structure Message where
  data : List UInt8
  /-- Where an answer is to go; empty if none is wanted. -/
  replyTo : Text
  /-- Why an answer cannot be sent. -/
  respondFault : Option Text := none

/-- Whether a message is to be answered. -/
def Message.wantsReply (m : Message) : Bool := !m.replyTo.isEmpty

/-- A subscription: its number among all that were made, and the command that it calls. -/
structure Subscription where
  number : Nat
  command : Command
  deriving DecidableEq

/-- The subject of a subscription. -/
def Subscription.subject (s : Subscription) : Text := s.command.subject

/-- One call in the journal. -/
inductive Exchange where
  /-- A subscription was asked for, and made or refused. -/
  | subscribe (command : Command) (made : Option Subscription)
  /-- A subscription was to end. -/
  | unsubscribe (subscription : Subscription)
  /-- Something was published. -/
  | publish (subject : Text) (payload : Payload)
  /-- A message was answered. -/
  | reply (payload : Payload)
  | close

/-- Why a call of the bus is given up. -/
inductive BusFault where
  | refused (message : Text)
  /-- The program is told to stop before the bus has answered. -/
  | interrupted
  deriving DecidableEq

/-- The wording of a fault. -/
def BusFault.message : BusFault → Text
  | refused message => message
  | interrupted => "interrupted"

/-- Why calls of the bus are given up. -/
structure BusFaults where
  /-- By how many subscriptions were asked for before. -/
  subscribe : Nat → Option BusFault := fun _ => none
  /-- By how many subscriptions were to end before. -/
  unsubscribe : Nat → Option BusFault := fun _ => none
  publish : Option Text := none
  close : Option BusFault := none

/-- A message bus. -/
structure Bus where
  faults : BusFaults := {}
  /-- How many subscriptions were made. -/
  made : Nat := 0
  /-- The subscriptions that are live, the oldest first. -/
  live : List Subscription := []
  /-- The calls, the oldest first. -/
  journal : List Exchange := []

/-- The commands whose subscription was asked for. -/
def requested (journal : List Exchange) : List Command :=
  journal.filterMap fun
    | .subscribe command _ => some command
    | _ => none

/-- The subscriptions that were made. -/
def madeIn (journal : List Exchange) : List Subscription :=
  journal.filterMap fun
    | .subscribe _ made => made
    | _ => none

/-- The subscriptions that were to end. -/
def endedIn (journal : List Exchange) : List Subscription :=
  journal.filterMap fun
    | .unsubscribe subscription => some subscription
    | _ => none

/-- What was published, with its subject. -/
def publishedIn (journal : List Exchange) : List (Text × Payload) :=
  journal.filterMap fun
    | .publish subject payload => some (subject, payload)
    | _ => none

/-- The answers. -/
def repliesIn (journal : List Exchange) : List Payload :=
  journal.filterMap fun
    | .reply payload => some payload
    | _ => none

/-- How often the bus was closed. -/
def closesIn (journal : List Exchange) : Nat :=
  (journal.filter fun
    | .close => true
    | _ => false).length

section journals

variable (xs ys : List Exchange)

@[simp] theorem requested_append : requested (xs ++ ys) = requested xs ++ requested ys :=
  List.filterMap_append

@[simp] theorem madeIn_append : madeIn (xs ++ ys) = madeIn xs ++ madeIn ys :=
  List.filterMap_append

@[simp] theorem endedIn_append : endedIn (xs ++ ys) = endedIn xs ++ endedIn ys :=
  List.filterMap_append

@[simp] theorem publishedIn_append : publishedIn (xs ++ ys) = publishedIn xs ++ publishedIn ys :=
  List.filterMap_append

@[simp] theorem repliesIn_append : repliesIn (xs ++ ys) = repliesIn xs ++ repliesIn ys :=
  List.filterMap_append

@[simp] theorem closesIn_append : closesIn (xs ++ ys) = closesIn xs + closesIn ys := by
  rw [closesIn, List.filter_append, List.length_append]
  rfl

end journals

namespace Bus

/-- A bus with one more call in its journal. -/
def record (b : Bus) (x : Exchange) : Bus := { b with journal := b.journal ++ [x] }

/-- Asks for a subscription to a command's subject. -/
def subscribe (command : Command) : EStateM BusFault Bus Subscription := fun b =>
  match b.faults.subscribe (requested b.journal).length with
  | some fault => .error fault (b.record (.subscribe command none))
  | none =>
    let subscription := { number := b.made, command }
    .ok subscription
      ({ b with made := b.made + 1, live := b.live ++ [subscription] }.record
        (.subscribe command (some subscription)))

/-- Ends a subscription. One whose end is given up stays live. -/
def unsubscribe (subscription : Subscription) : EStateM BusFault Bus Unit := fun b =>
  match b.faults.unsubscribe (endedIn b.journal).length with
  | some fault => .error fault (b.record (.unsubscribe subscription))
  | none =>
    .ok () ({ b with live := b.live.erase subscription }.record (.unsubscribe subscription))

/-- Publishes something. -/
def publish (subject : Text) (payload : Payload) : EStateM Text Bus Unit := fun b =>
  match b.faults.publish with
  | some fault => .error fault b
  | none => .ok () (b.record (.publish subject payload))

/-- Answers a message. -/
def respond (m : Message) (payload : Payload) : EStateM Text Bus Unit := fun b =>
  match m.respondFault with
  | some fault => .error fault b
  | none => .ok () (b.record (.reply payload))

/-- Closes the connection. -/
def close : EStateM BusFault Bus Unit := fun b =>
  match b.faults.close with
  | some fault => .error fault (b.record .close)
  | none => .ok () (b.record .close)

/-- The commands that a message to a subject reaches, in the order of their subscriptions. -/
def recipients (b : Bus) (subject : Text) : List Command :=
  (b.live.filter fun s => s.subject = subject).map (·.command)

end Bus

end Tabletop
