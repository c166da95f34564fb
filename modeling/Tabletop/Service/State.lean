import Tabletop.Data.Json.Reader
import Tabletop.Log.Notice
import Tabletop.Notation.Input
import Tabletop.Service.Bus
import Tabletop.Service.Limits
import Tabletop.Transcript

/-!
# The state of the service

What the service was told (`ServiceOptions`), and what it has become: whether it is ready, the
subscriptions it remembers, its bus, its source of draws, and what it has written to the log
(`Service`). Its operations are computations on that state which may fail (`Serving`); the state is
known even then.

* `ServiceOptions.ofValue`: options from a block of settings, which holds whatever its author wrote.
* `ServiceFault.isRefusal`: which faults of a roll are answered.
-/

namespace Tabletop

/-- What the service is told. Data that is not a truth value counts by whether it is present. -/
structure ServiceOptions where
  limits : Limits := {}
  /-- Whether rolls are announced. -/
  announces : Value := .bool true
  /-- Whether chat texts have marks. -/
  marks : Value := .bool true

/-- The options in a block of settings. Data that counts as absent is an empty block; data of
another kind that is no object has no options. -/
def ServiceOptions.ofValue (v : Value) : Except InputFault ServiceOptions :=
  let standard : ServiceOptions := {}
  if !v.isTruthy then .ok standard
  else if v.kind = .object then
    .ok {
      limits := {
        maxDice := (v.get? "max_dice").getD standard.limits.maxDice
        maxSides := (v.get? "max_sides").getD standard.limits.maxSides }
      announces := (v.get? "emit_events").getD standard.announces
      marks := (v.get? "show_emoji").getD standard.marks }
  else .error (.lacks v.kind "get")

/-- Why the service fails. -/
inductive ServiceFault where
  /-- The notation, or data in its place. -/
  | input (fault : InputFault)
  | limit (fault : LimitFault)
  | roll (fault : RollFault)
  /-- A result cannot be shown. -/
  | transcript (fault : TranscriptFault)
  /-- A message is not read to its end. -/
  | data (fault : Json.Fault)
  /-- A call of the bus is given up. -/
  | bus (fault : BusFault)

namespace ServiceFault

/-- The wording of a fault. -/
def message : ServiceFault → Text
  | input fault => fault.message
  | limit fault => fault.message
  | roll fault => fault.message
  | transcript fault => fault.message
  | data fault => fault.message
  | bus fault => fault.message

/-- Whether a roll that fails so is answered with the fault. Any other fault ends the handling of
the command. -/
def isRefusal : ServiceFault → Bool
  | input (.parse _) => true
  | limit (.dice _) | limit (.sides _) | limit (.numeral _) => true
  | roll (.numeral _) => true
  | _ => false

end ServiceFault

/-- The service. -/
structure Service where
  options : ServiceOptions := {}
  /-- Whether every command has been subscribed to since the last stop. -/
  ready : Bool := false
  /-- The subscriptions to be ended at the next stop. -/
  subscriptions : List Subscription := []
  bus : Bus := {}
  source : Source
  /-- The time that announcements show. -/
  now : Text := []
  notices : List Notice := []

/-- A computation of the service. -/
abbrev Serving (α : Type) := EStateM ServiceFault Service α

namespace Service

/-- The name of the service. -/
def name : Text := "dice-roller"

/-- The version of the service. -/
def version : Text := "1.0.0"

/-- The name under which the service writes to the log. -/
def logger : Text := Text.ofString "plugins.dice_roller.plugin." ++ name

/-- Writes to the log. -/
def note (level : Level) (message : Text) : Serving Unit :=
  modify fun s => { s with notices := s.notices ++ [{ logger, level, message }] }

/-- A call of the bus. What it reports is part of the outcome. -/
def calling {ε α : Type} (call : EStateM ε Bus α) : Serving (Except ε α) := fun s =>
  match call s.bus with
  | .ok a bus => .ok (.ok a) { s with bus }
  | .error fault bus => .ok (.error fault) { s with bus }

/-- A computation whose fault is part of the outcome. -/
def attempt {α : Type} (action : Serving α) : Serving (Except ServiceFault α) := fun s =>
  match action s with
  | .ok a s' => .ok (.ok a) s'
  | .error fault s' => .ok (.error fault) s'

end Service

end Tabletop
