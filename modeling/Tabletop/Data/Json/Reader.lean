import Tabletop.Data.Json.Token

/-!
# Reading JSON

A JSON text to a value (`Json.read`), by a machine that takes one token at a time and keeps the
lists and objects that are still open, of which there may be only so many. Of members with one name
the last counts, in the place of the first. The first fault in the text is the one reported.

* `Json.Need`: what the text has to bring next.
* `Json.step`: one token.
-/

namespace Tabletop

namespace Json

/-- Why a text is not read. -/
inductive Fault where
  | malformed
  | numeral (fault : Numeral.Fault)
  /-- Too many lists and objects are open for one more of a kind. -/
  | tooDeep (kind : Kind)
  deriving DecidableEq

/-- The wording of a fault. -/
def Fault.message : Fault → Text
  | malformed => "not JSON"
  | numeral fault => fault.message
  | tooDeep kind =>
    Text.ofString "maximum recursion depth exceeded while decoding a JSON "
      ++ (if kind = .list then Text.ofString "array" else Text.ofString "object")
      ++ Text.ofString " from a unicode string"

/-- A list, last item first, or an object that is still open; an object has the name of the member
that is being read. -/
inductive Frame where
  | list (items : List Value)
  | object (members : List (Text × Value)) (name : Text)

/-- What comes next. -/
inductive Need where
  | value
  | valueOrClose
  | name
  | nameOrClose
  | colon
  | separator
  | nothing (result : Value)

/-- What comes next, and what is open, innermost first. -/
structure State where
  need : Need
  frames : List Frame

/-- The state after a value is complete. -/
def State.complete (v : Value) : List Frame → State
  | [] => { need := .nothing v, frames := [] }
  | .list items :: frames => { need := .separator, frames := .list (v :: items) :: frames }
  | .object members name :: frames =>
    { need := .separator, frames := .object (setMember name v members) name :: frames }

/-- The state after the first token of a value, if only so much may be open. -/
def openValue (depth : Nat) (frames : List Frame) : Token → Except Fault State
  | .openList =>
    if frames.length < depth then .ok { need := .valueOrClose, frames := .list [] :: frames }
    else .error (.tooDeep .list)
  | .openObject =>
    if frames.length < depth then .ok { need := .nameOrClose, frames := .object [] [] :: frames }
    else .error (.tooDeep .object)
  | .text t => .ok (.complete (.text t) frames)
  | .scalar v => .ok (.complete v frames)
  | .longNumber digits => .error (.numeral (.reading digits))
  | _ => .error .malformed

/-- The state after the name of a member. -/
def openMember (frames : List Frame) : Token → Except Fault State
  | .text name =>
    match frames with
    | .object members _ :: outer => .ok { need := .colon, frames := .object members name :: outer }
    | _ => .error .malformed
  | _ => .error .malformed

/-- The state after one more token. -/
def step (depth : Nat) (s : State) (token : Token) : Except Fault State :=
  match s.need, token, s.frames with
  | .value, _, frames => openValue depth frames token
  | .valueOrClose, .closeList, .list items :: frames => .ok (.complete (.list items.reverse) frames)
  | .valueOrClose, _, frames => openValue depth frames token
  | .name, _, frames => openMember frames token
  | .nameOrClose, .closeObject, .object members _ :: frames =>
    .ok (.complete (.object members) frames)
  | .nameOrClose, _, frames => openMember frames token
  | .colon, .colon, frames => .ok { need := .value, frames }
  | .separator, .comma, .list items :: frames =>
    .ok { need := .value, frames := .list items :: frames }
  | .separator, .comma, .object members name :: frames =>
    .ok { need := .name, frames := .object members name :: frames }
  | .separator, .closeList, .list items :: frames => .ok (.complete (.list items.reverse) frames)
  | .separator, .closeObject, .object members _ :: frames =>
    .ok (.complete (.object members) frames)
  | _, _, _ => .error .malformed

/-- The state after some tokens. -/
def run (depth : Nat) : State → List Token → Except Fault State
  | s, [] => .ok s
  | s, token :: rest =>
    match step depth s token with
    | .ok s' => run depth s' rest
    | .error fault => .error fault

/-- The value that a JSON text stands for, in which only so many lists and objects may be open at
once. -/
def read (depth : Nat) (t : Text) : Except Fault Value :=
  match run depth { need := .value, frames := [] } (tokens t) with
  | .ok { need := .nothing v, .. } => .ok v
  | .ok _ => .error .malformed
  | .error fault => .error fault

end Json

end Tabletop
