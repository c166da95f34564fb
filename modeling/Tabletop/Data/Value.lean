import Tabletop.Decimal.Shortest
import Tabletop.Text.Quoted

/-!
# Data

What requests, replies and settings are made of (`Value`): nothing, truth values, whole numbers,
floating-point numbers, texts, lists, and objects whose members keep the order in which their names
first came. Settings may also hold objects whose names are data of any kind, pairs, sets, bytes and
points of time.

* `Value.get?`, `setMember`: a member by name, and one set in place or added at the end.
* `Value.isTruthy`: whether a value counts as present where only that matters.
* `Value.display`: a value as text inside a message.
-/

namespace Tabletop

/-- The kinds of data. -/
inductive Kind where
  | null
  | bool
  | int
  | float
  | text
  | list
  | object
  | pair
  | set
  | bytes
  | date
  | time
  deriving DecidableEq

/-- How a kind is called in messages. -/
def Kind.name : Kind → Text
  | null => "NoneType"
  | bool => "bool"
  | int => "int"
  | float => "float"
  | text => "str"
  | list => "list"
  | object => "dict"
  | pair => "tuple"
  | set => "set"
  | bytes => "bytes"
  | date => "datetime.date"
  | time => "datetime.datetime"

/-- A piece of data. -/
inductive Value where
  | null
  | bool (b : Bool)
  | int (n : Int)
  | float (x : Binary64)
  | text (t : Text)
  | list (items : List Value)
  | object (members : List (Text × Value))
  /-- An object of which some name is no text. -/
  | map (entries : List (Value × Value))
  | pair (first second : Value)
  | set (items : List Value)
  /-- Data of a kind that is only shown, by itself and within other data, and that counts as present
  or not. -/
  | other (kind : Kind) (shown quoted : Text) (present : Bool)

/-- The member with a name, if there is one. -/
def lookup? (members : List (Text × Value)) (name : Text) : Option Value :=
  (members.find? fun m => m.1 = name).map Prod.snd

/-- Members with one of them set: in its place if the name is there, at the end otherwise. -/
def setMember (name : Text) (value : Value) : List (Text × Value) → List (Text × Value)
  | [] => [(name, value)]
  | member :: rest =>
    if member.1 = name then (name, value) :: rest else member :: setMember name value rest

namespace Value

mutual

/-- How deep lists and objects are nested in a value. -/
def nesting : Value → Nat
  | null | bool _ | int _ | float _ | text _ | other _ _ _ _ => 0
  | list items | set items => itemNesting items + 1
  | object members => memberNesting members + 1
  | map entries => entryNesting entries + 1
  | pair first second => max first.nesting second.nesting + 1

/-- How deep they are nested in some items. -/
def itemNesting : List Value → Nat
  | [] => 0
  | item :: rest => max item.nesting (itemNesting rest)

/-- How deep they are nested in some members. -/
def memberNesting : List (Text × Value) → Nat
  | [] => 0
  | (_, value) :: rest => max value.nesting (memberNesting rest)

/-- How deep they are nested in some entries. -/
def entryNesting : List (Value × Value) → Nat
  | [] => 0
  | (_, value) :: rest => max value.nesting (entryNesting rest)

end

/-- The kind of a value. -/
def kind : Value → Kind
  | null => .null
  | bool _ => .bool
  | int _ => .int
  | float _ => .float
  | text _ => .text
  | list _ => .list
  | object _ => .object
  | map _ => .object
  | pair _ _ => .pair
  | set _ => .set
  | other kind _ _ _ => kind

/-- Whether a value is neither nothing, false, zero nor empty. -/
def isTruthy : Value → Bool
  | null => false
  | bool b => b
  | int n => n != 0
  | float x => !x.isZero
  | text t => !t.isEmpty
  | list items => !items.isEmpty
  | object members => !members.isEmpty
  | map entries => !entries.isEmpty
  | pair _ _ => true
  | set items => !items.isEmpty
  | other _ _ _ present => present

/-- Whether a value is a certain text. -/
def isText (t : Text) : Value → Bool
  | text t' => t = t'
  | _ => false

/-- The member of an object with a name. -/
def get? (name : Text) : Value → Option Value
  | object members => lookup? members name
  | map entries => (entries.find? fun e => e.1.isText name).map Prod.snd
  | _ => none

/-- The texts of a value's parts between brackets. -/
def bracketed (opening closing : Char) (parts : List Text) : Text :=
  .char opening :: Text.join ", " parts ++ [.char closing]

mutual

/-- A value as it is shown within another one: texts are quoted. -/
def quoted : Value → Except Numeral.Fault Text
  | null => .ok "None"
  | bool b => .ok (if b then "True" else "False")
  | int n => Numeral.write n
  | float x => .ok (x.text "inf" "nan")
  | text t => .ok t.quoted
  | list items => do .ok (bracketed '[' ']' (← quotedItems items))
  | object members => do .ok (bracketed '\x7b' '\x7d' (← quotedMembers members))
  | map entries => do .ok (bracketed '\x7b' '\x7d' (← quotedEntries entries))
  | pair first second => do
    let text ← quoted first
    let text' ← quoted second
    .ok (bracketed '(' ')' [text, text'])
  | set items => do
    if items.isEmpty then .ok "set()" else .ok (bracketed '\x7b' '\x7d' (← quotedItems items))
  | other _ _ quoted _ => .ok quoted

/-- The items of a list as they are shown. -/
def quotedItems : List Value → Except Numeral.Fault (List Text)
  | [] => .ok []
  | item :: rest => do
    let text ← quoted item
    let texts ← quotedItems rest
    .ok (text :: texts)

/-- The members of an object as they are shown. -/
def quotedMembers : List (Text × Value) → Except Numeral.Fault (List Text)
  | [] => .ok []
  | (name, value) :: rest => do
    let text ← quoted value
    let texts ← quotedMembers rest
    .ok ((name.quoted ++ Text.ofString ": " ++ text) :: texts)

/-- The entries of an object whose names are data as they are shown. -/
def quotedEntries : List (Value × Value) → Except Numeral.Fault (List Text)
  | [] => .ok []
  | (key, value) :: rest => do
    let name ← quoted key
    let text ← quoted value
    let texts ← quotedEntries rest
    .ok ((name ++ Text.ofString ": " ++ text) :: texts)

end

/-- A value as it is shown in a message: a text is shown as it is. -/
def display : Value → Except Numeral.Fault Text
  | text t => .ok t
  | other _ shown _ _ => .ok shown
  | value => quoted value

end Value

end Tabletop
