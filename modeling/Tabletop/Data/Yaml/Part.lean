import Tabletop.Data.Base64
import Tabletop.Data.Yaml.Key
import Tabletop.Data.Yaml.Node

/-!
# What nodes stand for

The data that each node of a document stands for (`Yaml.Part`), with the parts of lists and maps
given by the numbers of their nodes. The root comes first; what is in a list or map is looked at
after all that is as deep as the list or map itself, so that of several faults the least deep one is
found, and of those the first (`Yaml.Document.parts`).

* `Yaml.Making.start`: a node that is met; a scalar is data at once, a list or map waits.
* `Yaml.Making.flatten`: the entries that are merged into a map, put in front of its own.
* `Yaml.Making.fill`: a list or map whose turn it is.
-/

namespace Tabletop

namespace Yaml

/-- The data that a node stands for. -/
inductive Part where
  | scalar (key : Key)
  | list (items : List Nat)
  | pairs (items : List (Nat × Nat))
  | map (entries : List (Key × Nat))
  | set (items : List Value)

/-! ## Making -/

/-- Where the making of data stands. -/
structure Making where
  nodes : Array Node
  /-- What the nodes that have been met stand for. -/
  parts : Array (Option Part)
  /-- The lists and maps that wait, last one first. -/
  waiting : List Nat := []

/-- A computation that makes data. -/
abbrev Make (α : Type) := StateT Making (Except Fault) α

namespace Making

/-- The end of a computation for a node that stands for nothing. -/
def refuse {α : Type} : Make α := throw .malformed

/-- A node by its number. -/
def node (n : Nat) : Make Node := do pure ((← get).nodes.getD n .blank)

/-- What a node stands for, if it has been met. -/
def part? (n : Nat) : Make (Option Part) := do pure ((← get).parts.getD n none)

/-- Says what a node stands for. -/
def setPart (n : Nat) (p : Part) : Make Unit :=
  modify fun s => { s with parts := s.parts.setIfInBounds n (some p) }

/-- Puts another node in the place of one. -/
def setNode (n : Nat) (node : Node) : Make Unit :=
  modify fun s => { s with nodes := s.nodes.setIfInBounds n node }

/-- The entries of a map; other nodes have none. -/
def entries (n : Nat) : Make (List (Nat × Nat)) := do
  match (← node n).shape with
  | .map entries => pure entries
  | _ => pure []

/-! ## Scalars -/

/-- The text of a scalar, or of the value that stands for a map. -/
def text (fuel : Nat) (n : Nat) : Make Text := do
  match fuel with
  | 0 => throw .tooDeep
  | fuel + 1 =>
    match (← node n).shape with
    | .scalar t => pure t
    | .list _ => refuse
    | .map entries =>
      match ← entries.filterM fun entry => do pure ((← node entry.1).tag = .standard) with
      | [] => refuse
      | entry :: _ => text fuel entry.2

/-- The truth values by their words in lower case. -/
def truths : List (Text × Bool) :=
  [("yes", true), ("no", false), ("true", true), ("false", false), ("on", true), ("off", false)]

/-- The truth value that a text says. -/
def truth (t : Text) : Except Fault Bool :=
  let word := t.lowercase
  match truths.find? fun entry => entry.1 = word with
  | some entry => .ok entry.2
  | none => .error (.truth word)

/-- The point of time that a text says. -/
def time (t : Text) : Except Fault Timestamp :=
  match Timestamp.ofText? t with
  | none => .error .timestamp
  | some s =>
    match s.check with
    | .ok () => .ok s
    | .error fault => .error (.time fault)

/-- The data that the text of a node says; nothing for types of lists and maps. -/
def scalar? (n : Nat) (tag : Tag) (t : Text) : Option (Except Fault Key) :=
  match tag with
  | .null => some (.ok .null)
  | .bool => some ((truth t).map .ofBool)
  | .int => some ((wholeNumber t).map .ofInt)
  | .float => some ((floatNumber t).map (.ofFloat (if isNotNumber t then none else some n)))
  | .binary => some ((wellFormed (Base64.decode? t)).map .ofBytes)
  | .timestamp => some ((time t).map .ofTimestamp)
  | .text => some (.ok (.ofText t))
  | _ => none

/-- How many steps it may take from a map to the text of the value that stands for it. -/
def maxSteps : Nat := 900

/-- Whether a node is a scalar. -/
def isScalar (n : Node) : Bool :=
  match n.shape with
  | .scalar _ => true
  | _ => false

/-! ## Lists and maps -/

/-- What a list or map stands for before it is filled; nothing for types that there is no data
of. -/
def empty? : Tag → Option Part
  | .list => some (.list [])
  | .orderedMap | .pairs => some (.pairs [])
  | .map => some (.map [])
  | .set => some (.set [])
  | _ => none

/-- A node that is met: a scalar is data at once, a list or map waits. -/
def start (n : Nat) : Make Unit := do
  if (← part? n).isNone then
    let node ← node n
    match empty? node.tag with
    | some p =>
      setPart n p
      modify fun s => { s with waiting := n :: s.waiting }
    | none =>
      if node.tag ∈ [.merge, .standard, .unknown] then refuse
      let t ← text maxSteps n
      if node.tag = .timestamp ∧ !isScalar node then throw .timestampObject
      match scalar? n node.tag t with
      | some (.ok key) => setPart n (.scalar key)
      | some (.error fault) => throw fault
      | none => refuse

/-- The data of a key, which is no list or map. -/
def key (n : Nat) : Make Key := do
  start n
  match ← part? n with
  | some (.scalar key) => pure key
  | _ => refuse

/-! ## Merging -/

/-- Puts other entries in the place of those of a map. -/
def setEntries (n : Nat) (entries : List (Nat × Nat)) : Make Unit := do
  setNode n { ← node n with shape := .map entries }

/-- Whether an entry is a mark of a merge. -/
def isMerge (entry : Nat × Nat) : Make Bool := do pure ((← node entry.1).tag = .merge)

/-- A key that is the mark of a standard value is text. -/
def keepKey (n : Nat) : Make Unit := do
  let node ← node n
  if node.tag = .standard then setNode n { node with tag := .text }

/-- How many entries stand in front of the first mark of a merge. Their keys are kept. -/
def ownCount : List (Nat × Nat) → Make Nat
  | [] => pure 0
  | entry :: rest => do
    if ← isMerge entry then pure 0
    else
      keepKey entry.1
      pure ((← ownCount rest) + 1)

/-- The entries that are merged for one mark: those of a map, or of the maps of a list, the last map
first, into each of which its own merges have been put by a computation. -/
def merged (flatten : Nat → Make Unit) (n : Nat) : Make (List (Nat × Nat)) := do
  match (← node n).shape with
  | .map _ =>
    flatten n
    entries n
  | .list items =>
    let maps ← items.mapM fun item => do
      match (← node item).shape with
      | .map _ =>
        flatten item
        entries item
      | _ => refuse
    pure maps.reverse.flatten
  | .scalar _ => refuse

/-- The entries that are merged into a map are put in front of its own. So many of its own have been
looked at already, and some entries have been merged. A mark is taken away before what it merges is
looked at, so that a map that is merged into itself has one mark less each time. -/
def flattenFrom (fuel own : Nat) (more : List (Nat × Nat)) (n : Nat) : Make Unit := do
  match fuel with
  | 0 => pure ()
  | fuel + 1 =>
    let current ← entries n
    let own := own + (← ownCount (current.drop own))
    match current[own]? with
    | none => setEntries n (more ++ current)
    | some mark =>
      setEntries n (current.eraseIdx own)
      let found ← merged (flattenFrom fuel 0 []) mark.2
      flattenFrom fuel own (more ++ found) n

/-- How many marks of merges there are in all maps. -/
def mergeCount : Make Nat := do
  let marks ← (← get).nodes.toList.mapM fun node => do
    match node.shape with
    | .map entries => pure (← entries.filterM isMerge).length
    | _ => pure 0
  pure (marks.foldl (· + ·) 0)

/-- The entries that are merged into a map are put in front of its own. Each step but the last takes
a mark away, which bounds the fuel. -/
def flatten (n : Nat) : Make Unit := do
  let marks ← if ← (← entries n).anyM isMerge then mergeCount else pure 0
  flattenFrom (marks + 1) 0 [] n

/-! ## Filling -/

/-- The entries of a map, with its keys as data. -/
def mapEntries (n : Nat) : Make (List (Key × Nat)) := do
  match (← node n).shape with
  | .map _ =>
    flatten n
    (← entries n).foldlM (fun done entry => do
      let key ← key entry.1
      start entry.2
      pure (setEntry key entry.2 done)) []
  | _ => refuse

/-- The whole numbers that some values are, if all of them are. -/
def wholeNumbers? (items : List Value) : Option (List Int) :=
  items.mapM fun
    | .int n => some n
    | _ => none

/-- The members of a set: whole numbers in ascending order, others as they come. -/
def setMembers (keys : List Key) : List Value :=
  let items := keys.map (·.value)
  match wholeNumbers? items with
  | some ns => (ns.mergeSort (· ≤ ·)).map .int
  | none => items

/-- The only entry of a map, as a pair. -/
def pair (n : Nat) : Make (Nat × Nat) := do
  match (← node n).shape with
  | .map [(key, value)] =>
    start key
    start value
    pure (key, value)
  | _ => refuse

/-- A list or map whose turn it is. -/
def fill (n : Nat) : Make Unit := do
  let node ← node n
  match node.tag, node.shape with
  | .list, .list items =>
    items.forM start
    setPart n (.list items)
  | .orderedMap, .list items | .pairs, .list items =>
    setPart n (.pairs (← items.mapM pair))
  | .map, _ => setPart n (.map (← mapEntries n))
  | .set, _ => setPart n (.set (setMembers ((← mapEntries n).map Prod.fst)))
  | _, _ => refuse

/-- All that waits, and all that comes to wait meanwhile. Each round is one deeper. -/
def fillAll (fuel : Nat) : Make Unit := do
  match fuel with
  | 0 => pure ()
  | fuel + 1 =>
    let waiting := (← get).waiting.reverse
    unless waiting.isEmpty do
      modify fun s => { s with waiting := [] }
      waiting.forM fill
      fillAll fuel

end Making

/-- What the nodes of a document stand for. -/
def Document.parts (d : Document) : Except Fault (Array (Option Part)) := do
  let make : Make Unit := do
    Making.start d.root
    Making.fillAll (d.nodes.size + 1)
  let ((), s) ← make { nodes := d.nodes, parts := Array.replicate d.nodes.size none }
  .ok s.parts

end Yaml

end Tabletop
