import Tabletop.Data.Yaml.Tag
import Tabletop.Data.Yaml.Token

/-!
# Nodes of YAML

The nodes of a YAML document (`Yaml.Document`): scalars, lists and maps, each with its type. Nodes
have numbers, and what a list or map is made of is given by number, so that an alias is the number
of the node that it names, even if that node is one that the alias is part of.

* `Yaml.Document.ofTokens`: the only document among some tokens; there may be none.
-/

namespace Tabletop

namespace Yaml

/-- What a node is made of. -/
inductive Shape where
  | scalar (text : Text)
  | list (items : List Nat)
  | map (entries : List (Nat × Nat))
  deriving Inhabited

/-- A node. -/
structure Node where
  tag : Tag
  shape : Shape

/-- What stands where nothing is written. -/
def Node.blank : Node := { tag := .null, shape := .scalar [] }

/-- A document: its nodes by number, and the one that all others are parts of. -/
structure Document where
  nodes : Array Node
  root : Nat

/-! ## Building -/

/-- The handles of types, and what they stand for, unless a directive says something else. -/
def standardHandles : List (Text × Text) := [("!", "!"), ("!!", Tag.space)]

/-- Where the building of nodes stands. -/
structure Building where
  tokens : Tokens
  handles : List (Text × Text) := standardHandles
  /-- The names that have been given, and the numbers of what they name. -/
  names : List (Text × Nat) := []
  nodes : Array Node := #[]
  /-- How many more lists and maps may be open. -/
  room : Nat

/-- A computation that builds nodes. -/
abbrev Build (α : Type) := StateT Building (Except Fault) α

namespace Build

/-- The end of a computation for tokens that do not fit. -/
def refuse {α : Type} : Build α := throw .malformed

/-- The next token; there is none at the end of the text. -/
def next : Build (Option Token) := fun s =>
  match s.tokens.list, s.tokens.fault with
  | [], some fault => .error fault
  | list, _ => .ok (list.head?, s)

/-- Whether the next token is one of some. -/
def nextIn (ts : List Token) : Build Bool := do
  let t ← next
  pure (t.any (· ∈ ts))

/-- Takes the next token. -/
def advance : Build Unit :=
  modify fun s => { s with tokens := { s.tokens with list := s.tokens.list.tail } }

/-- Takes the next token, which has to be a certain one. -/
def expect (t : Token) : Build Unit := do
  if ← nextIn [t] then advance else refuse

/-- One more node. -/
def add (n : Node) : Build Nat := fun s =>
  .ok (s.nodes.size, { s with nodes := s.nodes.push n })

/-- A name, which has to be a new one, for the next node. -/
def name (n : Option Text) : Build Unit := fun s =>
  match n with
  | none => .ok ((), s)
  | some n =>
    if s.names.any fun entry => entry.1 = n then .error .malformed
    else .ok ((), { s with names := (n, s.nodes.size) :: s.names })

/-- The node that a name names. -/
def named (n : Text) : Build Nat := do
  match (← get).names.find? fun entry => entry.1 = n with
  | some entry => pure entry.2
  | none => refuse

/-- A list or map that is built when its number is known already. -/
def within (tag : Tag) (parts : Build Shape) : Build Nat := do
  if (← get).room = 0 then throw .tooDeep
  let n ← add { tag, shape := .list [] }
  modify fun s => { s with room := s.room - 1 }
  let shape ← parts
  modify fun s => { s with room := s.room + 1, nodes := s.nodes.setIfInBounds n { tag, shape } }
  pure n

/-! ## Properties -/

/-- What stands in front of a node. -/
structure Properties where
  name : Option Text := none
  /-- The type in full; a lone mark asks for the type that the node has the form of. -/
  type : Option Text := none

/-- Whether nothing is said. -/
def Properties.isEmpty (p : Properties) : Bool := p.name.isNone && p.type.isNone

/-- The type that is said, unless it is a lone mark. -/
def Properties.type? (p : Properties) : Option Tag :=
  (p.type.filter (· ≠ Text.ofString "!")).map Tag.ofName

/-- The type of a list. -/
def Properties.listTag (p : Properties) : Tag := p.type?.getD .list

/-- The type of a map. -/
def Properties.mapTag (p : Properties) : Tag := p.type?.getD .map

/-- The type of a scalar. Of quoted text only a lone mark asks for the form. -/
def Properties.scalarTag (p : Properties) (plain : Bool) (t : Text) : Tag :=
  p.type?.getD (if plain ∨ p.type.isSome then .ofPlain t else .text)

/-- A type in full. -/
def fullType (handle : Option Text) (name : Text) : Build Text := do
  match handle with
  | none => pure name
  | some handle =>
    match (← get).handles.find? fun entry => entry.1 = handle with
    | some entry => pure (entry.2 ++ name)
    | none => refuse

/-- The name that the next token gives, if it gives one. -/
def anchor? : Build (Option Text) := do
  match ← next with
  | some (.anchor name) =>
    advance
    pure (some name)
  | _ => pure none

/-- The type that the next token gives, if it gives one. -/
def tag? : Build (Option (Option Text × Text)) := do
  match ← next with
  | some (.tag handle name) =>
    advance
    pure (some (handle, name))
  | _ => pure none

/-- What stands in front of a node, in either order. -/
def properties : Build Properties := do
  let first ← anchor?
  let tag ← tag?
  let name ← if first.isSome ∨ tag.isNone then pure first else anchor?
  match tag with
  | none => pure { name }
  | some (handle, type) => pure { name, type := some (← fullType handle type) }

/-! ## Content -/

mutual

/-- A node. Outside brackets it may be a block, and behind a key one whose entries are not
indented. -/
def node (fuel : Nat) (block unindented : Bool) : Build Nat := do
  match fuel with
  | 0 => refuse
  | fuel + 1 =>
    if let some (.alias name) := ← next then
      advance
      named name
    else
      let p ← properties
      let empty : Build Nat :=
        if p.isEmpty then refuse else do
          name p.name
          add { tag := p.scalarTag true [], shape := .scalar [] }
      match ← next with
      | some (.scalar plain text) =>
        advance
        name p.name
        add { tag := p.scalarTag plain text, shape := .scalar text }
      | some .listOpen =>
        advance
        name p.name
        within p.listTag (.list <$> listItems fuel true)
      | some .mapOpen =>
        advance
        name p.name
        within p.mapTag (.map <$> mapEntries fuel true)
      | some .entry =>
        if unindented then
          name p.name
          within p.listTag (.list <$> blockItems fuel [.entry, .key, .value, .blockEnd])
        else empty
      | some .blockEntries =>
        if block then
          advance
          name p.name
          within p.listTag do
            let items ← blockItems fuel [.entry, .blockEnd]
            expect .blockEnd
            pure (.list items)
        else empty
      | some .blockKeys =>
        if block then
          advance
          name p.name
          within p.mapTag do
            let entries ← blockEntries fuel
            expect .blockEnd
            pure (.map entries)
        else empty
      | _ => empty

/-- A node, or nothing in front of some tokens. -/
def nodeBefore (fuel : Nat) (block unindented : Bool) (ends : List Token) : Build Nat := do
  match fuel with
  | 0 => refuse
  | fuel + 1 => if ← nextIn ends then add .blank else node fuel block unindented

/-- The entries of a block. -/
def blockItems (fuel : Nat) (ends : List Token) : Build (List Nat) := do
  match fuel with
  | 0 => refuse
  | fuel + 1 =>
    if ← nextIn [.entry] then
      advance
      let item ← nodeBefore fuel true false ends
      let rest ← blockItems fuel ends
      pure (item :: rest)
    else pure []

/-- The keys of a block, each with its value. -/
def blockEntries (fuel : Nat) : Build (List (Nat × Nat)) := do
  match fuel with
  | 0 => refuse
  | fuel + 1 =>
    if ← nextIn [.key] then
      advance
      let ends : List Token := [.key, .value, .blockEnd]
      let key ← nodeBefore fuel true true ends
      let value ← valueBefore fuel true ends
      let rest ← blockEntries fuel
      pure ((key, value) :: rest)
    else pure []

/-- The value behind a key, or nothing. -/
def valueBefore (fuel : Nat) (block : Bool) (ends : List Token) : Build Nat := do
  match fuel with
  | 0 => refuse
  | fuel + 1 =>
    if ← nextIn [.value] then
      advance
      nodeBefore fuel block block ends
    else add .blank

/-- The items of a list in brackets, up to and with the closing one. -/
def listItems (fuel : Nat) (first : Bool) : Build (List Nat) := do
  match fuel with
  | 0 => refuse
  | fuel + 1 =>
    if ← nextIn [.listClose] then
      advance
      pure []
    else
      unless first do expect .comma
      if ← nextIn [.key] then
        advance
        let item ← within .map do
          let key ← nodeBefore fuel false false [.value, .comma, .listClose]
          let value ← valueBefore fuel false [.comma, .listClose]
          pure (.map [(key, value)])
        let rest ← listItems fuel false
        pure (item :: rest)
      else if ← nextIn [.listClose] then
        advance
        pure []
      else
        let item ← node fuel false false
        let rest ← listItems fuel false
        pure (item :: rest)

/-- The entries of a map in brackets, up to and with the closing one. -/
def mapEntries (fuel : Nat) (first : Bool) : Build (List (Nat × Nat)) := do
  match fuel with
  | 0 => refuse
  | fuel + 1 =>
    if ← nextIn [.mapClose] then
      advance
      pure []
    else
      unless first do expect .comma
      if ← nextIn [.key] then
        advance
        let key ← nodeBefore fuel false false [.value, .comma, .mapClose]
        let value ← valueBefore fuel false [.comma, .mapClose]
        let rest ← mapEntries fuel false
        pure ((key, value) :: rest)
      else if ← nextIn [.mapClose] then
        advance
        pure []
      else
        let key ← node fuel false false
        let value ← add .blank
        let rest ← mapEntries fuel false
        pure ((key, value) :: rest)

end

/-! ## Documents -/

/-- Takes the directives in front of a document, of which one at most says the version, which has to
be 1, and one at most explains a handle. The handles that they explain are given. -/
def directives (fuel : Nat) (versioned : Bool) (handles : List (Text × Text)) :
    Build (List (Text × Text)) := do
  match fuel with
  | 0 => refuse
  | fuel + 1 =>
    match ← next with
    | some (.version major) =>
      advance
      if versioned ∨ major ≠ 1 then refuse else directives fuel true handles
    | some (.handle handle start) =>
      advance
      if handles.any fun entry => entry.1 = handle then refuse
      else directives fuel versioned ((handle, start) :: handles)
    | some .directive =>
      advance
      directives fuel versioned handles
    | _ => pure handles

/-- Takes the ends of documents. -/
def documentEnds (fuel : Nat) : Build Unit := do
  match fuel with
  | 0 => refuse
  | fuel + 1 =>
    if ← nextIn [.documentEnd] then
      advance
      documentEnds fuel

/-- Whether a token is no content of a document. -/
def isMark : Token → Bool
  | .version _ | .handle _ _ | .directive | .documentStart | .documentEnd => true
  | _ => false

/-- The content of a document behind its mark, or nothing. -/
def content (fuel : Nat) : Build Nat := do
  if (← next).all isMark then add .blank else node fuel true false

/-- The only document, if there is one. -/
def document? (fuel : Nat) : Build (Option Nat) := do
  let first ← next
  if first.isNone then pure none
  else
    let root ←
      if first.any isMark then do
        let handles ← directives fuel false []
        expect .documentStart
        modify fun s => { s with handles := handles ++ standardHandles }
        content fuel
      else node fuel true false
    documentEnds fuel
    if (← next).isNone then pure (some root)
    else
      let _ ← directives fuel false []
      refuse

end Build

/-- The only document among some tokens, if there is one. Only so many of its lists and maps may be
open at once. -/
def Document.ofTokens (depth : Nat) (tokens : Tokens) : Except Fault (Option Document) := do
  let (root, s) ← Build.document? (3 * tokens.list.length + 3) { tokens, room := depth }
  .ok (root.map fun root => { nodes := s.nodes, root })

end Yaml

end Tabletop
