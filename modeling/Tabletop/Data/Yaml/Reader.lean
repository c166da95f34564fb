import Tabletop.Data.Yaml.Part

/-!
# Reading YAML

YAML text to data (`Yaml.read`). A text holds one document at most; one without any is nothing. A
list or map that is a part of itself is cut off where it comes again.

* `Yaml.Unfolding.value`: the data of a node, from what its parts stand for.
-/

namespace Tabletop

namespace Yaml

/-! ## Data -/

/-- A list that is a part of itself, where it comes again. -/
def listAgain : Value := .other .list "[...]" "[...]" true

/-- An object that is a part of itself, where it comes again. -/
def objectAgain : Value := .other .object "\x7b...\x7d" "\x7b...\x7d" true

/-- Entries as an object. -/
def objectOf (entries : List (Value × Value)) : Value :=
  let members := entries.filterMap fun
    | (.text name, value) => some (name, value)
    | _ => none
  if members.length = entries.length then .object members else .map entries

/-- The data of the nodes that have been unfolded. -/
abbrev Unfolding (α : Type) := StateM (Array (Option Value)) α

namespace Unfolding

/-- The data of a node inside some open ones. No more nodes than there are can be open, which bounds
the fuel. -/
def value (parts : Array (Option Part)) (fuel : Nat) (opened : List Nat) (n : Nat) :
    Unfolding Value := do
  match fuel with
  | 0 => pure .null
  | fuel + 1 =>
    match (← get).getD n none with
    | some v => pure v
    | none =>
      let again : Bool := n ∈ opened
      let inside := value parts fuel (n :: opened)
      let v ← match parts.getD n none with
        | none => pure .null
        | some (.scalar key) => pure key.value
        | some (.set items) => pure (.set items)
        | some (.list items) =>
          if again then pure listAgain else do pure (.list (← items.mapM inside))
        | some (.pairs items) =>
          if again then pure listAgain
          else do
            pure (.list (← items.mapM fun item => do
              pure (.pair (← inside item.1) (← inside item.2))))
        | some (.map entries) =>
          if again then pure objectAgain
          else do
            pure (objectOf (← entries.mapM fun entry => do
              pure (entry.1.value, ← inside entry.2)))
      unless again do modify fun known => known.setIfInBounds n (some v)
      pure v

end Unfolding

/-- The data that a document stands for. -/
def Document.toValue (d : Document) : Except Fault Value := do
  let parts ← d.parts
  let known := Array.replicate d.nodes.size none
  .ok (Unfolding.value parts (d.nodes.size + 1) [] d.root known).1

/-! ## Text -/

/-- The data that a text says, in which only so many lists and maps may be open at once. -/
def read (depth : Nat) (r : Readable) : Except Fault Value := do
  match ← Document.ofTokens depth (Tokens.ofReadable r) with
  | none => .ok .null
  | some d => d.toValue

end Yaml

end Tabletop
