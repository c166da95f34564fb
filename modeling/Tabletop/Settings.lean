import Tabletop.Data.Json.Reader
import Tabletop.Data.Yaml.Reader
import Tabletop.Files
import Tabletop.Notation.Input
import Tabletop.Text.Utf8

/-!
# Settings

Settings are data in a file (`Settings.load`), YAML if the name of the file says so and JSON
otherwise. Data that counts as absent is an empty object. A file may hold a block for each of
several services, or be the block of one of them (`Settings.block`).
-/

namespace Tabletop

/-- Why settings cannot be loaded. -/
inductive SettingsFault where
  | path (fault : PathFault)
  /-- The bytes are not text. -/
  | encoding
  | json (fault : Json.Fault)
  | yaml (fault : Yaml.Fault)

/-- The wording of a fault. -/
def SettingsFault.message : SettingsFault → Text
  | path fault => fault.message
  | encoding => "settings that are not UTF-8"
  | json fault => fault.message
  | yaml fault => fault.message

namespace Settings

/-- How deep JSON settings may be nested. -/
def maxDepth : Nat := 989

/-- How deep YAML settings may be nested. -/
def maxYamlDepth : Nat := 489

/-- Whether a text ends with another one. -/
def endsWith (t ending : Text) : Bool := ending.reverse.isPrefixOf t.reverse

/-- Whether a path is that of a YAML file. -/
def isYaml (path : Text) : Bool := endsWith path ".yaml" || endsWith path ".yml"

/-- The data that the bytes of a file say. -/
def parse (path : Text) (bytes : List UInt8) : Except SettingsFault Value :=
  if isYaml path then
    match Yaml.read maxYamlDepth (.ofBytes bytes) with
    | .ok v => .ok v
    | .error .encoding => .error .encoding
    | .error fault => .error (.yaml fault)
  else
    match Utf8.decode bytes with
    | none => .error .encoding
    | some t =>
      match Json.read maxDepth t with
      | .ok v => .ok v
      | .error fault => .error (.json fault)

/-- The settings in a file. -/
def load (files : Files) (path : Text) : Except SettingsFault Value :=
  match files.read path with
  | .error fault => .error (.path fault)
  | .ok bytes => do
    let v ← parse path bytes
    .ok (if v.isTruthy then v else .object [])

/-- The member of settings with a name, or a default; settings that are no object have none. -/
def member (settings : Value) (name : Text) (default : Value) : Except InputFault Value :=
  if settings.kind = .object then .ok ((settings.get? name).getD default)
  else .error (.lacks settings.kind "get")

/-- The block of a service: its part of the block of all services, if there is one, and all of the
settings otherwise. -/
def block (settings : Value) (service : Text) : Except InputFault Value := do
  let services ← member settings "plugins" .null
  if services.kind = .object then
    let part := (services.get? service).getD .null
    .ok (if part.isTruthy then part else .object [])
  else .ok settings

end Settings

end Tabletop
