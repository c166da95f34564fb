import Tabletop.Data.Yaml.Number

/-!
# Types of YAML

The types that nodes may have (`Yaml.Tag`), by their names (`Yaml.Tag.ofName`). A plain scalar has
the type that it has the form of (`Yaml.Tag.ofPlain`): nothing, a truth value, a number, a point of
time, or else text. A line feed at its end does not change the form.

* `Yaml.hasWholeForm`, `Yaml.hasFloatForm`: the forms of numbers.
-/

namespace Tabletop

namespace Yaml

/-- The types of nodes. -/
inductive Tag where
  | null
  | bool
  | int
  | float
  | binary
  | timestamp
  | text
  | list
  | map
  | set
  /-- A list of pairs, each with a key of its own. -/
  | orderedMap
  | pairs
  /-- The key whose value is merged into the map. -/
  | merge
  /-- The key of a value that stands for the map. -/
  | standard
  /-- Types that there is no data of. -/
  | unknown
  deriving DecidableEq

namespace Tag

/-- What the names of types begin with. -/
def space : Text := "tag:yaml.org,2002:"

/-- The types by the ends of their names. -/
def names : List (Text × Tag) :=
  [("null", null), ("bool", bool), ("int", int), ("float", float), ("binary", binary),
    ("timestamp", timestamp), ("str", text), ("seq", list), ("map", map), ("set", set),
    ("omap", orderedMap), ("pairs", pairs), ("merge", merge), ("value", standard)]

/-- The type with a name. -/
def ofName (name : Text) : Tag :=
  match Text.after? space name with
  | some ending => ((names.find? fun entry => entry.1 = ending).map Prod.snd).getD unknown
  | none => unknown

end Tag

/-! ## Forms -/

/-- Whether a text consists of such digits and of underscores, and is not empty. -/
def isRun (digit : CodePoint → Bool) (t : Text) : Bool :=
  !t.isEmpty && t.all fun c => digit c || c = .char '_'

/-- Whether a text is a run of decimal digits and underscores that begins with a digit. -/
def isNumeral (t : Text) : Bool := t.head?.any (·.isDigit) && isRun (·.isDigit) t

/-- Whether a text is a place to the base 60. -/
def isSixtieth (t : Text) : Bool :=
  match t with
  | [a] => a.isDigit
  | [a, b] => isDigitTo 6 a && b.isDigit
  | _ => false

/-- Whether a text has the form of a whole number. -/
def hasWholeForm (t : Text) : Bool :=
  match (splitSign t).2 with
  | [.char '0'] => true
  | .char '0' :: .char 'b' :: ds => isRun (isDigitTo 2) ds
  | .char '0' :: .char 'x' :: ds => isRun (isDigitTo 16) ds
  | .char '0' :: ds => isRun (isDigitTo 8) ds
  | t =>
    match places t with
    | first :: later => isNumeral first && later.all isSixtieth
    | [] => false

/-- Whether what is behind the point of a number has its form: digits and an exponent, which has a
sign. -/
def hasFractionForm (t : Text) : Bool :=
  match t.dropWhile fun c => c.isDigit || c = .char '_' with
  | [] => true
  | e :: sign :: ds =>
    (e = .char 'e' || e = .char 'E') && (sign = .char '+' || sign = .char '-') && !ds.isEmpty
      && ds.all (·.isDigit)
  | _ => false

/-- Whether a text has the form of a floating-point number. It has a point; a number that begins
with the point has no sign. -/
def hasFloatForm (t : Text) : Bool :=
  let digits := (splitSign t).2
  let whole := digits.takeWhile (· ≠ .char '.')
  match digits.dropWhile (· ≠ .char '.') with
  | [] => false
  | _ :: behind =>
    if whole.isEmpty then
      ["inf", "Inf", "INF"].any (behind = Text.ofString ·)
        || digits = t && (["nan", "NaN", "NAN"].any (behind = Text.ofString ·)
          || behind.head?.any (·.isDigit) && hasFractionForm behind)
    else if isNumeral whole then hasFractionForm behind
    else
      match places whole with
      | first :: later =>
        isNumeral first && later.all isSixtieth && behind.all fun c => c.isDigit || c = .char '_'
      | [] => false

/-- The words for nothing. -/
def nullWords : List Text := ["~", "null", "Null", "NULL"]

/-- The words for truth values. -/
def boolWords : List Text :=
  ["yes", "Yes", "YES", "true", "True", "TRUE", "on", "On", "ON",
    "no", "No", "NO", "false", "False", "FALSE", "off", "Off", "OFF"]

namespace Tag

/-- The type of a plain scalar. -/
def ofPlain (t : Text) : Tag :=
  let word := dropFinalBreak t
  if t.isEmpty ∨ nullWords.any (word = ·) then null
  else if boolWords.any (word = ·) then bool
  else if word = Text.ofString "<<" then merge
  else if word = Text.ofString "=" then standard
  else if ["!", "&", "*"].any (word = Text.ofString ·) then unknown
  else if hasFloatForm word then float
  else if hasWholeForm word then int
  else if Timestamp.hasPlainForm t then timestamp
  else text

end Tag

end Yaml

end Tabletop
