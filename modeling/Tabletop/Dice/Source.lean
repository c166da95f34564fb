import Tabletop.Numeral

/-!
# Draws

Dice take their values from a source of draws (`Source`), which answers the request for one value
of a die with some faces, and which remembers what it gave. A source gives no more draws than its
limit, so whatever draws until something happens comes to an end.

* `Rolling`: a computation that draws. The source after it is known even when it fails.
* `draw`: one draw.
* `drawUntil`: draws up to the first one that passes a test.
-/

namespace Tabletop

/-- One draw: how many faces were asked for, and the value given. -/
structure Draw where
  faces : Int
  value : Int
  deriving DecidableEq

/-- A source of draws. -/
structure Source where
  /-- The value of the draw with a number, counted from zero, for a die with some faces; nothing if
  the source has no more. -/
  answer : Nat → Int → Option Int
  /-- How many draws the source gives at most. -/
  limit : Nat
  /-- The draws given so far, in order. -/
  drawn : Array Draw := #[]

/-- Why rolling stops without a result. -/
inductive RollFault where
  /-- The source has no more draws. -/
  | exhausted (after : Nat)
  /-- The source has given as many draws as it may. -/
  | overLimit (limit : Nat)
  | divisionByZero
  /-- A number is too long to be written. -/
  | numeral (fault : Numeral.Fault)
  deriving DecidableEq

/-- The wording of a fault. -/
def RollFault.message : RollFault → Text
  | exhausted n => Text.ofString "exhausted after " ++ Numeral.digits n ++ Text.ofString " draws"
  | overLimit n => Text.ofString "more than " ++ Numeral.digits n ++ Text.ofString " draws"
  | divisionByZero => "integer division or modulo by zero"
  | numeral fault => fault.message

/-- A computation that draws from a source. -/
abbrev Rolling (α : Type) := EStateM RollFault Source α

namespace Source

/-- A source that gives the draws of a script, whatever the faces. -/
def ofScript (script : List Int) : Source :=
  { answer := fun k _ => script[k]?, limit := script.length }

/-- A source that gives the draws of a stream, as many as its limit. -/
def ofStream (limit : Nat) (stream : Nat → Int) : Source :=
  { answer := fun k _ => some (stream k), limit }

end Source

/-- One draw of a die with some faces. -/
def draw (faces : Int) : Rolling Int := fun s =>
  if s.limit ≤ s.drawn.size then .error (.overLimit s.limit) s
  else
    match s.answer s.drawn.size faces with
    | none => .error (.exhausted s.drawn.size) s
    | some value => .ok value { s with drawn := s.drawn.push { faces, value } }

theorem lt_limit_of_draw {faces value : Int} {s s' : Source} (h : draw faces s = .ok value s') :
    s.drawn.size < s.limit ∧ s' = { s with drawn := s.drawn.push { faces, value } } := by
  unfold draw at h
  split at h
  · cases h
  · split at h
    · cases h
    · cases h
      exact ⟨by omega, rfl⟩

set_option linter.unusedVariables false in
/-- Draws of a die with some faces, up to and with the first one that passes a test. -/
def drawUntil (faces : Int) (stop : Int → Bool) : Rolling (List Int) := fun s =>
  match h : draw faces s with
  | .error fault s' => .error fault s'
  | .ok value s' =>
    if stop value then .ok [value] s'
    else
      match drawUntil faces stop s' with
      | .error fault s'' => .error fault s''
      | .ok values s'' => .ok (value :: values) s''
termination_by s => s.limit - s.drawn.size
decreasing_by
  obtain ⟨hlt, rfl⟩ := lt_limit_of_draw h
  simp only [Array.size_push]
  omega

end Tabletop
