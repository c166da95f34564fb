import Tabletop.Data.Value
import Tabletop.Data.Yaml.Cursor
import Tabletop.Moment

/-!
# Points of time in YAML

A day, or a day with a time (`Yaml.Timestamp`), as text says it (`Yaml.Timestamp.ofText?`) and as
data (`Yaml.Timestamp.toValue`). That the text has the form does not mean that the calendar has the
day.

* `Yaml.Timestamp.hasPlainForm`: whether plain text counts as one.
* `Yaml.Timestamp.check`: the first part that is out of its range.
-/

namespace Tabletop

namespace Yaml

/-- A time of the day. -/
structure Clock where
  hour : Nat
  minute : Nat
  second : Nat
  microsecond : Nat
  /-- How many minutes the place is ahead of universal time, if that is said. -/
  offset : Option Int

/-- A day, or a day with a time. -/
structure Timestamp where
  year : Nat
  month : Nat
  day : Nat
  clock : Option Clock

/-- The part of a point of time that is out of its range. -/
inductive TimeFault where
  | year (n : Nat)
  | month
  | day
  | hour
  | minute
  | second
  /-- A whole day or more. -/
  | offset (minutes : Int)
  deriving DecidableEq

/-- A span of time, given in minutes, as it is shown. -/
def spanText (minutes : Int) : Text :=
  let days := minutes.fdiv 1440
  let seconds := 60 * minutes.fmod 1440
  let parts : List Text :=
    (if days = 0 then [] else [Text.ofString "days=" ++ Numeral.unlimited days])
      ++ if seconds = 0 then [] else [Text.ofString "seconds=" ++ Numeral.unlimited seconds]
  Text.ofString "datetime.timedelta(" ++ Text.join ", " parts ++ Text.ofString ")"

/-- The wording of a fault. -/
def TimeFault.message : TimeFault → Text
  | year n => Text.ofString "year " ++ Numeral.digits n ++ Text.ofString " is out of range"
  | month => "month must be in 1..12"
  | day => "day is out of range for month"
  | hour => "hour must be in 0..23"
  | minute => "minute must be in 0..59"
  | second => "second must be in 0..59"
  | offset minutes =>
    Text.ofString "offset must be a timedelta strictly between -timedelta(hours=24) and "
      ++ Text.ofString "timedelta(hours=24), not " ++ spanText minutes ++ Text.ofString "."

/-! ## Reading -/

/-- A text without the line feed that it may end with. -/
def dropFinalBreak (t : Text) : Text :=
  if t.getLast? = some (.char '\n') then t.dropLast else t

namespace Timestamp

/-- The number that digits at the front of a text say, of which there are at least and at most so
many, and what follows them. -/
def number? (least most : Nat) (t : Text) : Option (Nat × Text) :=
  let ds := (t.take most).takeWhile (·.isDigit)
  if ds.length < least then none else some (Numeral.value ds, t.drop ds.length)

/-- What follows a sign at the front of a text. -/
def behind? (sign : Char) : Text → Option Text
  | [] => none
  | c :: rest => if c = .char sign then some rest else none

/-- The minutes at the end of an offset; there may be none. -/
def offsetMinutes? : Text → Option Nat
  | [] => some 0
  | t => do
    let (n, rest) ← number? 2 2 (← behind? ':' t)
    if rest.isEmpty then some n else none

/-- The offset that the end of a text says; there may be none. -/
def offset? (t : Text) : Option (Option Int) :=
  match t.dropWhile isGap with
  | [] => if t.isEmpty then some none else none
  | sign :: rest =>
    if sign = .char 'Z' ∧ rest.isEmpty then some (some 0)
    else if sign = .char '+' ∨ sign = .char '-' then do
      let (hours, rest) ← number? 1 2 rest
      let minutes : Int := 60 * hours + (← offsetMinutes? rest)
      some (some (if sign = .char '-' then -minutes else minutes))
    else none

/-- The microseconds that the digits of a fraction say, and what follows; the first six count. -/
def fraction (t : Text) : Nat × Text :=
  match t with
  | .char '.' :: rest =>
    let (ds, rest) := Numeral.splitDigits rest
    let ds := ds.take 6
    (Numeral.value ds * Nat.pow 10 (6 - ds.length), rest)
  | t => (0, t)

/-- The time that the rest of a text says, behind the day. -/
def clock? (t : Text) : Option Clock := do
  let start ←
    match t with
    | .char 'T' :: rest | .char 't' :: rest => some rest
    | c :: rest => if isGap c then some (rest.dropWhile isGap) else none
    | [] => none
  let (hour, rest) ← number? 1 2 start
  let (minute, rest) ← number? 2 2 (← behind? ':' rest)
  let (second, rest) ← number? 2 2 (← behind? ':' rest)
  let (microsecond, rest) := fraction rest
  some { hour, minute, second, microsecond, offset := ← offset? rest }

/-- The point of time that a text says. -/
def ofText? (t : Text) : Option Timestamp := do
  let (year, rest) ← number? 4 4 (dropFinalBreak t)
  let (month, rest) ← number? 1 2 (← behind? '-' rest)
  let (day, rest) ← number? 1 2 (← behind? '-' rest)
  if rest.isEmpty then some { year, month, day, clock := none }
  else some { year, month, day, clock := some (← clock? rest) }

/-- Whether plain text counts as a point of time: without a time, month and day have two digits. -/
def hasPlainForm (t : Text) : Bool :=
  match ofText? t with
  | some { clock := none, .. } => (dropFinalBreak t).length = 10
  | some _ => true
  | none => false

/-! ## The calendar -/

/-- Whether a year has the 29th of February. -/
def isLeap (year : Nat) : Bool := year % 4 = 0 && (year % 100 ≠ 0 || year % 400 = 0)

/-- The days of a month. -/
def monthDays (year month : Nat) : Nat :=
  if month = 2 then if isLeap year then 29 else 28
  else if month ∈ [4, 6, 9, 11] then 30
  else 31

/-- The number of a day; the first one of the year 1 is 1. -/
def days (s : Timestamp) : Nat :=
  let before := s.year - 1
  let months := (List.range' 1 (s.month - 1)).map (monthDays s.year)
  365 * before + before / 4 - before / 100 + before / 400 + months.foldl (· + ·) 0 + s.day

/-- The microseconds up to a time, where it is, from the start of the year 1 on. -/
def microseconds (s : Timestamp) : Int :=
  let ofDay := match s.clock with
    | none => 0
    | some c => 1000000 * (3600 * c.hour + 60 * c.minute + c.second) + c.microsecond
  86400000000 * (s.days - 1) + ofDay

/-- A day that the calendar has. -/
def checkDay (s : Timestamp) : Except TimeFault Unit :=
  if s.year = 0 then .error (.year s.year)
  else if s.month = 0 ∨ 12 < s.month then .error .month
  else if s.day = 0 ∨ monthDays s.year s.month < s.day then .error .day
  else .ok ()

/-- A time that a day has. -/
def checkClock (c : Clock) : Except TimeFault Unit :=
  if 23 < c.hour then .error .hour
  else if 59 < c.minute then .error .minute
  else if 59 < c.second then .error .second
  else .ok ()

/-- An offset of less than a day. -/
def checkOffset (c : Clock) : Except TimeFault Unit :=
  match c.offset with
  | some minutes => if 1440 ≤ minutes.natAbs then .error (.offset minutes) else .ok ()
  | none => .ok ()

/-- Nothing, or the first part that is out of its range: the offset, the day, the time. -/
def check (s : Timestamp) : Except TimeFault Unit := do
  match s.clock with
  | none => checkDay s
  | some clock =>
    checkOffset clock
    checkDay s
    checkClock clock

/-! ## Showing -/

/-- A day as it is shown. -/
def dayText (s : Timestamp) : Text :=
  Text.join "-" [Moment.padded 4 s.year, Moment.padded 2 s.month, Moment.padded 2 s.day]

/-- An offset as it is shown behind a time. -/
def offsetText (minutes : Int) : Text :=
  let n := minutes.natAbs
  .char (if minutes < 0 then '-' else '+')
    :: Text.join ":" [Moment.padded 2 (n / 60), Moment.padded 2 (n % 60)]

/-- A time as it is shown. -/
def clockText (c : Clock) : Text :=
  let fraction := if c.microsecond = 0 then [] else .char '.' :: Moment.padded 6 c.microsecond
  let time := Text.join ":"
    [Moment.padded 2 c.hour, Moment.padded 2 c.minute, Moment.padded 2 c.second]
  time ++ fraction ++ (c.offset.map offsetText).getD []

/-- The parts of a time that are shown within other data: no second or fraction that is zero. -/
def clockParts (c : Clock) : List Text :=
  let behind :=
    if c.microsecond ≠ 0 then [c.second, c.microsecond]
    else if c.second ≠ 0 then [c.second]
    else []
  let zone := match c.offset with
    | none => []
    | some 0 => [Text.ofString "tzinfo=datetime.timezone.utc"]
    | some minutes =>
      [Text.ofString "tzinfo=datetime.timezone(" ++ spanText minutes ++ Text.ofString ")"]
  ([c.hour, c.minute] ++ behind).map Numeral.digits ++ zone

/-- A point of time as data. -/
def toValue (s : Timestamp) : Value :=
  let day := [s.year, s.month, s.day].map Numeral.digits
  let quoted := fun (kind : Kind) (parts : List Text) =>
    kind.name ++ Text.ofString "(" ++ Text.join ", " parts ++ Text.ofString ")"
  match s.clock with
  | none => .other .date s.dayText (quoted .date day) true
  | some clock =>
    .other .time (s.dayText ++ Text.ofString " " ++ clockText clock)
      (quoted .time (day ++ clockParts clock)) true

end Timestamp

end Yaml

end Tabletop
