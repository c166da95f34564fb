import Tabletop.Numeral

/-!
# Points of time

A point of time (`Moment`) in universal time, as announcements show it (`Moment.stamp`) and as the
log shows it (`Moment.logText`).
-/

namespace Tabletop

/-- A point of time: the microseconds since the start of the year 1970. -/
structure Moment where
  microseconds : Int
  deriving DecidableEq

/-- A day of the calendar. -/
structure Date where
  year : Int
  month : Nat
  day : Nat
  deriving DecidableEq

/-- The day so many days after the first of March of the year 0. The years of the count begin in
March, so that the day that leap years have in addition is the last one. -/
def Date.ofDays (days : Int) : Date :=
  let era := days.fdiv 146097
  let inEra := (days.fmod 146097).toNat
  let yearInEra := (inEra - inEra / 1460 + inEra / 36524 - inEra / 146096) / 365
  let inYear := inEra - (365 * yearInEra + yearInEra / 4 - yearInEra / 100)
  let shifted := (5 * inYear + 2) / 153
  let month := if shifted < 10 then shifted + 3 else shifted - 9
  { year := era * 400 + yearInEra + (if month ≤ 2 then 1 else 0), month
    day := inYear - (153 * shifted + 2) / 5 + 1 }

namespace Moment

/-- The days from the first of March of the year 0 to the first of January 1970. -/
def daysBefore : Int := 719468

/-- A number with zeros in front up to a width. -/
def padded (width n : Nat) : Text :=
  let digits := Numeral.digits n
  List.replicate (width - digits.length) (.char '0') ++ digits

/-- The seconds since the start of the year 1970, and the microseconds behind them. -/
def seconds (m : Moment) : Int := m.microseconds.fdiv 1000000

/-- The microseconds of a second. -/
def fraction (m : Moment) : Nat := (m.microseconds.fmod 1000000).toNat

/-- The day. -/
def date (m : Moment) : Date := Date.ofDays (m.seconds.fdiv 86400 + daysBefore)

/-- The second of the day. -/
def timeOfDay (m : Moment) : Nat := (m.seconds.fmod 86400).toNat

/-- The day as text. -/
def dateText (m : Moment) : Text :=
  padded 4 m.date.year.toNat ++ Text.ofString "-" ++ padded 2 m.date.month ++ Text.ofString "-"
    ++ padded 2 m.date.day

/-- The time of the day as text. -/
def timeText (m : Moment) : Text :=
  let t := m.timeOfDay
  padded 2 (t / 3600) ++ Text.ofString ":" ++ padded 2 (t / 60 % 60) ++ Text.ofString ":"
    ++ padded 2 (t % 60)

/-- A point of time as announcements show it: with microseconds, unless there are none. -/
def stamp (m : Moment) : Text :=
  let fraction := if m.fraction = 0 then [] else .char '.' :: padded 6 m.fraction
  m.dateText ++ Text.ofString "T" ++ m.timeText ++ fraction ++ Text.ofString "+00:00"

/-- A point of time as the log shows it: with milliseconds. -/
def logText (m : Moment) : Text :=
  m.dateText ++ Text.ofString " " ++ m.timeText ++ Text.ofString "," ++ padded 3 (m.fraction / 1000)

end Moment

end Tabletop
