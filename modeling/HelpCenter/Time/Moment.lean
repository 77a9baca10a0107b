import HelpCenter.Number.Binary64
import HelpCenter.Text.Basic

/-!
# Moments

A moment is a number of microseconds since the beginning of 1970, counted without leap seconds
and without time zones.
-/

namespace HelpCenter

/-- A moment in time. -/
structure Moment where
  micros : Int
deriving DecidableEq

/-- A day of the Gregorian calendar. -/
structure Day where
  year : Int
  month : Nat
  day : Nat
deriving DecidableEq

/-- The day a number of days after 1 January 1970. Years are counted from March, in eras of 400
years, each of which has 146097 days. -/
def Day.ofEpoch (days : Int) : Day :=
  let z := days + 719468
  let era := z.fdiv 146097
  let d := (z - era * 146097).toNat
  let y := (d - d / 1460 + d / 36524 - d / 146096) / 365
  let dayOfYear := d - (365 * y + y / 4 - y / 100)
  let m := (5 * dayOfYear + 2) / 153
  let month := if m < 10 then m + 3 else m - 9
  { year := y + era * 400 + (if month ≤ 2 then 1 else 0)
    month
    day := dayOfYear - (153 * m + 2) / 5 + 1 }

namespace Moment

/-- The microseconds in a day. -/
def microsPerDay : Int := 86400000000

/-- The day of the moment. -/
def day (t : Moment) : Day := Day.ofEpoch (t.micros.fdiv microsPerDay)

/-- The microseconds since the day began. -/
def microsOfDay (t : Moment) : Nat := (t.micros.fmod microsPerDay).toNat

/-- The microseconds since the second began. -/
def fraction (t : Moment) : Nat := t.microsOfDay % 1000000

/-- The date as year, month and day. -/
def dateText (t : Moment) : Text :=
  Text.ofNatPadded 4 t.day.year.toNat ++ lit "-" ++ Text.ofNatPadded 2 t.day.month ++ lit "-" ++
    Text.ofNatPadded 2 t.day.day

/-- The time of day as hours, minutes and seconds. -/
def clockText (t : Moment) : Text :=
  let seconds := t.microsOfDay / 1000000
  let two := Text.ofNatPadded 2
  two (seconds / 3600) ++ lit ":" ++ two (seconds / 60 % 60) ++ lit ":" ++ two (seconds % 60)

/-- The moment as a text with date, time and offset; a fraction of a second has six digits and is
left out when it is zero. -/
def toText (t : Moment) : Text :=
  t.dateText ++ lit "T" ++ t.clockText ++
    (if t.fraction = 0 then [] else lit "." ++ Text.ofNatPadded 6 t.fraction) ++ lit "+00:00"

/-- The moment as log files have it, with milliseconds. -/
def stampText (t : Moment) : Text :=
  t.dateText ++ lit " " ++ t.clockText ++ lit "," ++ Text.ofNatPadded 3 (t.fraction / 1000)

/-- The whole milliseconds of the moment, computed from its seconds as a double. -/
def millis (t : Moment) : Int :=
  let seconds := Binary64.ofRatio (t.micros < 0) t.micros.natAbs 1000000
  ((seconds * .ofInt 1000).truncate?).getD 0

end Moment

end HelpCenter
