import SealedKeys.Der.Element

/-!
Points in time, as certificates write them.

A time is a number of seconds since the beginning of 1970, in Greenwich. Through the year 2049
it is written with two digits of the year, from then on with four, up to the end of the year
9999.
-/

namespace SealedKeys

/-- A point in time: seconds since the beginning of 1970. -/
structure Time where
  seconds : Nat
  deriving DecidableEq, Repr

namespace Time

/-- The last second of the year 9999. -/
def last : Nat := 253402300799

/-- A day of the calendar. -/
structure Day where
  year : Nat
  month : Nat
  day : Nat
  deriving DecidableEq, Repr

/-- The day that a number of days after the beginning of 1970.

Years are counted from March, so that the leap day is the last of its year; an era is the four
hundred years after which the calendar repeats. -/
def dayOf (days : Nat) : Day :=
  let shifted := days + 719468
  let era := shifted / 146097
  let dayOfEra := shifted % 146097
  let yearOfEra :=
    (dayOfEra - dayOfEra / 1460 + dayOfEra / 36524 - dayOfEra / 146096) / 365
  let dayOfYear := dayOfEra - (365 * yearOfEra + yearOfEra / 4 - yearOfEra / 100)
  let monthFromMarch := (5 * dayOfYear + 2) / 153
  let month := if monthFromMarch < 10 then monthFromMarch + 3 else monthFromMarch - 9
  { year := 400 * era + yearOfEra + (if month ≤ 2 then 1 else 0)
    month := month
    day := dayOfYear - (153 * monthFromMarch + 2) / 5 + 1 }

/-- The day of a time. -/
def day (time : Time) : Day :=
  dayOf (time.seconds / 86400)

/-- The decimal digits of a number at a fixed width. -/
def decimal : (width value : Nat) → Bytes
  | 0, _ => []
  | width + 1, value => decimal width (value / 10) ++ [UInt8.ofNat (48 + value % 10)]

/-- Month, day, hour, minute and second of a time, two digits each, and the zone. -/
def withinYear (time : Time) : Bytes :=
  let rest := time.seconds % 86400
  decimal 2 time.day.month ++ decimal 2 time.day.day ++ decimal 2 (rest / 3600)
    ++ decimal 2 (rest / 60 % 60) ++ decimal 2 (rest % 60) ++ [90]

/-- Whether a time is written with two digits of the year. -/
def isShort (time : Time) : Bool :=
  decide (time.day.year ≤ 2049)

/-- A time as an element. -/
def element (time : Time) : Bytes :=
  if time.isShort then
    Der.element Der.Tag.utcTime (decimal 2 (time.day.year % 100) ++ time.withinYear)
  else
    Der.element Der.Tag.generalizedTime (decimal 4 time.day.year ++ time.withinYear)

/-- The name of the form in which a time is written. -/
def form (time : Time) : String :=
  if time.isShort then "UTCTime" else "GeneralizedTime"

/-- The time the given number of seconds after a start, unless the calendar ends before. -/
def after? (start : Time) (seconds : Nat) : Option Time :=
  if start.seconds + seconds ≤ last then some ⟨start.seconds + seconds⟩ else none

end Time

end SealedKeys
