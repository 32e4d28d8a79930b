import CompactSchema.Text.Digits

/-!
Contract: dates of the proleptic Gregorian calendar, times of day and
timestamps, with and without an offset from universal time.

The nanoseconds of a leap second reach past one second, and it is written as the
second after the one that it has: as second 60 at the end of a minute. A timestamp
with an offset keeps the local date and time; two of them are equal if they name
the same instant.

Owns: the types with their validity, the instant of a timestamp with an offset,
and all their texts.

Does not own: time zone rules, parsing.
-/

set_option autoImplicit false

namespace CompactSchema

/-! ## Dates -/

namespace Calendar

def isLeapYear (year : Int) : Bool :=
  year % 4 == 0 && (year % 100 != 0 || year % 400 == 0)

/-- Number of days in a month. -/
def monthLength (year : Int) (month : Nat) : Nat :=
  if month = 2 then (if isLeapYear year then 29 else 28)
  else if month = 4 ∨ month = 6 ∨ month = 9 ∨ month = 11 then 30
  else 31

/-- The dates that can be represented. -/
def ValidDate (year : Int) (month day : Nat) : Prop :=
  (-262143 ≤ year ∧ year ≤ 262142) ∧ (1 ≤ month ∧ month ≤ 12)
    ∧ 1 ≤ day ∧ day ≤ monthLength year month

instance (year : Int) (month day : Nat) : Decidable (ValidDate year month day) := by
  unfold ValidDate
  infer_instance

/-- The times that can be represented. Every second can be a leap second. -/
def ValidTime (hour minute second nanosecond : Nat) : Prop :=
  hour < 24 ∧ minute < 60 ∧ second < 60 ∧ nanosecond < 2000000000

instance (hour minute second nanosecond : Nat) :
    Decidable (ValidTime hour minute second nanosecond) := by
  unfold ValidTime
  infer_instance

/-- A year with four digits, or with a sign if it has not exactly four. -/
def yearText (year : Int) : String :=
  if year < 0 then "-" ++ Text.padded 4 year.natAbs
  else if year ≤ 9999 then Text.padded 4 year.natAbs
  else "+" ++ Text.padded 4 year.natAbs

/-- The fewest of 0, 3, 6 and 9 fraction digits that are exact. -/
def fractionText (nanosecond : Nat) : String :=
  if nanosecond = 0 then ""
  else if nanosecond % 1000000 = 0 then "." ++ Text.padded 3 (nanosecond / 1000000)
  else if nanosecond % 1000 = 0 then "." ++ Text.padded 6 (nanosecond / 1000)
  else "." ++ Text.padded 9 nanosecond

/-- Number of days from 1 March of the year 0 to a date. -/
def dayNumber (year : Int) (month day : Nat) : Int :=
  let marchYear := if month ≤ 2 then year - 1 else year
  let marchMonth : Int := (month + 9) % 12
  365 * marchYear + marchYear / 4 - marchYear / 100 + marchYear / 400
    + (153 * marchMonth + 2) / 5 + day - 1

end Calendar

structure Date where
  year : Int
  month : Nat
  day : Nat
  valid : Calendar.ValidDate year month day
deriving DecidableEq, Repr

/-- Year, month and day with hyphens. -/
def Date.text (date : Date) : String :=
  Calendar.yearText date.year ++ "-" ++ Text.padded 2 date.month ++ "-" ++ Text.padded 2 date.day

/-! ## Times of day -/

structure TimeOfDay where
  hour : Nat
  minute : Nat
  second : Nat
  nanosecond : Nat
  valid : Calendar.ValidTime hour minute second nanosecond
deriving DecidableEq, Repr

/-- Hours, minutes and seconds with colons, then the fraction. -/
def TimeOfDay.text (time : TimeOfDay) : String :=
  let leap := time.nanosecond / 1000000000
  Text.padded 2 time.hour ++ ":" ++ Text.padded 2 time.minute ++ ":"
    ++ Text.padded 2 (time.second + leap)
    ++ Calendar.fractionText (time.nanosecond - leap * 1000000000)

/-! ## Timestamps -/

structure Timestamp where
  date : Date
  time : TimeOfDay
deriving DecidableEq, Repr

/-- Date and time joined by a T. -/
def Timestamp.text (timestamp : Timestamp) : String :=
  timestamp.date.text ++ "T" ++ timestamp.time.text

/-- A local date and time with its offset in seconds, east positive. -/
structure ZonedTimestamp where
  localTime : Timestamp
  offset : Int
  offset_lt : offset.natAbs < 86400
deriving DecidableEq, Repr

namespace ZonedTimestamp

/-- The instant as whole seconds on the time scale of the offset zero, and
nanoseconds, which reach past one second in a leap second. -/
def instant (timestamp : ZonedTimestamp) : Int × Nat :=
  let date := timestamp.localTime.date
  let time := timestamp.localTime.time
  (Calendar.dayNumber date.year date.month date.day * 86400
      + (time.hour * 3600 + time.minute * 60 + time.second : Nat) - timestamp.offset,
    time.nanosecond)

/-- The same instant, whatever the offsets. -/
def same (first second : ZonedTimestamp) : Bool := first.instant == second.instant

def signText (offset : Int) : String := if offset < 0 then "-" else "+"

/-- An offset to the nearest minute, a half minute away from zero. -/
def minuteOffsetText (offset : Int) : String :=
  let minutes := (offset.natAbs + 30) / 60
  signText offset ++ Text.padded 2 (minutes / 60) ++ ":" ++ Text.padded 2 (minutes % 60)

/-- An offset to the second, the seconds only if there are any. -/
def exactOffsetText (offset : Int) : String :=
  let seconds := offset.natAbs
  signText offset ++ Text.padded 2 (seconds / 3600) ++ ":" ++ Text.padded 2 (seconds / 60 % 60)
    ++ (if seconds % 60 = 0 then "" else ":" ++ Text.padded 2 (seconds % 60))

/-- The standard interchange form; the offset is given to the minute. -/
def text (timestamp : ZonedTimestamp) : String :=
  timestamp.localTime.text ++ minuteOffsetText timestamp.offset

/-- The developer-facing form; the offset is exact. -/
def inspect (timestamp : ZonedTimestamp) : String :=
  timestamp.localTime.text ++ exactOffsetText timestamp.offset

end ZonedTimestamp

end CompactSchema
