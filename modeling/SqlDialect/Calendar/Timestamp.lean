import SqlDialect.Text.Basic

/-!
# Dates, timestamps and moments

Dates of the Gregorian calendar, extended backwards with a year zero, in the years -9999
to 9999: their neighbours, their shifts by days, and their day numbers.  A time of day to the
nanosecond; a timestamp, which is a date with a time of day; and a moment, which is a
timestamp with the offset from UTC at which it is shown.  A moment has a timestamp in UTC
unless the offset carries it out of the calendar, and two moments are the same when they
denote the same instant, whatever their offsets.  In SQL literals the year takes at least four
columns, of which the sign of a negative year is one; the fraction of a second is written only
when there is one, and without zeros at its end.
-/

namespace SqlDialect

/-! ## Dates -/

/-- A leap year is divisible by 4 and, when it is divisible by 100, by 400. -/
def isLeapYear (year : Int) : Bool :=
  year % 4 = 0 && (year % 100 ≠ 0 || year % 400 = 0)

/-- The number of days of a month, numbered from 1. -/
def monthLength (year : Int) (month : Nat) : Nat :=
  if month = 2 then if isLeapYear year then 29 else 28
  else if month = 4 ∨ month = 6 ∨ month = 9 ∨ month = 11 then 30
  else 31

/-- A date of the calendar. -/
structure Date where
  year : Int
  month : Nat
  day : Nat
  year_ge : -9999 ≤ year
  year_le : year ≤ 9999
  month_ge : 1 ≤ month
  month_le : month ≤ 12
  day_ge : 1 ≤ day
  day_le : day ≤ monthLength year month
deriving DecidableEq

namespace Date

/-- The date with the given year, month and day, when there is one. -/
def ofParts? (year : Int) (month day : Nat) : Option Date :=
  if h : (-9999 ≤ year ∧ year ≤ 9999) ∧ (1 ≤ month ∧ month ≤ 12)
      ∧ (1 ≤ day ∧ day ≤ monthLength year month) then
    some ⟨year, month, day, h.1.1, h.1.2, h.2.1.1, h.2.1.2, h.2.2.1, h.2.2.2⟩
  else none

/-- The day after, unless the calendar ends. -/
def next? (d : Date) : Option Date :=
  if d.day < monthLength d.year d.month then ofParts? d.year d.month (d.day + 1)
  else if d.month < 12 then ofParts? d.year (d.month + 1) 1
  else ofParts? (d.year + 1) 1 1

/-- The day before, unless the calendar begins. -/
def previous? (d : Date) : Option Date :=
  if 1 < d.day then ofParts? d.year d.month (d.day - 1)
  else if 1 < d.month then ofParts? d.year (d.month - 1) (monthLength d.year (d.month - 1))
  else ofParts? (d.year - 1) 12 31

/-- The date so many days later. -/
def later? : (days : Nat) → Date → Option Date
  | 0, d => some d
  | days + 1, d => d.next?.bind (later? days)

/-- The date so many days earlier. -/
def earlier? : (days : Nat) → Date → Option Date
  | 0, d => some d
  | days + 1, d => d.previous?.bind (earlier? days)

/-- The date so many days away, when it lies in the calendar. -/
def shift? (days : Int) (d : Date) : Option Date :=
  if 0 ≤ days then later? days.toNat d else earlier? (-days).toNat d

/-- The number of days in the years before the given one, counted from the start of year 1. -/
def daysBeforeYear (year : Int) : Int :=
  365 * (year - 1) + (year - 1) / 4 - (year - 1) / 100 + (year - 1) / 400

/-- The number of days in the months of a year before the given one. -/
def daysBeforeMonth (year : Int) : (month : Nat) → Nat
  | 0 => 0
  | 1 => 0
  | month + 2 => daysBeforeMonth year (month + 1) + monthLength year (month + 1)

/-- The number of the day, one greater than that of the day before. -/
def dayNumber (d : Date) : Int :=
  daysBeforeYear d.year + daysBeforeMonth d.year d.month + d.day

end Date

/-! ## Times -/

/-- A time of day. -/
structure Clock where
  hour : Fin 24
  minute : Fin 60
  second : Fin 60
  nanosecond : Fin 1000000000
deriving DecidableEq

namespace Clock

/-- The time of day with the given parts, when there is one. -/
def ofParts? (hour minute second nanosecond : Nat) : Option Clock :=
  if h : (hour < 24 ∧ minute < 60) ∧ (second < 60 ∧ nanosecond < 1000000000) then
    some ⟨⟨hour, h.1.1⟩, ⟨minute, h.1.2⟩, ⟨second, h.2.1⟩, ⟨nanosecond, h.2.2⟩⟩
  else none

/-- The whole seconds since midnight. -/
def secondOfDay (c : Clock) : Nat :=
  3600 * c.hour.val + 60 * c.minute.val + c.second.val

/-- The time of day so many whole seconds and nanoseconds after a midnight. -/
def ofSecond (seconds : Nat) (nanosecond : Fin 1000000000) : Clock where
  hour := ⟨seconds / 3600 % 24, Nat.mod_lt _ (by decide)⟩
  minute := ⟨seconds / 60 % 60, Nat.mod_lt _ (by decide)⟩
  second := ⟨seconds % 60, Nat.mod_lt _ (by decide)⟩
  nanosecond := nanosecond

end Clock

/-- A date with a time of day. -/
structure Timestamp where
  date : Date
  clock : Clock
deriving DecidableEq

/-- A timestamp with the offset from UTC, in seconds, at which it is shown. -/
structure Moment where
  wall : Timestamp
  offset : Int
  offset_ge : -93599 ≤ offset
  offset_le : offset ≤ 93599
deriving DecidableEq

namespace Moment

/-- The timestamp shown at the given offset, when the offset is within bounds. -/
def ofParts? (wall : Timestamp) (offset : Int) : Option Moment :=
  if h : -93599 ≤ offset ∧ offset ≤ 93599 then some ⟨wall, offset, h.1, h.2⟩ else none

/-- The seconds in UTC since the midnight that begins the date shown. -/
def utcSeconds (m : Moment) : Int :=
  m.wall.clock.secondOfDay - m.offset

/-- The timestamp in UTC, when it lies in the calendar. -/
def utc? (m : Moment) : Option Timestamp :=
  (m.wall.date.shift? (m.utcSeconds / 86400)).map fun date =>
    ⟨date, Clock.ofSecond (m.utcSeconds % 86400).toNat m.wall.clock.nanosecond⟩

/-- The instant denoted: whole seconds and nanoseconds on the time line of UTC. -/
def instant (m : Moment) : Int × Nat :=
  (86400 * m.wall.date.dayNumber + m.utcSeconds, m.wall.clock.nanosecond)

/-- Equality of instants, whatever the offsets. -/
def same (x y : Moment) : Bool :=
  x.instant = y.instant

end Moment

/-! ## Texts in literals -/

/-- The year in at least four columns, the sign included. -/
def yearText (year : Int) : String :=
  if year < 0 then "-" ++ Text.padded 3 year.natAbs else Text.padded 4 year.natAbs

/-- The date, as year, month and day. -/
def Date.text (d : Date) : String :=
  yearText d.year ++ "-" ++ Text.padded 2 d.month ++ "-" ++ Text.padded 2 d.day

/-- The time of day, as hour, minute, second and, when there is one, the fraction. -/
def Clock.text (c : Clock) : String :=
  let whole :=
    Text.padded 2 c.hour ++ ":" ++ Text.padded 2 c.minute ++ ":" ++ Text.padded 2 c.second
  if c.nanosecond.val = 0 then whole else whole ++ "." ++ Text.fraction 9 c.nanosecond

/-- The date and the time of day. -/
def Timestamp.text (t : Timestamp) : String :=
  t.date.text ++ " " ++ t.clock.text

end SqlDialect
