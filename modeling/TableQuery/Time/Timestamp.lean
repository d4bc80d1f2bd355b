import TableQuery.Text.Characters
import TableQuery.Time.Date

/-!
# Time/Timestamp — points of time in UTC

A point of time is a count of seconds since the beginning of 1970 and of nanoseconds within that
second.  A leap second has no number of its own: it is the second before it with a thousand million
nanoseconds or more, and it is written as second 60.
-/

namespace TableQuery.Time

open TableQuery.Text

/-- A point of time. -/
structure Timestamp where
  seconds : Int
  nanos : Nat
  deriving DecidableEq, Repr

/-- The nanoseconds of a second. -/
def nanosPerSecond : Nat := 1000000000

namespace Timestamp

/-- Earlier or later: by seconds first, then by nanoseconds. -/
def order (a b : Timestamp) : Ordering :=
  (compare a.seconds b.seconds).then (compare a.nanos b.nanos)

/-- The beginning of a day. -/
def midnight (d : Date) : Timestamp := ⟨d.dayNumber * 86400, 0⟩

/-- The day a point of time belongs to. -/
def date (t : Timestamp) : Date := Date.ofDayNumber (t.seconds / 86400)

/-- The seconds since midnight. -/
def secondOfDay (t : Timestamp) : Nat := (t.seconds % 86400).toNat

/-- Nanoseconds within the second that is written. -/
def subsecond (t : Timestamp) : Nat := t.nanos % nanosPerSecond

/-! ## Writing -/

/-- Four digits; years before 0 or after 9999 have a sign as well. -/
def yearText (year : Int) : List Char :=
  let digits := paddedDecimal 4 year.natAbs
  if year < 0 then '-' :: digits else if 9999 < year then '+' :: digits else digits

/-- Year, month and day. -/
def dateText (t : Timestamp) : List Char :=
  let d := t.date
  yearText d.year ++ '-' :: paddedDecimal 2 d.month ++ '-' :: paddedDecimal 2 d.day

/-- Hour, minute and second; a leap second is second 60. -/
def clockText (t : Timestamp) : List Char :=
  let s := t.secondOfDay
  paddedDecimal 2 (s / 3600) ++ ':' :: paddedDecimal 2 (s / 60 % 60) ++
    ':' :: paddedDecimal 2 (s % 60 + t.nanos / nanosPerSecond)

/-- The part of a second, in as many groups of three digits as it needs. -/
def fractionText (t : Timestamp) : List Char :=
  let n := t.subsecond
  if n = 0 then []
  else if n % 1000000 = 0 then '.' :: paddedDecimal 3 (n / 1000000)
  else if n % 1000 = 0 then '.' :: paddedDecimal 6 (n / 1000)
  else '.' :: paddedDecimal 9 n

/-- Date, `T`, time and a mark for UTC. -/
def textWith (t : Timestamp) (utc : String) : String :=
  String.ofList (t.dateText ++ 'T' :: t.clockText ++ t.fractionText ++ utc.toList)

/-- The usual text, with UTC as an offset: `2000-01-01T00:00:00+00:00`. -/
def text (t : Timestamp) : String := t.textWith "+00:00"

/-- The text with UTC as a letter: `2000-01-01T00:00:00Z`. -/
def zuluText (t : Timestamp) : String := t.textWith "Z"

/-- The text with a space between date and time and always six digits of the second, cut off. -/
def spacedText (t : Timestamp) : String :=
  String.ofList (t.dateText ++ ' ' :: t.clockText ++ '.' :: paddedDecimal 6 (t.subsecond / 1000) ++
    " +00:00".toList)

end Timestamp

end TableQuery.Time
