import TableQuery.Text.Characters
import TableQuery.Time.Timestamp

/-!
# Time/Reading — points of time read from text

Two forms are read.  A full timestamp has fixed widths throughout and ends in its offset from UTC.
A date alone stands for its midnight in UTC; its numbers may be shorter, may follow white space, and
a year with a sign may be longer.
-/

namespace TableQuery.Time

open TableQuery.Text

/-- The rest of a text behind a character that must come first. -/
def expectChar (c : Char) : List Char → Option (List Char)
  | d :: rest => if d = c then some rest else none
  | [] => none

/-- Exactly `n` digits. -/
def fixedDigits (n : Nat) (cs : List Char) : Option (Nat × List Char) :=
  let ds := cs.take n
  if ds.length = n ∧ ds.all Char.isDigit then some (decimalValue ds, cs.drop n) else none

/-- Between one digit and `n`, as many as there are. -/
def upToDigits (n : Nat) (cs : List Char) : Option (Nat × List Char) :=
  let ds := (cs.take n).takeWhile Char.isDigit
  if ds.isEmpty then none else some (decimalValue ds, cs.drop ds.length)

/-! ## Timestamps -/

/-- Hour, minute and second.  Second 60 is a leap second: the one before it, made longer. -/
def readClock (cs : List Char) : Option ((Nat × Nat) × List Char) := do
  let (hour, cs) ← fixedDigits 2 cs
  let cs ← expectChar ':' cs
  let (minute, cs) ← fixedDigits 2 cs
  let cs ← expectChar ':' cs
  let (second, cs) ← fixedDigits 2 cs
  if hour < 24 ∧ minute < 60 ∧ second ≤ 60 then
    let base := hour * 3600 + minute * 60
    some (if second = 60 then (base + 59, nanosPerSecond) else (base + second, 0), cs)
  else none

/-- The part of a second behind a point, digits past the ninth without effect. -/
def readFraction : List Char → Option (Nat × List Char)
  | '.' :: cs =>
    let (ds, rest) := spanDigits cs
    if ds.isEmpty then none
    else
      let kept := ds.take 9
      some (decimalValue kept * Nat.pow 10 (9 - kept.length), rest)
  | cs => some (0, cs)

/-- Hours and minutes of an offset, in seconds. -/
def readOffsetBody (cs : List Char) : Option (Nat × List Char) := do
  let (hour, cs) ← fixedDigits 2 cs
  let cs ← expectChar ':' cs
  let (minute, cs) ← fixedDigits 2 cs
  if hour < 24 ∧ minute < 60 then some (hour * 3600 + minute * 60, cs) else none

/-- The offset from UTC in seconds; the minus sign of mathematics will do as well. -/
def readOffset : List Char → Option (Int × List Char)
  | 'Z' :: cs => some (0, cs)
  | 'z' :: cs => some (0, cs)
  | '+' :: cs => (readOffsetBody cs).map fun (n, rest) => ((n : Int), rest)
  | '-' :: cs => (readOffsetBody cs).map fun (n, rest) => (-(n : Int), rest)
  | '−' :: cs => (readOffsetBody cs).map fun (n, rest) => (-(n : Int), rest)
  | _ => none

/-- The letter or the space between date and time. -/
def readSeparator : List Char → Option (List Char)
  | 'T' :: cs => some cs
  | 't' :: cs => some cs
  | ' ' :: cs => some cs
  | _ => none

/-- Reads a full timestamp. -/
def readTimestamp (cs : List Char) : Option Timestamp := do
  let (year, cs) ← fixedDigits 4 cs
  let cs ← expectChar '-' cs
  let (month, cs) ← fixedDigits 2 cs
  let cs ← expectChar '-' cs
  let (day, cs) ← fixedDigits 2 cs
  let cs ← readSeparator cs
  let ((second, leap), cs) ← readClock cs
  let (fraction, cs) ← readFraction cs
  let (offset, cs) ← readOffset cs
  let date ← Date.of? year month day
  if cs.isEmpty then some ⟨date.dayNumber * 86400 + second - offset, leap + fraction⟩ else none

/-! ## Dates -/

/-- A year of up to four digits, or a sign and any number of digits. -/
def readYear : List Char → Option (Int × List Char)
  | '-' :: cs => (upToDigits cs.length cs).map fun (n, rest) => (-(n : Int), rest)
  | '+' :: cs => (upToDigits cs.length cs).map fun (n, rest) => ((n : Int), rest)
  | cs => (upToDigits 4 cs).map fun (n, rest) => ((n : Int), rest)

/-- Reads a date. -/
def readDate (cs : List Char) : Option Date := do
  let (year, cs) ← readYear (trimStart cs)
  let cs ← expectChar '-' cs
  let (month, cs) ← upToDigits 2 (trimStart cs)
  let cs ← expectChar '-' cs
  let (day, cs) ← upToDigits 2 (trimStart cs)
  if cs.isEmpty then Date.of? year month day else none

/-- Reads a timestamp, or a date as its midnight. -/
def Timestamp.read (s : String) : Option Timestamp :=
  (readTimestamp s.toList).orElse fun _ => (readDate s.toList).map Timestamp.midnight

end TableQuery.Time
