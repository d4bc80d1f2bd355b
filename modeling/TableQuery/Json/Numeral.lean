import TableQuery.Json.Reader

/-!
# Json/Numeral — numbers in JSON text

A number is whole digits without a leading zero, a fraction and a power of ten.  Whole numbers are
exact as long as 64 bits hold them.  Of any other number the digits are kept as long as 64 bits hold
*them*; that significand is rounded once, and once more when it is multiplied or divided by its
power of ten.
-/

namespace TableQuery.Json

open TableQuery.Number TableQuery.Text

/-- A number, as it counts in a JSON text. -/
inductive Numeral where
  | integer (n : Int)
  | float (x : Binary64)

namespace Numeral

/-- The value that a numeral is. -/
def toJson : Numeral → Json
  | .integer n => .integer n
  | .float x => .float x

/-- What a numeral counts as where no number was asked for. -/
def found : Numeral → Found
  | .integer n => .integer n
  | .float x => .float x

/-- Appends digits to a number as long as it stays within a limit; the others are left. -/
def takeDigits (limit : Nat) : Nat → List Char → Nat × List Char
  | n, [] => (n, [])
  | n, c :: cs =>
    let m := 10 * n + (c.toNat - '0'.toNat)
    if m ≤ limit then takeDigits limit m cs else (n, c :: cs)

/-- A power of ten, rounded. -/
def powerOfTen (n : Nat) : Binary64 := Binary64.ofRatio false (Nat.pow 10 n) 1

/-- A number times a power of ten, none beyond the range.  A power below `10 ^ -308` is divided out
in steps, until nothing is left of the number. -/
def scale : Nat → Binary64 → Int → Option Binary64
  | 0, x, _ => some x
  | steps + 1, x, e =>
    if e.natAbs ≤ 308 then
      let y := if 0 ≤ e then x.mul (powerOfTen e.natAbs) else x.div (powerOfTen e.natAbs)
      if y.isInfinite then none else some y
    else if x.magnitude = 0 then some x
    else if 0 ≤ e then none
    else scale steps (x.div (powerOfTen 308)) (e + 308)

/-- The floating point number of a significand and a power of ten. -/
def ofParts (negative : Bool) (significand : Nat) (e : Int) : Option Binary64 :=
  (scale 4 (Binary64.ofInt significand) e).map fun x => if negative then x.neg else x

/-- A whole number: exact, unless it is negative zero or too small for 64 bits. -/
def ofWhole (negative : Bool) (n : Nat) : Numeral :=
  if !negative then .integer n
  else if n = 0 ∨ maxSigned + 1 < n then .float (Binary64.ofInt n).neg
  else .integer (-n)

end Numeral

namespace Reader

open Numeral

/-- Takes the digits that come next. -/
def digits : Reader (List Char) := do
  let c ← get
  let (ds, rest) := spanDigits c.rest
  set (Cursor.mk rest ⟨c.place.line, c.place.column + ds.length⟩)
  return ds

/-- The number of the parts read so far, unless it is out of range. -/
def float (negative : Bool) (significand : Nat) (e : Int) : Reader Numeral :=
  match ofParts negative significand e with
  | some x => return .float x
  | none => failHere .numberOutOfRange

/-- The largest power of ten that is written out. -/
def maxExponent : Nat := Nat.pow 2 31 - 1

/-- Reads a power of ten behind its mark. -/
def exponentPart (negative : Bool) (significand : Nat) (e : Int) : Reader Numeral := do
  advance
  let sign ← peek
  if sign == some '+' || sign == some '-' then advance
  match ← peek with
  | none => failHere .eofInValue
  | some c =>
    if !c.isDigit then failNext .invalidNumber
    else
      let before ← get
      let ds ← digits
      let (n, left) := takeDigits maxExponent 0 ds
      if left.isEmpty then
        float negative significand (if sign == some '-' then e - n else e + n)
      else if significand ≠ 0 ∧ sign ≠ some '-' then
        let column := before.place.column + (ds.length - left.length) + 1
        throw ⟨.numberOutOfRange, some ⟨before.place.line, column⟩⟩
      else return .float (Binary64.zero negative)

/-- Whether a power of ten comes next. -/
def exponentFollows : Reader Bool := do
  let c ← peek
  return c == some 'e' || c == some 'E'

/-- Reads a fraction behind its point. -/
def fractionPart (negative : Bool) (significand : Nat) (e : Int) : Reader Numeral := do
  advance
  let ds ← digits
  if ds.isEmpty then
    match ← peek with
    | none => failNext .eofInValue
    | some _ => failNext .invalidNumber
  else
    let (significand, left) := takeDigits maxUnsigned significand ds
    let e := e - (ds.length - left.length : Nat)
    if ← exponentFollows then exponentPart negative significand e
    else float negative significand e

/-- Reads a number behind its sign. -/
def numeral (negative : Bool) : Reader Numeral := do
  match ← peek with
  | none => failHere .eofInValue
  | some c =>
    if !c.isDigit then failNext .invalidNumber
    else
      let ds ← wholePart c
      let (significand, left) := takeDigits maxUnsigned 0 ds
      let e : Int := left.length
      if (← peek) == some '.' then fractionPart negative significand e
      else if ← exponentFollows then exponentPart negative significand e
      else if left.isEmpty then return ofWhole negative significand
      else float negative significand e
where
  /-- The digits in front of the point; a zero must be the only one. -/
  wholePart (first : Char) : Reader (List Char) := do
    if first == '0' then
      advance
      match ← peek with
      | some d => if d.isDigit then failNext .invalidNumber else return ['0']
      | none => return ['0']
    else digits

end Reader

end TableQuery.Json
