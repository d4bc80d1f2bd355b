import TableQuery.Number.Binary64
import TableQuery.Text.Characters

/-!
# Number/Decimal — floating point numbers read from decimal text

A text is a sign, digits with a point among them, and a power of ten; or the word for infinity or
for not a number.  The result is the number nearest to the decimal, infinity beyond the last one.
-/

namespace TableQuery.Number

open TableQuery.Text

namespace Binary64

/-- The number nearest to `digits * 10 ^ exponent`.  Decimals far outside the range are answered
without computing their power of ten. -/
def ofDecimal (negative : Bool) (digits : Nat) (exponent : Int) : Binary64 :=
  let top : Int := (decimal digits).length + exponent
  if digits = 0 ∨ top < -400 then zero negative
  else if 400 < top then infinity negative
  else ofRatio negative (digits * Nat.pow 10 exponent.toNat) (Nat.pow 10 (-exponent).toNat)

/-- A power of ten written behind a mark: a sign and at least one digit. -/
def readExponent : List Char → Option Int
  | '+' :: cs => unsigned cs
  | '-' :: cs => (unsigned cs).map (- ·)
  | cs => unsigned cs
where
  /-- Digits to the end of the text. -/
  unsigned (cs : List Char) : Option Int :=
    if !cs.isEmpty && cs.all Char.isDigit then some (decimalValue cs) else none

/-- Digits with an optional point, then an optional power of ten. -/
def readUnsignedDecimal (negative : Bool) (cs : List Char) : Option Binary64 :=
  let (whole, rest) := spanDigits cs
  let (fraction, rest) := match rest with
    | '.' :: rest => spanDigits rest
    | _ => ([], rest)
  let digits := whole ++ fraction
  let shift : Int := -fraction.length
  if digits.isEmpty then none
  else match rest with
    | [] => some (ofDecimal negative (decimalValue digits) shift)
    | c :: rest =>
      if c == 'e' || c == 'E' then
        (readExponent rest).map fun e => ofDecimal negative (decimalValue digits) (shift + e)
      else none

/-- The words that stand for no finite number. -/
def readWord (negative : Bool) (cs : List Char) : Option Binary64 :=
  let word := String.ofList cs
  if eqIgnoreCase word "inf" || eqIgnoreCase word "infinity" then some (infinity negative)
  else if eqIgnoreCase word "nan" then some { nan with negative }
  else none

/-- Reads a decimal with an optional sign. -/
def read (s : String) : Option Binary64 :=
  let (negative, cs) := match s.toList with
    | '-' :: cs => (true, cs)
    | '+' :: cs => (false, cs)
    | cs => (false, cs)
  (readUnsignedDecimal negative cs).orElse fun _ => readWord negative cs

end Binary64

end TableQuery.Number
