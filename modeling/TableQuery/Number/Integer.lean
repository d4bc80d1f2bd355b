import TableQuery.Text.Characters

/-!
# Number/Integer — whole numbers of a fixed range, read from text

A number is an optional sign and decimal digits, nothing else.  The digits are taken from the left,
so a text that leaves the range before its first bad character is too large, not malformed.
-/

namespace TableQuery.Number

open TableQuery.Text

/-- Why a text is no number of the range. -/
inductive IntegerError where
  | empty
  | invalidDigit
  | tooLarge
  deriving DecidableEq, Repr

/-- The words for each cause. -/
def IntegerError.message : IntegerError → String
  | .empty => "cannot parse integer from empty string"
  | .invalidDigit => "invalid digit found in string"
  | .tooLarge => "number too large to fit in target type"

/-- The largest number that fits into 64 bits. -/
def maxUnsigned : Nat := Nat.pow 2 64 - 1

/-- The largest number that fits into 64 bits with a sign. -/
def maxSigned : Nat := Nat.pow 2 63 - 1

/-- The number that starts with the digits of `acc`, as long as it stays within `limit`. -/
def readDigits (limit acc : Nat) : List Char → Except IntegerError Nat
  | [] => .ok acc
  | c :: cs =>
    match digitValue? c with
    | none => .error .invalidDigit
    | some d =>
      if 10 * acc + d ≤ limit then readDigits limit (10 * acc + d) cs else .error .tooLarge

/-- Digits that must be there. -/
def readMagnitude (limit : Nat) : List Char → Except IntegerError Nat
  | [] => .error .invalidDigit
  | cs => readDigits limit 0 cs

/-- Reads a number from 0 to 2^64 - 1; a plus sign may stand in front. -/
def readUnsigned (s : String) : Except IntegerError Nat :=
  match s.toList with
  | [] => .error .empty
  | '+' :: cs => readMagnitude maxUnsigned cs
  | cs => readMagnitude maxUnsigned cs

/-- Reads a number from -2^63 to 2^63 - 1; a sign may stand in front. -/
def readSigned (s : String) : Except IntegerError Int :=
  match s.toList with
  | [] => .error .empty
  | '+' :: cs => (readMagnitude maxSigned cs).map Int.ofNat
  | '-' :: cs => (readMagnitude (maxSigned + 1) cs).map fun n => -Int.ofNat n
  | cs => (readMagnitude maxSigned cs).map Int.ofNat

/-- The decimal text of a whole number. -/
def integerText (n : Int) : String :=
  String.ofList (if n < 0 then '-' :: decimal n.natAbs else decimal n.natAbs)

/-- The decimal text of a natural number. -/
def naturalText (n : Nat) : String := String.ofList (decimal n)

end TableQuery.Number
