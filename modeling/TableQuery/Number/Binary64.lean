/-!
# Number/Binary64 — floating point numbers, by their encoding

A number is a sign and the 63 bits below it, read as a natural number: the **magnitude**.  The
encoding is made so that a larger magnitude is a larger absolute value, infinity is the magnitude
`2047 * 2 ^ 52`, and what lies above is not a number.  Hence comparing two numbers is comparing two
integers (`key`), and rounding a quotient is finding the nearest magnitude.
-/

namespace TableQuery.Number

/-- A binary floating point number of 64 bits. -/
structure Binary64 where
  negative : Bool
  magnitude : Nat
  magnitude_lt : magnitude < Nat.pow 2 63
  deriving DecidableEq

namespace Binary64

/-- The magnitude of infinity. -/
def infinite : Nat := 2047 * Nat.pow 2 52

/-- A magnitude with a sign; whatever lies beyond infinity becomes infinity. -/
def ofMagnitude (negative : Bool) (magnitude : Nat) : Binary64 :=
  ⟨negative, min magnitude infinite, Nat.lt_of_le_of_lt (Nat.min_le_right _ _) (by decide)⟩

/-- Zero with a sign. -/
def zero (negative : Bool) : Binary64 := ofMagnitude negative 0

/-- Infinity with a sign. -/
def infinity (negative : Bool) : Binary64 := ofMagnitude negative infinite

/-- Not a number. -/
def nan : Binary64 := ⟨false, infinite + Nat.pow 2 51, by decide⟩

/-- Whether the encoding stands for no number. -/
def isNaN (x : Binary64) : Bool := infinite < x.magnitude

/-- Whether the encoding stands for an infinity. -/
def isInfinite (x : Binary64) : Bool := x.magnitude = infinite

/-- Whether the encoding stands for a number. -/
def isFinite (x : Binary64) : Bool := x.magnitude < infinite

/-- The number with its sign changed. -/
def neg (x : Binary64) : Binary64 := { x with negative := !x.negative }

/-- The 64 bits of the encoding. -/
def bits (x : Binary64) : Nat := (if x.negative then Nat.pow 2 63 else 0) + x.magnitude

/-! ## The value

A finite number is `significand * 2 ^ exponent`.  The lowest exponent is shared by the numbers whose
significand has fewer than 53 bits. -/

/-- The whole number in front of the power of two. -/
def significand (x : Binary64) : Nat :=
  if x.magnitude < Nat.pow 2 52 then x.magnitude else Nat.pow 2 52 + x.magnitude % Nat.pow 2 52

/-- The power of two. -/
def exponent (x : Binary64) : Int :=
  if x.magnitude < Nat.pow 2 52 then -1074 else (x.magnitude / Nat.pow 2 52 : Nat) - 1075

/-- The numerator of the absolute value. -/
def numerator (x : Binary64) : Nat := x.significand * Nat.pow 2 x.exponent.toNat

/-- The denominator of the absolute value, a power of two. -/
def denominator (x : Binary64) : Nat := Nat.pow 2 (-x.exponent).toNat

/-! ## Rounding -/

/-- The whole number nearest to a quotient; a tie goes to the even one. -/
def roundHalfEven (num den : Nat) : Nat :=
  let q := num / den
  let r := num % den
  if 2 * r < den then q
  else if den < 2 * r then q + 1
  else if q % 2 = 0 then q else q + 1

/-- The exponent at which a positive quotient has a significand of 53 bits, or the lowest one. -/
def exponentOf (num den : Nat) : Int :=
  let guess : Int := (num.log2 : Int) - den.log2 - 53
  let reaches := den * Nat.pow 2 (guess + 53).toNat ≤ num * Nat.pow 2 (-(guess + 53)).toNat
  max (-1074) (if reaches then guess + 1 else guess)

/-- The magnitude nearest to a quotient.  A significand that is rounded up to the next power of two
carries into the exponent by itself. -/
def nearest (num den : Nat) : Nat :=
  if num = 0 then 0
  else
    let q := exponentOf num den
    (q + 1074).toNat * Nat.pow 2 52 +
      roundHalfEven (num * Nat.pow 2 (-q).toNat) (den * Nat.pow 2 q.toNat)

/-- The number nearest to a quotient. -/
def ofRatio (negative : Bool) (num den : Nat) : Binary64 := ofMagnitude negative (nearest num den)

/-- The number nearest to a whole number. -/
def ofInt (n : Int) : Binary64 := ofRatio (n < 0) n.natAbs 1

/-- The product of two finite numbers. -/
def mul (x y : Binary64) : Binary64 :=
  ofRatio (x.negative != y.negative) (x.numerator * y.numerator) (x.denominator * y.denominator)

/-- The quotient of two finite numbers, the second of them not zero. -/
def div (x y : Binary64) : Binary64 :=
  ofRatio (x.negative != y.negative) (x.numerator * y.denominator) (x.denominator * y.numerator)

/-! ## Comparison -/

/-- The integer that orders the numbers; the two zeros share one. -/
def key (x : Binary64) : Int := if x.negative then -(x.magnitude : Int) else x.magnitude

/-- The order of two numbers, none if one of them is not a number. -/
def compare? (x y : Binary64) : Option Ordering :=
  if x.isNaN || y.isNaN then none else some (compare x.key y.key)

end Binary64

end TableQuery.Number
