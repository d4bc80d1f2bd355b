import TableQuery.Number.Binary64
import TableQuery.Text.Characters

/-!
# Number/Shortest — the fewest digits that name a floating point number

The decimals that round to one number form an interval around it, closed exactly if the significand
is even.  Its shortest decimal is found grid by grid: for one digit, then two, and so on, the two
neighbours of the number on that grid are tested, and the nearer of those inside wins.  Where both
are equally near, the place where the number is written decides.
-/

namespace TableQuery.Number

open TableQuery.Text

/-- Decimal digits with the position of the point: the value is `0.digits * 10 ^ point`. -/
structure Digits where
  digits : List Char
  point : Int
  deriving DecidableEq

/-- Which of two equally near decimals is taken. -/
inductive Tie where
  | up
  | even
  deriving DecidableEq

/-- Whether the lower of two neighbours is nearer, or taken in a tie; `below` in `den` parts is the
distance to it. -/
def Tie.takesLower (tie : Tie) (d below den : Nat) : Bool :=
  2 * below < den || (2 * below == den && tie == .even && d % 2 == 0)

/-- A finite positive number in quarters of its last place, with the ends of its interval. -/
structure Interval where
  /-- The power of two that a quarter stands for. -/
  unit : Int
  value : Nat
  low : Nat
  high : Nat
  /-- Whether the ends belong to the interval. -/
  closed : Bool

/-- The decimals that round to a number.  Below a power of two the spacing halves, so there the
lower end is nearer. -/
def Interval.of (x : Binary64) : Interval :=
  let m := x.significand
  let narrow := m = Nat.pow 2 52 ∧ Nat.pow 2 53 ≤ x.magnitude
  { unit := x.exponent - 2
    value := 4 * m
    low := if narrow then 4 * m - 1 else 4 * m - 2
    high := 4 * m + 2
    closed := m % 2 = 0 }

namespace Interval

/-- Numerator and denominator by which a count of units becomes a count of `10 ^ e`. -/
def scale (i : Interval) (e : Int) : Nat × Nat :=
  (Nat.pow 2 i.unit.toNat * Nat.pow 10 (-e).toNat,
    Nat.pow 2 (-i.unit).toNat * Nat.pow 10 e.toNat)

/-- Whether `10 ^ e` is at most the value. -/
def reaches (i : Interval) (e : Int) : Bool :=
  let (num, den) := i.scale e
  den ≤ i.value * num

/-- The position of the point: the value lies in `[10 ^ (p - 1), 10 ^ p)`.  The logarithm is
estimated from the number of bits, and off by one at most. -/
def point (i : Interval) : Int :=
  let guess := (i.unit + i.value.log2) * 30103 / 100000
  if i.reaches (guess + 1) then guess + 2
  else if i.reaches guess then guess + 1
  else guess

/-- Whether `d * 10 ^ e` rounds to the number. -/
def holds (i : Interval) (d : Nat) (e : Int) : Bool :=
  let (num, den) := i.scale e
  if i.closed then i.low * num ≤ d * den && d * den ≤ i.high * num
  else i.low * num < d * den && d * den < i.high * num

/-- The neighbour of the value on the grid of `10 ^ e` that rounds to the number, the nearer one if
both do. -/
def neighbour? (i : Interval) (tie : Tie) (e : Int) : Option Nat :=
  let (num, den) := i.scale e
  let d := i.value * num / den
  let below := i.value * num - d * den
  match i.holds d e && d != 0, i.holds (d + 1) e with
  | true, true => some (if tie.takesLower d below den then d else d + 1)
  | true, false => some d
  | false, true => some (d + 1)
  | false, false => none

/-- The first grid with a hit, from `n` digits on, trying at most `tries` grids. -/
def search (i : Interval) (tie : Tie) (p : Int) : Nat → Nat → Nat × Int
  | 0, n => (0, p - n)
  | tries + 1, n =>
    match i.neighbour? tie (p - n) with
    | some d => (d, p - n)
    | none => search i tie p tries (n + 1)

end Interval

/-- Digits without the zeros behind them. -/
def dropTrailingZeros (ds : List Char) : List Char := (ds.reverse.dropWhile (· == '0')).reverse

/-- The fewest digits that name a finite number.  Seventeen always suffice. -/
def Binary64.shortest (x : Binary64) (tie : Tie) : Digits :=
  if x.magnitude = 0 then ⟨['0'], 1⟩
  else
    let i := Interval.of x
    let (d, e) := i.search tie i.point 17 1
    let ds := decimal d
    ⟨dropTrailingZeros ds, ds.length + e⟩

end TableQuery.Number
